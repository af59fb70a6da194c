/-
What a step records.

The state file, the store, the log, the clock and the liveness record change in
few ways.  Each step makes one of them, so that invariants about these fields
are proved over seven cases.
-/

import NoxIngestor.Reachability

namespace NoxIngestor

structure Ledger where
  file : Option PersistedState
  stateStore : StateStore
  trace : List (Nat × Event)
  past : List TransactionMessage
  startBlock : Nat
  clock : Nat
  liveness : IngestionLiveness

def State.ledger (s : State) : Ledger :=
  { file := s.file
    stateStore := s.stateStore
    trace := s.trace
    past := s.past
    startBlock := s.startBlock
    clock := s.clock
    liveness := s.liveness }

def Label.persists : Label → Bool
  | .persisted success => success
  | _ => false

def Label.passesTime : Label → Bool
  | .elapse _millis => true
  | _ => false

/-- Neither an update of the cursor nor anything `record_success` is called for. -/
def Event.quiet : Event → Bool
  | .handed _message => true
  | .acked _message => true
  | .advanced _endBlock => true
  | _ => false

/-- What `record_success` is called for within a session. -/
def Event.success : Event → Bool
  | .fetched _endBlock => true
  | .caughtUp => true
  | _ => false

/-- The process still has to deliver the message. -/
def State.InPlay (s : State) (message : TransactionMessage) : Prop :=
  s.task ≠ .down ∧ (message ∈ s.held ∨
    ∃ batch remaining, s.task.batch = some (batch, remaining) ∧ message ∈ remaining)

namespace State.InPlay

variable {s : State} {message : TransactionMessage}

theorem of_buffer {later : List TransactionMessage} (up : s.task ≠ .down)
    (buffered : s.publisher.buffer.buffer = message :: later) : s.InPlay message := by
  refine ⟨up, .inl ?_⟩
  exact List.mem_append_right _ (buffered ▸ List.mem_cons_self)

theorem of_flush {caller : FlushCaller} {sent : TransactionMessage} {request : Nat}
    {later : List TransactionMessage} (here : s.task = .flush caller sent request later)
    (member : message ∈ later) : s.InPlay message := by
  refine ⟨here ▸ nofun, .inl (List.mem_append_left _ ?_)⟩
  rw [here]
  exact List.mem_cons_of_mem sent member

theorem of_publishing {latest : Nat} {batch : BatchResult} {later : List TransactionMessage}
    (here : s.task = .select (.publishing latest batch (message :: later))) :
    s.InPlay message :=
  ⟨here ▸ nofun, .inr ⟨_, _, congrArg Task.batch here, List.mem_cons_self⟩⟩

end State.InPlay

/-- Events a step may log on the side: what is handed over was in play. -/
structure Quiet (s : State) (events : List Event) : Prop where
  quiet : ∀ event ∈ events, event.quiet = true
  handed : ∀ message, .handed message ∈ events → s.InPlay message

def State.stamped (s : State) (events : List Event) : List (Nat × Event) :=
  events.map fun event => (s.clock, event)

/-- Why the cursor may be updated: nothing waits, and the block is the one before
`next_block` or the last of a batch that has been worked off. -/
inductive UpdateReason (s after : State) (block : Nat) : Prop
  | settled (nothing : after.held = []) (up : after.task ≠ .down)
      (positive : 0 < after.nextBlock) (same : block = after.nextBlock - 1)
  | workedOff (latest : Nat) (batch : BatchResult)
      (here : s.task = .select (.publishing latest batch []))
      (nothing : s.publisher.buffer.buffer = []) (same : block = batch.endBlock)

inductive LedgerStep (deployment : Deployment) (s : State) (label : Label) (after : State) :
    Prop
  | unchanged (same : after.ledger = s.ledger)
  | elapsed (millis : Nat) (labelled : label = .elapse millis)
      (same : after.ledger = { s.ledger with clock := s.clock + millis })
  | logged (events : List Event) (quiet : Quiet s events)
      (same : after.ledger = { s.ledger with trace := s.stamped events ++ s.trace })
  | succeeded (event : Event) (success : event.success = true)
      (same : after.ledger = { s.ledger with
        trace := (s.clock, event) :: s.trace
        liveness := s.liveness.recordSuccess s.clock })
  | updated (events : List Event) (quiet : Quiet s events) (block : Nat)
      (reason : UpdateReason s after block)
      (same : after.ledger = { s.ledger with
        trace := (s.clock, .updated block) :: (s.stamped events ++ s.trace)
        stateStore := s.stateStore.update block })
  | written (persists : label.persists = true)
      (same : after.ledger = { s.ledger with
        file := some (s.stateStore.persistedState s.clock) })
  | restarted (readable : Bool) (store : StateStore) (startBlock : Nat)
      (stallThreshold : Duration)
      (loaded : StateStore.load (s.fileContent readable) deployment.config.chainId
        deployment.config.initialBlock = .ok store)
      (determined : store.determineStartBlock = .ok startBlock)
      (next : after.nextBlock = startBlock)
      (same : after.ledger =
        { file := s.file
          stateStore := store
          trace := [(s.clock, .started startBlock)]
          past := s.delivered
          startBlock := startBlock
          clock := s.clock
          liveness := IngestionLiveness.new s.clock stallThreshold })

namespace Quiet

variable {s : State}

theorem none : Quiet s [] :=
  ⟨fun _event member => absurd member List.not_mem_nil,
    fun _message member => absurd member List.not_mem_nil⟩

theorem acked (message : TransactionMessage) : Quiet s [.acked message] := by
  constructor
  · intro event member
    rw [List.mem_singleton.mp member]
    rfl
  · intro other member
    cases List.mem_singleton.mp member

theorem advanced (endBlock : Nat) : Quiet s [.advanced endBlock] := by
  constructor
  · intro event member
    rw [List.mem_singleton.mp member]
    rfl
  · intro other member
    cases List.mem_singleton.mp member

theorem handing {message : TransactionMessage} (inPlay : s.InPlay message) :
    Quiet s [.handed message] := by
  constructor
  · intro event member
    rw [List.mem_singleton.mp member]
    rfl
  · intro other member
    cases List.mem_singleton.mp member
    exact inPlay

theorem handedAfter {message : TransactionMessage} {events : List Event}
    (quiet : Quiet s events) (inPlay : s.InPlay message) :
    Quiet s (.handed message :: events) := by
  constructor
  · intro event member
    rcases List.mem_cons.mp member with same | earlier
    · rw [same]
      rfl
    · exact quiet.quiet event earlier
  · intro other member
    rcases List.mem_cons.mp member with same | earlier
    · cases same
      exact inPlay
    · exact quiet.handed other earlier

end Quiet

namespace LedgerStep

variable {deployment : Deployment} {s after : State} {label : Label}

theorem settled {handled : State} {pause : Bool} {events : List Event}
    (quiet : Quiet s events)
    (same : handled.ledger = { s.ledger with trace := s.stamped events ++ s.trace }) :
    LedgerStep deployment s label (handled.sendPause pause).settleCursor.loopTop := by
  rcases (handled.sendPause pause).settleCursor_cases with kept | ⟨nothing, positive, settled⟩
  · rw [kept]
    exact .logged events quiet same
  · have clock : handled.clock = s.clock := congrArg Ledger.clock same
    have store : handled.stateStore = s.stateStore := congrArg Ledger.stateStore same
    have trace : handled.trace = s.stamped events ++ s.trace := congrArg Ledger.trace same
    refine .updated events quiet (handled.nextBlock - 1) (.settled ?_ ?_ ?_ ?_) ?_
    · rw [State.held, State.loopTop_drained, State.signalled_publisher]
      exact nothing
    · exact State.loopTop_up _
    · rw [settled]
      exact positive
    · rw [settled]
      rfl
    · have updated : (handled.sendPause pause).settleCursor.loopTop.ledger =
          { handled.ledger with
            trace := (handled.clock, .updated (handled.nextBlock - 1)) :: handled.trace
            stateStore := handled.stateStore.update (handled.nextBlock - 1) } := by
        rw [settled]
        rfl
      rw [updated, same, clock, store, trace]

theorem persisted {success : Bool} (task : Task) :
    LedgerStep deployment s (.persisted success) ((s.writeFile success).goto task) := by
  cases success with
  | false => exact .unchanged rfl
  | true => exact .written rfl rfl

theorem of_transition (moved : Transition deployment s label after) :
    LedgerStep deployment s label after := by
  cases moved with
  | elapse millis => exact .elapsed millis rfl rfl
  | natsEvent state up => exact .unchanged rfl
  | receive request jetstream received => exact .unchanged rfl
  | shutdownSignal up => exact .unchanged rfl
  | crash up => exact .unchanged rfl
  | start settings readable events store startBlock here loaded determined =>
      exact .restarted readable store startBlock settings.healthStallThreshold loaded
        determined rfl rfl
  | delayElapsed here running => exact .unchanged rfl
  | delayCancelled here cancelled => exact .unchanged rfl
  | delayBroken here cancelled => exact .unchanged rfl
  | selectBroken reading here awaits cancelled => exact .unchanged rfl
  | stateChanged reading here awaits changed => exact .unchanged rfl
  | resumed here connected nothing => exact .settled .none rfl
  | paused here disconnected => exact .settled .none rfl
  | flushTick reading here awaits => exact .unchanged rfl
  | persisted success here => exact .persisted .tryResume
  | finalPersisted success here => exact .persisted .down
  | resumeSkipped here skipped => exact .unchanged rfl
  | flushStarted caller message later here connected buffered labelled =>
      exact .logged [.handed message]
        (.handing (.of_buffer (here ▸ caller.site_up) buffered)) rfl
  | flushAcked caller message request next later here received =>
      have inPlay : s.InPlay next := .of_flush here List.mem_cons_self
      exact .logged [.handed next, .acked message]
        ((Quiet.acked message).handedAfter inPlay) rfl
  | flushDone caller message request here received =>
      exact .settled (.acked message) rfl
  | flushFailedResumed message request later here => exact .settled .none rfl
  | flushFailedHeld message request later here => exact .unchanged rfl
  | unpaused here flowing => exact .unchanged rfl
  | retried label reading here retry => exact .unchanged rfl
  | caughtUp latest here ahead => exact .succeeded .caughtUp rfl rfl
  | behind latest here available => exact .unchanged rfl
  | batchRead latest fetch order batch here success =>
      exact .succeeded (.fetched batch.endBlock) rfl rfl
  | batchEmpty latest batch here empty =>
      obtain ⟨needsDelay, same⟩ := s.pace_eq (latest - batch.endBlock)
      rw [same]
      exact .unchanged rfl
  | batchDelivered latest batch here nonempty nothing =>
      obtain ⟨needsDelay, same⟩ := ((s.advance batch.endBlock).updateStore
        batch.endBlock).pace_eq (latest - batch.endBlock)
      rw [same]
      exact .updated [.advanced batch.endBlock] (.advanced batch.endBlock) batch.endBlock
        (.workedOff latest batch here nothing rfl) rfl
  | batchHeld latest batch here nonempty waiting =>
      obtain ⟨needsDelay, same⟩ := (s.advance batch.endBlock).pace_eq
        (latest - batch.endBlock)
      rw [same]
      exact .logged [.advanced batch.endBlock] (.advanced batch.endBlock) rfl
  | bufferFull latest batch transaction later here full => exact .unchanged rfl
  | handed latest batch transaction later here room connected =>
      exact .logged [.handed transaction] (.handing (.of_publishing here)) rfl
  | buffered latest batch transaction later here room disconnected => exact .unchanged rfl
  | publishAcked latest batch message request later here received =>
      exact .logged [.acked message] (.acked message) rfl
  | publishFailed latest batch message request later here room => exact .unchanged rfl
  | publishRejected latest batch message request later here full => exact .unchanged rfl
  | waitElapsed latest batch later here running => exact .unchanged rfl
  | waitCancelled latest batch later here cancelled => exact .unchanged rfl
  | errorSlept latest batch later here => exact .unchanged rfl

theorem clock_kept (recorded : LedgerStep deployment s label after)
    (still : label.passesTime = false) : after.clock = s.clock := by
  cases recorded with
  | unchanged same => exact congrArg Ledger.clock same
  | elapsed millis labelled same =>
      rw [labelled] at still
      cases still
  | logged events quiet same => exact congrArg Ledger.clock same
  | succeeded event success same => exact congrArg Ledger.clock same
  | updated events quiet block reason same => exact congrArg Ledger.clock same
  | written persists same => exact congrArg Ledger.clock same
  | restarted readable store startBlock stallThreshold loaded determined next same =>
      exact congrArg Ledger.clock same

end LedgerStep

/-! ### One chain -/

/-- The store and its file belong to the configured chain. -/
structure Ledger.OwnChain (deployment : Deployment) (ledger : Ledger) : Prop where
  store : ledger.stateStore.chainId = deployment.config.chainId
  file : ∀ state, ledger.file = some state → state.chainId = deployment.config.chainId

theorem LedgerStep.ownChain {deployment : Deployment} {s after : State} {label : Label}
    (recorded : LedgerStep deployment s label after) (own : s.ledger.OwnChain deployment) :
    after.ledger.OwnChain deployment := by
  cases recorded with
  | unchanged same => exact same ▸ own
  | elapsed millis labelled same => exact same ▸ ⟨own.store, own.file⟩
  | logged events quiet same => exact same ▸ ⟨own.store, own.file⟩
  | succeeded event success same => exact same ▸ ⟨own.store, own.file⟩
  | updated events quiet block reason same => exact same ▸ ⟨own.store, own.file⟩
  | written persists same =>
      rw [same]
      refine ⟨own.store, fun state held => ?_⟩
      cases held
      exact own.store
  | restarted readable store startBlock stallThreshold loaded determined next same =>
      rw [same]
      exact ⟨StateStore.load_chainId loaded, own.file⟩

end NoxIngestor
