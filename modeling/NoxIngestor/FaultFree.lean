/-
Sessions in which nothing fails.

While every call succeeds and the connection holds, nothing is ever buffered,
and the only way to hand a transaction over twice is to drop a batch while one
of its publishes is in flight.
-/

import NoxIngestor.StreamOrder

namespace NoxIngestor

open Scanning

/-! ### Fault-free steps -/

/-- Calls succeed, publishes are acknowledged, the connection is there. -/
def Label.FaultFree : Label → Prop
  | .natsEvent state => state = .connected
  | .start _settings _readable events =>
      (events.foldl Watch.send (Watch.channel ConnectionState.disconnected)).value = .connected
  | .published success => success = true
  | .latestBlock answer => ∃ latest, answer = .ok latest
  | .batchRead fetch _order =>
      ∀ calls fromBlock toBlock, ∃ logs, fetch calls fromBlock toBlock = .ok logs
  | _ => True

/-- Branches of the select that drop the block-reading one and let the session go on. -/
def Label.cuts : Label → Bool
  | .flushTick => true
  | .stateChanged => true
  | _ => false

/-- No publish in flight is dropped, and no block number wraps around. -/
structure KeepsBatch (deployment : Deployment) (s : State) (label : Label) : Prop where
  uncut : (label.cuts && s.task.publishing.isSome) = false
  below : ReadsTo deployment belowLast s label

instance (deployment : Deployment) (s : State) (label : Label) :
    Decidable (KeepsBatch deployment s label) :=
  decidable_of_iff ((label.cuts && s.task.publishing.isSome) = false ∧
    ReadsTo deployment belowLast s label)
    ⟨fun both => ⟨both.1, both.2⟩, fun keeps => ⟨keeps.uncut, keeps.below⟩⟩

/-- A step of the running session that fails nowhere and keeps its batch. -/
structure Calm (deployment : Deployment) (chain : List Log) (s : State) (label : Label) :
    Prop where
  session : label.isStart = false
  faultFree : label.FaultFree
  honest : label.Honest deployment.parser chain
  keeps : KeepsBatch deployment s label

/-! ### The shape of fault-free states -/

/-- Where a fault-free session can stand, given whether the buffer is full. -/
def Task.untroubled (full : Bool) : Task → Bool
  | .flush _caller _message _request _rest => false
  | .select (.errorSleep _latest _batch _rest) => false
  | .select (.waitInterval _latest _batch _rest) => full
  | _ => true

/-- Nothing is buffered; a full buffer is one without any capacity, and then
nothing is handed over. -/
structure Smooth (s : State) : Prop where
  connected : s.task ≠ .down → s.nats.value = .connected
  empty : s.publisher.buffer.buffer = []
  untroubled : s.task.untroubled s.publisher.buffer.isFull = true
  shut : s.publisher.buffer.isFull = true → handedIn s.trace = []

private theorem State.loopTop_untroubled (s : State) (full : Bool) :
    s.loopTop.task.untroubled full = true :=
  s.loopTop_cases (motive := fun task => task.untroubled full = true) rfl rfl

namespace Smooth

variable {deployment : Deployment} {s after : State} {label : Label}

theorem elsewhere (smooth : Smooth s) {task : Task} (here : s.task = task)
    (troubled : task.untroubled s.publisher.buffer.isFull = false) : False := by
  have calm := smooth.untroubled
  rw [here, troubled] at calm
  cases calm

theorem keep (smooth : Smooth s) (up : s.task ≠ .down) (nats : after.nats = s.nats)
    (buffer : after.publisher.buffer = s.publisher.buffer)
    (handed : handedIn after.trace = handedIn s.trace)
    (untroubled : after.task.untroubled s.publisher.buffer.isFull = true) : Smooth after := by
  constructor
  · intro _up
    rw [nats]
    exact smooth.connected up
  · rw [buffer]
    exact smooth.empty
  · rw [buffer]
    exact untroubled
  · rw [buffer, handed]
    exact smooth.shut

theorem initial : Smooth (State.initial deployment) :=
  { connected := fun up => absurd rfl up
    empty := rfl
    untroubled := rfl
    shut := fun _full => rfl }

theorem step (smooth : Smooth s) (moved : Transition deployment s label after)
    (faultFree : label.FaultFree) : Smooth after := by
  have up {task : Task} (here : s.task = task) (running : task ≠ .down) : s.task ≠ .down :=
    here ▸ running
  cases moved with
  | elapse millis =>
      exact ⟨smooth.connected, smooth.empty, smooth.untroubled, smooth.shut⟩
  | natsEvent state running =>
      exact ⟨fun _up => faultFree, smooth.empty, smooth.untroubled, smooth.shut⟩
  | receive request jetstream received =>
      exact ⟨smooth.connected, smooth.empty, smooth.untroubled, smooth.shut⟩
  | shutdownSignal running => exact smooth.keep running rfl rfl rfl smooth.untroubled
  | crash running => exact smooth.keep running rfl rfl rfl rfl
  | start settings readable events store startBlock here loaded determined =>
      exact ⟨fun _up => faultFree, rfl, State.loopTop_untroubled _ _, fun _full => rfl⟩
  | delayElapsed here running =>
      exact smooth.keep (up here nofun) rfl rfl rfl (State.loopTop_untroubled _ _)
  | delayCancelled here cancelled => exact smooth.keep (up here nofun) rfl rfl rfl rfl
  | delayBroken here cancelled => exact smooth.keep (up here nofun) rfl rfl rfl rfl
  | selectBroken reading here awaits cancelled =>
      exact smooth.keep (up here nofun) rfl rfl rfl rfl
  | stateChanged reading here awaits changed =>
      exact smooth.keep (up here nofun) rfl rfl rfl rfl
  | resumed here connected nothing =>
      refine smooth.keep (up here nofun) (State.settleCursor_nats _) ?_
        (State.settleCursor_handed _) (State.loopTop_untroubled _ _)
      rw [s.signalled_publisher false]
      rfl
  | paused here disconnected =>
      rw [smooth.connected (up here nofun)] at disconnected
      cases disconnected
  | flushTick reading here awaits => exact smooth.keep (up here nofun) rfl rfl rfl rfl
  | persisted success here =>
      obtain ⟨file, same⟩ := s.writeFile_eq success
      rw [same]
      exact smooth.keep (up here nofun) rfl rfl rfl rfl
  | finalPersisted success here =>
      obtain ⟨file, same⟩ := s.writeFile_eq success
      rw [same]
      exact smooth.keep (up here nofun) rfl rfl rfl rfl
  | resumeSkipped here skipped =>
      exact smooth.keep (up here nofun) rfl rfl rfl (State.loopTop_untroubled _ _)
  | flushStarted caller message later here connected buffered labelled =>
      rw [smooth.empty] at buffered
      cases buffered
  | flushAcked caller message request next later here received =>
      exact (smooth.elsewhere here rfl).elim
  | flushDone caller message request here received => exact (smooth.elsewhere here rfl).elim
  | flushFailedResumed message request later here => exact (smooth.elsewhere here rfl).elim
  | flushFailedHeld message request later here => exact (smooth.elsewhere here rfl).elim
  | unpaused here flowing => exact smooth.keep (up here nofun) rfl rfl rfl rfl
  | retried label reading here retry => exact smooth
  | caughtUp latest here ahead =>
      exact smooth.keep (up here nofun) rfl rfl rfl (State.loopTop_untroubled _ _)
  | behind latest here available => exact smooth.keep (up here nofun) rfl rfl rfl rfl
  | batchRead latest fetch order batch here success =>
      exact smooth.keep (up here nofun) rfl rfl rfl rfl
  | batchEmpty latest batch here empty =>
      obtain ⟨needsDelay, same⟩ := s.pace_eq (latest - batch.endBlock)
      rw [same]
      exact smooth.keep (up here nofun) rfl rfl rfl (State.loopTop_untroubled _ _)
  | batchDelivered latest batch here nonempty nothing =>
      obtain ⟨needsDelay, same⟩ := ((s.advance batch.endBlock).updateStore
        batch.endBlock).pace_eq (latest - batch.endBlock)
      rw [same]
      exact smooth.keep (up here nofun) rfl rfl rfl (State.loopTop_untroubled _ _)
  | batchHeld latest batch here nonempty waiting => exact absurd smooth.empty waiting
  | bufferFull latest batch transaction later here full =>
      exact smooth.keep (up here nofun) rfl rfl rfl full
  | handed latest batch transaction later here room connected =>
      refine ⟨fun _up => connected, smooth.empty, rfl, ?_⟩
      exact fun full => absurd (room.symm.trans full) Bool.false_ne_true
  | buffered latest batch transaction later here room disconnected =>
      rw [smooth.connected (up here nofun)] at disconnected
      cases disconnected
  | publishAcked latest batch message request later here received =>
      exact smooth.keep (up here nofun) rfl rfl rfl rfl
  | publishFailed latest batch message request later here room => cases faultFree
  | publishRejected latest batch message request later here full => cases faultFree
  | waitElapsed latest batch later here running =>
      exact smooth.keep (up here nofun) rfl rfl rfl rfl
  | waitCancelled latest batch later here cancelled =>
      exact smooth.keep (up here nofun) rfl rfl rfl (State.loopTop_untroubled _ _)
  | errorSlept latest batch later here => exact (smooth.elsewhere here rfl).elim

end Smooth

/-! ### What is handed over -/

/-- The batch the reader works on and the messages of it not yet handed over. -/
def Task.unsent : Task → Option (ReadBatch × List TransactionMessage)
  | .select (.publish latest batch _message _request rest) => some ((latest, batch), rest)
  | task => task.batch

/-- The session can still hand something over. -/
def Task.active : Task → Bool
  | .down => false
  | .finalPersist => false
  | _ => true

namespace State

def handing (s : State) : Scan ReadBatch TransactionMessage :=
  { first := s.startBlock
    next := s.nextBlock
    batch := s.task.unsent
    queue := []
    acked := handedIn s.trace }

/-- The scan of an active session that takes what was handed over for delivered. -/
def handingScan (s : State) : Option (Scan ReadBatch TransactionMessage) :=
  if s.task.active then some s.handing else none

private theorem handingScan_of_active {s : State} (active : s.task.active = true) :
    s.handingScan = some s.handing :=
  if_pos active

private theorem handingScan_of_over {s : State} (ended : s.task.active = false) :
    s.handingScan = none := by
  unfold handingScan
  rw [ended]
  rfl

private theorem handingScan_eq_some {s : State} {scan : Scan ReadBatch TransactionMessage}
    (found : s.handingScan = some scan) : s.task.active = true ∧ scan = s.handing := by
  cases active : s.task.active with
  | false =>
      rw [handingScan_of_over active] at found
      cases found
  | true =>
      rw [handingScan_of_active active] at found
      cases found
      exact ⟨rfl, rfl⟩

theorem loopTop_active (s : State) : s.loopTop.task.active = true :=
  s.loopTop_cases (motive := fun task => task.active = true) rfl rfl

theorem loopTop_unsent (s : State) : s.loopTop.task.unsent = none :=
  s.loopTop_cases (motive := fun task => task.unsent = none) rfl rfl

private theorem handing_eq {s : State} {scan : Scan ReadBatch TransactionMessage}
    (first : s.startBlock = scan.first) (next : s.nextBlock = scan.next)
    (unsent : s.task.unsent = scan.batch) (queue : [] = scan.queue)
    (handed : handedIn s.trace = scan.acked) : s.handing = scan := by
  unfold handing
  rw [first, next, unsent, queue, handed]

end State

/-- The move a fault-free step makes: no message is queued, and no batch is dropped
that was partly handed over.  A session that is over hands over nothing more. -/
structure HandsOver (deployment : Deployment) (chain : List Log) (s after : State) : Prop where
  moves : ∃ move, Step lastBlock (Reads deployment chain belowLast) s.handingScan move
      after.handingScan ∧
    Advances move ∧ ∀ scan, s.handingScan = some scan → Spares lastBlock scan move
  kept : after.task.active = false → handedIn after.trace = handedIn s.trace

private theorem absurd_over {task : Task} {P : Prop} (active : task.active = true) :
    task.active = false → P :=
  fun ended => absurd (active.symm.trans ended) Bool.noConfusion

namespace HandsOver

variable {deployment : Deployment} {chain : List Log} {s after : State}

theorem idle (same : after.handingScan = s.handingScan)
    (handed : handedIn after.trace = handedIn s.trace) : HandsOver deployment chain s after := by
  refine ⟨⟨.idle, ?_, trivial, fun _scan _found => trivial⟩, fun _over => handed⟩
  rw [same]
  exact .idle _

theorem halt (ended : after.task.active = false)
    (handed : handedIn after.trace = handedIn s.trace) : HandsOver deployment chain s after := by
  refine ⟨⟨.halt, ?_, trivial, fun _scan _found => trivial⟩, fun _over => handed⟩
  rw [State.handingScan_of_over ended]
  exact .halt _

private theorem stay {task : Task} (here : s.task = task) (active : task.active = true)
    (still : after.task.active = true) (first : after.startBlock = s.startBlock)
    (next : after.nextBlock = s.nextBlock) (unsent : after.task.unsent = task.unsent)
    (handed : handedIn after.trace = handedIn s.trace) :
    HandsOver deployment chain s after := by
  refine idle ?_ handed
  rw [State.handingScan_of_active still, State.handingScan_of_active (here ▸ active)]
  exact congrArg some (State.handing_eq first next
    (unsent.trans (congrArg Task.unsent here).symm) rfl handed)

theorem leave {task : Task} (here : s.task = task) (active : task.active = true)
    (still : after.task.active = true) (first : after.startBlock = s.startBlock)
    (next : after.nextBlock = s.nextBlock) (unsent : after.task.unsent = none)
    (handed : handedIn after.trace = handedIn s.trace)
    (spares : Spares lastBlock s.handing .abandon) : HandsOver deployment chain s after := by
  refine ⟨⟨.abandon, ?_, trivial, ?_⟩, absurd_over still⟩
  · have same : after.handing = { s.handing with batch := none } :=
      State.handing_eq first next unsent rfl handed
    rw [State.handingScan_of_active still, State.handingScan_of_active (here ▸ active), same]
    exact .abandon _
  · intro scan found
    rw [(State.handingScan_eq_some found).2]
    exact spares

end HandsOver

/-- A fault-free session that leaves the select without a publish in flight has
handed over nothing of a batch it drops. -/
theorem Smooth.spares {s : State} (smooth : Smooth s) {reading : Reading}
    (here : s.task = .select reading) (awaits : reading.isAwait = true)
    (uncut : s.task.publishing.isSome = false) : Spares lastBlock s.handing .abandon := by
  have calm := smooth.untroubled
  rw [here] at calm uncut
  cases reading with
  | waitUntilUnpaused => exact .inl (congrArg Task.unsent here)
  | getLatestBlock => exact .inl (congrArg Task.unsent here)
  | readBatch latest => exact .inl (congrArg Task.unsent here)
  | publishing latest batch rest => cases awaits
  | waitInterval latest batch rest => exact .inr (.inl (smooth.shut calm))
  | publish latest batch message request rest =>
      cases uncut
  | errorSleep latest batch rest => cases calm

theorem startBlock_of_inHand {deployment : Deployment} {chain : List Log} {s : State}
    (inHand : InHand (Reads deployment chain belowLast) s.handing) {latest : Nat}
    {batch : BatchResult} {rest : List TransactionMessage}
    (current : s.task.unsent = some ((latest, batch), rest)) :
    batch.startBlock = s.nextBlock := by
  obtain ⟨_, ⟨_, _, batchSize, fetch, order, honest, success⟩, _⟩ := inHand _ _ current
  exact ((deployment.reader batchSize).readBatch_located honest success).1

theorem HandsOver.finish {deployment : Deployment} {chain : List Log} {s : State}
    {latest : Nat} {batch : BatchResult}
    (here : s.task = .select (.publishing latest batch []))
    (inHand : InHand (Reads deployment chain belowLast) s.handing)
    (nonempty : batch.startBlock ≤ batch.endBlock) (moved : State)
    (first : moved.startBlock = s.startBlock)
    (next : moved.nextBlock = u64Add batch.endBlock 1)
    (handed : handedIn moved.trace = handedIn s.trace) (gap : Nat) :
    HandsOver deployment chain s (moved.pace gap) := by
  have current : s.handing.batch = some ((latest, batch), []) := congrArg Task.unsent here
  have starts := startBlock_of_inHand inHand current
  obtain ⟨needsDelay, paced⟩ := moved.pace_eq gap
  have active : (moved.pace gap).task.active = true := paced ▸ State.loopTop_active _
  refine ⟨⟨.complete (latest, batch) (u64Add batch.endBlock 1), ?_, rfl,
    fun _scan _found => trivial⟩, absurd_over active⟩
  · have same : (moved.pace gap).handing =
        { s.handing with next := u64Add batch.endBlock 1, batch := none } := by
      rw [paced]
      exact State.handing_eq first next (State.loopTop_unsent _) rfl handed
    rw [State.handingScan_of_active (congrArg Task.active here),
      State.handingScan_of_active active, same]
    apply Step.complete s.handing (latest, batch) _ current
    · show s.nextBlock ≤ batch.endBlock
      exact starts ▸ nonempty
    · exact Nat.mod_le _ _

private theorem Smooth.handsOver {deployment : Deployment} {chain : List Log} {s after : State}
    {label : Label} (smooth : Smooth s) (moved : Transition deployment s label after)
    (inHand : ∀ scan, s.handingScan = some scan →
      InHand (Reads deployment chain belowLast) scan)
    (faultFree : label.FaultFree) (honest : label.Honest deployment.parser chain)
    (keeps : KeepsBatch deployment s label) : HandsOver deployment chain s after := by
  obtain ⟨uncut, ending⟩ := keeps
  have up {task : Task} (here : s.task = task) (running : task ≠ .down) : s.task ≠ .down :=
    here ▸ running
  cases moved with
  | elapse millis => exact .idle rfl rfl
  | natsEvent state running => exact .idle rfl rfl
  | receive request jetstream received => exact .idle rfl rfl
  | shutdownSignal running => exact .idle rfl rfl
  | crash running => exact .halt rfl rfl
  | start settings readable events store startBlock here loaded determined =>
      refine ⟨⟨.begin, ?_, trivial, fun _scan _found => trivial⟩,
        absurd_over (State.loopTop_active _)⟩
      have ended : s.handingScan = none :=
        State.handingScan_of_over (congrArg Task.active here)
      have fresh : State.handingScan (s.startSession settings events store startBlock) =
          some (Scan.fresh startBlock) := rfl
      rw [ended, fresh]
      exact .begin startBlock
  | delayElapsed here running =>
      exact .stay here rfl (State.loopTop_active _) rfl rfl (State.loopTop_unsent _) rfl
  | delayCancelled here cancelled => exact .halt rfl rfl
  | delayBroken here cancelled => exact .halt rfl rfl
  | selectBroken reading here awaits cancelled => exact .halt rfl rfl
  | stateChanged reading here awaits changed =>
      exact .leave here rfl rfl rfl rfl rfl rfl (smooth.spares here awaits uncut)
  | resumed here connected nothing =>
      exact .stay here rfl (State.loopTop_active _) (State.settleCursor_startBlock _)
        (State.settleCursor_nextBlock _) (State.loopTop_unsent _) (State.settleCursor_handed _)
  | paused here disconnected =>
      rw [smooth.connected (up here nofun)] at disconnected
      cases disconnected
  | flushTick reading here awaits =>
      exact .leave here rfl rfl rfl rfl rfl rfl (smooth.spares here awaits uncut)
  | persisted success here =>
      obtain ⟨file, same⟩ := s.writeFile_eq success
      rw [same]
      exact .stay here rfl rfl rfl rfl rfl rfl
  | finalPersisted success here =>
      obtain ⟨file, same⟩ := s.writeFile_eq success
      rw [same]
      exact .halt rfl rfl
  | resumeSkipped here skipped =>
      exact .stay here rfl (State.loopTop_active _) rfl rfl (State.loopTop_unsent _) rfl
  | flushStarted caller message later here connected buffered labelled =>
      rw [smooth.empty] at buffered
      cases buffered
  | flushAcked caller message request next later here received =>
      exact (smooth.elsewhere here rfl).elim
  | flushDone caller message request here received => exact (smooth.elsewhere here rfl).elim
  | flushFailedResumed message request later here => exact (smooth.elsewhere here rfl).elim
  | flushFailedHeld message request later here => exact (smooth.elsewhere here rfl).elim
  | unpaused here flowing => exact .stay here rfl rfl rfl rfl rfl rfl
  | retried label reading here retry => exact .idle rfl rfl
  | caughtUp latest here ahead =>
      exact .stay here rfl (State.loopTop_active _) rfl rfl (State.loopTop_unsent _) rfl
  | behind latest here available => exact .stay here rfl rfl rfl rfl rfl rfl
  | batchRead latest fetch order batch here success =>
      refine ⟨⟨.fetch, ?_, trivial, fun _scan _found => trivial⟩, absurd_over rfl⟩
      have free : s.handing.batch = none := congrArg Task.unsent here
      have same : State.handingScan ((s.recordSuccess.record (.fetched batch.endBlock)).goto
          (.select (.publishing latest batch batch.transactions))) =
          some { s.handing with batch := some ((latest, batch), batch.transactions) } := rfl
      rw [State.handingScan_of_active (congrArg Task.active here), same]
      exact .fetch s.handing (latest, batch) _ free
        (.of_success here honest ending success)
  | batchEmpty latest batch here empty =>
      have current : s.task.unsent = some ((latest, batch), []) := congrArg Task.unsent here
      have starts := startBlock_of_inHand
        (inHand _ (State.handingScan_of_active (congrArg Task.active here))) current
      obtain ⟨needsDelay, same⟩ := s.pace_eq (latest - batch.endBlock)
      rw [same]
      refine .leave here rfl (State.loopTop_active _) rfl rfl (State.loopTop_unsent _) rfl
        (.inr (.inr ⟨_, _, current, ?_⟩))
      show batch.endBlock < s.nextBlock
      exact starts ▸ empty
  | batchDelivered latest batch here nonempty nothing =>
      exact .finish here (inHand _ (State.handingScan_of_active (congrArg Task.active here)))
        nonempty ((s.advance batch.endBlock).updateStore batch.endBlock) rfl rfl rfl _
  | batchHeld latest batch here nonempty waiting => exact absurd smooth.empty waiting
  | bufferFull latest batch transaction later here full =>
      exact .stay here rfl rfl rfl rfl rfl rfl
  | handed latest batch transaction later here room connected =>
      refine ⟨⟨.deliver, ?_, trivial, fun _scan _found => trivial⟩, absurd_over rfl⟩
      have current : s.handing.batch = some ((latest, batch), transaction :: later) :=
        congrArg Task.unsent here
      have same : State.handingScan ((s.doPublish transaction).goto
          (.select (.publish latest batch transaction s.jetstream.nextRequest later))) =
          some { s.handing with
            batch := some ((latest, batch), later)
            acked := transaction :: s.handing.acked } := rfl
      rw [State.handingScan_of_active (congrArg Task.active here), same]
      exact .deliver s.handing (latest, batch) transaction later current
  | buffered latest batch transaction later here room disconnected =>
      rw [smooth.connected (up here nofun)] at disconnected
      cases disconnected
  | publishAcked latest batch message request later here received =>
      exact .stay here rfl rfl rfl rfl rfl rfl
  | publishFailed latest batch message request later here room => cases faultFree
  | publishRejected latest batch message request later here full => cases faultFree
  | waitElapsed latest batch later here running =>
      exact .stay here rfl rfl rfl rfl rfl rfl
  | waitCancelled latest batch later here cancelled =>
      have full := smooth.untroubled
      rw [here] at full
      exact .leave here rfl (State.loopTop_active _) rfl rfl (State.loopTop_unsent _) rfl
        (.inr (.inl (smooth.shut full)))
  | errorSlept latest batch later here => exact (smooth.elsewhere here rfl).elim

/-! ### At most once -/

/-- What a fault-free session keeps true as long as it cuts no publish. -/
structure Undisturbed (deployment : Deployment) (chain : List Log) (s : State) : Prop where
  smooth : Smooth s
  inHand : ∀ scan, s.handingScan = some scan → InHand (Reads deployment chain belowLast) scan
  genuine : ∀ scan, s.handingScan = some scan →
    ∀ message ∈ scan.line, deployment.Genuine chain message
  once : ∀ scan, s.handingScan = some scan →
    Once lastBlock TransactionMessage.blockNumber TransactionMessage.Precedes scan
  handedOnce : ((handedIn s.trace).map TransactionMessage.transactionHash).Nodup

namespace Undisturbed

variable {deployment : Deployment} {chain : List Log} {s after : State} {label : Label}

private theorem nodup_of_once {scan : Scan ReadBatch TransactionMessage}
    (genuine : ∀ message ∈ scan.line, deployment.Genuine chain message)
    (once : Once lastBlock TransactionMessage.blockNumber TransactionMessage.Precedes scan) :
    (scan.acked.map TransactionMessage.transactionHash).Nodup := by
  have ordered := List.pairwise_reverse.mp (List.pairwise_append.mp once.increasing).1
  have delivered (message : TransactionMessage) (member : message ∈ scan.acked) :
      deployment.Genuine chain message := by
    apply genuine
    exact List.mem_append_left _ (List.mem_append_left _ (List.mem_reverse.mpr member))
  apply List.pairwise_map.mpr
  apply (List.Pairwise.and_mem.mp ordered).imp
  rintro later earlier ⟨laterIn, earlierIn, before⟩ same
  have laterGenuine := delivered later laterIn
  have earlierGenuine := delivered earlier earlierIn
  have chainIds : later.chainId = earlier.chainId := by
    obtain ⟨_, _, rfl⟩ := laterGenuine
    obtain ⟨_, _, rfl⟩ := earlierGenuine
    rfl
  have equal := laterGenuine.eq_of_key rfl earlierGenuine (Prod.ext chainIds same)
  rw [equal] at before
  exact lt_irrefl _ before

private theorem of_scan (smooth : Smooth s)
    (inHand : ∀ scan, s.handingScan = some scan →
      InHand (Reads deployment chain belowLast) scan)
    (genuine : ∀ scan, s.handingScan = some scan →
      ∀ message ∈ scan.line, deployment.Genuine chain message)
    (once : ∀ scan, s.handingScan = some scan →
      Once lastBlock TransactionMessage.blockNumber TransactionMessage.Precedes scan)
    (ended : s.task.active = false →
      ((handedIn s.trace).map TransactionMessage.transactionHash).Nodup) :
    Undisturbed deployment chain s := by
  refine ⟨smooth, inHand, genuine, once, ?_⟩
  cases active : s.task.active with
  | false => exact ended active
  | true =>
      have found := State.handingScan_of_active active
      exact nodup_of_once (genuine _ found) (once _ found)

theorem opening {settings : Settings} {readable : Bool} {events : List ConnectionState}
    (moved : Transition deployment s (.start settings readable events) after)
    (faultFree : (Label.start settings readable events).FaultFree) :
    Undisturbed deployment chain after := by
  obtain ⟨store, startBlock, loaded, determined, rfl⟩ := moved.of_start
  have found : State.handingScan (s.startSession settings events store startBlock) =
      some (Scan.fresh startBlock) := rfl
  apply of_scan
  · exact ⟨fun _up => faultFree, rfl, State.loopTop_untroubled _ _, fun _full => rfl⟩
  · rw [found]
    intro scan fresh
    cases fresh
    exact nofun
  · rw [found]
    intro scan fresh
    cases fresh
    exact nofun
  · rw [found]
    intro scan fresh
    cases fresh
    exact .fresh startBlock
  · exact absurd_over (State.loopTop_active _)

private theorem hands (undisturbed : Undisturbed deployment chain s)
    (moved : Transition deployment s label after) (calm : Calm deployment chain s label) :
    HandsOver deployment chain s after :=
  undisturbed.smooth.handsOver moved undisturbed.inHand calm.faultFree calm.honest calm.keeps

theorem step (wellFormed : WellFormedChain chain)
    (undisturbed : Undisturbed deployment chain s)
    (moved : Transition deployment s label after) (calm : Calm deployment chain s label) :
    Undisturbed deployment chain after := by
  obtain ⟨⟨move, stepped, advances, spares⟩, kept⟩ := undisturbed.hands moved calm
  have exactly := exact_below undisturbed.inHand stepped advances
  apply of_scan
  · exact undisturbed.smooth.step moved calm.faultFree
  · exact InHand.step undisturbed.inHand stepped
  · exact genuine_step (reads_genuine wellFormed) undisturbed.genuine stepped
  · exact once_step (reads_listed deployment belowLast wellFormed) undisturbed.once
      undisturbed.inHand stepped exactly spares
  · intro ended
    rw [kept ended]
    exact undisturbed.handedOnce

theorem run (wellFormed : WellFormedChain chain) (undisturbed : Undisturbed deployment chain s)
    {labels : List Label}
    (calm : Runs.Guarded (NoxIngestor.step deployment) (Calm deployment chain) s labels)
    (went : Runs.run (NoxIngestor.step deployment) s labels = some after) :
    Undisturbed deployment chain after := by
  apply Runs.run_invariant _ calm undisturbed went
  intro state label next calmly before stepped
  exact before.step wellFormed (step_transition stepped) calmly

end Undisturbed

/-! ### No return -/

private theorem Task.active_of_atHead {task : Task} (head : task.atHead = true) :
    task.active = true := by
  rcases Task.cases_of_atHead head with rfl | rfl
  · rfl
  · rfl

private theorem Task.unsent_of_atHead {task : Task} (head : task.atHead = true) :
    task.unsent = none := by
  rcases Task.cases_of_atHead head with rfl | rfl
  · rfl
  · rfl

theorem Transition.stays_over {deployment : Deployment} {s after : State} {label : Label}
    (moved : Transition deployment s label after) (ended : s.task.active = false)
    (session : label.isStart = false) : after.task.active = false := by
  cases moved with
  | elapse millis => exact ended
  | natsEvent state up => exact ended
  | receive request jetstream received => exact ended
  | shutdownSignal up => exact ended
  | crash up => rfl
  | finalPersisted success here => rfl
  | start settings readable events store startBlock here loaded determined => cases session
  | flushStarted caller message later here connected buffered labelled =>
      rw [here] at ended
      cases caller <;> cases ended
  | _ => simp_all only [Task.active, Bool.true_eq_false]

/-- Since a given place and what was handed over before it, the session has handed
over only what lies at or past the place. -/
def MovedOn (start : Nat) (old : List TransactionMessage) (s : State) : Prop :=
  ∀ scan, s.handingScan = some scan →
    Onwards TransactionMessage.blockNumber start old scan

namespace MovedOn

variable {deployment : Deployment} {chain : List Log} {s after : State} {label : Label}
variable {start : Nat} {old : List TransactionMessage}

private theorem at_head (head : s.task.atHead = true) :
    MovedOn s.nextBlock (handedIn s.trace) s := by
  intro scan found
  rw [(State.handingScan_eq_some found).2]
  have free : s.handing.batch = none := Task.unsent_of_atHead head
  refine ⟨Nat.le_refl _, nofun, ?_, [], rfl, nofun⟩
  rw [pending_of_free free]
  exact nofun

theorem step (wellFormed : WellFormedChain chain) (movedOn : MovedOn start old s)
    (undisturbed : Undisturbed deployment chain s)
    (moved : Transition deployment s label after) (calm : Calm deployment chain s label) :
    MovedOn start old after := by
  intro later found
  cases active : s.task.active with
  | false =>
      have ended := moved.stays_over active calm.session
      rw [State.handingScan_of_over ended] at found
      cases found
  | true =>
      obtain ⟨⟨move, stepped, advances, _⟩, _⟩ := undisturbed.hands moved calm
      have exactly := exact_below undisturbed.inHand stepped advances
      have listed := reads_listed deployment belowLast wellFormed
      have current := State.handingScan_of_active active
      rw [current, found] at stepped
      exact (movedOn _ current).step listed.bounded stepped exactly

theorem run (wellFormed : WellFormedChain chain) (movedOn : MovedOn start old s)
    (undisturbed : Undisturbed deployment chain s) {labels : List Label}
    (calm : Runs.Guarded (NoxIngestor.step deployment) (Calm deployment chain) s labels)
    (went : Runs.run (NoxIngestor.step deployment) s labels = some after) :
    MovedOn start old after := by
  have both : Undisturbed deployment chain after ∧ MovedOn start old after := by
    apply Runs.run_invariant _ calm ⟨undisturbed, movedOn⟩ went
    intro state label next calmly before stepped
    have moved := step_transition stepped
    exact ⟨before.1.step wellFormed moved calmly, before.2.step wellFormed before.1 moved calmly⟩
  exact both.2

theorem advanced (movedOn : MovedOn start old s) (undisturbed : Undisturbed deployment chain s)
    (head : s.task.atHead = true) (handed : handedIn s.trace ≠ old) : start < s.nextBlock := by
  have found := State.handingScan_of_active (Task.active_of_atHead head)
  obtain ⟨_, _, _, new, acked, since⟩ := movedOn _ found
  cases new with
  | nil => exact absurd acked handed
  | cons message rest =>
      have delivered : message ∈ s.handing.acked := acked ▸ List.mem_cons_self
      have free : s.handing.batch = none := Task.unsent_of_atHead head
      rcases (undisturbed.once _ found).behind message delivered with
        before | ⟨batch, remaining, current, _⟩
      · exact Nat.lt_of_le_of_lt (since message List.mem_cons_self) before
      · rw [free] at current
        cases current

end MovedOn

def State.progress (s : State) : Nat × List TransactionMessage × Nat :=
  (s.nextBlock, s.publisher.buffer.buffer, s.stateStore.lastSynced)

/-- In a fault-free session that drops no publish in flight, every transaction is
handed over at most once, and between two heads of the loop with something handed
over in between the progress differs. -/
theorem fault_free_publishes_once {deployment : Deployment} {chain : List Log}
    (wellFormed : WellFormedChain chain) {earlier first second : List Label}
    {settings : Settings} {readable : Bool} {events : List ConnectionState}
    {opening between after : State}
    (started : Reaches deployment (earlier ++ [.start settings readable events]) opening)
    (connected : (Label.start settings readable events).FaultFree)
    (ran : Runs.run (step deployment) opening first = some between)
    (went : Runs.run (step deployment) between second = some after)
    (session : ∀ label ∈ first ++ second, label.isStart = false)
    (faultFree : ∀ label ∈ first ++ second, label.FaultFree)
    (honest : ∀ label ∈ first ++ second, label.Honest deployment.parser chain)
    (keeps : Runs.Guarded (step deployment) (KeepsBatch deployment) opening (first ++ second)) :
    ((handedIn after.trace).map TransactionMessage.transactionHash).Nodup ∧
      (between.task.atHead = true → after.task.atHead = true →
        handedIn after.trace ≠ handedIn between.trace → after.progress ≠ between.progress) := by
  have calm : Runs.Guarded (step deployment) (Calm deployment chain) opening
      (first ++ second) := by
    have guarded := (((Runs.guarded_of_labels session).and
      (Runs.guarded_of_labels faultFree)).and (Runs.guarded_of_labels honest)).and keeps
    apply guarded.mono
    intro s label all
    exact ⟨all.1.1.1, all.1.1.2, all.1.2, all.2⟩
  obtain ⟨firstCalm, secondCalm⟩ := calm.append ran
  obtain ⟨stopped, _, last⟩ := Runs.run_append.mp started
  obtain ⟨_, taken, ends⟩ := Runs.run_cons.mp last
  cases ends
  have opened : Undisturbed deployment chain opening :=
    .opening (step_transition taken) connected
  have undisturbed := opened.run wellFormed firstCalm ran
  have final := undisturbed.run wellFormed secondCalm went
  refine ⟨final.handedOnce, ?_⟩
  intro beforeHead afterHead handed same
  have movedOn : MovedOn between.nextBlock (handedIn between.trace) after :=
    MovedOn.run wellFormed (.at_head beforeHead) undisturbed secondCalm went
  have further := movedOn.advanced final afterHead handed
  have blocks : after.nextBlock = between.nextBlock := congrArg Prod.fst same
  omega

private theorem Sample.read_faultFree : Sample.read.FaultFree :=
  fun _calls _fromBlock _toBlock => ⟨_, rfl⟩

def Sample.toHead : List Label :=
  [.stateChanged, .handleStateChange]

/-- A tick before the batch is read; then both transactions are delivered. -/
def Sample.tickThenDelivery : List Label :=
  [.unpaused, .latestBlock (.ok 101), .flushTick, .persisted true, .tryResumeIfConnected,
    .unpaused, .latestBlock (.ok 101), Sample.read, .nextTransaction, .receive 0,
    .published true, .nextTransaction, .receive 1, .published true, .nextTransaction]

theorem fault_free_publishes_once_tickThenDelivery :
    ∃ opening between after,
      Reaches Sample.deployment [.start Sample.settings true [.connected]] opening ∧
        Runs.run (step Sample.deployment) opening Sample.toHead = some between ∧
          Runs.run (step Sample.deployment) between Sample.tickThenDelivery = some after ∧
            (handedIn after.trace).map TransactionMessage.blockNumber = [101, 100] ∧
              ((handedIn after.trace).map TransactionMessage.transactionHash).Nodup ∧
                after.progress ≠ between.progress := by
  have ends : ((Runs.run (step Sample.deployment) (State.initial Sample.deployment)
      [.start Sample.settings true [.connected]]).bind fun opening =>
        (Runs.run (step Sample.deployment) opening Sample.toHead).bind fun between =>
          (Runs.run (step Sample.deployment) between Sample.tickThenDelivery).map fun after =>
            (between.task.atHead, handedIn between.trace, after.task.atHead,
              (handedIn after.trace).map TransactionMessage.blockNumber,
              decide (Runs.Guarded (step Sample.deployment) (KeepsBatch Sample.deployment) opening
                (Sample.toHead ++ Sample.tickThenDelivery)))) =
          some (true, [], true, [101, 100], true) := by
    decide +kernel
  obtain ⟨opening, started, later⟩ := Option.bind_eq_some_iff.mp ends
  obtain ⟨between, ran, latest⟩ := Option.bind_eq_some_iff.mp later
  obtain ⟨after, went, values⟩ := Option.map_eq_some_iff.mp latest
  simp only [Prod.mk.injEq, decide_eq_true_eq] at values
  obtain ⟨beforeHead, nothing, afterHead, blocks, keeps⟩ := values
  have session : ∀ label ∈ Sample.toHead ++ Sample.tickThenDelivery,
      label.isStart = false := by
    simp only [Sample.toHead, Sample.tickThenDelivery, List.cons_append, List.nil_append,
      List.forall_mem_cons, Sample.read, Label.isStart, List.not_mem_nil, IsEmpty.forall_iff,
      implies_true, true_and]
  have faultFree : ∀ label ∈ Sample.toHead ++ Sample.tickThenDelivery, label.FaultFree := by
    simp only [Sample.toHead, Sample.tickThenDelivery, List.cons_append, List.nil_append,
      List.forall_mem_cons, Label.FaultFree, List.not_mem_nil, IsEmpty.forall_iff,
      implies_true, true_and, and_true]
    exact ⟨⟨_, rfl⟩, ⟨_, rfl⟩, Sample.read_faultFree⟩
  have honest : ∀ label ∈ Sample.toHead ++ Sample.tickThenDelivery,
      label.Honest Sample.deployment.parser Sample.chain := by
    simp only [Sample.toHead, Sample.tickThenDelivery, List.cons_append, List.nil_append,
      List.forall_mem_cons, Label.Honest, List.not_mem_nil, IsEmpty.forall_iff,
      implies_true, true_and, and_true]
    exact Sample.read_honest
  have first : Reaches Sample.deployment
      ([] ++ [.start Sample.settings true [.connected]]) opening := started
  obtain ⟨once, moves⟩ := fault_free_publishes_once Sample.chain_wellFormed first rfl ran went
    session faultFree honest keeps
  refine ⟨opening, between, after, started, ran, went, blocks, once, ?_⟩
  apply moves beforeHead afterHead
  rw [nothing]
  intro empty
  rw [empty] at blocks
  cases blocks

/-- A tick cuts the batch after its first transaction was acknowledged: without any
fault, the transaction is handed over again. -/
theorem tick_republishes_transaction :
    ((∀ label ∈ Sample.handedAgain, label.FaultFree) ∧
        ∀ label ∈ Sample.handedAgain, label.Honest Sample.deployment.parser Sample.chain) ∧
      ¬ ∀ s, Reaches Sample.deployment Sample.handedAgain s →
        ((handedIn s.trace).map TransactionMessage.transactionHash).Nodup := by
  constructor
  · refine ⟨?_, Sample.handedAgain_honest⟩
    simp only [Sample.handedAgain, Sample.start, Sample.cutBatch, List.cons_append,
      List.nil_append, List.forall_mem_cons, Label.FaultFree, List.not_mem_nil,
      IsEmpty.forall_iff, implies_true, true_and, and_true]
    exact ⟨rfl, ⟨_, rfl⟩, Sample.read_faultFree, ⟨_, rfl⟩, Sample.read_faultFree⟩
  · intro claimed
    have ends : (Runs.run (step Sample.deployment) (State.initial Sample.deployment)
        Sample.handedAgain).map
          (fun s => (handedIn s.trace).map TransactionMessage.transactionHash) =
            some [Sample.firstHash.toHex, Sample.secondHash.toHex, Sample.firstHash.toHex] := by
      decide +kernel
    obtain ⟨s, reached, hashes⟩ := Option.map_eq_some_iff.mp ends
    have distinct := claimed s reached
    rw [hashes] at distinct
    apply (List.nodup_cons.mp distinct).1
    exact List.mem_cons_of_mem _ List.mem_cons_self

end NoxIngestor
