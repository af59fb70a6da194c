/-
The bound on the buffer.

Putting messages back at the front bypasses the capacity check.  What a flush
puts back is what it took out, so the bound is on the messages that wait: those
a flush has taken out and those in the buffer together.
-/

import NoxIngestor.Pausing

namespace NoxIngestor

/-- The arm of the publish loop that logs an error and goes on. -/
def Task.rejected : Task → Bool
  | .select (.errorSleep _latest _batch _rest) => true
  | _ => false

private theorem State.loopTop_rejected (s : State) : s.loopTop.task.rejected = false :=
  s.loopTop_cases (motive := fun task => task.rejected = false) rfl rfl

private theorem Publisher.publish_of_room {publisher : Publisher}
    (room : publisher.isBufferFull = false) (state : ConnectionState)
    (outcome : Except NatsError Unit) (message : TransactionMessage) :
    (publisher.publish state outcome message).2 = .ok () := by
  have buffered := bufferMessage_of_room room message
  cases state with
  | connected =>
      cases outcome with
      | ok done => rfl
      | error error => exact congrArg Prod.snd buffered
  | disconnected => exact congrArg Prod.snd buffered

/-- The messages that wait fit into a buffer of this capacity. -/
structure Bounded (capacity : Nat) (s : State) : Prop where
  size : s.publisher.buffer.capacity = capacity
  fits : s.held.length ≤ capacity
  accepted : s.task.rejected = false

namespace Bounded

variable {deployment : Deployment} {capacity : Nat} {s after : State}

private theorem buffer_le (bounded : Bounded capacity s) :
    s.publisher.buffer.buffer.length ≤ capacity := by
  apply Nat.le_trans _ bounded.fits
  rw [State.held, List.length_append]
  exact Nat.le_add_left _ _

private theorem undrained (bounded : Bounded capacity s)
    (buffer : after.publisher.buffer = s.publisher.buffer)
    (drained : after.task.drained = []) (accepted : after.task.rejected = false) :
    Bounded capacity after := by
  constructor
  · rw [buffer]
    exact bounded.size
  · rw [State.held, drained, List.nil_append, buffer]
    exact bounded.buffer_le
  · exact accepted

theorem unchanged (bounded : Bounded capacity s)
    (buffer : after.publisher.buffer = s.publisher.buffer) (task : after.task = s.task) :
    Bounded capacity after := by
  constructor
  · rw [buffer]
    exact bounded.size
  · rw [State.held, task, buffer]
    exact bounded.fits
  · rw [task]
    exact bounded.accepted

theorem looped (bounded : Bounded capacity s) {handled : State}
    (buffer : handled.publisher.buffer = s.publisher.buffer) :
    Bounded capacity handled.loopTop :=
  bounded.undrained buffer (State.loopTop_drained _) (State.loopTop_rejected _)

theorem paced (bounded : Bounded capacity s) {handled : State}
    (buffer : handled.publisher.buffer = s.publisher.buffer) (gap : Nat) :
    Bounded capacity (handled.pace gap) := by
  obtain ⟨needsDelay, same⟩ := handled.pace_eq gap
  rw [same]
  exact bounded.looped buffer

theorem signalled (bounded : Bounded capacity s) {handled : State}
    (buffer : handled.publisher.buffer = s.publisher.buffer) (pause : Bool) :
    Bounded capacity (handled.sendPause pause).settleCursor.loopTop := by
  apply bounded.looped
  rw [State.settleCursor_publisher]
  exact buffer

theorem heldBack (bounded : Bounded capacity s) (room : s.publisher.buffer.isFull = false)
    (message : TransactionMessage) {task : Task} (drained : task.drained = [])
    (accepted : task.rejected = false) : Bounded capacity ((s.holdBack message).goto task) := by
  constructor
  · exact bounded.size
  · have below : s.publisher.buffer.buffer.length < s.publisher.buffer.capacity :=
      Nat.lt_of_not_le (of_decide_eq_false room)
    have held : ((s.holdBack message).goto task).held =
        s.publisher.buffer.buffer ++ [message] := by
      rw [State.held]
      exact congrArg (· ++ (s.publisher.buffer.buffer ++ [message])) drained
    rw [held, List.length_append, List.length_singleton, ← bounded.size]
    exact below
  · exact accepted

theorem returned (bounded : Bounded capacity s) {caller : FlushCaller}
    {message : TransactionMessage} {request : Nat} {later : List TransactionMessage}
    (here : s.task = .flush caller message request later)
    (buffer : after.publisher.buffer = s.publisher.buffer.extendFront (message :: later))
    (drained : after.task.drained = []) (accepted : after.task.rejected = false) :
    Bounded capacity after := by
  constructor
  · rw [buffer, MessageBuffer.extendFront_capacity]
    exact bounded.size
  · rw [State.held, drained, List.nil_append, buffer, MessageBuffer.extendFront_buffer]
    have fits := bounded.fits
    rw [State.held, here] at fits
    exact fits
  · exact accepted

theorem step {label : Label} (bounded : Bounded capacity s) (resumable : Resumable s)
    (session : label.isStart = false) (moved : Transition deployment s label after) :
    Bounded capacity after := by
  cases moved with
  | elapse millis => exact bounded.unchanged rfl rfl
  | natsEvent state up => exact bounded.unchanged rfl rfl
  | receive request jetstream received => exact bounded.unchanged rfl rfl
  | shutdownSignal up => exact bounded.unchanged rfl rfl
  | crash up => exact bounded.undrained rfl rfl rfl
  | start settings readable events store startBlock here loaded determined => cases session
  | delayElapsed here running => exact bounded.looped rfl
  | delayCancelled here cancelled => exact bounded.undrained rfl rfl rfl
  | delayBroken here cancelled => exact bounded.undrained rfl rfl rfl
  | selectBroken reading here awaits cancelled => exact bounded.undrained rfl rfl rfl
  | stateChanged reading here awaits changed => exact bounded.undrained rfl rfl rfl
  | resumed here connected nothing => exact bounded.signalled rfl false
  | paused here disconnected => exact bounded.signalled rfl true
  | flushTick reading here awaits => exact bounded.undrained rfl rfl rfl
  | persisted success here =>
      exact bounded.undrained (congrArg Publisher.buffer (s.writeFile_publisher success)) rfl rfl
  | finalPersisted success here =>
      exact bounded.undrained (congrArg Publisher.buffer (s.writeFile_publisher success)) rfl rfl
  | resumeSkipped here skipped => exact bounded.looped rfl
  | flushStarted caller message later here connected buffered labelled =>
      have taken := bounded.buffer_le
      rw [buffered] at taken
      refine ⟨bounded.size, ?_, rfl⟩
      rw [State.held, List.length_append]
      exact taken
  | flushAcked caller message request next later here received =>
      have fits := bounded.fits
      rw [State.held, here] at fits
      exact ⟨bounded.size, Nat.le_of_succ_le fits, rfl⟩
  | flushDone caller message request here received =>
      refine bounded.signalled ?_ false
      rfl
  | flushFailedResumed message request later here =>
      refine bounded.returned here ?_ (State.loopTop_drained _) (State.loopTop_rejected _)
      exact congrArg Publisher.buffer (State.signalled_publisher _ false)
  | flushFailedHeld message request later here =>
      exact bounded.returned here rfl (State.loopTop_drained _) (State.loopTop_rejected _)
  | unpaused here flowing => exact bounded.undrained rfl rfl rfl
  | retried label reading here retry => exact bounded
  | caughtUp latest here ahead => exact bounded.looped rfl
  | behind latest here available => exact bounded.undrained rfl rfl rfl
  | batchRead latest fetch order batch here success => exact bounded.undrained rfl rfl rfl
  | batchEmpty latest batch here empty => exact bounded.paced rfl (latest - batch.endBlock)
  | batchDelivered latest batch here nonempty nothing =>
      refine bounded.paced ?_ (latest - batch.endBlock)
      rfl
  | batchHeld latest batch here nonempty waiting =>
      refine bounded.paced ?_ (latest - batch.endBlock)
      rfl
  | bufferFull latest batch transaction later here full => exact bounded.undrained rfl rfl rfl
  | handed latest batch transaction later here room connected =>
      exact bounded.undrained rfl rfl rfl
  | buffered latest batch transaction later here room disconnected =>
      exact bounded.heldBack room transaction rfl rfl
  | publishAcked latest batch message request later here received =>
      exact bounded.undrained rfl rfl rfl
  | publishFailed latest batch message request later here room =>
      exact bounded.heldBack room message rfl rfl
  | publishRejected latest batch message request later here full =>
      rw [resumable.room latest batch message request later here] at full
      cases full
  | waitElapsed latest batch later here running => exact bounded.undrained rfl rfl rfl
  | waitCancelled latest batch later here cancelled => exact bounded.looped rfl
  | errorSlept latest batch later here => exact bounded.undrained rfl rfl rfl

end Bounded

/-- What a session's buffer and its publishes keep to. -/
structure KeepsBuffer (bufferCapacity : Nat) (s : State) : Prop where
  bounded : s.publisher.buffer.len ≤ min bufferCapacity maxCapacity
  /-- With what a suspended flush has drained. -/
  heldBounded : s.held.length ≤ min bufferCapacity maxCapacity
  /-- Called where the buffer is not full, whatever the connection and the answer. -/
  called : ∀ latest batch transaction rest,
    s.task = .select (.publishing latest batch (transaction :: rest)) →
      s.publisher.isBufferFull = false →
        ∀ state outcome, (s.publisher.publish state outcome transaction).2 = .ok ()
  /-- Suspended on the network, whatever the answer will be. -/
  inFlight : ∀ latest batch message request rest,
    s.task = .select (.publish latest batch message request rest) →
      ∀ outcome, (s.publisher.publish .connected outcome message).2 = .ok ()
  unreached : ∀ latest batch rest, s.task ≠ .select (.errorSleep latest batch rest)

private theorem Bounded.keepsBuffer {bufferCapacity : Nat} {s : State}
    (bounded : Bounded (min bufferCapacity maxCapacity) s) (resumable : Resumable s) :
    KeepsBuffer bufferCapacity s := by
  constructor
  · exact bounded.buffer_le
  · exact bounded.fits
  · intro latest batch transaction rest _here room state outcome
    exact Publisher.publish_of_room room state outcome transaction
  · intro latest batch message request rest here outcome
    have room := resumable.room latest batch message request rest here
    exact Publisher.publish_of_room room .connected outcome message
  · intro latest batch rest here
    have accepted := bounded.accepted
    rw [here] at accepted
    cases accepted

/-- In every state of every session, whatever failed and whatever was cut, the
buffer is within its capacity and no publish of the loop returns an error. -/
theorem buffer_bounded {deployment : Deployment} {earlier session : List Label}
    {settings : Settings} {readable : Bool} {events : List ConnectionState} {s : State}
    (reached : Reaches deployment (earlier ++ .start settings readable events :: session) s)
    (sameSession : ∀ label ∈ session, label.isStart = false) :
    KeepsBuffer settings.bufferCapacity s := by
  obtain ⟨before, first, later⟩ := Runs.run_append.mp reached
  obtain ⟨started, taken, ends⟩ := Runs.run_cons.mp later
  have resumableBefore : Resumable before :=
    Reaches.always (Resumable.initial deployment)
      (fun _s _label _next resumable moved => resumable.step moved) first
  have resumable : Resumable started := resumableBefore.step (step_transition taken)
  have bounded : Bounded (min settings.bufferCapacity maxCapacity) started := by
    obtain ⟨_, _, _, _, rfl⟩ := (step_transition taken).of_start
    exact ⟨rfl, Nat.zero_le _, State.loopTop_rejected _⟩
  have preserved : ∀ state label next, label.isStart = false →
      Resumable state ∧ Bounded (min settings.bufferCapacity maxCapacity) state →
        step deployment state label = some next →
          Resumable next ∧ Bounded (min settings.bufferCapacity maxCapacity) next := by
    intro state label next session holds stepped
    have moved := step_transition stepped
    exact ⟨holds.1.step moved, holds.2.step holds.1 session moved⟩
  have both := Runs.run_invariant preserved (Runs.guarded_of_labels sameSession)
    ⟨resumable, bounded⟩ ends
  exact both.2.keepsBuffer both.1

/-- Both publishes fail and fill the buffer; a drain delivers the first message and
fails on the second. -/
def Sample.partialFlush : List Label :=
  [.stateChanged, .handleStateChange, .unpaused, .latestBlock (.ok 101), Sample.read,
    .nextTransaction, .published false, .nextTransaction, .published false, .nextTransaction,
    .delayElapsed, .flushTick, .persisted true, .tryResumeIfConnected, .receive 2,
    .published true, .published false]

theorem buffer_bounded_partialFlush :
    ∃ s, Reaches Sample.deployment ([] ++ .start { Sample.settings with bufferCapacity := 2 }
        true [.connected] :: Sample.partialFlush) s ∧
      s.publisher.buffer.len = 1 ∧ KeepsBuffer 2 s := by
  have ends : (Runs.run (step Sample.deployment) (State.initial Sample.deployment)
      ([] ++ .start { Sample.settings with bufferCapacity := 2 } true [.connected] ::
        Sample.partialFlush)).map (fun s => s.publisher.buffer.len) = some 1 := by
    decide +kernel
  obtain ⟨s, reached, waiting⟩ := Option.map_eq_some_iff.mp ends
  exact ⟨s, reached, waiting, buffer_bounded reached (by decide)⟩

end NoxIngestor
