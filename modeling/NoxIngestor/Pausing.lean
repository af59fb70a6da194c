/-
Pausing and resuming the reader.

The pause flag follows the buffer as long as no flush that a state change
started fails: that handler resumes the reader whatever the flush returned.
The flag is never left set without something that will clear it.
-/

import NoxIngestor.Reachability

namespace NoxIngestor

/-- Past the pause flag and not yet in possession of the batch. -/
def Task.fetches : Task → Bool
  | .select .getLatestBlock => true
  | .select (.readBatch _latest) => true
  | _ => false

structure Task.Quiet (task : Task) : Prop where
  drained : task.drained = []
  fetches : task.fetches = false

private theorem State.loopTop_quiet (s : State) : s.loopTop.task.Quiet :=
  s.loopTop_cases ⟨rfl, rfl⟩ ⟨rfl, rfl⟩

private theorem State.pace_quiet (s : State) (gap : Nat) : (s.pace gap).task.Quiet := by
  obtain ⟨needsDelay, same⟩ := s.pace_eq gap
  rw [same]
  exact State.loopTop_quiet _

/-! ### The reader reads only on an empty buffer -/

/-- No message waits while the reader may read or is reading. -/
def ReadsOnEmptyBuffer (s : State) : Prop :=
  (s.publisher.pause = false → s.publisher.buffer.buffer = []) ∧
    (s.task.fetches = true → s.publisher.buffer.buffer = [])

/-- The step fails a flush that a state change started. -/
def failsResume (s : State) (label : Label) : Bool :=
  match s.task, label with
  | .flush .handleStateChange _message _request _rest, .published false => true
  | _, _ => false

/-- Nothing waits while the flag is down, in the buffer or in a flush. -/
structure Paused (s : State) : Prop where
  nothingWaits : s.publisher.pause = false →
    s.publisher.buffer.buffer = [] ∧ s.task.drained = []
  taken : s.task.drained ≠ [] → s.publisher.buffer.buffer = []
  fetching : s.task.fetches = true → s.publisher.pause = false

namespace Paused

variable {deployment : Deployment} {s after : State}

theorem unchanged (paused : Paused s) (publisher : after.publisher = s.publisher)
    (task : after.task = s.task) : Paused after := by
  constructor
  · rw [publisher, task]
    exact paused.nothingWaits
  · rw [publisher, task]
    exact paused.taken
  · rw [publisher, task]
    exact paused.fetching

theorem quiet (paused : Paused s) (publisher : after.publisher = s.publisher)
    (quiet : after.task.Quiet) : Paused after := by
  constructor
  · intro flowing
    rw [publisher] at flowing ⊢
    exact ⟨(paused.nothingWaits flowing).1, quiet.drained⟩
  · intro busy
    exact absurd quiet.drained busy
  · intro fetching
    rw [quiet.fetches] at fetching
    cases fetching

theorem raised (pause : after.publisher.pause = true) (quiet : after.task.Quiet) :
    Paused after := by
  constructor
  · intro flowing
    rw [pause] at flowing
    cases flowing
  · intro busy
    exact absurd quiet.drained busy
  · intro fetching
    rw [quiet.fetches] at fetching
    cases fetching

theorem emptied (nothing : after.publisher.buffer.buffer = []) (quiet : after.task.Quiet) :
    Paused after := by
  constructor
  · intro _flowing
    exact ⟨nothing, quiet.drained⟩
  · intro _busy
    exact nothing
  · intro fetching
    rw [quiet.fetches] at fetching
    cases fetching

private theorem suspended (pause : after.publisher.pause = true)
    (nothing : after.publisher.buffer.buffer = []) (busy : after.task.fetches = false) :
    Paused after := by
  constructor
  · intro flowing
    rw [pause] at flowing
    cases flowing
  · intro _busy
    exact nothing
  · intro fetching
    rw [busy] at fetching
    cases fetching

private theorem pause_of_buffered (paused : Paused s) (waiting : s.publisher.buffer.buffer ≠ []) :
    s.publisher.pause = true := by
  apply Bool.eq_true_of_not_eq_false
  intro flowing
  exact waiting (paused.nothingWaits flowing).1

private theorem pause_of_drained (paused : Paused s) (busy : s.task.drained ≠ []) :
    s.publisher.pause = true := by
  apply Bool.eq_true_of_not_eq_false
  intro flowing
  exact busy (paused.nothingWaits flowing).2

private theorem drained_ne_nil {caller : FlushCaller} {message : TransactionMessage} {request : Nat}
    {later : List TransactionMessage} (here : s.task = .flush caller message request later) :
    s.task.drained ≠ [] := by
  rw [here]
  exact List.cons_ne_nil _ _

theorem step {label : Label} (paused : Paused s) (allowed : failsResume s label = false)
    (moved : Transition deployment s label after) : Paused after := by
  cases moved with
  | elapse millis => exact paused.unchanged rfl rfl
  | natsEvent state up => exact paused.unchanged rfl rfl
  | receive request jetstream received => exact paused.unchanged rfl rfl
  | shutdownSignal up => exact paused.unchanged rfl rfl
  | crash up => exact paused.quiet rfl ⟨rfl, rfl⟩
  | start settings readable events store startBlock here loaded determined =>
      exact .emptied rfl (State.loopTop_quiet _)
  | delayElapsed here running => exact paused.quiet rfl (State.loopTop_quiet _)
  | delayCancelled here cancelled => exact paused.quiet rfl ⟨rfl, rfl⟩
  | delayBroken here cancelled => exact paused.quiet rfl ⟨rfl, rfl⟩
  | selectBroken reading here awaits cancelled => exact paused.quiet rfl ⟨rfl, rfl⟩
  | stateChanged reading here awaits changed => exact paused.quiet rfl ⟨rfl, rfl⟩
  | resumed here connected nothing =>
      apply Paused.emptied _ (State.loopTop_quiet _)
      rw [State.signalled_publisher]
      exact nothing
  | paused here disconnected =>
      apply Paused.raised _ (State.loopTop_quiet _)
      rw [State.signalled_publisher]
      rfl
  | flushTick reading here awaits => exact paused.quiet rfl ⟨rfl, rfl⟩
  | persisted success here => exact paused.quiet (s.writeFile_publisher success) ⟨rfl, rfl⟩
  | finalPersisted success here =>
      exact paused.quiet (s.writeFile_publisher success) ⟨rfl, rfl⟩
  | resumeSkipped here skipped => exact paused.quiet rfl (State.loopTop_quiet _)
  | flushStarted caller message later here connected buffered labelled =>
      have waiting : s.publisher.buffer.buffer ≠ [] := by
        rw [buffered]
        exact List.cons_ne_nil _ _
      exact .suspended (paused.pause_of_buffered waiting) rfl rfl
  | flushAcked caller message request next later here received =>
      have busy := drained_ne_nil here
      exact .suspended (paused.pause_of_drained busy) (paused.taken busy) rfl
  | flushDone caller message request here received =>
      apply Paused.emptied _ (State.loopTop_quiet _)
      rw [State.signalled_publisher]
      exact paused.taken (drained_ne_nil here)
  | flushFailedResumed message request later here =>
      unfold failsResume at allowed
      rw [here] at allowed
      cases allowed
  | flushFailedHeld message request later here =>
      have busy := drained_ne_nil here
      exact .raised (paused.pause_of_drained busy) (State.loopTop_quiet _)
  | unpaused here flowing =>
      constructor
      · intro _flowing
        exact ⟨(paused.nothingWaits flowing).1, rfl⟩
      · intro busy
        exact absurd rfl busy
      · intro _fetching
        exact flowing
  | retried label reading here retry => exact paused
  | caughtUp latest here ahead => exact paused.quiet rfl (State.loopTop_quiet _)
  | behind latest here available =>
      have flowing : s.publisher.pause = false := by
        apply paused.fetching
        rw [here]
        rfl
      constructor
      · intro _flowing
        exact ⟨(paused.nothingWaits flowing).1, rfl⟩
      · intro busy
        exact absurd rfl busy
      · intro _fetching
        exact flowing
  | batchRead latest fetch order batch here success => exact paused.quiet rfl ⟨rfl, rfl⟩
  | batchEmpty latest batch here empty =>
      exact paused.quiet (State.pace_publisher _ _) (State.pace_quiet _ _)
  | batchDelivered latest batch here nonempty nothing =>
      exact paused.quiet (State.pace_publisher _ _) (State.pace_quiet _ _)
  | batchHeld latest batch here nonempty waiting =>
      exact paused.quiet (State.pace_publisher _ _) (State.pace_quiet _ _)
  | bufferFull latest batch transaction later here full => exact paused.quiet rfl ⟨rfl, rfl⟩
  | handed latest batch transaction later here room connected =>
      exact paused.quiet rfl ⟨rfl, rfl⟩
  | buffered latest batch transaction later here room disconnected =>
      exact .raised rfl ⟨rfl, rfl⟩
  | publishAcked latest batch message request later here received =>
      exact paused.quiet rfl ⟨rfl, rfl⟩
  | publishFailed latest batch message request later here room => exact .raised rfl ⟨rfl, rfl⟩
  | publishRejected latest batch message request later here full =>
      exact .raised rfl ⟨rfl, rfl⟩
  | waitElapsed latest batch later here running => exact paused.quiet rfl ⟨rfl, rfl⟩
  | waitCancelled latest batch later here cancelled =>
      exact paused.quiet rfl (State.loopTop_quiet _)
  | errorSlept latest batch later here => exact paused.quiet rfl ⟨rfl, rfl⟩

theorem initial (deployment : Deployment) : Paused (State.initial deployment) :=
  .emptied rfl ⟨rfl, rfl⟩

end Paused

/-- In every run in which no flush started by a state change fails, the reader
reads, and the flag lets it read, only while the buffer is empty. -/
theorem reads_on_empty_buffer {deployment : Deployment} {labels : List Label} {s : State}
    (reached : Reaches deployment labels s)
    (throughout : Throughout deployment (fun s label => failsResume s label = false) labels) :
    ReadsOnEmptyBuffer s := by
  have paused : Paused s :=
    reached.invariant (Paused.initial deployment)
      (fun _s _label _next allowed paused moved => paused.step allowed moved) throughout
  constructor
  · intro flowing
    exact (paused.nothingWaits flowing).1
  · intro fetching
    exact (paused.nothingWaits (paused.fetching fetching)).1

/-- The first publish fails; the periodic drain delivers the message while the
second is on its way. -/
def Sample.drainedOutage : List Label :=
  Sample.start ++ [Sample.read, .nextTransaction, .published false, .nextTransaction,
    .flushTick, .persisted true, .tryResumeIfConnected, .receive 2, .published true,
    .unpaused]

theorem reads_on_empty_buffer_drainedOutage :
    ∃ s, Reaches Sample.deployment Sample.drainedOutage s ∧ s.task.fetches = true ∧
      ReadsOnEmptyBuffer s := by
  have ends : (Runs.run (step Sample.deployment) (State.initial Sample.deployment)
      Sample.drainedOutage).map (fun s => s.task.fetches) = some true := by
    decide +kernel
  obtain ⟨s, reached, fetching⟩ := Option.map_eq_some_iff.mp ends
  exact ⟨s, reached, fetching, reads_on_empty_buffer reached (by decide +kernel)⟩

/-- Both transactions are buffered when the connection comes back, and the
first publish of the flush fails. -/
def Sample.failedResume : List Label :=
  Sample.start ++ [Sample.read, .nextTransaction, .published false, .nextTransaction,
    .published false, .nextTransaction, .delayElapsed, .natsEvent .disconnected,
    .natsEvent .connected, .stateChanged, .handleStateChange, .published false, .unpaused]

/-- The reader then goes on to fetch with both messages in the buffer. -/
theorem failed_resume_reads_on_buffered_messages :
    ¬ ∀ s, Reaches Sample.deployment Sample.failedResume s → ReadsOnEmptyBuffer s := by
  intro claimed
  have ends : (Runs.run (step Sample.deployment) (State.initial Sample.deployment)
      Sample.failedResume).map (fun s => (s.task.fetches, s.publisher.buffer.len)) =
        some (true, 2) := by
    decide +kernel
  obtain ⟨s, reached, values⟩ := Option.map_eq_some_iff.mp ends
  obtain ⟨fetching, waiting⟩ := Prod.mk.inj values
  have nothing := (claimed s reached).2 fetching
  unfold MessageBuffer.len at waiting
  rw [nothing] at waiting
  cases waiting

/-! ### A pause that something will end -/

/-- Outside the handler of a state change and outside a flush. -/
def Task.settled : Task → Bool
  | .down => false
  | .stateChanged => false
  | .flush _caller _message _request _rest => false
  | _ => true

namespace Task

variable {task : Task}

theorem up_of_settled (settled : task.settled = true) : task ≠ .down := by
  intro down
  rw [down] at settled
  cases settled

theorem drained_of_settled (settled : task.settled = true) : task.drained = [] := by
  cases task with
  | flush caller message request later => cases settled
  | _ => rfl

end Task

/-- A message waits, the connection is down, or a change has not been seen. -/
def ResumeDue (s : State) : Prop :=
  s.publisher.buffer.buffer ≠ [] ∨ s.nats.value = .disconnected ∨
    s.nats.hasChanged s.seen = true

structure Resumable (s : State) : Prop where
  seenSent : s.seen ≤ s.nats.version
  /-- A message on its way to JetStream still fits into the buffer. -/
  room : ∀ latest batch message request rest,
    s.task = .select (.publish latest batch message request rest) →
      s.publisher.buffer.isFull = false
  due : s.task.settled = true → s.publisher.pause = true → ResumeDue s

namespace Resumable

variable {deployment : Deployment} {s after : State}

theorem moved (resumable : Resumable s) (publisher : after.publisher = s.publisher)
    (nats : after.nats = s.nats) (seen : after.seen = s.seen) (settled : s.task.settled = true)
    (elsewhere : ∀ latest batch message request rest,
      after.task ≠ .select (.publish latest batch message request rest)) :
    Resumable after := by
  constructor
  · rw [nats, seen]
    exact resumable.seenSent
  · intro latest batch message request rest here
    exact absurd here (elsewhere latest batch message request rest)
  · intro _settled
    unfold ResumeDue
    rw [publisher, nats, seen]
    exact resumable.due settled

theorem unchanged (resumable : Resumable s) (publisher : after.publisher = s.publisher)
    (nats : after.nats = s.nats) (seen : after.seen = s.seen) (task : after.task = s.task) :
    Resumable after := by
  constructor
  · rw [nats, seen]
    exact resumable.seenSent
  · rw [task, publisher]
    exact resumable.room
  · unfold ResumeDue
    rw [task, publisher, nats, seen]
    exact resumable.due

theorem now (resumable : Resumable s) (nats : after.nats = s.nats) (seen : after.seen = s.seen)
    (elsewhere : ∀ latest batch message request rest,
      after.task ≠ .select (.publish latest batch message request rest))
    (due : after.publisher.pause = true → ResumeDue after) : Resumable after := by
  constructor
  · rw [nats, seen]
    exact resumable.seenSent
  · intro latest batch message request rest here
    exact absurd here (elsewhere latest batch message request rest)
  · intro _settled
    exact due

end Resumable

private theorem State.loopTop_not_publishing (s : State) (latest : Nat) (batch : BatchResult)
    (message : TransactionMessage) (request : Nat) (rest : List TransactionMessage) :
    s.loopTop.task ≠ .select (.publish latest batch message request rest) :=
  s.loopTop_cases
    (motive := fun task => task ≠ .select (.publish latest batch message request rest))
    nofun nofun

namespace Resumable

variable {deployment : Deployment} {s after : State}

theorem released (resumable : Resumable s) {handled : State} (nats : handled.nats = s.nats)
    (seen : handled.seen = s.seen) :
    Resumable (handled.sendPause false).settleCursor.loopTop := by
  refine resumable.now ?_ ?_ (State.loopTop_not_publishing _) ?_
  · exact (State.settleCursor_nats _).trans nats
  · exact (State.settleCursor_seen _).trans seen
  · intro pause
    rw [State.signalled_publisher] at pause
    cases pause

theorem busy (seenSent : after.seen ≤ after.nats.version) (busy : after.task.settled = false) :
    Resumable after := by
  constructor
  · exact seenSent
  · intro latest batch message request rest here
    rw [here] at busy
    cases busy
  · intro settled
    rw [busy] at settled
    cases settled

private theorem connectionChanged (resumable : Resumable s) (state : ConnectionState) :
    Resumable { s with nats := s.nats.send state } := by
  constructor
  · exact Nat.le_succ_of_le resumable.seenSent
  · exact resumable.room
  · intro _settled _pause
    right; right
    apply bne_iff_ne.mpr
    exact Nat.ne_of_gt (Nat.lt_succ_of_le resumable.seenSent)

theorem heldBack (resumable : Resumable s) (message : TransactionMessage) {task : Task}
    (elsewhere : ∀ latest batch message request rest,
      task ≠ .select (.publish latest batch message request rest)) :
    Resumable ((s.holdBack message).goto task) := by
  refine resumable.now rfl rfl elsewhere ?_
  intro _pause
  exact .inl (List.append_ne_nil_of_right_ne_nil _ (List.cons_ne_nil _ _))

theorem step {label : Label} (resumable : Resumable s)
    (moved : Transition deployment s label after) : Resumable after := by
  cases moved with
  | elapse millis => exact resumable.unchanged rfl rfl rfl rfl
  | natsEvent state up => exact resumable.connectionChanged state
  | receive request jetstream received => exact resumable.unchanged rfl rfl rfl rfl
  | shutdownSignal up => exact resumable.unchanged rfl rfl rfl rfl
  | crash up => exact busy resumable.seenSent rfl
  | start settings readable events store startBlock here loaded determined =>
      refine ⟨Nat.zero_le _, ?_, fun _settled pause => nomatch pause⟩
      intro latest batch message request rest publishing
      exact absurd publishing (State.loopTop_not_publishing _ _ _ _ _ _)
  | delayElapsed here running =>
      exact resumable.moved rfl rfl rfl (here ▸ rfl) (State.loopTop_not_publishing _)
  | delayCancelled here cancelled =>
      exact resumable.moved rfl rfl rfl (here ▸ rfl) nofun
  | delayBroken here cancelled => exact resumable.moved rfl rfl rfl (here ▸ rfl) nofun
  | selectBroken reading here awaits cancelled =>
      exact resumable.moved rfl rfl rfl (here ▸ rfl) nofun
  | stateChanged reading here awaits changed => exact busy (Nat.le_refl _) rfl
  | resumed here connected nothing => exact resumable.released rfl rfl
  | paused here disconnected =>
      refine resumable.now ?_ ?_ (State.loopTop_not_publishing _) ?_
      · exact State.settleCursor_nats _
      · exact State.settleCursor_seen _
      · intro _pause
        right; left
        exact (congrArg Watch.value (s.sendPause true).settleCursor_nats).trans disconnected
  | flushTick reading here awaits => exact resumable.moved rfl rfl rfl (here ▸ rfl) nofun
  | persisted success here =>
      obtain ⟨file, same⟩ := s.writeFile_eq success
      rw [same]
      exact resumable.moved rfl rfl rfl (here ▸ rfl) nofun
  | finalPersisted success here =>
      obtain ⟨file, same⟩ := s.writeFile_eq success
      rw [same]
      exact busy resumable.seenSent rfl
  | resumeSkipped here skipped =>
      exact resumable.moved rfl rfl rfl (here ▸ rfl) (State.loopTop_not_publishing _)
  | flushStarted caller message later here connected buffered labelled =>
      exact busy resumable.seenSent rfl
  | flushAcked caller message request next later here received =>
      exact busy resumable.seenSent rfl
  | flushDone caller message request here received => exact resumable.released rfl rfl
  | flushFailedResumed message request later here => exact resumable.released rfl rfl
  | flushFailedHeld message request later here =>
      refine resumable.now rfl rfl (State.loopTop_not_publishing _) ?_
      intro _pause
      left
      intro nothing
      have returned := (s.publisher.buffer.extendFront_buffer (message :: later)).symm.trans
        nothing
      cases returned
  | unpaused here flowing => exact resumable.moved rfl rfl rfl (here ▸ rfl) nofun
  | retried label reading here retry => exact resumable
  | caughtUp latest here ahead =>
      exact resumable.moved rfl rfl rfl (here ▸ rfl) (State.loopTop_not_publishing _)
  | behind latest here available => exact resumable.moved rfl rfl rfl (here ▸ rfl) nofun
  | batchRead latest fetch order batch here success =>
      exact resumable.moved rfl rfl rfl (here ▸ rfl) nofun
  | batchEmpty latest batch here empty =>
      obtain ⟨needsDelay, same⟩ := s.pace_eq (latest - batch.endBlock)
      rw [same]
      exact resumable.moved rfl rfl rfl (here ▸ rfl) (State.loopTop_not_publishing _)
  | batchDelivered latest batch here nonempty nothing =>
      obtain ⟨needsDelay, same⟩ := ((s.advance batch.endBlock).updateStore
        batch.endBlock).pace_eq (latest - batch.endBlock)
      rw [same]
      exact resumable.moved rfl rfl rfl (here ▸ rfl) (State.loopTop_not_publishing _)
  | batchHeld latest batch here nonempty waiting =>
      obtain ⟨needsDelay, same⟩ := (s.advance batch.endBlock).pace_eq
        (latest - batch.endBlock)
      rw [same]
      exact resumable.moved rfl rfl rfl (here ▸ rfl) (State.loopTop_not_publishing _)
  | bufferFull latest batch transaction later here full =>
      exact resumable.moved rfl rfl rfl (here ▸ rfl) nofun
  | handed latest batch transaction later here room connected =>
      refine ⟨resumable.seenSent, fun _ _ _ _ _ _ => room, fun _settled => ?_⟩
      exact resumable.due (here ▸ rfl)
  | buffered latest batch transaction later here room disconnected =>
      exact resumable.heldBack transaction nofun
  | publishAcked latest batch message request later here received =>
      exact resumable.moved rfl rfl rfl (here ▸ rfl) nofun
  | publishFailed latest batch message request later here room =>
      exact resumable.heldBack message nofun
  | publishRejected latest batch message request later here full =>
      rw [resumable.room latest batch message request later here] at full
      cases full
  | waitElapsed latest batch later here running =>
      exact resumable.moved rfl rfl rfl (here ▸ rfl) nofun
  | waitCancelled latest batch later here cancelled =>
      exact resumable.moved rfl rfl rfl (here ▸ rfl) (State.loopTop_not_publishing _)
  | errorSlept latest batch later here =>
      exact resumable.moved rfl rfl rfl (here ▸ rfl) nofun

theorem initial (deployment : Deployment) : Resumable (State.initial deployment) :=
  busy (Nat.le_refl 0) rfl

end Resumable

/-- Between two steps of the loop the reader is never left paused with nothing
that would resume it. -/
theorem paused_reader_will_resume {deployment : Deployment} {labels : List Label} {s : State}
    (reached : Reaches deployment labels s) (settled : s.task.settled = true)
    (pause : s.publisher.pause = true) : ResumeDue s := by
  have resumable : Resumable s :=
    reached.always (Resumable.initial deployment)
      (fun _s _label _next resumable moved => resumable.step moved)
  exact resumable.due settled pause

/-- The connection drops, and comes back after the drop has been handled. -/
def Sample.reconnection : List Label :=
  Sample.start ++ [.natsEvent .disconnected, .stateChanged, .handleStateChange,
    .natsEvent .connected]

theorem paused_reader_will_resume_reconnection :
    ∃ s, Reaches Sample.deployment Sample.reconnection s ∧ s.nats.value = .connected ∧
      s.publisher.buffer.len = 0 ∧ ResumeDue s := by
  have ends : (Runs.run (step Sample.deployment) (State.initial Sample.deployment)
      Sample.reconnection).map (fun s => (s.task.settled, s.publisher.pause, s.nats.value,
        s.publisher.buffer.len)) = some (true, true, .connected, 0) := by
    decide +kernel
  obtain ⟨s, reached, values⟩ := Option.map_eq_some_iff.mp ends
  simp only [Prod.mk.injEq] at values
  obtain ⟨settled, pause, connected, nothing⟩ := values
  exact ⟨s, reached, connected, nothing, paused_reader_will_resume reached settled pause⟩

end NoxIngestor
