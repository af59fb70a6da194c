/-
A session that has been asked to stop.

After the signal the handlers still run to their ends, and the `select!`, which looks
for the signal before anything else, runs no other branch again.  So the session ends
within a number of steps that what it holds bounds, unless the process is killed.
-/

import NoxIngestor.Recovery

namespace NoxIngestor

/-! ### The bias of the `select!` -/

/-- A step of the session's own task, not of the world around it. -/
def Label.own : Label → Bool
  | .elapse _millis => false
  | .natsEvent _state => false
  | .receive _request => false
  | .shutdownSignal => false
  | .crash => false
  | .start _settings _readable _events => false
  | _ => true

/-- The process is neither killed nor started. -/
def Label.spares : Label → Bool
  | .crash => false
  | .start _settings _readable _events => false
  | _ => true

/-- What the task may do at an await point of the `select!` once the token is
cancelled.  The wait for room in the buffer looks at the token itself. -/
def Reading.obeys : Reading → Label → Bool
  | _, .breakLoop => true
  | .waitInterval _ _ _, .waitElapsed => true
  | reading, label => !(reading.isAwait && label.own)

/-- The first branch of the `select!` is the shutdown.  A step that had begun when the
signal came counts as taken before it. -/
def State.biased (s : State) (label : Label) : Bool :=
  match s.task with
  | .select reading => !s.shutdown || reading.obeys label
  | _ => true

/-- The process lives, and its task is scheduled as the `select!` says. -/
def Graceful (s : State) (label : Label) : Prop :=
  label.spares = true ∧ s.biased label = true

instance {s : State} {label : Label} : Decidable (Graceful s label) :=
  inferInstanceAs (Decidable (label.spares = true ∧ s.biased label = true))

/-! ### The steps that are left -/

def Reading.stepsToStop : Reading → Nat
  | .publishing _ _ rest => rest.length + 4
  | .waitInterval _ _ _ => 3
  | _ => 2

private theorem Reading.stepsToStop_pos (reading : Reading) : 2 ≤ reading.stepsToStop := by
  cases reading with
  | publishing latest batch rest => exact Nat.le_add_left 2 (rest.length + 2)
  | waitInterval latest batch rest => exact Nat.le_succ 2
  | _ => exact Nat.le_refl 2

/-- With this many messages in the buffer. -/
def Task.stepsToStop (buffered : Nat) : Task → Nat
  | .down => 0
  | .finalPersist => 1
  | .delay => 2
  | .select reading => reading.stepsToStop
  | .flush _ _ _ rest => rest.length + 3
  | .tryResume => buffered + 3
  | .stateChanged => buffered + 3
  | .persist => buffered + 4

/-- An upper bound for the steps a session takes once it has been asked to stop. -/
def State.stepsToStop (s : State) : Nat := s.task.stepsToStop s.publisher.buffer.len

def Task.unpublished (task : Task) : Nat :=
  match task.batch with
  | some (_batch, remaining) => remaining.length
  | none => 0

private theorem State.stepsToStop_le (s : State) :
    s.stepsToStop ≤ s.held.length + s.task.unpublished + 4 := by
  unfold stepsToStop State.held
  rw [List.length_append]
  cases s.task with
  | select reading =>
      cases reading <;>
        simp only [Task.stepsToStop, Reading.stepsToStop, Task.unpublished, Task.batch] <;> omega
  | flush caller message request rest =>
      simp only [Task.stepsToStop, Task.drained, List.length_cons]
      omega
  | _ =>
      simp only [Task.stepsToStop, MessageBuffer.len]
      omega

private theorem State.stepsToStop_eq_zero (s : State) : s.stepsToStop = 0 ↔ s.task = .down := by
  unfold stepsToStop
  cases s.task with
  | select reading =>
      have left : 0 < reading.stepsToStop :=
        Nat.lt_of_lt_of_le Nat.zero_lt_two reading.stepsToStop_pos
      exact ⟨fun zero => absurd zero (Nat.ne_of_gt left), nofun⟩
  | down => exact ⟨fun _zero => rfl, fun _down => rfl⟩
  | _ => exact ⟨nofun, nofun⟩

private theorem State.loopTop_stepsToStop (s : State) : s.loopTop.stepsToStop = 2 :=
  s.loopTop_cases (motive := fun task => task.stepsToStop _ = 2) rfl rfl

private theorem State.pace_stepsToStop (s : State) (gap : Nat) : (s.pace gap).stepsToStop = 2 := by
  obtain ⟨needsDelay, same⟩ := s.pace_eq gap
  rw [same]
  exact State.loopTop_stepsToStop _

section Stopping

variable {deployment : Deployment} {s after : State} {label : Label}

private theorem State.stepsToStop_at {task : Task} (here : s.task = task) :
    s.stepsToStop = task.stepsToStop s.publisher.buffer.len :=
  congrArg (Task.stepsToStop s.publisher.buffer.len) here

private theorem State.stepsToStop_of_site {caller : FlushCaller} (here : s.task = caller.site) :
    s.stepsToStop = s.publisher.buffer.len + 3 := by
  rw [State.stepsToStop_at here]
  cases caller <;> rfl

private theorem State.obeys_of_biased {reading : Reading} (here : s.task = .select reading)
    (stopping : s.shutdown = true) (first : s.biased label = true) :
    reading.obeys label = true := by
  unfold biased at first
  rw [here, stopping] at first
  exact first

private theorem Reading.not_obeys {reading : Reading} (awaits : reading.isAwait = true) :
    reading.obeys .stateChanged = false ∧ reading.obeys .flushTick = false := by
  cases reading with
  | publishing latest batch rest => cases awaits
  | _ => exact ⟨rfl, rfl⟩

theorem Transition.nearer (moved : Transition deployment s label after)
    (stopping : s.shutdown = true) (graceful : Graceful s label) :
    after.stepsToStop + label.own.toNat ≤ s.stepsToStop := by
  have counted : label.own.toNat ≤ 1 := Bool.toNat_le label.own
  have waits {reading : Reading} (here : s.task = .select reading)
      (idle : reading.obeys label = false) : False := by
    have obeys := State.obeys_of_biased here stopping graceful.2
    rw [idle] at obeys
    cases obeys
  have fromFlush {caller : FlushCaller} {message : TransactionMessage} {request : Nat}
      {rest : List TransactionMessage} (here : s.task = .flush caller message request rest)
      (atHead : after.stepsToStop = 2) : after.stepsToStop + label.own.toNat ≤ s.stepsToStop := by
    have before : s.stepsToStop = rest.length + 3 := State.stepsToStop_at here
    omega
  have fromPublishing {latest : Nat} {batch : BatchResult} {rest : List TransactionMessage}
      (here : s.task = .select (.publishing latest batch rest))
      (closer : after.stepsToStop ≤ rest.length + 3) :
      after.stepsToStop + label.own.toNat ≤ s.stepsToStop := by
    have before : s.stepsToStop = rest.length + 4 := State.stepsToStop_at here
    omega
  cases moved with
  | elapse millis => exact Nat.le_refl _
  | natsEvent state up => exact Nat.le_refl _
  | receive request jetstream received => exact Nat.le_refl _
  | shutdownSignal up => exact Nat.le_refl _
  | crash up => cases graceful.1
  | start settings readable events store startBlock here loaded determined => cases graceful.1
  | delayElapsed here running => exact absurd stopping (Bool.eq_false_iff.mp running)
  | delayCancelled here cancelled => exact (State.stepsToStop_at here).ge
  | delayBroken here cancelled => exact (State.stepsToStop_at here).ge
  | selectBroken reading here awaits cancelled =>
      rw [State.stepsToStop_at here]
      exact reading.stepsToStop_pos
  | stateChanged reading here awaits changed =>
      exact (waits here (Reading.not_obeys awaits).1).elim
  | resumed here connected nothing =>
      have before : s.stepsToStop = s.publisher.buffer.len + 3 := State.stepsToStop_at here
      have atHead := State.loopTop_stepsToStop (s.sendPause false).settleCursor
      omega
  | paused here disconnected =>
      have before : s.stepsToStop = s.publisher.buffer.len + 3 := State.stepsToStop_at here
      have atHead := State.loopTop_stepsToStop (s.sendPause true).settleCursor
      omega
  | flushTick reading here awaits => exact (waits here (Reading.not_obeys awaits).2).elim
  | persisted success here =>
      have before : s.stepsToStop = s.publisher.buffer.len + 4 := State.stepsToStop_at here
      rw [before, State.stepsToStop, State.goto, State.writeFile_publisher]
      exact Nat.le_refl _
  | finalPersisted success here => exact (State.stepsToStop_at here).ge
  | resumeSkipped here skipped =>
      have before : s.stepsToStop = s.publisher.buffer.len + 3 := State.stepsToStop_at here
      have atHead := s.loopTop_stepsToStop
      omega
  | flushStarted caller message later here connected buffered labelled =>
      have before : s.stepsToStop = (message :: later).length + 3 := by
        rw [State.stepsToStop_of_site here, MessageBuffer.len, buffered]
      have waiting : (s.takeBuffer.flushNext caller message later).stepsToStop =
          later.length + 3 := rfl
      rw [List.length_cons] at before
      omega
  | flushAcked caller message request next later here received =>
      have before : s.stepsToStop = (next :: later).length + 3 := State.stepsToStop_at here
      exact before.ge
  | flushDone caller message request here received =>
      exact fromFlush here (State.loopTop_stepsToStop _)
  | flushFailedResumed message request later here =>
      exact fromFlush here (State.loopTop_stepsToStop _)
  | flushFailedHeld message request later here =>
      exact fromFlush here (State.loopTop_stepsToStop _)
  | unpaused here flowing => exact (waits here rfl).elim
  | retried label reading here retry => cases retry <;> exact (waits here rfl).elim
  | caughtUp latest here ahead => exact (waits here rfl).elim
  | behind latest here available => exact (waits here rfl).elim
  | batchRead latest fetch order batch here success => exact (waits here rfl).elim
  | batchEmpty latest batch here empty =>
      exact fromPublishing here ((State.pace_stepsToStop _ _).le.trans (Nat.le_succ 2))
  | batchDelivered latest batch here nonempty nothing =>
      exact fromPublishing here ((State.pace_stepsToStop _ _).le.trans (Nat.le_succ 2))
  | batchHeld latest batch here nonempty waiting =>
      exact fromPublishing here ((State.pace_stepsToStop _ _).le.trans (Nat.le_succ 2))
  | bufferFull latest batch transaction later here full =>
      exact fromPublishing here (Nat.le_add_left 3 _)
  | handed latest batch transaction later here room connected =>
      exact fromPublishing here (Nat.le_add_left 2 _)
  | buffered latest batch transaction later here room disconnected =>
      exact fromPublishing here (Nat.le_refl _)
  | publishAcked latest batch message request later here received =>
      exact (waits here rfl).elim
  | publishFailed latest batch message request later here room => exact (waits here rfl).elim
  | publishRejected latest batch message request later here full => exact (waits here rfl).elim
  | waitElapsed latest batch later here running =>
      exact absurd stopping (Bool.eq_false_iff.mp running)
  | waitCancelled latest batch later here cancelled =>
      have before : s.stepsToStop = 3 := State.stepsToStop_at here
      have atHead := s.loopTop_stepsToStop
      omega
  | errorSlept latest batch later here => exact (waits here rfl).elim

private theorem Transition.stays_stopping (moved : Transition deployment s label after)
    (stopping : s.shutdown = true) (spared : label.spares = true) : after.shutdown = true := by
  by_cases signal : label = .shutdownSignal
  · subst signal
    cases moved with
    | shutdownSignal up => rfl
    | flushStarted caller message later here connected buffered labelled =>
        cases caller <;> cases labelled
    | retried label reading here retry => cases retry
  · have noStart : label.isStart = false := by
      cases label with
      | start settings readable events => cases spared
      | _ => rfl
    rw [moved.shutdown_kept noStart signal]
    exact stopping

theorem State.can_step (stopping : s.shutdown = true) (up : s.task ≠ .down) :
    ∃ label next, label.own = true ∧ Graceful s label ∧
      step deployment s label = some next := by
  have free {label : Label} (own : label.own = true) (spared : label.spares = true)
      (biased : s.biased label = true) {next : State}
      (taken : step deployment s label = some next) :
      ∃ label next, label.own = true ∧ Graceful s label ∧
        step deployment s label = some next :=
    ⟨label, next, own, ⟨spared, biased⟩, taken⟩
  cases here : s.task with
  | down => exact absurd here up
  | delay =>
      have rests : s.task.rests = true := congrArg Task.rests here
      exact free rfl rfl (by simp only [State.biased, here]) (step_breakLoop rests stopping)
  | select reading =>
      cases awaits : reading.isAwait with
      | true =>
          have rests : s.task.rests = true := (congrArg Task.rests here).trans awaits
          have obeys : reading.obeys .breakLoop = true := by cases reading <;> rfl
          exact free rfl rfl (by simp only [State.biased, here, obeys, Bool.or_true])
            (step_breakLoop rests stopping)
      | false =>
          cases reading with
          | publishing latest batch rest =>
              have taken : step deployment s .nextTransaction =
                  some (s.nextTransaction latest batch rest) := by
                simp only [step, here]
              exact free rfl rfl (by simp only [State.biased, here, Reading.obeys, Reading.isAwait,
                Bool.false_and, Bool.not_false, Bool.or_true]) taken
          | _ => cases awaits
  | stateChanged =>
      have taken : step deployment s .handleStateChange = some s.handleStateChange := by
        simp only [step, here]
      exact free rfl rfl (by simp only [State.biased, here]) taken
  | persist =>
      have taken : step deployment s (.persisted true) =
          some ((s.writeFile true).goto .tryResume) := by
        simp only [step, here]
        rfl
      exact free rfl rfl (by simp only [State.biased, here]) taken
  | tryResume =>
      have taken : step deployment s .tryResumeIfConnected = some s.tryResumeIfConnected := by
        simp only [step, here]
      exact free rfl rfl (by simp only [State.biased, here]) taken
  | flush caller message request rest =>
      have taken : step deployment s (.published false) =
          some ({ s with publisher := s.publisher.rebuffer (message :: rest) }.flushFailed
            caller) := by
        simp only [step, here, Bool.false_eq_true, if_false]
      exact free rfl rfl (by simp only [State.biased, here]) taken
  | finalPersist =>
      have taken : step deployment s (.persisted true) =
          some ((s.writeFile true).goto .down) := by
        simp only [step, here]
        rfl
      exact free rfl rfl (by simp only [State.biased, here]) taken

/-- The record in the file is the session's cursor. -/
def State.Saved (s : State) : Prop :=
  ∃ record, s.file = some record ∧ record.lastBlock = s.stateStore.lastSynced

theorem Transition.saves (moved : Transition deployment s label after)
    (spared : label.spares = true) (success : label ≠ .persisted false)
    (saved : s.task = .down → s.Saved) (down : after.task = .down) : after.Saved := by
  have looping {handled : State} (atHead : handled.loopTop.task = .down) : False :=
    handled.loopTop_up atHead
  have pacing {finished : State} {gap : Nat} (atHead : (finished.pace gap).task = .down) :
      False := by
    obtain ⟨needsDelay, same⟩ := finished.pace_eq gap
    rw [same] at atHead
    exact looping atHead
  cases moved with
  | elapse millis => exact saved down
  | receive request jetstream received => exact saved down
  | natsEvent state up => exact absurd down up
  | shutdownSignal up => exact absurd down up
  | crash up => cases spared
  | start settings readable events store startBlock here loaded determined => cases spared
  | finalPersisted written here =>
      cases written with
      | true => exact ⟨_, rfl, rfl⟩
      | false => exact absurd rfl success
  | delayElapsed here running => exact (looping down).elim
  | resumed here connected nothing => exact (looping down).elim
  | paused here disconnected => exact (looping down).elim
  | resumeSkipped here skipped => exact (looping down).elim
  | flushDone caller message request here received => exact (looping down).elim
  | flushFailedResumed message request later here => exact (looping down).elim
  | flushFailedHeld message request later here => exact (looping down).elim
  | caughtUp latest here ahead => exact (looping down).elim
  | batchEmpty latest batch here empty => exact (pacing down).elim
  | batchDelivered latest batch here nonempty nothing => exact (pacing down).elim
  | batchHeld latest batch here nonempty waiting => exact (pacing down).elim
  | waitCancelled latest batch later here cancelled => exact (looping down).elim
  | retried label reading here retry =>
      rw [here] at down
      cases down
  | _ => cases down

/-- Once asked to stop, a session that is not killed takes no more steps than it holds
messages and has transactions of its batch to publish, and four; until it has ended it can
take one; and if nothing went wrong with the file, that holds the cursor in the end. -/
theorem graceful_shutdown {final : State} {labels : List Label} (stopping : s.shutdown = true)
    (up : s.task ≠ .down) (graceful : Runs.Guarded (step deployment) Graceful s labels)
    (reached : Runs.run (step deployment) s labels = some final) :
    labels.countP Label.own ≤ s.held.length + s.task.unpublished + 4 ∧
      (final.task ≠ .down → ∃ label next, label.own = true ∧ Graceful final label ∧
        step deployment final label = some next) ∧
      (final.task = .down → .persisted false ∉ labels → final.Saved) := by
  have preserved : ∀ state label next, Graceful state label → state.shutdown = true →
      step deployment state label = some next →
        next.shutdown = true ∧ next.stepsToStop + label.own.toNat ≤ state.stepsToStop := by
    intro state label next allowed signalled taken
    exact ⟨(step_transition taken).stays_stopping signalled allowed.1,
      (step_transition taken).nearer signalled allowed⟩
  obtain ⟨signalled, spent⟩ := Runs.run_spends preserved graceful stopping reached
  refine ⟨?_, State.can_step signalled, fun down success => ?_⟩
  · have bound := s.stepsToStop_le
    omega
  · have written : ∀ label ∈ labels, label ≠ .persisted false :=
      fun label member failed => success (failed ▸ member)
    have saves : ∀ state label next, (Graceful state label ∧ label ≠ .persisted false) →
        (state.task = .down → state.Saved) → step deployment state label = some next →
          next.task = .down → next.Saved := by
      rintro state label next ⟨allowed, wrote⟩ saved taken
      exact (step_transition taken).saves allowed.1 wrote saved
    exact Runs.run_invariant saves (graceful.and (Runs.guarded_of_labels written))
      (fun ended => absurd ended up) reached down

end Stopping

def Sample.stoppedInFlush : List Label :=
  Sample.start ++ [Sample.read, .nextTransaction, .published false, .nextTransaction,
    .published false, .nextTransaction, .delayElapsed, .flushTick, .persisted true,
    .tryResumeIfConnected, .shutdownSignal]

def Sample.stop : List Label :=
  [.receive 2, .published true, .natsEvent .disconnected, .published false, .breakLoop,
    .persisted true]

theorem graceful_shutdown_stoppedInFlush :
    ∃ s final, Reaches Sample.deployment Sample.stoppedInFlush s ∧
      Runs.run (step Sample.deployment) s Sample.stop = some final ∧
        s.held.length + s.task.unpublished = 2 ∧ final.Saved ∧
          Sample.stop.countP Label.own ≤ s.held.length + s.task.unpublished + 4 := by
  have ends : (Runs.run (step Sample.deployment) (State.initial Sample.deployment)
      Sample.stoppedInFlush).bind (fun s =>
        (Runs.run (step Sample.deployment) s Sample.stop).map fun final =>
          (s.shutdown, s.stepsToStop, s.held.length + s.task.unpublished, final.stepsToStop,
            decide (Runs.Guarded (step Sample.deployment) Graceful s Sample.stop))) =
        some (true, 4, 2, 0, true) := by
    decide +kernel
  obtain ⟨s, reached, later⟩ := Option.bind_eq_some_iff.mp ends
  obtain ⟨final, stopped, values⟩ := Option.map_eq_some_iff.mp later
  simp only [Prod.mk.injEq] at values
  obtain ⟨stopping, left, waiting, none, graceful⟩ := values
  have up : s.task ≠ .down := by
    intro down
    rw [s.stepsToStop_eq_zero.mpr down] at left
    cases left
  have written : .persisted false ∉ Sample.stop := by
    simp only [Sample.stop, List.mem_cons, reduceCtorEq, Label.persisted.injEq, Bool.false_eq_true,
      List.not_mem_nil, or_self, not_false_eq_true]
  obtain ⟨bound, _, saved⟩ :=
    graceful_shutdown stopping up (of_decide_eq_true graceful) stopped
  exact ⟨s, final, reached, stopped, waiting,
    saved (final.stepsToStop_eq_zero.mp none) written, bound⟩

end NoxIngestor
