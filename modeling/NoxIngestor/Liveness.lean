/-
The health endpoint and forward progress.

`record_success` is called when a batch has been read, not when it has been
completed.  The answer therefore follows reads, starts and caught-up iterations,
and agrees with forward progress exactly as long as these keep pace.
-/

import NoxIngestor.NoLoss

namespace NoxIngestor

/-! ### What the liveness record tracks -/

/-- What sets the liveness record: a start, or `record_success`. -/
def Event.recorded : Event → Bool
  | .started _block => true
  | event => event.success

/-- Forward progress: a start, a completed batch, a caught-up iteration. -/
def Event.progress : Event → Bool
  | .started _block => true
  | .advanced _endBlock => true
  | .caughtUp => true
  | _ => false

def Event.isFetched : Event → Bool
  | .fetched _endBlock => true
  | _ => false

def Event.isAdvanced : Event → Bool
  | .advanced _endBlock => true
  | _ => false

private theorem Event.recorded_of_quiet {event : Event} (quiet : event.quiet = true) :
    event.recorded = false := by
  cases event with
  | handed message => rfl
  | acked message => rfl
  | advanced endBlock => rfl
  | started block => cases quiet
  | fetched endBlock => cases quiet
  | caughtUp => cases quiet
  | updated block => cases quiet

private theorem Event.recorded_of_success {event : Event} (success : event.success = true) :
    event.recorded = true := by
  cases event with
  | started block => rfl
  | _ => exact success

namespace IngestionLiveness

def lastSuccess (liveness : IngestionLiveness) : Nat :=
  liveness.createdAt + liveness.lastSuccessMillis

@[simp] theorem lastSuccess_new (now : Nat) (stallThreshold : Duration) :
    (IngestionLiveness.new now stallThreshold).lastSuccess = now := rfl

private theorem lastSuccess_recordSuccess {liveness : IngestionLiveness} {now : Nat}
    (passed : liveness.lastSuccess ≤ now) : (liveness.recordSuccess now).lastSuccess = now := by
  unfold lastSuccess at passed
  have created : liveness.createdAt ≤ now := by omega
  exact Nat.add_sub_cancel' created

private theorem elapsed_eq (liveness : IngestionLiveness) (now : Nat) :
    liveness.elapsed now = Duration.fromMillis (now - liveness.lastSuccess) := by
  unfold elapsed lastSuccess
  rw [Nat.sub_sub]

end IngestionLiveness

theorem Transition.of_down {deployment : Deployment} {s after : State} {label : Label}
    (moved : Transition deployment s label after) (down : s.task = .down) :
    after.task = .down ∨ ∃ startBlock stallThreshold,
      after.trace = [(s.clock, .started startBlock)] ∧
        after.liveness = .new s.clock stallThreshold := by
  cases moved with
  | elapse millis => exact .inl down
  | receive request jetstream received => exact .inl down
  | crash up => exact .inl rfl
  | finalPersisted success here => exact .inl rfl
  | start settings readable events store startBlock here loaded determined =>
      exact .inr ⟨startBlock, settings.healthStallThreshold, rfl, rfl⟩
  | natsEvent state up => exact absurd down up
  | shutdownSignal up => exact absurd down up
  | flushStarted caller message later here connected buffered labelled =>
      rw [down] at here
      cases caller <;> cases here
  | _ => simp_all only [reduceCtorEq]

/-- The record holds the time of the last event that sets it. -/
structure Tracks (s : State) : Prop where
  passed : s.liveness.lastSuccess ≤ s.clock
  last : ∀ entry ∈ s.trace, entry.2.recorded = true → entry.1 ≤ s.liveness.lastSuccess
  found : s.task ≠ .down → ∃ entry ∈ s.trace, entry.2.recorded = true ∧
    entry.1 = s.liveness.lastSuccess

namespace Tracks

variable {deployment : Deployment} {s after : State} {label : Label}

theorem quiet (tracks : Tracks s) (moved : Transition deployment s label after)
    (clock : s.clock ≤ after.clock) (liveness : after.liveness = s.liveness)
    (logged : List (Nat × Event)) (silent : ∀ entry ∈ logged, entry.2.recorded = false)
    (trace : after.trace = logged ++ s.trace) : Tracks after := by
  constructor
  · rw [liveness]
    exact Nat.le_trans tracks.passed clock
  · intro entry member recorded
    rw [liveness]
    rw [trace] at member
    rcases List.mem_append.mp member with new | old
    · rw [silent entry new] at recorded
      cases recorded
    · exact tracks.last entry old recorded
  · intro up
    by_cases down : s.task = .down
    · rcases moved.of_down down with stays | ⟨startBlock, stallThreshold, started, fresh⟩
      · exact absurd stays up
      · rw [started, fresh]
        exact ⟨_, List.mem_singleton_self _, rfl, rfl⟩
    · obtain ⟨entry, member, recorded, time⟩ := tracks.found down
      rw [trace, liveness]
      exact ⟨entry, List.mem_append_right logged member, recorded, time⟩

private theorem stamped_silent {events : List Event} (quiet : Quiet s events) :
    ∀ entry ∈ s.stamped events, entry.2.recorded = false := by
  intro entry member
  obtain ⟨event, logged, rfl⟩ := List.mem_map.mp member
  exact Event.recorded_of_quiet (quiet.quiet event logged)

theorem step (tracks : Tracks s) (moved : Transition deployment s label after) :
    Tracks after := by
  cases LedgerStep.of_transition moved with
  | unchanged same =>
      exact tracks.quiet moved (congrArg Ledger.clock same).ge
        (congrArg Ledger.liveness same) [] nofun (congrArg Ledger.trace same)
  | elapsed millis labelled same =>
      have clock : after.clock = s.clock + millis := congrArg Ledger.clock same
      exact tracks.quiet moved (by omega) (congrArg Ledger.liveness same) [] nofun
        (congrArg Ledger.trace same)
  | logged events quiet same =>
      exact tracks.quiet moved (congrArg Ledger.clock same).ge
        (congrArg Ledger.liveness same) _ (stamped_silent quiet)
        (congrArg Ledger.trace same)
  | updated events quiet block reason same =>
      apply tracks.quiet moved (congrArg Ledger.clock same).ge
        (congrArg Ledger.liveness same) ((s.clock, .updated block) :: s.stamped events) _
        (congrArg Ledger.trace same)
      intro entry member
      rcases List.mem_cons.mp member with rfl | earlier
      · rfl
      · exact stamped_silent quiet entry earlier
  | written persists same =>
      exact tracks.quiet moved (congrArg Ledger.clock same).ge
        (congrArg Ledger.liveness same) [] nofun (congrArg Ledger.trace same)
  | succeeded event success same =>
      have clock : after.clock = s.clock := congrArg Ledger.clock same
      have trace : after.trace = (s.clock, event) :: s.trace := congrArg Ledger.trace same
      have now : after.liveness.lastSuccess = s.clock := by
        rw [show after.liveness = _ from congrArg Ledger.liveness same]
        exact IngestionLiveness.lastSuccess_recordSuccess tracks.passed
      constructor
      · rw [now, clock]
      · intro entry member recorded
        rw [now]
        rw [trace] at member
        rcases List.mem_cons.mp member with rfl | old
        · exact Nat.le_refl _
        · exact Nat.le_trans (tracks.last entry old recorded) tracks.passed
      · intro _up
        rw [now, trace]
        exact ⟨_, List.mem_cons_self, Event.recorded_of_success success, rfl⟩
  | restarted readable store startBlock stallThreshold loaded determined next same =>
      have clock : after.clock = s.clock := congrArg Ledger.clock same
      have trace : after.trace = [(s.clock, .started startBlock)] :=
        congrArg Ledger.trace same
      have now : after.liveness.lastSuccess = s.clock := by
        rw [show after.liveness = _ from congrArg Ledger.liveness same]
        exact IngestionLiveness.lastSuccess_new s.clock stallThreshold
      constructor
      · rw [now, clock]
      · intro entry member _recorded
        rw [trace] at member
        rw [now, List.mem_singleton.mp member]
      · intro _up
        rw [now, trace]
        exact ⟨_, List.mem_singleton_self _, rfl, rfl⟩

theorem initial : Tracks (State.initial deployment) :=
  { passed := Nat.le_refl 0
    last := nofun
    found := fun up => absurd rfl up }

theorem of_run {labels : List Label} (reached : Reaches deployment labels s) : Tracks s :=
  reached.always initial fun _s _label _next tracks moved => tracks.step moved

end Tracks

/-! ### The answer -/

/-- Such an event was logged within the stall threshold. -/
def Within (s : State) (kind : Event → Bool) : Prop :=
  ∃ entry ∈ s.trace, kind entry.2 = true ∧
    Duration.fromMillis (s.clock - entry.1) ≤ s.liveness.stallThreshold

instance (s : State) (kind : Event → Bool) : Decidable (Within s kind) :=
  inferInstanceAs (Decidable (∃ entry ∈ _, _ ∧ _ ≤ _))

theorem Within.imp {s : State} {kind other : Event → Bool}
    (implied : ∀ event, kind event = true → other event = true) (within : Within s kind) :
    Within s other := by
  obtain ⟨entry, member, isKind, recent⟩ := within
  exact ⟨entry, member, implied entry.2 isKind, recent⟩

/-- The answer is 200 exactly while the process started, read a batch or was
caught up within the threshold. -/
theorem Tracks.healthy_iff {s : State} (tracks : Tracks s) (up : s.task ≠ .down) :
    (healthCheck s.liveness s.clock).status = 200 ↔ Within s Event.recorded := by
  rw [healthCheck_status_iff, IngestionLiveness.elapsed_eq]
  constructor
  · intro recent
    obtain ⟨entry, member, recorded, time⟩ := tracks.found up
    rw [← time] at recent
    exact ⟨entry, member, recorded, recent⟩
  · rintro ⟨entry, member, recorded, recent⟩
    have earlier := tracks.last entry member recorded
    refine Nat.le_trans (Nat.mul_le_mul_left 1000000 ?_) recent
    omega

/-- The answer is 200 exactly while there was forward progress within the
threshold. -/
def HealthReflectsProgress (s : State) : Prop :=
  (healthCheck s.liveness s.clock).status = 200 ↔ Within s Event.progress

instance (s : State) : Decidable (HealthReflectsProgress s) :=
  inferInstanceAs (Decidable (_ ↔ _))

/-- Reads and completed batches keep pace: neither kind is recent alone.  A batch breaks
`read` when it takes so long that it is completed within the threshold but was read before
it, and `completed` when it is read within the threshold and dropped or still unfinished. -/
structure KeepsPace (s : State) : Prop where
  completed : Within s Event.isFetched → Within s Event.progress
  read : Within s Event.isAdvanced → Within s Event.recorded

private theorem recorded_cases {s : State} (recorded : Within s Event.recorded) :
    Within s Event.isFetched ∨ Within s Event.progress := by
  obtain ⟨⟨time, event⟩, member, isRecorded, recent⟩ := recorded
  cases event with
  | started block => exact .inr ⟨_, member, rfl, recent⟩
  | fetched endBlock => exact .inl ⟨_, member, rfl, recent⟩
  | caughtUp => exact .inr ⟨_, member, rfl, recent⟩
  | _ => cases isRecorded

private theorem progress_cases {s : State} (progress : Within s Event.progress) :
    Within s Event.isAdvanced ∨ Within s Event.recorded := by
  obtain ⟨⟨time, event⟩, member, isProgress, recent⟩ := progress
  cases event with
  | started block => exact .inr ⟨_, member, rfl, recent⟩
  | advanced endBlock => exact .inl ⟨_, member, rfl, recent⟩
  | caughtUp => exact .inr ⟨_, member, rfl, recent⟩
  | _ => cases isProgress

/-- In every state of every run, health reflects forward progress exactly when
reads and completed batches keep pace. -/
theorem health_reflects_progress_iff {deployment : Deployment} {labels : List Label}
    {s : State} (reached : Reaches deployment labels s) (up : s.task ≠ .down) :
    HealthReflectsProgress s ↔ KeepsPace s := by
  have healthy := (Tracks.of_run reached).healthy_iff up
  have fetched : Within s Event.isFetched → Within s Event.recorded := by
    apply Within.imp
    intro event isFetched
    cases event with
    | fetched endBlock => rfl
    | _ => cases isFetched
  have advanced : Within s Event.isAdvanced → Within s Event.progress := by
    apply Within.imp
    intro event isAdvanced
    cases event with
    | advanced endBlock => rfl
    | _ => cases isAdvanced
  unfold HealthReflectsProgress
  rw [healthy]
  constructor
  · intro same
    exact ⟨fun read => same.mp (fetched read), fun completed => same.mpr (advanced completed)⟩
  · intro pace
    constructor
    · intro recorded
      rcases recorded_cases recorded with read | progress
      · exact pace.completed read
      · exact progress
    · intro progress
      rcases progress_cases progress with completed | recorded
      · exact pace.read completed
      · exact recorded

theorem health_reflects_progress_iff_delivery :
    ∃ s, Reaches Sample.deployment Sample.delivery s ∧ HealthReflectsProgress s := by
  have ends : (Runs.run (step Sample.deployment) (State.initial Sample.deployment)
      Sample.delivery).map (fun s => (s.task.settled,
        decide (Within s Event.progress), decide (Within s Event.recorded))) =
          some (true, true, true) := by
    decide +kernel
  obtain ⟨s, reached, values⟩ := Option.map_eq_some_iff.mp ends
  simp only [Prod.mk.injEq, decide_eq_true_eq] at values
  obtain ⟨settled, progress, recorded⟩ := values
  have up : s.task ≠ .down := Task.up_of_settled settled
  refine ⟨s, reached, (health_reflects_progress_iff reached up).mpr ?_⟩
  exact ⟨fun _read => progress, fun _completed => recorded⟩

/-- With a threshold of ten seconds, a batch is read and cut every five seconds. -/
def Sample.rereads : List Label :=
  .start { Sample.settings with healthStallThreshold := Duration.fromMillis 10000 } true
      [.connected] ::
    [.stateChanged, .handleStateChange, .unpaused, .latestBlock (.ok 101)] ++
      Sample.cutBatch 0 ++ Sample.cutBatch 2 ++ Sample.cutBatch 4 ++ [Sample.read]

/-- After fifteen seconds without any progress the answer is 200. -/
theorem rereading_loop_is_healthy :
    ¬ ∀ s, Reaches Sample.deployment Sample.rereads s → HealthReflectsProgress s := by
  intro claimed
  have ends : (Runs.run (step Sample.deployment) (State.initial Sample.deployment)
      Sample.rereads).map (fun s => ((healthCheck s.liveness s.clock).status,
        decide (Within s Event.progress), decide (HealthReflectsProgress s))) =
          some (200, false, false) := by
    decide +kernel
  obtain ⟨s, reached, values⟩ := Option.map_eq_some_iff.mp ends
  simp only [Prod.mk.injEq, decide_eq_false_iff_not] at values
  exact values.2.2 (claimed s reached)

end NoxIngestor
