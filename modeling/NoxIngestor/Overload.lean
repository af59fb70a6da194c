/-
A block with more logs than the provider gives out.

Such a block cannot be fetched, however its range is cut.  The reader stays in front of
it: no session goes past it, and no cursor says that it has been processed.  Once the
next batch would have the block in it, the reader does nothing more that counts as a
success, and the health endpoint says so.
-/

import NoxIngestor.Ceiling
import NoxIngestor.Chain.Capped
import NoxIngestor.Iterations

namespace NoxIngestor

/-- No answer lists more logs than the cap. -/
def Label.Limited (parser : NoxEventParser) (chain : List Log) (cap : Nat) : Label → Prop
  | .batchRead fetch _order => parser.Limited chain cap fetch
  | _ => True

section Batches

variable {reader : BlockReader} {chain : List Log} {cap block : Nat} {fetch : Fetch}
  {startBlock latestBlock : Nat} {order : HashOrder} {batch : BatchResult}

private theorem BlockReader.readBatch_before
    (overloaded : cap < reader.parser.logsIn chain block block)
    (limited : reader.parser.Limited chain cap fetch) (before : startBlock ≤ block)
    (success : reader.readBatch startBlock latestBlock fetch order = .ok batch)
    (positive : 0 < block) : batch.endBlock < block := by
  rcases readBatch_cases success with ⟨_ahead, rfl⟩ | ⟨_available, logs, answered, rfl⟩
  · rcases Nat.eq_zero_or_pos startBlock with rfl | started
    · exact positive
    · exact Nat.lt_of_lt_of_le (Nat.sub_one_lt_of_lt started) before
  · apply Nat.lt_of_not_le
    intro reaches
    have within := fetchable_of_success limited 0 [] _ answered _ (List.mem_singleton_self _)
      block before reaches
    exact absurd within (Nat.not_le_of_lt overloaded)

private theorem BlockReader.not_readBatch
    (overloaded : cap < reader.parser.logsIn chain block block)
    (limited : reader.parser.Limited chain cap fetch) (before : startBlock ≤ block)
    (within : block < startBlock + reader.batchSize)
    (range : startBlock + reader.batchSize < u64Modulus) (head : block ≤ latestBlock)
    (success : reader.readBatch startBlock latestBlock fetch order = .ok batch) : False := by
  rcases readBatch_cases success with ⟨ahead, _⟩ | ⟨_available, logs, answered, _⟩
  · omega
  · have reaches : block ≤ reader.batchEnd startBlock latestBlock := by
      rw [BlockReader.batchEnd_eq (by omega) range]
      omega
    have listed := fetchable_of_success limited 0 [] _ answered _ (List.mem_singleton_self _)
      block before reaches
    exact absurd listed (Nat.not_le_of_lt overloaded)

end Batches

private theorem readsBelow_of_limited {deployment : Deployment} {chain : List Log} {cap block : Nat}
    (overloaded : cap < deployment.parser.logsIn chain block block) (positive : 0 < block)
    {s : State} (next : s.nextBlock ≤ block) {label : Label}
    (limited : label.Limited deployment.parser chain cap) :
    ReadsBelow deployment block s label := by
  cases label with
  | batchRead fetch order =>
      intro latest batch success
      exact (deployment.reader s.batchSize).readBatch_before overloaded limited next success
        positive
  | _ => trivial

/-- If the provider never lists more logs than its cap, a block that holds more is passed
by no session, and neither the cursor nor the file ever claims it. -/
theorem overloaded_block_never_passed {deployment : Deployment} {chain : List Log}
    {cap block : Nat} (overloaded : cap < deployment.parser.logsIn chain block block)
    (initial : deployment.config.initialBlock < block) {labels : List Label} {s : State}
    (reached : Reaches deployment labels s)
    (limited : ∀ label ∈ labels, label.Limited deployment.parser chain cap) :
    s.nextBlock ≤ block ∧ s.stateStore.lastSynced < block ∧
      (∀ state, s.file = some state → state.lastBlock < block) ∧
      ∀ batch remaining, s.task.batch = some (batch, remaining) → batch.2.endBlock < block := by
  have positive : 0 < block := Nat.zero_lt_of_lt initial
  have below : s.Below block := by
    apply reached.invariant_of_labels (State.Below.initial initial) _ limited
    intro current label next limited below moved
    exact below.step initial moved
      (readsBelow_of_limited overloaded positive below.next limited)
  exact ⟨below.next, below.cursor, below.file, below.batch⟩

/-! ### A reader that cannot go on -/

/-- The block the loop has been told is the head, where it reads a batch. -/
def Task.readsUpTo : Task → Option Nat
  | .select (.readBatch latest) => some latest
  | _ => none

/-- The reported head is this block or a later one. -/
def Label.HeadFrom (block : Nat) : Label → Prop
  | .latestBlock (.ok latest) => block ≤ latest
  | _ => True

/-- No batch is in hand, and the next one has the block in it. -/
structure State.Blocked (block : Nat) (s : State) : Prop where
  before : s.nextBlock ≤ block
  within : block < s.nextBlock + s.batchSize
  range : s.nextBlock + s.batchSize < u64Modulus
  free : s.task.batch = none
  head : ∀ latest, s.task.readsUpTo = some latest → block ≤ latest

/-- The reader has not got on between the two states. -/
structure StandsStill (block : Nat) (s after : State) : Prop where
  blocked : after.Blocked block
  next : after.nextBlock = s.nextBlock
  liveness : after.liveness = s.liveness

namespace State.Blocked

variable {deployment : Deployment} {chain : List Log} {cap block : Nat} {s after : State}
  {label : Label}

theorem kept (blocked : s.Blocked block) (next : after.nextBlock = s.nextBlock)
    (batchSize : after.batchSize = s.batchSize) (liveness : after.liveness = s.liveness)
    (free : after.task.batch = none)
    (head : ∀ latest, after.task.readsUpTo = some latest → block ≤ latest) :
    StandsStill block s after := by
  refine ⟨⟨?_, ?_, ?_, free, head⟩, next, liveness⟩
  · exact next ▸ blocked.before
  · rw [next, batchSize]
    exact blocked.within
  · rw [next, batchSize]
    exact blocked.range

theorem elsewhere (blocked : s.Blocked block) (next : after.nextBlock = s.nextBlock)
    (batchSize : after.batchSize = s.batchSize) (liveness : after.liveness = s.liveness)
    (free : after.task.batch = none) (idle : after.task.readsUpTo = none) :
    StandsStill block s after := by
  refine blocked.kept next batchSize liveness free fun latest reading => ?_
  rw [idle] at reading
  cases reading

theorem looped (blocked : s.Blocked block) (handled : State)
    (next : handled.nextBlock = s.nextBlock) (batchSize : handled.batchSize = s.batchSize)
    (liveness : handled.liveness = s.liveness) : StandsStill block s handled.loopTop :=
  blocked.elsewhere next batchSize liveness (State.loopTop_batch _)
    (handled.loopTop_cases (motive := fun task => task.readsUpTo = none) rfl rfl)

theorem settled (blocked : s.Blocked block) (handled : State) (pause : Bool)
    (next : handled.nextBlock = s.nextBlock) (batchSize : handled.batchSize = s.batchSize)
    (liveness : handled.liveness = s.liveness) :
    StandsStill block s (handled.sendPause pause).settleCursor.loopTop := by
  refine blocked.looped _ ?_ ?_ ?_
  · exact (State.settleCursor_nextBlock _).trans next
  · exact (State.settleCursor_batchSize _).trans batchSize
  · rcases (handled.sendPause pause).settleCursor_cases with same | ⟨_, _, same⟩
    · rw [same]
      exact liveness
    · rw [same]
      exact liveness

theorem written (blocked : s.Blocked block) (success : Bool) {task : Task}
    (free : task.batch = none) (idle : task.readsUpTo = none) :
    StandsStill block s ((s.writeFile success).goto task) := by
  obtain ⟨file, same⟩ := s.writeFile_eq success
  rw [same]
  exact blocked.elsewhere rfl rfl rfl free idle

private theorem absurd_batch (blocked : s.Blocked block) {task : Task} (here : s.task = task)
    {found : (Nat × BatchResult) × List TransactionMessage} (inHand : task.batch = some found) :
    False := by
  have free := blocked.free
  rw [here, inHand] at free
  cases free

theorem step (blocked : s.Blocked block)
    (overloaded : cap < deployment.parser.logsIn chain block block)
    (moved : Transition deployment s label after) (session : label.isStart = false)
    (limited : label.Limited deployment.parser chain cap) (heads : label.HeadFrom block) :
    StandsStill block s after := by
  cases moved with
  | elapse millis => exact blocked.kept rfl rfl rfl blocked.free blocked.head
  | natsEvent state up => exact blocked.kept rfl rfl rfl blocked.free blocked.head
  | receive request jetstream received => exact blocked.kept rfl rfl rfl blocked.free blocked.head
  | shutdownSignal up => exact blocked.kept rfl rfl rfl blocked.free blocked.head
  | retried label reading here retry => exact blocked.kept rfl rfl rfl blocked.free blocked.head
  | start settings readable events store startBlock here loaded determined => cases session
  | delayElapsed here running =>
      exact blocked.looped { s with needsDelay := false } rfl rfl rfl
  | resumed here connected nothing => exact blocked.settled s false rfl rfl rfl
  | paused here disconnected => exact blocked.settled s true rfl rfl rfl
  | persisted success here => exact blocked.written success rfl rfl
  | finalPersisted success here => exact blocked.written success rfl rfl
  | resumeSkipped here skipped => exact blocked.looped s rfl rfl rfl
  | flushDone caller message request here received =>
      exact blocked.settled (s.record (.acked message)) false rfl rfl rfl
  | flushFailedResumed message request later here =>
      exact blocked.settled (s.returnBuffer (message :: later)) false rfl rfl rfl
  | flushFailedHeld message request later here =>
      exact blocked.looped (s.returnBuffer (message :: later)) rfl rfl rfl
  | caughtUp latest here ahead =>
      have reported : block ≤ latest := heads
      have before := blocked.before
      omega
  | behind latest here available =>
      refine blocked.kept rfl rfl rfl rfl ?_
      rintro told ⟨⟩
      exact heads
  | batchRead latest fetch order batch here success =>
      have head := blocked.head latest (congrArg Task.readsUpTo here)
      exact ((deployment.reader s.batchSize).not_readBatch overloaded limited blocked.before
        blocked.within blocked.range head success).elim
  | batchEmpty latest batch here empty => exact (blocked.absurd_batch here rfl).elim
  | batchDelivered latest batch here nonempty nothing =>
      exact (blocked.absurd_batch here rfl).elim
  | batchHeld latest batch here nonempty waiting => exact (blocked.absurd_batch here rfl).elim
  | bufferFull latest batch transaction later here full =>
      exact (blocked.absurd_batch here rfl).elim
  | handed latest batch transaction later here room connected =>
      exact (blocked.absurd_batch here rfl).elim
  | buffered latest batch transaction later here room disconnected =>
      exact (blocked.absurd_batch here rfl).elim
  | publishAcked latest batch message request later here received =>
      exact (blocked.absurd_batch here rfl).elim
  | publishFailed latest batch message request later here room =>
      exact (blocked.absurd_batch here rfl).elim
  | publishRejected latest batch message request later here full =>
      exact (blocked.absurd_batch here rfl).elim
  | waitElapsed latest batch later here running => exact (blocked.absurd_batch here rfl).elim
  | waitCancelled latest batch later here cancelled =>
      exact (blocked.absurd_batch here rfl).elim
  | errorSlept latest batch later here => exact (blocked.absurd_batch here rfl).elim
  | _ => exact blocked.elsewhere rfl rfl rfl rfl rfl

end State.Blocked

/-- If the provider never lists more logs than its cap and the next batch would have a block
in it that holds more, nothing else the session goes through lets the reader get on.  The
health endpoint answers 200 only as long as the last success before is recent enough. -/
theorem stuck_reader_turns_unhealthy {deployment : Deployment} {chain : List Log}
    {cap block : Nat} (overloaded : cap < deployment.parser.logsIn chain block block)
    {s final : State} (blocked : s.Blocked block) {labels : List Label}
    (session : ∀ label ∈ labels, label.isStart = false)
    (limited : ∀ label ∈ labels, label.Limited deployment.parser chain cap)
    (heads : ∀ label ∈ labels, label.HeadFrom block)
    (reached : Runs.run (step deployment) s labels = some final) :
    final.nextBlock = s.nextBlock ∧
      ∀ now, (healthCheck final.liveness now).status = 200 ↔
        s.liveness.elapsed now ≤ s.liveness.stallThreshold := by
  have preserved : ∀ state label next,
      (label.isStart = false ∧ label.Limited deployment.parser chain cap) ∧
        label.HeadFrom block → StandsStill block s state →
          step deployment state label = some next → StandsStill block s next := by
    rintro state label next ⟨⟨sameSession, within⟩, head⟩ still taken
    have again := still.blocked.step overloaded (step_transition taken) sameSession within head
    exact ⟨again.blocked, again.next.trans still.next, again.liveness.trans still.liveness⟩
  have still : StandsStill block s final :=
    Runs.run_invariant preserved
      (((Runs.guarded_of_labels session).and (Runs.guarded_of_labels limited)).and
        (Runs.guarded_of_labels heads)) ⟨blocked, rfl, rfl⟩ reached
  refine ⟨still.next, fun now => ?_⟩
  rw [healthCheck_status_iff, still.liveness]

namespace Sample

/-- Block 101 has one addition more. -/
def overloadedChain : List Log := chain ++ [Abi.addLog contract 0xb0b 7 8 9 101 secondHash 3]

/-- A request may list one log, and a batch has one block. -/
def overloadedRead : Label :=
  .batchRead (deployment.parser.cappedProvider overloadedChain 1) order

/-- Block 100 is delivered; block 101 is asked for and rejected. -/
def overload : List Label :=
  [.start { settings with batchSize := 1 } true [.connected], .stateChanged,
    .handleStateChange, .unpaused, .latestBlock (.ok 101), overloadedRead, .nextTransaction,
    .receive 0, .published true, .nextTransaction, .delayElapsed, .unpaused,
    .latestBlock (.ok 101), overloadedRead]

private theorem overloadedRead_limited :
    overloadedRead.Limited deployment.parser overloadedChain 1 :=
  (deployment.parser.cappedProvider_capped overloadedChain 1).limited

private theorem overload_limited :
    ∀ label ∈ overload, label.Limited deployment.parser overloadedChain 1 := by
  simp only [overload, List.forall_mem_cons, Label.Limited, List.not_mem_nil,
    IsEmpty.forall_iff, implies_true, and_true, true_and]
  exact ⟨overloadedRead_limited, overloadedRead_limited⟩

end Sample

theorem overloaded_block_never_passed_overload :
    ∃ s, Reaches Sample.deployment Sample.overload s ∧ s.nextBlock = 101 ∧
      s.stateStore.lastSynced < 101 := by
  have ends : (Runs.run (step Sample.deployment) (State.initial Sample.deployment)
      Sample.overload).map State.nextBlock = some 101 := by
    decide +kernel
  obtain ⟨s, reached, next⟩ := Option.map_eq_some_iff.mp ends
  have overloaded : 1 < Sample.deployment.parser.logsIn Sample.overloadedChain 101 101 := by
    decide +kernel
  exact ⟨s, reached, next,
    (overloaded_block_never_passed overloaded (by decide) reached Sample.overload_limited).2.1⟩

/-- Ticks come, blocks are added, and the block is asked for again and again. -/
def Sample.stuckOnBlock : List Label :=
  [overloadedRead, .elapse 200000, .flushTick, .persisted true, .tryResumeIfConnected, .unpaused,
    .latestBlock (.ok 102), overloadedRead, .elapse 200000, overloadedRead]

theorem stuck_reader_turns_unhealthy_stuckOnBlock :
    ∃ s final, Reaches Sample.deployment Sample.overload s ∧
      Runs.run (step Sample.deployment) s Sample.stuckOnBlock = some final ∧
        s.nextBlock = 101 ∧ final.nextBlock = 101 ∧
          (healthCheck final.liveness final.clock).status ≠ 200 := by
  have ends : (Runs.run (step Sample.deployment) (State.initial Sample.deployment)
      Sample.overload).bind (fun s =>
        (Runs.run (step Sample.deployment) s Sample.stuckOnBlock).map fun final =>
          (s.nextBlock, s.batchSize, s.task.batch.isNone, s.task.readsUpTo,
            decide (s.liveness.elapsed final.clock ≤ s.liveness.stallThreshold))) =
        some (101, 1, true, some 101, false) := by
    decide +kernel
  obtain ⟨s, reached, later⟩ := Option.bind_eq_some_iff.mp ends
  obtain ⟨final, stuck, values⟩ := Option.map_eq_some_iff.mp later
  simp only [Prod.mk.injEq] at values
  obtain ⟨next, batchSize, free, reads, stale⟩ := values
  have overloaded : 1 < Sample.deployment.parser.logsIn Sample.overloadedChain 101 101 := by
    decide +kernel
  have blocked : s.Blocked 101 := by
    refine ⟨next.le, ?_, ?_, Option.isNone_iff_eq_none.mp free, ?_⟩
    · rw [next, batchSize]
      exact Nat.lt_succ_self 101
    · rw [next, batchSize]
      decide
    · intro latest reading
      rw [reads] at reading
      cases reading
      exact Nat.le_refl 101
  have session : ∀ label ∈ Sample.stuckOnBlock, label.isStart = false := by
    simp only [Sample.stuckOnBlock, Sample.overloadedRead, List.forall_mem_cons, Label.isStart,
      List.not_mem_nil, IsEmpty.forall_iff, implies_true, and_self]
  have limited : ∀ label ∈ Sample.stuckOnBlock,
      label.Limited Sample.deployment.parser Sample.overloadedChain 1 := by
    simp only [Sample.stuckOnBlock, List.forall_mem_cons, Label.Limited, List.not_mem_nil,
      IsEmpty.forall_iff, implies_true, and_true, true_and]
    exact ⟨Sample.overloadedRead_limited, Sample.overloadedRead_limited,
      Sample.overloadedRead_limited⟩
  have heads : ∀ label ∈ Sample.stuckOnBlock, label.HeadFrom 101 := by
    simp only [Sample.stuckOnBlock, Sample.overloadedRead, List.forall_mem_cons, Label.HeadFrom,
      List.not_mem_nil, IsEmpty.forall_iff, implies_true, and_true, true_and]
    decide
  obtain ⟨still, healthy⟩ :=
    stuck_reader_turns_unhealthy overloaded blocked session limited heads stuck
  refine ⟨s, final, reached, stuck, next, still.trans next, fun ok => ?_⟩
  exact of_decide_eq_false stale ((healthy final.clock).mp ok)

end NoxIngestor
