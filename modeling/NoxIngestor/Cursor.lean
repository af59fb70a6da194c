/-
The cursor across restarts.

A fresh store holds the first block to process where a loaded one holds the last
block processed.  Persisting a fresh store before the first block has been
acknowledged is the only way to lose a block: otherwise no session starts past
anything that was not acknowledged.
-/

import NoxIngestor.NoLoss

namespace NoxIngestor

/-! ### What stays delivered -/

def Ledger.delivered (ledger : Ledger) : List TransactionMessage :=
  ackedIn ledger.trace ++ ledger.past

theorem LedgerStep.delivered {deployment : Deployment} {s after : State} {label : Label}
    (recorded : LedgerStep deployment s label after) :
    ∀ message ∈ s.ledger.delivered, message ∈ after.ledger.delivered := by
  intro message member
  have longer (events : List (Nat × Event)) :
      message ∈ ackedIn (events ++ s.trace) ++ s.past := by
    rw [ackedIn, List.filterMap_append, List.append_assoc]
    exact List.mem_append_right _ member
  cases recorded with
  | unchanged same =>
      rw [same]
      exact member
  | elapsed millis labelled same =>
      rw [same]
      exact member
  | logged events quiet same =>
      rw [same]
      exact longer (s.stamped events)
  | succeeded event success same =>
      rw [same]
      exact longer [(s.clock, event)]
  | updated events quiet block reason same =>
      rw [same]
      exact longer ((s.clock, .updated block) :: s.stamped events)
  | written persists same =>
      rw [same]
      exact member
  | restarted readable store startBlock stallThreshold loaded determined next same =>
      rw [same]
      exact List.mem_append_right _ member

/-! ### What the file promises -/

/-- A store that was not loaded is persisted only when the transactions of the
initial block have been acknowledged. -/
def FirstBlockDelivered (deployment : Deployment) (chain : List Log) (s : State)
    (label : Label) : Prop :=
  label.persists = true → s.stateStore.wasLoadedFromFile = false →
    deployment.parser.CarriedBy chain deployment.config.initialBlock
      (deployment.config.initialBlock + 1) s.delivered

instance (deployment : Deployment) (chain : List Log) (s : State) (label : Label) :
    Decidable (FirstBlockDelivered deployment chain s label) :=
  inferInstanceAs (Decidable (_ → _ → NoxEventParser.CarriedBy _ _ _ _ _))

structure Durable (deployment : Deployment) (chain : List Log) (ledger : Ledger) : Prop where
  started : deployment.parser.CarriedBy chain deployment.config.initialBlock
    ledger.startBlock ledger.delivered
  stored : ∀ state, ledger.file = some state →
    deployment.parser.CarriedBy chain deployment.config.initialBlock (state.lastBlock + 1)
      ledger.delivered
  loaded : ledger.stateStore.fromFile = true →
    deployment.parser.CarriedBy chain deployment.config.initialBlock
      (ledger.stateStore.lastSynced + 1) ledger.delivered
  /-- A fresh store says nothing about the initial block itself. -/
  fresh : deployment.parser.CarriedBy chain (deployment.config.initialBlock + 1)
    (ledger.stateStore.lastSynced + 1) ledger.delivered

namespace Durable

variable {deployment : Deployment} {chain : List Log} {s after : State} {label : Label}

private theorem upToMax {first old new : Nat} {messages : List TransactionMessage}
    (before : deployment.parser.CarriedBy chain first (old + 1) messages)
    (update : deployment.parser.CarriedBy chain first (new + 1) messages) :
    deployment.parser.CarriedBy chain first (max old new + 1) messages := by
  rcases Nat.le_total old new with larger | smaller
  · rw [Nat.max_eq_right larger]
    exact update
  · rw [Nat.max_eq_left smaller]
    exact before

/-- What one session may start from, given what its store was made of. -/
private theorem start_bound (durable : Durable deployment chain s.ledger) {readable : Bool}
    {store : StateStore} {startBlock : Nat}
    (loaded : StateStore.load (s.fileContent readable) deployment.config.chainId
      deployment.config.initialBlock = .ok store)
    (determined : store.determineStartBlock = .ok startBlock) :
    deployment.parser.CarriedBy chain deployment.config.initialBlock startBlock s.delivered ∧
      (store.fromFile = true → deployment.parser.CarriedBy chain
        deployment.config.initialBlock (store.lastSynced + 1) s.delivered) ∧
      deployment.parser.CarriedBy chain (deployment.config.initialBlock + 1)
        (store.lastSynced + 1) s.delivered := by
  rcases StateStore.load_cases loaded with ⟨state, content, synced, fromFile⟩ | rfl
  · have whole := durable.stored state (State.file_of_parsed content)
    rw [← synced] at whole
    rw [StateStore.determineStartBlock_of_file fromFile determined]
    refine ⟨?_, fun _fromFile => whole, ?_⟩
    · exact whole.narrow (Nat.le_refl _) (Nat.mod_le _ _)
    · exact whole.narrow (Nat.le_succ _) (Nat.le_refl _)
  · rw [StateStore.determineStartBlock_of_fresh rfl determined]
    refine ⟨?_, fun fromFile => absurd fromFile Bool.false_ne_true, ?_⟩
    · intro event member lower upper
      exact absurd upper (Nat.not_lt_of_le lower)
    · intro event member lower upper
      exact absurd upper (Nat.not_lt_of_le lower)

theorem mono {ledger later : Ledger} (durable : Durable deployment chain ledger)
    (first : later.startBlock = ledger.startBlock) (file : later.file = ledger.file)
    (store : later.stateStore = ledger.stateStore)
    (kept : ∀ message ∈ ledger.delivered, message ∈ later.delivered) :
    Durable deployment chain later := by
  constructor
  · rw [first]
    exact durable.started.mono kept
  · rw [file]
    exact fun state held => (durable.stored state held).mono kept
  · rw [store]
    exact fun loaded => (durable.loaded loaded).mono kept
  · rw [store]
    exact durable.fresh.mono kept

theorem update {ledger : Ledger} (durable : Durable deployment chain ledger) {block time : Nat}
    {events : List (Nat × Event)}
    (justified : deployment.parser.CarriedBy chain ledger.startBlock (block + 1)
      (ackedIn (events ++ ledger.trace)))
    (kept : ∀ message ∈ ledger.delivered,
      message ∈ ackedIn ((time, .updated block) :: (events ++ ledger.trace)) ++ ledger.past) :
    Durable deployment chain { ledger with
      trace := (time, .updated block) :: (events ++ ledger.trace)
      stateStore := ledger.stateStore.update block } := by
  have bound : deployment.parser.CarriedBy chain deployment.config.initialBlock (block + 1)
      (ackedIn (events ++ ledger.trace) ++ ledger.past) :=
    (durable.started.mono kept).join
      (justified.mono fun message member => List.mem_append_left _ member)
  constructor
  · exact durable.started.mono kept
  · exact fun state held => (durable.stored state held).mono kept
  · exact fun loaded => upToMax ((durable.loaded loaded).mono kept) bound
  · exact upToMax (durable.fresh.mono kept) (bound.narrow (Nat.le_succ _) (Nat.le_refl _))

theorem step (durable : Durable deployment chain s.ledger)
    (recorded : LedgerStep deployment s label after)
    (justified : after.ledger.Justified deployment chain)
    (allowed : FirstBlockDelivered deployment chain s label) :
    Durable deployment chain after.ledger := by
  have kept := recorded.delivered
  cases recorded with
  | unchanged same =>
      rw [same]
      exact durable
  | elapsed millis labelled same =>
      rw [same] at kept ⊢
      exact durable.mono rfl rfl rfl kept
  | logged events quiet same =>
      rw [same] at kept ⊢
      exact durable.mono rfl rfl rfl kept
  | succeeded event success same =>
      rw [same] at kept ⊢
      exact durable.mono rfl rfl rfl kept
  | updated events quiet block reason same =>
      rw [same] at kept justified ⊢
      exact durable.update (justified [] s.clock block _ rfl) kept
  | written persists same =>
      rw [same]
      refine ⟨durable.started, ?_, durable.loaded, durable.fresh⟩
      rintro state ⟨rfl⟩
      cases fromFile : s.stateStore.fromFile with
      | true => exact durable.loaded fromFile
      | false =>
          exact NoxEventParser.CarriedBy.join (allowed persists fromFile) durable.fresh
  | restarted readable store startBlock stallThreshold loaded determined next same =>
      obtain ⟨started, fromFile, fresh⟩ := durable.start_bound loaded determined
      rw [same] at kept ⊢
      constructor
      · exact started.mono kept
      · exact fun state held => (durable.stored state held).mono kept
      · exact fun loaded => (fromFile loaded).mono kept
      · exact fresh.mono kept

theorem initial : Durable deployment chain (State.initial deployment).ledger :=
  { started := fun _event _member _lower upper => absurd upper (Nat.not_lt_zero _)
    stored := fun _state held => nomatch held
    loaded := fun loaded => absurd loaded Bool.false_ne_true
    fresh := fun _event _member lower upper => absurd upper (Nat.not_lt_of_le lower) }

end Durable

/-- No block from the initial one on that holds an event not yet delivered lies
before the block the session goes on from. -/
def SkipsNothing (deployment : Deployment) (chain : List Log) (s : State) : Prop :=
  ∀ event ∈ deployment.parser.chainEvents chain,
    deployment.config.initialBlock ≤ event.blockNumber →
      (∀ message ∈ s.delivered, ¬ Carries message event) → s.nextBlock ≤ event.blockNumber

instance (deployment : Deployment) (chain : List Log) (s : State) :
    Decidable (SkipsNothing deployment chain s) :=
  inferInstanceAs (Decidable (∀ event ∈ _, _ → (∀ message ∈ _, ¬ Carries message event) →
    _ ≤ event.blockNumber))

/-- If no fresh store is persisted before the initial block has been delivered,
no session starts past an event that was not, whatever crashed before. -/
theorem restart_skips_nothing {deployment : Deployment} {chain : List Log}
    {labels : List Label} {settings : Settings} {readable : Bool}
    {events : List ConnectionState} {s : State}
    (reached : Reaches deployment (labels ++ [.start settings readable events]) s)
    (honest : ∀ label ∈ labels, label.Honest deployment.parser chain)
    (throughout : Throughout deployment (FirstBlockDelivered deployment chain) labels) :
    SkipsNothing deployment chain s := by
  obtain ⟨before, earlier, last⟩ := Runs.run_append.mp reached
  obtain ⟨started, taken, ends⟩ := Runs.run_cons.mp last
  cases ends
  have invariant : Accounted deployment chain before ∧
      Durable deployment chain before.ledger := by
    apply Reaches.invariant ⟨.initial, .initial⟩ _ earlier
      ((Runs.guarded_of_labels honest).and throughout)
    rintro s label next ⟨honestly, allowed⟩ ⟨accounted, durable⟩ moved
    have later := accounted.step moved honestly
    exact ⟨later, durable.step (.of_transition moved) later.updates allowed⟩
  have durable := invariant.2
  obtain ⟨store, startBlock, loaded, determined, rfl⟩ := (step_transition taken).of_start
  obtain ⟨bound, _⟩ := durable.start_bound loaded determined
  intro event member lower missing
  apply Nat.le_of_not_lt
  intro skipped
  obtain ⟨message, delivered, carries⟩ := bound event member lower skipped
  exact missing message (List.mem_append_right _ delivered) carries

/-- Both transactions are delivered, and the cursor persisted, before the crash. -/
def Sample.crashAfterDelivery : List Label :=
  Sample.delivery ++ [.delayElapsed, .flushTick, .persisted true, .crash]

theorem restart_skips_nothing_crashAfterDelivery :
    ∃ s, Reaches Sample.deployment
        (Sample.crashAfterDelivery ++ [.start Sample.settings true []]) s ∧
      s.nextBlock = 102 ∧ SkipsNothing Sample.deployment Sample.chain s := by
  have ends : (Runs.run (step Sample.deployment) (State.initial Sample.deployment)
      (Sample.crashAfterDelivery ++ [.start Sample.settings true []])).map
        State.nextBlock = some 102 := by
    decide +kernel
  obtain ⟨s, reached, next⟩ := Option.map_eq_some_iff.mp ends
  have honest : ∀ label ∈ Sample.crashAfterDelivery,
      label.Honest Sample.deployment.parser Sample.chain := by
    refine List.forall_mem_append.mpr ⟨Sample.delivery_honest, ?_⟩
    simp only [List.forall_mem_cons, Label.Honest, List.not_mem_nil, IsEmpty.forall_iff,
      implies_true, and_true]
  exact ⟨s, reached, next, restart_skips_nothing reached honest (by decide +kernel)⟩

/-- A fresh start that is shut down before its first batch, and the next start. -/
def Sample.earlyShutdown : List Label :=
  [.start Sample.settings true [.connected], .shutdownSignal, .breakLoop, .persisted true]

/-- The second session starts at block 101, past the transaction of block 100. -/
theorem early_shutdown_skips_initial_block :
    ¬ ∀ s, Reaches Sample.deployment
        (Sample.earlyShutdown ++ [.start Sample.settings true [.connected]]) s →
      SkipsNothing Sample.deployment Sample.chain s := by
  intro claimed
  have ends : (Runs.run (step Sample.deployment) (State.initial Sample.deployment)
      (Sample.earlyShutdown ++ [.start Sample.settings true [.connected]])).map
        (fun s => (s.nextBlock, decide (SkipsNothing Sample.deployment Sample.chain s))) =
          some (101, false) := by
    decide +kernel
  obtain ⟨s, reached, values⟩ := Option.map_eq_some_iff.mp ends
  exact of_decide_eq_false (Prod.mk.inj values).2 (claimed s reached)

end NoxIngestor
