/-
A ceiling for the numbers of the blocks.

Where no batch that is read reaches the ceiling, nothing does: neither the cursor nor
the file, and the next block to read is the ceiling at most.  The numbers of `u64` have
one, and so has a chain with a block that cannot be fetched.
-/

import NoxIngestor.Chain.Batches
import NoxIngestor.Transitions

namespace NoxIngestor

/-- All block numbers that a session works with are below the ceiling. -/
structure State.Below (ceiling : Nat) (s : State) : Prop where
  next : s.nextBlock ≤ ceiling
  cursor : s.stateStore.lastSynced < ceiling
  batch : ∀ batch remaining, s.task.batch = some (batch, remaining) →
    batch.2.endBlock < ceiling
  file : ∀ state, s.file = some state → state.lastBlock < ceiling

/-- A batch that is read in this state ends below the ceiling. -/
def ReadsBelow (deployment : Deployment) (ceiling : Nat) (s : State) : Label → Prop
  | .batchRead fetch order => ∀ latest batch,
      (deployment.reader s.batchSize).readBatch s.nextBlock latest fetch order = .ok batch →
        batch.endBlock < ceiling
  | _ => True

private theorem u64Add_one_le {block ceiling : Nat} (small : block < ceiling) :
    u64Add block 1 ≤ ceiling :=
  (Nat.mod_le _ _).trans small

namespace State.Below

variable {deployment : Deployment} {ceiling : Nat} {s after : State} {label : Label}

theorem kept (below : s.Below ceiling) (next : after.nextBlock = s.nextBlock)
    (store : after.stateStore = s.stateStore) (file : after.file = s.file)
    (batch : after.task.batch = none ∨ ∃ found later,
      s.task.batch.map Prod.fst = some found ∧ after.task.batch = some (found, later)) :
    after.Below ceiling := by
  refine ⟨next ▸ below.next, store ▸ below.cursor, ?_, file ▸ below.file⟩
  intro found remaining current
  rcases batch with none | ⟨same, later, before, still⟩
  · rw [none] at current
    cases current
  · rw [still] at current
    cases current
    obtain ⟨⟨_, earlier⟩, held, rfl⟩ := Option.map_eq_some_iff.mp before
    exact below.batch _ _ held

theorem update (below : s.Below ceiling) {block : Nat} (small : block < ceiling)
    (next : after.nextBlock ≤ ceiling) (store : after.stateStore = s.stateStore.update block)
    (file : after.file = s.file) (free : after.task.batch = none) : after.Below ceiling := by
  refine ⟨next, ?_, ?_, file ▸ below.file⟩
  · rw [store]
    exact Nat.max_lt.mpr ⟨below.cursor, small⟩
  · intro found remaining current
    rw [free] at current
    cases current

theorem settled (below : s.Below ceiling) (handled : State) (pause : Bool)
    (next : handled.nextBlock = s.nextBlock) (store : handled.stateStore = s.stateStore)
    (file : handled.file = s.file) :
    (handled.sendPause pause).settleCursor.loopTop.Below ceiling := by
  have small : handled.nextBlock ≤ ceiling := next ▸ below.next
  rcases (handled.sendPause pause).settleCursor_cases with same | ⟨_, positive, same⟩
  · rw [same]
    exact below.kept next store file (.inl (State.loopTop_batch _))
  · have stored : ((handled.sendPause pause).updateStore
        (handled.nextBlock - 1)).loopTop.stateStore =
          s.stateStore.update (handled.nextBlock - 1) :=
      congrArg (fun store => store.update (handled.nextBlock - 1)) store
    have next : ((handled.sendPause pause).updateStore
        (handled.nextBlock - 1)).loopTop.nextBlock ≤ ceiling := small
    rw [same]
    exact below.update (Nat.lt_of_lt_of_le (Nat.sub_one_lt_of_lt positive) small) next stored
      file (State.loopTop_batch _)

theorem started (below : s.Below ceiling) (initial : deployment.config.initialBlock < ceiling)
    {settings : Settings} {readable : Bool} {events : List ConnectionState}
    {store : StateStore} {startBlock : Nat}
    (loaded : StateStore.load (s.fileContent readable) deployment.config.chainId
      deployment.config.initialBlock = .ok store)
    (determined : store.determineStartBlock = .ok startBlock) :
    (s.startSession settings events store startBlock).Below ceiling := by
  have free : (s.startSession settings events store startBlock).task.batch = none :=
    State.loopTop_batch _
  have idle (found : Nat × BatchResult) (remaining : List TransactionMessage)
      (current : (s.startSession settings events store startBlock).task.batch =
        some (found, remaining)) : found.2.endBlock < ceiling := by
    rw [free] at current
    cases current
  rcases StateStore.load_cases loaded with ⟨state, content, synced, fromFile⟩ | rfl
  · have block := StateStore.determineStartBlock_of_file fromFile determined
    have small : store.lastSynced < ceiling :=
      synced ▸ below.file state (State.file_of_parsed content)
    exact ⟨block ▸ u64Add_one_le small, small, idle, below.file⟩
  · have block := StateStore.determineStartBlock_of_fresh rfl determined
    exact ⟨block ▸ initial.le, initial, idle, below.file⟩

theorem written (below : s.Below ceiling) (success : Bool) {task : Task}
    (free : task.batch = none) : ((s.writeFile success).goto task).Below ceiling := by
  cases success with
  | false => exact below.kept rfl rfl rfl (.inl free)
  | true =>
      refine ⟨below.next, below.cursor, ?_, ?_⟩
      · intro found remaining current
        exact nomatch free.symm.trans current
      · rintro state ⟨rfl⟩
        exact below.cursor

theorem step (below : s.Below ceiling) (initial : deployment.config.initialBlock < ceiling)
    (moved : Transition deployment s label after)
    (reads : ReadsBelow deployment ceiling s label) : after.Below ceiling := by
  cases moved with
  | elapse millis => exact ⟨below.next, below.cursor, below.batch, below.file⟩
  | natsEvent state up => exact ⟨below.next, below.cursor, below.batch, below.file⟩
  | receive request jetstream received =>
      exact ⟨below.next, below.cursor, below.batch, below.file⟩
  | shutdownSignal up => exact ⟨below.next, below.cursor, below.batch, below.file⟩
  | retried label reading here retry => exact below
  | start settings readable events store startBlock here loaded determined =>
      exact below.started initial loaded determined
  | delayElapsed here running => exact below.kept rfl rfl rfl (.inl (State.loopTop_batch _))
  | resumed here connected nothing => exact below.settled s false rfl rfl rfl
  | paused here disconnected => exact below.settled s true rfl rfl rfl
  | persisted success here => exact below.written success rfl
  | finalPersisted success here => exact below.written success rfl
  | resumeSkipped here skipped =>
      exact below.kept rfl rfl rfl (.inl (State.loopTop_batch _))
  | flushDone caller message request here received =>
      exact below.settled (s.record (.acked message)) false rfl rfl rfl
  | flushFailedResumed message request later here =>
      exact below.settled (s.returnBuffer (message :: later)) false rfl rfl rfl
  | flushFailedHeld message request later here =>
      exact below.kept rfl rfl rfl (.inl (State.loopTop_batch _))
  | caughtUp latest here ahead =>
      exact below.kept rfl rfl rfl (.inl (State.loopTop_batch _))
  | batchRead latest fetch order batch here success =>
      refine ⟨below.next, below.cursor, ?_, below.file⟩
      rintro found remaining ⟨⟩
      exact reads latest batch success
  | batchEmpty latest batch here empty =>
      obtain ⟨needsDelay, same⟩ := s.pace_eq (latest - batch.endBlock)
      rw [same]
      exact below.kept rfl rfl rfl (.inl (State.loopTop_batch _))
  | batchDelivered latest batch here nonempty nothing =>
      obtain ⟨needsDelay, same⟩ := ((s.advance batch.endBlock).updateStore
        batch.endBlock).pace_eq (latest - batch.endBlock)
      rw [same]
      have small := below.batch _ _ (congrArg Task.batch here)
      exact below.update small (u64Add_one_le small) rfl rfl (State.loopTop_batch _)
  | batchHeld latest batch here nonempty waiting =>
      obtain ⟨needsDelay, same⟩ := (s.advance batch.endBlock).pace_eq
        (latest - batch.endBlock)
      rw [same]
      have small := below.batch _ _ (congrArg Task.batch here)
      refine ⟨u64Add_one_le small, below.cursor, ?_, below.file⟩
      intro found remaining current
      rw [State.loopTop_batch] at current
      cases current
  | bufferFull latest batch transaction later here full =>
      exact below.kept rfl rfl rfl (.inr ⟨_, _, by rw [here]; rfl, rfl⟩)
  | handed latest batch transaction later here room connected =>
      exact below.kept rfl rfl rfl (.inr ⟨_, _, by rw [here]; rfl, rfl⟩)
  | buffered latest batch transaction later here room disconnected =>
      exact below.kept rfl rfl rfl (.inr ⟨_, _, by rw [here]; rfl, rfl⟩)
  | publishAcked latest batch message request later here received =>
      exact below.kept rfl rfl rfl (.inr ⟨_, _, by rw [here]; rfl, rfl⟩)
  | publishFailed latest batch message request later here room =>
      exact below.kept rfl rfl rfl (.inr ⟨_, _, by rw [here]; rfl, rfl⟩)
  | publishRejected latest batch message request later here full =>
      exact below.kept rfl rfl rfl (.inr ⟨_, _, by rw [here]; rfl, rfl⟩)
  | waitElapsed latest batch later here running =>
      exact below.kept rfl rfl rfl (.inr ⟨_, _, by rw [here]; rfl, rfl⟩)
  | waitCancelled latest batch later here cancelled =>
      exact below.kept rfl rfl rfl (.inl (State.loopTop_batch _))
  | errorSlept latest batch later here =>
      exact below.kept rfl rfl rfl (.inr ⟨_, _, by rw [here]; rfl, rfl⟩)
  | _ => exact below.kept rfl rfl rfl (.inl rfl)

theorem initial (initial : deployment.config.initialBlock < ceiling) :
    (State.initial deployment).Below ceiling :=
  { next := Nat.zero_le _
    cursor := initial
    batch := fun _batch _remaining none => nomatch none
    file := fun _state none => nomatch none }

end State.Below

/-! ### The numbers of `u64` -/

private theorem readsBelow_u64 {deployment : Deployment} {s : State}
    (next : s.nextBlock ≤ u64Modulus)
    (label : Label) : ReadsBelow deployment u64Modulus s label := by
  cases label with
  | batchRead fetch order =>
      intro latest batch success
      rcases BlockReader.readBatch_cases success with
        ⟨_ahead, rfl⟩ | ⟨_available, logs, _answered, rfl⟩
      · have positive : 0 < u64Modulus := by decide
        change s.nextBlock - 1 < u64Modulus
        omega
      · exact Nat.lt_of_le_of_lt (Nat.min_le_left _ _) (Nat.mod_lt _ (by decide))
  | _ => trivial

theorem State.Below.step_u64 {deployment : Deployment} {s after : State} {label : Label}
    (below : s.Below u64Modulus) (initial : deployment.config.initialBlock < u64Modulus)
    (moved : Transition deployment s label after) : after.Below u64Modulus :=
  below.step initial moved (readsBelow_u64 below.next label)

end NoxIngestor
