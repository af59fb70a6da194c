/-
What a successful persist leaves after a crash.

The rename lasts once the directory of the state file has been synced.  Opening
and syncing it are attempted, and their errors are ignored; a bare file name has
the empty path as its parent, which cannot be opened at all.
-/

import NoxIngestor.Persistence.Atomicity
import NoxIngestor.Reachability

namespace NoxIngestor

open Runs

/-- The path of the state file; an empty setting stands for a name in the current
directory. -/
def Config.stateFilePath (config : Config) (statePath : String) : Path :=
  if statePath.isEmpty then
    Path.ofChars s!"./nox_ingestor_state_{config.chainId}.json".toList
  else Path.ofChars statePath.toList

/-! ### A session of calls -/

structure Saver where
  store : StateStore
  disk : StateDisk
  call : Option (PersistCall × PersistPoint)

inductive SaverLabel
  | update (block : Nat)
  | persist (millis : Nat)
  | answer (answer : Answer)
  /-- The call has returned, or its future is dropped. -/
  | leave

def Saver.step (path : Path) (s : Saver) : SaverLabel → Option Saver
  | .update block =>
      if block < u64Modulus then some { s with store := s.store.update block } else none
  | .persist millis =>
      match s.call with
      | some _ => none
      | none =>
          let call := s.store.persistCall path millis
          some { s with call := some (call, call.start) }
  | .answer answer =>
      match s.call with
      | some (call, point) =>
          (call.step (point, s.disk) answer).map fun next =>
            { s with
              disk := next.2
              call := some (call, next.1) }
      | none => none
  | .leave =>
      match s.call with
      | some _ => some { s with call := none }
      | none => none

/-! ### Blocks held at the path -/

def HoldsAtLeast (block : Nat) (found : Option ByteArray) : Prop :=
  ∃ state, StateFile.ofContent found = .parsed state ∧ block ≤ state.lastBlock

/-- Whatever a crash leaves at the path, it is a record of the block or a later one. -/
def AlwaysHolds (path : Path) (block : Nat) (disk : StateDisk) : Prop :=
  ∀ found, disk.FoundAfterCrash path found → HoldsAtLeast block found

/-- No run of later updates and calls, complete or not, changes that. -/
def Lasts (path : Path) (store : StateStore) (disk : StateDisk) : Prop :=
  ∀ labels later,
    run (Saver.step path) { store := store, disk := disk, call := none } labels =
      some later → AlwaysHolds path store.get later.disk

private theorem holdsAtLeast_persistCall {store : StateStore} (inRange : store.InRange)
    (path : Path) (millis : Nat) {block : Nat} (reached : block ≤ store.lastSynced) :
    HoldsAtLeast block (some (store.persistCall path millis).json) := by
  have bound : millis % u64Modulus < 2 ^ 64 := Nat.mod_lt _ (by decide)
  refine ⟨store.persistedState (millis % u64Modulus), ?_, reached⟩
  rw [StateStore.persistCall_json]
  exact StateFile.ofContent_toBytes _ (StateStore.persistedState_inRange inRange bound)

private theorem PersistCall.Progress.alwaysHolds {call : PersistCall} {before disk : StateDisk}
    {point : PersistPoint} {block : Nat} (progress : call.Progress before point disk)
    (held : AlwaysHolds call.path block before)
    (new : HoldsAtLeast block (some call.json)) : AlwaysHolds call.path block disk := by
  intro found left
  rcases progress.found left with old | rfl
  · exact held found old
  · exact new

/-! ### Later calls -/

/-- A running call has a record of the block or a later one to write. -/
structure Saver.Keeps (path : Path) (block : Nat) (s : Saver) : Prop where
  inRange : s.store.InRange
  reached : block ≤ s.store.lastSynced
  held : AlwaysHolds path block s.disk
  running : ∀ call point, s.call = some (call, point) → call.path = path ∧
    HoldsAtLeast block (some call.json) ∧
      ∃ before, AlwaysHolds path block before ∧ call.Progress before point s.disk

section Keeping

variable {path : Path} {name : List Char} (named : path.fileName = some name)

include named

private theorem Saver.keeps_step {block : Nat} {s next : Saver} {label : SaverLabel}
    (keeps : s.Keeps path block) (taken : s.step path label = some next) :
    next.Keeps path block := by
  cases label with
  | update later =>
      rw [step, Option.ite_none_right_eq_some, Option.some.injEq] at taken
      obtain ⟨bound, rfl⟩ := taken
      have range : (s.store.update later).InRange :=
        { chainId := keeps.inRange.chainId
          lastSynced := Nat.max_lt.mpr ⟨keeps.inRange.lastSynced, bound⟩ }
      exact
        { inRange := range
          reached := keeps.reached.trans (Nat.le_max_left _ _)
          held := keeps.held
          running := keeps.running }
  | persist millis =>
      cases running : s.call with
      | some call =>
          rw [step, running] at taken
          cases taken
      | none =>
          rw [step, running] at taken
          cases taken
          refine ⟨keeps.inRange, keeps.reached, keeps.held, ?_⟩
          rintro call point ⟨⟩
          exact ⟨rfl, holdsAtLeast_persistCall keeps.inRange path millis keeps.reached,
            s.disk, keeps.held, PersistCall.start_progress _ s.disk⟩
  | answer answer =>
      cases running : s.call with
      | none =>
          rw [step, running] at taken
          cases taken
      | some current =>
          obtain ⟨call, point⟩ := current
          obtain ⟨rfl, new, before, held, progress⟩ := keeps.running call point running
          rw [step, running] at taken
          obtain ⟨after, stepped, rfl⟩ := Option.map_eq_some_iff.mp taken
          have advanced := PersistCall.progress_move named progress
            (PersistCall.step_move stepped)
          refine ⟨keeps.inRange, keeps.reached, advanced.alwaysHolds held new, ?_⟩
          rintro other otherPoint ⟨⟩
          exact ⟨rfl, new, before, held, advanced⟩
  | leave =>
      cases running : s.call with
      | none =>
          rw [step, running] at taken
          cases taken
      | some current =>
          rw [step, running] at taken
          cases taken
          refine ⟨keeps.inRange, keeps.reached, keeps.held, ?_⟩
          rintro call point ⟨⟩

private theorem lasts_of_alwaysHolds {store : StateStore} (inRange : store.InRange)
    {disk : StateDisk} (held : AlwaysHolds path store.get disk) : Lasts path store disk := by
  intro labels later reached
  have unguarded : Guarded (Saver.step path) (fun _ _ => True)
      { store := store, disk := disk, call := none } labels :=
    guarded_of_labels fun _ _ => trivial
  have start : Saver.Keeps path store.get { store := store, disk := disk, call := none } :=
    { inRange := inRange
      reached := le_rfl
      held := held
      running := fun _call _point absent => nomatch absent }
  have kept : later.Keeps path store.get := by
    apply run_invariant _ unguarded start reached
    intro current label next _ keeps taken
    exact Saver.keeps_step named keeps taken
  exact kept.held

end Keeping

/-! ### The end of a call -/

/-- The last two answers are that the directory was opened and that it was synced. -/
def DirectorySynced (call : PersistCall) (disk : StateDisk) (answers : List Answer) : Prop :=
  ∃ before renamed, answers = before ++ [.done, .done] ∧
    run call.step (call.start, disk) before = some (.openDirectory, renamed)

section Ending

variable {call : PersistCall} {disk final : StateDisk} {answers : List Answer}

private theorem directorySynced_last {answer : Answer}
    (synced : DirectorySynced call disk (answers ++ [answer])) : answer = .done := by
  obtain ⟨before, renamed, shape, _⟩ := synced
  have lasts := congrArg List.getLast? shape
  rw [List.getLast?_concat, List.getLast?_append] at lasts
  exact Option.some.inj lasts

private theorem opened_of_syncDirectory (reached : run call.step (call.start, disk) answers =
    some (.syncDirectory, final)) :
    ∃ before, answers = before ++ [.done] ∧ call.path.parent ≠ some [] ∧
      run call.step (call.start, disk) before = some (.openDirectory, final) := by
  rcases List.eq_nil_or_concat' answers with rfl | ⟨before, answer, rfl⟩
  · have started : call.start = .syncDirectory := congrArg Prod.fst (Option.some.inj reached)
    unfold PersistCall.start at started
    split at started <;> cases started
  · obtain ⟨⟨point, middle⟩, earlier, taken⟩ := run_concat.mp reached
    cases PersistCall.step_move taken with
    | opened openable => exact ⟨before, rfl, openable, earlier⟩

variable {name : List Char} (named : call.path.fileName = some name)

include named

/-- A call that returned `Ok` has synced the directory, or the rename may be undone. -/
private theorem returned_cases (returned : run call.step (call.start, disk) answers =
    some (.returned true, final)) :
    (call.path.parent ≠ some [] ∧ DirectorySynced call disk answers ∧ call.Settled final) ∨
      (¬ DirectorySynced call disk answers ∧ call.Renamed disk final) := by
  rcases List.eq_nil_or_concat' answers with rfl | ⟨before, answer, rfl⟩
  · have started : call.start = .returned true := congrArg Prod.fst (Option.some.inj returned)
    unfold PersistCall.start at started
    split at started <;> cases started
  · obtain ⟨⟨point, middle⟩, earlier, taken⟩ := run_concat.mp returned
    have progress := PersistCall.run_progress named earlier
    cases PersistCall.step_move taken with
    | renamedAlone parent =>
        obtain ⟨directory, present⟩ := PersistCall.parent_of_named named
        rw [parent] at present
        cases present
    | notOpened =>
        exact .inr ⟨fun synced => Answer.noConfusion (directorySynced_last synced), progress⟩
    | directoryNotSynced =>
        exact .inr ⟨fun synced => Answer.noConfusion (directorySynced_last synced), progress⟩
    | directorySynced =>
        obtain ⟨first, rfl, openable, opened⟩ := opened_of_syncDirectory earlier
        refine .inl ⟨openable, ⟨first, middle, ?_, opened⟩, ?_⟩
        · rw [List.append_assoc]
          rfl
        · exact ⟨progress.entry, Disk.syncDirectory_older middle (decide_eq_true rfl)⟩

end Ending

/-! ### Durability -/

/-- What a call persisted lasts exactly if the directory was opened and synced, or if all
that a crash could have left before the call was the block or a later one already. -/
theorem persist_durable_iff {path : Path} {name : List Char}
    (named : path.fileName = some name) {store : StateStore} (inRange : store.InRange)
    {millis : Nat} {disk final : StateDisk} {answers : List Answer}
    (returned : run (store.persistCall path millis).step
      ((store.persistCall path millis).start, disk) answers = some (.returned true, final)) :
    Lasts path store final ↔
      (path.parent ≠ some [] ∧ DirectorySynced (store.persistCall path millis) disk answers) ∨
        AlwaysHolds path store.get disk := by
  have new : HoldsAtLeast store.get (some (store.persistCall path millis).json) :=
    holdsAtLeast_persistCall inRange path millis le_rfl
  have progress := PersistCall.run_progress named returned
  constructor
  · intro lasts
    rcases returned_cases named returned with ⟨openable, synced, _⟩ | ⟨_, renamed⟩
    · exact .inl ⟨openable, synced⟩
    · refine .inr fun found left => ?_
      exact lasts [] _ rfl found (renamed.found.mpr (.inr left))
  · rintro (⟨_, synced⟩ | held)
    · apply lasts_of_alwaysHolds named inRange
      intro found left
      rcases returned_cases named returned with ⟨_, _, settled⟩ | ⟨unsynced, _⟩
      · rw [settled.found left]
        exact new
      · exact absurd synced unsynced
    · exact lasts_of_alwaysHolds named inRange (progress.alwaysHolds held new)

namespace Sample

/-- The default setting, a bare file name. -/
def defaultPath : Path := deployment.config.stateFilePath "nox_ingestor_state_421614.json"

theorem defaultPath_named :
    defaultPath.fileName = some "nox_ingestor_state_421614.json".toList := by
  decide

end Sample

/-- With the default setting, a first call returns `Ok` and a crash loses the file. -/
theorem persist_durable_fails_by_default :
    ¬ ∀ (statePath : String) (name : List Char) (store : StateStore),
      (Sample.deployment.config.stateFilePath statePath).fileName = some name →
        store.InRange → ∀ millis disk answers final,
          run (store.persistCall (Sample.deployment.config.stateFilePath statePath) millis).step
              ((store.persistCall (Sample.deployment.config.stateFilePath statePath)
                millis).start, disk) answers = some (.returned true, final) →
            Lasts (Sample.deployment.config.stateFilePath statePath) store final := by
  intro claim
  obtain ⟨renamed, reached⟩ :=
    (Sample.stateStore.persistCall Sample.defaultPath 0).run_to_openDirectory
      Sample.defaultPath_named Sample.emptyDisk
  have last : run (Sample.stateStore.persistCall Sample.defaultPath 0).step
      (.openDirectory, renamed) [.failed] = some (.returned true, renamed) := rfl
  have returned := run_append.mpr ⟨_, reached, last⟩
  have lasts := claim "nox_ingestor_state_421614.json" _ Sample.stateStore
    Sample.defaultPath_named Sample.stateStore_inRange 0 Sample.emptyDisk _ _ returned
  have atPath : PersistCall.Renamed _ Sample.emptyDisk renamed :=
    PersistCall.run_progress Sample.defaultPath_named reached
  have lost : renamed.FoundAfterCrash Sample.defaultPath none :=
    atPath.found.mpr (.inr ⟨none, List.mem_cons_self, rfl⟩)
  obtain ⟨state, read, _⟩ := lasts [] _ rfl none lost
  cases read

theorem persist_durable_iff_sample :
    ∃ answers final,
      run (Sample.stateStore.persistCall Sample.statePath 0).step
          ((Sample.stateStore.persistCall Sample.statePath 0).start, Sample.emptyDisk) answers =
        some (.returned true, final) ∧ Lasts Sample.statePath Sample.stateStore final := by
  obtain ⟨renamed, reached⟩ :=
    (Sample.stateStore.persistCall Sample.statePath 0).run_to_openDirectory
      Sample.statePath_named Sample.emptyDisk
  have last : run (Sample.stateStore.persistCall Sample.statePath 0).step
      (.openDirectory, renamed) [.done, .done] = some (.returned true, _) := rfl
  have returned := run_append.mpr ⟨_, reached, last⟩
  refine ⟨_, _, returned, ?_⟩
  apply (persist_durable_iff Sample.statePath_named Sample.stateStore_inRange returned).mpr
  exact .inl ⟨by decide, _, renamed, rfl, reached⟩

end NoxIngestor
