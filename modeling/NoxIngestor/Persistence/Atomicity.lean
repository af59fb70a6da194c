/-
Persisting the cursor, step by step.

A call is at one of its await points; the operating system answers each of its
operations, and the write may advance by any number of bytes at a time.  An error
is cleaned up after as well as possible; those of the directory sync are ignored.
A call that is cancelled, or cut by a crash, stops at the point it has reached.
-/

import NoxIngestor.Lib.Disk
import NoxIngestor.Lib.Path
import NoxIngestor.Lib.Runs
import NoxIngestor.Persistence.Record
import NoxIngestor.Transitions

namespace NoxIngestor

open Runs

abbrev StateDisk := Disk Path ByteArray

/-- What a call captures when it starts. -/
structure PersistCall where
  path : Path
  json : ByteArray

inductive PersistPoint
  | createDirAll
  | createFile
  | writeAll (written : Nat)
  | syncAll
  | rename
  | openDirectory
  | syncDirectory
  | removeFile
  | returned (ok : Bool)
deriving DecidableEq

inductive Answer
  | done
  | failed
  | wrote (count : Nat)
deriving DecidableEq

namespace PersistCall

def tmpPath (call : PersistCall) : Path := call.path.withExtension "json.tmp".toList

def start (call : PersistCall) : PersistPoint :=
  match call.tmpPath.parent with
  | some _ => .createDirAll
  | none => .createFile

def inDirectory (call : PersistCall) (path : Path) : Bool :=
  path.parent = call.path.parent

/-- Assumed of `write_all`: it reports success only when every byte has been written. -/
def AllWritten (call : PersistCall) (written : Nat) : Prop := written = call.json.size

instance (call : PersistCall) (written : Nat) : Decidable (call.AllWritten written) :=
  inferInstanceAs (Decidable (_ = _))

/-- The empty path names no directory, so that opening it never succeeds. -/
def step (call : PersistCall) : PersistPoint × StateDisk → Answer →
    Option (PersistPoint × StateDisk)
  | (.createDirAll, disk), .done => some (.createFile, disk)
  | (.createDirAll, disk), .failed => some (.removeFile, disk)
  | (.createFile, disk), .done =>
      some (.writeAll 0, disk.create call.tmpPath ByteArray.empty)
  | (.createFile, disk), .failed => some (.removeFile, disk)
  | (.writeAll written, disk), .wrote count =>
      if written + count ≤ call.json.size then
        some (.writeAll (written + count),
          disk.write call.tmpPath (call.json.extract 0 (written + count)))
      else none
  | (.writeAll written, disk), .done =>
      if call.AllWritten written then some (.syncAll, disk) else none
  | (.writeAll _, disk), .failed => some (.removeFile, disk)
  | (.syncAll, disk), .done => some (.rename, disk.syncFile call.tmpPath)
  | (.syncAll, disk), .failed => some (.removeFile, disk)
  | (.rename, disk), .done =>
      match call.path.parent with
      | some _ => some (.openDirectory, disk.rename call.tmpPath call.path)
      | none => some (.returned true, disk.rename call.tmpPath call.path)
  | (.rename, disk), .failed => some (.removeFile, disk)
  | (.openDirectory, disk), .done =>
      if call.path.parent = some [] then none else some (.syncDirectory, disk)
  | (.openDirectory, disk), .failed => some (.returned true, disk)
  | (.syncDirectory, disk), .done =>
      some (.returned true, disk.syncDirectory call.inDirectory)
  | (.syncDirectory, disk), .failed => some (.returned true, disk)
  | (.removeFile, disk), .done => some (.returned false, disk.remove call.tmpPath)
  | (.removeFile, disk), .failed => some (.returned false, disk)
  | _, _ => none

end PersistCall

/-- The milliseconds are cut to 64 bits. -/
def StateStore.persistCall (self : StateStore) (path : Path) (millis : Nat) : PersistCall :=
  { path := path
    json := (self.persistedState (millis % u64Modulus)).toBytes }

@[simp] theorem StateStore.persistCall_path (self : StateStore) (path : Path)
    (millis : Nat) : (self.persistCall path millis).path = path := rfl

@[simp] theorem StateStore.persistCall_json (self : StateStore) (path : Path)
    (millis : Nat) : (self.persistCall path millis).json =
      (self.persistedState (millis % u64Modulus)).toBytes := by
  rw [persistCall]

/-! ### Steps -/

/-- An error at these points leads to the clean-up. -/
def PersistPoint.fallible : PersistPoint → Bool
  | .createDirAll | .createFile | .writeAll _ | .syncAll | .rename => true
  | _ => false

namespace PersistCall

inductive Move (call : PersistCall) :
    PersistPoint → StateDisk → Answer → PersistPoint → StateDisk → Prop
  | directoriesCreated {disk : StateDisk} : Move call .createDirAll disk .done .createFile disk
  | fileCreated {disk : StateDisk} :
      Move call .createFile disk .done (.writeAll 0) (disk.create call.tmpPath ByteArray.empty)
  | wrote {disk : StateDisk} {written count : Nat}
      (fits : written + count ≤ call.json.size) :
      Move call (.writeAll written) disk (.wrote count) (.writeAll (written + count))
        (disk.write call.tmpPath (call.json.extract 0 (written + count)))
  | written {disk : StateDisk} :
      Move call (.writeAll call.json.size) disk .done .syncAll disk
  | fileSynced {disk : StateDisk} :
      Move call .syncAll disk .done .rename (disk.syncFile call.tmpPath)
  | renamed {disk : StateDisk} {directory : Path} (parent : call.path.parent = some directory) :
      Move call .rename disk .done .openDirectory (disk.rename call.tmpPath call.path)
  | renamedAlone {disk : StateDisk} (parent : call.path.parent = none) :
      Move call .rename disk .done (.returned true) (disk.rename call.tmpPath call.path)
  | opened {disk : StateDisk} (openable : call.path.parent ≠ some []) :
      Move call .openDirectory disk .done .syncDirectory disk
  | notOpened {disk : StateDisk} : Move call .openDirectory disk .failed (.returned true) disk
  | directorySynced {disk : StateDisk} :
      Move call .syncDirectory disk .done (.returned true) (disk.syncDirectory call.inDirectory)
  | directoryNotSynced {disk : StateDisk} :
      Move call .syncDirectory disk .failed (.returned true) disk
  | failed {disk : StateDisk} {point : PersistPoint} (fallible : point.fallible = true) :
      Move call point disk .failed .removeFile disk
  | removed {disk : StateDisk} :
      Move call .removeFile disk .done (.returned false) (disk.remove call.tmpPath)
  | notRemoved {disk : StateDisk} : Move call .removeFile disk .failed (.returned false) disk

theorem step_move {call : PersistCall} {point next : PersistPoint} {disk after : StateDisk}
    {answer : Answer} (taken : call.step (point, disk) answer = some (next, after)) :
    call.Move point disk answer next after := by
  cases answer with
  | wrote count =>
      cases point with
      | writeAll written =>
          rw [step, Option.ite_none_right_eq_some, Option.some.injEq] at taken
          obtain ⟨fits, same⟩ := taken
          cases same
          exact .wrote fits
      | _ => cases taken
  | failed =>
      cases point with
      | openDirectory =>
          cases taken
          exact .notOpened
      | syncDirectory =>
          cases taken
          exact .directoryNotSynced
      | removeFile =>
          cases taken
          exact .notRemoved
      | returned ok => cases taken
      | _ =>
          cases taken
          exact .failed rfl
  | done =>
      cases point with
      | createDirAll =>
          cases taken
          exact .directoriesCreated
      | createFile =>
          cases taken
          exact .fileCreated
      | writeAll written =>
          rw [step, Option.ite_none_right_eq_some, Option.some.injEq] at taken
          obtain ⟨rfl, same⟩ := taken
          cases same
          exact .written
      | syncAll =>
          cases taken
          exact .fileSynced
      | rename =>
          cases parent : call.path.parent with
          | none =>
              rw [step, parent] at taken
              cases taken
              exact .renamedAlone parent
          | some directory =>
              rw [step, parent] at taken
              cases taken
              exact .renamed parent
      | openDirectory =>
          rw [step, Option.ite_none_left_eq_some, Option.some.injEq] at taken
          obtain ⟨openable, same⟩ := taken
          cases same
          exact .opened openable
      | syncDirectory =>
          cases taken
          exact .directorySynced
      | removeFile =>
          cases taken
          exact .removed
      | returned ok => cases taken

/-! ### What each point has done -/

/-- The new record has taken the place of the entry. -/
structure Renamed (call : PersistCall) (before disk : StateDisk) : Prop where
  entry : disk.entry call.path = some { content := call.json, synced := true }
  older : disk.older call.path = before.entry call.path :: before.older call.path

/-- The new record is all that a crash may leave. -/
structure Settled (call : PersistCall) (disk : StateDisk) : Prop where
  entry : disk.entry call.path = some { content := call.json, synced := true }
  older : disk.older call.path = []

def Holds (call : PersistCall) (disk : StateDisk) (content : ByteArray) (synced : Bool) :
    Prop :=
  disk.entry call.tmpPath = some { content := content, synced := synced }

/-- Until the rename nothing is different at the path. -/
def Progress (call : PersistCall) (before : StateDisk) : PersistPoint → StateDisk → Prop
  | .writeAll written, disk =>
      disk.SameAt call.path before ∧ call.Holds disk (call.json.extract 0 written) false
  | .syncAll, disk => disk.SameAt call.path before ∧ call.Holds disk call.json false
  | .rename, disk => disk.SameAt call.path before ∧ call.Holds disk call.json true
  | .openDirectory, disk => call.Renamed before disk
  | .syncDirectory, disk => call.Renamed before disk
  | .returned true, disk => call.Renamed before disk ∨ call.Settled disk
  | _, disk => disk.SameAt call.path before

theorem start_progress (call : PersistCall) (disk : StateDisk) :
    call.Progress disk call.start disk := by
  unfold start
  cases call.tmpPath.parent with
  | none => exact .refl call.path disk
  | some directory => exact .refl call.path disk

theorem Progress.sameAt {call : PersistCall} {before disk : StateDisk} {point : PersistPoint}
    (progress : call.Progress before point disk) (fallible : point.fallible = true) :
    disk.SameAt call.path before := by
  cases point with
  | createDirAll => exact progress
  | createFile => exact progress
  | writeAll written => exact progress.1
  | syncAll => exact progress.1
  | rename => exact progress.1
  | _ => cases fallible

section Named

variable {call : PersistCall} {name : List Char} (named : call.path.fileName = some name)

include named

theorem parent_of_named : ∃ directory, call.path.parent = some directory := by
  rw [Path.fileName_eq_some named]
  exact ⟨_, Path.parent_concat _ (by rintro ⟨⟩)⟩

private theorem tmpPath_ne : call.tmpPath ≠ call.path :=
  Path.withExtension_ne named (by decide)

private theorem rename_done {before disk : StateDisk} (same : disk.SameAt call.path before)
    (held : call.Holds disk call.json true) :
    call.Renamed before (disk.rename call.tmpPath call.path) := by
  have moved := Disk.rename_target disk (tmpPath_ne named).symm
  rw [same.1, same.2] at moved
  exact ⟨moved.1.trans held, moved.2⟩

theorem progress_move {before disk after : StateDisk} {point next : PersistPoint}
    {answer : Answer} (progress : call.Progress before point disk)
    (move : call.Move point disk answer next after) : call.Progress before next after := by
  have other : call.path ≠ call.tmpPath := (tmpPath_ne named).symm
  cases move with
  | directoriesCreated => exact progress
  | fileCreated =>
      have empty : call.json.extract 0 0 = ByteArray.empty :=
        ByteArray.extract_eq_empty_iff.mpr (Nat.zero_min _).le
      refine ⟨(disk.create_sameAt other ByteArray.empty).trans progress, ?_⟩
      rw [empty]
      exact disk.create_entry ByteArray.empty
  | wrote =>
      exact ⟨(disk.write_sameAt other _).trans progress.1, disk.write_entry progress.2 _⟩
  | written =>
      obtain ⟨same, held⟩ := progress
      rw [ByteArray.extract_zero_size] at held
      exact ⟨same, held⟩
  | fileSynced =>
      exact ⟨(disk.syncFile_sameAt other).trans progress.1, disk.syncFile_entry progress.2⟩
  | renamed => exact rename_done named progress.1 progress.2
  | renamedAlone => exact .inl (rename_done named progress.1 progress.2)
  | opened => exact progress
  | notOpened => exact .inl progress
  | directorySynced =>
      exact .inr ⟨progress.entry, Disk.syncDirectory_older disk (decide_eq_true rfl)⟩
  | directoryNotSynced => exact .inl progress
  | failed fallible => exact progress.sameAt fallible
  | removed => exact (disk.remove_sameAt other).trans progress
  | notRemoved => exact progress

theorem run_progress {disk final : StateDisk} {answers : List Answer} {point : PersistPoint}
    (reached : run call.step (call.start, disk) answers = some (point, final)) :
    call.Progress disk point final := by
  have unguarded : Guarded call.step (fun _ _ => True) (call.start, disk) answers :=
    guarded_of_labels fun _ _ => trivial
  have holds : ∀ current, run call.step (call.start, disk) answers = some current →
      call.Progress disk current.1 current.2 := by
    intro current ends
    apply run_invariant _ unguarded (call.start_progress disk) ends
    intro middle answer next _ progress taken
    exact progress_move named progress (step_move taken)
  exact holds _ reached

end Named

/-! ### What is found at the path -/

theorem Progress.cases {call : PersistCall} {before disk : StateDisk} {point : PersistPoint}
    (progress : call.Progress before point disk) :
    disk.SameAt call.path before ∨ call.Renamed before disk ∨ call.Settled disk := by
  cases point with
  | openDirectory => exact .inr (.inl progress)
  | syncDirectory => exact .inr (.inl progress)
  | removeFile => exact .inl progress
  | returned ok =>
      cases ok with
      | true => exact .inr progress
      | false => exact .inl progress
  | _ => exact .inl (progress.sameAt rfl)

private theorem content_of_entry {call : PersistCall} {disk : StateDisk}
    (entry : disk.entry call.path = some { content := call.json, synced := true }) :
    disk.content call.path = some call.json :=
  congrArg (Option.map FileNode.content) entry

theorem Progress.content {call : PersistCall} {before disk : StateDisk} {point : PersistPoint}
    (progress : call.Progress before point disk) :
    disk.content call.path = before.content call.path ∨
      disk.content call.path = some call.json := by
  rcases progress.cases with same | renamed | settled
  · exact .inl same.content
  · exact .inr (content_of_entry renamed.entry)
  · exact .inr (content_of_entry settled.entry)

theorem Progress.returned {call : PersistCall} {before disk : StateDisk}
    (progress : call.Progress before (.returned true) disk) :
    disk.content call.path = some call.json := by
  rcases progress with renamed | settled
  · exact content_of_entry renamed.entry
  · exact content_of_entry settled.entry

theorem Renamed.found {call : PersistCall} {before disk : StateDisk}
    (renamed : call.Renamed before disk) {found : Option ByteArray} :
    disk.FoundAfterCrash call.path found ↔
      found = some call.json ∨ before.FoundAfterCrash call.path found := by
  rw [Disk.found_of_synced renamed.entry, renamed.older]
  rfl

theorem Settled.found {call : PersistCall} {disk : StateDisk} (settled : call.Settled disk)
    {found : Option ByteArray} (left : disk.FoundAfterCrash call.path found) :
    found = some call.json := by
  rcases (Disk.found_of_synced settled.entry).mp left with new | ⟨entry, member, _⟩
  · exact new
  · rw [settled.older] at member
    cases member

theorem Progress.found {call : PersistCall} {before disk : StateDisk} {point : PersistPoint}
    (progress : call.Progress before point disk) {found : Option ByteArray}
    (left : disk.FoundAfterCrash call.path found) :
    before.FoundAfterCrash call.path found ∨ found = some call.json := by
  rcases progress.cases with same | renamed | settled
  · exact .inl ((same.found found).mp left)
  · exact (renamed.found.mp left).symm
  · exact .inr (settled.found left)

end PersistCall

theorem PersistCall.run_to_openDirectory (call : PersistCall) {name : List Char}
    (named : call.path.fileName = some name) (disk : StateDisk) :
    ∃ final, run call.step (call.start, disk)
      [.done, .done, .wrote call.json.size, .done, .done, .done] =
        some (.openDirectory, final) := by
  obtain ⟨directory, parent⟩ := parent_of_named named
  have started : call.start = .createDirAll := by
    rw [start, tmpPath, Path.parent_withExtension named, parent]
  have wrote (created : StateDisk) :
      call.step (.writeAll 0, created) (.wrote call.json.size) =
        some (.writeAll call.json.size,
          created.write call.tmpPath (call.json.extract 0 call.json.size)) := by
    rw [step, Nat.zero_add, if_pos le_rfl]
  have complete (written : StateDisk) :
      call.step (.writeAll call.json.size, written) .done = some (.syncAll, written) :=
    if_pos rfl
  have renamed (synced : StateDisk) : call.step (.rename, synced) .done =
      some (.openDirectory, synced.rename call.tmpPath call.path) := by
    rw [step, parent]
  rw [started, run_step rfl, run_step rfl, run_step (wrote _), run_step (complete _),
    run_step rfl, run_step (renamed _)]
  exact ⟨_, rfl⟩

/-! ### Atomicity -/

/-- Wherever a call stops, the path has what it had or the whole new record; an error
leaves all as it was; and what a complete call wrote is what is loaded. -/
theorem persist_atomic {path : Path} {name : List Char} (named : path.fileName = some name)
    {store : StateStore} (inRange : store.InRange) (millis : Nat) (disk : StateDisk) :
    (store.persistCall path millis).tmpPath ≠ path ∧
      ∀ answers point final,
        run (store.persistCall path millis).step
            ((store.persistCall path millis).start, disk) answers = some (point, final) →
          (final.content path = disk.content path ∨
            final.content path = some (store.persistCall path millis).json) ∧
          (∀ found, final.FoundAfterCrash path found →
            disk.FoundAfterCrash path found ∨
              found = some (store.persistCall path millis).json) ∧
          (point = .returned false → final.content path = disk.content path ∧
            ∀ found, final.FoundAfterCrash path found ↔ disk.FoundAfterCrash path found) ∧
          (point = .returned true → ∀ chainId initialBlock,
            StateStore.load (StateFile.ofContent (final.content path)) chainId initialBlock =
              if chainId = store.chainId then
                .ok { chainId := chainId
                      lastSynced := store.get
                      fromFile := true }
              else .error (.chainIdMismatch chainId store.chainId)) := by
  refine ⟨PersistCall.tmpPath_ne named, ?_⟩
  intro answers point final reached
  have progress := PersistCall.run_progress named reached
  refine ⟨?_, ?_, ?_, ?_⟩
  · exact progress.content
  · exact fun found left => progress.found left
  · rintro rfl
    have same : final.SameAt path disk := progress
    exact ⟨same.content, same.found⟩
  · rintro rfl chainId initialBlock
    have bound : millis % u64Modulus < 2 ^ 64 := Nat.mod_lt _ (by decide)
    have content := progress.returned
    rw [StateStore.persistCall_path, StateStore.persistCall_json] at content
    rw [content, StateStore.load_persisted inRange bound]

namespace Sample

def statePath : Path := Path.ofChars "/data/nox_ingestor_state_421614.json".toList

theorem statePath_named :
    statePath.fileName = some "nox_ingestor_state_421614.json".toList := by
  decide

def stateStore : StateStore :=
  { chainId := 421614
    lastSynced := 101
    fromFile := true }

theorem stateStore_inRange : stateStore.InRange :=
  { chainId := by decide
    lastSynced := by decide }

def emptyDisk : StateDisk :=
  { entry := fun _path => none
    older := fun _path => [] }

end Sample

theorem persist_atomic_emptyDisk :
    ∃ answers final,
      run (Sample.stateStore.persistCall Sample.statePath 0).step
          ((Sample.stateStore.persistCall Sample.statePath 0).start, Sample.emptyDisk) answers =
        some (.returned true, final) ∧
      StateStore.load (StateFile.ofContent (final.content Sample.statePath)) 421614 7 =
        .ok Sample.stateStore := by
  obtain ⟨renamed, reached⟩ :=
    (Sample.stateStore.persistCall Sample.statePath 0).run_to_openDirectory
      Sample.statePath_named Sample.emptyDisk
  have last : run (Sample.stateStore.persistCall Sample.statePath 0).step
      (.openDirectory, renamed) [.failed] = some (.returned true, renamed) := rfl
  have returned := run_append.mpr ⟨_, reached, last⟩
  refine ⟨_, renamed, returned, ?_⟩
  exact ((persist_atomic Sample.statePath_named Sample.stateStore_inRange 0
    Sample.emptyDisk).2 _ _ _ returned).2.2.2 rfl 421614 7

/-! ### The file of the main loop -/

/-- Reading the path gives the file of the main loop's state. -/
def Shows (disk : StateDisk) (path : Path) (file : Option PersistedState) : Prop :=
  StateFile.ofContent (disk.content path) = match file with
    | some state => .parsed state
    | none => .notFound

/-- The steps of a call amount to one write of the main loop, which happens or not. -/
theorem persist_refines {path : Path} {name : List Char} (named : path.fileName = some name)
    {s : State} (inRange : s.stateStore.InRange) (clock : s.clock < 2 ^ 64)
    {disk final : StateDisk} (shown : Shows disk path s.file) {answers : List Answer}
    {point : PersistPoint}
    (reached : run (s.stateStore.persistCall path s.clock).step
      ((s.stateStore.persistCall path s.clock).start, disk) answers = some (point, final)) :
    (∃ success, Shows final path (s.writeFile success).file) ∧
      ∀ success, point = .returned success → Shows final path (s.writeFile success).file := by
  have progress := PersistCall.run_progress named reached
  have unchanged (same : final.content path = disk.content path) :
      Shows final path (s.writeFile false).file := by
    unfold Shows
    rw [same]
    exact shown
  have written (content : final.content path =
      some (s.stateStore.persistCall path s.clock).json) :
      Shows final path (s.writeFile true).file := by
    have whole : s.clock % u64Modulus = s.clock := Nat.mod_eq_of_lt clock
    rw [StateStore.persistCall_json, whole] at content
    unfold Shows
    rw [content]
    exact StateFile.ofContent_toBytes _ (StateStore.persistedState_inRange inRange clock)
  constructor
  · rcases progress.content with same | new
    · exact ⟨false, unchanged same⟩
    · exact ⟨true, written new⟩
  · rintro success rfl
    cases success with
    | true => exact written progress.returned
    | false =>
        have same : final.SameAt path disk := progress
        exact unchanged same.content

end NoxIngestor
