/-
Files and what a crash leaves of them.

A directory has an entry for each path.  Until the directory is synced, a crash
may bring back any entry the path had since its last sync; until a file is
synced, a crash may leave anything as its content.  Renaming takes the place of
the target's entry in one step.
-/

import Mathlib.Logic.Function.Basic
import Mathlib.Tactic.Common

namespace NoxIngestor

structure FileNode (β : Type) where
  content : β
  synced : Bool

structure Disk (ρ β : Type) where
  entry : ρ → Option (FileNode β)
  /-- Replaced since the directory was last synced. -/
  older : ρ → List (Option (FileNode β))

namespace Disk

variable {ρ β : Type}

def content (disk : Disk ρ β) (path : ρ) : Option β :=
  (disk.entry path).map FileNode.content

/-- What a crash may leave of one entry. -/
def Survives (entry : Option (FileNode β)) (found : Option β) : Prop :=
  match entry with
  | none => found = none
  | some node => ∃ content, found = some content ∧ (node.synced = true → content = node.content)

/-- What may stand at a path after a crash. -/
def FoundAfterCrash (disk : Disk ρ β) (path : ρ) (found : Option β) : Prop :=
  ∃ entry ∈ disk.entry path :: disk.older path, Survives entry found

instance Survives.decidable [DecidableEq β] (entry : Option (FileNode β)) (found : Option β) :
    Decidable (Survives entry found) :=
  match entry, found with
  | none, _ => inferInstanceAs (Decidable (_ = none))
  | some _, none => isFalse nofun
  | some node, some content =>
      decidable_of_iff (node.synced = true → content = node.content)
        ⟨fun kept => ⟨content, rfl, kept⟩, fun ⟨_, same, kept⟩ => Option.some.inj same ▸ kept⟩

instance FoundAfterCrash.decidable [DecidableEq β] (disk : Disk ρ β) (path : ρ)
    (found : Option β) : Decidable (disk.FoundAfterCrash path found) :=
  inferInstanceAs (Decidable (∃ entry ∈ _, Survives entry found))

/-- The disk a crash has left: what stands on it is all there is. -/
def afterCrash (left : ρ → Option β) : Disk ρ β :=
  { entry := fun path => (left path).map fun content => { content := content, synced := true }
    older := fun _path => [] }

section Operations

variable [DecidableEq ρ]

/-- Another node takes the place of the entry. -/
def replace (disk : Disk ρ β) (path : ρ) (entry : Option (FileNode β)) : Disk ρ β :=
  { entry := Function.update disk.entry path entry
    older := Function.update disk.older path (disk.entry path :: disk.older path) }

/-- The node of the entry changes, the entry does not. -/
def modify (disk : Disk ρ β) (path : ρ) (change : FileNode β → FileNode β) : Disk ρ β :=
  { disk with
    entry := Function.update disk.entry path ((disk.entry path).map change) }

/-- A file that is there is truncated in place. -/
def create (disk : Disk ρ β) (path : ρ) (empty : β) : Disk ρ β :=
  match disk.entry path with
  | none => disk.replace path (some { content := empty, synced := false })
  | some _ => disk.modify path fun _ => { content := empty, synced := false }

def write (disk : Disk ρ β) (path : ρ) (content : β) : Disk ρ β :=
  disk.modify path fun _ => { content := content, synced := false }

def syncFile (disk : Disk ρ β) (path : ρ) : Disk ρ β :=
  disk.modify path fun node => { node with synced := true }

def remove (disk : Disk ρ β) (path : ρ) : Disk ρ β :=
  disk.replace path none

def rename (disk : Disk ρ β) (source target : ρ) : Disk ρ β :=
  (disk.replace target (disk.entry source)).replace source none

end Operations

def syncDirectory (disk : Disk ρ β) (inside : ρ → Bool) : Disk ρ β :=
  { disk with older := fun path => if inside path then [] else disk.older path }

/-! ### Other paths -/

/-- Nothing about the path is different. -/
def SameAt (path : ρ) (left right : Disk ρ β) : Prop :=
  left.entry path = right.entry path ∧ left.older path = right.older path

theorem SameAt.refl (path : ρ) (disk : Disk ρ β) : SameAt path disk disk := ⟨rfl, rfl⟩

theorem SameAt.trans {path : ρ} {first second third : Disk ρ β}
    (before : SameAt path first second) (after : SameAt path second third) :
    SameAt path first third :=
  ⟨before.1.trans after.1, before.2.trans after.2⟩

theorem SameAt.content {path : ρ} {left right : Disk ρ β} (same : SameAt path left right) :
    left.content path = right.content path :=
  congrArg (Option.map FileNode.content) same.1

theorem SameAt.found {path : ρ} {left right : Disk ρ β} (same : SameAt path left right)
    (found : Option β) : left.FoundAfterCrash path found ↔ right.FoundAfterCrash path found := by
  unfold FoundAfterCrash
  rw [same.1, same.2]

section Frame

variable [DecidableEq ρ] {path other : ρ} (different : path ≠ other) (disk : Disk ρ β)

include different

private theorem replace_sameAt (entry : Option (FileNode β)) :
    SameAt path (disk.replace other entry) disk :=
  ⟨Function.update_of_ne different _ _, Function.update_of_ne different _ _⟩

private theorem modify_sameAt (change : FileNode β → FileNode β) :
    SameAt path (disk.modify other change) disk :=
  ⟨Function.update_of_ne different _ _, rfl⟩

theorem create_sameAt (empty : β) : SameAt path (disk.create other empty) disk := by
  unfold create
  cases disk.entry other with
  | none => exact replace_sameAt different disk _
  | some node => exact modify_sameAt different disk _

theorem write_sameAt (content : β) : SameAt path (disk.write other content) disk :=
  modify_sameAt different disk _

theorem syncFile_sameAt : SameAt path (disk.syncFile other) disk :=
  modify_sameAt different disk _

theorem remove_sameAt : SameAt path (disk.remove other) disk :=
  replace_sameAt different disk none

end Frame

/-! ### Own path -/

section Own

variable [DecidableEq ρ] {path : ρ} (disk : Disk ρ β)

theorem create_entry (empty : β) :
    (disk.create path empty).entry path = some { content := empty, synced := false } := by
  unfold create
  cases found : disk.entry path with
  | none => exact Function.update_self path _ _
  | some node =>
      change Function.update disk.entry path _ path = _
      rw [Function.update_self, found]
      rfl

theorem write_entry {node : FileNode β} (present : disk.entry path = some node) (content : β) :
    (disk.write path content).entry path = some { content := content, synced := false } := by
  change Function.update disk.entry path _ path = _
  rw [Function.update_self, present]
  rfl

theorem syncFile_entry {node : FileNode β} (present : disk.entry path = some node) :
    (disk.syncFile path).entry path = some { content := node.content, synced := true } := by
  change Function.update disk.entry path _ path = _
  rw [Function.update_self, present]
  rfl

theorem rename_target {source : ρ} (different : path ≠ source) :
    (disk.rename source path).entry path = disk.entry source ∧
      (disk.rename source path).older path = disk.entry path :: disk.older path := by
  have kept := replace_sameAt different (disk.replace path (disk.entry source)) none
  exact ⟨kept.1.trans (Function.update_self path _ _),
    kept.2.trans (Function.update_self path _ _)⟩

end Own

/-! ### After a crash -/

theorem syncDirectory_older {path : ρ} (disk : Disk ρ β) {inside : ρ → Bool}
    (within : inside path = true) : (disk.syncDirectory inside).older path = [] :=
  if_pos within

theorem found_of_synced {disk : Disk ρ β} {path : ρ} {content : β}
    (present : disk.entry path = some { content := content, synced := true })
    {found : Option β} :
    disk.FoundAfterCrash path found ↔
      found = some content ∨ ∃ entry ∈ disk.older path, Survives entry found := by
  unfold FoundAfterCrash
  rw [present]
  constructor
  · rintro ⟨entry, member, survives⟩
    rcases List.mem_cons.mp member with rfl | inOlder
    · obtain ⟨other, same, kept⟩ := survives
      exact .inl (same.trans (congrArg some (kept rfl)))
    · exact .inr ⟨entry, inOlder, survives⟩
  · rintro (rfl | ⟨entry, inOlder, survives⟩)
    · exact ⟨_, List.mem_cons_self, content, rfl, fun _ => rfl⟩
    · exact ⟨entry, List.mem_cons_of_mem _ inOlder, survives⟩

theorem found_content (disk : Disk ρ β) (path : ρ) :
    disk.FoundAfterCrash path (disk.content path) := by
  refine ⟨disk.entry path, List.mem_cons_self, ?_⟩
  cases present : disk.entry path with
  | none => exact congrArg (Option.map FileNode.content) present
  | some node =>
      exact ⟨node.content, congrArg (Option.map FileNode.content) present, fun _ => rfl⟩

/-- The next crash leaves no more than the last one did. -/
theorem found_afterCrash {left : ρ → Option β} {path : ρ} {found : Option β}
    (later : (afterCrash left).FoundAfterCrash path found) : found = left path := by
  obtain ⟨entry, member, survives⟩ := later
  cases List.mem_singleton.mp member
  change Survives ((left path).map _) found at survives
  cases whole : left path with
  | none =>
      rw [whole] at survives
      exact survives
  | some content =>
      rw [whole] at survives
      obtain ⟨other, same, kept⟩ := survives
      exact same.trans (congrArg some (kept rfl))

end Disk

end NoxIngestor
