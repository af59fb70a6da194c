/-
Paths as lists of components.

Repeated separators, trailing ones and `.` components after the first do not
count.  Replacing an extension changes the last component only, and an extension
with a dot inside is never one that a name already has.  Of a name such as `..a`,
only the parent directory is left without its extension, and none is set there.
-/

import Mathlib.Data.List.Basic
import Mathlib.Data.List.TakeWhile
import Mathlib.Tactic.Common

namespace NoxIngestor

inductive Component
  | rootDir
  | curDir
  | parentDir
  | normal (name : List Char)
deriving DecidableEq

abbrev Path := List Component

namespace Path

/-! ### Components of a text -/

def segments : List Char → List (List Char)
  | [] => [[]]
  | char :: rest =>
      if char = '/' then [] :: segments rest
      else
        match segments rest with
        | [] => [[char]]
        | segment :: later => (char :: segment) :: later

def component (segment : List Char) : Option Component :=
  if segment = [] ∨ segment = ['.'] then none
  else if segment = ['.', '.'] then some .parentDir
  else some (.normal segment)

/-- A leading `.` counts. -/
def leading : List Char → List Component
  | '/' :: _ => [.rootDir]
  | ['.'] => [.curDir]
  | '.' :: '/' :: _ => [.curDir]
  | _ => []

def ofChars (text : List Char) : Path :=
  leading text ++ (segments text).filterMap component

/-! ### Parts of a path -/

def fileName (path : Path) : Option (List Char) :=
  match path.getLast? with
  | some (.normal name) => some name
  | _ => none

/-- The parent of a bare file name is the empty path. -/
def parent (path : Path) : Option Path :=
  match path.getLast? with
  | none => none
  | some .rootDir => none
  | some _ => some path.dropLast

/-- The part of a name before its last dot. -/
def beforeLastDot (name : List Char) : Option (List Char) :=
  match name.reverse.dropWhile (· ≠ '.') with
  | [] => none
  | _dot :: before => some before.reverse

/-- A name that starts with its only dot has no extension. -/
def fileStem (name : List Char) : List Char :=
  match beforeLastDot name with
  | none => name
  | some [] => name
  | some before => before

def withExtension (path : Path) (extension : List Char) : Path :=
  match path.getLast? with
  | some (.normal name) =>
      if fileStem name = ['.'] then path.dropLast ++ [.parentDir]
      else path.dropLast ++ [.normal (fileStem name ++ '.' :: extension)]
  | _ => path

/-! ### Replaced extensions -/

private theorem beforeLastDot_eq_some {name before : List Char}
    (found : beforeLastDot name = some before) :
    ∃ after, name = before ++ '.' :: after ∧ '.' ∉ after := by
  unfold beforeLastDot at found
  cases rest : name.reverse.dropWhile (· ≠ '.') with
  | nil =>
      rw [rest] at found
      cases found
  | cons dot earlier =>
      rw [rest] at found
      cases found
      have isDot : dot = '.' := by
        have stopped := List.head?_dropWhile_not (fun char => decide (char ≠ '.')) name.reverse
        rw [rest] at stopped
        simpa using stopped
      have split := List.takeWhile_append_dropWhile (p := (· ≠ '.')) (l := name.reverse)
      rw [rest, isDot] at split
      have whole := congrArg List.reverse split
      rw [List.reverse_reverse, List.reverse_append, List.reverse_cons, List.append_assoc]
        at whole
      refine ⟨(name.reverse.takeWhile (· ≠ '.')).reverse, whole.symm, ?_⟩
      intro member
      have kept := List.mem_takeWhile_imp (List.mem_reverse.mp member)
      exact of_decide_eq_true kept rfl

private theorem fileStem_append_ne {extension : List Char} (dotted : '.' ∈ extension)
    (name : List Char) : fileStem name ++ '.' :: extension ≠ name := by
  have longer : name ++ '.' :: extension ≠ name := by
    intro same
    have lengths := congrArg List.length same
    rw [List.length_append, List.length_cons] at lengths
    omega
  cases found : beforeLastDot name with
  | none =>
      rw [fileStem, found]
      exact longer
  | some before =>
      cases before with
      | nil =>
          rw [fileStem, found]
          exact longer
      | cons first rest =>
          obtain ⟨after, shape, undotted⟩ := beforeLastDot_eq_some found
          rw [fileStem, found]
          intro same
          rw [shape] at same
          have tails := List.append_cancel_left same
          exact undotted ((List.cons.inj tails).2 ▸ dotted)

section Named

variable {path : Path} {name : List Char}

theorem fileName_eq_some (named : path.fileName = some name) :
    path = path.dropLast ++ [.normal name] := by
  unfold fileName at named
  cases last : path.getLast? with
  | none =>
      rw [last] at named
      cases named
  | some component =>
      rw [last] at named
      cases component with
      | normal other =>
          cases named
          exact (List.dropLast_append_getLast? _ last).symm
      | rootDir => cases named
      | curDir => cases named
      | parentDir => cases named

theorem parent_concat (directory : Path) {last : Component} (below : last ≠ .rootDir) :
    parent (directory ++ [last]) = some directory := by
  rw [parent, List.getLast?_append, List.dropLast_concat]
  cases last with
  | rootDir => exact absurd rfl below
  | _ => rfl

private theorem withExtension_concat (directory : Path) (name extension : List Char) :
    ∃ last, withExtension (directory ++ [.normal name]) extension = directory ++ [last] ∧
      (last = .parentDir ∨ last = .normal (fileStem name ++ '.' :: extension)) := by
  rw [withExtension, List.getLast?_append, List.dropLast_concat]
  by_cases bare : fileStem name = ['.']
  · exact ⟨.parentDir, if_pos bare, .inl rfl⟩
  · exact ⟨_, if_neg bare, .inr rfl⟩

theorem withExtension_ne (named : path.fileName = some name) {extension : List Char}
    (dotted : '.' ∈ extension) : path.withExtension extension ≠ path := by
  rw [fileName_eq_some named]
  obtain ⟨last, shape, either⟩ := withExtension_concat path.dropLast name extension
  rw [shape]
  intro same
  have names := (List.cons.inj (List.append_cancel_left same)).1
  rcases either with rfl | rfl
  · cases names
  · exact fileStem_append_ne dotted name (Component.normal.inj names)

theorem parent_withExtension (named : path.fileName = some name) (extension : List Char) :
    (path.withExtension extension).parent = path.parent := by
  rw [fileName_eq_some named]
  obtain ⟨last, shape, either⟩ := withExtension_concat path.dropLast name extension
  have below : last ≠ .rootDir := by
    rcases either with rfl | rfl
    · rintro ⟨⟩
    · rintro ⟨⟩
  rw [shape, parent_concat _ below, parent_concat _ (by rintro ⟨⟩)]

end Named

end Path

end NoxIngestor
