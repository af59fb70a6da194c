/-
Lines that end at a mark, and trimming them.

A text falls into the parts that end at each mark, the last one possibly without.
Trimmed parts joined by marks are found again when the result is split.
-/

import Mathlib.Data.List.DropRight
import Mathlib.Data.List.Infix
import Mathlib.Tactic.Common
import NoxIngestor.Lib.Replacing

namespace NoxIngestor.Lines

open Replacing

variable {α : Type} [DecidableEq α]

/-- Each part keeps the mark that ends it. -/
def splitInclusive (mark : α) : List α → List (List α)
  | [] => []
  | head :: rest =>
      if head = mark then [mark] :: splitInclusive mark rest
      else
        match splitInclusive mark rest with
        | [] => [[head]]
        | line :: lines => (head :: line) :: lines

section Splitting

variable {mark : α}

theorem splitInclusive_line {line : List α} (unmarked : mark ∉ line) (rest : List α) :
    splitInclusive mark (line ++ mark :: rest) =
      (line ++ [mark]) :: splitInclusive mark rest := by
  induction line with
  | nil =>
      rw [List.nil_append, splitInclusive, if_pos rfl]
      rfl
  | cons head later ih =>
      have other : head ≠ mark := fun same => unmarked (same ▸ List.mem_cons_self)
      have absent : mark ∉ later := fun present => unmarked (List.mem_cons_of_mem head present)
      rw [List.cons_append, splitInclusive, if_neg other, ih absent]
      rfl

theorem splitInclusive_unmarked {line : List α} (nonempty : line ≠ []) (unmarked : mark ∉ line) :
    splitInclusive mark line = [line] := by
  induction line with
  | nil => exact absurd rfl nonempty
  | cons head later ih =>
      have other : head ≠ mark := fun same => unmarked (same ▸ List.mem_cons_self)
      have absent : mark ∉ later := fun present => unmarked (List.mem_cons_of_mem head present)
      rw [splitInclusive, if_neg other]
      by_cases ended : later = []
      · rw [ended]
        rfl
      · rw [ih ended absent]

theorem line_induction (mark : α) {motive : List α → Prop}
    (last : ∀ line, mark ∉ line → motive line)
    (line : ∀ line rest, mark ∉ line → motive rest → motive (line ++ mark :: rest))
    (text : List α) : motive text := by
  induction bound : text.length using Nat.strong_induction_on generalizing text with
  | _ size ih =>
      by_cases present : mark ∈ text
      · obtain ⟨first, rest, rfl, absent⟩ := List.eq_append_cons_of_mem present
        apply line first rest absent
        apply ih rest.length _ rest rfl
        rw [← bound, List.length_append, List.length_cons]
        omega
      · exact last text present

theorem splitInclusive_flatten (text : List α) : (splitInclusive mark text).flatten = text := by
  induction text using line_induction mark with
  | last line absent =>
      by_cases nonempty : line = []
      · rw [nonempty]
        rfl
      · rw [splitInclusive_unmarked nonempty absent, List.flatten_singleton]
  | line line rest absent ih =>
      rw [splitInclusive_line absent, List.flatten_cons, ih, List.append_assoc]
      rfl

theorem splitInclusive_append (first second : List α) :
    splitInclusive mark (first ++ [mark] ++ second) =
      splitInclusive mark (first ++ [mark]) ++ splitInclusive mark second := by
  induction first using line_induction mark with
  | last line absent =>
      rw [List.append_assoc, List.singleton_append, splitInclusive_line absent,
        splitInclusive_line absent]
      rfl
  | line line rest absent ih =>
      have whole : line ++ mark :: rest ++ [mark] ++ second =
          line ++ mark :: (rest ++ [mark] ++ second) := by
        simp only [List.append_assoc, List.cons_append]
      have ended : line ++ mark :: rest ++ [mark] = line ++ mark :: (rest ++ [mark]) :=
        List.append_assoc _ _ _
      rw [whole, splitInclusive_line absent, ended, splitInclusive_line absent, ih,
        List.cons_append]

theorem splitInclusive_shape {text part : List α} (member : part ∈ splitInclusive mark text) :
    ∃ line, mark ∉ line ∧ (part = line ∨ part = line ++ [mark]) := by
  induction text using line_induction mark with
  | last line absent =>
      by_cases nonempty : line = []
      · rw [nonempty] at member
        cases member
      · rw [splitInclusive_unmarked nonempty absent] at member
        exact ⟨line, absent, .inl (List.mem_singleton.mp member)⟩
  | line line rest absent ih =>
      rw [splitInclusive_line absent] at member
      rcases List.mem_cons.mp member with rfl | later
      · exact ⟨line, absent, .inr rfl⟩
      · exact ih later

theorem infix_of_splitInclusive {text part : List α}
    (member : part ∈ splitInclusive mark text) : part <:+: text := by
  have inside := List.infix_of_mem_flatten member
  rwa [splitInclusive_flatten] at inside

theorem ne_nil_of_splitInclusive {text part : List α}
    (member : part ∈ splitInclusive mark text) : part ≠ [] := by
  induction text using line_induction mark with
  | last line absent =>
      by_cases nonempty : line = []
      · rw [nonempty] at member
        cases member
      · rw [splitInclusive_unmarked nonempty absent] at member
        rwa [List.mem_singleton.mp member]
  | line line rest absent ih =>
      rw [splitInclusive_line absent] at member
      rcases List.mem_cons.mp member with rfl | later
      · exact List.append_ne_nil_of_right_ne_nil line (List.cons_ne_nil mark [])
      · exact ih later

theorem getLast?_of_splitInclusive {text part : List α}
    (last : (splitInclusive mark text).getLast? = some part) :
    text.getLast? = part.getLast? := by
  obtain ⟨others, split⟩ := List.getLast?_eq_some_iff.mp last
  have nonempty : part ≠ [] := by
    have member : part ∈ splitInclusive mark text := by
      rw [split]
      exact List.mem_append_right others (List.mem_singleton_self part)
    exact ne_nil_of_splitInclusive member
  have joined : (splitInclusive mark text).flatten = text := splitInclusive_flatten text
  rw [split, List.flatten_append, List.flatten_singleton] at joined
  rw [← joined, List.getLast?_append_of_ne_nil _ nonempty]

end Splitting

/-! ### Lines that are each ended by the mark -/

def unlines (mark : α) (lines : List (List α)) : List α :=
  lines.flatMap (· ++ [mark])

section Joining

variable {α : Type} {mark : α} {lines : List (List α)}

theorem unlines_cons (line : List α) : unlines mark (line :: lines) =
    line ++ mark :: unlines mark lines := by
  rw [unlines, List.flatMap_cons, List.append_assoc]
  rfl

theorem intercalate_concat (nonempty : lines ≠ []) :
    [mark].intercalate lines ++ [mark] = unlines mark lines := by
  induction lines with
  | nil => exact absurd rfl nonempty
  | cons line rest ih =>
      cases rest with
      | nil => rw [List.intercalate_singleton, unlines, List.flatMap_singleton]
      | cons next later =>
          have behind := ih (List.cons_ne_nil next later)
          rw [List.intercalate_cons_cons, List.append_assoc, behind, unlines_cons line,
            List.append_assoc, List.singleton_append]

theorem unlines_eq_intercalate (lines : List (List α)) :
    unlines mark lines = [mark].intercalate (lines ++ [[]]) := by
  induction lines with
  | nil => rfl
  | cons line rest ih =>
      have more : rest ++ [[]] ≠ [] :=
        List.append_ne_nil_of_right_ne_nil rest (List.cons_ne_nil [] [])
      rw [unlines_cons, List.cons_append, List.intercalate_cons_of_ne_nil more, ← ih,
        List.append_assoc, List.singleton_append]

theorem infix_unlines {text : List α} (inside : text <:+: unlines mark lines)
    (nonempty : text ≠ []) (unmarked : mark ∉ text) : ∃ line ∈ lines, text <:+: line := by
  induction lines with
  | nil => exact absurd (List.infix_nil.mp inside) nonempty
  | cons line rest ih =>
      rw [unlines_cons] at inside
      rcases infix_of_unmarked inside unmarked with here | later
      · exact ⟨line, List.mem_cons_self, here⟩
      · obtain ⟨found, member, within⟩ := ih later
        exact ⟨found, List.mem_cons_of_mem line member, within⟩

theorem getLast?_intercalate {line : List α} (last : lines.getLast? = some line)
    (nonempty : line ≠ []) : ([mark].intercalate lines).getLast? = line.getLast? := by
  induction lines with
  | nil => cases last
  | cons first rest ih =>
      cases rest with
      | nil =>
          have same : first = line := Option.some.inj last
          rw [List.intercalate_singleton, same]
      | cons next later =>
          rw [List.getLast?_cons_cons] at last
          have behind := ih last
          have joined : [mark].intercalate (next :: later) ≠ [] := by
            intro empty
            rw [empty, List.getLast?_nil] at behind
            exact nonempty (List.getLast?_eq_none_iff.mp behind.symm)
          rw [List.intercalate_cons_cons, List.getLast?_append_of_ne_nil _ joined, behind]

end Joining

/-! ### Trimmed lines -/

/-- A line without the blanks at its end and without its mark. -/
structure Trimmed (blank : α → Bool) (mark : α) (line : List α) : Prop where
  unmarked : mark ∉ line
  trimmed : line.rdropWhile blank = line

section Trimming

variable {blank : α → Bool} {mark : α}

theorem trimmed_of_splitInclusive (markBlank : blank mark = true) {text part : List α}
    (member : part ∈ splitInclusive mark text) : Trimmed blank mark (part.rdropWhile blank) := by
  constructor
  · obtain ⟨line, absent, rfl | rfl⟩ := splitInclusive_shape member
    · intro present
      exact absent ((List.rdropWhile_prefix _ _).subset present)
    · rw [List.rdropWhile_concat_pos _ _ _ markBlank]
      intro present
      exact absent ((List.rdropWhile_prefix _ _).subset present)
  · exact List.rdropWhile_idempotent _ _

theorem trim_intercalate (markBlank : blank mark = true) {lines : List (List α)}
    (trimmed : ∀ line ∈ lines, Trimmed blank mark line)
    (last : lines.getLast? ≠ some []) :
    (splitInclusive mark ([mark].intercalate lines)).map (List.rdropWhile blank) = lines := by
  induction lines with
  | nil => rfl
  | cons line rest ih =>
      obtain ⟨first, others⟩ := List.forall_mem_cons.mp trimmed
      cases rest with
      | nil =>
          have nonempty : line ≠ [] := fun empty => last (congrArg some empty)
          rw [List.intercalate_singleton, splitInclusive_unmarked nonempty first.unmarked,
            List.map_singleton, first.trimmed]
      | cons next later =>
          rw [List.getLast?_cons_cons] at last
          rw [List.intercalate_cons_cons, List.append_assoc, List.singleton_append,
            splitInclusive_line first.unmarked, List.map_cons, ih others last,
            List.rdropWhile_concat_pos _ _ _ markBlank, first.trimmed]

end Trimming

end NoxIngestor.Lines
