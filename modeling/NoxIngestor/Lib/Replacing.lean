/-
Replacing a pattern in a list.

Occurrences are taken leftmost first and do not overlap, as in the text functions
of most standard libraries.  Patterns are non-empty.  Replacing goes part by part
wherever no occurrence crosses from one part to the next, and removes every
occurrence when the replacement is the pattern cut short by a foreign mark.
-/

import Mathlib.Data.List.Forall2
import Mathlib.Data.List.Infix
import Mathlib.Tactic.Common

namespace NoxIngestor.Replacing

section Crossing

variable {α : Type}

private theorem prefix_append_cases {text first second : List α}
    (begins : text <+: first ++ second) :
    text <+: first ∨ ∃ back, text = first ++ back ∧ back <+: second := by
  rcases List.prefix_or_prefix_of_prefix begins (List.prefix_append first second) with
    inside | ⟨back, rfl⟩
  · exact .inl inside
  · exact .inr ⟨back, rfl, (List.prefix_append_right_inj first).mp begins⟩

private theorem prefix_of_unmarked {mark : α} {text first second : List α}
    (begins : text <+: first ++ mark :: second) (unmarked : mark ∉ text) : text <+: first := by
  rcases prefix_append_cases begins with inside | ⟨back, rfl, behind⟩
  · exact inside
  · rcases List.prefix_cons_iff.mp behind with rfl | ⟨later, rfl, _⟩
    · rw [List.append_nil]
    · exact absurd (List.mem_append_right first List.mem_cons_self) unmarked

theorem infix_of_unmarked {mark : α} {text first second : List α}
    (inside : text <:+: first ++ mark :: second) (unmarked : mark ∉ text) :
    text <:+: first ∨ text <:+: second := by
  induction first with
  | nil =>
      rcases List.infix_cons_iff.mp inside with begins | later
      · have nothing : text <+: [] := prefix_of_unmarked begins unmarked
        exact .inl nothing.isInfix
      · exact .inr later
  | cons head rest ih =>
      rcases List.infix_cons_iff.mp inside with begins | later
      · exact .inl (prefix_of_unmarked begins unmarked).isInfix
      · rcases ih later with before | behind
        · exact .inl (List.infix_cons before)
        · exact .inr behind

theorem infix_of_marked_end {mark : α} {front first second : List α} (absent : mark ∉ first)
    (unmarked : mark ∉ front) (inside : front ++ [mark] <:+: first ++ mark :: second) :
    front <:+ first ∨ front ++ [mark] <:+: second := by
  have whole {before behind : List α} (clear : mark ∉ before)
      (begins : front ++ [mark] <+: before ++ mark :: behind) : front <:+ before := by
    have covered := prefix_of_unmarked ((List.prefix_append front [mark]).trans begins) unmarked
    rcases prefix_append_cases begins with shorter | ⟨back, same, _⟩
    · exact absurd (shorter.subset (List.mem_append_right front (List.mem_singleton_self mark)))
        clear
    · obtain ⟨later, rfl⟩ := covered
      rw [List.append_assoc, List.append_cancel_left_eq] at same
      cases later with
      | nil =>
          rw [List.append_nil]
      | cons next others =>
          obtain ⟨rfl, _⟩ := List.cons.inj same
          exact absurd (List.mem_append_right front List.mem_cons_self) clear
  induction first with
  | nil =>
      rcases List.infix_cons_iff.mp inside with begins | later
      · exact .inl (whole absent begins)
      · exact .inr later
  | cons head rest ih =>
      have clear : mark ∉ rest := fun present => absent (List.mem_cons_of_mem head present)
      rcases List.infix_cons_iff.mp inside with begins | later
      · exact .inl (whole absent begins)
      · rcases ih clear later with before | behind
        · exact .inl (before.trans (List.suffix_cons head rest))
        · exact .inr behind

theorem infix_of_marked_start {mark : α} {back first second : List α} (absent : mark ∉ first)
    (inside : mark :: back <:+: first ++ mark :: second) :
    back <+: second ∨ mark :: back <:+: second := by
  induction first with
  | nil =>
      rcases List.infix_cons_iff.mp inside with begins | later
      · exact .inl (List.cons_prefix_cons.mp begins).2
      · exact .inr later
  | cons head rest ih =>
      rcases List.infix_cons_iff.mp inside with begins | later
      · obtain ⟨rfl, _⟩ := List.cons_prefix_cons.mp begins
        exact absurd List.mem_cons_self absent
      · exact ih (fun present => absent (List.mem_cons_of_mem head present)) later

theorem infix_of_foreign_front {head : α} {back first second : List α} (foreign : head ∉ first)
    (inside : head :: back <:+: first ++ second) : head :: back <:+: second := by
  induction first with
  | nil => exact inside
  | cons other rest ih =>
      rcases List.infix_cons_iff.mp inside with begins | later
      · obtain ⟨rfl, _⟩ := List.cons_prefix_cons.mp begins
        exact absurd List.mem_cons_self foreign
      · exact ih (fun present => foreign (List.mem_cons_of_mem other present)) later

/-- No occurrence crosses from the first part to the second. -/
def Apart (pattern first second : List α) : Prop :=
  ∀ front back, pattern = front ++ back → front ≠ [] → back ≠ [] →
    front <:+ first → ¬ back <+: second

section Apart

variable {pattern first second : List α}

theorem Apart.of_last {last : α} (foreign : last ∉ pattern.dropLast) :
    Apart pattern (first ++ [last]) second := by
  intro front back split frontNonempty backNonempty suffix
  exfalso
  rcases List.suffix_concat_iff.mp suffix with nothing | ⟨init, rfl, _⟩
  · exact frontNonempty nothing
  · rw [split, List.dropLast_append_of_ne_nil backNonempty] at foreign
    apply foreign
    exact List.mem_append_left _ (List.mem_append_right init (List.mem_singleton_self last))

theorem Apart.of_head {head : α} (foreign : head ∉ pattern.tail) :
    Apart pattern first (head :: second) := by
  intro front back split frontNonempty backNonempty suffix begins
  obtain ⟨start, others, rfl⟩ := List.exists_cons_of_ne_nil frontNonempty
  obtain ⟨next, later, rfl⟩ := List.exists_cons_of_ne_nil backNonempty
  obtain ⟨rfl, _⟩ := List.cons_prefix_cons.mp begins
  rw [split, List.cons_append, List.tail_cons] at foreign
  exact foreign (List.mem_append_right others List.mem_cons_self)

end Apart

end Crossing

variable {α : Type} [DecidableEq α]

/-- The number counts what is still to be skipped of an occurrence. -/
def replaceFrom (pattern replacement : List α) : Nat → List α → List α
  | _skip, [] => []
  | skip + 1, _head :: rest => replaceFrom pattern replacement skip rest
  | 0, head :: rest =>
      if pattern.isPrefixOf (head :: rest) then
        replacement ++ replaceFrom pattern replacement (pattern.length - 1) rest
      else head :: replaceFrom pattern replacement 0 rest

def replace (pattern replacement : List α) (text : List α) : List α :=
  replaceFrom pattern replacement 0 text

section Equations

variable {pattern replacement : List α}

private theorem replaceFrom_eq_drop (skip : Nat) (text : List α) :
    replaceFrom pattern replacement skip text =
      replace pattern replacement (text.drop skip) := by
  induction skip generalizing text with
  | zero => rfl
  | succ skip ih =>
      cases text with
      | nil => rfl
      | cons head rest => exact ih rest

@[simp] theorem replace_nil : replace pattern replacement [] = [] := rfl

theorem replace_occurrence (nonempty : pattern ≠ []) (rest : List α) :
    replace pattern replacement (pattern ++ rest) =
      replacement ++ replace pattern replacement rest := by
  obtain ⟨first, others, rfl⟩ := List.exists_cons_of_ne_nil nonempty
  have here : (first :: others).isPrefixOf (first :: (others ++ rest)) = true :=
    List.isPrefixOf_iff_prefix.mpr (List.prefix_append _ _)
  unfold replace
  rw [List.cons_append, replaceFrom, if_pos here, replaceFrom_eq_drop, List.length_cons,
    Nat.add_sub_cancel, List.drop_left, replace]

theorem replace_cons {head : α} {rest : List α} (elsewhere : ¬ pattern <+: head :: rest) :
    replace pattern replacement (head :: rest) =
      head :: replace pattern replacement rest := by
  have none : ¬ pattern.isPrefixOf (head :: rest) = true :=
    mt List.isPrefixOf_iff_prefix.mp elsewhere
  unfold replace
  rw [replaceFrom, if_neg none]

end Equations

theorem scan_induction {pattern : List α} (nonempty : pattern ≠ []) {motive : List α → Prop}
    (nil : motive []) (occurrence : ∀ rest, motive rest → motive (pattern ++ rest))
    (other : ∀ head rest, ¬ pattern <+: head :: rest → motive rest → motive (head :: rest))
    (text : List α) : motive text := by
  induction bound : text.length using Nat.strong_induction_on generalizing text with
  | _ size ih =>
      by_cases here : pattern <+: text
      · obtain ⟨rest, rfl⟩ := here
        apply occurrence
        apply ih rest.length _ rest rfl
        rw [← bound, List.length_append]
        have := List.length_pos_iff.mpr nonempty
        omega
      · cases text with
        | nil => exact nil
        | cons head rest =>
            apply other head rest here
            apply ih rest.length _ rest rfl
            rw [← bound, List.length_cons]
            exact Nat.lt_succ_self _

section Parts

variable {pattern replacement : List α}

theorem replace_of_absent (nonempty : pattern ≠ []) {text : List α}
    (absent : ¬ pattern <:+: text) : replace pattern replacement text = text := by
  induction text using scan_induction nonempty with
  | nil => rfl
  | occurrence rest ih => exact absurd (List.prefix_append pattern rest).isInfix absent
  | other head rest elsewhere ih =>
      rw [replace_cons elsewhere, ih]
      intro present
      exact absent (List.infix_cons present)

theorem replace_append (nonempty : pattern ≠ []) {first second : List α}
    (apart : Apart pattern first second) :
    replace pattern replacement (first ++ second) =
      replace pattern replacement first ++ replace pattern replacement second := by
  induction first using scan_induction nonempty with
  | nil => rfl
  | occurrence rest ih =>
      rw [List.append_assoc, replace_occurrence nonempty, replace_occurrence nonempty, ih,
        List.append_assoc]
      intro front back split frontNonempty backNonempty suffix
      exact apart front back split frontNonempty backNonempty
        (suffix.trans (List.suffix_append _ _))
  | other head rest elsewhere ih =>
      have crossing : ¬ pattern <+: head :: rest ++ second := by
        intro here
        rcases prefix_append_cases here with inside | ⟨back, split, begins⟩
        · exact elsewhere inside
        · by_cases ended : back = []
          · rw [ended, List.append_nil] at split
            rw [split] at elsewhere
            exact elsewhere List.prefix_rfl
          · exact apart _ back split (List.cons_ne_nil head rest) ended List.suffix_rfl begins
      rw [List.cons_append] at crossing ⊢
      rw [replace_cons crossing, replace_cons elsewhere, List.cons_append, ih]
      intro front back split frontNonempty backNonempty suffix
      exact apart front back split frontNonempty backNonempty
        (suffix.trans (List.suffix_cons head rest))

theorem replace_last {front : List α} {last : α} {text : List α}
    (absent : ¬ front ++ [last] <:+: text ++ front) :
    replace (front ++ [last]) replacement (text ++ (front ++ [last])) = text ++ replacement := by
  have nonempty : front ++ [last] ≠ [] := List.append_ne_nil_of_right_ne_nil _ (by simp)
  induction text with
  | nil =>
      have only : replace (front ++ [last]) replacement (front ++ [last] ++ []) =
          replacement ++ replace (front ++ [last]) replacement [] :=
        replace_occurrence nonempty []
      rwa [List.append_nil, replace_nil, List.append_nil] at only
  | cons head rest ih =>
      have elsewhere : ¬ front ++ [last] <+: head :: (rest ++ (front ++ [last])) := by
        intro begins
        have shorter : head :: (rest ++ front) <+: head :: (rest ++ (front ++ [last])) := by
          rw [← List.append_assoc]
          exact List.prefix_append (head :: (rest ++ front)) [last]
        have within := List.prefix_of_prefix_length_le begins shorter (by simp)
        exact absent within.isInfix
      rw [List.cons_append, replace_cons elsewhere, ih, List.cons_append]
      intro present
      exact absent (List.infix_cons present)

theorem replace_foreign_start {first : α} {others skipped rest : List α}
    (foreign : first ∉ skipped) :
    replace (first :: others) replacement (skipped ++ rest) =
      skipped ++ replace (first :: others) replacement rest := by
  induction skipped with
  | nil => rfl
  | cons head later ih =>
      have elsewhere : ¬ first :: others <+: head :: (later ++ rest) := by
        intro begins
        obtain ⟨rfl, _⟩ := List.cons_prefix_cons.mp begins
        exact foreign List.mem_cons_self
      rw [List.cons_append, replace_cons elsewhere, ih, List.cons_append]
      exact fun present => foreign (List.mem_cons_of_mem head present)

end Parts

/-! ### Nothing left to replace -/

/-- The replacement begins like the pattern and has a foreign mark where it stops
doing so; what follows the mark begins no occurrence. -/
structure CutShort (mark : α) (pattern replacement : List α) : Prop where
  nonempty : pattern ≠ []
  fresh : mark ∉ pattern
  shape : ∃ front back, replacement = front ++ mark :: back ∧ front <+: pattern ∧
    front ≠ pattern ∧ ∀ behind, pattern <:+: back ++ behind → pattern <:+: behind

namespace CutShort

variable {mark : α} {pattern replacement : List α}

private theorem prefix_of_replace (cut : CutShort mark pattern replacement) {begin text : List α}
    (begins : begin <+: replace pattern replacement text) (unmarked : mark ∉ begin) :
    begin <+: text := by
  induction text using scan_induction cut.nonempty generalizing begin with
  | nil => exact begins
  | occurrence rest ih =>
      obtain ⟨front, back, rfl, agrees, _, _⟩ := cut.shape
      rw [replace_occurrence cut.nonempty, List.append_assoc, List.cons_append] at begins
      have inside := prefix_of_unmarked begins unmarked
      exact (inside.trans agrees).trans (List.prefix_append pattern rest)
  | other head rest elsewhere ih =>
      rw [replace_cons elsewhere] at begins
      rcases List.prefix_cons_iff.mp begins with rfl | ⟨later, rfl, behind⟩
      · exact List.nil_prefix
      · have absent : mark ∉ later := fun present => unmarked (List.mem_cons_of_mem head present)
        exact List.cons_prefix_cons.mpr ⟨rfl, ih behind absent⟩

theorem absent (cut : CutShort mark pattern replacement) (text : List α) :
    ¬ pattern <:+: replace pattern replacement text := by
  induction text using scan_induction cut.nonempty with
  | nil =>
      intro present
      exact cut.nonempty (List.infix_nil.mp present)
  | occurrence rest ih =>
      obtain ⟨front, back, rfl, agrees, shorter, clean⟩ := cut.shape
      rw [replace_occurrence cut.nonempty, List.append_assoc, List.cons_append]
      intro present
      rcases infix_of_unmarked present cut.fresh with before | behind
      · exact shorter (agrees.eq_of_length_le before.length_le)
      · exact ih (clean _ behind)
  | other head rest elsewhere ih =>
      rw [replace_cons elsewhere]
      intro present
      rcases List.infix_cons_iff.mp present with begins | later
      · have unchanged : replace pattern replacement (head :: rest) =
            head :: replace pattern replacement rest := replace_cons elsewhere
        rw [← unchanged] at begins
        exact elsewhere (cut.prefix_of_replace begins cut.fresh)
      · exact ih later

end CutShort

/-! ### Pads that become marks -/

section Marking

variable {α : Type}

/-- The second text is the first with some of its pads turned into marks. -/
def Marked (pad mark : α) (before after : List α) : Prop :=
  List.Forall₂ (fun old new => new = old ∨ old = pad ∧ new = mark) before after

namespace Marked

variable {pad mark : α} {before after : List α}

theorem refl (text : List α) : Marked pad mark text text := by
  induction text with
  | nil => exact .nil
  | cons head rest ih => exact .cons (.inl rfl) ih

private theorem prefix_of_prefix (marked : Marked pad mark before after) {text : List α}
    (begins : text <+: after) (unmarked : mark ∉ text) : text <+: before := by
  induction marked generalizing text with
  | nil => exact begins
  | cons agrees rest ih =>
      rename_i old new oldRest newRest
      rcases List.prefix_cons_iff.mp begins with rfl | ⟨later, rfl, behind⟩
      · exact List.nil_prefix
      · have same : new = old := by
          rcases agrees with same | ⟨_, isMark⟩
          · exact same
          · exact absurd (isMark ▸ List.mem_cons_self) unmarked
        have absent : mark ∉ later := fun present => unmarked (List.mem_cons_of_mem new present)
        exact List.cons_prefix_cons.mpr ⟨same, ih behind absent⟩

theorem infix_of_infix (marked : Marked pad mark before after) {text : List α}
    (inside : text <:+: after) (unmarked : mark ∉ text) : text <:+: before := by
  induction marked with
  | nil => exact inside
  | cons agrees rest ih =>
      rename_i old new oldRest newRest
      rcases List.infix_cons_iff.mp inside with begins | later
      · have whole : Marked pad mark (old :: oldRest) (new :: newRest) := .cons agrees rest
        exact (whole.prefix_of_prefix begins unmarked).isInfix
      · exact List.infix_cons (ih later)

theorem getLast?_eq (marked : Marked pad mark before after)
    (kept : before.getLast? ≠ some pad) : after.getLast? = before.getLast? := by
  induction marked with
  | nil => rfl
  | cons agrees rest ih =>
      rename_i old new oldRest newRest
      cases rest with
      | nil =>
          rcases agrees with same | ⟨isPad, _⟩
          · rw [same]
          · exact absurd (congrArg some isPad) kept
      | cons next later =>
          rw [List.getLast?_cons_cons, List.getLast?_cons_cons]
          rw [List.getLast?_cons_cons] at kept
          exact ih kept

end Marked

end Marking

theorem replace_marked {pad mark : α} {pattern replacement : List α} (nonempty : pattern ≠ [])
    (marked : Marked pad mark pattern replacement) (text : List α) :
    Marked pad mark text (replace pattern replacement text) := by
  induction text using scan_induction nonempty with
  | nil => exact .nil
  | occurrence rest ih =>
      rw [replace_occurrence nonempty]
      exact List.rel_append marked ih
  | other head rest elsewhere ih =>
      rw [replace_cons elsewhere]
      exact .cons (.inl rfl) ih

end NoxIngestor.Replacing
