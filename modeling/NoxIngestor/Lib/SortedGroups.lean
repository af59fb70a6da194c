/-
Sorting by a position, and collecting a list into groups by a key.

A group table is an association list whose keys are distinct; `collect` builds
it by inserting one element after the other.  The order of the table carries no
information, so everything is stated through lookups.  Lists that are strictly
increasing in a position are determined by their members.
-/

import Mathlib.Data.List.Sort
import Mathlib.Data.List.Nodup

namespace NoxIngestor.SortedGroups

/-! ### Strictly increasing lists -/

section Sorting

variable {α π : Type} [LinearOrder π]

def sortBy (position : α → π) (items : List α) : List α :=
  items.insertionSort (fun left right => position left ≤ position right)

/-- Positions strictly increase along the list. -/
def Increasing (position : α → π) (items : List α) : Prop :=
  items.Pairwise (fun left right => position left < position right)

theorem sortBy_perm (position : α → π) (items : List α) :
    (sortBy position items).Perm items :=
  List.perm_insertionSort _ items

theorem mem_sortBy {position : α → π} {items : List α} {item : α} :
    item ∈ sortBy position items ↔ item ∈ items :=
  (sortBy_perm position items).mem_iff

theorem sortBy_increasing {position : α → π} {items : List α}
    (distinct : (items.map position).Nodup) :
    Increasing position (sortBy position items) := by
  have total : Std.Total (fun left right : α => position left ≤ position right) :=
    ⟨fun left right => le_total (position left) (position right)⟩
  have transitive : IsTrans α (fun left right => position left ≤ position right) :=
    ⟨fun _ _ _ first second => le_trans first second⟩
  have ordered : (sortBy position items).Pairwise
      (fun left right => position left ≤ position right) :=
    List.pairwise_insertionSort _ items
  have separate : (sortBy position items).Pairwise
      (fun left right => position left ≠ position right) := by
    have mapped := ((sortBy_perm position items).map position).nodup_iff.mpr distinct
    exact List.pairwise_map.mp mapped
  exact (ordered.and separate).imp fun both => lt_of_le_of_ne both.1 both.2

theorem Increasing.eq_of_mem_iff {position : α → π} {left right : List α}
    (leftIncreasing : Increasing position left)
    (rightIncreasing : Increasing position right)
    (same : ∀ item, item ∈ left ↔ item ∈ right) : left = right := by
  have irreflexive : Std.Irrefl (fun left right : α => position left < position right) :=
    ⟨fun item => lt_irrefl (position item)⟩
  have antisymmetric : Std.Antisymm (fun left right : α => position left < position right) :=
    ⟨fun _ _ first second => absurd (lt_trans first second) (lt_irrefl _)⟩
  exact List.Pairwise.eq_of_mem_iff leftIncreasing rightIncreasing same

theorem Increasing.append {position : α → π} {left right : List α}
    (leftIncreasing : Increasing position left)
    (rightIncreasing : Increasing position right)
    (before : ∀ first ∈ left, ∀ second ∈ right, position first < position second) :
    Increasing position (left ++ right) :=
  List.pairwise_append.mpr ⟨leftIncreasing, rightIncreasing, before⟩

theorem Increasing.filter {position : α → π} {items : List α}
    (increasing : Increasing position items) (keep : α → Bool) :
    Increasing position (items.filter keep) :=
  List.Pairwise.filter keep increasing

theorem filter_sortBy {position : α → π} {items : List α}
    (distinct : (items.map position).Nodup) (keep : α → Bool) :
    (sortBy position items).filter keep = sortBy position (items.filter keep) := by
  have kept : ((items.filter keep).map position).Nodup :=
    distinct.sublist (List.filter_sublist.map position)
  apply Increasing.eq_of_mem_iff ((sortBy_increasing distinct).filter keep)
    (sortBy_increasing kept)
  intro item
  simp only [List.mem_filter, mem_sortBy]

theorem sortBy_eq_of_perm {position : α → π} {left right : List α}
    (distinct : (left.map position).Nodup) (same : left.Perm right) :
    sortBy position left = sortBy position right := by
  have rightDistinct := (same.map position).nodup_iff.mp distinct
  apply Increasing.eq_of_mem_iff (sortBy_increasing distinct)
    (sortBy_increasing rightDistinct)
  intro item
  rw [mem_sortBy, mem_sortBy, same.mem_iff]

end Sorting

/-! ### Group tables -/

section Tables

variable {κ ν α : Type} [DecidableEq κ]

/-- Look the key up, insert `fresh` when it is missing, then apply `change`. -/
def upsert (key : κ) (fresh : ν) (change : ν → ν) : List (κ × ν) → List (κ × ν)
  | [] => [(key, change fresh)]
  | (other, value) :: rest =>
      if other = key then (other, change value) :: rest
      else (other, value) :: upsert key fresh change rest

private theorem mem_keys_upsert (key : κ) (fresh : ν) (change : ν → ν)
    (table : List (κ × ν)) (asked : κ) :
    asked ∈ (upsert key fresh change table).map Prod.fst ↔
      asked = key ∨ asked ∈ table.map Prod.fst := by
  induction table with
  | nil => simp only [upsert, List.map_cons, List.map_nil, List.mem_singleton,
      List.not_mem_nil, or_false]
  | cons entry rest ih =>
      obtain ⟨other, value⟩ := entry
      by_cases same : other = key
      · subst other
        simp only [upsert, if_pos, List.map_cons, List.mem_cons]
        tauto
      · simp only [upsert, if_neg same, List.map_cons, List.mem_cons, ih]
        tauto

private theorem upsert_nodup {key : κ} {fresh : ν} {change : ν → ν}
    {table : List (κ × ν)} (distinct : (table.map Prod.fst).Nodup) :
    ((upsert key fresh change table).map Prod.fst).Nodup := by
  induction table with
  | nil => simp only [upsert, List.map_cons, List.map_nil, List.nodup_singleton]
  | cons entry rest ih =>
      obtain ⟨other, value⟩ := entry
      simp only [List.map_cons, List.nodup_cons] at distinct
      by_cases same : other = key
      · simpa only [upsert, if_pos same, List.map_cons, List.nodup_cons] using distinct
      · simp only [upsert, if_neg same, List.map_cons, List.nodup_cons,
          mem_keys_upsert, not_or]
        exact ⟨⟨same, distinct.1⟩, ih distinct.2⟩

private theorem lookup_upsert (key : κ) (fresh : ν) (change : ν → ν)
    (table : List (κ × ν)) (asked : κ) :
    (upsert key fresh change table).lookup asked =
      if asked = key then some (change ((table.lookup key).getD fresh))
      else table.lookup asked := by
  induction table with
  | nil =>
      by_cases here : asked = key
      · subst asked
        simp only [upsert, List.lookup_cons_self, List.lookup_nil, Option.getD_none, if_pos]
      · have missing : (asked == key) = false := beq_eq_false_iff_ne.mpr here
        simp only [upsert, List.lookup_cons, missing, List.lookup_nil, if_neg here]
  | cons entry rest ih =>
      obtain ⟨other, value⟩ := entry
      by_cases same : other = key
      · subst other
        by_cases here : asked = key
        · subst asked
          simp only [upsert, if_pos, List.lookup_cons_self, Option.getD_some]
        · have missing : (asked == key) = false := beq_eq_false_iff_ne.mpr here
          simp only [upsert, if_pos, List.lookup_cons, missing, if_neg here]
      · have otherKey : (key == other) = false :=
          beq_eq_false_iff_ne.mpr (fun equal => same equal.symm)
        simp only [upsert, if_neg same, List.lookup_cons, ih, otherKey]
        by_cases first : asked = other
        · subst asked
          simp only [beq_self_eq_true, if_neg same]
        · have missing : (asked == other) = false := beq_eq_false_iff_ne.mpr first
          simp only [missing]

theorem mem_iff_lookup {table : List (κ × ν)}
    (distinct : (table.map Prod.fst).Nodup) (key : κ) (value : ν) :
    (key, value) ∈ table ↔ table.lookup key = some value := by
  induction table with
  | nil => simp only [List.not_mem_nil, List.lookup_nil, reduceCtorEq]
  | cons entry rest ih =>
      obtain ⟨other, held⟩ := entry
      simp only [List.map_cons, List.nodup_cons] at distinct
      rw [List.mem_cons, List.lookup_cons, ih distinct.2, Prod.mk.injEq]
      by_cases same : key = other
      · subst key
        have absent : rest.lookup other = none := by
          rw [List.lookup_eq_none_iff]
          intro pair member
          apply bne_iff_ne.mpr
          intro equal
          exact distinct.1 (equal ▸ List.mem_map_of_mem member)
        simp only [beq_self_eq_true, absent, reduceCtorEq, or_false, true_and,
          Option.some.injEq]
        exact eq_comm
      · have missing : (key == other) = false := beq_eq_false_iff_ne.mpr same
        simp only [missing, same, false_and, false_or]

variable (key : α → κ) (fresh : α → ν) (add : α → ν → ν)

/-- One pass over the items, each added to the group of its key. -/
def collect (items : List α) : List (κ × ν) :=
  items.foldl (fun table item => upsert (key item) (fresh item) (add item) table) []

/-- What the pass does to the group of one key. -/
def gather (asked : κ) (held : Option ν) (items : List α) : Option ν :=
  (items.filter (fun item => key item = asked)).foldl
    (fun group item => some (add item (group.getD (fresh item)))) held

private theorem lookup_foldl (items : List α) (table : List (κ × ν)) (asked : κ) :
    (items.foldl (fun table item => upsert (key item) (fresh item) (add item) table)
        table).lookup asked =
      gather key fresh add asked (table.lookup asked) items := by
  induction items generalizing table with
  | nil => rfl
  | cons item rest ih =>
      rw [List.foldl_cons, ih, lookup_upsert]
      unfold gather
      by_cases mine : asked = key item
      · subst asked
        simp only [if_pos, List.filter_cons, decide_true, List.foldl_cons]
      · have skipped : ¬ (key item = asked) := fun same => mine same.symm
        simp only [if_neg mine, List.filter_cons, skipped, decide_false,
          Bool.false_eq_true, if_false]

theorem lookup_collect (items : List α) (asked : κ) :
    (collect key fresh add items).lookup asked =
      gather key fresh add asked none items :=
  lookup_foldl key fresh add items [] asked

theorem collect_nodup (items : List α) :
    ((collect key fresh add items).map Prod.fst).Nodup := by
  have step (table : List (κ × ν)) (distinct : (table.map Prod.fst).Nodup) :
      ((items.foldl (fun table item => upsert (key item) (fresh item) (add item) table)
        table).map Prod.fst).Nodup := by
    induction items generalizing table with
    | nil => exact distinct
    | cons item rest ih => exact ih _ (upsert_nodup distinct)
  exact step [] List.nodup_nil

theorem mem_collect (items : List α) (asked : κ) (value : ν) :
    (asked, value) ∈ collect key fresh add items ↔
      gather key fresh add asked none items = some value := by
  rw [mem_iff_lookup (collect_nodup key fresh add items), lookup_collect]

end Tables

end NoxIngestor.SortedGroups
