/-
Consecutive ranges.

A list of ranges of natural numbers tiles an interval when each range begins
where the one before it ended.  The upper end of a range belongs to the range,
the upper end of the tiled interval does not belong to it.
-/

import Mathlib.Data.List.Basic

namespace NoxIngestor.Tiling

def Tiles : Nat → List (Nat × Nat) → Nat → Prop
  | lower, [], upper => lower = upper
  | lower, range :: rest, upper =>
      range.1 = lower ∧ range.1 ≤ range.2 ∧ Tiles (range.2 + 1) rest upper

/-- Over adjacent ranges, the values join. -/
def Joins {α : Type} (whole : Nat → Nat → List α) : Prop :=
  ∀ lower middle upper, lower ≤ middle → middle < upper →
    whole lower upper = whole lower middle ++ whole (middle + 1) upper

theorem tiles_nil {lower upper : Nat} : Tiles lower [] upper ↔ lower = upper := Iff.rfl

theorem tiles_cons {lower upper first last : Nat} {rest : List (Nat × Nat)} :
    Tiles lower ((first, last) :: rest) upper ↔
      first = lower ∧ first ≤ last ∧ Tiles (last + 1) rest upper := Iff.rfl

theorem Tiles.le {lower upper : Nat} {ranges : List (Nat × Nat)}
    (tiles : Tiles lower ranges upper) : lower ≤ upper := by
  induction ranges generalizing lower with
  | nil => exact Nat.le_of_eq tiles
  | cons range rest ih =>
      obtain ⟨starts, ordered, later⟩ := tiles
      have further := ih later
      omega

theorem Tiles.inside {lower upper : Nat} {ranges : List (Nat × Nat)}
    (tiles : Tiles lower ranges upper) :
    ∀ range ∈ ranges, lower ≤ range.1 ∧ range.1 ≤ range.2 ∧ range.2 < upper := by
  induction ranges generalizing lower with
  | nil =>
      intro range member
      cases member
  | cons first rest ih =>
      obtain ⟨starts, ordered, later⟩ := tiles
      intro range member
      rcases List.mem_cons.mp member with same | inRest
      · subst range
        have further := later.le
        omega
      · have bounds := ih later range inRest
        omega

theorem Tiles.flatMap_eq {α : Type} {whole : Nat → Nat → List α} (additive : Joins whole)
    {lower last : Nat} {ranges : List (Nat × Nat)} (tiles : Tiles lower ranges (last + 1))
    (nonempty : lower ≤ last) :
    ranges.flatMap (fun range => whole range.1 range.2) = whole lower last := by
  induction ranges generalizing lower with
  | nil =>
      have ends := tiles_nil.mp tiles
      omega
  | cons range rest ih =>
      obtain ⟨starts, ordered, later⟩ := tiles
      rw [List.flatMap_cons, starts]
      by_cases more : range.2 < last
      · have joined := additive lower range.2 last (starts ▸ ordered) more
        rw [ih later more, joined]
      · have ends : rest = [] ∧ range.2 = last := by
          cases rest with
          | nil => exact ⟨rfl, Nat.succ.inj later⟩
          | cons next others =>
              obtain ⟨nextStarts, nextOrdered, others⟩ := later
              have further := others.le
              omega
        rw [ends.1, ends.2]
        exact List.append_nil _

end NoxIngestor.Tiling
