/-
Halving ranges that weigh too much.

The ranges of one depth are disjoint, so that no more of them weigh over the cap than
the whole holds caps; and a range is down to one number after as many halvings as its
length has binary digits.
-/

import Mathlib.Data.Nat.Log

namespace NoxIngestor.Halving

variable {weight : Nat → Nat → Nat} {cap first last : Nat}

/-- A bound on the halvings of the range and of all that comes of it. -/
def halvings (cap : Nat) (weight : Nat → Nat → Nat) (range : Nat × Nat) : Nat :=
  Nat.clog 2 (range.2 - range.1 + 1) * (weight range.1 range.2 / (cap + 1))

theorem clog_halved {length : Nat} (long : 2 ≤ length) :
    Nat.clog 2 length = Nat.clog 2 ((length + 1) / 2) + 1 :=
  Nat.clog_of_two_le (by decide) long

theorem halvings_halved (wide : first < last) (heavy : cap < weight first last)
    (halves : weight first (first + (last - first) / 2) +
      weight (first + (last - first) / 2 + 1) last ≤ weight first last) :
    halvings cap weight (first, first + (last - first) / 2) +
        halvings cap weight (first + (last - first) / 2 + 1, last) + 1 ≤
      halvings cap weight (first, last) := by
  have long : 2 ≤ last - first + 1 := by omega
  have left : first + (last - first) / 2 - first + 1 ≤ (last - first + 1 + 1) / 2 := by omega
  have right : last - (first + (last - first) / 2 + 1) + 1 ≤ (last - first + 1 + 1) / 2 := by
    omega
  have held : 1 ≤ weight first last / (cap + 1) := (Nat.one_le_div_iff (Nat.succ_pos cap)).mpr heavy
  have shared : weight first (first + (last - first) / 2) / (cap + 1) +
      weight (first + (last - first) / 2 + 1) last / (cap + 1) ≤
        weight first last / (cap + 1) :=
    Nat.div_add_div_le_add_div.trans (Nat.div_le_div_right halves)
  unfold halvings
  rw [clog_halved long, Nat.succ_mul]
  have bothHalves := Nat.mul_le_mul_left (Nat.clog 2 ((last - first + 1 + 1) / 2)) shared
  rw [Nat.mul_add] at bothHalves
  have leftHalf := Nat.mul_le_mul_right
    (weight first (first + (last - first) / 2) / (cap + 1)) (Nat.clog_mono_right 2 left)
  have rightHalf := Nat.mul_le_mul_right
    (weight (first + (last - first) / 2 + 1) last / (cap + 1)) (Nat.clog_mono_right 2 right)
  simp only at leftHalf rightHalf ⊢
  omega

end NoxIngestor.Halving
