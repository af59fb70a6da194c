/-
Numbers written in hexadecimal and in decimal digits.

Hexadecimal numbers have a fixed width; decimal ones have no leading zero.  Both
texts determine their numbers, and the hexadecimal one is read back.
-/

import Mathlib.Algebra.Order.Ring.Nat
import Mathlib.Data.Nat.Basic
import Mathlib.Tactic.Common
import Mathlib.Tactic.Ring

namespace NoxIngestor

/-! ### Hexadecimal text -/

def hexDigit (digit : Nat) : Char :=
  if digit < 10 then Char.ofNat ('0'.toNat + digit)
  else Char.ofNat ('a'.toNat + (digit - 10))

def hexDigits : Nat → Nat → List Char
  | 0, _value => []
  | width + 1, value => hexDigit (value / 16 ^ width % 16) :: hexDigits width value

/-- The `{:#x}` form of a value of `4 * width` bits. -/
def lowerHex (width value : Nat) : String :=
  String.ofList ('0' :: 'x' :: hexDigits width value)

private theorem hexDigit_injective {left right : Nat} (leftBound : left < 16)
    (rightBound : right < 16) (same : hexDigit left = hexDigit right) :
    left = right := by
  have table : ∀ a : Fin 16, ∀ b : Fin 16, hexDigit a = hexDigit b → a = b := by
    decide
  exact congrArg Fin.val (table ⟨left, leftBound⟩ ⟨right, rightBound⟩ same)

theorem hexDigits_injective {width left right : Nat}
    (same : hexDigits width left = hexDigits width right) :
    left % 16 ^ width = right % 16 ^ width := by
  induction width with
  | zero =>
      simp only [Nat.pow_zero, Nat.mod_one]
  | succ width ih =>
      simp only [hexDigits, List.cons.injEq] at same
      have high := hexDigit_injective (Nat.mod_lt _ (by decide))
        (Nat.mod_lt _ (by decide)) same.1
      rw [Nat.pow_succ, Nat.mod_mul, Nat.mod_mul, ih same.2, high]

theorem lowerHex_injective {width left right : Nat}
    (leftBound : left < 16 ^ width) (rightBound : right < 16 ^ width)
    (same : lowerHex width left = lowerHex width right) : left = right := by
  have digits := String.ofList_injective same
  simp only [List.cons.injEq, true_and] at digits
  have remainders := hexDigits_injective digits
  rwa [Nat.mod_eq_of_lt leftBound, Nat.mod_eq_of_lt rightBound] at remainders

/-! ### Reading hexadecimal text -/

def hexValue (char : Char) : Option Nat :=
  if '0' ≤ char ∧ char ≤ '9' then some (char.toNat - '0'.toNat)
  else if 'a' ≤ char ∧ char ≤ 'f' then some (char.toNat - 'a'.toNat + 10)
  else if 'A' ≤ char ∧ char ≤ 'F' then some (char.toNat - 'A'.toNat + 10)
  else none

/-- The digits continue a number read so far. -/
def hexNumber : Nat → List Char → Option Nat
  | value, [] => some value
  | value, char :: rest =>
      match hexValue char with
      | some digit => hexNumber (16 * value + digit) rest
      | none => none

@[simp] theorem hexDigits_length (width value : Nat) :
    (hexDigits width value).length = width := by
  induction width with
  | zero => rfl
  | succ width ih => rw [hexDigits, List.length_cons, ih]

private theorem hexValue_hexDigit {digit : Nat} (bound : digit < 16) :
    hexValue (hexDigit digit) = some digit := by
  have table : ∀ d : Fin 16, hexValue (hexDigit d) = some d.val := by
    decide
  exact table ⟨digit, bound⟩

theorem hexNumber_hexDigits (before width value : Nat) :
    hexNumber before (hexDigits width value) =
      some (before * 16 ^ width + value % 16 ^ width) := by
  induction width generalizing before with
  | zero =>
      rw [hexDigits, hexNumber, Nat.pow_zero, Nat.mod_one, Nat.mul_one, Nat.add_zero]
  | succ width ih =>
      have digitBound : value / 16 ^ width % 16 < 16 := Nat.mod_lt _ (by decide)
      rw [hexDigits, hexNumber, hexValue_hexDigit digitBound]
      change hexNumber _ _ = _
      rw [ih, Nat.pow_succ, Nat.mod_mul]
      congr 1
      ring

/-! ### Decimal text -/

theorem decimal_digits (value : Nat) :
    ∀ char ∈ (toString value).toList, char.isDigit = true := by
  intro char member
  rw [Nat.toString_eq_repr, Nat.toList_repr] at member
  exact Nat.isDigit_of_mem_toDigits (by decide) (by decide) member

private theorem decimal_no_colon (value : Nat) : ':' ∉ (toString value).toList := by
  intro member
  exact absurd (decimal_digits value ':' member) (by decide)

theorem decimal_value (value : Nat) :
    Nat.ofDigitChars 10 (toString value).toList 0 = value := by
  rw [Nat.toString_eq_repr, Nat.toList_repr, Nat.ofDigitChars_ten_toDigits]

private theorem toDigits_head {value : Nat} (positive : 0 < value) :
    (Nat.toDigits 10 value).head? ≠ some '0' := by
  induction value using Nat.strong_induction_on with
  | _ value ih =>
      by_cases small : value < 10
      · rw [Nat.toDigits_of_lt_base small]
        intro same
        have isZero := Nat.digitChar_eq_zero.mp (Option.some.inj same)
        omega
      · have large : 10 ≤ value := Nat.le_of_not_lt small
        have headOther := ih (value / 10) (by omega) (by omega)
        rw [Nat.toDigits_of_base_le (by decide) large]
        cases shape : Nat.toDigits 10 (value / 10) with
        | nil => exact absurd shape Nat.toDigits_ne_nil
        | cons first more =>
            rw [shape] at headOther
            exact headOther

theorem decimal_shape (value : Nat) : ∃ first more,
    (toString value).toList = first :: more ∧ (first = '0' → more = []) := by
  rw [Nat.toString_eq_repr, Nat.toList_repr]
  rcases Nat.eq_zero_or_pos value with rfl | positive
  · exact ⟨'0', [], rfl, fun _ => rfl⟩
  · have headOther := toDigits_head positive
    cases shape : Nat.toDigits 10 value with
    | nil => exact absurd shape Nat.toDigits_ne_nil
    | cons first more =>
        rw [shape] at headOther
        exact ⟨first, more, rfl, fun isZero => absurd (congrArg some isZero) headOther⟩

theorem decimal_injective {left right : Nat}
    (same : toString left = toString right) : left = right := by
  have values := congrArg (fun text => Nat.ofDigitChars 10 text.toList 0) same
  simpa only [decimal_value] using values

theorem decimal_colon_injective {left right : Nat} {leftRest rightRest : List Char}
    (same : (toString left).toList ++ ':' :: leftRest =
      (toString right).toList ++ ':' :: rightRest) :
    left = right ∧ leftRest = rightRest := by
  have upToColon (value : Nat) (rest : List Char) :
      ((toString value).toList ++ ':' :: rest).takeWhile (· != ':') =
        (toString value).toList := by
    have noColon : ∀ char ∈ (toString value).toList, (char != ':') = true := by
      intro char member
      apply bne_iff_ne.mpr
      intro isColon
      exact decimal_no_colon value (isColon ▸ member)
    rw [List.takeWhile_append_of_pos noColon]
    simp only [bne_self_eq_false, Bool.false_eq_true, not_false_eq_true,
      List.takeWhile_cons_of_neg, List.append_nil]
  have heads := congrArg (List.takeWhile (· != ':')) same
  rw [upToColon, upToColon] at heads
  rw [heads] at same
  have tails := List.append_cancel_left same
  exact ⟨decimal_injective (String.toList_injective heads), (List.cons.inj tails).2⟩

end NoxIngestor
