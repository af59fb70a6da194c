/-
Fixed-width values and their text forms.

Addresses and 32-byte words are bit vectors; block numbers and other `u64`
counters are natural numbers, with the wrapping of a release build written out
where the code adds or subtracts.  The text forms are those the payloads, the
subjects and the deduplication identifiers are built from.
-/

import Mathlib.Algebra.Order.Ring.Nat
import Mathlib.Data.Nat.Basic
import Mathlib.Logic.Function.Basic
import Mathlib.Tactic.Common
import NoxIngestor.Lib.Digits

namespace NoxIngestor

abbrev Address := BitVec 160

abbrev B256 := BitVec 256

/-- Durations are counted in nanoseconds, instants in whole milliseconds. -/
abbrev Duration := Nat

def Duration.fromMillis (millis : Nat) : Duration := 1000000 * millis

def Duration.asSecs (duration : Duration) : Nat := duration / 1000000000

def u64Modulus : Nat := 2 ^ 64

/-- `a + b` on `u64`, wrapping as in a release build. -/
def u64Add (a b : Nat) : Nat := (a + b) % u64Modulus

/-- `a - b` on `u64`, wrapping as in a release build. -/
def u64Sub (a b : Nat) : Nat := (a + u64Modulus - b) % u64Modulus

/-! ### Hexadecimal text -/

def B256.toHex (word : B256) : String := lowerHex 64 word.toNat

def Address.toHex (address : Address) : String := lowerHex 40 address.toNat

theorem B256.toHex_injective : Function.Injective B256.toHex := by
  intro left right same
  apply BitVec.eq_of_toNat_eq
  exact lowerHex_injective left.isLt right.isLt same

end NoxIngestor
