import Mathlib.Algebra.GroupWithZero.Nat
import Mathlib.Algebra.Ring.Int.Defs
import Mathlib.Data.Nat.Notation

/-!
# Machine integers and binary64 numbers

The source computes on `uint64` and `int64` values, which are `Nat` and `Int` here with the wrap
written out, and in one place on `float64` values. A binary64 product of natural numbers is exact
before it is rounded, so only the rounding to 53 significant bits is needed (`roundBits`).
-/

namespace Go

/-- The value of a `uint64` after an operation whose exact result is `n`. Reference: the Go
language, integer overflow. -/
def uint64 (n : Nat) : Nat := n % 2 ^ 64

/-- The conversion `uint64(i)` of an `int64`. Reference: the Go language, conversions. -/
def uint64OfInt (i : Int) : Nat := (i % 2 ^ 64).toNat

/-- The conversion `int64(n)` of a `uint64`. Reference: the Go language, conversions. -/
def int64 (n : Nat) : Int :=
  if n % 2 ^ 64 < 2 ^ 63 then (n % 2 ^ 64 : Nat) else (n % 2 ^ 64 : Nat) - 2 ^ 64

/-- The value of an `int64` after an operation whose exact result is `i`. Reference: the Go
language, integer overflow. -/
def wrapInt64 (i : Int) : Int := int64 (uint64OfInt i)

/-- The quotient rounded up. Reference: Go `math.Ceil` of a quotient. -/
def ceilDiv (n d : Nat) : Nat := (n + d - 1) / d

theorem uint64_of_lt {n : Nat} (h : n < 2 ^ 64) : uint64 n = n := Nat.mod_eq_of_lt h

theorem int64_of_lt {n : Nat} (h : n < 2 ^ 63) : int64 n = n := by
  have h64 : n % 2 ^ 64 = n := Nat.mod_eq_of_lt (by omega)
  rw [int64, h64, if_pos h]

theorem uint64OfInt_natCast {n : Nat} (h : n < 2 ^ 64) : uint64OfInt n = n := by
  unfold uint64OfInt; omega

/-- The conversions of a `uint64` to an `int64` and back. Reference: the Go language,
conversions. -/
theorem uint64OfInt_int64 {n : Nat} (h : n < 2 ^ 64) : uint64OfInt (int64 n) = n := by
  unfold uint64OfInt int64
  rw [Nat.mod_eq_of_lt h]
  split <;> omega

/-- `n` rounded to `p` significant bits, ties to even. Reference: IEEE 754, roundTiesToEven. -/
def roundBits (p n : Nat) : Nat :=
  let e := Nat.log2 n + 1 - p
  let q := n / 2 ^ e
  let r := n % 2 ^ e
  if 2 * r < 2 ^ e then q * 2 ^ e
  else if 2 * r = 2 ^ e ∧ q % 2 = 0 then q * 2 ^ e
  else (q + 1) * 2 ^ e

end Go
