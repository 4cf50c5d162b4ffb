import AlbyHub.Go.Numbers

/-!
# Rounding to a number of significant bits

`roundBits p n` is off by at most half a unit in the last place (`roundBits_near`), it is exact on
numbers of at most `p` bits, and a number that is closer than half a unit to a multiple of the unit
is rounded to it (`roundBits_eq`).
-/

namespace Go

/-- The exponent of the unit in the last place. Reference: IEEE 754. -/
def unitExponent (p n : Nat) : Nat := Nat.log2 n + 1 - p

section
variable {p n m : Nat}

/-- Rounding moves a number by at most half a unit. Reference: IEEE 754, roundTiesToEven. -/
theorem roundBits_near (p n : Nat) :
    2 * roundBits p n ≤ 2 * n + 2 ^ unitExponent p n ∧
      2 * n ≤ 2 * roundBits p n + 2 ^ unitExponent p n := by
  have hdiv := Nat.div_add_mod n (2 ^ unitExponent p n)
  have hmod := Nat.mod_lt n (Nat.two_pow_pos (unitExponent p n))
  have hcomm := Nat.mul_comm (2 ^ unitExponent p n) (n / 2 ^ unitExponent p n)
  have hsucc := Nat.succ_mul (n / 2 ^ unitExponent p n) (2 ^ unitExponent p n)
  unfold roundBits
  rw [← unitExponent]
  simp only
  split
  · omega
  · split
    · omega
    · rw [Nat.succ_eq_add_one] at hsucc
      omega

/-- Rounding gives a multiple of the unit. Reference: IEEE 754, roundTiesToEven. -/
theorem dvd_roundBits (p n : Nat) : 2 ^ unitExponent p n ∣ roundBits p n := by
  unfold roundBits
  rw [← unitExponent]
  simp only
  split
  · exact Nat.dvd_mul_left _ _
  · split
    · exact Nat.dvd_mul_left _ _
    · exact Nat.dvd_mul_left _ _

/-- A number closer than half a unit to a multiple of the unit is rounded to it. Reference: IEEE
754, roundTiesToEven. -/
theorem roundBits_eq (hm : 2 ^ unitExponent p n ∣ m) (hlow : 2 * n < 2 * m + 2 ^ unitExponent p n)
    (hhigh : 2 * m < 2 * n + 2 ^ unitExponent p n) : roundBits p n = m := by
  obtain ⟨q, hq⟩ := dvd_roundBits p n
  obtain ⟨q', rfl⟩ := hm
  obtain ⟨hnear, hnear'⟩ := roundBits_near p n
  have hpos := Nat.two_pow_pos (unitExponent p n)
  rw [hq] at hnear hnear' ⊢
  generalize 2 ^ unitExponent p n = u at *
  -- the two multiples are less than one unit apart
  have hle : u * q < u * (q' + 1) := by rw [Nat.mul_succ]; omega
  have hge : u * q' < u * (q + 1) := by rw [Nat.mul_succ]; omega
  have hqq' := Nat.lt_of_mul_lt_mul_left hle
  have hq'q := Nat.lt_of_mul_lt_mul_left hge
  rw [show q = q' by omega]

theorem unitExponent_eq_zero (hp : 0 < p) (h : n < 2 ^ p) : unitExponent p n = 0 := by
  unfold unitExponent
  rcases Nat.eq_zero_or_pos n with rfl | hpos
  · rw [Nat.log2_zero]
    omega
  · have := (Nat.log2_lt (Nat.ne_of_gt hpos)).2 h
    omega

/-- A number of at most `p` bits is exact. Reference: IEEE 754. -/
theorem roundBits_of_lt (hp : 0 < p) (h : n < 2 ^ p) : roundBits p n = n := by
  refine roundBits_eq ?_ ?_ ?_ <;> rw [unitExponent_eq_zero hp h] <;> omega

/-- The number has at most `p` digits in front of its unit. Reference: IEEE 754. -/
theorem lt_two_pow_unitExponent : n < 2 ^ (unitExponent p n + p) :=
  Nat.lt_of_lt_of_le Nat.lt_log2_self
    (Nat.pow_le_pow_right (by decide) (by unfold unitExponent; omega))

/-- The unit is not larger than the number where it is not one. Reference: IEEE 754. -/
theorem two_pow_unitExponent_le (hp : 0 < p) (hn : n ≠ 0) : 2 ^ unitExponent p n ≤ n :=
  Nat.le_trans (Nat.pow_le_pow_right (by decide) (by unfold unitExponent; omega))
    (Nat.log2_self_le hn)

/-- Rounding at most doubles. Reference: none. -/
theorem roundBits_le (hp : 0 < p) : roundBits p n ≤ 2 * n := by
  rcases Nat.eq_zero_or_pos n with rfl | hpos
  · have hzero := roundBits_of_lt hp (Nat.two_pow_pos p)
    exact Nat.le_trans (Nat.le_of_eq hzero) (Nat.zero_le _)
  · have hunit := two_pow_unitExponent_le hp (Nat.ne_of_gt hpos)
    have hnear := (roundBits_near p n).1
    omega

end

end Go
