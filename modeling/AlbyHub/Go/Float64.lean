import Mathlib.Algebra.Order.Round
import Mathlib.Data.Int.Log
import Mathlib.Data.Rat.Floor
import Mathlib.Tactic.Linarith
import Mathlib.Tactic.Ring

/-!
# The round trip of a number through a float64

`parseFloat` rounds a rational to the nearest binary64 number, ties to even, and `shortest` is the
value of the shortest decimal that is rounded to a given one. The result of a rounding is rounded to
itself (`parseFloat_self`), so the decimal that is printed for it is read as it
(`parseFloat_shortest`): a number changes in its first round trip or never.
-/

namespace Go

/-- The nearest integer, ties to even. Reference: IEEE 754, roundTiesToEven. -/
def roundEven (q : ℚ) : ℤ :=
  let n := ⌊q⌋
  if q - n < 1 / 2 then n else if 1 / 2 < q - n then n + 1 else if n % 2 = 0 then n else n + 1

/-- The exponent of the last place of the numbers around `q`. Reference: IEEE 754, binary64: 53 bits
of precision, and the least subnormal number `2 ^ -1074`. -/
def lastPlace (q : ℚ) : ℤ := max (Int.log 2 |q| - 52) (-1074)

/-- The nearest binary64 number; an overflow is an error. Reference: Go `strconv.ParseFloat`. -/
def parseFloat (q : ℚ) : Option ℚ :=
  let place : ℚ := 2 ^ lastPlace q
  let f := roundEven (q / place) * place
  if |f| < 2 ^ 1024 then some f else none

/-- The decimals of `n + 1` digits next to `f`, the nearer one first; of two that are as near, the
one with the even last digit. Reference: Go `strconv.FormatFloat`. -/
def decimals (f : ℚ) (n : Nat) : List ℚ :=
  let unit : ℚ := 10 ^ (Int.log 10 |f| - n)
  let below := ⌊f / unit⌋
  let above := ⌈f / unit⌉
  let decimals := [below * unit, above * unit]
  if f / unit - below < above - f / unit then decimals
  else if above - f / unit < f / unit - below then decimals.reverse
  else if below % 2 = 0 then decimals else decimals.reverse

/-- The shortest decimal that is read as `f`. Reference: Go `strconv.FormatFloat` with the precision
`-1`. -/
def shortest (f : ℚ) : ℚ :=
  (((List.range 17).flatMap (decimals f)).find? fun d => parseFloat d = some f).getD f

/-- Whether the number is printed as it was written. Reference: Go `encoding/json`, `floatEncoder`
after `convertNumber`. -/
def RoundTrips (q : ℚ) : Prop := ∃ f, parseFloat q = some f ∧ shortest f = q

section
variable {q f : ℚ}

@[simp] theorem roundEven_intCast (n : ℤ) : roundEven n = n := by
  simp [roundEven]

/-- The rounded number is the floor or the next one. Reference: IEEE 754, roundTiesToEven. -/
theorem roundEven_cases (q : ℚ) : roundEven q = ⌊q⌋ ∨ roundEven q = ⌊q⌋ + 1 ∧ (⌊q⌋ : ℚ) < q := by
  unfold roundEven
  by_cases hlt : q - ⌊q⌋ < 1 / 2
  · exact .inl (if_pos hlt)
  · have hpos : (⌊q⌋ : ℚ) < q := by linarith
    simp only [if_neg hlt]
    split
    · exact .inr ⟨rfl, hpos⟩
    · split
      · exact .inl rfl
      · exact .inr ⟨rfl, hpos⟩

/-- A bound that is an integer is kept. Reference: none. -/
theorem abs_roundEven_le {n : ℤ} (h : |q| ≤ n) : |(roundEven q : ℚ)| ≤ n := by
  obtain ⟨hlow, hup⟩ := abs_le.1 h
  have hlow' : -n ≤ ⌊q⌋ := Int.le_floor.2 (by exact_mod_cast hlow)
  rcases roundEven_cases q with heq | ⟨heq, hlt⟩
  · have hup' : ⌊q⌋ ≤ n := by exact_mod_cast (Int.floor_le q).trans hup
    rw [heq, abs_le]
    exact ⟨by exact_mod_cast hlow', by exact_mod_cast hup'⟩
  · have hup' : ⌊q⌋ + 1 ≤ n := by
      have hlt' : (⌊q⌋ : ℚ) < n := lt_of_lt_of_le hlt hup
      exact_mod_cast hlt'
    rw [heq, abs_le]
    refine ⟨?_, by exact_mod_cast hup'⟩
    have hlow'' : -n ≤ ⌊q⌋ + 1 := by linarith
    exact_mod_cast hlow''

/-- A multiple of the last place is rounded to itself. Reference: IEEE 754, roundTiesToEven. -/
theorem parseFloat_of_multiple {n : ℤ} (h : f = n * 2 ^ lastPlace f) (hlt : |f| < 2 ^ 1024) :
    parseFloat f = some f := by
  have hne : (2 : ℚ) ^ lastPlace f ≠ 0 := zpow_ne_zero _ two_ne_zero
  have hdiv : f / 2 ^ lastPlace f = n := by
    rw [div_eq_iff hne]
    exact h
  unfold parseFloat
  simp only
  rw [hdiv, roundEven_intCast, ← h]
  exact if_pos hlt

/-- The rounded significand has at most 53 bits. Reference: IEEE 754, binary64. -/
theorem abs_significand_le (q : ℚ) :
    |(roundEven (q / 2 ^ lastPlace q) : ℚ)| ≤ ((2 ^ 53 : ℤ) : ℚ) := by
  have hplace : (0 : ℚ) < 2 ^ lastPlace q := zpow_pos two_pos _
  refine abs_roundEven_le ?_
  rw [abs_div, abs_of_pos hplace, div_le_iff₀ hplace]
  have hlog : |q| < (2 : ℚ) ^ (Int.log 2 |q| + 1) := by
    exact_mod_cast Int.lt_zpow_succ_log_self Nat.one_lt_two |q|
  have hexp : Int.log 2 |q| + 1 ≤ 53 + lastPlace q := by
    unfold lastPlace
    omega
  calc |q| ≤ (2 : ℚ) ^ (Int.log 2 |q| + 1) := hlog.le
    _ ≤ (2 : ℚ) ^ (53 + lastPlace q) := zpow_le_zpow_right₀ one_le_two hexp
    _ = ((2 ^ 53 : ℤ) : ℚ) * 2 ^ lastPlace q := by
      rw [zpow_add₀ two_ne_zero]
      norm_num

/-- A number of 53 bits is a multiple of its last place. Reference: IEEE 754, binary64. -/
theorem multiple_of_significand {m u : ℤ} (hm : |m| ≤ 2 ^ 53) (hu : -1074 ≤ u) :
    ∃ n : ℤ, (m * 2 ^ u : ℚ) = n * 2 ^ lastPlace (m * 2 ^ u) := by
  rcases eq_or_ne m 0 with rfl | hm0
  · exact ⟨0, by simp⟩
  generalize hv : lastPlace (m * 2 ^ u) = v
  have hplace : (0 : ℚ) < 2 ^ u := zpow_pos two_pos _
  have habs : |(m * 2 ^ u : ℚ)| = |(m : ℚ)| * 2 ^ u := by rw [abs_mul, abs_of_pos hplace]
  rcases le_or_gt v u with hle | hlt
  · -- the last place is no coarser than the one of the significand
    refine ⟨m * 2 ^ (u - v).toNat, ?_⟩
    have hsplit : (2 : ℚ) ^ u = 2 ^ (u - v).toNat * 2 ^ v := by
      rw [← zpow_natCast, Int.toNat_of_nonneg (by omega), ← zpow_add₀ two_ne_zero]
      congr 1
      omega
    rw [hsplit]
    push_cast
    ring
  · -- the significand was rounded up to `2 ^ 53`
    have hpos : (0 : ℚ) < |(m * 2 ^ u : ℚ)| := by
      rw [habs]
      exact mul_pos (abs_pos.2 (by exact_mod_cast hm0)) hplace
    have hlog : (2 : ℚ) ^ (v + 52) ≤ |(m : ℚ)| * 2 ^ u := by
      have hlast : v + 52 = Int.log 2 |(m * 2 ^ u : ℚ)| := by
        unfold lastPlace at hv
        omega
      rw [hlast, ← habs]
      exact_mod_cast Int.zpow_log_le_self Nat.one_lt_two hpos
    have hlower : (2 : ℚ) ^ (v + 52 - u) ≤ |(m : ℚ)| := by
      rwa [zpow_sub₀ two_ne_zero, div_le_iff₀ hplace]
    have hupper : |(m : ℚ)| ≤ (2 : ℚ) ^ (53 : ℤ) := by exact_mod_cast hm
    have hexp : v + 52 - u ≤ 53 := (zpow_le_zpow_iff_right₀ one_lt_two).1 (hlower.trans hupper)
    obtain rfl : v = u + 1 := by omega
    have heq : |m| = 2 ^ 53 := by
      refine le_antisymm hm ?_
      rw [show u + 1 + 52 - u = (53 : ℤ) by omega] at hlower
      exact_mod_cast hlower
    have heven : ∃ n : ℤ, m = n * 2 := by
      rcases abs_eq (by positivity) |>.1 heq with rfl | rfl
      · exact ⟨2 ^ 52, by norm_num⟩
      · exact ⟨-2 ^ 52, by norm_num⟩
    obtain ⟨n, rfl⟩ := heven
    refine ⟨n, ?_⟩
    rw [zpow_add₀ two_ne_zero, zpow_one]
    push_cast
    ring

/-- The result of a rounding is rounded to itself. Reference: IEEE 754, roundTiesToEven. -/
theorem parseFloat_self (h : parseFloat q = some f) : parseFloat f = some f := by
  unfold parseFloat at h
  simp only at h
  split at h
  · next hlt =>
    obtain rfl := Option.some.inj h
    obtain ⟨n, hn⟩ := multiple_of_significand (m := roundEven (q / 2 ^ lastPlace q))
      (u := lastPlace q) (by exact_mod_cast abs_significand_le q) (le_max_right _ _)
    exact parseFloat_of_multiple hn hlt
  · cases h

/-- The shortest decimal is read as the number. Reference: Go `strconv.FormatFloat`. -/
theorem parseFloat_shortest (h : parseFloat q = some f) : parseFloat (shortest f) = some f := by
  unfold shortest
  cases hfind : ((List.range 17).flatMap (decimals f)).find? fun d => parseFloat d = some f with
  | none => exact parseFloat_self h
  | some d => simpa using List.find?_some hfind

-- the first integer that no float64 holds
example : parseFloat 9007199254740993 = some 9007199254740992 ∧
    shortest 9007199254740992 = 9007199254740992 := by decide +kernel

-- two decimals of one digit less are as near, and the even one is printed
example : parseFloat (11258999068426247 / 10) = some (1125899906842624 + 3 / 4) ∧
    shortest (1125899906842624 + 3 / 4) = 11258999068426248 / 10 := by decide +kernel

end

end Go
