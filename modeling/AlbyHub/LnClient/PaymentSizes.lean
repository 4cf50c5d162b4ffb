import AlbyHub.LnClient.OpeningFees
import Mathlib.Order.MinMax
import Mathlib.Tactic.Linarith
import Mathlib.Tactic.Ring

/-!
# The least size that an entry takes, and the rounds that reach it

The least size that could do is a number of the entry (`leastPaymentSizeMsat`), and the entry takes
some size exactly when it takes that one (`HasSize`). A round adds a satoshi to the fee, so it can
be turned around: the starts from which the rounds are enough are those from a bound on that only
the entry's share determines (`leastStart`). Up to a share of 29 percent every start is one.
`min_payment_size_iff` says that these are the entries whose answer is exact.
-/

namespace AlbyHub

open Go Ascent

/-- The entry's fees for the size do not pass the ceiling: its minimum fee is at most 5000 sat or a
tenth of the size, and its share is at most 5000 sat or below a tenth (a tenth itself needs a size
of whole hundreds). Reference: `lnclient/ldk/ldk.go:2778 lsps2MaxAcceptableOpeningFeeMsat`. -/
def WithinCeiling (params : Lsps2OpeningFeeParams) (size : Nat) : Prop :=
  (params.minFeeMsat ≤ 5000000 ∨ (params.minFeeMsat + 9) / 10 * 100 ≤ size) ∧
    (size * params.proportional ≤ 5000000000000 ∨ params.proportional < 100000 ∨
      params.proportional = 100000 ∧ size % 100 = 0)

/-- The least size that leaves a satoshi of the share. Reference: `lnclient/ldk/ldk.go:2802
computeLsps2MinPaymentSizeMsat`. -/
def leastNetSizeMsat (proportional : Nat) : Nat := ceilDiv 1000000000 (1000000 - proportional)

/-- The least size that could do, but for the hundreds: it is the entry's, leaves a satoshi of the
minimum fee and of the share, and a minimum fee over 5000 sat is at most a tenth of it. Reference:
`lnclient/ldk/ldk.go:2802 computeLsps2MinPaymentSizeMsat`. -/
def leastUnroundedSizeMsat (params : Lsps2OpeningFeeParams) : Nat :=
  max (max params.minPaymentSizeMsat (params.minFeeMsat + minNetReceiveMsat))
    (max (leastNetSizeMsat params.proportional)
      (if params.minFeeMsat ≤ 5000000 then 0 else (params.minFeeMsat + 9) / 10 * 100))

/-- The least size that could do: over 50000 sat a share of a tenth needs one of whole hundreds.
Reference: `lnclient/ldk/ldk.go:2782 computeLsps2MinPaymentSizeMsat`. -/
def leastPaymentSizeMsat (params : Lsps2OpeningFeeParams) : Nat :=
  if params.proportional = 100000 ∧ 50000000 < leastUnroundedSizeMsat params then
    (leastUnroundedSizeMsat params + 99) / 100 * 100
  else leastUnroundedSizeMsat params

/-- The entry takes its least size: it is below the maximum, has a fee, and a share of over a tenth
is at most 5000 sat of it. Reference: `lnclient/ldk/ldk.go:2802 computeLsps2MinPaymentSizeMsat`. -/
structure HasSize (fee : OpeningFee) (params : Lsps2OpeningFeeParams) : Prop where
  share : params.proportional < 1000000
  limit : leastPaymentSizeMsat params ≤ params.maxPaymentSizeMsat
  defined : (fee.Lsps2ComputeOpeningFeeMsat (leastPaymentSizeMsat params) params).isSome
  ceiling : params.proportional ≤ 100000 ∨
    leastPaymentSizeMsat params * params.proportional ≤ 5000000000000

/-- The least size whose share makes, with a satoshi, the given one. Reference:
`lnclient/ldk/ldk.go:2807 computeLsps2MinPaymentSizeMsat`. -/
def sizeBefore (proportional size : Nat) : Nat :=
  if size ≤ minNetReceiveMsat then 0
  else (size - minNetReceiveMsat - 1) * 1000000 / proportional + 1

/-- The least start from which so many rounds reach the least size that leaves a satoshi of the
share. Reference: `lnclient/ldk/ldk.go:2793 computeLsps2MinPaymentSizeMsat`. -/
def leastStart (proportional rounds : Nat) : Nat :=
  (sizeBefore proportional)^[rounds] (leastNetSizeMsat proportional)

/-- The entry's share is at most 29 percent, or its minimum is a start from which seven rounds are
enough, or its minimum fee and a satoshi one from which six are. Reference:
`lnclient/ldk/ldk.go:2793 computeLsps2MinPaymentSizeMsat`. -/
def WithinRounds (params : Lsps2OpeningFeeParams) : Prop :=
  params.proportional ≤ 290000 ∨ leastStart params.proportional 7 ≤ params.minPaymentSizeMsat ∨
    leastStart params.proportional 6 ≤ params.minFeeMsat + minNetReceiveMsat

section
variable {fee : OpeningFee} {params : Lsps2OpeningFeeParams} {size f proportional a : Nat}

/-! ## The fee within the ceiling -/

theorem ceilDiv_le_iff {n d k : Nat} (hd : 0 < d) : ceilDiv n d ≤ k ↔ n ≤ k * d := by
  unfold ceilDiv
  rw [Nat.div_le_iff_le_mul_add_pred hd, Nat.mul_comm]
  omega

/-- The share of a size within the ceiling. Reference: `lnclient/ldk/ldk.go:2778
lsps2MaxAcceptableOpeningFeeMsat`. -/
theorem share_le_ceiling {proportional : Nat} :
    ceilDiv (size * proportional) 1000000 ≤ lsps2MaxAcceptableOpeningFeeMsat size ↔
      size * proportional ≤ 5000000000000 ∨ proportional < 100000 ∨
        proportional = 100000 ∧ size % 100 = 0 := by
  unfold lsps2MaxAcceptableOpeningFeeMsat lsps2MaxOpeningFeeBaseMsat lsps2MaxOpeningFeePercent
  rw [le_max_iff, ceilDiv_le_iff (by decide), ceilDiv_le_iff (by decide)]
  by_cases hbase : size * proportional ≤ 5000000000000
  · exact iff_of_true (.inl hbase) (.inl hbase)
  · have hsplit : size = 100 * (size / 100) + size % 100 := (Nat.div_add_mod size 100).symm
    rcases Nat.lt_trichotomy proportional 100000 with hlt | rfl | hgt
    · -- the size is over 500 sat then, and the rest below a hundred is covered by the difference
      have hle : size * proportional ≤ size * 99999 := Nat.mul_le_mul_left size (by omega)
      omega
    · omega
    · have hle : size * 100001 ≤ size * proportional := Nat.mul_le_mul_left size hgt
      omega

theorem withinCeiling_iff (h : fee.Lsps2ComputeOpeningFeeMsat size params = some f) :
    f ≤ lsps2MaxAcceptableOpeningFeeMsat size ↔ WithinCeiling params size := by
  rw [fee.value h, max_le_iff, share_le_ceiling]
  refine and_congr_left fun _ => ?_
  unfold lsps2MaxAcceptableOpeningFeeMsat lsps2MaxOpeningFeeBaseMsat lsps2MaxOpeningFeePercent
  omega

/-! ## The least size -/

/-- The sizes that leave a satoshi of the share. Reference: `lnclient/ldk/ldk.go:2802
computeLsps2MinPaymentSizeMsat`. -/
theorem leastNetSize_le_iff (hshare : proportional < 1000000) :
    leastNetSizeMsat proportional ≤ size ↔
      size * proportional + 1000000000 ≤ size * 1000000 := by
  have hle : size * proportional ≤ size * 1000000 := Nat.mul_le_mul_left size hshare.le
  rw [leastNetSizeMsat, ceilDiv_le_iff (by omega), Nat.mul_sub]
  omega

/-- A size does where it leaves a satoshi of both fees and has one within the ceiling. Reference:
`lnclient/ldk/ldk.go:2802 computeLsps2MinPaymentSizeMsat`. -/
theorem acceptable_iff : Acceptable fee params size ↔
    (fee.Lsps2ComputeOpeningFeeMsat size params).isSome ∧
      params.minFeeMsat + minNetReceiveMsat ≤ size ∧
      size * params.proportional + 1000000000 ≤ size * 1000000 ∧ WithinCeiling params size := by
  cases h : fee.Lsps2ComputeOpeningFeeMsat size params with
  | none =>
    refine iff_of_false ?_ fun hs => absurd hs.1 Bool.false_ne_true
    rintro ⟨f, hf, -⟩
    rw [h] at hf
    cases hf
  | some f =>
    have hshare := ceilDiv_le_iff (n := size * params.proportional) (d := 1000000)
      (k := size - minNetReceiveMsat) (by decide)
    have hnet : f + minNetReceiveMsat ≤ size ↔ params.minFeeMsat + minNetReceiveMsat ≤ size ∧
        size * params.proportional + 1000000000 ≤ size * 1000000 := by
      rw [fee.value h]
      unfold minNetReceiveMsat at *
      omega
    rw [acceptable_of_some h, withinCeiling_iff h, hnet, and_assoc]
    exact ⟨fun hs => ⟨rfl, hs⟩, fun hs => hs.2⟩

theorem leastUnroundedSize_le_iff : leastUnroundedSizeMsat params ≤ size ↔
    params.minPaymentSizeMsat ≤ size ∧ params.minFeeMsat + minNetReceiveMsat ≤ size ∧
      leastNetSizeMsat params.proportional ≤ size ∧
      (params.minFeeMsat ≤ 5000000 ∨ (params.minFeeMsat + 9) / 10 * 100 ≤ size) := by
  unfold leastUnroundedSizeMsat
  split <;> omega

theorem le_leastPaymentSize : leastUnroundedSizeMsat params ≤ leastPaymentSizeMsat params := by
  unfold leastPaymentSizeMsat
  split <;> omega

/-- No smaller size does. Reference: `lnclient/ldk/ldk.go:2782 computeLsps2MinPaymentSizeMsat`. -/
theorem leastPaymentSize_le (hlo : params.minPaymentSizeMsat ≤ size)
    (h : Acceptable fee params size) : leastPaymentSizeMsat params ≤ size := by
  obtain ⟨-, hmin, hnet, hbase, hshare⟩ := acceptable_iff.1 h
  have hlt : params.proportional < 1000000 := by
    by_contra hge
    have hle : size * 1000000 ≤ size * params.proportional :=
      Nat.mul_le_mul_left size (Nat.not_lt.1 hge)
    omega
  have hleast := leastUnroundedSize_le_iff.2 ⟨hlo, hmin, (leastNetSize_le_iff hlt).2 hnet, hbase⟩
  unfold leastPaymentSizeMsat
  split
  · next htenth =>
    rw [htenth.1] at hshare
    omega
  · exact hleast

/-- An entry that takes a size takes its least one. Reference: `lnclient/ldk/ldk.go:2782
computeLsps2MinPaymentSizeMsat`. -/
theorem HasSize.of_mem (h : size ∈ acceptableSizes fee params) : HasSize fee params := by
  obtain ⟨hlo, hhi, hgood⟩ := h
  have hle := leastPaymentSize_le hlo hgood
  obtain ⟨hsome, -, hnet, -, hshare⟩ := acceptable_iff.1 hgood
  refine ⟨?_, hle.trans hhi, fee.defined hle hsome, ?_⟩
  · by_contra hge
    have hmul : size * 1000000 ≤ size * params.proportional :=
      Nat.mul_le_mul_left size (Nat.not_lt.1 hge)
    omega
  · have hmul : leastPaymentSizeMsat params * params.proportional ≤ size * params.proportional :=
      Nat.mul_le_mul_right _ hle
    omega

/-- It does where the entry takes it. Reference: `lnclient/ldk/ldk.go:2802
computeLsps2MinPaymentSizeMsat`. -/
theorem HasSize.acceptable (h : HasSize fee params) :
    Acceptable fee params (leastPaymentSizeMsat params) := by
  obtain ⟨-, hmin, hnet, hbase⟩ := leastUnroundedSize_le_iff.1 (@le_leastPaymentSize params)
  refine acceptable_iff.2 ⟨h.defined, hmin, (leastNetSize_le_iff h.share).1 hnet, hbase, ?_⟩
  rcases h.ceiling with hle | hle
  · rcases Nat.lt_or_ge params.proportional 100000 with hlt | hge
    · exact .inr (.inl hlt)
    · have htenth : params.proportional = 100000 := Nat.le_antisymm hle hge
      rw [htenth]
      unfold leastPaymentSizeMsat
      split <;> omega
  · exact .inl hle

/-- The least size that an entry takes. Reference: `lnclient/ldk/ldk.go:2782
computeLsps2MinPaymentSizeMsat`. -/
theorem HasSize.isLeast (h : HasSize fee params) :
    IsLeast (acceptableSizes fee params) (leastPaymentSizeMsat params) :=
  ⟨⟨(leastUnroundedSize_le_iff.1 le_leastPaymentSize).1, h.limit, h.acceptable⟩,
    fun _ ht => leastPaymentSize_le ht.1 ht.2.2⟩

/-! ## The rounds -/

/-- A share of up to a tenth leaves a satoshi of 2000 msat. Reference: none. -/
theorem leastNetSize_le (h : proportional ≤ 100000) : leastNetSizeMsat proportional ≤ 2000 :=
  (leastNetSize_le_iff (by omega)).2 (by omega)

/-- A round of the share turned around. Reference: `lnclient/ldk/ldk.go:2807
computeLsps2MinPaymentSizeMsat`. -/
theorem sizeBefore_le_iff (hpos : 0 < proportional) : sizeBefore proportional a ≤ size ↔
    a ≤ ceilDiv (size * proportional) 1000000 + minNetReceiveMsat := by
  unfold sizeBefore
  split
  · exact iff_of_true (Nat.zero_le _) (by omega)
  · have hshare := ceilDiv_le_iff (n := size * proportional) (d := 1000000)
      (k := a - minNetReceiveMsat - 1) (by decide)
    rw [Nat.succ_le_iff, Nat.div_lt_iff_lt_mul hpos]
    omega

/-- Up to the least size that leaves a satoshi it goes down. Reference: none. -/
theorem sizeBefore_lt (hshare : proportional < 1000000) (hpos : 0 < proportional)
    (ha : a ≤ leastNetSizeMsat proportional) (hlt : minNetReceiveMsat < a) :
    sizeBefore proportional a < a := by
  have hnet : leastNetSizeMsat proportional ≤ a - 1 ↔
      (a - 1) * proportional + 1000000000 ≤ (a - 1) * 1000000 := leastNetSize_le_iff hshare
  have hround := ceilDiv_le_iff (n := (a - 1) * proportional) (d := 1000000)
    (k := a - 1 - minNetReceiveMsat) (by decide)
  have hbefore : sizeBefore proportional a ≤ a - 1 ↔
      a ≤ ceilDiv ((a - 1) * proportional) 1000000 + minNetReceiveMsat := sizeBefore_le_iff hpos
  unfold minNetReceiveMsat at *
  omega

theorem sizeBefore_le (hshare : proportional < 1000000)
    (ha : a ≤ leastNetSizeMsat proportional) : sizeBefore proportional a ≤ a := by
  rcases Nat.lt_or_ge minNetReceiveMsat a with hlt | hle
  · rcases Nat.eq_zero_or_pos proportional with rfl | hpos
    · rw [sizeBefore, if_neg (Nat.not_le.2 hlt), Nat.div_zero]
      omega
    · exact (sizeBefore_lt hshare hpos ha hlt).le
  · rw [sizeBefore, if_pos hle]
    exact Nat.zero_le a

theorem leastStart_succ {rounds : Nat} : leastStart proportional (rounds + 1) =
    sizeBefore proportional (leastStart proportional rounds) :=
  Function.iterate_succ_apply' ..

theorem leastStart_le (hshare : proportional < 1000000) (rounds : Nat) :
    leastStart proportional rounds ≤ leastNetSizeMsat proportional := by
  induction rounds with
  | zero => exact le_refl _
  | succ rounds ih =>
    rw [leastStart_succ]
    exact (sizeBefore_le hshare ih).trans ih

/-- Where the entry's minimum, or its minimum fee and a satoshi, leaves a satoshi of the share, one
round is enough. Reference: `lnclient/ldk/ldk.go:2807 computeLsps2MinPaymentSizeMsat`. -/
theorem HasSize.le_lowerBound (h : HasSize fee params)
    (hbad : ¬Acceptable fee params params.minPaymentSizeMsat)
    (hnet : leastNetSizeMsat params.proportional ≤ params.minFeeMsat + minNetReceiveMsat ∨
      leastNetSizeMsat params.proportional ≤ params.minPaymentSizeMsat) :
    leastPaymentSizeMsat params ≤ lowerBound fee params params.minPaymentSizeMsat := by
  have hgrows := bounding_lowerBound.grows _ hbad
  obtain ⟨f, hf⟩ := Option.isSome_iff_exists.1
    (fee.defined (leastUnroundedSize_le_iff.1 (@le_leastPaymentSize params)).1 h.defined)
  have hvalue := fee.value hf
  have hbound := lowerBound_of_some hf
  unfold lsps2MaxOpeningFeeBaseMsat lsps2MaxOpeningFeePercent at hbound
  have hle : leastUnroundedSizeMsat params ≤
      lowerBound fee params params.minPaymentSizeMsat := by
    refine leastUnroundedSize_le_iff.2 ⟨hgrows.le, ?_, ?_, ?_⟩ <;>
      · unfold minNetReceiveMsat at *
        split at hbound <;> omega
  unfold leastPaymentSizeMsat
  split
  · -- the bound is then over 50000 sat as well, and of whole hundreds
    unfold minNetReceiveMsat at *
    split at hbound <;> omega
  · exact hle

/-- Elsewhere the least size is that of the share, and a round adds a satoshi to a fee within 5000
sat. Reference: `lnclient/ldk/ldk.go:2807 computeLsps2MinPaymentSizeMsat`. -/
theorem HasSize.adjoint (h : HasSize fee params)
    (hmin : params.minFeeMsat + minNetReceiveMsat < leastNetSizeMsat params.proportional)
    (hlo : params.minPaymentSizeMsat < leastNetSizeMsat params.proportional) :
    Adjoint (Acceptable fee params) (lowerBound fee params) (sizeBefore params.proportional)
      (params.minFeeMsat + minNetReceiveMsat) params.minPaymentSizeMsat
      (leastNetSizeMsat params.proportional) := by
  have hpos : 0 < params.proportional := by
    by_contra hzero
    have hle := @leastNetSize_le_iff 1000 params.proportional h.share
    have hprod : 1000 * params.proportional = 0 := by omega
    unfold minNetReceiveMsat at hmin
    omega
  have hbase : params.minFeeMsat ≤ 5000000 := by
    by_contra hgt
    -- a satoshi of such a fee takes a share of over a tenth
    have hshare : 100000 < params.proportional := by
      by_contra hle
      have hsmall := leastNetSize_le (Nat.not_lt.1 hle)
      omega
    have hceiling := h.ceiling.resolve_left (Nat.not_le.2 hshare)
    have hmul : leastPaymentSizeMsat params * 100001 ≤
        leastPaymentSizeMsat params * params.proportional := Nat.mul_le_mul_left _ hshare
    have htenth := (leastUnroundedSize_le_iff.1 (@le_leastPaymentSize params)).2.2.2
    omega
  have hunrounded : leastUnroundedSizeMsat params = leastNetSizeMsat params.proportional :=
    Nat.le_antisymm (leastUnroundedSize_le_iff.2 ⟨hlo.le, hmin.le, le_refl _, .inl hbase⟩)
      (leastUnroundedSize_le_iff.1 (le_refl _)).2.2.1
  have htop : leastPaymentSizeMsat params = leastNetSizeMsat params.proportional := by
    unfold leastPaymentSizeMsat
    rw [hunrounded, if_neg]
    rintro ⟨htenth, hlarge⟩
    have hsmall := leastNetSize_le htenth.le
    omega
  have hceiling : leastNetSizeMsat params.proportional * params.proportional ≤ 5000000000000 := by
    rcases h.ceiling with htenth | hle
    · have hsmall := Nat.mul_le_mul (leastNetSize_le htenth) htenth
      omega
    · rwa [htop] at hle
  refine ⟨htop ▸ h.acceptable, fun s hs hgood => htop ▸ leastPaymentSize_le hs hgood,
    fun a ha => sizeBefore_le h.share ha, fun s a hs hst hbad ha => ?_⟩
  obtain ⟨f, hf⟩ := Option.isSome_iff_exists.1 (fee.defined (hst.trans htop.ge) h.defined)
  have hvalue := fee.value hf
  have hshare := ceilDiv_le_iff (n := s * params.proportional) (d := 1000000) (k := 5000000)
    (by decide)
  have hmul : s * params.proportional ≤
      leastNetSizeMsat params.proportional * params.proportional := Nat.mul_le_mul_right _ hst
  have hsmall : f ≤ lsps2MaxOpeningFeeBaseMsat := by
    unfold lsps2MaxOpeningFeeBaseMsat
    omega
  rw [lowerBound_of_some hf, if_neg (Nat.not_lt.2 hsmall), sizeBefore_le_iff hpos]
  omega

/-- How far the share is from leaving a satoshi, below the least size that does. Reference: none. -/
def deficit (proportional size : Nat) : Int :=
  1000000000 - (size - 1 : Int) * (1000000 - proportional)

theorem deficit_add (size k : Nat) : deficit proportional size =
    deficit proportional (size + k) + k * (1000000 - proportional) := by
  unfold deficit
  push_cast
  ring

theorem deficit_pos (hshare : proportional < 1000000) :
    0 < deficit proportional (leastNetSizeMsat proportional) := by
  cases hleast : leastNetSizeMsat proportional with
  | zero =>
    have hnet := (leastNetSize_le_iff hshare).1 hleast.le
    omega
  | succ k =>
    have hnet : leastNetSizeMsat proportional ≤ k ↔
        k * proportional + 1000000000 ≤ k * 1000000 := leastNetSize_le_iff hshare
    have hshort : (k : Int) * 1000000 < k * proportional + 1000000000 := by
      have hlt : ¬ k * proportional + 1000000000 ≤ k * 1000000 := fun h => by
        have hle := hnet.2 h
        omega
      exact_mod_cast Nat.not_le.1 hlt
    unfold deficit
    push_cast
    linarith

/-- Turned around, a round of a share of at most 29 percent makes the deficit more than three times
as large. Reference: none. -/
theorem deficit_grows (hshare : proportional ≤ 290000) (hpos : 0 < proportional)
    (ha : minNetReceiveMsat < a) (hd : 0 ≤ deficit proportional a) :
    100 * deficit proportional a ≤ 29 * deficit proportional (sizeBefore proportional a) := by
  have hround : proportional * ((sizeBefore proportional a : Int) - 1) ≤ (a - 1001) * 1000000 := by
    have hdiv := Nat.mul_div_le ((a - minNetReceiveMsat - 1) * 1000000) proportional
    rw [sizeBefore, if_neg (Nat.not_le.2 ha)]
    generalize (a - minNetReceiveMsat - 1) * 1000000 / proportional = q at hdiv ⊢
    unfold minNetReceiveMsat at *
    push_cast
    rw [add_sub_cancel_right]
    omega
  have hmul : 1000000 * deficit proportional a ≤
      proportional * deficit proportional (sizeBefore proportional a) := by
    have hrest := mul_le_mul_of_nonneg_right hround
      (show (0 : Int) ≤ 1000000 - proportional by omega)
    unfold deficit
    linarith
  have hnonneg : 0 ≤ deficit proportional (sizeBefore proportional a) :=
    nonneg_of_mul_nonneg_right (by omega : 0 ≤ proportional * deficit proportional _)
      (by omega : (0 : Int) < proportional)
  have hle := mul_le_mul_of_nonneg_right (show (proportional : Int) ≤ 290000 by omega) hnonneg
  omega

/-- A share of at most 29 percent needs six rounds from a satoshi. Reference:
`lnclient/ldk/ldk.go:2793 computeLsps2MinPaymentSizeMsat`. -/
theorem leastStart_six (hshare : proportional ≤ 290000) :
    leastStart proportional 6 ≤ minNetReceiveMsat := by
  by_contra hgt
  have hlt : proportional < 1000000 := by omega
  have hup : ∀ rounds, minNetReceiveMsat < leastStart proportional (rounds + 1) →
      minNetReceiveMsat < leastStart proportional rounds := by
    intro rounds h
    by_contra hle
    rw [leastStart_succ, sizeBefore, if_pos (Nat.not_lt.1 hle)] at h
    exact absurd h (Nat.not_lt_zero _)
  have h6 : minNetReceiveMsat < leastStart proportional 6 := Nat.not_le.1 hgt
  have h5 := hup 5 h6
  have h4 := hup 4 h5
  have h3 := hup 3 h4
  have h2 := hup 2 h3
  have h1 := hup 1 h2
  have h0 := hup 0 h1
  have hpos : 0 < proportional := by
    by_contra hzero
    have hnet := leastStart_le hlt 0
    have hle := @leastNetSize_le_iff 1000 proportional hlt
    unfold minNetReceiveMsat at *
    omega
  -- the first round goes down by a millisatoshi at least, the others make the deficit larger
  have d1 : 1000000 - (proportional : Int) ≤
      deficit proportional (leastStart proportional 1) := by
    have hdown : leastStart proportional 1 < leastStart proportional 0 :=
      sizeBefore_lt hlt hpos (leastStart_le hlt 0) h0
    have htop : 0 < deficit proportional (leastStart proportional 0) := deficit_pos hlt
    have hadd := @deficit_add proportional (leastStart proportional 1)
      (leastStart proportional 0 - leastStart proportional 1)
    rw [Nat.add_sub_cancel' hdown.le] at hadd
    have hone := mul_le_mul_of_nonneg_right
      (show (1 : Int) ≤ (leastStart proportional 0 - leastStart proportional 1 : Nat) by omega)
      (show (0 : Int) ≤ 1000000 - proportional by omega)
    omega
  have grows : ∀ rounds, minNetReceiveMsat < leastStart proportional rounds →
      0 ≤ deficit proportional (leastStart proportional rounds) →
      100 * deficit proportional (leastStart proportional rounds) ≤
        29 * deficit proportional (leastStart proportional (rounds + 1)) := by
    intro rounds h hd
    rw [leastStart_succ]
    exact deficit_grows hshare hpos h hd
  have d2 : _ ≤ 29 * deficit _ (leastStart _ 2) := grows 1 h1 (by omega)
  have d3 : _ ≤ 29 * deficit _ (leastStart _ 3) := grows 2 h2 (by omega)
  have d4 : _ ≤ 29 * deficit _ (leastStart _ 4) := grows 3 h3 (by omega)
  have d5 : _ ≤ 29 * deficit _ (leastStart _ 5) := grows 4 h4 (by omega)
  have d6 : _ ≤ 29 * deficit _ (leastStart _ 6) := grows 5 h5 (by omega)
  have hlast : deficit proportional (leastStart proportional 6) ≤ 1000 * proportional := by
    have hadd := @deficit_add proportional 1001 (leastStart proportional 6 - 1001)
    have hrest := mul_nonneg (Int.natCast_nonneg (leastStart proportional 6 - 1001))
      (show (0 : Int) ≤ 1000000 - proportional by omega)
    rw [Nat.add_sub_cancel' (show 1001 ≤ leastStart proportional 6 from h6), deficit] at hadd
    omega
  omega

/-- Seven steps up reach the least size if and only if the parameters say so. Reference:
`lnclient/ldk/ldk.go:2793 computeLsps2MinPaymentSizeMsat`. -/
theorem HasSize.reached_iff (h : HasSize fee params) :
    Acceptable fee params (climb (Acceptable fee params) (lowerBound fee params) 7
      params.minPaymentSizeMsat) ↔ WithinRounds params := by
  have hstart := fun rounds => leastStart_le h.share rounds
  by_cases hgood : Acceptable fee params params.minPaymentSizeMsat
  · have hnet := (leastNetSize_le_iff h.share).2 (acceptable_iff.1 hgood).2.2.1
    rw [climb_of_good hgood]
    exact iff_of_true hgood (.inr (.inl ((hstart 7).trans hnet)))
  · by_cases hnet : leastNetSizeMsat params.proportional ≤
        params.minFeeMsat + minNetReceiveMsat ∨
      leastNetSizeMsat params.proportional ≤ params.minPaymentSizeMsat
    · have htop := Nat.le_antisymm (h.le_lowerBound hgood hnet)
        (bounding_lowerBound.bounds _ _ hgood h.isLeast.1.1 h.acceptable)
      rw [climb_succ hgood, ← htop, climb_of_good h.acceptable]
      exact iff_of_true h.acceptable (.inr (hnet.symm.imp (hstart 7).trans (hstart 6).trans))
    · have hadjoint := h.adjoint (by omega) (by omega)
      have hup := le_climb_iff (n := 6) bounding_lowerBound hadjoint (le_refl _) (by omega)
      have hreached : Acceptable fee params (climb (Acceptable fee params)
          (lowerBound fee params) 7 params.minPaymentSizeMsat) ↔
          leastNetSizeMsat params.proportional ≤ climb (Acceptable fee params)
            (lowerBound fee params) 7 params.minPaymentSizeMsat := by
        constructor
        · exact hadjoint.least _ (le_climb bounding_lowerBound)
        · intro hle
          have hge := climb_le (n := 7) bounding_lowerBound (show params.minPaymentSizeMsat ≤
            leastNetSizeMsat params.proportional by omega) hadjoint.reached
          rw [Nat.le_antisymm hge hle]
          exact hadjoint.reached
      rw [hreached, hup, WithinRounds, leastStart, leastStart, or_comm]
      constructor
      · exact .inr
      · rintro (hsmall | hor)
        · have hsix := leastStart_six hsmall
          exact .inr (hsix.trans (Nat.le_add_left ..))
        · exact hor

/-- The answer for an entry that takes a size within the rounds. Reference:
`lnclient/ldk/ldk.go:2804 computeLsps2MinPaymentSizeMsat`. -/
theorem HasSize.computed (h : HasSize fee params) (hrounds : WithinRounds params) :
    computeLsps2MinPaymentSizeMsat fee params = (leastPaymentSizeMsat params, true) := by
  have hleast : IsLeast {t | params.minPaymentSizeMsat ≤ t ∧ Acceptable fee params t}
      (leastPaymentSizeMsat params) :=
    ⟨⟨h.isLeast.1.1, h.acceptable⟩, fun _ ht => leastPaymentSize_le ht.1 ht.2⟩
  have hreached := h.reached_iff.2 hrounds
  have htop := (isLeast_climb bounding_lowerBound hreached).unique hleast
  have hmin : params.minFeeMsat < wrappingFeeMsat := by
    by_contra hge
    exact not_acceptable_of_wrapping (h.limit.trans_lt params.maxPaymentSizeMsat_lt)
      (Nat.not_lt.1 hge) h.acceptable
  rcases @loop_found fee params _ hmin 7 params.minPaymentSizeMsat_lt with
    ⟨-, -, hfound⟩ | ⟨hbad, -⟩
  · rwa [htop] at hfound
  · exact absurd ⟨hreached, htop.trans_le h.limit⟩ hbad

/-- An entry for which the search finds a size takes one within the rounds. Reference:
`lnclient/ldk/ldk.go:2804 computeLsps2MinPaymentSizeMsat`. -/
theorem computed_iff : (computeLsps2MinPaymentSizeMsat fee params).2 = true ↔
    HasSize fee params ∧ WithinRounds params := by
  refine ⟨fun h => ?_, fun h => by rw [h.1.computed h.2]⟩
  rcases Nat.lt_or_ge params.minFeeMsat wrappingFeeMsat with hmin | hmin
  · rcases @loop_found fee params _ hmin 7 params.minPaymentSizeMsat_lt with
      ⟨hgood, hmax, -⟩ | ⟨-, habsent⟩
    · have hsize : HasSize fee params := .of_mem ⟨le_climb bounding_lowerBound, hmax, hgood⟩
      exact ⟨hsize, hsize.reached_iff.1 hgood⟩
    · rw [computeLsps2MinPaymentSizeMsat, habsent] at h
      cases h
  · have habsent : (computeLsps2MinPaymentSizeMsat fee params).2 = false :=
      loop_of_wrapping params.minPaymentSizeMsat_lt hmin
    rw [habsent] at h
    cases h

end

/-- The answer is the least acceptable size, or that there is none, and no sum or product wraps, if
and only if the minimum fee is below the wrapping one (or the entry's minimum has no fee), and the
entry takes no size, or its parameters are within the rounds. Reference:
`lnclient/ldk/ldk.go:2785 computeLsps2MinPaymentSizeMsat`. -/
theorem min_payment_size_iff (fee : OpeningFee) (params : Lsps2OpeningFeeParams) :
    MinSizeExact fee params ∧ Unwrapped fee params 8 params.minPaymentSizeMsat ↔
      (params.minFeeMsat < wrappingFeeMsat ∨
        fee.Lsps2ComputeOpeningFeeMsat params.minPaymentSizeMsat params = none) ∧
      (HasSize fee params → WithinRounds params) := by
  rw [min_payment_size_iff_climb]
  refine and_congr_right fun _ => ?_
  constructor
  · exact fun h hsize => hsize.reached_iff.1 (h ⟨_, hsize.isLeast.1⟩)
  · rintro h ⟨size, hsize⟩
    exact (HasSize.of_mem hsize).reached_iff.2 (h (.of_mem hsize))

/-! ## Entries -/

/-- What the node's library does: it multiplies and rounds up, with checked arithmetic. Reference:
`ldk_node.Lsps2ComputeOpeningFeeMsat`. -/
def checkedOpeningFee : OpeningFee where
  Lsps2ComputeOpeningFeeMsat size params :=
    if size * params.proportional + 999999 < 2 ^ 64 then
      some (max params.minFeeMsat (ceilDiv (size * params.proportional) 1000000))
    else none
  value h := by
    split at h
    · exact (Option.some.inj h).symm
    · cases h
  fits h := by
    split at h
    · omega
    · cases h
  defined := by
    intro size size' params hle h
    have hmul : size * params.proportional ≤ size' * params.proportional :=
      Nat.mul_le_mul_right _ hle
    split at h
    · rw [if_pos (by omega)]
      rfl
    · cases h

/-- An entry with a fee of half the payment. Reference: `lnclient/ldk/ldk_test.go:40
makeLsps2OpeningFeeParams`. -/
def halfFeeParams : Lsps2OpeningFeeParams where
  minFeeMsat := 1
  proportional := 500000
  minPaymentSizeMsat := 1000
  maxPaymentSizeMsat := 1000000000
  minFeeMsat_lt := by decide
  proportional_lt := by decide
  minPaymentSizeMsat_lt := by decide
  maxPaymentSizeMsat_lt := by decide

/-- The search gives up at 1993 msat, short of the 2000 that would do. Reference:
`lnclient/ldk/ldk.go:2793 computeLsps2MinPaymentSizeMsat`. -/
theorem min_payment_size_cut_off :
    computeLsps2MinPaymentSizeMsat checkedOpeningFee halfFeeParams = (0, false) ∧
      2000 ∈ acceptableSizes checkedOpeningFee halfFeeParams ∧
      ¬MinSizeExact checkedOpeningFee halfFeeParams := by
  have hresult : computeLsps2MinPaymentSizeMsat checkedOpeningFee halfFeeParams = (0, false) := by
    decide +kernel
  have hmem : 2000 ∈ acceptableSizes checkedOpeningFee halfFeeParams := by
    refine ⟨by decide, by decide, ?_⟩
    decide +kernel
  refine ⟨hresult, hmem, fun hexact => ?_⟩
  have hempty := hexact.absent.1 (congrArg Prod.snd hresult)
  rw [hempty] at hmem
  exact hmem

end AlbyHub
