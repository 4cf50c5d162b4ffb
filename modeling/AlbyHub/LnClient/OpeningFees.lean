import AlbyHub.Go.Ascent
import AlbyHub.Go.Numbers

/-!
# The least payment for a just-in-time channel

An LSP skims an opening fee off the payment that opens a channel. `computeLsps2MinPaymentSizeMsat`
looks for the least payment that leaves the user a satoshi and whose fee the hub accepts. It goes up
from the entry's minimum, in eight rounds at most, by sizes below which no size can do, so its
answer is exact where seven steps of the ascent reach a size that does
(`min_payment_size_iff_climb`). A minimum fee near the top of the range wraps.
-/

namespace AlbyHub

open Go Ascent

/-- An entry of the fee menu; the fields that only go back to the LSP are left out. Reference:
`ldk_node.Lsps2OpeningFeeParams`. -/
structure Lsps2OpeningFeeParams where
  minFeeMsat : Nat
  proportional : Nat
  minPaymentSizeMsat : Nat
  maxPaymentSizeMsat : Nat
  minFeeMsat_lt : minFeeMsat < 2 ^ 64
  proportional_lt : proportional < 2 ^ 32
  minPaymentSizeMsat_lt : minPaymentSizeMsat < 2 ^ 64
  maxPaymentSizeMsat_lt : maxPaymentSizeMsat < 2 ^ 64

/-- The fee that the node computes for a size: where it is defined the product fits, and a size
below one with a fee has a fee. Reference: `ldk_node.Lsps2ComputeOpeningFeeMsat`. -/
structure OpeningFee where
  Lsps2ComputeOpeningFeeMsat : Nat → Lsps2OpeningFeeParams → Option Nat
  value : ∀ {size params f}, Lsps2ComputeOpeningFeeMsat size params = some f →
    f = max params.minFeeMsat (ceilDiv (size * params.proportional) 1000000)
  fits : ∀ {size params f}, Lsps2ComputeOpeningFeeMsat size params = some f →
    size * params.proportional < 2 ^ 64
  defined : ∀ {size size' params}, size ≤ size' →
    (Lsps2ComputeOpeningFeeMsat size' params).isSome →
      (Lsps2ComputeOpeningFeeMsat size params).isSome

/-- Reference: `lnclient/ldk/ldk.go:81`. -/
def lsps2MaxOpeningFeeBaseMsat : Nat := 5000000

/-- Reference: `lnclient/ldk/ldk.go:82`. -/
def lsps2MaxOpeningFeePercent : Nat := 10

/-- The product is at most the size, so it fits where the size does. Reference:
`lnclient/ldk/ldk.go:2778 lsps2MaxAcceptableOpeningFeeMsat`. -/
def lsps2MaxAcceptableOpeningFeeMsat (paymentSizeMsat : Nat) : Nat :=
  max lsps2MaxOpeningFeeBaseMsat (paymentSizeMsat / 100 * lsps2MaxOpeningFeePercent)

/-- Reference: `lnclient/ldk/ldk.go:2789 computeLsps2MinPaymentSizeMsat`. -/
def minNetReceiveMsat : Nat := 1000

/-- The outcome of a round. Reference: `lnclient/ldk/ldk.go:2793 computeLsps2MinPaymentSizeMsat`. -/
inductive Round where
  | done
  | stop
  | next (paymentSizeMsat : Nat)
  deriving DecidableEq

/-- The size to try after one with the fee. Reference: `lnclient/ldk/ldk.go:2807
computeLsps2MinPaymentSizeMsat`. -/
def nextPaymentSizeMsat (openingFeeMsat : Nat) : Nat :=
  let nextPaymentSizeMsat := uint64 (openingFeeMsat + minNetReceiveMsat)
  if openingFeeMsat > lsps2MaxOpeningFeeBaseMsat then
    let minSizeForFeeMsat := uint64 (uint64 (openingFeeMsat + lsps2MaxOpeningFeePercent - 1) /
      lsps2MaxOpeningFeePercent * 100)
    max nextPaymentSizeMsat minSizeForFeeMsat
  else nextPaymentSizeMsat

/-- A round of the loop. Reference: `lnclient/ldk/ldk.go:2793 computeLsps2MinPaymentSizeMsat`. -/
def minPaymentSizeRound (fee : OpeningFee) (params : Lsps2OpeningFeeParams)
    (paymentSizeMsat : Nat) : Round :=
  match fee.Lsps2ComputeOpeningFeeMsat paymentSizeMsat params with
  | none => .stop
  | some openingFeeMsat =>
    if uint64 (openingFeeMsat + minNetReceiveMsat) ≤ paymentSizeMsat ∧
        openingFeeMsat ≤ lsps2MaxAcceptableOpeningFeeMsat paymentSizeMsat then .done
    else
      let nextPaymentSizeMsat := nextPaymentSizeMsat openingFeeMsat
      if nextPaymentSizeMsat ≤ paymentSizeMsat ∨
          nextPaymentSizeMsat > params.maxPaymentSizeMsat then .stop
      else .next nextPaymentSizeMsat

/-- The loop, with the rounds that are left. Reference: `lnclient/ldk/ldk.go:2793
computeLsps2MinPaymentSizeMsat`. -/
def minPaymentSizeLoop (fee : OpeningFee) (params : Lsps2OpeningFeeParams) : Nat → Nat → Nat × Bool
  | 0, _ => (0, false)
  | rounds + 1, paymentSizeMsat =>
    match minPaymentSizeRound fee params paymentSizeMsat with
    | .done => (paymentSizeMsat, paymentSizeMsat ≤ params.maxPaymentSizeMsat)
    | .stop => (0, false)
    | .next nextPaymentSizeMsat => minPaymentSizeLoop fee params rounds nextPaymentSizeMsat

/-- Reference: `lnclient/ldk/ldk.go:2785 computeLsps2MinPaymentSizeMsat`. -/
def computeLsps2MinPaymentSizeMsat (fee : OpeningFee) (params : Lsps2OpeningFeeParams) :
    Nat × Bool :=
  minPaymentSizeLoop fee params 8 params.minPaymentSizeMsat

/-! ## What the search is for -/

/-- A size that leaves the user a satoshi, with a fee that the hub accepts. Reference:
`lnclient/ldk/ldk.go:2802 computeLsps2MinPaymentSizeMsat`. -/
def Acceptable (fee : OpeningFee) (params : Lsps2OpeningFeeParams) (size : Nat) : Prop :=
  ∃ f, f ∈ fee.Lsps2ComputeOpeningFeeMsat size params ∧
    f + minNetReceiveMsat ≤ size ∧ f ≤ lsps2MaxAcceptableOpeningFeeMsat size

instance (fee : OpeningFee) (params : Lsps2OpeningFeeParams) :
    DecidablePred (Acceptable fee params) := fun _ =>
  inferInstanceAs (Decidable (∃ f, f ∈ _ ∧ _))

/-- The acceptable sizes of an entry. Reference: none. -/
def acceptableSizes (fee : OpeningFee) (params : Lsps2OpeningFeeParams) : Set Nat :=
  {size | params.minPaymentSizeMsat ≤ size ∧ size ≤ params.maxPaymentSizeMsat ∧
    Acceptable fee params size}

/-- The answer is the least acceptable size, or that there is none. Reference:
`lnclient/ldk/ldk.go:2782 computeLsps2MinPaymentSizeMsat`. -/
structure MinSizeExact (fee : OpeningFee) (params : Lsps2OpeningFeeParams) : Prop where
  found : ∀ m, computeLsps2MinPaymentSizeMsat fee params = (m, true) ↔
    IsLeast (acceptableSizes fee params) m
  absent : (computeLsps2MinPaymentSizeMsat fee params).2 = false ↔ acceptableSizes fee params = ∅

/-- The sums and products of a round, before they wrap. Reference: `lnclient/ldk/ldk.go:2802
computeLsps2MinPaymentSizeMsat`. -/
def sumsAndProducts (fee : OpeningFee) (params : Lsps2OpeningFeeParams) (size : Nat) : List Nat :=
  match fee.Lsps2ComputeOpeningFeeMsat size params with
  | none => []
  | some f =>
    [f + minNetReceiveMsat, size / 100 * lsps2MaxOpeningFeePercent] ++
      if minPaymentSizeRound fee params size ≠ .done ∧ f > lsps2MaxOpeningFeeBaseMsat then
        [f + lsps2MaxOpeningFeePercent,
          (f + lsps2MaxOpeningFeePercent - 1) / lsps2MaxOpeningFeePercent * 100]
      else []

/-- No sum or product of the run wraps. Reference: `lnclient/ldk/ldk.go:2793
computeLsps2MinPaymentSizeMsat`. -/
def Unwrapped (fee : OpeningFee) (params : Lsps2OpeningFeeParams) : Nat → Nat → Prop
  | 0, _ => True
  | rounds + 1, size =>
    (∀ x ∈ sumsAndProducts fee params size, x < 2 ^ 64) ∧
      match minPaymentSizeRound fee params size with
      | .next size' => Unwrapped fee params rounds size'
      | _ => True

/-- A size that is not acceptable has this lower bound of the acceptable ones. Reference:
`lnclient/ldk/ldk.go:2807 computeLsps2MinPaymentSizeMsat`. -/
def lowerBound (fee : OpeningFee) (params : Lsps2OpeningFeeParams) (size : Nat) : Nat :=
  match fee.Lsps2ComputeOpeningFeeMsat size params with
  | none => size + 1
  | some f =>
    if f > lsps2MaxOpeningFeeBaseMsat then
      max (f + minNetReceiveMsat)
        ((f + lsps2MaxOpeningFeePercent - 1) / lsps2MaxOpeningFeePercent * 100)
    else f + minNetReceiveMsat

/-- The fee from which on the size for it wraps. Reference: `lnclient/ldk/ldk.go:2811
computeLsps2MinPaymentSizeMsat`. -/
def wrappingFeeMsat : Nat := 1844674407370955161

section
variable {fee : OpeningFee} {params : Lsps2OpeningFeeParams} {size size' f f' n : Nat}

/-! ## The fee and its ceiling -/

/-- The fee grows with the size. Reference: `ldk_node.Lsps2ComputeOpeningFeeMsat`. -/
theorem OpeningFee.mono (h : fee.Lsps2ComputeOpeningFeeMsat size params = some f)
    (h' : fee.Lsps2ComputeOpeningFeeMsat size' params = some f') (hle : size ≤ size') : f ≤ f' := by
  have hmul : size * params.proportional ≤ size' * params.proportional :=
    Nat.mul_le_mul_right _ hle
  have hdiv : ceilDiv (size * params.proportional) 1000000 ≤
      ceilDiv (size' * params.proportional) 1000000 := Nat.div_le_div_right (by omega)
  rw [fee.value h, fee.value h']
  omega

/-- The share of a size that fits is far from the top of the range. Reference:
`ldk_node.Lsps2ComputeOpeningFeeMsat`. -/
theorem OpeningFee.lt_wrapping (h : fee.Lsps2ComputeOpeningFeeMsat size params = some f)
    (hmin : params.minFeeMsat < wrappingFeeMsat) : f < wrappingFeeMsat := by
  have hshare : ceilDiv (size * params.proportional) 1000000 < wrappingFeeMsat := by
    have hfits := fee.fits h
    unfold ceilDiv wrappingFeeMsat
    omega
  rw [fee.value h]
  omega

/-- A fee within the ceiling is far from the top of the range. Reference:
`lnclient/ldk/ldk.go:2778 lsps2MaxAcceptableOpeningFeeMsat`. -/
theorem maxAcceptable_lt (hsize : size < 2 ^ 64) :
    lsps2MaxAcceptableOpeningFeeMsat size < wrappingFeeMsat := by
  unfold lsps2MaxAcceptableOpeningFeeMsat lsps2MaxOpeningFeeBaseMsat lsps2MaxOpeningFeePercent
    wrappingFeeMsat
  omega

/-! ## The lower bounds -/

theorem lowerBound_of_some (h : fee.Lsps2ComputeOpeningFeeMsat size params = some f) :
    lowerBound fee params size = if f > lsps2MaxOpeningFeeBaseMsat then
      max (f + minNetReceiveMsat)
        ((f + lsps2MaxOpeningFeePercent - 1) / lsps2MaxOpeningFeePercent * 100)
    else f + minNetReceiveMsat := by
  rw [lowerBound, h]

theorem acceptable_of_some (h : fee.Lsps2ComputeOpeningFeeMsat size params = some f) :
    Acceptable fee params size ↔
      f + minNetReceiveMsat ≤ size ∧ f ≤ lsps2MaxAcceptableOpeningFeeMsat size := by
  constructor
  · rintro ⟨f', hf', hok⟩
    obtain rfl := Option.some.inj (hf'.symm.trans h)
    exact hok
  · exact fun hok => ⟨f, h, hok⟩

/-- From a size that is not acceptable the search goes up, to a lower bound of the acceptable ones.
Reference: `lnclient/ldk/ldk.go:2807 computeLsps2MinPaymentSizeMsat`. -/
theorem bounding_lowerBound : Bounding (Acceptable fee params) (lowerBound fee params) := by
  constructor
  · intro size hbad
    cases h : fee.Lsps2ComputeOpeningFeeMsat size params with
    | none => rw [lowerBound, h]; exact Nat.lt_succ_self size
    | some f =>
      rw [acceptable_of_some h] at hbad
      rw [lowerBound_of_some h]
      unfold lsps2MaxAcceptableOpeningFeeMsat lsps2MaxOpeningFeeBaseMsat
        lsps2MaxOpeningFeePercent minNetReceiveMsat at *
      split <;> omega
  · intro size size' hbad hle ⟨f', hf', hnet, hceiling⟩
    obtain ⟨f, h⟩ := Option.isSome_iff_exists.1 (fee.defined hle (Option.isSome_of_mem hf'))
    have hmono : f ≤ f' := OpeningFee.mono h hf' hle
    rw [lowerBound_of_some h]
    unfold lsps2MaxAcceptableOpeningFeeMsat lsps2MaxOpeningFeeBaseMsat
      lsps2MaxOpeningFeePercent minNetReceiveMsat at *
    split <;> omega

/-! ## A round -/

/-- Nothing wraps in the next size below the wrapping fee. Reference:
`lnclient/ldk/ldk.go:2807 computeLsps2MinPaymentSizeMsat`. -/
theorem nextPaymentSize_eq (h : fee.Lsps2ComputeOpeningFeeMsat size params = some f)
    (hf : f < wrappingFeeMsat) : nextPaymentSizeMsat f = lowerBound fee params size := by
  rw [lowerBound_of_some h]
  unfold nextPaymentSizeMsat
  unfold wrappingFeeMsat at hf
  rw [uint64_of_lt (show f + minNetReceiveMsat < 2 ^ 64 by unfold minNetReceiveMsat; omega),
    uint64_of_lt (show f + lsps2MaxOpeningFeePercent - 1 < 2 ^ 64 by
      unfold lsps2MaxOpeningFeePercent; omega),
    uint64_of_lt (show (f + lsps2MaxOpeningFeePercent - 1) / lsps2MaxOpeningFeePercent * 100 <
      2 ^ 64 by unfold lsps2MaxOpeningFeePercent; omega)]

/-- A round ends the search with an acceptable size, and with no other. Reference:
`lnclient/ldk/ldk.go:2802 computeLsps2MinPaymentSizeMsat`. -/
theorem round_done (hsize : size < 2 ^ 64) :
    minPaymentSizeRound fee params size = .done ↔ Acceptable fee params size := by
  cases h : fee.Lsps2ComputeOpeningFeeMsat size params with
  | none =>
    rw [minPaymentSizeRound, h]
    constructor
    · nofun
    · rintro ⟨f, hf, -⟩
      rw [h] at hf
      cases hf
  | some f =>
    -- a sum that wraps is of a fee far over the ceiling
    have hsum : (uint64 (f + minNetReceiveMsat) ≤ size ∧
          f ≤ lsps2MaxAcceptableOpeningFeeMsat size) ↔
        f + minNetReceiveMsat ≤ size ∧ f ≤ lsps2MaxAcceptableOpeningFeeMsat size := by
      refine and_congr_left fun hceiling => ?_
      have hlt : f < wrappingFeeMsat := hceiling.trans_lt (maxAcceptable_lt hsize)
      unfold wrappingFeeMsat at hlt
      rw [uint64_of_lt (show f + minNetReceiveMsat < 2 ^ 64 by unfold minNetReceiveMsat; omega)]
    rw [acceptable_of_some h, minPaymentSizeRound, h]
    simp only [hsum]
    split
    · next hok => exact iff_of_true rfl hok
    · next hbad =>
      refine iff_of_false ?_ hbad
      split <;> nofun

/-- The other rounds, below the wrapping fee. Reference: `lnclient/ldk/ldk.go:2815
computeLsps2MinPaymentSizeMsat`. -/
theorem round_of_not_acceptable (hsize : size < 2 ^ 64) (hmin : params.minFeeMsat < wrappingFeeMsat)
    (hbad : ¬Acceptable fee params size) :
    (fee.Lsps2ComputeOpeningFeeMsat size params = none ∨
        params.maxPaymentSizeMsat < lowerBound fee params size) ∧
      minPaymentSizeRound fee params size = .stop ∨
    lowerBound fee params size ≤ params.maxPaymentSizeMsat ∧
      minPaymentSizeRound fee params size = .next (lowerBound fee params size) := by
  have hround := (not_congr (round_done hsize)).2 hbad
  have hgrows : size < lowerBound fee params size := bounding_lowerBound.grows size hbad
  cases h : fee.Lsps2ComputeOpeningFeeMsat size params with
  | none =>
    refine .inl ⟨.inl rfl, ?_⟩
    rw [minPaymentSizeRound, h]
  | some f =>
    rw [minPaymentSizeRound, h] at hround ⊢
    simp only at hround ⊢
    split at hround
    · exact absurd rfl hround
    · next hcond =>
      rw [if_neg hcond, nextPaymentSize_eq h (OpeningFee.lt_wrapping h hmin)]
      rcases Nat.lt_or_ge params.maxPaymentSizeMsat (lowerBound fee params size) with hgt | hle
      · exact .inl ⟨.inr hgt, if_pos (.inr hgt)⟩
      · exact .inr ⟨hle, if_neg (by omega)⟩

/-! ## The loop -/

/-- No size is acceptable from one on that has no fee. Reference:
`ldk_node.Lsps2ComputeOpeningFeeMsat`. -/
theorem not_acceptable_of_none (h : fee.Lsps2ComputeOpeningFeeMsat size params = none)
    (hle : size ≤ size') : ¬Acceptable fee params size' := by
  rintro ⟨f, hf, -⟩
  have hsome := fee.defined hle (Option.isSome_of_mem hf)
  rw [h] at hsome
  cases hsome

/-- An acceptable size is the answer where the entry takes it. Reference:
`lnclient/ldk/ldk.go:2804 computeLsps2MinPaymentSizeMsat`. -/
theorem loop_of_acceptable {rounds : Nat} (hsize : size < 2 ^ 64)
    (hgood : Acceptable fee params size) :
    Acceptable fee params size ∧ size ≤ params.maxPaymentSizeMsat ∧
        minPaymentSizeLoop fee params (rounds + 1) size = (size, true) ∨
      ¬(Acceptable fee params size ∧ size ≤ params.maxPaymentSizeMsat) ∧
        (minPaymentSizeLoop fee params (rounds + 1) size).2 = false := by
  rw [minPaymentSizeLoop, (round_done hsize).2 hgood]
  rcases Nat.lt_or_ge params.maxPaymentSizeMsat size with hgt | hle
  · exact .inr ⟨fun h => absurd h.2 (Nat.not_le.2 hgt), decide_eq_false (Nat.not_le.2 hgt)⟩
  · exact .inl ⟨hgood, hle, congrArg _ (decide_eq_true hle)⟩

/-- The answer of the loop is where the ascent ends. Reference: `lnclient/ldk/ldk.go:2793
computeLsps2MinPaymentSizeMsat`. -/
theorem loop_found (hmin : params.minFeeMsat < wrappingFeeMsat) {rounds : Nat}
    (hsize : size < 2 ^ 64) :
    let top := climb (Acceptable fee params) (lowerBound fee params) rounds size
    Acceptable fee params top ∧ top ≤ params.maxPaymentSizeMsat ∧
        minPaymentSizeLoop fee params (rounds + 1) size = (top, true) ∨
      ¬(Acceptable fee params top ∧ top ≤ params.maxPaymentSizeMsat) ∧
        (minPaymentSizeLoop fee params (rounds + 1) size).2 = false := by
  induction rounds generalizing size with
  | zero =>
    by_cases hgood : Acceptable fee params size
    · exact loop_of_acceptable hsize hgood
    · refine .inr ⟨fun h => hgood h.1, ?_⟩
      rcases round_of_not_acceptable hsize hmin hgood with ⟨-, hround⟩ | ⟨-, hround⟩ <;>
        rw [minPaymentSizeLoop, hround]
      rfl
  | succ rounds ih =>
    by_cases hgood : Acceptable fee params size
    · rw [climb_of_good hgood]
      exact loop_of_acceptable hsize hgood
    · rw [climb_succ hgood, minPaymentSizeLoop]
      rcases round_of_not_acceptable hsize hmin hgood with ⟨hstop, hround⟩ | ⟨hle, hround⟩
      · rw [hround]
        refine .inr ⟨fun ⟨htop, hmax⟩ => ?_, rfl⟩
        have hup : lowerBound fee params size ≤ climb (Acceptable fee params)
            (lowerBound fee params) rounds (lowerBound fee params size) :=
          le_climb bounding_lowerBound
        rcases hstop with hnone | hgt
        · have hgrows := bounding_lowerBound.grows size hgood
          exact not_acceptable_of_none hnone (hgrows.le.trans hup) htop
        · omega
      · rw [hround]
        exact ih (hle.trans_lt params.maxPaymentSizeMsat_lt)

/-- With a minimum fee from the wrapping one on, no size is acceptable. Reference:
`lnclient/ldk/ldk.go:2778 lsps2MaxAcceptableOpeningFeeMsat`. -/
theorem not_acceptable_of_wrapping (hsize : size < 2 ^ 64)
    (hmin : wrappingFeeMsat ≤ params.minFeeMsat) : ¬Acceptable fee params size := by
  rintro ⟨f, hf, -, hceiling⟩
  have hlt := hceiling.trans_lt (maxAcceptable_lt hsize)
  have hvalue := fee.value hf
  omega

/-- With such a fee the search finds nothing, wherever the sizes wrap to. Reference:
`lnclient/ldk/ldk.go:2793 computeLsps2MinPaymentSizeMsat`. -/
theorem loop_of_wrapping {rounds : Nat} (hsize : size < 2 ^ 64)
    (hmin : wrappingFeeMsat ≤ params.minFeeMsat) :
    (minPaymentSizeLoop fee params rounds size).2 = false := by
  induction rounds generalizing size with
  | zero => rfl
  | succ rounds ih =>
    rw [minPaymentSizeLoop]
    cases hround : minPaymentSizeRound fee params size with
    | done => exact absurd ((round_done hsize).1 hround) (not_acceptable_of_wrapping hsize hmin)
    | stop => rfl
    | next size' =>
      have hle : size' ≤ params.maxPaymentSizeMsat := by
        unfold minPaymentSizeRound at hround
        split at hround
        · cases hround
        · simp only at hround
          split at hround
          · cases hround
          · split at hround
            · cases hround
            · cases hround
              omega
      exact ih (hle.trans_lt params.maxPaymentSizeMsat_lt)

/-! ## Sums and products -/

/-- Below the wrapping fee nothing wraps in any round. Reference: `lnclient/ldk/ldk.go:2802
computeLsps2MinPaymentSizeMsat`. -/
theorem sumsAndProducts_fit (hsize : size < 2 ^ 64)
    (hmin : params.minFeeMsat < wrappingFeeMsat) :
    ∀ x ∈ sumsAndProducts fee params size, x < 2 ^ 64 := by
  intro x hx
  unfold sumsAndProducts at hx
  cases h : fee.Lsps2ComputeOpeningFeeMsat size params with
  | none =>
    rw [h] at hx
    cases hx
  | some f =>
    have hlt : f < wrappingFeeMsat := OpeningFee.lt_wrapping h hmin
    rw [h] at hx
    unfold wrappingFeeMsat at hlt
    unfold minNetReceiveMsat lsps2MaxOpeningFeePercent at hx
    rcases List.mem_append.1 hx with hx | hx
    · simp only [List.mem_cons, List.not_mem_nil, or_false] at hx
      omega
    · split at hx
      · simp only [List.mem_cons, List.not_mem_nil, or_false] at hx
        omega
      · cases hx

theorem unwrapped_of_lt {rounds : Nat} (hsize : size < 2 ^ 64)
    (hmin : params.minFeeMsat < wrappingFeeMsat) : Unwrapped fee params rounds size := by
  induction rounds generalizing size with
  | zero => trivial
  | succ rounds ih =>
    refine ⟨sumsAndProducts_fit hsize hmin, ?_⟩
    by_cases hgood : Acceptable fee params size
    · rw [(round_done hsize).2 hgood]
      trivial
    · rcases round_of_not_acceptable hsize hmin hgood with ⟨-, hround⟩ | ⟨hle, hround⟩ <;>
        rw [hround]
      · trivial
      · exact ih (hle.trans_lt params.maxPaymentSizeMsat_lt)

/-- With a minimum fee from the wrapping one on, the first round wraps, unless the size has no fee.
Reference: `lnclient/ldk/ldk.go:2811 computeLsps2MinPaymentSizeMsat`. -/
theorem unwrapped_of_wrapping {rounds : Nat} (hsize : size < 2 ^ 64)
    (hmin : wrappingFeeMsat ≤ params.minFeeMsat) :
    Unwrapped fee params (rounds + 1) size ↔
      fee.Lsps2ComputeOpeningFeeMsat size params = none := by
  have hround : minPaymentSizeRound fee params size ≠ .done :=
    (not_congr (round_done hsize)).2 (not_acceptable_of_wrapping hsize hmin)
  cases h : fee.Lsps2ComputeOpeningFeeMsat size params with
  | none =>
    refine iff_of_true ⟨?_, ?_⟩ rfl
    · rw [sumsAndProducts, h]
      nofun
    · rw [minPaymentSizeRound, h]
      trivial
  | some f =>
    refine iff_of_false (fun hfit => ?_) nofun
    have hf : wrappingFeeMsat ≤ f := by
      have hvalue := fee.value h
      omega
    have hbase : f > lsps2MaxOpeningFeeBaseMsat := by
      unfold wrappingFeeMsat at hf
      unfold lsps2MaxOpeningFeeBaseMsat
      omega
    have hproduct : (f + lsps2MaxOpeningFeePercent - 1) / lsps2MaxOpeningFeePercent * 100 ∈
        sumsAndProducts fee params size := by
      rw [sumsAndProducts, h]
      simp only [if_pos (And.intro hround hbase)]
      simp
    have hlt := hfit.1 _ hproduct
    unfold wrappingFeeMsat at hf
    unfold lsps2MaxOpeningFeePercent at hlt
    omega

end

/-! ## The least size -/

section
variable {fee : OpeningFee} {params : Lsps2OpeningFeeParams} {m : Nat}

/-- An answer that nothing is acceptable is exact where nothing is. Reference:
`lnclient/ldk/ldk.go:2820 computeLsps2MinPaymentSizeMsat`. -/
theorem minSizeExact_of_absent (h : (computeLsps2MinPaymentSizeMsat fee params).2 = false) :
    MinSizeExact fee params ↔ acceptableSizes fee params = ∅ := by
  constructor
  · exact fun hexact => hexact.absent.1 h
  · intro hempty
    refine ⟨fun m => iff_of_false (fun hm => ?_) (fun hm => ?_), iff_of_true h hempty⟩
    · rw [hm] at h
      cases h
    · exact Set.notMem_empty m (hempty ▸ hm.1)

/-- The least acceptable size is exact. Reference: `lnclient/ldk/ldk.go:2804
computeLsps2MinPaymentSizeMsat`. -/
theorem minSizeExact_of_found (h : computeLsps2MinPaymentSizeMsat fee params = (m, true))
    (hleast : IsLeast (acceptableSizes fee params) m) : MinSizeExact fee params := by
  refine ⟨fun m' => ?_, ?_⟩
  · rw [h]
    constructor
    · intro heq
      exact (Prod.mk.inj heq).1 ▸ hleast
    · intro hleast'
      rw [hleast.unique hleast']
  · rw [h]
    exact iff_of_false nofun (Set.Nonempty.ne_empty ⟨m, hleast.1⟩)

/-- Where nothing wraps, the answer is exact if and only if the ascent is long enough. Reference:
`lnclient/ldk/ldk.go:2785 computeLsps2MinPaymentSizeMsat`. -/
theorem minSizeExact_of_lt (hmin : params.minFeeMsat < wrappingFeeMsat) :
    MinSizeExact fee params ↔ ((acceptableSizes fee params).Nonempty → Acceptable fee params
      (climb (Acceptable fee params) (lowerBound fee params) 7 params.minPaymentSizeMsat)) := by
  rcases @loop_found fee params _ hmin 7 params.minPaymentSizeMsat_lt with
    ⟨hgood, hmax, hfound⟩ | ⟨hbad, habsent⟩
  · obtain ⟨⟨hle, -⟩, hleast⟩ := isLeast_climb bounding_lowerBound hgood
    refine iff_of_true (minSizeExact_of_found hfound ⟨⟨hle, hmax, hgood⟩, ?_⟩) fun _ => hgood
    exact fun t ht => hleast ⟨ht.1, ht.2.2⟩
  · rw [minSizeExact_of_absent habsent, Set.eq_empty_iff_forall_notMem]
    constructor
    · exact fun hempty ⟨t, ht⟩ => absurd ht (hempty t)
    · intro hreach t ht
      exact hbad ⟨hreach ⟨t, ht⟩, (climb_le bounding_lowerBound ht.1 ht.2.2).trans ht.2.1⟩

end

/-- The answer is the least acceptable size, or that there is none, and no sum or product wraps, if
and only if the minimum fee is below the wrapping one (or the entry's minimum has no fee), and seven
steps up from the entry's minimum reach an acceptable size where there is one. Reference:
`lnclient/ldk/ldk.go:2785 computeLsps2MinPaymentSizeMsat`. -/
theorem min_payment_size_iff_climb (fee : OpeningFee) (params : Lsps2OpeningFeeParams) :
    MinSizeExact fee params ∧ Unwrapped fee params 8 params.minPaymentSizeMsat ↔
      (params.minFeeMsat < wrappingFeeMsat ∨
        fee.Lsps2ComputeOpeningFeeMsat params.minPaymentSizeMsat params = none) ∧
      ((acceptableSizes fee params).Nonempty → Acceptable fee params
        (climb (Acceptable fee params) (lowerBound fee params) 7 params.minPaymentSizeMsat)) := by
  rcases Nat.lt_or_ge params.minFeeMsat wrappingFeeMsat with hmin | hmin
  · rw [minSizeExact_of_lt hmin]
    exact ⟨fun h => ⟨.inl hmin, h.1⟩,
      fun h => ⟨h.2, unwrapped_of_lt params.minPaymentSizeMsat_lt hmin⟩⟩
  · have hempty : acceptableSizes fee params = ∅ := Set.eq_empty_iff_forall_notMem.2 fun t ht =>
      not_acceptable_of_wrapping (ht.2.1.trans_lt params.maxPaymentSizeMsat_lt) hmin ht.2.2
    rw [unwrapped_of_wrapping params.minPaymentSizeMsat_lt hmin]
    constructor
    · rintro ⟨-, hnone⟩
      refine ⟨.inr hnone, fun hne => ?_⟩
      rw [hempty] at hne
      exact absurd hne Set.not_nonempty_empty
    · rintro ⟨hlt | hnone, -⟩
      · exact absurd hlt (Nat.not_lt.2 hmin)
      · exact ⟨(minSizeExact_of_absent (loop_of_wrapping params.minPaymentSizeMsat_lt hmin)).2
          hempty, hnone⟩

end AlbyHub
