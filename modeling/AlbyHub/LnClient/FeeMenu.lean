import AlbyHub.Go.Extremum
import AlbyHub.LnClient.PaymentSizes

/-!
# The advertised range and the fee cap

The hub merges the entries of an LSP's fee menu into one range of payment sizes, and caps the fee of
an invoice by the menu's highest fee for its size and by a ceiling of its own. The range is the hull
of the entries' ranges and its end does not look at the ceiling, so a size in it may lie between the
entries or have no fee that the cap admits (`size_refused`). `fee_cap_agrees_iff` says that every
advertised size has an entry whose fee the cap admits where the ranges of the entries, each up to
the end of its own sizes, touch.
-/

namespace AlbyHub

open Go Extremum

/-- What the hub keeps of the LSP's answer. Reference: `lnclient/ldk/ldk.go:61 LDKService`. -/
structure Lsps2Info where
  infoFetchedAt : Option Int := none
  minPaymentSizeMsat : Option Nat := none
  maxPaymentSizeMsat : Option Nat := none
  openingFeeParamsMenu : List Lsps2OpeningFeeParams := []

/-- What the loop does with an entry. Reference: `lnclient/ldk/ldk.go:2728
fetchLsps2OpeningFeeParams`. -/
def mergeEntry (fee : OpeningFee) (range : Option Nat × Option Nat)
    (params : Lsps2OpeningFeeParams) : Option Nat × Option Nat :=
  match computeLsps2MinPaymentSizeMsat fee params with
  | (effectiveMinPaymentSizeMsat, true) =>
    (keep (· < ·) range.1 effectiveMinPaymentSizeMsat,
      keep (· > ·) range.2 params.maxPaymentSizeMsat)
  | (_, false) => range

/-- The range of a menu. Reference: `lnclient/ldk/ldk.go:2726 fetchLsps2OpeningFeeParams`. -/
def paymentSizeRange (fee : OpeningFee) (menu : List Lsps2OpeningFeeParams) :
    Option Nat × Option Nat :=
  menu.foldl (mergeEntry fee) (none, none)

/-- A fetch: the clock is read for the age of what is kept and again for the new date. Reference:
`lnclient/ldk/ldk.go:2708 fetchLsps2OpeningFeeParams`. -/
structure Fetch where
  maxCacheAge : Int
  now : Int
  fetchedAt : Int
  response : Except String (List Lsps2OpeningFeeParams)

/-- Reference: `lnclient/ldk/ldk.go:2708 fetchLsps2OpeningFeeParams`. -/
def fetchLsps2OpeningFeeParams (fee : OpeningFee) (lsps2Pubkey lsps2Address : String)
    (info : Lsps2Info) (fetch : Fetch) : Lsps2Info :=
  if lsps2Pubkey = "" ∨ lsps2Address = "" then info
  else if info.infoFetchedAt.any fun at' => fetch.now - at' < fetch.maxCacheAge then info
  else
    match fetch.response with
    | .error _ => info
    | .ok menu => {
      infoFetchedAt := some fetch.fetchedAt
      minPaymentSizeMsat := (paymentSizeRange fee menu).1
      maxPaymentSizeMsat := (paymentSizeRange fee menu).2
      openingFeeParamsMenu := menu }

/-- The fee of an entry for a size that it covers. Reference: `lnclient/ldk/ldk.go:2758
computeLsps2MaxTotalOpeningFeeMsat`. -/
def coveredFee (fee : OpeningFee) (paymentSizeMsat : Nat) (params : Lsps2OpeningFeeParams) :
    Option Nat :=
  if paymentSizeMsat < params.minPaymentSizeMsat ∨
      paymentSizeMsat > params.maxPaymentSizeMsat then none
  else fee.Lsps2ComputeOpeningFeeMsat paymentSizeMsat params

/-- The highest fee of the menu. Reference: `lnclient/ldk/ldk.go:2756
computeLsps2MaxTotalOpeningFeeMsat`. -/
def menuMaxFeeMsat (fee : OpeningFee) (paymentSizeMsat : Nat)
    (menu : List Lsps2OpeningFeeParams) : Option Nat :=
  menu.foldl (fun kept params =>
    match coveredFee fee paymentSizeMsat params with
    | none => kept
    | some feeMsat => keep (· > ·) kept feeMsat) none

/-- Reference: `lnclient/ldk/ldk.go:2753 computeLsps2MaxTotalOpeningFeeMsat`. -/
def computeLsps2MaxTotalOpeningFeeMsat (fee : OpeningFee) (paymentSizeMsat : Nat)
    (menu : List Lsps2OpeningFeeParams) : Nat :=
  let maxAcceptableFeeMsat := lsps2MaxAcceptableOpeningFeeMsat paymentSizeMsat
  match menuMaxFeeMsat fee paymentSizeMsat menu with
  | some menuMaxFeeMsat =>
    if menuMaxFeeMsat < maxAcceptableFeeMsat then menuMaxFeeMsat else maxAcceptableFeeMsat
  | none => maxAcceptableFeeMsat

/-! ## What the range and the cap are for -/

/-- The fees of the entries that cover the size. Reference: `lnclient/ldk/ldk.go:2749
computeLsps2MaxTotalOpeningFeeMsat`. -/
def coveringFees (fee : OpeningFee) (size : Nat) (menu : List Lsps2OpeningFeeParams) : Set Nat :=
  {f | ∃ params ∈ menu, params.minPaymentSizeMsat ≤ size ∧ size ≤ params.maxPaymentSizeMsat ∧
    fee.Lsps2ComputeOpeningFeeMsat size params = some f}

/-- An entry counts where it has a least size. Reference: `lnclient/ldk/ldk.go:2730
fetchLsps2OpeningFeeParams`. -/
def Usable (fee : OpeningFee) (params : Lsps2OpeningFeeParams) : Prop :=
  (computeLsps2MinPaymentSizeMsat fee params).2 = true

/-- The sizes that the hub advertises. Reference: `lnclient/ldk/ldk.go:2743
fetchLsps2OpeningFeeParams`. -/
def Advertised (fee : OpeningFee) (menu : List Lsps2OpeningFeeParams) (size : Nat) : Prop :=
  (∃ lo ∈ (paymentSizeRange fee menu).1, lo ≤ size) ∧
    ∃ hi ∈ (paymentSizeRange fee menu).2, size ≤ hi

/-- Every advertised size has an entry whose fee the cap admits, and the cap is the smaller of the
ceiling and the highest fee of the covering entries. Reference: `lnclient/ldk/ldk.go:2749
computeLsps2MaxTotalOpeningFeeMsat`. -/
structure FeeCapAgrees (fee : OpeningFee) (menu : List Lsps2OpeningFeeParams) : Prop where
  payable : ∀ size, Advertised fee menu size →
    ∃ f ∈ coveringFees fee size menu, f ≤ computeLsps2MaxTotalOpeningFeeMsat fee size menu
  capped : ∀ size f, IsGreatest (coveringFees fee size menu) f →
    computeLsps2MaxTotalOpeningFeeMsat fee size menu =
      min (lsps2MaxAcceptableOpeningFeeMsat size) f
  ceiling : ∀ size, coveringFees fee size menu = ∅ →
    computeLsps2MaxTotalOpeningFeeMsat fee size menu = lsps2MaxAcceptableOpeningFeeMsat size

/-- The entry takes the size: it is within the limits and has a fee within the ceiling. Reference:
`lnclient/ldk/ldk.go:2758 computeLsps2MaxTotalOpeningFeeMsat`, `:2778
lsps2MaxAcceptableOpeningFeeMsat`. -/
def CoversSize (fee : OpeningFee) (params : Lsps2OpeningFeeParams) (size : Nat) : Prop :=
  params.minPaymentSizeMsat ≤ size ∧ size ≤ params.maxPaymentSizeMsat ∧
    (fee.Lsps2ComputeOpeningFeeMsat size params).isSome ∧ WithinCeiling params size

/-- Every size from the least one of a usable entry to the greatest one of a usable entry is taken
by an entry. Reference: none. -/
def NoGap (fee : OpeningFee) (menu : List Lsps2OpeningFeeParams) : Prop :=
  ∀ first ∈ menu, ∀ last ∈ menu, Usable fee first → Usable fee last →
    ∀ size, (computeLsps2MinPaymentSizeMsat fee first).1 ≤ size →
      size ≤ last.maxPaymentSizeMsat → ∃ params ∈ menu, CoversSize fee params size

/-- The entry's sizes end here: at its maximum, at the last size with a fee, with a share of over a
tenth at the last size of which it is at most 5000 sat, and with a share of a tenth at 50000 sat and
at each size of whole hundreds over that. Reference: `lnclient/ldk/ldk.go:2778
lsps2MaxAcceptableOpeningFeeMsat`. -/
def EndsAt (fee : OpeningFee) (params : Lsps2OpeningFeeParams) (size : Nat) : Prop :=
  CoversSize fee params size ∧ (size = params.maxPaymentSizeMsat ∨
    fee.Lsps2ComputeOpeningFeeMsat (size + 1) params = none ∨
    100000 < params.proportional ∧ 5000000000000 < (size + 1) * params.proportional ∨
    params.proportional = 100000 ∧ 50000000 ≤ size ∧ size % 100 = 0)

/-- The entries' ranges touch: where the sizes of one end, from the least size of an entry within
the rounds up to below the maximum of one, another entry takes the next size. Reference:
`lnclient/ldk/ldk.go:2726 fetchLsps2OpeningFeeParams`. -/
def RangesTouch (fee : OpeningFee) (menu : List Lsps2OpeningFeeParams) : Prop :=
  ∀ first ∈ menu, ∀ last ∈ menu, HasSize fee first ∧ WithinRounds first →
    HasSize fee last ∧ WithinRounds last → ∀ params ∈ menu, ∀ size,
      leastPaymentSizeMsat first ≤ size → size < last.maxPaymentSizeMsat →
      EndsAt fee params size → ∃ next ∈ menu, CoversSize fee next (size + 1)

section
variable {fee : OpeningFee} {menu : List Lsps2OpeningFeeParams} {params : Lsps2OpeningFeeParams}
variable {size f : Nat}

/-! ## Where an entry's sizes end -/

/-- An entry takes the next size, or its sizes end. Reference: `lnclient/ldk/ldk.go:2778
lsps2MaxAcceptableOpeningFeeMsat`. -/
theorem CoversSize.endsAt (h : CoversSize fee params size)
    (hnext : ¬CoversSize fee params (size + 1)) : EndsAt fee params size := by
  refine ⟨h, ?_⟩
  obtain ⟨hlo, hhi, -, hbase, hshare⟩ := h
  by_contra hinside
  obtain ⟨hmax, hfee, hover, htenth⟩ : size ≠ params.maxPaymentSizeMsat ∧
      fee.Lsps2ComputeOpeningFeeMsat (size + 1) params ≠ none ∧
      ¬(100000 < params.proportional ∧ 5000000000000 < (size + 1) * params.proportional) ∧
      ¬(params.proportional = 100000 ∧ 50000000 ≤ size ∧ size % 100 = 0) := by
    simpa only [not_or] using hinside
  refine hnext ⟨by omega, by omega, Option.isSome_iff_ne_none.2 hfee, by omega, ?_⟩
  rcases Nat.lt_trichotomy params.proportional 100000 with hlt | heq | hgt
  · exact .inr (.inl hlt)
  · have hsmall : size < 50000000 := by
      have hhundreds : size % 100 ≠ 0 ∨ size < 50000000 := by
        by_contra hnot
        exact htenth ⟨heq, by omega, by omega⟩
      rw [heq] at hshare
      omega
    refine .inl ?_
    rw [heq]
    exact Nat.mul_le_mul_right 100000 hsmall
  · exact .inl (by omega)

/-! ## The cap -/

theorem mem_coveredFees : f ∈ menu.filterMap (coveredFee fee size) ↔
    f ∈ coveringFees fee size menu := by
  rw [List.mem_filterMap]
  refine exists_congr fun params => and_congr_right fun _ => ?_
  unfold coveredFee
  split
  · exact iff_of_false nofun fun h => by omega
  · exact ⟨fun h => ⟨by omega, by omega, h⟩, fun h => h.2.2⟩

theorem menuMaxFee_eq_foldl :
    menuMaxFeeMsat fee size menu =
      (menu.filterMap (coveredFee fee size)).foldl (keep (· > ·)) none := by
  rw [List.foldl_filterMap]
  unfold menuMaxFeeMsat
  congr 1
  funext kept params
  cases coveredFee fee size params <;> rfl

/-- The loop finds the greatest fee of the covering entries. Reference:
`lnclient/ldk/ldk.go:2756 computeLsps2MaxTotalOpeningFeeMsat`. -/
theorem isGreatest_menuMaxFee (h : menuMaxFeeMsat fee size menu = some f) :
    IsGreatest (coveringFees fee size menu) f := by
  rw [menuMaxFee_eq_foldl] at h
  obtain ⟨hmem, hle⟩ := isGreatest_keep h
  exact ⟨mem_coveredFees.1 hmem, fun g hg => hle (mem_coveredFees.2 hg)⟩

theorem menuMaxFee_eq_none :
    menuMaxFeeMsat fee size menu = none ↔ coveringFees fee size menu = ∅ := by
  rw [menuMaxFee_eq_foldl, foldl_keep_none, List.eq_nil_iff_forall_not_mem,
    Set.eq_empty_iff_forall_notMem]
  exact forall_congr' fun g => not_congr mem_coveredFees

/-- The cap is the smaller of the ceiling and the greatest fee. Reference:
`lnclient/ldk/ldk.go:2770 computeLsps2MaxTotalOpeningFeeMsat`. -/
theorem cap_of_isGreatest (h : IsGreatest (coveringFees fee size menu) f) :
    computeLsps2MaxTotalOpeningFeeMsat fee size menu =
      min (lsps2MaxAcceptableOpeningFeeMsat size) f := by
  unfold computeLsps2MaxTotalOpeningFeeMsat
  cases hmax : menuMaxFeeMsat fee size menu with
  | none =>
    rw [menuMaxFee_eq_none.1 hmax] at h
    exact absurd h.1 (Set.notMem_empty f)
  | some g =>
    obtain rfl := (isGreatest_menuMaxFee hmax).unique h
    simp only
    split <;> omega

theorem cap_of_empty (h : coveringFees fee size menu = ∅) :
    computeLsps2MaxTotalOpeningFeeMsat fee size menu = lsps2MaxAcceptableOpeningFeeMsat size := by
  unfold computeLsps2MaxTotalOpeningFeeMsat
  rw [menuMaxFee_eq_none.2 h]

/-- The cap admits a covering entry's fee if and only if the ceiling does. Reference:
`lnclient/ldk/ldk.go:2770 computeLsps2MaxTotalOpeningFeeMsat`. -/
theorem le_cap_iff (hf : f ∈ coveringFees fee size menu) :
    f ≤ computeLsps2MaxTotalOpeningFeeMsat fee size menu ↔
      f ≤ lsps2MaxAcceptableOpeningFeeMsat size := by
  cases hmax : menuMaxFeeMsat fee size menu with
  | none =>
    rw [menuMaxFee_eq_none.1 hmax] at hf
    exact absurd hf (Set.notMem_empty f)
  | some g =>
    have hgreatest := isGreatest_menuMaxFee hmax
    have hle : f ≤ g := hgreatest.2 hf
    rw [cap_of_isGreatest hgreatest]
    omega

/-! ## The range -/

/-- The least size of a usable entry. Reference: `lnclient/ldk/ldk.go:2729
fetchLsps2OpeningFeeParams`. -/
def leastSize (fee : OpeningFee) (params : Lsps2OpeningFeeParams) : Option Nat :=
  if (computeLsps2MinPaymentSizeMsat fee params).2 then
    some (computeLsps2MinPaymentSizeMsat fee params).1
  else none

/-- The greatest size of a usable entry. Reference: `lnclient/ldk/ldk.go:2737
fetchLsps2OpeningFeeParams`. -/
def greatestSize (fee : OpeningFee) (params : Lsps2OpeningFeeParams) : Option Nat :=
  if (computeLsps2MinPaymentSizeMsat fee params).2 then some params.maxPaymentSizeMsat else none

theorem foldl_mergeEntry {range : Option Nat × Option Nat} :
    menu.foldl (mergeEntry fee) range =
      ((menu.filterMap (leastSize fee)).foldl (keep (· < ·)) range.1,
        (menu.filterMap (greatestSize fee)).foldl (keep (· > ·)) range.2) := by
  induction menu generalizing range with
  | nil => rfl
  | cons params menu ih =>
    rcases hm : computeLsps2MinPaymentSizeMsat fee params with ⟨m, ok⟩
    rw [List.foldl_cons, ih, mergeEntry, hm]
    cases ok with
    | false =>
      rw [List.filterMap_cons_none (by rw [leastSize, hm]; rfl),
        List.filterMap_cons_none (by rw [greatestSize, hm]; rfl)]
    | true =>
      rw [List.filterMap_cons_some (by rw [leastSize, hm]; rfl),
        List.filterMap_cons_some (by rw [greatestSize, hm]; rfl)]
      rfl

theorem mem_leastSizes {m : Nat} : m ∈ menu.filterMap (leastSize fee) ↔
    ∃ params ∈ menu, Usable fee params ∧ (computeLsps2MinPaymentSizeMsat fee params).1 = m := by
  rw [List.mem_filterMap]
  refine exists_congr fun params => and_congr_right fun _ => ?_
  unfold leastSize Usable
  split
  · next h => exact ⟨fun hm => ⟨h, Option.some.inj hm⟩, fun hm => congrArg some hm.2⟩
  · next h => exact iff_of_false nofun fun hm => h hm.1

theorem mem_greatestSizes {m : Nat} : m ∈ menu.filterMap (greatestSize fee) ↔
    ∃ params ∈ menu, Usable fee params ∧ params.maxPaymentSizeMsat = m := by
  rw [List.mem_filterMap]
  refine exists_congr fun params => and_congr_right fun _ => ?_
  unfold greatestSize Usable
  split
  · next h => exact ⟨fun hm => ⟨h, Option.some.inj hm⟩, fun hm => congrArg some hm.2⟩
  · next h => exact iff_of_false nofun fun hm => h hm.1

/-- A size is advertised if and only if it lies between the least size of a usable entry and the
greatest size of one. Reference: `lnclient/ldk/ldk.go:2726 fetchLsps2OpeningFeeParams`. -/
theorem advertised_iff : Advertised fee menu size ↔
    (∃ params ∈ menu, Usable fee params ∧
        (computeLsps2MinPaymentSizeMsat fee params).1 ≤ size) ∧
      ∃ params ∈ menu, Usable fee params ∧ size ≤ params.maxPaymentSizeMsat := by
  unfold Advertised paymentSizeRange
  rw [foldl_mergeEntry, exists_keep_le, exists_le_keep]
  refine and_congr ?_ ?_
  · constructor
    · rintro ⟨m, hm, hle⟩
      obtain ⟨params, hmem, husable, rfl⟩ := mem_leastSizes.1 hm
      exact ⟨params, hmem, husable, hle⟩
    · rintro ⟨params, hmem, husable, hle⟩
      exact ⟨_, mem_leastSizes.2 ⟨params, hmem, husable, rfl⟩, hle⟩
  · constructor
    · rintro ⟨m, hm, hle⟩
      obtain ⟨params, hmem, husable, rfl⟩ := mem_greatestSizes.1 hm
      exact ⟨params, hmem, husable, hle⟩
    · rintro ⟨params, hmem, husable, hle⟩
      exact ⟨_, mem_greatestSizes.2 ⟨params, hmem, husable, rfl⟩, hle⟩

/-- The hub's range is that of its menu, whatever was fetched before. Reference:
`lnclient/ldk/ldk.go:2743 fetchLsps2OpeningFeeParams`. -/
def Lsps2Info.Derived (fee : OpeningFee) (info : Lsps2Info) : Prop :=
  paymentSizeRange fee info.openingFeeParamsMenu =
    (info.minPaymentSizeMsat, info.maxPaymentSizeMsat)

/-- A fetch keeps the range that of the menu. Reference: `lnclient/ldk/ldk.go:2708
fetchLsps2OpeningFeeParams`. -/
theorem Lsps2Info.Derived.fetch {pubkey address : String} {info : Lsps2Info} {fetch : Fetch}
    (h : info.Derived fee) :
    (fetchLsps2OpeningFeeParams fee pubkey address info fetch).Derived fee := by
  unfold fetchLsps2OpeningFeeParams
  split
  · exact h
  · split
    · exact h
    · split
      · exact h
      · rfl

/-- Fetches from the start on keep it so. Reference: `lnclient/ldk/ldk.go:2708
fetchLsps2OpeningFeeParams`. -/
theorem derived_fetches {pubkey address : String} (fetches : List Fetch) :
    (fetches.foldl (fetchLsps2OpeningFeeParams fee pubkey address) {}).Derived fee := by
  have hrun (info : Lsps2Info) (h : info.Derived fee) :
      (fetches.foldl (fetchLsps2OpeningFeeParams fee pubkey address) info).Derived fee := by
    induction fetches generalizing info with
    | nil => exact h
    | cons fetch fetches ih => exact ih _ h.fetch
  exact hrun {} rfl

/-! ## The range and the cap -/

/-- The range and the cap agree if and only if, from the least size of a usable entry to the
greatest one of a usable entry, every size is taken by an entry. Reference:
`lnclient/ldk/ldk.go:2753 computeLsps2MaxTotalOpeningFeeMsat`. -/
theorem feeCapAgrees_iff_noGap : FeeCapAgrees fee menu ↔ NoGap fee menu := by
  constructor
  · intro h first hfirst last hlast husable husable' size hle hle'
    obtain ⟨f, hf, hcap⟩ := h.payable size
      (advertised_iff.2 ⟨⟨first, hfirst, husable, hle⟩, last, hlast, husable', hle'⟩)
    rw [le_cap_iff hf] at hcap
    obtain ⟨params, hmem, hlo, hhi, hfee⟩ := hf
    exact ⟨params, hmem, hlo, hhi, Option.isSome_of_mem hfee, (withinCeiling_iff hfee).1 hcap⟩
  · intro h
    refine ⟨fun size hadvertised => ?_, fun size f => cap_of_isGreatest, fun size => cap_of_empty⟩
    obtain ⟨⟨first, hfirst, husable, hle⟩, last, hlast, husable', hle'⟩ :=
      advertised_iff.1 hadvertised
    obtain ⟨params, hmem, hlo, hhi, hsome, hwithin⟩ :=
      h first hfirst last hlast husable husable' size hle hle'
    obtain ⟨f, hfee⟩ := Option.isSome_iff_exists.1 hsome
    have hf : f ∈ coveringFees fee size menu := ⟨params, hmem, hlo, hhi, hfee⟩
    exact ⟨f, hf, (le_cap_iff hf).2 ((withinCeiling_iff hfee).2 hwithin)⟩

/-- Nothing is left out between two sizes where the entries' ranges touch. Reference: none. -/
theorem exists_coversSize {lo hi : Nat} (hstart : ∃ params ∈ menu, CoversSize fee params lo)
    (htouch : ∀ params ∈ menu, ∀ size, lo ≤ size → size < hi → EndsAt fee params size →
      ∃ next ∈ menu, CoversSize fee next (size + 1)) (hlo : lo ≤ size) (hhi : size ≤ hi) :
    ∃ params ∈ menu, CoversSize fee params size := by
  induction size, hlo using Nat.le_induction with
  | base => exact hstart
  | succ size hle ih =>
    obtain ⟨params, hmem, hcovers⟩ := ih (by omega)
    by_cases hnext : CoversSize fee params (size + 1)
    · exact ⟨params, hmem, hnext⟩
    · exact htouch params hmem size hle hhi (hcovers.endsAt hnext)

end

/-- The range and the cap agree if and only if the ranges of the entries touch. Reference:
`lnclient/ldk/ldk.go:2753 computeLsps2MaxTotalOpeningFeeMsat`. -/
theorem fee_cap_agrees_iff (fee : OpeningFee) (menu : List Lsps2OpeningFeeParams) :
    FeeCapAgrees fee menu ↔ RangesTouch fee menu := by
  rw [feeCapAgrees_iff_noGap]
  constructor
  · intro h first hfirst last hlast hcounts hcounts' params _ size hlo hhi _
    refine h first hfirst last hlast (computed_iff.2 hcounts) (computed_iff.2 hcounts') _ ?_ hhi
    rw [hcounts.1.computed hcounts.2]
    exact hlo.trans (Nat.le_succ size)
  · intro h first hfirst last hlast husable husable' size hlo hhi
    have hcounts := computed_iff.1 husable
    rw [hcounts.1.computed hcounts.2] at hlo
    -- the entry with the least size takes it
    have hleast := hcounts.1.isLeast.1
    obtain ⟨hsome, -, -, hceiling⟩ := acceptable_iff.1 hleast.2.2
    exact exists_coversSize ⟨first, hfirst, hleast.1, hleast.2.1, hsome, hceiling⟩
      (fun params hmem size hle hlt hends => h first hfirst last hlast hcounts
        (computed_iff.1 husable') params hmem size hle hlt hends) hlo hhi

/-- An entry with a fifth of the payment. Reference: `lnclient/ldk/ldk_test.go:40
makeLsps2OpeningFeeParams`. -/
def fifthFeeParams : Lsps2OpeningFeeParams where
  minFeeMsat := 1000
  proportional := 200000
  minPaymentSizeMsat := 1000
  maxPaymentSizeMsat := 1000000000
  minFeeMsat_lt := halfFeeParams.minPaymentSizeMsat_lt
  proportional_lt := by decide
  minPaymentSizeMsat_lt := halfFeeParams.minPaymentSizeMsat_lt
  maxPaymentSizeMsat_lt := halfFeeParams.maxPaymentSizeMsat_lt

/-- The entry's range is advertised up to its end, and an invoice of 100000 sat is refused for its
fee of 20000. Reference: `lnclient/ldk/ldk.go:2737 fetchLsps2OpeningFeeParams`. -/
theorem size_refused :
    paymentSizeRange checkedOpeningFee [fifthFeeParams] = (some 2000, some 1000000000) ∧
      checkedOpeningFee.Lsps2ComputeOpeningFeeMsat 100000000 fifthFeeParams = some 20000000 ∧
      computeLsps2MaxTotalOpeningFeeMsat checkedOpeningFee 100000000 [fifthFeeParams] = 10000000 ∧
      ¬FeeCapAgrees checkedOpeningFee [fifthFeeParams] := by
  have hrange : paymentSizeRange checkedOpeningFee [fifthFeeParams] =
      (some 2000, some 1000000000) := by
    decide +kernel
  have hfee : checkedOpeningFee.Lsps2ComputeOpeningFeeMsat 100000000 fifthFeeParams =
      some 20000000 := by
    decide +kernel
  have hcap : computeLsps2MaxTotalOpeningFeeMsat checkedOpeningFee 100000000 [fifthFeeParams] =
      10000000 := by
    decide +kernel
  refine ⟨hrange, hfee, hcap, fun h => ?_⟩
  obtain ⟨f, ⟨params, hmem, -, -, hf⟩, hle⟩ := h.payable 100000000 (by
    unfold Advertised
    rw [hrange]
    exact ⟨⟨2000, rfl, by decide⟩, 1000000000, rfl, by decide⟩)
  obtain rfl := List.mem_singleton.1 hmem
  rw [hfee] at hf
  rw [hcap] at hle
  obtain rfl := Option.some.inj hf
  omega

end AlbyHub
