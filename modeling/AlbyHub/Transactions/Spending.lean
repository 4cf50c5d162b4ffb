import AlbyHub.Go.Rounding
import AlbyHub.Transactions.Runs

/-!
# The arithmetic of the spending check

`validateCanPay` adds a fee reserve that is computed in binary floating point, with a wrap, and
compares the sum as a signed number. On the amounts where neither the rounding nor the sign matters
the check is the one of unbounded integers; on each other amount there is an app that it lets spend
what it does not have (`spending_check_iff`). Up to `2 ^ 53` the reserve is exactly 1%, rounded up
(`CalculateFeeReserveMsat_eq`).
-/

namespace AlbyHub

open Go

/-- The maximum of 1% of the amount, rounded up, and 10 sats, in unbounded integers. Reference:
the comment at `transactions/transactions_service.go:1214 CalculateFeeReserveMsat`. -/
def exactFeeReserve (amountMsat : Nat) : Nat := max (ceilDiv amountMsat 100) 10000

/-- What the payment needs, in unbounded integers. Reference:
`transactions/transactions_service.go:1134 validateCanPay`. -/
def exactAmount (amountMsat : Nat) (selfPayment : Bool) : Nat :=
  if selfPayment then amountMsat else amountMsat + exactFeeReserve amountMsat

/-- The sum that the source computes, without the wrap. Reference:
`transactions/transactions_service.go:1136 validateCanPay`. -/
def unwrappedAmount (amountMsat : Nat) (selfPayment : Bool) : Nat :=
  if selfPayment then amountMsat else amountMsat + CalculateFeeReserveMsat amountMsat

/-- The check accepts the payment for the app and the `pay_invoice` permission that it finds, whose
balance and usage are sums that fit. Reference: `transactions/transactions_service.go:1133
validateCanPay`. -/
structure Accepts (W : World) (env : Env) (db : DB) (amountMsat : Nat) (selfPayment : Bool)
    (app : App) (p : AppPermission) (balance : Int) (usage : Nat) : Prop where
  balance : GetIsolatedBalanceMsat db.transactions p.appId = .ok balance
  usage : GetBudgetUsageMsat W env.now db.transactions p = .ok usage
  max : p.maxAmountSat < 2 ^ 63
  accepts : ∃ appId description, db.findApp env.pickApp appId = some app ∧
    db.findPermission env.pickPermission appId "pay_invoice" = some p ∧
    (validateCanPay W env db (some appId) amountMsat description selfPayment).1 = .ok ()

/-- Whatever the ledger of an app of the kind, the check accepts the amount only where it and the
reserve are covered in unbounded integers: by the balance of an isolated app, and by what is left
of a budget, in sats. Reference: none. -/
def SpendingExact (isolated budgeted : Bool) (amountMsat : Nat) (selfPayment : Bool) : Prop :=
  ∀ W env db app p balance usage, Accepts W env db amountMsat selfPayment app p balance usage →
    app.isolated = isolated → decide (0 < p.maxAmountSat) = budgeted →
    (isolated = true → (exactAmount amountMsat selfPayment : Int) ≤ balance) ∧
    (budgeted = true → ((exactAmount amountMsat selfPayment / 1000 : Nat) : Int) ≤
      p.maxAmountSat - (usage / 1000 : Nat))

/-- The same for a budget that is counted in msats, at a given usage. Reference: none. -/
def SpendingExactMsat (amountMsat : Nat) (selfPayment : Bool) (usage : Nat) : Prop :=
  ∀ W env db app p balance, Accepts W env db amountMsat selfPayment app p balance usage →
    0 < p.maxAmountSat →
    ((exactAmount amountMsat selfPayment + usage : Nat) : Int) ≤ p.maxAmountSat * 1000

/-- The amounts that the check treats exactly. Reference: none. -/
structure SafeAmount (isolated budgeted : Bool) (amountMsat : Nat) (selfPayment : Bool) : Prop where
  isolated : isolated = true → unwrappedAmount amountMsat selfPayment < 2 ^ 63 ∧
    exactAmount amountMsat selfPayment ≤ unwrappedAmount amountMsat selfPayment
  budgeted : budgeted = true → unwrappedAmount amountMsat selfPayment < 2 ^ 64 ∧
    exactAmount amountMsat selfPayment / 1000 ≤ unwrappedAmount amountMsat selfPayment / 1000

section
variable {amountMsat : Nat} {selfPayment : Bool}

theorem ceilDiv_eq {n d k : Nat} (hlow : k * d < n + d) (hhigh : n ≤ k * d) :
    ceilDiv n d = k := by
  unfold ceilDiv
  refine Nat.div_eq_of_lt_le ?_ ?_
  · omega
  · rw [Nat.succ_mul]
    omega

/-- The unit in the last place of the product. Reference: none. -/
theorem unitExponent_product_le (ha : amountMsat ≤ 2 ^ 53) :
    unitExponent 53 (amountMsat * 5764607523034235) ≤ 53 := by
  unfold unitExponent
  rcases Nat.eq_zero_or_pos amountMsat with rfl | hpos
  · decide
  · have hlog : Nat.log2 (amountMsat * 5764607523034235) < 106 :=
      (Nat.log2_lt (by omega)).2 (by omega)
    omega

/-- Where the amount is no multiple of 100, half a unit moves the product over no whole number.
Reference: none. -/
theorem ceilDiv_of_near {r : Nat} (ha : amountMsat ≤ 2 ^ 53) (hj : 0 < amountMsat % 100)
    (hnear : 2 * r ≤ 2 * (amountMsat * 5764607523034235) + 2 ^ 53)
    (hnear' : 2 * (amountMsat * 5764607523034235) ≤ 2 * r + 2 ^ 53) :
    ceilDiv r (2 ^ 59) = amountMsat / 100 + 1 := by
  have hlow : (amountMsat / 100 + 1) * 2 ^ 59 < r + 2 ^ 59 := by omega
  have hhigh : r ≤ (amountMsat / 100 + 1) * 2 ^ 59 := by omega
  exact ceilDiv_eq hlow hhigh

/-- Up to `2 ^ 53` the product with the binary number closest to 0.01, rounded and then rounded up,
is the hundredth rounded up. Reference: `transactions/transactions_service.go:1216
CalculateFeeReserveMsat`. -/
theorem ceilDiv_roundBits (ha : amountMsat ≤ 2 ^ 53) :
    ceilDiv (roundBits 53 (amountMsat * 5764607523034235)) (2 ^ 59) = ceilDiv amountMsat 100 := by
  have he := unitExponent_product_le ha
  obtain ⟨hnear, hnear'⟩ := roundBits_near 53 (amountMsat * 5764607523034235)
  have hunit : 2 ^ unitExponent 53 (amountMsat * 5764607523034235) ≤ 2 ^ 53 :=
    Nat.pow_le_pow_right (by decide) he
  rcases Nat.eq_zero_or_pos (amountMsat % 100) with hj | hj
  · -- a multiple of 100 is less than half a unit away from the rounded product
    have hlt := @lt_two_pow_unitExponent 53 (amountMsat * 5764607523034235)
    rw [Nat.pow_add] at hlt
    have hpos := Nat.two_pow_pos (unitExponent 53 (amountMsat * 5764607523034235))
    have hround : roundBits 53 (amountMsat * 5764607523034235) = amountMsat / 100 * 2 ^ 59 := by
      refine roundBits_eq (Nat.dvd_mul_left_of_dvd (Nat.pow_dvd_pow 2 (by omega)) _) ?_ ?_
      · omega
      · omega
    have hexact : ceilDiv amountMsat 100 = amountMsat / 100 := ceilDiv_eq (by omega) (by omega)
    rw [hround, hexact]
    exact ceilDiv_eq (Nat.lt_add_of_pos_right (Nat.two_pow_pos 59)) (Nat.le_refl _)
  · have hexact : ceilDiv amountMsat 100 = amountMsat / 100 + 1 :=
      ceilDiv_eq (by omega) (by omega)
    rw [hexact]
    exact ceilDiv_of_near ha hj (Nat.le_trans hnear (Nat.add_le_add_left hunit _))
      (Nat.le_trans hnear' (Nat.add_le_add_left hunit _))

/-- Up to `2 ^ 53` the reserve is not rounded. Reference:
`transactions/transactions_service.go:1215 CalculateFeeReserveMsat`. -/
theorem CalculateFeeReserveMsat_eq (ha : amountMsat ≤ 2 ^ 53) :
    CalculateFeeReserveMsat amountMsat = exactFeeReserve amountMsat := by
  have hamount : roundBits 53 amountMsat = amountMsat := by
    rcases Nat.lt_or_ge amountMsat (2 ^ 53) with hlt | hge
    · exact roundBits_of_lt (by decide) hlt
    · rw [Nat.le_antisymm ha hge]
      decide
  rw [CalculateFeeReserveMsat, hamount, ceilDiv_roundBits ha, exactFeeReserve]

/-- The reserve of an amount of 64 bits fits in 63 bits. Reference:
`transactions/transactions_service.go:1215 CalculateFeeReserveMsat`. -/
theorem CalculateFeeReserveMsat_lt (ha : amountMsat < 2 ^ 64) :
    CalculateFeeReserveMsat amountMsat < 2 ^ 63 := by
  have hamount := roundBits_le (p := 53) (n := amountMsat) (by decide)
  have hproduct :=
    roundBits_le (p := 53) (n := roundBits 53 amountMsat * 5764607523034235) (by decide)
  unfold CalculateFeeReserveMsat ceilDiv
  omega

theorem amountWithFeeReserve_eq (ha : amountMsat < 2 ^ 64) :
    amountWithFeeReserve amountMsat selfPayment =
      uint64 (unwrappedAmount amountMsat selfPayment) := by
  unfold amountWithFeeReserve unwrappedAmount
  cases selfPayment with
  | false => rw [if_neg Bool.false_ne_true, if_neg Bool.false_ne_true]
  | true => rw [if_pos rfl, if_pos rfl, uint64_of_lt ha]

/-- The exact amount covers the payment, and so does the computed one, which is less than `2 ^ 63`
above it. Reference: none. -/
theorem unwrappedAmount_bounds (ha : amountMsat < 2 ^ 64) (selfPayment : Bool) :
    amountMsat ≤ exactAmount amountMsat selfPayment ∧
      unwrappedAmount amountMsat selfPayment < amountMsat + 2 ^ 63 := by
  unfold exactAmount unwrappedAmount
  have hreserve := CalculateFeeReserveMsat_lt ha
  cases selfPayment with
  | false => exact ⟨Nat.le_add_right _ _, Nat.add_lt_add_left hreserve _⟩
  | true => exact ⟨Nat.le_refl _, Nat.lt_add_of_pos_right (by decide)⟩

/-- The signed sum is at least the exact one only where it does not wrap, is not negative and is not
rounded down. Reference: `transactions/transactions_service.go:1164 validateCanPay`. -/
theorem exactAmount_le_int64 (ha : amountMsat < 2 ^ 64) :
    (exactAmount amountMsat selfPayment : Int) ≤
        int64 (amountWithFeeReserve amountMsat selfPayment) ↔
      unwrappedAmount amountMsat selfPayment < 2 ^ 63 ∧
        exactAmount amountMsat selfPayment ≤ unwrappedAmount amountMsat selfPayment := by
  obtain ⟨hle, hlt⟩ := unwrappedAmount_bounds ha selfPayment
  rw [amountWithFeeReserve_eq ha]
  generalize unwrappedAmount amountMsat selfPayment = y at *
  generalize exactAmount amountMsat selfPayment = x at *
  unfold int64 uint64
  omega

/-- Reference: `transactions/transactions_service.go:1193 validateCanPay`. -/
theorem exactAmount_div_le (ha : amountMsat < 2 ^ 64) :
    exactAmount amountMsat selfPayment / 1000 ≤
        amountWithFeeReserve amountMsat selfPayment / 1000 ↔
      unwrappedAmount amountMsat selfPayment < 2 ^ 64 ∧
        exactAmount amountMsat selfPayment / 1000 ≤
          unwrappedAmount amountMsat selfPayment / 1000 := by
  obtain ⟨hle, hlt⟩ := unwrappedAmount_bounds ha selfPayment
  rw [amountWithFeeReserve_eq ha]
  generalize unwrappedAmount amountMsat selfPayment = y at *
  generalize exactAmount amountMsat selfPayment = x at *
  unfold uint64
  omega

/-- What the check compares. Reference: `transactions/transactions_service.go:1133
validateCanPay`. -/
theorem validateCanPay_iff {W : World} {env : Env} {db : DB} {app : App} {p : AppPermission}
    {balance : Int} {usage appId : Nat} {description : String}
    (happ : db.findApp env.pickApp appId = some app)
    (hp : db.findPermission env.pickPermission appId "pay_invoice" = some p)
    (hbalance : GetIsolatedBalanceMsat db.transactions p.appId = .ok balance)
    (husage : GetBudgetUsageMsat W env.now db.transactions p = .ok usage) :
    (validateCanPay W env db (some appId) amountMsat description selfPayment).1 = .ok () ↔
      (app.isolated = true → int64 (amountWithFeeReserve amountMsat selfPayment) ≤ balance) ∧
      (0 < p.maxAmountSat → ((amountWithFeeReserve amountMsat selfPayment / 1000 : Nat) : Int) ≤
        p.maxAmountSat - (usage / 1000 : Nat)) := by
  have hisolated : (validateIsolatedBalance db app p
      (amountWithFeeReserve amountMsat selfPayment) description).1 = .ok () ↔
      int64 (amountWithFeeReserve amountMsat selfPayment) ≤ balance := by
    rw [validateIsolatedBalance, hbalance]
    simp only
    split
    · next hgt => exact ⟨nofun, fun hle => absurd hle (Int.not_le.2 hgt)⟩
    · next hle => exact ⟨fun _ => Int.not_lt.1 hle, fun _ => rfl⟩
  have hbudget : (validateBudget W env db app p
      (amountWithFeeReserve amountMsat selfPayment) description).1 = .ok () ↔
      ((amountWithFeeReserve amountMsat selfPayment / 1000 : Nat) : Int) ≤
        p.maxAmountSat - (usage / 1000 : Nat) := by
    rw [validateBudget, husage]
    simp only
    split
    · next hgt => exact ⟨nofun, fun hle => absurd hle (Int.not_le.2 hgt)⟩
    · next hle => exact ⟨fun _ => Int.not_lt.1 hle, fun _ => rfl⟩
  rw [validateCanPay]
  simp only [happ, hp]
  rw [← hisolated, ← hbudget]
  have hrest : (if p.maxAmountSat > 0 then validateBudget W env db app p
      (amountWithFeeReserve amountMsat selfPayment) description else (.ok (), [])).1 = .ok () ↔
      (0 < p.maxAmountSat → (validateBudget W env db app p
        (amountWithFeeReserve amountMsat selfPayment) description).1 = .ok ()) := by
    split
    · next hmax => exact ⟨fun h _ => h, fun h => h hmax⟩
    · next hmax => exact ⟨fun _ h => absurd h hmax, fun _ => rfl⟩
  split
  · next e events heq =>
    -- the balance does not cover the payment, so the app is isolated
    split at heq
    · next hiso => exact ⟨nofun, fun h => by rw [heq] at h; exact nomatch h.1 hiso⟩
    · cases heq
  · next events heq =>
    rw [hrest]
    refine ⟨fun h => ⟨fun hiso => ?_, h⟩, fun h => h.2⟩
    rw [if_pos hiso] at heq
    rw [heq]

/-- An accepted payment satisfies what the check compares. Reference:
`transactions/transactions_service.go:1133 validateCanPay`. -/
theorem Accepts.compares {W : World} {env : Env} {db : DB} {app : App} {p : AppPermission}
    {balance : Int} {usage : Nat}
    (h : Accepts W env db amountMsat selfPayment app p balance usage) :
    (app.isolated = true → int64 (amountWithFeeReserve amountMsat selfPayment) ≤ balance) ∧
      (0 < p.maxAmountSat → ((amountWithFeeReserve amountMsat selfPayment / 1000 : Nat) : Int) ≤
        p.maxAmountSat - (usage / 1000 : Nat)) := by
  obtain ⟨appId, description, happ, hp, haccepts⟩ := h.accepts
  exact (validateCanPay_iff happ hp h.balance h.usage).1 haccepts

/-! ## Every balance and usage is that of a ledger -/

/-- A ledger with one settled row of each type. Reference: none. -/
def ledgerTable (received spent : Nat) : Table where
  rows := [
    { id := 1, appId := some 1, type := .incoming, state := .settled, amountMsat := received },
    { id := 2, appId := some 1, type := .outgoing, state := .settled, amountMsat := spent }]
  nextId := 3
  next_pos := by decide
  id_pos := by simp
  id_lt := by simp
  sorted := by simp

/-- The database of one app with this ledger. Reference: none. -/
def ledgerDB (isolated : Bool) (maxAmountSat : Int) (received spent : Nat) : DB where
  transactions := ledgerTable received spent
  apps := [⟨1, "", isolated, none⟩]
  permissions := [{ appId := 1, scope := "pay_invoice", maxAmountSat }]
  apps_nodup := by simp

theorem accepts_ledger {isolated : Bool} {maxAmountSat : Int} {received spent : Nat}
    (hreceived : received < 2 ^ 63) (hspent : spent < 2 ^ 63) (hmax : maxAmountSat < 2 ^ 63)
    (hbalance : isolated = true →
      int64 (amountWithFeeReserve amountMsat selfPayment) ≤ received - spent)
    (hbudget : 0 < maxAmountSat →
    ((amountWithFeeReserve amountMsat selfPayment / 1000 : Nat) : Int) ≤
      maxAmountSat - (spent / 1000 : Nat)) :
    Accepts demo {} (ledgerDB isolated maxAmountSat received spent) amountMsat selfPayment
      ⟨1, "", isolated, none⟩ { appId := 1, scope := "pay_invoice", maxAmountSat }
      (received - spent) spent := by
  have hb : GetIsolatedBalanceMsat (ledgerTable received spent) 1 =
      .ok ((received : Int) - spent) := by
    have hr : (ledgerTable received spent).received 1 = received := by
      simp [Table.received, ledgerTable, Transaction.ReceivedBy]
    have hs : (ledgerTable received spent).spent 1 = spent := by
      simp [Table.spent, ledgerTable, Transaction.SpentBy, Transaction.charge]
    rw [GetIsolatedBalanceMsat, hr, hs, if_pos ⟨hreceived, hspent⟩]
  have hu : GetBudgetUsageMsat demo 0 (ledgerTable received spent)
      { appId := 1, scope := "pay_invoice", maxAmountSat } = .ok spent := by
    have hstart : getStartOfBudget demo 0 "" < 0 := by decide
    have hlimit : spent < 9223372036854775808 := by simpa using hspent
    simp [GetBudgetUsageMsat, ledgerTable, Transaction.SpentBy, Transaction.charge, hstart, hlimit]
  exact ⟨hb, hu, hmax, 1, "", rfl, rfl, (validateCanPay_iff rfl rfl hb hu).2 ⟨hbalance, hbudget⟩⟩

theorem int64_bounds (n : Nat) : -2 ^ 63 ≤ int64 n ∧ int64 n < 2 ^ 63 := by
  unfold int64
  omega

theorem amountWithFeeReserve_lt (ha : amountMsat < 2 ^ 64) (selfPayment : Bool) :
    amountWithFeeReserve amountMsat selfPayment < 2 ^ 64 := by
  rw [amountWithFeeReserve_eq ha]
  exact Nat.mod_lt _ (by decide)

/-- A payment of less than the least reserve is a self-payment, which is not rounded. Reference:
`transactions/transactions_service.go:1135 validateCanPay`. -/
theorem exactAmount_eq_of_lt (h : exactAmount amountMsat selfPayment < 10000) :
    exactAmount amountMsat selfPayment = amountMsat ∧
      amountWithFeeReserve amountMsat selfPayment = amountMsat := by
  unfold exactAmount at *
  unfold amountWithFeeReserve
  cases selfPayment with
  | true => exact ⟨if_pos rfl, if_pos rfl⟩
  | false =>
    have hreserve : 10000 ≤ exactFeeReserve amountMsat := Nat.le_max_right _ _
    rw [if_neg Bool.false_ne_true] at h
    omega

/-- An isolated app with a balance that the wrapped sum does not exceed. Reference:
`transactions/transactions_service.go:1164 validateCanPay`. -/
theorem SpendingExact.isolated {budgeted : Bool} (ha : amountMsat < 2 ^ 64)
    (hexact : SpendingExact true budgeted amountMsat selfPayment) :
    unwrappedAmount amountMsat selfPayment < 2 ^ 63 ∧
      exactAmount amountMsat selfPayment ≤ unwrappedAmount amountMsat selfPayment := by
  rw [← exactAmount_le_int64 ha]
  by_contra hlt
  have hlt := Int.not_le.1 hlt
  have hbounds := int64_bounds (amountWithFeeReserve amountMsat selfPayment)
  have hsum := amountWithFeeReserve_lt ha selfPayment
  -- a budget, if there is one, is large enough for every sum
  obtain ⟨m, hm, hbudgeted, hlarge⟩ : ∃ m : Int, m < 2 ^ 63 ∧ decide (0 < m) = budgeted ∧
      (0 < m → 2 ^ 62 ≤ m) := by
    cases budgeted with
    | false => exact ⟨0, by decide, rfl, nofun⟩
    | true => exact ⟨2 ^ 62, by decide, rfl, fun _ => Int.le_refl _⟩
  have haccepts := @accepts_ledger amountMsat selfPayment true m
    (int64 (amountWithFeeReserve amountMsat selfPayment)).toNat 0
    (by omega) (by omega) hm (fun _ => by omega)
    (fun hpos => by have := hlarge hpos; omega)
  have hle := (hexact _ _ _ _ _ _ _ haccepts rfl hbudgeted).1 rfl
  obtain ⟨heq, hself⟩ := @exactAmount_eq_of_lt amountMsat selfPayment (by omega)
  rw [heq, hself] at hlt
  rw [int64_of_lt (by omega)] at hlt
  exact absurd hlt (Int.lt_irrefl _)

/-- A budget that the wrapped sum does not exceed. Reference:
`transactions/transactions_service.go:1193 validateCanPay`. -/
theorem SpendingExact.budgeted {isolated : Bool} (ha : amountMsat < 2 ^ 64)
    (hexact : SpendingExact isolated true amountMsat selfPayment) :
    unwrappedAmount amountMsat selfPayment < 2 ^ 64 ∧
      exactAmount amountMsat selfPayment / 1000 ≤
        unwrappedAmount amountMsat selfPayment / 1000 := by
  rw [← exactAmount_div_le ha]
  by_contra hlt
  have hlt := Nat.not_le.1 hlt
  have hbounds := int64_bounds (amountWithFeeReserve amountMsat selfPayment)
  have hsum := amountWithFeeReserve_lt ha selfPayment
  have haccepts := @accepts_ledger amountMsat selfPayment isolated
    (max 1 (amountWithFeeReserve amountMsat selfPayment / 1000 : Nat)) (2 ^ 63 - 1) 0
    (by omega) (by omega) (by omega) (fun _ => by omega) (fun _ => by omega)
  have hle : ((exactAmount amountMsat selfPayment / 1000 : Nat) : Int) ≤
      max 1 ((amountWithFeeReserve amountMsat selfPayment / 1000 : Nat) : Int) -
        (0 / 1000 : Nat) :=
    (hexact _ _ _ _ _ _ _ haccepts rfl (by simp)).2 rfl
  obtain ⟨heq, hself⟩ := @exactAmount_eq_of_lt amountMsat selfPayment (by omega)
  rw [heq, hself] at hlt
  exact absurd hlt (Nat.lt_irrefl _)

/-- Reference: `transactions/transactions_service.go:1164 validateCanPay`. -/
theorem spendingExact_iff {isolated budgeted : Bool} (ha : amountMsat < 2 ^ 64) :
    SpendingExact isolated budgeted amountMsat selfPayment ↔
      SafeAmount isolated budgeted amountMsat selfPayment := by
  constructor
  · intro hexact
    refine ⟨fun hiso => ?_, fun hbud => ?_⟩
    · subst hiso
      exact hexact.isolated ha
    · subst hbud
      exact hexact.budgeted ha
  · rintro ⟨hiso, hbud⟩ W env db app p balance usage haccepts happ hp
    obtain ⟨hbalance, hbudget⟩ := haccepts.compares
    refine ⟨fun h => ?_, fun h => ?_⟩
    · exact Int.le_trans ((exactAmount_le_int64 ha).2 (hiso h)) (hbalance (happ.trans h))
    · have hmax : 0 < p.maxAmountSat := of_decide_eq_true (hp.trans h)
      have hdiv := (exactAmount_div_le ha).2 (hbud h)
      have := hbudget hmax
      omega

/-- Reference: `transactions/transactions_service.go:1193 validateCanPay`. -/
theorem spendingExactMsat_iff {usage : Nat} (ha : amountMsat < 2 ^ 64) (husage : usage < 2 ^ 63) :
    SpendingExactMsat amountMsat selfPayment usage ↔
      exactAmount amountMsat selfPayment + usage ≤
        max 1 (amountWithFeeReserve amountMsat selfPayment / 1000 + usage / 1000) * 1000 := by
  constructor
  · intro hexact
    have hsum := amountWithFeeReserve_lt ha selfPayment
    -- the smallest budget that the check accepts the amount for
    have haccepts := @accepts_ledger amountMsat selfPayment false
      (max 1 (amountWithFeeReserve amountMsat selfPayment / 1000 + usage / 1000) : Nat) 0 usage
      (by decide) husage (by omega) nofun (fun _ => by omega)
    have hle : ((exactAmount amountMsat selfPayment + usage : Nat) : Int) ≤
        (max 1 (amountWithFeeReserve amountMsat selfPayment / 1000 + usage / 1000) : Nat) * 1000 :=
      hexact _ _ _ _ _ _ haccepts (Int.natCast_pos.2 (Nat.lt_of_lt_of_le Nat.zero_lt_one
        (Nat.le_max_left _ _)))
    omega
  · intro hle W env db app p balance haccepts hmax
    have hbudget := haccepts.compares.2 hmax
    omega

/-- The check accepts an amount for an app of a kind only where it is covered exactly on the amounts
that are safe for the kind, which those up to `2 ^ 53` all are. A budget that is counted in msats is
kept exactly where the sats that are rounded away leave room for the msats. Reference:
`transactions/transactions_service.go:1133 validateCanPay`. -/
theorem spending_check_iff (amountMsat : Nat) (selfPayment : Bool) (ha : amountMsat < 2 ^ 64) :
    (∀ isolated budgeted, SpendingExact isolated budgeted amountMsat selfPayment ↔
      SafeAmount isolated budgeted amountMsat selfPayment) ∧
    (amountMsat ≤ 2 ^ 53 →
      ∀ isolated budgeted, SafeAmount isolated budgeted amountMsat selfPayment) ∧
    ∀ usage < 2 ^ 63, SpendingExactMsat amountMsat selfPayment usage ↔
      exactAmount amountMsat selfPayment + usage ≤
        max 1 (amountWithFeeReserve amountMsat selfPayment / 1000 + usage / 1000) * 1000 := by
  refine ⟨fun isolated budgeted => spendingExact_iff ha, fun hsmall isolated budgeted => ?_,
    fun usage husage => spendingExactMsat_iff ha husage⟩
  have heq : exactAmount amountMsat selfPayment = unwrappedAmount amountMsat selfPayment := by
    rw [exactAmount, unwrappedAmount, CalculateFeeReserveMsat_eq hsmall]
  have hlt : unwrappedAmount amountMsat selfPayment < 2 ^ 63 := by
    rw [unwrappedAmount, CalculateFeeReserveMsat_eq hsmall, exactFeeReserve, ceilDiv]
    split <;> omega
  exact ⟨fun _ => ⟨hlt, Nat.le_of_eq heq⟩,
    fun _ => ⟨Nat.lt_trans hlt (by decide), Nat.le_of_eq (by rw [heq])⟩⟩

theorem spending_check_exact_small :
    SpendingExact true false 21000000 false ∧ SpendingExact false true 21000000 false := by
  obtain ⟨hexact, hsmall, -⟩ := spending_check_iff 21000000 false (by decide)
  have hsafe := hsmall (by decide)
  exact ⟨(hexact true false).2 (hsafe true false), (hexact false true).2 (hsafe false true)⟩

/-- The largest amount that the database stores is accepted for an isolated app without a balance,
as its sum with the reserve is negative. Reference: `transactions/transactions_service.go:1164
validateCanPay`. -/
theorem largest_amount_accepted :
    (validateCanPay demo {} (ledgerDB true 0 0 0) (some 1) 9223372036854775807 "" false).1 =
      .ok () ∧
      GetIsolatedBalanceMsat (ledgerTable 0 0) 1 = .ok 0 ∧
      ¬ SpendingExact true false 9223372036854775807 false := by
  have haccepted : (validateCanPay demo {} (ledgerDB true 0 0 0) (some 1) 9223372036854775807 ""
      false).1 = .ok () := by decide +kernel
  have hbalance : GetIsolatedBalanceMsat (ledgerTable 0 0) 1 = .ok 0 := by decide +kernel
  refine ⟨haccepted, hbalance, fun hexact => ?_⟩
  have haccepts : Accepts demo {} (ledgerDB true 0 0 0) 9223372036854775807 false
      ⟨1, "", true, none⟩ { appId := 1, scope := "pay_invoice" } 0 0 :=
    ⟨hbalance, by decide +kernel, by decide, 1, "", rfl, rfl, haccepted⟩
  have hcovered := (hexact _ _ _ _ _ _ _ haccepts rfl rfl).1 rfl
  exact absurd hcovered (by decide +kernel)

end

end AlbyHub
