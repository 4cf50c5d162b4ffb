import AlbyHub.Transactions.Solvency
import Mathlib.Algebra.Order.BigOperators.Group.List
import Mathlib.Algebra.Order.Ring.Nat

/-!
# The budget of a permission

The usage of a budget is the sum of the charges of the app's payments since the start of the current
window. It is checked in whole sats, the new amount and the usage rounded down each, and a payment
to the own node is checked without the reserve it is stored with. `budgetedSteps` is the policy
under which all amounts are of whole sats, or the budget has room for what the check does not see;
`budget_not_exceeded` says that the usage is then within the budget at every moment. A moment is an
instant of no earlier window than those in which the app's rows were created.
-/

namespace AlbyHub

open Go Interaction

/-- The weight of a row in what the app spent after `start`. Reference:
`db/queries/get_budget_usage.go:17`. -/
def Transaction.usedSince (appId : Nat) (start : Time) (r : Transaction) : Nat :=
  if r.SpentBy appId ∧ start < r.createdAt then r.charge else 0

/-- What the app spent after `start`. Reference: `db/queries/get_budget_usage.go:15`. -/
def Table.usageSince (t : Table) (appId : Nat) (start : Time) : Nat :=
  t.sum (·.usedSince appId start)

/-- The start of the permission's window. Reference:
`db/queries/get_budget_usage.go:25 getStartOfBudget`. -/
def AppPermission.start (p : AppPermission) (W : World) (now : Time) : Time :=
  getStartOfBudget W now p.budgetRenewal

/-- No row of the app was created in a later window than that of `now`. Reference: none. -/
def Table.Moment (t : Table) (W : World) (p : AppPermission) (now : Time) : Prop :=
  ∀ r ∈ t.rows, r.appId = some p.appId → p.start W r.createdAt ≤ p.start W now

/-- At every moment the usage is within the budget. Reference: none. -/
def Table.WithinBudget (t : Table) (W : World) (p : AppPermission) : Prop :=
  ∀ now, t.Moment W p now → (t.usageSince p.appId (p.start W now) : Int) ≤ p.maxAmountSat * 1000

/-- What the check of a payment does not see: the reserve of a payment to the own node, and the
rest below a sat of the usage and of the checked amount. Reference:
`transactions/transactions_service.go:1134 validateCanPay`, `:1193`. -/
def uncheckedMsat (usageMsat amountMsat : Nat) (selfPayment : Bool) : Nat :=
  (if selfPayment then CalculateFeeReserveMsat amountMsat else 0) +
    if usageMsat % 1000 = 0 ∧ amountWithFeeReserve amountMsat selfPayment % 1000 = 0 then 0
    else 2000

/-- The check sees all of the payment, or the whole sats that it leaves have room for the rest.
Reference: `transactions/transactions_service.go:1193 validateCanPay`. -/
def Table.CheckSuffices (t : Table) (W : World) (p : AppPermission) (now : Time) (amountMsat : Nat)
    (selfPayment : Bool) : Prop :=
  let usageMsat := t.usageSince p.appId (p.start W now)
  let leftSat := p.maxAmountSat - (usageMsat / 1000 : Nat) -
    (amountWithFeeReserve amountMsat selfPayment / 1000 : Nat)
  uncheckedMsat usageMsat amountMsat selfPayment = 0 ∨
    (uncheckedMsat usageMsat amountMsat selfPayment : Int) ≤ leftSat * 1000

/-- A settlement of the row takes at most its reserve, and the row did not fail. Reference:
`transactions/transactions_service.go:1477 markTransactionSettled`. -/
def Transaction.SettlesWithin (t : Table) (feeMsat : Nat) (r : Transaction) : Prop :=
  (r.state = .pending → feeMsat ≤ r.feeReserveMsat) ∧
    (r.state = .failed → t.select r.settledFilter ≠ [])

/-- The command, after which the table is `t'`, inserts a payment of the app at a moment, for which
the check suffices, or settles one within its reserve. Reference: none. -/
def budgetedCall (W : World) (p : AppPermission) (t t' : Table) (now : Time) : Cmd → Prop
  | .sendPaymentTx a => t.Inserts t' → a.appId = some p.appId →
    t.Moment W p now ∧ t.CheckSuffices W p now a.paymentAmountMsat a.selfPayment
  | .sendKeysendTx row => t.Inserts t' → row.appId = some p.appId →
    t.Moment W p now ∧ t.CheckSuffices W p now row.amountMsat row.selfPayment
  | .markTransactionSettledTx row _ feeMsat _ => ∀ r ∈ t.rows, r.id = row.id →
    r.appId = some p.appId ∧ r.type = .outgoing → r.SettlesWithin t feeMsat
  | _ => True

/-- Every command takes what the check covers, and the sums fit. Reference: none. -/
def budgetedSteps (W : World) (p : AppPermission) : Policy where
  call _ _ s c env := ∀ x ∈ exec W s c env,
    budgetedCall W p s.db.transactions x.2.db.transactions env.now c ∧
      x.2.db.transactions.SumsFit p.appId

section
variable (W : World) (p : AppPermission) (t t' : Table)

instance (now : Time) : Decidable (t.Moment W p now) :=
  inferInstanceAs (Decidable (∀ r ∈ t.rows, _ → _))

instance (now : Time) (amountMsat : Nat) (selfPayment : Bool) :
    Decidable (t.CheckSuffices W p now amountMsat selfPayment) :=
  inferInstanceAs (Decidable (_ ∨ _))

instance (feeMsat : Nat) (r : Transaction) : Decidable (r.SettlesWithin t feeMsat) :=
  inferInstanceAs (Decidable (_ ∧ _))

instance (now : Time) (c : Cmd) : Decidable (budgetedCall W p t t' now c) := by
  induction c using Cmd.casesOn with
  | sendPaymentTx => exact inferInstanceAs (Decidable (_ → _ → _))
  | sendKeysendTx => exact inferInstanceAs (Decidable (_ → _ → _))
  | markTransactionSettledTx => exact inferInstanceAs (Decidable (∀ r ∈ _, _ → _ → _))
  | _ => exact isTrue trivial

instance (op : Op) (h : History) (s : Hub) (c : Cmd) (env : Env) :
    Decidable ((budgetedSteps W p).call op h s c env) :=
  inferInstanceAs (Decidable (∀ x ∈ exec W s c env, _ ∧ _))

instance (cfg : Pool) (op : Op) : Decidable ((budgetedSteps W p).spawn cfg op) := isTrue trivial

instance (cfg : Pool) : Decidable ((budgetedSteps W p).restart cfg) := isTrue trivial

end

/-- The permission is the app's limit for payments: every permission of the app to pay has its
budget. Reference: `apps/apps_service.go:116 CreateApp`, which gives all rows one budget. -/
def DB.Limits (db : DB) (p : AppPermission) : Prop :=
  ∀ q ∈ db.permissions, q.appId = p.appId → q.scope = "pay_invoice" →
    q.maxAmountSat = p.maxAmountSat ∧ q.budgetRenewal = p.budgetRenewal

section
variable {W : World} {env : Env} {db : DB} {t : Table} {p : AppPermission} {now : Time}
variable {appId id : Nat} {start start' : Time} {r row : Transaction} {u : Update}

/-- The query is the sum of the weights. Reference:
`db/queries/get_budget_usage.go:11 GetBudgetUsageMsat`. -/
theorem GetBudgetUsageMsat_ok {usageMsat : Nat} (h : GetBudgetUsageMsat W now t p = .ok usageMsat) :
    usageMsat = t.usageSince p.appId (p.start W now) := by
  have hsum := sum_filter
    (fun r => r.SpentBy p.appId ∧ getStartOfBudget W now p.budgetRenewal < r.createdAt)
    (·.charge) t.rows
  simp only [GetBudgetUsageMsat] at h
  split at h
  · cases h
    exact hsum
  · cases h

/-- A row weighs at most its charge. Reference: none. -/
theorem Transaction.usedSince_le : r.usedSince appId start ≤ r.charge := by
  unfold Transaction.usedSince
  split
  · exact le_refl _
  · exact Nat.zero_le _

theorem Transaction.usedSince_eq_zero (h : ¬ r.SpentBy appId) : r.usedSince appId start = 0 :=
  if_neg fun hs => h hs.1

/-- A later start counts fewer rows. Reference: none. -/
theorem Transaction.usedSince_anti (h : start ≤ start') :
    r.usedSince appId start' ≤ r.usedSince appId start := by
  unfold Transaction.usedSince
  by_cases hs : r.SpentBy appId ∧ start' < r.createdAt
  · rw [if_pos hs, if_pos ⟨hs.1, Int.lt_of_le_of_lt h hs.2⟩]
  · rw [if_neg hs]
    exact Nat.zero_le _

theorem Table.usageSince_anti (appId : Nat) (h : start ≤ start') :
    t.usageSince appId start' ≤ t.usageSince appId start :=
  List.sum_le_sum fun _ _ => Transaction.usedSince_anti h

/-- A payment is inserted only if the budget takes it in whole sats. Reference:
`transactions/transactions_service.go:1188 validateCanPay`. -/
theorem validateCanPay_budget {amountMsat : Nat} {description : String} {selfPayment : Bool}
    (hpos : 0 < p.appId) (hmax : 0 < p.maxAmountSat) (hlim : db.Limits p)
    (h : (validateCanPay W env db (some p.appId) amountMsat description selfPayment).1 = .ok ()) :
    (amountWithFeeReserve amountMsat selfPayment / 1000 : Nat) ≤ p.maxAmountSat -
      (db.transactions.usageSince p.appId (p.start W env.now) / 1000 : Nat) := by
  have hne : p.appId ≠ 0 := Nat.pos_iff_ne_zero.1 hpos
  simp only [validateCanPay] at h
  split at h
  · cases h
  · next app hfind =>
    split at h
    · cases h
    · next q hperm =>
      -- the permission that is found has the budget of `p`
      have hmem := List.mem_filter.1 (mem_of_pick hperm)
      have hq := hmem.2
      simp only [hne, false_or, decide_eq_true_eq] at hq
      obtain ⟨hqmax, hqren⟩ := hlim q hmem.1 hq.1 hq.2
      split at h
      · cases h
      · rw [hqmax, if_pos hmax] at h
        unfold validateBudget at h
        split at h
        · cases h
        · next usageMsat husage =>
          have heq := GetBudgetUsageMsat_ok husage
          rw [AppPermission.start, hqren, hq.1] at heq
          split at h
          · cases h
          · next hle =>
            rw [hqmax, heq] at hle
            exact Int.not_lt.1 hle

/-- A payment that passed the check, which suffices for it, is covered with its reserve. Reference:
`transactions/transactions_service.go:1193 validateCanPay`. -/
theorem Table.CheckSuffices.covered {amountMsat : Nat} {selfPayment : Bool}
    (h : t.CheckSuffices W p now amountMsat selfPayment)
    (hfits : amountMsat + CalculateFeeReserveMsat amountMsat < 2 ^ 64)
    (hcheck : (amountWithFeeReserve amountMsat selfPayment / 1000 : Nat) ≤ p.maxAmountSat -
      (t.usageSince p.appId (p.start W now) / 1000 : Nat)) :
    (t.usageSince p.appId (p.start W now) + amountMsat + CalculateFeeReserveMsat amountMsat : Nat) ≤
      p.maxAmountSat * 1000 := by
  have hall : amountMsat + CalculateFeeReserveMsat amountMsat =
      amountWithFeeReserve amountMsat selfPayment +
        if selfPayment then CalculateFeeReserveMsat amountMsat else 0 := by
    cases selfPayment with
    | false =>
      rw [amountWithFeeReserve, if_neg Bool.false_ne_true, uint64_of_lt hfits]
      simp
    | true => rw [amountWithFeeReserve, if_pos rfl, if_pos rfl]
  clear hfits
  simp only [Table.CheckSuffices, uncheckedMsat] at h
  generalize t.usageSince p.appId (p.start W now) = usageMsat at h hcheck ⊢
  generalize amountWithFeeReserve amountMsat selfPayment = checkedMsat at h hcheck hall
  generalize (if selfPayment then CalculateFeeReserveMsat amountMsat else 0) = reserveMsat at h hall
  by_cases hwhole : usageMsat % 1000 = 0 ∧ checkedMsat % 1000 = 0
  · rw [if_pos hwhole] at h
    omega
  · -- the rest below a sat of each of the two is at most 999 msat
    rw [if_neg hwhole] at h
    omega

/-- A moment after an insertion was one before it. Reference: none. -/
theorem Table.Moment.of_create {now' : Time} (h : (t.create now' row).Moment W p now) :
    t.Moment W p now :=
  fun r hr => h r (Table.mem_create.2 (.inl hr))

/-- A moment after an update was one before it. Reference: none. -/
theorem Table.Moment.of_update (h : (t.update id u).Moment W p now) : t.Moment W p now := by
  intro r hr happ
  have hid := Table.updateRow_identity id u r
  have hmom := h _ (Table.mem_update.2 ⟨r, hr, rfl⟩) ((congrArg Identity.appId hid).trans happ)
  rw [show (Table.updateRow id u r).createdAt = r.createdAt from congrArg Identity.createdAt hid]
    at hmom
  exact hmom

/-- A new row that does not count. Reference: none. -/
theorem Table.WithinBudget.create {now' : Time} (h : t.WithinBudget W p)
    (hrow : ¬ row.SpentBy p.appId) : (t.create now' row).WithinBudget W p := by
  intro now hnow
  have hzero : (t.created now' row).usedSince p.appId (p.start W now) = 0 :=
    Transaction.usedSince_eq_zero hrow
  have hold := h now hnow.of_create
  rw [Table.usageSince, Table.sum_create, hzero, Nat.add_zero]
  exact hold

/-- An update that counts no more. Reference: none. -/
theorem Table.WithinBudget.update (h : t.WithinBudget W p)
    (hu : ∀ r ∈ t.rows, r.id = id → ∀ start,
      (u r).usedSince p.appId start ≤ r.usedSince p.appId start) :
    (t.update id u).WithinBudget W p := by
  intro now hnow
  have hold := h now hnow.of_update
  refine Int.le_trans (Int.ofNat_le.2 ?_) hold
  by_cases hex : ∃ r ∈ t.rows, r.id = id
  · obtain ⟨r, hr, rfl⟩ := hex
    have hsum := Table.sum_update (w := (·.usedSince p.appId (p.start W now))) (u := u) hr
    have hle := hu r hr rfl (p.start W now)
    unfold Table.usageSince
    omega
  · exact (Table.sum_update_of_not_mem fun r hr hid => hex ⟨r, hr, hid⟩).le

/-- An update after which the row does not count. Reference: none. -/
theorem Table.WithinBudget.release (h : t.WithinBudget W p)
    (hu : ∀ r ∈ t.rows, r.id = id → ¬ (u r).SpentBy p.appId) :
    (t.update id u).WithinBudget W p :=
  h.update fun r hr hid _ => by
    rw [Transaction.usedSince_eq_zero (hu r hr hid)]
    exact Nat.zero_le _

/-- The insertion of a payment that passed the check. Reference:
`transactions/transactions_service.go:387 SendPaymentSync`, `:507 SendKeysend`. -/
theorem Table.WithinBudget.pay {description : String} (h : db.transactions.WithinBudget W p)
    (hpos : 0 < p.appId) (hmax : 0 < p.maxAmountSat) (hlim : db.Limits p)
    (hpay : (validateCanPay W env db row.appId row.amountMsat description row.selfPayment).1 =
      .ok ())
    (hfee : row.feeMsat = 0)
    (hreserve : row.feeReserveMsat = CalculateFeeReserveMsat row.amountMsat)
    (hstore : row.Storable)
    (hcov : row.appId = some p.appId → db.transactions.Moment W p env.now ∧
      db.transactions.CheckSuffices W p env.now row.amountMsat row.selfPayment) :
    (db.transactions.create env.now row).WithinBudget W p := by
  by_cases happ : row.appId = some p.appId
  · intro now hnow
    -- the new row belongs to the window of its insertion, which starts no later than this one
    have hstart : p.start W env.now ≤ p.start W now :=
      hnow (db.transactions.created env.now row) (Table.mem_create.2 (.inr rfl)) happ
    have hcharge : (db.transactions.created env.now row).usedSince p.appId (p.start W now) ≤
        row.amountMsat + CalculateFeeReserveMsat row.amountMsat := by
      refine Transaction.usedSince_le.trans ?_
      rw [Transaction.charge]
      exact (show row.amountMsat + row.feeMsat + row.feeReserveMsat = _ by rw [hfee, hreserve,
        Nat.add_zero]).le
    have hmono := db.transactions.usageSince_anti p.appId hstart
    rw [happ] at hpay
    have hfits : row.amountMsat + CalculateFeeReserveMsat row.amountMsat < 2 ^ 64 := by
      have hamount := hstore.1
      have hreserved := hstore.2.2
      omega
    have hcovers := (hcov happ).2.covered hfits (validateCanPay_budget hpos hmax hlim hpay)
    refine Int.le_trans (Int.ofNat_le.2 ?_) hcovers
    rw [Table.usageSince, Table.sum_create]
    unfold Table.usageSince at hmono ⊢
    omega
  · exact h.create fun hs => happ hs.1

/-- The settlement of a row within its reserve. Reference:
`transactions/transactions_service.go:1477 markTransactionSettled`. -/
theorem Table.WithinBudget.settle {preimage : String} {feeMsat : Nat} {selfPayment : Bool}
    (h : t.WithinBudget W p) (hr : r ∈ t.rows) (hn : t.select r.settledFilter = [])
    (haccepted : r.appId = some p.appId → r.type = .outgoing → r.state ≠ .accepted)
    (hwithin : r.appId = some p.appId ∧ r.type = .outgoing → r.SettlesWithin t feeMsat) :
    (t.update r.id (settleUpdate preimage feeMsat selfPayment now)).WithinBudget W p := by
  have hns : r.state ≠ .settled := Table.not_settled_of_select (.of_mem hr) hn hr rfl
  have only : ∀ r' ∈ t.rows, r'.id = r.id → r' = r := fun r' hr' hid => Table.eq_of_id hr' hr hid
  by_cases hout : r.appId = some p.appId ∧ r.type = .outgoing
  · cases hst : r.state with
    | settled => exact absurd hst hns
    | accepted => exact absurd hst (haccepted hout.1 hout.2)
    | failed => exact absurd hn ((hwithin hout).2 hst)
    | pending =>
      have hfee := (hwithin hout).1 hst
      refine h.update fun r' hr' hid start => ?_
      rw [only r' hr' hid]
      by_cases hlt : start < r.createdAt
      · have hold : r.usedSince p.appId start = r.charge :=
          if_pos ⟨⟨hout.1, hout.2, .inr hst⟩, hlt⟩
        rw [hold]
        refine Transaction.usedSince_le.trans ?_
        show r.amountMsat + feeMsat + 0 ≤ r.amountMsat + r.feeMsat + r.feeReserveMsat
        omega
      · have hzero : (settleUpdate preimage feeMsat selfPayment now r).usedSince p.appId start =
            0 :=
          if_neg fun hs => hlt hs.2
        rw [hzero]
        exact Nat.zero_le _
  · refine h.release fun r' hr' hid hs => ?_
    rw [only r' hr' hid] at hs
    exact hout ⟨hs.1, hs.2.1⟩

end

/-- The invariant of the hub: the limits stay, no payment of the app waits as a hold invoice does,
and the usage is within the budget. Reference: none. -/
structure Hub.Budgeted (W : World) (p : AppPermission) (s : Hub) : Prop where
  limits : s.db.Limits p
  outgoing : ∀ r ∈ s.db.transactions.rows, r.appId = some p.appId → r.type = .outgoing →
    r.state ≠ .accepted
  within : s.db.transactions.WithinBudget W p

section
variable {W : World} {env : Env} {s s' : Hub} {c : Cmd} {a : c.Ans} {h : History}
variable {p : AppPermission}

/-- A budgeted command keeps the usage within the budget. Reference: none. -/
theorem exec_budgeted (hpos : 0 < p.appId) (hmax : 0 < p.maxAmountSat) (hi : s.Budgeted W p)
    (hk : ∀ call ∈ h, KnownRows call s) (hc : SourcedBy h c)
    (hb : budgetedCall W p s.db.transactions s'.db.transactions env.now c)
    (hx : exec W s c env = some (a, s')) :
    s'.db.transactions.WithinBudget W p := by
  have hsourced := hc.sourced hk
  generalize s'.db.transactions = t', exec_effect hx = he at hb ⊢
  cases he with
  | same => exact hi.within
  | create =>
    refine hi.within.create fun hs => ?_
    have hty := hs.2.1
    rw [hc.2] at hty
    cases hty
  | @sendPayment args hstore _ hpay =>
    have hpay : (validateCanPay W env s.db (args.row env.now).appId (args.row env.now).amountMsat
      args.paymentRequest.description (args.row env.now).selfPayment).1 = .ok () := hpay
    exact hi.within.pay hpos hmax hi.limits hpay rfl rfl hstore (hb (Table.inserts_create ..))
  | sendKeysend hstore hpay =>
    obtain ⟨k, rfl⟩ := hc
    exact hi.within.pay hpos hmax hi.limits hpay rfl rfl hstore (hb (Table.inserts_create ..))
  | settle hn =>
    obtain ⟨r, hr, hid⟩ := hsourced
    have hrid := Transaction.id_of_identity hid
    rw [← hrid]
    rw [← Transaction.settledFilter_congr (Transaction.payment_of_identity hid)] at hn
    exact hi.within.settle hr hn (hi.outgoing r hr) fun hout => hb r hr hrid hout
  | @createSettled row =>
    -- an outgoing row of a notification is charged to no app
    refine hi.within.create fun hs => ?_
    have hnone : row.appId = none := hc.2 hs.2.1
    have happ : row.appId = some p.appId := hs.1
    rw [hnone] at happ
    cases happ
  | fail => exact hi.within.release fun r _ _ hs => by simpa [failUpdate] using hs.2.2
  | accept => exact hi.within.release fun r _ _ hs => by simpa [acceptUpdate] using hs.2.2
  | updateMetadata => exact hi.within.update fun r _ _ _ => le_refl _

/-- Budgeted steps keep the app within its budget. Reference: none. -/
theorem budgeted_sound (W : World) (hpos : 0 < p.appId) (hmax : 0 < p.maxAmountSat) :
    Sound (exec W) (body W) (budgetedSteps W p).allowed (fun _ => SourcedBy)
      (fun _ => anyResult) (budgetedSteps W p).call (Hub.Budgeted W p) (fun _ => KnownRows) where
  body := body_sourced W
  obeys cfg i e op h c k ha hi := ha op h c k hi
  step op h s c e a s' hi hk hc hp hx := by
    obtain ⟨hstep, hrows, hold⟩ := exec_sourced hk hc hx
    have hlimits : s'.db.Limits p := by
      rw [DB.Limits, (exec_sameApps hx).1]
      exact hi.limits
    have hbudgeted := exec_budgeted hpos hmax hi hk hc (hp _ hx).1 hx
    exact ⟨⟨hlimits, hstep.not_accepted hi.outgoing, hbudgeted⟩, hrows, fun _ => hold⟩

end

/-- An app with the budget `p` for its payments, to which no row belongs yet. Reference:
`apps/apps_service.go:48 CreateApp`. -/
def DB.NewBudgetedApp (p : AppPermission) (db : DB) : Prop :=
  0 < p.appId ∧ 0 < p.maxAmountSat ∧ db.Limits p ∧
    ∀ r ∈ db.transactions.rows, r.appId ≠ some p.appId

/-- The usage that the hub computes is within the budget, at every moment. Reference:
`db/queries/get_budget_usage.go:11 GetBudgetUsageMsat`. -/
def Pool.WithinBudget (W : World) (p : AppPermission) (cfg : Pool) : Prop :=
  ∀ now usageMsat, cfg.state.db.transactions.Moment W p now →
    GetBudgetUsageMsat W now cfg.state.db.transactions p = .ok usageMsat →
    (usageMsat : Int) ≤ p.maxAmountSat * 1000

/-- The budget of an app is never exceeded, when every step takes what the budget covers. Reference:
`transactions/transactions_service.go:1188 validateCanPay`,
`db/queries/get_budget_usage.go:11 GetBudgetUsageMsat`. -/
theorem budget_not_exceeded (W : World) (p : AppPermission) {cfg : Pool}
    (h : Reachable W (Fresh (DB.NewBudgetedApp p)) (budgetedSteps W p).allowed cfg) :
    cfg.WithinBudget W p := by
  have hnew : 0 < p.appId ∧ 0 < p.maxAmountSat :=
    h.induction (P := fun _ => 0 < p.appId ∧ 0 < p.maxAmountSat)
      (fun _ hf => ⟨hf.1.1, hf.1.2.1⟩) fun _ _ _ _ hp _ _ => hp
  have hd := h.sound (budgeted_sound W hnew.1 hnew.2) fun cfg hf => by
    obtain ⟨⟨-, hmax, hlim, hnone⟩, -, hthreads⟩ := hf
    refine ⟨⟨hlim, fun r hr happ => absurd happ (hnone r hr), fun now _ => ?_⟩,
      by simp [hthreads], by simp [hthreads], by simp [hthreads]⟩
    have hzero : cfg.state.db.transactions.usageSince p.appId (p.start W now) = 0 := by
      refine List.sum_eq_zero fun n hn => ?_
      obtain ⟨r, hr, rfl⟩ := List.mem_map.1 hn
      exact Transaction.usedSince_eq_zero fun hs => hnone r hr hs.1
    rw [hzero]
    show (0 : Int) ≤ _
    omega
  intro now usageMsat hnow husage
  rw [GetBudgetUsageMsat_ok husage]
  exact hd.inv.within now hnow

/-- A budget of 11 sat a month. Reference: `transactions/app_payments_test.go`. -/
def demoBudget : AppPermission :=
  { appId := 1, scope := "pay_invoice", maxAmountSat := 11, budgetRenewal := "monthly" }

/-- The hub with one app and its budget. Reference: `transactions/app_payments_test.go`. -/
def demoBudgetPool : Pool :=
  ⟨⟨{ transactions := .empty, apps := [⟨1, "alice", false, none⟩], permissions := [demoBudget]
      apps_nodup := by decide }, []⟩, []⟩

/-- The app starts a keysend to another node. Reference: `transactions/keysend_test.go`. -/
def demoBudgetSpend (amountMsat : Nat) : List PoolLabel :=
  .spawn (.sendKeysend amountMsat "otherpubkey" [] wrappedPreimage (some 1) none) ::
    steps 0 1 { now := demoNow + 1 }

theorem demo_newBudgetedApp : Fresh (DB.NewBudgetedApp demoBudget) demoBudgetPool :=
  ⟨⟨by decide, by decide, by simp [DB.Limits, demoBudgetPool, demoBudget],
    by simp [demoBudgetPool, Table.empty]⟩, rfl, rfl⟩

theorem budget_not_exceeded_keysend :
    GetBudgetUsageMsat demo (demoNow + 1)
      (demoBudgetPool.after demo (demoBudgetSpend 1000)).state.db.transactions demoBudget =
        .ok 11000 ∧
      (demoBudgetPool.after demo (demoBudgetSpend 1000)).WithinBudget demo demoBudget :=
  ⟨by decide +kernel, budget_not_exceeded demo demoBudget
    (.of_after (.start demo_newBudgetedApp) (by decide +kernel) (by decide +kernel))⟩

/-- A payment of 1.999 sat with its reserve of 10 sat passes the check of a budget of 11 sat.
Reference: `transactions/transactions_service.go:1193 validateCanPay`. -/
theorem budget_exceeded :
    Reachable demo (Fresh (DB.NewBudgetedApp demoBudget)) anyStep
      (demoBudgetPool.after demo (demoBudgetSpend 1999)) ∧
    ¬ (demoBudgetPool.after demo (demoBudgetSpend 1999)).WithinBudget demo demoBudget := by
  refine ⟨.of_after (.start demo_newBudgetedApp) Config.allows_any (by decide +kernel), fun h => ?_⟩
  have husage : GetBudgetUsageMsat demo (demoNow + 1)
      (demoBudgetPool.after demo (demoBudgetSpend 1999)).state.db.transactions demoBudget =
        .ok 11999 := by decide +kernel
  have hle := h _ _ (by decide +kernel) husage
  revert hle
  decide

end AlbyHub
