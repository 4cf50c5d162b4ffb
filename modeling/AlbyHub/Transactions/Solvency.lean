import AlbyHub.Db.Sums
import AlbyHub.Transactions.Sourced
import AlbyHub.Transactions.Runs

/-!
# The balance of an isolated app

The balance of an isolated app is checked when a payment is inserted, and computed anew from rows
that other transactions change later. It stays covered when each change covers what it takes. Two
kinds of changes in the code do not: a payment to the own node is checked without a fee reserve but
stored with one, and a failed payment can be settled after its amount was released.
`coveredSteps` is the policy without these, `isolated_app_solvent` says that the balance is then
never negative.
-/

namespace AlbyHub

open Go Interaction

/-- What the app spent is covered by what it received. Reference:
`db/queries/get_isolated_balance.go:32`. -/
def Table.Covered (t : Table) (appId : Nat) : Prop := t.spent appId ≤ t.received appId

section
variable {W : World} {env : Env} {db : DB} {t : Table} {appId : Nat} {r row : Transaction}

/-- A row's weight in the received sum. Reference: none. -/
theorem Transaction.receivedBy_eq_zero (h : r.state ≠ .settled) : r.receivedBy appId = 0 :=
  if_neg fun hr => h hr.2.2

theorem Transaction.spentBy_eq_zero (h : r.appId ≠ some appId ∨ r.type = .incoming ∨
    r.state = .failed ∨ r.state = .accepted) : r.spentBy appId = 0 := by
  refine if_neg fun ⟨happ, hty, hst⟩ => ?_
  rcases h with h | h | h | h
  · exact h happ
  · rw [h] at hty; cases hty
  · rw [h] at hst; simp at hst
  · rw [h] at hst; simp at hst

/-- A payment of an isolated app is inserted only if the checked amount is in its balance.
Reference: `transactions/transactions_service.go:1158 validateCanPay`. -/
theorem validateCanPay_balance {amountMsat : Nat} {description : String} {selfPayment : Bool}
    (hpos : 0 < appId) (hiso : db.Isolated appId)
    (h : (validateCanPay W env db (some appId) amountMsat description selfPayment).1 = .ok ()) :
    ∃ balanceMsat, GetIsolatedBalanceMsat db.transactions appId = .ok balanceMsat ∧
      int64 (amountWithFeeReserve amountMsat selfPayment) ≤ balanceMsat := by
  obtain ⟨app₀, happ₀, hid₀, hiso₀⟩ := hiso
  have hne : appId ≠ 0 := Nat.pos_iff_ne_zero.1 hpos
  simp only [validateCanPay] at h
  split at h
  · cases h
  · next app hfind =>
    -- the app that is found is the isolated one
    have happ := List.mem_filter.1 (mem_of_pick hfind)
    have hid : app.id = appId := by simpa [hne] using happ.2
    have heq : app = app₀ :=
      List.inj_on_of_nodup_map db.apps_nodup happ.1 happ₀ (hid.trans hid₀.symm)
    split at h
    · cases h
    · next p hperm =>
      have hp : p.appId = appId := by
        have := (List.mem_filter.1 (mem_of_pick hperm)).2
        simp only [hne, false_or, decide_eq_true_eq] at this
        exact this.1
      rw [heq, if_pos hiso₀] at h
      split at h
      · cases h
      · next hv =>
        unfold validateIsolatedBalance at hv
        rw [hp] at hv
        split at hv
        · cases hv
        · next balanceMsat hb =>
          split at hv
          · cases hv
          · next hle => exact ⟨balanceMsat, hb, Int.not_lt.1 hle⟩

end

/-- A payment to the own node that the balance covers is covered with its reserve. Reference:
`transactions/transactions_service.go:1134 validateCanPay`, `:402`. -/
def Table.Affords (t : Table) (appId amountMsat : Nat) : Prop :=
  t.spent appId + amountMsat ≤ t.received appId →
    t.spent appId + amountMsat + CalculateFeeReserveMsat amountMsat ≤ t.received appId

/-- What a settlement of the row takes is covered: by its reserve while it is pending, by the
balance after it failed. Reference: `transactions/transactions_service.go:1477
markTransactionSettled`. -/
def Table.AffordsSettlement (t : Table) (appId feeMsat : Nat) (r : Transaction) : Prop :=
  (r.state = .pending → feeMsat ≤ r.feeReserveMsat) ∧
    (r.state = .failed → t.select r.settledFilter = [] →
      t.spent appId + r.amountMsat + feeMsat ≤ t.received appId)

/-- The sums of the app fit the database's integers. Reference:
`db/queries/get_isolated_balance.go:8`. -/
def Table.SumsFit (t : Table) (appId : Nat) : Prop :=
  t.received appId < 2 ^ 63 ∧ t.spent appId < 2 ^ 63

/-- A row was inserted. Reference: none. -/
def Table.Inserts (t t' : Table) : Prop := t.rows.length < t'.rows.length

theorem Table.inserts_create (t : Table) (now : Time) (row : Transaction) :
    t.Inserts (t.create now row) := by
  simp [Table.Inserts, Table.create]

/-- The command, after which the table is `t'`, takes from the app what its balance covers.
Reference: none. -/
def coveredCall (appId : Nat) (t t' : Table) : Cmd → Prop
  | .sendPaymentTx a => t.Inserts t' → a.appId = some appId ∧ a.selfPayment = true →
    t.Affords appId a.paymentAmountMsat
  | .sendKeysendTx row => t.Inserts t' → row.appId = some appId ∧ row.selfPayment = true →
    t.Affords appId row.amountMsat
  | .markTransactionSettledTx row _ feeMsat _ => ∀ r ∈ t.rows, r.id = row.id →
    r.appId = some appId ∧ r.type = .outgoing → t.AffordsSettlement appId feeMsat r
  | _ => True

/-- Every command takes what the balance covers, and the sums fit. Reference: none. -/
def coveredSteps (W : World) (appId : Nat) : Policy where
  call _ _ s c env := ∀ x ∈ exec W s c env,
    coveredCall appId s.db.transactions x.2.db.transactions c ∧ x.2.db.transactions.SumsFit appId

section
variable (W : World) (appId : Nat) (t t' : Table)

instance (amountMsat : Nat) : Decidable (t.Affords appId amountMsat) :=
  inferInstanceAs (Decidable (_ → _))

instance (feeMsat : Nat) (r : Transaction) : Decidable (t.AffordsSettlement appId feeMsat r) :=
  inferInstanceAs (Decidable (_ ∧ _))

instance : Decidable (t.SumsFit appId) := inferInstanceAs (Decidable (_ ∧ _))

instance : Decidable (t.Inserts t') := inferInstanceAs (Decidable (_ < _))

instance (c : Cmd) : Decidable (coveredCall appId t t' c) := by
  induction c using Cmd.casesOn with
  | sendPaymentTx => exact inferInstanceAs (Decidable (_ → _ → _))
  | sendKeysendTx => exact inferInstanceAs (Decidable (_ → _ → _))
  | markTransactionSettledTx => exact inferInstanceAs (Decidable (∀ r ∈ _, _ → _ → _))
  | _ => exact isTrue trivial

instance (op : Op) (h : History) (s : Hub) (c : Cmd) (env : Env) :
    Decidable ((coveredSteps W appId).call op h s c env) :=
  inferInstanceAs (Decidable (∀ x ∈ exec W s c env, _ ∧ _))

instance (cfg : Pool) (op : Op) : Decidable ((coveredSteps W appId).spawn cfg op) := isTrue trivial

instance (cfg : Pool) : Decidable ((coveredSteps W appId).restart cfg) := isTrue trivial

end

/-- The invariant of the hub: the app stays isolated, none of its payments waits as a hold invoice
does, and what it spent is covered. Reference: none. -/
structure Hub.Solvent (appId : Nat) (s : Hub) : Prop where
  isolated : s.db.Isolated appId
  outgoing : ∀ r ∈ s.db.transactions.rows, r.appId = some appId → r.type = .outgoing →
    r.state ≠ .accepted
  covered : s.db.transactions.Covered appId

section
variable {W : World} {env : Env} {t t' : Table} {appId id : Nat} {r row : Transaction} {u : Update}
variable {now : Time}

/-- The balance stays covered where the sums move in the app's favour. Reference: none. -/
theorem Table.Covered.of_le (h : t.Covered appId) (hs : t'.spent appId ≤ t.spent appId)
    (hr : t.received appId ≤ t'.received appId) : t'.Covered appId :=
  (hs.trans h).trans hr

/-- A new row that is not charged to the app. Reference: none. -/
theorem Table.Covered.create (h : t.Covered appId) (hrow : row.spentBy appId = 0) :
    (t.create now row).Covered appId := by
  refine h.of_le ?_ ?_
  · rw [Table.spent_eq_sum, Table.spent_eq_sum, Table.sum_create]
    exact (congrArg (t.sum _ + ·) hrow).le
  · rw [Table.received_eq_sum, Table.received_eq_sum, Table.sum_create]
    exact Nat.le_add_right _ _

/-- A new outgoing row that the balance covers. Reference: none. -/
theorem Table.Covered.charge (h : t.Covered appId)
    (hrow : row.appId = some appId → t.spent appId + row.charge ≤ t.received appId) :
    (t.create now row).Covered appId := by
  by_cases happ : row.appId = some appId
  · have hle : row.spentBy appId ≤ row.charge := by
      unfold Transaction.spentBy
      split
      · exact le_refl _
      · exact Nat.zero_le _
    have hcov := hrow happ
    unfold Table.Covered
    rw [Table.spent_eq_sum] at hcov ⊢
    rw [Table.received_eq_sum] at hcov ⊢
    rw [Table.sum_create, Table.sum_create]
    have hsame : (t.created now row).spentBy appId = row.spentBy appId := rfl
    omega
  · exact h.create (Transaction.spentBy_eq_zero (.inl happ))

/-- An update that charges no more and credits no less. Reference: none. -/
theorem Table.Covered.update (h : t.Covered appId)
    (hu : ∀ r ∈ t.rows, r.id = id → (u r).spentBy appId ≤ r.spentBy appId ∧
      r.receivedBy appId ≤ (u r).receivedBy appId) : (t.update id u).Covered appId := by
  by_cases hex : ∃ r ∈ t.rows, r.id = id
  · obtain ⟨r, hr, rfl⟩ := hex
    obtain ⟨hs, hc⟩ := hu r hr rfl
    have hspent := Table.sum_update (w := (·.spentBy appId)) (u := u) hr
    have hreceived := Table.sum_update (w := (·.receivedBy appId)) (u := u) hr
    refine h.of_le ?_ ?_
    · rw [Table.spent_eq_sum, Table.spent_eq_sum]
      omega
    · rw [Table.received_eq_sum, Table.received_eq_sum]
      omega
  · have hne : ∀ r ∈ t.rows, r.id ≠ id := fun r hr hid => hex ⟨r, hr, hid⟩
    unfold Table.Covered
    rw [Table.spent_eq_sum, Table.received_eq_sum, Table.sum_update_of_not_mem hne,
      Table.sum_update_of_not_mem hne, ← Table.spent_eq_sum, ← Table.received_eq_sum]
    exact h

/-- The settlement of a row that is not settled yet, where the balance covers it. Reference:
`transactions/transactions_service.go:1477 markTransactionSettled`. -/
theorem Table.Covered.settle {preimage : String} {feeMsat : Nat} {selfPayment : Bool}
    (h : t.Covered appId) (hr : r ∈ t.rows) (hn : t.select r.settledFilter = [])
    (haccepted : r.appId = some appId → r.type = .outgoing → r.state ≠ .accepted)
    (hcov : r.appId = some appId ∧ r.type = .outgoing → t.AffordsSettlement appId feeMsat r) :
    (t.update r.id (settleUpdate preimage feeMsat selfPayment now)).Covered appId := by
  have hns : r.state ≠ .settled := Table.not_settled_of_select (.of_mem hr) hn hr rfl
  have hreceived : r.receivedBy appId = 0 := Transaction.receivedBy_eq_zero hns
  have only : ∀ r' ∈ t.rows, r'.id = r.id → r' = r := fun r' hr' hid => Table.eq_of_id hr' hr hid
  by_cases hout : r.appId = some appId ∧ r.type = .outgoing
  · have hspent : (settleUpdate preimage feeMsat selfPayment now r).spentBy appId =
        r.amountMsat + feeMsat := if_pos ⟨hout.1, hout.2, .inl rfl⟩
    cases hst : r.state with
    | settled => exact absurd hst hns
    | accepted => exact absurd hst (haccepted hout.1 hout.2)
    | pending =>
      -- the reserve covers the fee
      have hold : r.spentBy appId = r.charge := if_pos ⟨hout.1, hout.2, .inr hst⟩
      have hfee := (hcov hout).1 hst
      refine h.update fun r' hr' hid => ?_
      rw [only r' hr' hid, hreceived, hspent, hold, Transaction.charge]
      omega
    | failed =>
      -- the row was released, so the balance has to cover it anew
      have hold : r.spentBy appId = 0 := Transaction.spentBy_eq_zero (.inr (.inr (.inl hst)))
      have hfee := (hcov hout).2 hst hn
      have hs := Table.sum_update (w := (·.spentBy appId))
        (u := settleUpdate preimage feeMsat selfPayment now) hr
      have hc := Table.sum_update (w := (·.receivedBy appId))
        (u := settleUpdate preimage feeMsat selfPayment now) hr
      unfold Table.Covered
      rw [Table.spent_eq_sum] at hfee ⊢
      rw [Table.received_eq_sum] at hfee ⊢
      omega
  · have hzero : (settleUpdate preimage feeMsat selfPayment now r).spentBy appId = 0 :=
      if_neg fun hs => hout ⟨hs.1, hs.2.1⟩
    refine h.update fun r' hr' hid => ?_
    rw [only r' hr' hid, hzero, hreceived]
    exact ⟨Nat.zero_le _, Nat.zero_le _⟩

/-- The insertion of a payment that passed the check. Reference:
`transactions/transactions_service.go:387 SendPaymentSync`, `:507 SendKeysend`. -/
theorem Table.Covered.pay {db : DB} {description : String} (hpos : 0 < appId)
    (h : db.transactions.Covered appId) (hiso : db.Isolated appId)
    (hpay : (validateCanPay W env db row.appId row.amountMsat description row.selfPayment).1 =
      .ok ())
    (hfee : row.feeMsat = 0)
    (hreserve : row.feeReserveMsat = CalculateFeeReserveMsat row.amountMsat)
    (hself : row.appId = some appId ∧ row.selfPayment = true →
      db.transactions.Affords appId row.amountMsat)
    (hcharge : row.appId = some appId → row.charge < 2 ^ 63) :
    (db.transactions.create now row).Covered appId := by
  refine h.charge fun happ => ?_
  have hsmall := hcharge happ
  have hsum : row.charge = row.amountMsat + CalculateFeeReserveMsat row.amountMsat := by
    rw [Transaction.charge, hfee, hreserve, Nat.add_zero]
  rw [happ] at hpay
  obtain ⟨balanceMsat, hb, hle⟩ := validateCanPay_balance hpos hiso hpay
  have hbalance : balanceMsat =
      (db.transactions.received appId : Int) - db.transactions.spent appId := by
    unfold GetIsolatedBalanceMsat at hb
    split at hb <;> cases hb
    rfl
  rw [hbalance] at hle
  cases hs : row.selfPayment with
  | false =>
    rw [hs, amountWithFeeReserve, if_neg Bool.false_ne_true, ← hsum,
      uint64_of_lt (by omega), int64_of_lt hsmall] at hle
    omega
  | true =>
    rw [hs, amountWithFeeReserve, if_pos rfl, int64_of_lt (by omega)] at hle
    have hafford := hself ⟨happ, hs⟩ (by omega)
    rw [hsum]
    omega

end

section
variable {W : World} {env : Env} {s s' : Hub} {c : Cmd} {a : c.Ans} {h : History} {appId : Nat}

/-- What a new row takes fits when the sum after it does. Reference: none. -/
theorem Table.SumsFit.charge {t : Table} {now : Time} {row : Transaction}
    (hfit : (t.create now row).SumsFit appId) (hty : row.type = .outgoing)
    (hst : row.state = .pending) (happ : row.appId = some appId) : row.charge < 2 ^ 63 := by
  have hspent := hfit.2
  rw [Table.spent_eq_sum, Table.sum_create] at hspent
  have hrow : (t.created now row).spentBy appId = row.charge := if_pos ⟨happ, hty, .inr hst⟩
  omega

/-- A covered command keeps the balance covered. Reference: none. -/
theorem exec_covered (hpos : 0 < appId) (hi : s.Solvent appId) (hk : ∀ call ∈ h, KnownRows call s)
    (hc : SourcedBy h c) (hcov : coveredCall appId s.db.transactions s'.db.transactions c)
    (hx : exec W s c env = some (a, s')) (hfit : s'.db.transactions.SumsFit appId) :
    s'.db.transactions.Covered appId := by
  have hsourced := hc.sourced hk
  generalize s'.db.transactions = t', exec_effect hx = he at hcov hfit ⊢
  cases he with
  | same => exact hi.covered
  | create => exact hi.covered.create (Transaction.spentBy_eq_zero (.inr (.inl hc.2)))
  | @sendPayment args _ _ hpay =>
    have hpay : (validateCanPay W env s.db (args.row env.now).appId (args.row env.now).amountMsat
      args.paymentRequest.description (args.row env.now).selfPayment).1 = .ok () := hpay
    exact hi.covered.pay hpos hi.isolated hpay rfl rfl
      (hcov (Table.inserts_create ..)) (hfit.charge rfl rfl)
  | sendKeysend _ hpay =>
    obtain ⟨k, rfl⟩ := hc
    exact hi.covered.pay hpos hi.isolated hpay rfl rfl
      (hcov (Table.inserts_create ..)) (hfit.charge rfl rfl)
  | settle hn =>
    obtain ⟨r, hr, hid⟩ := hsourced
    have hrid := Transaction.id_of_identity hid
    rw [← hrid]
    rw [← Transaction.settledFilter_congr (Transaction.payment_of_identity hid)] at hn
    exact hi.covered.settle hr hn (hi.outgoing r hr) fun hout => hcov r hr hrid hout
  | @createSettled row preimage feeMsat selfPayment =>
    refine hi.covered.create (Transaction.spentBy_eq_zero ?_)
    cases hty : row.type with
    | incoming => exact .inr (.inl hty)
    | outgoing =>
      refine .inl fun happ => ?_
      have hnone : row.appId = none := hc.2 hty
      rw [show (settleUpdate preimage feeMsat selfPayment env.now row).appId = row.appId from rfl,
        hnone] at happ
      cases happ
  | @fail row existing reason hmem hid hst =>
    refine hi.covered.update fun r hr hrid => ?_
    have hnot : r.state ≠ .settled := by
      rw [Table.eq_of_id hr hmem (hrid.trans (hsourced.existing_id hid).symm)]
      rcases hst with hst | hst <;> rw [hst] <;> simp
    rw [Transaction.receivedBy_eq_zero hnot,
      Transaction.spentBy_eq_zero (r := failUpdate reason env.now r) (.inr (.inr (.inl rfl)))]
    exact ⟨Nat.zero_le _, Nat.zero_le _⟩
  | @accept _ _ settleDeadline selfPayment r₀ hr₀ hacc =>
    refine hi.covered.update fun r hr hrid => ?_
    rw [Table.eq_of_id hr hr₀ hrid, Transaction.receivedBy_eq_zero (by rw [hacc.2.2.2]; simp),
      Transaction.spentBy_eq_zero (r := acceptUpdate settleDeadline selfPayment r₀)
        (.inr (.inr (.inr rfl)))]
    exact ⟨Nat.zero_le _, Nat.zero_le _⟩
  | updateMetadata => exact hi.covered.update fun r _ _ => ⟨le_refl _, le_refl _⟩

/-- The payments of the app never wait as hold invoices do. Reference: none. -/
theorem Table.Step.not_accepted {t t' : Table} (hs : t.Step t')
    (h : ∀ r ∈ t.rows, r.appId = some appId → r.type = .outgoing → r.state ≠ .accepted) :
    ∀ r ∈ t'.rows, r.appId = some appId → r.type = .outgoing → r.state ≠ .accepted := by
  intro r' hr' happ hty
  rcases hs.origin hr' with ⟨r, hr, hstep⟩ | hst | hst
  · have hid := hstep.identity
    have hold := h r hr ((congrArg Identity.appId hid).symm.trans happ)
      ((congrArg Identity.type hid).symm.trans hty)
    cases hstep with
    | annotate => exact hold
    | settle | fail => simp [settleUpdate, failUpdate]
    | accept hin =>
      rw [show r.type = .outgoing from hty] at hin
      cases hin
  · rw [hst]; simp
  · rw [hst]; simp

/-- Covered steps keep the app solvent. Reference: none. -/
theorem solvent_sound (W : World) (hpos : 0 < appId) :
    Sound (exec W) (body W) (coveredSteps W appId).allowed (fun _ => SourcedBy)
      (fun _ => anyResult) (coveredSteps W appId).call (Hub.Solvent appId) (fun _ =>
        KnownRows) where
  body := body_sourced W
  obeys cfg i e op h c k ha hi := ha op h c k hi
  step op h s c e a s' hi hk hc hp hx := by
    obtain ⟨hstep, hrows, hold⟩ := exec_sourced hk hc hx
    refine ⟨⟨hi.isolated.sameApps (exec_sameApps hx), hstep.not_accepted hi.outgoing, ?_⟩, hrows,
      fun _ => hold⟩
    exact exec_covered hpos hi hk hc (hp _ hx).1 hx (hp _ hx).2

end

/-- An isolated app that no row belongs to yet. Reference: `apps/apps_service.go CreateApp`. -/
def DB.NewIsolatedApp (appId : Nat) (db : DB) : Prop :=
  0 < appId ∧ db.Isolated appId ∧ ∀ r ∈ db.transactions.rows, r.appId ≠ some appId

/-- The balance of the app is not negative. Reference: `db/queries/get_isolated_balance.go:8
GetIsolatedBalanceMsat`. -/
def Pool.BalanceNonneg (appId : Nat) (cfg : Pool) : Prop :=
  ∀ balanceMsat, GetIsolatedBalanceMsat cfg.state.db.transactions appId = .ok balanceMsat →
    0 ≤ balanceMsat

/-- The balance of an app that is isolated from its creation is never negative, when every step
takes what the balance covers. Reference: `transactions/transactions_service.go:1133
validateCanPay`, `db/queries/get_isolated_balance.go:8 GetIsolatedBalanceMsat`. -/
theorem isolated_app_solvent (W : World) (appId : Nat) {cfg : Pool}
    (h : Reachable W (Fresh (DB.NewIsolatedApp appId)) (coveredSteps W appId).allowed cfg) :
    cfg.BalanceNonneg appId := by
  have hpos : 0 < appId :=
    h.induction (P := fun _ => 0 < appId) (fun _ hf => hf.1.1) fun _ _ _ _ hp _ _ => hp
  have hd := h.sound (solvent_sound W hpos) fun cfg hf => by
    obtain ⟨⟨-, hiso, hnew⟩, -, hthreads⟩ := hf
    refine ⟨⟨hiso, fun r hr happ => absurd happ (hnew r hr), ?_⟩, by simp [hthreads],
      by simp [hthreads], by simp [hthreads]⟩
    have hzero : cfg.state.db.transactions.spent appId = 0 := by
      have hnone : ∀ r ∈ cfg.state.db.transactions.rows, ¬ r.SpentBy appId :=
        fun r hr hs => hnew r hr hs.1
      rw [Table.spent, List.filter_eq_nil_iff.2 fun r hr => by simpa using hnone r hr]
      rfl
    exact hzero.le.trans (Nat.zero_le _)
  intro balanceMsat hb
  have hcov : cfg.state.db.transactions.spent appId ≤ cfg.state.db.transactions.received appId :=
    hd.inv.covered
  unfold GetIsolatedBalanceMsat at hb
  split at hb <;> cases hb
  omega

/-- Alice's app is paid 123 sat. Reference: `transactions/self_payments_test.go:190`. -/
def demoReceive : List PoolLabel :=
  let tx : LnTransaction :=
    { invoice := mockInvoice, paymentHash := mockHash, preimage := "123preimage"
      amountMsat := 123000 }
  .spawn (.makeInvoice 123000 "" "" 0 none (some 1) none none) ::
    steps 0 2 { now := demoNow, transaction := .ok { tx with preimage := "" } } ++
    .spawn (.consumeEvent (.paymentReceived tx)) :: steps 1 3 { now := demoNow }

/-- Alice's app then starts a keysend to the own node. Reference:
`transactions/keysend_test.go:379`. -/
def demoSpend (amountMsat : Nat) : List PoolLabel :=
  demoReceive ++ .spawn (.sendKeysend amountMsat "123pubkey" [] wrappedPreimage (some 1) none) ::
    steps 2 1 { now := demoNow }

theorem demo_newIsolatedApp : Fresh (DB.NewIsolatedApp 1) (demoPool .empty) :=
  ⟨⟨by decide, ⟨_, List.mem_cons_self, rfl, rfl⟩, by simp [demoPool, demoDB, Table.empty]⟩, rfl,
    rfl⟩

theorem isolated_app_solvent_keysend :
    GetIsolatedBalanceMsat
      ((demoPool .empty).after demo (demoSpend 100000)).state.db.transactions 1 = .ok 13000 ∧
      ((demoPool .empty).after demo (demoSpend 100000)).BalanceNonneg 1 :=
  ⟨by decide +kernel, isolated_app_solvent demo 1
    (.of_after (.start demo_newIsolatedApp) (by decide +kernel) (by decide +kernel))⟩

/-- A keysend of the whole balance to the own node is accepted, and its reserve is not covered.
Reference: `transactions/transactions_service.go:1134 validateCanPay`, `:517 SendKeysend`. -/
theorem isolated_app_overdrawn :
    Reachable demo (Fresh (DB.NewIsolatedApp 1)) anyStep
      ((demoPool .empty).after demo (demoSpend 123000)) ∧
    GetIsolatedBalanceMsat
      ((demoPool .empty).after demo (demoSpend 123000)).state.db.transactions 1 = .ok (-10000) :=
  ⟨.of_after (.start demo_newIsolatedApp) Config.allows_any (by decide +kernel), by decide +kernel⟩

end AlbyHub
