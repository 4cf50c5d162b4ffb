import AlbyHub.Db.Sums
import AlbyHub.LnClient.LdkEvents
import AlbyHub.Transactions.Solvency
import Mathlib.Algebra.Order.BigOperators.Group.List

/-!
# Fees that are skimmed from received payments

When a payment opens a channel on the way in, the liquidity provider keeps a fee of it. The hub
stores an estimate of the fee with the invoice, and the fee that the node reports when the payment
is received (`FeesBy`: no other settlement of an incoming row stores a fee). The balance of an
isolated app counts the amount of the invoice, so it is covered by what the node received as long as
the node reports no fee for the app's rows.
-/

namespace AlbyHub

open Go Interaction

/-- Reference: ldk-node `LspFeeLimits`. -/
structure LspFeeLimits where
  maxTotalOpeningFeeMsat : Option Nat := none
  maxProportionalOpeningFeePpmMsat : Option Nat := none

/-- The fee that is stored with an invoice. Reference: `lnclient/ldk/ldk.go:890 MakeInvoice`. -/
def estimatedLspFeeMsat (limits : LspFeeLimits) (amountMsat : Int) : Int :=
  match limits.maxTotalOpeningFeeMsat, limits.maxProportionalOpeningFeePpmMsat with
  | some maxTotal, _ => int64 maxTotal
  | none, some ppm => if amountMsat > 0 then
      int64 (uint64 (uint64OfInt amountMsat * ppm) / 1000000) else 0
  | none, none => 0

/-- What the node received for a settled row: the amount, net of the fee that was skimmed.
Reference: `lnclient/ldk/ldk.go:1598 ldkPaymentToTransaction`,
`transactions/transactions_service.go:1491 markTransactionSettled`. -/
def Transaction.netReceived (r : Transaction) : Int := r.amountMsat - r.feeMsat

/-- The rows that the app received from outside the hub. Reference:
`db/queries/get_isolated_balance.go:12`. -/
def Table.external (t : Table) (appId : Nat) : List Transaction :=
  t.rows.filter fun r => r.ReceivedBy appId ∧ r.selfPayment = false

/-- What the node received for the app from outside the hub. Reference:
`db/queries/get_isolated_balance.go:12`. -/
def Table.netReceived (t : Table) (appId : Nat) : Int :=
  ((t.external appId).map (·.netReceived)).sum

/-- What the app received from other apps and from the hub's own wallet. Reference:
`db/queries/get_isolated_balance.go:12`. -/
def Table.transferred (t : Table) (appId : Nat) : Nat :=
  ((t.rows.filter fun r => r.ReceivedBy appId ∧ r.selfPayment = true).map (·.amountMsat)).sum

/-- Each row from outside raises the balance of its app by no more than the node received for it,
and so the sum of the apps' balances is covered by what the node received for them, besides
transfers. Reference: `db/queries/get_isolated_balance.go:8 GetIsolatedBalanceMsat`. -/
structure Table.CreditCovered (t : Table) (appIds : List Nat) : Prop where
  row : ∀ appId ∈ appIds, ∀ r ∈ t.external appId, (r.receivedBy appId : Int) ≤ r.netReceived
  balance : ∀ balance : Nat → Int,
    (∀ appId ∈ appIds, GetIsolatedBalanceMsat t appId = .ok (balance appId)) →
    (appIds.map balance).sum ≤
      (appIds.map fun appId => t.netReceived appId + t.transferred appId - t.spent appId).sum

/-- Which fees settlements of incoming rows store: the one that the node reported, or none.
Reference: `transactions/transactions_service.go:870 ConsumeEvent`, `:1341 SettleHoldInvoice`. -/
def FeesBy (op : Op) (h : History) : Cmd → Prop
  | .markTransactionSettledTx row _ feeMsat selfPayment =>
    h.Truthful → row.type = .incoming → selfPayment = false → feeMsat = 0 ∨
      ∃ tx, op = .consumeEvent (.paymentReceived tx) ∧ feeMsat = uint64OfInt tx.feesPaidMsat
  | .createSettledTransactionTx row _ feeMsat _ => row.type = .incoming →
      ∃ tx, op = .consumeEvent (.paymentReceived tx) ∧ feeMsat = uint64OfInt tx.feesPaidMsat
  | _ => True

/-- A call that handles a received payment and is about to settle or insert a row of one of the
apps: the node reports no fee. Reference: `transactions/transactions_service.go:796
ConsumeEvent`. -/
def unskimmedCall (appIds : List Nat) (op : Op) (t : Table) : Cmd → Prop
  | .markTransactionSettledTx row _ _ _ | .createSettledTransactionTx row _ _ _ =>
    match op with
    | .consumeEvent (.paymentReceived tx) =>
      t.select row.settledFilter = [] → (∃ appId ∈ appIds, row.appId = some appId) →
        uint64OfInt tx.feesPaidMsat = 0
    | _ => True
  | _ => True

/-- No fee is skimmed from the payments of the apps. Reference: none. -/
def unskimmed (appIds : List Nat) : Policy where
  call op _ s c _ := unskimmedCall appIds op s.db.transactions c

section
variable (appIds : List Nat)

instance decidableUnskimmedCall (op : Op) (t : Table) (c : Cmd) :
    Decidable (unskimmedCall appIds op t c) := by
  induction c using Cmd.casesOn with
  | markTransactionSettledTx | createSettledTransactionTx =>
    induction op using Op.casesOn with
    | consumeEvent event =>
      induction event using NodeEvent.casesOn with
      | paymentReceived => exact inferInstanceAs (Decidable (_ → (∃ appId ∈ appIds, _) → _))
      | _ => exact isTrue trivial
    | _ => exact isTrue trivial
  | _ => exact isTrue trivial

instance decidableUnskimmed (op : Op) (h : History) (s : Hub) (c : Cmd) (env : Env) :
    Decidable ((unskimmed appIds).call op h s c env) :=
  inferInstanceAs (Decidable (unskimmedCall appIds op s.db.transactions c))

instance decidableUnskimmedSpawn (cfg : Pool) (op : Op) :
    Decidable ((unskimmed appIds).spawn cfg op) :=
  isTrue trivial

instance decidableUnskimmedRestart (cfg : Pool) : Decidable ((unskimmed appIds).restart cfg) :=
  isTrue trivial

end

section
variable {W : World} {op : Op} {h h' : History} {row : Transaction}

theorem feesBy_lenient (op : Op) : Lenient (FeesBy op) where
  read h c hw _ := by cases c <;> trivial
  publish _ _ _ _ _ := trivial

theorem fees_interceptSelfPayment {paymentRequest paymentHash : String} :
    Follows (FeesBy op) (fun _ _ => True) h (interceptSelfPayment paymentRequest paymentHash) := by
  refine (follows_interceptSelfPayment (feesBy_lenient op) (fun _ _ _ => trivial)
    (fun _ _ _ => trivial) ?_).mono (fun _ _ h => h) fun _ _ _ _ => trivial
  intro h' incoming preimage _ _ _ _ _ _ _ hself
  cases hself

theorem fees_finishPayment {selfPayment : Bool} {r : Except Err PayInvoiceResponse}
    (hrow : h.Truthful → row.type = .outgoing) :
    Follows (FeesBy op) (fun _ _ => True) h (finishPayment row selfPayment r) := by
  refine follows_finishPayment (feesBy_lenient op) (fun _ => trivial) fun _ _ _ ht hty => ?_
  rw [hrow ht] at hty
  cases hty

theorem Transaction.CreatedFrom.type {row₀ : Transaction} (h : row.CreatedFrom row₀) :
    row.type = row₀.type := by
  obtain ⟨_, _, rfl⟩ := h
  rfl

theorem fees_sendPaymentSync {payReq : String} {amountMsat : Option Nat}
    {metadata : Option Metadata} {appId requestEventId : Option Nat} :
    Follows (FeesBy op) (fun _ _ => True) h
      (SendPaymentSync W payReq amountMsat metadata appId requestEventId) := by
  refine follows_sendPaymentSync (feesBy_lenient op) (fun _ _ _ => trivial)
    (fun _ _ _ _ => trivial) fun h' a row _ _ => ?_
  have hrow : Did (⟨.sendPaymentTx a, .ok row⟩ :: h') (.sendPaymentTx a) (.ok row) := .last
  have hout : ∀ {h₁ : History}, (⟨.sendPaymentTx a, .ok row⟩ :: h' : History) <:+ h₁ →
      h₁.Truthful → row.type = .outgoing := by
    intro h₁ hs ht
    obtain ⟨now, hcreated⟩ : ∃ now, row.CreatedFrom (a.row now) := ht.of_did (hrow.mono hs)
    exact hcreated.type
  unfold SendPaymentSync.pay
  refine Follows.seq ?_ fun _ _ hs => fees_finishPayment (hout hs)
  split
  · exact fees_interceptSelfPayment
  · exact ⟨trivial, fun _ => trivial⟩

theorem fees_sendKeysend {amountMsat : Nat} {destination : String}
    {customRecords : List TLVRecord} {preimage : String} {appId requestEventId : Option Nat} :
    Follows (FeesBy op) (fun _ _ => True) h
      (SendKeysend W amountMsat destination customRecords preimage appId requestEventId) := by
  refine follows_sendKeysend (feesBy_lenient op) (fun _ _ _ _ => trivial)
    (fun _ _ _ _ => trivial) fun h' k row _ _ => ?_
  have hrow : Did (⟨.sendKeysendTx k.row, .ok row⟩ :: h') (.sendKeysendTx k.row) (.ok row) := .last
  have hout : ∀ {h₁ : History}, (⟨.sendKeysendTx k.row, .ok row⟩ :: h' : History) <:+ h₁ →
      h₁.Truthful → row.type = .outgoing := by
    intro h₁ hs ht
    have hcreated : row.CreatedFrom k.row := ht.of_did (hrow.mono hs)
    exact hcreated.type
  unfold KeysendArgs.pay
  split
  · refine (follows_getAppIdFromCustomRecords (feesBy_lenient op) _).bind fun h₁ recipient hs₁ _ =>
      ?_
    refine .call trivial fun r => ?_
    cases r with
    | error e => trivial
    | ok incoming =>
      refine fees_interceptSelfPayment.bind fun h₂ _ hs₂ _ => ?_
      exact fees_finishPayment (hout ((hs₁.trans (List.suffix_cons _ _)).trans hs₂))
  · exact .call trivial fun _ => fees_finishPayment (hout (List.suffix_cons _ _))

theorem fees_isolatedAppId {appId : Option Nat} :
    Follows (FeesBy op) (fun _ _ => True) h (isolatedAppId appId) := by
  cases appId with
  | none => trivial
  | some appId =>
    refine .call trivial fun r => ?_
    cases r <;> trivial

theorem fees_lookupTransaction (hldk : W.notifiesReceived = true) {paymentHash : String}
    {type : Option TransactionType} {appId : Option Nat} :
    Follows (FeesBy op) (fun _ _ => True) h (LookupTransaction W paymentHash type appId) := by
  refine fees_isolatedAppId.seq fun h₁ r _ => ?_
  cases r with
  | error e => trivial
  | ok appId =>
    refine .call trivial fun r => ?_
    match r with
    | .error e => trivial
    | .ok none => trivial
    | .ok (some row) =>
      simp only
      split
      · unfold checkUnsettledTransaction
        rw [if_pos hldk]
        trivial
      · trivial

theorem fees_listTransactions (hldk : W.notifiesReceived = true) {params : ListQuery}
    {appId : Option Nat} {forceFilterByAppId : Bool} :
    Follows (FeesBy op) (fun _ _ =>
      True) h (ListTransactions W params appId forceFilterByAppId) := by
  unfold ListTransactions checkUnsettledTransactions
  rw [if_pos hldk]
  refine fees_isolatedAppId.seq fun h₁ r _ => ?_
  cases r with
  | error e => trivial
  | ok isolated => exact follows_queryPage (feesBy_lenient op)

/-- A hold invoice is settled without a fee. Reference: `transactions/transactions_service.go:1341
SettleHoldInvoice`. -/
theorem fees_settleHoldInvoice {preimage : String} :
    Follows (FeesBy op) (fun _ _ => True) h (SettleHoldInvoice W preimage) :=
  follows_settleHoldInvoice (feesBy_lenient op) fun _ _ _ _ _ _ _ _ => .inl rfl

theorem fees_cancelHoldInvoice {paymentHash : String} :
    Follows (FeesBy op) (fun _ _ => True) h (CancelHoldInvoice paymentHash) :=
  follows_cancelHoldInvoice (feesBy_lenient op) (fun _ _ _ => trivial) fun _ _ _ _ _ _ => trivial

/-- A received payment is settled with the fee that the node reports. Reference:
`transactions/transactions_service.go:796 ConsumeEvent`. -/
theorem fees_paymentReceived {tx : LnTransaction} :
    Follows (FeesBy (.consumeEvent (.paymentReceived tx))) (fun _ _ => True) h
      (consumePaymentReceived W tx) := by
  have hl := feesBy_lenient (.consumeEvent (.paymentReceived tx))
  refine .call trivial fun r => ?_
  match r with
  | .error e => trivial
  | .ok none =>
    refine Follows.seq ?_ fun _ _ _ => trivial
    unfold createReceived
    split
    · exact follows_createSettled hl fun _ _ => ⟨tx, rfl, rfl⟩
    · split
      · trivial
      · refine (follows_getAppIdFromCustomRecords hl _).bind fun _ _ _ _ => ?_
        exact follows_createSettled hl fun _ _ => ⟨tx, rfl, rfl⟩
  | .ok (some row) =>
    exact (follows_markTransactionSettled hl fun _ _ _ _ => .inr ⟨tx, rfl, rfl⟩).bind
      fun _ _ _ _ => trivial

/-- A row that a query for outgoing rows found is outgoing. Reference: none. -/
theorem outgoing_of_found {q : Where} {order : Order} {r : Except Err (Option Transaction)}
    (hq : q.type = some .outgoing) (hr : r = .ok (some row))
    (ht : History.Truthful (⟨.find q order, r⟩ :: h)) : row.type = .outgoing := by
  subst hr
  have hm : q.Matches row := ht _ List.mem_cons_self
  simpa [hq, eq_comm] using hm.2.1

/-- The rows that a sent payment is looked up in are outgoing. Reference:
`transactions/transactions_service.go:889 ConsumeEvent`. -/
theorem fees_findSent {paymentHash : String} : Follows (FeesBy op)
    (fun h' r => ∀ row, r = .ok (some row) → History.Truthful h' → row.type = .outgoing) h
    (findSent paymentHash) := by
  refine .call trivial fun r => ?_
  match r with
  | .error e => exact fun _ he => nomatch he
  | .ok (some found) => exact fun row hr ht => outgoing_of_found rfl hr ht
  | .ok none =>
    refine .call trivial fun r => ?_
    match r with
    | .error e => exact fun _ he => nomatch he
    | .ok (some found) => exact fun row hr ht => outgoing_of_found rfl hr ht
    | .ok none => exact ⟨trivial, fun r row hr ht => outgoing_of_found rfl hr ht⟩

theorem fees_paymentSent {tx : LnTransaction} :
    Follows (FeesBy op) (fun _ _ => True) h (consumePaymentSent tx) := by
  refine fees_findSent.bind fun h' r _ hout => ?_
  match r with
  | .error e => trivial
  | .ok none =>
    refine (follows_createSettled (feesBy_lenient op) fun _ hty => ?_).bind fun _ _ _ _ => trivial
    cases hty
  | .ok (some row) =>
    refine (follows_markTransactionSettled (feesBy_lenient op) fun _ ht hty => ?_).bind
      fun _ _ _ _ => trivial
    rw [hout row rfl ht] at hty
    cases hty

theorem fees_paymentFailed {tx : LnTransaction} {reason : String} :
    Follows (FeesBy op) (fun _ _ => True) h (consumePaymentFailed tx reason) := by
  refine .call trivial fun r => ?_
  match r with
  | .error e => trivial
  | .ok none => trivial
  | .ok (some row) =>
    exact (follows_markPaymentFailed (feesBy_lenient op) trivial).bind fun _ _ _ _ => trivial

theorem fees_setTransactionMetadata {id : Nat} {metadata : Metadata} :
    Follows (FeesBy op) (fun _ _ => True) h (SetTransactionMetadata W id metadata) := by
  unfold SetTransactionMetadata
  split
  · trivial
  · exact ⟨trivial, fun _ => trivial⟩

/-- Every call stores the fees that the node reported, or none, with incoming rows. Reference:
`transactions/transactions_service.go:38 TransactionsService`. -/
theorem body_fees (hldk : W.notifiesReceived = true) (op : Op) :
    Follows (FeesBy op) (fun _ _ => True) [] (body W op) := by
  cases op with
  | makeInvoice =>
    refine Follows.seq ?_ fun _ _ _ => trivial
    unfold MakeInvoice
    split
    · trivial
    · split
      · trivial
      · split
        · trivial
        · split
          · trivial
          · refine .call trivial fun r => ?_
            cases r with
            | error e => trivial
            | ok tx => exact ⟨trivial, fun _ => trivial⟩
  | makeHoldInvoice =>
    refine Follows.seq ?_ fun _ _ _ => trivial
    unfold MakeHoldInvoice
    split
    · trivial
    · refine .call trivial fun r => ?_
      cases r with
      | error e => trivial
      | ok tx => exact ⟨trivial, fun _ => trivial⟩
  | sendPaymentSync => exact fees_sendPaymentSync.seq fun _ _ _ => trivial
  | sendKeysend => exact fees_sendKeysend
  | lookupTransaction => exact (fees_lookupTransaction hldk).seq fun _ _ _ => trivial
  | listTransactions => exact (fees_listTransactions hldk).seq fun _ _ _ => trivial
  | settleHoldInvoice => exact fees_settleHoldInvoice.seq fun _ _ _ => trivial
  | cancelHoldInvoice => exact fees_cancelHoldInvoice.seq fun _ _ _ => trivial
  | consumeEvent event =>
    refine Follows.seq ?_ fun _ _ _ => trivial
    cases event with
    | paymentReceived tx => exact fees_paymentReceived
    | holdInvoiceAccepted tx =>
      simp only [ConsumeEvent]
      split
      · trivial
      · exact (follows_markHoldInvoiceAccepted (feesBy_lenient _) trivial).mono (fun _ _ h => h)
          fun _ _ _ _ => trivial
    | paymentSent tx => exact fees_paymentSent
    | paymentFailed tx reason => exact fees_paymentFailed
  | setTransactionMetadata => exact fees_setTransactionMetadata.seq fun _ _ _ => trivial
  | setTransactionUserLabels =>
    refine Follows.seq ?_ fun _ _ _ => trivial
    unfold SetTransactionUserLabels
    split
    · trivial
    · refine .call trivial fun r => ?_
      cases r with
      | error e => trivial
      | ok found =>
        cases found with
        | none => trivial
        | some row =>
          simp only
          split
          · trivial
          · split
            · exact ⟨trivial, fun _ => trivial⟩
            · trivial
          · exact fees_setTransactionMetadata

/-- A row that an app received from outside has no fee. Reference: `db/models.go:66 Transaction`. -/
def Transaction.Unskimmed (appIds : List Nat) (r : Transaction) : Prop :=
  ∀ appId ∈ appIds, r.ReceivedBy appId → r.selfPayment = false → r.feeMsat = 0

/-- What an app received is what it received from outside and from transfers. Reference:
`db/queries/get_isolated_balance.go:12`. -/
theorem Table.received_eq (t : Table) (appId : Nat) :
    t.received appId = ((t.external appId).map (·.amountMsat)).sum + t.transferred appId := by
  unfold Table.received Table.external Table.transferred
  rw [sum_filter, sum_filter, sum_filter]
  induction t.rows with
  | nil => rfl
  | cons r rows ih =>
    simp only [List.map_cons, List.sum_cons, ih]
    by_cases hr : r.ReceivedBy appId
    · cases hs : r.selfPayment <;> simp [hr] <;> omega
    · simp [hr]

/-- Rows without fees are worth what they raise the balance by. Reference: none. -/
theorem Table.netReceived_eq {t : Table} {appId : Nat} (h : ∀ r ∈ t.external appId, r.feeMsat = 0) :
    t.netReceived appId = (((t.external appId).map (·.amountMsat)).sum : Nat) := by
  unfold Table.netReceived
  generalize t.external appId = rows at h
  induction rows with
  | nil => rfl
  | cons r rows ih =>
    have hr := h r List.mem_cons_self
    have hrows := ih fun r' hr' => h r' (List.mem_cons_of_mem r hr')
    have hnet : r.netReceived = r.amountMsat := by simp [Transaction.netReceived, hr]
    rw [List.map_cons, List.map_cons, List.sum_cons, List.sum_cons, hrows, hnet]
    omega

/-- The credit is covered exactly where no row from outside has a fee. Reference:
`db/queries/get_isolated_balance.go:8 GetIsolatedBalanceMsat`. -/
theorem Table.creditCovered_iff {t : Table} {appIds : List Nat} :
    t.CreditCovered appIds ↔ ∀ r ∈ t.rows, r.Unskimmed appIds := by
  constructor
  · intro h r hr appId happ hrec hself
    have hrow := h.row appId happ r (List.mem_filter.2 ⟨hr, by simp [hrec, hself]⟩)
    simp only [Transaction.receivedBy, if_pos hrec, Transaction.netReceived] at hrow
    omega
  · intro h
    have hfee : ∀ appId ∈ appIds, ∀ r ∈ t.external appId, r.ReceivedBy appId ∧ r.feeMsat = 0 := by
      intro appId happ r hr
      obtain ⟨hmem, hp⟩ := List.mem_filter.1 hr
      simp only [decide_eq_true_eq] at hp
      exact ⟨hp.1, h r hmem appId happ hp.1 hp.2⟩
    refine ⟨fun appId happ r hr => ?_, fun balance hb => ?_⟩
    · obtain ⟨hrec, hr0⟩ := hfee appId happ r hr
      simp [Transaction.receivedBy, hrec, Transaction.netReceived, hr0]
    · refine List.sum_le_sum fun appId happ => ?_
      have hbal := hb appId happ
      unfold GetIsolatedBalanceMsat at hbal
      split at hbal
      · have hsum := t.received_eq appId
        rw [Table.netReceived_eq fun r hr => (hfee appId happ r hr).2]
        have hval := Except.ok.inj hbal
        omega
      · cases hbal

theorem Transaction.Unskimmed.of_not_settled {r : Transaction} {appIds : List Nat}
    (hst : r.state ≠ .settled) : r.Unskimmed appIds := fun _ _ hrec _ => absurd hrec.2.2 hst

/-- A command of a call keeps the rows without fees. Reference: the calls of `Cmd`. -/
theorem exec_unskimmed {env : Env} {s s' : Hub} {c : Cmd} {a : c.Ans} {appIds : List Nat}
    (ht : ∀ r ∈ s.db.transactions.rows, r.Unskimmed appIds)
    (hk : ∀ call ∈ h, KnownRows call s) (hc : SourcedBy h c) (htrue : h.Truthful)
    (hf : FeesBy op h c) (hp : unskimmedCall appIds op s.db.transactions c)
    (hx : exec W s c env = some (a, s')) : ∀ r ∈ s'.db.transactions.rows, r.Unskimmed appIds := by
  have hsourced := hc.sourced hk
  have of_create : ∀ {row : Transaction}, row.Unskimmed appIds →
      ∀ r ∈ (s.db.transactions.create env.now row).rows, r.Unskimmed appIds := by
    intro row hrow r hr
    rcases Table.mem_create.1 hr with hr | rfl
    · exact ht r hr
    · exact hrow
  have of_update : ∀ {id : Nat} {u : Update},
      (∀ r ∈ s.db.transactions.rows, r.id = id → (u r).Unskimmed appIds) →
      ∀ r ∈ (s.db.transactions.update id u).rows, r.Unskimmed appIds := by
    intro id u hu r hr
    rcases Table.of_mem_update hr with ⟨hr, -⟩ | ⟨r₀, hr₀, hid, rfl⟩
    · exact ht r hr
    · exact hu r₀ hr₀ hid
  generalize s'.db.transactions = t', exec_effect hx = he
  cases he with
  | same => exact ht
  | create => exact of_create (.of_not_settled (by rw [hsourced.1]; simp))
  | sendPayment => exact of_create (.of_not_settled (by simp [SendPaymentArgs.row]))
  | sendKeysend => exact of_create (.of_not_settled (by rw [hsourced.1]; simp))
  | @settle row preimage feeMsat selfPayment hn =>
    refine of_update fun r hr hid appId happ hrec hself => ?_
    have hidentity := hsourced.identity_of_id hr hid
    have hty : row.type = .incoming := (congrArg Identity.type hidentity).symm.trans hrec.2.1
    have happid : row.appId = some appId := (congrArg Identity.appId hidentity).symm.trans hrec.1
    rcases hf htrue hty hself with hzero | ⟨tx, rfl, hfee⟩
    · exact hzero
    · exact hfee.trans (hp hn ⟨appId, happ, happid⟩)
  | @createSettled row preimage feeMsat selfPayment hn =>
    refine of_create fun appId happ hrec _ => ?_
    obtain ⟨tx, rfl, hfee⟩ := hf hrec.2.1
    exact hfee.trans (hp hn ⟨appId, happ, hrec.1⟩)
  | fail => exact of_update fun _ _ _ => .of_not_settled (by simp [failUpdate])
  | accept => exact of_update fun _ _ _ => .of_not_settled (by simp [acceptUpdate])
  | updateMetadata => exact of_update fun r hr _ => ht r hr

/-- The balances of the apps stay covered while no fee is skimmed from their payments. Reference:
none. -/
theorem unskimmed_sound (hldk : W.notifiesReceived = true) (appIds : List Nat) :
    Sound (exec W) (body W) (unskimmed appIds).allowed (fun op h c => SourcedBy h c ∧ FeesBy op h c)
      (fun _ _ _ => True) (unskimmed appIds).call
      (fun s => ∀ r ∈ s.db.transactions.rows, r.Unskimmed appIds)
      (fun _ call s => KnownRows call s ∧ Truthful call) where
  body op := ((body_sourced W op).and (body_fees hldk op)).mono (fun _ _ h => h) fun _ _ _ _ =>
    trivial
  obeys cfg i e op h c k ha hi := ha op h c k hi
  step op h s c e a s' hi hk hc hp hx := by
    obtain ⟨-, hnew, hold⟩ := exec_sourced (fun call hcall => (hk call hcall).1) hc.1 hx
    refine ⟨?_, ⟨hnew, exec_truthful hx⟩, fun _ call hcall => ⟨hold call hcall.1, hcall.2⟩⟩
    exact exec_unskimmed hi (fun call hcall => (hk call hcall).1) hc.1
      (fun call hcall => (hk call hcall).2) hc.2 hp hx

/-- In every run in which the node reports no fee for a payment that settles a row of the apps, the
balances are covered by what the node received. Reference: `db/queries/get_isolated_balance.go:8
GetIsolatedBalanceMsat`, `transactions/transactions_service.go:1488 markTransactionSettled`. -/
theorem ldk_credits_covered (W : World) (appIds : List Nat) (hldk : W.notifiesReceived = true)
    {cfg : Pool} (h : Reachable W (Fresh fun db => db.transactions.CreditCovered appIds)
      (unskimmed appIds).allowed cfg) : cfg.state.db.transactions.CreditCovered appIds := by
  have hd := h.sound (unskimmed_sound hldk appIds) fun cfg hf =>
    ⟨Table.creditCovered_iff.1 hf.1, by simp [hf.2.2], by simp [hf.2.2], by simp [hf.2.2]⟩
  exact Table.creditCovered_iff.2 hd.inv

end

theorem ldk_credits_covered_receive : GetIsolatedBalanceMsat
      ((demoPool .empty).after demo demoReceive).state.db.transactions 1 = .ok 123000 ∧
    ((demoPool .empty).after demo demoReceive).state.db.transactions.CreditCovered [1, 2] :=
  ⟨by decide +kernel, ldk_credits_covered demo [1, 2] (by decide +kernel)
    (.of_after (.start ⟨Table.creditCovered_iff.2 (by simp [demoPool, demoDB, Table.empty]), rfl,
      rfl⟩)
      (by decide +kernel) (by decide +kernel))⟩

/-- A payment of 123 sat that opens a channel; the provider keeps 23 sat. Reference:
`lnclient/ldk/ldk.go:1589 ldkPaymentToTransaction`. -/
def jitPayment : PaymentDetails where
  kind := .bolt11Jit mockHash (some "123preimage") (some 23000)
  succeeded := true
  amountMsat := some 123000
  latestUpdateTimestamp := 1772323200

/-- Alice's app makes an invoice with an opening fee of at most 30 sat, and the node receives the
payment. Reference: `lnclient/ldk/ldk.go:843 MakeInvoice`, `:1804 handleLdkEvent`. -/
def demoJit : List PoolLabel :=
  let invoice : LnTransaction :=
    { invoice := mockInvoice, paymentHash := mockHash, amountMsat := 123000
      feesPaidMsat := estimatedLspFeeMsat { maxTotalOpeningFeeMsat := some 30000 } 123000 }
  let received := handleLdkEvent demo (fun _ => some jitPayment) (.paymentReceived (some ""))
  .spawn (.makeInvoice 123000 "" "" 0 none (some 1) none none) ::
    steps 0 2 { now := demoNow, transaction := .ok invoice } ++
    (received.toList.map fun event => .spawn (.consumeEvent event)) ++ steps 1 3 { now := demoNow }

/-- The app is credited what the payer sent, and the node received less. Reference:
`db/queries/get_isolated_balance.go:12`. -/
theorem credits_skimmed_payment :
    Reachable demo (Fresh fun db => db.transactions.CreditCovered [1]) anyStep
      ((demoPool .empty).after demo demoJit) ∧
    GetIsolatedBalanceMsat ((demoPool .empty).after demo demoJit).state.db.transactions 1 =
      .ok 123000 ∧
    ¬ ((demoPool .empty).after demo demoJit).state.db.transactions.CreditCovered [1] := by
  refine ⟨.of_after (.start ⟨?_, rfl, rfl⟩) Config.allows_any (by decide +kernel),
    by decide +kernel, ?_⟩
  · exact Table.creditCovered_iff.2 (by simp [demoPool, demoDB, Table.empty])
  · intro h
    have hrow := h.row 1 List.mem_cons_self
    revert hrow
    decide +kernel

end AlbyHub
