import AlbyHub.Transactions.Calls
import AlbyHub.Transactions.Ledger

/-!
# What the commands do

One lemma for each command that writes: when it fails nothing changes, and when it succeeds the
lemma says what was found and how the table is changed. From these, a command whose row arguments
are copies of rows makes a `Table.Step` (`exec_step`), and the rows it answers are rows of the table
(`exec_answered`).
-/

namespace AlbyHub

open Go Interaction

section
variable {W : World} {env : Env} {s s' : Hub} {α : Type}

theorem Hub.read_eq {a : α} {r : Except Err α} (h : s.read env a = some (r, s')) :
    s' = s ∧ ((∃ e, r = .error (.database e)) ∨ r = .ok a) := by
  unfold Hub.read at h
  split at h <;> cases h
  · exact ⟨rfl, .inl ⟨_, rfl⟩⟩
  · exact ⟨rfl, .inr rfl⟩

theorem Hub.query_eq {q : ListQuery} {a : α} {r : Except Err α}
    (h : s.query env q a = some (r, s')) : s' = s := by
  unfold Hub.query at h
  split at h
  · exact (Hub.read_eq h).1
  · cases h
    rfl

theorem Hub.lnClient_eq {a : Except String α} {r : Except Err α}
    (h : s.lnClient a = some (r, s')) : s' = s ∧ r = a.mapError .message := by
  cases h; exact ⟨rfl, rfl⟩

/-- A transaction fails without a trace in the database, or commits. Reference: gorm
`Transaction`. -/
theorem Hub.transaction_cases {b : TxResult α × List Event} {r : Except Err α}
    (h : s.transaction env b = some (r, s')) :
    (∃ e, r = .error (.database e) ∧ s' = s) ∨
    (∃ e, b.1 = .error e ∧ r = .error e ∧ s' = { s with published := s.published ++ b.2 }) ∨
    (∃ a db, b.1 = .ok (a, db) ∧ r = .ok a ∧ s' = ⟨db, s.published ++ b.2⟩) := by
  obtain ⟨b, events⟩ := b
  unfold Hub.transaction at h
  split at h
  · cases h; exact .inl ⟨_, rfl, rfl⟩
  · next heq => cases heq; cases h; exact .inr (.inl ⟨_, rfl, rfl, rfl⟩)
  · next heq => cases heq; cases h; exact .inr (.inr ⟨_, _, rfl, rfl, rfl⟩)

/-- A transaction that answers a value has committed. Reference: gorm `Transaction`. -/
theorem Hub.transaction_ok {b : TxResult α × List Event} {a : α}
    (h : s.transaction env b = some (.ok a, s')) :
    ∃ db, b.1 = .ok (a, db) ∧ s' = ⟨db, s.published ++ b.2⟩ := by
  rcases Hub.transaction_cases h with ⟨_, he, -⟩ | ⟨_, -, he, -⟩ | ⟨a', db, hb, ha, hs⟩
  · cases he
  · cases he
  · cases ha; exact ⟨db, hb, hs⟩

/-- A transaction that answers an error has not changed the database. Reference: gorm
`Transaction`. -/
theorem Hub.transaction_error {b : TxResult α × List Event} {e : Err}
    (h : s.transaction env b = some (.error e, s')) :
    s'.db = s.db ∧ ((∃ text, e = .database text) ∨ b.1 = .error e) := by
  rcases Hub.transaction_cases h with ⟨text, he, rfl⟩ | ⟨_, hb, he, rfl⟩ | ⟨_, _, -, he, -⟩
  · cases he; exact ⟨rfl, .inl ⟨text, rfl⟩⟩
  · cases he; exact ⟨rfl, .inr hb⟩
  · cases he

/-- An insertion. Reference: gorm `Create`. -/
theorem createTx_ok {db db' : DB} {row row' : Transaction}
    (h : createTx env db row = .ok (row', db')) :
    row.Storable ∧ row' = db.transactions.created env.now row ∧
      db' = db.withTransactions (db.transactions.create env.now row) := by
  unfold createTx at h
  split at h
  · next hs => cases h; exact ⟨hs, rfl, rfl⟩
  · cases h

theorem createForTx_ok {db db' : DB} {row row' : Transaction}
    (h : createForTx env db row = .ok (row', db')) :
    row.Storable ∧ row' = db.transactions.created env.now row ∧
      db' = db.withTransactions (db.transactions.create env.now row) := by
  unfold createForTx at h
  split at h
  · exact createTx_ok h
  · cases h

theorem validateAndCreate_ok {db db' : DB} {description : String} {row row' : Transaction}
    (h : (validateAndCreate W env db description row).1 = .ok (row', db')) :
    (validateCanPay W env db row.appId row.amountMsat description row.selfPayment).1 = .ok () ∧
      row.Storable ∧ row' = db.transactions.created env.now row ∧
      db' = db.withTransactions (db.transactions.create env.now row) := by
  unfold validateAndCreate at h
  split at h
  · cases h
  · next heq => exact ⟨by rw [heq], createTx_ok h⟩

/-- The insertion of an invoice payment: no other row of the invoice was found settled or pending.
Reference: `transactions/transactions_service.go:360 SendPaymentSync`. -/
theorem sendPaymentTx_ok {db db' : DB} {a : SendPaymentArgs} {row : Transaction}
    (h : (sendPaymentTx W env db a).1 = .ok (row, db')) :
    (∀ r ∈ db.transactions.rows, (a.row env.now).payment = r.payment →
      (env.settledLookupFails = false → r.state ≠ .settled) ∧
        (env.pendingLookupFails = false → r.state ≠ .pending)) ∧
    (validateCanPay W env db a.appId a.paymentAmountMsat a.paymentRequest.description
      a.selfPayment).1 = .ok () ∧
    (a.row env.now).Storable ∧ row = db.transactions.created env.now (a.row env.now) ∧
    db' = db.withTransactions (db.transactions.create env.now (a.row env.now)) := by
  unfold sendPaymentTx at h
  simp only at h
  split at h
  · cases h
  · next hsettled =>
    split at h
    · cases h
    · next hpending =>
      refine ⟨fun r hr hp => ⟨fun hl hs => ?_, fun hl hs => ?_⟩, validateAndCreate_ok h⟩
      · refine hsettled ⟨hl, List.ne_nil_of_mem (Table.mem_select.2 ⟨hr, ?_⟩)⟩
        simp only [Transaction.payment, SendPaymentArgs.row, Prod.mk.injEq] at hp
        simp [Where.Matches, hs, hp]
      · refine hpending ⟨hl, List.ne_nil_of_mem (Table.mem_select.2 ⟨hr, ?_⟩)⟩
        simp only [Transaction.payment, SendPaymentArgs.row, Prod.mk.injEq] at hp
        simp [Where.Matches, hs, hp]

/-- The apps are the same but for the instants of their last settlements. Reference: none. -/
def DB.SameApps (db db' : DB) : Prop :=
  db'.permissions = db.permissions ∧
    db'.apps.map (fun a => (a.id, a.name, a.isolated)) =
      db.apps.map (fun a => (a.id, a.name, a.isolated))

theorem DB.SameApps.refl (db : DB) : db.SameApps db := ⟨rfl, rfl⟩

theorem DB.sameApps_update (db : DB) (id : Nat) (settledAt : Time) :
    db.SameApps (db.updateAppLastSettledTransactionAt id settledAt) := by
  refine ⟨rfl, ?_⟩
  simp [DB.updateAppLastSettledTransactionAt]

/-- The app is there and isolated. Reference: `db/models.go:18 App`. -/
def DB.Isolated (db : DB) (appId : Nat) : Prop := ∃ app ∈ db.apps, app.id = appId ∧
    app.isolated = true

theorem DB.Isolated.sameApps {db db' : DB} {appId : Nat} (h : db.Isolated appId)
    (hs : db.SameApps db') :
    db'.Isolated appId := by
  obtain ⟨app, happ, hid, hiso⟩ := h
  have hmem : (app.id, app.name, app.isolated) ∈
      db'.apps.map fun a => (a.id, a.name, a.isolated) := by
    rw [hs.2]
    exact List.mem_map.2 ⟨app, happ, rfl⟩
  obtain ⟨app', happ', heq⟩ := List.mem_map.1 hmem
  simp only [Prod.mk.injEq] at heq
  exact ⟨app', happ', heq.1.trans hid, heq.2.2.trans hiso⟩

/-- The events of a settlement are that of its row and budget warnings. Reference:
`transactions/transactions_service.go:1622 afterTransactionSettled`. -/
def Transaction.SettlementEvents (row : Transaction) (events : List Event) : Prop :=
  ∃ warnings, events = row.settledEvent :: warnings ∧
    ∀ e ∈ warnings, ∃ name id, e = .budgetWarning name id

theorem checkBudgetUsage_warnings {db : DB} {app : App} {row : Transaction} :
    ∀ e ∈ checkBudgetUsage W env db app row, ∃ name id, e = .budgetWarning name id := by
  intro e he
  unfold checkBudgetUsage at he
  split at he
  · cases he
  · split at he
    · cases he
    · split at he
      · cases he
      · simp only at he
        split at he
        · exact ⟨_, _, List.mem_singleton.1 he⟩
        · cases he

theorem afterTransactionSettled_spec (W : World) (env : Env) (db : DB) (row : Transaction) :
    (afterTransactionSettled W env db row).1.transactions = db.transactions ∧
      db.SameApps (afterTransactionSettled W env db row).1 ∧
      row.SettlementEvents (afterTransactionSettled W env db row).2 := by
  unfold afterTransactionSettled
  split
  · exact ⟨rfl, .refl _, [], rfl, by simp⟩
  · split
    · exact ⟨rfl, .refl _, [], rfl, by simp⟩
    · refine ⟨rfl, DB.sameApps_update .., _, rfl, fun e he => ?_⟩
      split at he
      · exact checkBudgetUsage_warnings e he
      · cases he

/-- A settlement finds the settled row of the payment, or settles the row of the caller's copy.
Reference: `transactions/transactions_service.go:1470 markTransactionSettled`. -/
theorem markTransactionSettledTx_ok {db db' : DB} {row : Transaction} {preimage : String}
    {feeMsat : Nat} {selfPayment : Bool} {a : Settlement}
    (h : markTransactionSettledTx W env db row preimage feeMsat selfPayment = .ok (a, db')) :
    (∃ existing ∈ db.transactions.rows, row.settledFilter.Matches existing ∧
      a = ⟨existing, row, []⟩ ∧ db' = db) ∨
    (db.transactions.select row.settledFilter = [] ∧ feeMsat < 2 ^ 63 ∧
      a.settled = settleUpdate preimage feeMsat selfPayment env.now row ∧ a.copy = a.settled ∧
      a.settled.SettlementEvents a.events ∧ db.SameApps db' ∧ db'.transactions =
        db.transactions.update row.id (settleUpdate preimage feeMsat selfPayment env.now)) := by
  unfold markTransactionSettledTx at h
  split at h
  · next existing hfind =>
    cases h
    obtain ⟨hmem, hm⟩ := Table.mem_select.1 (mem_of_pick hfind)
    exact .inl ⟨existing, hmem, hm, rfl, rfl⟩
  · next hfind =>
    split at h
    · next hfee =>
      cases h
      have hspec := afterTransactionSettled_spec W env (db.withTransactions
        (db.transactions.update row.id (settleUpdate preimage feeMsat selfPayment env.now)))
        (settleUpdate preimage feeMsat selfPayment env.now row)
      exact .inr ⟨pick_eq_none.1 hfind, hfee, rfl, rfl, hspec.2.2, hspec.2.1, hspec.1⟩
    · cases h

/-- A notification finds the settled row of the payment, or inserts a settled row. Reference:
`transactions/transactions_service.go:1528 createSettledTransactionFromNotification`. -/
theorem createSettledTransactionTx_ok {db db' : DB} {row : Transaction} {preimage : String}
    {feeMsat : Nat} {selfPayment : Bool} {a : Settlement}
    (h : createSettledTransactionTx W env db row preimage feeMsat selfPayment = .ok (a, db')) :
    (∃ existing ∈ db.transactions.rows, row.settledFilter.Matches existing ∧
      a = ⟨existing, row, []⟩ ∧ db' = db) ∨
    (db.transactions.select row.settledFilter = [] ∧
      (settleUpdate preimage feeMsat selfPayment env.now row).Storable ∧
      a.settled = db.transactions.created env.now
        (settleUpdate preimage feeMsat selfPayment env.now row) ∧
      a.settled.SettlementEvents a.events ∧ db.SameApps db' ∧ db'.transactions =
        db.transactions.create env.now
          (settleUpdate preimage feeMsat selfPayment env.now row)) := by
  unfold createSettledTransactionTx at h
  split at h
  · next existing hfind =>
    cases h
    obtain ⟨hmem, hm⟩ := Table.mem_select.1 (mem_of_pick hfind)
    exact .inl ⟨existing, hmem, hm, rfl, rfl⟩
  · next hfind =>
    split at h
    · cases h
    · next row' db₁ hcreate =>
      cases h
      obtain ⟨hstore, rfl, rfl⟩ := createTx_ok hcreate
      have hspec := afterTransactionSettled_spec W env (db.withTransactions
        (db.transactions.create env.now
          (settleUpdate preimage feeMsat selfPayment env.now row)))
        (db.transactions.created env.now (settleUpdate preimage feeMsat selfPayment env.now row))
      exact .inr ⟨pick_eq_none.1 hfind, hstore, rfl, hspec.2.2, hspec.2.1, hspec.1⟩

/-- A failure finds the row failed already, or fails it; a settled row is refused. Reference:
`transactions/transactions_service.go:1709 markPaymentFailed`. -/
theorem markPaymentFailedTx_ok {db db' : DB} {row copy : Transaction} {reason : String}
    {marked : Bool} (h : markPaymentFailedTx env db row reason = .ok ((marked, copy), db')) :
    ∃ existing ∈ db.transactions.rows, (row.id ≠ 0 → existing.id = row.id) ∧
      ((existing.state = .failed ∧ marked = false ∧ copy = row ∧ db' = db) ∨
        ((existing.state = .pending ∨ existing.state = .accepted) ∧ marked = true ∧
          copy = failUpdate reason env.now row ∧ db' = db.withTransactions
            (db.transactions.update row.id (failUpdate reason env.now)))) := by
  unfold markPaymentFailedTx at h
  split at h
  · cases h
  · next existing hfind =>
    obtain ⟨hmem, hm⟩ := Table.mem_select.1 (mem_of_pick hfind)
    refine ⟨existing, hmem, fun h0 => hm.1.resolve_left h0, ?_⟩
    split at h
    · next hst => cases h; exact .inl ⟨hst, rfl, rfl, rfl⟩
    · cases h
    · next hst => cases h; exact .inr ⟨.inl hst, rfl, rfl, rfl⟩
    · next hst => cases h; exact .inr ⟨.inr hst, rfl, rfl, rfl⟩

/-- A failure is refused for a settled row only, once the row is there. Reference:
`transactions/transactions_service.go:1739 markPaymentFailed`. -/
theorem markPaymentFailedTx_error {db : DB} {row : Transaction} {reason : String} {e : Err}
    (hrow : db.transactions.Knows row) (h : markPaymentFailedTx env db row reason = .error e) :
    ∃ existing ∈ db.transactions.rows, existing.id = row.id ∧ existing.state = .settled := by
  obtain ⟨r₀, hr₀, hi⟩ := hrow
  have hid : r₀.id = row.id := Transaction.id_of_identity hi
  have hpos : row.id ≠ 0 := by have := db.transactions.id_pos r₀ hr₀; omega
  unfold markPaymentFailedTx at h
  split at h
  · next hfind =>
    have hm : r₀ ∈ db.transactions.select { id := row.id } :=
      Table.mem_select.2 ⟨hr₀, by simp [Where.Matches, hid]⟩
    rw [pick_eq_none.1 hfind] at hm
    cases hm
  · next existing hfind =>
    obtain ⟨hmem, hm⟩ := Table.mem_select.1 (mem_of_pick hfind)
    split at h
    · cases h
    · next hst => exact ⟨existing, hmem, hm.1.resolve_left hpos, hst⟩
    · cases h
    · cases h

/-- An acceptance takes the first pending row of the invoice. Reference:
`transactions/transactions_service.go:993 markHoldInvoiceAccepted`. -/
theorem markHoldInvoiceAcceptedTx_ok {db db' : DB} {paymentRequest paymentHash : String}
    {settleDeadline : Nat} {selfPayment : Bool} {row : Transaction}
    (h : markHoldInvoiceAcceptedTx db paymentRequest paymentHash settleDeadline selfPayment =
      .ok (row, db')) :
    ∃ r ∈ db.transactions.rows, r.Acceptable paymentRequest paymentHash ∧
      row = acceptUpdate settleDeadline selfPayment r ∧ db' = db.withTransactions
        (db.transactions.update r.id (acceptUpdate settleDeadline selfPayment)) := by
  unfold markHoldInvoiceAcceptedTx at h
  split at h
  · cases h
  · next r hfind =>
    cases h
    exact ⟨r, List.mem_of_find?_eq_some hfind, by simpa using List.find?_some hfind, rfl, rfl⟩

/-- Whether the command writes to the database or publishes. Reference: the calls of `Cmd`. -/
def Cmd.writes : Cmd → Bool
  | .publish _ | .create _ | .sendPaymentTx _ | .sendKeysendTx _ | .markTransactionSettledTx _ _ _ _
  | .createSettledTransactionTx _ _ _ _ | .markPaymentFailedTx _ _
  | .markHoldInvoiceAcceptedTx _ _ _ _ | .updateMetadata _ _ => true
  | _ => false

/-- A command that does not write leaves the hub as it is. Reference: none. -/
theorem exec_of_not_writes {c : Cmd} {a : c.Ans} (hc : c.writes = false)
    (hx : exec W s c env = some (a, s')) : s' = s := by
  cases c with
  | now | registerSubscriber => cases hx; rfl
  | randomBytes | find | lookup | findPendingSince | isIsolated => exact (Hub.read_eq hx).1
  | countRows | listRows => exact Hub.query_eq hx
  | lnSendPaymentSync | lnSendKeysend | lnMakeInvoice | lnMakeHoldInvoice | lnSettleHoldInvoice
  | lnCancelHoldInvoice | lnLookupInvoice | lnGetInfo | lnGetBalances =>
    exact (Hub.lnClient_eq hx).1
  | isolatedBalance =>
    simp only [exec] at hx
    split at hx <;> cases hx <;> rfl
  | receiveHoldUpdate =>
    simp only [exec, Option.map_eq_some_iff] at hx
    obtain ⟨_, -, hs⟩ := hx
    cases hs
    rfl
  | takeApp id =>
    -- the transaction is there for the error, and has no events
    have hsame : ∀ {b : TxResult App × List Event} {r : Except Err App}, b.2 = [] →
        (∀ app db, b.1 = .ok (app, db) → db = s.db) → s.transaction env b = some (r, s') →
        s' = s := by
      intro b r hev hdb h
      rcases Hub.transaction_cases h with ⟨_, -, rfl⟩ | ⟨_, -, -, rfl⟩ | ⟨app, db, hb, -, rfl⟩
      · rfl
      · rw [hev, List.append_nil]
      · rw [hev, List.append_nil, hdb app db hb]
    refine hsame ?_ (fun app db hb => ?_) hx
    · split <;> rfl
    · split at hb <;> cases hb
      rfl
  | publish | create | sendPaymentTx | sendKeysendTx | markTransactionSettledTx
  | createSettledTransactionTx | markPaymentFailedTx | markHoldInvoiceAcceptedTx
  | updateMetadata => cases hc

theorem DB.SameApps.withTransactions {db db' : DB} {t : Table} (h : db.SameApps db') :
    db.SameApps (db'.withTransactions t) := h

/-- No command changes an app, but for the instant of its last settlement. Reference:
`transactions/transactions_service.go:1661 updateAppLastSettledTransactionAt`. -/
theorem exec_sameApps {c : Cmd} {a : c.Ans} (hx : exec W s c env = some (a, s')) :
    s.db.SameApps s'.db := by
  have of_transaction : ∀ {α : Type} {b : TxResult α × List Event} {r : Except Err α},
      s.transaction env b = some (r, s') →
      (∀ a db, b.1 = .ok (a, db) → s.db.SameApps db) → s.db.SameApps s'.db := by
    intro α b r h hok
    rcases Hub.transaction_cases h with ⟨_, -, rfl⟩ | ⟨_, -, -, rfl⟩ | ⟨a, db, hb, -, rfl⟩
    · exact .refl _
    · exact .refl _
    · exact hok a db hb
  by_cases hw : c.writes = false
  · rw [exec_of_not_writes hw hx]
    exact .refl _
  · cases c with
    | publish => cases hx; exact .refl _
    | create row =>
      refine of_transaction hx fun a db hb => ?_
      obtain ⟨-, -, rfl⟩ := createForTx_ok hb
      exact .refl _
    | sendPaymentTx args =>
      refine of_transaction hx fun row db hb => ?_
      obtain ⟨-, -, -, -, rfl⟩ := sendPaymentTx_ok hb
      exact .refl _
    | sendKeysendTx row =>
      refine of_transaction hx fun a db hb => ?_
      obtain ⟨-, -, -, rfl⟩ := validateAndCreate_ok hb
      exact .refl _
    | markTransactionSettledTx row preimage feeMsat selfPayment =>
      refine of_transaction hx fun a db hb => ?_
      rcases markTransactionSettledTx_ok hb with ⟨_, -, -, -, rfl⟩ | ⟨-, -, -, -, -, hsame, -⟩
      · exact .refl _
      · exact hsame
    | createSettledTransactionTx row preimage feeMsat selfPayment =>
      refine of_transaction hx fun a db hb => ?_
      rcases createSettledTransactionTx_ok hb with ⟨_, -, -, -, rfl⟩ | ⟨-, -, -, -, hsame, -⟩
      · exact .refl _
      · exact hsame
    | markPaymentFailedTx row reason =>
      refine of_transaction hx fun (marked, copy) db hb => ?_
      obtain ⟨_, -, -, ⟨-, -, -, rfl⟩ | ⟨-, -, -, rfl⟩⟩ := markPaymentFailedTx_ok hb
      · exact .refl _
      · exact .refl _
    | markHoldInvoiceAcceptedTx paymentRequest paymentHash settleDeadline selfPayment =>
      refine of_transaction hx fun a db hb => ?_
      obtain ⟨_, -, -, -, rfl⟩ := markHoldInvoiceAcceptedTx_ok hb
      exact .refl _
    | updateMetadata id metadata =>
      refine of_transaction hx fun a db hb => ?_
      cases hb
      exact .refl _
    | _ => exact absurd rfl hw

/-- The row arguments of a command are what they should be: copies of rows, or pending new ones of
the right type. Reference: none. -/
def Cmd.Sourced (t : Table) : Cmd → Prop
  | .markTransactionSettledTx row _ _ _ | .markPaymentFailedTx row _ => t.Knows row
  | .create row => row.state = .pending ∧ row.type = .incoming
  | .sendKeysendTx row => row.state = .pending ∧ row.type = .outgoing
  | _ => True

/-- The rows that a command answered to its caller as rows of the table. Reference: none. -/
def answeredRows : Call Cmd Cmd.Ans → List Transaction
  | ⟨.find _ _, .ok (some row)⟩ | ⟨.lookup _ _ _, .ok (some row)⟩ => [row]
  | ⟨.findPendingSince _, .ok rows⟩ => rows
  | ⟨.create _, .ok row⟩ | ⟨.sendPaymentTx _, .ok row⟩ | ⟨.sendKeysendTx _, .ok row⟩ => [row]
  | _ => []

theorem Order.mem_of_first {l : List Transaction} {order : Order} {r : Transaction}
    (h : r ∈ order.first l) : r ∈ l := by
  cases order with
  | none => exact h
  | latestUpdated => exact (List.mem_filter.1 h).1

/-- The order of a lookup is strict. Reference: `transactions/transactions_service.go:629
LookupTransaction`. -/
theorem lookupBefore_irrefl (r : Transaction) : lookupBefore W r r = false := by
  cases h : r.settledAt <;> simp [lookupBefore, h]

theorem mem_of_lookupRows {t : Table} {paymentHash : String} {type : Option TransactionType}
    {appId : Option Nat} {r : Transaction} (h : r ∈ lookupRows W t paymentHash type appId) :
    r ∈ t.select { type, paymentHash } ∧ (appId = none ∨ r.appId = appId) := by
  simp only [lookupRows, List.mem_filter, decide_eq_true_eq] at h
  exact h.1

/-- What a command does to the table, with the guard under which it does. Reference: the calls of
`Cmd`. -/
inductive Cmd.Effect (W : World) (env : Env) (db : DB) : Cmd → Table → Prop
  | same {c : Cmd} : Effect W env db c db.transactions
  | create {row : Transaction} : row.Storable →
    Effect W env db (.create row) (db.transactions.create env.now row)
  | sendPayment {a : SendPaymentArgs} : (a.row env.now).Storable →
    (∀ r ∈ db.transactions.rows, (a.row env.now).payment = r.payment →
      (env.settledLookupFails = false → r.state ≠ .settled) ∧
        (env.pendingLookupFails = false → r.state ≠ .pending)) →
    (validateCanPay W env db a.appId a.paymentAmountMsat a.paymentRequest.description
      a.selfPayment).1 = .ok () →
    Effect W env db (.sendPaymentTx a) (db.transactions.create env.now (a.row env.now))
  | sendKeysend {row : Transaction} : row.Storable →
    (validateCanPay W env db row.appId row.amountMsat "" row.selfPayment).1 = .ok () →
    Effect W env db (.sendKeysendTx row) (db.transactions.create env.now row)
  | settle {row : Transaction} {preimage : String} {feeMsat : Nat} {selfPayment : Bool} :
    db.transactions.select row.settledFilter = [] →
    Effect W env db (.markTransactionSettledTx row preimage feeMsat selfPayment)
      (db.transactions.update row.id (settleUpdate preimage feeMsat selfPayment env.now))
  | createSettled {row : Transaction} {preimage : String} {feeMsat : Nat} {selfPayment : Bool} :
    db.transactions.select row.settledFilter = [] →
    Effect W env db (.createSettledTransactionTx row preimage feeMsat selfPayment)
      (db.transactions.create env.now (settleUpdate preimage feeMsat selfPayment env.now row))
  | fail {row existing : Transaction} {reason : String} : existing ∈ db.transactions.rows →
    (row.id ≠ 0 → existing.id = row.id) → existing.state = .pending ∨ existing.state = .accepted →
    Effect W env db (.markPaymentFailedTx row reason)
      (db.transactions.update row.id (failUpdate reason env.now))
  | accept {paymentRequest paymentHash : String} {settleDeadline : Nat} {selfPayment : Bool}
      {r : Transaction} : r ∈ db.transactions.rows → r.Acceptable paymentRequest paymentHash →
    Effect W env db
      (.markHoldInvoiceAcceptedTx paymentRequest paymentHash settleDeadline selfPayment)
      (db.transactions.update r.id (acceptUpdate settleDeadline selfPayment))
  | updateMetadata {id : Nat} {metadata : String} :
    Effect W env db (.updateMetadata id metadata)
      (db.transactions.update id (metadataUpdate metadata))

/-- A command that is executed has one of its effects. Reference: none. -/
theorem exec_effect {c : Cmd} {a : c.Ans} (hx : exec W s c env = some (a, s')) :
    c.Effect W env s.db s'.db.transactions := by
  have of_transaction : ∀ {α : Type} {b : TxResult α × List Event} {r : Except Err α},
      s.transaction env b = some (r, s') →
      (∀ a db, b.1 = .ok (a, db) → c.Effect W env s.db db.transactions) →
      c.Effect W env s.db s'.db.transactions := by
    intro α b r h hok
    rcases Hub.transaction_cases h with ⟨_, -, rfl⟩ | ⟨_, -, -, rfl⟩ | ⟨a, db, hb, -, rfl⟩
    · exact .same
    · exact .same
    · exact hok a db hb
  by_cases hw : c.writes = false
  · rw [exec_of_not_writes hw hx]
    exact .same
  cases c with
  | publish => cases hx; exact .same
  | create row =>
    refine of_transaction hx fun a db hb => ?_
    obtain ⟨hstore, -, rfl⟩ := createForTx_ok hb
    exact .create hstore
  | sendPaymentTx a =>
    refine of_transaction hx fun row db hb => ?_
    obtain ⟨hfree, hpay, hstore, -, rfl⟩ := sendPaymentTx_ok hb
    exact .sendPayment hstore hfree hpay
  | sendKeysendTx row =>
    refine of_transaction hx fun a db hb => ?_
    obtain ⟨hpay, hstore, -, rfl⟩ := validateAndCreate_ok hb
    exact .sendKeysend hstore hpay
  | markTransactionSettledTx row preimage feeMsat selfPayment =>
    refine of_transaction hx fun a db hb => ?_
    rcases markTransactionSettledTx_ok hb with ⟨_, -, -, -, rfl⟩ | ⟨hn, -, -, -, -, -, ht⟩
    · exact .same
    · rw [ht]; exact .settle hn
  | createSettledTransactionTx row preimage feeMsat selfPayment =>
    refine of_transaction hx fun a db hb => ?_
    rcases createSettledTransactionTx_ok hb with ⟨_, -, -, -, rfl⟩ | ⟨hn, -, -, -, -, ht⟩
    · exact .same
    · rw [ht]; exact .createSettled hn
  | markPaymentFailedTx row reason =>
    refine of_transaction hx fun (marked, copy) db hb => ?_
    obtain ⟨existing, hmem, hid, ⟨-, -, -, rfl⟩ | ⟨hst, -, -, rfl⟩⟩ := markPaymentFailedTx_ok hb
    · exact .same
    · exact .fail hmem hid hst
  | markHoldInvoiceAcceptedTx paymentRequest paymentHash settleDeadline selfPayment =>
    refine of_transaction hx fun a db hb => ?_
    obtain ⟨r, hmem, hacc, -, rfl⟩ := markHoldInvoiceAcceptedTx_ok hb
    exact .accept hmem hacc
  | updateMetadata id metadata =>
    refine of_transaction hx fun a db hb => ?_
    cases hb
    exact .updateMetadata
  | _ => exact absurd rfl hw

/-- The failed row is the one that the caller's copy stands for. Reference:
`transactions/transactions_service.go:1720 markPaymentFailed`. -/
theorem Table.Knows.existing_id {t : Table} {row existing : Transaction} (hk : t.Knows row)
    (hid : row.id ≠ 0 → existing.id = row.id) : existing.id = row.id := by
  obtain ⟨r, hr, hi⟩ := hk
  have hpos := t.id_pos r hr
  rw [Transaction.id_of_identity hi] at hpos
  exact hid (Nat.pos_iff_ne_zero.1 hpos)

/-- A command whose row arguments are sourced makes a step of the ledger. Reference: none. -/
theorem exec_step {c : Cmd} {a : c.Ans} (hx : exec W s c env = some (a, s'))
    (hc : c.Sourced s.db.transactions) : s.db.transactions.Step s'.db.transactions := by
  generalize s'.db.transactions = t', exec_effect hx = he
  cases he with
  | same => exact .same
  | create => exact .insert hc.1
  | sendPayment => exact .insert rfl
  | sendKeysend => exact .insert hc.1
  | settle hn => exact .settle hc hn
  | createSettled hn => exact .insertSettled hn
  | fail hmem hid hst => exact .fail hmem (hc.existing_id hid) hst
  | accept hmem hacc => exact .accept hmem hacc.2.2.1 hacc.2.2.2
  | updateMetadata => exact .annotate fun r => ⟨_, rfl⟩

/-- The rows that a command answers are rows of the table. Reference: none. -/
theorem exec_answered {c : Cmd} {a : c.Ans} (hx : exec W s c env = some (a, s')) :
    ∀ r ∈ answeredRows ⟨c, a⟩, r ∈ s'.db.transactions.rows := by
  have of_create : ∀ {b : TxResult Transaction × List Event} {r : Except Err Transaction},
      s.transaction env b = some (r, s') →
      (∀ a db, b.1 = .ok (a, db) → a ∈ db.transactions.rows) →
      ∀ row, r = .ok row → row ∈ s'.db.transactions.rows := by
    rintro b r h hok row rfl
    obtain ⟨db, hb, rfl⟩ := Hub.transaction_ok h
    exact hok _ _ hb
  intro r hr
  unfold answeredRows at hr
  split at hr
  · next q order row heq =>
    cases heq
    rw [List.mem_singleton.1 hr]
    obtain ⟨rfl, ⟨_, he⟩ | he⟩ := Hub.read_eq hx
    · cases he
    · have hm := Order.mem_of_first (mem_of_pick (Except.ok.inj he).symm)
      exact (Table.mem_select.1 hm).1
  · next paymentHash type appId row heq =>
    cases heq
    rw [List.mem_singleton.1 hr]
    obtain ⟨rfl, ⟨_, he⟩ | he⟩ := Hub.read_eq hx
    · cases he
    · have hm := (mem_of_lookupRows (mem_of_pick (Except.ok.inj he).symm)).1
      exact (Table.mem_select.1 hm).1
  · next t rows heq =>
    cases heq
    obtain ⟨rfl, ⟨_, he⟩ | he⟩ := Hub.read_eq hx
    · cases he
    · cases he; exact (List.mem_filter.1 hr).1
  · next row₀ row heq =>
    cases heq
    rw [List.mem_singleton.1 hr]
    refine of_create hx (fun a db hb => ?_) row rfl
    obtain ⟨-, rfl, rfl⟩ := createForTx_ok hb
    exact Table.mem_create.2 (.inr rfl)
  · next args row heq =>
    cases heq
    rw [List.mem_singleton.1 hr]
    refine of_create hx (fun a db hb => ?_) row rfl
    obtain ⟨-, -, -, rfl, rfl⟩ := sendPaymentTx_ok hb
    exact Table.mem_create.2 (.inr rfl)
  · next row₀ row heq =>
    cases heq
    rw [List.mem_singleton.1 hr]
    refine of_create hx (fun a db hb => ?_) row rfl
    obtain ⟨-, -, rfl, rfl⟩ := validateAndCreate_ok hb
    exact Table.mem_create.2 (.inr rfl)
  · cases hr

/-- Every row that the command may write satisfies `p`; a command that edits metadata may write any.
Reference: the calls of `Cmd`. -/
def Cmd.Writes (p : Transaction → Prop) : Cmd → Prop
  | .create row | .sendKeysendTx row | .createSettledTransactionTx row _ _ _
  | .markTransactionSettledTx row _ _ _ | .markPaymentFailedTx row _ => p row
  | .sendPaymentTx a => ∀ now, p (a.row now)
  | .markHoldInvoiceAcceptedTx paymentRequest paymentHash _ _ =>
    ∀ r, r.Acceptable paymentRequest paymentHash → p r
  | .updateMetadata _ _ => False
  | _ => True

/-- A row after a command is an old one, or one that the command writes. `p` speaks of the app and
the payment of a row only. Reference: none. -/
theorem exec_changes {p : Transaction → Prop} {c : Cmd} {a : c.Ans} {r' : Transaction}
    (hp : ∀ r r' : Transaction, r'.appId = r.appId → r'.payment = r.payment → p r → p r')
    (hx : exec W s c env = some (a, s')) (hk : c.Sourced s.db.transactions) (hc : c.Writes p)
    (hr' : r' ∈ s'.db.transactions.rows) : r' ∈ s.db.transactions.rows ∨ p r' := by
  have of_create : ∀ {row : Transaction}, p row →
      r' ∈ (s.db.transactions.create env.now row).rows → r' ∈ s.db.transactions.rows ∨ p r' := by
    intro row hrow hmem
    rcases Table.mem_create.1 hmem with hmem | rfl
    · exact .inl hmem
    · exact .inr (hp row _ rfl rfl hrow)
  have of_update : ∀ {id : Nat} {u : Update}, (∀ r ∈ s.db.transactions.rows, r.id = id → p r) →
      r' ∈ (s.db.transactions.update id u).rows → r' ∈ s.db.transactions.rows ∨ p r' := by
    intro id u hrow hmem
    rcases Table.of_mem_update hmem with ⟨hmem, -⟩ | ⟨r, hr, hid, rfl⟩
    · exact .inl hmem
    · exact .inr (hp r _ (congrArg Identity.appId (u.identity r)) (u.payment r) (hrow r hr hid))
  -- the row that is updated is the one that the copy stands for
  have of_copy : ∀ {row : Transaction}, s.db.transactions.Knows row → p row →
      ∀ r ∈ s.db.transactions.rows, r.id = row.id → p r := by
    intro row hknows hrow r hr hid
    have hi := hknows.identity_of_id hr hid
    exact hp row r (congrArg Identity.appId hi) (Transaction.payment_of_identity hi) hrow
  generalize s'.db.transactions = t', exec_effect hx = he at hr'
  cases he with
  | same => exact .inl hr'
  | create | sendKeysend => exact of_create hc hr'
  | sendPayment => exact of_create (hc env.now) hr'
  | settle => exact of_update (of_copy hk hc) hr'
  | @createSettled row preimage feeMsat selfPayment =>
    exact of_create (hp row (settleUpdate preimage feeMsat selfPayment env.now row) rfl rfl hc) hr'
  | fail => exact of_update (of_copy hk hc) hr'
  | @accept _ _ _ _ r₀ hr₀ hacc =>
    refine of_update (fun r hr hid => ?_) hr'
    rw [Table.eq_of_id hr hr₀ hid]
    exact hc r₀ hacc
  | updateMetadata => cases hc

/-- The row is the new one that was inserted as `row₀`. Reference: gorm `Create`. -/
def Transaction.CreatedFrom (row row₀ : Transaction) : Prop :=
  ∃ id now, row = { row₀ with id, createdAt := now, updatedAt := now }

/-- Whether the event tells that a hold invoice was canceled. Reference:
`transactions/transactions_service.go:1400 CancelHoldInvoice`. -/
def Event.isCancellation : Event → Bool
  | .holdInvoiceCanceled _ => true
  | _ => false

theorem Transaction.SettlementEvents.not_cancellation {row : Transaction} {events : List Event}
    (h : row.SettlementEvents events) : ∀ e ∈ events, e.isCancellation = false := by
  obtain ⟨warnings, rfl, hw⟩ := h
  intro e he
  rcases List.mem_cons.1 he with rfl | he
  · unfold Transaction.settledEvent
    split <;> rfl
  · obtain ⟨_, _, rfl⟩ := hw e he
    rfl

/-- What an answer says, no matter when it was given. Reference: the queries and the transactions of
`Cmd`. -/
def Truthful : Call Cmd Cmd.Ans → Prop
  | ⟨.find q _, .ok (some row)⟩ => q.Matches row
  | ⟨.lookup _ _ appId, .ok (some row)⟩ => appId = none ∨ row.appId = appId
  | ⟨.create row₀, .ok row⟩ | ⟨.sendKeysendTx row₀, .ok row⟩ => row.CreatedFrom row₀
  | ⟨.sendPaymentTx a, .ok row⟩ => ∃ now, row.CreatedFrom (a.row now)
  | ⟨.markTransactionSettledTx _ _ _ _, .ok st⟩ | ⟨.createSettledTransactionTx _ _ _ _, .ok st⟩ =>
    ∀ e ∈ st.events, e.isCancellation = false
  | ⟨.markPaymentFailedTx row _, .ok (_, copy)⟩ => copy.identity = row.identity
  | _ => True

theorem exec_truthful {c : Cmd} {a : c.Ans} (hx : exec W s c env = some (a, s')) :
    Truthful ⟨c, a⟩ := by
  unfold Truthful
  split
  · next q order row heq =>
    cases heq
    obtain ⟨-, ⟨_, he⟩ | he⟩ := Hub.read_eq hx
    · cases he
    · have hm := Order.mem_of_first (mem_of_pick (Except.ok.inj he).symm)
      exact (Table.mem_select.1 hm).2
  · next paymentHash type appId row heq =>
    cases heq
    obtain ⟨-, ⟨_, he⟩ | he⟩ := Hub.read_eq hx
    · cases he
    · exact (mem_of_lookupRows (mem_of_pick (Except.ok.inj he).symm)).2
  · next row₀ row heq =>
    cases heq
    obtain ⟨db, hb, -⟩ := Hub.transaction_ok hx
    obtain ⟨-, rfl, -⟩ := createForTx_ok hb
    exact ⟨_, _, rfl⟩
  · next row₀ row heq =>
    cases heq
    obtain ⟨db, hb, -⟩ := Hub.transaction_ok hx
    obtain ⟨-, -, rfl, -⟩ := validateAndCreate_ok hb
    exact ⟨_, _, rfl⟩
  · next args row heq =>
    cases heq
    obtain ⟨db, hb, -⟩ := Hub.transaction_ok hx
    obtain ⟨-, -, -, rfl, -⟩ := sendPaymentTx_ok hb
    exact ⟨_, _, _, rfl⟩
  · next row preimage feeMsat selfPayment st heq =>
    cases heq
    obtain ⟨db, hb, -⟩ := Hub.transaction_ok hx
    rcases markTransactionSettledTx_ok hb with ⟨_, -, -, rfl, -⟩ | ⟨-, -, -, -, hev, -⟩
    · simp
    · exact hev.not_cancellation
  · next row preimage feeMsat selfPayment st heq =>
    cases heq
    obtain ⟨db, hb, -⟩ := Hub.transaction_ok hx
    rcases createSettledTransactionTx_ok hb with ⟨_, -, -, rfl, -⟩ | ⟨-, -, -, hev, -⟩
    · simp
    · exact hev.not_cancellation
  · next row reason marked copy heq =>
    cases heq
    obtain ⟨db, hb, -⟩ := Hub.transaction_ok hx
    obtain ⟨_, -, -, ⟨-, -, rfl, -⟩ | ⟨-, -, rfl, -⟩⟩ := markPaymentFailedTx_ok hb
    · rfl
    · rfl
  · trivial

/-- The events that are published without a `publish`: those of a refused payment. Reference:
`transactions/transactions_service.go:1176`, `:1200`. -/
def Event.isDenial : Event → Bool
  | .permissionDenied _ _ _ => true
  | _ => false

theorem validateCanPay_denials {db : DB} {appId : Option Nat} {amountMsat : Nat}
    {description : String} {selfPayment : Bool} :
    ∀ e ∈ (validateCanPay W env db appId amountMsat description selfPayment).2,
      e.isDenial = true := by
  have hbalance : ∀ {app : App} {p : AppPermission} {n : Nat},
      ∀ e ∈ (validateIsolatedBalance db app p n description).2, e.isDenial = true := by
    intro app p n e he
    unfold validateIsolatedBalance at he
    split at he
    · cases he
    · split at he
      · rw [List.mem_singleton.1 he]; rfl
      · cases he
  have hbudget : ∀ {app : App} {p : AppPermission} {n : Nat},
      ∀ e ∈ (validateBudget W env db app p n description).2, e.isDenial = true := by
    intro app p n e he
    unfold validateBudget at he
    split at he
    · cases he
    · split at he
      · rw [List.mem_singleton.1 he]; rfl
      · cases he
  intro e he
  unfold validateCanPay at he
  simp only at he
  split at he
  · cases he
  · split at he
    · cases he
    · split at he
      · cases he
      · split at he
        · next heq =>
          split at heq
          · exact hbalance e (by rw [heq]; exact he)
          · cases heq
        · split at he
          · exact hbudget e he
          · cases he

theorem validateAndCreate_denials {db : DB} {description : String} {row : Transaction} :
    ∀ e ∈ (validateAndCreate W env db description row).2, e.isDenial = true := by
  intro e he
  unfold validateAndCreate at he
  split at he <;> next heq => exact validateCanPay_denials e (by rw [heq]; exact he)

theorem sendPaymentTx_denials {db : DB} {a : SendPaymentArgs} :
    ∀ e ∈ (sendPaymentTx W env db a).2, e.isDenial = true := by
  intro e he
  unfold sendPaymentTx at he
  simp only at he
  split at he
  · cases he
  · split at he
    · cases he
    · exact validateAndCreate_denials e he

/-- What a command publishes: the event of a publication, or denials. Reference: none. -/
theorem exec_published {c : Cmd} {a : c.Ans} (hx : exec W s c env = some (a, s')) :
    ∃ events, s'.published = s.published ++ events ∧
      ((∃ e, c = .publish e ∧ events = [e]) ∨
        ((∀ e, c ≠ .publish e) ∧ ∀ e ∈ events, e.isDenial = true)) := by
  have of_eq : (∀ e, c ≠ .publish e) → s' = s → ∃ events, s'.published = s.published ++ events ∧
      ((∃ e, c = .publish e ∧ events = [e]) ∨
        ((∀ e, c ≠ .publish e) ∧ ∀ e ∈ events, e.isDenial = true)) := by
    rintro hc rfl
    exact ⟨[], by simp, .inr ⟨hc, by simp⟩⟩
  have of_transaction : ∀ {α : Type} {b : TxResult α × List Event} {r : Except Err α},
      (∀ e, c ≠ .publish e) → s.transaction env b = some (r, s') →
      (∀ e ∈ b.2, e.isDenial = true) → ∃ events, s'.published = s.published ++ events ∧
      ((∃ e, c = .publish e ∧ events = [e]) ∨
        ((∀ e, c ≠ .publish e) ∧ ∀ e ∈ events, e.isDenial = true)) := by
    intro α b r hc h hb
    rcases Hub.transaction_cases h with ⟨_, -, rfl⟩ | ⟨_, -, -, rfl⟩ | ⟨_, _, -, -, rfl⟩
    · exact of_eq hc rfl
    · exact ⟨b.2, rfl, .inr ⟨hc, hb⟩⟩
    · exact ⟨b.2, rfl, .inr ⟨hc, hb⟩⟩
  by_cases hw : c.writes = false
  · exact of_eq (by rintro e rfl; cases hw) (exec_of_not_writes hw hx)
  cases c with
  | publish e => cases hx; exact ⟨[e], rfl, .inl ⟨e, rfl, rfl⟩⟩
  | sendPaymentTx => exact of_transaction (by simp) hx sendPaymentTx_denials
  | sendKeysendTx => exact of_transaction (by simp) hx validateAndCreate_denials
  | create | markTransactionSettledTx | createSettledTransactionTx | markPaymentFailedTx
  | markHoldInvoiceAcceptedTx | updateMetadata => exact of_transaction (by simp) hx (by simp)
  | _ => exact absurd rfl hw

end

end AlbyHub
