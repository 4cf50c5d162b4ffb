import AlbyHub.Db.Sums
import AlbyHub.Transactions.Attribution
import AlbyHub.Transactions.Events
import AlbyHub.Transactions.Solvency

/-!
# Transfers between wallets

A transfer makes an invoice for the receiving wallet and pays it from the other one. The payment
finds the invoice among the hub's own rows, so no node is involved: the incoming row is settled, and
then the outgoing one. `transfer_exact`: with a node whose invoices carry the amount and are new to
the table, a transfer that succeeds moves the amount, and one that fails moves nothing.
-/

namespace AlbyHub

open Go Interaction

/-- What `Transfer` does: it asks for the LN client, loads apps, and calls the transactions service.
Reference: `api/transactions.go:198 Transfer`. -/
inductive TransferCmd where
  | getLNClient
  | getAppById (id : Nat)
  | service (c : Cmd)

/-- The answer to a command. Reference: the results of the calls of `TransferCmd`. -/
abbrev TransferCmd.Ans : TransferCmd → Type
  | .getLNClient => Bool
  | .getAppById _ => Option App
  | .service c => c.Ans

/-- A program of the API. Reference: none. -/
abbrev TransferProg := Prog TransferCmd TransferCmd.Ans

/-- A call of the transactions service. Reference: `api/transactions.go:221 Transfer`. -/
def Prog.service {α : Type} (p : Svc α) : TransferProg α := Prog.relabel TransferCmd.service p

/-- The app of a wallet is there and isolated. Reference: `api/transactions.go:204 Transfer`. -/
def checkWallet (appId : Option Nat) : TransferProg (Except Err Unit) :=
  match appId with
  | none => return .ok ()
  | some id => do
    match ← Prog.call (R := TransferCmd.Ans) (.getAppById id) with
    | none => return .error (.message "app does not exist")
    | some dbApp =>
      if dbApp.isolated then return .ok () else return .error (.message "app is not isolated")

/-- The two calls of the service. Reference: `api/transactions.go:221 Transfer`. -/
def transferBetween (W : World) (fromAppId toAppId : Option Nat) (amountMsat : Nat)
    (description : String) : Svc (Except Err Unit) := do
  match ← MakeInvoice W amountMsat description "" 0 none toAppId none none with
  | .error e => return .error e
  | .ok transaction => do
    let sent ← SendPaymentSync W transaction.paymentRequest none none fromAppId none
    return sent.map fun _ => ()

/-- Reference: `api/transactions.go:198 Transfer`. -/
def Transfer (W : World) (fromAppId toAppId : Option Nat) (amountMsat : Nat)
    (description : String) : TransferProg (Except Err Unit) := do
  if ← Prog.call (R := TransferCmd.Ans) .getLNClient then
    match ← checkWallet fromAppId with
    | .error e => return .error e
    | .ok () =>
      match ← checkWallet toAppId with
      | .error e => return .error e
      | .ok () =>
        let description := if description = "" then "transfer" else description
        Prog.service (transferBetween W fromAppId toAppId amountMsat description)
  else return .error (.message "LNClient not started")

/-- What a command does while the LN client is `started`, in a database that answers. Reference: the
calls of `TransferCmd`. -/
def execTransfer (W : World) (started : Bool) (s : Hub) :
    (c : TransferCmd) → Env → Option (c.Ans × Hub)
  | .getLNClient, _ => some (started, s)
  | .getAppById id, _ => some (s.db.apps.find? fun a => a.id = id, s)
  | .service c, env => execAnswering W s c env

/-- The isolated balance of an app, which the queries answer where their sums fit. Reference:
`db/queries/get_isolated_balance.go:8 GetIsolatedBalanceMsat`. -/
def Table.isolatedBalance (t : Table) (appId : Nat) : Int :=
  (t.received appId : Int) - t.spent appId

/-- An invoice that the node has made: it carries the amount that was asked for and the payment hash
that the node has answered with it, it is in lower case, and no row has it yet. Reference:
`lnclient/models.go:66 MakeInvoice`, BOLT 11. -/
structure NodeInvoice (W : World) (t : Table) (amountMsat : Int) (tx : LnTransaction) : Prop where
  amount : tx.amountMsat = amountMsat
  carries : ∀ b, W.decodepay tx.invoice = .ok b →
    b.mSatoshi = amountMsat ∧ b.paymentHash = tx.paymentHash
  lower : toLower W.lowerNonAscii tx.invoice = tx.invoice
  nonempty : tx.invoice ≠ ""
  new : ∀ r ∈ t.rows, r.paymentRequest ≠ tx.invoice

/-- The invoices that the node has made during a transfer are such ones. Reference: none. -/
def NodeInvoices (W : World) (t : Table) (h : List (Call TransferCmd TransferCmd.Ans)) : Prop :=
  ∀ amountMsat description descriptionHash expiry throughNodePubkey tx,
    (⟨.service (.lnMakeInvoice amountMsat description descriptionHash expiry throughNodePubkey),
      .ok tx⟩ : Call TransferCmd TransferCmd.Ans) ∈ h → NodeInvoice W t amountMsat tx

/-- The row of an invoice for the wallet. Reference: `transactions/transactions_service.go:224
MakeInvoice`. -/
structure InvoiceRow (wallet : Option Nat) (tx : LnTransaction) (row : Transaction) : Prop where
  appId : row.appId = wallet
  type : row.type = .incoming
  state : row.state = .pending
  amount : row.amountMsat = uint64OfInt tx.amountMsat
  invoice : row.paymentRequest = tx.invoice
  hash : row.paymentHash = tx.paymentHash
  hold : row.hold = false
  storable : row.Storable

/-- The wallet's part in a transfer. Reference: none. -/
def share (wallet : Option Nat) (appId : Nat) (amountMsat : Nat) : Int :=
  if wallet = some appId then amountMsat else 0

section
variable {W : World} {env : Env} {s s' : Hub} {t : Table} {row : Transaction} {appId : Nat}

/-! ## Balances after the commands -/

/-- An unpaid invoice does not count. Reference: `db/queries/get_isolated_balance.go:8
GetIsolatedBalanceMsat`. -/
theorem isolatedBalance_create {now : Time} : (t.create now row).isolatedBalance appId =
    t.isolatedBalance appId + row.receivedBy appId - row.spentBy appId := by
  unfold Table.isolatedBalance
  rw [Table.received_eq_sum, Table.spent_eq_sum, Table.received_eq_sum, Table.spent_eq_sum,
    Table.sum_create, Table.sum_create]
  have hr : (t.created now row).receivedBy appId = row.receivedBy appId := rfl
  have hs : (t.created now row).spentBy appId = row.spentBy appId := rfl
  rw [hr, hs]
  omega

/-- An update changes the balance by what its row counts for. Reference: none. -/
theorem isolatedBalance_update {u : Update} (hr : row ∈ t.rows) :
    (t.update row.id u).isolatedBalance appId + row.receivedBy appId - row.spentBy appId =
      t.isolatedBalance appId + (u row).receivedBy appId - (u row).spentBy appId := by
  have hreceived : (t.update row.id u).sum (·.receivedBy appId) + row.receivedBy appId =
      t.sum (·.receivedBy appId) + (u row).receivedBy appId := Table.sum_update hr
  have hspent : (t.update row.id u).sum (·.spentBy appId) + row.spentBy appId =
      t.sum (·.spentBy appId) + (u row).spentBy appId := Table.sum_update hr
  unfold Table.isolatedBalance
  rw [Table.received_eq_sum, Table.spent_eq_sum, Table.received_eq_sum, Table.spent_eq_sum]
  omega

/-- A transaction in a database that answers fails without a trace, or commits. Reference: gorm
`Transaction`. -/
theorem answering_transaction {α : Type} {b : TxResult α × List Event} {r : Except Err α}
    (h : s.transaction { env with fault := none } b = some (r, s')) :
    (∃ e, b.1 = .error e ∧ r = .error e ∧ s'.db = s.db) ∨
      ∃ a db, b.1 = .ok (a, db) ∧ r = .ok a ∧ s'.db = db := by
  obtain ⟨b, events⟩ := b
  unfold Hub.transaction at h
  cases b with
  | error e =>
    cases h
    exact .inl ⟨e, rfl, rfl, rfl⟩
  | ok x =>
    cases h
    exact .inr ⟨x.1, x.2, rfl, rfl, rfl⟩

/-- Publications leave the database. Reference:
`transactions/transactions_service.go:1655 publishEvents`. -/
theorem answering_publishEvents {events : List Event} {a : Unit}
    (h : (publishEvents events).Runs (execAnswering W) s a s') : s'.db = s.db := by
  have hruns : (publishEvents events).Runs (exec W) s a s' :=
    h.of_exec fun _ _ (env : Env) => ⟨({ env with fault := none } : Env), rfl⟩
  rw [runs_publishEvents.1 hruns]

/-! ## The programs of the service -/

/-- A settlement of a payment that has no settled row fails for want of a preimage only. Reference:
`transactions/transactions_service.go:1470 markTransactionSettled`. -/
theorem answering_settle {preimage : String} {selfPayment : Bool} {a : Except Err Transaction}
    (hn : s.db.transactions.select row.settledFilter = [])
    (h : (markTransactionSettled row preimage 0 selfPayment).Runs (execAnswering W) s a s') :
    (preimage = "" ∧ (∃ e, a = .error e) ∧ s'.db.transactions = s.db.transactions) ∨
      preimage ≠ "" ∧ (∃ r, a = .ok r) ∧ ∃ now, s'.db.transactions =
        s.db.transactions.update row.id (settleUpdate preimage 0 selfPayment now) := by
  obtain ⟨b, s₂, hcopy, rfl, rfl⟩ := Prog.runs_bind.1 h
  unfold settleCopy at hcopy
  split at hcopy
  · next hp =>
    obtain ⟨rfl, rfl⟩ := hcopy
    exact .inl ⟨hp, ⟨_, rfl⟩, rfl⟩
  · next hp =>
    refine .inr ⟨hp, ?_⟩
    obtain ⟨env, x, s₁, hx, hrest⟩ := Prog.runs_call_bind.1 hcopy
    rcases answering_transaction hx with ⟨e, he, -, -⟩ | ⟨st, db, hb, rfl, hdb⟩
    · have hfind : findSettledTransaction { env with fault := none } s.db row = none :=
        pick_eq_none.2 hn
      simp only [markTransactionSettledTx, hfind] at he
      rw [if_pos (Nat.two_pow_pos 63)] at he
      cases he
    · obtain ⟨_, s₃, hpub, rfl, rfl⟩ := Prog.runs_bind.1 hrest
      refine ⟨⟨_, rfl⟩, env.now, ?_⟩
      rw [answering_publishEvents hpub, hdb]
      rcases markTransactionSettledTx_ok hb with ⟨existing, hmem, hm, -⟩ | ⟨-, -, -, -, -, -, ht⟩
      · have hin := Table.mem_select.2 ⟨hmem, hm⟩
        rw [hn] at hin
        cases hin
      · exact ht

/-- The failure of a pending payment is recorded. Reference:
`transactions/transactions_service.go:1709 markPaymentFailed`. -/
theorem answering_fail {reason : String} {a : Except Err (Bool × Transaction)}
    (hr : row ∈ s.db.transactions.rows) (hp : row.state = .pending)
    (h : (markPaymentFailed row reason).Runs (execAnswering W) s a s') :
    ∃ now, s'.db.transactions = s.db.transactions.update row.id (failUpdate reason now) := by
  have hpos := s.db.transactions.id_pos row hr
  have hpending : ∀ existing ∈ s.db.transactions.rows, existing.id = row.id →
      existing.state = .pending := fun existing hmem hid => Table.eq_of_id hmem hr hid ▸ hp
  obtain ⟨env, x, s₁, hx, hrest⟩ := Prog.runs_call_bind.1 h
  rcases answering_transaction hx with ⟨e, he, -, -⟩ | ⟨⟨marked, copy⟩, db, hb, rfl, hdb⟩
  · obtain ⟨existing, hmem, hid, hst⟩ := markPaymentFailedTx_error ⟨row, hr, rfl⟩ he
    rw [hpending existing hmem hid] at hst
    cases hst
  · obtain ⟨_, s₃, hpub, -, rfl⟩ := Prog.runs_bind.1 hrest
    refine ⟨env.now, ?_⟩
    rw [answering_publishEvents hpub, hdb]
    obtain ⟨existing, hmem, hid, ⟨hst, -⟩ | ⟨-, -, -, rfl⟩⟩ := markPaymentFailedTx_ok hb
    · rw [hpending existing hmem (hid (by omega))] at hst
      cases hst
    · rfl

/-- What `MakeInvoice` leaves: nothing, or the row of the node's invoice. Reference:
`transactions/transactions_service.go:166 MakeInvoice`. -/
theorem answering_makeInvoice {amountMsat : Nat} {description : String} {toAppId : Option Nat}
    {h : List (Call Cmd Cmd.Ans)} {a : Except Err Transaction}
    (ht : (MakeInvoice W amountMsat description "" 0 none toAppId none none).Traces
      (execAnswering W) s h a s') :
    ((∃ e, a = .error e) ∧ s'.db.transactions = s.db.transactions) ∨
      ∃ tx now row, ⟨.lnMakeInvoice (int64 amountMsat) description "" (int64 0) none, .ok tx⟩ ∈ h ∧
        InvoiceRow toAppId tx row ∧ a = .ok (s.db.transactions.created now row) ∧
        s'.db.transactions = s.db.transactions.create now row := by
  unfold MakeInvoice at ht
  split at ht
  · obtain ⟨-, rfl, rfl⟩ := ht
    exact .inl ⟨⟨_, rfl⟩, rfl⟩
  · split at ht
    · obtain ⟨-, rfl, rfl⟩ := ht
      exact .inl ⟨⟨_, rfl⟩, rfl⟩
    · simp only [encodeMetadata, overwriteAppId, lookupKey] at ht
      obtain ⟨env, r, s₁, h₁, hx, rfl, hk⟩ := Prog.traces_call_bind.1 ht
      obtain ⟨rfl, hr⟩ := Hub.lnClient_eq hx
      cases r with
      | error e =>
        obtain ⟨-, rfl, rfl⟩ := hk
        exact .inl ⟨⟨_, rfl⟩, rfl⟩
      | ok tx =>
        obtain ⟨env', hx'⟩ := Prog.runs_call.1 hk.runs
        rcases answering_transaction hx' with ⟨e, -, rfl, hdb⟩ | ⟨row', db, hb, rfl, hdb⟩
        · exact .inl ⟨⟨e, rfl⟩, congrArg DB.transactions hdb⟩
        · obtain ⟨hs, rfl, rfl⟩ := createForTx_ok hb
          exact .inr ⟨tx, env'.now, _, List.mem_cons_self, ⟨rfl, rfl, rfl, rfl, rfl, rfl, rfl, hs⟩,
            rfl, congrArg DB.transactions hdb⟩

/-- A lookup in a database that answers. Reference: gorm `Find` with `Limit(1)`. -/
theorem answering_find {q : Where} {a : Except Err (Option Transaction)} {env : Env}
    (hx : execAnswering W s (.find q .none) env = some (a, s')) :
    s' = s ∧ ∃ n, a = .ok (pick n (s.db.transactions.select q)) := by
  cases hx
  exact ⟨rfl, env.pick, rfl⟩

/-- The table has this row of the invoice only. Reference: none. -/
structure OnlyRowOf (t : Table) (row : Transaction) : Prop where
  mem : row ∈ t.rows
  nonempty : row.paymentRequest ≠ ""
  only : ∀ r ∈ t.rows, r.type = row.type → r.paymentRequest = row.paymentRequest → r = row

/-- A pending row that is the only one of its invoice has no settled one. Reference:
`transactions/transactions_service.go:1597 findSettledTransaction`. -/
theorem OnlyRowOf.not_settled (ho : OnlyRowOf t row) (hp : row.state = .pending) :
    t.select row.settledFilter = [] := by
  refine List.eq_nil_iff_forall_not_mem.2 fun r hr => ?_
  obtain ⟨hmem, -, htype, hstate, hreq, -⟩ := Table.mem_select.1 hr
  have heq : r = row := ho.only r hmem (Option.some.inj (htype.resolve_left nofun)).symm
    (hreq.resolve_left ho.nonempty)
  have hsettled := Option.some.inj (hstate.resolve_left nofun)
  rw [heq, hp] at hsettled
  cases hsettled

/-- The payment of an own invoice settles its row, or leaves the table. Reference:
`transactions/transactions_service.go:1055 interceptSelfPayment`. -/
theorem answering_intercept {a : Except Err PayInvoiceResponse}
    (ho : OnlyRowOf s.db.transactions row) (htype : row.type = .incoming)
    (hp : row.state = .pending) (hhold : row.hold = false)
    (h : (interceptSelfPayment row.paymentRequest row.paymentHash).Runs (execAnswering W) s a s') :
    (∃ e, a = .error e) ∧ s'.db.transactions = s.db.transactions ∨
      ∃ preimage now, preimage ≠ "" ∧ a = .ok ⟨preimage, 0⟩ ∧ s'.db.transactions =
        s.db.transactions.update row.id (settleUpdate preimage 0 true now) := by
  obtain ⟨env, r, s₁, hx, hk⟩ := Prog.runs_call_bind.1 h
  obtain ⟨rfl, n, rfl⟩ := answering_find hx
  cases hfound : pick n (s₁.db.transactions.select
      { type := some .incoming
        state := some .pending
        paymentRequest := row.paymentRequest
        paymentHash := row.paymentHash }) with
  | none =>
    rw [hfound] at hk
    obtain ⟨rfl, rfl⟩ := hk
    exact .inl ⟨⟨_, rfl⟩, rfl⟩
  | some found =>
    obtain ⟨hmem, -, hincoming, -, hreq, -⟩ := Table.mem_select.1 (mem_of_pick hfound)
    obtain rfl : found = row := ho.only found hmem
      ((Option.some.inj (hincoming.resolve_left nofun)).symm.trans htype.symm)
      (hreq.resolve_left ho.nonempty)
    rw [hfound] at hk
    simp only [hhold, Bool.false_eq_true, if_false] at hk
    cases hpre : found.preimage with
    | none =>
      rw [hpre] at hk
      obtain ⟨rfl, rfl⟩ := hk
      exact .inl ⟨⟨_, rfl⟩, rfl⟩
    | some preimage =>
      rw [hpre] at hk
      obtain ⟨b, s₂, hsettle, hrest⟩ := Prog.runs_bind.1 hk
      rcases answering_settle (ho.not_settled hp) hsettle with
        ⟨-, ⟨e, rfl⟩, ht⟩ | ⟨hne, ⟨r, rfl⟩, now, ht⟩
      · obtain ⟨rfl, rfl⟩ := hrest
        exact .inl ⟨⟨_, rfl⟩, ht⟩
      · obtain ⟨rfl, rfl⟩ := hrest
        exact .inr ⟨preimage, now, hne, rfl, ht⟩

/-- The balances are those of another table. Reference: none. -/
def SameBalances (t t' : Table) : Prop :=
  ∀ appId, t'.isolatedBalance appId = t.isolatedBalance appId

/-- The amount has moved. Reference: none. -/
def Moved (fromAppId toAppId : Option Nat) (amountMsat : Nat) (t t' : Table) : Prop :=
  ∀ appId, t'.isolatedBalance appId = t.isolatedBalance appId + share toAppId appId amountMsat -
    share fromAppId appId amountMsat

/-- Another row stays the only one of its invoice. Reference: none. -/
theorem OnlyRowOf.update {out : Transaction} {u : Update} (ho : OnlyRowOf t out)
    (hr : row ∈ t.rows) (hne : row.type ≠ out.type) (htype : (u row).type = row.type) :
    OnlyRowOf (t.update row.id u) out := by
  refine ⟨Table.mem_update_of_ne ho.mem fun hid => hne ?_, ho.nonempty, fun r hmem ht hreq => ?_⟩
  · rw [Table.eq_of_id ho.mem hr hid]
  · obtain ⟨r₀, h₀, rfl⟩ := Table.mem_update.1 hmem
    by_cases hid : r₀.id = row.id
    · obtain rfl := Table.eq_of_id h₀ hr hid
      rw [Table.updateRow_of_eq rfl, htype] at ht
      exact absurd ht hne
    · rw [Table.updateRow_of_ne hid] at ht hreq ⊢
      exact ho.only r₀ h₀ ht hreq

/-- The two rows of a transfer, both unpaid. Reference: `transactions/transactions_service.go:397
SendPaymentSync`. -/
structure Legs (t : Table) (fromAppId toAppId : Option Nat) (amountMsat : Nat)
    (row out : Transaction) : Prop where
  incoming : OnlyRowOf t row
  incomingType : row.type = .incoming
  incomingState : row.state = .pending
  hold : row.hold = false
  incomingApp : row.appId = toAppId
  incomingAmount : row.amountMsat = amountMsat
  outgoing : OnlyRowOf t out
  outgoingType : out.type = .outgoing
  outgoingState : out.state = .pending
  outgoingApp : out.appId = fromAppId
  outgoingAmount : out.amountMsat = amountMsat

/-- A payment receives nothing. Reference: `db/queries/get_isolated_balance.go:12`. -/
theorem Transaction.receivedBy_of_outgoing (h : row.type = .outgoing) : row.receivedBy appId = 0 :=
  if_neg fun hr => by rw [hr.2.1] at h; cases h

/-- A settled invoice receives its amount. Reference: `db/queries/get_isolated_balance.go:12`. -/
theorem Transaction.receivedBy_of_settled (htype : row.type = .incoming)
    (hstate : row.state = .settled) :
    (row.receivedBy appId : Int) = share row.appId appId row.amountMsat := by
  unfold share Transaction.receivedBy
  by_cases happ : row.appId = some appId
  · rw [if_pos ⟨happ, htype, hstate⟩, if_pos happ]
  · rw [if_neg fun hr => happ hr.1, if_neg happ]
    rfl

/-- A settled payment without a fee spends its amount. Reference:
`db/queries/get_isolated_balance.go:27`. -/
theorem Transaction.spentBy_of_settled (htype : row.type = .outgoing)
    (hstate : row.state = .settled) (hcharge : row.charge = row.amountMsat) :
    (row.spentBy appId : Int) = share row.appId appId row.amountMsat := by
  unfold share Transaction.spentBy
  by_cases happ : row.appId = some appId
  · rw [if_pos ⟨happ, htype, .inl hstate⟩, if_pos happ, hcharge]
  · rw [if_neg fun hr => happ hr.1, if_neg happ]
    rfl

/-- Failing the outgoing row gives its reservation back. Reference:
`transactions/transactions_service.go:1744 markPaymentFailed`. -/
theorem isolatedBalance_fail {reason : String} {now : Time} (hr : row ∈ t.rows)
    (htype : row.type = .outgoing) :
    (t.update row.id (failUpdate reason now)).isolatedBalance appId =
      t.isolatedBalance appId + row.spentBy appId := by
  have h := @isolatedBalance_update t row appId (failUpdate reason now) hr
  have hreceived : row.receivedBy appId = 0 := Transaction.receivedBy_of_outgoing htype
  have hreceived' : (failUpdate reason now row).receivedBy appId = 0 :=
    Transaction.receivedBy_of_outgoing htype
  have hspent : (failUpdate reason now row).spentBy appId = 0 :=
    Transaction.spentBy_eq_zero (.inr (.inr (.inl rfl)))
  omega

/-- Settling the outgoing row leaves its amount spent. Reference:
`transactions/transactions_service.go:1489 markTransactionSettled`. -/
theorem isolatedBalance_sent {preimage : String} {now : Time} (hr : row ∈ t.rows)
    (htype : row.type = .outgoing) :
    (t.update row.id (settleUpdate preimage 0 true now)).isolatedBalance appId =
      t.isolatedBalance appId + row.spentBy appId - share row.appId appId row.amountMsat := by
  have h := @isolatedBalance_update t row appId (settleUpdate preimage 0 true now) hr
  have hreceived : row.receivedBy appId = 0 := Transaction.receivedBy_of_outgoing htype
  have hreceived' : (settleUpdate preimage 0 true now row).receivedBy appId = 0 :=
    Transaction.receivedBy_of_outgoing htype
  have hspent : ((settleUpdate preimage 0 true now row).spentBy appId : Int) =
      share row.appId appId row.amountMsat :=
    @Transaction.spentBy_of_settled (settleUpdate preimage 0 true now row) appId htype rfl rfl
  omega

/-- Settling the incoming row receives its amount. Reference:
`transactions/transactions_service.go:1489 markTransactionSettled`. -/
theorem isolatedBalance_received {preimage : String} {now : Time} (hr : row ∈ t.rows)
    (htype : row.type = .incoming) (hstate : row.state = .pending) :
    (t.update row.id (settleUpdate preimage 0 true now)).isolatedBalance appId =
      t.isolatedBalance appId + share row.appId appId row.amountMsat := by
  have h := @isolatedBalance_update t row appId (settleUpdate preimage 0 true now) hr
  have hspent : row.spentBy appId = 0 := Transaction.spentBy_eq_zero (.inr (.inl htype))
  have hspent' : (settleUpdate preimage 0 true now row).spentBy appId = 0 :=
    Transaction.spentBy_eq_zero (.inr (.inl htype))
  have hreceived : row.receivedBy appId = 0 :=
    Transaction.receivedBy_eq_zero (by rw [hstate]; nofun)
  have hreceived' : ((settleUpdate preimage 0 true now row).receivedBy appId : Int) =
      share row.appId appId row.amountMsat :=
    @Transaction.receivedBy_of_settled (settleUpdate preimage 0 true now row) appId htype rfl
  omega

/-- The payment of an own invoice settles both rows, or fails the outgoing one. Reference:
`transactions/transactions_service.go:434 SendPaymentSync`. -/
theorem answering_pay {out : Transaction} {a : Except Err Transaction}
    {fromAppId toAppId : Option Nat} {amountMsat : Nat}
    (hl : Legs s.db.transactions fromAppId toAppId amountMsat row out)
    (h : (SendPaymentSync.pay row.paymentRequest none row.paymentHash true out).Runs
      (execAnswering W) s a s') :
    (∃ e, a = .error e) ∧ (∀ appId, s'.db.transactions.isolatedBalance appId =
        s.db.transactions.isolatedBalance appId + out.spentBy appId) ∨
      (∃ r, a = .ok r) ∧ ∀ appId, s'.db.transactions.isolatedBalance appId =
        s.db.transactions.isolatedBalance appId + out.spentBy appId +
          share toAppId appId amountMsat - share fromAppId appId amountMsat := by
  unfold SendPaymentSync.pay at h
  obtain ⟨response, s₁, hresponse, hfinish⟩ := Prog.runs_bind.1 h
  rcases answering_intercept hl.incoming hl.incomingType hl.incomingState hl.hold hresponse with
    ⟨⟨e, rfl⟩, ht⟩ | ⟨preimage, now, hpre, rfl, ht⟩
  · obtain ⟨_, s₂, hfail, rfl, rfl⟩ := Prog.runs_bind.1 hfinish
    have hout : out ∈ s₁.db.transactions.rows := by rw [ht]; exact hl.outgoing.mem
    obtain ⟨now, ht'⟩ := answering_fail hout hl.outgoingState hfail
    refine .inl ⟨⟨e, rfl⟩, fun appId => ?_⟩
    rw [ht', isolatedBalance_fail hout hl.outgoingType, ht]
  · have htypes : row.type ≠ out.type := by rw [hl.incomingType, hl.outgoingType]; nofun
    have hout : OnlyRowOf s₁.db.transactions out :=
      ht ▸ hl.outgoing.update hl.incoming.mem htypes rfl
    rcases answering_settle (hout.not_settled hl.outgoingState) hfinish with
      ⟨hempty, -, -⟩ | ⟨-, hok, now', ht'⟩
    · exact absurd hempty hpre
    · refine .inr ⟨hok, fun appId => ?_⟩
      rw [ht', isolatedBalance_sent hout.mem hl.outgoingType, ht,
        isolatedBalance_received hl.incoming.mem hl.incomingType hl.incomingState,
        hl.incomingApp, hl.incomingAmount, hl.outgoingApp, hl.outgoingAmount]
      omega

/-- The row of an invoice of the hub that nobody has paid yet, and the only one of the invoice.
Reference: `transactions/transactions_service.go:224 MakeInvoice`. -/
structure OwnInvoice (W : World) (t : Table) (toAppId : Option Nat) (amountMsat : Nat)
    (row : Transaction) : Prop where
  mem : row ∈ t.rows
  only : ∀ r ∈ t.rows, r.paymentRequest = row.paymentRequest → r = row
  nonempty : row.paymentRequest ≠ ""
  type : row.type = .incoming
  state : row.state = .pending
  hold : row.hold = false
  appId : row.appId = toAppId
  amount : row.amountMsat = amountMsat
  lower : toLower W.lowerNonAscii row.paymentRequest = row.paymentRequest
  carries : ∀ b, W.decodepay row.paymentRequest = .ok b →
    uint64OfInt b.mSatoshi = amountMsat ∧ b.paymentHash = row.paymentHash

/-- `MakeInvoice` leaves such a row. Reference: `transactions/transactions_service.go:224
MakeInvoice`. -/
theorem InvoiceRow.ownInvoice {toAppId : Option Nat} {tx : LnTransaction} {now : Time}
    {amountMsat : Nat} (hamount : amountMsat < 2 ^ 64) (hi : InvoiceRow toAppId tx row)
    (hn : NodeInvoice W t (int64 amountMsat) tx) :
    OwnInvoice W (t.create now row) toAppId amountMsat (t.created now row) := by
  have hreq : (t.created now row).paymentRequest = tx.invoice := hi.invoice
  refine ⟨Table.mem_create.2 (.inr rfl), fun r hr hsame => ?_, hreq ▸ hn.nonempty, hi.type,
    hi.state, hi.hold, hi.appId, ?_, hreq ▸ hn.lower, fun b hb => ?_⟩
  · rcases Table.mem_create.1 hr with hold | hnew
    · exact absurd (hsame.trans hreq) (hn.new r hold)
    · exact hnew
  · change row.amountMsat = amountMsat
    rw [hi.amount, hn.amount, uint64OfInt_int64 hamount]
  · rw [hreq] at hb
    obtain ⟨hmsat, hhash⟩ := hn.carries b hb
    exact ⟨by rw [hmsat, uint64OfInt_int64 hamount], hhash.trans hi.hash.symm⟩

theorem OwnInvoice.onlyRowOf {toAppId : Option Nat} {amountMsat : Nat}
    (ho : OwnInvoice W t toAppId amountMsat row) : OnlyRowOf t row :=
  ⟨ho.mem, ho.nonempty, fun r hr _ => ho.only r hr⟩

/-- A row of another type is no further row of the invoice. Reference: none. -/
theorem OnlyRowOf.create {other : Transaction} {now : Time} (ho : OnlyRowOf t row)
    (htype : other.type ≠ row.type) : OnlyRowOf (t.create now other) row := by
  refine ⟨Table.mem_create.2 (.inl ho.mem), ho.nonempty, fun r hr hsame hreq => ?_⟩
  rcases Table.mem_create.1 hr with hold | rfl
  · exact ho.only r hold hsame hreq
  · exact absurd hsame htype

/-- The two rows once the payment has its own. Reference:
`transactions/transactions_service.go:397 SendPaymentSync`. -/
theorem OwnInvoice.legs {fromAppId toAppId : Option Nat} {amountMsat : Nat} {out : Transaction}
    {now : Time} (ho : OwnInvoice W t toAppId amountMsat row) (htype : out.type = .outgoing)
    (hstate : out.state = .pending) (happ : out.appId = fromAppId)
    (hamount : out.amountMsat = amountMsat) (hreq : out.paymentRequest = row.paymentRequest) :
    Legs (t.create now out) fromAppId toAppId amountMsat row (t.created now out) := by
  have hne : out.type ≠ row.type := by rw [htype, ho.type]; nofun
  have hreq' : (t.created now out).paymentRequest = row.paymentRequest := hreq
  refine ⟨ho.onlyRowOf.create hne, ho.type, ho.state, ho.hold, ho.appId, ho.amount,
    ⟨Table.mem_create.2 (.inr rfl), hreq' ▸ ho.nonempty, fun r hr hsame hr' => ?_⟩, htype, hstate,
    happ, hamount⟩
  rcases Table.mem_create.1 hr with hold | hnew
  · rw [ho.only r hold (hr'.trans hreq')] at hsame
    exact absurd hsame.symm hne
  · exact hnew

/-- The lookup among the incoming rows finds the invoice. Reference:
`transactions/transactions_service.go:346 SendPaymentSync`. -/
theorem OwnInvoice.selfPayment {toAppId : Option Nat} {amountMsat n : Nat}
    (ho : OwnInvoice W t toAppId amountMsat row) :
    isSelfPayment (.ok (pick n (t.select
      { type := some .incoming
        paymentHash := row.paymentHash
        paymentRequest := row.paymentRequest }))) = true := by
  cases hfound : pick n (t.select
    { type := some .incoming
      paymentHash := row.paymentHash
      paymentRequest := row.paymentRequest }) with
  | some found => rfl
  | none =>
    have hrow : row ∈ t.select
        { type := some .incoming
          paymentHash := row.paymentHash
          paymentRequest := row.paymentRequest } :=
      Table.mem_select.2 ⟨ho.mem, .inl rfl, .inr (congrArg some ho.type.symm), .inl rfl, .inr rfl,
        .inr rfl⟩
    rw [pick_eq_none.1 hfound] at hrow
    cases hrow

/-- The attempt to pay, after the outgoing row was inserted: its reservation is given back, or
becomes the amount. Reference: `transactions/transactions_service.go:434 SendPaymentSync`. -/
theorem answering_paid {a : Except Err Transaction} {fromAppId toAppId : Option Nat}
    {amountMsat : Nat} {out : Transaction} {now : Time} {paymentHash : String} {selfPayment : Bool}
    (ho : OwnInvoice W t toAppId amountMsat row) (ht : s.db.transactions = t.create now out)
    (htype : out.type = .outgoing) (hstate : out.state = .pending) (happ : out.appId = fromAppId)
    (hamount : out.amountMsat = amountMsat) (hreq : out.paymentRequest = row.paymentRequest)
    (hhash : paymentHash = row.paymentHash) (hself : selfPayment = true)
    (h : (SendPaymentSync.pay row.paymentRequest none paymentHash selfPayment
      (t.created now out)).Runs (execAnswering W) s a s') :
    (∃ e, a = .error e) ∧ SameBalances t s'.db.transactions ∨
      (∃ r, a = .ok r) ∧ Moved fromAppId toAppId amountMsat t s'.db.transactions := by
  subst hhash hself
  have hcreated : ∀ appId, s.db.transactions.isolatedBalance appId =
      t.isolatedBalance appId - (t.created now out).spentBy appId := fun appId => by
    have hsum := @isolatedBalance_create t out appId now
    have hzero : out.receivedBy appId = 0 := Transaction.receivedBy_of_outgoing htype
    have hsame : (t.created now out).spentBy appId = out.spentBy appId := rfl
    rw [ht]
    omega
  have hlegs : Legs s.db.transactions fromAppId toAppId amountMsat row (t.created now out) :=
    ht ▸ ho.legs htype hstate happ hamount hreq
  rcases answering_pay hlegs h with ⟨he, hb⟩ | ⟨hr, hb⟩
  · refine .inl ⟨he, fun appId => ?_⟩
    rw [hb, hcreated]
    omega
  · refine .inr ⟨hr, fun appId => ?_⟩
    rw [hb, hcreated]
    omega

/-- The payment of an invoice that the hub has just made moves the amount, or leaves the balances.
Reference: `transactions/transactions_service.go:301 SendPaymentSync`. -/
theorem answering_sendPayment {a : Except Err Transaction} {fromAppId toAppId : Option Nat}
    {amountMsat : Nat} (ho : OwnInvoice W s.db.transactions toAppId amountMsat row)
    (h : (SendPaymentSync W row.paymentRequest none none fromAppId none).Runs
      (execAnswering W) s a s') :
    (∃ e, a = .error e) ∧ SameBalances s.db.transactions s'.db.transactions ∨
      (∃ r, a = .ok r) ∧
        Moved fromAppId toAppId amountMsat s.db.transactions s'.db.transactions := by
  unfold SendPaymentSync at h
  simp only [encodeMetadata] at h
  rw [ho.lower] at h
  cases hdecode : W.decodepay row.paymentRequest with
  | error e =>
    rw [hdecode] at h
    obtain ⟨rfl, rfl⟩ := h
    exact .inl ⟨⟨_, rfl⟩, fun _ => rfl⟩
  | ok paymentRequest =>
    obtain ⟨hmsat, hhash⟩ := ho.carries paymentRequest hdecode
    rw [hdecode] at h
    obtain ⟨_, time, s₁, hx, hk⟩ := Prog.runs_call_bind.1 h
    obtain rfl : s₁ = s := by cases hx; rfl
    split at hk
    · obtain ⟨rfl, rfl⟩ := hk
      exact .inl ⟨⟨_, rfl⟩, fun _ => rfl⟩
    obtain ⟨_, incoming, s₂, hfind, hk⟩ := Prog.runs_call_bind.1 hk
    obtain ⟨rfl, n, rfl⟩ := answering_find hfind
    have hself := @OwnInvoice.selfPayment W s₂.db.transactions row toAppId amountMsat n ho
    rw [← hhash] at hself
    obtain ⟨env', b, s₃, hpay, hk⟩ := Prog.runs_call_bind.1 hk
    rcases answering_transaction hpay with ⟨e, -, rfl, hdb⟩ | ⟨out, db, hb, rfl, hdb⟩
    · obtain ⟨rfl, rfl⟩ := hk
      exact .inl ⟨⟨e, rfl⟩, fun _ => by rw [hdb]⟩
    · obtain ⟨-, -, -, rfl, rfl⟩ := sendPaymentTx_ok hb
      exact answering_paid ho (congrArg DB.transactions hdb) rfl rfl rfl hmsat rfl hhash hself hk

/-- What holds of the balances once a transfer has answered. Reference: none. -/
def Transferred (fromAppId toAppId : Option Nat) (amountMsat : Nat) (t t' : Table) :
    Except Err Unit → Prop
  | .ok () => Moved fromAppId toAppId amountMsat t t'
  | .error _ => SameBalances t t'

/-- The two calls move the amount, or leave the balances. Reference: `api/transactions.go:221
Transfer`. -/
theorem answering_transferBetween {fromAppId toAppId : Option Nat} {amountMsat : Nat}
    {description : String} {h : List (Call Cmd Cmd.Ans)} {a : Except Err Unit}
    (hamount : amountMsat < 2 ^ 64)
    (hn : ∀ tx, ⟨.lnMakeInvoice (int64 amountMsat) description "" (int64 0) none, .ok tx⟩ ∈ h →
      NodeInvoice W s.db.transactions (int64 amountMsat) tx)
    (ht : (transferBetween W fromAppId toAppId amountMsat description).Traces
      (execAnswering W) s h a s') :
    Transferred fromAppId toAppId amountMsat s.db.transactions s'.db.transactions a := by
  obtain ⟨h₁, made, s₁, h₂, rfl, hmake, hrest⟩ := Prog.traces_bind.1 ht
  rcases answering_makeInvoice hmake with ⟨⟨e, rfl⟩, hsame⟩ | ⟨tx, now, row, hcall, hi, rfl, hnew⟩
  · obtain ⟨-, rfl, rfl⟩ := hrest
    exact fun appId => by rw [hsame]
  · -- the invoice's row counts for no balance before it is settled
    have hown : OwnInvoice W s₁.db.transactions toAppId amountMsat
        (s.db.transactions.created now row) :=
      hnew ▸ hi.ownInvoice hamount (hn tx (List.mem_append_left _ hcall))
    have hbalance : SameBalances s.db.transactions s₁.db.transactions := fun appId => by
      have hsum := @isolatedBalance_create s.db.transactions row appId now
      have hspent : row.spentBy appId = 0 := Transaction.spentBy_eq_zero (.inr (.inl hi.type))
      have hreceived : row.receivedBy appId = 0 :=
        Transaction.receivedBy_eq_zero (by rw [hi.state]; nofun)
      rw [hnew]
      omega
    obtain ⟨sent, s₂, hpay, rfl, rfl⟩ := Prog.runs_bind.1 hrest.runs
    rcases answering_sendPayment hown hpay with ⟨⟨e, rfl⟩, hb⟩ | ⟨⟨r, rfl⟩, hb⟩
    · exact fun appId => (hb appId).trans (hbalance appId)
    · exact fun appId => by rw [hb appId, hbalance appId]

end

/-- A check of a wallet leaves the hub. Reference: `api/transactions.go:204 Transfer`. -/
theorem traces_checkWallet {W : World} {started : Bool} {s s' : Hub} {appId : Option Nat}
    {h : List (Call TransferCmd TransferCmd.Ans)} {a : Except Err Unit}
    (ht : (checkWallet appId).Traces (execTransfer W started) s h a s') : s' = s := by
  unfold checkWallet at ht
  cases appId with
  | none => exact ht.2.2
  | some id =>
    obtain ⟨_, found, s₁, h', hx, -, hk⟩ := Prog.traces_call_bind.1 ht
    cases hx
    cases hfound : s.db.apps.find? fun a => a.id = id with
    | none =>
      rw [hfound] at hk
      exact hk.2.2
    | some dbApp =>
      rw [hfound] at hk
      simp only at hk
      split at hk
      · exact hk.2.2
      · exact hk.2.2

/-- A call of the service runs as it does alone. Reference: none. -/
theorem traces_service {α : Type} {W : World} {started : Bool} {s s' : Hub} {p : Svc α}
    {h : List (Call TransferCmd TransferCmd.Ans)} {a : α}
    (ht : (Prog.service p).Traces (execTransfer W started) s h a s') :
    ∃ calls, h = calls.map (fun call => ⟨.service call.cmd, call.answer⟩) ∧
      p.Traces (execAnswering W) s calls a s' :=
  Prog.Traces.of_relabel (fun _ _ _ => rfl) ht

/-- A transfer that succeeds moves exactly the amount, and one that fails at any step moves
nothing. Reference: `api/transactions.go:198 Transfer`. -/
theorem transfer_exact (W : World) (s s' : Hub) (started : Bool) (fromAppId toAppId : Option Nat)
    (amountMsat : Nat) (description : String) (h : List (Call TransferCmd TransferCmd.Ans))
    (r : Except Err Unit) (hamount : amountMsat < 2 ^ 64)
    (hn : NodeInvoices W s.db.transactions h)
    (ht : (Transfer W fromAppId toAppId amountMsat description).Traces (execTransfer W started)
      s h r s') :
    Transferred fromAppId toAppId amountMsat s.db.transactions s'.db.transactions r := by
  obtain ⟨_, there, s₁, h₁, hx, rfl, hk⟩ := Prog.traces_call_bind.1 ht
  cases hx
  split at hk
  · obtain ⟨h₂, checked, s₂, h₃, rfl, hcheck, hk⟩ := Prog.traces_bind.1 hk
    obtain rfl := traces_checkWallet hcheck
    rcases checked with e | ⟨⟩
    · obtain ⟨-, rfl, rfl⟩ := hk
      exact fun _ => rfl
    obtain ⟨h₄, checked, s₃, h₅, rfl, hcheck', hk⟩ := Prog.traces_bind.1 hk
    obtain rfl := traces_checkWallet hcheck'
    rcases checked with e | ⟨⟩
    · obtain ⟨-, rfl, rfl⟩ := hk
      exact fun _ => rfl
    obtain ⟨h₆, rfl, hcalls⟩ := traces_service hk
    refine answering_transferBetween hamount (fun tx htx => ?_) hcalls
    refine hn _ _ _ _ _ tx (List.mem_cons_of_mem _ (List.mem_append_right _
      (List.mem_append_right _ (List.mem_map.2 ⟨_, htx, rfl⟩))))
  · obtain ⟨-, rfl, rfl⟩ := hk
    exact fun _ => rfl

def demoLnTransaction : LnTransaction where
  invoice := mockInvoice
  preimage := wrappedPreimage
  paymentHash := mockHash
  amountMsat := 123000

def demoTransferInvoice : Bolt11 := ⟨123000, mockHash, "te", "", 1734375307, 3153600000⟩

def demoTransferWorld : World := { demo with
  decodepay := fun s =>
    if s = mockInvoice then .ok demoTransferInvoice else .error "invalid bech32 string" }

/-- The first app has received 200000 msat. Reference: none. -/
def demoTransferHub : Hub where
  db := demoDB (Table.empty.create 0
    { appId := some 1, type := .incoming, state := .settled, amountMsat := 200000 })
  published := []

/-- The node makes one invoice, of 123 sat. Reference: none. -/
def demoTransferEnv : TransferCmd → Env
  | .service (.lnMakeInvoice amountMsat _ _ _ _) => {
    transaction := if amountMsat = 123000 then .ok demoLnTransaction else .error "no invoice" }
  | _ => { now := Time.unix 1734375400 }

/-- The second app's row for the invoice. Reference: none. -/
def demoTransferRow : Transaction where
  appId := some 2
  type := .incoming
  state := .pending
  amountMsat := 123000
  description := "lunch"
  paymentRequest := mockInvoice
  paymentHash := mockHash
  preimage := some wrappedPreimage

def demoTransferMade : Hub where
  db := demoTransferHub.db.withTransactions
    (demoTransferHub.db.transactions.create (Time.unix 1734375400) demoTransferRow)
  published := []

theorem demoTransfer_make : (MakeInvoice demoTransferWorld 123000 "lunch" "" 0 none (some 2) none
    none).play (execAnswering demoTransferWorld) (fun _ s => s)
    (fun c => demoTransferEnv (.service c)) demoTransferHub =
      some (.ok (demoTransferHub.db.transactions.created (Time.unix 1734375400) demoTransferRow),
        demoTransferMade) := rfl

theorem demoTransfer_decodes :
    demoTransferWorld.decodepay mockInvoice = .ok demoTransferInvoice := by
  simp only [demoTransferWorld, if_true]

theorem demoTransfer_send : ((SendPaymentSync demoTransferWorld mockInvoice none none (some 1)
    none).play (execAnswering demoTransferWorld) (fun _ s => s)
    (fun c => demoTransferEnv (.service c)) demoTransferMade).map (fun x => x.1.toBool) =
      some true := by
  have hlower : toLower demoTransferWorld.lowerNonAscii mockInvoice = mockInvoice :=
    toLower_mockInvoice
  -- the program is rewritten to the lowered invoice, which is slow to compute
  rw [SendPaymentSync, hlower]
  simp only [encodeMetadata, demoTransfer_decodes]
  decide +kernel

theorem demoTransfer_request : (demoTransferHub.db.transactions.created (Time.unix 1734375400)
    demoTransferRow).paymentRequest = mockInvoice := rfl

/-- The two calls succeed. Reference: none. -/
theorem demoTransfer_run : ∃ s', (Transfer demoTransferWorld (some 1) (some 2) 123000 "lunch").play
    (execTransfer demoTransferWorld true) (fun _ s => s) demoTransferEnv demoTransferHub =
      some (.ok (), s') := by
  obtain ⟨⟨sent, s'⟩, hsend, hok⟩ := Option.map_eq_some_iff.1 demoTransfer_send
  cases sent with
  | error e => cases hok
  | ok row =>
    refine ⟨s', ?_⟩
    have hcalls : (transferBetween demoTransferWorld (some 1) (some 2) 123000 "lunch").play
        (execAnswering demoTransferWorld) (fun _ s => s) (fun c => demoTransferEnv (.service c))
          demoTransferHub = some (.ok (), s') := by
      rw [transferBetween, Prog.play_bind, demoTransfer_make, Option.bind_some]
      simp only [demoTransfer_request]
      rw [Prog.play_bind, hsend]
      rfl
    have hservice : (Prog.service (transferBetween demoTransferWorld (some 1) (some 2) 123000
        "lunch")).play (execTransfer demoTransferWorld true) (fun _ s => s) demoTransferEnv
          demoTransferHub = some (.ok (), s') :=
      (Prog.play_relabel fun _ _ _ => rfl).trans hcalls
    have hcheck (id : Nat) (h : id = 1 ∨ id = 2) : (checkWallet (some id)).play
        (execTransfer demoTransferWorld true) (fun _ s => s) demoTransferEnv demoTransferHub =
          some (.ok (), demoTransferHub) := by
      rcases h with rfl | rfl <;> rfl
    rw [Transfer, Prog.play_call_bind, execTransfer, Option.bind_some, if_pos rfl, Prog.play_bind,
      hcheck 1 (.inl rfl), Option.bind_some]
    simp only
    rw [Prog.play_bind, hcheck 2 (.inr rfl), Option.bind_some]
    exact hservice

/-- What the node answers is as it should be. Reference: none. -/
theorem demoTransfer_invoices {h : List (Call TransferCmd TransferCmd.Ans)}
    (hcalls : ∀ call ∈ h, ∃ s₁ s₂, execTransfer demoTransferWorld true s₁ call.cmd
      (demoTransferEnv call.cmd) = some (call.answer, s₂)) :
    NodeInvoices demoTransferWorld demoTransferHub.db.transactions h := by
  intro amountMsat description descriptionHash expiry throughNodePubkey tx hmem
  obtain ⟨s₁, s₂, hx⟩ := hcalls _ hmem
  have htx := (Hub.lnClient_eq hx).2
  by_cases hamount : amountMsat = 123000
  · simp only [demoTransferEnv, if_pos hamount] at htx
    obtain rfl : tx = demoLnTransaction := Except.ok.inj htx
    refine ⟨hamount.symm, fun b hb => ?_, toLower_mockInvoice, by decide +kernel, by decide +kernel⟩
    obtain rfl := Except.ok.inj (demoTransfer_decodes.symm.trans hb)
    exact ⟨hamount.symm, rfl⟩
  · simp only [demoTransferEnv, if_neg hamount] at htx
    cases htx

theorem transfer_exact_lunch : ∃ h s', (Transfer demoTransferWorld (some 1) (some 2) 123000
    "lunch").Traces (execTransfer demoTransferWorld true) demoTransferHub h (.ok ()) s' ∧
      Moved (some 1) (some 2) 123000 demoTransferHub.db.transactions s'.db.transactions := by
  obtain ⟨s', hplay⟩ := demoTransfer_run
  obtain ⟨h, ht, hcalls⟩ := Prog.Traces.of_play hplay
  exact ⟨h, s', ht, transfer_exact demoTransferWorld demoTransferHub s' true (some 1) (some 2)
    123000 "lunch" h (.ok ()) (by decide) (demoTransfer_invoices hcalls) ht⟩

end AlbyHub
