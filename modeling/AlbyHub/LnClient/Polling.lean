import AlbyHub.LnClient.LdkEvents
import AlbyHub.Transactions.Runs

/-!
# Polling for settlements

Phoenixd and cashu do not tell the hub of payments, so the hub asks them for each of its pending
rows, by the payment hash (`checkUnsettledTransaction`). Both backends look among the incoming
payments first and answer the first payment with the hash. So a row is settled by a payment of the
other direction, or of another invoice, where that is the payment which is found; a row is
`Mistaken` there, and the polling settles what the node settled exactly where no pending row is.
-/

namespace AlbyHub

open Go Interaction

/-! ## The backends -/

/-- What the polling sees of a backend: its states, its answers, and the completed payments that it
holds. Reference: `lnclient/models.go:60 LNClient`. -/
structure PollingClient where
  Node : Type
  LookupInvoice : Node → String → Except String LnTransaction
  Holds : Node → TransactionType → LnTransaction → Prop

namespace Phoenixd

/-- Reference: `lnclient/phoenixd/phoenixd.go:27 InvoiceResponse`. -/
structure InvoiceResponse where
  paymentHash : String := ""
  preimage : String := ""
  description : String := ""
  invoice : String := ""
  feesSat : Int := 0
  completedAt : Int := 0

/-- Reference: `lnclient/phoenixd/phoenixd.go:40 OutgoingPaymentResponse`. -/
structure OutgoingPaymentResponse where
  paymentHash : String := ""
  preimage : String := ""
  invoice : String := ""
  sent : Int := 0
  fees : Int := 0
  completedAt : Int := 0

/-- `decoded` is the JSON of the body. Reference: Go `http.Response`. -/
structure Response (α : Type) where
  statusCode : Nat
  body : String
  decoded : Except String α

/-- A request that cannot be made, that has no response, or whose body cannot be read. Reference:
`lnclient/phoenixd/phoenixd.go:284 lookupIncomingPayment`, `:318 lookupOutgoingPayment`. -/
inductive RequestErr where
  | create (e : String)
  | call (e : String)
  | read (e : String)

/-- The text names the endpoint. Reference: `lnclient/phoenixd/phoenixd.go:284
lookupIncomingPayment`, `:318 lookupOutgoingPayment`. -/
def RequestErr.error (endpoint : String) : RequestErr → String
  | .create e => "create phoenixd " ++ endpoint ++ " payment request: " ++ e
  | .call e => "call phoenixd " ++ endpoint ++ " payment endpoint: " ++ e
  | .read e => "read phoenixd " ++ endpoint ++ " payment response: " ++ e

/-- The two endpoints, by payment hash. Reference: `lnclient/phoenixd/phoenixd.go:284
lookupIncomingPayment`, `:318 lookupOutgoingPayment`. -/
structure Node where
  incoming : String → Except RequestErr (Response InvoiceResponse)
  outgoingByHash : String → Except RequestErr (Response OutgoingPaymentResponse)

/-- `notFound` is the error `errNotFound`. Reference: `lnclient/phoenixd/phoenixd.go:25
errNotFound`. -/
inductive Error where
  | notFound
  | other (text : String)

/-- Reference: Go `error.Error`. -/
def Error.error : Error → String
  | .notFound => "phoenixd: payment not found"
  | .other text => text

/-- `time.UnixMilli(completedAt).Unix()`, nil for 0. Reference: `lnclient/phoenixd/phoenixd.go:505`,
`:541`. -/
def settledAt (completedAt : Int) : Option Int :=
  if completedAt ≠ 0 then some (completedAt / 1000) else none

/-- Reference: `lnclient/phoenixd/phoenixd.go:504 phoenixInvoiceToTransaction`. -/
def phoenixInvoiceToTransaction (W : World) (invoiceRes : InvoiceResponse) :
    Except Error LnTransaction :=
  match W.decodepay invoiceRes.invoice with
  | .error e => .error (.other e)
  | .ok paymentRequest => .ok {
      invoice := invoiceRes.invoice
      preimage := invoiceRes.preimage
      paymentHash := invoiceRes.paymentHash
      amountMsat := paymentRequest.mSatoshi
      feesPaidMsat := wrapInt64 (invoiceRes.feesSat * 1000)
      description := invoiceRes.description
      settledAt := settledAt invoiceRes.completedAt
      expiresAt := some (expiresAtUnix paymentRequest)
      descriptionHash := paymentRequest.descriptionHash }

/-- Reference: `lnclient/phoenixd/phoenixd.go:539 outgoingPaymentToTransaction`. -/
def outgoingPaymentToTransaction (W : World) (payment : OutgoingPaymentResponse) :
    Except Error LnTransaction :=
  match W.decodepay payment.invoice with
  | .error e => .error (.other ("decode phoenixd outgoing payment bolt11: " ++ e))
  | .ok paymentRequest => .ok {
      invoice := payment.invoice
      preimage := payment.preimage
      paymentHash := payment.paymentHash
      amountMsat := if paymentRequest.mSatoshi = 0 then
          wrapInt64 (wrapInt64 (payment.sent * 1000) - payment.fees)
        else paymentRequest.mSatoshi
      feesPaidMsat := payment.fees
      description := paymentRequest.description
      settledAt := settledAt payment.completedAt
      expiresAt := some (expiresAtUnix paymentRequest)
      descriptionHash := paymentRequest.descriptionHash }

/-- Reference: `lnclient/phoenixd/phoenixd.go:284 lookupIncomingPayment`. -/
def lookupIncomingPayment (W : World) (node : Node) (paymentHash : String) :
    Except Error LnTransaction :=
  match node.incoming paymentHash with
  | .error e => .error (.other (e.error "incoming"))
  | .ok resp =>
    if resp.statusCode = 404 then .error .notFound
    else if resp.statusCode ≠ 200 then
      .error (.other ("phoenixd incoming payments endpoint returned non-success code: " ++
        toString resp.statusCode ++ " " ++ resp.body))
    else
      match resp.decoded with
      | .error e => .error (.other ("decode phoenixd incoming payment response: " ++ e))
      | .ok invoiceRes => phoenixInvoiceToTransaction W invoiceRes

/-- Reference: `lnclient/phoenixd/phoenixd.go:318 lookupOutgoingPayment`. -/
def lookupOutgoingPayment (W : World) (node : Node) (paymentHash : String) :
    Except Error LnTransaction :=
  match node.outgoingByHash paymentHash with
  | .error e => .error (.other (e.error "outgoing"))
  | .ok resp =>
    if resp.statusCode ≠ 200 then
      .error (.other ("phoenixd outgoing payment lookup returned non-success code: " ++
        toString resp.statusCode ++ " " ++ resp.body))
    else
      match resp.decoded with
      | .error e => .error (.other ("decode phoenixd outgoing payment response: " ++ e))
      | .ok paymentRes => outgoingPaymentToTransaction W paymentRes

/-- Outgoing payments are looked up where no incoming one is found. Reference:
`lnclient/phoenixd/phoenixd.go:268 LookupInvoice`. -/
def LookupInvoice (W : World) (node : Node) (paymentHash : String) : Except Error LnTransaction :=
  match lookupIncomingPayment W node paymentHash with
  | .error .notFound => lookupOutgoingPayment W node paymentHash
  | answer => answer

/-- The node holds a completed payment. Reference: `lnclient/phoenixd/phoenixd.go:506`, `:542`. -/
inductive Node.Holds (W : World) (node : Node) : TransactionType → LnTransaction → Prop
  | incoming {paymentHash : String} {tx : LnTransaction} :
    lookupIncomingPayment W node paymentHash = .ok tx → tx.settledAt ≠ none →
      Holds W node .incoming tx
  | outgoing {paymentHash : String} {tx : LnTransaction} :
    lookupOutgoingPayment W node paymentHash = .ok tx → tx.settledAt ≠ none →
      Holds W node .outgoing tx

end Phoenixd

namespace Cashu

/-- Reference: gonuts `storage.MintQuote`. -/
structure MintQuote where
  paymentRequest : String
  settledAt : Int := 0

/-- Reference: gonuts `storage.MeltQuote`. -/
structure MeltQuote where
  paymentRequest : String
  preimage : String := ""
  feeReserve : Nat := 0
  settledAt : Int := 0

/-- What the wallet has stored. Reference: gonuts `wallet.GetMintQuotes`, `wallet.GetMeltQuotes`. -/
structure Wallet where
  mintQuotes : List MintQuote
  meltQuotes : List MeltQuote

/-- The first quote with the hash; a quote that cannot be decoded ends the search. Reference:
`lnclient/cashu/cashu.go:330 getMintQuoteByPaymentHash`, `:346 getMeltQuoteByPaymentHash`. -/
def getQuoteByPaymentHash {α : Type} (W : World) (paymentRequest : α →
    String) (paymentHash : String) :
    List α → Option α
  | [] => none
  | quote :: quotes =>
    match W.decodepay (paymentRequest quote) with
    | .error _ => none
    | .ok bolt11 => if bolt11.paymentHash = paymentHash then some quote else
        getQuoteByPaymentHash W paymentRequest paymentHash quotes

/-- Reference: `lnclient/cashu/cashu.go:330 getMintQuoteByPaymentHash`. -/
def Wallet.getMintQuoteByPaymentHash (W : World) (wallet : Wallet) (paymentHash : String) :
    Option MintQuote :=
  getQuoteByPaymentHash W MintQuote.paymentRequest paymentHash wallet.mintQuotes

/-- Reference: `lnclient/cashu/cashu.go:346 getMeltQuoteByPaymentHash`. -/
def Wallet.getMeltQuoteByPaymentHash (W : World) (wallet : Wallet) (paymentHash : String) :
    Option MeltQuote :=
  getQuoteByPaymentHash W MeltQuote.paymentRequest paymentHash wallet.meltQuotes

/-- `decodepay.Decodepay`, where an error leaves the zero value. Reference:
`lnclient/cashu/cashu.go:271`, `:301`. -/
def decoded (W : World) (paymentRequest : String) : Bolt11 :=
  match W.decodepay paymentRequest with
  | .error _ => ⟨0, "", "", "", 0, 0⟩
  | .ok bolt11 => bolt11

/-- The preimage is a dummy. Reference: `lnclient/cashu/cashu.go:269
cashuMintQuoteToTransaction`. -/
def cashuMintQuoteToTransaction (W : World) (mintQuote : MintQuote) : LnTransaction :=
  let paymentRequest := decoded W mintQuote.paymentRequest
  { invoice := mintQuote.paymentRequest
    paymentHash := paymentRequest.paymentHash
    preimage := paymentRequest.paymentHash
    amountMsat := paymentRequest.mSatoshi
    expiresAt := some (expiresAtUnix paymentRequest)
    description := paymentRequest.description
    descriptionHash := paymentRequest.descriptionHash
    settledAt := if mintQuote.settledAt > 0 then some mintQuote.settledAt else none }

/-- Reference: `lnclient/cashu/cashu.go:299 cashuMeltQuoteToTransaction`. -/
def cashuMeltQuoteToTransaction (W : World) (meltQuote : MeltQuote) : LnTransaction :=
  let paymentRequest := decoded W meltQuote.paymentRequest
  { invoice := meltQuote.paymentRequest
    paymentHash := paymentRequest.paymentHash
    preimage := meltQuote.preimage
    amountMsat := paymentRequest.mSatoshi
    expiresAt := some (expiresAtUnix paymentRequest)
    description := paymentRequest.description
    descriptionHash := paymentRequest.descriptionHash
    settledAt := if meltQuote.settledAt > 0 then some meltQuote.settledAt else none
    feesPaidMsat := int64 (uint64 (meltQuote.feeReserve * 1000)) }

/-- The answer is the quote as it was stored; that the wallet asks the mint for it on the way is
another state of the wallet from then on. Reference: `lnclient/cashu/cashu.go:135 LookupInvoice`. -/
def LookupInvoice (W : World) (wallet : Wallet) (paymentHash : String) :
    Except String LnTransaction :=
  match wallet.getMintQuoteByPaymentHash W paymentHash with
  | some mintQuote => .ok (cashuMintQuoteToTransaction W mintQuote)
  | none =>
    match wallet.getMeltQuoteByPaymentHash W paymentHash with
    | some meltQuote => .ok (cashuMeltQuoteToTransaction W meltQuote)
    | none => .error "failed to lookup payment request by payment hash"

/-- The wallet holds a completed payment. Reference: `lnclient/cashu/cashu.go:273`, `:304`. -/
inductive Wallet.Holds (W : World) (wallet : Wallet) : TransactionType → LnTransaction → Prop
  | incoming {quote : MintQuote} : quote ∈ wallet.mintQuotes →
    (cashuMintQuoteToTransaction W quote).settledAt ≠ none →
    Holds W wallet .incoming (cashuMintQuoteToTransaction W quote)
  | outgoing {quote : MeltQuote} : quote ∈ wallet.meltQuotes →
    (cashuMeltQuoteToTransaction W quote).settledAt ≠ none →
    Holds W wallet .outgoing (cashuMeltQuoteToTransaction W quote)

end Cashu

/-- The backends without notifications. Reference: `lnclient/phoenixd/phoenixd.go:495
GetSupportedNIP47NotificationTypes`, `lnclient/cashu/cashu.go:414`. -/
inductive PollingBackend where
  | phoenixd
  | cashu

/-- Reference: `lnclient/phoenixd/phoenixd.go:268 LookupInvoice`, `lnclient/cashu/cashu.go:135
LookupInvoice`. -/
def PollingBackend.client (W : World) : PollingBackend → PollingClient
  | .phoenixd => {
      Node := Phoenixd.Node
      LookupInvoice node paymentHash :=
        (Phoenixd.LookupInvoice W node paymentHash).mapError (·.error)
      Holds := Phoenixd.Node.Holds W }
  | .cashu => {
      Node := Cashu.Wallet
      LookupInvoice := Cashu.LookupInvoice W
      Holds := Cashu.Wallet.Holds W }

/-! ## What a poll does -/

/-- A poll in which the backend is in one of the states `nodes` whenever it is asked. Reference:
`transactions/transactions_service.go:778 checkUnsettledTransaction`. -/
def pollExec {ι : Type} (W : World) (client : PollingClient) (nodes : ι →
    client.Node) (s : Hub) (c : Cmd)
    (e : Env × ι) : Option (c.Ans × Hub) :=
  exec W s c (match c with
    | .lnLookupInvoice paymentHash =>
      { e.1 with transaction := client.LookupInvoice (nodes e.2) paymentHash }
    | _ => e.1)

section
variable {ι : Type} {W : World} {client : PollingClient} {nodes : ι → client.Node}
variable {s s' : Hub} {t t' : Table} {r : Transaction} {tx : LnTransaction}

/-- The backend held a completed payment of the row's direction and invoice, which has the preimage
and the fee of the answer; it is no payment from outside where the row is a self-payment's.
Reference: none. -/
def Transaction.HeldAs (client : PollingClient) (nodes : ι → client.Node) (r : Transaction)
    (preimage : String) (feeMsat : Nat) : Prop :=
  (r.selfPayment = true → r.type = .outgoing) ∧ ∃ i tx, client.Holds (nodes i) r.type tx ∧
    tx.invoice = r.paymentRequest ∧ tx.preimage = preimage ∧ uint64OfInt tx.feesPaidMsat = feeMsat

/-- The rows are those that were there, unchanged but for pending ones that are settled, with what
the backend recorded for them. Reference: none. -/
structure Table.SettledBy (client : PollingClient) (nodes : ι → client.Node) (t t' : Table) :
    Prop where
  ids : t'.rows.map (·.id) = t.rows.map (·.id)
  row : ∀ r ∈ t.rows, r ∈ t'.rows ∨ (r.state = .pending ∧ ∃ preimage feeMsat now,
    r.HeldAs client nodes preimage feeMsat ∧ settleUpdate preimage feeMsat false now r ∈ t'.rows)

/-- The answer for the row's hash settles it, and it is not that of a completed payment of the row's
direction and invoice. Reference: `transactions/transactions_service.go:786
checkUnsettledTransaction`. -/
def Transaction.Mistaken (client : PollingClient) (nodes : ι → client.Node) (t : Table)
    (r : Transaction) : Prop :=
  ∃ i tx, client.LookupInvoice (nodes i) r.paymentHash = .ok tx ∧ tx.settledAt ≠ none ∧
    tx.Settles t r ∧ ¬ r.HeldAs client nodes tx.preimage (uint64OfInt tx.feesPaidMsat)

theorem Table.SettledBy.refl (t : Table) : t.SettledBy client nodes t := ⟨rfl, fun _ hr => .inl hr⟩

/-- The settled row is the only one that changes. Reference: none. -/
theorem Table.update_ids {id : Nat} {u : Update} :
    (t.update id u).rows.map (·.id) = t.rows.map (·.id) := by
  rw [Table.update_rows, List.map_map]
  exact List.map_congr_left fun r _ => Table.updateRow_id id u r

/-- A step of the polling: the row is settled with the answer, or nothing happens. Reference:
`transactions/transactions_service.go:773 checkUnsettledTransaction`. -/
theorem runs_checkUnsettledTransaction {a : Transaction} (hW : W.notifiesReceived = false)
    (h : (checkUnsettledTransaction W r).Runs (pollExec W client nodes) s a s') :
    s'.db.transactions = s.db.transactions ∨ ∃ i tx now,
      client.LookupInvoice (nodes i) r.paymentHash = .ok tx ∧ tx.settledAt ≠ none ∧
      tx.Settles s.db.transactions r ∧ s'.db.transactions = s.db.transactions.update r.id
        (settleUpdate tx.preimage (uint64OfInt tx.feesPaidMsat) false now) := by
  unfold checkUnsettledTransaction at h
  rw [if_neg (by simp [hW])] at h
  obtain ⟨⟨env, i⟩, answer, s₁, hx, h⟩ := Prog.runs_call_bind.1 h
  obtain ⟨rfl, rfl⟩ := Hub.lnClient_eq hx
  cases hlookup : client.LookupInvoice (nodes i) r.paymentHash with
  | error e =>
    simp only [hlookup, Except.mapError] at h
    exact .inl (by rw [h.2])
  | ok tx =>
    simp only [hlookup, Except.mapError] at h
    split at h
    · exact .inl (by rw [h.2])
    · next hat =>
      obtain ⟨x, s₂, hcopy, hrest⟩ := Prog.runs_bind.1 h
      have hend : s' = s₂ := by
        cases x with
        | error e => exact hrest.2
        | ok x => exact hrest.2
      subst hend
      have hsettle : (markTransactionSettled r tx.preimage (uint64OfInt tx.feesPaidMsat) false).Runs
          (pollExec W client nodes) s₁ (x.map (·.1)) s' :=
        Prog.runs_bind.2 ⟨x, s', hcopy, rfl, rfl⟩
      rcases runs_markTransactionSettled (hsettle.of_exec fun _ _ _ => ⟨_, rfl⟩) with
        hsame | ⟨hp, hfee, hn, now, ht⟩
      · exact .inl hsame
      · exact .inr ⟨i, tx, now, hlookup, hat, ⟨hp, hfee, hn⟩, ht⟩

/-- The database may fail the settlement of any row. Reference: none. -/
theorem skips_checkUnsettledTransaction (hW : W.notifiesReceived = false) (i : ι) :
    ∃ a, (checkUnsettledTransaction W r).Runs (pollExec W client nodes) s a s := by
  unfold checkUnsettledTransaction
  rw [if_neg (by simp [hW])]
  cases hlookup : client.LookupInvoice (nodes i) r.paymentHash with
  | error e =>
    refine ⟨r, Prog.runs_call_bind.2 ⟨({}, i), .error (.message e), s, ?_, rfl, rfl⟩⟩
    simp [pollExec, exec, Hub.lnClient, hlookup, Except.mapError]
  | ok tx =>
    refine ⟨r, Prog.runs_call_bind.2 ⟨({}, i), .ok tx, s, ?_, ?_⟩⟩
    · simp [pollExec, exec, Hub.lnClient, hlookup, Except.mapError]
    · simp only
      split
      · exact ⟨rfl, rfl⟩
      · refine Prog.runs_bind.2
          ⟨.error (if tx.preimage = "" then .message "no preimage in payment" else
          .database ""), s, ?_, rfl, rfl⟩
        unfold settleCopy
        split
        · exact ⟨rfl, rfl⟩
        · exact Prog.runs_call_bind.2 ⟨({ fault := some "" }, i), .error (.database ""), s, rfl,
            rfl, rfl⟩

/-- An answer that settles the row can settle it. Reference:
`transactions/transactions_service.go:787 checkUnsettledTransaction`. -/
theorem settles_checkUnsettledTransaction (hW : W.notifiesReceived = false) {i : ι}
    (hlookup : client.LookupInvoice (nodes i) r.paymentHash = .ok tx) (hat : tx.settledAt ≠ none)
    (hs : tx.Settles s.db.transactions r) :
    ∃ a s', (checkUnsettledTransaction W r).Runs (pollExec W client nodes) s a s' ∧
      s'.db.transactions = s.db.transactions.update r.id
        (settleUpdate tx.preimage (uint64OfInt tx.feesPaidMsat) false 0) := by
  obtain ⟨hp, hfee, hn⟩ := hs
  obtain ⟨st, db, hb, ht⟩ : ∃ st db, markTransactionSettledTx W {} s.db r tx.preimage
      (uint64OfInt tx.feesPaidMsat) false = .ok (st, db) ∧ db.transactions =
        s.db.transactions.update r.id
          (settleUpdate tx.preimage (uint64OfInt tx.feesPaidMsat) false 0) :=
    exists_markTransactionSettledTx hfee hn
  have hpublish : ∀ (events : List Event) (s : Hub), (publishEvents events).Runs
      (pollExec W client nodes) s () { s with published := s.published ++ events } := by
    intro events
    induction events with
    | nil =>
      intro s
      exact ⟨rfl, by simp⟩
    | cons event events ih =>
      intro s
      refine ⟨({}, i), (), { s with published := s.published ++ [event] }, rfl, ?_⟩
      have hrest := ih { s with published := s.published ++ [event] }
      simp only [List.append_assoc, List.singleton_append] at hrest
      exact hrest
  have hcopy : (settleCopy r tx.preimage (uint64OfInt tx.feesPaidMsat) false).Runs
      (pollExec W client nodes) s (.ok (st.settled, st.copy)) ⟨db, s.published ++ st.events⟩ := by
    unfold settleCopy
    rw [if_neg hp]
    refine Prog.runs_call_bind.2 ⟨({}, i), .ok st, ⟨db, s.published⟩, ?_, ?_⟩
    · simp [pollExec, exec, Hub.transaction, hb]
    · exact Prog.runs_bind.2 ⟨(), _, hpublish _ _, rfl, rfl⟩
  refine ⟨st.copy, ⟨db, s.published ++ st.events⟩, ?_, ht⟩
  unfold checkUnsettledTransaction
  rw [if_neg (by simp [hW])]
  refine Prog.runs_call_bind.2 ⟨({}, i), .ok tx, s, ?_, ?_⟩
  · simp [pollExec, exec, Hub.lnClient, hlookup, Except.mapError]
  · simp only [if_neg hat]
    exact Prog.runs_bind.2 ⟨_, _, hcopy, rfl, rfl⟩

/-- What the poll of one row does to all of them. Reference: none. -/
theorem Table.SettledBy.poll {now : Time} (hr : r ∈ t.rows) (hst : r.state = .pending)
    {preimage : String} {feeMsat : Nat} (hheld : r.HeldAs client nodes preimage feeMsat) :
    t.SettledBy client nodes (t.update r.id (settleUpdate preimage feeMsat false now)) := by
  refine ⟨Table.update_ids, fun r' hr' => ?_⟩
  by_cases hid : r'.id = r.id
  · rw [Table.eq_of_id hr' hr hid]
    exact .inr ⟨hst, preimage, feeMsat, now, hheld, Table.mem_update_self hr⟩
  · exact .inl (Table.mem_update_of_ne hr' hid)

/-- A row that is settled otherwise shows that the polling was mistaken. Reference: none. -/
theorem not_settledBy_update {now : Time} (hr : r ∈ t.rows) (hst : r.state = .pending)
    {preimage : String} {feeMsat : Nat} (hheld : ¬ r.HeldAs client nodes preimage feeMsat)
    (hr' : settleUpdate preimage feeMsat false now r ∈ t'.rows) :
    ¬ t.SettledBy client nodes t' := by
  intro h
  rcases h.row r hr with hmem | ⟨-, preimage', feeMsat', now', hheld', hmem⟩
  · have heq := Table.eq_of_id hmem hr' rfl
    rw [heq] at hst
    cases hst
  · have heq : settleUpdate preimage' feeMsat' false now' r =
        settleUpdate preimage feeMsat false now r :=
      Table.eq_of_id hmem hr' rfl
    have hpre : preimage' = preimage := Option.some.inj (congrArg (·.preimage) heq)
    have hfee : feeMsat' = feeMsat := congrArg (·.feeMsat) heq
    rw [hpre, hfee] at hheld'
    exact hheld hheld'

/-- Where the row is not mistaken, the poll of it settles what the node settled. Reference: none. -/
theorem poll_settledBy {a : Transaction} (hW : W.notifiesReceived = false)
    (hr : r ∈ s.db.transactions.rows) (hst : r.state = .pending)
    (hm : ¬ r.Mistaken client nodes s.db.transactions)
    (h : (checkUnsettledTransaction W r).Runs (pollExec W client nodes) s a s') :
    s.db.transactions.SettledBy client nodes s'.db.transactions := by
  rcases runs_checkUnsettledTransaction hW h with hsame | ⟨i, tx, now, hlookup, hat, hs, ht⟩
  · rw [hsame]
    exact .refl _
  · have hheld : r.HeldAs client nodes tx.preimage (uint64OfInt tx.feesPaidMsat) := by
      by_contra hheld
      exact hm ⟨i, tx, hlookup, hat, hs, hheld⟩
    rw [ht]
    exact .poll hr hst hheld

/-! ## The loop -/

/-- Rows that are not pending stay. Reference: none. -/
theorem Table.SettledBy.mem (h : t.SettledBy client nodes t') (hr : r ∈ t.rows)
    (hst : r.state ≠ .pending) :
    r ∈ t'.rows := by
  rcases h.row r hr with hmem | ⟨hpend, -⟩
  · exact hmem
  · exact absurd hpend hst

theorem Table.SettledBy.trans {t'' : Table} (h : t.SettledBy client nodes t')
    (h' : t'.SettledBy client nodes t'') : t.SettledBy client nodes t'' := by
  refine ⟨h'.ids.trans h.ids, fun r hr => ?_⟩
  rcases h.row r hr with hmem | ⟨hpend, preimage, feeMsat, now, hheld, hmem⟩
  · exact h'.row r hmem
  · exact .inr ⟨hpend, preimage, feeMsat, now, hheld, h'.mem hmem (by simp [settleUpdate])⟩

/-- What is settled stays settled, so a row that is mistaken later is mistaken from the start.
Reference: none. -/
theorem Transaction.Mistaken.of_settledBy (h : t.SettledBy client nodes t')
    (hm : r.Mistaken client nodes t') : r.Mistaken client nodes t := by
  obtain ⟨i, tx, hlookup, hat, ⟨hp, hfee, hn⟩, hheld⟩ := hm
  refine ⟨i, tx, hlookup, hat, ⟨hp, hfee, List.eq_nil_iff_forall_not_mem.2 fun r' hr' => ?_⟩, hheld⟩
  obtain ⟨hmem, hmatch⟩ := Table.mem_select.1 hr'
  have hst : r'.state = .settled := by simpa [Transaction.settledFilter, eq_comm] using hmatch.2.2.1
  have hmem' : r' ∈ t'.select r.settledFilter :=
    Table.mem_select.2 ⟨h.mem hmem (by rw [hst]; simp), hmatch⟩
  rw [hn] at hmem'
  cases hmem'

/-- The other rows are not touched by the poll of one. Reference: none. -/
theorem poll_keeps {r' : Transaction} {a : Transaction} (hW : W.notifiesReceived = false)
    (hr' : r' ∈ s.db.transactions.rows) (hid : r'.id ≠ r.id)
    (h : (checkUnsettledTransaction W r).Runs (pollExec W client nodes) s a s') :
    r' ∈ s'.db.transactions.rows := by
  rcases runs_checkUnsettledTransaction hW h with hsame | ⟨_, _, _, _, _, _, ht⟩
  · rw [hsame]
    exact hr'
  · rw [ht]
    exact Table.mem_update_of_ne hr' hid

/-- Reference: the loop of `transactions/transactions_service.go:769`. -/
theorem checkEach_settledBy {rows : List Transaction} {a : Unit} (hW : W.notifiesReceived = false)
    (hrows : ∀ r ∈ rows, r ∈ s.db.transactions.rows ∧ r.state = .pending)
    (hids : (rows.map (·.id)).Nodup) (hm : ∀ r ∈ rows, ¬ r.Mistaken client nodes s.db.transactions)
    (h : (checkEach W rows).Runs (pollExec W client nodes) s a s') :
    s.db.transactions.SettledBy client nodes s'.db.transactions := by
  induction rows generalizing s with
  | nil =>
    obtain ⟨-, rfl⟩ := h
    exact .refl _
  | cons r rows ih =>
    obtain ⟨a, s₁, hpoll, hrest⟩ := Prog.runs_bind.1 h
    obtain ⟨hr, hst⟩ := hrows r List.mem_cons_self
    have hfirst := poll_settledBy hW hr hst (hm r List.mem_cons_self) hpoll
    obtain ⟨hnew, hids⟩ := List.nodup_cons.1 hids
    refine hfirst.trans (ih (fun r' hr' => ?_) hids (fun r' hr' hmis => ?_) hrest)
    · obtain ⟨hmem, hst'⟩ := hrows r' (List.mem_cons_of_mem r hr')
      have hid : r'.id ≠ r.id := fun hid => hnew (List.mem_map.2 ⟨r', hr', hid⟩)
      exact ⟨poll_keeps hW hmem hid hpoll, hst'⟩
    · exact hm r' (List.mem_cons_of_mem r hr') (hmis.of_settledBy hfirst)

/-- The loop may settle nothing. Reference: none. -/
theorem skips_checkEach (hW : W.notifiesReceived = false) (i : ι) (rows : List Transaction) :
    (checkEach W rows).Runs (pollExec W client nodes) s () s := by
  induction rows with
  | nil => exact ⟨rfl, rfl⟩
  | cons r rows ih =>
    obtain ⟨a, hskip⟩ := skips_checkUnsettledTransaction (r := r) (s := s) hW i
    exact Prog.runs_bind.2 ⟨a, s, hskip, ih⟩

/-- The loop may settle one of its rows only. Reference: none. -/
theorem settles_checkEach {rows : List Transaction} (hW : W.notifiesReceived = false) {i : ι}
    (hr : r ∈ rows) (hlookup : client.LookupInvoice (nodes i) r.paymentHash = .ok tx)
    (hat : tx.settledAt ≠ none) (hs : tx.Settles s.db.transactions r) :
    ∃ s', (checkEach W rows).Runs (pollExec W client nodes) s () s' ∧
      s'.db.transactions = s.db.transactions.update r.id
        (settleUpdate tx.preimage (uint64OfInt tx.feesPaidMsat) false 0) := by
  induction rows with
  | nil => cases hr
  | cons r' rows ih =>
    rcases List.mem_cons.1 hr with rfl | hr
    · obtain ⟨a, s', hpoll, ht⟩ := settles_checkUnsettledTransaction hW hlookup hat hs
      exact ⟨s', Prog.runs_bind.2 ⟨a, s', hpoll, skips_checkEach hW i rows⟩, ht⟩
    · obtain ⟨a, hskip⟩ := skips_checkUnsettledTransaction (r := r') (s := s) hW i
      obtain ⟨s', hrest, ht⟩ := ih hr
      exact ⟨s', Prog.runs_bind.2 ⟨a, s, hskip, hrest⟩, ht⟩

/-- The poll of one pending row settles what the node settled, in every run, exactly where the row
is not mistaken. Reference: `transactions/transactions_service.go:773 checkUnsettledTransaction`. -/
theorem checkUnsettledTransaction_iff (hW : W.notifiesReceived = false)
    (hr : r ∈ s.db.transactions.rows) (hst : r.state = .pending) :
    (∀ a s', (checkUnsettledTransaction W r).Runs (pollExec W client nodes) s a s' →
      s.db.transactions.SettledBy client nodes s'.db.transactions) ↔
    ¬ r.Mistaken client nodes s.db.transactions := by
  constructor
  · rintro h ⟨i, tx, hlookup, hat, hs, hheld⟩
    obtain ⟨a, s', hrun, ht⟩ := settles_checkUnsettledTransaction hW hlookup hat hs
    have hsettled :=
      Table.mem_update_self (u := settleUpdate tx.preimage (uint64OfInt tx.feesPaidMsat)
      false 0) hr
    rw [← ht] at hsettled
    exact not_settledBy_update hr hst hheld hsettled (h a s' hrun)
  · intro hm a s' hrun
    exact poll_settledBy hW hr hst hm hrun

/-- The poll of the pending rows settles what the node settled, in every run, exactly where no
pending row is mistaken. Reference: `transactions/transactions_service.go:755
checkUnsettledTransactions`. -/
theorem checkUnsettledTransactions_iff (hW : W.notifiesReceived = false) :
    (∀ s', (checkUnsettledTransactions W).Runs (pollExec W client nodes) s () s' →
      s.db.transactions.SettledBy client nodes s'.db.transactions) ↔
    ∀ r ∈ s.db.transactions.rows, r.state = .pending →
      ¬ r.Mistaken client nodes s.db.transactions := by
  constructor
  · rintro h r hr hst ⟨i, tx, hlookup, hat, hs, hheld⟩
    -- the clock is such that the row is less than a day old
    let rows := s.db.transactions.rows.filter fun r' =>
      r'.state = .pending ∧ r.createdAt - 24 * 3600 * 1000000000 < r'.createdAt
    have hmem : r ∈ rows := by
      refine List.mem_filter.2 ⟨hr, ?_⟩
      simp only [hst, decide_eq_true_eq, true_and]
      have hday : ∀ now : Int, now - 24 * 3600 * 1000000000 < now := by omega
      exact hday r.createdAt
    obtain ⟨s', hrun, ht⟩ := settles_checkEach hW hmem hlookup hat hs
    have hpolls : (checkUnsettledTransactions W).Runs (pollExec W client nodes) s () s' := by
      unfold checkUnsettledTransactions
      rw [if_neg (by simp [hW])]
      refine Prog.runs_call_bind.2 ⟨({ now := r.createdAt }, i), r.createdAt, s, rfl, ?_⟩
      exact Prog.runs_call_bind.2 ⟨({}, i), .ok rows, s, rfl, hrun⟩
    have hsettled :=
      Table.mem_update_self (u := settleUpdate tx.preimage (uint64OfInt tx.feesPaidMsat)
      false 0) hr
    rw [← ht] at hsettled
    exact not_settledBy_update hr hst hheld hsettled (h s' hpolls)
  · intro hm s' hrun
    unfold checkUnsettledTransactions at hrun
    rw [if_neg (by simp [hW])] at hrun
    obtain ⟨_, now, s₁, hx, hrun⟩ := Prog.runs_call_bind.1 hrun
    cases hx
    obtain ⟨_, found, s₂, hx, hrun⟩ := Prog.runs_call_bind.1 hrun
    obtain ⟨rfl, ⟨text, rfl⟩ | rfl⟩ := Hub.read_eq hx
    · obtain ⟨-, rfl⟩ := hrun
      exact .refl _
    · refine checkEach_settledBy hW (fun r hr => ?_) ?_ (fun r hr => ?_) hrun
      · obtain ⟨hmem, hp⟩ := List.mem_filter.1 hr
        simp only [decide_eq_true_eq] at hp
        exact ⟨hmem, hp.1⟩
      · exact s₂.db.transactions.ids_nodup.sublist (List.filter_sublist.map _)
      · obtain ⟨hmem, hp⟩ := List.mem_filter.1 hr
        simp only [decide_eq_true_eq] at hp
        exact hm r hmem hp.1

/-- On phoenixd a row is not mistaken where the endpoint of its direction is the one that answers,
and with its invoice. Reference: `lnclient/phoenixd/phoenixd.go:268 LookupInvoice`. -/
theorem Phoenixd.not_mistaken {nodes : ι → Phoenixd.Node}
    (hself : r.selfPayment = true → r.type = .outgoing)
    (hin : r.type = .incoming → ∀ i tx, Phoenixd.LookupInvoice W (nodes i) r.paymentHash = .ok tx →
      Phoenixd.lookupIncomingPayment W (nodes i) r.paymentHash = .ok tx ∧
        tx.invoice = r.paymentRequest)
    (hout : r.type = .outgoing → ∀ i tx, Phoenixd.LookupInvoice W (nodes i) r.paymentHash = .ok tx →
      Phoenixd.lookupOutgoingPayment W (nodes i) r.paymentHash = .ok tx ∧
        tx.invoice = r.paymentRequest) :
    ¬ r.Mistaken (PollingBackend.phoenixd.client W) nodes t := by
  rintro ⟨i, tx, hlookup, hat, -, hheld⟩
  have hfound : Phoenixd.LookupInvoice W (nodes i) r.paymentHash = .ok tx := by
    simp only [PollingBackend.client] at hlookup
    cases hanswer : Phoenixd.LookupInvoice W (nodes i) r.paymentHash with
    | error e => rw [hanswer] at hlookup; cases hlookup
    | ok tx' => rw [hanswer] at hlookup; cases hlookup; rfl
  refine hheld ⟨hself, i, tx, ?_⟩
  cases hty : r.type with
  | incoming =>
    obtain ⟨hlook, hinvoice⟩ := hin hty i tx hfound
    exact ⟨.incoming hlook hat, hinvoice, rfl, rfl⟩
  | outgoing =>
    obtain ⟨hlook, hinvoice⟩ := hout hty i tx hfound
    exact ⟨.outgoing hlook hat, hinvoice, rfl, rfl⟩

/-- On both backends, in every run, a poll settles the rows that the node settled and no others,
exactly where no row that it polls is mistaken. Reference: `transactions/transactions_service.go:755
checkUnsettledTransactions`, `:773 checkUnsettledTransaction`. -/
theorem polling_settles_only_settled (backend : PollingBackend) (W : World)
    (hW : W.notificationTypes = [])
    {ι : Type} (nodes : ι → (backend.client W).Node) (s : Hub) :
    (∀ r ∈ s.db.transactions.rows, r.state = .pending →
      ((∀ a s', (checkUnsettledTransaction W r).Runs (pollExec W (backend.client W) nodes) s a s' →
          s.db.transactions.SettledBy (backend.client W) nodes s'.db.transactions) ↔
        ¬ r.Mistaken (backend.client W) nodes s.db.transactions)) ∧
    ((∀ s', (checkUnsettledTransactions W).Runs (pollExec W (backend.client W) nodes) s () s' →
        s.db.transactions.SettledBy (backend.client W) nodes s'.db.transactions) ↔
      ∀ r ∈ s.db.transactions.rows, r.state = .pending →
        ¬ r.Mistaken (backend.client W) nodes s.db.transactions) := by
  have hpoll : W.notifiesReceived = false := by simp [World.notifiesReceived, hW]
  exact ⟨fun r hr hst => checkUnsettledTransaction_iff hpoll hr hst,
    checkUnsettledTransactions_iff hpoll⟩

end

/-- A hub on a backend that is polled. Reference: `lnclient/phoenixd/phoenixd.go:495
GetSupportedNIP47NotificationTypes`. -/
def demoPolling : World := demoWorld []

/-- Somebody outside the hub has paid the invoice. Reference: `lnclient/phoenixd/phoenixd.go:284
lookupIncomingPayment`. -/
def paidNode : Phoenixd.Node where
  incoming _ := .ok ⟨200, "", .ok {
    paymentHash := mockHash, preimage := "123preimage", invoice := mockInvoice, completedAt :=
      1734375400000 }⟩
  outgoingByHash _ := .ok ⟨404, "", .error ""⟩

/-- The invoice of one app. Reference: `transactions/transactions_service.go:225 MakeInvoice`. -/
def invoiceRow : Transaction :=
  { type := .incoming, state := .pending, appId := some 1, amountMsat := 123000
    paymentRequest := mockInvoice, paymentHash := mockHash }

/-- Another app is paying it. Reference: `transactions/transactions_service.go:397
SendPaymentSync`. -/
def selfPaymentRow : Transaction :=
  { type := .outgoing, state := .pending, appId := some 2, amountMsat := 123000
    paymentRequest := mockInvoice, paymentHash := mockHash, selfPayment := true }

/-- Reference: none. -/
def invoiceTable : Table := Table.empty.create demoNow invoiceRow

/-- Both legs of a self-payment in progress. Reference: `transactions/transactions_service.go:1055
interceptSelfPayment`. -/
def selfPaying : Table := invoiceTable.create demoNow selfPaymentRow

/-- The node has an incoming payment only. Reference: `lnclient/phoenixd/phoenixd.go:268
LookupInvoice`. -/
theorem paidNode_found {paymentHash : String} {tx : LnTransaction}
    (h : Phoenixd.LookupInvoice demoPolling paidNode paymentHash = .ok tx) :
    Phoenixd.lookupIncomingPayment demoPolling paidNode paymentHash = .ok tx ∧
      tx.invoice = mockInvoice := by
  unfold Phoenixd.LookupInvoice at h
  split at h
  · cases h
  · refine ⟨h, ?_⟩
    simp only [Phoenixd.lookupIncomingPayment, paidNode, Phoenixd.phoenixInvoiceToTransaction] at h
    split at h
    · simp at h
    · simp only [ne_eq, not_true_eq_false, if_false] at h
      split at h
      · cases h
      · cases h
        rfl

/-- The hub after it polled, asked at an instant at which the rows are less than a day old.
Reference: none. -/
def polled (t : Table) : Option (Unit × Hub) :=
  (checkUnsettledTransactions demoPolling).play
    (pollExec demoPolling (PollingBackend.phoenixd.client demoPolling) fun _ : Unit => paidNode)
    (fun _ s => s) (fun _ => ({ now := demoNow }, ())) ⟨demoDB t, []⟩

theorem polling_settles_only_settled_paid : ∃ s', (checkUnsettledTransactions demoPolling).Runs
      (pollExec demoPolling (PollingBackend.phoenixd.client demoPolling) fun _ : Unit => paidNode)
      ⟨demoDB invoiceTable, []⟩ () s' ∧
    s'.db.transactions.rows.map (·.state) = [.settled] ∧
    invoiceTable.SettledBy (PollingBackend.phoenixd.client demoPolling) (fun _ : Unit => paidNode)
      s'.db.transactions := by
  have hright : ∀ r ∈ invoiceTable.rows, r.state = .pending →
      ¬ r.Mistaken (PollingBackend.phoenixd.client demoPolling) (fun _ : Unit =>
        paidNode) invoiceTable := by
    intro r hr _
    rw [List.mem_singleton.1 hr]
    refine Phoenixd.not_mistaken (fun hs => nomatch hs) (fun _ _ tx hlookup => ?_) (fun hty =>
      nomatch hty)
    exact paidNode_found hlookup
  obtain ⟨⟨_, s'⟩, hplay⟩ :=
    Option.isSome_iff_exists.1 (by decide +kernel : (polled invoiceTable).isSome = true)
  have hrun := Prog.Runs.of_play hplay
  have hstates : (polled invoiceTable).map (fun x => x.2.db.transactions.rows.map (·.state)) =
      some [.settled] := by decide +kernel
  rw [hplay] at hstates
  exact ⟨s', hrun, Option.some.inj hstates, (polling_settles_only_settled .phoenixd demoPolling rfl
    (fun _ : Unit => paidNode) ⟨demoDB invoiceTable, []⟩).2.2 hright s' hrun⟩

/-- A payment that came from outside settles the payer's row of a self-payment in progress, which is
no self-payment from then on. Reference: `transactions/transactions_service.go:787
checkUnsettledTransaction`, `lnclient/phoenixd/phoenixd.go:268 LookupInvoice`. -/
theorem polling_settles_self_payment : ∃ s', (checkUnsettledTransactions demoPolling).Runs
      (pollExec demoPolling (PollingBackend.phoenixd.client demoPolling) fun _ : Unit => paidNode)
      ⟨demoDB selfPaying, []⟩ () s' ∧
    s'.db.transactions.rows.map (fun r => (r.type, r.state, r.selfPayment)) =
      [(.incoming, .settled, false), (.outgoing, .settled, false)] ∧
    ¬ selfPaying.SettledBy (PollingBackend.phoenixd.client demoPolling) (fun _ : Unit => paidNode)
      s'.db.transactions := by
  obtain ⟨⟨_, s'⟩, hplay⟩ :=
    Option.isSome_iff_exists.1 (by decide +kernel : (polled selfPaying).isSome = true)
  have hrows : (polled selfPaying).map (fun x => x.2.db.transactions.rows.map
      fun r => (r.type, r.state, r.selfPayment)) =
        some [(.incoming, .settled, false), (.outgoing, .settled, false)] := by decide +kernel
  rw [hplay] at hrows
  have hstates : s'.db.transactions.rows.map (fun r => (r.type, r.state, r.selfPayment)) =
      [(.incoming, .settled, false), (.outgoing, .settled, false)] := Option.some.inj hrows
  refine ⟨s', .of_play hplay, hstates, fun h => ?_⟩
  have hrow : invoiceTable.created demoNow selfPaymentRow ∈ selfPaying.rows :=
    Table.mem_create.2 (.inr rfl)
  rcases h.row _ hrow with hmem | ⟨-, _, _, _, ⟨-, _, tx, hholds, -⟩, -⟩
  · -- no row is pending
    have hstate := List.mem_map_of_mem (f := fun r => (r.type, r.state, r.selfPayment)) hmem
    rw [hstates] at hstate
    revert hstate
    decide
  · -- the node has no outgoing payment
    have hnone : ∀ {type : TransactionType}, Phoenixd.Node.Holds demoPolling paidNode type tx →
        type ≠ .outgoing := by
      rintro type (_ | ⟨hlook, -⟩) hty
      · cases hty
      · cases hlook
    exact hnone hholds rfl

end AlbyHub
