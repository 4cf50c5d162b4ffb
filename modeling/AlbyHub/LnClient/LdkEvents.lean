import AlbyHub.Transactions.Events
import AlbyHub.Transactions.Sourced

/-!
# The event loop of the LDK client

The node hands its events over one at a time, and the next one after `EventHandled`. The loop
handles an event by publishing what it means, which starts a goroutine of the transactions service,
and then acknowledges it. A crash stops the loop and the goroutines; what is not acknowledged is
handed over again.
-/

namespace AlbyHub

open Go Interaction

/-- Reference: ldk-node `PaymentKind`; `other` are the kinds that the client does not look at. -/
inductive PaymentKind where
  | bolt11 (hash : String) (preimage bolt11Invoice : Option String)
  | bolt11Jit (hash : String) (preimage : Option String) (counterpartySkimmedFeeMsat : Option Nat)
  | bolt12Offer (hash preimage : Option String) (offerId : String) (payerNote : Option String)
  | spontaneous (hash : String) (preimage : Option String) (customTlvs : List (Nat × List UInt8))
  | other

/-- Reference: ldk-node `PaymentDetails`; `succeeded` tells whether the status is
`PaymentStatusSucceeded`. -/
structure PaymentDetails where
  kind : PaymentKind
  succeeded : Bool := false
  amountMsat : Option Nat := none
  feePaidMsat : Option Nat := none
  latestUpdateTimestamp : Nat := 0

/-- The events of the node; `other` are those that are no payments of this node. Reference: ldk-node
`Event`. -/
inductive LdkEvent where
  | paymentReceived (paymentId : Option String)
  | paymentSuccessful (paymentId : Option String)
  | paymentFailed (paymentId : Option String) (reason : String)
  | paymentClaimable (paymentId : String) (claimDeadline : Option Nat)
  | other
  deriving DecidableEq, Repr

/-- Reference: `lnclient/ldk/ldk.go:1507 ldkPaymentToTransaction`, `expiresAtUnix`. -/
def expiresAtUnix (paymentRequest : Bolt11) : Int :=
  paymentRequest.createdAt + wrapInt64 (paymentRequest.expiry * 1000000000) / 1000000000

/-- A payment as the hub knows it; the time of its creation is left out. Reference:
`lnclient/ldk/ldk.go:1471 ldkPaymentToTransaction`. -/
def ldkPaymentToTransaction (W : World) (payment : PaymentDetails) : Except String LnTransaction :=
  let amountMsat := int64 (payment.amountMsat.getD 0)
  let feesPaidMsat := int64 (payment.feePaidMsat.getD 0)
  let lastUpdate := int64 payment.latestUpdateTimestamp
  match payment.kind with
  | .bolt11 hash preimage (some bolt11Invoice) =>
    match W.decodepay (toLower W.lowerNonAscii bolt11Invoice) with
    | .error e => .error e
    | .ok paymentRequest => .ok {
        invoice := bolt11Invoice
        description := paymentRequest.description
        descriptionHash := paymentRequest.descriptionHash
        preimage := if payment.succeeded then preimage.getD "" else ""
        paymentHash := hash
        amountMsat, feesPaidMsat
        expiresAt := some (expiresAtUnix paymentRequest)
        settledAt := if payment.succeeded then
            some (if 0 < payment.latestUpdateTimestamp then
              lastUpdate else paymentRequest.createdAt)
          else none
        metadata := some [] }
  | .bolt11 _ _ none | .other =>
    .ok { paymentHash := "", amountMsat, feesPaidMsat, metadata := some [] }
  | .bolt11Jit hash preimage counterpartySkimmedFeeMsat => .ok {
      preimage := if payment.succeeded then preimage.getD "" else ""
      paymentHash := hash
      amountMsat
      feesPaidMsat := int64 (counterpartySkimmedFeeMsat.getD (payment.feePaidMsat.getD 0))
      settledAt := if payment.succeeded ∧ preimage.isSome then some lastUpdate else none
      metadata := some [] }
  | .bolt12Offer none _ _ _ => .error "BOLT-12 payment has no payment hash"
  | .bolt12Offer (some hash) preimage offerId payerNote => .ok {
      preimage := if payment.succeeded then preimage.getD "" else ""
      paymentHash := hash
      amountMsat, feesPaidMsat
      settledAt := if payment.succeeded then some lastUpdate else none
      metadata := some [("offer", .object (("id", .string offerId) ::
        (payerNote.map fun note => ("payer_note", .string note)).toList))] }
  | .spontaneous hash preimage customTlvs =>
    let tlvRecords := customTlvs.map fun (type, value) => ⟨type, hexEncodeToString value⟩
    .ok {
      preimage := preimage.getD ""
      paymentHash := hash
      amountMsat, feesPaidMsat
      settledAt := if payment.succeeded then some lastUpdate else none
      metadata := some [("tlv_records", tlvRecordsJson tlvRecords)]
      tlvRecords }

/-- The payment of an event, converted, or nothing where the handler logs an error and returns.
`node` is the node's answer to `Payment`. Reference: `lnclient/ldk/ldk.go:1804`, `:1825`, `:1846
handleLdkEvent`. -/
def eventTransaction (W : World) (node : String →
    Option PaymentDetails) (paymentId : Option String) :
    Option LnTransaction :=
  match paymentId with
  | none => none
  | some paymentId =>
    match node paymentId with
    | none => none
    | some payment =>
      match ldkPaymentToTransaction W payment with
      | .error _ => none
      | .ok transaction => some transaction

/-- What the handler publishes for the transactions service. Reference: `lnclient/ldk/ldk.go:1678
handleLdkEvent`. -/
def handleLdkEvent (W : World) (node : String → Option PaymentDetails) : LdkEvent → Option NodeEvent
  | .paymentReceived paymentId => (eventTransaction W node paymentId).map .paymentReceived
  | .paymentSuccessful paymentId => (eventTransaction W node paymentId).map .paymentSent
  | .paymentFailed paymentId reason =>
    (eventTransaction W node paymentId).map (.paymentFailed · reason)
  | .paymentClaimable _ none => none
  | .paymentClaimable paymentId (some claimDeadline) =>
    (eventTransaction W node (some paymentId)).map fun transaction =>
      .holdInvoiceAccepted { transaction with settleDeadline := some claimDeadline }
  | .other => none

/-- Whether the event is one of the four that the service stores. Reference:
`lnclient/ldk/ldk.go:1804 handleLdkEvent`. -/
def LdkEvent.IsPayment (event : LdkEvent) : Prop := event ≠ .other

instance (event : LdkEvent) : Decidable event.IsPayment :=
  inferInstanceAs (Decidable (event ≠ .other))

/-- The hash of the event's payment. Reference: `lnclient/models.go:35 Transaction`. -/
def NodeEvent.paymentHash : NodeEvent → String
  | .paymentReceived tx | .holdInvoiceAccepted tx | .paymentSent tx | .paymentFailed tx _ =>
    tx.paymentHash

/-- The rows of the event's payment. Reference: the queries of
`transactions/transactions_service.go:794 ConsumeEvent`. -/
def NodeEvent.rows (event : NodeEvent) : Where where
  type := some event.rowType
  paymentHash := event.paymentHash

/-- The command of the event's goroutine, with the table before and after it, commits the event's
effect or finds it there: a settled row of the payment; the row failed or otherwise ended, or no row
pending; the hold invoice's row accepted, or none pending. Reference:
`transactions/transactions_service.go:794 ConsumeEvent`. -/
def NodeEvent.StoredBy (t t' : Table) (event : NodeEvent) : Cmd → Prop
  | .markTransactionSettledTx row _ _ _ | .createSettledTransactionTx row _ _ _ =>
    event.rows.Matches row ∧ t'.select row.settledFilter ≠ []
  | .find _ _ => t.select { event.rows with state := some .pending } = []
  | .markPaymentFailedTx row _ =>
    event.rows.Matches row ∧ ∀ r ∈ t'.rows, r.id = row.id → r.state ≠ .pending
  | .markHoldInvoiceAcceptedTx paymentRequest paymentHash _ _ =>
    paymentRequest = event.invoice ∧ paymentHash = event.paymentHash ∧
      ((∀ r ∈ t.rows, ¬ r.Acceptable paymentRequest paymentHash) ∨
        ∃ r ∈ t.rows, r.Acceptable paymentRequest paymentHash ∧
          ∃ r' ∈ t'.rows, r'.id = r.id ∧ r'.state = .accepted)
  | _ => False

/-- The commands that store the event. Reference: `transactions/transactions_service.go:794
ConsumeEvent`. -/
def NodeEvent.Stores : NodeEvent → Cmd → Prop
  | .paymentReceived _, .markTransactionSettledTx _ _ _ _
  | .paymentReceived _, .createSettledTransactionTx _ _ _ _
  | .paymentSent _, .markTransactionSettledTx _ _ _ _
  | .paymentSent _, .createSettledTransactionTx _ _ _ _
  | .paymentFailed _ _, .find _ _
  | .paymentFailed _ _, .markPaymentFailedTx _ _
  | .holdInvoiceAccepted _, .markHoldInvoiceAcceptedTx _ _ _ _ => True
  | _, _ => False

instance (t t' : Table) (event : NodeEvent) (c : Cmd) : Decidable (event.StoredBy t t' c) := by
  cases c <;> unfold NodeEvent.StoredBy <;> infer_instance

instance (event : NodeEvent) (c : Cmd) : Decidable (event.Stores c) := by
  cases event <;> cases c <;> unfold NodeEvent.Stores <;> infer_instance

/-- The event that the loop has handled: its goroutine, if one was started, and whether its effect
has been stored. Reference: `lnclient/ldk/ldk.go:320`. -/
structure Handling where
  event : LdkEvent
  consumer : Option (NodeEvent × Nat)
  stored : Bool

/-- The hub with its LDK node: the calls, the events that are not acknowledged (oldest first), the
one the loop has handled, and those that were acknowledged, with whether their effect was stored by
then. Reference: `lnclient/ldk/ldk.go:320`. -/
structure LdkHub where
  pool : Pool
  queue : List LdkEvent
  handling : Option Handling
  acknowledged : List (LdkEvent × Bool)

/-- What happens to a hub with an LDK node: the node has an event; the loop handles the next one, or
acknowledges it (`EventHandled` may fail, and the event stays), or drops it when its context ends; a
call of the hub starts or takes a step; a crash. Reference: `lnclient/ldk/ldk.go:320`. -/
inductive LdkStep where
  | emit (event : LdkEvent)
  | handle (node : String → Option PaymentDetails)
  | acknowledge (ok : Bool)
  | drop
  | spawn (op : Op)
  | run (i : Nat) (env : Env)
  | crash

/-- The command that call `i` issues next. Reference: none. -/
def Pool.next (pool : Pool) (i : Nat) : Option Cmd := pool.threads[i]?.bind (·.rest.next)

/-- Whether the step of call `i` stores the effect of the handled event. Reference: none. -/
def Handling.storedBy (h : Handling) (pool pool' : Pool) (i : Nat) : Bool :=
  match h.consumer, pool.next i with
  | some (event, j), some c =>
    i = j && event.Stores c &&
      event.StoredBy pool.state.db.transactions pool'.state.db.transactions c
  | _, _ => false

/-- The event after a step of call `i`. Reference: none. -/
def Handling.after (h : Handling) (pool pool' : Pool) (i : Nat) : Handling :=
  { h with stored := h.stored || h.storedBy pool pool' i }

/-- The loop handles the event. Reference: `lnclient/ldk/ldk.go:345 handleLdkEvent`. -/
def LdkHub.handle (W : World) (s : LdkHub) (node : String → Option PaymentDetails)
    (event : LdkEvent) : LdkHub :=
  match handleLdkEvent W node event with
  | none => { s with handling := some ⟨event, none, false⟩ }
  | some nodeEvent => { s with
      pool := { s.pool with
        threads :=
          s.pool.threads ++ [⟨.consumeEvent nodeEvent, [], body W (.consumeEvent nodeEvent)⟩] }
      handling := some ⟨event, some (nodeEvent, s.pool.threads.length), false⟩ }

/-- Reference: `lnclient/ldk/ldk.go:320`. -/
def LdkHub.step (W : World) (s : LdkHub) : LdkStep → Option LdkHub
  | .emit event => some { s with queue := s.queue ++ [event] }
  | .handle node =>
    match s.handling, s.queue with
    | none, event :: _ => some (s.handle W node event)
    | _, _ => none
  | .acknowledge ok =>
    match s.handling with
    | none => none
    | some h => some { s with
        queue := if ok then s.queue.tail else s.queue
        handling := none
        acknowledged := s.acknowledged ++ [(h.event, h.stored)] }
  | .drop => some { s with handling := none }
  | .spawn op => (s.pool.step (exec W) (body W) (.spawn op)).map fun pool => { s with pool := pool }
  | .run i env => (s.pool.step (exec W) (body W) (.run i env)).map fun pool =>
      { s with pool := pool, handling := s.handling.map (·.after s.pool pool i) }
  | .crash => (s.pool.step (exec W) (body W) .restart).map fun pool =>
      { s with pool := pool, handling := none }

/-- A sequence of steps. Reference: none. -/
def LdkHub.run (W : World) (s : LdkHub) : List LdkStep → Option LdkHub
  | [] => some s
  | l :: ls => (s.step W l).bind fun s' => LdkHub.run W s' ls

end AlbyHub
