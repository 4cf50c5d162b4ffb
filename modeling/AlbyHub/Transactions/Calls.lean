import AlbyHub.Transactions.Methods

/-!
# The calls of a hub

The events of the LN client (`ConsumeEvent`), the edits of the metadata, and the pool of all calls:
an `Op` is one invocation of a method, `body` its program, and `Pool` the configurations of the hub
that executes any number of them.
-/

namespace AlbyHub

open Go Interaction

/-- The events of the LN client that the service consumes. Reference:
`transactions/transactions_service.go:795 ConsumeEvent`. -/
inductive NodeEvent where
  | paymentReceived (tx : LnTransaction)
  | holdInvoiceAccepted (tx : LnTransaction)
  | paymentSent (tx : LnTransaction)
  | paymentFailed (tx : LnTransaction) (reason : String)

/-- The row for a received payment that no invoice row exists for. Reference:
`transactions/transactions_service.go:844 ConsumeEvent`. -/
def receivedRow (tx : LnTransaction) (description metadata boostagram : String)
    (appId : Option Nat) : Transaction where
  type := .incoming
  state := .pending
  amountMsat := uint64OfInt tx.amountMsat
  paymentRequest := tx.invoice
  paymentHash := tx.paymentHash
  description := description
  descriptionHash := tx.descriptionHash
  expiresAt := unixTime tx.expiresAt
  metadata := metadata
  boostagram := boostagram
  appId := appId

/-- Creates the row of a received payment, for the app that its records name. Reference:
`transactions/transactions_service.go:816 ConsumeEvent`. -/
def createReceived (W : World) (tx : LnTransaction) : Svc (Except Err Transaction) :=
  match tx.metadata with
  | none =>
    createSettledTransactionFromNotification (receivedRow tx tx.description "" "" none) tx.preimage
      (uint64OfInt tx.feesPaidMsat) false
  | some fields =>
    match W.marshal (.object fields) with
    | .error e => return .error (.message e)
    | .ok metadata => do
      let extracted := getDescriptionFromCustomRecords W tx.tlvRecords
      let description := if extracted ≠ "" then extracted else tx.description
      let appId ← getAppIdFromCustomRecords tx.tlvRecords
      createSettledTransactionFromNotification
        (receivedRow tx description metadata
          (getBoostagramBytesFromCustomRecords W tx.tlvRecords) appId)
        tx.preimage (uint64OfInt tx.feesPaidMsat) false

/-- Reference: the case `nwc_lnclient_payment_received` of
`transactions/transactions_service.go:796 ConsumeEvent`. -/
def consumePaymentReceived (W : World) (tx : LnTransaction) : Svc Unit := do
  match ← ask (.find { type := some .incoming, paymentHash := tx.paymentHash } .none) with
  | .error _ => return ()
  | .ok none =>
    let _ ← createReceived W tx
    return ()
  | .ok (some dbTransaction) =>
    let _ ← markTransactionSettled dbTransaction tx.preimage (uint64OfInt tx.feesPaidMsat) false
    return ()

/-- The row for a sent payment that no row exists for. Reference:
`transactions/transactions_service.go:934 ConsumeEvent`. -/
def sentRow (tx : LnTransaction) : Transaction where
  type := .outgoing
  state := .pending
  amountMsat := uint64OfInt tx.amountMsat
  paymentRequest := tx.invoice
  paymentHash := tx.paymentHash
  description := tx.description
  descriptionHash := tx.descriptionHash
  expiresAt := unixTime tx.expiresAt

/-- The row that a sent payment is about: a pending one, else the failed one that was updated last,
else any. Reference: `transactions/transactions_service.go:889 ConsumeEvent`. -/
def findSent (paymentHash : String) : Svc (Except Err (Option Transaction)) := do
  match ← ask (.find { type := some .outgoing, state := some .pending, paymentHash } .none) with
  | .ok none =>
    match ← ask (.find { type := some .outgoing, state := some .failed, paymentHash }
      .latestUpdated) with
    | .ok none => ask (.find { type := some .outgoing, paymentHash } .none)
    | found => return found
  | found => return found

/-- Reference: the case `nwc_lnclient_payment_sent` of
`transactions/transactions_service.go:882 ConsumeEvent`. -/
def consumePaymentSent (tx : LnTransaction) : Svc Unit := do
  match ← findSent tx.paymentHash with
  | .error _ => return ()
  | .ok none =>
    let _ ← createSettledTransactionFromNotification (sentRow tx) tx.preimage
      (uint64OfInt tx.feesPaidMsat) false
    return ()
  | .ok (some dbTransaction) =>
    let _ ← markTransactionSettled dbTransaction tx.preimage (uint64OfInt tx.feesPaidMsat) false
    return ()

/-- Reference: the case `nwc_lnclient_payment_failed` of
`transactions/transactions_service.go:964 ConsumeEvent`. -/
def consumePaymentFailed (tx : LnTransaction) (reason : String) : Svc Unit := do
  match ← ask (.find
    { type := some .outgoing, state := some .pending, paymentHash := tx.paymentHash } .none) with
  | .error _ | .ok none => return ()
  | .ok (some dbTransaction) =>
    let _ ← markPaymentFailed dbTransaction reason
    return ()

/-- Reference: `transactions/transactions_service.go:794 ConsumeEvent`. -/
def ConsumeEvent (W : World) : NodeEvent → Svc Unit
  | .paymentReceived tx => consumePaymentReceived W tx
  | .holdInvoiceAccepted tx =>
    match tx.settleDeadline with
    | none => return ()
    | some settleDeadline =>
      markHoldInvoiceAccepted tx.invoice tx.paymentHash settleDeadline false
  | .paymentSent tx => consumePaymentSent tx
  | .paymentFailed tx reason => consumePaymentFailed tx reason

/-- Reference: `transactions/transactions_service.go:1408 SetTransactionMetadata`. -/
def SetTransactionMetadata (W : World) (id : Nat) (metadata : Metadata) : Svc (Except Err Unit) :=
  match encodeMetadata W "invoice" (some metadata) with
  | .error e => return .error e
  | .ok metadataBytes => ask (.updateMetadata id metadataBytes)

/-- The labels that are kept. Where two keys are trimmed to one, the map's order decides. Reference:
`transactions/transactions_service.go:1448 SetTransactionUserLabels`. -/
def sanitizedLabels (labels : List (String × String)) : List (String × Json) :=
  labels.foldl (fun kept (key, value) =>
    let key := trimSpace key
    let value := trimSpace value
    if key = "" ∨ value = "" then kept
    else kept.filter (·.1 ≠ key) ++ [(key, .string value)]) []

/-- The map that the labels are put in; the JSON text `null` leaves a nil map. Reference:
`transactions/transactions_service.go:1441 SetTransactionUserLabels`. -/
def existingMetadata (W : World) (metadata : String) : Except Err (Option Metadata) :=
  if metadata = "" then .ok (some []) else
  match W.unmarshal metadata with
  | (_, some e) => .error (.message ("failed to decode existing metadata: " ++ e))
  | (fields, none) => .ok fields

/-- A label cannot be put in a nil map: the panic is answered by the server's `Recover`. Reference:
`transactions/transactions_service.go:1430 SetTransactionUserLabels`, `http/http_service.go:93`. -/
def SetTransactionUserLabels (W : World) (id : Nat) (labels : List (String × String)) :
    Svc (Except Err Unit) :=
  if id = 0 then return .error .notFound else do
  match ← ask (.find { id } .none) with
  | .error e => return .error e
  | .ok none => return .error .notFound
  | .ok (some transaction) =>
    match existingMetadata W transaction.metadata with
    | .error e => return .error e
    | .ok none =>
      if sanitizedLabels labels = [] then ask (.updateMetadata id "null")
      else return .error (.message "assignment to entry in nil map")
    | .ok (some fields) =>
      let others := fields.filter (·.1 ≠ "user_labels")
      SetTransactionMetadata W id (if sanitizedLabels labels = [] then others
        else others ++ [("user_labels", .object (sanitizedLabels labels))])

/-- One call of the hub. `caller` is the app on whose behalf a method without an app argument is
called. Reference: `transactions/transactions_service.go:38 TransactionsService`. -/
inductive Op where
  | makeInvoice (amountMsat : Nat) (description descriptionHash : String) (expiry : Nat)
      (metadata : Option Metadata) (appId requestEventId : Option Nat)
      (throughNodePubkey : Option String)
  | makeHoldInvoice (amountMsat : Nat) (description descriptionHash : String) (expiry : Nat)
      (paymentHash : String) (minCltvExpiryDelta : Option Nat) (metadata : Option Metadata)
      (appId requestEventId : Option Nat)
  | sendPaymentSync (payReq : String) (amountMsat : Option Nat) (metadata : Option Metadata)
      (appId requestEventId : Option Nat)
  | sendKeysend (amountMsat : Nat) (destination : String) (customRecords : List TLVRecord)
      (preimage : String) (appId requestEventId : Option Nat)
  | lookupTransaction (paymentHash : String) (type : Option TransactionType) (appId : Option Nat)
  | listTransactions (params : ListQuery) (appId : Option Nat) (forceFilterByAppId : Bool)
  | settleHoldInvoice (caller : Option Nat) (preimage : String)
  | cancelHoldInvoice (caller : Option Nat) (paymentHash : String)
  | consumeEvent (event : NodeEvent)
  | setTransactionMetadata (id : Nat) (metadata : Metadata)
  | setTransactionUserLabels (id : Nat) (labels : List (String × String))

/-- Whether the call pays. Reference: `transactions/transactions_service.go:42
TransactionsService`. -/
def Op.isPayment : Op → Bool
  | .sendPaymentSync .. | .sendKeysend .. => true
  | _ => false

/-- What a call returns. Reference: the results of `TransactionsService`. -/
abbrev Result := Except Err (Option Transaction)

/-- The program of a call. Reference: `transactions/transactions_service.go:38
TransactionsService`. -/
def body (W : World) : Op → Svc Result
  | .makeInvoice amountMsat description descriptionHash expiry metadata appId requestEventId
      throughNodePubkey => do
    let r ← MakeInvoice W amountMsat description descriptionHash expiry metadata appId
      requestEventId throughNodePubkey
    return r.map some
  | .makeHoldInvoice amountMsat description descriptionHash expiry paymentHash minCltvExpiryDelta
      metadata appId requestEventId => do
    let r ← MakeHoldInvoice W amountMsat description descriptionHash expiry paymentHash
      minCltvExpiryDelta metadata appId requestEventId
    return r.map some
  | .sendPaymentSync payReq amountMsat metadata appId requestEventId => do
    let r ← SendPaymentSync W payReq amountMsat metadata appId requestEventId
    return r.map some
  | .sendKeysend amountMsat destination customRecords preimage appId requestEventId =>
    SendKeysend W amountMsat destination customRecords preimage appId requestEventId
  | .lookupTransaction paymentHash type appId => do
    let r ← LookupTransaction W paymentHash type appId
    return r.map some
  | .listTransactions params appId forceFilterByAppId => do
    let r ← ListTransactions W params appId forceFilterByAppId
    return r.map fun _ => none
  | .settleHoldInvoice _ preimage => do
    let r ← SettleHoldInvoice W preimage
    return r.map some
  | .cancelHoldInvoice _ paymentHash => do
    let r ← CancelHoldInvoice paymentHash
    return r.map fun _ => none
  | .consumeEvent event => do
    ConsumeEvent W event
    return .ok none
  | .setTransactionMetadata id metadata => do
    let r ← SetTransactionMetadata W id metadata
    return r.map fun _ => none
  | .setTransactionUserLabels id labels => do
    let r ← SetTransactionUserLabels W id labels
    return r.map fun _ => none

/-- What a call has done so far, latest first. Reference: none. -/
abbrev History := List (Call Cmd Cmd.Ans)

/-- A call in progress or returned. Reference: none. -/
abbrev HubThread := Thread Cmd Cmd.Ans Op Result

/-- The hub with the calls it executes. Reference: none. -/
abbrev Pool := Config Hub Cmd Cmd.Ans Op Result

/-- Reference: none. -/
abbrev PoolLabel := Label Op Env

/-- The reachable pools: the runs from `init` whose steps are all allowed. Reference: none. -/
abbrev Reachable (W : World) (init : Pool → Prop) (allowed : Pool → PoolLabel → Prop) :
    Pool → Prop :=
  Reach (exec W) (body W) init allowed

/-- A pool without calls, over a table that satisfies `P`, before the first event. Reference:
none. -/
def Fresh (P : DB → Prop) (cfg : Pool) : Prop :=
  P cfg.state.db ∧ cfg.state.published = [] ∧ cfg.threads = []

/-- Every step is allowed. Reference: none. -/
def anyStep (_ : Pool) (_ : PoolLabel) : Prop := True

end AlbyHub
