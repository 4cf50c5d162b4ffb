import AlbyHub.Go.Hex
import AlbyHub.Transactions.Service

/-!
# The methods of the service

The exported methods of `transactionsService`, each a program that answers the transaction or the
error of the source. `SendKeysend` returns a nil transaction with a nil error for a preimage of the
wrong length, so the transaction is an `Option`.
-/

namespace AlbyHub

open Go Interaction

/-- Metadata of a request. Reference: `lnclient/models.go:17 Metadata`. -/
abbrev Metadata := List (String × Json)

/-- `time.Unix(*expiresAt, 0)` of an optional instant. Reference:
`transactions/transactions_service.go:218`. -/
def unixTime (expiresAt : Option Int) : Option Time := expiresAt.map Time.unix

/-- The preimage pointer of an LN client's transaction. Reference:
`transactions/transactions_service.go:213`. -/
def preimagePointer (preimage : String) : Option String :=
  if preimage ≠ "" then some preimage else none

/-- The app that `metadata["app_id"]` names, or the caller's. Reference:
`transactions/transactions_service.go:197 MakeInvoice`. -/
def overwriteAppId (metadata : Option Metadata) (appId : Option Nat) : Except Err (Option Nat) :=
  match lookupKey "app_id" metadata with
  | none | some .null => .ok appId
  | some (.number numerator denominator) => .ok (some (uintOfFloat numerator denominator))
  | some _ => .error (.message "failed to overwrite app ID")

/-- The type of the row is that of the node's answer, which each client sets to `"incoming"`.
Reference: `transactions/transactions_service.go:166 MakeInvoice`, `lnclient/ldk/ldk.go:899`,
`lnclient/cln/cln.go:1946`, `lnclient/lnd/lnd.go:1613`, `lnclient/phoenixd/phoenixd.go:523`. -/
def MakeInvoice (W : World) (amountMsat : Nat) (description descriptionHash : String)
    (expiry : Nat) (metadata : Option Metadata) (appId requestEventId : Option Nat)
    (throughNodePubkey : Option String) : Svc (Except Err Transaction) :=
  if amountMsat % 1000 ≠ 0 then
    return .error (.message "the amount must be a whole number of satoshis")
  else if amountMsat < 1000 then
    return .error (.message "the amount must be at least 1 satoshi")
  else
  match encodeMetadata W "invoice" metadata with
  | .error e => return .error e
  | .ok metadataBytes =>
    match overwriteAppId metadata appId with
    | .error e => return .error e
    | .ok appId => do
      match ← ask (.lnMakeInvoice (int64 amountMsat) description descriptionHash (int64 expiry)
        throughNodePubkey) with
      | .error e => return .error e
      | .ok lnClientTransaction =>
        ask (.create {
          appId, requestEventId, description, descriptionHash
          type := .incoming
          state := .pending
          amountMsat := uint64OfInt lnClientTransaction.amountMsat
          feeMsat := uint64OfInt (max lnClientTransaction.feesPaidMsat 0)
          paymentRequest := lnClientTransaction.invoice
          paymentHash := lnClientTransaction.paymentHash
          expiresAt := unixTime lnClientTransaction.expiresAt
          preimage := preimagePointer lnClientTransaction.preimage
          metadata := metadataBytes })

/-- Reference: `transactions/transactions_service.go:247 MakeHoldInvoice`. -/
def MakeHoldInvoice (W : World) (amountMsat : Nat) (description descriptionHash : String)
    (expiry : Nat) (paymentHash : String) (minCltvExpiryDelta : Option Nat)
    (metadata : Option Metadata) (appId requestEventId : Option Nat) :
    Svc (Except Err Transaction) :=
  match encodeMetadata W "invoice" metadata with
  | .error e => return .error e
  | .ok metadataBytes => do
    match ← ask (.lnMakeHoldInvoice (int64 amountMsat) description descriptionHash (int64 expiry)
      paymentHash minCltvExpiryDelta) with
    | .error e => return .error e
    | .ok lnClientTransaction =>
      ask (.create {
        appId, requestEventId, description, descriptionHash
        type := .incoming
        state := .pending
        amountMsat := uint64OfInt lnClientTransaction.amountMsat
        paymentRequest := lnClientTransaction.invoice
        paymentHash := lnClientTransaction.paymentHash
        expiresAt := unixTime lnClientTransaction.expiresAt
        preimage := preimagePointer lnClientTransaction.preimage
        metadata := metadataBytes
        hold := true })

/-- What becomes of the outgoing row once the payment was attempted. Reference:
`transactions/transactions_service.go:441 SendPaymentSync`. -/
def finishPayment (dbTransaction : Transaction) (selfPayment : Bool) :
    Except Err PayInvoiceResponse → Svc (Except Err Transaction)
  | .error e => do
    -- an error here is only logged
    let _ ← markPaymentFailed dbTransaction e.error
    return .error e
  | .ok response =>
    markTransactionSettled dbTransaction response.preimage response.feeMsat selfPayment

/-- The amount that a payment of the invoice is validated and recorded with. Reference:
`transactions/transactions_service.go:353 SendPaymentSync`. -/
def paymentAmount (paymentRequest : Bolt11) (amountMsat : Option Nat) : Nat :=
  match amountMsat with
  | some amountMsat =>
    if paymentRequest.mSatoshi = 0 then amountMsat else uint64OfInt paymentRequest.mSatoshi
  | none => uint64OfInt paymentRequest.mSatoshi

/-- The attempt to pay, once the outgoing row is there. Reference:
`transactions/transactions_service.go:434 SendPaymentSync`. -/
def SendPaymentSync.pay (payReq : String) (amountMsat : Option Nat) (paymentHash : String)
    (selfPayment : Bool) (dbTransaction : Transaction) : Svc (Except Err Transaction) := do
  let response ← (if selfPayment then interceptSelfPayment payReq paymentHash
    else ask (.lnSendPaymentSync payReq amountMsat))
  finishPayment dbTransaction selfPayment response

/-- Whether the lookup of the invoice among the incoming rows makes it a self-payment; a failed
lookup does not. Reference: `transactions/transactions_service.go:346 SendPaymentSync`. -/
def isSelfPayment : Except Err (Option Transaction) → Bool
  | .ok (some _) => true
  | _ => false

/-- Reference: `transactions/transactions_service.go:301 SendPaymentSync`. -/
def SendPaymentSync (W : World) (payReq : String) (amountMsat : Option Nat)
    (metadata : Option Metadata) (appId requestEventId : Option Nat) :
    Svc (Except Err Transaction) :=
  match encodeMetadata W "payment" metadata with
  | .error e => return .error e
  | .ok metadata =>
    let payReq := toLower W.lowerNonAscii payReq
    match W.decodepay payReq with
    | .error e => return .error (.message e)
    | .ok paymentRequest => do
      let now ← ask .now
      if now > Time.unix (wrapInt64 (paymentRequest.createdAt + paymentRequest.expiry)) then
        return .error (.message "this invoice has expired")
      else
      let incoming ← ask (.find
        { type := some .incoming, paymentHash := paymentRequest.paymentHash,
          paymentRequest := payReq }
        .none)
      let selfPayment := isSelfPayment incoming
      match ← ask (.sendPaymentTx {
        payReq, paymentRequest, appId, requestEventId, selfPayment, metadata
        paymentAmountMsat := paymentAmount paymentRequest amountMsat }) with
      | .error e => return .error e
      | .ok dbTransaction =>
        SendPaymentSync.pay payReq amountMsat paymentRequest.paymentHash selfPayment dbTransaction

/-- The boostagram's JSON, of the first record of its type. Reference:
`transactions/transactions_service.go:1228 getBoostagramBytesFromCustomRecords`. -/
def getBoostagramBytesFromCustomRecords (W : World) : List TLVRecord → String
  | [] => ""
  | record :: records =>
    if record.type ≠ 7629169 then getBoostagramBytesFromCustomRecords W records else
    match hexDecodeString record.value with
    | none => ""
    | some bytes => if (W.boostagramMessage bytes).isSome then W.text bytes else ""

/-- Reference: `transactions/transactions_service.go:1251 getDescriptionFromCustomRecords`. -/
def getDescriptionFromCustomRecords (W : World) (records : List TLVRecord) : String :=
  go "" records
where
  go (description : String) : List TLVRecord → String
  | [] => description
  | record :: records =>
    if record.type = 7629169 then
      match (hexDecodeString record.value).bind W.boostagramMessage with
      | some message => message
      | none => go description records
    else if record.type = 34349334 then
      match hexDecodeString record.value with
      | some bytes => go (W.text bytes) records
      | none => go description records
    else go description records

/-- Reference: `transactions/transactions_service.go:1279 getAppIdFromCustomRecords`. -/
def getAppIdFromCustomRecords : List TLVRecord → Svc (Option Nat)
  | [] => return none
  | record :: records =>
    if record.type ≠ 696969 then getAppIdFromCustomRecords records else
    match (hexDecodeString record.value).bind parseUint with
    | none => getAppIdFromCustomRecords records
    | some customValue => do
      match ← ask (.takeApp customValue) with
      | .error _ => getAppIdFromCustomRecords records
      | .ok app => return some app.id

/-- The records as `json.Marshal` sees them. Reference: `lnclient/models.go:11 TLVRecord`. -/
def tlvRecordsJson (records : List TLVRecord) : Json :=
  .array (records.map fun r => .object [("type", .number r.type 1), ("value", .string r.value)])

/-- The arguments of `SendKeysend` once the preimage is known to have 32 bytes, with what is
computed from them. Reference: `transactions/transactions_service.go:482 SendKeysend`. -/
structure KeysendArgs where
  amountMsat : Nat
  destination : String
  customRecords : List TLVRecord
  preimage : String
  paymentHash : String
  metadata : String
  boostagram : String
  description : String
  selfPayment : Bool
  appId : Option Nat
  requestEventId : Option Nat

/-- The outgoing row of a keysend. Reference:
`transactions/transactions_service.go:512 SendKeysend`. -/
def KeysendArgs.row (k : KeysendArgs) : Transaction where
  appId := k.appId
  description := k.description
  requestEventId := k.requestEventId
  type := .outgoing
  state := .pending
  feeReserveMsat := CalculateFeeReserveMsat k.amountMsat
  amountMsat := k.amountMsat
  metadata := k.metadata
  boostagram := k.boostagram
  paymentHash := k.paymentHash
  preimage := some k.preimage
  selfPayment := k.selfPayment

/-- The incoming row of a keysend to the own node. Reference:
`transactions/transactions_service.go:545 SendKeysend`. -/
def KeysendArgs.incomingRow (k : KeysendArgs) (recipientAppId : Option Nat) : Transaction where
  appId := recipientAppId
  type := .incoming
  state := .pending
  amountMsat := k.amountMsat
  paymentHash := k.paymentHash
  preimage := some k.preimage
  description := k.description
  metadata := k.metadata
  boostagram := k.boostagram
  selfPayment := true

/-- The attempt to pay, once the outgoing row is there. The incoming row of a self-payment is made
here, for the app that the records name. Reference:
`transactions/transactions_service.go:540 SendKeysend`. -/
def KeysendArgs.pay (k : KeysendArgs) (dbTransaction : Transaction) :
    Svc (Except Err Transaction) :=
  if k.selfPayment then do
    let recipientAppId ← getAppIdFromCustomRecords k.customRecords
    match ← ask (.create (k.incomingRow recipientAppId)) with
    | .error e => return .error e
    | .ok _ =>
      let response ← interceptSelfPayment "" k.paymentHash
      finishPayment dbTransaction k.selfPayment (response.map fun _ => ⟨k.preimage, 0⟩)
  else do
    let response ← ask (.lnSendKeysend k.amountMsat k.destination k.customRecords k.preimage)
    finishPayment dbTransaction k.selfPayment (response.map fun feeMsat => ⟨k.preimage, feeMsat⟩)

/-- The rest of `SendKeysend` for a valid preimage of 32 bytes. Reference:
`transactions/transactions_service.go:482 SendKeysend`. -/
def SendKeysend.send (W : World) (amountMsat : Nat) (destination : String)
    (customRecords : List TLVRecord) (preimage paymentHash : String)
    (appId requestEventId : Option Nat) : Svc (Except Err Transaction) :=
  match W.marshal (.object [("destination", .string destination),
    ("tlv_records", tlvRecordsJson customRecords)]) with
  | .error e => return .error (.message e)
  | .ok metadata => do
    let k : KeysendArgs := {
      amountMsat, destination, customRecords, preimage, paymentHash, metadata, appId
      requestEventId
      boostagram := getBoostagramBytesFromCustomRecords W customRecords
      description := getDescriptionFromCustomRecords W customRecords
      selfPayment := destination = W.pubkey }
    match ← ask (.sendKeysendTx k.row) with
    | .error e => return .error e
    | .ok dbTransaction => k.pay dbTransaction

/-- The caller's preimage, or a random one. Reference:
`transactions/transactions_service.go:466 SendKeysend`. -/
def keysendPreimage (preimage : String) : Svc (Except Err String) :=
  if preimage = "" then do
    let bytes ← ask .randomBytes
    return bytes.map hexEncodeToString
  else return .ok preimage

/-- Reference: `transactions/transactions_service.go:465 SendKeysend`. -/
def SendKeysend (W : World) (amountMsat : Nat) (destination : String)
    (customRecords : List TLVRecord) (preimage : String) (appId requestEventId : Option Nat) :
    Svc (Except Err (Option Transaction)) := do
  match ← keysendPreimage preimage with
  | .error e => return .error e
  | .ok preimage =>
    match hexDecodeString preimage with
    | none => return .error (.message (hexError preimage))
    | some preimageBytes =>
      if preimageBytes.length ≠ 32 then return .ok none else
      let sent ← SendKeysend.send W amountMsat destination customRecords preimage
        (hexEncodeToString (W.sha256 preimageBytes)) appId requestEventId
      return sent.map some

/-- Whether the LN client tells of received payments, so that nothing is polled. Reference:
`transactions/transactions_service.go:758`, `:774`. -/
def World.notifiesReceived (W : World) : Bool := W.notificationTypes.contains "payment_received"

/-- The caller's copy of the row is answered as it is afterwards. Reference:
`transactions/transactions_service.go:773 checkUnsettledTransaction`. -/
def checkUnsettledTransaction (W : World) (transaction : Transaction) : Svc Transaction :=
  if W.notifiesReceived then return transaction else do
  match ← ask (.lnLookupInvoice transaction.paymentHash) with
  | .error _ => return transaction
  | .ok lnClientTransaction =>
    if lnClientTransaction.settledAt = none then return transaction else
    match ← settleCopy transaction lnClientTransaction.preimage
      (uint64OfInt lnClientTransaction.feesPaidMsat) false with
    | .error _ => return transaction
    | .ok (_, copy) => return copy

/-- Reference: the loop of `transactions/transactions_service.go:769`. -/
def checkEach (W : World) : List Transaction → Svc Unit
  | [] => return ()
  | transaction :: transactions => do
    let _ ← checkUnsettledTransaction W transaction
    checkEach W transactions

/-- Reference: `transactions/transactions_service.go:755 checkUnsettledTransactions`. -/
def checkUnsettledTransactions (W : World) : Svc Unit :=
  if W.notifiesReceived then return () else do
  let now ← ask .now
  match ← ask (.findPendingSince (now - 24 * 3600 * 1000000000)) with
  | .error _ => return ()
  | .ok transactions => checkEach W transactions

/-- The app id that a read is restricted to. Reference:
`transactions/transactions_service.go:605`. -/
def isolatedAppId (appId : Option Nat) : Svc (Except Err (Option Nat)) :=
  match appId with
  | none => return .ok none
  | some appId => do
    match ← ask (.isIsolated appId) with
    | .error e => return .error e
    | .ok isolated => return .ok (if isolated then some appId else none)

/-- Reference: `transactions/transactions_service.go:599 LookupTransaction`. -/
def LookupTransaction (W : World) (paymentHash : String) (type : Option TransactionType)
    (appId : Option Nat) : Svc (Except Err Transaction) := do
  match ← isolatedAppId appId with
  | .error e => return .error e
  | .ok appId =>
    match ← ask (.lookup paymentHash type appId) with
    | .error e => return .error e
    | .ok none => return .error .notFound
    | .ok (some transaction) =>
      if transaction.state = .pending then
        let transaction ← checkUnsettledTransaction W transaction
        return .ok transaction
      else return .ok transaction

/-- The rows of the page, and how many rows there are. Reference:
`transactions/transactions_service.go:731 ListTransactions`. -/
def queryPage (q : ListQuery) : Svc (Except Err (List Transaction × Nat)) := do
  match ← ask (.countRows q) with
  | .error e => return .error e
  | .ok totalCount =>
    match ← ask (.listRows q) with
    | .error e => return .error e
    | .ok transactions => return .ok (transactions, totalCount)

/-- The app that the rows are filtered by, `params.appId`, is set here. The flag
is set only with an app. Reference: `transactions/transactions_service.go:654 ListTransactions`. -/
def ListTransactions (W : World) (params : ListQuery) (appId : Option Nat)
    (forceFilterByAppId : Bool) : Svc (Except Err (List Transaction × Nat)) := do
  checkUnsettledTransactions W
  match ← isolatedAppId appId with
  | .error e => return .error e
  | .ok isolated =>
    queryPage { params with appId := if forceFilterByAppId then appId else isolated }

/-- Reference: `transactions/transactions_service.go:1306 SettleHoldInvoice`. -/
def SettleHoldInvoice (W : World) (preimage : String) : Svc (Except Err Transaction) :=
  if preimage.utf8ByteSize ≠ 64 then return .error (.message "invalid preimage format") else
  match hexDecodeString preimage with
  | none => return .error (.message ("invalid preimage hex: " ++ hexError preimage))
  | some preimageBytes => do
    let paymentHash := hexEncodeToString (W.sha256 preimageBytes)
    match ← ask (.find { type := some .incoming, state := some .accepted, paymentHash } .none) with
    | .error _ | .ok none => return .error (.message "failed to find accepted hold invoice")
    | .ok (some dbTransaction) =>
      match ← (if dbTransaction.selfPayment then pure (.ok ())
        else ask (.lnSettleHoldInvoice preimage)) with
      | .error e => return .error e
      | .ok () => markTransactionSettled dbTransaction preimage 0 dbTransaction.selfPayment

/-- Reference: `transactions/transactions_service.go:1354 CancelHoldInvoice`. -/
def CancelHoldInvoice (paymentHash : String) : Svc (Except Err Unit) := do
  match ← ask (.find { type := some .incoming, state := some .accepted, paymentHash } .none) with
  | .error _ | .ok none => return .error .notFound
  | .ok (some dbTransaction) =>
    match ← (if dbTransaction.selfPayment then pure (.ok ())
      else ask (.lnCancelHoldInvoice paymentHash)) with
    | .error e => return .error e
    | .ok () =>
      match ← markPaymentFailed dbTransaction "Hold invoice was cancelled" with
      | .error e => return .error e
      | .ok (false, _) => return .ok ()
      | .ok (true, copy) =>
        ask (.publish (.holdInvoiceCanceled copy))
        return .ok ()

end AlbyHub
