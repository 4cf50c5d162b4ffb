import AlbyHub.Apps.Superuser
import AlbyHub.Interaction.Panics
import AlbyHub.Nip47.Keysend
import AlbyHub.Nip47.Notifications

/-!
# The NIP-47 event handler with its pointers

`HandleEvent` from the signature of an event to its response: the cipher, the permission check and
the controllers of the methods, as a program that may panic. The transactions service is embedded
with its own commands (`service`); the apps service answers one command. The goroutines of a
`multi_pay` request are taken one after another, which makes no difference to what the commands of
each may be answered.
-/

namespace AlbyHub.EventHandler

open Go Interaction Panicking

/-! ## Requests and responses -/

/-- Reference: `nip47/models/models.go:53 Request`. -/
structure Request where
  method : String
  params : String

/-- Reference: `nip47/controllers/get_info_controller.go:15 getInfoResponse`. -/
structure GetInfoResponse where
  alias' : Option String := none
  color : Option String := none
  pubkey : Option String := none
  network : Option String := none
  blockHeight : Option Nat := none
  blockHash : Option String := none
  methods : List String
  notifications : List String
  metadata : Option Metadata := none
  lightningAddress : Option String := none

/-- The result of a response; `empty` is a structure without fields. Reference: the response types
of `nip47/controllers`. -/
inductive ResponseResult where
  | pay (response : PayResponse)
  | balance (balance : Int)
  | budget (usedBudget totalBudget : Nat) (renewsAt : Option Nat) (renewalPeriod : String)
  | transaction (transaction : Nip47Transaction)
  | transactions (transactions : List Nip47Transaction) (totalCount : Nat)
  | info (response : GetInfoResponse)
  | signature (message signature : String)
  | connection (walletPubkey : String)
  | empty

/-- Reference: `nip47/models/models.go:58 Response`. -/
structure Response where
  error : Option Nip47Error := none
  result : Option ResponseResult := none
  resultType : String := ""

/-- Reference: `nip47/controllers/multi_pay_invoice_controller.go:18 multiPayInvoiceElement`. -/
structure MultiPayInvoiceElement extends PayInvoiceParams where
  id : String

/-- Reference: `nip47/controllers/multi_pay_keysend_controller.go:16 multiPayKeysendElement`. -/
structure MultiPayKeysendElement extends PayKeysendParams where
  id : String

/-- Reference: `nip47/controllers/make_invoice_controller.go:12 makeInvoiceParams`. -/
structure MakeInvoiceParams where
  amount : Nat
  description : String
  descriptionHash : String
  expiry : Nat
  metadata : Option Metadata

/-- Reference: `nip47/controllers/make_hold_invoice_controller.go:13 makeHoldInvoiceParams`. -/
structure MakeHoldInvoiceParams extends MakeInvoiceParams where
  paymentHash : String
  minCltvExpiryDelta : Option Nat

/-- Reference: `nip47/controllers/lookup_invoice_controller.go:16 lookupInvoiceParams`. -/
structure LookupInvoiceParams where
  invoice : String
  paymentHash : String

/-- The functions of the libraries that the handler calls: signatures, tags, decryption and JSON.
A tag that is found has a value. Of an app's metadata there is the map that it is decoded into,
which is nil for the JSON `null` and keeps what was decoded where there is an error too. Reference:
go-nostr `Event.CheckSignature`, `Tags.Find`, `nip04.Decrypt`, `nip44.Decrypt`, Go
`encoding/json`. -/
structure Library extends Nostr where
  checkSignature : NostrEvent → Except String Bool
  findTag : List (List String) → String → Option (List String)
  findTag_value : ∀ tags key tag, findTag tags key = some tag → 2 ≤ tag.length
  decryptNip04 : String → List UInt8 → Except String String
  decryptNip44 : String → List UInt8 → Except String String
  marshalResponse : Response → Except String String
  unmarshalRequest : String → Except String Request
  unmarshalMetadata : String → Option Metadata × Option String
  payInvoiceParams : String → Except String PayInvoiceParams
  multiPayInvoiceParams : String → Except String (List MultiPayInvoiceElement)
  payKeysendParams : String → Except String PayKeysendParams
  multiPayKeysendParams : String → Except String (List MultiPayKeysendElement)
  makeInvoiceParams : String → Except String MakeInvoiceParams
  makeHoldInvoiceParams : String → Except String MakeHoldInvoiceParams
  lookupInvoiceParams : String → Except String LookupInvoiceParams
  listTransactionsParams : String → Except String ListTransactionsParams
  signMessageParams : String → Except String String
  createConnectionParams : String → Except String CreateConnectionParams
  settleHoldInvoiceParams : String → Except String String
  cancelHoldInvoiceParams : String → Except String String

/-- Reference: `lnclient/models.go:19 NodeInfo`, the fields that are answered. -/
structure NodeInfo where
  alias' : String
  color : String
  pubkey : String
  network : String
  blockHeight : Nat
  blockHash : String

/-! ## Commands -/

/-- What the handler does to the outside; `turn` is a look at the clock, the random source and the
permissions. Reference: `nip47/event_handler.go`, the calls on `svc.db`, `pool`,
`svc.eventPublisher`, and `nip47/controllers`, those on `lnClient` and the other services. -/
inductive EventCmd where
  | service (c : Cmd)
  | turn
  | createRequestEvent (nostrId : String)
  | firstApp (appPubkey : String)
  | updateLastUsedAt (appId : Nat) (now : Time)
  | updateRequestState (requestEventId : Nat) (state : String)
  | updateRequestApp (requestEventId appId : Nat)
  | updateRequestContent (requestEventId : Nat) (method contentData : String)
  | createResponseEvent (nostrId : String) (requestEventId : Nat)
  | publishMany (event : NostrEvent)
  | updateResponseEvent (responseEventId : Nat) (state : String) (repliedAt : Option Time)
  | publishPermissionDenied (requestMethod appName code message : String)
  | firstPermission (appId : Nat) (scope : String)
  | budgetUsage (p : AppPermission)
  | supportedMethods
  | lightningAddress
  | getInfo
  | signMessage (message : String)
  | createConnection (params : CreateConnectionParams)

/-- The answer to a command. Reference: the results of the calls of `EventCmd`. -/
abbrev EventCmd.Ans : EventCmd → Type
  | .service c => c.Ans
  | .turn => AppTurn
  | .createRequestEvent _ | .createResponseEvent _ _ | .budgetUsage _ => Except Err Nat
  | .firstApp _ => Except Err AppRow
  | .updateLastUsedAt _ _ | .updateRequestState _ _ | .updateRequestApp _ _
  | .updateRequestContent _ _ _ | .updateResponseEvent _ _ _ => Except Err Unit
  | .publishMany _ => List (Except String Unit)
  | .publishPermissionDenied _ _ _ _ => Unit
  | .firstPermission _ _ => Except Err (Option PermissionRow)
  | .supportedMethods => List String
  | .lightningAddress | .signMessage _ => Except Err String
  | .getInfo => Except Err NodeInfo
  | .createConnection _ => Except Nip47Error (Option String)

/-- A program of the handler. Reference: none. -/
abbrev Handler := Panicking EventCmd EventCmd.Ans

/-- One command. Reference: none. -/
abbrev ask (c : EventCmd) : Handler c.Ans := issue c

/-- A call of the transactions service. Reference: `nip47/controllers/nip47_controller.go:13
nip47Controller`. -/
def service {α : Type} (p : Svc α) : Handler α := p.relabel fun c => some (.service c)

/-! ## Responses -/

/-- Reference: `nip47/cipher/cipher.go:68 Decrypt`. -/
def Decrypt (L : Library) (c : Nip47Cipher) (content : String) : Except String String :=
  if c.encryption = "nip04" then L.decryptNip04 content c.sharedSecret
  else L.decryptNip44 content c.conversationKey

/-- The response event, with the clock and the random bytes of the turn. Reference:
`nip47/event_handler.go:452 CreateResponse`. -/
def responseEvent (L : Library) (turn : AppTurn) (initialEvent : NostrEvent) (content : Response)
    (tags : List (List String)) (cipher : Nip47Cipher) (appWalletPrivKey : String) :
    Except String NostrEvent := do
  let payload ← L.marshalResponse content
  let msg ← cipher.Encrypt L.toNostr (turn.random cipher.encryption) payload
  let appWalletPubKey ← L.getPublicKey appWalletPrivKey
  L.sign {
    pubKey := appWalletPubKey
    createdAt := turn.now.toUnix
    kind := 23195
    tags := ["p", initialEvent.pubKey] :: ["e", initialEvent.id] :: tags
    content := msg } appWalletPrivKey

/-- The event is nil where there is an error. Reference: `nip47/event_handler.go:452
CreateResponse`. -/
def CreateResponse (L : Library) (initialEvent : NostrEvent) (content : Response)
    (tags : List (List String)) (cipher : Nip47Cipher) (appWalletPrivKey : String) :
    Handler (Except String NostrEvent) := do
  let turn ← ask .turn
  return responseEvent L turn initialEvent content tags cipher appWalletPrivKey

/-- Reference: `nip47/event_handler.go:486 publishResponseEvent`. -/
def publishResponseEvent (requestEventId : Nat) (resp : Option NostrEvent) :
    Handler (Except Err Unit) := do
  let resp ← deref resp
  match ← ask (.createResponseEvent resp.id requestEventId) with
  | .error e => return .error e
  | .ok responseEventId =>
    let results ← ask (.publishMany resp)
    if results.any (·.toBool) then do
      let now ← ask (.service .now)
      ask (.updateResponseEvent responseEventId "confirmed" (some now))
    else ask (.updateResponseEvent responseEventId "failed" none)

/-- What the handler knows of an event whose app it has found. Reference:
`nip47/event_handler.go:26 HandleEvent`, its variables. -/
structure Context where
  event : NostrEvent
  requestEventId : Nat
  app : AppRow
  appWalletPrivKey : String

/-- Reference: `nip47/event_handler.go:286`, `publishResponse`. -/
def publishResponse (L : Library) (x : Context) (cipher : Nip47Cipher) (nip47Response : Response)
    (tags : List (List String)) : Handler Unit := do
  let created ← CreateResponse L x.event nip47Response tags cipher x.appWalletPrivKey
  let state ← (match created with
    | .error _ => pure "error"
    | .ok resp => do
      let published ← publishResponseEvent x.requestEventId (some resp)
      return if published.toBool then "executed" else "error")
  let _ ← ask (.updateRequestState x.requestEventId state)

/-- The response to a request that is not handed to a controller: its creation may have failed when
it is published. Reference: `nip47/event_handler.go:158`, `:185`, `:247 HandleEvent`. -/
def publishError (L : Library) (x : Context) (cipher : Nip47Cipher) (error : Nip47Error) :
    Handler Unit := do
  let resp ← CreateResponse L x.event { error := some error } [] cipher x.appWalletPrivKey
  let _ ← publishResponseEvent x.requestEventId resp.toOption

/-- The cipher of the preferred encryption. Reference: `nip47/event_handler.go:139`, `:228
HandleEvent`. -/
def nip44Cipher (L : Library) (x : Context) : Except String Nip47Cipher :=
  NewNip47Cipher L.toNostr "nip44_v2" x.app.appPubkey x.appWalletPrivKey

/-! ## Controllers -/

/-- Reference: `nip47/controllers/models.go:8 publishFunc`. -/
abbrev PublishFunc := Response → List (List String) → Handler Unit

/-- An error of the transactions service, which is known by its kind. Reference:
`nip47/controllers/map_nip47_error.go:12 mapNip47Error`. -/
def mapNip47Error (e : Err) : Nip47Error :=
  match e with
  | .notFound => ⟨"NOT_FOUND", e.error⟩
  | .insufficientBalance => ⟨"INSUFFICIENT_BALANCE", e.error⟩
  | .quotaExceeded => ⟨"QUOTA_EXCEEDED", e.error⟩
  | .holdInvoiceCanceled | .database _ | .message _ => ⟨"INTERNAL", e.error⟩

/-- The response with an error. Reference: `nip47/controllers`, `models.Response`. -/
def Request.failed (request : Request) (error : Nip47Error) : Response :=
  { resultType := request.method, error := some error }

/-- The response with a result. Reference: `nip47/controllers`, `models.Response`. -/
def Request.succeeded (request : Request) (result : ResponseResult) : Response :=
  { resultType := request.method, result := some result }

/-- Reference: `nip47/controllers/decode_request.go:12 decodeRequest`. -/
def decodeRequest {α : Type} (request : Request) (unmarshal : String → Except String α) :
    Except Response α :=
  (unmarshal request.params).mapError fun e => request.failed ⟨"BAD_REQUEST", e⟩

/-- How each controller begins: parameters that cannot be decoded are answered. Reference:
`nip47/controllers`, the `Handle` methods. -/
def withParams {α : Type} (request : Request) (publishResponse : PublishFunc)
    (unmarshal : String → Except String α) (tags : List (List String)) (k : α → Handler Unit) :
    Handler Unit :=
  match decodeRequest request unmarshal with
  | .error resp => publishResponse resp tags
  | .ok params => k params

/-- A value that a row points to is converted. Reference: `nip47/models/transactions.go:13
ToNip47Transaction`. -/
def convert (W : World) (transaction : Transaction) : Handler Nip47Transaction := do
  let now ← ask (.service .now)
  deref (ToNip47Transaction W now transaction)

section
variable (L : Library) (W : World) (request : Request) (requestEventId : Nat) (app : AppRow)
variable (publishResponse : PublishFunc)

/-- Reference: `nip47/controllers/pay_invoice_controller.go:55 pay`. -/
def pay (bolt11 : String) (amount : Option Nat) (metadata : Option Metadata)
    (tags : List (List String)) : Handler Unit := do
  match ← service
      (SendPaymentSync W bolt11 amount metadata (some app.id) (some requestEventId)) with
  | .error e => publishResponse (request.failed (mapNip47Error e)) tags
  | .ok transaction => do
    let preimage ← deref transaction.preimage
    publishResponse (request.succeeded (.pay ⟨preimage, transaction.feeMsat⟩)) tags

/-- Reference: `nip47/controllers/pay_invoice_controller.go:23 HandlePayInvoiceEvent`. -/
def HandlePayInvoiceEvent (tags : List (List String)) : Handler Unit :=
  withParams request publishResponse L.payInvoiceParams tags fun payParams =>
    let bolt11 := toLower W.lowerNonAscii payParams.invoice
    match W.decodepay bolt11 with
    | .error e =>
      publishResponse (request.failed ⟨"BAD_REQUEST", "Failed to decode bolt11 invoice: " ++ e⟩)
        tags
    | .ok _ => pay W request requestEventId app publishResponse bolt11 payParams.amount
      payParams.metadata tags

/-- One of the payments. Reference: `nip47/controllers/multi_pay_invoice_controller.go:39
HandleMultiPayInvoiceEvent`. -/
def payInvoiceElement (invoiceInfo : MultiPayInvoiceElement) : Handler Unit :=
  let bolt11 := toLower W.lowerNonAscii invoiceInfo.invoice
  match W.decodepay bolt11 with
  | .error e =>
    publishResponse (request.failed ⟨"BAD_REQUEST", "Failed to decode bolt11 invoice: " ++ e⟩)
      [["d", invoiceInfo.id]]
  | .ok paymentRequest =>
    let invoiceDTagValue :=
      if invoiceInfo.id = "" then paymentRequest.paymentHash else invoiceInfo.id
    pay W request requestEventId app publishResponse bolt11 invoiceInfo.amount invoiceInfo.metadata
      [["d", invoiceDTagValue]]

/-- Reference: `nip47/controllers/multi_pay_invoice_controller.go:27 HandleMultiPayInvoiceEvent`. -/
def HandleMultiPayInvoiceEvent : Handler Unit :=
  withParams request publishResponse L.multiPayInvoiceParams [] fun invoices =>
    invoices.forM (payInvoiceElement W request requestEventId app publishResponse)

/-- Reference: `nip47/controllers/pay_keysend_controller.go:37 payKeysend`. -/
def payKeysend (params : PayKeysendParams) (tags : List (List String)) : Handler Unit := do
  match ← service (SendKeysend W params.amount params.pubkey params.tlvRecords params.preimage
    (some app.id) (some requestEventId)) with
  | .error e => publishResponse (request.failed (mapNip47Error e)) tags
  | .ok transaction => do
    let transaction ← deref transaction
    let preimage ← deref transaction.preimage
    publishResponse (request.succeeded (.pay ⟨preimage, transaction.feeMsat⟩)) tags

/-- Reference: `nip47/controllers/pay_keysend_controller.go:27 HandlePayKeysendEvent`. -/
def HandlePayKeysendEvent (tags : List (List String)) : Handler Unit :=
  withParams request publishResponse L.payKeysendParams tags fun payKeysendParams =>
    payKeysend W request requestEventId app publishResponse payKeysendParams tags

/-- One of the keysends. Reference: `nip47/controllers/multi_pay_keysend_controller.go:32
HandleMultiPayKeysendEvent`. -/
def payKeysendElement (keysendInfo : MultiPayKeysendElement) : Handler Unit :=
  let keysendDTagValue := if keysendInfo.id = "" then keysendInfo.pubkey else keysendInfo.id
  payKeysend W request requestEventId app publishResponse keysendInfo.toPayKeysendParams
    [["d", keysendDTagValue]]

/-- Reference: `nip47/controllers/multi_pay_keysend_controller.go:21 HandleMultiPayKeysendEvent`. -/
def HandleMultiPayKeysendEvent : Handler Unit :=
  withParams request publishResponse L.multiPayKeysendParams [] fun keysends =>
    keysends.forM (payKeysendElement W request requestEventId app publishResponse)

/-- The balance of the app, or that of the node. Reference:
`nip47/controllers/get_balance_controller.go:24 HandleGetBalanceEvent`. -/
def HandleGetBalanceEvent : Handler Unit := do
  match ← (if app.isolated then ask (.service (.isolatedBalance app.id))
    else ask (.service .lnGetBalances)) with
  | .error e => publishResponse (request.failed (mapNip47Error e)) []
  | .ok balanceMsat => publishResponse (request.succeeded (.balance balanceMsat)) []

/-- Reference: `db/queries/get_budget_usage.go:49 GetBudgetRenewsAt`. -/
def GetBudgetRenewsAt (now : Time) (budgetRenewal : String) : Option Nat :=
  let budgetStart := getStartOfBudget W now budgetRenewal
  let c := W.civil budgetStart
  match budgetRenewal with
  | "daily" => some (uint64OfInt (W.addDays budgetStart 1).toUnix)
  | "weekly" => some (uint64OfInt (W.addDays budgetStart 7).toUnix)
  | "monthly" => some (uint64OfInt (W.date c.year (c.month + 1) c.day).toUnix)
  | "yearly" => some (uint64OfInt (W.date (c.year + 1) c.month c.day).toUnix)
  | _ => none

/-- Reference: `nip47/controllers/get_budget_controller.go:25 HandleGetBudgetEvent`. -/
def HandleGetBudgetEvent : Handler Unit := do
  match ← ask (.firstPermission app.id "pay_invoice") with
  | .error e => publishResponse (request.failed (mapNip47Error e)) []
  | .ok none => publishResponse (request.succeeded .empty) []
  | .ok (some appPermission) =>
    if appPermission.maxAmountSat = 0 then publishResponse (request.succeeded .empty) [] else
    match ← ask (.budgetUsage appPermission.toAppPermission) with
    | .error e => publishResponse (request.failed (mapNip47Error e)) []
    | .ok usedBudgetMsat => do
      let now ← ask (.service .now)
      publishResponse (request.succeeded (.budget usedBudgetMsat
        (uint64OfInt (appPermission.maxAmountSat * 1000))
        (GetBudgetRenewsAt W now appPermission.budgetRenewal) appPermission.budgetRenewal)) []

/-- Reference: `nip47/controllers/make_invoice_controller.go:23 HandleMakeInvoiceEvent`. -/
def HandleMakeInvoiceEvent : Handler Unit :=
  withParams request publishResponse L.makeInvoiceParams [] fun params => do
    match ← service (MakeInvoice W params.amount params.description params.descriptionHash
      params.expiry params.metadata (some app.id) (some requestEventId) none) with
    | .error e => publishResponse (request.failed (mapNip47Error e)) []
    | .ok transaction => do
      let nip47Transaction ← convert W transaction
      publishResponse (request.succeeded (.transaction nip47Transaction)) []

/-- Reference: `nip47/controllers/make_hold_invoice_controller.go:26 HandleMakeHoldInvoiceEvent`. -/
def HandleMakeHoldInvoiceEvent : Handler Unit :=
  withParams request publishResponse L.makeHoldInvoiceParams [] fun params =>
    if params.paymentHash = "" then
      publishResponse
        (request.failed ⟨"BAD_REQUEST", "payment_hash is required for make_hold_invoice"⟩) []
    else do
    match ← service (MakeHoldInvoice W params.amount params.description params.descriptionHash
      params.expiry params.paymentHash params.minCltvExpiryDelta params.metadata (some app.id)
      (some requestEventId)) with
    | .error e => publishResponse (request.failed (mapNip47Error e)) []
    | .ok transaction => do
      let nip47Transaction ← convert W transaction
      publishResponse (request.succeeded (.transaction nip47Transaction)) []

/-- The payment hash of the parameters, or that of their invoice. Reference:
`nip47/controllers/lookup_invoice_controller.go:40 HandleLookupInvoiceEvent`. -/
def LookupInvoiceParams.hash (params : LookupInvoiceParams) : Except String String :=
  if params.paymentHash ≠ "" then .ok params.paymentHash
  else (W.decodepay (toLower W.lowerNonAscii params.invoice)).map (·.paymentHash)

/-- Reference: `nip47/controllers/lookup_invoice_controller.go:25 HandleLookupInvoiceEvent`. -/
def HandleLookupInvoiceEvent : Handler Unit :=
  withParams request publishResponse L.lookupInvoiceParams [] fun params =>
    match params.hash W with
    | .error e =>
      publishResponse (request.failed ⟨"BAD_REQUEST", "Failed to decode bolt11 invoice: " ++ e⟩) []
    | .ok paymentHash => do
      match ← service (LookupTransaction W paymentHash none (some app.id)) with
      | .error e => publishResponse (request.failed (mapNip47Error e)) []
      | .ok dbTransaction => do
        let nip47Transaction ← convert W dbTransaction
        publishResponse (request.succeeded (.transaction nip47Transaction)) []

/-- Reference: `nip47/controllers/list_transactions_controller.go:29
HandleListTransactionsEvent`. -/
def HandleListTransactionsEvent : Handler Unit :=
  withParams request publishResponse L.listTransactionsParams [] fun listParams => do
    match ← service (ListTransactions W listParams.query (some app.id) false) with
    | .error e => publishResponse (request.failed (mapNip47Error e)) []
    | .ok (dbTransactions, totalCount) => do
      let transactions ← dbTransactions.mapM (convert W)
      publishResponse (request.succeeded (.transactions transactions totalCount)) []

/-- Reference: `nip47/controllers/sign_message_controller.go:21 HandleSignMessageEvent`. -/
def HandleSignMessageEvent : Handler Unit :=
  withParams request publishResponse L.signMessageParams [] fun message => do
    match ← ask (.signMessage message) with
    | .error e => publishResponse (request.failed (mapNip47Error e)) []
    | .ok signature => publishResponse (request.succeeded (.signature message signature)) []

/-- Reference: `nip47/controllers/create_connection_controller.go:34
HandleCreateConnectionEvent`. -/
def HandleCreateConnectionEvent : Handler Unit :=
  withParams request publishResponse L.createConnectionParams [] fun params => do
    match ← ask (.createConnection params) with
    | .error e => publishResponse (request.failed e) []
    | .ok walletPubkey => do
      let walletPubkey ← deref walletPubkey
      publishResponse (request.succeeded (.connection walletPubkey)) []

/-- Reference: `nip47/controllers/cancel_hold_invoice_controller.go:17
HandleCancelHoldInvoiceEvent`. -/
def HandleCancelHoldInvoiceEvent : Handler Unit :=
  withParams request publishResponse L.cancelHoldInvoiceParams [] fun paymentHash => do
    match ← service (CancelHoldInvoice paymentHash) with
    | .error e => publishResponse (request.failed (mapNip47Error e)) []
    | .ok () => publishResponse (request.succeeded .empty) []

/-- Reference: `nip47/controllers/settle_hold_invoice_controller.go:17
HandleSettleHoldInvoiceEvent`. -/
def HandleSettleHoldInvoiceEvent : Handler Unit :=
  withParams request publishResponse L.settleHoldInvoiceParams [] fun preimage => do
    match ← service (SettleHoldInvoice W preimage) with
    | .error e => publishResponse (request.failed (mapNip47Error e)) []
    | .ok _ => publishResponse (request.succeeded .empty) []

/-! ## Node and app information -/

/-- Reference: `nip47/permissions/permissions.go:117 scopeToRequestMethods`. -/
def scopeToRequestMethods : String → List String
  | "pay_invoice" => ["pay_invoice", "pay_keysend", "multi_pay_invoice", "multi_pay_keysend"]
  | "get_balance" => ["get_balance"]
  | "get_info" => ["get_info"]
  | "make_invoice" =>
    ["make_invoice", "make_hold_invoice", "settle_hold_invoice", "cancel_hold_invoice"]
  | "lookup_invoice" => ["lookup_invoice"]
  | "list_transactions" => ["list_transactions"]
  | "sign_message" => ["sign_message"]
  | "superuser" => ["create_connection"]
  | _ => []

/-- Reference: `nip47/permissions/permissions.go:195 GetAlwaysGrantedMethods`. -/
def GetAlwaysGrantedMethods : List String := ["get_info", "get_budget"]

/-- The methods of the app's scopes, with those that are always granted, as far as the LN client
supports them. Reference: `nip47/permissions/permissions.go:63 GetPermittedMethods`. -/
def GetPermittedMethods (turn : AppTurn) (supportedMethods : List String) : List String :=
  let scopes := if turn.fault then [] else
    (turn.permissions.filter fun p => p.appId = app.id).map (·.scope)
  let methods := scopes.flatMap scopeToRequestMethods
  let requestMethods := methods ++ GetAlwaysGrantedMethods.filter fun method => method ∉ methods
  requestMethods.filter fun method => method = "create_connection" ∨ method ∈ supportedMethods

/-- `v == nil` of an element of a map. Reference: the Go language, index expressions on maps. -/
def isNil : Option Json → Bool
  | none | some .null => true
  | some _ => false

/-- `metadata[key] = value` of a map that may be nil. Reference: the Go language, assignments to
maps. -/
def assign (metadata : Option Metadata) (key : String) (value : Json) : Handler (Option Metadata) :=
  do
  let fields ← deref metadata
  return some (fields.filter (·.1 ≠ key) ++ [(key, value)])

/-- `v.(string)`. Reference: the Go language, type assertions. -/
def assertString : Option Json → Handler String
  | some (.string s) => return s
  | _ => panic

/-- The map that an app's metadata is decoded into; an error is only logged. Reference:
`nip47/controllers/get_info_controller.go:40 HandleGetInfoEvent`. -/
def appMetadata : Option Metadata :=
  if app.metadata = "" then some [] else (L.unmarshalMetadata app.metadata).1

/-- The map with an element where it has none. Reference:
`nip47/controllers/get_info_controller.go:50 HandleGetInfoEvent`. -/
def assignDefault (metadata : Option Metadata) (key : String) (value : Json) :
    Handler (Option Metadata) :=
  if isNil (lookupKey key metadata) then assign metadata key value else return metadata

/-- Whether the metadata names the app store's sub-wallet app, and has a lightning address.
Reference: `nip47/controllers/get_info_controller.go:59 HandleGetInfoEvent`. -/
def hasSubwalletAddress (metadata : Option Metadata) : Bool :=
  match lookupKey "app_store_app_id" metadata with
  | some (.string appId) => appId = "uncle-jim" ∧ isNil (lookupKey "lud16" metadata) = false
  | _ => false

/-- Reference: `nip47/controllers/get_info_controller.go:56 HandleGetInfoEvent`. -/
def infoLightningAddress (metadata : Option Metadata) : Handler (Option String) :=
  if app.isolated = false then do
    let lightningAddress ← ask .lightningAddress
    return some (lightningAddress.toOption.getD "")
  else if hasSubwalletAddress metadata then do
    let lightningAddress ← assertString (lookupKey "lud16" metadata)
    return some lightningAddress
  else return none

/-- Some implementations return "bitcoin" while NIP47 expects "mainnet". Reference:
`nip47/controllers/get_info_controller.go:89 HandleGetInfoEvent`. -/
def nip47Network (network : String) : String := if network = "bitcoin" then "mainnet" else network

/-- Reference: `nip47/controllers/get_info_controller.go:28 HandleGetInfoEvent`. -/
def HandleGetInfoEvent : Handler Unit := do
  let turn ← ask .turn
  let permitted := (turn.findPermission app "notifications").isSome
  let turn ← ask .turn
  let supportedMethods ← ask .supportedMethods
  let metadata ← assignDefault (appMetadata L app) "id" (.number app.id 1)
  let metadata ← assignDefault metadata "name" (.string app.name)
  let lightningAddress ← infoLightningAddress app metadata
  let response : GetInfoResponse := {
    methods := GetPermittedMethods app turn supportedMethods
    notifications := if permitted then W.notificationTypes else []
    metadata, lightningAddress }
  let turn ← ask .turn
  if (HasPermission turn app "get_info").1 = false then
    publishResponse (request.succeeded (.info response)) []
  else
    match ← ask .getInfo with
    | .error e => publishResponse (request.failed (mapNip47Error e)) []
    | .ok info => publishResponse (request.succeeded (.info { response with
        alias' := some info.alias'
        color := some info.color
        pubkey := some info.pubkey
        network := some (nip47Network info.network)
        blockHeight := some info.blockHeight
        blockHash := some info.blockHash })) []

/-! ## The handler -/

/-- Reference: `nip47/event_handler.go:395 HandleEvent`. -/
def dispatch : Handler Unit :=
  match request.method with
  | "multi_pay_invoice" =>
    HandleMultiPayInvoiceEvent L W request requestEventId app publishResponse
  | "multi_pay_keysend" =>
    HandleMultiPayKeysendEvent L W request requestEventId app publishResponse
  | "pay_invoice" => HandlePayInvoiceEvent L W request requestEventId app publishResponse []
  | "pay_keysend" => HandlePayKeysendEvent L W request requestEventId app publishResponse []
  | "get_balance" => HandleGetBalanceEvent request app publishResponse
  | "get_budget" => HandleGetBudgetEvent W request app publishResponse
  | "make_invoice" => HandleMakeInvoiceEvent L W request requestEventId app publishResponse
  | "lookup_invoice" => HandleLookupInvoiceEvent L W request app publishResponse
  | "list_transactions" => HandleListTransactionsEvent L W request app publishResponse
  | "get_info" => HandleGetInfoEvent L W request app publishResponse
  | "sign_message" => HandleSignMessageEvent L request publishResponse
  | "create_connection" => HandleCreateConnectionEvent L request publishResponse
  | "make_hold_invoice" =>
    HandleMakeHoldInvoiceEvent L W request requestEventId app publishResponse
  | "cancel_hold_invoice" => HandleCancelHoldInvoiceEvent L request publishResponse
  | "settle_hold_invoice" => HandleSettleHoldInvoiceEvent L W request publishResponse
  | method => publishResponse (request.failed ⟨"NOT_IMPLEMENTED", "Unknown method: " ++ method⟩) []

/-- The seconds from the year 1 to 1970, from where a `time.Time` counts. Reference: Go
`time.unixToInternal`. -/
def unixToInternal : Int := 62135596800

/-- `event.CreatedAt.Time()`; the seconds wrap. Reference: Go `time.Unix`. -/
def createdTime (event : NostrEvent) : Time :=
  Time.unix (wrapInt64 (event.createdAt + unixToInternal) - unixToInternal)

/-- A payment or an invoice is not asked for by a request of more than six hours ago. The duration
of `time.Since` is cut at its largest value, which is more than that. Reference:
`nip47/event_handler.go:352 HandleEvent`. -/
def isStale (now : Time) (event : NostrEvent) (scope : String) : Bool :=
  (scope = "pay_invoice" ∨ scope = "make_invoice") ∧ Time.unix (6 * 3600) < now - createdTime event

end

section
variable (L : Library) (W : World) (x : Context)

/-- Reference: `nip47/event_handler.go:335 HandleEvent`. -/
def handleRequest (cipher : Nip47Cipher) (request : Request) : Handler Unit :=
  let respond := publishResponse L x cipher
  if request.method ∈ GetAlwaysGrantedMethods then
    dispatch L W request x.requestEventId x.app respond
  else
    match RequestMethodToScope request.method with
    | .error e => respond (request.failed ⟨"INTERNAL", e⟩) []
    | .ok scope => do
      let now ← ask (.service .now)
      if isStale now x.event scope then return () else
      let turn ← ask .turn
      match HasPermission turn x.app scope with
      | (true, _, _) => dispatch L W request x.requestEventId x.app respond
      | (false, code, message) => do
        ask (.publishPermissionDenied request.method x.app.name code message)
        respond (request.failed ⟨code, message⟩) []

/-- The encryption that the event names. Reference: `nip47/event_handler.go:111 HandleEvent`. -/
def requestEncryption (event : NostrEvent) : Handler String :=
  match L.findTag event.tags "encryption" with
  | none => return "nip04"
  | some encryptionTag => deref encryptionTag[1]?

/-- The request event's row is the app's, and its content is decrypted. Reference:
`nip47/event_handler.go:170 HandleEvent`. -/
def handleContent (cipher : Nip47Cipher) : Handler Unit := do
  match ← ask (.updateRequestApp x.requestEventId x.app.id) with
  | .error e => do
    publishError L x cipher ⟨"INTERNAL", "Failed to save app to nostr event: " ++ e.error⟩
    let _ ← ask (.updateRequestState x.requestEventId "error")
  | .ok () =>
    match Decrypt L cipher x.event.content with
    | .error decryptionErr => do
      let _ ← ask (.updateRequestState x.requestEventId "error")
      match nip44Cipher L x with
      | .error _ => return ()
      | .ok cipher =>
        publishError L x cipher ⟨"BAD_REQUEST", "failed to decrypt: " ++ decryptionErr⟩
    | .ok payload =>
      match L.unmarshalRequest payload with
      | .error _ => do
        let _ ← ask (.updateRequestState x.requestEventId "error")
      | .ok request => do
        let _ ← ask (.updateRequestContent x.requestEventId request.method payload)
        handleRequest L W x cipher request

/-- Reference: `nip47/event_handler.go:111 HandleEvent`. -/
def handleEncrypted : Handler Unit := do
  let encryption ← requestEncryption L x.event
  match NewNip47Cipher L.toNostr encryption x.app.appPubkey x.appWalletPrivKey with
  | .error cipherErr => do
    let _ ← ask (.updateRequestState x.requestEventId "error")
    match nip44Cipher L x with
    | .error _ => return ()
    | .ok cipher => publishError L x cipher ⟨"UNSUPPORTED_ENCRYPTION", cipherErr⟩
  | .ok cipher => handleContent L W x cipher

/-- Reference: `nip47/event_handler.go:26 HandleEvent`. -/
def HandleEvent (lnClientStarted : Bool) (event : NostrEvent) : Handler Unit :=
  match L.checkSignature event with
  | .error _ | .ok false => return ()
  | .ok true =>
    if lnClientStarted = false then return () else do
    match ← ask (.createRequestEvent event.id) with
    | .error _ => return ()
    | .ok requestEventId =>
      match ← ask (.firstApp event.pubKey) with
      | .error _ => return ()
      | .ok app => do
        let now ← ask (.service .now)
        let _ ← ask (.updateLastUsedAt app.id now)
        match AlbyHub.appWalletPrivKey L.toNostr app with
        | .error _ => return ()
        | .ok appWalletPrivKey =>
          handleEncrypted L W ⟨event, requestEventId, app, appWalletPrivKey⟩

end

end AlbyHub.EventHandler
