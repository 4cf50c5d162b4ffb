import AlbyHub.Transactions.Calls

/-!
# The requests of NIP-47

What the controllers do with a decoded request of an app: which methods of the transactions service
they call, on the app's behalf. A request whose parameters the controller refuses calls none; the
payments of a `multi_pay` request are calls of their own, which run concurrently.
-/

namespace AlbyHub

open Go

/-- Reference: `nip47/controllers/pay_invoice_controller.go:17 payInvoiceParams`. -/
structure PayInvoiceParams where
  invoice : String
  amount : Option Nat := none
  metadata : Option Metadata := none

/-- Reference: `nip47/controllers/pay_keysend_controller.go:18 payKeysendParams`. -/
structure PayKeysendParams where
  amount : Nat
  pubkey : String
  preimage : String := ""
  tlvRecords : List TLVRecord := []

/-- Reference: `nip47/controllers/list_transactions_controller.go:14 listTransactionsParams`. -/
structure ListTransactionsParams where
  from' : Nat := 0
  until' : Nat := 0
  limit : Nat := 0
  offset : Nat := 0
  unpaid : Bool := false
  unpaidOutgoing : Bool := false
  unpaidIncoming : Bool := false
  type : String := ""

/-- The listing that the parameters ask for, of at most 50 rows. Reference:
`nip47/controllers/list_transactions_controller.go:29 HandleListTransactionsEvent`. -/
def ListTransactionsParams.query (p : ListTransactionsParams) : ListQuery where
  from' := p.from'
  until' := p.until'
  limit := if p.limit = 0 ∨ p.limit > 50 then 50 else p.limit
  offset := p.offset
  unpaidOutgoing := p.unpaid || p.unpaidOutgoing
  unpaidIncoming := p.unpaid || p.unpaidIncoming
  filters := some { type := if p.type ≠ "" then some p.type else none }

/-- A request with its parameters. Reference: `nip47/controllers`, the methods that reach the
transactions service. -/
inductive Nip47Request where
  | payInvoice (params : PayInvoiceParams)
  | multiPayInvoice (invoices : List PayInvoiceParams)
  | payKeysend (params : PayKeysendParams)
  | multiPayKeysend (keysends : List PayKeysendParams)
  | makeInvoice (amount : Nat) (description descriptionHash : String) (expiry : Nat)
      (metadata : Option Metadata)
  | makeHoldInvoice (amount : Nat) (paymentHash description descriptionHash : String)
      (expiry : Nat) (minCltvExpiryDelta : Option Nat) (metadata : Option Metadata)
  | settleHoldInvoice (preimage : String)
  | cancelHoldInvoice (paymentHash : String)
  | lookupInvoice (invoice paymentHash : String)
  | listTransactions (params : ListTransactionsParams)

/-- Reference: `nip47/controllers/pay_invoice_controller.go:23 HandlePayInvoiceEvent`, `:54 pay`. -/
def PayInvoiceParams.calls (W : World) (appId requestEventId : Nat) (p : PayInvoiceParams) :
    List Op :=
  let bolt11 := toLower W.lowerNonAscii p.invoice
  match W.decodepay bolt11 with
  | .error _ => []
  | .ok _ => [.sendPaymentSync bolt11 p.amount p.metadata (some appId) (some requestEventId)]

/-- Reference: `nip47/controllers/pay_keysend_controller.go:35 payKeysend`. -/
def PayKeysendParams.calls (appId requestEventId : Nat) (p : PayKeysendParams) : List Op :=
  [.sendKeysend p.amount p.pubkey p.tlvRecords p.preimage (some appId) (some requestEventId)]

/-- The calls that a request of the app makes. Reference: `nip47/controllers`, the `Handle`
methods. -/
def Nip47Request.calls (W : World) (appId requestEventId : Nat) : Nip47Request → List Op
  | .payInvoice params => params.calls W appId requestEventId
  | .multiPayInvoice invoices => invoices.flatMap (·.calls W appId requestEventId)
  | .payKeysend params => params.calls appId requestEventId
  | .multiPayKeysend keysends => keysends.flatMap (·.calls appId requestEventId)
  | .makeInvoice amount description descriptionHash expiry metadata =>
    [.makeInvoice amount description descriptionHash expiry metadata (some appId)
      (some requestEventId) none]
  | .makeHoldInvoice amount paymentHash description descriptionHash expiry minCltvExpiryDelta
      metadata =>
    if paymentHash = "" then []
    else [.makeHoldInvoice amount description descriptionHash expiry paymentHash minCltvExpiryDelta
      metadata (some appId) (some requestEventId)]
  | .settleHoldInvoice preimage => [.settleHoldInvoice (some appId) preimage]
  | .cancelHoldInvoice paymentHash => [.cancelHoldInvoice (some appId) paymentHash]
  | .lookupInvoice invoice paymentHash =>
    if paymentHash ≠ "" then [.lookupTransaction paymentHash none (some appId)] else
    match W.decodepay (toLower W.lowerNonAscii invoice) with
    | .error _ => []
    | .ok paymentRequest => [.lookupTransaction paymentRequest.paymentHash none (some appId)]
  | .listTransactions params => [.listTransactions params.query (some appId) false]

end AlbyHub
