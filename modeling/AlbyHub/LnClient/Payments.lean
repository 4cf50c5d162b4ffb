import AlbyHub.Transactions.Tx

/-!
# The payments of the LN clients

`SendPaymentSync` of the LDK, LND and phoenixd clients. A client decodes the invoice, asks the node
to pay it and waits. What the node answers is given: the client's result is a function of the
answers, and `none` while it waits for more of them.
-/

namespace AlbyHub

open Go

/-- What the node is asked to pay; without an amount it pays the invoice's. Reference:
`lnclient/ldk/ldk.go:634`, `lnclient/lnd/lnd.go:449`. -/
structure NodePayment where
  amountMsat : Option Int
  feeLimitMsat : Int
  deriving DecidableEq, Repr

/-- What the node pays. Reference: ldk-node `Send` and `SendUsingAmount`, LND
`SendPaymentRequest`. -/
def NodePayment.pays (paymentRequest : Bolt11) (p : NodePayment) : Int :=
  p.amountMsat.getD (uint64OfInt paymentRequest.mSatoshi)

/-- The amount that a client computes its fee limit from. Reference: `lnclient/ldk/ldk.go:593
SendPaymentSync`, `lnclient/lnd/lnd.go:445 SendPaymentSync`. -/
def clientAmount (paymentRequest : Bolt11) (amountMsat : Option Nat) : Nat :=
  amountMsat.getD (uint64OfInt paymentRequest.mSatoshi)

/-- Reference: `lnclient/ldk/ldk.go:583 SendPaymentSync`. -/
def LDKService.payment (W : World) (invoice : String) (amountMsat : Option Nat) :
    Except String NodePayment :=
  match W.decodepay invoice with
  | .error e => .error e
  | .ok paymentRequest => .ok {
      amountMsat := amountMsat.map Int.ofNat
      feeLimitMsat := CalculateFeeReserveMsat (clientAmount paymentRequest amountMsat) }

/-- LND takes the amount 0 for an amount that is not set. Reference: `lnclient/lnd/lnd.go:435
SendPaymentSync`. -/
def LNDService.payment (W : World) (payReq : String) (amountMsat : Option Nat) :
    Except String NodePayment :=
  match W.decodepay payReq with
  | .error e => .error e
  | .ok paymentRequest =>
    let amtMsat : Int := match amountMsat with
      | some amountMsat => int64 amountMsat
      | none => 0
    .ok {
      amountMsat := if amtMsat = 0 then none else some amtMsat
      feeLimitMsat := int64 (CalculateFeeReserveMsat (clientAmount paymentRequest amountMsat)) }

/-- What the LDK client waits for: the end of its context, or an event of the node. Reference:
`lnclient/ldk/ldk.go:646 SendPaymentSync`. -/
inductive LDKSignal where
  | done (e : String)
  | paymentSuccessful (paymentHash : String) (paymentPreimage : Option String)
      (feePaidMsat : Option Nat)
  | paymentFailed (paymentHash : Option String) (reason : String)
  | other
  deriving DecidableEq, Repr

/-- The answers of an LDK node. Reference: `lnclient/ldk/ldk.go:626`, `:635`, `:647`. -/
structure LDKNode where
  invoiceFromStr : Except String Unit
  send : Except String String
  signals : List LDKSignal

/-- The loop that waits for the payment's end. Reference: `lnclient/ldk/ldk.go:646
SendPaymentSync`. -/
def LDKService.wait (paymentHash : String) : List LDKSignal →
    Option (Except String PayInvoiceResponse)
  | [] => none
  | .done e :: _ => some (.error e)
  | .paymentSuccessful hash paymentPreimage feePaidMsat :: signals =>
    if hash ≠ paymentHash then LDKService.wait paymentHash signals else
    match paymentPreimage with
    | none => some (.error "payment preimage not found")
    | some preimage => some (.ok ⟨preimage, feePaidMsat.getD 0⟩)
  | .paymentFailed hash reason :: signals =>
    if hash = some paymentHash then some (.error ("received payment failed event: " ++ reason))
    else LDKService.wait paymentHash signals
  | .other :: signals => LDKService.wait paymentHash signals

/-- Reference: `lnclient/ldk/ldk.go:583 SendPaymentSync`. -/
def LDKService.SendPaymentSync (W : World) (node : LDKNode) (invoice : String)
    (amountMsat : Option Nat) : Option (Except String PayInvoiceResponse) :=
  match LDKService.payment W invoice amountMsat, node.invoiceFromStr, node.send with
  | .error e, _, _ | .ok _, .error e, _ | .ok _, .ok (), .error e => some (.error e)
  | .ok _, .ok (), .ok paymentHash => LDKService.wait paymentHash node.signals

/-- Reference: LND `lnrpc.Payment_PaymentStatus`. -/
inductive PaymentStatus where
  | unknown
  | inFlight
  | succeeded
  | failed
  | initiated
  deriving DecidableEq, Repr

/-- An update of a payment. Reference: LND `lnrpc.Payment`. -/
structure LNDPayment where
  status : PaymentStatus
  paymentPreimage : String := ""
  feeMsat : Int := 0
  failureReason : String := ""
  deriving DecidableEq, Repr

/-- The answers of an LND node: to the request, and the updates or the errors of the stream.
Reference: `lnclient/lnd/lnd.go:461`, `:592`. -/
structure LNDNode where
  sendPayment : Except String Unit
  updates : List (Except String LNDPayment)

/-- Reference: `lnclient/lnd/lnd.go:590 getPaymentResult`. -/
def LNDService.getPaymentResult : List (Except String LNDPayment) →
    Option (Except String LNDPayment)
  | [] => none
  | .error e :: _ => some (.error e)
  | .ok payment :: updates =>
    if payment.status ≠ .inFlight then some (.ok payment)
    else LNDService.getPaymentResult updates

/-- Reference: `lnclient/lnd/lnd.go:435 SendPaymentSync`. -/
def LNDService.SendPaymentSync (W : World) (node : LNDNode) (payReq : String)
    (amountMsat : Option Nat) : Option (Except String PayInvoiceResponse) :=
  match LNDService.payment W payReq amountMsat, node.sendPayment with
  | .error e, _ | .ok _, .error e => some (.error e)
  | .ok _, .ok () =>
    (LNDService.getPaymentResult node.updates).map fun
      | .error e => .error e
      | .ok resp =>
        if resp.status ≠ .succeeded then .error resp.failureReason
        else if resp.paymentPreimage = "" then .error "no preimage in response"
        else .ok ⟨resp.paymentPreimage, uint64OfInt resp.feeMsat⟩

/-- The answers of a phoenixd node: whether the request is made, the response or the error of the
HTTP client (its timeout too), the body, and what it is decoded to. Reference:
`lnclient/phoenixd/phoenixd.go:346 SendPaymentSync`. -/
structure PhoenixNode where
  newRequest : Except String Unit
  response : Option (Except String Nat)
  body : Except String String
  unmarshal : String → Except String (String × Int)

/-- Reference: `lnclient/phoenixd/phoenixd.go:346 SendPaymentSync`. -/
def PhoenixService.SendPaymentSync (node : PhoenixNode) (amountMsat : Option Nat) :
    Option (Except String PayInvoiceResponse) :=
  if amountMsat ≠ none then some (.error "0-amount invoices not supported") else
  match node.newRequest with
  | .error e => some (.error e)
  | .ok () => node.response.map fun
    | .error e => .error e
    | .ok statusCode =>
      match node.body with
      | .error e => .error e
      | .ok body =>
        if statusCode ≠ 200 then
          .error ("phoenixd /payinvoice returned non-success status: " ++ toString statusCode ++
            " " ++ body)
        else
        match node.unmarshal body with
        | .error e => .error e
        | .ok (paymentPreimage, routingFeeSat) =>
          .ok ⟨paymentPreimage, uint64 (uint64OfInt routingFeeSat * 1000)⟩

end AlbyHub
