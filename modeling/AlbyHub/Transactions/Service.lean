import AlbyHub.Transactions.Cmd

/-!
# The transactions service

The methods of `transactionsService` as programs over `Cmd`, under the source's names. A program
issues its commands in the order of the source; log lines and contexts are left out.
-/

namespace AlbyHub

open Go Interaction

/-- A program of the service. Reference: none. -/
abbrev Svc := Prog Cmd Cmd.Ans

/-- One command. Reference: none. -/
abbrev ask (c : Cmd) : Svc c.Ans := Prog.call c

/-- The metadata of a request, encoded and checked against `INVOICE_METADATA_MAX_LENGTH`. The three
places differ in one word of the error. Reference: `transactions/transactions_service.go:186`,
`:250`, `:303`. -/
def encodeMetadata (W : World) (what : String) (metadata : Option (List (String × Json))) :
    Except Err String :=
  match metadata with
  | none => .ok ""
  | some fields =>
    match W.marshal (.object fields) with
    | .error e => .error (.message e)
    | .ok bytes =>
      if bytes.utf8ByteSize > 4096 then
        .error (.message ("encoded " ++ what ++ " metadata provided is too large. Limit: 4096 " ++
          "Received: " ++ toString bytes.utf8ByteSize))
      else .ok bytes

/-- Reference: `transactions/transactions_service.go:1655 publishEvents`. -/
def publishEvents : List Event → Svc Unit
  | [] => pure ()
  | event :: events => do
    ask (.publish event)
    publishEvents events

/-- Reference: `transactions/transactions_service.go:1470 markTransactionSettled`; the second
component is the caller's copy afterwards. -/
def settleCopy (dbTransaction : Transaction) (preimage : String) (feeMsat : Nat)
    (selfPayment : Bool) : Svc (Except Err (Transaction × Transaction)) :=
  if preimage = "" then return .error (.message "no preimage in payment") else do
  match ← ask (.markTransactionSettledTx dbTransaction preimage feeMsat selfPayment) with
  | .error e => return .error e
  | .ok settlement =>
    publishEvents settlement.events
    return .ok (settlement.settled, settlement.copy)

/-- Reference: `transactions/transactions_service.go:1470 markTransactionSettled`. -/
def markTransactionSettled (dbTransaction : Transaction) (preimage : String) (feeMsat : Nat)
    (selfPayment : Bool) : Svc (Except Err Transaction) := do
  let settled ← settleCopy dbTransaction preimage feeMsat selfPayment
  return settled.map (·.1)

/-- Reference:
`transactions/transactions_service.go:1528 createSettledTransactionFromNotification`. -/
def createSettledTransactionFromNotification (dbTransaction : Transaction) (preimage : String)
    (feeMsat : Nat) (selfPayment : Bool) : Svc (Except Err Transaction) :=
  if preimage = "" then return .error (.message "no preimage in payment") else do
  match ← ask (.createSettledTransactionTx dbTransaction preimage feeMsat selfPayment) with
  | .error e => return .error e
  | .ok settlement =>
    publishEvents settlement.events
    return .ok settlement.settled

/-- The second component is the caller's copy afterwards. Reference:
`transactions/transactions_service.go:1709 markPaymentFailed`. -/
def markPaymentFailed (dbTransaction : Transaction) (reason : String) :
    Svc (Except Err (Bool × Transaction)) := do
  match ← ask (.markPaymentFailedTx dbTransaction reason) with
  | .error e => return .error e
  | .ok (markedFailed, copy) =>
    publishEvents (if markedFailed then [.paymentFailed copy] else [])
    return .ok (markedFailed, copy)

/-- Reference: `transactions/transactions_service.go:993 markHoldInvoiceAccepted`. -/
def markHoldInvoiceAccepted (paymentRequest paymentHash : String) (settleDeadline : Nat)
    (selfPayment : Bool) : Svc Unit := do
  match ← ask
    (.markHoldInvoiceAcceptedTx paymentRequest paymentHash settleDeadline selfPayment) with
  | .error _ => return ()
  | .ok dbTransaction => ask (.publish (.holdInvoiceAccepted dbTransaction))

/-- Reference: `transactions/transactions_service.go:1095 interceptSelfHoldPayment`. -/
def interceptSelfHoldPayment (paymentRequest paymentHash : String) :
    Svc (Except Err PayInvoiceResponse) := do
  let since ← ask .registerSubscriber
  match ← ask .lnGetInfo with
  | .error _ => return .error (.message "failed to get client info")
  | .ok blockHeight =>
    if blockHeight = 0 then return .error (.message "invalid client block height") else
    markHoldInvoiceAccepted paymentRequest paymentHash ((blockHeight + 24) % 2 ^ 32) true
    match ← ask (.receiveHoldUpdate since paymentRequest) with
    | .settled settledTransaction =>
      match settledTransaction.preimage with
      | none => return .error (.message "preimage is not set on self hold payment")
      | some preimage => return .ok ⟨preimage, 0⟩
    | .canceled _ => return .error .holdInvoiceCanceled

/-- Reference: `transactions/transactions_service.go:1055 interceptSelfPayment`. -/
def interceptSelfPayment (paymentRequest paymentHash : String) :
    Svc (Except Err PayInvoiceResponse) := do
  match ← ask (.find { type := some .incoming, state := some .pending, paymentRequest, paymentHash }
    .none) with
  | .error e => return .error e
  | .ok none => return .error .notFound
  | .ok (some incomingTransaction) =>
    if incomingTransaction.hold then interceptSelfHoldPayment paymentRequest paymentHash else
    match incomingTransaction.preimage with
    | none =>
      return .error (.message "preimage is not set on transaction. Self payments not supported")
    | some preimage =>
      match ← markTransactionSettled incomingTransaction preimage 0 true with
      | .error e => return .error e
      | .ok _ => return .ok ⟨preimage, 0⟩

end AlbyHub
