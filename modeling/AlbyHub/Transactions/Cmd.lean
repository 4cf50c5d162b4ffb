import AlbyHub.Db.Listing
import AlbyHub.Transactions.Tx
import AlbyHub.Interaction.Pool

/-!
# The commands of the service

What a call of the service does to the outside, one atomic command at a time: reads and writes of
the database (each statement outside a transaction is one of its own), publications, the wait for a
hold invoice's update, and calls of the LN client. `exec` says what a command does. A failing
database answers an error and changes nothing; a wait without an update to receive is blocked.
-/

namespace AlbyHub

open Go

/-- The hub: the database, and the events published so far, oldest first. A subscriber is given
every event that is published after it registered, in any order. Reference: `events/events.go`. -/
structure Hub where
  db : DB
  published : List Event

/-- The order of a query with `Limit(1)`. Reference: gorm `Order`. -/
inductive Order where
  | none
  | latestUpdated

/-- Reference: `transactions/transactions_service.go`, the calls on `svc.db`, `svc.eventPublisher`,
`lnClient`, `time` and `rand`. -/
inductive Cmd where
  | now
  | randomBytes
  | find (q : Where) (order : Order)
  | lookup (paymentHash : String) (type : Option TransactionType) (appId : Option Nat)
  | findPendingSince (t : Time)
  | countRows (q : ListQuery)
  | listRows (q : ListQuery)
  | isIsolated (appId : Nat)
  | isolatedBalance (appId : Nat)
  | takeApp (id : Nat)
  | create (row : Transaction)
  | sendPaymentTx (a : SendPaymentArgs)
  | sendKeysendTx (row : Transaction)
  | markTransactionSettledTx (row : Transaction) (preimage : String) (feeMsat : Nat)
      (selfPayment : Bool)
  | createSettledTransactionTx (row : Transaction) (preimage : String) (feeMsat : Nat)
      (selfPayment : Bool)
  | markPaymentFailedTx (row : Transaction) (reason : String)
  | markHoldInvoiceAcceptedTx (paymentRequest paymentHash : String) (settleDeadline : Nat)
      (selfPayment : Bool)
  | updateMetadata (id : Nat) (metadata : String)
  | publish (event : Event)
  | registerSubscriber
  | receiveHoldUpdate (since : Nat) (paymentRequest : String)
  | lnSendPaymentSync (payReq : String) (amountMsat : Option Nat)
  | lnSendKeysend (amountMsat : Nat) (destination : String) (customRecords : List TLVRecord)
      (preimage : String)
  | lnMakeInvoice (amountMsat : Int) (description descriptionHash : String) (expiry : Int)
      (throughNodePubkey : Option String)
  | lnMakeHoldInvoice (amountMsat : Int) (description descriptionHash : String) (expiry : Int)
      (paymentHash : String) (minCltvExpiryDelta : Option Nat)
  | lnSettleHoldInvoice (preimage : String)
  | lnCancelHoldInvoice (paymentHash : String)
  | lnLookupInvoice (paymentHash : String)
  | lnGetInfo
  | lnGetBalances

/-- What the waiting payer of a hold invoice receives. Reference:
`transactions/hold_invoice_self_payment_consumer.go:10 holdInvoiceUpdatedConsumer`. -/
inductive HoldUpdate where
  | settled (row : Transaction)
  | canceled (row : Transaction)
  deriving DecidableEq, Repr

/-- The answer to a command. Reference: the results of the calls of `Cmd`. -/
abbrev Cmd.Ans : Cmd → Type
  | .now => Time
  | .randomBytes => Except Err (List UInt8)
  | .find _ _ | .lookup _ _ _ => Except Err (Option Transaction)
  | .findPendingSince _ | .listRows _ => Except Err (List Transaction)
  | .countRows _ => Except Err Nat
  | .isIsolated _ => Except Err Bool
  | .takeApp _ => Except Err App
  | .create _ | .sendPaymentTx _ | .sendKeysendTx _ => Except Err Transaction
  | .markTransactionSettledTx _ _ _ _ | .createSettledTransactionTx _ _ _ _ =>
    Except Err Settlement
  | .markPaymentFailedTx _ _ => Except Err (Bool × Transaction)
  | .markHoldInvoiceAcceptedTx _ _ _ _ => Except Err Transaction
  | .updateMetadata _ _ => Except Err Unit
  | .publish _ => Unit
  | .registerSubscriber => Nat
  | .receiveHoldUpdate _ _ => HoldUpdate
  | .lnSendPaymentSync _ _ => Except Err PayInvoiceResponse
  | .lnSendKeysend _ _ _ _ => Except Err Nat
  | .lnMakeInvoice _ _ _ _ _ | .lnMakeHoldInvoice _ _ _ _ _ _ | .lnLookupInvoice _ =>
    Except Err LnTransaction
  | .lnSettleHoldInvoice _ | .lnCancelHoldInvoice _ => Except Err Unit
  | .lnGetInfo => Except Err Nat
  | .isolatedBalance _ | .lnGetBalances => Except Err Int

/-- What a subscriber that waits for an invoice makes of an event. Reference:
`transactions/hold_invoice_self_payment_consumer.go:24 ConsumeEvent`. -/
def holdUpdate (paymentRequest : String) : Event → Option HoldUpdate
  | .paymentReceived row =>
    if row.paymentRequest = paymentRequest then some (.settled row) else none
  | .holdInvoiceCanceled row =>
    if row.paymentRequest = paymentRequest then some (.canceled row) else none
  | _ => none

/-- The rows that a query with the order may return first. Reference: SQL `ORDER BY`. -/
def Order.first (l : List Transaction) : Order → List Transaction
  | .none => l
  | .latestUpdated => l.filter fun r => ∀ r' ∈ l, r'.updatedAt ≤ r.updatedAt

/-- Whether `r` comes before `r'` in the order `settled_at desc, created_at desc`; `NULL`s come
first in a descending order on postgres and last on sqlite. Reference:
`transactions/transactions_service.go:629 LookupTransaction`. -/
def lookupBefore (W : World) (r r' : Transaction) : Bool :=
  match r.settledAt, r'.settledAt with
  | some s, some s' => s > s' || s = s' && r.createdAt > r'.createdAt
  | none, none => r.createdAt > r'.createdAt
  | none, some _ => W.postgres
  | some _, none => !W.postgres

/-- The rows that `LookupTransaction` may return. Reference:
`transactions/transactions_service.go:599 LookupTransaction`. -/
def lookupRows (W : World) (t : Table) (paymentHash : String) (type : Option TransactionType)
    (appId : Option Nat) : List Transaction :=
  let l := (t.select { type, paymentHash }).filter fun r => appId = none ∨ r.appId = appId
  l.filter fun r => l.all fun r' => !lookupBefore W r' r

/-- A read of the database. Reference: none. -/
def Hub.read {α : Type} (s : Hub) (env : Env) (a : α) : Option (Except Err α × Hub) :=
  match env.fault with
  | some e => some (.error (.database e), s)
  | none => some (.ok a, s)

/-- A listing. Reference: `transactions/transactions_service.go:654 ListTransactions`. -/
def Hub.query {α : Type} (s : Hub) (env : Env) (q : ListQuery) (a : α) :
    Option (Except Err α × Hub) :=
  if q.Bindable then s.read env a else some (.error highBitSet, s)

/-- A database transaction with the body's result. Reference: gorm `Transaction`. -/
def Hub.transaction {α : Type} (s : Hub) (env : Env) (r : TxResult α × List Event) :
    Option (Except Err α × Hub) :=
  match env.fault, r with
  | some e, _ => some (.error (.database e), s)
  | none, (.error e, events) => some (.error e, { s with published := s.published ++ events })
  | none, (.ok (a, db), events) => some (.ok a, ⟨db, s.published ++ events⟩)

/-- The answer of the LN client. Reference: `lnclient/models.go:60 LNClient`. -/
def Hub.lnClient {α : Type} (s : Hub) (a : Except String α) : Option (Except Err α × Hub) :=
  some (a.mapError .message, s)

/-- The columns that an edit of the metadata writes. Reference:
`transactions/transactions_service.go:1421 SetTransactionMetadata`. -/
def metadataUpdate (metadata : String) : Update :=
  ⟨fun r => { r with metadata := metadata }, fun _ => rfl⟩

/-- What a command does in an environment. Reference: the calls of `Cmd`. -/
def exec (W : World) (s : Hub) : (c : Cmd) → Env → Option (c.Ans × Hub)
  | .now, env => some (env.now, s)
  | .randomBytes, env => s.read env env.randomBytes
  | .find q order, env => s.read env (pick env.pick (order.first (s.db.transactions.select q)))
  | .lookup paymentHash type appId, env =>
    s.read env (pick env.pick (lookupRows W s.db.transactions paymentHash type appId))
  | .findPendingSince t, env =>
    s.read env (s.db.transactions.rows.filter fun r => r.state = .pending ∧ t < r.createdAt)
  | .countRows q, env => s.query env q (q.rows W s.db.transactions).length
  | .listRows q, env =>
    s.query env q (q.page (orderUpdated env.pick (q.rows W s.db.transactions)))
  | .isIsolated appId, env => s.read env (s.db.apps.any fun a => a.id = appId && a.isolated)
  | .isolatedBalance appId, env =>
    match env.fault with
    | some e => some (.error (.database e), s)
    | none => some (GetIsolatedBalanceMsat s.db.transactions appId, s)
  | .takeApp id, env =>
    s.transaction env (match s.db.findApp env.pickApp id with
      | some app => (.ok (app, s.db), [])
      | none => (.error (.message "record not found"), []))
  | .create row, env => s.transaction env (createForTx env s.db row, [])
  | .sendPaymentTx a, env => s.transaction env (sendPaymentTx W env s.db a)
  | .sendKeysendTx row, env => s.transaction env (sendKeysendTx W env s.db row)
  | .markTransactionSettledTx row preimage feeMsat selfPayment, env =>
    s.transaction env (markTransactionSettledTx W env s.db row preimage feeMsat selfPayment, [])
  | .createSettledTransactionTx row preimage feeMsat selfPayment, env =>
    s.transaction env (createSettledTransactionTx W env s.db row preimage feeMsat selfPayment, [])
  | .markPaymentFailedTx row reason, env =>
    s.transaction env (markPaymentFailedTx env s.db row reason, [])
  | .markHoldInvoiceAcceptedTx paymentRequest paymentHash settleDeadline selfPayment, env =>
    s.transaction env
      (markHoldInvoiceAcceptedTx s.db paymentRequest paymentHash settleDeadline selfPayment, [])
  | .updateMetadata id metadata, env =>
    s.transaction env
      (.ok ((), s.db.withTransactions (s.db.transactions.update id (metadataUpdate metadata))), [])
  | .publish event, _ => some ((), { s with published := s.published ++ [event] })
  | .registerSubscriber, _ => some (s.published.length, s)
  | .receiveHoldUpdate since paymentRequest, env =>
    (pick env.pick ((s.published.drop since).filterMap (holdUpdate paymentRequest))).map (·, s)
  | .lnSendPaymentSync _ _, env => s.lnClient env.payInvoice
  | .lnSendKeysend _ _ _ _, env => s.lnClient env.payKeysend
  | .lnMakeInvoice _ _ _ _ _, env => s.lnClient env.transaction
  | .lnMakeHoldInvoice _ _ _ _ _ _, env => s.lnClient env.transaction
  | .lnSettleHoldInvoice _, env => s.lnClient env.acknowledge
  | .lnCancelHoldInvoice _, env => s.lnClient env.acknowledge
  | .lnLookupInvoice _, env => s.lnClient env.transaction
  | .lnGetInfo, env => s.lnClient env.blockHeight
  | .lnGetBalances, env => s.lnClient env.totalSpendableMsat

end AlbyHub
