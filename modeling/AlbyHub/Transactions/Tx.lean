import AlbyHub.Db.Queries

/-!
# The bodies of the database transactions

Each closure that the service gives to `svc.db.Transaction` is a function of the database: it
answers an error, which rolls the transaction back, or a value and the new database. The events that
a body collects are published by the caller after the commit; `validateCanPay` publishes its own
right away, so they are returned beside the answer and survive a rollback.
-/

namespace AlbyHub

open Go

/-- What a body does: it fails, or it answers and commits. Reference: gorm `Transaction`. -/
abbrev TxResult (α : Type) := Except Err (α × DB)

/-- The maximum of 1% of the amount and 10000. The constant 0.01 is the binary64 number
`5764607523034235 / 2 ^ 59`, and the product is rounded once. Reference:
`transactions/transactions_service.go:1215 CalculateFeeReserveMsat`. -/
def CalculateFeeReserveMsat (amountMsat : Nat) : Nat :=
  max (ceilDiv (roundBits 53 (roundBits 53 amountMsat * 5764607523034235)) (2 ^ 59)) 10000

/-- The part of `validateCanPay` for isolated apps. Reference:
`transactions/transactions_service.go:1158`. -/
def validateIsolatedBalance (db : DB) (app : App) (appPermission : AppPermission)
    (amountWithFeeReserveMsat : Nat) (description : String) : Except Err Unit × List Event :=
  match GetIsolatedBalanceMsat db.transactions appPermission.appId with
  | .error e =>
    (.error (.message ("failed to calculate isolated balance for app: " ++ e.error)), [])
  | .ok balanceMsat =>
    if int64 amountWithFeeReserveMsat > balanceMsat then
      let message := Err.insufficientBalance.error ++
        if description ≠ "" then " " ++ description else ""
      (.error .insufficientBalance, [.permissionDenied app.name "INSUFFICIENT_BALANCE" message])
    else (.ok (), [])

/-- The part of `validateCanPay` for permissions with a budget. Reference:
`transactions/transactions_service.go:1188`. -/
def validateBudget (W : World) (env : Env) (db : DB) (app : App) (appPermission : AppPermission)
    (amountWithFeeReserveMsat : Nat) (description : String) : Except Err Unit × List Event :=
  match GetBudgetUsageMsat W env.now db.transactions appPermission with
  | .error e => (.error (.message ("failed to calculate budget usage for app: " ++ e.error)), [])
  | .ok budgetUsageMsat =>
    if (amountWithFeeReserveMsat / 1000 : Nat) >
        appPermission.maxAmountSat - (budgetUsageMsat / 1000 : Nat) then
      let message := Err.quotaExceeded.error ++
        if description ≠ "" then " " ++ description else ""
      (.error .quotaExceeded, [.permissionDenied app.name "QUOTA_EXCEEDED" message])
    else (.ok (), [])

/-- The amount that the payment is checked with: a self-payment needs no fee reserve. Reference:
`transactions/transactions_service.go:1134`. -/
def amountWithFeeReserve (amountMsat : Nat) (selfPayment : Bool) : Nat :=
  if selfPayment then amountMsat else uint64 (amountMsat + CalculateFeeReserveMsat amountMsat)

/-- Reference: `transactions/transactions_service.go:1133 validateCanPay`. -/
def validateCanPay (W : World) (env : Env) (db : DB) (appId : Option Nat) (amountMsat : Nat)
    (description : String) (selfPayment : Bool) : Except Err Unit × List Event :=
  let amountWithFeeReserveMsat := amountWithFeeReserve amountMsat selfPayment
  match appId with
  | none => (.ok (), [])
  | some appId =>
    match db.findApp env.pickApp appId with
    | none => (.error .notFound, [])
    | some app =>
      match db.findPermission env.pickPermission appId "pay_invoice" with
      | none => (.error (.message "app does not have pay_invoice scope"), [])
      | some appPermission =>
        let isolated := if app.isolated then
          validateIsolatedBalance db app appPermission amountWithFeeReserveMsat description
          else (.ok (), [])
        match isolated with
        | (.error e, events) => (.error e, events)
        | (.ok (), _) =>
          if appPermission.maxAmountSat > 0 then
            validateBudget W env db app appPermission amountWithFeeReserveMsat description
          else (.ok (), [])

/-- Whether the database takes the row's unsigned columns: the driver refuses a `uint64` with the
high bit set. Reference: `database/sql/driver` `defaultConverter`. -/
def Transaction.Storable (row : Transaction) : Prop :=
  row.amountMsat < 2 ^ 63 ∧ row.feeMsat < 2 ^ 63 ∧ row.feeReserveMsat < 2 ^ 63

instance (row : Transaction) : Decidable row.Storable := inferInstanceAs (Decidable (_ ∧ _))

/-- The driver's refusal. Reference: `database/sql/driver` `defaultConverter`. -/
def highBitSet : Err := .database "uint64 values with high bit set are not supported"

/-- `tx.Create(&row)`. Reference: gorm `Create`. -/
def createTx (env : Env) (db : DB) (row : Transaction) : TxResult Transaction :=
  if row.Storable then
    .ok (db.transactions.created env.now row,
      db.withTransactions (db.transactions.create env.now row))
  else .error highBitSet

/-- `tx.Create(&row)` for an app id that the database has not answered: the driver refuses it where
its high bit is set. Reference: gorm `Create`, `database/sql/driver` `defaultConverter`. -/
def createForTx (env : Env) (db : DB) (row : Transaction) : TxResult Transaction :=
  if ∀ appId ∈ row.appId, appId < 2 ^ 63 then createTx env db row else .error highBitSet

/-- The variables that the closure of `SendPaymentSync` captures. Reference:
`transactions/transactions_service.go:360`. -/
structure SendPaymentArgs where
  payReq : String
  paymentRequest : Bolt11
  paymentAmountMsat : Nat
  appId : Option Nat
  requestEventId : Option Nat
  selfPayment : Bool
  metadata : String

/-- The row that `SendPaymentSync` inserts. Reference:
`transactions/transactions_service.go:397`. -/
def SendPaymentArgs.row (a : SendPaymentArgs) (now : Time) : Transaction where
  appId := a.appId
  requestEventId := a.requestEventId
  type := .outgoing
  state := .pending
  feeReserveMsat := CalculateFeeReserveMsat a.paymentAmountMsat
  amountMsat := a.paymentAmountMsat
  paymentRequest := a.payReq
  paymentHash := a.paymentRequest.paymentHash
  description := a.paymentRequest.description
  descriptionHash := a.paymentRequest.descriptionHash
  expiresAt := if a.paymentRequest.expiry > 0 then
    some (now + wrapInt64 (a.paymentRequest.expiry * 1000000000)) else none
  selfPayment := a.selfPayment
  metadata := a.metadata

/-- The check and the insertion that both payment methods make in one transaction, under
`balanceValidationLock`. Reference: `transactions/transactions_service.go:387` and `:507`. -/
def validateAndCreate (W : World) (env : Env) (db : DB) (description : String) (row : Transaction) :
    TxResult Transaction × List Event :=
  match validateCanPay W env db row.appId row.amountMsat description row.selfPayment with
  | (.error e, events) => (.error e, events)
  | (.ok (), events) => (createTx env db row, events)

/-- The transaction of `SendPaymentSync`: a lookup that fails finds no row, and its error is not
read. Reference: `transactions/transactions_service.go:360 SendPaymentSync`. -/
def sendPaymentTx (W : World) (env : Env) (db : DB) (a : SendPaymentArgs) :
    TxResult Transaction × List Event :=
  let sent : Where := {
    type := some .outgoing
    paymentHash := a.paymentRequest.paymentHash
    paymentRequest := a.payReq }
  if env.settledLookupFails = false ∧
      db.transactions.select { sent with state := some .settled } ≠ [] then
    (.error (.message "this invoice has already been paid"), [])
  else if env.pendingLookupFails = false ∧
      db.transactions.select { sent with state := some .pending } ≠ [] then
    (.error (.message "there is already a payment pending for this invoice"), [])
  else validateAndCreate W env db a.paymentRequest.description (a.row env.now)

/-- The transaction of `SendKeysend`, which inserts `row` without looking for another payment of
the same hash. Reference: `transactions/transactions_service.go:506 SendKeysend`. -/
def sendKeysendTx (W : World) (env : Env) (db : DB) (row : Transaction) :
    TxResult Transaction × List Event :=
  validateAndCreate W env db "" row

/-- The filter of `findSettledTransaction`. Reference:
`transactions/transactions_service.go:1603 findSettledTransaction`. -/
def Transaction.settledFilter (row : Transaction) : Where where
  type := some row.type
  paymentRequest := row.paymentRequest
  paymentHash := row.paymentHash
  state := some .settled

/-- Reference: `transactions/transactions_service.go:1597 findSettledTransaction`. -/
def findSettledTransaction (env : Env) (db : DB) (row : Transaction) : Option Transaction :=
  pick env.pick (db.transactions.select row.settledFilter)

/-- 80% of the permission's budget, rounded down. The constant 0.8 is the binary64 number
`7205759403792794 / 2 ^ 53`. Reference: `transactions/transactions_service.go:1691`. -/
def warningUsage (maxAmountSat : Int) : Nat :=
  let scaled := roundBits 53 (roundBits 53 maxAmountSat.natAbs * 7205759403792794)
  if 0 ≤ maxAmountSat then scaled / 2 ^ 53 else uint64OfInt (-(ceilDiv scaled (2 ^ 53) : Nat))

/-- Reference: `transactions/transactions_service.go:1670 checkBudgetUsage`. -/
def checkBudgetUsage (W : World) (env : Env) (db : DB) (app : App) (row : Transaction) :
    List Event :=
  if app.isolated then [] else
  match db.findPermission env.pickPermission app.id "pay_invoice" with
  | none => []
  | some appPermission =>
    match GetBudgetUsageMsat W env.now db.transactions appPermission with
    | .error _ => []
    | .ok budgetUsageMsat =>
      let budgetUsageSat := budgetUsageMsat / 1000
      let before := uint64OfInt (budgetUsageSat - (row.amountMsat / 1000 : Nat))
      if budgetUsageSat ≥ warningUsage appPermission.maxAmountSat ∧
          before < warningUsage appPermission.maxAmountSat then
        [.budgetWarning app.name app.id]
      else []

/-- The event that tells of a settled row. Reference:
`transactions/transactions_service.go:1623 afterTransactionSettled`. -/
def Transaction.settledEvent (row : Transaction) : Event :=
  match row.type with
  | .incoming => .paymentReceived row
  | .outgoing => .paymentSent row

/-- The app's column is updated and the events are collected; `row` is settled. Reference:
`transactions/transactions_service.go:1622 afterTransactionSettled`. -/
def afterTransactionSettled (W : World) (env : Env) (db : DB) (row : Transaction) :
    DB × List Event :=
  match row.appId with
  | none => (db, [row.settledEvent])
  | some appId =>
    match db.findApp env.pickApp appId with
    | none => (db, [row.settledEvent])
    | some app =>
      let db' := db.updateAppLastSettledTransactionAt app.id env.now
      (db', row.settledEvent ::
        if row.type = .outgoing then checkBudgetUsage W env db' app row else [])

/-- The columns that a settlement writes. Reference: `transactions/transactions_service.go:1489`. -/
def settleUpdate (preimage : String) (feeMsat : Nat) (selfPayment : Bool) (now : Time) : Update :=
  ⟨fun r => { r with
    state := .settled, preimage := some preimage, feeMsat := feeMsat, feeReserveMsat := 0
    settledAt := some now, selfPayment := selfPayment, updatedAt := now }, fun _ => rfl⟩

/-- The answer of a settlement: the row that is settled now, which is another one where the payment
has been settled before; the caller's copy, which gets the written columns; the events to publish.
Reference: `transactions/transactions_service.go:1475`, `settledTransaction`. -/
structure Settlement where
  settled : Transaction
  copy : Transaction
  events : List Event
  deriving DecidableEq

/-- The transaction of `markTransactionSettled`; `row` is the caller's copy. Reference:
`transactions/transactions_service.go:1477 markTransactionSettled`. -/
def markTransactionSettledTx (W : World) (env : Env) (db : DB) (row : Transaction)
    (preimage : String) (feeMsat : Nat) (selfPayment : Bool) : TxResult Settlement :=
  match findSettledTransaction env db row with
  | some existing => .ok (⟨existing, row, []⟩, db)
  | none =>
    if feeMsat < 2 ^ 63 then
      let u := settleUpdate preimage feeMsat selfPayment env.now
      let db' := db.withTransactions (db.transactions.update row.id u)
      let (db'', events) := afterTransactionSettled W env db' (u row)
      .ok (⟨u row, u row, events⟩, db'')
    else .error highBitSet

/-- The transaction of `createSettledTransactionFromNotification`. Reference:
`transactions/transactions_service.go:1535 createSettledTransactionFromNotification`. -/
def createSettledTransactionTx (W : World) (env : Env) (db : DB) (row : Transaction)
    (preimage : String) (feeMsat : Nat) (selfPayment : Bool) : TxResult Settlement :=
  match findSettledTransaction env db row with
  | some existing => .ok (⟨existing, row, []⟩, db)
  | none =>
    match createTx env db (settleUpdate preimage feeMsat selfPayment env.now row) with
    | .error e => .error e
    | .ok (row', db') =>
      let (db'', events) := afterTransactionSettled W env db' row'
      .ok (⟨row', row', events⟩, db'')

/-- The columns that a failure writes. Reference: `transactions/transactions_service.go:1744`. -/
def failUpdate (reason : String) (now : Time) : Update :=
  ⟨fun r => { r with
    state := .failed, feeReserveMsat := 0, failureReason := reason, updatedAt := now },
    fun _ => rfl⟩

/-- The transaction of `markPaymentFailed`. It answers whether this call failed the payment, and the
caller's updated copy. Reference: `transactions/transactions_service.go:1712 markPaymentFailed`. -/
def markPaymentFailedTx (env : Env) (db : DB) (row : Transaction) (reason : String) :
    TxResult (Bool × Transaction) :=
  match pick env.pick (db.transactions.select { id := row.id }) with
  | none => .error .notFound
  | some existing =>
    match existing.state with
    | .failed => .ok ((false, row), db)
    | .settled => .error (.message "cannot mark settled payment as failed")
    | .pending | .accepted =>
      let u := failUpdate reason env.now
      .ok ((true, u row), db.withTransactions (db.transactions.update row.id u))

/-- The columns that an acceptance writes; `UpdateColumns` leaves `updated_at`. Reference:
`transactions/transactions_service.go:1020`. -/
def acceptUpdate (settleDeadline : Nat) (selfPayment : Bool) : Update :=
  ⟨fun r => { r with
    state := .accepted, selfPayment := selfPayment, settleDeadline := some settleDeadline },
    fun _ => rfl⟩

/-- The rows that a hold invoice's acceptance may take. Unlike a struct condition, an empty string
filters too. Reference: `transactions/transactions_service.go:1004`. -/
def Transaction.Acceptable (paymentRequest paymentHash : String) (r : Transaction) : Prop :=
  r.paymentHash = paymentHash ∧ r.paymentRequest = paymentRequest ∧ r.type = .incoming ∧
    r.state = .pending

instance (paymentRequest paymentHash : String) (r : Transaction) :
    Decidable (r.Acceptable paymentRequest paymentHash) := inferInstanceAs (Decidable (_ ∧ _))

/-- The transaction of `markHoldInvoiceAccepted`; `First` takes the least id. Reference:
`transactions/transactions_service.go:1001 markHoldInvoiceAccepted`. -/
def markHoldInvoiceAcceptedTx (db : DB) (paymentRequest paymentHash : String)
    (settleDeadline : Nat) (selfPayment : Bool) : TxResult Transaction :=
  match db.transactions.rows.find? (·.Acceptable paymentRequest paymentHash) with
  | none => .error (.message "record not found")
  | some row =>
    let u := acceptUpdate settleDeadline selfPayment
    .ok (u row, db.withTransactions (db.transactions.update row.id u))

end AlbyHub
