import Mathlib.Algebra.GroupWithZero.Nat
import Mathlib.Algebra.Ring.Int.Defs
import Mathlib.Data.Nat.Notation

/-!
# The records of the database

The tables `transactions`, `apps` and `app_permissions`, with the columns that the transactions
service reads or writes. An instant is an `Int`, in nanoseconds since the epoch. A column that holds
JSON is its text, and `""` is its `NULL`.
-/

namespace AlbyHub

/-- An instant, in nanoseconds since the epoch. Reference: Go `time.Time`. -/
abbrev Time := Int

/-- `time.Unix(sec, 0)`. Reference: Go `time.Unix`. -/
def Time.unix (sec : Int) : Time := sec * 1000000000

/-- Reference: `constants/constants.go:6 TRANSACTION_TYPE_INCOMING`. -/
inductive TransactionType where
  | incoming
  | outgoing
  deriving DecidableEq, Repr

/-- Reference: `constants/constants.go:9 TRANSACTION_STATE_PENDING`. -/
inductive TransactionState where
  | pending
  | settled
  | failed
  | accepted
  deriving DecidableEq, Repr

/-- A row of `transactions`. The defaults are the zero values of the source's struct; the type and
the state have none, since every statement that inserts a row sets both. Reference:
`db/models.go:66 Transaction`. -/
structure Transaction where
  id : Nat := 0
  appId : Option Nat := none
  requestEventId : Option Nat := none
  type : TransactionType
  state : TransactionState
  amountMsat : Nat := 0
  feeMsat : Nat := 0
  feeReserveMsat : Nat := 0
  paymentRequest : String := ""
  paymentHash : String := ""
  description : String := ""
  descriptionHash : String := ""
  preimage : Option String := none
  createdAt : Time := 0
  expiresAt : Option Time := none
  updatedAt : Time := 0
  settledAt : Option Time := none
  metadata : String := ""
  selfPayment : Bool := false
  boostagram : String := ""
  failureReason : String := ""
  hold : Bool := false
  settleDeadline : Option Nat := none
  deriving DecidableEq, Repr

/-- A row of `apps`. Reference: `db/models.go:18 App`. -/
structure App where
  id : Nat
  name : String
  isolated : Bool
  lastSettledTransactionAt : Option Time := none
  deriving DecidableEq, Repr

/-- A row of `app_permissions`. Reference: `db/models.go:32 AppPermission`. -/
structure AppPermission where
  appId : Nat
  scope : String
  maxAmountSat : Int := 0
  budgetRenewal : String := ""
  deriving DecidableEq, Repr

/-- The columns of a transaction that no statement of the service updates: what the row is about.
Reference: the maps given to `Updates` in `transactions/transactions_service.go`. -/
structure Identity where
  id : Nat
  appId : Option Nat
  requestEventId : Option Nat
  type : TransactionType
  amountMsat : Nat
  paymentRequest : String
  paymentHash : String
  description : String
  descriptionHash : String
  createdAt : Time
  expiresAt : Option Time
  boostagram : String
  hold : Bool
  deriving DecidableEq, Repr

/-- Reference: none (a projection of the row). -/
def Transaction.identity (r : Transaction) : Identity where
  id := r.id
  appId := r.appId
  requestEventId := r.requestEventId
  type := r.type
  amountMsat := r.amountMsat
  paymentRequest := r.paymentRequest
  paymentHash := r.paymentHash
  description := r.description
  descriptionHash := r.descriptionHash
  createdAt := r.createdAt
  expiresAt := r.expiresAt
  boostagram := r.boostagram
  hold := r.hold

@[simp] theorem Transaction.identity_id (r : Transaction) : r.identity.id = r.id := rfl

@[simp] theorem Transaction.identity_appId (r : Transaction) : r.identity.appId = r.appId := rfl

@[simp] theorem Transaction.identity_type (r : Transaction) : r.identity.type = r.type := rfl

@[simp] theorem Transaction.identity_amountMsat (r : Transaction) :
    r.identity.amountMsat = r.amountMsat := rfl

@[simp] theorem Transaction.identity_paymentRequest (r : Transaction) :
    r.identity.paymentRequest = r.paymentRequest := rfl

@[simp] theorem Transaction.identity_paymentHash (r : Transaction) :
    r.identity.paymentHash = r.paymentHash := rfl

@[simp] theorem Transaction.identity_hold (r : Transaction) : r.identity.hold = r.hold := rfl

/-- An update of columns that are not the row's identity. Reference: the maps given to `Updates`
and `UpdateColumns` in `transactions/transactions_service.go`. -/
def Update := { f : Transaction → Transaction // ∀ r, (f r).identity = r.identity }

instance : CoeFun Update fun _ => Transaction → Transaction := ⟨Subtype.val⟩

@[simp] theorem Update.identity (u : Update) (r : Transaction) : (u r).identity = r.identity :=
  u.2 r

@[simp] theorem Update.id (u : Update) (r : Transaction) : (u r).id = r.id :=
  congrArg Identity.id (u.2 r)

end AlbyHub
