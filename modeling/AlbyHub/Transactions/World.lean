import AlbyHub.Go.Numbers
import AlbyHub.Go.Text
import AlbyHub.Db.Models

/-!
# What surrounds the transactions service

The functions of other packages that the service calls and that are pure (`World`): every result
holds for all of them. The values that a command takes from outside when it is executed (`Env`): the
clock, the choices and failures of the database, the answers of the LN client. The errors and events
of the service.
-/

namespace AlbyHub

open Go

/-- The fields of a decoded invoice that the service reads. Reference: `decodepay.Bolt11`. -/
structure Bolt11 where
  mSatoshi : Int
  paymentHash : String
  description : String := ""
  descriptionHash : String := ""
  createdAt : Int := 0
  expiry : Int := 0
  deriving DecidableEq, Repr

/-- A date of the server's calendar; Sunday is weekday 0. Reference: Go `time.Time.Date`. -/
structure Civil where
  year : Int
  month : Int
  day : Int
  weekday : Nat

/-- The functions from outside `src/` that the service is built on. `lowerNonAscii` is Unicode's
table, `text` the string of some bytes, `boostagramMessage` the message of a boostagram's JSON;
`unmarshal` the map that is left of a JSON text, also beside an error, where `none` is the nil map;
`sqlLower` is the database's `LOWER` and `userLabels` what
its JSON functions find under `user_labels`; `civil`, `date` and `addDays` are the calendar of the
server's location; `postgres` tells the two databases apart. Reference: the imports of
`transactions/transactions_service.go`. -/
structure World where
  decodepay : String → Except String Bolt11
  sha256 : List UInt8 → List UInt8
  marshal : Json → Except String String
  unmarshal : String → Option (List (String × Json)) × Option String
  boostagramMessage : List UInt8 → Option String
  text : List UInt8 → String
  sqlLower : String → String
  userLabels : String → List (String × String)
  lowerNonAscii : Char → Char
  civil : Time → Civil
  date : Int → Int → Int → Time
  addDays : Time → Int → Time
  pubkey : String
  notificationTypes : List String
  postgres : Bool

/-- The errors of the service. Reference: `transactions/transactions_service.go:126 notFoundError`,
`:137 insufficientBalanceError`, `:148 quotaExceededError`, `lnclient/models.go:255
holdInvoiceCanceledError`; another error is its text, where `database` marks those of the database
itself. -/
inductive Err where
  | notFound
  | insufficientBalance
  | quotaExceeded
  | holdInvoiceCanceled
  | database (text : String)
  | message (text : String)
  deriving DecidableEq, Repr

/-- The text of an error. Reference: the `Error` methods of the types of `Err`. -/
def Err.error : Err → String
  | .notFound => "The transaction requested was not found"
  | .insufficientBalance => "Insufficient balance remaining to make the requested payment"
  | .quotaExceeded =>
    "Your app does not have enough budget remaining to make this payment. Please " ++
      "review this app in the connections page of your Alby Hub."
  | .holdInvoiceCanceled => "Hold invoice canceled"
  | .database text | .message text => text

/-- The events that the service publishes. Reference: the calls of `Publish` in
`transactions/transactions_service.go`. -/
inductive Event where
  | paymentSent (row : Transaction)
  | paymentReceived (row : Transaction)
  | paymentFailed (row : Transaction)
  | holdInvoiceAccepted (row : Transaction)
  | holdInvoiceCanceled (row : Transaction)
  | permissionDenied (appName code message : String)
  | budgetWarning (name : String) (id : Nat)
  deriving DecidableEq, Repr

/-- Reference: `lnclient/models.go:11 TLVRecord`. -/
structure TLVRecord where
  type : Nat
  value : String
  deriving DecidableEq, Repr

/-- The fields of the LN client's transaction that the service reads. The service reads no type from
a notification, and every client answers `"incoming"` for an invoice it made. Reference:
`lnclient/models.go:29 Transaction`. -/
structure LnTransaction where
  invoice : String := ""
  description : String := ""
  descriptionHash : String := ""
  preimage : String := ""
  paymentHash : String
  amountMsat : Int := 0
  feesPaidMsat : Int := 0
  expiresAt : Option Int := none
  settledAt : Option Int := none
  metadata : Option (List (String × Json)) := none
  tlvRecords : List TLVRecord := []
  settleDeadline : Option Nat := none

/-- Reference: `lnclient/models.go:187 PayInvoiceResponse`. -/
structure PayInvoiceResponse where
  preimage : String
  feeMsat : Nat
  deriving DecidableEq, Repr

/-- What a command takes from outside. `fault` is a failure of the database or of the system call,
and `settledLookupFails` and `pendingLookupFails` are failures of two queries whose error is not
read; `pick`, `pickApp` and `pickPermission` are the database's choices among rows without an order;
the others are answers of the LN client: to payments, keysends, invoices and lookups, `GetInfo`,
`GetBalances`, and the settlement or cancellation of hold invoices. Reference: none. -/
structure Env where
  now : Time := 0
  fault : Option String := none
  settledLookupFails : Bool := false
  pendingLookupFails : Bool := false
  pick : Nat := 0
  pickApp : Nat := 0
  pickPermission : Nat := 0
  randomBytes : List UInt8 := []
  payInvoice : Except String PayInvoiceResponse := .error ""
  payKeysend : Except String Nat := .error ""
  transaction : Except String LnTransaction := .error ""
  blockHeight : Except String Nat := .error ""
  totalSpendableMsat : Except String Int := .error ""
  acknowledge : Except String Unit := .ok ()

end AlbyHub
