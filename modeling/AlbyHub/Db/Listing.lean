import AlbyHub.Db.Queries
import Mathlib.Data.List.Sort

/-!
# The query of a listing

The filters of `ListTransactions` as a predicate of a row, and the page that the query answers. The
database returns rows that are equal under the order in any order: it is a stable sort of one of the
permutations.
-/

namespace AlbyHub

open Go

/-- Whether a text matches a pattern of `LIKE … ESCAPE '\'`: `%` stands for any text, `_` for one
character, and a character after `\` for itself. Reference: SQL `LIKE`. -/
def like : List Char → List Char → Bool
  | [], s => s.isEmpty
  | '%' :: p, s => s.tails.any (like p)
  | '_' :: p, s =>
    match s with
    | [] => false
    | _ :: s => like p s
  | '\\' :: c :: p, s =>
    match s with
    | [] => false
    | c' :: s => c = c' && like p s
  | c :: p, s =>
    match s with
    | [] => false
    | c' :: s => c = c' && like p s

/-- Reference: `transactions/transactions_service.go:78 escapeLikePattern`. -/
def escapeLikePattern (s : String) : String :=
  let s := s.replace "\\" "\\\\"
  let s := s.replace "%" "\\%"
  s.replace "_" "\\_"

/-- Reference: `transactions/transactions_service.go:64 ListTransactionsFilters`. -/
structure ListTransactionsFilters where
  type : Option String := none
  minAmountMsat : Option Nat := none
  hideFailed : Bool := false
  searchTerm : String := ""
  deriving DecidableEq, Repr

/-- The text of the column `type`. Reference: `constants/constants.go:6
TRANSACTION_TYPE_INCOMING`. -/
def TransactionType.text : TransactionType → String
  | .incoming => "incoming"
  | .outgoing => "outgoing"

/-- The payment hash that a search term names. Reference: `transactions/transactions_service.go:71
paymentHashRegex`, `:705 ListTransactions`. -/
def searchedPaymentHash (W : World) (searchTerm : String) : String :=
  if searchTerm.toList.length = 64 ∧
      searchTerm.toList.all fun c => '0' ≤ c && c ≤ '9' || 'a' ≤ c && c ≤ 'f' then searchTerm
  else if "ln".isPrefixOf searchTerm then
    match W.decodepay searchTerm with
    | .ok paymentRequest => toLower W.lowerNonAscii paymentRequest.paymentHash
    | .error _ => ""
  else ""

/-- The condition of a search: the description or a label contains the term, or the term names the
payment hash. Reference: `transactions/transactions_service.go:695 ListTransactions`. -/
def Transaction.Found (W : World) (searchTerm : String) (r : Transaction) : Prop :=
  let searchTerm := toLower W.lowerNonAscii (trimSpace searchTerm)
  let contains (text : String) : Bool :=
    like ("%" ++ escapeLikePattern searchTerm ++ "%").toList (W.sqlLower text).toList
  searchTerm = "" ∨ contains r.description ∨
    (W.userLabels r.metadata).any (fun label => contains label.1 || contains label.2) ∨
    (searchedPaymentHash W searchTerm ≠ "" ∧ r.paymentHash = searchedPaymentHash W searchTerm)

/-- The arguments of a listing. `appId` is the app that the rows are filtered by. Reference:
`transactions/transactions_service.go:654 ListTransactions`. -/
structure ListQuery where
  appId : Option Nat := none
  from' : Nat := 0
  until' : Nat := 0
  limit : Nat := 0
  offset : Nat := 0
  unpaidOutgoing : Bool := false
  unpaidIncoming : Bool := false
  filters : Option ListTransactionsFilters := none
  deriving DecidableEq, Repr

/-- The condition on paid and unpaid rows. Reference:
`transactions/transactions_service.go:675 ListTransactions`. -/
def ListQuery.Paid (q : ListQuery) (r : Transaction) : Prop :=
  match q.unpaidOutgoing, q.unpaidIncoming with
  | false, false => r.state = .settled
  | true, false => r.state = .settled ∨ r.type = .outgoing
  | false, true => r.state = .settled ∨ r.type = .incoming
  | true, true => True

/-- The condition on the instant of the last change. Reference:
`transactions/transactions_service.go:723 ListTransactions`. -/
def ListQuery.Within (q : ListQuery) (t : Time) : Prop :=
  (q.from' > 0 → Time.unix (int64 q.from') ≤ t) ∧ (q.until' > 0 → t ≤ Time.unix (int64 q.until'))

/-- The condition of the filters. Reference: `transactions/transactions_service.go:683
ListTransactions`. -/
def ListTransactionsFilters.Pass (W : World) (f : ListTransactionsFilters) (r : Transaction) :
    Prop :=
  (∀ ty ∈ f.type, r.type.text = ty) ∧ (∀ m ∈ f.minAmountMsat, m ≤ r.amountMsat) ∧
    (f.hideFailed = true → r.state ≠ .failed) ∧ r.Found W f.searchTerm

/-- Whether the row is one of the listing. Reference:
`transactions/transactions_service.go:654 ListTransactions`. -/
def ListQuery.Lists (W : World) (q : ListQuery) (r : Transaction) : Prop :=
  (∀ appId ∈ q.appId, r.appId = some appId) ∧ q.Paid r ∧ (∀ f ∈ q.filters, f.Pass W r) ∧
    q.Within r.updatedAt

instance (W : World) (searchTerm : String) (r : Transaction) : Decidable (r.Found W searchTerm) :=
  inferInstanceAs (Decidable (_ ∨ _))

instance (q : ListQuery) (r : Transaction) : Decidable (q.Paid r) := by
  unfold ListQuery.Paid
  split <;> infer_instance

instance (q : ListQuery) (t : Time) : Decidable (q.Within t) := inferInstanceAs (Decidable (_ ∧ _))

instance (W : World) (f : ListTransactionsFilters) (r : Transaction) : Decidable (f.Pass W r) :=
  inferInstanceAs (Decidable (_ ∧ _))

instance (W : World) (q : ListQuery) (r : Transaction) : Decidable (q.Lists W r) :=
  inferInstanceAs (Decidable (_ ∧ _))

/-- Whether the driver takes the query's arguments. Reference: `database/sql/driver`
`defaultConverter`. -/
def ListQuery.Bindable (q : ListQuery) : Prop :=
  ∀ f ∈ q.filters, ∀ m ∈ f.minAmountMsat, m < 2 ^ 63

instance (q : ListQuery) : Decidable q.Bindable :=
  inferInstanceAs (Decidable (∀ f ∈ q.filters, _))

/-- The rows that the query is about. Reference: `transactions/transactions_service.go:654
ListTransactions`. -/
def ListQuery.rows (W : World) (q : ListQuery) (t : Table) : List Transaction :=
  t.rows.filter (q.Lists W ·)

/-- The rows in the order `updated_at desc`; `n` decides among the orders of equal rows. Reference:
SQL `ORDER BY`. -/
def orderUpdated (n : Nat) (l : List Transaction) : List Transaction :=
  ((pick n l.permutations).getD l).insertionSort fun r r' => r'.updatedAt ≤ r.updatedAt

/-- The page of the rows. A number that is negative as an `int` does not limit. Reference:
`transactions/transactions_service.go:739 ListTransactions`, gorm `clause.Limit`. -/
def ListQuery.page (q : ListQuery) (l : List Transaction) : List Transaction :=
  let l := if 0 < int64 q.offset then l.drop (int64 q.offset).toNat else l
  if q.limit > 0 ∧ 0 ≤ int64 q.limit then l.take (int64 q.limit).toNat else l

end AlbyHub
