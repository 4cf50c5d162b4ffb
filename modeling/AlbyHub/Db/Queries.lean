import AlbyHub.Db.Table
import AlbyHub.Transactions.World

/-!
# The database and its sums

The balance of an isolated app and the budget usage of a permission are sums over rows. A sum that
does not fit the database's 64-bit integers is an error of the query.
-/

namespace AlbyHub

open Go

/-- The database. Reference: the tables of `db/models.go` that the service uses. -/
structure DB where
  transactions : Table
  apps : List App
  permissions : List AppPermission
  apps_nodup : (apps.map (·.id)).Nodup

/-- The rows that count as received by the app. Reference:
`db/queries/get_isolated_balance.go:15`. -/
def Transaction.ReceivedBy (appId : Nat) (r : Transaction) : Prop :=
  r.appId = some appId ∧ r.type = .incoming ∧ r.state = .settled

/-- The rows that count as spent by the app. Reference: `db/queries/get_isolated_balance.go:27`. -/
def Transaction.SpentBy (appId : Nat) (r : Transaction) : Prop :=
  r.appId = some appId ∧ r.type = .outgoing ∧ (r.state = .settled ∨ r.state = .pending)

instance (appId : Nat) (r : Transaction) : Decidable (r.ReceivedBy appId) :=
  inferInstanceAs (Decidable (_ ∧ _))

instance (appId : Nat) (r : Transaction) : Decidable (r.SpentBy appId) :=
  inferInstanceAs (Decidable (_ ∧ _))

/-- What an outgoing row takes. Reference: `db/queries/get_isolated_balance.go:26`,
`amount_msat + fee_msat + fee_reserve_msat`. -/
def Transaction.charge (r : Transaction) : Nat := r.amountMsat + r.feeMsat + r.feeReserveMsat

/-- Reference: `db/queries/get_isolated_balance.go:12`. -/
def Table.received (t : Table) (appId : Nat) : Nat :=
  ((t.rows.filter (·.ReceivedBy appId)).map (·.amountMsat)).sum

/-- Reference: `db/queries/get_isolated_balance.go:24`. -/
def Table.spent (t : Table) (appId : Nat) : Nat :=
  ((t.rows.filter (·.SpentBy appId)).map (·.charge)).sum

/-- Reference: `db/queries/get_isolated_balance.go:8 GetIsolatedBalanceMsat`. -/
def GetIsolatedBalanceMsat (t : Table) (appId : Nat) : Except Err Int :=
  if t.received appId < 2 ^ 63 ∧ t.spent appId < 2 ^ 63 then
    .ok (t.received appId - t.spent appId)
  else .error (.database "integer overflow")

/-- Reference: `db/queries/get_budget_usage.go:25 getStartOfBudget`. The default is the zero
time. -/
def getStartOfBudget (W : World) (now : Time) (budgetType : String) : Time :=
  let c := W.civil now
  if budgetType = "daily" then W.date c.year c.month c.day
  else if budgetType = "weekly" then
    let startOfWeek :=
      W.civil (if c.weekday = 0 then W.addDays now (-6) else W.addDays now (-c.weekday + 1))
    W.date startOfWeek.year startOfWeek.month startOfWeek.day
  else if budgetType = "monthly" then W.date c.year c.month 1
  else if budgetType = "yearly" then W.date c.year 1 1
  else Time.unix (-62135596800)

/-- Reference: `db/queries/get_budget_usage.go:11 GetBudgetUsageMsat`. -/
def GetBudgetUsageMsat (W : World) (now : Time) (t : Table) (p : AppPermission) : Except Err Nat :=
  let rows := t.rows.filter fun r =>
    r.SpentBy p.appId ∧ getStartOfBudget W now p.budgetRenewal < r.createdAt
  let usage := (rows.map (·.charge)).sum
  if usage < 2 ^ 63 then .ok usage else .error (.database "integer overflow")

/-- `Find(&app, &db.App{ID: id})`, where the id 0 does not filter. Reference: gorm struct
conditions. -/
def DB.findApp (db : DB) (n id : Nat) : Option App :=
  pick n (db.apps.filter fun a => id = 0 ∨ a.id = id)

/-- `Find(&appPermission, &db.AppPermission{AppId: id, Scope: scope})`. Reference: gorm struct
conditions. -/
def DB.findPermission (db : DB) (n appId : Nat) (scope : String) : Option AppPermission :=
  pick n (db.permissions.filter fun p => (appId = 0 ∨ p.appId = appId) ∧ p.scope = scope)

/-- `Update("last_settled_transaction_at", settledAt)` of an app. Reference:
`transactions/transactions_service.go:1661 updateAppLastSettledTransactionAt`. -/
def DB.updateAppLastSettledTransactionAt (db : DB) (id : Nat) (settledAt : Time) : DB where
  transactions := db.transactions
  apps := db.apps.map fun a =>
    { a with
      lastSettledTransactionAt :=
        if a.id = id then some settledAt else a.lastSettledTransactionAt }
  permissions := db.permissions
  apps_nodup := by
    rw [List.map_map]
    exact db.apps_nodup

/-- The database with another table of transactions. Reference: none. -/
def DB.withTransactions (db : DB) (t : Table) : DB := { db with transactions := t }

@[simp] theorem DB.withTransactions_transactions (db : DB) (t : Table) :
    (db.withTransactions t).transactions = t := rfl

@[simp] theorem DB.updateApp_transactions (db : DB) (id : Nat) (settledAt : Time) :
    (db.updateAppLastSettledTransactionAt id settledAt).transactions = db.transactions := rfl

end AlbyHub
