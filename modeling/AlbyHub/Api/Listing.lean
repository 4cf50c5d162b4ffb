import AlbyHub.Db.Paging
import AlbyHub.Db.Subwallets
import AlbyHub.Nip47.Permitted
import AlbyHub.Transactions.Spending
import Mathlib.Order.WithBot

/-!
# What the API shows of an app

`GetApp` shows one app and `ListApps` a page of them: the scopes of its permission rows, the budget
of the `pay_invoice` row with what is used of it, and the balance of an isolated app. The one asks
for the rows of the app, the other for the rows of all apps of the page at once, and the database
orders neither. Both show the same, and it is what the hub enforces: the check of a request's
permission and the check of a payment decide from these numbers
(`listing_shows_what_is_enforced`).
-/

namespace AlbyHub

open Go Interaction

/-! ## The model -/

/-- The columns of `apps` that only the listing reads. Reference: `db/models.go:18 App`. -/
structure AppTimes where
  description : String := ""
  createdAt : Time := 0
  updatedAt : Time := 0
  lastUsedAt : Option Time := none

/-- The tables, with what the schema enforces: an id names one app, and a transaction belongs to an
app that is there. Reference: `db/models.go:18 App`, `:66 Transaction`. -/
structure HubTables where
  registry : Registry
  transactions : Table
  times : Nat → AppTimes
  ids_nodup : (registry.apps.map (·.id)).Nodup
  references : ∀ t ∈ transactions.rows, ∀ appId ∈ t.appId, registry.HasApp appId

/-- The database as the transactions service sees it. Reference: none. -/
def HubTables.db (d : HubTables) : DB where
  transactions := d.transactions
  apps := d.registry.apps.map (·.toApp)
  permissions := d.registry.permissions.map (·.toAppPermission)
  apps_nodup := by
    rw [List.map_map]
    exact d.ids_nodup

/-- Reference: `db/models.go:18 App`. -/
def HubTables.appsTable (d : HubTables) : AppsTable := ⟨d.registry.apps, d.ids_nodup⟩

/-- What surrounds the calls: the key of the hub, the clock, and the database, which decides on
patterns and JSON columns, and orders what a query leaves unordered as it likes. Reference:
`api/api.go:31 api`. -/
structure ListingEnv where
  world : World
  now : Time
  nostrPublicKey : String
  jsonText : JsonText
  nameLike : String → String → Bool
  orderApps : (AppRow → WithBot Time) → List AppRow → List AppRow
  orderPermissions : List PermissionRow → List PermissionRow
  orderApps_ordered : ∀ key l, Paging.Ordered key l (orderApps key l)
  orderPermissions_perm : ∀ l, (orderPermissions l).Perm l

/-- Reference: `api/models.go:88 App`. -/
structure ApiApp where
  id : Nat
  name : String
  description : String
  appPubkey : String
  createdAt : Time
  updatedAt : Time
  lastUsedAt : Option Time
  lastSettledTransactionAt : Option Time
  expiresAt : Option Time := none
  scopes : List String := []
  maxAmount : Nat := 0
  maxAmountSat : Nat := 0
  maxAmountMsat : Nat := 0
  budgetUsage : Nat := 0
  budgetUsageSat : Nat := 0
  budgetUsageMsat : Nat := 0
  budgetRenewal : String := ""
  isolated : Bool
  walletPubkey : String
  uniqueWalletPubkey : Bool
  balance : Int := 0
  balanceSat : Int := 0
  balanceMsat : Int := 0
  metadata : Option (List (String × Json)) := none

/-- What is shown of the row itself. Reference: `api/api.go:473 GetApp`, `:623 ListApps`. -/
def ApiApp.ofRow (E : ListingEnv) (d : HubTables) (dbApp : AppRow) : ApiApp where
  id := dbApp.id
  name := dbApp.name
  description := (d.times dbApp.id).description
  appPubkey := dbApp.appPubkey
  createdAt := (d.times dbApp.id).createdAt
  updatedAt := (d.times dbApp.id).updatedAt
  lastUsedAt := (d.times dbApp.id).lastUsedAt
  lastSettledTransactionAt := dbApp.lastSettledTransactionAt
  isolated := dbApp.isolated
  walletPubkey := dbApp.walletPubkey.getD E.nostrPublicKey
  uniqueWalletPubkey := dbApp.walletPubkey.isSome
  metadata := if dbApp.metadata = "" then none else (E.world.unmarshal dbApp.metadata).1

/-- Reference: `api/api.go:507 GetApp`, `:641 ListApps`. -/
def ApiApp.withBalance (e : ApiApp) (balanceMsat : Int) : ApiApp :=
  { e with balance := balanceMsat, balanceSat := balanceMsat.tdiv 1000, balanceMsat }

/-- Reference: `api/api.go:488 GetApp`, `:656 ListApps`. -/
def ApiApp.withBudget (e : ApiApp) (maxAmountSat budgetUsageMsat : Nat) (budgetRenewal : String) :
    ApiApp :=
  { e with
    maxAmount := maxAmountSat
    maxAmountSat
    maxAmountMsat := uint64 (maxAmountSat * 1000)
    budgetUsage := budgetUsageMsat / 1000
    budgetUsageSat := budgetUsageMsat / 1000
    budgetUsageMsat
    budgetRenewal }

/-- Reference: `api/models.go:115 ListAppsFilters`. -/
structure ListAppsFilters where
  name : String := ""
  appStoreAppId : String := ""
  unused : Bool := false
  subWallets : Option Bool := none

/-- Reference: `api/models.go:122 ListAppsResponse`. -/
structure ListAppsResponse where
  apps : List ApiApp
  totalCount : Nat
  totalBalance : Option Int
  totalBalanceSat : Option Int
  totalBalanceMsat : Option Int

namespace Api

/-- The balance of an isolated app. Reference: `api/api.go:499 GetApp`, `:633 ListApps`. -/
def showBalance (d : HubTables) (dbApp : AppRow) (e : ApiApp) : Except Err ApiApp :=
  if dbApp.isolated then (GetIsolatedBalanceMsat d.transactions dbApp.id).map e.withBalance
  else .ok e

/-- Reference: `api/api.go:436 GetApp`. -/
def GetApp (E : ListingEnv) (d : HubTables) (dbApp : AppRow) : Except Err ApiApp := do
  let appPermissions := E.orderPermissions (d.registry.permissions.filter (·.appId = dbApp.id))
  let expiresAt := appPermissions.foldl (fun _ appPerm => appPerm.expiresAt) none
  -- the zero value where the app may not pay
  let paySpecificPermission := appPermissions.foldl
    (fun pay appPerm => if appPerm.scope = "pay_invoice" then appPerm.toAppPermission else pay)
    { appId := 0, scope := "" }
  let requestMethods := appPermissions.map (·.scope)
  let budgetUsageMsat ←
    GetBudgetUsageMsat E.world E.now d.transactions paySpecificPermission
  let response := { ApiApp.ofRow E d dbApp with expiresAt, scopes := requestMethods }
  showBalance d dbApp (response.withBudget (uint64OfInt paySpecificPermission.maxAmountSat)
    budgetUsageMsat paySpecificPermission.budgetRenewal)

/-- A permission row of a listed app. Reference: `api/api.go:646 ListApps`. -/
def showPermission (E : ListingEnv) (d : HubTables) (apiApp : ApiApp)
    (appPermission : PermissionRow) : Except Err ApiApp :=
  let apiApp := { apiApp with
    scopes := apiApp.scopes ++ [appPermission.scope]
    expiresAt := appPermission.expiresAt }
  if appPermission.scope = "pay_invoice" then do
    let budgetUsageMsat ←
      GetBudgetUsageMsat E.world E.now d.transactions appPermission.toAppPermission
    return apiApp.withBudget (uint64OfInt appPermission.maxAmountSat) budgetUsageMsat
      appPermission.budgetRenewal
  else .ok apiApp

/-- An app of the page. Reference: `api/api.go:615 ListApps`. -/
def listedApp (E : ListingEnv) (d : HubTables) (appPermissions : List PermissionRow)
    (dbApp : AppRow) : Except Err ApiApp := do
  let apiApp ← showBalance d dbApp (ApiApp.ofRow E d dbApp)
  (appPermissions.filter (·.appId = dbApp.id)).foldlM (showPermission E d) apiApp

/-- The conditions of the query. Reference: `api/api.go:530 ListApps`. -/
def Selects (E : ListingEnv) (d : HubTables) (filters : ListAppsFilters) (a : AppRow) : Prop :=
  let appStoreAppId := if a.metadata = "" then none else
    E.jsonText a.metadata metadataAppstoreAppIdKey
  (filters.name ≠ "" → E.nameLike (filters.name ++ "%") a.name = true) ∧
  (filters.appStoreAppId ≠ "" → appStoreAppId = some filters.appStoreAppId) ∧
  (filters.unused = true → ∀ lastUsedAt ∈ (d.times a.id).lastUsedAt,
    lastUsedAt < E.now - 60 * 24 * 3600 * 1000000000) ∧
  (filters.subWallets = some true → appStoreAppId = some subwalletAppstoreAppId) ∧
  (filters.subWallets = some false → appStoreAppId ≠ some subwalletAppstoreAppId)

instance (E : ListingEnv) (d : HubTables) (filters : ListAppsFilters) (a : AppRow) :
    Decidable (Selects E d filters a) := inferInstanceAs (Decidable (_ ∧ _ ∧ _ ∧ _ ∧ _))

/-- A column to order by, where a `NULL` comes last. Reference: SQL `IS NULL`, `DESC`. -/
def instant : Option Time → WithBot Time
  | none => ⊥
  | some t => (t : WithBot Time)

/-- The column of the order, descending, where a `NULL` comes last. Reference: `api/api.go:696
resolveAppOrderBy`. -/
def resolveAppOrderBy (d : HubTables) (orderBy : String) (a : AppRow) : WithBot Time :=
  if orderBy = "created_at" then instant (some (d.times a.id).createdAt)
  else if orderBy = "last_settled_transaction" then instant a.lastSettledTransactionAt
  else instant (d.times a.id).lastUsedAt

/-- A negative limit, and an offset that is not positive, are left out. Reference: gorm
`clause.Limit`. -/
def limited (limit offset : Int) (rows : List AppRow) : List AppRow :=
  let rows := if 0 < offset then rows.drop offset.toNat else rows
  if 0 ≤ limit then rows.take limit.toNat else rows

/-- The balance of all sub-wallets, where only these are listed. Reference: `api/api.go:574
ListApps`. -/
def totalBalance (E : ListingEnv) (d : HubTables) (filters : ListAppsFilters) :
    Except Err (Option Int) :=
  if filters.subWallets = some true then
    (GetTotalSubwalletBalanceMsat E.jsonText d.appsTable d.transactions).map some
  else .ok none

/-- Reference: `api/api.go:525 ListApps`. -/
def ListApps (E : ListingEnv) (d : HubTables) (limit offset : Nat) (filters : ListAppsFilters)
    (orderBy : String) : Except Err ListAppsResponse := do
  let query := d.registry.apps.filter (Selects E d filters)
  let limit := if limit = 0 then 100 else limit
  let totalBalance ← totalBalance E d filters
  let dbApps := limited (int64 limit) (int64 offset)
    (E.orderApps (resolveAppOrderBy d orderBy) query)
  let appPermissions := E.orderPermissions
    (d.registry.permissions.filter (·.appId ∈ dbApps.map (·.id)))
  let apps ← dbApps.mapM (listedApp E d appPermissions)
  return {
    apps := apps
    totalCount := query.length
    totalBalance := totalBalance
    totalBalanceSat := totalBalance.map (·.tdiv 1000)
    totalBalanceMsat := totalBalance }

end Api

/-! ## What is to be shown -/

/-- What is shown covers the amount and its fee reserve. Reference:
`transactions/transactions_service.go:1133 validateCanPay`. -/
def ApiApp.Affords (e : ApiApp) (amountMsat : Nat) (selfPayment : Bool) : Prop :=
  "pay_invoice" ∈ e.scopes ∧
    (e.isolated = true → int64 (amountWithFeeReserve amountMsat selfPayment) ≤ e.balanceMsat) ∧
    (0 < int64 e.maxAmountSat → ((amountWithFeeReserve amountMsat selfPayment / 1000 : Nat) : Int) ≤
      int64 e.maxAmountSat - e.budgetUsageSat)

/-- What is shown of the app is what `GetApp` shows, up to the order of the scopes, and what the
checks of permissions and payments decide from. Reference: `nip47/permissions/permissions.go:38
HasPermission`, `transactions/transactions_service.go:1133 validateCanPay`. -/
structure ApiApp.Shows (E : ListingEnv) (d : HubTables) (a : AppRow) (e : ApiApp) : Prop where
  same : ∀ E' : ListingEnv, E'.world = E.world → E'.now = E.now →
    E'.nostrPublicKey = E.nostrPublicKey → ∃ scopes, scopes.Perm e.scopes ∧
      Api.GetApp E' d a = .ok { e with scopes }
  permitted : ∀ turn scope, scope ≠ "" → turn.fault = false →
    turn.permissions = d.registry.permissions →
    ((HasPermission turn a scope).1 = true ↔
      scope ∈ e.scopes ∧ ∀ expiresAt ∈ e.expiresAt, turn.now ≤ expiresAt)
  payable : ∀ env amountMsat description selfPayment, env.now = E.now →
    ((validateCanPay E.world env d.db (some a.id) amountMsat description selfPayment).1 = .ok () ↔
      e.Affords amountMsat selfPayment)

section
variable {E : ListingEnv} {d : HubTables} {a : AppRow} {e base : ApiApp}
variable {ps : List PermissionRow} {p : PermissionRow} {scopes : List String}

/-! ## The rows of an app, in any order -/

/-- The row that the budget is taken from. Reference: `api/api.go:451 GetApp`. -/
def payRow (ps : List PermissionRow) : Option PermissionRow := ps.find? (·.scope = "pay_invoice")

/-- The rows in the order of a query, where there is one for each scope and all have the same
expiry. Reference: `nip47/permissions/permissions.go:38 HasPermission`. -/
structure Listed (d : HubTables) (a : AppRow) (ps : List PermissionRow) : Prop where
  perm : ps.Perm (d.registry.permissions.filter (·.appId = a.id))
  nodup : (ps.map (·.scope)).Nodup
  uniform : ∀ p ∈ ps, ∀ q ∈ ps, p.expiresAt = q.expiresAt

theorem listed_of_rowsMatch (hrows : RowsMatch (d.registry.grants a.id) scopes)
    (hperm : ps.Perm (d.registry.permissions.filter (·.appId = a.id))) : Listed d a ps := by
  have hgrants : (ps.map fun p => (p.scope, p.terms)).Perm (d.registry.grants a.id) :=
    hperm.map _
  refine ⟨hperm, ?_, fun p hp q hq => ?_⟩
  · have hscopes := hgrants.map (·.1)
    rw [List.map_map] at hscopes
    exact hscopes.nodup_iff.2 hrows.nodup
  · have hterms := hrows.uniform _ (hgrants.mem_iff.1 (List.mem_map.2 ⟨p, hp, rfl⟩))
      _ (hgrants.mem_iff.1 (List.mem_map.2 ⟨q, hq, rfl⟩))
    exact congrArg Terms.expiresAt hterms

/-- The last row decides the expiry. Reference: `api/api.go:450 GetApp`, `:648 ListApps`. -/
def lastExpiry (init : Option Time) (ps : List PermissionRow) : Option Time :=
  ps.foldl (fun _ p => p.expiresAt) init

theorem lastExpiry_eq (init : Option Time) (hp : p ∈ ps)
    (huniform : ∀ p ∈ ps, ∀ q ∈ ps, p.expiresAt = q.expiresAt) :
    lastExpiry init ps = p.expiresAt := by
  induction ps generalizing init p with
  | nil => cases hp
  | cons q ps ih =>
    have hrest : ∀ p ∈ ps, ∀ q ∈ ps, p.expiresAt = q.expiresAt := fun p hp q hq =>
      huniform p (List.mem_cons_of_mem _ hp) q (List.mem_cons_of_mem _ hq)
    rw [lastExpiry, List.foldl_cons]
    cases hps : ps with
    | nil =>
      rw [hps] at hp
      rw [List.mem_singleton.1 hp]
      rfl
    | cons q' ps' =>
      have hq' : q' ∈ ps := hps ▸ List.mem_cons_self
      rw [huniform p hp q' (List.mem_cons_of_mem _ hq'), ← hps]
      exact ih q.expiresAt hq' hrest

/-- What the rows add but for the budget. Reference: `api/api.go:647 ListApps`. -/
def ApiApp.withRows (e : ApiApp) (ps : List PermissionRow) : ApiApp :=
  { e with scopes := e.scopes ++ ps.map (·.scope), expiresAt := lastExpiry e.expiresAt ps }

theorem payRow_cons_of_eq (hn : p.scope ∉ ps.map (·.scope)) (hpay : p.scope = "pay_invoice") :
    payRow (p :: ps) = some p ∧ payRow ps = none := by
  refine ⟨List.find?_cons_of_pos (decide_eq_true hpay), List.find?_eq_none.2 fun q hq hscope => ?_⟩
  refine hn (List.mem_map.2 ⟨q, hq, ?_⟩)
  rw [hpay]
  exact of_decide_eq_true hscope

theorem payRow_cons_of_ne (hpay : p.scope ≠ "pay_invoice") : payRow (p :: ps) = payRow ps :=
  List.find?_cons_of_neg (by simpa using hpay)

/-- The zero value stays where there is no row to pay with, and else the row is found. Reference:
`api/api.go:451 GetApp`. -/
theorem foldl_payRow (init : AppPermission) (hn : (ps.map (·.scope)).Nodup) :
    ps.foldl (fun pay p => if p.scope = "pay_invoice" then p.toAppPermission else pay) init =
      (payRow ps).elim init (·.toAppPermission) := by
  induction ps generalizing init with
  | nil => rfl
  | cons q ps ih =>
    rw [List.map_cons, List.nodup_cons] at hn
    rw [List.foldl_cons, ih _ hn.2]
    by_cases hpay : q.scope = "pay_invoice"
    · obtain ⟨hsome, hnone⟩ := payRow_cons_of_eq hn.1 hpay
      rw [hnone, hsome, if_pos hpay]
      rfl
    · rw [if_neg hpay, payRow_cons_of_ne hpay]

/-- What the loop over the rows of a listed app comes to. Reference: `api/api.go:646 ListApps`. -/
theorem foldlM_showPermission (hn : (ps.map (·.scope)).Nodup)
    (h : ps.foldlM (Api.showPermission E d) base = .ok e) :
    payRow ps = none ∧ e = base.withRows ps ∨ ∃ p usage, payRow ps = some p ∧
      GetBudgetUsageMsat E.world E.now d.transactions p.toAppPermission = .ok usage ∧
      e = (base.withRows ps).withBudget (uint64OfInt p.maxAmountSat) usage p.budgetRenewal := by
  induction ps generalizing base with
  | nil =>
    cases h
    exact .inl ⟨rfl, by simp [ApiApp.withRows, lastExpiry]⟩
  | cons q ps ih =>
    rw [List.map_cons, List.nodup_cons] at hn
    rw [List.foldlM_cons] at h
    obtain ⟨base', hstep, h⟩ := ok_of_bind h
    simp only [Api.showPermission] at hstep
    by_cases hpay : q.scope = "pay_invoice"
    · obtain ⟨hsome, hnone⟩ := payRow_cons_of_eq hn.1 hpay
      rw [if_pos hpay] at hstep
      obtain ⟨usage, husage, hstep⟩ := ok_of_bind hstep
      cases hstep
      rcases ih hn.2 h with ⟨-, rfl⟩ | ⟨p, _, hp, -⟩
      · refine .inr ⟨q, usage, hsome, husage, ?_⟩
        simp [ApiApp.withBudget, ApiApp.withRows, lastExpiry]
      · rw [hnone] at hp
        cases hp
    · rw [if_neg hpay] at hstep
      cases hstep
      rw [payRow_cons_of_ne hpay]
      rcases ih hn.2 h with ⟨hnone, rfl⟩ | ⟨p, usage, hp, husage, rfl⟩
      · exact .inl ⟨hnone, by simp [ApiApp.withRows, lastExpiry]⟩
      · exact .inr ⟨p, usage, hp, husage, by simp [ApiApp.withRows, lastExpiry]⟩

/-- The row to pay with is one of the rows. Reference: `api/api.go:451 GetApp`. -/
theorem payRow_eq_some (hn : (ps.map (·.scope)).Nodup) :
    payRow ps = some p ↔ p ∈ ps ∧ p.scope = "pay_invoice" := by
  constructor
  · intro h
    unfold payRow at h
    exact ⟨List.mem_of_find?_eq_some h, by simpa using List.find?_some h⟩
  · rintro ⟨hp, hscope⟩
    unfold payRow
    cases hrow : ps.find? (·.scope = "pay_invoice") with
    | none => exact absurd (decide_eq_true hscope) (List.find?_eq_none.1 hrow p hp)
    | some q =>
      have hq : q.scope = "pay_invoice" := by simpa using List.find?_some hrow
      rw [List.inj_on_of_nodup_map hn (List.mem_of_find?_eq_some hrow) hp (hq.trans hscope.symm)]

theorem payRow_eq_none : payRow ps = none ↔ "pay_invoice" ∉ ps.map (·.scope) := by
  simp [payRow, List.find?_eq_none]

/-- The order of the rows does not matter for what is found. Reference: none. -/
theorem Listed.payRow_eq {qs : List PermissionRow} (h : Listed d a ps) (h' : Listed d a qs) :
    payRow qs = payRow ps := by
  have hperm : qs.Perm ps := h'.perm.trans h.perm.symm
  refine Option.ext fun p => ?_
  rw [payRow_eq_some h'.nodup, payRow_eq_some h.nodup, hperm.mem_iff]

/-- Nor does it for the expiry. Reference: none. -/
theorem Listed.lastExpiry_eq {qs : List PermissionRow} (h : Listed d a ps) (h' : Listed d a qs) :
    lastExpiry none qs = lastExpiry none ps := by
  have hperm : qs.Perm ps := h'.perm.trans h.perm.symm
  cases hps : ps with
  | nil =>
    rw [hps] at hperm
    rw [hperm.eq_nil]
  | cons p ps' =>
    have hp : p ∈ ps := hps ▸ List.mem_cons_self
    rw [← hps, AlbyHub.lastExpiry_eq none hp h.uniform,
      AlbyHub.lastExpiry_eq none (hperm.mem_iff.2 hp) h'.uniform]

/-! ## The two views -/

/-- The balance is shown apart from the rest. Reference: `api/api.go:499 GetApp`, `:633
ListApps`. -/
theorem showBalance_withRows {balanced : ApiApp} (h : Api.showBalance d a base = .ok balanced) :
    Api.showBalance d a (base.withRows ps) = .ok (balanced.withRows ps) ∧
      ∀ maxAmountSat usage budgetRenewal,
        Api.showBalance d a ((base.withRows ps).withBudget maxAmountSat usage budgetRenewal) =
          .ok ((balanced.withRows ps).withBudget maxAmountSat usage budgetRenewal) := by
  unfold Api.showBalance at h ⊢
  split at h
  · next hisolated =>
    cases hbalance : GetIsolatedBalanceMsat d.transactions a.id with
    | error e =>
      rw [hbalance] at h
      cases h
    | ok balanceMsat =>
      rw [hbalance] at h
      cases h
      simp only [hisolated, if_true, Except.map]
      exact ⟨rfl, fun _ _ _ => rfl⟩
  · next hshared =>
    cases h
    rw [if_neg hshared]
    exact ⟨rfl, fun _ _ _ => if_neg hshared⟩

/-- Nothing was paid by the app 0. Reference: `db/queries/get_budget_usage.go:11
GetBudgetUsageMsat`. -/
theorem usage_zero (hd : d.registry.Positive) :
    GetBudgetUsageMsat E.world E.now d.transactions { appId := 0, scope := "" } = .ok 0 := by
  have hnone : (d.transactions.rows.filter fun r => r.SpentBy 0 ∧
      getStartOfBudget E.world E.now "" < r.createdAt) = [] := by
    refine List.filter_eq_nil_iff.2 fun r hr hspent => ?_
    obtain ⟨⟨happ, -⟩, -⟩ := of_decide_eq_true hspent
    exact absurd (hd.app 0 (d.references r hr 0 happ)) (Nat.lt_irrefl 0)
  unfold GetBudgetUsageMsat
  simp only [hnone]
  rfl

/-- What both show. Reference: `api/api.go:436 GetApp`, `:615 ListApps`. -/
structure ApiApp.Viewed (E : ListingEnv) (d : HubTables) (a : AppRow) (ps : List PermissionRow)
    (e balanced : ApiApp) : Prop where
  balance : Api.showBalance d a (ofRow E d a) = .ok balanced
  budget : payRow ps = none ∧ e = balanced.withRows ps ∨ ∃ p usage, payRow ps = some p ∧
    GetBudgetUsageMsat E.world E.now d.transactions p.toAppPermission = .ok usage ∧
    e = (balanced.withRows ps).withBudget (uint64OfInt p.maxAmountSat) usage p.budgetRenewal

/-- Before the rows of the permissions nothing of them is shown. Reference: `api/api.go:623
ListApps`. -/
structure ApiApp.Fresh (d : HubTables) (a : AppRow) (balanced : ApiApp) : Prop where
  budget : balanced.withBudget 0 0 "" = balanced
  scopes : balanced.scopes = []
  expiresAt : balanced.expiresAt = none
  isolated : balanced.isolated = a.isolated
  balance : a.isolated = true →
    GetIsolatedBalanceMsat d.transactions a.id = .ok balanced.balanceMsat

theorem showBalance_ofRow {balanced : ApiApp}
    (h : Api.showBalance d a (ApiApp.ofRow E d a) = .ok balanced) : balanced.Fresh d a := by
  unfold Api.showBalance at h
  split at h
  · cases hbalance : GetIsolatedBalanceMsat d.transactions a.id with
    | error e =>
      rw [hbalance] at h
      cases h
    | ok balanceMsat =>
      rw [hbalance] at h
      cases h
      exact ⟨rfl, rfl, rfl, rfl, fun _ => hbalance⟩
  · next hshared =>
    cases h
    exact ⟨rfl, rfl, rfl, rfl, fun hisolated => absurd hisolated hshared⟩

/-- What the rows of the permissions add. Reference: `api/api.go:646 ListApps`. -/
theorem ApiApp.Viewed.rows {balanced : ApiApp} (h : e.Viewed E d a ps balanced) :
    e.scopes = ps.map (·.scope) ∧ e.expiresAt = lastExpiry none ps ∧
      e.isolated = a.isolated ∧ e.balanceMsat = balanced.balanceMsat := by
  have hf := showBalance_ofRow h.balance
  rcases h.budget with ⟨-, he⟩ | ⟨p, usage, -, -, he⟩
  all_goals
    rw [he]
    simp [withRows, withBudget, hf.scopes, hf.expiresAt, hf.isolated]

/-- `GetApp` shows the app as the listing does, up to the order of the scopes: without a row to pay
with the budget is that of the zero value. Reference: `api/api.go:436 GetApp`. -/
theorem ApiApp.Viewed.getApp {balanced : ApiApp} (h : e.Viewed E d a ps balanced)
    (hl : Listed d a ps) (hd : d.registry.Positive) {E' : ListingEnv} (hworld : E'.world = E.world)
    (hnow : E'.now = E.now) (hkey : E'.nostrPublicKey = E.nostrPublicKey)
    (hrows : RowsMatch (d.registry.grants a.id) scopes) :
    ∃ scopes, scopes.Perm e.scopes ∧ Api.GetApp E' d a = .ok { e with scopes } := by
  have hl' := listed_of_rowsMatch hrows (E'.orderPermissions_perm _)
  generalize hqs : E'.orderPermissions (d.registry.permissions.filter (·.appId = a.id)) = qs at hl'
  have hrow : ApiApp.ofRow E' d a = ApiApp.ofRow E d a := by
    unfold ofRow
    rw [hworld, hkey]
  have hf := showBalance_ofRow h.balance
  have hperm : (qs.map (·.scope)).Perm e.scopes := by
    rw [h.rows.1]
    exact (hl'.perm.trans hl.perm.symm).map _
  have horder : balanced.withRows qs =
      { balanced.withRows ps with scopes := qs.map (·.scope) } := by
    simp only [withRows, hf.scopes, hf.expiresAt, hl.lastExpiry_eq hl', List.nil_append]
  -- the zero value is what stands for the row where there is none
  have hget : ∀ usage pay, (payRow ps).elim { appId := 0, scope := "" } (·.toAppPermission) = pay →
      GetBudgetUsageMsat E.world E.now d.transactions pay = .ok usage →
      Api.GetApp E' d a = Api.showBalance d a (((ofRow E d a).withRows qs).withBudget
        (uint64OfInt pay.maxAmountSat) usage pay.budgetRenewal) := by
    intro usage pay hpay husage
    unfold Api.GetApp
    simp only [hqs, hrow, hworld, hnow]
    rw [foldl_payRow _ hl'.nodup, hl.payRow_eq hl', hpay, husage]
    rfl
  refine ⟨qs.map (·.scope), ?_⟩
  refine ⟨hperm, ?_⟩
  rcases h.budget with ⟨hnone, he⟩ | ⟨p, usage, hsome, husage, he⟩
  · rw [hget 0 _ (by rw [hnone]; rfl) (usage_zero hd), (showBalance_withRows h.balance).2, he]
    have hzero : (balanced.withRows qs).withBudget 0 0 "" = balanced.withRows qs :=
      congrArg (·.withRows qs) hf.budget
    exact congrArg Except.ok (hzero.trans horder)
  · rw [hget usage _ (by rw [hsome]; rfl) husage, (showBalance_withRows h.balance).2, horder, he]
    rfl

/-! ## What is enforced -/

/-- The check of a request's permission is decided by what is shown. Reference:
`nip47/permissions/permissions.go:38 HasPermission`. -/
theorem ApiApp.Viewed.permitted {balanced : ApiApp} (h : e.Viewed E d a ps balanced)
    (hl : Listed d a ps) (hrows : RowsMatch (d.registry.grants a.id) scopes) (hid : a.id ≠ 0)
    {turn : AppTurn} {scope : String} (hne : scope ≠ "") (hfault : turn.fault = false)
    (hperms : turn.permissions = d.registry.permissions) :
    (HasPermission turn a scope).1 = true ↔
      scope ∈ e.scopes ∧ ∀ expiresAt ∈ e.expiresAt, turn.now ≤ expiresAt := by
  obtain ⟨hscopes, hexpires, -, -⟩ := h.rows
  have hgrants : (ps.map fun p => (p.scope, p.terms)).Perm (d.registry.grants a.id) :=
    hl.perm.map _
  have hmem : scope ∈ scopes ↔ scope ∈ e.scopes := by
    rw [hscopes, ← hrows.mem scope, ← (hgrants.map (·.1)).mem_iff, List.map_map]
    rfl
  have hexpiry : d.registry.expiresAt a.id = e.expiresAt := by
    rw [hexpires]
    unfold Registry.expiresAt Registry.grants
    cases hfilter : d.registry.permissions.filter (·.appId = a.id) with
    | nil =>
      have hnil : ps = [] := (hfilter ▸ hl.perm).eq_nil
      rw [hnil]
      rfl
    | cons p rest =>
      have hp : p ∈ ps := hl.perm.mem_iff.2 (hfilter ▸ List.mem_cons_self)
      rw [AlbyHub.lastExpiry_eq none hp hl.uniform]
      rfl
  rw [HasPermission_iff hrows hid hne hfault hperms, hmem, Registry.Unexpired, hexpiry]

theorem pick_of_forall_eq {α : Type} {l : List α} {x : α} (hx : x ∈ l) (hl : ∀ y ∈ l, y = x)
    (n : Nat) : pick n l = some x := by
  cases hp : pick n l with
  | none =>
    rw [pick_eq_none.1 hp] at hx
    cases hx
  | some y => rw [hl y (mem_of_pick hp)]

/-- The app is found by its id. Reference: gorm struct conditions. -/
theorem HubTables.findApp (ha : a ∈ d.registry.apps) (hid : a.id ≠ 0) (n : Nat) :
    d.db.findApp n a.id = some a.toApp := by
  refine pick_of_forall_eq ?_ (fun y hy => ?_) n
  · exact List.mem_filter.2 ⟨List.mem_map.2 ⟨a, ha, rfl⟩, decide_eq_true (.inr rfl)⟩
  · obtain ⟨hy, hkey⟩ := List.mem_filter.1 hy
    obtain ⟨b, hb, rfl⟩ := List.mem_map.1 hy
    have hsame : b.id = a.id := (of_decide_eq_true hkey).resolve_left hid
    rw [List.inj_on_of_nodup_map d.ids_nodup hb ha hsame]

/-- The row that a payment is checked with is the one that the budget is shown of. Reference:
`transactions/transactions_service.go:1148 validateCanPay`. -/
theorem Listed.findPermission (hl : Listed d a ps) (hid : a.id ≠ 0) (n : Nat) :
    d.db.findPermission n a.id "pay_invoice" = (payRow ps).map (·.toAppPermission) := by
  have hmem : ∀ p, p ∈ ps ↔ p ∈ d.registry.permissions ∧ p.appId = a.id := by
    intro p
    rw [hl.perm.mem_iff, List.mem_filter, decide_eq_true_eq]
  have hfound : ∀ q ∈ d.db.permissions.filter
      (fun p => (a.id = 0 ∨ p.appId = a.id) ∧ p.scope = "pay_invoice"),
      ∃ p, payRow ps = some p ∧ q = p.toAppPermission := by
    intro q hq
    obtain ⟨hq, hkey⟩ := List.mem_filter.1 hq
    obtain ⟨p, hp, rfl⟩ := List.mem_map.1 hq
    obtain ⟨happ, hscope⟩ := of_decide_eq_true hkey
    exact ⟨p, (payRow_eq_some hl.nodup).2 ⟨(hmem p).2 ⟨hp, happ.resolve_left hid⟩, hscope⟩, rfl⟩
  unfold DB.findPermission
  cases hrow : payRow ps with
  | none =>
    refine pick_eq_none.2 (List.eq_nil_iff_forall_not_mem.2 fun q hq => ?_)
    obtain ⟨p, hp, -⟩ := hfound q hq
    rw [hrow] at hp
    cases hp
  | some p =>
    obtain ⟨hp, hscope⟩ := (payRow_eq_some hl.nodup).1 hrow
    obtain ⟨hp, happ⟩ := (hmem p).1 hp
    refine pick_of_forall_eq ?_ (fun q hq => ?_) n
    · exact List.mem_filter.2 ⟨List.mem_map.2 ⟨p, hp, rfl⟩,
        decide_eq_true ⟨.inr happ, hscope⟩⟩
    · obtain ⟨p', hp', rfl⟩ := hfound q hq
      rw [hrow] at hp'
      cases hp'
      rfl

/-- What the check of a payment compares, for an app that need not be isolated. Reference:
`transactions/transactions_service.go:1133 validateCanPay`. -/
theorem validateCanPay_shown {W : World} {env : Env} {db : DB} {app : App} {p : AppPermission}
    {balance : Int} {usage appId amountMsat : Nat} {description : String} {selfPayment : Bool}
    (happ : db.findApp env.pickApp appId = some app)
    (hp : db.findPermission env.pickPermission appId "pay_invoice" = some p)
    (hbalance : app.isolated = true →
      GetIsolatedBalanceMsat db.transactions p.appId = .ok balance)
    (husage : GetBudgetUsageMsat W env.now db.transactions p = .ok usage) :
    (validateCanPay W env db (some appId) amountMsat description selfPayment).1 = .ok () ↔
      (app.isolated = true → int64 (amountWithFeeReserve amountMsat selfPayment) ≤ balance) ∧
      (0 < p.maxAmountSat → ((amountWithFeeReserve amountMsat selfPayment / 1000 : Nat) : Int) ≤
        p.maxAmountSat - (usage / 1000 : Nat)) := by
  cases hisolated : app.isolated with
  | true =>
    rw [validateCanPay_iff happ hp (hbalance hisolated) husage, hisolated]
  | false =>
    simp only [validateCanPay, happ, hp, hisolated, Bool.false_eq_true, if_false, false_imp_iff,
      true_and, gt_iff_lt]
    by_cases hmax : 0 < p.maxAmountSat
    · simp only [hmax, if_true, true_imp_iff, validateBudget, husage, gt_iff_lt]
      split
      · next hlt => exact iff_of_false (fun h => by cases h) (Int.not_le.2 hlt)
      · next hle => exact iff_of_true rfl (Int.not_lt.1 hle)
    · simp [hmax]

theorem int64_uint64OfInt {i : Int} (h : -2 ^ 63 ≤ i ∧ i < 2 ^ 63) : int64 (uint64OfInt i) = i := by
  unfold int64 uint64OfInt
  omega

/-- The check of a payment is decided by what is shown. Reference:
`transactions/transactions_service.go:1133 validateCanPay`. -/
theorem ApiApp.Viewed.payable {balanced : ApiApp} (h : e.Viewed E d a ps balanced)
    (hl : Listed d a ps) (ha : a ∈ d.registry.apps) (hid : a.id ≠ 0)
    (hfit : d.registry.AmountsFit) {env : Env} (hnow : env.now = E.now) (amountMsat : Nat)
    (description : String) (selfPayment : Bool) :
    (validateCanPay E.world env d.db (some a.id) amountMsat description selfPayment).1 = .ok () ↔
      e.Affords amountMsat selfPayment := by
  have hf := showBalance_ofRow h.balance
  obtain ⟨hscopes, -, hisolated, hbalance⟩ := h.rows
  have happ := HubTables.findApp ha hid env.pickApp
  have hfind := hl.findPermission hid env.pickPermission
  unfold Affords
  rcases h.budget with ⟨hnone, -⟩ | ⟨p, usage, hsome, husage, he⟩
  · rw [hnone] at hfind
    refine iff_of_false ?_ fun hpay => ?_
    · simp [validateCanPay, happ, hfind]
    · exact payRow_eq_none.1 hnone (hscopes ▸ hpay.1)
  · obtain ⟨hp, hscope⟩ := (payRow_eq_some hl.nodup).1 hsome
    obtain ⟨hrow, happId⟩ := List.mem_filter.1 (hl.perm.mem_iff.1 hp)
    have happId : p.appId = a.id := of_decide_eq_true happId
    have hpays : "pay_invoice" ∈ e.scopes := by
      rw [hscopes]
      exact List.mem_map.2 ⟨p, hp, hscope⟩
    have hmax : int64 e.maxAmountSat = p.maxAmountSat := by
      rw [he]
      exact int64_uint64OfInt (hfit p hrow)
    have husageSat : e.budgetUsageSat = usage / 1000 := by
      rw [he]
      rfl
    rw [hsome] at hfind
    rw [validateCanPay_shown happ hfind (fun hiso => happId ▸ hf.balance hiso) (hnow ▸ husage),
      hisolated, hbalance, hmax, husageSat]
    simp only [hpays, true_and]

/-! ## A page of apps -/

theorem exists_of_mapM {α β ε : Type} {f : α → Except ε β} {l : List α} {l' : List β}
    (h : l.mapM f = .ok l') {y : β} (hy : y ∈ l') : ∃ x ∈ l, f x = .ok y := by
  induction l generalizing l' with
  | nil =>
    cases h
    cases hy
  | cons x l ih =>
    rw [List.mapM_cons] at h
    obtain ⟨y', hx, h⟩ := ok_of_bind h
    obtain ⟨ys, hys, h⟩ := ok_of_bind h
    cases h
    rcases List.mem_cons.1 hy with rfl | hy
    · exact ⟨x, List.mem_cons_self, hx⟩
    · obtain ⟨z, hz, hfz⟩ := ih hys hy
      exact ⟨z, List.mem_cons_of_mem _ hz, hfz⟩

theorem Api.mem_of_limited {limit offset : Int} {rows : List AppRow}
    (h : a ∈ Api.limited limit offset rows) : a ∈ rows := by
  have hdrop : a ∈ (if 0 < offset then rows.drop offset.toNat else rows) := by
    unfold limited at h
    dsimp only at h
    split at h
    · exact List.mem_of_mem_take h
    · exact h
  split at hdrop
  · exact List.mem_of_mem_drop hdrop
  · exact hdrop

/-- An app of the page is an app of the hub, shown with the rows of its own permissions. Reference:
`api/api.go:525 ListApps`. -/
theorem Api.listed_of_ListApps {limit offset : Nat} {filters : ListAppsFilters} {orderBy : String}
    {response : ListAppsResponse} (h : Api.ListApps E d limit offset filters orderBy = .ok response)
    (he : e ∈ response.apps) : ∃ a ∈ d.registry.apps, ∃ ps : List PermissionRow,
      ps.Perm (d.registry.permissions.filter (·.appId = a.id)) ∧ ∃ balanced,
      Api.showBalance d a (ApiApp.ofRow E d a) = .ok balanced ∧
      ps.foldlM (Api.showPermission E d) balanced = .ok e := by
  unfold Api.ListApps at h
  obtain ⟨totalBalance, -, h⟩ := ok_of_bind h
  obtain ⟨apps, happs, h⟩ := ok_of_bind h
  cases h
  obtain ⟨a, ha, hlisted⟩ := exists_of_mapM happs he
  obtain ⟨balanced, hbalanced, hrows⟩ := ok_of_bind hlisted
  refine ⟨a, ?_, _, ?_, balanced, hbalanced, hrows⟩
  · have hquery := (E.orderApps_ordered _ _).perm.mem_iff.1 (Api.mem_of_limited ha)
    exact (List.mem_filter.1 hquery).1
  · -- the rows of the page hold all rows of the app
    refine ((E.orderPermissions_perm _).filter _).trans (List.Perm.of_eq ?_)
    rw [List.filter_filter]
    refine List.filter_congr fun p _ => ?_
    by_cases happ : p.appId = a.id
    · simp only [happ, List.mem_map_of_mem ha, decide_true, Bool.and_self]
    · simp only [happ, decide_false, Bool.false_and]

end

section
variable {E : ListingEnv} {d : HubTables} {s : AppsState} {ops : List AppsOp}

/-- An isolated app with a budget of 100 sats. Reference: none. -/
def newPayer : List AppsOp :=
  [.createApp { backendType := "LDK" }
    { name := "payer", scopes := ["get_balance", "pay_invoice"], maxAmountSat := some 100,
      budgetRenewal := "never", isolated := true }]

/-- The tables of the new app. Reference: none. -/
def payerRegistry : Registry := (labelsAfter AppsState.step .initial newPayer).registry

theorem nodup_payerRegistry : (payerRegistry.apps.map (·.id)).Nodup := by decide +kernel

theorem references_payerRegistry : ∀ t ∈ (ledgerTable 50000 20000).rows, ∀ appId ∈ t.appId,
    payerRegistry.HasApp appId := by decide +kernel

/-- The app has received 50 sats and spent 20. Reference: none. -/
def payerTables : HubTables where
  registry := payerRegistry
  transactions := ledgerTable 50000 20000
  times := fun _ => {}
  ids_nodup := nodup_payerRegistry
  references := references_payerRegistry

/-- The rows by descending key. Reference: SQL `ORDER BY`, `DESC`. -/
def descending {α κ : Type} [LinearOrder κ] (key : α → κ) (l : List α) : List α :=
  l.insertionSort fun a b => key b ≤ key a

theorem descending_ordered {α κ : Type} [LinearOrder κ] (key : α → κ) (l : List α) :
    Paging.Ordered key l (descending key l) :=
  ⟨List.perm_insertionSort _ _, List.pairwise_insertionSort _ _⟩

/-- The listing of this hub. Reference: none. -/
def demoListing : ListingEnv where
  world := demo
  now := demoNow + 1
  nostrPublicKey := "hubpubkey"
  jsonText := fun _ _ => none
  nameLike := fun _ _ => true
  orderApps := descending
  orderPermissions := id
  orderApps_ordered := descending_ordered
  orderPermissions_perm := List.Perm.refl

/-- The app as it is shown. Reference: none. -/
def payerShown : ApiApp where
  id := 1
  name := "payer"
  description := ""
  appPubkey := ""
  createdAt := 0
  updatedAt := 0
  lastUsedAt := none
  lastSettledTransactionAt := none
  scopes := ["get_balance", "pay_invoice"]
  maxAmount := 100
  maxAmountSat := 100
  maxAmountMsat := 100000
  budgetUsage := 20
  budgetUsageSat := 20
  budgetUsageMsat := 20000
  budgetRenewal := "never"
  isolated := true
  walletPubkey := ""
  uniqueWalletPubkey := true
  balance := 30000
  balanceSat := 30
  balanceMsat := 30000

end

end AlbyHub
