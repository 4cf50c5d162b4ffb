import AlbyHub.Apps.Grants

/-!
# The budget that a request asks for

A maximum amount is requested in msat or in sat and is stored in sat, where zero and negative values
stand for no limit. What is stored is a limit of at most the requested amount exactly where the
amount is at least a sat, and for the API's `CreateApp`, which converts it to a signed number,
below `2 ^ 63` sat (`requested_budget_limits_iff`).
-/

namespace AlbyHub

open Go

/-- The maximum amount of a request, in msat; of several fields the last one counts. Reference:
`api/models.go:729 ResolveToSat`. -/
def requestedMsat (maxAmountSat maxAmountMsat maxAmount : Option Nat) : Option Nat :=
  match maxAmountMsat, maxAmountSat with
  | some msat, _ => some msat
  | none, some sat => some (sat * 1000)
  | none, none => maxAmount.map (· * 1000)

/-- The maximum amount that a call asks for, in msat. Reference: `api/models.go:130
UpdateAppRequest`, `:151 CreateAppRequest`,
`nip47/controllers/create_connection_controller.go:17 createConnectionParams`. -/
def AppsOp.requestedMsat : AppsOp → Option Nat
  | .createApp _ request =>
    AlbyHub.requestedMsat request.maxAmountSat request.maxAmountMsat request.maxAmount
  | .updateApp _ _ request =>
    AlbyHub.requestedMsat request.maxAmountSat request.maxAmountMsat request.maxAmount
  | .createConnection _ params => some params.maxAmount
  | .deleteApp _ _ => none

/-- The amounts are `uint64` values. Reference: `api/models.go:130 UpdateAppRequest`, `:151
CreateAppRequest`, `nip47/controllers/create_connection_controller.go:17
createConnectionParams`. -/
def AppsOp.AmountsFit : AppsOp → Prop
  | .createApp _ request =>
    ∀ n, some n ∈ [request.maxAmount, request.maxAmountSat, request.maxAmountMsat] → n < 2 ^ 64
  | .updateApp _ _ request =>
    ∀ n, some n ∈ [request.maxAmount, request.maxAmountSat, request.maxAmountMsat] → n < 2 ^ 64
  | .createConnection _ params => params.maxAmount < 2 ^ 64
  | .deleteApp _ _ => True

/-- The call succeeds for the app, which it has created or updated, and leaves the tables.
Reference: none. -/
inductive AppsOp.Succeeds (r : Registry) : AppsOp → Nat → Registry → Prop
  | createApp {env : AppsEnv} {request : CreateAppRequest} {response : CreateAppResponse}
    {r' : Registry} : Api.CreateApp env request r = (.ok response, r') →
    Succeeds r (.createApp env request) response.id r'
  | updateApp {env : AppsEnv} {userApp : AppRow} {request : UpdateAppRequest} {r' : Registry} :
    Api.UpdateApp env userApp request r = .ok r' →
    Succeeds r (.updateApp env userApp request) userApp.id r'
  | createConnection {env : AppsEnv} {params : CreateConnectionParams} {key : Option String}
    {r' : Registry} : HandleCreateConnectionEvent env params r = .ok (key, r') →
    Succeeds r (.createConnection env params) r.nextAppId r'

/-- Each `pay_invoice` row of the app has a limit, of at most the amount: zero and negative values
are none. Reference: `transactions/transactions_service.go:1188 validateCanPay`. -/
def Registry.Limits (r : Registry) (appId amountMsat : Nat) : Prop :=
  ∀ g ∈ r.grants appId, g.1 = "pay_invoice" →
    0 < g.2.maxAmountSat ∧ g.2.maxAmountSat * 1000 ≤ amountMsat

/-- The app may pay after the call. Reference: `api/api.go:276 UpdateApp`,
`apps/apps_service.go:126 CreateApp`, `nip47/permissions/permissions.go:153
RequestMethodToScope`. -/
def AppsOp.MayPay (r : Registry) : AppsOp → Prop
  | .createApp _ request => "pay_invoice" ∈ request.scopes
  | .updateApp _ userApp request =>
    "pay_invoice" ∈ request.scopes.getD ((r.grants userApp.id).map (·.1))
  | .createConnection _ params =>
    ∃ method ∈ params.requestMethods, RequestMethodToScope method = .ok "pay_invoice"
  | .deleteApp _ _ => False

/-- The amount is at least a sat and, for the call that converts it without a check, a positive
`int64`. Reference: `apps/apps_service.go:134 CreateApp`. -/
def AppsOp.Representable (amountMsat : Nat) : AppsOp → Prop
  | .createApp _ _ => 1000 ≤ amountMsat ∧ amountMsat / 1000 < 2 ^ 63
  | _ => 1000 ≤ amountMsat

section
variable {r r' : Registry} {env : AppsEnv} {appId amountMsat sat : Nat}
variable {satValue msatValue legacyValue : Option Nat} {scope : String}
variable {scopes existing : List String}

/-- Reference: `api/models.go:729 ResolveToSat`. -/
theorem ResolveToSat_of_requested (h : requestedMsat satValue msatValue legacyValue =
    some amountMsat) :
    ResolveToSat satValue msatValue legacyValue none = some (amountMsat / 1000) := by
  cases msatValue with
  | some msat =>
    obtain rfl := Option.some.inj h
    rfl
  | none =>
    cases satValue with
    | some sat =>
      obtain rfl := Option.some.inj h
      exact congrArg some (Nat.mul_div_cancel sat (by decide)).symm
    | none =>
      cases legacyValue with
      | none => cases h
      | some legacy =>
        obtain rfl := Option.some.inj h
        exact congrArg some (Nat.mul_div_cancel legacy (by decide)).symm

theorem requested_lt (h : requestedMsat satValue msatValue legacyValue = some amountMsat)
    (hfit : ∀ n, some n ∈ [legacyValue, satValue, msatValue] → n < 2 ^ 64) :
    amountMsat / 1000 < 2 ^ 64 := by
  cases msatValue with
  | some msat =>
    obtain rfl := Option.some.inj h
    exact Nat.lt_of_le_of_lt (Nat.div_le_self _ _) (hfit msat (by simp))
  | none =>
    cases satValue with
    | some sat =>
      obtain rfl := Option.some.inj h
      rw [Nat.mul_div_cancel sat (by decide)]
      exact hfit sat (by simp)
    | none =>
      cases legacyValue with
      | none => cases h
      | some legacy =>
        obtain rfl := Option.some.inj h
        rw [Nat.mul_div_cancel legacy (by decide)]
        exact hfit legacy (by simp)

/-- The sign of the stored amount. Reference: `apps/apps_service.go:134 CreateApp`. -/
theorem int64_pos_iff (h : sat < 2 ^ 64) : 0 < int64 sat ↔ 0 < sat ∧ sat < 2 ^ 63 := by
  unfold int64
  split <;> omega

theorem int64_le (n : Nat) : int64 n ≤ n := by
  unfold int64
  split <;> omega

/-- The rows of a call that writes the same maximum to all of them. Reference: none. -/
theorem limits_iff {grants : List (String × Terms)} {maxAmountSat : Int}
    (hsame : ∀ g ∈ grants, g.2.maxAmountSat = maxAmountSat)
    (hle : maxAmountSat * 1000 ≤ amountMsat) :
    (∀ g ∈ grants, g.1 = "pay_invoice" →
      0 < g.2.maxAmountSat ∧ g.2.maxAmountSat * 1000 ≤ amountMsat) ↔
    ("pay_invoice" ∈ grants.map (·.1) → 0 < maxAmountSat) := by
  constructor
  · intro h hmem
    obtain ⟨g, hg, hscope⟩ := List.mem_map.1 hmem
    rw [← hsame g hg]
    exact (h g hg hscope).1
  · intro h g hg hscope
    rw [hsame g hg]
    exact ⟨h (List.mem_map.2 ⟨g, hg, hscope⟩), hle⟩

/-- A new app has no other rows than those of the call. Reference: `apps/apps_service.go:126
CreateApp`. -/
theorem limits_created {maxAmountSat : Nat} {budgetRenewal : String} {expiresAt : Option Time}
    {app : AppRow} (h : AppsService.Created r maxAmountSat budgetRenewal expiresAt scopes app r')
    (hle : maxAmountSat * 1000 ≤ amountMsat) :
    r'.Limits r.nextAppId amountMsat ↔ ("pay_invoice" ∈ scopes → 0 < int64 maxAmountSat) := by
  have hnew : r.grants r.nextAppId = [] := Registry.grants_eq_nil Registry.not_hasApp_nextAppId
  have hgrants := h.grants r.nextAppId
  rw [hnew, if_pos rfl, List.nil_append] at hgrants
  have hint : int64 maxAmountSat * 1000 ≤ amountMsat := by
    have := int64_le maxAmountSat
    omega
  rw [Registry.Limits, hgrants, limits_iff ?_ hint, List.map_map]
  · have hid : ((·.1) ∘ fun scope : String => (scope, (⟨expiresAt, int64 maxAmountSat,
        if budgetRenewal = "" then "never" else budgetRenewal⟩ : Terms))) = id := rfl
    rw [hid, List.map_id]
  · intro g hg
    obtain ⟨scope, -, rfl⟩ := List.mem_map.1 hg
    rfl

theorem mem_addedScopes_of_not_mem (hnew : scope ∉ existing) (h : scope ∈ scopes) :
    scope ∈ addedScopes existing scopes := by
  induction scopes generalizing existing with
  | nil => cases h
  | cons s scopes ih =>
    unfold addedScopes
    rcases List.mem_cons.1 h with rfl | h
    · rw [if_neg hnew]
      exact List.mem_cons_self
    · split
      · exact ih (fun hmem => hnew (List.mem_filter.1 hmem).1) h
      · exact List.mem_cons_of_mem _ (ih hnew h)

/-- The scopes after an update: those of the request, where it has any. Reference: `api/api.go:291
UpdateApp`. -/
theorem mem_updatedGrants {request : UpdateAppRequest} {t : Terms}
    {grants : List (String × Terms)} :
    scope ∈ (updatedGrants request t grants).map (·.1) ↔
      scope ∈ request.scopes.getD (grants.map (·.1)) := by
  unfold updatedGrants
  cases request.scopes with
  | none => rw [List.map_map]; rfl
  | some scopes =>
    simp only [List.map_append, List.map_map, List.mem_append, List.mem_map, List.mem_filter,
      Function.comp_apply, decide_eq_true_eq, Option.getD_some]
    constructor
    · rintro (⟨g, ⟨-, hmem⟩, rfl⟩ | ⟨s, hs, rfl⟩)
      · exact hmem
      · exact mem_of_mem_addedScopes hs
    · intro hmem
      by_cases hold : scope ∈ grants.map (·.1)
      · obtain ⟨g, hg, rfl⟩ := List.mem_map.1 hold
        exact .inl ⟨g, ⟨hg, hmem⟩, rfl⟩
      · exact .inr ⟨scope, mem_addedScopes_of_not_mem hold hmem, rfl⟩

/-- The rows after an update have the terms that it writes. Reference: `api/api.go:276
UpdateApp`. -/
theorem terms_of_mem_updatedGrants {request : UpdateAppRequest} {t : Terms}
    {grants : List (String × Terms)} {g : String × Terms}
    (h : g ∈ updatedGrants request t grants) : g.2 = t := by
  unfold updatedGrants at h
  split at h
  · obtain ⟨_, -, rfl⟩ := List.mem_map.1 h
    rfl
  · rcases List.mem_append.1 h with h | h
    · obtain ⟨_, -, rfl⟩ := List.mem_map.1 h
      rfl
    · obtain ⟨_, -, rfl⟩ := List.mem_map.1 h
      rfl

/-- Reference: `nip47/controllers/create_connection_controller.go:56
HandleCreateConnectionEvent`. -/
theorem mem_connectionScopes {params : CreateConnectionParams}
    (h : connectionScopes env params = .ok scopes) : scope ∈ scopes ↔
      (scope ≠ "" ∧ ∃ method ∈ params.requestMethods, RequestMethodToScope method = .ok scope) ∨
      (params.notificationTypes ≠ [] ∧ scope = "notifications") := by
  obtain ⟨_, -, h⟩ := ok_of_bind h
  obtain ⟨_, -, h⟩ := ok_of_bind h
  obtain ⟨_, -, h⟩ := ok_of_bind h
  obtain ⟨_, -, h⟩ := ok_of_bind h
  obtain ⟨methodScopes, hmethods, h⟩ := ok_of_bind h
  obtain ⟨_, -, h⟩ := ok_of_bind h
  obtain rfl := Except.ok.inj h
  have hmem := @mem_scopesOfMethods _ _ _ scope (ok_of_mapError hmethods)
  split
  · next hnone => simp [hmem, hnone]
  · next hsome => simp [hmem, hsome]

/-- Reference: `nip47/controllers/create_connection_controller.go:34
HandleCreateConnectionEvent`. -/
theorem HandleCreateConnectionEvent_created {params : CreateConnectionParams}
    {key : Option String} (h : HandleCreateConnectionEvent env params r = .ok (key, r')) :
    ∃ scopes app, connectionScopes env params = .ok scopes ∧
      AppsService.Created r (params.maxAmount / 1000) params.budgetRenewal
        (params.expiresAt.map fun seconds => Time.unix (int64 seconds)) scopes app r' := by
  obtain ⟨scopes, hscopes, h⟩ := ok_of_bind h
  obtain ⟨⟨⟨app, secret⟩, r₁⟩, hcreate, h⟩ := ok_of_bind h
  cases h
  exact ⟨scopes, app, hscopes, AppsService.CreateApp_created (ok_of_mapError hcreate)⟩

/-- Reference: `api/api.go:78 CreateApp`. -/
theorem Api.CreateApp_created {request : CreateAppRequest} {response : CreateAppResponse}
    (h : Api.CreateApp env request r = (.ok response, r')) :
    ∃ expiresAt app, Api.checkCreateApp env request = .ok expiresAt ∧ response.id = app.id ∧
      AppsService.Created r
        ((ResolveToSat request.maxAmountSat request.maxAmountMsat request.maxAmount none).getD 0)
        request.budgetRenewal expiresAt request.scopes app r' := by
  simp only [Api.CreateApp] at h
  split at h
  · cases h
  · next app secret r₁ hcreated =>
    obtain ⟨expiresAt, hcheck, hcreate⟩ := ok_of_bind hcreated
    split at h
    · cases h
    · cases h
      exact ⟨expiresAt, app, hcheck, rfl, AppsService.CreateApp_created hcreate⟩

/-- Reference: `api/api.go:239 UpdateApp`. -/
theorem limits_updated {userApp : AppRow} {request : UpdateAppRequest}
    (h : Api.UpdateApp env userApp request r = .ok r')
    (hamount : requestedMsat request.maxAmountSat request.maxAmountMsat request.maxAmount =
      some amountMsat) :
    r'.Limits userApp.id amountMsat ↔
      ("pay_invoice" ∈ request.scopes.getD ((r.grants userApp.id).map (·.1)) →
        1000 ≤ amountMsat) := by
  have hresolve := ResolveToSat_of_requested hamount
  cases Api.UpdateApp_grants h with
  | untouched huntouched =>
    rw [hresolve] at huntouched
    simp [UpdateAppRequest.touchesPermissions] at huntouched
  | @touched t _ hwrites _ hgrants =>
    have ht : t.maxAmountSat = (amountMsat / 1000 : Nat) := by
      rw [hwrites.maxAmountSat, hresolve, Option.getD_some]
    have hgrants := hgrants userApp.id
    rw [if_pos rfl] at hgrants
    have hle : t.maxAmountSat * 1000 ≤ amountMsat := by omega
    rw [Registry.Limits, hgrants,
      limits_iff (fun g hg => by rw [terms_of_mem_updatedGrants hg]) hle, mem_updatedGrants]
    have hpos : 0 < t.maxAmountSat ↔ 1000 ≤ amountMsat := by omega
    rw [hpos]

/-- What a successful call stores for a maximum amount is a limit, of at most that amount, if and
only if the app may not pay or the amount can be stored: amounts below a sat become no limit with
each call, and `CreateApp` makes a negative value of an amount of `2 ^ 63` sat or more.
Reference: `api/api.go:78 CreateApp`, `:171 UpdateApp`,
`nip47/controllers/create_connection_controller.go:47 HandleCreateConnectionEvent`. -/
theorem requested_budget_limits_iff {op : AppsOp} (h : op.Succeeds r appId r')
    (hamount : op.requestedMsat = some amountMsat) (hfit : op.AmountsFit) :
    r'.Limits appId amountMsat ↔ (op.MayPay r → op.Representable amountMsat) := by
  cases h with
  | createApp h =>
    obtain ⟨expiresAt, app, -, hid, hcreated⟩ := Api.CreateApp_created h
    rw [ResolveToSat_of_requested hamount, Option.getD_some] at hcreated
    have hsat : 0 < amountMsat / 1000 ↔ 1000 ≤ amountMsat := by omega
    rw [hid, hcreated.id, limits_created hcreated (by omega),
      int64_pos_iff (requested_lt hamount hfit), hsat]
    rfl
  | updateApp h => exact limits_updated h hamount
  | @createConnection env params key _ h =>
    obtain ⟨scopes, app, hscopes, hcreated⟩ := HandleCreateConnectionEvent_created h
    obtain rfl := Option.some.inj hamount
    have hmem : "pay_invoice" ∈ scopes ↔ ∃ method ∈ params.requestMethods,
        RequestMethodToScope method = .ok "pay_invoice" := by
      rw [mem_connectionScopes hscopes]
      simp
    have hlt : params.maxAmount < 2 ^ 64 := hfit
    have hsat : 0 < params.maxAmount / 1000 ∧ params.maxAmount / 1000 < 2 ^ 63 ↔
        1000 ≤ params.maxAmount := by omega
    rw [limits_created hcreated (by omega), int64_pos_iff (by omega), hsat, hmem]
    rfl

/-- A connection with a limit of one sat. Reference: none. -/
theorem connection_limited : ∃ r', AppsOp.Succeeds .empty
    (.createConnection { supportedMethods := ["pay_invoice"] }
      { pubkey := "", name := "app", requestMethods := ["pay_invoice"], maxAmount := 1000 }) 1 r' ∧
    r'.Limits 1 1000 := by
  have h : HandleCreateConnectionEvent { supportedMethods := ["pay_invoice"] }
      { pubkey := "", name := "app", requestMethods := ["pay_invoice"], maxAmount := 1000 }
      .empty = .ok (some "", _) := rfl
  have hfit : (1000 : Nat) < 2 ^ 64 := by decide
  exact ⟨_, .createConnection h,
    (requested_budget_limits_iff (.createConnection h) rfl hfit).2 fun _ => Nat.le_refl 1000⟩

/-- A connection that asks for less than a sat has no limit. Reference:
`nip47/controllers/create_connection_controller.go:104 HandleCreateConnectionEvent`. -/
theorem small_budget_unlimited : ¬ ∀ (r r' : Registry) (op : AppsOp) (appId amountMsat : Nat),
    op.Succeeds r appId r' → op.requestedMsat = some amountMsat → op.AmountsFit → 0 < amountMsat →
    r'.Limits appId amountMsat := by
  intro hlimits
  have h : HandleCreateConnectionEvent { supportedMethods := ["pay_invoice"] }
      { pubkey := "", name := "app", requestMethods := ["pay_invoice"], maxAmount := 999 }
      .empty = .ok (some "", _) := rfl
  have hfit : (999 : Nat) < 2 ^ 64 := by decide
  have hrow := hlimits _ _ _ _ _ (.createConnection h) rfl hfit (by decide)
    ("pay_invoice", ⟨none, 0, "never"⟩) (by decide +kernel) rfl
  exact absurd hrow.1 (by decide)

end

end AlbyHub
