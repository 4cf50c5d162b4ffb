import AlbyHub.Apps.Service

/-!
# Who gets the superuser scope

The NIP-47 request that creates an app, and the runs of all calls that write permission rows. Of
these only the API's `CreateApp` gives the superuser scope, to the app it creates, after a check of
the unlock password (`superuser_granted`): `UpdateApp` refuses the scope to an app that has it not,
and the scopes of a request's methods contain it only with the method that `create_connection`
refuses.
-/

namespace AlbyHub

open Go

/-- Reference: `nip47/controllers/create_connection_controller.go:17 createConnectionParams`. -/
structure CreateConnectionParams where
  pubkey : String
  name : String
  requestMethods : List String
  notificationTypes : List String := []
  maxAmount : Nat := 0
  budgetRenewal : String := ""
  expiresAt : Option Nat := none
  isolated : Bool := false
  metadata : Option (List (String × Json)) := none

/-- Reference: `nip47/models/models.go Error`. -/
structure Nip47Error where
  code : String
  message : String
  deriving DecidableEq, Repr

/-- An error of the apps service; a duplicated key has one text for every database. Reference:
`nip47/controllers/map_nip47_error.go:12 mapNip47Error`. -/
def mapNip47Error (message : String) : Nip47Error := ⟨"INTERNAL", message⟩

/-- Reference: `nip47/permissions/permissions.go:153 RequestMethodToScope`. -/
def RequestMethodToScope (requestMethod : String) : Except String String :=
  match requestMethod with
  | "pay_invoice" | "pay_keysend" | "multi_pay_invoice" | "multi_pay_keysend" => .ok "pay_invoice"
  | "get_balance" => .ok "get_balance"
  | "get_budget" => .ok ""
  | "get_info" => .ok "get_info"
  | "make_invoice" => .ok "make_invoice"
  | "lookup_invoice" => .ok "lookup_invoice"
  | "list_transactions" => .ok "list_transactions"
  | "sign_message" => .ok "sign_message"
  | "make_hold_invoice" | "settle_hold_invoice" | "cancel_hold_invoice" => .ok "make_invoice"
  | "create_connection" => .ok "superuser"
  | requestMethod => .error ("unsupported request method: " ++ requestMethod)

/-- The scopes after those of the methods before. Reference: `nip47/permissions/permissions.go:138
RequestMethodsToScopes`. -/
def scopesOfMethods : List String → List String → Except String (List String)
  | [], scopes => .ok scopes
  | requestMethod :: requestMethods, scopes =>
    match RequestMethodToScope requestMethod with
    | .error e => .error e
    | .ok scope => scopesOfMethods requestMethods
      (if scope ≠ "" ∧ scope ∉ scopes then scopes ++ [scope] else scopes)

/-- Reference: `nip47/permissions/permissions.go:138 RequestMethodsToScopes`. -/
def RequestMethodsToScopes (requestMethods : List String) : Except String (List String) :=
  scopesOfMethods requestMethods []

/-- The scopes of the new app. Reference: `nip47/controllers/create_connection_controller.go:56
HandleCreateConnectionEvent`. -/
def connectionScopes (env : AppsEnv) (params : CreateConnectionParams) :
    Except Nip47Error (List String) := do
  (refuse (params.name = "getalby.com")
    "cannot create a new app that has reserved name: getalby.com").mapError (⟨"BAD_REQUEST", ·⟩)
  (refuse ("create_connection" ∈ params.requestMethods)
    "cannot create a new app that has create_connection permission via NWC").mapError
      (⟨"BAD_REQUEST", ·⟩)
  (refuse (params.requestMethods = []) "No request methods provided").mapError (⟨"BAD_REQUEST", ·⟩)
  (refuse (∃ method ∈ params.requestMethods, method ∉ env.supportedMethods)
    "One or more methods are not supported by the current LNClient").mapError (⟨"BAD_REQUEST", ·⟩)
  let scopes ← (RequestMethodsToScopes params.requestMethods).mapError mapNip47Error
  (refuse (∃ type ∈ params.notificationTypes, type ∉ env.supportedNotificationTypes)
    "One or more notification types are not supported by the current LNClient").mapError
      (⟨"BAD_REQUEST", ·⟩)
  return if params.notificationTypes = [] then scopes else scopes ++ ["notifications"]

/-- The wallet's public key for the new app, and the tables afterwards. Reference:
`nip47/controllers/create_connection_controller.go:34 HandleCreateConnectionEvent`. -/
def HandleCreateConnectionEvent (env : AppsEnv) (params : CreateConnectionParams) (r : Registry) :
    Except Nip47Error (Option String × Registry) := do
  let scopes ← connectionScopes env params
  let ((app, _), r) ← (AppsService.CreateApp env params.name params.pubkey (params.maxAmount / 1000)
    params.budgetRenewal (params.expiresAt.map fun seconds => Time.unix (int64 seconds)) scopes
    params.isolated params.metadata r).mapError mapNip47Error
  return (app.walletPubkey, r)

/-- The calls that write permission rows. Reference: the callers of `apps/apps_service.go` and of
`api/api.go:171 UpdateApp`. -/
inductive AppsOp where
  | createApp (env : AppsEnv) (request : CreateAppRequest)
  | updateApp (env : AppsEnv) (userApp : AppRow) (request : UpdateAppRequest)
  | createConnection (env : AppsEnv) (params : CreateConnectionParams)
  | deleteApp (env : AppsEnv) (appId : Nat)

/-- The tables after a call. Reference: none. -/
def AppsOp.step (r : Registry) : AppsOp → Registry
  | .createApp env request => (Api.CreateApp env request r).2
  | .updateApp env userApp request =>
    match Api.UpdateApp env userApp request r with
    | .ok r => r
    | .error _ => r
  | .createConnection env params =>
    match HandleCreateConnectionEvent env params r with
    | .ok (_, r) => r
    | .error _ => r
  | .deleteApp env appId =>
    match AppsService.DeleteApp env appId r with
    | .ok r => r
    | .error _ => r

/-- The tables after some calls. Reference: none. -/
def Registry.run (r : Registry) (ops : List AppsOp) : Registry := ops.foldl AppsOp.step r

/-- The call creates the app with the superuser scope, after a check of the unlock password that
succeeded. Reference: `api/api.go:79 CreateApp`. -/
def AppsOp.Grants (r : Registry) (appId : Nat) : AppsOp → Prop
  | .createApp env request => "superuser" ∈ request.scopes ∧
      env.checkUnlockPassword request.unlockPassword = true ∧ appId = r.nextAppId
  | _ => False

section
variable {ε ε' α : Type} {r r' : Registry} {env : AppsEnv} {appId : Nat} {op : AppsOp}
variable {scopes scopes' methods : List String} {scope : String}

theorem ok_of_mapError {x : Except ε α} {f : ε → ε'} {a : α} (h : x.mapError f = .ok a) :
    x = .ok a := by
  cases x with
  | error e => cases h
  | ok b => exact congrArg Except.ok (Except.ok.inj h)

/-- Only one method has the superuser scope. Reference: `nip47/permissions/permissions.go:177
RequestMethodToScope`. -/
theorem RequestMethodToScope_superuser {method : String}
    (h : RequestMethodToScope method = .ok "superuser") : method = "create_connection" := by
  unfold RequestMethodToScope at h
  split at h
  all_goals first
    | rfl
    | exact absurd (Except.ok.inj h) (by decide)
    | cases h

theorem superuser_of_scopesOfMethods (h : scopesOfMethods methods scopes = .ok scopes')
    (hs : "superuser" ∈ scopes') : "superuser" ∈ scopes ∨ "create_connection" ∈ methods := by
  induction methods generalizing scopes with
  | nil =>
    obtain rfl := Except.ok.inj h
    exact .inl hs
  | cons method methods ih =>
    unfold scopesOfMethods at h
    split at h
    · cases h
    · next scope hscope =>
      rcases ih h with hmem | hmem
      · split at hmem
        · rcases List.mem_append.1 hmem with hmem | hmem
          · exact .inl hmem
          · obtain rfl := List.mem_singleton.1 hmem
            exact .inr (RequestMethodToScope_superuser hscope ▸ List.mem_cons_self)
        · exact .inl hmem
      · exact .inr (List.mem_cons_of_mem method hmem)

/-- A request creates no app with the superuser scope. Reference:
`nip47/controllers/create_connection_controller.go:68 HandleCreateConnectionEvent`. -/
theorem superuser_not_mem_connectionScopes {params : CreateConnectionParams}
    (h : connectionScopes env params = .ok scopes) : "superuser" ∉ scopes := by
  obtain ⟨_, -, h⟩ := ok_of_bind h
  obtain ⟨_, hmethod, h⟩ := ok_of_bind h
  obtain ⟨_, -, h⟩ := ok_of_bind h
  obtain ⟨_, -, h⟩ := ok_of_bind h
  obtain ⟨scopes', hscopes, h⟩ := ok_of_bind h
  obtain ⟨_, -, h⟩ := ok_of_bind h
  obtain rfl := Except.ok.inj h
  intro hs
  have hs' : "superuser" ∈ scopes' := by
    split at hs
    · exact hs
    · rcases List.mem_append.1 hs with hs | hs
      · exact hs
      · exact absurd (List.mem_singleton.1 hs) (by decide)
  rcases superuser_of_scopesOfMethods (ok_of_mapError hscopes) hs' with hs | hs
  · cases hs
  · exact not_of_refuse (ok_of_mapError hmethod) hs

/-- Reference: `nip47/controllers/create_connection_controller.go:34
HandleCreateConnectionEvent`. -/
theorem hasScope_of_createConnection {params : CreateConnectionParams} {key : Option String}
    (h : HandleCreateConnectionEvent env params r = .ok (key, r'))
    (hs : r'.HasScope appId "superuser") : r.HasScope appId "superuser" := by
  obtain ⟨scopes, hscopes, h⟩ := ok_of_bind h
  obtain ⟨⟨⟨app, secret⟩, r₁⟩, hcreate, h⟩ := ok_of_bind h
  cases h
  rcases ((AppsService.CreateApp_ok (ok_of_mapError hcreate)).2 appId "superuser").1 hs with
    hold | ⟨-, hmem⟩
  · exact hold
  · exact absurd hmem (superuser_not_mem_connectionScopes hscopes)

/-- The scopes that an update asks for contain the superuser scope only where the app has it.
Reference: `api/api.go:300 UpdateApp`. -/
theorem hasScope_of_updateScopes {userApp : AppRow} {expiresAt : Option Time} {maxAmountSat : Nat}
    {budgetRenewal : String} {existing : List String}
    (h : updateScopes userApp expiresAt maxAmountSat budgetRenewal existing scopes r = .ok r')
    (hs : r'.HasScope appId "superuser") :
    r.HasScope appId "superuser" ∨ (userApp.id = appId ∧ "superuser" ∈ existing) := by
  obtain ⟨_, -, h⟩ := ok_of_bind h
  obtain ⟨_, hrefuse, h⟩ := ok_of_bind h
  obtain ⟨⟨removed, r₁⟩, hadd, h⟩ := ok_of_bind h
  cases h
  rcases hasScope_of_addScopes hadd (hasScope_of_foldl_delete hs) with hold | ⟨hid, hmem⟩
  · exact .inl hold
  · have hhas : "superuser" ∈ existing := Decidable.byContradiction fun hnot =>
      not_of_refuse hrefuse ⟨hmem, hnot⟩
    exact .inr ⟨hid, hhas⟩

/-- Reference: `api/api.go:239 UpdateApp`. -/
theorem hasScope_of_updatePermissions {userApp : AppRow} {request : UpdateAppRequest}
    (h : updatePermissions env userApp request r = .ok r') (hs : r'.HasScope appId "superuser") :
    r.HasScope appId "superuser" := by
  simp only [updatePermissions] at h
  split at h
  · cases h
    exact hs
  · obtain ⟨expiresAt, -, h⟩ := ok_of_bind h
    obtain ⟨_, -, h⟩ := ok_of_bind h
    split at h
    · cases h
      exact Registry.hasScope_updatePermissions.1 hs
    · rcases hasScope_of_updateScopes h hs with hold | ⟨rfl, hmem⟩
      · exact Registry.hasScope_updatePermissions.1 hold
      · -- the app's own rows are the existing ones
        obtain ⟨p, hp, hscope⟩ := List.mem_map.1 hmem
        obtain ⟨hp, hid⟩ := List.mem_filter.1 hp
        exact ⟨p, hp, of_decide_eq_true hid, hscope⟩

/-- An update gives no app the superuser scope. Reference: `api/api.go:171 UpdateApp`. -/
theorem hasScope_of_UpdateApp {userApp : AppRow} {request : UpdateAppRequest}
    (h : Api.UpdateApp env userApp request r = .ok r') (hs : r'.HasScope appId "superuser") :
    r.HasScope appId "superuser" := by
  obtain ⟨r₁, hname, h⟩ := ok_of_bind h
  obtain ⟨r₂, hisolated, h⟩ := ok_of_bind h
  obtain ⟨r₃, hmetadata, h⟩ := ok_of_bind h
  obtain ⟨r₄, hpermissions, h⟩ := ok_of_bind h
  split at h
  · cases h
  · cases h
    have hs₃ := hasScope_of_updatePermissions hpermissions hs
    rwa [hasScope_updateMetadata hmetadata, hasScope_updateIsolated hisolated,
      hasScope_updateName hname] at hs₃

/-- What the API's `CreateApp` leaves: nothing new, or the tables that its transaction has made with
the checked request. Reference: `api/api.go:78 CreateApp`. -/
theorem Api.CreateApp_cases (env : AppsEnv) (request : CreateAppRequest) (r : Registry) :
    (Api.CreateApp env request r).2 = r ∨
      ∃ expiresAt app secret r',
        Api.checkCreateApp env request = .ok expiresAt ∧
        AppsService.CreateApp env request.name request.pubkey
          ((ResolveToSat request.maxAmountSat request.maxAmountMsat request.maxAmount none).getD 0)
          request.budgetRenewal expiresAt request.scopes request.isolated request.metadata r =
            .ok ((app, secret), r') ∧
        (Api.CreateApp env request r).2 = r' := by
  simp only [Api.CreateApp]
  split
  · exact .inl rfl
  · next app secret r' hcreated =>
    obtain ⟨expiresAt, hcheck, hcreate⟩ := ok_of_bind hcreated
    refine .inr ⟨expiresAt, app, secret, r', hcheck, hcreate, ?_⟩
    split <;> rfl

/-- The call that creates an app with the superuser scope has checked the unlock password.
Reference: `api/api.go:79 CreateApp`. -/
theorem hasScope_of_CreateApp {request : CreateAppRequest}
    (hs : (Api.CreateApp env request r).2.HasScope appId "superuser") :
    r.HasScope appId "superuser" ∨ (AppsOp.createApp env request).Grants r appId := by
  rcases Api.CreateApp_cases env request r with hsame | ⟨_, _, _, r', hcheck, hcreate, hnew⟩
  · rw [hsame] at hs
    exact .inl hs
  · rw [hnew] at hs
    rcases ((AppsService.CreateApp_ok hcreate).2 appId "superuser").1 hs with hold | ⟨hid, hmem⟩
    · exact .inl hold
    · obtain ⟨_, hrefuse, -⟩ := ok_of_bind hcheck
      have hpassword : env.checkUnlockPassword request.unlockPassword ≠ false := fun hwrong =>
        not_of_refuse hrefuse ⟨hmem, hwrong⟩
      exact .inr ⟨hmem, Bool.of_not_eq_false hpassword, hid.symm⟩

/-- One call: an app that has the superuser scope afterwards had it, or the call is a `CreateApp`
with the password. Reference: none. -/
theorem AppsOp.hasScope_of_step (hs : (AppsOp.step r op).HasScope appId "superuser") :
    r.HasScope appId "superuser" ∨ op.Grants r appId := by
  cases op with
  | createApp env request => exact hasScope_of_CreateApp hs
  | updateApp env userApp request =>
    simp only [AppsOp.step] at hs
    split at hs
    · next r' h => exact .inl (hasScope_of_UpdateApp h hs)
    · exact .inl hs
  | createConnection env params =>
    simp only [AppsOp.step] at hs
    split at hs
    · next key r' h => exact .inl (hasScope_of_createConnection h hs)
    · exact .inl hs
  | deleteApp env id =>
    simp only [AppsOp.step, AppsService.DeleteApp] at hs
    split at hs
    · next r' h =>
      split at h
      · cases h
      · cases h
        exact .inl (Registry.hasScope_of_deleteApp hs)
    · exact .inl hs

theorem Registry.run_append (r : Registry) (before after : List AppsOp) :
    r.run (before ++ after) = (r.run before).run after := List.foldl_append

/-- A run of calls, by induction on them. Reference: none. -/
theorem Registry.hasScope_of_run {ops : List AppsOp}
    (hs : (r.run ops).HasScope appId "superuser") :
    r.HasScope appId "superuser" ∨
      ∃ before op after, ops = before ++ op :: after ∧ op.Grants (r.run before) appId := by
  induction ops generalizing r with
  | nil => exact .inl hs
  | cons op ops ih =>
    rcases ih hs with hold | ⟨before, op', after, rfl, hgrants⟩
    · rcases AppsOp.hasScope_of_step hold with hold | hgrants
      · exact .inl hold
      · exact .inr ⟨[], op, ops, rfl, hgrants⟩
    · exact .inr ⟨op :: before, op', after, rfl, hgrants⟩

/-- The call is the API's `CreateApp`. Reference: none. -/
def AppsOp.IsCreateApp : AppsOp → Prop
  | .createApp _ _ => True
  | _ => False

/-- Over every sequence of calls, each row with the superuser scope belongs to an app that had such
a row at the beginning, or that a `CreateApp` with a checked unlock password has created; and no
other call gives the scope to an app that has it not. Reference: `api/api.go:79 CreateApp`,
`api/api.go:300 UpdateApp`, `nip47/controllers/create_connection_controller.go:68
HandleCreateConnectionEvent`. -/
theorem superuser_granted (r : Registry) (ops : List AppsOp) :
    (∀ p ∈ (r.run ops).permissions, p.scope = "superuser" →
      r.HasScope p.appId "superuser" ∨
        ∃ before op after, ops = before ++ op :: after ∧ op.Grants (r.run before) p.appId) ∧
    ∀ before op after, ops = before ++ op :: after → ¬ op.IsCreateApp → ∀ appId,
      (r.run (before ++ [op])).HasScope appId "superuser" →
        (r.run before).HasScope appId "superuser" := by
  constructor
  · intro p hp hscope
    exact Registry.hasScope_of_run ⟨p, hp, rfl, hscope⟩
  · intro before op after _ hother appId hs
    rw [Registry.run_append] at hs
    rcases AppsOp.hasScope_of_step hs with hold | hgrants
    · exact hold
    · cases op with
      | createApp env request => exact absurd trivial hother
      | updateApp env userApp request => exact hgrants.elim
      | createConnection env params => exact hgrants.elim
      | deleteApp env id => exact hgrants.elim

end

end AlbyHub
