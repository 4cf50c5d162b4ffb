import AlbyHub.Apps.Superuser

/-!
# What the calls do to the permission rows

The permission rows of an app are a list of scopes with their terms (`Registry.grants`): its expiry
and its budget. Each statement of the apps service changes the list of one app, and from these come
the lists that `CreateApp` and `UpdateApp` leave (`CreateApp_grants`, `UpdateApp_grants`).
-/

namespace AlbyHub

open Go

/-- The expiry and the budget of a permission row. Reference: `db/models.go:32 AppPermission`. -/
structure Terms where
  expiresAt : Option Time
  maxAmountSat : Int
  budgetRenewal : String
  deriving DecidableEq, Repr

/-- Reference: `db/models.go:32 AppPermission`. -/
def PermissionRow.terms (p : PermissionRow) : Terms :=
  ⟨p.expiresAt, p.maxAmountSat, p.budgetRenewal⟩

/-- The scopes of the app's rows with their terms, in the order of the table. Reference:
`api/api.go:247 UpdateApp`. -/
def Registry.grants (r : Registry) (appId : Nat) : List (String × Terms) :=
  (r.permissions.filter (·.appId = appId)).map fun p => (p.scope, p.terms)

/-- The terms of the app's first `pay_invoice` row. Reference: `api/api.go:254 UpdateApp`. -/
def Registry.payInvoiceTerms (r : Registry) (appId : Nat) : Option Terms :=
  ((r.grants appId).find? (·.1 = "pay_invoice")).map (·.2)

/-- The scopes that an update inserts, given those that are there; a scope that is repeated is
inserted from its second occurrence on. Reference: `api/api.go:307 UpdateApp`. -/
def addedScopes : List String → List String → List String
  | _, [] => []
  | existing, scope :: scopes =>
    if scope ∈ existing then addedScopes (existing.filter (· ≠ scope)) scopes
    else scope :: addedScopes existing scopes

namespace Registry

section
variable {r r' : Registry} {a app : AppRow} {appId id : Nat} {scope : String}
variable {expiresAt : Option Time} {maxAmountSat : Int} {budgetRenewal : String}
variable {scopes existing removed : List String}

theorem mem_grants {g : String × Terms} :
    g ∈ r.grants appId ↔ ∃ p ∈ r.permissions, p.appId = appId ∧ (p.scope, p.terms) = g := by
  simp [grants, and_assoc]

/-! ## The statements -/

@[simp] theorem grants_updateApp {column : AppColumn} :
    (r.updateApp id column).grants appId = r.grants appId := rfl

@[simp] theorem grants_insertApp : (r.insertApp a).grants appId = r.grants appId := rfl

@[simp] theorem grants_upsertApp : (r.upsertApp a).grants appId = r.grants appId := by
  rw [grants, grants, upsertApp_permissions]

/-- Reference: gorm `Create`. -/
theorem grants_createPermission
    (h : r.createPermission app scope expiresAt maxAmountSat budgetRenewal = .ok r') :
    r'.grants appId = r.grants appId ++
      if app.id = appId then [(scope, ⟨expiresAt, maxAmountSat, budgetRenewal⟩)] else [] := by
  simp only [createPermission] at h
  split at h
  · obtain rfl := Except.ok.inj h
    rw [grants, insertPermission, List.filter_append, List.map_append]
    congr 1
    · rw [upsertApp_permissions, grants]
    · by_cases hid : app.id = appId
      · rw [if_pos hid, List.filter_cons_of_pos (by simpa using hid)]
        rfl
      · rw [if_neg hid, List.filter_cons_of_neg (by simpa using hid)]
        rfl
  · cases h

/-- Reference: `api/api.go:276 UpdateApp`. -/
theorem grants_updatePermissions :
    (r.updatePermissions id expiresAt maxAmountSat budgetRenewal).grants appId =
      if id = appId then (r.grants appId).map fun g =>
        (g.1, ⟨expiresAt, maxAmountSat, budgetRenewal⟩)
      else r.grants appId := by
  -- the update keeps the key of each row, so the same rows belong to the app afterwards
  have hkeep : ((fun p : PermissionRow => decide (p.appId = appId)) ∘
      assignPermission id expiresAt maxAmountSat budgetRenewal) =
        fun p => decide (p.appId = appId) := by
    funext p
    rw [Function.comp_apply, (assignPermission_key id _ _ _ p).2.1]
  rw [grants, updatePermissions, List.filter_map, hkeep, List.map_map]
  split
  · next hid =>
    rw [grants, List.map_map]
    refine List.map_congr_left fun p hp => ?_
    have hp : p.appId = id := (of_decide_eq_true (List.mem_filter.1 hp).2).trans hid.symm
    rw [Function.comp_apply, Function.comp_apply, assignPermission, if_pos hp]
    rfl
  · next hid =>
    refine List.map_congr_left fun p hp => ?_
    have hp : p.appId ≠ id :=
      fun h => hid (h.symm.trans (of_decide_eq_true (List.mem_filter.1 hp).2))
    rw [Function.comp_apply, assignPermission, if_neg hp]

/-- Reference: `api/api.go:325 UpdateApp`. -/
theorem grants_deletePermissions :
    (r.deletePermissions id scope).grants appId =
      if id = appId then (r.grants appId).filter (·.1 ≠ scope) else r.grants appId := by
  rw [grants, deletePermissions, List.filter_filter]
  split
  · next hid =>
    rw [grants, List.filter_map, List.filter_filter]
    congr 1
    refine List.filter_congr fun p _ => ?_
    by_cases hp : p.appId = appId
    · simp [hp, hid]
    · simp [hp]
  · next hid =>
    rw [grants]
    congr 1
    refine List.filter_congr fun p _ => ?_
    by_cases hp : p.appId = appId
    · have hne : appId ≠ id := fun h => hid h.symm
      simp [hp, hne]
    · simp [hp]

/-- Reference: `api/api.go:324 UpdateApp`. -/
theorem grants_foldl_delete :
    (removed.foldl (fun r scope => r.deletePermissions id scope) r).grants appId =
      if id = appId then (r.grants appId).filter (·.1 ∉ removed) else r.grants appId := by
  induction removed generalizing r with
  | nil =>
    have hall : (r.grants appId).filter (fun g => g.1 ∉ []) = r.grants appId :=
      List.filter_eq_self.2 fun _ _ => rfl
    rw [List.foldl_nil, hall, ite_self]
  | cons scope removed ih =>
    rw [List.foldl_cons, ih, grants_deletePermissions]
    split
    · rw [List.filter_filter]
      refine List.filter_congr fun g _ => ?_
      simp [Bool.and_comm]
    · rfl

/-! ## The app is there -/

/-- The app that a permission row comes with is there. Reference: gorm
`SaveBeforeAssociations`. -/
theorem upsertApp_of_hasApp (h : r.HasApp a.id) : r.upsertApp a = r := by
  obtain ⟨b, hb, hid⟩ := h
  rw [upsertApp, if_pos]
  exact List.any_eq_true.2 ⟨b, hb, by simp [hid]⟩

/-- The insertion of a permission row inserts no app that is there. Reference: gorm `Create`. -/
theorem apps_createPermission (happ : r.HasApp app.id)
    (h : r.createPermission app scope expiresAt maxAmountSat budgetRenewal = .ok r') :
    r'.apps = r.apps ∧ r'.nextAppId = r.nextAppId := by
  simp only [createPermission] at h
  split at h
  · obtain rfl := Except.ok.inj h
    have hsame := upsertApp_of_hasApp happ
    have happs : (r.upsertApp app).apps = r.apps := congrArg apps hsame
    have hnext : (r.upsertApp app).nextAppId = r.nextAppId := congrArg nextAppId hsame
    exact ⟨happs, hnext⟩
  · cases h

/-- The update of a column keeps the ids. Reference: gorm `Update`. -/
@[simp] theorem hasApp_updateApp {column : AppColumn} :
    (r.updateApp id column).HasApp appId ↔ r.HasApp appId := by
  constructor
  · rintro ⟨b, hb, hid⟩
    obtain ⟨a, ha, rfl⟩ := List.mem_map.1 hb
    refine ⟨a, ha, ?_⟩
    split at hid
    · rwa [AppRow.update_id] at hid
    · exact hid
  · rintro ⟨a, ha, hid⟩
    refine ⟨_, List.mem_map.2 ⟨a, ha, rfl⟩, ?_⟩
    split
    · rwa [AppRow.update_id]
    · exact hid

theorem hasApp_insertApp_iff : (r.insertApp a).HasApp appId ↔ r.HasApp appId ∨ a.id = appId := by
  constructor
  · rintro ⟨b, hb, hid⟩
    rcases List.mem_append.1 hb with hb | hb
    · exact .inl ⟨b, hb, hid⟩
    · rw [List.mem_singleton.1 hb] at hid
      exact .inr hid
  · rintro (⟨b, hb, hid⟩ | hid)
    · exact ⟨b, List.mem_append_left _ hb, hid⟩
    · exact ⟨a, List.mem_append_right _ List.mem_cons_self, hid⟩

theorem not_hasApp_nextAppId : ¬ r.HasApp r.nextAppId := fun ⟨a, ha, hid⟩ =>
  Nat.lt_irrefl _ (hid ▸ r.app_lt a ha)

theorem hasApp_deleteApp : (r.deleteApp id).HasApp appId ↔ r.HasApp appId ∧ appId ≠ id := by
  constructor
  · rintro ⟨a, ha, rfl⟩
    obtain ⟨ha, hne⟩ := List.mem_filter.1 ha
    exact ⟨⟨a, ha, rfl⟩, of_decide_eq_true hne⟩
  · rintro ⟨⟨a, ha, rfl⟩, hne⟩
    exact ⟨a, List.mem_filter.2 ⟨ha, decide_eq_true hne⟩, rfl⟩

/-- Reference: `apps/apps_service.go:185 DeleteApp`. -/
theorem grants_deleteApp (h : appId ≠ id) : (r.deleteApp id).grants appId = r.grants appId := by
  rw [grants, deleteApp, List.filter_filter, grants]
  congr 1
  refine List.filter_congr fun p _ => ?_
  by_cases hp : p.appId = appId
  · simp [hp, h]
  · simp [hp]

theorem grants_eq_nil (h : ¬ r.HasApp appId) : r.grants appId = [] := by
  rw [grants, List.map_eq_nil_iff, List.filter_eq_nil_iff]
  intro p hp hid
  obtain ⟨a, ha, haid⟩ := r.references p hp
  exact h ⟨a, ha, haid.trans (of_decide_eq_true hid)⟩

end

end Registry

/-! ## The calls -/

section
variable {r r' : Registry} {app userApp : AppRow} {env : AppsEnv} {expiresAt : Option Time}
variable {budgetRenewal : String} {scopes existing removed : List String}

/-- Reference: `apps/apps_service.go:126 CreateApp`. -/
theorem createPermissions_grants {maxAmountSat : Int} (happ : r.HasApp app.id)
    (h : createPermissions app expiresAt maxAmountSat budgetRenewal scopes r = .ok r') :
    r'.apps = r.apps ∧ r'.nextAppId = r.nextAppId ∧ ∀ appId, r'.grants appId = r.grants appId ++
      if app.id = appId then scopes.map (·, ⟨expiresAt, maxAmountSat, budgetRenewal⟩) else [] := by
  induction scopes generalizing r with
  | nil =>
    obtain rfl := Except.ok.inj h
    exact ⟨rfl, rfl, fun appId => by simp⟩
  | cons scope scopes ih =>
    unfold createPermissions at h
    split at h
    · cases h
    · next r₁ hp =>
      obtain ⟨happs, hnext⟩ := Registry.apps_createPermission happ hp
      have happ₁ : r₁.HasApp app.id := by rwa [Registry.HasApp, happs]
      obtain ⟨happs', hnext', hgrants⟩ := ih happ₁ h
      refine ⟨happs'.trans happs, hnext'.trans hnext, fun appId => ?_⟩
      rw [hgrants, Registry.grants_createPermission hp, List.append_assoc]
      congr 1
      split <;> rfl

/-- The rows of a new app: one for each element of the list of scopes, all with the same terms.
Reference: `apps/apps_service.go:120 CreateApp`. -/
theorem createAppTx_grants {maxAmountSat : Nat} {app' : AppRow}
    (h : createAppTx env app maxAmountSat budgetRenewal expiresAt scopes r = .ok (app', r')) :
    r'.nextAppId = r.nextAppId + 1 ∧
    (∀ appId, r'.HasApp appId ↔ r.HasApp appId ∨ r.nextAppId = appId) ∧
    ∀ appId, r'.grants appId = r.grants appId ++ if r.nextAppId = appId then
      scopes.map (·, ⟨expiresAt, int64 maxAmountSat, budgetRenewal⟩) else [] := by
  obtain ⟨_, -, h⟩ := ok_of_bind h
  obtain ⟨r₁, hperms, h⟩ := ok_of_bind h
  obtain ⟨key, -, h⟩ := ok_of_bind h
  obtain ⟨walletPubkey, -, h⟩ := ok_of_bind h
  split at h
  · cases h
  · cases h
    obtain ⟨happs, hnext, hgrants⟩ := createPermissions_grants
      (Registry.hasApp_insertApp_iff.2 (.inr rfl)) hperms
    refine ⟨?_, fun appId => ?_, fun appId => ?_⟩
    · exact hnext.trans (Nat.max_eq_right (Nat.le_succ _))
    · rw [Registry.hasApp_updateApp, Registry.HasApp, happs]
      exact Registry.hasApp_insertApp_iff
    · rw [Registry.grants_updateApp, hgrants, Registry.grants_insertApp]

/-- Reference: `apps/apps_service.go:48 CreateApp`. -/
structure AppsService.Created (r : Registry) (maxAmountSat : Nat) (budgetRenewal : String)
    (expiresAt : Option Time) (scopes : List String) (app : AppRow) (r' : Registry) : Prop where
  id : app.id = r.nextAppId
  nextAppId : r'.nextAppId = r.nextAppId + 1
  hasApp : ∀ appId, r'.HasApp appId ↔ r.HasApp appId ∨ r.nextAppId = appId
  nonempty : scopes ≠ []
  renewal : (if budgetRenewal = "" then "never" else budgetRenewal) ∈ GetBudgetRenewals
  grants : ∀ appId, r'.grants appId = r.grants appId ++ if r.nextAppId = appId then
    scopes.map (·, ⟨expiresAt, int64 maxAmountSat,
      if budgetRenewal = "" then "never" else budgetRenewal⟩) else []

theorem AppsService.CreateApp_created {name pubkey secret : String} {maxAmountSat : Nat}
    {isolated : Bool} {metadata : Option (List (String × Json))} {app' : AppRow}
    (h : AppsService.CreateApp env name pubkey maxAmountSat budgetRenewal expiresAt scopes isolated
      metadata r = .ok ((app', secret), r')) :
    AppsService.Created r maxAmountSat budgetRenewal expiresAt scopes app' r' := by
  have hid := (AppsService.CreateApp_ok h).1
  obtain ⟨_, -, h⟩ := ok_of_bind h
  obtain ⟨_, -, h⟩ := ok_of_bind h
  obtain ⟨_, -, h⟩ := ok_of_bind h
  obtain ⟨_, hrenewal, h⟩ := ok_of_bind h
  obtain ⟨_, hscopes, h⟩ := ok_of_bind h
  obtain ⟨keys, -, h⟩ := ok_of_bind h
  obtain ⟨metadata, -, h⟩ := ok_of_bind h
  obtain ⟨⟨app, r₁⟩, htx, h⟩ := ok_of_bind h
  cases h
  obtain ⟨hnext, happs, hgrants⟩ := createAppTx_grants htx
  exact ⟨hid, hnext, happs, not_of_refuse hscopes, Decidable.not_not.1 (not_of_refuse hrenewal),
    hgrants⟩

/-- What is inserted, and what is left over. Reference: `api/api.go:307 UpdateApp`. -/
theorem addScopes_grants {maxAmountSat : Nat}
    (h : addScopes userApp expiresAt maxAmountSat budgetRenewal scopes existing r =
      .ok (removed, r')) :
    removed = existing.filter (· ∉ scopes) ∧ ∀ appId,
      r'.grants appId = r.grants appId ++ if userApp.id = appId then
      (addedScopes existing scopes).map (·, ⟨expiresAt, int64 maxAmountSat, budgetRenewal⟩)
      else [] := by
  induction scopes generalizing r existing with
  | nil =>
    cases h
    exact ⟨(List.filter_eq_self.2 fun _ _ => rfl).symm, fun appId => by simp [addedScopes]⟩
  | cons scope scopes ih =>
    unfold addScopes at h
    split at h
    · next hmem =>
      obtain ⟨hremoved, hgrants⟩ := ih h
      refine ⟨?_, ?_⟩
      · rw [hremoved, List.filter_filter]
        refine List.filter_congr fun s _ => ?_
        simp [Bool.and_comm]
      · rw [addedScopes, if_pos hmem]
        exact hgrants
    · next hmem =>
      split at h
      · cases h
      · next r₁ hp =>
        obtain ⟨hremoved, hgrants⟩ := ih h
        refine ⟨?_, fun appId => ?_⟩
        · rw [hremoved]
          refine List.filter_congr fun s hs => ?_
          have hne : s ≠ scope := fun he => hmem (he ▸ hs)
          simp [hne]
        · rw [hgrants, Registry.grants_createPermission hp, List.append_assoc, addedScopes,
            if_neg hmem]
          congr 1
          split <;> rfl

/-- Reference: `api/api.go:310 UpdateApp`. -/
theorem addScopes_apps {maxAmountSat : Nat} (happ : r.HasApp userApp.id)
    (h : addScopes userApp expiresAt maxAmountSat budgetRenewal scopes existing r =
      .ok (removed, r')) : r'.apps = r.apps ∧ r'.nextAppId = r.nextAppId := by
  induction scopes generalizing r existing with
  | nil =>
    cases h
    exact ⟨rfl, rfl⟩
  | cons scope scopes ih =>
    unfold addScopes at h
    split at h
    · exact ih happ h
    · split at h
      · cases h
      · next r₁ hp =>
        obtain ⟨happs, hnext⟩ := Registry.apps_createPermission happ hp
        have happ₁ : r₁.HasApp userApp.id := by rwa [Registry.HasApp, happs]
        obtain ⟨happs', hnext'⟩ := ih happ₁ h
        exact ⟨happs'.trans happs, hnext'.trans hnext⟩

/-- The lists of grants that an update leaves an app: those whose scope it keeps and those it adds,
all with the same terms. Reference: `api/api.go:276 UpdateApp`. -/
def updatedGrants (request : UpdateAppRequest) (t : Terms) (grants : List (String × Terms)) :
    List (String × Terms) :=
  match request.scopes with
  | none => grants.map fun g => (g.1, t)
  | some scopes => ((grants.filter (·.1 ∈ scopes)).map fun g => (g.1, t)) ++
      (addedScopes (grants.map (·.1)) scopes).map (·, t)

/-- The terms that an update writes to every row of the app: what the request carries, else what the
app's `pay_invoice` row has, else nothing. Reference: `api/api.go:242 UpdateApp`. -/
structure UpdateAppRequest.Writes (env : AppsEnv) (request : UpdateAppRequest)
    (payInvoice : Option Terms) (t : Terms) : Prop where
  expiresAt : newExpiresAt env request (payInvoice.bind (·.expiresAt)) = .ok t.expiresAt
  maxAmountSat : t.maxAmountSat =
    ((ResolveToSat request.maxAmountSat request.maxAmountMsat request.maxAmount none).getD
      ((payInvoice.map fun q => uint64OfInt q.maxAmountSat).getD 0) : Nat)
  maxAmountSat_lt : t.maxAmountSat < 2 ^ 63
  budgetRenewal : t.budgetRenewal =
    request.budgetRenewal.getD ((payInvoice.map (·.budgetRenewal)).getD "")

/-- What a successful update has done to the permission rows. Reference: `api/api.go:239
UpdateApp`. -/
inductive UpdatedGrants (env : AppsEnv) (userApp : AppRow) (request : UpdateAppRequest)
    (r r' : Registry) : Prop
  | untouched :
    request.touchesPermissions
      (ResolveToSat request.maxAmountSat request.maxAmountMsat request.maxAmount none) = false →
    (∀ appId, r'.grants appId = r.grants appId) → UpdatedGrants env userApp request r r'
  | touched {t : Terms} :
    request.touchesPermissions
      (ResolveToSat request.maxAmountSat request.maxAmountMsat request.maxAmount none) = true →
    request.Writes env (r.payInvoiceTerms userApp.id) t → request.scopes ≠ some [] →
    (∀ appId, r'.grants appId = if userApp.id = appId then
      updatedGrants request t (r.grants userApp.id) else r.grants appId) →
    UpdatedGrants env userApp request r r'

/-- An update of the app's own columns keeps the permission rows, and the ids of the apps.
Reference: `api/api.go:176 UpdateApp`. -/
structure Registry.SameGrants (r r' : Registry) : Prop where
  permissions : r'.permissions = r.permissions
  nextAppId : r'.nextAppId = r.nextAppId
  hasApp : ∀ appId, r'.HasApp appId ↔ r.HasApp appId

theorem Registry.SameGrants.refl : r.SameGrants r := ⟨rfl, rfl, fun _ => Iff.rfl⟩

theorem Registry.SameGrants.updateApp {id : Nat} {column : AppColumn} :
    r.SameGrants (r.updateApp id column) := ⟨rfl, rfl, fun _ => Registry.hasApp_updateApp⟩

theorem sameGrants_updateName {name : Option String} (h : updateName userApp name r = .ok r') :
    r.SameGrants r' := by
  unfold updateName at h
  split at h
  · cases h
    exact .refl
  · cases h
  · cases h
    split
    · exact .updateApp
    · exact .refl

theorem sameGrants_updateIsolated {isolated : Option Bool}
    (h : updateIsolated env userApp isolated r = .ok r') : r.SameGrants r' := by
  unfold updateIsolated at h
  split at h
  · cases h
    exact .refl
  · split at h
    · cases h
      exact .refl
    · obtain ⟨appStoreId, -, h⟩ := ok_of_bind h
      obtain ⟨_, -, h⟩ := ok_of_bind h
      cases h
      exact .updateApp

theorem sameGrants_updateMetadata {metadata : Option (List (String × Json))}
    (h : updateMetadata env userApp metadata r = .ok r') : r.SameGrants r' := by
  unfold updateMetadata at h
  split at h
  · cases h
    exact .refl
  · obtain ⟨text, -, h⟩ := ok_of_bind h
    cases h
    exact .updateApp

/-- The `pay_invoice` row that an update takes its defaults from. Reference: `api/api.go:254
UpdateApp`. -/
theorem payInvoiceTerms_eq {appId : Nat} :
    ((r.permissions.filter (·.appId = appId)).find? (·.scope = "pay_invoice")).map (·.terms) =
      r.payInvoiceTerms appId := by
  rw [Registry.payInvoiceTerms, Registry.grants, List.find?_map, Option.map_map]
  rfl

/-- The scopes that are added are among those of the request. Reference: `api/api.go:307
UpdateApp`. -/
theorem mem_of_mem_addedScopes {scope : String} (h : scope ∈ addedScopes existing scopes) :
    scope ∈ scopes := by
  induction scopes generalizing existing with
  | nil => cases h
  | cons s scopes ih =>
    unfold addedScopes at h
    split at h
    · exact List.mem_cons_of_mem _ (ih h)
    · rcases List.mem_cons.1 h with rfl | h
      · exact List.mem_cons_self
      · exact List.mem_cons_of_mem _ (ih h)

/-- Of the existing rows those of the request stay, and what is added is not removed. Reference:
`api/api.go:276 UpdateApp`, `:291`. -/
theorem updateScopes_grants {maxAmountSat appId : Nat} (hlt : maxAmountSat < 2 ^ 63)
    (h : updateScopes userApp expiresAt maxAmountSat budgetRenewal
      ((r.permissions.filter (·.appId = userApp.id)).map (·.scope)) scopes
      (r.updatePermissions userApp.id expiresAt maxAmountSat budgetRenewal) = .ok r') :
    r'.grants appId = if userApp.id = appId then
      ((r.grants userApp.id).filter (·.1 ∈ scopes)).map
          (fun g => (g.1, ⟨expiresAt, maxAmountSat, budgetRenewal⟩)) ++
        (addedScopes ((r.grants userApp.id).map (·.1)) scopes).map
          (·, ⟨expiresAt, maxAmountSat, budgetRenewal⟩)
      else r.grants appId := by
  obtain ⟨_, -, h⟩ := ok_of_bind h
  obtain ⟨_, -, h⟩ := ok_of_bind h
  obtain ⟨⟨removed, r₁⟩, hadd, h⟩ := ok_of_bind h
  cases h
  obtain ⟨rfl, hgrants⟩ := addScopes_grants hadd
  have hexisting : (r.permissions.filter (·.appId = userApp.id)).map (·.scope) =
      (r.grants userApp.id).map (·.1) := by
    rw [Registry.grants, List.map_map]
    rfl
  rw [Registry.grants_foldl_delete, hgrants, Registry.grants_updatePermissions, hexisting,
    int64_of_lt hlt]
  split
  · next hid =>
    rw [hid, List.filter_append]
    congr 1
    · rw [List.filter_map]
      congr 1
      refine List.filter_congr fun g hg => ?_
      have hmem : g.1 ∈ (r.grants appId).map (·.1) := List.mem_map_of_mem hg
      simp only [Function.comp_apply, List.mem_filter, hmem, true_and, decide_eq_true_eq,
        Decidable.not_not]
    · refine List.filter_eq_self.2 fun g hg => ?_
      obtain ⟨scope, hscope, rfl⟩ := List.mem_map.1 hg
      have hmem := mem_of_mem_addedScopes hscope
      simp [hmem]
  · rw [List.append_nil]

/-- Reference: `api/api.go:239 UpdateApp`. -/
theorem updatePermissions_grants {request : UpdateAppRequest}
    (h : updatePermissions env userApp request r = .ok r') :
    UpdatedGrants env userApp request r r' := by
  simp only [updatePermissions] at h
  split at h
  · next huntouched =>
    cases h
    exact .untouched huntouched fun _ => rfl
  · next htouched =>
    obtain ⟨expiresAt, hexpires, h⟩ := ok_of_bind h
    obtain ⟨_, hhigh, h⟩ := ok_of_bind h
    have hlt := Nat.not_le.1 (not_of_refuse hhigh)
    have hdefault := @payInvoiceTerms_eq r userApp.id
    generalize (r.permissions.filter (·.appId = userApp.id)).find? (·.scope = "pay_invoice") =
      payInvoice at *
    refine .touched (t := ⟨expiresAt,
      ((ResolveToSat request.maxAmountSat request.maxAmountMsat request.maxAmount none).getD
        ((payInvoice.map fun p => uint64OfInt p.maxAmountSat).getD 0) : Nat),
      request.budgetRenewal.getD ((payInvoice.map (·.budgetRenewal)).getD "")⟩)
      (Bool.of_not_eq_false htouched) ⟨?_, ?_, ?_, ?_⟩ ?_ ?_
    · rw [← hdefault, ← hexpires]
      cases payInvoice <;> rfl
    · rw [← hdefault]
      cases payInvoice <;> rfl
    · simp only
      omega
    · rw [← hdefault]
      cases payInvoice <;> rfl
    · rintro hempty
      rw [hempty] at h
      obtain ⟨_, hrefuse, -⟩ := ok_of_bind h
      exact not_of_refuse hrefuse rfl
    · intro appId
      unfold updatedGrants
      cases hscopes : request.scopes with
      | none =>
        rw [hscopes] at h
        cases h
        rw [Registry.grants_updatePermissions]
        split
        · next hid => rw [hid]
        · rfl
      | some scopes =>
        rw [hscopes] at h
        exact updateScopes_grants hlt h

/-- Reference: `api/api.go:171 UpdateApp`. -/
theorem Api.UpdateApp_grants {request : UpdateAppRequest}
    (h : Api.UpdateApp env userApp request r = .ok r') :
    UpdatedGrants env userApp request r r' := by
  obtain ⟨r₁, hname, h⟩ := ok_of_bind h
  obtain ⟨r₂, hisolated, h⟩ := ok_of_bind h
  obtain ⟨r₃, hmetadata, h⟩ := ok_of_bind h
  obtain ⟨r₄, hpermissions, h⟩ := ok_of_bind h
  split at h
  · cases h
  · cases h
    have hsame : r₃.permissions = r.permissions :=
      (sameGrants_updateMetadata hmetadata).permissions.trans
        ((sameGrants_updateIsolated hisolated).permissions.trans
          (sameGrants_updateName hname).permissions)
    have hgrants : ∀ appId, r₃.grants appId = r.grants appId := fun appId => by
      rw [Registry.grants, hsame, Registry.grants]
    have hpay : ∀ appId, r₃.payInvoiceTerms appId = r.payInvoiceTerms appId := fun appId => by
      rw [Registry.payInvoiceTerms, hgrants, Registry.payInvoiceTerms]
    cases updatePermissions_grants hpermissions with
    | untouched huntouched hrest =>
      exact .untouched huntouched fun appId => (hrest appId).trans (hgrants appId)
    | touched htouched hwrites hscopes hrest =>
      refine .touched htouched (hpay _ ▸ hwrites) hscopes fun appId => ?_
      rw [hrest, hgrants, hgrants]

theorem foldl_delete_apps {id : Nat} :
    (removed.foldl (fun r scope => r.deletePermissions id scope) r).apps = r.apps ∧
      (removed.foldl (fun r scope => r.deletePermissions id scope) r).nextAppId = r.nextAppId := by
  induction removed generalizing r with
  | nil => exact ⟨rfl, rfl⟩
  | cons scope removed ih => exact ih

/-- Reference: `api/api.go:239 UpdateApp`. -/
theorem updatePermissions_apps {request : UpdateAppRequest} (happ : r.HasApp userApp.id)
    (h : updatePermissions env userApp request r = .ok r') :
    r'.apps = r.apps ∧ r'.nextAppId = r.nextAppId := by
  simp only [updatePermissions] at h
  split at h
  · cases h
    exact ⟨rfl, rfl⟩
  · obtain ⟨expiresAt, -, h⟩ := ok_of_bind h
    obtain ⟨_, -, h⟩ := ok_of_bind h
    split at h
    · cases h
      exact ⟨rfl, rfl⟩
    · obtain ⟨_, -, h⟩ := ok_of_bind h
      obtain ⟨_, -, h⟩ := ok_of_bind h
      obtain ⟨⟨removed, r₁⟩, hadd, h⟩ := ok_of_bind h
      cases h
      obtain ⟨happs, hnext⟩ := addScopes_apps (by exact happ) hadd
      exact ⟨foldl_delete_apps.1.trans happs, foldl_delete_apps.2.trans hnext⟩

/-- An update of an app that is there inserts and deletes no app. Reference: `api/api.go:171
UpdateApp`. -/
theorem Api.UpdateApp_apps {request : UpdateAppRequest} (happ : r.HasApp userApp.id)
    (h : Api.UpdateApp env userApp request r = .ok r') :
    r'.nextAppId = r.nextAppId ∧ ∀ appId, r'.HasApp appId ↔ r.HasApp appId := by
  obtain ⟨r₁, hname, h⟩ := ok_of_bind h
  obtain ⟨r₂, hisolated, h⟩ := ok_of_bind h
  obtain ⟨r₃, hmetadata, h⟩ := ok_of_bind h
  obtain ⟨r₄, hpermissions, h⟩ := ok_of_bind h
  split at h
  · cases h
  · cases h
    have h₁ := sameGrants_updateName hname
    have h₂ := sameGrants_updateIsolated hisolated
    have h₃ := sameGrants_updateMetadata hmetadata
    have hnext : r₃.nextAppId = r.nextAppId :=
      h₃.nextAppId.trans (h₂.nextAppId.trans h₁.nextAppId)
    have hsame : ∀ appId, r₃.HasApp appId ↔ r.HasApp appId := fun appId =>
      (h₃.hasApp appId).trans ((h₂.hasApp appId).trans (h₁.hasApp appId))
    obtain ⟨happs, hnext'⟩ := updatePermissions_apps ((hsame _).2 happ) hpermissions
    refine ⟨hnext'.trans hnext, fun appId => ?_⟩
    rw [Registry.HasApp, happs]
    exact hsame appId

end

/-! ## The scopes of a connection -/

section
variable {env : AppsEnv} {params : CreateConnectionParams} {scopes scopes' methods : List String}
variable {scope method : String}

/-- Reference: `nip47/permissions/permissions.go:138 RequestMethodsToScopes`. -/
theorem mem_scopesOfMethods (h : scopesOfMethods methods scopes = .ok scopes') :
    scope ∈ scopes' ↔ scope ∈ scopes ∨
      scope ≠ "" ∧ ∃ method ∈ methods, RequestMethodToScope method = .ok scope := by
  induction methods generalizing scopes with
  | nil =>
    obtain rfl := Except.ok.inj h
    simp
  | cons method methods ih =>
    unfold scopesOfMethods at h
    split at h
    · cases h
    · next s hs =>
      have hnew : scope ∈ (if s ≠ "" ∧ s ∉ scopes then scopes ++ [s] else scopes) ↔
          scope ∈ scopes ∨ scope ≠ "" ∧ scope = s := by
        split
        · next hs => rw [List.mem_append, List.mem_singleton]; grind
        · next hs => grind
      have hmethods : (∃ m ∈ method :: methods, RequestMethodToScope m = .ok scope) ↔
          scope = s ∨ ∃ m ∈ methods, RequestMethodToScope m = .ok scope := by
        simp only [List.mem_cons, exists_eq_or_imp, hs, Except.ok.injEq, eq_comm (a := s)]
      rw [ih h, hnew, hmethods, and_or_left, or_assoc]

/-- No scope is repeated. Reference: `nip47/permissions/permissions.go:146
RequestMethodsToScopes`. -/
theorem nodup_scopesOfMethods (hn : scopes.Nodup)
    (h : scopesOfMethods methods scopes = .ok scopes') :
    scopes'.Nodup := by
  induction methods generalizing scopes with
  | nil =>
    obtain rfl := Except.ok.inj h
    exact hn
  | cons method methods ih =>
    unfold scopesOfMethods at h
    split at h
    · cases h
    · next s hs =>
      refine ih ?_ h
      split
      · next hnew =>
        refine List.nodup_append.2 ⟨hn, List.nodup_cons.2 ⟨List.not_mem_nil, .nil⟩, ?_⟩
        rintro a ha b hb rfl
        rw [List.mem_singleton.1 hb] at ha
        exact hnew.2 ha
      · exact hn

/-- A method has a scope of the list, or none; notifications come with no method. Reference:
`nip47/permissions/permissions.go:153 RequestMethodToScope`. -/
theorem RequestMethodToScope_mem (h : RequestMethodToScope method = .ok scope) :
    scope = "" ∨ scope ∈ AllScopes ∧ scope ≠ "notifications" := by
  unfold RequestMethodToScope at h
  split at h
  all_goals
    cases h
    try decide

end

end AlbyHub
