import AlbyHub.Apps.Retained
import AlbyHub.Interaction.Machine

/-!
# The rows that belong to a list of scopes

No index of the table keeps two rows of one scope apart. The calls that write the rows are run with
a record of the scopes that were last requested for each app with success. The rows of every app
match them (`RowsMatch`) all along a run exactly where its `CreateApp` and `UpdateApp` calls meet a
condition on their scopes and their budget renewal (`permission_rows_iff`); the scopes that
`create_connection` computes from the methods always meet it.
-/

namespace AlbyHub

open Go Interaction

/-- The rows of an app match a list of scopes: one row for each of them and no others, of known
scopes and budget renewals, all with the same terms. Reference: `apps/apps_service.go:126
CreateApp`, `nip47/permissions/permissions.go:38 HasPermission`. -/
structure RowsMatch (grants : List (String × Terms)) (scopes : List String) : Prop where
  nodup : (grants.map (·.1)).Nodup
  mem : ∀ scope, scope ∈ grants.map (·.1) ↔ scope ∈ scopes
  known : ∀ g ∈ grants, g.1 ∈ AllScopes
  renewal : ∀ g ∈ grants, g.2.budgetRenewal ∈ GetBudgetRenewals
  uniform : ∀ g ∈ grants, ∀ g' ∈ grants, g.2 = g'.2

/-- The tables, and the scopes that were last requested for each app with success. Reference:
none. -/
structure AppsState where
  registry : Registry
  requested : Nat → Option (List String)

/-- A new hub. Reference: none. -/
def AppsState.initial : AppsState := ⟨.empty, fun _ => none⟩

/-- The scopes that the call requests for an app, where it succeeds. Reference: `api/api.go:78
CreateApp`, `:171 UpdateApp`, `nip47/controllers/create_connection_controller.go:47
HandleCreateConnectionEvent`. -/
def AppsOp.requests (r : Registry) : AppsOp → Option (Nat × List String)
  | .createApp env request =>
    match (Api.CreateApp env request r).1 with
    | .ok response => some (response.id, request.scopes)
    | .error _ => none
  | .updateApp env userApp request =>
    match Api.UpdateApp env userApp request r with
    | .ok _ => request.scopes.map fun scopes => (userApp.id, scopes)
    | .error _ => none
  | .createConnection env params =>
    match connectionScopes env params, HandleCreateConnectionEvent env params r with
    | .ok scopes, .ok _ => some (r.nextAppId, scopes)
    | _, _ => none
  | .deleteApp _ _ => none

/-- Reference: none. -/
def record (requested : Nat → Option (List String)) :
    Option (Nat × List String) → Nat → Option (List String)
  | none => requested
  | some (appId, scopes) => fun id => if id = appId then some scopes else requested id

/-- An update is one of an app that is there. Reference: `http/http_service.go:1163
appsUpdateHandler`. -/
def AppsOp.Possible (r : Registry) : AppsOp → Prop
  | .updateApp _ userApp _ => r.HasApp userApp.id
  | _ => True

instance (r : Registry) (op : AppsOp) : Decidable (op.Possible r) :=
  match op with
  | .updateApp _ userApp _ => inferInstanceAs (Decidable (r.HasApp userApp.id))
  | .createApp _ _ | .createConnection _ _ | .deleteApp _ _ => isTrue trivial

/-- One call. Reference: none. -/
def AppsState.step (s : AppsState) (op : AppsOp) : Option AppsState :=
  if op.Possible s.registry then
    some ⟨op.step s.registry, record s.requested (op.requests s.registry)⟩
  else none

/-- The rows of every app match the scopes that were last requested for it with success. Reference:
none. -/
def AppsState.WellFormed (s : AppsState) : Prop :=
  ∀ appId, s.registry.HasApp appId → ∃ scopes, s.requested appId = some scopes ∧
    RowsMatch (s.registry.grants appId) scopes

/-- The condition on a call: a `CreateApp` that commits has no repeated scope and does not fail
afterwards; an `UpdateApp` that writes permissions has no repeated and no unknown scope, and a known
budget renewal, or none for an app that may pay. Reference: `apps/apps_service.go:126 CreateApp`,
`api/api.go:239 UpdateApp`. -/
def AppsOp.KeepsRows (s : AppsState) : AppsOp → Prop
  | .createApp env request => ∀ expiresAt created,
    Api.checkCreateApp env request = .ok expiresAt →
    AppsService.CreateApp env request.name request.pubkey
      ((ResolveToSat request.maxAmountSat request.maxAmountMsat request.maxAmount none).getD 0)
      request.budgetRenewal expiresAt request.scopes request.isolated request.metadata s.registry =
        .ok created →
    request.scopes.Nodup ∧ ∃ lud16, env.lightningAddress = .ok lud16
  | .updateApp env userApp request => ∀ r',
    Api.UpdateApp env userApp request s.registry = .ok r' →
    request.touchesPermissions request.maximum = true →
    (∀ scopes, request.scopes = some scopes → scopes.Nodup ∧ ∀ scope ∈ scopes, scope ∈ AllScopes) ∧
    (∀ renewal, request.budgetRenewal = some renewal → renewal ∈ GetBudgetRenewals) ∧
    (request.budgetRenewal = none → s.registry.HasScope userApp.id "pay_invoice")
  | _ => True

section
variable {existing scopes : List String} {scope : String} {t : Terms}
variable {grants : List (String × Terms)} {request : UpdateAppRequest}

/-! ## The scopes of an update -/

/-- Of a scope that is there one occurrence is not inserted. Reference: `api/api.go:307
UpdateApp`. -/
theorem count_addedScopes : (addedScopes existing scopes).count scope =
    scopes.count scope - if scope ∈ existing then 1 else 0 := by
  induction scopes generalizing existing with
  | nil => simp [addedScopes]
  | cons s scopes ih =>
    unfold addedScopes
    by_cases hs : scope = s
    · subst hs
      split
      · next hmem => simp [ih]
      · next hnew => simp [ih, hnew]
    · have hcount : (s :: scopes).count scope = scopes.count scope :=
        List.count_cons_of_ne (Ne.symm hs)
      split
      · next hmem => simp [ih, hcount, hs]
      · next hnew => rw [List.count_cons_of_ne (Ne.symm hs), ih, hcount]

/-- The scopes of the rows that stay and of those that are inserted are those of the request, with
its repetitions. Reference: `api/api.go:291 UpdateApp`. -/
theorem updatedScopes_perm (hn : existing.Nodup) :
    (existing.filter (· ∈ scopes) ++ addedScopes existing scopes).Perm scopes := by
  refine List.perm_iff_count.2 fun scope => ?_
  rw [List.count_append, count_addedScopes]
  by_cases hrequested : scope ∈ scopes
  · have hpos := List.count_pos_iff.2 hrequested
    rw [List.count_filter (by simpa using hrequested), hn.count]
    split <;> omega
  · have hzero := List.count_eq_zero_of_not_mem hrequested
    have hkept : scope ∉ existing.filter (· ∈ scopes) := fun hmem =>
      hrequested (of_decide_eq_true (List.mem_filter.1 hmem).2)
    rw [List.count_eq_zero_of_not_mem hkept, hzero]
    simp

/-- Reference: `api/api.go:291 UpdateApp`. -/
theorem updatedGrants_perm (hn : (grants.map (·.1)).Nodup) :
    ((updatedGrants request t grants).map (·.1)).Perm
      (request.scopes.getD (grants.map (·.1))) := by
  unfold updatedGrants
  cases request.scopes with
  | none =>
    rw [List.map_map]
    exact .refl _
  | some scopes =>
    have hkept : ((grants.filter (·.1 ∈ scopes)).map fun g => (g.1, t)).map (·.1) =
        (grants.map (·.1)).filter (· ∈ scopes) := by
      rw [List.map_map, List.filter_map]
      rfl
    have hadded : ∀ added : List String, (added.map (·, t)).map (·.1) = added := fun added => by
      rw [List.map_map]
      exact List.map_id added
    rw [List.map_append, hkept, hadded]
    exact updatedScopes_perm hn

/-! ## The rows after a call -/

/-- The rows of a new app. Reference: `apps/apps_service.go:126 CreateApp`. -/
theorem rowsMatch_created_iff (ht : t.budgetRenewal ∈ GetBudgetRenewals) :
    RowsMatch (scopes.map (·, t)) scopes ↔ scopes.Nodup ∧ ∀ scope ∈ scopes, scope ∈ AllScopes := by
  have hscopes : (scopes.map (·, t)).map (·.1) = scopes := by
    rw [List.map_map]
    exact List.map_id scopes
  constructor
  · intro h
    exact ⟨hscopes ▸ h.nodup, fun scope hmem => h.known (scope, t) (List.mem_map_of_mem hmem)⟩
  · rintro ⟨hn, hknown⟩
    refine ⟨hscopes.symm ▸ hn, fun scope => by rw [hscopes], fun g hg => ?_, fun g hg => ?_,
      fun g hg g' hg' => ?_⟩
    · obtain ⟨scope, hmem, rfl⟩ := List.mem_map.1 hg
      exact hknown scope hmem
    · obtain ⟨scope, -, rfl⟩ := List.mem_map.1 hg
      exact ht
    · obtain ⟨scope, -, rfl⟩ := List.mem_map.1 hg
      obtain ⟨scope', -, rfl⟩ := List.mem_map.1 hg'
      rfl

/-- The budget renewal that an update writes is a known one. Reference: `api/api.go:260
UpdateApp`. -/
theorem renewal_known_iff {payInvoice : Option Terms}
    (hrenewal : t.budgetRenewal = request.budgetRenewal.getD
      ((payInvoice.map (·.budgetRenewal)).getD ""))
    (hold : ∀ q, payInvoice = some q → q.budgetRenewal ∈ GetBudgetRenewals) :
    t.budgetRenewal ∈ GetBudgetRenewals ↔
      (∀ renewal, request.budgetRenewal = some renewal → renewal ∈ GetBudgetRenewals) ∧
      (request.budgetRenewal = none → payInvoice.isSome) := by
  rw [hrenewal]
  cases request.budgetRenewal with
  | some renewal => simp
  | none =>
    cases payInvoice with
    | some q => simpa using hold q rfl
    | none => simp [GetBudgetRenewals]

theorem payInvoice_isSome {r : Registry} {appId : Nat} :
    (r.payInvoiceTerms appId).isSome ↔ r.HasScope appId "pay_invoice" := by
  rw [Registry.payInvoiceTerms, Option.isSome_map, List.find?_isSome]
  constructor
  · rintro ⟨g, hg, hscope⟩
    obtain ⟨p, hp, hid, rfl⟩ := Registry.mem_grants.1 hg
    exact ⟨p, hp, hid, of_decide_eq_true hscope⟩
  · rintro ⟨p, hp, hid, hscope⟩
    exact ⟨(p.scope, p.terms), Registry.mem_grants.2 ⟨p, hp, hid, rfl⟩, decide_eq_true hscope⟩

/-- The rows of an updated app. Reference: `api/api.go:239 UpdateApp`. -/
theorem rowsMatch_updated_iff (h : RowsMatch grants scopes) (hne : scopes ≠ [])
    (hsome : request.scopes ≠ some []) :
    RowsMatch (updatedGrants request t grants) (request.scopes.getD scopes) ↔
      (∀ scopes, request.scopes = some scopes →
        scopes.Nodup ∧ ∀ scope ∈ scopes, scope ∈ AllScopes) ∧
      t.budgetRenewal ∈ GetBudgetRenewals := by
  have hperm := @updatedGrants_perm t grants request h.nodup
  have hmem : ∀ scope, scope ∈ (updatedGrants request t grants).map (·.1) ↔
      scope ∈ request.scopes.getD scopes := by
    intro scope
    rw [hperm.mem_iff]
    cases request.scopes with
    | none => exact h.mem scope
    | some scopes => rfl
  have hterms : ∀ g ∈ updatedGrants request t grants, g.2 = t := fun g hg =>
    terms_of_mem_updatedGrants hg
  constructor
  · intro hnew
    constructor
    · intro scopes' hscopes
      rw [hscopes, Option.getD_some] at hperm
      refine ⟨hperm.nodup_iff.1 hnew.nodup, fun scope hs => ?_⟩
      obtain ⟨g, hg, rfl⟩ := List.mem_map.1 (hperm.mem_iff.2 hs)
      exact hnew.known g hg
    · -- one row is there: the scopes are not empty
      have hcons : ∃ scope, scope ∈ request.scopes.getD scopes := by
        refine List.exists_mem_of_ne_nil _ ?_
        cases hscopes : request.scopes with
        | none => exact hne
        | some scopes => exact fun hnil => hsome (hnil ▸ hscopes)
      obtain ⟨scope, hs⟩ := hcons
      obtain ⟨g, hg, -⟩ := List.mem_map.1 ((hmem scope).2 hs)
      exact hterms g hg ▸ hnew.renewal g hg
  · rintro ⟨hscopes, hrenewal⟩
    refine ⟨?_, hmem, fun g hg => ?_, fun g hg => ?_, fun g hg g' hg' => ?_⟩
    · rw [hperm.nodup_iff]
      cases hs : request.scopes with
      | none => exact h.nodup
      | some scopes => exact (hscopes scopes hs).1
    · have hg := hperm.mem_iff.1 (List.mem_map_of_mem hg)
      cases hs : request.scopes with
      | none =>
        rw [hs] at hg
        obtain ⟨g', hg', he⟩ := List.mem_map.1 hg
        exact he ▸ h.known g' hg'
      | some scopes =>
        rw [hs] at hg
        exact (hscopes scopes hs).2 g.1 hg
    · rw [hterms g hg]
      exact hrenewal
    · rw [hterms g hg, hterms g' hg']

end

/-! ## One call -/

/-- What is recorded belongs to apps that have been created. Reference: `apps/apps_service.go:76
CreateApp`, `api/api.go:293 UpdateApp`. -/
structure AppsState.Tracked (s : AppsState) : Prop where
  nonempty : ∀ appId scopes, s.requested appId = some scopes → scopes ≠ []
  lt : ∀ appId scopes, s.requested appId = some scopes → appId < s.registry.nextAppId

section
variable {s s' : AppsState} {r' : Registry} {env : AppsEnv} {op : AppsOp} {scopes : List String}
variable {maxAmountSat : Nat} {budgetRenewal : String} {expiresAt : Option Time} {app : AppRow}

theorem tracked_initial : AppsState.initial.Tracked := ⟨nofun, nofun⟩

theorem wellFormed_initial : AppsState.initial.WellFormed := fun _ ⟨_, ha, _⟩ => nomatch ha

/-- Nothing is recorded of an app that is to be created. Reference: `AUTOINCREMENT`. -/
theorem AppsState.Tracked.requested_nextAppId (h : s.Tracked) :
    s.requested s.registry.nextAppId = none :=
  Option.eq_none_iff_forall_ne_some.2 fun scopes hs => Nat.lt_irrefl _ (h.lt _ scopes hs)

theorem tracked_created (ht : s.Tracked)
    (h : AppsService.Created s.registry maxAmountSat budgetRenewal expiresAt scopes app r') :
    AppsState.Tracked ⟨r', record s.requested (some (s.registry.nextAppId, scopes))⟩ := by
  refine ⟨fun appId scopes' hs => ?_, fun appId scopes' hs => ?_⟩
  · simp only [record] at hs
    split at hs
    · cases hs
      exact h.nonempty
    · exact ht.nonempty _ _ hs
  · simp only [record] at hs
    rw [h.nextAppId]
    split at hs
    · omega
    · exact Nat.lt_succ_of_lt (ht.lt _ _ hs)

/-- The rows after the creation of an app, with its scopes on record. Reference:
`apps/apps_service.go:48 CreateApp`. -/
theorem wellFormed_created_iff (hw : s.WellFormed)
    (h : AppsService.Created s.registry maxAmountSat budgetRenewal expiresAt scopes app r') :
    AppsState.WellFormed ⟨r', record s.requested (some (s.registry.nextAppId, scopes))⟩ ↔
      scopes.Nodup ∧ ∀ scope ∈ scopes, scope ∈ AllScopes := by
  have hnew := h.grants s.registry.nextAppId
  rw [if_pos rfl, Registry.grants_eq_nil Registry.not_hasApp_nextAppId, List.nil_append] at hnew
  have hmatch := @rowsMatch_created_iff scopes ⟨expiresAt, int64 maxAmountSat,
    if budgetRenewal = "" then "never" else budgetRenewal⟩ h.renewal
  constructor
  · intro hall
    obtain ⟨scopes', hs, hrows⟩ := hall s.registry.nextAppId ((h.hasApp _).2 (.inr rfl))
    simp only [record, if_pos] at hs
    cases hs
    rw [hnew] at hrows
    exact hmatch.1 hrows
  · intro hscopes appId happ
    by_cases hid : appId = s.registry.nextAppId
    · refine ⟨scopes, if_pos hid, ?_⟩
      rw [hid, hnew]
      exact hmatch.2 hscopes
    · obtain ⟨scopes', hs, hrows⟩ := hw appId (((h.hasApp _).1 happ).resolve_right (Ne.symm hid))
      refine ⟨scopes', (if_neg hid).trans hs, ?_⟩
      rwa [h.grants, if_neg (Ne.symm hid), List.append_nil]

/-- An app that is created by a call that fails has no scopes on record. Reference: `api/api.go:121
CreateApp`. -/
theorem not_wellFormed_unreported (ht : s.Tracked)
    (h : AppsService.Created s.registry maxAmountSat budgetRenewal expiresAt scopes app r') :
    ¬ AppsState.WellFormed ⟨r', s.requested⟩ := by
  intro hall
  obtain ⟨scopes', hs, -⟩ := hall s.registry.nextAppId ((h.hasApp _).2 (.inr rfl))
  rw [ht.requested_nextAppId] at hs
  cases hs

/-- The scopes of a connection are known and not repeated. Reference:
`nip47/permissions/permissions.go:138 RequestMethodsToScopes`. -/
theorem connectionScopes_known {params : CreateConnectionParams}
    (h : connectionScopes env params = .ok scopes) :
    scopes.Nodup ∧ ∀ scope ∈ scopes, scope ∈ AllScopes := by
  obtain ⟨_, -, h⟩ := ok_of_bind h
  obtain ⟨_, -, h⟩ := ok_of_bind h
  obtain ⟨_, -, h⟩ := ok_of_bind h
  obtain ⟨_, -, h⟩ := ok_of_bind h
  obtain ⟨methodScopes, hmethods, h⟩ := ok_of_bind h
  obtain ⟨_, -, h⟩ := ok_of_bind h
  have hnodup := nodup_scopesOfMethods .nil (ok_of_mapError hmethods)
  have hmem : ∀ scope ∈ methodScopes, scope ∈ AllScopes ∧ scope ≠ "notifications" := by
    intro scope hs
    rcases (mem_scopesOfMethods (ok_of_mapError hmethods)).1 hs with hs | ⟨hne, method, -, hs⟩
    · cases hs
    · exact (RequestMethodToScope_mem hs).resolve_left hne
  obtain rfl := Except.ok.inj h
  split
  · exact ⟨hnodup, fun scope hs => (hmem scope hs).1⟩
  · refine ⟨List.nodup_append.2 ⟨hnodup, List.nodup_cons.2 ⟨List.not_mem_nil, .nil⟩, ?_⟩,
      fun scope hs => ?_⟩
    · rintro scope hs _ hlast rfl
      exact (hmem scope hs).2 (List.mem_singleton.1 hlast)
    · rcases List.mem_append.1 hs with hs | hs
      · exact (hmem scope hs).1
      · rw [List.mem_singleton.1 hs]
        decide

/-- Reference: `api/api.go:102 CreateApp`. -/
theorem checkCreateApp_known {request : CreateAppRequest}
    (h : Api.checkCreateApp env request = .ok expiresAt) :
    ∀ scope ∈ request.scopes, scope ∈ AllScopes := by
  obtain ⟨_, -, h⟩ := ok_of_bind h
  obtain ⟨_, -, h⟩ := ok_of_bind h
  obtain ⟨_, -, h⟩ := ok_of_bind h
  split at h
  · cases h
  · next hnone =>
    intro scope hs
    have hfound := List.find?_eq_none.1 hnone scope hs
    exact Decidable.not_not.1 fun hunknown => hfound (decide_eq_true hunknown)

/-- What the API's `CreateApp` does: nothing, or it creates the app, with or without a response.
Reference: `api/api.go:78 CreateApp`. -/
inductive CreateAppRun (env : AppsEnv) (request : CreateAppRequest) (r : Registry) : Prop
  | failed {e : String} : Api.CreateApp env request r = (.error e, r) →
    (∀ expiresAt created, Api.checkCreateApp env request = .ok expiresAt →
      AppsService.CreateApp env request.name request.pubkey
        ((ResolveToSat request.maxAmountSat request.maxAmountMsat request.maxAmount none).getD 0)
        request.budgetRenewal expiresAt request.scopes request.isolated request.metadata r ≠
          .ok created) → CreateAppRun env request r
  | reported {expiresAt : Option Time} {app : AppRow} {secret lud16 : String} {r' : Registry}
    {response : CreateAppResponse} :
    Api.CreateApp env request r = (.ok response, r') → response.id = app.id →
    Api.checkCreateApp env request = .ok expiresAt → env.lightningAddress = .ok lud16 →
    AppsService.CreateApp env request.name request.pubkey
      ((ResolveToSat request.maxAmountSat request.maxAmountMsat request.maxAmount none).getD 0)
      request.budgetRenewal expiresAt request.scopes request.isolated request.metadata r =
        .ok ((app, secret), r') → CreateAppRun env request r
  | unreported {expiresAt : Option Time} {app : AppRow} {secret e : String} {r' : Registry} :
    Api.CreateApp env request r = (.error e, r') →
    Api.checkCreateApp env request = .ok expiresAt → env.lightningAddress = .error e →
    AppsService.CreateApp env request.name request.pubkey
      ((ResolveToSat request.maxAmountSat request.maxAmountMsat request.maxAmount none).getD 0)
      request.budgetRenewal expiresAt request.scopes request.isolated request.metadata r =
        .ok ((app, secret), r') → CreateAppRun env request r

theorem Api.CreateApp_run (env : AppsEnv) (request : CreateAppRequest) (r : Registry) :
    CreateAppRun env request r := by
  cases hcreated : Api.checkCreateApp env request >>= fun expiresAt =>
      AppsService.CreateApp env request.name request.pubkey
        ((ResolveToSat request.maxAmountSat request.maxAmountMsat request.maxAmount none).getD 0)
        request.budgetRenewal expiresAt request.scopes request.isolated request.metadata r with
  | error e =>
    refine .failed (e := e) (by simp only [Api.CreateApp, hcreated]) ?_
    intro expiresAt created hcheck hcreate
    rw [hcheck] at hcreated
    cases hcreate.symm.trans hcreated
  | ok created =>
    obtain ⟨⟨app, secret⟩, r'⟩ := created
    obtain ⟨expiresAt, hcheck, hcreate⟩ := ok_of_bind hcreated
    cases hlud16 : env.lightningAddress with
    | error e =>
      have hrun : Api.CreateApp env request r = (.error e, r') := by
        simp only [Api.CreateApp, hcreated, hlud16]
      exact .unreported hrun hcheck hlud16 hcreate
    | ok lud16 =>
      have hrun : ∃ response, Api.CreateApp env request r = (.ok response, r') ∧
          response.id = app.id := by
        simp only [Api.CreateApp, hcreated, hlud16]
        exact ⟨_, rfl, rfl⟩
      obtain ⟨response, hrun, hid⟩ := hrun
      exact .reported hrun hid hcheck hlud16 hcreate

/-- A `CreateApp` call. Reference: `api/api.go:78 CreateApp`. -/
theorem wellFormed_createApp_iff {request : CreateAppRequest} (ht : s.Tracked)
    (hw : s.WellFormed) :
    AppsState.WellFormed ⟨(AppsOp.createApp env request).step s.registry,
        record s.requested ((AppsOp.createApp env request).requests s.registry)⟩ ↔
      (AppsOp.createApp env request).KeepsRows s := by
  simp only [AppsOp.step, AppsOp.requests, AppsOp.KeepsRows]
  cases Api.CreateApp_run env request s.registry with
  | failed hrun hnone =>
    rw [hrun]
    exact ⟨fun _ expiresAt created hcheck hcreate => absurd hcreate (hnone _ _ hcheck),
      fun _ => hw⟩
  | reported hrun hid hcheck hlud16 hcreate =>
    have hcreated := AppsService.CreateApp_created hcreate
    rw [hrun]
    simp only [hid, hcreated.id]
    rw [wellFormed_created_iff hw hcreated]
    constructor
    · rintro ⟨hn, -⟩ _ _ _ _
      exact ⟨hn, _, hlud16⟩
    · intro hkeeps
      exact ⟨(hkeeps _ _ hcheck hcreate).1, checkCreateApp_known hcheck⟩
  | unreported hrun hcheck hlud16 hcreate =>
    rw [hrun]
    have hnot := not_wellFormed_unreported ht (AppsService.CreateApp_created hcreate)
    refine ⟨fun h => absurd h hnot, fun hkeeps => ?_⟩
    obtain ⟨-, lud16, hok⟩ := hkeeps _ _ hcheck hcreate
    cases hlud16.symm.trans hok

/-- An `UpdateApp` call. Reference: `api/api.go:171 UpdateApp`. -/
theorem wellFormed_updateApp_iff {userApp : AppRow} {request : UpdateAppRequest} (ht : s.Tracked)
    (hw : s.WellFormed) (happ : s.registry.HasApp userApp.id) :
    AppsState.WellFormed ⟨(AppsOp.updateApp env userApp request).step s.registry,
        record s.requested ((AppsOp.updateApp env userApp request).requests s.registry)⟩ ↔
      (AppsOp.updateApp env userApp request).KeepsRows s := by
  simp only [AppsOp.step, AppsOp.requests, AppsOp.KeepsRows]
  cases hupdate : Api.UpdateApp env userApp request s.registry with
  | error e =>
    refine ⟨fun _ r' hok => ?_, fun _ => hw⟩
    cases hok
  | ok r' =>
    obtain ⟨hnext, happs⟩ := Api.UpdateApp_apps happ hupdate
    have hrequested : ∀ appId scopes, s.requested appId = some scopes →
        record s.requested (request.scopes.map fun scopes => (userApp.id, scopes)) appId =
          some (if appId = userApp.id then request.scopes.getD scopes else scopes) := by
      intro appId scopes hs
      cases request.scopes with
      | none => simpa [record] using hs
      | some scopes' =>
        simp only [Option.map_some, record, Option.getD_some]
        split
        · rfl
        · exact hs
    cases Api.UpdateApp_grants hupdate with
    | untouched huntouched hgrants =>
      have hnone : request.scopes = none := by
        simp only [UpdateAppRequest.touchesPermissions, Bool.or_eq_false_iff] at huntouched
        exact Option.isNone_iff_eq_none.1 (Option.isSome_eq_false_iff.1 huntouched.1.1.1.1)
      refine ⟨fun _ _ _ htouched => ?_, fun _ appId happ' => ?_⟩
      · cases huntouched.symm.trans htouched
      · rw [hnone]
        obtain ⟨scopes, hs, hrows⟩ := hw appId ((happs appId).1 happ')
        exact ⟨scopes, hs, hgrants appId ▸ hrows⟩
    | @touched t htouched hwrites hsome hgrants =>
      obtain ⟨scopes₀, hs₀, hrows₀⟩ := hw userApp.id happ
      have hold : ∀ q, s.registry.payInvoiceTerms userApp.id = some q →
          q.budgetRenewal ∈ GetBudgetRenewals := by
        intro q hq
        obtain ⟨g, hg, rfl⟩ := Option.map_eq_some_iff.1 hq
        exact hrows₀.renewal g (List.mem_of_find?_eq_some hg)
      have hown := @rowsMatch_updated_iff _ t _ request hrows₀ (ht.nonempty _ _ hs₀) hsome
      rw [renewal_known_iff hwrites.budgetRenewal hold, payInvoice_isSome] at hown
      constructor
      · intro hall _ _ _
        obtain ⟨scopes, hs, hrows⟩ := hall userApp.id ((happs _).2 happ)
        simp only [hrequested _ _ hs₀, if_pos, Option.some.injEq] at hs
        rw [hgrants, if_pos rfl, ← hs] at hrows
        exact hown.1 hrows
      · intro hkeeps appId happ'
        obtain ⟨scopes, hs, hrows⟩ := hw appId ((happs appId).1 happ')
        refine ⟨_, hrequested _ _ hs, ?_⟩
        rw [hgrants]
        by_cases hid : appId = userApp.id
        · subst hid
          rw [hs₀] at hs
          cases hs
          rw [if_pos rfl, if_pos rfl]
          exact hown.2 (hkeeps r' rfl htouched)
        · rwa [if_neg (Ne.symm hid), if_neg hid]

theorem tracked_updated {userApp : AppRow} {request : UpdateAppRequest} (ht : s.Tracked)
    (happ : s.registry.HasApp userApp.id)
    (h : Api.UpdateApp env userApp request s.registry = .ok r') :
    AppsState.Tracked
      ⟨r', record s.requested (request.scopes.map fun scopes => (userApp.id, scopes))⟩ := by
  obtain ⟨hnext, -⟩ := Api.UpdateApp_apps happ h
  have hlt : userApp.id < s.registry.nextAppId := by
    obtain ⟨a, ha, hid⟩ := happ
    exact hid ▸ s.registry.app_lt a ha
  cases hscopes : request.scopes with
  | none => exact ⟨ht.nonempty, fun appId scopes hs => hnext.symm ▸ ht.lt appId scopes hs⟩
  | some scopes =>
    have hne : scopes ≠ [] := by
      cases Api.UpdateApp_grants h with
      | untouched huntouched =>
        simp [UpdateAppRequest.touchesPermissions, hscopes] at huntouched
      | touched _ _ hsome => exact fun hnil => hsome (hnil ▸ hscopes)
    refine ⟨fun appId scopes' hs => ?_, fun appId scopes' hs => ?_⟩
    · simp only [Option.map_some, record] at hs
      split at hs
      · cases hs
        exact hne
      · exact ht.nonempty _ _ hs
    · simp only [Option.map_some, record] at hs
      simp only [hnext]
      split at hs
      · next hid => exact hid ▸ hlt
      · exact ht.lt _ _ hs

/-- A call keeps the rows of all apps in order if and only if it meets the condition. Reference:
none. -/
theorem wellFormed_step_iff (ht : s.Tracked) (hw : s.WellFormed) (hs : s.step op = some s') :
    s'.WellFormed ↔ op.KeepsRows s := by
  unfold AppsState.step at hs
  split at hs
  · next hpossible =>
    cases hs
    cases op with
    | createApp env request => exact wellFormed_createApp_iff ht hw
    | updateApp env userApp request => exact wellFormed_updateApp_iff ht hw hpossible
    | createConnection env params =>
      refine iff_of_true ?_ trivial
      simp only [AppsOp.step, AppsOp.requests]
      cases hrun : HandleCreateConnectionEvent env params s.registry with
      | error e =>
        cases connectionScopes env params <;> exact hw
      | ok created =>
        obtain ⟨scopes, app, hscopes, hcreated⟩ := HandleCreateConnectionEvent_created hrun
        rw [hscopes]
        exact (wellFormed_created_iff hw hcreated).2 (connectionScopes_known hscopes)
    | deleteApp env id =>
      refine iff_of_true ?_ trivial
      simp only [AppsOp.step, AppsOp.requests, AppsService.DeleteApp]
      cases env.fault with
      | some e => exact hw
      | none =>
        intro appId happ
        obtain ⟨happ, hne⟩ := Registry.hasApp_deleteApp.1 happ
        obtain ⟨scopes, hs, hrows⟩ := hw appId happ
        rw [← Registry.grants_deleteApp hne] at hrows
        exact ⟨scopes, hs, hrows⟩
  · cases hs

/-- Reference: none. -/
theorem tracked_step (ht : s.Tracked) (hs : s.step op = some s') : s'.Tracked := by
  unfold AppsState.step at hs
  split at hs
  · next hpossible =>
    cases hs
    cases op with
    | createApp env request =>
      simp only [AppsOp.step, AppsOp.requests]
      cases Api.CreateApp_run env request s.registry with
      | failed hrun _ =>
        rw [hrun]
        exact ht
      | reported hrun hid _ _ hcreate =>
        have hcreated := AppsService.CreateApp_created hcreate
        rw [hrun]
        simp only [hid, hcreated.id]
        exact tracked_created ht hcreated
      | unreported hrun _ _ hcreate =>
        have hnext := (AppsService.CreateApp_created hcreate).nextAppId
        rw [hrun]
        refine ⟨ht.nonempty, fun appId scopes hs => ?_⟩
        have hlt := ht.lt appId scopes hs
        simp only [hnext]
        omega
    | updateApp env userApp request =>
      simp only [AppsOp.step, AppsOp.requests]
      cases hupdate : Api.UpdateApp env userApp request s.registry with
      | error e => exact ht
      | ok r' => exact tracked_updated ht hpossible hupdate
    | createConnection env params =>
      simp only [AppsOp.step, AppsOp.requests]
      cases hrun : HandleCreateConnectionEvent env params s.registry with
      | error e =>
        cases connectionScopes env params <;> exact ht
      | ok created =>
        obtain ⟨scopes, app, hscopes, hcreated⟩ := HandleCreateConnectionEvent_created hrun
        rw [hscopes]
        exact tracked_created ht hcreated
    | deleteApp env id =>
      simp only [AppsOp.step, AppsOp.requests, AppsService.DeleteApp]
      cases env.fault with
      | some e => exact ht
      | none => exact ⟨ht.nonempty, ht.lt⟩
  · cases hs

/-- In every state of a run from a new hub each app has one permission row for each scope that was
last requested for it with success, and no others, of known scopes and budget renewals and with the
same terms, if and only if every call of the run meets the condition. Reference:
`apps/apps_service.go:126 CreateApp`, `api/api.go:239 UpdateApp`. -/
theorem permission_rows_iff {ops : List AppsOp}
    (hr : runLabels AppsState.step .initial ops = some s) :
    AllowsLabels AppsState.step (fun s op => op.KeepsRows s) .initial ops ↔
      ∀ k s', runLabels AppsState.step .initial (ops.take k) = some s' → s'.WellFormed :=
  allows_iff_always (I := AppsState.Tracked) tracked_initial wellFormed_initial
    (fun _ _ _ ht hs => tracked_step ht hs) (fun _ _ _ ht hw hs => wellFormed_step_iff ht hw hs) hr

/-- An app that is created and gets another scope. Reference: none. -/
def extendedReader : List AppsOp :=
  [.createApp {} { name := "reader", scopes := ["get_balance"] },
    .updateApp {} readerApp
      { scopes := some ["get_info", "get_balance"], budgetRenewal := some "never" }]

theorem permission_rows_extended :
    AllowsLabels AppsState.step (fun s op => op.KeepsRows s) .initial extendedReader ↔
      ∀ k s', runLabels AppsState.step .initial (extendedReader.take k) = some s' → s'.WellFormed :=
  permission_rows_iff (runLabels_after (by decide +kernel))

/-- A new app with the same scope twice has two rows of it. Reference: `apps/apps_service.go:126
CreateApp`. -/
theorem repeated_scope_two_rows : ¬ ∀ (ops : List AppsOp) (s : AppsState),
    runLabels AppsState.step .initial ops = some s → s.WellFormed := by
  intro h
  have hwell := h [.createApp {} { name := "reader", scopes := ["get_balance", "get_balance"] }] _
    (runLabels_after (by decide +kernel))
  obtain ⟨scopes, -, hrows⟩ := hwell 1 (by decide +kernel)
  exact absurd hrows.nodup (by decide +kernel)

end

end AlbyHub
