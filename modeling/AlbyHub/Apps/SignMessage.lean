import AlbyHub.Apps.Superuser

/-!
# Sub-wallets do not sign messages

An isolated app is a custodial sub-wallet and cannot sign messages: `CreateApp` refuses the pair, on
both ways to it. `UpdateApp` changes isolation and scopes without looking at the other one. So in a
run no isolated app has the scope `sign_message` as long as no update asks for the pair
(`isolated_apps_sign_nothing`), and one update that does is enough (`update_isolates_signer`).
-/

namespace AlbyHub

open Go

/-- The app is isolated. Reference: `db/models.go:18 App`. -/
def Registry.Isolated (r : Registry) (appId : Nat) : Prop :=
  ∃ a ∈ r.apps, a.id = appId ∧ a.isolated = true

instance (r : Registry) (appId : Nat) : Decidable (r.Isolated appId) :=
  inferInstanceAs (Decidable (∃ a ∈ r.apps, a.id = appId ∧ a.isolated = true))

/-- No isolated app has the scope. Reference: `apps/apps_service.go:53 CreateApp`. -/
def Registry.SignsApart (r : Registry) : Prop :=
  ∀ appId, r.Isolated appId → ¬ r.HasScope appId "sign_message"

/-- The isolation of the app's row after an update. Reference: `api/api.go:194 UpdateApp`. -/
def UpdateAppRequest.isolatedAfter (request : UpdateAppRequest) (userApp : AppRow)
    (isolated : Bool) : Bool :=
  match request.isolated with
  | some wanted => if wanted = userApp.isolated then isolated else wanted
  | none => isolated

/-- The app is isolated after an update; an app that is not there is inserted with its first new
scope. Reference: `api/api.go:194`, `:313 UpdateApp`. -/
def UpdateAppRequest.Isolates (request : UpdateAppRequest) (userApp : AppRow) (r : Registry) :
    Prop :=
  (∃ a ∈ r.apps, a.id = userApp.id ∧ request.isolatedAfter userApp a.isolated = true) ∨
    (¬ r.HasApp userApp.id ∧ userApp.isolated = true)

/-- The app has the scope after an update. Reference: `api/api.go:291 UpdateApp`. -/
def UpdateAppRequest.Signs (request : UpdateAppRequest) (userApp : AppRow) (r : Registry) : Prop :=
  match request.scopes with
  | some scopes => "sign_message" ∈ scopes
  | none => r.HasScope userApp.id "sign_message"

instance (request : UpdateAppRequest) (userApp : AppRow) (r : Registry) :
    Decidable (request.Isolates userApp r) :=
  inferInstanceAs (Decidable ((∃ a ∈ r.apps, _) ∨ _))

instance (request : UpdateAppRequest) (userApp : AppRow) (r : Registry) :
    Decidable (request.Signs userApp r) := by
  unfold UpdateAppRequest.Signs
  split <;> infer_instance

/-- An update does not ask for an isolated app that signs. Reference: `api/api.go:171 UpdateApp`. -/
def AppsOp.KeepsApart (r : Registry) : AppsOp → Prop
  | .updateApp _ userApp request => ¬ (request.Isolates userApp r ∧ request.Signs userApp r)
  | _ => True

/-- Every call of the sequence keeps the two apart where it is made. Reference: none. -/
def Registry.KeepsApart (r : Registry) : List AppsOp → Prop
  | [] => True
  | op :: ops => op.KeepsApart r ∧ Registry.KeepsApart (AppsOp.step r op) ops

section
variable {r r' : Registry} {env : AppsEnv} {app userApp : AppRow} {appId id : Nat}
variable {expiresAt : Option Time} {budgetRenewal scope : String}
variable {scopes existing removed : List String} {request : UpdateAppRequest}

theorem Registry.not_isolated_nextAppId : ¬ r.Isolated r.nextAppId := by
  rintro ⟨a, ha, hid, -⟩
  have hlt := r.app_lt a ha
  omega

theorem Registry.isolated_insertApp :
    (r.insertApp app).Isolated appId ↔ r.Isolated appId ∨
      (app.id = appId ∧ app.isolated = true) := by
  constructor
  · rintro ⟨a, ha, hid, hiso⟩
    rcases List.mem_append.1 ha with ha | ha
    · exact .inl ⟨a, ha, hid, hiso⟩
    · rw [List.mem_singleton.1 ha] at hid hiso
      exact .inr ⟨hid, hiso⟩
  · rintro (⟨a, ha, hid, hiso⟩ | ⟨hid, hiso⟩)
    · exact ⟨a, List.mem_append_left _ ha, hid, hiso⟩
    · exact ⟨app, List.mem_append_right _ List.mem_cons_self, hid, hiso⟩

theorem Registry.hasApp_insertApp (h : r.HasApp appId) : (r.insertApp app).HasApp appId := by
  obtain ⟨a, ha, hid⟩ := h
  exact ⟨a, List.mem_append_left _ ha, hid⟩

/-- The app that comes with a permission row is inserted only where its id is free. Reference: gorm
`SaveBeforeAssociations`. -/
theorem Registry.isolated_upsertApp (h : (r.upsertApp app).Isolated appId) :
    r.Isolated appId ∨ (¬ r.HasApp app.id ∧ app.id = appId ∧ app.isolated = true) := by
  unfold upsertApp at h
  split at h
  · exact .inl h
  · next hfree =>
    rcases isolated_insertApp.1 h with hold | hnew
    · exact .inl hold
    · refine .inr ⟨?_, hnew⟩
      rintro ⟨a, ha, hid⟩
      refine hfree (List.any_eq_true.2 ⟨a, ha, ?_⟩)
      simp [hid]

theorem Registry.isolated_createPermission {maxAmountSat : Int}
    (h : r.createPermission app scope expiresAt maxAmountSat budgetRenewal = .ok r')
    (hi : r'.Isolated appId) :
    r.Isolated appId ∨ (¬ r.HasApp app.id ∧ app.id = appId ∧ app.isolated = true) := by
  simp only [createPermission] at h
  split at h
  · cases h
    exact isolated_upsertApp hi
  · cases h

/-- The apps with their isolation. Reference: `db/models.go:18 App`. -/
def Registry.isolation (r : Registry) : List (Nat × Bool) := r.apps.map fun a => (a.id, a.isolated)

theorem Registry.isolated_iff : r.Isolated appId ↔ (appId, true) ∈ r.isolation := by
  simp [Isolated, isolation]

theorem Registry.hasApp_iff : r.HasApp appId ↔ ∃ isolated, (appId, isolated) ∈ r.isolation := by
  constructor
  · rintro ⟨a, ha, rfl⟩
    exact ⟨a.isolated, List.mem_map.2 ⟨a, ha, rfl⟩⟩
  · rintro ⟨isolated, hmem⟩
    obtain ⟨a, ha, heq⟩ := List.mem_map.1 hmem
    exact ⟨a, ha, congrArg Prod.fst heq⟩

/-- The columns but the isolation. Reference: `api/api.go:186 UpdateApp`. -/
theorem Registry.isolation_updateApp {column : AppColumn}
    (hc : ∀ a : AppRow, (a.update column).isolated = a.isolated) :
    (r.updateApp id column).isolation = r.isolation := by
  simp only [isolation, updateApp, List.map_map]
  refine List.map_congr_left fun a _ => ?_
  simp only [Function.comp]
  split
  · rw [AppRow.update_id, hc]
  · rfl

theorem Registry.isolated_updateApp {column : AppColumn}
    (hc : ∀ a : AppRow, (a.update column).isolated = a.isolated) :
    (r.updateApp id column).Isolated appId ↔ r.Isolated appId := by
  rw [isolated_iff, isolation_updateApp hc, isolated_iff]

/-! ## A new app -/

theorem isolated_createPermissions {maxAmountSat : Int}
    (h : createPermissions app expiresAt maxAmountSat budgetRenewal scopes r = .ok r')
    (hi : r'.Isolated appId) : r.Isolated appId ∨ (app.id = appId ∧ app.isolated = true) := by
  induction scopes generalizing r with
  | nil =>
    cases h
    exact .inl hi
  | cons s scopes ih =>
    unfold createPermissions at h
    split at h
    · cases h
    · next r₁ hp =>
      rcases ih h with hold | hnew
      · rcases Registry.isolated_createPermission hp hold with hold | ⟨-, hnew⟩
        · exact .inl hold
        · exact .inr hnew
      · exact .inr hnew

/-- A new app is isolated where the request says so, and no other app becomes isolated. Reference:
`apps/apps_service.go:120 CreateApp`. -/
theorem isolated_createAppTx {maxAmountSat : Nat} {app' : AppRow}
    (h : createAppTx env app maxAmountSat budgetRenewal expiresAt scopes r = .ok (app', r'))
    (hi : r'.Isolated appId) :
    r.Isolated appId ∨ (r.nextAppId = appId ∧ app.isolated = true) := by
  obtain ⟨_, -, h⟩ := ok_of_bind h
  obtain ⟨r₁, hperms, h⟩ := ok_of_bind h
  obtain ⟨key, -, h⟩ := ok_of_bind h
  obtain ⟨walletPubkey, -, h⟩ := ok_of_bind h
  split at h
  · cases h
  · cases h
    rw [Registry.isolated_updateApp fun _ => rfl] at hi
    rcases isolated_createPermissions hperms hi with hold | hnew
    · rcases Registry.isolated_insertApp.1 hold with hold | hnew
      · exact .inl hold
      · exact .inr hnew
    · exact .inr hnew

/-- An app is not created isolated and with the scope. Reference: `apps/apps_service.go:53
CreateApp`. -/
theorem AppsService.CreateApp_apart {name pubkey secret : String} {maxAmountSat : Nat}
    {isolated : Bool} {metadata : Option (List (String × Json))}
    (h : AppsService.CreateApp env name pubkey maxAmountSat budgetRenewal expiresAt scopes isolated
      metadata r = .ok ((app, secret), r')) (hr : r.SignsApart) : r'.SignsApart := by
  intro appId hi hs
  have hscope := ((AppsService.CreateApp_ok h).2 appId "sign_message").1 hs
  obtain ⟨_, -, h⟩ := ok_of_bind h
  obtain ⟨_, hrefuse, h⟩ := ok_of_bind h
  obtain ⟨_, -, h⟩ := ok_of_bind h
  obtain ⟨_, -, h⟩ := ok_of_bind h
  obtain ⟨_, -, h⟩ := ok_of_bind h
  obtain ⟨keys, -, h⟩ := ok_of_bind h
  obtain ⟨metadata, -, h⟩ := ok_of_bind h
  obtain ⟨⟨app₁, r₁⟩, htx, h⟩ := ok_of_bind h
  cases h
  rcases isolated_createAppTx htx hi with hold | ⟨rfl, hiso⟩
  · rcases hscope with hscope | ⟨rfl, -⟩
    · exact hr appId hold hscope
    · exact Registry.not_isolated_nextAppId hold
  · rcases hscope with hscope | ⟨-, hmem⟩
    · exact Registry.not_hasScope_nextAppId hscope
    · exact not_of_refuse hrefuse ⟨hiso, hmem⟩

/-! ## An update -/

theorem Registry.hasApp_createPermission {maxAmountSat : Int}
    (h : r.createPermission app scope expiresAt maxAmountSat budgetRenewal = .ok r')
    (ha : r.HasApp appId) : r'.HasApp appId := by
  simp only [createPermission] at h
  split at h
  · cases h
    have hup : (r.upsertApp app).HasApp appId := by
      unfold upsertApp
      split
      · exact ha
      · exact Registry.hasApp_insertApp ha
    exact hup
  · cases h

theorem isolation_updateName {name : Option String} (h : updateName userApp name r = .ok r') :
    r'.isolation = r.isolation := by
  unfold updateName at h
  split at h
  · cases h; rfl
  · cases h
  · cases h
    split
    · exact Registry.isolation_updateApp fun _ => rfl
    · rfl

theorem isolation_updateMetadata {metadata : Option (List (String × Json))}
    (h : updateMetadata env userApp metadata r = .ok r') : r'.isolation = r.isolation := by
  unfold updateMetadata at h
  split at h
  · cases h; rfl
  · obtain ⟨text, -, h⟩ := ok_of_bind h
    cases h
    exact Registry.isolation_updateApp fun _ => rfl

/-- An update changes the isolation of its app alone. Reference: `api/api.go:194 UpdateApp`. -/
theorem isolation_updateIsolated (h : updateIsolated env userApp request.isolated r = .ok r') :
    r'.isolation = r.isolation.map fun (i, isolated) =>
      (i, if i = userApp.id then request.isolatedAfter userApp isolated else isolated) := by
  unfold updateIsolated at h
  unfold UpdateAppRequest.isolatedAfter
  split at h
  · next hnone =>
    cases h
    simp [hnone]
  · next wanted hsome =>
    split at h
    · next heq =>
      cases h
      simp [hsome, heq]
    · next hne =>
      obtain ⟨appStoreId, -, h⟩ := ok_of_bind h
      obtain ⟨_, -, h⟩ := ok_of_bind h
      cases h
      simp only [Registry.isolation, Registry.updateApp, List.map_map, hsome, if_neg hne]
      refine List.map_congr_left fun a _ => ?_
      simp only [Function.comp]
      split <;> rfl

/-- New permission rows bring their app with them where it is gone. Reference: `api/api.go:311
UpdateApp`. -/
theorem isolated_addScopes {maxAmountSat : Nat}
    (h : addScopes userApp expiresAt maxAmountSat budgetRenewal scopes existing r =
      .ok (removed, r'))
    (hi : r'.Isolated appId) : r.Isolated appId ∨
      (¬ r.HasApp userApp.id ∧ userApp.id = appId ∧ userApp.isolated = true) := by
  induction scopes generalizing r existing with
  | nil =>
    cases h
    exact .inl hi
  | cons s scopes ih =>
    unfold addScopes at h
    split at h
    · exact ih h
    · split at h
      · cases h
      · next r₁ hp =>
        rcases ih h with hold | ⟨hgone, hnew⟩
        · exact Registry.isolated_createPermission hp hold
        · exact .inr ⟨fun ha => hgone (Registry.hasApp_createPermission hp ha), hnew⟩

/-- The scopes that are not asked for are left over. Reference: `api/api.go:320 UpdateApp`. -/
theorem mem_removed_of_addScopes {maxAmountSat : Nat}
    (h : addScopes userApp expiresAt maxAmountSat budgetRenewal scopes existing r =
      .ok (removed, r'))
    (hmem : scope ∈ existing) (hnot : scope ∉ scopes) : scope ∈ removed := by
  induction scopes generalizing r existing with
  | nil =>
    cases h
    exact hmem
  | cons s scopes ih =>
    obtain ⟨hne, hnot⟩ := not_or.1 (fun hor => hnot (List.mem_cons.2 hor))
    unfold addScopes at h
    split at h
    · exact ih h (List.mem_filter.2 ⟨hmem, by simpa using hne⟩) hnot
    · split at h
      · cases h
      · exact ih h hmem hnot

theorem not_hasScope_foldl_delete (hmem : scope ∈ removed) :
    ¬ (removed.foldl (fun r scope => r.deletePermissions id scope) r).HasScope id scope := by
  induction removed generalizing r with
  | nil => cases hmem
  | cons s removed ih =>
    rcases List.mem_cons.1 hmem with rfl | hmem
    · intro hs
      have hs' : (r.deletePermissions id scope).HasScope id scope := hasScope_of_foldl_delete hs
      obtain ⟨p, hp, hid, hscope⟩ := hs'
      have hdel := (List.mem_filter.1 hp).2
      simp [hid, hscope] at hdel
    · exact ih hmem

theorem isolated_foldl_delete :
    (removed.foldl (fun r scope => r.deletePermissions id scope) r).Isolated appId ↔
      r.Isolated appId := by
  induction removed generalizing r with
  | nil => exact Iff.rfl
  | cons s removed ih => exact ih

/-- The scopes of an app after an update are the ones asked for. Reference: `api/api.go:291
UpdateApp`. -/
theorem scopes_of_updateScopes {maxAmountSat : Nat}
    (h : updateScopes userApp expiresAt maxAmountSat budgetRenewal existing scopes r = .ok r')
    (hold : ∀ scope, r.HasScope userApp.id scope → scope ∈ existing)
    (hs : r'.HasScope userApp.id scope) : scope ∈ scopes := by
  obtain ⟨_, -, h⟩ := ok_of_bind h
  obtain ⟨_, -, h⟩ := ok_of_bind h
  obtain ⟨⟨removed, r₁⟩, hadd, h⟩ := ok_of_bind h
  cases h
  rcases hasScope_of_addScopes hadd (hasScope_of_foldl_delete hs) with hhad | ⟨-, hmem⟩
  · exact Decidable.byContradiction fun hnot =>
      not_hasScope_foldl_delete (mem_removed_of_addScopes hadd (hold scope hhad) hnot) hs
  · exact hmem

theorem isolated_updateScopes {maxAmountSat : Nat}
    (h : updateScopes userApp expiresAt maxAmountSat budgetRenewal existing scopes r = .ok r')
    (hi : r'.Isolated appId) : r.Isolated appId ∨
      (¬ r.HasApp userApp.id ∧ userApp.id = appId ∧ userApp.isolated = true) := by
  obtain ⟨_, -, h⟩ := ok_of_bind h
  obtain ⟨_, -, h⟩ := ok_of_bind h
  obtain ⟨⟨removed, r₁⟩, hadd, h⟩ := ok_of_bind h
  cases h
  exact isolated_addScopes hadd (isolated_foldl_delete.1 hi)

/-- What the permissions part of an update does to the isolation and to the scopes. Reference:
`api/api.go:239 UpdateApp`. -/
theorem updatePermissions_apart (h : updatePermissions env userApp request r = .ok r') :
    (∀ appId, r'.Isolated appId → r.Isolated appId ∨
      (¬ r.HasApp userApp.id ∧ userApp.id = appId ∧ userApp.isolated = true)) ∧
    (r'.HasScope userApp.id "sign_message" → request.Signs userApp r) ∧
    ∀ appId, userApp.id ≠ appId → r'.HasScope appId "sign_message" →
      r.HasScope appId "sign_message" := by
  simp only [updatePermissions] at h
  split at h
  · next htouch =>
    cases h
    refine ⟨fun _ => .inl, fun hs => ?_, fun _ _ hs => hs⟩
    have hnone : request.scopes = none := by
      simp only [UpdateAppRequest.touchesPermissions, Bool.or_eq_false_iff] at htouch
      simpa using htouch.1.1.1.1
    simpa only [UpdateAppRequest.Signs, hnone] using hs
  · obtain ⟨expiresAt, -, h⟩ := ok_of_bind h
    obtain ⟨_, -, h⟩ := ok_of_bind h
    split at h
    · next hnone =>
      cases h
      refine ⟨fun _ => .inl, fun hs => ?_, fun _ _ hs => Registry.hasScope_updatePermissions.1 hs⟩
      simpa only [UpdateAppRequest.Signs, hnone] using Registry.hasScope_updatePermissions.1 hs
    · next scopes hsome =>
      refine ⟨fun appId hi => ?_, fun hs => ?_, fun appId hne hs => ?_⟩
      · rcases isolated_updateScopes h hi with hold | ⟨hgone, hnew⟩
        · exact .inl hold
        · exact .inr ⟨hgone, hnew⟩
      · simp only [UpdateAppRequest.Signs, hsome]
        refine scopes_of_updateScopes h (fun scope hhad => ?_) hs
        obtain ⟨p, hp, hid, hscope⟩ := Registry.hasScope_updatePermissions.1 hhad
        exact List.mem_map.2 ⟨p, List.mem_filter.2 ⟨hp, by simpa using hid⟩, hscope⟩
      · obtain ⟨_, -, h⟩ := ok_of_bind h
        obtain ⟨_, -, h⟩ := ok_of_bind h
        obtain ⟨⟨removed, r₁⟩, hadd, h⟩ := ok_of_bind h
        cases h
        rcases hasScope_of_addScopes hadd (hasScope_of_foldl_delete hs) with hold | ⟨heq, -⟩
        · exact Registry.hasScope_updatePermissions.1 hold
        · exact absurd heq hne

/-- An update that does not ask for the pair keeps it apart. Reference: `api/api.go:171
UpdateApp`. -/
theorem Api.UpdateApp_apart (h : Api.UpdateApp env userApp request r = .ok r') (hr : r.SignsApart)
    (hk : ¬ (request.Isolates userApp r ∧ request.Signs userApp r)) : r'.SignsApart := by
  obtain ⟨r₁, hname, h⟩ := ok_of_bind h
  obtain ⟨r₂, hisolated, h⟩ := ok_of_bind h
  obtain ⟨r₃, hmetadata, h⟩ := ok_of_bind h
  obtain ⟨r₄, hpermissions, h⟩ := ok_of_bind h
  split at h
  · cases h
  cases h
  obtain ⟨hiso, hsigns, hothers⟩ := updatePermissions_apart hpermissions
  have hisolation : r₃.isolation = r.isolation.map fun (i, isolated) =>
      (i, if i = userApp.id then request.isolatedAfter userApp isolated else isolated) := by
    rw [isolation_updateMetadata hmetadata, isolation_updateIsolated hisolated,
      isolation_updateName hname]
  have hscopes : ∀ appId scope, r₃.HasScope appId scope ↔ r.HasScope appId scope := by
    intro appId scope
    rw [hasScope_updateMetadata hmetadata, hasScope_updateIsolated hisolated,
      hasScope_updateName hname]
  intro appId hi hs
  by_cases hid : userApp.id = appId
  · subst hid
    refine hk ⟨?_, ?_⟩
    · rcases hiso _ hi with hold | ⟨hgone, -, hnew⟩
      · rw [Registry.isolated_iff, hisolation] at hold
        obtain ⟨⟨i, isolated⟩, hmem, heq⟩ := List.mem_map.1 hold
        simp only [Prod.mk.injEq] at heq
        obtain ⟨rfl, heq⟩ := heq
        rw [if_pos rfl] at heq
        obtain ⟨a, ha, hpair⟩ := List.mem_map.1 hmem
        simp only [Prod.mk.injEq] at hpair
        exact .inl ⟨a, ha, hpair.1, hpair.2 ▸ heq⟩
      · refine .inr ⟨fun ha => hgone ?_, hnew⟩
        obtain ⟨isolated, hmem⟩ := Registry.hasApp_iff.1 ha
        rw [Registry.hasApp_iff, hisolation]
        exact ⟨_, List.mem_map.2 ⟨_, hmem, rfl⟩⟩
    · have hsigned := hsigns hs
      unfold UpdateAppRequest.Signs at hsigned ⊢
      split at hsigned
      · exact hsigned
      · exact (hscopes _ _).1 hsigned
  · refine hr appId ?_ ((hscopes _ _).1 (hothers appId hid hs))
    rcases hiso _ hi with hold | ⟨-, heq, -⟩
    · rw [Registry.isolated_iff, hisolation] at hold
      obtain ⟨⟨i, isolated⟩, hmem, heq⟩ := List.mem_map.1 hold
      simp only [Prod.mk.injEq] at heq
      obtain ⟨rfl, heq⟩ := heq
      rw [if_neg (Ne.symm hid)] at heq
      exact Registry.isolated_iff.2 (heq ▸ hmem)
    · exact absurd heq hid

/-- A call that keeps the two apart, one case for each. Reference: none. -/
theorem AppsOp.signsApart_step {op : AppsOp} (hr : r.SignsApart) (hk : op.KeepsApart r) :
    (AppsOp.step r op).SignsApart := by
  cases op with
  | createApp env request =>
    rcases Api.CreateApp_cases env request r with hsame | ⟨_, _, _, r', -, hcreate, hnew⟩
    · exact (congrArg Registry.SignsApart hsame).mpr hr
    · exact (congrArg Registry.SignsApart hnew).mpr (AppsService.CreateApp_apart hcreate hr)
  | updateApp env userApp request =>
    simp only [AppsOp.step]
    split
    · next r' h => exact Api.UpdateApp_apart h hr hk
    · exact hr
  | createConnection env params =>
    simp only [AppsOp.step]
    split
    · next key r' h =>
      obtain ⟨scopes, -, h⟩ := ok_of_bind h
      obtain ⟨⟨⟨app, secret⟩, r₁⟩, hcreate, h⟩ := ok_of_bind h
      cases h
      exact AppsService.CreateApp_apart (ok_of_mapError hcreate) hr
    · exact hr
  | deleteApp env id =>
    simp only [AppsOp.step, AppsService.DeleteApp]
    split
    · next r' h =>
      split at h
      · cases h
      · cases h
        rintro appId ⟨a, ha, hid, hiso⟩ hs
        exact hr appId ⟨a, (List.mem_filter.1 ha).1, hid, hiso⟩ (Registry.hasScope_of_deleteApp hs)
    · exact hr

/-- Over every sequence of calls from an empty table in which no update asks for an isolated app
with the scope, no isolated app has a permission row with it. Reference: `apps/apps_service.go:53
CreateApp`. -/
theorem isolated_apps_sign_nothing {ops : List AppsOp} (hk : Registry.empty.KeepsApart ops) :
    ∀ a ∈ (Registry.empty.run ops).apps, a.isolated = true →
      ∀ p ∈ (Registry.empty.run ops).permissions, p.appId = a.id → p.scope ≠ "sign_message" := by
  have run : ∀ (ops : List AppsOp) (r : Registry), r.SignsApart → r.KeepsApart ops →
      (r.run ops).SignsApart := by
    intro ops
    induction ops with
    | nil => exact fun r hr _ => hr
    | cons op ops ih => exact fun r hr hk => ih _ (AppsOp.signsApart_step hr hk.1) hk.2
  have hempty : Registry.empty.SignsApart := by
    rintro appId ⟨a, ha, -⟩
    cases ha
  intro a ha hiso p hp hid hscope
  exact run ops _ hempty hk a.id ⟨a, ha, rfl, hiso⟩ ⟨p, hp, hid, hscope⟩

end

/-- A secret key and its public key. Reference: `nostr.GeneratePrivateKey`, `nostr.GetPublicKey`. -/
def demoSecretKey : String := "0000000000000000000000000000000000000000000000000000000000000001"

/-- Reference: `nostr.GetPublicKey`. -/
def demoPublicKey : String := "79be667ef9dcbbac55a06295ce870b07029bfcdb2dce28d959f2815b16f81798"

/-- A hub with an LDK node, which has one key only. Reference: `config/models.go LDKBackendType`. -/
def demoAppsEnv : AppsEnv where
  backendType := "LDK"
  privateKey := demoSecretKey
  publicKey _ := .ok demoPublicKey
  appWalletKey _ := .ok demoSecretKey

/-- The creation of an app that signs messages. Reference: `api/api.go:78 CreateApp`. -/
def createSigner : AppsOp :=
  .createApp demoAppsEnv { name := "signer", scopes := ["sign_message"] }

/-- The row of that app. Reference: none. -/
def signerRow : AppRow :=
  { id := 1, name := "signer", isolated := false, appPubkey := demoPublicKey
    walletPubkey := some demoPublicKey }

/-- An update isolates the app, which keeps its scope. Reference: `api/api.go:194 UpdateApp`. -/
theorem update_isolates_signer :
    ¬ ∀ a ∈ (Registry.empty.run
        [createSigner, .updateApp demoAppsEnv signerRow { isolated := some true }]).apps,
      a.isolated = true → ∀ p ∈ (Registry.empty.run
        [createSigner, .updateApp demoAppsEnv signerRow { isolated := some true }]).permissions,
      p.appId = a.id → p.scope ≠ "sign_message" := by
  decide +kernel

/-- The update isolates the app and takes the scope away. Reference: `api/api.go:291 UpdateApp`. -/
def isolateReader : List AppsOp :=
  [createSigner, .updateApp demoAppsEnv signerRow
    { isolated := some true, scopes := some ["get_balance"] }]

/-- A run with an isolated app. Reference: `api/api.go:171 UpdateApp`. -/
theorem isolated_apps_sign_nothing_updated :
    (Registry.empty.run isolateReader).apps.map (·.isolated) = [true] ∧
    ∀ a ∈ (Registry.empty.run isolateReader).apps, a.isolated = true →
      ∀ p ∈ (Registry.empty.run isolateReader).permissions, p.appId = a.id →
        p.scope ≠ "sign_message" := by
  have hk : ¬ (UpdateAppRequest.Isolates
      { isolated := some true, scopes := some ["get_balance"] } signerRow
        (AppsOp.step .empty createSigner) ∧
      UpdateAppRequest.Signs { isolated := some true, scopes := some ["get_balance"] } signerRow
        (AppsOp.step .empty createSigner)) := by
    decide +kernel
  refine ⟨by decide +kernel, isolated_apps_sign_nothing ⟨trivial, hk, trivial⟩⟩

end AlbyHub
