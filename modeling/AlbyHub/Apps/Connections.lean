import AlbyHub.Apps.PermissionRows

/-!
# The keys and scopes of the connections

Of an app the relays know its public key, the public key of its wallet and, from the info event, its
scopes. An update of an app keeps all keys and the scopes of the other apps, a creation adds one
connection, whose wallet key belongs to its id, and a deletion takes one away.
-/

namespace AlbyHub

open Go

/-- The ids of the apps with their keys. Reference: `db/models.go:18 App`. -/
def Registry.connections (r : Registry) : List (Nat × String × Option String) :=
  r.apps.map fun a => (a.id, a.appPubkey, a.walletPubkey)

/-- The scopes of the app's rows. Reference: `nip47/permissions/permissions.go:70
GetPermittedMethods`. -/
def Registry.scopes (r : Registry) (appId : Nat) : List String := (r.grants appId).map (·.1)

/-- A column that is no key. Reference: `api/api.go:186 UpdateApp`. -/
def AppColumn.KeepsKeys : AppColumn → Prop
  | .walletPubkey _ => False
  | _ => True

section
variable {r r' : Registry} {env : AppsEnv} {userApp app app' : AppRow} {request : UpdateAppRequest}
variable {appId id : Nat} {column : AppColumn} {name pubkey secret budgetRenewal : String}
variable {maxAmountSat : Nat} {expiresAt : Option Time} {scopes : List String} {isolated : Bool}
variable {metadata : Option (List (String × Json))}

theorem Registry.mem_connections {pubkey : String} {walletPubkey : Option String} :
    (id, pubkey, walletPubkey) ∈ r.connections ↔
      ∃ a ∈ r.apps, a.id = id ∧ a.appPubkey = pubkey ∧ a.walletPubkey = walletPubkey := by
  simp [connections]

theorem Registry.hasApp_of_connection {pubkey : String} {walletPubkey : Option String}
    (h : (id, pubkey, walletPubkey) ∈ r.connections) : r.HasApp id := by
  obtain ⟨a, ha, hid, -⟩ := mem_connections.1 h
  exact ⟨a, ha, hid⟩

/-! ## An update -/

theorem Registry.connections_updateApp (hc : column.KeepsKeys) :
    (r.updateApp id column).connections = r.connections := by
  simp only [connections, updateApp, List.map_map]
  refine List.map_congr_left fun a _ => ?_
  simp only [Function.comp_apply]
  split
  · cases column with
    | walletPubkey _ => exact hc.elim
    | name _ => rfl
    | isolated _ => rfl
    | metadata _ => rfl
  · rfl

theorem connections_updateName {name : Option String} (h : updateName userApp name r = .ok r') :
    r'.connections = r.connections := by
  unfold updateName at h
  split at h
  · cases h
    rfl
  · cases h
  · cases h
    split
    · exact Registry.connections_updateApp trivial
    · rfl

theorem connections_updateIsolated {isolated : Option Bool}
    (h : updateIsolated env userApp isolated r = .ok r') : r'.connections = r.connections := by
  unfold updateIsolated at h
  split at h
  · cases h
    rfl
  · split at h
    · cases h
      rfl
    · obtain ⟨_, -, h⟩ := ok_of_bind h
      obtain ⟨_, -, h⟩ := ok_of_bind h
      cases h
      exact Registry.connections_updateApp trivial

theorem connections_updateMetadata (h : updateMetadata env userApp metadata r = .ok r') :
    r'.connections = r.connections := by
  unfold updateMetadata at h
  split at h
  · cases h
    rfl
  · obtain ⟨_, -, h⟩ := ok_of_bind h
    cases h
    exact Registry.connections_updateApp trivial

/-- An update keeps the keys. Reference: `api/api.go:171 UpdateApp`. -/
theorem Api.UpdateApp_connections (happ : r.HasApp userApp.id)
    (h : Api.UpdateApp env userApp request r = .ok r') : r'.connections = r.connections := by
  obtain ⟨r₁, hname, h⟩ := ok_of_bind h
  obtain ⟨r₂, hisolated, h⟩ := ok_of_bind h
  obtain ⟨r₃, hmetadata, h⟩ := ok_of_bind h
  obtain ⟨r₄, hpermissions, h⟩ := ok_of_bind h
  split at h
  · cases h
  · cases h
    have hsame : r₃.HasApp userApp.id := by
      rw [(sameGrants_updateMetadata hmetadata).hasApp,
        (sameGrants_updateIsolated hisolated).hasApp, (sameGrants_updateName hname).hasApp]
      exact happ
    rw [Registry.connections, (updatePermissions_apps hsame hpermissions).1]
    exact (connections_updateMetadata hmetadata).trans
      ((connections_updateIsolated hisolated).trans (connections_updateName hname))

/-- An update keeps the scopes of the other apps. Reference: `api/api.go:171 UpdateApp`. -/
theorem Api.UpdateApp_scopes (hne : appId ≠ userApp.id)
    (h : Api.UpdateApp env userApp request r = .ok r') : r'.scopes appId = r.scopes appId := by
  unfold Registry.scopes
  cases Api.UpdateApp_grants h with
  | untouched _ hgrants => rw [hgrants]
  | touched _ _ _ hgrants => rw [hgrants, if_neg hne.symm]

/-! ## A creation and a deletion -/

/-- A creation adds a connection, and its wallet key is the one of its id. Reference:
`apps/apps_service.go:144 CreateApp`. -/
theorem createAppTx_connections
    (h : createAppTx env app maxAmountSat budgetRenewal expiresAt scopes r = .ok (app', r')) :
    ∃ key walletPubkey, env.appWalletKey r.nextAppId = .ok key ∧
      env.publicKey key = .ok walletPubkey ∧
      r'.connections = r.connections ++ [(r.nextAppId, app.appPubkey, some walletPubkey)] := by
  obtain ⟨_, -, h⟩ := ok_of_bind h
  obtain ⟨r₁, hperms, h⟩ := ok_of_bind h
  obtain ⟨key, hkey, h⟩ := ok_of_bind h
  obtain ⟨walletPubkey, hwallet, h⟩ := ok_of_bind h
  split at h
  · cases h
  · cases h
    obtain ⟨happs, -, -⟩ := createPermissions_grants
      (Registry.hasApp_insertApp_iff.2 (.inr rfl)) hperms
    refine ⟨key, walletPubkey, ok_of_mapError hkey, ok_of_mapError hwallet, ?_⟩
    -- the key is written to the new row only
    have hold : ∀ a ∈ r.apps, (if a.id = r.nextAppId then a.update (.walletPubkey walletPubkey)
        else a) = a := fun a ha => if_neg (Nat.ne_of_lt (r.app_lt a ha))
    simp only [Registry.connections, Registry.updateApp, happs, Registry.insertApp, List.map_append,
      List.map_map, List.map_cons, List.map_nil, if_true]
    congr 1
    exact List.map_congr_left fun a ha => by rw [Function.comp_apply, hold a ha]

theorem AppsService.CreateApp_connections
    (h : AppsService.CreateApp env name pubkey maxAmountSat budgetRenewal expiresAt scopes isolated
      metadata r = .ok ((app', secret), r')) :
    ∃ appPubkey key walletPubkey, env.appWalletKey r.nextAppId = .ok key ∧
      env.publicKey key = .ok walletPubkey ∧
      r'.connections = r.connections ++ [(r.nextAppId, appPubkey, some walletPubkey)] := by
  obtain ⟨_, -, h⟩ := ok_of_bind h
  obtain ⟨_, -, h⟩ := ok_of_bind h
  obtain ⟨_, -, h⟩ := ok_of_bind h
  obtain ⟨_, -, h⟩ := ok_of_bind h
  obtain ⟨_, -, h⟩ := ok_of_bind h
  obtain ⟨keys, -, h⟩ := ok_of_bind h
  obtain ⟨_, -, h⟩ := ok_of_bind h
  obtain ⟨⟨app, r₁⟩, htx, h⟩ := ok_of_bind h
  cases h
  exact ⟨_, createAppTx_connections htx⟩

/-- A creation gives no scopes to the other apps. Reference: `apps/apps_service.go:126
CreateApp`. -/
theorem AppsService.Created.otherScopes (hne : appId ≠ r.nextAppId)
    (h : AppsService.Created r maxAmountSat budgetRenewal expiresAt scopes app r') :
    r'.scopes appId = r.scopes appId := by
  rw [Registry.scopes, h.grants, if_neg hne.symm, List.append_nil, Registry.scopes]

theorem Registry.mem_connections_deleteApp {c : Nat × String × Option String} :
    c ∈ (r.deleteApp id).connections ↔ c ∈ r.connections ∧ c.1 ≠ id := by
  simp only [connections, deleteApp, List.mem_map, List.mem_filter, decide_eq_true_eq]
  constructor
  · rintro ⟨a, ⟨ha, hne⟩, rfl⟩
    exact ⟨⟨a, ha, rfl⟩, hne⟩
  · rintro ⟨⟨a, ha, rfl⟩, hne⟩
    exact ⟨a, ⟨ha, hne⟩, rfl⟩

theorem Registry.scopes_deleteApp (hne : appId ≠ id) :
    (r.deleteApp id).scopes appId = r.scopes appId := by
  rw [scopes, grants_deleteApp hne, scopes]

end

end AlbyHub
