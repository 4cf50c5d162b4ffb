import AlbyHub.Apps.Registry

/-!
# Creating, changing and deleting apps

The three paths that write permission rows: the API's `CreateApp` and `UpdateApp`, and the NIP-47
request `create_connection`. A database transaction that fails changes nothing; what the API does
after the transaction can still fail the call.
-/

namespace AlbyHub

open Go

/-- What a call takes from outside: a failure of its database transaction; the answer of the check
of the unlock password; the parser of times, the settings, the keys, the JSON functions
(`appStoreId` is the value of `app_store_app_id` in an app's metadata, if it is a string), the Alby
account and the capabilities of the node. Reference: the imports of `api/api.go`,
`apps/apps_service.go`. -/
structure AppsEnv where
  fault : Option String := none
  checkUnlockPassword : String → Bool := fun _ => false
  parseTime : String → Except String Time := fun _ => .error "cannot parse"
  backendType : String := ""
  privateKey : String := ""
  publicKey : String → Except String String := .ok
  marshal : List (String × Json) → Except String String := fun _ => .ok "{}"
  appStoreId : String → Except String (Option String) := fun _ => .ok none
  appWalletKey : Nat → Except String String := fun _ => .ok ""
  relayUrls : List String := []
  lightningAddress : Except String String := .ok ""
  supportedMethods : List String := []
  supportedNotificationTypes : List String := []

/-- `if bad { return errors.New(text) }`. Reference: the Go language. -/
def refuse (bad : Prop) [Decidable bad] (text : String) : Except String Unit :=
  if bad then .error text else .ok ()

/-- Reference: `constants/constants.go:28 GetBudgetRenewals`. -/
def GetBudgetRenewals : List String := ["daily", "weekly", "monthly", "yearly", "never"]

/-- Reference: `nip47/permissions/permissions.go:183 AllScopes`. -/
def AllScopes : List String :=
  ["pay_invoice", "get_balance", "get_info", "make_invoice", "lookup_invoice", "list_transactions",
    "sign_message", "notifications", "superuser"]

/-- The name with a suffix for its index. Reference: `apps/apps_service.go:107 CreateApp`. -/
def nameAt (name : String) : Nat → String
  | 0 => name
  | i + 1 => name ++ " (" ++ toString (i + 1) ++ ")"

/-- The first free name from index `i` on; of one name more than there are apps, one is free.
Reference: `apps/apps_service.go:106 CreateApp`. -/
def freeName (taken : String → Bool) (name : String) : Nat → Nat → String
  | 0, i => nameAt name i
  | n + 1, i => if taken (nameAt name i) then freeName taken name n (i + 1) else nameAt name i

/-- The permission rows of a new app. Reference: `apps/apps_service.go:126 CreateApp`. -/
def createPermissions (app : AppRow) (expiresAt : Option Time) (maxAmountSat : Int)
    (budgetRenewal : String) : List String → Registry → Except String Registry
  | [], r => .ok r
  | scope :: scopes, r =>
    match r.createPermission app scope expiresAt maxAmountSat budgetRenewal with
    | .error e => .error e
    | .ok r => createPermissions app expiresAt maxAmountSat budgetRenewal scopes r

/-- The transaction that creates an app. Reference: `apps/apps_service.go:120 CreateApp`. -/
def createAppTx (env : AppsEnv) (app : AppRow) (maxAmountSat : Nat) (budgetRenewal : String)
    (expiresAt : Option Time) (scopes : List String) (r : Registry) :
    Except String (AppRow × Registry) := do
  refuse (r.apps.any (·.appPubkey = app.appPubkey)) "duplicated key not allowed"
  let app := { app with id := r.nextAppId }
  let r ← createPermissions app expiresAt (int64 maxAmountSat) budgetRenewal scopes
      (r.insertApp app)
  let appWalletPrivKey ← (env.appWalletKey app.id).mapError
    ("error generating wallet child private key: " ++ ·)
  let appWalletPubkey ← (env.publicKey appWalletPrivKey).mapError
    ("error generating wallet child public key: " ++ ·)
  match env.fault with
  | some e => .error e
  | none => .ok (app.update (.walletPubkey appWalletPubkey),
      r.updateApp app.id (.walletPubkey appWalletPubkey))

/-- The public key of the connection, with the secret where the hub makes one. Reference:
`apps/apps_service.go:78 CreateApp`. -/
def pairingKeys (env : AppsEnv) (pubkey : String) : Except String (String × String) :=
  if pubkey = "" then (env.publicKey env.privateKey).map fun pairingPublicKey =>
    (pairingPublicKey, env.privateKey)
  else if (hexDecodeString pubkey).any (·.length = 32) then .ok (pubkey, "")
  else .error ("invalid public key format: " ++ pubkey)

/-- The app, its pairing secret and the tables afterwards. Reference: `apps/apps_service.go:48
CreateApp`. -/
def AppsService.CreateApp (env : AppsEnv) (name pubkey : String) (maxAmountSat : Nat)
    (budgetRenewal : String) (expiresAt : Option Time) (scopes : List String) (isolated : Bool)
    (metadata : Option (List (String × Json))) (r : Registry) :
    Except String ((AppRow × String) × Registry) := do
  refuse (name = "") "no app name provided"
  refuse (isolated = true ∧ "sign_message" ∈ scopes)
    "Sub-wallet app connection cannot have sign_message scope"
  refuse (isolated = true ∧ env.backendType ∉ ["LDK", "LND", "PHOENIX", "BARK", "CLN"])
    ("sub-wallets are currently not supported on your node backend. " ++
      "Try LDK, LND, PHOENIX, BARK, or CLN")
  let budgetRenewal := if budgetRenewal = "" then "never" else budgetRenewal
  refuse (budgetRenewal ∉ GetBudgetRenewals)
    ("invalid budget renewal. Must be one of " ++ ",".intercalate GetBudgetRenewals)
  refuse (scopes = []) "no scopes provided"
  let (pairingPublicKey, pairingSecretKey) ← pairingKeys env pubkey
  let metadata ← (metadata.map env.marshal).getD (.ok "")
  let name := freeName (fun name => r.apps.any (·.name = name)) name r.apps.length 0
  let app : AppRow :=
    { id := 0, name := name, isolated := isolated, appPubkey := pairingPublicKey,
      metadata := metadata }
  let (app, r) ← createAppTx env app maxAmountSat budgetRenewal expiresAt scopes r
  return ((app, pairingSecretKey), r)

/-- Reference: `apps/apps_service.go:183 DeleteApp`. -/
def AppsService.DeleteApp (env : AppsEnv) (appId : Nat) (r : Registry) : Except String Registry :=
  match env.fault with
  | some e => .error e
  | none => .ok (r.deleteApp appId)

/-- Reference: `api/models.go:151 CreateAppRequest`. -/
structure CreateAppRequest where
  name : String
  pubkey : String := ""
  maxAmount : Option Nat := none
  maxAmountSat : Option Nat := none
  maxAmountMsat : Option Nat := none
  budgetRenewal : String := ""
  expiresAt : String := ""
  scopes : List String
  isolated : Bool := false
  metadata : Option (List (String × Json)) := none
  unlockPassword : String := ""

/-- Reference: `api/models.go CreateAppResponse`; the return URL is left out. -/
structure CreateAppResponse where
  id : Nat
  name : String
  pubkey : String
  pairingSecret : String
  walletPubkey : Option String
  relayUrls : List String
  lud16 : String
  pairingUri : String

/-- The last of the values that is given, in sat. Reference: `api/models.go:729 ResolveToSat`. -/
def ResolveToSat (satValue msatValue legacyValueSat legacyValueMsat : Option Nat) : Option Nat :=
  match msatValue, satValue, legacyValueMsat, legacyValueSat with
  | some msat, _, _, _ => some (msat / 1000)
  | none, some sat, _, _ => some sat
  | none, none, some msat, _ => some (msat / 1000)
  | none, none, none, sat => sat

/-- Reference: `api/api.go:2290 parseExpiresAt`. -/
def parseExpiresAt (env : AppsEnv) (expiresAt : String) : Except String (Option Time) :=
  if expiresAt = "" then .ok none
  else match env.parseTime expiresAt with
    | .error e => .error ("invalid expiresAt: " ++ e)
    | .ok time => .ok (some time)

/-- What the call does before it creates the app. Reference: `api/api.go:78 CreateApp`. -/
def Api.checkCreateApp (env : AppsEnv) (request : CreateAppRequest) :
    Except String (Option Time) := do
  refuse ("superuser" ∈ request.scopes ∧ env.checkUnlockPassword request.unlockPassword = false)
    "incorrect unlock password to create app with superuser permission"
  refuse (request.name = "getalby.com") "Reserved app name: getalby.com"
  let expiresAt ← (parseExpiresAt env request.expiresAt).mapError ("invalid expiresAt: " ++ ·)
  match request.scopes.find? (· ∉ AllScopes) with
  | some scope => .error ("did not recognize requested scope: " ++ scope)
  | none => .ok expiresAt

/-- The response, and the tables afterwards: the app is there also where the lightning address
cannot be fetched. Reference: `api/api.go:78 CreateApp`. -/
def Api.CreateApp (env : AppsEnv) (request : CreateAppRequest) (r : Registry) :
    Except String CreateAppResponse × Registry :=
  let created := do
    let expiresAt ← Api.checkCreateApp env request
    AppsService.CreateApp env request.name request.pubkey
      ((ResolveToSat request.maxAmountSat request.maxAmountMsat request.maxAmount none).getD 0)
      request.budgetRenewal expiresAt request.scopes request.isolated request.metadata r
  match created with
  | .error e => (.error e, r)
  | .ok ((app, pairingSecret), r) =>
    match env.lightningAddress with
    | .error e => (.error e, r)
    | .ok lud16 =>
      let lud16Param := if lud16 ≠ "" ∧ app.isolated = false then "&lud16=" ++ lud16 else ""
      (.ok { id := app.id, name := app.name, pubkey := app.appPubkey,
             pairingSecret := pairingSecret, walletPubkey := app.walletPubkey,
             relayUrls := env.relayUrls, lud16 := lud16,
             pairingUri := "nostr+walletconnect://" ++ app.walletPubkey.getD "" ++ "?relay=" ++
               "&relay=".intercalate env.relayUrls ++ "&secret=" ++ pairingSecret ++
               lud16Param }, r)

/-- Reference: `api/models.go:130 UpdateAppRequest`. -/
structure UpdateAppRequest where
  name : Option String := none
  maxAmount : Option Nat := none
  maxAmountSat : Option Nat := none
  maxAmountMsat : Option Nat := none
  budgetRenewal : Option String := none
  expiresAt : Option String := none
  updateExpiresAt : Bool := false
  scopes : Option (List String) := none
  metadata : Option (List (String × Json)) := none
  isolated : Option Bool := none

/-- Reference: `api/api.go:176 UpdateApp`, the name. -/
def updateName (userApp : AppRow) (name : Option String) (r : Registry) : Except String Registry :=
  match name with
  | none => .ok r
  | some "" => .error "won't update an app to have no name"
  | some name => .ok (if name ≠ userApp.name then r.updateApp userApp.id (.name name) else r)

/-- The app store's name of an app that is to leave isolation. Reference: `api/api.go:198
UpdateApp`. -/
def leavingAppStoreId (env : AppsEnv) (userApp : AppRow) (isolated : Bool) :
    Except String (Option String) :=
  if isolated = false ∧ userApp.metadata ≠ "" then env.appStoreId userApp.metadata else .ok none

/-- Reference: `api/api.go:194 UpdateApp`, the isolation. -/
def updateIsolated (env : AppsEnv) (userApp : AppRow) (isolated : Option Bool) (r : Registry) :
    Except String Registry := do
  match isolated with
  | none => return r
  | some isolated =>
    if isolated = userApp.isolated then return r
    else
      -- a sub-wallet of the app store stays isolated
      let appStoreId ← leavingAppStoreId env userApp isolated
      refuse (appStoreId = some "uncle-jim") "Cannot update sub-wallet to be non-isolated"
      return r.updateApp userApp.id (.isolated isolated)

/-- Reference: `api/api.go:223 UpdateApp`, the metadata. -/
def updateMetadata (env : AppsEnv) (userApp : AppRow) (metadata : Option (List (String × Json)))
    (r : Registry) : Except String Registry := do
  match metadata with
  | none => return r
  | some metadata => return r.updateApp userApp.id (.metadata (← env.marshal metadata))

/-- The new scopes are inserted; the existing ones that are not in the request are left over.
Reference: `api/api.go:307 UpdateApp`. -/
def addScopes (userApp : AppRow) (expiresAt : Option Time) (maxAmountSat : Nat)
    (budgetRenewal : String) : List String → List String → Registry →
    Except String (List String × Registry)
  | [], existing, r => .ok (existing, r)
  | scope :: scopes, existing, r =>
    if scope ∈ existing then
      addScopes userApp expiresAt maxAmountSat budgetRenewal scopes (existing.filter (· ≠ scope)) r
    else
      match r.createPermission userApp scope expiresAt (int64 maxAmountSat) budgetRenewal with
      | .error e => .error e
      | .ok r => addScopes userApp expiresAt maxAmountSat budgetRenewal scopes existing r

/-- Reference: `api/api.go:291 UpdateApp`, the scopes. -/
def updateScopes (userApp : AppRow) (expiresAt : Option Time) (maxAmountSat : Nat)
    (budgetRenewal : String) (existing scopes : List String) (r : Registry) :
    Except String Registry := do
  refuse (scopes = []) "won't update an app to have no request methods"
  refuse ("superuser" ∈ scopes ∧ "superuser" ∉ existing)
    "cannot update app to add superuser permission"
  let (removed, r) ← addScopes userApp expiresAt maxAmountSat budgetRenewal scopes existing r
  return removed.foldl (fun r scope => r.deletePermissions userApp.id scope) r

/-- Whether the request touches the permissions. Reference: `api/api.go:239 UpdateApp`. -/
def UpdateAppRequest.touchesPermissions (request : UpdateAppRequest) (maxAmountSat : Option Nat) :
    Bool :=
  request.scopes.isSome || maxAmountSat.isSome || request.budgetRenewal.isSome ||
    request.expiresAt.isSome || request.updateExpiresAt

/-- A `uint64` with its high bit set is not a value of the database. Reference: Go
`driver.DefaultParameterConverter`. -/
def refuseHighBit (maxAmountSat : Nat) : Except String Unit :=
  refuse (2 ^ 63 ≤ maxAmountSat) "uint64 values with high bit set are not supported"

/-- The expiry after an update. Reference: `api/api.go:263 UpdateApp`. -/
def newExpiresAt (env : AppsEnv) (request : UpdateAppRequest) (current : Option Time) :
    Except String (Option Time) :=
  match request.expiresAt with
  | some expiresAt => (parseExpiresAt env expiresAt).mapError ("invalid expiresAt: " ++ ·)
  | none => .ok (if request.updateExpiresAt = true then none else current)

/-- Reference: `api/api.go:239 UpdateApp`, the permissions. -/
def updatePermissions (env : AppsEnv) (userApp : AppRow) (request : UpdateAppRequest)
    (r : Registry) :
    Except String Registry := do
  let resolved := ResolveToSat request.maxAmountSat request.maxAmountMsat request.maxAmount none
  if request.touchesPermissions resolved = false then return r
  else
    let existing := r.permissions.filter (·.appId = userApp.id)
    let payInvoice := existing.find? (·.scope = "pay_invoice")
    let maxAmountSat := resolved.getD ((payInvoice.map fun p => uint64OfInt p.maxAmountSat).getD 0)
    let budgetRenewal := request.budgetRenewal.getD ((payInvoice.map (·.budgetRenewal)).getD "")
    let expiresAt ← newExpiresAt env request (payInvoice.bind (·.expiresAt))
    refuseHighBit maxAmountSat
    let r := r.updatePermissions userApp.id expiresAt maxAmountSat budgetRenewal
    match request.scopes with
    | none => return r
    | some scopes =>
      updateScopes userApp expiresAt maxAmountSat budgetRenewal (existing.map (·.scope)) scopes r

/-- `userApp` is the row as the caller has read it. Reference: `api/api.go:171 UpdateApp`. -/
def Api.UpdateApp (env : AppsEnv) (userApp : AppRow) (request : UpdateAppRequest) (r : Registry) :
    Except String Registry := do
  let r ← updateName userApp request.name r
  let r ← updateIsolated env userApp request.isolated r
  let r ← updateMetadata env userApp request.metadata r
  let r ← updatePermissions env userApp request r
  match env.fault with
  | some e => .error e
  | none => .ok r

/-! ## What the calls do to the scopes -/

section
variable {ε α β : Type} {r r' : Registry} {app userApp : AppRow} {appId : Nat} {scope : String}
variable {env : AppsEnv} {expiresAt : Option Time} {budgetRenewal : String}
variable {scopes existing removed : List String}

/-- The rule of `if err != nil { return err }`. Reference: the Go language. -/
theorem ok_of_bind {x : Except ε α} {f : α → Except ε β} {b : β} (h : x >>= f = .ok b) :
    ∃ a, x = .ok a ∧ f a = .ok b := by
  cases x with
  | error e => cases h
  | ok a => exact ⟨a, rfl, h⟩

theorem not_of_refuse {bad : Prop} [Decidable bad] {text : String} {u : Unit}
    (h : refuse bad text = .ok u) : ¬ bad := by
  unfold refuse at h
  split at h
  · cases h
  · assumption

theorem hasScope_createPermissions {maxAmountSat : Int}
    (h : createPermissions app expiresAt maxAmountSat budgetRenewal scopes r = .ok r') :
    r'.HasScope appId scope ↔ r.HasScope appId scope ∨ (app.id = appId ∧ scope ∈ scopes) := by
  induction scopes generalizing r with
  | nil =>
    obtain rfl := Except.ok.inj h
    simp
  | cons s scopes ih =>
    unfold createPermissions at h
    split at h
    · cases h
    · next r₁ hp =>
      rw [ih h, Registry.hasScope_createPermission hp, List.mem_cons]
      constructor
      · rintro ((hold | ⟨hid, rfl⟩) | ⟨hid, hmem⟩)
        · exact .inl hold
        · exact .inr ⟨hid, .inl rfl⟩
        · exact .inr ⟨hid, .inr hmem⟩
      · rintro (hold | ⟨hid, rfl | hmem⟩)
        · exact .inl (.inl hold)
        · exact .inl (.inr ⟨hid, rfl⟩)
        · exact .inr ⟨hid, hmem⟩

/-- The transaction gives a new app the requested scopes, and no other app any. Reference:
`apps/apps_service.go:120 CreateApp`. -/
theorem createAppTx_ok {maxAmountSat : Nat} {app' : AppRow}
    (h : createAppTx env app maxAmountSat budgetRenewal expiresAt scopes r = .ok (app', r')) :
    app'.id = r.nextAppId ∧ ∀ appId scope,
      r'.HasScope appId scope ↔ r.HasScope appId scope ∨
        (r.nextAppId = appId ∧ scope ∈ scopes) := by
  obtain ⟨_, -, h⟩ := ok_of_bind h
  obtain ⟨r₁, hperms, h⟩ := ok_of_bind h
  obtain ⟨key, -, h⟩ := ok_of_bind h
  obtain ⟨walletPubkey, -, h⟩ := ok_of_bind h
  split at h
  · cases h
  · cases h
    refine ⟨rfl, fun appId scope => ?_⟩
    rw [Registry.hasScope_updateApp, hasScope_createPermissions hperms, Registry.hasScope_insertApp]

/-- Reference: `apps/apps_service.go:48 CreateApp`. -/
theorem AppsService.CreateApp_ok {name pubkey secret : String} {maxAmountSat : Nat}
    {isolated : Bool}
    {metadata : Option (List (String × Json))} {app' : AppRow}
    (h : AppsService.CreateApp env name pubkey maxAmountSat budgetRenewal expiresAt scopes isolated
      metadata r = .ok ((app', secret), r')) :
    app'.id = r.nextAppId ∧ ∀ appId scope,
      r'.HasScope appId scope ↔ r.HasScope appId scope ∨
        (r.nextAppId = appId ∧ scope ∈ scopes) := by
  obtain ⟨_, -, h⟩ := ok_of_bind h
  obtain ⟨_, -, h⟩ := ok_of_bind h
  obtain ⟨_, -, h⟩ := ok_of_bind h
  obtain ⟨_, -, h⟩ := ok_of_bind h
  obtain ⟨_, -, h⟩ := ok_of_bind h
  obtain ⟨keys, -, h⟩ := ok_of_bind h
  obtain ⟨metadata, -, h⟩ := ok_of_bind h
  obtain ⟨⟨app, r₁⟩, htx, h⟩ := ok_of_bind h
  cases h
  exact createAppTx_ok htx

/-- An update inserts rows of the requested scopes only, for its own app. Reference:
`api/api.go:307 UpdateApp`. -/
theorem hasScope_of_addScopes {maxAmountSat : Nat}
    (h : addScopes userApp expiresAt maxAmountSat budgetRenewal scopes existing r =
      .ok (removed, r'))
    (hs : r'.HasScope appId scope) : r.HasScope appId scope ∨
    (userApp.id = appId ∧ scope ∈ scopes) := by
  induction scopes generalizing r existing with
  | nil =>
    cases h
    exact .inl hs
  | cons s scopes ih =>
    unfold addScopes at h
    split at h
    · rcases ih h with hold | ⟨hid, hmem⟩
      · exact .inl hold
      · exact .inr ⟨hid, List.mem_cons_of_mem s hmem⟩
    · split at h
      · cases h
      · next r₁ hp =>
        rcases ih h with hold | ⟨hid, hmem⟩
        · rcases (Registry.hasScope_createPermission hp).1 hold with hold | ⟨hid, rfl⟩
          · exact .inl hold
          · exact .inr ⟨hid, List.mem_cons_self⟩
        · exact .inr ⟨hid, List.mem_cons_of_mem s hmem⟩

theorem hasScope_of_foldl_delete {id : Nat}
    (h : (removed.foldl (fun r scope => r.deletePermissions id scope) r).HasScope appId scope) :
    r.HasScope appId scope := by
  induction removed generalizing r with
  | nil => exact h
  | cons s removed ih => exact Registry.hasScope_of_deletePermissions (ih h)

theorem hasScope_updateName {name : Option String} (h : updateName userApp name r = .ok r') :
    r'.HasScope appId scope ↔ r.HasScope appId scope := by
  unfold updateName at h
  split at h
  · cases h; rfl
  · cases h
  · cases h
    split
    · exact Registry.hasScope_updateApp
    · rfl

theorem hasScope_updateIsolated {isolated : Option Bool}
    (h : updateIsolated env userApp isolated r = .ok r') :
    r'.HasScope appId scope ↔ r.HasScope appId scope := by
  unfold updateIsolated at h
  split at h
  · cases h; rfl
  · split at h
    · cases h; rfl
    · obtain ⟨appStoreId, -, h⟩ := ok_of_bind h
      obtain ⟨_, -, h⟩ := ok_of_bind h
      cases h
      exact Registry.hasScope_updateApp

theorem hasScope_updateMetadata {metadata : Option (List (String × Json))}
    (h : updateMetadata env userApp metadata r = .ok r') :
    r'.HasScope appId scope ↔ r.HasScope appId scope := by
  unfold updateMetadata at h
  split at h
  · cases h; rfl
  · obtain ⟨text, -, h⟩ := ok_of_bind h
    cases h
    exact Registry.hasScope_updateApp

end

end AlbyHub
