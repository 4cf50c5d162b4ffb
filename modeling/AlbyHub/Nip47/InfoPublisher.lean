import AlbyHub.Apps.Connections
import AlbyHub.Nip47.Permitted

/-!
# The publication of the info events

The relays have an info event of every app connection, with the methods the app may call. The hub
publishes it anew when an app is created or updated: the event of the change is consumed by a
goroutine, which enqueues a request for each relay, and one publisher takes the requests one after
the other, reads the rows of the app in several queries, and hands the event to the relay; where
that fails the request is enqueued again after a while. `InfoHub.step` is one step of any of these.

The event of an update is published before its transaction is committed. Where the publisher does
not read the rows of an app in between, an app for which nothing is left to do has the info event of
its present permissions on every relay (`info_up_to_date`).
-/

namespace AlbyHub

open Go Interaction EventHandler

/-! ## The model -/

/-- What the service is built from: the keys, of which no two apps have the same, the relays and the
node. Reference: `nip47/nip47_service.go:25 nip47Service`, `service/keys/keys.go:20 Keys`. -/
structure InfoWorld where
  nostrPublicKey : String
  appWalletKey : Nat → Except String String
  publicKey : String → Except String String
  relayUrls : List String
  supportedMethods : List String
  notificationTypes : List String
  distinct : ∀ i j privKey privKey' pubKey, appWalletKey i = .ok privKey →
    appWalletKey j = .ok privKey' → publicKey privKey = .ok pubKey →
    publicKey privKey' = .ok pubKey → i = j

/-- The public key of the wallet of an app. Reference: `service/update_app_consumer.go:31
ConsumeEvent`. -/
def InfoWorld.walletPubkey (W : InfoWorld) (appId : Nat) : Except String String := do
  let walletPrivKey ← W.appWalletKey appId
  W.publicKey walletPrivKey

/-- The calls on the apps have the keys of the service. Reference: `service/service.go:118
NewService`. -/
def InfoWorld.appsEnv (W : InfoWorld) (env : AppsEnv) : AppsEnv :=
  { env with appWalletKey := W.appWalletKey, publicKey := W.publicKey }

/-- The private key follows from the app. Reference: `nip47/publish_nip47_info.go:18
Nip47InfoPublishRequest`. -/
structure Nip47InfoPublishRequest where
  appId : Nat
  appWalletPubKey : String
  relayUrl : String
  attempt : Nat := 0
  deriving DecidableEq, Repr

/-- What an info event says. Reference: `nip47/publish_nip47_info.go:62 PublishNip47Info`, the
variables. -/
structure InfoCapabilities where
  capabilities : List String
  permitsNotifications : Bool
  appPubkey : Option String
  deriving DecidableEq, Repr

/-- The publication of an app's info: the app and its permissions are read one after the other.
Reference: `nip47/publish_nip47_info.go:61 PublishNip47Info`. -/
inductive PublishStage where
  | taken
  | found (app : AppRow)
  | permitted (app : AppRow) (capabilities : List String)
  | capable (c : InfoCapabilities)
  deriving DecidableEq, Repr

/-- An event that the consumers of the service look at. Reference:
`service/create_app_consumer.go:21 ConsumeEvent`, `service/update_app_consumer.go:19
ConsumeEvent`. -/
inductive AppEvent where
  | created (id : Nat)
  | updated (id : Nat)
  deriving DecidableEq, Repr

/-- Reference: the field `id` of the properties. -/
def AppEvent.appId : AppEvent → Nat
  | .created id | .updated id => id

/-- A call of `UpdateApp`. Reference: `api/api.go:171 UpdateApp`, the parameters. -/
structure AppUpdate where
  env : AppsEnv
  userApp : AppRow
  request : UpdateAppRequest

/-- The tables, the transactions of updates whose event is out, the events that are not consumed,
the requests whose send is waiting, those that are to be sent again later, the publisher, and what
the relays have been handed, latest first. Reference: `nip47/nip47_service.go:25 nip47Service`. -/
structure InfoHub where
  registry : Registry
  updating : List AppUpdate := []
  events : List AppEvent := []
  queue : List Nip47InfoPublishRequest := []
  retries : List Nip47InfoPublishRequest := []
  job : Option (Nip47InfoPublishRequest × PublishStage) := none
  published : List (String × NostrEvent) := []

/-- A step: a call on the apps, a part of a transaction, the consumption of an event, the start of a
hub, and the parts of the publisher. A `fault` is a failure of the database. Reference: none. -/
inductive InfoLabel where
  | createApp (env : AppsEnv) (name pubkey : String) (maxAmountSat : Nat) (budgetRenewal : String)
    (expiresAt : Option Time) (scopes : List String) (isolated : Bool)
    (metadata : Option (List (String × Json)))
  | publishUpdated (u : AppUpdate)
  | commitUpdate (i : Nat)
  | abortUpdate (i : Nat)
  | deleteApp (env : AppsEnv) (appId : Nat)
  | consume (i : Nat) (fault : Bool)
  | publishAll
  | take (i : Nat)
  | readApp (fault : Bool)
  | readPermissions (fault : Bool)
  | readNotifications (fault : Bool) (choice : Nat)
  | publish (createdAt : Int) (ok : Bool)
  | wake (i : Nat)

/-- The event that is signed and handed to the relay. Reference: `nip47/publish_nip47_info.go:86
PublishNip47Info`. -/
def infoEvent (W : InfoWorld) (appWalletPubKey : String) (createdAt : Int) (c : InfoCapabilities) :
    NostrEvent :=
  let notifies := c.permitsNotifications = true ∧ W.notificationTypes ≠ []
  { pubKey := appWalletPubKey
    createdAt := createdAt
    kind := 13194
    tags := ["encryption", "nip44_v2 nip04"] :: (c.appPubkey.toList.map fun p => ["p", p]) ++
      if notifies then [["notifications", " ".intercalate W.notificationTypes]] else []
    content := " ".intercalate (c.capabilities ++ if notifies then ["notifications"] else []) }

/-- Reference: `nip47/permissions/permissions.go:101 PermitsNotifications`. -/
def PermitsNotifications (turn : AppTurn) (app : AppRow) : Bool :=
  (turn.findPermission app "notifications").isSome

namespace InfoHub

/-- What a query sees of the permissions. Reference: `nip47/permissions/permissions.go:69
GetPermittedMethods`. -/
def turn (s : InfoHub) (fault : Bool) (choice : Nat) : AppTurn :=
  { now := 0, permissions := s.registry.permissions, fault, choice }

/-- A request for each relay. Reference: `nip47/nip47_service.go:102
EnqueueNip47InfoPublishRequest`, and the loops of its callers. -/
def enqueue (W : InfoWorld) (appId : Nat) (appWalletPubKey : String) (s : InfoHub) : InfoHub :=
  { s with queue := s.queue ++
      W.relayUrls.map fun relayUrl => { appId, appWalletPubKey, relayUrl } }

/-- Reference: `service/create_app_consumer.go:20 ConsumeEvent`,
`service/update_app_consumer.go:18 ConsumeEvent`. -/
def consumeEvent (W : InfoWorld) (fault : Bool) (s : InfoHub) : AppEvent → InfoHub
  | .created id =>
    if fault = true ∨ ¬ s.registry.HasApp id then s else
    match W.walletPubkey id with
    | .error _ => s
    | .ok walletPubKey => s.enqueue W id walletPubKey
  | .updated id =>
    match W.walletPubkey id with
    | .error _ => s
    | .ok walletPubKey =>
      if W.nostrPublicKey ≠ walletPubKey then s.enqueue W id walletPubKey else s

/-- The requests for the apps with a key of their own. Reference: `service/start.go:155
publishAllAppInfoEvents`. -/
def enqueueApps (W : InfoWorld) (apps : List AppRow) (s : InfoHub) : InfoHub :=
  apps.foldl (fun s app =>
    match app.walletPubkey, W.appWalletKey app.id with
    | some walletPubkey, .ok _ => s.enqueue W app.id walletPubkey
    | _, _ => s) s

/-- Reference: `service/start.go:139 publishAllAppInfoEvents`. -/
def publishAllAppInfoEvents (W : InfoWorld) (s : InfoHub) : InfoHub :=
  enqueueApps W s.registry.apps
    (if s.registry.apps.any (·.walletPubkey = none) then s.enqueue W 0 W.nostrPublicKey else s)

/-- The request is sent again after a while. Reference: `nip47/nip47_service.go:145
StartNip47InfoPublisher`. -/
def retry (request : Nip47InfoPublishRequest) (s : InfoHub) : InfoHub :=
  { s with
    job := none
    retries := s.retries ++ [{ request with attempt := (request.attempt + 1) % 2 ^ 32 }] }

/-- The first query, and what the request of the legacy apps says without one. An app that is not
there is skipped. Reference: `nip47/publish_nip47_info.go:66 PublishNip47Info`,
`nip47/nip47_service.go:130 StartNip47InfoPublisher`. -/
def readApp (W : InfoWorld) (fault : Bool) (request : Nip47InfoPublishRequest) (s : InfoHub) :
    InfoHub :=
  if W.nostrPublicKey = request.appWalletPubKey then
    { s with job := some (request, .capable ⟨W.supportedMethods, true, none⟩) }
  else if fault then s.retry request
  else match s.registry.apps.find? (·.id = request.appId) with
    | none => { s with job := none }
    | some app => { s with job := some (request, .found app) }

/-- One step. Reference: `apps/apps_service.go:48 CreateApp`, `:183 DeleteApp`, `api/api.go:171
UpdateApp`, `nip47/nip47_service.go:116 StartNip47InfoPublisher`, `nip47/publish_nip47_info.go:61
PublishNip47Info`. -/
def step (W : InfoWorld) (s : InfoHub) : InfoLabel → Option InfoHub
  | .createApp env name pubkey maxAmountSat budgetRenewal expiresAt scopes isolated metadata =>
    match AppsService.CreateApp (W.appsEnv env) name pubkey maxAmountSat budgetRenewal expiresAt
      scopes isolated metadata s.registry with
    | .error _ => none
    | .ok ((app, _), r) => some { s with registry := r, events := s.events ++ [.created app.id] }
  | .publishUpdated u =>
    if s.registry.HasApp u.userApp.id then
      match Api.UpdateApp u.env u.userApp u.request s.registry with
      | .error _ => none
      | .ok _ => some { s with
          updating := s.updating ++ [u], events := s.events ++ [.updated u.userApp.id] }
    else none
  | .commitUpdate i =>
    match s.updating[i]? with
    | none => none
    | some u =>
      if s.registry.HasApp u.userApp.id then
        match Api.UpdateApp u.env u.userApp u.request s.registry with
        | .error _ => none
        | .ok r => some { s with registry := r, updating := s.updating.eraseIdx i }
      else none
  | .abortUpdate i =>
    if i < s.updating.length then some { s with updating := s.updating.eraseIdx i } else none
  | .deleteApp env appId =>
    match AppsService.DeleteApp env appId s.registry with
    | .error _ => none
    | .ok r => some { s with registry := r }
  | .consume i fault =>
    match s.events[i]? with
    | none => none
    | some e => some (consumeEvent W fault { s with events := s.events.eraseIdx i } e)
  | .publishAll => some (s.publishAllAppInfoEvents W)
  | .take i =>
    match s.job, s.queue[i]? with
    | none, some request =>
      some { s with queue := s.queue.eraseIdx i, job := some (request, .taken) }
    | _, _ => none
  | .readApp fault =>
    match s.job with
    | some (request, .taken) => some (s.readApp W fault request)
    | _ => none
  | .readPermissions fault =>
    match s.job with
    | some (request, .found app) => some { s with job := some (request, .permitted app
        (GetPermittedMethods app (s.turn fault 0) W.supportedMethods)) }
    | _ => none
  | .readNotifications fault choice =>
    match s.job with
    | some (request, .permitted app capabilities) => some { s with job := some (request, .capable
        ⟨capabilities, PermitsNotifications (s.turn fault choice) app, some app.appPubkey⟩) }
    | _ => none
  | .publish createdAt ok =>
    match s.job with
    | some (request, .capable c) =>
      if ok then some { s with job := none, published :=
        (request.relayUrl, infoEvent W request.appWalletPubKey createdAt c) :: s.published }
      else some (s.retry request)
    | _ => none
  | .wake i =>
    match s.retries[i]? with
    | none => none
    | some request => some { s with
        retries := s.retries.eraseIdx i, queue := s.queue ++ [request] }

/-- What a relay has been handed last under a key. Reference: none. -/
def latest (s : InfoHub) (relayUrl pubKey : String) : Option NostrEvent :=
  (s.published.find? fun p => p.1 = relayUrl ∧ p.2.pubKey = pubKey).map (·.2)

/-- Nothing is left to do for an app and a relay. Reference: none. -/
structure Idle (s : InfoHub) (appId : Nat) (relayUrl : String) : Prop where
  updating : ∀ u ∈ s.updating, u.userApp.id ≠ appId
  events : ∀ e ∈ s.events, e.appId ≠ appId
  requests : ∀ q ∈ s.queue ++ s.retries, q.appId = appId → q.relayUrl ≠ relayUrl
  job : ∀ q stage, s.job = some (q, stage) → q.appId = appId → q.relayUrl ≠ relayUrl

/-- Every relay for which nothing is left to do has been handed the app's present permissions last.
Reference: `nip47/publish_nip47_info.go:61 PublishNip47Info`. -/
def UpToDate (W : InfoWorld) (s : InfoHub) : Prop :=
  ∀ app ∈ s.registry.apps, ∀ walletPubkey, app.walletPubkey = some walletPubkey →
    walletPubkey ≠ W.nostrPublicKey → ∀ relayUrl ∈ W.relayUrls, s.Idle app.id relayUrl →
      ∃ createdAt, s.latest relayUrl walletPubkey = some (infoEvent W walletPubkey createdAt
        ⟨GetPermittedMethods app (s.turn false 0) W.supportedMethods,
          decide (s.registry.HasScope app.id "notifications"), some app.appPubkey⟩)

/-- No query fails where the failure is not noticed, and the publisher does not begin to read the
rows of an app whose update has published its event and is not committed. Reference:
`service/create_app_consumer.go:37 ConsumeEvent`, `nip47/permissions/permissions.go:69
GetPermittedMethods`, `api/api.go:332 UpdateApp`. -/
def Separate (s : InfoHub) : InfoLabel → Prop
  | .consume _ fault | .readPermissions fault | .readNotifications fault _ => fault = false
  | .readApp _ => ∀ u ∈ s.updating, ∀ job ∈ s.job, u.userApp.id ≠ job.1.appId
  | _ => True

instance (s : InfoHub) (l : InfoLabel) : Decidable (s.Separate l) :=
  match l with
  | .consume _ fault | .readPermissions fault | .readNotifications fault _ =>
    inferInstanceAs (Decidable (fault = false))
  | .readApp _ => inferInstanceAs (Decidable (∀ u ∈ s.updating, ∀ job ∈ s.job, _))
  | .createApp .. | .publishUpdated _ | .commitUpdate _ | .abortUpdate _ | .deleteApp _ _
  | .publishAll | .take _ | .publish _ _ | .wake _ => isTrue trivial

end InfoHub

/-- The wallet keys are those of the ids, and the ids are distinct and positive. Reference:
`apps/apps_service.go:144 CreateApp`, `AUTOINCREMENT`. -/
structure Registry.Consistent (W : InfoWorld) (r : Registry) : Prop where
  positive : r.Positive
  nodup : (r.connections.map (·.1)).Nodup
  keyed : ∀ id pubkey walletPubkey, (id, pubkey, some walletPubkey) ∈ r.connections →
    W.walletPubkey id = .ok walletPubkey

/-- The hub when it starts. Reference: `service/start.go:321 StartApp`. -/
def InfoHub.started (W : InfoWorld) (r : Registry) (published : List (String × NostrEvent)) :
    InfoHub :=
  InfoHub.publishAllAppInfoEvents W { registry := r, published }

/-! ## What the relays have to be told -/

/-- The methods that scopes permit. Reference: `nip47/permissions/permissions.go:76
GetPermittedMethods`. -/
def permittedMethods (scopes supportedMethods : List String) : List String :=
  let methods := scopes.flatMap scopeToRequestMethods
  (methods ++ GetAlwaysGrantedMethods.filter fun method => method ∉ methods).filter fun method =>
    method = "create_connection" ∨ method ∈ supportedMethods

/-- What an app's connection and scopes are to say. Reference: `nip47/publish_nip47_info.go:66
PublishNip47Info`. -/
def Registry.capabilities (W : InfoWorld) (r : Registry) (id : Nat) (pubkey : String) :
    InfoCapabilities :=
  ⟨permittedMethods (r.scopes id) W.supportedMethods, decide ("notifications" ∈ r.scopes id),
    some pubkey⟩

section
variable {W : InfoWorld} {r r' : Registry} {app : AppRow} {turn : AppTurn} {id : Nat}
variable {pubkey walletPubkey relayUrl : String} {supportedMethods : List String}

theorem GetPermittedMethods_eq (hfault : turn.fault = false)
    (hperms : turn.permissions = r.permissions) :
    GetPermittedMethods app turn supportedMethods =
      permittedMethods (r.scopes app.id) supportedMethods := by
  have hscopes : (r.permissions.filter fun p => p.appId = app.id).map (·.scope) =
      r.scopes app.id := by
    simp [Registry.scopes, Registry.grants]
  simp only [GetPermittedMethods, permittedMethods, hfault, hperms, hscopes, Bool.false_eq_true,
    if_false]

theorem Registry.mem_scopes {scope : String} : scope ∈ r.scopes id ↔ r.HasScope id scope := by
  simp [scopes, grants, HasScope, and_assoc]

theorem PermitsNotifications_eq (hfault : turn.fault = false)
    (hperms : turn.permissions = r.permissions) (hid : app.id ≠ 0) :
    PermitsNotifications turn app = decide ("notifications" ∈ r.scopes app.id) := by
  have hfind : turn.findPermission app "notifications" = pick turn.choice
      (r.permissions.filter fun p => p.appId = app.id ∧ p.scope = "notifications") := by
    simp [AppTurn.findPermission, hfault, hperms, hid]
  rw [PermitsNotifications, hfind, Bool.eq_iff_iff, decide_eq_true_eq, Registry.mem_scopes]
  constructor
  · intro h
    obtain ⟨p, hp⟩ := Option.isSome_iff_exists.1 h
    obtain ⟨hmem, hkey⟩ := List.mem_filter.1 (mem_of_pick hp)
    exact ⟨p, hmem, of_decide_eq_true hkey⟩
  · rintro ⟨p, hp, hkey⟩
    rw [Option.isSome_iff_ne_none, ne_eq, pick_eq_none]
    exact List.ne_nil_of_mem (List.mem_filter.2 ⟨hp, decide_eq_true hkey⟩)

theorem InfoWorld.walletPubkey_inj {i j : Nat} (hi : W.walletPubkey i = .ok walletPubkey)
    (hj : W.walletPubkey j = .ok walletPubkey) : i = j := by
  obtain ⟨_, hki, hi⟩ := ok_of_bind hi
  obtain ⟨_, hkj, hj⟩ := ok_of_bind hj
  exact W.distinct i j _ _ walletPubkey hki hkj hi hj

/-! ## The calls keep the tables consistent -/

theorem Registry.Consistent.created (hr : r.Consistent W) {env : AppsEnv}
    {name pubkey secret budgetRenewal : String} {maxAmountSat : Nat} {expiresAt : Option Time}
    {scopes : List String} {isolated : Bool} {metadata : Option (List (String × Json))}
    {app' : AppRow}
    (h : AppsService.CreateApp (W.appsEnv env) name pubkey maxAmountSat budgetRenewal expiresAt
      scopes isolated metadata r = .ok ((app', secret), r')) : r'.Consistent W := by
  obtain ⟨appPubkey, key, walletPubkey, hkey, hwallet, hconn⟩ := AppsService.CreateApp_connections h
  refine ⟨hr.positive.created (AppsService.CreateApp_created h), ?_, ?_⟩
  · rw [hconn, List.map_append, List.nodup_append]
    refine ⟨hr.nodup, List.nodup_singleton _, ?_⟩
    intro a ha b hb heq
    obtain ⟨⟨id, pubkey, wallet⟩, hc, rfl⟩ := List.mem_map.1 ha
    obtain rfl := List.mem_singleton.1 hb
    have hid : id = r.nextAppId := heq
    exact Registry.not_hasApp_nextAppId (hid ▸ Registry.hasApp_of_connection hc)
  · intro id pubkey wallet hc
    rw [hconn, List.mem_append, List.mem_singleton] at hc
    rcases hc with hold | hnew
    · exact hr.keyed id pubkey wallet hold
    · obtain ⟨rfl, -, hw⟩ : id = r.nextAppId ∧ pubkey = appPubkey ∧ some wallet =
          some walletPubkey := by simpa using hnew
      cases hw
      show (W.appWalletKey r.nextAppId >>= W.publicKey) = .ok walletPubkey
      rw [show W.appWalletKey r.nextAppId = .ok key from hkey]
      exact hwallet

theorem Registry.Consistent.updated (hr : r.Consistent W) {env : AppsEnv} {userApp : AppRow}
    {request : UpdateAppRequest} (happ : r.HasApp userApp.id)
    (h : Api.UpdateApp env userApp request r = .ok r') : r'.Consistent W := by
  have hconn := Api.UpdateApp_connections happ h
  obtain ⟨hnext, happs⟩ := Api.UpdateApp_apps happ h
  exact ⟨⟨hnext ▸ hr.positive.nextAppId, fun id hid => hr.positive.app id ((happs id).1 hid)⟩,
    hconn ▸ hr.nodup, hconn ▸ hr.keyed⟩

theorem Registry.Consistent.deleted (hr : r.Consistent W) : (r.deleteApp id).Consistent W := by
  refine ⟨⟨hr.positive.nextAppId, fun id hid => ?_⟩, ?_, fun id pubkey wallet hc => ?_⟩
  · exact hr.positive.app id (hasApp_deleteApp.1 hid).1
  · have hfilter : (r.deleteApp id).connections = r.connections.filter (·.1 ≠ id) := by
      simp only [connections, deleteApp, List.filter_map]
      rfl
    rw [hfilter]
    exact hr.nodup.sublist (List.filter_sublist.map _)
  · exact hr.keyed id pubkey wallet (mem_connections_deleteApp.1 hc).1

/-- The row of a connection. Reference: gorm `First`. -/
theorem Registry.Consistent.find (hr : r.Consistent W) {wallet : Option String}
    (hc : (id, pubkey, wallet) ∈ r.connections) :
    ∃ app, r.apps.find? (·.id = id) = some app ∧ app.id = id ∧ app.appPubkey = pubkey := by
  obtain ⟨a, ha, hid, hpubkey, hwallet⟩ := mem_connections.1 hc
  cases hfind : r.apps.find? (·.id = id) with
  | none => exact absurd (decide_eq_true hid) (List.find?_eq_none.1 hfind a ha)
  | some app =>
    have happ : app.id = id := by simpa using List.find?_some hfind
    have hmem : (app.id, app.appPubkey, app.walletPubkey) ∈ r.connections :=
      mem_connections.2 ⟨app, List.mem_of_find?_eq_some hfind, rfl, rfl, rfl⟩
    have heq := List.inj_on_of_nodup_map hr.nodup hmem hc happ
    exact ⟨app, rfl, happ, congrArg (·.2.1) heq⟩

end

/-! ## What is left to do -/

/-- The request is for the app's key and the relay. Reference: `nip47/publish_nip47_info.go:18
Nip47InfoPublishRequest`. -/
def Nip47InfoPublishRequest.Asks (q : Nip47InfoPublishRequest) (appId : Nat)
    (walletPubkey relayUrl : String) : Prop :=
  q.appId = appId ∧ q.appWalletPubKey = walletPubkey ∧ q.relayUrl = relayUrl

/-- The key of a request is the one of its app, or that of the hub. Reference:
`service/update_app_consumer.go:41 ConsumeEvent`, `service/start.go:149
publishAllAppInfoEvents`. -/
def Nip47InfoPublishRequest.Valid (W : InfoWorld) (q : Nip47InfoPublishRequest) : Prop :=
  q.appWalletPubKey = W.nostrPublicKey ∨ W.walletPubkey q.appId = .ok q.appWalletPubKey

/-- What has been read of the app agrees with what its info event is to say. Reference: none. -/
def PublishStage.Shows (id : Nat) (pubkey : String) (c : InfoCapabilities) : PublishStage → Prop
  | .taken => True
  | .found app => app.id = id ∧ app.appPubkey = pubkey
  | .permitted app capabilities =>
    app.id = id ∧ app.appPubkey = pubkey ∧ capabilities = c.capabilities
  | .capable c' => c' = c

/-- The publisher is at the app and the relay. Reference: none. -/
def InfoHub.At (s : InfoHub) (id : Nat) (walletPubkey relayUrl : String) (stage : PublishStage) :
    Prop :=
  ∃ q, s.job = some (q, stage) ∧ q.Asks id walletPubkey relayUrl

/-- Something of the app and the relay is still to be read: an event that is not consumed, or a
request that is not begun. Reference: none. -/
def InfoHub.Unread (s : InfoHub) (id : Nat) (walletPubkey relayUrl : String) : Prop :=
  (∃ e ∈ s.events, e.appId = id) ∨
    (∃ q ∈ s.queue ++ s.retries, q.Asks id walletPubkey relayUrl) ∨
    s.At id walletPubkey relayUrl .taken

/-- No update of the app is open; what the publisher has read of it is what is there, and where it
is not at the app the relay has been told. Reference: none. -/
structure InfoHub.Told (W : InfoWorld) (s : InfoHub) (id : Nat)
    (pubkey walletPubkey relayUrl : String) (c : InfoCapabilities) : Prop where
  updating : ∀ u ∈ s.updating, u.userApp.id ≠ id
  reading : ∀ stage, s.At id walletPubkey relayUrl stage → stage.Shows id pubkey c
  handed : (∀ stage, ¬ s.At id walletPubkey relayUrl stage) →
    ∃ createdAt, s.latest relayUrl walletPubkey = some (infoEvent W walletPubkey createdAt c)

/-- The invariant: of each app and relay something is to be read, or the relay has been told.
Reference: none. -/
structure InfoHub.Tracked (W : InfoWorld) (s : InfoHub) : Prop where
  consistent : s.registry.Consistent W
  requests : ∀ q ∈ s.queue ++ s.retries, q.Valid W
  job : ∀ q stage, s.job = some (q, stage) → q.Valid W
  told : ∀ id pubkey walletPubkey, (id, pubkey, some walletPubkey) ∈ s.registry.connections →
    walletPubkey ≠ W.nostrPublicKey → ∀ relayUrl ∈ W.relayUrls,
      s.Unread id walletPubkey relayUrl ∨
        s.Told W id pubkey walletPubkey relayUrl (s.registry.capabilities W id pubkey)

section
variable {W : InfoWorld} {s s' : InfoHub} {id : Nat} {pubkey walletPubkey relayUrl : String}
variable {c : InfoCapabilities}

/-- What is to be read is not lost while the lists grow. Reference: none. -/
theorem InfoHub.Unread.mono (h : s.Unread id walletPubkey relayUrl)
    (hevents : ∀ e ∈ s.events, e ∈ s'.events)
    (hrequests : ∀ q ∈ s.queue ++ s.retries, q ∈ s'.queue ++ s'.retries)
    (hjob : s'.job = s.job) : s'.Unread id walletPubkey relayUrl := by
  rcases h with ⟨e, he, hid⟩ | ⟨q, hq, hasks⟩ | ⟨q, hq, hasks⟩
  · exact .inl ⟨e, hevents e he, hid⟩
  · exact .inr (.inl ⟨q, hrequests q hq, hasks⟩)
  · exact .inr (.inr ⟨q, hjob.trans hq, hasks⟩)

theorem InfoHub.Told.mono (h : s.Told W id pubkey walletPubkey relayUrl c)
    (hupdating : ∀ u ∈ s'.updating, u ∈ s.updating ∨ u.userApp.id ≠ id) (hjob : s'.job = s.job)
    (hpublished : s'.published = s.published) :
    s'.Told W id pubkey walletPubkey relayUrl c := by
  have hat : ∀ stage, s'.At id walletPubkey relayUrl stage ↔
      s.At id walletPubkey relayUrl stage := fun stage => by rw [At, hjob, At]
  refine ⟨fun u hu => ?_, fun stage h' => h.reading stage ((hat stage).1 h'), fun hn => ?_⟩
  · exact (hupdating u hu).elim (h.updating u) fun hne => hne
  · rw [InfoHub.latest, hpublished]
    exact h.handed fun stage h' => hn stage ((hat stage).2 h')

/-- A step that keeps the publisher where it is keeps the invariant where it loses nothing that is
to be read, and where each connection has an event, or was there, and then its scopes are as they
were and no update of it has begun, or something of it was to be read. Reference: none. -/
theorem InfoHub.Tracked.keep (h : s.Tracked W) (hr : s'.registry.Consistent W)
    (hrequests : ∀ q ∈ s'.queue ++ s'.retries, q.Valid W) (hjob : s'.job = s.job)
    (hpublished : s'.published = s.published)
    (hunread : ∀ id pubkey walletPubkey, (id, pubkey, some walletPubkey) ∈ s.registry.connections →
      walletPubkey ≠ W.nostrPublicKey → ∀ relayUrl ∈ W.relayUrls,
        s.Unread id walletPubkey relayUrl → s'.Unread id walletPubkey relayUrl)
    (hconn : ∀ c ∈ s'.registry.connections, (∃ e ∈ s'.events, e.appId = c.1) ∨
      c ∈ s.registry.connections ∧ ((∃ u ∈ s.updating, u.userApp.id = c.1) ∨
        s'.registry.scopes c.1 = s.registry.scopes c.1 ∧
        ∀ u ∈ s'.updating, u ∈ s.updating ∨ u.userApp.id ≠ c.1)) : s'.Tracked W := by
  refine ⟨hr, hrequests, fun q stage hq => h.job q stage (hjob.symm.trans hq), ?_⟩
  intro id pubkey walletPubkey hc hne relayUrl hrelay
  rcases hconn _ hc with hevent | ⟨hold, hrest⟩
  · exact .inl (.inl hevent)
  · have hkeep := hunread id pubkey walletPubkey hold hne relayUrl hrelay
    rcases h.told id pubkey walletPubkey hold hne relayUrl hrelay with hu | htold
    · exact .inl (hkeep hu)
    · rcases hrest with ⟨u, hu, hid⟩ | ⟨hscopes, hupdating⟩
      · exact absurd hid (htold.updating u hu)
      · rw [Registry.capabilities, hscopes]
        exact .inr (htold.mono hupdating hjob hpublished)

theorem mem_eraseIdx_or {α : Type} {l : List α} {a : α} (i : Nat) (ha : a ∈ l) :
    a ∈ l.eraseIdx i ∨ l[i]? = some a := by
  induction l generalizing i with
  | nil => exact absurd ha List.not_mem_nil
  | cons b l ih =>
    cases i with
    | zero =>
      rcases List.mem_cons.1 ha with rfl | ha
      · exact .inr rfl
      · exact .inl ha
    | succ i =>
      rcases List.mem_cons.1 ha with rfl | ha
      · exact .inl List.mem_cons_self
      · exact (ih i ha).imp (List.mem_cons_of_mem b) id

/-! ## The steps of the calls -/

theorem InfoHub.Tracked.createApp (h : s.Tracked W) {env : AppsEnv}
    {name pubkey budgetRenewal : String} {maxAmountSat : Nat} {expiresAt : Option Time}
    {scopes : List String} {isolated : Bool} {metadata : Option (List (String × Json))}
    (hs : s.step W (.createApp env name pubkey maxAmountSat budgetRenewal expiresAt scopes isolated
      metadata) = some s') : s'.Tracked W := by
  simp only [step] at hs
  split at hs
  · cases hs
  · next app secret r hcreate =>
    cases hs
    have hcreated := AppsService.CreateApp_created hcreate
    obtain ⟨appPubkey, key, wallet, -, -, hconn⟩ := AppsService.CreateApp_connections hcreate
    refine h.keep (h.consistent.created hcreate) h.requests rfl rfl ?_ ?_
    · exact fun _ _ _ _ _ _ _ hu => hu.mono (fun e he => List.mem_append_left _ he)
        (fun q hq => hq) rfl
    · intro c hc
      rw [hconn, List.mem_append, List.mem_singleton] at hc
      rcases hc with hold | rfl
      · have hne : c.1 ≠ s.registry.nextAppId := fun he =>
          Registry.not_hasApp_nextAppId (he ▸ Registry.hasApp_of_connection hold)
        exact .inr ⟨hold, .inr ⟨hcreated.otherScopes hne, fun u hu => .inl hu⟩⟩
      · refine .inl ⟨.created app.id, List.mem_append_right _ List.mem_cons_self, ?_⟩
        exact hcreated.id

theorem InfoHub.Tracked.publishUpdated (h : s.Tracked W) {u : AppUpdate}
    (hs : s.step W (.publishUpdated u) = some s') : s'.Tracked W := by
  simp only [step] at hs
  split at hs
  · split at hs
    · cases hs
    · cases hs
      refine h.keep h.consistent h.requests rfl rfl ?_ fun c hc => ?_
      · exact fun _ _ _ _ _ _ _ hu => hu.mono (fun e he => List.mem_append_left _ he)
          (fun q hq => hq) rfl
      · by_cases hid : u.userApp.id = c.1
        · exact .inl ⟨.updated u.userApp.id, List.mem_append_right _ List.mem_cons_self, hid⟩
        · refine .inr ⟨hc, .inr ⟨rfl, fun u' hu' => ?_⟩⟩
          rcases List.mem_append.1 hu' with hold | hnew
          · exact .inl hold
          · exact .inr (List.mem_singleton.1 hnew ▸ hid)
  · cases hs

theorem InfoHub.Tracked.commitUpdate (h : s.Tracked W) {i : Nat}
    (hs : s.step W (.commitUpdate i) = some s') : s'.Tracked W := by
  simp only [step] at hs
  split at hs
  · cases hs
  · next u hu =>
    split at hs
    · next happ =>
      split at hs
      · cases hs
      · next r hupdate =>
        cases hs
        refine h.keep (h.consistent.updated happ hupdate) h.requests rfl rfl
          (fun _ _ _ _ _ _ _ hunread => hunread) fun c hc => ?_
        have hold : c ∈ s.registry.connections := Api.UpdateApp_connections happ hupdate ▸ hc
        refine .inr ⟨hold, ?_⟩
        by_cases hid : u.userApp.id = c.1
        · exact .inl ⟨u, List.mem_of_getElem? hu, hid⟩
        · exact .inr ⟨Api.UpdateApp_scopes (Ne.symm hid) hupdate, fun u' hu' =>
            .inl (List.mem_of_mem_eraseIdx hu')⟩
    · cases hs

theorem InfoHub.Tracked.abortUpdate (h : s.Tracked W) {i : Nat}
    (hs : s.step W (.abortUpdate i) = some s') : s'.Tracked W := by
  simp only [step] at hs
  split at hs
  · cases hs
    exact h.keep h.consistent h.requests rfl rfl (fun _ _ _ _ _ _ _ hu => hu) fun c hc =>
      .inr ⟨hc, .inr ⟨rfl, fun u hu => .inl (List.mem_of_mem_eraseIdx hu)⟩⟩
  · cases hs

theorem InfoHub.Tracked.deleteApp (h : s.Tracked W) {env : AppsEnv} {appId : Nat}
    (hs : s.step W (.deleteApp env appId) = some s') : s'.Tracked W := by
  simp only [step, AppsService.DeleteApp] at hs
  cases hfault : env.fault with
  | some e => simp [hfault] at hs
  | none =>
    simp only [hfault, Option.some.injEq] at hs
    cases hs
    refine h.keep h.consistent.deleted h.requests rfl rfl (fun _ _ _ _ _ _ _ hu => hu) ?_
    intro c hc
    obtain ⟨hold, hne⟩ := Registry.mem_connections_deleteApp.1 hc
    exact .inr ⟨hold, .inr ⟨Registry.scopes_deleteApp hne, fun u hu => .inl hu⟩⟩

/-! ## The requests -/

theorem InfoHub.valid_enqueue (h : ∀ q ∈ s.queue ++ s.retries, q.Valid W)
    (hvalid : walletPubkey = W.nostrPublicKey ∨ W.walletPubkey id = .ok walletPubkey) :
    ∀ q ∈ (s.enqueue W id walletPubkey).queue ++ (s.enqueue W id walletPubkey).retries,
      q.Valid W := by
  intro q hq
  simp only [InfoHub.enqueue, List.mem_append, List.mem_map] at hq
  rcases hq with (hq | ⟨relayUrl, -, rfl⟩) | hq
  · exact h q (List.mem_append_left _ hq)
  · exact hvalid
  · exact h q (List.mem_append_right _ hq)

theorem InfoHub.Unread.enqueue {appId : Nat} {appWalletPubKey : String}
    (h : s.Unread id walletPubkey relayUrl) :
    (s.enqueue W appId appWalletPubKey).Unread id walletPubkey relayUrl := by
  refine h.mono (fun e he => he) (fun q hq => ?_) rfl
  simp only [InfoHub.enqueue, List.mem_append] at hq ⊢
  exact hq.imp_left .inl

/-- Requests with valid keys keep the invariant. Reference: `nip47/nip47_service.go:102
EnqueueNip47InfoPublishRequest`. -/
theorem InfoHub.Tracked.enqueue (h : s.Tracked W)
    (hvalid : walletPubkey = W.nostrPublicKey ∨ W.walletPubkey id = .ok walletPubkey) :
    (s.enqueue W id walletPubkey).Tracked W :=
  h.keep h.consistent (InfoHub.valid_enqueue h.requests hvalid) rfl rfl
    (fun _ _ _ _ _ _ _ hu => hu.enqueue) fun _ hc => .inr ⟨hc, .inr ⟨rfl, fun _ hu => .inl hu⟩⟩

/-- A request for each relay is in the queue. Reference: `service/create_app_consumer.go:57
ConsumeEvent`. -/
theorem InfoHub.unread_enqueue (hrelay : relayUrl ∈ W.relayUrls) :
    (s.enqueue W id walletPubkey).Unread id walletPubkey relayUrl := by
  refine .inr (.inl ⟨⟨id, walletPubkey, relayUrl, 0⟩, ?_, rfl, rfl, rfl⟩)
  simp only [InfoHub.enqueue, List.mem_append, List.mem_map]
  exact .inl (.inr ⟨relayUrl, hrelay, rfl⟩)

/-- The consumption of an event adds valid requests at most. Reference:
`service/create_app_consumer.go:20 ConsumeEvent`, `service/update_app_consumer.go:18
ConsumeEvent`. -/
theorem InfoHub.consumeEvent_cases (fault : Bool) (e : AppEvent) :
    consumeEvent W fault s e = s ∨ ∃ walletPubkey, W.walletPubkey e.appId = .ok walletPubkey ∧
      consumeEvent W fault s e = s.enqueue W e.appId walletPubkey := by
  cases e with
  | created id =>
    simp only [consumeEvent, AppEvent.appId]
    split
    · exact .inl rfl
    · cases W.walletPubkey id with
      | error _ => exact .inl rfl
      | ok walletPubkey => exact .inr ⟨walletPubkey, rfl, rfl⟩
  | updated id =>
    simp only [consumeEvent, AppEvent.appId]
    cases W.walletPubkey id with
    | error _ => exact .inl rfl
    | ok walletPubkey =>
      simp only
      split
      · exact .inr ⟨walletPubkey, rfl, rfl⟩
      · exact .inl rfl

/-- The event of an app that is there is turned into requests. Reference:
`service/create_app_consumer.go:57 ConsumeEvent`, `service/update_app_consumer.go:44
ConsumeEvent`. -/
theorem InfoHub.consumeEvent_eq {e : AppEvent} (hr : s.registry.Consistent W)
    (hc : (e.appId, pubkey, some walletPubkey) ∈ s.registry.connections)
    (hne : walletPubkey ≠ W.nostrPublicKey) :
    consumeEvent W false s e = s.enqueue W e.appId walletPubkey := by
  have hkey := hr.keyed _ _ _ hc
  cases e with
  | created id =>
    have happ : s.registry.HasApp id := Registry.hasApp_of_connection hc
    simp only [consumeEvent, AppEvent.appId] at hkey ⊢
    rw [if_neg (by simp [happ]), hkey]
  | updated id =>
    simp only [consumeEvent, AppEvent.appId] at hkey ⊢
    rw [hkey]
    exact if_pos hne.symm

theorem InfoHub.Tracked.consume (h : s.Tracked W) {i : Nat} {fault : Bool}
    (ha : s.Separate (.consume i fault)) (hs : s.step W (.consume i fault) = some s') :
    s'.Tracked W := by
  obtain rfl : fault = false := ha
  simp only [step] at hs
  split at hs
  · cases hs
  · next e he =>
    let s₁ : InfoHub := { s with events := s.events.eraseIdx i }
    have hs' : consumeEvent W false s₁ e = s' := Option.some.inj hs
    have hunread : ∀ id pubkey walletPubkey,
        (id, pubkey, some walletPubkey) ∈ s.registry.connections →
        walletPubkey ≠ W.nostrPublicKey → ∀ relayUrl ∈ W.relayUrls,
        s.Unread id walletPubkey relayUrl →
          s₁.Unread id walletPubkey relayUrl ∨ s'.Unread id walletPubkey relayUrl := by
      intro id pubkey walletPubkey hc hne relayUrl hrelay hu
      rcases hu with ⟨e', he', rfl⟩ | hrest
      · rcases mem_eraseIdx_or i he' with hleft | htaken
        · exact .inl (.inl ⟨e', hleft, rfl⟩)
        · rw [he] at htaken
          cases htaken
          have hr : s₁.registry.Consistent W := h.consistent
          rw [← hs', InfoHub.consumeEvent_eq hr hc hne]
          exact .inr (InfoHub.unread_enqueue hrelay)
      · exact .inl (.inr hrest)
    rcases InfoHub.consumeEvent_cases false e with heq | ⟨walletPubkey, hkey, heq⟩
    · obtain rfl : s₁ = s' := heq.symm.trans hs'
      exact h.keep h.consistent h.requests rfl rfl
        (fun id pubkey walletPubkey hc hne relayUrl hrelay hu =>
          (hunread id pubkey walletPubkey hc hne relayUrl hrelay hu).elim (fun h => h) fun h => h)
        fun c hc => .inr ⟨hc, .inr ⟨rfl, fun u hu => .inl hu⟩⟩
    · obtain rfl : s₁.enqueue W e.appId walletPubkey = s' := heq.symm.trans hs'
      refine h.keep h.consistent (InfoHub.valid_enqueue h.requests (.inr hkey)) rfl rfl ?_
        fun c hc => .inr ⟨hc, .inr ⟨rfl, fun u hu => .inl hu⟩⟩
      intro id pubkey walletPubkey hc hne relayUrl hrelay hu
      rcases hunread id pubkey walletPubkey hc hne relayUrl hrelay hu with hu | hu
      · exact hu.enqueue
      · exact hu

/-- What the requests for one app after the other keep. Reference: `service/start.go:162
publishAllAppInfoEvents`. -/
theorem InfoHub.enqueueApps_induction {P : InfoHub → Prop} {apps : List AppRow}
    (hstep : ∀ s : InfoHub, ∀ a ∈ apps, ∀ walletPubkey, a.walletPubkey = some walletPubkey →
      P s → P (s.enqueue W a.id walletPubkey)) (h : P s) : P (enqueueApps W apps s) := by
  induction apps generalizing s with
  | nil => exact h
  | cons a apps ih =>
    have hrest : ∀ s : InfoHub, ∀ b ∈ apps, ∀ walletPubkey, b.walletPubkey = some walletPubkey →
        P s → P (s.enqueue W b.id walletPubkey) := fun s b hb =>
      hstep s b (List.mem_cons_of_mem a hb)
    cases hwallet : a.walletPubkey with
    | none =>
      have hskip : enqueueApps W (a :: apps) s = enqueueApps W apps s := by
        simp [enqueueApps, hwallet]
      exact hskip ▸ ih hrest h
    | some walletPubkey =>
      cases hk : W.appWalletKey a.id with
      | error e =>
        have hskip : enqueueApps W (a :: apps) s = enqueueApps W apps s := by
          simp [enqueueApps, hwallet, hk]
        exact hskip ▸ ih hrest h
      | ok key =>
        have hnext : enqueueApps W (a :: apps) s =
            enqueueApps W apps (s.enqueue W a.id walletPubkey) := by
          simp [enqueueApps, hwallet, hk]
        exact hnext ▸ ih hrest (hstep s a List.mem_cons_self walletPubkey hwallet h)

/-- Every app has its requests. Reference: `service/start.go:162 publishAllAppInfoEvents`. -/
theorem InfoHub.unread_enqueueApps {apps : List AppRow} {a : AppRow} (ha : a ∈ apps)
    (hwallet : a.walletPubkey = some walletPubkey) (hkey : W.walletPubkey a.id = .ok walletPubkey)
    (hrelay : relayUrl ∈ W.relayUrls) :
    (enqueueApps W apps s).Unread a.id walletPubkey relayUrl := by
  induction apps generalizing s with
  | nil => exact absurd ha List.not_mem_nil
  | cons b apps ih =>
    rcases List.mem_cons.1 ha with rfl | ha
    · obtain ⟨key, hk, -⟩ := ok_of_bind hkey
      have hnext : enqueueApps W (a :: apps) s =
          enqueueApps W apps (s.enqueue W a.id walletPubkey) := by
        simp [enqueueApps, hwallet, hk]
      rw [hnext]
      exact InfoHub.enqueueApps_induction
        (P := fun s => s.Unread a.id walletPubkey relayUrl)
        (fun _ _ _ _ _ hu => hu.enqueue) (InfoHub.unread_enqueue hrelay)
    · exact ih ha

theorem InfoHub.Tracked.publishAll (h : s.Tracked W)
    (hs : s.step W .publishAll = some s') : s'.Tracked W := by
  have hkeep : ∀ s₁ : InfoHub, s₁.Tracked W ∧ s₁.registry = s.registry →
      (enqueueApps W s.registry.apps s₁).Tracked W := by
    intro s₁ h₁
    refine (InfoHub.enqueueApps_induction (P := fun s₁ => s₁.Tracked W ∧
      s₁.registry = s.registry) ?_ h₁).1
    rintro s₂ a ha walletPubkey hwallet ⟨h₂, hr⟩
    have hkey := h.consistent.keyed _ _ _ (Registry.mem_connections.2 ⟨a, ha, rfl, rfl, hwallet⟩)
    exact ⟨h₂.enqueue (.inr hkey), hr⟩
  simp only [step, Option.some.injEq] at hs
  rw [← hs, publishAllAppInfoEvents]
  split
  · exact hkeep _ ⟨h.enqueue (.inl rfl), rfl⟩
  · exact hkeep _ ⟨h, rfl⟩

theorem InfoHub.Tracked.wake (h : s.Tracked W) {i : Nat}
    (hs : s.step W (.wake i) = some s') : s'.Tracked W := by
  simp only [step] at hs
  split at hs
  · cases hs
  · next q hq =>
    cases hs
    have hmem : ∀ q', q' ∈ s.queue ++ s.retries ↔
        q' ∈ (s.queue ++ [q]) ++ s.retries.eraseIdx i := by
      intro q'
      simp only [List.mem_append, List.mem_singleton]
      constructor
      · rintro (hqueue | hretries)
        · exact .inl (.inl hqueue)
        · rcases mem_eraseIdx_or i hretries with hleft | htaken
          · exact .inr hleft
          · exact .inl (.inr (Option.some.inj (hq.symm.trans htaken)).symm)
      · rintro ((hqueue | rfl) | hretries)
        · exact .inl hqueue
        · exact .inr (List.mem_of_getElem? hq)
        · exact .inr (List.mem_of_mem_eraseIdx hretries)
    refine h.keep h.consistent (fun q' hq' => h.requests q' ((hmem q').2 hq')) rfl rfl ?_
      fun c hc => .inr ⟨hc, .inr ⟨rfl, fun u hu => .inl hu⟩⟩
    exact fun _ _ _ _ _ _ _ hu => hu.mono (fun e he => he) (fun q' hq' => (hmem q').1 hq') rfl

/-! ## The publisher -/

theorem InfoHub.Tracked.take (h : s.Tracked W) {i : Nat} (hs : s.step W (.take i) = some s') :
    s'.Tracked W := by
  simp only [step] at hs
  split at hs
  · next q hjob hq =>
    cases hs
    have hmem : ∀ q' ∈ s.queue.eraseIdx i ++ s.retries, q' ∈ s.queue ++ s.retries := fun q' hq' =>
      List.mem_append.2 ((List.mem_append.1 hq').imp_left List.mem_of_mem_eraseIdx)
    refine ⟨h.consistent, fun q' hq' => h.requests q' (hmem q' hq'), fun q' stage heq => ?_, ?_⟩
    · cases heq
      exact h.requests q (List.mem_append_left _ (List.mem_of_getElem? hq))
    · intro id pubkey walletPubkey hc hne relayUrl hrelay
      by_cases hasks : q.Asks id walletPubkey relayUrl
      · exact .inl (.inr (.inr ⟨q, rfl, hasks⟩))
      · refine (h.told id pubkey walletPubkey hc hne relayUrl hrelay).imp ?_ fun htold => ?_
        · rintro (hevent | ⟨q', hq', hasks'⟩ | ⟨q', hq', -⟩)
          · exact .inl hevent
          · refine .inr (.inl ⟨q', List.mem_append.2 ?_, hasks'⟩)
            refine (List.mem_append.1 hq').imp_left fun hqueue => ?_
            refine (mem_eraseIdx_or i hqueue).resolve_right fun htaken => ?_
            rw [hq] at htaken
            cases htaken
            exact hasks hasks'
          · rw [hjob] at hq'
            cases hq'
        · refine ⟨htold.updating, fun stage hat => ?_, fun _ => htold.handed fun stage hat => ?_⟩
          · obtain ⟨q', hq', hasks'⟩ := hat
            cases hq'
            exact absurd hasks' hasks
          · obtain ⟨q', hq', -⟩ := hat
            rw [hjob] at hq'
            cases hq'
  · cases hs

/-- A step of the publisher keeps the invariant where it does so for the apps of its request: the
others are told what they were told. Reference: `nip47/nip47_service.go:116
StartNip47InfoPublisher`. -/
theorem InfoHub.Tracked.advance (h : s.Tracked W) {q : Nip47InfoPublishRequest}
    {stage : PublishStage} (hjob : s.job = some (q, stage))
    (hregistry : s'.registry = s.registry) (hupdating : s'.updating = s.updating)
    (hevents : s'.events = s.events)
    (hrequests : ∀ q' ∈ s.queue ++ s.retries, q' ∈ s'.queue ++ s'.retries)
    (hvalid : ∀ q' ∈ s'.queue ++ s'.retries, q' ∈ s.queue ++ s.retries ∨
      q'.appId = q.appId ∧ q'.appWalletPubKey = q.appWalletPubKey)
    (hjob' : ∀ q' stage', s'.job = some (q', stage') → q' = q)
    (hlatest : ∀ relayUrl walletPubkey, s'.latest relayUrl walletPubkey =
      s.latest relayUrl walletPubkey ∨ (q.relayUrl = relayUrl ∧ q.appWalletPubKey = walletPubkey))
    (hself : ∀ pubkey, (q.appId, pubkey, some q.appWalletPubKey) ∈ s.registry.connections →
      q.appWalletPubKey ≠ W.nostrPublicKey →
      (stage ≠ .taken → s.Told W q.appId pubkey q.appWalletPubKey q.relayUrl
        (s.registry.capabilities W q.appId pubkey)) →
      s'.Unread q.appId q.appWalletPubKey q.relayUrl ∨
        s'.Told W q.appId pubkey q.appWalletPubKey q.relayUrl
          (s.registry.capabilities W q.appId pubkey)) : s'.Tracked W := by
  have hqvalid := h.job q stage hjob
  refine ⟨hregistry ▸ h.consistent, fun q' hq' => ?_, fun q' stage' hq' => ?_, ?_⟩
  · rcases hvalid q' hq' with hold | ⟨hid, hkey⟩
    · exact h.requests q' hold
    · rw [Nip47InfoPublishRequest.Valid, hid, hkey]
      exact hqvalid
  · exact hjob' q' stage' hq' ▸ hqvalid
  · intro id pubkey walletPubkey hc hne relayUrl hrelay
    rw [hregistry] at hc ⊢
    have hunread : (∃ e ∈ s.events, e.appId = id) ∨ (∃ q' ∈ s.queue ++ s.retries,
        q'.Asks id walletPubkey relayUrl) → s'.Unread id walletPubkey relayUrl := by
      rintro (⟨e, he, hid⟩ | ⟨q', hq', hasks⟩)
      · exact .inl ⟨e, hevents ▸ he, hid⟩
      · exact .inr (.inl ⟨q', hrequests q' hq', hasks⟩)
    have htold := h.told id pubkey walletPubkey hc hne relayUrl hrelay
    by_cases hasks : q.Asks id walletPubkey relayUrl
    · obtain ⟨rfl, rfl, rfl⟩ := hasks
      rcases htold with (hevent | hrequest | ⟨q', hq', -⟩) | htold
      · exact .inl (hunread (.inl hevent))
      · exact .inl (hunread (.inr hrequest))
      · rw [hjob] at hq'
        cases hq'
        exact hself pubkey hc hne fun hn => absurd rfl hn
      · exact hself pubkey hc hne fun _ => htold
    · have hnot : ∀ stage', ¬ s.At id walletPubkey relayUrl stage' := by
        rintro stage' ⟨q', hq', hasks'⟩
        rw [hjob] at hq'
        cases hq'
        exact hasks hasks'
      rcases htold with (hevent | hrequest | hat) | htold
      · exact .inl (hunread (.inl hevent))
      · exact .inl (hunread (.inr hrequest))
      · exact absurd hat (hnot _)
      · refine .inr ⟨hupdating ▸ htold.updating, fun stage' hat => ?_, fun _ => ?_⟩
        · obtain ⟨q', hq', hasks'⟩ := hat
          exact absurd (hjob' q' stage' hq' ▸ hasks') hasks
        · rcases hlatest relayUrl walletPubkey with heq | ⟨hurl, hkey⟩
          · rw [heq]
            exact htold.handed hnot
          · -- no other app has the key
            refine absurd ⟨?_, hkey, hurl⟩ hasks
            rcases hqvalid with hnostr | hqkey
            · exact absurd (hkey.symm.trans hnostr) hne
            · exact W.walletPubkey_inj (hkey ▸ hqkey) (h.consistent.keyed _ _ _ hc)

/-- A request that fails is still to be done. Reference: `nip47/nip47_service.go:145
StartNip47InfoPublisher`. -/
theorem InfoHub.Tracked.retry (h : s.Tracked W) {q : Nip47InfoPublishRequest} {stage : PublishStage}
    (hjob : s.job = some (q, stage)) : (s.retry q).Tracked W := by
  refine h.advance hjob rfl rfl rfl (fun q' hq' => ?_) (fun q' hq' => ?_) ?_
    (fun _ _ => .inl rfl) fun _ _ _ _ => ?_
  · simp only [InfoHub.retry, List.mem_append] at hq' ⊢
    exact hq'.imp_right .inl
  · simp only [InfoHub.retry, List.mem_append, List.mem_singleton] at hq'
    rcases hq' with hqueue | hretries | rfl
    · exact .inl (List.mem_append_left _ hqueue)
    · exact .inl (List.mem_append_right _ hretries)
    · exact .inr ⟨rfl, rfl⟩
  · intro q' stage' hq'
    cases hq'
  · refine .inl (.inr (.inl ⟨_, List.mem_append_right _ (List.mem_append_right _
      List.mem_cons_self), rfl, rfl, rfl⟩))

/-- A step of the publisher that goes on with its request. Reference:
`nip47/publish_nip47_info.go:61 PublishNip47Info`. -/
theorem InfoHub.Tracked.read (h : s.Tracked W) {q : Nip47InfoPublishRequest}
    {stage stage' : PublishStage} (hjob : s.job = some (q, stage))
    (hshows : ∀ pubkey, (q.appId, pubkey, some q.appWalletPubKey) ∈ s.registry.connections →
      q.appWalletPubKey ≠ W.nostrPublicKey →
      (stage ≠ .taken → stage.Shows q.appId pubkey (s.registry.capabilities W q.appId pubkey)) →
      stage'.Shows q.appId pubkey (s.registry.capabilities W q.appId pubkey))
    (hupdating : stage = .taken → q.appWalletPubKey ≠ W.nostrPublicKey →
      ∀ u ∈ s.updating, u.userApp.id ≠ q.appId) :
    InfoHub.Tracked W { s with job := some (q, stage') } := by
  refine h.advance hjob rfl rfl rfl (fun q' hq' => hq') (fun q' hq' => .inl hq') ?_
    (fun _ _ => .inl rfl) fun pubkey hc hne htold => .inr ⟨?_, ?_, ?_⟩
  · intro q' stage'' hq'
    cases hq'
    rfl
  · by_cases hstage : stage = .taken
    · exact hupdating hstage hne
    · exact (htold hstage).updating
  · rintro stage'' ⟨q', hq', -⟩
    cases hq'
    exact hshows pubkey hc hne fun hstage =>
      (htold hstage).reading stage ⟨q, hjob, rfl, rfl, rfl⟩
  · exact fun hn => absurd ⟨q, rfl, rfl, rfl, rfl⟩ (hn stage')

theorem InfoHub.Tracked.readApp (h : s.Tracked W) {fault : Bool}
    (ha : s.Separate (.readApp fault)) (hs : s.step W (.readApp fault) = some s') :
    s'.Tracked W := by
  simp only [step] at hs
  split at hs
  · next q hjob =>
    have hupdating : ∀ u ∈ s.updating, u.userApp.id ≠ q.appId := fun u hu => ha u hu _ hjob
    cases hs
    unfold InfoHub.readApp
    split
    · next hnostr =>
      exact h.read hjob (fun _ _ hne _ => absurd hnostr.symm hne) fun _ hne =>
        absurd hnostr.symm hne
    · split
      · exact h.retry hjob
      · split
        · next hnone =>
          -- an app that is there would have been found
          refine h.advance hjob rfl rfl rfl (fun q' hq' => hq') (fun q' hq' => .inl hq')
            (fun q' stage' hq' => ?_) (fun _ _ => .inl rfl) fun pubkey hc _ _ => ?_
          · cases hq'
          · obtain ⟨app, happ, -⟩ := h.consistent.find hc
            rw [hnone] at happ
            cases happ
        · next app hfound =>
          refine h.read hjob (fun pubkey hc _ _ => ?_) fun _ _ => hupdating
          obtain ⟨app', happ, hid, hpubkey⟩ := h.consistent.find hc
          rw [hfound] at happ
          cases happ
          exact ⟨hid, hpubkey⟩
  · cases hs

theorem InfoHub.Tracked.readPermissions (h : s.Tracked W) {fault : Bool}
    (ha : s.Separate (.readPermissions fault)) (hs : s.step W (.readPermissions fault) = some s') :
    s'.Tracked W := by
  obtain rfl : fault = false := ha
  simp only [step] at hs
  split at hs
  · next q app hjob =>
    cases hs
    refine h.read hjob (fun pubkey hc hne hshows => ?_)
      fun hstage => PublishStage.noConfusion hstage
    obtain ⟨hid, hpubkey⟩ := hshows PublishStage.noConfusion
    refine ⟨hid, hpubkey, ?_⟩
    rw [GetPermittedMethods_eq (r := s.registry) rfl rfl, hid]
    rfl
  · cases hs

theorem InfoHub.Tracked.readNotifications (h : s.Tracked W) {fault : Bool} {choice : Nat}
    (ha : s.Separate (.readNotifications fault choice))
    (hs : s.step W (.readNotifications fault choice) = some s') : s'.Tracked W := by
  obtain rfl : fault = false := ha
  simp only [step] at hs
  split at hs
  · next q app capabilities hjob =>
    cases hs
    refine h.read hjob (fun pubkey hc hne hshows => ?_)
      fun hstage => PublishStage.noConfusion hstage
    obtain ⟨hid, hpubkey, hcapabilities⟩ := hshows PublishStage.noConfusion
    have hpos : app.id ≠ 0 := by
      have := h.consistent.positive.app _ (Registry.hasApp_of_connection hc)
      omega
    rw [PermitsNotifications_eq (r := s.registry) rfl rfl hpos, hid, hpubkey, hcapabilities]
    rfl
  · cases hs

theorem InfoHub.Tracked.publish (h : s.Tracked W) {createdAt : Int} {ok : Bool}
    (hs : s.step W (.publish createdAt ok) = some s') : s'.Tracked W := by
  simp only [step] at hs
  split at hs
  · next q c hjob =>
    split at hs
    · cases hs
      refine h.advance hjob rfl rfl rfl (fun q' hq' => hq') (fun q' hq' => .inl hq')
        (fun q' stage' hq' => ?_) (fun relayUrl walletPubkey => ?_) fun pubkey hc hne htold => ?_
      · cases hq'
      · by_cases hkey : q.relayUrl = relayUrl ∧ q.appWalletPubKey = walletPubkey
        · exact .inr hkey
        · refine .inl ?_
          simp only [InfoHub.latest, List.find?_cons]
          rw [decide_eq_false (by exact hkey)]
      · have ht := htold PublishStage.noConfusion
        have hc' : c = s.registry.capabilities W q.appId pubkey :=
          ht.reading _ ⟨q, hjob, rfl, rfl, rfl⟩
        refine .inr ⟨ht.updating, fun stage' hat => ?_, fun _ => ⟨createdAt, ?_⟩⟩
        · obtain ⟨q', hq', -⟩ := hat
          cases hq'
        · simp [InfoHub.latest, infoEvent, hc']
    · cases hs
      exact h.retry hjob
  · cases hs

/-- A step keeps the invariant. Reference: none. -/
theorem InfoHub.Tracked.step (h : s.Tracked W) {l : InfoLabel} (ha : s.Separate l)
    (hs : s.step W l = some s') : s'.Tracked W := by
  cases l with
  | createApp => exact h.createApp hs
  | publishUpdated u => exact h.publishUpdated hs
  | commitUpdate i => exact h.commitUpdate hs
  | abortUpdate i => exact h.abortUpdate hs
  | deleteApp env appId => exact h.deleteApp hs
  | consume i fault => exact h.consume ha hs
  | publishAll => exact h.publishAll hs
  | take i => exact h.take hs
  | readApp fault => exact h.readApp ha hs
  | readPermissions fault => exact h.readPermissions ha hs
  | readNotifications fault choice => exact h.readNotifications ha hs
  | publish createdAt ok => exact h.publish hs
  | wake i => exact h.wake hs

/-! ## The runs -/

theorem InfoHub.tracked_started {r : Registry} {published : List (String × NostrEvent)}
    (hr : r.Consistent W) : (InfoHub.started W r published).Tracked W := by
  let s₀ : InfoHub := { registry := r, published }
  have hkeep : ∀ s₁ : InfoHub, (s₁.registry = r ∧ s₁.job = none ∧
      ∀ q ∈ s₁.queue ++ s₁.retries, q.Valid W) →
      (enqueueApps W r.apps s₁).Tracked W := by
    intro s₁ h₁
    obtain ⟨hregistry, hjob, hvalid⟩ := InfoHub.enqueueApps_induction
      (P := fun s₁ => s₁.registry = r ∧ s₁.job = none ∧ ∀ q ∈ s₁.queue ++ s₁.retries, q.Valid W)
      (by
        rintro s₂ a ha walletPubkey hwallet ⟨hregistry, hjob, hvalid⟩
        have hkey := hr.keyed _ _ _ (Registry.mem_connections.2 ⟨a, ha, rfl, rfl, hwallet⟩)
        exact ⟨hregistry, hjob, InfoHub.valid_enqueue hvalid (.inr hkey)⟩) h₁
    refine ⟨?_, hvalid, fun q stage hq => ?_, ?_⟩
    · rw [hregistry]
      exact hr
    · rw [hjob] at hq
      cases hq
    · intro id pubkey walletPubkey hc hne relayUrl hrelay
      rw [hregistry] at hc
      obtain ⟨a, ha, rfl, -, hwallet⟩ := Registry.mem_connections.1 hc
      exact .inl (InfoHub.unread_enqueueApps ha hwallet (hr.keyed _ _ _ hc) hrelay)
  have hnil : ∀ q ∈ s₀.queue ++ s₀.retries, q.Valid W := fun q hq => absurd hq List.not_mem_nil
  rw [started, publishAllAppInfoEvents]
  split
  · exact hkeep _ ⟨rfl, rfl, InfoHub.valid_enqueue hnil (.inl rfl)⟩
  · exact hkeep _ ⟨rfl, rfl, hnil⟩

/-- Where nothing is left to do the relay has been told. Reference: none. -/
theorem InfoHub.Tracked.upToDate (h : s.Tracked W) : s.UpToDate W := by
  intro app happ walletPubkey hwallet hne relayUrl hrelay hidle
  have hc : (app.id, app.appPubkey, some walletPubkey) ∈ s.registry.connections :=
    Registry.mem_connections.2 ⟨app, happ, rfl, rfl, hwallet⟩
  have hnot : ∀ stage, ¬ s.At app.id walletPubkey relayUrl stage := by
    rintro stage ⟨q, hq, hid, -, hurl⟩
    exact hidle.job q stage hq hid hurl
  rcases h.told _ _ _ hc hne relayUrl hrelay with
    (⟨e, he, hid⟩ | ⟨q, hq, hid, -, hurl⟩ | hat) | htold
  · exact absurd hid (hidle.events e he)
  · exact absurd hurl (hidle.requests q hq hid)
  · exact absurd hat (hnot _)
  · obtain ⟨createdAt, hlatest⟩ := htold.handed hnot
    refine ⟨createdAt, hlatest.trans ?_⟩
    rw [GetPermittedMethods_eq (r := s.registry) rfl rfl, Registry.capabilities]
    simp only [Registry.mem_scopes]

/-- In every state of a run where the publisher does not read the rows of an app between the event
of an update and its commit, each relay for which nothing is left to do has last been handed the
info event of the app's present permissions. Reference: `nip47/nip47_service.go:116
StartNip47InfoPublisher`, `nip47/publish_nip47_info.go:61 PublishNip47Info`. -/
theorem info_up_to_date {r : Registry} {published : List (String × NostrEvent)}
    {ls : List InfoLabel} (hr : r.Consistent W)
    (hrun : runLabels (InfoHub.step W) (InfoHub.started W r published) ls = some s)
    (ha : AllowsLabels (InfoHub.step W) InfoHub.Separate (InfoHub.started W r published) ls) :
    s.UpToDate W :=
  have htracked := run_induction (InfoHub.tracked_started hr)
    (fun _ _ _ ht hl hs => ht.step hl hs) ha hrun
  htracked.upToDate

/-- The wallet key of an app, in the example. Reference: none. -/
def demoWalletKey (id : Nat) : String := String.ofList (List.replicate id 'k')

theorem demoWalletKey_inj {i j : Nat} (h : demoWalletKey i = demoWalletKey j) : i = j := by
  have hlength := congrArg (fun key => key.toList.length) h
  simpa [demoWalletKey] using hlength

/-- A hub with one relay. Reference: none. -/
def demoInfoWorld : InfoWorld where
  nostrPublicKey := "hub"
  appWalletKey id := .ok (demoWalletKey id)
  publicKey := .ok
  relayUrls := ["wss://relay.example"]
  supportedMethods := ["get_balance", "get_info", "get_budget", "make_invoice"]
  notificationTypes := []
  distinct i j privKey privKey' pubKey hi hj hp hp' := by
    cases hi
    cases hj
    exact demoWalletKey_inj (Except.ok.inj (hp.trans hp'.symm))

/-- An app is created, the relay does not take its first info event, and the app is updated.
Reference: none. -/
def demoInfoLabels : List InfoLabel :=
  [.createApp {} "reader" "" 0 "" none ["get_balance"] false none, .consume 0 false, .take 0,
    .readApp false, .readPermissions false, .readNotifications false 0, .publish 7 false,
    .publishUpdated ⟨{}, readerApp, { scopes := some ["get_balance", "make_invoice"] }⟩,
    .consume 0 false, .commitUpdate 0, .take 0, .wake 0, .readApp false, .readPermissions false,
    .readNotifications false 0, .publish 9 true, .take 0, .readApp false, .readPermissions false,
    .readNotifications false 0, .publish 14 true]

/-- Reference: none. -/
theorem Registry.consistent_empty : Registry.empty.Consistent W where
  positive := ⟨Nat.one_pos, fun _ h => absurd h (by simp [HasApp, empty])⟩
  nodup := List.nodup_nil
  keyed _ _ _ h := absurd h List.not_mem_nil

/-- The relay has the methods of the update at the end. Reference: none. -/
theorem info_up_to_date_reader :
    (labelsAfter (InfoHub.step demoInfoWorld) (InfoHub.started demoInfoWorld .empty [])
        demoInfoLabels).UpToDate demoInfoWorld ∧
      (labelsAfter (InfoHub.step demoInfoWorld) (InfoHub.started demoInfoWorld .empty [])
        demoInfoLabels).latest "wss://relay.example" "k" =
          some (infoEvent demoInfoWorld "k" 14
            ⟨["get_balance", "make_invoice", "get_info", "get_budget"], false, some ""⟩) :=
  ⟨info_up_to_date Registry.consistent_empty (runLabels_after (by decide +kernel))
    (by decide +kernel), by decide +kernel⟩

end

end AlbyHub
