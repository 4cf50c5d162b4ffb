import AlbyHub.Apps.Registry
import AlbyHub.Go.Loops
import AlbyHub.Transactions.WellFormed

/-!
# Who is notified of a payment

`notifySubscribers` goes over the apps, skips those that are not to know, and publishes two events
for each of the others, one in each encryption. It returns at the first app whose key, cipher or
signature fails. What an app is to receive depends on the app alone (`receives`); the published
events are those of all the apps exactly where no app that is to receive something is listed after
one that fails.
-/

namespace AlbyHub

open Go

/-- Reference: `nip47/notifications/models.go:5 Notification`. -/
structure Notification where
  notification : Nip47Transaction
  notificationType : String

/-- Reference: go-nostr `nostr.Event`. -/
structure NostrEvent where
  id : String := ""
  pubKey : String
  createdAt : Int
  kind : Nat
  tags : List (List String)
  content : String
  sig : String := ""
  deriving DecidableEq, Repr

/-- The keys of the hub, and the functions of go-nostr. An encryption takes its random bytes.
Reference: `service/keys/keys.go:20 Keys`, go-nostr `nip04`, `nip44`, `nostr.GetPublicKey`,
`Event.Sign`. -/
structure Nostr where
  nostrSecretKey : String
  getAppWalletKey : Nat → Except String String
  getPublicKey : String → Except String String
  computeSharedSecret : String → String → Except String (List UInt8)
  encryptNip04 : List UInt8 → String → List UInt8 → Except String String
  generateConversationKey : String → String → Except String (List UInt8)
  encryptNip44 : List UInt8 → String → List UInt8 → Except String String
  sign : NostrEvent → String → Except String NostrEvent
  marshal : Notification → Except String String

/-- What is outside while an app is handled: the clock and the permissions at its check, whether the
query fails and which row it takes, and the clock and the random bytes of each encryption.
Reference: `nip47/notifications/nip47_notifier.go:106 notifySubscribers`. -/
structure AppTurn where
  now : Time
  permissions : List PermissionRow
  fault : Bool := false
  choice : Nat := 0
  createdAt : String → Int := fun _ => 0
  random : String → List UInt8 := fun _ => []

/-- The row that `HasPermission` looks at. Reference: `nip47/permissions/permissions.go:40
HasPermission`. -/
def AppTurn.findPermission (turn : AppTurn) (app : AppRow) (scope : String) :
    Option PermissionRow :=
  if turn.fault then none else
    pick turn.choice (turn.permissions.filter fun p =>
      (app.id = 0 ∨ p.appId = app.id) ∧ (scope = "" ∨ p.scope = scope))

/-- Reference: `nip47/permissions/permissions.go:38 HasPermission`. -/
def HasPermission (turn : AppTurn) (app : AppRow) (scope : String) : Bool × String × String :=
  match turn.findPermission app scope with
  | none => (false, "RESTRICTED", "This app does not have the " ++ scope ++ " scope")
  | some appPermission =>
    if ∃ expiresAt ∈ appPermission.expiresAt, expiresAt < turn.now then
      (false, "EXPIRED", "This app has expired")
    else (true, "", "")

/-- Reference: `nip47/cipher/cipher.go:16 Nip47Cipher`. -/
structure Nip47Cipher where
  encryption : String
  pubkey : String
  privkey : String
  sharedSecret : List UInt8 := []
  conversationKey : List UInt8 := List.replicate 32 0

/-- Reference: `nip47/cipher/cipher.go:85 isEncryptionSupported`. -/
def isEncryptionSupported (encryption : String) : Bool :=
  encryption = "nip44_v2" || encryption = "nip04"

/-- Reference: `nip47/cipher/cipher.go:24 NewNip47Cipher`. -/
def NewNip47Cipher (N : Nostr) (encryption pubkey privkey : String) : Except String Nip47Cipher :=
  if isEncryptionSupported encryption = false then .error ("invalid encryption: " ++ encryption)
  else if encryption = "nip04" then do
    let ss ← N.computeSharedSecret pubkey privkey
    return { encryption, pubkey, privkey, sharedSecret := ss }
  else do
    let ck ← N.generateConversationKey pubkey privkey
    return { encryption, pubkey, privkey, conversationKey := ck }

/-- Reference: `nip47/cipher/cipher.go:53 Encrypt`. -/
def Nip47Cipher.Encrypt (N : Nostr) (c : Nip47Cipher) (random : List UInt8) (message : String) :
    Except String String :=
  if c.encryption = "nip04" then N.encryptNip04 random message c.sharedSecret
  else N.encryptNip44 random message c.conversationKey

/-- The event that is handed to the relays; that no relay takes it is no error. Reference:
`nip47/notifications/nip47_notifier.go:151 notifySubscriber`. -/
def notifySubscriber (N : Nostr) (turn : AppTurn) (app : AppRow) (notification : Notification)
    (tags : List (List String)) (appWalletPubKey appWalletPrivKey encryption : String) :
    Except String NostrEvent := do
  let payload ← N.marshal notification
  let nip47Cipher ← NewNip47Cipher N encryption app.appPubkey appWalletPrivKey
  let msg ← nip47Cipher.Encrypt N (turn.random encryption) payload
  N.sign {
    pubKey := appWalletPubKey
    createdAt := turn.createdAt encryption
    kind := if encryption = "nip04" then 23196 else 23197
    tags := ["p", app.appPubkey] :: tags
    content := msg } appWalletPrivKey

/-- The key that the app's events are signed with. Reference:
`nip47/notifications/nip47_notifier.go:116 notifySubscribers`. -/
def appWalletPrivKey (N : Nostr) (app : AppRow) : Except String String :=
  if app.walletPubkey = none then .ok N.nostrSecretKey else N.getAppWalletKey app.id

/-- The payment is not the app's, and the app sees only its own. Reference:
`nip47/notifications/nip47_notifier.go:107 notifySubscribers`. -/
def AppRow.Unrelated (app : AppRow) (appId : Option Nat) : Prop :=
  app.isolated = true ∧ appId ≠ some app.id

instance (app : AppRow) (appId : Option Nat) : Decidable (app.Unrelated appId) :=
  inferInstanceAs (Decidable (_ ∧ _))

/-- The body of the loop, with the events that it publishes. Reference:
`nip47/notifications/nip47_notifier.go:106 notifySubscribers`. -/
def notifyApp (N : Nostr) (turn : Nat → AppTurn) (notification : Notification)
    (tags : List (List String))
    (appId : Option Nat) (app : AppRow) : Except String Unit × List NostrEvent :=
  if app.Unrelated appId then (.ok (), [])
  else if (HasPermission (turn app.id) app "notifications").1 = false then (.ok (), [])
  else
    match appWalletPrivKey N app with
    | .error _ => (.error "failed to derive child key", [])
    | .ok privKey =>
      match N.getPublicKey privKey with
      | .error _ => (.error "failed to calculate app wallet pubkey", [])
      | .ok pubKey =>
        match notifySubscriber N (turn app.id) app notification tags pubKey privKey "nip04" with
        | .error e => (.error e, [])
        | .ok event =>
          match notifySubscriber N (turn app.id) app notification tags pubKey privKey
            "nip44_v2" with
          | .error e => (.error e, [event])
          | .ok event' => (.ok (), [event, event'])

/-- Reference: `nip47/notifications/nip47_notifier.go:96 notifySubscribers`. -/
def notifySubscribers (N : Nostr) (turn : Nat → AppTurn) (found : Except String (List AppRow))
    (notification : Notification) (tags : List (List String)) (appId : Option Nat) :
    Except String Unit × List NostrEvent :=
  match found with
  | .error _ => (.error "failed to list apps", [])
  | .ok apps => eachUntilError (notifyApp N turn notification tags appId) apps

/-- The app holds an unexpired permission to be notified, and the payment is not kept from it.
Reference: `nip47/notifications/nip47_notifier.go:107 notifySubscribers`,
`nip47/permissions/permissions.go:38 HasPermission`. -/
def AppRow.Entitled (turn : AppTurn) (appId : Option Nat) (app : AppRow) : Prop :=
  ¬ app.Unrelated appId ∧ ∃ p ∈ turn.permissions, p.appId = app.id ∧ p.scope = "notifications" ∧
    ¬ ∃ expiresAt ∈ p.expiresAt, expiresAt < turn.now

instance (turn : AppTurn) (appId : Option Nat) (app : AppRow) :
    Decidable (app.Entitled turn appId) :=
  inferInstanceAs (Decidable (_ ∧ ∃ p ∈ turn.permissions, _))

/-- The app's event in one encryption, where it can be made. Reference:
`nip47/notifications/nip47_notifier.go:116 notifySubscribers`. -/
def appEvent (N : Nostr) (turn : AppTurn) (notification : Notification) (tags : List (List String))
    (app : AppRow) (encryption : String) : Option NostrEvent :=
  match appWalletPrivKey N app with
  | .error _ => none
  | .ok privKey =>
    match N.getPublicKey privKey with
    | .error _ => none
    | .ok pubKey =>
      (notifySubscriber N turn app notification tags pubKey privKey encryption).toOption

/-- What the app is to receive: its event in each encryption in which it can be made. Reference:
`nip47/notifications/nip47_notifier.go:136 notifySubscribers`. -/
def receives (N : Nostr) (turn : Nat → AppTurn) (notification : Notification)
    (tags : List (List String))
    (appId : Option Nat) (app : AppRow) : List NostrEvent :=
  if app.Entitled (turn app.id) appId then
    ["nip04", "nip44_v2"].filterMap (appEvent N (turn app.id) notification tags app)
  else []

/-- The loop does not skip the app. Reference: `nip47/notifications/nip47_notifier.go:107
notifySubscribers`. -/
def AppRow.Passes (turn : AppTurn) (appId : Option Nat) (app : AppRow) : Prop :=
  ¬ app.Unrelated appId ∧ (HasPermission turn app "notifications").1 = true

/-- The loop returns at the app: it is not skipped, and one of its events cannot be made. Reference:
`nip47/notifications/nip47_notifier.go:116 notifySubscribers`. -/
def AppRow.Fails (N : Nostr) (turn : AppTurn) (notification : Notification)
    (tags : List (List String))
    (appId : Option Nat) (app : AppRow) : Prop :=
  app.Passes turn appId ∧ (appEvent N turn notification tags app "nip04" = none ∨
    appEvent N turn notification tags app "nip44_v2" = none)

/-- The notification of an event, with the app of its payment. It is `none` for other events, and
where a nil pointer is read through. Reference: `nip47/notifications/nip47_notifier.go:41
ConsumeEvent`. -/
def Event.notification (W : World) (now : Time) : Event → Option (Notification × Option Nat)
  | .paymentReceived row => (ToNip47Transaction W now row).map (⟨·, "payment_received"⟩, row.appId)
  | .paymentSent row => (ToNip47Transaction W now row).map (⟨·, "payment_sent"⟩, row.appId)
  | .holdInvoiceAccepted row =>
    (ToNip47Transaction W now row).map (⟨·, "hold_invoice_accepted"⟩, row.appId)
  | _ => none

section
variable {N : Nostr} {turn : Nat →
  AppTurn} {notification : Notification} {tags : List (List String)}
variable {appId : Option Nat} {app : AppRow} {apps : List AppRow}

/-- An app that is not skipped is entitled. Reference: `nip47/permissions/permissions.go:38
HasPermission`. -/
theorem AppRow.Passes.entitled {turn : AppTurn} (hpos : 0 < app.id) (h : app.Passes turn appId) :
    app.Entitled turn appId := by
  obtain ⟨hown, hperm⟩ := h
  refine ⟨hown, ?_⟩
  unfold HasPermission at hperm
  split at hperm
  · cases hperm
  · next p hfind =>
    split at hperm
    · cases hperm
    · next hexp =>
      unfold AppTurn.findPermission at hfind
      split at hfind
      · cases hfind
      · obtain ⟨hmem, hp⟩ := List.mem_filter.1 (mem_of_pick hfind)
        simp only [decide_eq_true_eq] at hp
        have hid : p.appId = app.id := hp.1.resolve_left (by omega)
        have hscope : p.scope = "notifications" := hp.2.resolve_left (by decide)
        exact ⟨p, hmem, hid, hscope, hexp⟩

/-- A skipped app is sent nothing. Reference: `nip47/notifications/nip47_notifier.go:107
notifySubscribers`. -/
theorem notifyApp_of_not_passes (h : ¬ app.Passes (turn app.id) appId) :
    notifyApp N turn notification tags appId app = (.ok (), []) := by
  unfold notifyApp
  split
  · rfl
  · next hown =>
    have hperm : (HasPermission (turn app.id) app "notifications").1 = false := by
      by_contra hperm
      exact h ⟨hown, by simpa using hperm⟩
    rw [if_pos hperm]

/-- An app that is not skipped is sent its events up to the first that cannot be made. Reference:
`nip47/notifications/nip47_notifier.go:116 notifySubscribers`. -/
theorem notifyApp_of_passes (h : app.Passes (turn app.id) appId) :
    (notifyApp N turn notification tags appId app).2 =
      (match appEvent N (turn app.id) notification tags app "nip04" with
      | none => []
      | some event => event :: (appEvent N (turn app.id) notification tags app "nip44_v2").toList) ∧
    ((notifyApp N turn notification tags appId app).1 = .ok () ↔
      ¬ app.Fails N (turn app.id) notification tags appId) := by
  unfold AppRow.Fails notifyApp appEvent
  rw [if_neg h.1, if_neg (by simp [h.2])]
  cases appWalletPrivKey N app with
  | error e => simp [h]
  | ok privKey =>
    simp only
    cases N.getPublicKey privKey with
    | error e => simp [h]
    | ok pubKey =>
      simp only
      cases notifySubscriber N (turn app.id) app notification tags pubKey privKey "nip04" with
      | error e => simp [h, Except.toOption]
      | ok event =>
        cases notifySubscriber N (turn app.id) app notification tags pubKey privKey "nip44_v2" with
        | error e => simp [h, Except.toOption]
        | ok event' => simp [Except.toOption]

/-- Reference: `nip47/notifications/nip47_notifier.go:136 notifySubscribers`. -/
theorem receives_of_entitled (h : app.Entitled (turn app.id) appId) :
    receives N turn notification tags appId app =
      (appEvent N (turn app.id) notification tags app "nip04").toList ++
        (appEvent N (turn app.id) notification tags app "nip44_v2").toList := by
  rw [receives, if_pos h, List.filterMap_cons, List.filterMap_cons, List.filterMap_nil]
  cases appEvent N (turn app.id) notification tags app "nip04" with
  | none => cases appEvent N (turn app.id) notification tags app "nip44_v2" <;> rfl
  | some event => cases appEvent N (turn app.id) notification tags app "nip44_v2" <;> rfl

/-- An app is sent a part of what it is to receive. Reference: none. -/
theorem notifyApp_sublist (hpos : 0 < app.id) :
    (notifyApp N turn notification tags appId app).2.Sublist
      (receives N turn notification tags appId app) := by
  by_cases hp : app.Passes (turn app.id) appId
  · rw [(notifyApp_of_passes hp).1, receives_of_entitled (hp.entitled hpos)]
    cases appEvent N (turn app.id) notification tags app "nip04" with
    | none => exact List.nil_sublist _
    | some event => exact List.Sublist.refl _
  · rw [notifyApp_of_not_passes hp]
    exact List.nil_sublist _

/-- An app that is to receive something is sent all of it where it is not skipped and its first
event can be made. Reference: `nip47/notifications/nip47_notifier.go:136 notifySubscribers`. -/
theorem notifyApp_eq_receives_iff (hpos : 0 < app.id)
    (hne : receives N turn notification tags appId app ≠ []) :
    (notifyApp N turn notification tags appId app).2 = receives N turn notification tags appId app ↔
      app.Passes (turn app.id) appId ∧
        appEvent N (turn app.id) notification tags app "nip04" ≠ none := by
  by_cases hp : app.Passes (turn app.id) appId
  · rw [receives_of_entitled (hp.entitled hpos)] at hne ⊢
    rw [(notifyApp_of_passes hp).1]
    cases hfirst : appEvent N (turn app.id) notification tags app "nip04" with
    | none =>
      rw [hfirst] at hne
      simp only [hp, true_and, ne_eq, not_true_eq_false, iff_false]
      exact fun heq => hne heq.symm
    | some event => simp [hp]
  · rw [notifyApp_of_not_passes hp]
    constructor
    · intro heq
      exact absurd heq.symm hne
    · intro h
      exact absurd h.1 hp

/-- The loop goes on after an app exactly where the app does not fail. Reference:
`nip47/notifications/nip47_notifier.go:106 notifySubscribers`. -/
theorem notifyApp_ok_iff : (notifyApp N turn notification tags appId app).1 = .ok () ↔
    ¬ app.Fails N (turn app.id) notification tags appId := by
  by_cases hp : app.Passes (turn app.id) appId
  · exact (notifyApp_of_passes hp).2
  · rw [notifyApp_of_not_passes hp]
    simp [AppRow.Fails, hp]

/-- The published events are what each app is to receive, exactly where every app that is to receive
something is not skipped, its first event can be made, and no app that is listed before it fails.
Reference: `nip47/notifications/nip47_notifier.go:96 notifySubscribers`. -/
theorem notifySubscribers_iff (hpos : ∀ app ∈ apps, 0 < app.id) :
    (notifySubscribers N turn (.ok apps) notification tags appId).2 =
        apps.flatMap (receives N turn notification tags appId) ↔
      ∀ before app after, apps = before ++ app :: after →
        receives N turn notification tags appId app ≠ [] →
        app.Passes (turn app.id) appId ∧
          appEvent N (turn app.id) notification tags app "nip04" ≠ none ∧
          ∀ b ∈ before, ¬ b.Fails N (turn b.id) notification tags appId := by
  unfold notifySubscribers
  rw [eachUntilError_eq_flatMap_iff fun app happ => notifyApp_sublist (hpos app happ)]
  refine forall₄_congr fun before app after happs => forall_congr' fun hne => ?_
  have happ : 0 < app.id := hpos app (by rw [happs]; simp)
  rw [notifyApp_eq_receives_iff happ hne, and_assoc]
  refine and_congr_right fun _ => and_congr_right fun _ => ?_
  exact forall₂_congr fun b _ => notifyApp_ok_iff

/-- A well-formed row can be notified of. Reference: `nip47/models/transactions.go:13
ToNip47Transaction`. -/
theorem Transaction.WellFormed.exists_notification {W : World} {row : Transaction} (now : Time)
    (hrow : row.WellFormed) : ∃ transaction, ToNip47Transaction W now row = some transaction :=
  Option.isSome_iff_exists.1 (hrow.toNip47Transaction now)

/-- Each payment is notified of, and the published events are what the apps are to receive, exactly
where every app that is to receive something is found to have the permission, its first event can be
made, and no app listed before it fails. Reference: `nip47/notifications/nip47_notifier.go:41
ConsumeEvent`, `:96 notifySubscribers`. -/
theorem notifications_reach_entitled_iff (N : Nostr) (W : World) (now : Time) (row : Transaction)
    (hrow : row.WellFormed) (turn : Nat → AppTurn) (apps : List AppRow) (hpos : ∀ app ∈ apps,
    0 < app.id)
    (event : Event) (hevent : event = .paymentReceived row ∨ event = .paymentSent row) :
    ∃ notification, event.notification W now = some (notification, row.appId) ∧
      ((notifySubscribers N turn (.ok apps) notification [] row.appId).2 =
          apps.flatMap (receives N turn notification [] row.appId) ↔
        ∀ before app after, apps = before ++ app :: after →
          receives N turn notification [] row.appId app ≠ [] →
          app.Passes (turn app.id) row.appId ∧
            appEvent N (turn app.id) notification [] app "nip04" ≠ none ∧
            ∀ b ∈ before, ¬ b.Fails N (turn b.id) notification [] row.appId) := by
  obtain ⟨transaction, htx⟩ := hrow.exists_notification (W := W) now
  rcases hevent with rfl | rfl
  · refine ⟨⟨transaction, "payment_received"⟩, ?_, notifySubscribers_iff hpos⟩
    rw [Event.notification, htx]
    rfl
  · refine ⟨⟨transaction, "payment_sent"⟩, ?_, notifySubscribers_iff hpos⟩
    rw [Event.notification, htx]
    rfl

end

/-- 32 bytes that are not the x-coordinate of a point. Reference: go-nostr
`nip04.ComputeSharedSecret`. -/
def noPoint : String := "ffffffffffffffffffffffffffffffffffffffffffffffffffffffffffffffff"

/-- Keys and ciphers that fail as the real ones do for such a public key; texts stand for the
results. Reference: go-nostr `nip04.ComputeSharedSecret`, `nip44.GenerateConversationKey`. -/
def demoNostr : Nostr where
  nostrSecretKey := "hub"
  getAppWalletKey _ := .ok "app"
  getPublicKey privKey := .ok privKey
  computeSharedSecret pubkey _ :=
    if pubkey = noPoint then .error "error parsing receiver public key"
      else .ok (List.replicate 32 1)
  encryptNip04 _ message _ := .ok message
  generateConversationKey pubkey _ :=
    if pubkey = noPoint then .error "invalid public key" else .ok (List.replicate 32 1)
  encryptNip44 _ message _ := .ok message
  sign event _ := .ok event
  marshal _ := .ok "{}"

/-- The apps 1 and 2 may be notified; the second one is isolated. Reference:
`nip47/notifications/nip47_notifier_test.go:380`. -/
def demoTurn (_ : Nat) : AppTurn where
  now := demoNow
  permissions :=
    [{ appId := 1, scope := "notifications" }, { appId := 2, scope := "notifications" }]

/-- Reference: none. -/
def demoApps (pubkey : String) : List AppRow :=
  [{ id := 1, name := "alice", isolated := false, appPubkey := pubkey },
    { id := 2, name := "bob", isolated := true, appPubkey := mockHash, walletPubkey := some "app" }]

/-- Bob's app was paid. Reference: none. -/
def bobReceived : Transaction :=
  { type := .incoming, state := .settled, appId := some 2, amountMsat := 123000
    preimage := some "123preimage", settledAt := some demoNow }

theorem bobReceived_wellFormed : bobReceived.WellFormed :=
  ⟨by simp [bobReceived], fun _ => ⟨_, rfl, by decide⟩, fun _ => rfl, fun _ => rfl,
    fun h => nomatch h⟩

theorem notifications_reach_entitled_both : ∃ notification,
    (Event.paymentReceived bobReceived).notification demo demoNow = some (notification, some 2) ∧
      (notifySubscribers demoNostr demoTurn (.ok (demoApps mockHash)) notification [] (some 2)).2 =
        (demoApps mockHash).flatMap (receives demoNostr demoTurn notification [] (some 2)) := by
  obtain ⟨notification, hevent, hiff⟩ := notifications_reach_entitled_iff demoNostr demo demoNow
    bobReceived bobReceived_wellFormed demoTurn (demoApps mockHash) (by simp [demoApps]) _
      (.inl rfl)
  have hall : ∀ app ∈ demoApps mockHash, app.Passes (demoTurn app.id) (some 2) ∧
      appEvent demoNostr (demoTurn app.id) notification [] app "nip04" ≠ none ∧
      appEvent demoNostr (demoTurn app.id) notification [] app "nip44_v2" ≠ none := by
    intro app happ
    simp only [demoApps, List.mem_cons, List.not_mem_nil, or_false] at happ
    rcases happ with rfl | rfl
    · exact ⟨⟨by decide, by decide⟩, nofun, nofun⟩
    · exact ⟨⟨by decide, by decide⟩, nofun, nofun⟩
  refine ⟨notification, hevent, hiff.2 fun before app after happs _ => ?_⟩
  obtain ⟨hpass, hfirst, _⟩ := hall app (by rw [happs]; simp)
  refine ⟨hpass, hfirst, fun b hb hfails => ?_⟩
  obtain ⟨_, hfirst, hsecond⟩ := hall b (by rw [happs]; simp [hb])
  exact hfails.2.elim hfirst hsecond

/-- Bob is not notified of his payment when the app listed before his has no valid public key.
Reference: `nip47/notifications/nip47_notifier.go:136 notifySubscribers`, `nip47/cipher/cipher.go:33
NewNip47Cipher`. -/
theorem notifications_stop_at_malformed : ∃ notification,
    (Event.paymentReceived bobReceived).notification demo demoNow = some (notification, some 2) ∧
      (notifySubscribers demoNostr demoTurn (.ok (demoApps noPoint)) notification [] (some 2)).2 =
        [] ∧
      ((demoApps noPoint).flatMap (receives demoNostr demoTurn notification [] (some 2))).length =
        2 ∧
      (notifySubscribers demoNostr demoTurn (.ok (demoApps noPoint)) notification [] (some 2)).2 ≠
        (demoApps noPoint).flatMap (receives demoNostr demoTurn notification [] (some 2)) := by
  obtain ⟨transaction, htx⟩ := bobReceived_wellFormed.exists_notification (W := demo) demoNow
  have hnone : (notifySubscribers demoNostr demoTurn (.ok (demoApps noPoint))
      ⟨transaction, "payment_received"⟩ [] (some 2)).2 = [] := rfl
  have htwo : ((demoApps noPoint).flatMap (receives demoNostr demoTurn
      ⟨transaction, "payment_received"⟩ [] (some 2))).length = 2 := rfl
  refine ⟨⟨transaction, "payment_received"⟩, ?_, hnone, htwo, fun heq => ?_⟩
  · rw [Event.notification, htx]
    rfl
  · rw [← heq, hnone] at htwo
    cases htwo

end AlbyHub
