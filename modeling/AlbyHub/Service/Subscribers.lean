import AlbyHub.LnClient.LdkOptionals
import AlbyHub.Transactions.Runs
import AlbyHub.Transactions.WellFormed

/-!
# The subscribers of the event bus

Every event is given to every subscriber, and its properties are of any type: each subscriber casts
them to the type that it expects. The API publishes events with any name and any JSON value.
Whichever subscribers there are, such an event makes one panic exactly where a cast is not checked
(`outside_event_iff`). It never tells a waiting self-payment of its invoice, and neither does an
event that a subscriber publishes because of it.
-/

namespace AlbyHub.Bus

open Go Interaction Panicking

/-! ## Events -/

/-- A value in a map: of type `uint`, or any other value, as JSON has it. Reference: Go
`map[string]interface{}`. -/
inductive Value where
  | uint (n : Nat)
  | other (v : Json)

/-- The properties of an event, by their types. Reference: `events/models.go:15 Event`. -/
inductive Properties where
  | json (v : Json)
  | map (fields : List (String × Value))
  | dbTransaction (row : Transaction)
  | lnTransaction (tx : LnTransaction)
  | paymentFailed (tx : LnTransaction) (reason : String)
  | paymentForwarded (totalFeeEarnedMsat outboundAmountForwardedMsat : Nat)
  | channelsBackup (event : Ldk.StaticChannelsBackupEvent)

/-- Reference: `events/models.go:15 Event`. -/
structure Event where
  event : String
  properties : Properties

/-- A decoded JSON value as properties. Reference: Go `json.Unmarshal` into an `interface{}`. -/
def Properties.ofJson : Json → Properties
  | .object fields => .map (fields.map fun field => (field.1, .other field.2))
  | v => .json v

/-- Reference: `api/api.go:2283 SendEvent`. -/
def SendEvent (event : String) (properties : Json) : Event := ⟨event, .ofJson properties⟩

/-- The assertion `.(*db.Transaction)`. Reference:
`transactions/hold_invoice_self_payment_consumer.go:25 ConsumeEvent`. -/
def Properties.toDbTransaction : Properties → Option Transaction
  | .dbTransaction row => some row
  | _ => none

/-- The assertion `.(map[string]interface{})`. Reference: `service/create_app_consumer.go:26
ConsumeEvent`. -/
def Properties.toMap : Properties → Option (List (String × Value))
  | .map fields => some fields
  | _ => none

/-- The assertion `.(uint)` on a field. Reference: `service/create_app_consumer.go:31
ConsumeEvent`. -/
def uintField (fields : List (String × Value)) (key : String) : Option Nat :=
  match fields.lookup key with
  | some (.uint n) => some n
  | _ => none

/-- The assertion `.(string)` on a field. Reference: `service/delete_app_consumer.go:33
ConsumeEvent`. -/
def stringField (fields : List (String × Value)) (key : String) : Option String :=
  match fields.lookup key with
  | some (.other (.string s)) => some s
  | _ => none

/-- The assertion `.(*events.StaticChannelsBackupEvent)`. Reference: `alby/alby_oauth_service.go:792
backupChannels`. -/
def Properties.toChannelsBackup : Properties → Option Ldk.StaticChannelsBackupEvent
  | .channelsBackup event => some event
  | _ => none

/-- The assertion `.(*lnclient.PaymentForwardedEventProperties)`. Reference:
`service/payment_forwarded_consumer.go:25 ConsumeEvent`. -/
def Properties.toPaymentForwarded : Properties → Option (Nat × Nat)
  | .paymentForwarded totalFeeEarnedMsat outboundAmountForwardedMsat =>
    some (totalFeeEarnedMsat, outboundAmountForwardedMsat)
  | _ => none

/-- The assertions of the transactions service. Reference:
`transactions/transactions_service.go:794 ConsumeEvent`. -/
def Event.toNodeEvent (e : Event) : Option NodeEvent :=
  match e.properties with
  | .lnTransaction tx => BusEvent.cast ⟨e.event, .transaction tx⟩
  | .paymentFailed tx reason => BusEvent.cast ⟨e.event, .paymentFailed tx reason⟩
  | _ => none

/-- Reference: the calls of `Publish` in `transactions/transactions_service.go`. -/
def ofEvent : AlbyHub.Event → Event
  | .paymentSent row => ⟨"nwc_payment_sent", .dbTransaction row⟩
  | .paymentReceived row => ⟨"nwc_payment_received", .dbTransaction row⟩
  | .paymentFailed row => ⟨"nwc_payment_failed", .dbTransaction row⟩
  | .holdInvoiceAccepted row => ⟨"nwc_hold_invoice_accepted", .dbTransaction row⟩
  | .holdInvoiceCanceled row => ⟨"nwc_hold_invoice_canceled", .dbTransaction row⟩
  | .permissionDenied appName code message => ⟨"nwc_permission_denied", .map [
      ("app_name", .other (.string appName)), ("code", .other (.string code)),
      ("message", .other (.string message))]⟩
  | .budgetWarning name id =>
    ⟨"nwc_budget_warning", .map [("name", .other (.string name)), ("id", .uint id)]⟩

/-- The event of a node. Reference: `lnclient/ldk/ldk.go:1822 handleLdkEvent`. -/
def ofNodeEvent (event : NodeEvent) : Event :=
  match event.onBus.properties with
  | .transaction tx => ⟨event.onBus.event, .lnTransaction tx⟩
  | .paymentFailed tx reason => ⟨event.onBus.event, .paymentFailed tx reason⟩

/-- Reference: the calls of `Publish` in `lnclient/ldk/ldk.go`. -/
def ofPublished : Ldk.Published → Event
  | .channelReady counterpartyNodeId isPublic jit capacity isOutbound trusted =>
    ⟨"nwc_channel_ready", .map [
      ("counterparty_node_id", .other (counterpartyNodeId.elim .null .string)),
      ("node_type", .other (.string "LDK")), ("public", .other (.bool isPublic)),
      ("jit", .other (.bool jit)), ("capacity", .other (.number capacity 1)),
      ("is_outbound", .other (.bool isOutbound)), ("trusted", .other (.bool trusted))]⟩
  | .backupChannels event => ⟨"nwc_backup_channels", .channelsBackup event⟩
  | .channelClosed counterpartyNodeId counterpartyNodeUrl reason pendingBalance fundingTxId
      fundingTxVout fundingTxUrl =>
    ⟨"nwc_channel_closed", .map [
      ("counterparty_node_id", .other (.string counterpartyNodeId)),
      ("counterparty_node_url", .other (.string counterpartyNodeUrl)),
      ("reason", .other (.string reason)), ("node_type", .other (.string "LDK")),
      ("pending_balance", .other (.number pendingBalance 1)),
      ("funding_tx_id", .other (.string fundingTxId)),
      ("funding_tx_vout", .other (.number fundingTxVout 1)),
      ("funding_tx_url", .other (.string fundingTxUrl))]⟩
  | .payment event => ofNodeEvent event
  | .paymentForwarded totalFeeEarnedMsat outboundAmountForwardedMsat =>
    ⟨"nwc_payment_forwarded",
      .paymentForwarded totalFeeEarnedMsat outboundAmountForwardedMsat⟩

/-! ## Subscribers -/

/-- Reference: the calls of `RegisterSubscriber`; `nip47Notifier` reads the queue of
`nip47Service`. -/
inductive Subscriber where
  | transactionsService
  | nip47Service
  | nip47Notifier
  | albyOAuthService
  | paymentForwardedConsumer
  | createAppConsumer
  | updateAppConsumer
  | deleteAppConsumer (walletPubkey : String)
  | ldkService
  | holdInvoiceUpdatedConsumer (paymentRequest : String)

/-- What the subscribers do. `report` is the send on the channel that the self-payment of the
invoice waits for. Reference: the functions `ConsumeEvent`. -/
inductive Cmd where
  | service (c : AlbyHub.Cmd)
  | ldk (c : Ldk.Cmd)
  | addToQueue (event : Event)
  | notifySubscribers (notificationType : String) (row : Transaction)
  | getAccessToken
  | sendEventsToAlby
  | sendBackup (event : Ldk.StaticChannelsBackupEvent)
  | fetchUserToken
  | postEvent (token : Option String) (event : String) (properties : List (String × Json))
  | createForward (outboundAmountForwardedMsat totalFeeEarnedMsat : Nat)
  | firstApp (id : Nat)
  | getAppWalletKey (id : Nat)
  | getPublicKey (walletPrivKey : String)
  | getNostrPublicKey
  | getRelayUrls
  | enqueueNip47InfoPublishRequest (id : Nat) (walletPubKey walletPrivKey relayUrl : String)
  | startAppWalletSubscription (walletPubKey : String)
  | cancelSubscription (walletPubKey : String)
  | removeSubscriber (subscriber : Subscriber)
  | getNip47Info (walletPubKey : String)
  | publishNip47InfoDeletion (walletPubKey walletPrivKey infoEventId : String)
  | report (paymentRequest : String) (update : HoldUpdate)

/-- Reference: the results of the calls of `Cmd`. -/
abbrev Cmd.Ans : Cmd → Type
  | .service c => c.Ans
  | .ldk c => c.Ans
  | .getAccessToken | .getAppWalletKey _ | .getPublicKey _ => Except String String
  | .sendEventsToAlby => Bool
  | .sendBackup _ | .createForward _ _ | .firstApp _ | .publishNip47InfoDeletion _ _ _ =>
    Except String Unit
  | .fetchUserToken | .getNip47Info _ => Except String (Option String)
  | .postEvent _ _ _ => Except String Nat
  | .getNostrPublicKey => String
  | .getRelayUrls => List String
  | .addToQueue _ | .notifySubscribers _ _ | .enqueueNip47InfoPublishRequest _ _ _ _
  | .startAppWalletSubscription _ | .cancelSubscription _ | .removeSubscriber _ | .report _ _ =>
    Unit

/-- What a subscriber does with an event. Reference: `events/models.go:7 EventSubscriber`. -/
abbrev Consumer := Panicking Cmd Cmd.Ans

/-- Reference: none. -/
abbrev ask (c : Cmd) : Consumer c.Ans := issue c

/-- What surrounds the bus: the JSON fields of what a pointer refers to, and the properties that are
added to each event that is sent. Reference: Go `json.Marshal`; `events/events.go:70
SetGlobalProperty`. -/
structure BusWorld extends World where
  fields : Properties → List (String × Json)
  globalProperties : List (String × Json)

/-- Reference: Go `json.Marshal`. -/
def Properties.encode (W : BusWorld) : Properties → Json
  | .json v => v
  | .map fields => .object (fields.map fun field =>
      (field.1, match field.2 with
        | .uint n => .number n 1
        | .other v => v))
  | p => .object (W.fields p)

/-- Reference: `transactions/transactions_service.go:794 ConsumeEvent`. -/
def consumeTransactions (W : BusWorld) (e : Event) : Consumer Unit :=
  match e.toNodeEvent with
  | none => return ()
  | some event => Prog.relabel (fun c => some (Cmd.service c)) (ConsumeEvent W.toWorld event)

/-- Reference: `nip47/notifications/nip47_notifier.go:41 ConsumeEvent`. -/
def consumeNotifier (e : Event) : Consumer Unit :=
  match (if e.event = "nwc_payment_received" then some "payment_received"
    else if e.event = "nwc_payment_sent" then some "payment_sent"
    else if e.event = "nwc_hold_invoice_accepted" then some "hold_invoice_accepted" else none),
    e.properties.toDbTransaction with
  | some notificationType, some row => ask (.notifySubscribers notificationType row)
  | _, _ => return ()

/-- Reference: `alby/alby_oauth_service.go:1440 getEventWhitelist`. -/
def getEventWhitelist : List String := [
  "nwc_backup_channels", "nwc_payment_received", "nwc_payment_sent", "nwc_payment_failed",
  "nwc_app_created", "nwc_app_updated", "nwc_app_deleted", "nwc_unlocked",
  "nwc_node_sync_failed", "nwc_outgoing_liquidity_required", "nwc_incoming_liquidity_required",
  "nwc_budget_warning", "nwc_channel_ready", "nwc_channel_closed", "nwc_permission_denied",
  "nwc_started", "nwc_stopped", "nwc_node_started", "nwc_node_start_failed",
  "nwc_node_stop_failed", "nwc_node_stopped", "nwc_alby_account_connected",
  "nwc_swap_succeeded", "nwc_rebalance_succeeded", "payment_failed_details",
  "debit_card_url_clicked", "debit_card_connect"]

/-- The attempts at a backup. Reference: `alby/alby_oauth_service.go:621 ConsumeEvent`, `:791
backupChannels`. -/
def backupAttempts (e : Event) : Nat → Consumer Unit
  | 0 => return ()
  | attempts + 1 =>
    match e.properties.toChannelsBackup with
    | none => backupAttempts e attempts
    | some event => do
      match ← ask (.sendBackup event) with
      | .error _ => backupAttempts e attempts
      | .ok () => return ()

/-- The event with the properties that Alby is to see, unless they cannot be cast. The casts of the
first two are not checked. Reference: `alby/alby_oauth_service.go:631 ConsumeEvent`. -/
def albyProperties (e : Event) : Consumer (Option Properties) :=
  if e.event = "nwc_payment_received" then do
    let row ← deref e.properties.toDbTransaction
    return some (.ofJson (.object [("payment_hash", .string row.paymentHash)]))
  else if e.event = "nwc_payment_sent" then do
    let row ← deref e.properties.toDbTransaction
    let settledAt ← deref row.settledAt
    let duration := uint64OfInt (Time.toUnix settledAt - Time.toUnix row.createdAt)
    return some (.ofJson (.object [("payment_hash", .string row.paymentHash),
      ("duration", .number duration 1)]))
  else if e.event = "nwc_payment_failed" then
    match e.properties.toDbTransaction with
    | none => return none
    | some row => return some (.ofJson (.object [("payment_hash", .string row.paymentHash),
        ("reason", .string row.failureReason)]))
  else return some e.properties

/-- The event with the global properties is sent, where its own are an object or null. Reference:
`alby/alby_oauth_service.go:682 ConsumeEvent`. -/
def sendEvent (W : BusWorld) (event : String) (properties : Properties) : Consumer Unit := do
  match ← ask .fetchUserToken with
  | .error _ => return ()
  | .ok token =>
    let own := match properties.encode W with
      | .object fields => some fields
      | .null => some []
      | _ => none
    match own with
    | none => return ()
    | some own =>
      let added := W.globalProperties.filter fun field => (own.lookup field.1).isNone
      let _ ← ask (.postEvent token event (own ++ added))
      return ()

/-- The deferred recovery is left out: a panic is one here. Reference:
`alby/alby_oauth_service.go:587 ConsumeEvent`. -/
def consumeAlby (W : BusWorld) (e : Event) : Consumer Unit := do
  match ← ask .getAccessToken with
  | .error _ => return ()
  | .ok accessToken =>
    if accessToken = "" then return ()
    else do
      let sends ← ask .sendEventsToAlby
      if !sends then return ()
      else if e.event ∉ getEventWhitelist then return ()
      else if e.event = "nwc_backup_channels" then backupAttempts e 3
      else do
        match ← albyProperties e with
        | none => return ()
        | some properties => sendEvent W e.event properties

/-- Reference: `service/payment_forwarded_consumer.go:20 ConsumeEvent`. -/
def consumePaymentForwarded (e : Event) : Consumer Unit :=
  if e.event ≠ "nwc_payment_forwarded" then return ()
  else
    match e.properties.toPaymentForwarded with
    | none => return ()
    | some (totalFeeEarnedMsat, outboundAmountForwardedMsat) => do
      let _ ← ask (.createForward outboundAmountForwardedMsat totalFeeEarnedMsat)
      return ()

/-- The requests for the relays. Reference: `service/create_app_consumer.go:56 ConsumeEvent`. -/
def enqueueRequests (id : Nat) (walletPubKey walletPrivKey : String) :
    List String → Consumer Unit
  | [] => return ()
  | relayUrl :: relayUrls => do
    ask (.enqueueNip47InfoPublishRequest id walletPubKey walletPrivKey relayUrl)
    enqueueRequests id walletPubKey walletPrivKey relayUrls

/-- The id of the app of an event, where the properties can be cast. Reference:
`service/create_app_consumer.go:26 ConsumeEvent`. -/
def Event.appId (e : Event) : Option Nat :=
  e.properties.toMap.bind fun fields => uintField fields "id"

/-- Reference: `service/create_app_consumer.go:21 ConsumeEvent`. -/
def consumeCreateApp (e : Event) : Consumer Unit :=
  if e.event ≠ "nwc_app_created" then return ()
  else
    match e.appId with
    | none => return ()
    | some id => do
      match ← ask (.firstApp id) with
      | .error _ => return ()
      | .ok () =>
        match ← ask (.getAppWalletKey id) with
        | .error _ => return ()
        | .ok walletPrivKey =>
          match ← ask (.getPublicKey walletPrivKey) with
          | .error _ => return ()
          | .ok walletPubKey =>
            enqueueRequests id walletPubKey walletPrivKey (← ask .getRelayUrls)
            ask (.startAppWalletSubscription walletPubKey)

/-- Reference: `service/update_app_consumer.go:17 ConsumeEvent`. -/
def consumeUpdateApp (e : Event) : Consumer Unit :=
  if e.event ≠ "nwc_app_updated" then return ()
  else
    match e.appId with
    | none => return ()
    | some id => do
      match ← ask (.getAppWalletKey id) with
      | .error _ => return ()
      | .ok walletPrivKey =>
        match ← ask (.getPublicKey walletPrivKey) with
        | .error _ => return ()
        | .ok walletPubKey =>
          if (← ask .getNostrPublicKey) ≠ walletPubKey then
            enqueueRequests id walletPubKey walletPrivKey (← ask .getRelayUrls)
          else return ()

/-- Reference: `service/delete_app_consumer.go:21 ConsumeEvent`. -/
def consumeDeleteApp (walletPubkey : String) (e : Event) : Consumer Unit :=
  if e.event ≠ "nwc_app_deleted" then return ()
  else
    match e.properties.toMap with
    | none => return ()
    | some fields =>
      let walletPubKey := (stringField fields "walletPubkey").getD ""
      if walletPubKey = "" ∨ walletPubKey ≠ walletPubkey then return ()
      else
        match uintField fields "id" with
        | none => return ()
        | some id => do
          ask (.cancelSubscription walletPubkey)
          ask (.removeSubscriber (.deleteAppConsumer walletPubkey))
          match ← ask (.getAppWalletKey id) with
          | .error _ => return ()
          | .ok walletPrivKey =>
            match ← ask (.getNip47Info walletPubkey) with
            | .error _ | .ok none => return ()
            | .ok (some infoEventId) =>
              let _ ← ask (.publishNip47InfoDeletion walletPubKey walletPrivKey infoEventId)
              return ()

/-- Reference: `lnclient/ldk/ldk.go:2650 ConsumeEvent`. -/
def consumeLdk (e : Event) : Consumer Unit :=
  if e.event = "nwc_alby_account_connected" then within Cmd.ldk Ldk.backupChannels else return ()

/-- Neither cast is checked. Reference:
`transactions/hold_invoice_self_payment_consumer.go:24 ConsumeEvent`. -/
def consumeHoldUpdate (paymentRequest : String) (e : Event) : Consumer Unit :=
  if e.event = "nwc_payment_received" then do
    let row ← deref e.properties.toDbTransaction
    if row.paymentRequest = paymentRequest then ask (.report paymentRequest (.settled row))
    else return ()
  else if e.event = "nwc_hold_invoice_canceled" then do
    let row ← deref e.properties.toDbTransaction
    if row.paymentRequest = paymentRequest then ask (.report paymentRequest (.canceled row))
    else return ()
  else return ()

/-- Reference: the functions `ConsumeEvent`. -/
def Subscriber.ConsumeEvent (W : BusWorld) : Subscriber → Event → Consumer Unit
  | .transactionsService, e => consumeTransactions W e
  | .nip47Service, e => ask (.addToQueue e)
  | .nip47Notifier, e => consumeNotifier e
  | .albyOAuthService, e => consumeAlby W e
  | .paymentForwardedConsumer, e => consumePaymentForwarded e
  | .createAppConsumer, e => consumeCreateApp e
  | .updateAppConsumer, e => consumeUpdateApp e
  | .deleteAppConsumer walletPubkey, e => consumeDeleteApp walletPubkey e
  | .ldkService, e => consumeLdk e
  | .holdInvoiceUpdatedConsumer paymentRequest, e => consumeHoldUpdate paymentRequest e

/-! ## What comes of an event -/

/-- What the Alby service depends on. Reference: `alby/alby_oauth_service.go:595 ConsumeEvent`. -/
structure Settings where
  accessToken : String
  sendEventsToAlby : Bool

/-- What a command may be answered by; only the settings are fixed. Reference: none. -/
def Settings.may (cfg : Settings) : (c : Cmd) → c.Ans → Prop
  | .getAccessToken, r => r = .ok cfg.accessToken ∨ ∃ e, r = .error e
  | .sendEventsToAlby, r => r = cfg.sendEventsToAlby
  | _, _ => True

/-- The event that a command puts on the bus. Reference: `events/events.go:47 Publish`. -/
def Cmd.published : Cmd → Option Event
  | .service (.publish event) => some (ofEvent event)
  | .ldk (.publish event) => some (ofPublished event)
  | _ => none

/-- The events that come of an event: itself, and those that the subscribers publish when they are
given one of these. Reference: `events/events.go:54 publish`. -/
inductive Arises (W : BusWorld) (cfg : Settings) (subscribers : List Subscriber) (e : Event) :
    Event → Prop
  | self : Arises W cfg subscribers e e
  | published {e₁ e₂ : Event} {s : Subscriber} {c : Cmd} (h : Arises W cfg subscribers e e₁)
      (hs : s ∈ subscribers) (hc : MayIssue cfg.may (s.ConsumeEvent W e₁) c)
      (he : c.published = some e₂) : Arises W cfg subscribers e e₂

/-- No subscriber panics because of the event, and no self-payment is told that its invoice was
settled or canceled. Reference: none. -/
structure Unharmed (W : BusWorld) (cfg : Settings) (subscribers : List Subscriber) (e : Event) :
    Prop where
  sound : ∀ e', Arises W cfg subscribers e e' →
    ∀ s ∈ subscribers, Harmless cfg.may (s.ConsumeEvent W e')
  unreported : ∀ e', Arises W cfg subscribers e e' →
    ∀ s ∈ subscribers, ∀ paymentRequest update,
      ¬ MayIssue cfg.may (s.ConsumeEvent W e') (.report paymentRequest update)

/-- The subscriber casts the properties of such an event without a check. Reference:
`alby/alby_oauth_service.go:631 ConsumeEvent`,
`transactions/hold_invoice_self_payment_consumer.go:24 ConsumeEvent`. -/
def Subscriber.Unchecked (cfg : Settings) (event : String) : Subscriber → Prop
  | .albyOAuthService => cfg.accessToken ≠ "" ∧ cfg.sendEventsToAlby = true ∧
    (event = "nwc_payment_received" ∨ event = "nwc_payment_sent")
  | .holdInvoiceUpdatedConsumer _ =>
    event = "nwc_payment_received" ∨ event = "nwc_hold_invoice_canceled"
  | _ => False

/-- The properties are of no type that a subscriber expects, other than a channels backup.
Reference: none. -/
structure Event.Foreign (e : Event) : Prop where
  transaction : e.properties.toDbTransaction = none
  node : e.toNodeEvent = none
  forwarded : e.properties.toPaymentForwarded = none
  app : e.appId = none

/-- The event of a channels backup. Reference: `lnclient/ldk/ldk.go:1970 backupChannels`. -/
def backupEvent (backup : Ldk.StaticChannelsBackupEvent) : Event :=
  ⟨"nwc_backup_channels", .channelsBackup backup⟩

/-- The command tells no self-payment anything, and puts nothing but channel backups on the bus.
Reference: none. -/
structure Cmd.Silent (c : Cmd) : Prop where
  report : ∀ paymentRequest update, c ≠ .report paymentRequest update
  published : ∀ e, c.published = some e → ∃ backup, e = backupEvent backup

theorem silent_of_unpublished {c : Cmd} (h : c.published = none)
    (hreport : ∀ paymentRequest update, c ≠ .report paymentRequest update) : c.Silent where
  report := hreport
  published e he := absurd (h.symm.trans he) (Option.some_ne_none e).symm

/-- A map that was decoded has no value of type `uint`. Reference: Go `json.Unmarshal` into an
`interface{}`. -/
theorem uintField_decoded (fields : List (String × Json)) (key : String) :
    uintField (fields.map fun field => (field.1, Value.other field.2)) key = none := by
  induction fields with
  | nil => rfl
  | cons field fields ih =>
    obtain ⟨name, v⟩ := field
    unfold uintField at ih ⊢
    rw [List.map_cons, List.lookup_cons]
    cases key == name with
    | true => rfl
    | false => exact ih

/-- Reference: `api/api.go:2283 SendEvent`. -/
theorem foreign_sendEvent (name : String) (v : Json) : (SendEvent name v).Foreign := by
  cases v with
  | object fields =>
    exact ⟨rfl, rfl, rfl, uintField_decoded fields "id"⟩
  | _ => exact ⟨rfl, rfl, rfl, rfl⟩

theorem foreign_backupEvent (backup : Ldk.StaticChannelsBackupEvent) :
    (backupEvent backup).Foreign := ⟨rfl, rfl, rfl, rfl⟩

section
variable {W : BusWorld} {cfg : Settings} {subscribers : List Subscriber} {e e' : Event} {c : Cmd}

/-! ## The subscribers that check their casts -/

theorem Event.Foreign.transactions (he : e.Foreign) : consumeTransactions W e = pure () := by
  rw [consumeTransactions, he.node]

theorem Event.Foreign.notifier (he : e.Foreign) : consumeNotifier e = pure () := by
  rw [consumeNotifier, he.transaction]
  split <;> first | rfl | contradiction

theorem Event.Foreign.paymentForwarded (he : e.Foreign) : consumePaymentForwarded e = pure () := by
  rw [consumePaymentForwarded, he.forwarded]
  exact ite_self _

theorem Event.Foreign.createApp (he : e.Foreign) : consumeCreateApp e = pure () := by
  rw [consumeCreateApp, he.app]
  exact ite_self _

theorem Event.Foreign.updateApp (he : e.Foreign) : consumeUpdateApp e = pure () := by
  rw [consumeUpdateApp, he.app]
  exact ite_self _

theorem Event.Foreign.deleteApp (he : e.Foreign) (walletPubkey : String) :
    consumeDeleteApp walletPubkey e = pure () := by
  unfold consumeDeleteApp
  split
  · rfl
  · cases hmap : e.properties.toMap with
    | none => rfl
    | some fields =>
      have hid : uintField fields "id" = none := by
        have happ := he.app
        rwa [Event.appId, hmap] at happ
      simp only [hid]
      exact ite_self _

/-! ## The node's service and the waiting self-payment -/

theorem mayIssue_channelBackups {may : (c : Ldk.Cmd) → c.Ans → Prop} {d : Ldk.Cmd}
    (peers : List Ldk.PeerDetails) (channels : List Ldk.ChannelDetails) :
    ¬ MayIssue may (Ldk.channelBackups peers channels) d := by
  induction channels with
  | nil => exact mayIssue_pure
  | cons channel rest ih =>
    rw [Ldk.channelBackups]
    simp only [derefOr_eq, pure_bind]
    cases peers.reverse.find? _ with
    | none => simpa using ih
    | some peer => simpa using ih

/-- The backup only publishes itself. Reference: `lnclient/ldk/ldk.go:1923 backupChannels`. -/
theorem mayIssue_backupChannels {may : (c : Ldk.Cmd) → c.Ans → Prop} {event : Ldk.Published}
    (h : MayIssue may Ldk.backupChannels (.publish event)) :
    ∃ backup, event = .backupChannels backup := by
  unfold Ldk.backupChannels at h
  simp only [mayIssue_bind, mayIssue_issue, mayIssue_channelBackups, mayReturn_issue, reduceCtorEq,
    false_or] at h
  obtain ⟨channels, -, peers, -, backups, -, monitors, -, h⟩ := h
  cases monitors with
  | error e => exact h.elim
  | ok monitors =>
    simp only [mayIssue_bind, mayIssue_issue, mayReturn_issue, reduceCtorEq, false_or] at h
    obtain ⟨nodeId, -, _, -, h⟩ := h
    exact ⟨_, Ldk.Cmd.publish.inj h⟩

theorem harmless_ldk : Harmless cfg.may (consumeLdk e) := by
  have hbackup : Ldk.NoPanic ⟨fun _ => True, fun _ _ => True⟩ [] Ldk.backupChannels :=
    Ldk.noPanic_backupChannels
  unfold consumeLdk
  split
  · refine harmless_within.2 (hbackup.anti fun c r _ => ?_)
    cases c <;> trivial
  · trivial

theorem silent_ldk (h : MayIssue cfg.may (consumeLdk e) c) : c.Silent := by
  unfold consumeLdk at h
  split at h
  · obtain ⟨d, rfl, hd⟩ := mayIssue_within.1 h
    refine ⟨fun _ _ => Cmd.noConfusion, fun e' he' => ?_⟩
    cases d with
    | publish event =>
      obtain ⟨backup, rfl⟩ := mayIssue_backupChannels hd
      exact ⟨backup, (Option.some.inj he').symm⟩
    | _ => cases he'
  · exact h.elim

/-- Reference: `transactions/hold_invoice_self_payment_consumer.go:24 ConsumeEvent`. -/
theorem harmless_holdUpdate (he : e.Foreign) (paymentRequest : String) :
    Harmless cfg.may (consumeHoldUpdate paymentRequest e) ↔
      ¬ (e.event = "nwc_payment_received" ∨ e.event = "nwc_hold_invoice_canceled") := by
  unfold consumeHoldUpdate
  rw [he.transaction]
  by_cases hreceived : e.event = "nwc_payment_received" <;> simp [harmless_bind, hreceived]

theorem not_mayIssue_holdUpdate (he : e.Foreign) (paymentRequest : String) :
    ¬ MayIssue cfg.may (consumeHoldUpdate paymentRequest e) c := by
  unfold consumeHoldUpdate
  rw [he.transaction]
  simp

/-! ## The Alby service -/

theorem harmless_backupAttempts (attempts : Nat) :
    Harmless cfg.may (backupAttempts e attempts) := by
  induction attempts with
  | zero => trivial
  | succ attempts ih =>
    rw [backupAttempts]
    cases e.properties.toChannelsBackup with
    | none => exact ih
    | some event =>
      refine harmless_issue_bind.2 fun r _ => ?_
      cases r with
      | error e => exact ih
      | ok => trivial

theorem mayIssue_backupAttempts {attempts : Nat}
    (h : MayIssue cfg.may (backupAttempts e attempts) c) : ∃ event, c = .sendBackup event := by
  induction attempts with
  | zero => exact h.elim
  | succ attempts ih =>
    rw [backupAttempts] at h
    cases hcast : e.properties.toChannelsBackup with
    | none =>
      rw [hcast] at h
      exact ih h
    | some event =>
      rw [hcast] at h
      rcases mayIssue_bind.1 h with h | ⟨r, -, h⟩
      · exact ⟨event, mayIssue_issue.1 h⟩
      · cases r with
        | error e => exact ih h
        | ok => exact h.elim

theorem harmless_sendEvent (event : String) (properties : Properties) :
    Harmless cfg.may (sendEvent W event properties) := by
  refine harmless_issue_bind.2 fun r _ => ?_
  cases r with
  | error e => trivial
  | ok token =>
    simp only
    split
    · trivial
    · exact harmless_issue_bind.2 fun _ _ => trivial

theorem mayIssue_sendEvent {event : String} {properties : Properties}
    (h : MayIssue cfg.may (sendEvent W event properties) c) :
    c = .fetchUserToken ∨ ∃ token event fields, c = .postEvent token event fields := by
  rcases mayIssue_bind.1 h with h | ⟨r, -, h⟩
  · exact .inl (mayIssue_issue.1 h)
  · cases r with
    | error e => exact h.elim
    | ok token =>
      simp only at h
      split at h
      · exact h.elim
      · rcases mayIssue_bind.1 h with h | ⟨_, -, h⟩
        · exact .inr ⟨_, _, _, mayIssue_issue.1 h⟩
        · exact h.elim

/-- The names whose casts are not checked. Reference: `alby/alby_oauth_service.go:631
ConsumeEvent`. -/
theorem harmless_albyProperties (he : e.Foreign) : Harmless cfg.may (albyProperties e) ↔
    ¬ (e.event = "nwc_payment_received" ∨ e.event = "nwc_payment_sent") := by
  unfold albyProperties
  rw [he.transaction]
  by_cases hreceived : e.event = "nwc_payment_received"
  · rw [if_pos hreceived]
    exact iff_of_false (fun h => Bool.false_ne_true (harmless_deref.1 (harmless_bind.1 h).1))
      fun h => h (.inl hreceived)
  · rw [if_neg hreceived]
    by_cases hsent : e.event = "nwc_payment_sent"
    · rw [if_pos hsent]
      exact iff_of_false (fun h => Bool.false_ne_true (harmless_deref.1 (harmless_bind.1 h).1))
        fun h => h (.inr hsent)
    · rw [if_neg hsent]
      refine iff_of_true (harmless_ite.2 ⟨fun _ => trivial, fun _ => trivial⟩) ?_
      rintro (h | h)
      · exact hreceived h
      · exact hsent h

theorem not_mayIssue_albyProperties (he : e.Foreign) :
    ¬ MayIssue cfg.may (albyProperties e) c := by
  unfold albyProperties
  rw [he.transaction]
  simp

theorem whitelisted_received : "nwc_payment_received" ∈ getEventWhitelist := by decide

theorem whitelisted_sent : "nwc_payment_sent" ∈ getEventWhitelist := by decide

theorem harmless_alby (he : e.Foreign) : Harmless cfg.may (consumeAlby W e) ↔
    ¬ Subscriber.albyOAuthService.Unchecked cfg e.event := by
  unfold consumeAlby
  rw [harmless_issue_bind]
  constructor
  · rintro h ⟨htoken, hsends, hname⟩
    have hlisted : e.event ∈ getEventWhitelist := by
      rcases hname with hname | hname
      · exact hname ▸ whitelisted_received
      · exact hname ▸ whitelisted_sent
    have hbackup : e.event ≠ "nwc_backup_channels" := by
      rcases hname with hname | hname
      · rw [hname]
        decide
      · rw [hname]
        decide
    have hbody := h (.ok cfg.accessToken) (.inl rfl)
    simp only [htoken, if_false] at hbody
    have hbody := harmless_issue_bind.1 hbody true hsends.symm
    simp only [Bool.not_true, Bool.false_eq_true, hlisted, not_true, hbackup, if_false] at hbody
    exact (harmless_albyProperties he).1 (harmless_bind.1 hbody).1 hname
  · intro h r hr
    cases r with
    | error _ => trivial
    | ok accessToken =>
      obtain rfl : accessToken = cfg.accessToken := by
        rcases hr with hr | ⟨_, hr⟩
        · exact Except.ok.inj hr
        · cases hr
      refine harmless_ite.2 ⟨fun _ => trivial, fun htoken => ?_⟩
      refine harmless_issue_bind.2 fun sends hsends => ?_
      obtain rfl : sends = cfg.sendEventsToAlby := hsends
      refine harmless_ite.2 ⟨fun _ => trivial, fun hsends => ?_⟩
      refine harmless_ite.2 ⟨fun _ => trivial, fun _ => ?_⟩
      refine harmless_ite.2 ⟨fun _ => harmless_backupAttempts 3, fun _ => ?_⟩
      have hname : ¬ (e.event = "nwc_payment_received" ∨ e.event = "nwc_payment_sent") :=
        fun hname => h ⟨htoken, by simpa using hsends, hname⟩
      refine harmless_bind.2 ⟨(harmless_albyProperties he).2 hname, fun properties _ => ?_⟩
      cases properties with
      | none => trivial
      | some properties => exact harmless_sendEvent _ _

/-- Alby is asked and told things, and no more. Reference: `alby/alby_oauth_service.go:587
ConsumeEvent`. -/
theorem silent_alby (he : e.Foreign) (h : MayIssue cfg.may (consumeAlby W e) c) : c.Silent := by
  unfold consumeAlby at h
  rcases mayIssue_bind.1 h with h | ⟨r, -, h⟩
  · exact mayIssue_issue.1 h ▸ silent_of_unpublished rfl fun _ _ => Cmd.noConfusion
  cases r with
  | error _ => exact h.elim
  | ok accessToken =>
    obtain ⟨-, h⟩ | ⟨-, h⟩ := mayIssue_ite.1 h
    · exact h.elim
    rcases mayIssue_bind.1 h with h | ⟨sends, -, h⟩
    · exact mayIssue_issue.1 h ▸ silent_of_unpublished rfl fun _ _ => Cmd.noConfusion
    obtain ⟨-, h⟩ | ⟨-, h⟩ := mayIssue_ite.1 h
    · exact h.elim
    obtain ⟨-, h⟩ | ⟨-, h⟩ := mayIssue_ite.1 h
    · exact h.elim
    obtain ⟨-, h⟩ | ⟨-, h⟩ := mayIssue_ite.1 h
    · obtain ⟨event, rfl⟩ := mayIssue_backupAttempts h
      exact silent_of_unpublished rfl fun _ _ => Cmd.noConfusion
    rcases mayIssue_bind.1 h with h | ⟨properties, -, h⟩
    · exact (not_mayIssue_albyProperties he h).elim
    cases properties with
    | none => exact h.elim
    | some properties =>
      rcases mayIssue_sendEvent h with rfl | ⟨token, event, fields, rfl⟩
      · exact silent_of_unpublished rfl fun _ _ => Cmd.noConfusion
      · exact silent_of_unpublished rfl fun _ _ => Cmd.noConfusion

/-! ## Events from outside -/

/-- Most subscribers ignore such an event. Reference: the functions `ConsumeEvent`. -/
theorem Event.Foreign.cases (W : BusWorld) (he : e.Foreign) (s : Subscriber) :
    (s.ConsumeEvent W e = pure () ∧ ∀ cfg event, ¬ s.Unchecked cfg event) ∨
      s = .nip47Service ∨ s = .albyOAuthService ∨ s = .ldkService ∨
        ∃ paymentRequest, s = .holdInvoiceUpdatedConsumer paymentRequest := by
  cases s with
  | transactionsService => exact .inl ⟨he.transactions, fun _ _ => id⟩
  | nip47Service => exact .inr (.inl rfl)
  | nip47Notifier => exact .inl ⟨he.notifier, fun _ _ => id⟩
  | albyOAuthService => exact .inr (.inr (.inl rfl))
  | paymentForwardedConsumer => exact .inl ⟨he.paymentForwarded, fun _ _ => id⟩
  | createAppConsumer => exact .inl ⟨he.createApp, fun _ _ => id⟩
  | updateAppConsumer => exact .inl ⟨he.updateApp, fun _ _ => id⟩
  | deleteAppConsumer walletPubkey => exact .inl ⟨he.deleteApp walletPubkey, fun _ _ => id⟩
  | ldkService => exact .inr (.inr (.inr (.inl rfl)))
  | holdInvoiceUpdatedConsumer paymentRequest => exact .inr (.inr (.inr (.inr ⟨_, rfl⟩)))

/-- Such an event makes a subscriber panic exactly where it casts without a check. Reference: the
functions `ConsumeEvent`. -/
theorem Event.Foreign.harmless_iff (he : e.Foreign) (s : Subscriber) :
    Harmless cfg.may (s.ConsumeEvent W e) ↔ ¬ s.Unchecked cfg e.event := by
  obtain ⟨hignored, hchecked⟩ | rfl | rfl | rfl | ⟨paymentRequest, rfl⟩ := he.cases W s
  · rw [hignored]
    exact iff_of_true trivial (hchecked cfg e.event)
  · exact iff_of_true harmless_issue id
  · exact harmless_alby he
  · exact iff_of_true harmless_ldk id
  · exact harmless_holdUpdate he paymentRequest

/-- Such an event reports nothing, and only a channels backup comes of it. Reference: the functions
`ConsumeEvent`. -/
theorem Event.Foreign.silent (he : e.Foreign) (s : Subscriber)
    (h : MayIssue cfg.may (s.ConsumeEvent W e) c) : c.Silent := by
  obtain ⟨hignored, -⟩ | rfl | rfl | rfl | ⟨paymentRequest, rfl⟩ := he.cases W s
  · rw [hignored] at h
    exact h.elim
  · rw [mayIssue_issue.1 h]
    exact silent_of_unpublished rfl fun _ _ => Cmd.noConfusion
  · exact silent_alby he h
  · exact silent_ldk h
  · exact (not_mayIssue_holdUpdate he paymentRequest h).elim

/-- Reference: `events/events.go:54 publish`. -/
theorem Arises.eq_or_backup (h : Arises W cfg subscribers e e') (he : e.Foreign) :
    e' = e ∨ ∃ backup, e' = backupEvent backup := by
  induction h with
  | self => exact .inl rfl
  | @published e₁ _ s _ _ _ hc hpublished ih =>
    have hforeign : e₁.Foreign := by
      rcases ih with rfl | ⟨backup, rfl⟩
      · exact he
      · exact foreign_backupEvent backup
    exact .inr ((hforeign.silent _ hc).published _ hpublished)

theorem Arises.foreign (h : Arises W cfg subscribers e e') (he : e.Foreign) : e'.Foreign := by
  rcases h.eq_or_backup he with rfl | ⟨backup, rfl⟩
  · exact he
  · exact foreign_backupEvent backup

/-- No cast of a channels backup is unchecked. Reference: `alby/alby_oauth_service.go:791
backupChannels`. -/
theorem not_unchecked_backupEvent (backup : Ldk.StaticChannelsBackupEvent) (s : Subscriber) :
    ¬ s.Unchecked cfg (backupEvent backup).event := by
  have hreceived : "nwc_backup_channels" ≠ "nwc_payment_received" := by decide
  have hsent : "nwc_backup_channels" ≠ "nwc_payment_sent" := by decide
  have hcanceled : "nwc_backup_channels" ≠ "nwc_hold_invoice_canceled" := by decide
  cases s with
  | albyOAuthService =>
    rintro ⟨-, -, h | h⟩
    · exact hreceived h
    · exact hsent h
  | holdInvoiceUpdatedConsumer paymentRequest =>
    rintro (h | h)
    · exact hreceived h
    · exact hcanceled h
  | _ => exact id

end

/-- An event that is sent from outside harms nobody exactly where no subscriber casts its properties
without a check: while the hub is linked to an Alby account that is told of events, it must not be
named as one of a payment that was sent or received, and while a self-payment waits for its hold
invoice, not as one of a payment that was received or an invoice that was canceled. Reference:
`api/api.go:2283 SendEvent`. -/
theorem outside_event_iff (W : BusWorld) (cfg : Settings) (subscribers : List Subscriber)
    (name : String) (properties : Json) :
    Unharmed W cfg subscribers (SendEvent name properties) ↔
      ∀ s ∈ subscribers, ¬ s.Unchecked cfg name := by
  have hforeign := foreign_sendEvent name properties
  constructor
  · intro h s hs
    exact (hforeign.harmless_iff s).1 (h.sound _ .self s hs)
  · refine fun h => ⟨fun e' he' s hs => ?_, fun e' he' s hs paymentRequest update hreport => ?_⟩
    · refine ((he'.foreign hforeign).harmless_iff s).2 ?_
      rcases he'.eq_or_backup hforeign with rfl | ⟨backup, rfl⟩
      · exact h s hs
      · exact not_unchecked_backupEvent backup s
    · exact ((he'.foreign hforeign).silent s hreport).report paymentRequest update rfl

/-- An event named as a received payment, without properties, crashes the hub while a self-payment
waits for its hold invoice. Reference:
`transactions/hold_invoice_self_payment_consumer.go:25 ConsumeEvent`. -/
theorem waiting_self_payment_crashed : ¬ ∀ (W : BusWorld) (cfg : Settings)
    (subscribers : List Subscriber) (name : String) (properties : Json),
    Unharmed W cfg subscribers (SendEvent name properties) := by
  intro h
  have hunharmed := h ⟨demo, fun _ => [], []⟩ ⟨"", false⟩ [.holdInvoiceUpdatedConsumer "lnbc"]
    "nwc_payment_received" .null
  exact hunharmed.sound _ .self _ (List.mem_singleton.2 rfl)

end AlbyHub.Bus
