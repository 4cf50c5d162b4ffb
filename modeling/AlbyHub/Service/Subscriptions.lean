import AlbyHub.Interaction.Index
import AlbyHub.Nip47.InfoPublisher

/-!
# The subscriptions of the wallets

A goroutine for each app connection keeps a subscription to the requests that are sent to the app's
wallet: it subscribes, registers a consumer for the event of the app's deletion, waits until its
context is done or the relay closes the subscription, and in the latter case begins anew after a
while. These loops are started for the apps that the hub finds when it starts, and for every app
that is created, by the consumer of the creation's event. `SubHub.step` is one step of any of these.

In every order of steps an app has a loop when nothing is left to do for its key. The converse
depends on the order: the deletion of an app reaches its loop only while that has a consumer
registered, so it is lost where the loop is between two subscriptions, and it comes to nothing where
the loop notices first that the relay has closed the subscription
(`wallet_subscriptions_follow_apps`).
-/

namespace AlbyHub

open Go Interaction

/-! ## The model -/

/-- The place of a removed listener is taken by the last one. Reference: `events/events.go:34
RemoveSubscriber`. -/
def RemoveSubscriber {α : Type} [DecidableEq α] (listeners : List α) (listenerToRemove : α) :
    List α :=
  match listeners.idxOf? listenerToRemove with
  | none => listeners
  | some i => (listeners.set i (listeners.getLastD listenerToRemove)).dropLast

/-- A listener of the event bus that looks at the apps. The consumer of the deletion is the one of a
round of a loop, and its wallet key is the loop's. Reference: `service/create_app_consumer.go:14
createAppConsumer`, `service/delete_app_consumer.go:11 deleteAppConsumer`. -/
inductive AppConsumer where
  | createAppConsumer
  | deleteAppConsumer (loop round : Nat)
  deriving DecidableEq, Repr

/-- The events of the apps, with the properties that the consumers look at. Reference:
`apps/apps_service.go:172 CreateApp`, `:194 DeleteApp`. -/
inductive ConnectionEvent where
  | created (id : Nat)
  | deleted (id : Nat) (walletPubkey : String)
  deriving DecidableEq, Repr

/-- The event is about the key of a wallet. Reference: none. -/
def ConnectionEvent.About (W : InfoWorld) (walletPubkey : String) : ConnectionEvent → Prop
  | .created id => W.walletPubkey id = .ok walletPubkey
  | .deleted _ key => key = walletPubkey

instance (W : InfoWorld) (walletPubkey : String) (e : ConnectionEvent) :
    Decidable (e.About W walletPubkey) :=
  match e with
  | .created id => inferInstanceAs (Decidable (W.walletPubkey id = .ok walletPubkey))
  | .deleted _ key => inferInstanceAs (Decidable (key = walletPubkey))

/-- A goroutine that consumes an event; `cancelled` when it has cancelled the subscription and is
about to remove its listener. Reference: `events/events.go:62 publish`. -/
structure Consumption where
  listener : AppConsumer
  event : ConnectionEvent
  cancelled : Bool := false
  deriving DecidableEq, Repr

/-- Where a loop is: before the subscription, in the `select` on the context of the subscription and
the end of its channel, before the removal of the consumer, asleep, or returned. Reference:
`service/start.go:203 startAppWalletSubscription`. -/
inductive LoopStage where
  | subscribing
  | watching (cancelled closed : Bool)
  | leaving (failed : Bool)
  | sleeping
  | ended
  deriving DecidableEq, Repr

/-- The loop waits for requests, or will do so without anything that happens to it. Reference:
none. -/
def LoopStage.Live : LoopStage → Prop
  | .watching cancelled _ => cancelled = false
  | .leaving failed => failed = true
  | .subscribing | .sleeping => True
  | .ended => False

instance (stage : LoopStage) : Decidable stage.Live :=
  match stage with
  | .watching cancelled _ => inferInstanceAs (Decidable (cancelled = false))
  | .leaving failed => inferInstanceAs (Decidable (failed = true))
  | .subscribing | .sleeping => isTrue trivial
  | .ended => isFalse id

/-- The subscription is open as far as the loop knows. Reference: `service/start.go:248
watchSubscription`. -/
def LoopStage.Watching : LoopStage → Prop
  | .watching cancelled _ => cancelled = false
  | _ => False

instance (stage : LoopStage) : Decidable stage.Watching :=
  match stage with
  | .watching cancelled _ => inferInstanceAs (Decidable (cancelled = false))
  | .leaving _ | .subscribing | .sleeping | .ended => isFalse id

/-- The loop of a wallet; `bound` when its context is the one of the service, and not the background
context of the event bus. Reference: `service/start.go:194 startAppWalletSubscription`. -/
structure WalletLoop where
  walletPubkey : String
  bound : Bool
  round : Nat := 0
  stage : LoopStage := .subscribing
  deriving DecidableEq, Repr

/-- A step of a loop. `close` is the end of the channel of events, `exit` and `fail` are the two
cases of the `select`. Reference: `service/start.go:203 startAppWalletSubscription`, `:248
watchSubscription`. -/
inductive LoopStep where
  | subscribe
  | close
  | exit
  | fail
  | leave
  | resubscribe
  deriving DecidableEq, Repr

/-- The loop after a step, where it is at it. Reference: `service/start.go:194
startAppWalletSubscription`, `:233 watchSubscription`. -/
def WalletLoop.step (stopped : Bool) (l : WalletLoop) : LoopStep → Option WalletLoop
  | .subscribe => if l.stage = .subscribing then some { l with stage := .watching false false }
    else none
  | .close =>
    match l.stage with
    | .watching cancelled _ => some { l with stage := .watching cancelled true }
    | _ => none
  | .exit =>
    match l.stage with
    | .watching cancelled _ =>
      if cancelled || (l.bound && stopped) then some { l with stage := .leaving false } else none
    | _ => none
  | .fail =>
    match l.stage with
    | .watching _ true => some { l with stage := .leaving true }
    | _ => none
  | .leave =>
    match l.stage with
    | .leaving failed => some { l with stage := if failed then .sleeping else .ended }
    | _ => none
  | .resubscribe => if l.stage = .sleeping then
      some { l with stage := .subscribing, round := l.round + 1 } else none

/-- What a step of a loop does to the listeners. Reference: `service/start.go:216
startAppWalletSubscription`, `:220`. -/
def LoopStep.listeners (loop round : Nat) (listeners : List AppConsumer) :
    LoopStep → List AppConsumer
  | .subscribe => listeners ++ [.deleteAppConsumer loop round]
  | .leave => RemoveSubscriber listeners (.deleteAppConsumer loop round)
  | _ => listeners

/-- The context of the subscription of a round is cancelled. In any other stage nothing looks at it
any more. Reference: `service/delete_app_consumer.go:45 ConsumeEvent`. -/
def WalletLoop.cancelSubscription (round : Nat) (l : WalletLoop) : WalletLoop :=
  match l.stage with
  | .watching _ closed => if l.round = round then { l with stage := .watching true closed } else l
  | _ => l

/-- The tables, what the start of the service has done, the rows that callers have read, the events
of committed changes that are not published, the listeners, the goroutines that consume an event and
the loops. Reference: `service/service.go:36 service`, `events/events.go:12 eventPublisher`. -/
structure SubHub where
  registry : Registry
  appsStarted : Bool := false
  legacy : Option Bool := none
  stopped : Bool := false
  fetched : List AppRow := []
  unpublished : List ConnectionEvent := []
  listeners : List AppConsumer := [.createAppConsumer]
  consumptions : List Consumption := []
  loops : List WalletLoop := []

/-- A step: a call on the apps, the publication of an event, a part of its consumption, a part of
the start, a step of a loop, the end of the service's context and what follows it. A `fault` is a
failure of the database. Reference: none. -/
inductive SubLabel where
  | createApp (env : AppsEnv) (name pubkey : String) (maxAmountSat : Nat) (budgetRenewal : String)
    (expiresAt : Option Time) (scopes : List String) (isolated : Bool)
    (metadata : Option (List (String × Json)))
  | updateApp (u : AppUpdate)
  | fetchApp (id : Nat)
  | deleteApp (env : AppsEnv) (i : Nat)
  | publish (i : Nat)
  | consume (i : Nat) (fault : Bool)
  | startApps (fault : Bool)
  | startLegacy (fault : Bool)
  | loop (i : Nat) (step : LoopStep)
  | stop
  | removeCreateApp

namespace SubHub

/-- The goroutine returns. Reference: none. -/
def finish (i : Nat) (s : SubHub) : SubHub := { s with consumptions := s.consumptions.eraseIdx i }

/-- The app is read, and a loop is started for its key. Reference:
`service/create_app_consumer.go:21 ConsumeEvent`. -/
def consumeCreated (W : InfoWorld) (fault : Bool) (id : Nat) (s : SubHub) : SubHub :=
  if fault = true ∨ ¬ s.registry.HasApp id then s else
  match W.walletPubkey id with
  | .error _ => s
  | .ok walletPubkey => { s with loops := s.loops ++ [{ walletPubkey, bound := false }] }

/-- The subscription is cancelled, and in a second step the consumer removed. The deletion of the
info event is left out. Reference: `service/delete_app_consumer.go:21 ConsumeEvent`. -/
def consumeDeleted (i loop round : Nat) (walletPubkey : String) (d : Consumption) (s : SubHub) :
    SubHub :=
  match s.loops[loop]? with
  | none => s.finish i
  | some l =>
    if walletPubkey = "" ∨ walletPubkey ≠ l.walletPubkey then s.finish i
    else if d.cancelled then
      { s.finish i with listeners := RemoveSubscriber s.listeners d.listener }
    else { s with
      consumptions := s.consumptions.set i { d with cancelled := true }
      loops := s.loops.modify loop (·.cancelSubscription round) }

/-- Reference: `service/create_app_consumer.go:21 ConsumeEvent`,
`service/delete_app_consumer.go:21 ConsumeEvent`. -/
def consumeEvent (W : InfoWorld) (fault : Bool) (i : Nat) (d : Consumption) (s : SubHub) : SubHub :=
  match d.listener, d.event with
  | .createAppConsumer, .created id => (s.finish i).consumeCreated W fault id
  | .deleteAppConsumer loop round, .deleted _ walletPubkey =>
    s.consumeDeleted i loop round walletPubkey d
  | _, _ => s.finish i

/-- The loops of the apps with a key of their own. Reference: `service/start.go:179
startAllExistingAppsWalletSubscriptions`. -/
def existingLoops (r : Registry) : List WalletLoop :=
  r.apps.filterMap fun app => app.walletPubkey.map fun walletPubkey =>
    { walletPubkey, bound := true }

/-- One step. Reference: `apps/apps_service.go:48 CreateApp`, `:183 DeleteApp`, `api/api.go:171
UpdateApp`, `events/events.go:54 publish`, `service/start.go:33 startNostr`, `:194
startAppWalletSubscription`. -/
def step (W : InfoWorld) (s : SubHub) : SubLabel → Option SubHub
  | .createApp env name pubkey maxAmountSat budgetRenewal expiresAt scopes isolated metadata =>
    match AppsService.CreateApp (W.appsEnv env) name pubkey maxAmountSat budgetRenewal expiresAt
      scopes isolated metadata s.registry with
    | .error _ => none
    | .ok ((app, _), r) =>
      some { s with registry := r, unpublished := s.unpublished ++ [.created app.id] }
  | .updateApp u =>
    if s.registry.HasApp u.userApp.id then
      match Api.UpdateApp u.env u.userApp u.request s.registry with
      | .error _ => none
      | .ok r => some { s with registry := r }
    else none
  | .fetchApp id => (s.registry.apps.find? (·.id = id)).map fun app =>
      { s with fetched := s.fetched ++ [app] }
  | .deleteApp env i =>
    match s.fetched[i]? with
    | none => none
    | some app =>
      match AppsService.DeleteApp env app.id s.registry with
      | .error _ => none
      | .ok r => some { s with
          registry := r
          unpublished := s.unpublished ++ [.deleted app.id (app.walletPubkey.getD "")] }
  | .publish i => s.unpublished[i]?.map fun e =>
      { s with
        unpublished := s.unpublished.eraseIdx i
        consumptions := s.consumptions ++ s.listeners.map fun listener => { listener, event := e } }
  | .consume i fault => s.consumptions[i]?.map fun d => s.consumeEvent W fault i d
  | .startApps fault =>
    if s.appsStarted then none else some { s with
      appsStarted := true
      loops := s.loops ++ if fault then [] else existingLoops s.registry }
  | .startLegacy fault =>
    if s.appsStarted = true ∧ s.legacy = none then
      let legacy := !fault && s.registry.apps.any (·.walletPubkey = none)
      some { s with
        legacy := some legacy
        loops := s.loops ++
          if legacy then [{ walletPubkey := W.nostrPublicKey, bound := true }] else [] }
    else none
  | .loop i step =>
    match s.loops[i]? with
    | none => none
    | some l => (l.step s.stopped step).map fun l' => { s with
        loops := s.loops.set i l'
        listeners := step.listeners i l.round s.listeners }
  | .stop => some { s with stopped := true }
  | .removeCreateApp =>
    if s.stopped then
      some { s with listeners := RemoveSubscriber s.listeners .createAppConsumer }
    else none

/-- An app has the key, or the hub has started with apps that use its own. Reference:
`service/start.go:102 startNostr`. -/
def Wanted (W : InfoWorld) (s : SubHub) (walletPubkey : String) : Prop :=
  (∃ app ∈ s.registry.apps, app.walletPubkey = some walletPubkey) ∨
    s.legacy = some true ∧ walletPubkey = W.nostrPublicKey

instance (W : InfoWorld) (s : SubHub) (walletPubkey : String) :
    Decidable (s.Wanted W walletPubkey) := inferInstanceAs (Decidable (_ ∨ _))

/-- A loop waits for the requests of the wallet. Reference: `service/start.go:233
watchSubscription`. -/
def Subscribed (s : SubHub) (walletPubkey : String) : Prop :=
  ∃ l ∈ s.loops, l.walletPubkey = walletPubkey ∧ l.stage = .watching false false

/-- Nothing is left to do for the key: no event about it is on its way, and its loops wait for
requests or have returned. Reference: none. -/
structure Idle (W : InfoWorld) (s : SubHub) (walletPubkey : String) : Prop where
  unpublished : ∀ e ∈ s.unpublished, ¬ e.About W walletPubkey
  consumptions : ∀ d ∈ s.consumptions, ¬ d.event.About W walletPubkey
  loops : ∀ l ∈ s.loops, l.walletPubkey = walletPubkey →
    l.stage = .watching false false ∨ l.stage = .ended

instance (W : InfoWorld) (s : SubHub) (walletPubkey : String) : Decidable (s.Idle W walletPubkey) :=
  decidable_of_iff ((∀ e ∈ s.unpublished, ¬ e.About W walletPubkey) ∧
      (∀ d ∈ s.consumptions, ¬ d.event.About W walletPubkey) ∧
      ∀ l ∈ s.loops, l.walletPubkey = walletPubkey →
        l.stage = .watching false false ∨ l.stage = .ended)
    ⟨fun h => ⟨h.1, h.2.1, h.2.2⟩, fun h => ⟨h.unpublished, h.consumptions, h.loops⟩⟩

/-- No query fails where the failure is not noticed. Reference: `service/create_app_consumer.go:37
ConsumeEvent`, `service/start.go:105 startNostr`, `:182 startAllExistingAppsWalletSubscriptions`. -/
def Faultless (_ : SubHub) : SubLabel → Prop
  | .consume _ fault | .startApps fault | .startLegacy fault => fault = false
  | _ => True

instance (s : SubHub) (l : SubLabel) : Decidable (s.Faultless l) :=
  match l with
  | .consume _ fault | .startApps fault | .startLegacy fault =>
    inferInstanceAs (Decidable (fault = false))
  | .createApp .. | .updateApp _ | .fetchApp _ | .deleteApp _ _ | .publish _ | .loop _ _ | .stop
  | .removeCreateApp => isTrue trivial

/-- An app is deleted while its loops have their consumers registered, and a loop notices that the
relay has closed its subscription while its app is there. Reference: `service/start.go:216
startAppWalletSubscription`, `service/delete_app_consumer.go:45 ConsumeEvent`. -/
def Orderly (W : InfoWorld) (s : SubHub) : SubLabel → Prop
  | .deleteApp _ i => ∀ app ∈ s.fetched[i]?, ∀ l ∈ s.loops, app.walletPubkey = some l.walletPubkey →
      l.stage.Live → l.stage.Watching
  | .loop i .fail => ∀ l ∈ s.loops[i]?, s.Wanted W l.walletPubkey
  | _ => True

instance (W : InfoWorld) (s : SubHub) (l : SubLabel) : Decidable (s.Orderly W l) :=
  match l with
  | .deleteApp _ i => inferInstanceAs (Decidable (∀ app ∈ s.fetched[i]?, ∀ l ∈ s.loops, _ → _ → _))
  | .loop i .fail => inferInstanceAs (Decidable (∀ l ∈ s.loops[i]?, _))
  | .createApp .. | .updateApp _ | .fetchApp _ | .publish _ | .consume _ _ | .startApps _
  | .startLegacy _ | .loop _ .subscribe | .loop _ .close | .loop _ .exit | .loop _ .leave
  | .loop _ .resubscribe | .stop | .removeCreateApp => isTrue trivial

end SubHub

/-- The keys of the wallets are keys, and not the one of the hub. Reference: `service/keys/keys.go
GetAppWalletKey`. -/
def InfoWorld.Proper (W : InfoWorld) : Prop :=
  ∀ id walletPubkey, W.walletPubkey id = .ok walletPubkey →
    walletPubkey ≠ "" ∧ walletPubkey ≠ W.nostrPublicKey

/-- The hub when the consumer of the creations is registered. Reference: `service/start.go:92
startNostr`. -/
def SubHub.started (r : Registry) : SubHub := { registry := r }

section
variable {W : InfoWorld} {s s' : SubHub} {r r' : Registry} {id i : Nat} {walletPubkey : String}

/-! ## The listeners -/

/-- The removal of an element that the last one replaces. Reference: none. -/
theorem dropLast_set_perm {α : Type} {l : List α} (hi : i < l.length) (d : α) :
    ((l.set i (l.getLastD d)).dropLast).Perm (l.eraseIdx i) := by
  obtain rfl | ⟨l, b, rfl⟩ := List.eq_nil_or_concat l
  · simp at hi
  · rw [List.concat_eq_append, List.length_append, List.length_singleton] at hi
    rw [List.concat_eq_append, List.getLastD_concat]
    by_cases hlast : i < l.length
    · rw [List.set_append_left _ _ hlast, List.dropLast_concat,
        List.eraseIdx_append_of_lt_length hlast, List.set_eq_take_append_cons_drop, if_pos hlast,
        List.eraseIdx_eq_take_drop_succ, List.append_assoc]
      exact List.Perm.append_left _ (List.perm_append_singleton _ _).symm
    · obtain rfl : i = l.length := by omega
      simp [List.eraseIdx_append_of_length_le]

section
variable {α : Type} [DecidableEq α] {listeners : List α} {x y : α}

/-- Only the order differs from the removal in place. Reference: `events/events.go:34
RemoveSubscriber`. -/
theorem removeSubscriber_perm : (RemoveSubscriber listeners x).Perm (listeners.erase x) := by
  rw [RemoveSubscriber, List.erase_eq_eraseIdx]
  cases hidx : listeners.idxOf? x with
  | none => exact List.Perm.refl _
  | some i =>
    obtain ⟨hi, -⟩ := List.idxOf?_eq_some_iff.1 hidx
    exact dropLast_set_perm hi x

theorem mem_removeSubscriber (hne : x ≠ y) :
    x ∈ RemoveSubscriber listeners y ↔ x ∈ listeners := by
  rw [removeSubscriber_perm.mem_iff, List.mem_erase_of_ne hne]

theorem of_mem_removeSubscriber (h : x ∈ RemoveSubscriber listeners y) : x ∈ listeners :=
  List.mem_of_mem_erase (removeSubscriber_perm.mem_iff.1 h)

end

/-! ## What a step can do -/

/-- The steps of a loop, each with the stages that it leads from and to. Reference:
`service/start.go:203 startAppWalletSubscription`, `:248 watchSubscription`. -/
inductive WalletLoop.Moves (stopped : Bool) (l : WalletLoop) : LoopStep → WalletLoop → Prop
  | subscribe (h : l.stage = .subscribing) :
    Moves stopped l .subscribe { l with stage := .watching false false }
  | close {cancelled closed : Bool} (h : l.stage = .watching cancelled closed) :
    Moves stopped l .close { l with stage := .watching cancelled true }
  | exit {cancelled closed : Bool} (h : l.stage = .watching cancelled closed)
    (hdone : cancelled = true ∨ stopped = true) :
    Moves stopped l .exit { l with stage := .leaving false }
  | fail {cancelled : Bool} (h : l.stage = .watching cancelled true) :
    Moves stopped l .fail { l with stage := .leaving true }
  | leave {failed : Bool} (h : l.stage = .leaving failed) :
    Moves stopped l .leave { l with stage := if failed then .sleeping else .ended }
  | resubscribe (h : l.stage = .sleeping) :
    Moves stopped l .resubscribe { l with stage := .subscribing, round := l.round + 1 }

theorem WalletLoop.moves {stopped : Bool} {l l' : WalletLoop} {a : LoopStep}
    (h : l.step stopped a = some l') : l.Moves stopped a l' := by
  cases a with
  | subscribe =>
    simp only [WalletLoop.step] at h
    split at h
    · next hstage =>
      cases h
      exact .subscribe hstage
    · cases h
  | close =>
    simp only [WalletLoop.step] at h
    split at h
    · next hstage =>
      cases h
      exact .close hstage
    · cases h
  | exit =>
    simp only [WalletLoop.step] at h
    split at h
    · next hstage =>
      split at h
      · next hdone =>
        cases h
        simp only [Bool.or_eq_true, Bool.and_eq_true] at hdone
        exact .exit hstage (hdone.imp_right And.right)
      · cases h
    · cases h
  | fail =>
    simp only [WalletLoop.step] at h
    split at h
    · next hstage =>
      cases h
      exact .fail hstage
    · cases h
  | leave =>
    simp only [WalletLoop.step] at h
    split at h
    · next hstage =>
      cases h
      exact .leave hstage
    · cases h
  | resubscribe =>
    simp only [WalletLoop.step] at h
    split at h
    · next hstage =>
      cases h
      exact .resubscribe hstage
    · cases h

theorem WalletLoop.Moves.walletPubkey_eq {stopped : Bool} {l l' : WalletLoop} {a : LoopStep}
    (h : l.Moves stopped a l') : l'.walletPubkey = l.walletPubkey := by
  cases h <;> rfl

/-- Where the service goes on a live loop stays so. Reference: `service/start.go:203
startAppWalletSubscription`. -/
theorem WalletLoop.Moves.live {l l' : WalletLoop} {a : LoopStep} (h : l.Moves false a l')
    (hlive : l.stage.Live) : l'.stage.Live := by
  cases h with
  | subscribe => exact rfl
  | close hstage => simpa [hstage, LoopStage.Live] using hlive
  | exit hstage hdone => simp_all [LoopStage.Live]
  | fail => exact rfl
  | leave hstage =>
    rw [hstage] at hlive
    obtain rfl := hlive
    trivial
  | resubscribe => trivial

@[simp] theorem WalletLoop.cancelSubscription_walletPubkey (round : Nat) (l : WalletLoop) :
    (l.cancelSubscription round).walletPubkey = l.walletPubkey := by
  unfold cancelSubscription
  split
  · split <;> rfl
  · rfl

/-- What the consumption of an event comes to. Reference: `service/create_app_consumer.go:21
ConsumeEvent`, `service/delete_app_consumer.go:21 ConsumeEvent`. -/
inductive SubHub.Consumes (W : InfoWorld) (fault : Bool) (i : Nat) (d : Consumption) (s : SubHub) :
    SubHub → Prop
  | starts {id : Nat} {walletPubkey : String} (hlistener : d.listener = .createAppConsumer)
    (hevent : d.event = .created id) (happ : s.registry.HasApp id)
    (hkey : W.walletPubkey id = .ok walletPubkey) :
    Consumes W fault i d s
      { s.finish i with loops := s.loops ++ [{ walletPubkey, bound := false }] }
  | ignores
    (hcreated : ∀ id walletPubkey, d.listener = .createAppConsumer → d.event = .created id →
      s.registry.HasApp id → W.walletPubkey id = .ok walletPubkey → fault = true)
    (hdeleted : ∀ loop round id walletPubkey l, d.listener = .deleteAppConsumer loop round →
      d.event = .deleted id walletPubkey → s.loops[loop]? = some l → walletPubkey ≠ "" →
      walletPubkey ≠ l.walletPubkey) :
    Consumes W fault i d s (s.finish i)
  | cancels {loop round id : Nat} {l : WalletLoop}
    (hlistener : d.listener = .deleteAppConsumer loop round)
    (hevent : d.event = .deleted id l.walletPubkey) (hl : s.loops[loop]? = some l)
    (hkey : l.walletPubkey ≠ "") (hcancelled : d.cancelled = false) :
    Consumes W fault i d s { s with
      consumptions := s.consumptions.set i { d with cancelled := true }
      loops := s.loops.modify loop (·.cancelSubscription round) }
  | removes {loop round : Nat} (hlistener : d.listener = .deleteAppConsumer loop round)
    (hcancelled : d.cancelled = true) :
    Consumes W fault i d s { s.finish i with listeners := RemoveSubscriber s.listeners d.listener }

theorem SubHub.consumes (W : InfoWorld) (fault : Bool) (i : Nat) (d : Consumption) (s : SubHub) :
    s.Consumes W fault i d (s.consumeEvent W fault i d) := by
  obtain ⟨listener, event, cancelled⟩ := d
  unfold consumeEvent
  split
  · next id hlistener hevent =>
    cases hlistener
    cases hevent
    unfold consumeCreated
    split
    · next hnone =>
      refine .ignores (fun id walletPubkey _ he happ _ => ?_) (fun _ _ _ _ _ hl => by cases hl)
      cases he
      exact hnone.resolve_right (not_not_intro happ)
    · next hsome =>
      split
      · next hkey =>
        refine .ignores (fun id walletPubkey _ he _ hok => ?_) (fun _ _ _ _ _ hl => by cases hl)
        cases he
        rw [hkey] at hok
        cases hok
      · next hkey => exact .starts rfl rfl (not_not.1 (not_or.1 hsome).2) hkey
  · next loop round id walletPubkey hlistener hevent =>
    cases hlistener
    cases hevent
    unfold consumeDeleted
    split
    · next hnone =>
      refine .ignores (fun _ _ hl => by cases hl) (fun _ _ _ _ l hl _ hsome => ?_)
      cases hl
      rw [hnone] at hsome
      cases hsome
    · next l hl =>
      split
      · next hother =>
        refine .ignores (fun _ _ hl => by cases hl) (fun _ _ _ _ l' hd he hsome hne => ?_)
        cases hd
        cases he
        rw [hl] at hsome
        cases hsome
        exact hother.resolve_left hne
      · next hself =>
        obtain ⟨hkey, heq⟩ := not_or.1 hself
        obtain rfl := not_not.1 heq
        split
        · next hcancelled => exact .removes rfl hcancelled
        · next hcancelled => exact .cancels rfl rfl hl hkey (Bool.eq_false_iff.2 hcancelled)
  · next hcreated hdeleted =>
    exact .ignores (fun id _ hl he => (hcreated id hl he).elim)
      (fun loop round id walletPubkey _ hl he => (hdeleted loop round id walletPubkey hl he).elim)

/-- The other consumptions stay where one has cancelled its subscription. Reference: none. -/
theorem SubHub.mem_cancelled {d c : Consumption} (hd : s.consumptions[i]? = some d)
    (hc : c ∈ s.consumptions) :
    c = d ∧ { d with cancelled := true } ∈ s.consumptions.set i { d with cancelled := true } ∨
      c ∈ s.consumptions.set i { d with cancelled := true } := exists_mem_set hd hc

theorem SubHub.step_consume {fault : Bool} (hs : s.step W (.consume i fault) = some s') :
    ∃ d, s.consumptions[i]? = some d ∧ s.Consumes W fault i d s' := by
  obtain ⟨d, hd, rfl⟩ := Option.map_eq_some_iff.1 hs
  exact ⟨d, hd, s.consumes W fault i d⟩

theorem SubHub.step_loop {a : LoopStep} (hs : s.step W (.loop i a) = some s') :
    ∃ l l', s.loops[i]? = some l ∧ l.Moves s.stopped a l' ∧ s' = { s with
      loops := s.loops.set i l'
      listeners := a.listeners i l.round s.listeners } := by
  simp only [SubHub.step] at hs
  split at hs
  · cases hs
  · next l hl =>
    obtain ⟨l', hmove, rfl⟩ := Option.map_eq_some_iff.1 hs
    exact ⟨l, l', hl, WalletLoop.moves hmove, rfl⟩

/-! ## The keys of what is on its way -/

/-- The tables some calls later: a connection is an old one, or its id is new. Reference: none. -/
structure Registry.Later (r r' : Registry) : Prop where
  nextAppId : r.nextAppId ≤ r'.nextAppId
  connections : ∀ c ∈ r'.connections, c ∈ r.connections ∨ r.nextAppId ≤ c.1

theorem Registry.hasApp_iff_connection :
    r.HasApp id ↔ ∃ c ∈ r.connections, c.1 = id := by
  simp [HasApp, connections]

/-- An app that is there later, and was known before, was there before. Reference: none. -/
theorem Registry.Later.hasApp (h : r.Later r') (hid : id < r.nextAppId) (happ : r'.HasApp id) :
    r.HasApp id := by
  obtain ⟨c, hc, rfl⟩ := hasApp_iff_connection.1 happ
  rcases h.connections c hc with hold | hnew
  · exact hasApp_iff_connection.2 ⟨c, hold, rfl⟩
  · omega

/-- A row that was read: what it says of the keys stays true. Reference: `api/api.go:346
DeleteApp`, the parameter. -/
structure AppRow.Fetched (W : InfoWorld) (r : Registry) (app : AppRow) : Prop where
  lt : app.id < r.nextAppId
  keyed : ∀ walletPubkey, app.walletPubkey = some walletPubkey →
    W.walletPubkey app.id = .ok walletPubkey
  current : r.HasApp app.id → (app.id, app.appPubkey, app.walletPubkey) ∈ r.connections

theorem AppRow.Fetched.later {app : AppRow} (h : app.Fetched W r) (hr : r.Consistent W)
    (hlater : r.Later r') : app.Fetched W r' := by
  refine ⟨Nat.lt_of_lt_of_le h.lt hlater.nextAppId, h.keyed, fun happ => ?_⟩
  obtain ⟨c, hc, hid⟩ := Registry.hasApp_iff_connection.1 happ
  have hold : c ∈ r.connections := (hlater.connections c hc).resolve_right (by have := h.lt; omega)
  have hrow := h.current (hlater.hasApp h.lt happ)
  rw [← List.inj_on_of_nodup_map hr.nodup hold hrow hid]
  exact hc

/-- The event of an app's deletion is on its way. Reference: none. -/
def SubHub.Deletes (s : SubHub) (id : Nat) (walletPubkey : String) : Prop :=
  .deleted id walletPubkey ∈ s.unpublished ∨
    ∃ d ∈ s.consumptions, d.event = .deleted id walletPubkey

/-- The event of an app's creation is on its way to the consumer that starts its loop. Reference:
none. -/
def SubHub.Creates (s : SubHub) (id : Nat) : Prop :=
  .created id ∈ s.unpublished ∨
    ∃ d ∈ s.consumptions, d.listener = .createAppConsumer ∧ d.event = .created id

/-- The tables, the rows that were read and the events agree on the keys, and a
deleted app does not come back. Reference: `apps/apps_service.go:183 DeleteApp`. -/
structure SubHub.Keyed (W : InfoWorld) (s : SubHub) : Prop where
  consistent : s.registry.Consistent W
  fetched : ∀ app ∈ s.fetched, app.Fetched W s.registry
  gone : ∀ id walletPubkey, s.Deletes id walletPubkey → id < s.registry.nextAppId ∧
    ¬ s.registry.HasApp id ∧ (walletPubkey = "" ∨ W.walletPubkey id = .ok walletPubkey)
  created : ∀ id, s.Creates id → id < s.registry.nextAppId ∧
    ∀ c ∈ s.registry.connections, c.1 = id → c.2.2 ≠ none

/-- What has changed keeps the keys. Reference: none. -/
theorem SubHub.Keyed.keep (h : s.Keyed W) (hr : s'.registry.Consistent W)
    (hlater : s.registry.Later s'.registry)
    (hfetched : ∀ app ∈ s'.fetched, app ∈ s.fetched ∨ app.Fetched W s'.registry)
    (hgone : ∀ id walletPubkey, s'.Deletes id walletPubkey → s.Deletes id walletPubkey ∨
      id < s'.registry.nextAppId ∧ ¬ s'.registry.HasApp id ∧
        (walletPubkey = "" ∨ W.walletPubkey id = .ok walletPubkey))
    (hcreated : ∀ id, s'.Creates id → s.Creates id ∨ id < s'.registry.nextAppId ∧
      ∀ c ∈ s'.registry.connections, c.1 = id → c.2.2 ≠ none) : s'.Keyed W := by
  refine ⟨hr, fun app happ => ?_, fun id walletPubkey hd => ?_, fun id hcreates => ?_⟩
  · rcases hfetched app happ with hold | hnew
    · exact (h.fetched app hold).later h.consistent hlater
    · exact hnew
  · rcases hgone id walletPubkey hd with hold | hnew
    · obtain ⟨hlt, hnot, hkey⟩ := h.gone id walletPubkey hold
      exact ⟨Nat.lt_of_lt_of_le hlt hlater.nextAppId, fun happ => hnot (hlater.hasApp hlt happ),
        hkey⟩
    · exact hnew
  · rcases hcreated id hcreates with hold | hnew
    · obtain ⟨hlt, hkey⟩ := h.created id hold
      refine ⟨Nat.lt_of_lt_of_le hlt hlater.nextAppId, fun c hc hid => ?_⟩
      exact hkey c ((hlater.connections c hc).resolve_right (by omega)) hid
    · exact hnew

theorem Registry.Later.refl (r : Registry) : r.Later r := ⟨Nat.le_refl _, fun _ hc => .inl hc⟩

/-- A step that leaves the tables as they are. Reference: none. -/
theorem SubHub.Keyed.same (h : s.Keyed W) (hregistry : s'.registry = s.registry)
    (hfetched : s'.fetched = s.fetched)
    (hdeletes : ∀ id walletPubkey, s'.Deletes id walletPubkey → s.Deletes id walletPubkey)
    (hcreates : ∀ id, s'.Creates id → s.Creates id) : s'.Keyed W :=
  h.keep (hregistry ▸ h.consistent) (hregistry ▸ .refl _)
    (fun _ happ => .inl (hfetched ▸ happ)) (fun _ _ hd => .inl (hdeletes _ _ hd))
    fun _ hc => .inl (hcreates _ hc)

theorem SubHub.Keyed.createApp (h : s.Keyed W) {env : AppsEnv}
    {name pubkey budgetRenewal : String} {maxAmountSat : Nat} {expiresAt : Option Time}
    {scopes : List String} {isolated : Bool} {metadata : Option (List (String × Json))}
    (hs : s.step W (.createApp env name pubkey maxAmountSat budgetRenewal expiresAt scopes isolated
      metadata) = some s') : s'.Keyed W := by
  simp only [step] at hs
  split at hs
  · cases hs
  · next app secret r hcreate =>
    cases hs
    have hcreated := AppsService.CreateApp_created hcreate
    obtain ⟨appPubkey, key, walletPubkey, -, -, hconn⟩ := AppsService.CreateApp_connections hcreate
    refine h.keep (h.consistent.created hcreate) ⟨?_, fun c hc => ?_⟩
      (fun app happ => .inl happ) ?_ ?_
    · rw [hcreated.nextAppId]
      exact Nat.le_succ _
    · rw [hconn, List.mem_append, List.mem_singleton] at hc
      exact hc.imp_right fun heq => by rw [heq]
    · rintro id walletPubkey' (hu | hd)
      · simp only [List.mem_append, List.mem_singleton] at hu
        rcases hu with hu | hu
        · exact .inl (.inl hu)
        · cases hu
      · exact .inl (.inr hd)
    · rintro id (hu | hd)
      · simp only [List.mem_append, List.mem_singleton] at hu
        rcases hu with hu | hu
        · exact .inl (.inl hu)
        · cases hu
          refine .inr ⟨by rw [hcreated.id, hcreated.nextAppId]; exact Nat.lt_succ_self _, ?_⟩
          intro c hc hid
          rw [hconn, List.mem_append, List.mem_singleton] at hc
          rcases hc with hold | rfl
          · rw [hcreated.id] at hid
            exact absurd (Registry.hasApp_iff_connection.2 ⟨c, hold, hid⟩)
              Registry.not_hasApp_nextAppId
          · exact Option.some_ne_none _
      · exact .inl (.inr hd)

theorem SubHub.Keyed.deleteApp (h : s.Keyed W) {env : AppsEnv}
    (hs : s.step W (.deleteApp env i) = some s') : s'.Keyed W := by
  simp only [step, AppsService.DeleteApp] at hs
  split at hs
  · cases hs
  · next app happ =>
    have hrow := h.fetched app (List.mem_of_getElem? happ)
    split at hs
    · cases hs
    · next r hdelete =>
      cases hs
      cases hfault : env.fault with
      | some e => simp [hfault] at hdelete
      | none =>
        simp only [hfault, Except.ok.injEq] at hdelete
        subst hdelete
        refine h.keep h.consistent.deleted ⟨Nat.le_refl _, fun c hc => ?_⟩
          (fun app happ => .inl happ) ?_ ?_
        · exact .inl (Registry.mem_connections_deleteApp.1 hc).1
        · rintro id walletPubkey (hu | hd)
          · simp only [List.mem_append, List.mem_singleton] at hu
            rcases hu with hu | hu
            · exact .inl (.inl hu)
            · cases hu
              refine .inr ⟨hrow.lt, fun happ => (Registry.hasApp_deleteApp.1 happ).2 rfl, ?_⟩
              cases hkey : app.walletPubkey with
              | none => exact .inl rfl
              | some key => exact .inr (hrow.keyed key hkey)
          · exact .inl (.inr hd)
        · rintro id (hu | hd)
          · simp only [List.mem_append, List.mem_singleton] at hu
            rcases hu with hu | hu
            · exact .inl (.inl hu)
            · cases hu
          · exact .inl (.inr hd)

theorem SubHub.Keyed.updateApp (h : s.Keyed W) {u : AppUpdate}
    (hs : s.step W (.updateApp u) = some s') : s'.Keyed W := by
  simp only [SubHub.step] at hs
  split at hs
  · next happ =>
    split at hs
    · cases hs
    · next r hupdate =>
      cases hs
      refine h.keep (h.consistent.updated happ hupdate) ⟨?_, fun c hc => ?_⟩
        (fun app happ => .inl happ) (fun _ _ hd => .inl hd) fun _ hc => .inl hc
      · rw [(Api.UpdateApp_apps happ hupdate).1]
      · exact .inl (Api.UpdateApp_connections happ hupdate ▸ hc)
  · cases hs

/-- The app that is read is one of the hub. Reference: `api/api.go:436 GetApp`. -/
theorem SubHub.Keyed.fetchApp (h : s.Keyed W) (hs : s.step W (.fetchApp id) = some s') :
    s'.Keyed W := by
  obtain ⟨app, hfind, rfl⟩ := Option.map_eq_some_iff.1 hs
  refine h.keep h.consistent (.refl _) (fun app' happ => ?_) (fun _ _ hd => .inl hd)
    fun _ hc => .inl hc
  rcases List.mem_append.1 happ with hold | hnew
  · exact .inl hold
  · obtain rfl := List.mem_singleton.1 hnew
    have hmem := List.mem_of_find?_eq_some hfind
    have hc : (app'.id, app'.appPubkey, app'.walletPubkey) ∈ s.registry.connections :=
      Registry.mem_connections.2 ⟨app', hmem, rfl, rfl, rfl⟩
    exact .inr ⟨s.registry.app_lt app' hmem, fun key hkey => h.consistent.keyed _ _ _ (hkey ▸ hc),
      fun _ => hc⟩

/-- An event that is handed to the listeners was to be published. Reference: `events/events.go:60
publish`. -/
theorem SubHub.Keyed.publish (h : s.Keyed W) (hs : s.step W (.publish i) = some s') :
    s'.Keyed W := by
  obtain ⟨e, he, rfl⟩ := Option.map_eq_some_iff.1 hs
  refine h.same rfl rfl ?_ ?_
  · rintro id walletPubkey (hu | ⟨d, hd, hevent⟩)
    · exact .inl (List.mem_of_mem_eraseIdx hu)
    · rcases List.mem_append.1 hd with hold | hnew
      · exact .inr ⟨d, hold, hevent⟩
      · obtain ⟨listener, -, rfl⟩ := List.mem_map.1 hnew
        exact .inl (hevent ▸ List.mem_of_getElem? he)
  · rintro id (hu | ⟨d, hd, hlistener, hevent⟩)
    · exact .inl (List.mem_of_mem_eraseIdx hu)
    · rcases List.mem_append.1 hd with hold | hnew
      · exact .inr ⟨d, hold, hlistener, hevent⟩
      · obtain ⟨listener, -, rfl⟩ := List.mem_map.1 hnew
        exact .inl (hevent ▸ List.mem_of_getElem? he)

/-- A delivery is done, or it has cancelled and is still there. Reference:
`service/delete_app_consumer.go:21 ConsumeEvent`. -/
theorem SubHub.Keyed.consume (h : s.Keyed W) {fault : Bool}
    (hs : s.step W (.consume i fault) = some s') : s'.Keyed W := by
  obtain ⟨d, hd, hc⟩ := SubHub.step_consume hs
  have hfinish : ∀ s₁ : SubHub, s₁.registry = s.registry → s₁.fetched = s.fetched →
      s₁.unpublished = s.unpublished → s₁.consumptions = s.consumptions.eraseIdx i →
      s₁.Keyed W := by
    intro s₁ hregistry hfetched hunpublished hconsumptions
    refine h.same hregistry hfetched (fun id walletPubkey => Or.imp ?_ ?_) fun id => Or.imp ?_ ?_
    · exact fun hu => hunpublished ▸ hu
    · rintro ⟨d, hd, hevent⟩
      exact ⟨d, List.mem_of_mem_eraseIdx (hconsumptions ▸ hd), hevent⟩
    · exact fun hu => hunpublished ▸ hu
    · rintro ⟨d, hd, hevent⟩
      exact ⟨d, List.mem_of_mem_eraseIdx (hconsumptions ▸ hd), hevent⟩
  cases hc with
  | starts => exact hfinish _ rfl rfl rfl rfl
  | ignores => exact hfinish _ rfl rfl rfl rfl
  | removes => exact hfinish _ rfl rfl rfl rfl
  | cancels =>
    have hevents : ∀ d' ∈ s.consumptions.set i { d with cancelled := true },
        ∃ d ∈ s.consumptions, d.listener = d'.listener ∧ d.event = d'.event := by
      intro d' hd'
      rcases List.mem_or_eq_of_mem_set hd' with hold | rfl
      · exact ⟨d', hold, rfl, rfl⟩
      · exact ⟨d, List.mem_of_getElem? hd, rfl, rfl⟩
    refine h.same rfl rfl (fun _ _ => Or.imp_right ?_) fun _ => Or.imp_right ?_
    · rintro ⟨d', hd', hevent⟩
      obtain ⟨d, hd, -, heq⟩ := hevents d' hd'
      exact ⟨d, hd, heq.trans hevent⟩
    · rintro ⟨d', hd', hlistener, hevent⟩
      obtain ⟨d, hd, hleq, heq⟩ := hevents d' hd'
      exact ⟨d, hd, hleq.trans hlistener, heq.trans hevent⟩

/-- A step keeps the keys. Reference: none. -/
theorem SubHub.Keyed.step (h : s.Keyed W) {l : SubLabel} (hs : s.step W l = some s') :
    s'.Keyed W := by
  cases l with
  | createApp => exact h.createApp hs
  | updateApp u => exact h.updateApp hs
  | fetchApp id => exact h.fetchApp hs
  | deleteApp env i => exact h.deleteApp hs
  | publish i => exact h.publish hs
  | consume i fault => exact h.consume hs
  | startApps fault =>
    simp only [SubHub.step] at hs
    split at hs
    · cases hs
    · cases hs
      exact h.same rfl rfl (fun _ _ hd => hd) fun _ hc => hc
  | startLegacy fault =>
    simp only [SubHub.step] at hs
    split at hs
    · cases hs
      exact h.same rfl rfl (fun _ _ hd => hd) fun _ hc => hc
    · cases hs
  | loop i a =>
    obtain ⟨l, l', -, -, rfl⟩ := SubHub.step_loop hs
    exact h.same rfl rfl (fun _ _ hd => hd) fun _ hc => hc
  | stop =>
    cases hs
    exact h.same rfl rfl (fun _ _ hd => hd) fun _ hc => hc
  | removeCreateApp =>
    simp only [SubHub.step] at hs
    split at hs
    · cases hs
      exact h.same rfl rfl (fun _ _ hd => hd) fun _ hc => hc
    · cases hs

/-- The key of a deleted app is wanted no more. Reference: `service/delete_app_consumer.go:33
ConsumeEvent`. -/
theorem SubHub.Keyed.not_wanted (h : s.Keyed W) (hW : W.Proper) (hd : s.Deletes id walletPubkey)
    (hne : walletPubkey ≠ "") : ¬ s.Wanted W walletPubkey := by
  obtain ⟨-, hnot, hkey⟩ := h.gone id walletPubkey hd
  have hid := hkey.resolve_left hne
  rintro (⟨app, happ, hwallet⟩ | ⟨-, rfl⟩)
  · have hc := Registry.mem_connections.2 ⟨app, happ, rfl, rfl, hwallet⟩
    have happid := h.consistent.keyed _ _ _ hc
    exact hnot ⟨app, happ, W.walletPubkey_inj happid hid⟩
  · exact (hW id _ hid).2 rfl

/-! ## Every app has a loop -/

/-- A loop waits for the requests of the wallet or is about to. Reference: none. -/
def SubHub.HasLoop (s : SubHub) (walletPubkey : String) : Prop :=
  ∃ l ∈ s.loops, l.walletPubkey = walletPubkey ∧ l.stage.Live

/-- Every wanted key has a loop, or what starts it is still to come. Reference:
`service/start.go:92 startNostr`. -/
structure SubHub.Covered (W : InfoWorld) (s : SubHub) : Prop where
  consumer : .createAppConsumer ∈ s.listeners
  apps : ∀ id pubkey walletPubkey, (id, pubkey, some walletPubkey) ∈ s.registry.connections →
    s.appsStarted = false ∨ s.Creates id ∨ s.HasLoop walletPubkey
  legacy : s.legacy = some true → s.HasLoop W.nostrPublicKey

theorem Registry.Consistent.wanted (hr : s.registry.Consistent W) {pubkey : String}
    (hc : (id, pubkey, some walletPubkey) ∈ s.registry.connections) :
    s.Wanted W walletPubkey ∧ W.walletPubkey id = .ok walletPubkey := by
  obtain ⟨app, happ, -, -, hwallet⟩ := Registry.mem_connections.1 hc
  exact ⟨.inl ⟨app, happ, hwallet⟩, hr.keyed _ _ _ hc⟩

/-- What has changed keeps the loops. Reference: none. -/
theorem SubHub.Covered.keep (h : s.Covered W) (hk : s.Keyed W)
    (hconsumer : .createAppConsumer ∈ s'.listeners)
    (hconn : ∀ c ∈ s'.registry.connections, c ∈ s.registry.connections ∨ s'.Creates c.1)
    (hstarted : s'.appsStarted = s.appsStarted) (hlegacy : s'.legacy = s.legacy)
    (hcreates : ∀ id walletPubkey, s.Creates id → s.registry.HasApp id →
      W.walletPubkey id = .ok walletPubkey → s'.Creates id ∨ s'.HasLoop walletPubkey)
    (hloops : ∀ walletPubkey, s.Wanted W walletPubkey → s.HasLoop walletPubkey →
      s'.HasLoop walletPubkey) : s'.Covered W := by
  refine ⟨hconsumer, fun id pubkey walletPubkey hc => ?_, fun hlegacy' => ?_⟩
  · rw [hstarted]
    rcases hconn _ hc with hold | hnew
    · obtain ⟨hwanted, hkey⟩ := hk.consistent.wanted hold
      rcases h.apps id pubkey walletPubkey hold with hstart | hcreate | hloop
      · exact .inl hstart
      · exact .inr (hcreates id walletPubkey hcreate (Registry.hasApp_of_connection hold) hkey)
      · exact .inr (.inr (hloops walletPubkey hwanted hloop))
    · exact .inr (.inl hnew)
  · rw [hlegacy] at hlegacy'
    exact hloops _ (.inr ⟨hlegacy', rfl⟩) (h.legacy hlegacy')

theorem SubHub.HasLoop.append {loops : List WalletLoop} (h : s.HasLoop walletPubkey) :
    SubHub.HasLoop { s with loops := s.loops ++ loops } walletPubkey := by
  obtain ⟨l, hl, hkey, hlive⟩ := h
  exact ⟨l, List.mem_append_left _ hl, hkey, hlive⟩

theorem SubHub.Covered.createApp (h : s.Covered W) (hk : s.Keyed W) {env : AppsEnv}
    {name pubkey budgetRenewal : String} {maxAmountSat : Nat} {expiresAt : Option Time}
    {scopes : List String} {isolated : Bool} {metadata : Option (List (String × Json))}
    (hs : s.step W (.createApp env name pubkey maxAmountSat budgetRenewal expiresAt scopes isolated
      metadata) = some s') : s'.Covered W := by
  simp only [SubHub.step] at hs
  split at hs
  · cases hs
  · next app secret r hcreate =>
    cases hs
    have hcreated := AppsService.CreateApp_created hcreate
    obtain ⟨appPubkey, key, walletPubkey, -, -, hconn⟩ := AppsService.CreateApp_connections hcreate
    refine h.keep hk h.consumer (fun c hc => ?_) rfl rfl
      (fun id _ hcreates _ _ => .inl (hcreates.imp_left (List.mem_append_left _)))
      fun _ _ hloop => hloop
    rw [hconn, List.mem_append, List.mem_singleton] at hc
    refine hc.imp_right fun heq => .inl (List.mem_append_right _ (List.mem_singleton.2 ?_))
    rw [heq, hcreated.id]

theorem SubHub.Covered.consume (h : s.Covered W) (hk : s.Keyed W) (hW : W.Proper)
    (hs : s.step W (.consume i false) = some s') : s'.Covered W := by
  obtain ⟨d, hd, hc⟩ := SubHub.step_consume hs
  have hmem := List.mem_of_getElem? hd
  cases hc with
  | starts hlistener hevent happ hkey =>
    refine h.keep hk h.consumer (fun c hc => .inl hc) rfl rfl ?_ fun _ _ hloop => hloop.append
    rintro id walletPubkey (hu | ⟨d', hd', hlistener', hevent'⟩) _ hkey'
    · exact .inl (.inl hu)
    · rcases mem_eraseIdx_or i hd' with hkeep | heq
      · exact .inl (.inr ⟨d', hkeep, hlistener', hevent'⟩)
      · rw [hd] at heq
        cases heq
        rw [hevent] at hevent'
        cases hevent'
        rw [hkey] at hkey'
        cases hkey'
        exact .inr ⟨_, List.mem_append_right _ List.mem_cons_self, rfl, trivial⟩
  | ignores hcreated hdeleted =>
    refine h.keep hk h.consumer (fun c hc => .inl hc) rfl rfl ?_ fun _ _ hloop => hloop
    rintro id walletPubkey (hu | ⟨d', hd', hlistener', hevent'⟩) happ hkey'
    · exact .inl (.inl hu)
    · rcases mem_eraseIdx_or i hd' with hkeep | heq
      · exact .inl (.inr ⟨d', hkeep, hlistener', hevent'⟩)
      · rw [hd] at heq
        cases heq
        cases hcreated id walletPubkey hlistener' hevent' happ hkey'
  | @cancels loop round id l hlistener hevent hl hkey hcancelled =>
    have hnot := hk.not_wanted hW (.inr ⟨d, hmem, hevent⟩) hkey
    refine h.keep hk h.consumer (fun c hc => .inl hc) rfl rfl ?_ ?_
    · rintro id' walletPubkey (hu | ⟨d', hd', hlistener', hevent'⟩) _ _
      · exact .inl (.inl hu)
      · refine .inl (.inr ?_)
        rcases SubHub.mem_cancelled hd hd' with ⟨rfl, hset⟩ | hset
        · exact ⟨_, hset, hlistener', hevent'⟩
        · exact ⟨d', hset, hlistener', hevent'⟩
    · rintro walletPubkey hwanted ⟨l', hl', hkey', hlive⟩
      obtain ⟨j, hj⟩ := List.mem_iff_getElem?.1 hl'
      by_cases hself : loop = j
      · subst hself
        rw [hl] at hj
        cases hj
        exact absurd (hkey' ▸ hwanted) hnot
      · refine ⟨l', List.mem_iff_getElem?.2 ⟨j, ?_⟩, hkey', hlive⟩
        simp only [List.getElem?_modify, if_neg hself, hj, Option.map_eq_map, Option.map_some]
  | removes hlistener hcancelled =>
    refine h.keep hk ?_ (fun c hc => .inl hc) rfl rfl ?_ fun _ _ hloop => hloop
    · rw [hlistener]
      exact (mem_removeSubscriber AppConsumer.noConfusion).2 h.consumer
    · rintro id walletPubkey (hu | ⟨d', hd', hlistener', hevent'⟩) _ _
      · exact .inl (.inl hu)
      · rcases mem_eraseIdx_or i hd' with hkeep | heq
        · exact .inl (.inr ⟨d', hkeep, hlistener', hevent'⟩)
        · rw [hd] at heq
          cases heq
          rw [hlistener] at hlistener'
          cases hlistener'

theorem SubHub.Covered.loop (h : s.Covered W) (hk : s.Keyed W) (hns : s.stopped = false)
    {a : LoopStep} (hs : s.step W (.loop i a) = some s') : s'.Covered W := by
  obtain ⟨l, l', hl, hmove, rfl⟩ := SubHub.step_loop hs
  rw [hns] at hmove
  refine h.keep hk ?_ (fun c hc => .inl hc) rfl rfl (fun _ _ hcreates _ _ => .inl hcreates) ?_
  · cases a with
    | subscribe => exact List.mem_append_left _ h.consumer
    | leave => exact (mem_removeSubscriber AppConsumer.noConfusion).2 h.consumer
    | close => exact h.consumer
    | exit => exact h.consumer
    | fail => exact h.consumer
    | resubscribe => exact h.consumer
  · rintro walletPubkey - ⟨l₁, hl₁, hkey, hlive⟩
    have hset : l₁ = l ∧ l' ∈ s.loops.set i l' ∨ l₁ ∈ s.loops.set i l' := exists_mem_set hl hl₁
    rcases hset with ⟨rfl, hset⟩ | hset
    · exact ⟨l', hset, hmove.walletPubkey_eq.trans hkey, hmove.live hlive⟩
    · exact ⟨l₁, hset, hkey, hlive⟩

theorem SubHub.Covered.startApps (h : s.Covered W)
    (hs : s.step W (.startApps false) = some s') : s'.Covered W := by
  simp only [SubHub.step] at hs
  split at hs
  · cases hs
  · cases hs
    refine ⟨h.consumer, fun id pubkey walletPubkey hc => ?_,
      fun hlegacy => (h.legacy hlegacy).append⟩
    obtain ⟨app, happ, -, -, hwallet⟩ := Registry.mem_connections.1 hc
    refine .inr (.inr ⟨{ walletPubkey, bound := true }, ?_, rfl, trivial⟩)
    refine List.mem_append_right _ (List.mem_filterMap.2 ⟨app, happ, ?_⟩)
    rw [hwallet]
    rfl

theorem SubHub.Covered.startLegacy (h : s.Covered W)
    (hs : s.step W (.startLegacy false) = some s') : s'.Covered W := by
  simp only [SubHub.step] at hs
  split at hs
  · cases hs
    refine ⟨h.consumer, fun id pubkey walletPubkey hc => ?_, fun hlegacy => ?_⟩
    · exact (h.apps id pubkey walletPubkey hc).imp_right (Or.imp_right HasLoop.append)
    · have hsome := Option.some.inj hlegacy
      refine ⟨{ walletPubkey := W.nostrPublicKey, bound := true }, ?_, rfl, trivial⟩
      rw [if_pos hsome]
      exact List.mem_append_right _ List.mem_cons_self
  · cases hs

/-- A step without a failed query keeps the loops, where the service goes on. Reference: none. -/
theorem SubHub.Covered.step (h : s.Covered W) (hk : s.Keyed W) (hW : W.Proper)
    (hns : s.stopped = false) {l : SubLabel} (ha : s.Faultless l) (hs : s.step W l = some s')
    (hns' : s'.stopped = false) : s'.Covered W := by
  cases l with
  | createApp => exact h.createApp hk hs
  | updateApp u =>
    simp only [SubHub.step] at hs
    split at hs
    · next happ =>
      split at hs
      · cases hs
      · next r hupdate =>
        cases hs
        exact h.keep hk h.consumer (fun c hc => .inl (Api.UpdateApp_connections happ hupdate ▸ hc))
          rfl rfl (fun _ _ hcreates _ _ => .inl hcreates) fun _ _ hloop => hloop
    · cases hs
  | fetchApp id =>
    obtain ⟨app, -, rfl⟩ := Option.map_eq_some_iff.1 hs
    exact h.keep hk h.consumer (fun c hc => .inl hc) rfl rfl
      (fun _ _ hcreates _ _ => .inl hcreates) fun _ _ hloop => hloop
  | deleteApp env i =>
    simp only [SubHub.step, AppsService.DeleteApp] at hs
    split at hs
    · cases hs
    · next app happ =>
      cases hfault : env.fault with
      | some e => simp [hfault] at hs
      | none =>
        simp only [hfault, Option.some.injEq] at hs
        subst hs
        exact h.keep hk h.consumer (fun c hc => .inl (Registry.mem_connections_deleteApp.1 hc).1)
          rfl rfl (fun _ _ hcreates _ _ => .inl (hcreates.imp_left (List.mem_append_left _)))
          fun _ _ hloop => hloop
  | publish i =>
    obtain ⟨e, he, rfl⟩ := Option.map_eq_some_iff.1 hs
    refine h.keep hk h.consumer (fun c hc => .inl hc) rfl rfl ?_ fun _ _ hloop => hloop
    rintro id walletPubkey (hu | ⟨d, hd, hlistener, hevent⟩) _ _
    · rcases mem_eraseIdx_or i hu with hkeep | heq
      · exact .inl (.inl hkeep)
      · rw [he] at heq
        cases heq
        exact .inl (.inr ⟨_, List.mem_append_right _ (List.mem_map.2 ⟨_, h.consumer, rfl⟩),
          rfl, rfl⟩)
    · exact .inl (.inr ⟨d, List.mem_append_left _ hd, hlistener, hevent⟩)
  | consume i fault =>
    obtain rfl : fault = false := ha
    exact h.consume hk hW hs
  | startApps fault =>
    obtain rfl : fault = false := ha
    exact h.startApps hs
  | startLegacy fault =>
    obtain rfl : fault = false := ha
    exact h.startLegacy hs
  | loop i a => exact h.loop hk hns hs
  | stop =>
    cases hs
    cases hns'
  | removeCreateApp =>
    simp only [SubHub.step, hns] at hs
    cases hs

/-! ## The consumers of the deletions -/

/-- A consumer of the round of a loop is registered or consumes an event. Reference: none. -/
def SubHub.Consumer (s : SubHub) (i round : Nat) : Prop :=
  .deleteAppConsumer i round ∈ s.listeners ∨
    ∃ d ∈ s.consumptions, d.listener = .deleteAppConsumer i round

/-- A loop that watches its subscription has its consumer registered, and a consumer belongs to a
round that has begun; where it has cancelled the subscription the loop knows. Reference:
`service/start.go:216 startAppWalletSubscription`. -/
structure SubHub.Registered (s : SubHub) : Prop where
  watching : ∀ i l, s.loops[i]? = some l → l.stage.Watching →
    .deleteAppConsumer i l.round ∈ s.listeners
  known : ∀ i round, s.Consumer i round → ∃ l, s.loops[i]? = some l ∧ round ≤ l.round ∧
    (round = l.round → l.stage ≠ .subscribing)
  cancelled : ∀ d ∈ s.consumptions, d.cancelled = true → ∀ i l,
    d.listener = .deleteAppConsumer i l.round → s.loops[i]? = some l → ¬ l.stage.Watching

/-- A cancelled subscription is not watched. Reference: `service/delete_app_consumer.go:45
ConsumeEvent`. -/
theorem WalletLoop.cancelSubscription_cases (round : Nat) (l : WalletLoop) :
    l.cancelSubscription round = l ∧ (l.stage.Watching → l.round ≠ round) ∨
      ∃ closed, l.cancelSubscription round = { l with stage := .watching true closed } := by
  unfold cancelSubscription
  split
  · next closed hstage =>
    split
    · exact .inr ⟨closed, rfl⟩
    · next hne => exact .inl ⟨rfl, fun _ => hne⟩
  · next hstage =>
    refine .inl ⟨rfl, fun hwatching => ?_⟩
    cases hcase : l.stage with
    | watching cancelled closed => exact (hstage cancelled closed hcase).elim
    | subscribing => simp [hcase, LoopStage.Watching] at hwatching
    | leaving failed => simp [hcase, LoopStage.Watching] at hwatching
    | sleeping => simp [hcase, LoopStage.Watching] at hwatching
    | ended => simp [hcase, LoopStage.Watching] at hwatching

/-- A step that adds loops and keeps the consumers. Reference: none. -/
theorem SubHub.Registered.append (h : s.Registered) {loops : List WalletLoop}
    (hloops : s'.loops = s.loops ++ loops) (hnew : ∀ l ∈ loops, l.stage = .subscribing)
    (hlisteners : ∀ i l, s.loops[i]? = some l → l.stage.Watching →
      .deleteAppConsumer i l.round ∈ s.listeners → .deleteAppConsumer i l.round ∈ s'.listeners)
    (hconsumers : ∀ i round, s'.Consumer i round → s.Consumer i round)
    (hcancelled : ∀ d ∈ s'.consumptions, d.cancelled = true → d ∈ s.consumptions) :
    s'.Registered := by
  have hold : ∀ (i : Nat) (l : WalletLoop), s'.loops[i]? = some l → l.stage ≠ .subscribing →
      s.loops[i]? = some l := by
    intro i l hl hstage
    rw [hloops] at hl
    by_cases hi : i < s.loops.length
    · rwa [List.getElem?_append_left hi] at hl
    · rw [List.getElem?_append_right (by omega)] at hl
      exact absurd (hnew l (List.mem_of_getElem? hl)) hstage
  have hstage : ∀ l : WalletLoop, l.stage.Watching → l.stage ≠ .subscribing := by
    intro l hwatching heq
    rw [heq] at hwatching
    exact hwatching
  refine ⟨fun i l hl hwatching => ?_, fun i round hc => ?_,
    fun d hd hcancel i l hlistener hl hw => ?_⟩
  · have hl' := hold i l hl (hstage l hwatching)
    exact hlisteners i l hl' hwatching (h.watching i l hl' hwatching)
  · obtain ⟨l, hl, hround⟩ := h.known i round (hconsumers i round hc)
    refine ⟨l, ?_, hround⟩
    rw [hloops, List.getElem?_append_left (List.getElem?_eq_some_iff.1 hl).1]
    exact hl
  · exact h.cancelled d (hcancelled d hd hcancel) hcancel i l hlistener
      (hold i l hl (hstage l hw)) hw

/-- What a step of a loop does for its consumers. Reference: `service/start.go:203
startAppWalletSubscription`. -/
theorem SubHub.Registered.loop (h : s.Registered) {a : LoopStep}
    (hs : s.step W (.loop i a) = some s') : s'.Registered := by
  obtain ⟨l, l', hl, hmove, rfl⟩ := SubHub.step_loop hs
  have hlt : i < s.loops.length := (List.getElem?_eq_some_iff.1 hl).1
  have hcases : ∀ j l₁, (s.loops.set i l')[j]? = some l₁ →
      i = j ∧ l₁ = l' ∨ i ≠ j ∧ s.loops[j]? = some l₁ := by
    intro j l₁ hj
    by_cases hij : i = j
    · subst hij
      rw [List.getElem?_set_self hlt] at hj
      exact .inl ⟨rfl, (Option.some.inj hj).symm⟩
    · exact .inr ⟨hij, (List.getElem?_set_ne hij).symm.trans hj⟩
  -- the round of a consumer has begun, also where the step begins a round
  have hknown : ∀ round, s.Consumer i round → round ≤ l.round ∧
      (round = l.round → l.stage ≠ .subscribing) := by
    intro round hc
    obtain ⟨l₁, hl₁, hround⟩ := h.known i round hc
    rw [hl] at hl₁
    cases hl₁
    exact hround
  refine ⟨fun j l₁ hj hwatching => ?_, fun j round hc => ?_,
    fun d hd hcancel j l₁ hlistener hj hw => ?_⟩
  · rcases hcases j l₁ hj with ⟨rfl, rfl⟩ | ⟨hij, hj⟩
    · cases hmove with
      | subscribe => exact List.mem_append_right _ List.mem_cons_self
      | close hstage =>
        refine h.watching i l hl ?_
        rw [hstage]
        exact hwatching
      | exit => exact hwatching.elim
      | fail => exact hwatching.elim
      | @leave failed => cases failed <;> exact hwatching.elim
      | resubscribe => exact hwatching.elim
    · have hlistener := h.watching j l₁ hj hwatching
      cases hmove with
      | subscribe => exact List.mem_append_left _ hlistener
      | leave =>
        refine (mem_removeSubscriber fun heq => ?_).2 hlistener
        exact hij (AppConsumer.deleteAppConsumer.inj heq).1.symm
      | close => exact hlistener
      | exit => exact hlistener
      | fail => exact hlistener
      | resubscribe => exact hlistener
  · have hold : s.Consumer j round ∨ a = .subscribe ∧ j = i ∧ round = l.round := by
      rcases hc with hlistener | hd
      · cases hmove with
        | subscribe =>
          rcases List.mem_append.1 hlistener with hold | hnew
          · exact .inl (.inl hold)
          · cases List.mem_singleton.1 hnew
            exact .inr ⟨rfl, rfl, rfl⟩
        | leave => exact .inl (.inl (of_mem_removeSubscriber hlistener))
        | close => exact .inl (.inl hlistener)
        | exit => exact .inl (.inl hlistener)
        | fail => exact .inl (.inl hlistener)
        | resubscribe => exact .inl (.inl hlistener)
      · exact .inl (.inr hd)
    rcases hold with hold | ⟨rfl, rfl, rfl⟩
    · by_cases hij : i = j
      · subst hij
        obtain ⟨hle, hne⟩ := hknown round hold
        refine ⟨l', List.getElem?_set_self hlt, ?_⟩
        cases hmove with
        | subscribe => exact ⟨hle, fun _ => LoopStage.noConfusion⟩
        | close => exact ⟨hle, fun _ => LoopStage.noConfusion⟩
        | exit => exact ⟨hle, fun _ => LoopStage.noConfusion⟩
        | fail => exact ⟨hle, fun _ => LoopStage.noConfusion⟩
        | @leave failed =>
          refine ⟨hle, fun _ => ?_⟩
          cases failed <;> exact LoopStage.noConfusion
        | resubscribe => exact ⟨Nat.le_succ_of_le hle, fun heq => by simp at heq; omega⟩
      · obtain ⟨l₁, hl₁, hround⟩ := h.known j round hold
        exact ⟨l₁, (List.getElem?_set_ne hij).trans hl₁, hround⟩
    · refine ⟨l', List.getElem?_set_self hlt, ?_⟩
      cases hmove
      exact ⟨Nat.le_refl _, fun _ => LoopStage.noConfusion⟩
  · rcases hcases j l₁ hj with ⟨rfl, rfl⟩ | ⟨hij, hj⟩
    · have hconsumer := hknown _ (.inr ⟨d, hd, hlistener⟩)
      cases hmove with
      | subscribe hstage => exact hconsumer.2 rfl hstage
      | close hstage =>
        refine h.cancelled d hd hcancel i l hlistener hl ?_
        rw [hstage]
        exact hw
      | exit => exact hw
      | fail => exact hw
      | @leave failed => cases failed <;> exact hw
      | resubscribe => exact hw
    · exact h.cancelled d hd hcancel j l₁ hlistener hj hw

theorem SubHub.Registered.consume (h : s.Registered) {fault : Bool}
    (hs : s.step W (.consume i fault) = some s') : s'.Registered := by
  obtain ⟨d, hd, hc⟩ := SubHub.step_consume hs
  have hmem := List.mem_of_getElem? hd
  have hfinish : ∀ j round, (∃ d ∈ s.consumptions.eraseIdx i,
      d.listener = .deleteAppConsumer j round) → ∃ d ∈ s.consumptions,
        d.listener = .deleteAppConsumer j round := by
    rintro j round ⟨d, hd, hlistener⟩
    exact ⟨d, List.mem_of_mem_eraseIdx hd, hlistener⟩
  cases hc with
  | starts =>
    refine h.append rfl (fun l hl => ?_) (fun _ _ _ _ hlistener => hlistener)
      (fun _ _ => Or.imp_right (hfinish _ _)) fun d hd _ => List.mem_of_mem_eraseIdx hd
    rw [List.mem_singleton.1 hl]
  | ignores =>
    exact h.append (List.append_nil _).symm (fun l hl => absurd hl List.not_mem_nil)
      (fun _ _ _ _ hlistener => hlistener) (fun _ _ => Or.imp_right (hfinish _ _))
      fun d hd _ => List.mem_of_mem_eraseIdx hd
  | @removes loop round hlistener hcancelled =>
    refine h.append (List.append_nil _).symm (fun l hl => absurd hl List.not_mem_nil)
      (fun j l hl hw hmemj => ?_) (fun j round' => Or.imp of_mem_removeSubscriber (hfinish _ _))
      fun d hd _ => List.mem_of_mem_eraseIdx hd
    refine (mem_removeSubscriber fun heq => ?_).2 hmemj
    exact h.cancelled d hmem hcancelled j l heq.symm hl hw
  | @cancels loop round id l hlistener hevent hl hkey hcancelled =>
    have hmodify : ∀ (j : Nat) (l' : WalletLoop),
        (s.loops.modify loop (·.cancelSubscription round))[j]? = some l' → l'.stage.Watching →
          s.loops[j]? = some l' ∧ ¬ (loop = j ∧ l'.round = round) := by
      intro j l' hj hw
      rw [List.getElem?_modify] at hj
      obtain ⟨l₁, hl₁, rfl⟩ := Option.map_eq_some_iff.1 hj
      by_cases hself : loop = j
      · rw [if_pos hself] at hw ⊢
        rcases WalletLoop.cancelSubscription_cases round l₁ with ⟨heq, hne⟩ | ⟨closed, heq⟩
        · rw [heq] at hw ⊢
          exact ⟨hl₁, fun hboth => hne hw hboth.2⟩
        · rw [heq] at hw
          cases hw
      · rw [if_neg hself] at hw ⊢
        exact ⟨hl₁, fun hboth => hself hboth.1⟩
    refine ⟨fun j l' hj hw => h.watching j l' (hmodify j l' hj hw).1 hw, fun j round' hc => ?_, ?_⟩
    · have hold : s.Consumer j round' := by
        refine hc.imp_right ?_
        rintro ⟨d', hd', hlistener'⟩
        rcases List.mem_or_eq_of_mem_set hd' with hold | rfl
        · exact ⟨d', hold, hlistener'⟩
        · exact ⟨d, hmem, hlistener'⟩
      obtain ⟨l₁, hl₁, hle, hne⟩ := h.known j round' hold
      by_cases hself : loop = j
      · refine ⟨l₁.cancelSubscription round, ?_, ?_⟩
        · simp only [List.getElem?_modify, hl₁, if_pos hself, Option.map_eq_map, Option.map_some]
        · rcases WalletLoop.cancelSubscription_cases round l₁ with ⟨heq, -⟩ | ⟨closed, heq⟩
          · rw [heq]
            exact ⟨hle, hne⟩
          · rw [heq]
            exact ⟨hle, fun _ => LoopStage.noConfusion⟩
      · refine ⟨l₁, ?_, hle, hne⟩
        simp only [List.getElem?_modify, hl₁, if_neg hself, Option.map_eq_map, Option.map_some]
    · intro d' hd' hcancel j l' hlistener' hj hw
      obtain ⟨hj', hnot⟩ := hmodify j l' hj hw
      rcases List.mem_or_eq_of_mem_set hd' with hold | rfl
      · exact h.cancelled d' hold hcancel j l' hlistener' hj' hw
      · rw [hlistener] at hlistener'
        cases hlistener'
        exact hnot ⟨rfl, rfl⟩

/-- A step that leaves the loops and the consumers as they are. Reference: none. -/
theorem SubHub.Registered.same (h : s.Registered) (hloops : s'.loops = s.loops)
    (hlisteners : s'.listeners = s.listeners) (hconsumptions : s'.consumptions = s.consumptions) :
    s'.Registered := by
  refine h.append (hloops.trans (List.append_nil _).symm) (fun l hl => absurd hl List.not_mem_nil)
    (fun _ _ _ _ hlistener => hlisteners ▸ hlistener) (fun j round => Or.imp ?_ ?_)
    fun d hd _ => hconsumptions ▸ hd
  · exact fun hlistener => hlisteners ▸ hlistener
  · exact fun hd => hconsumptions ▸ hd

/-- A step keeps the consumers registered. Reference: none. -/
theorem SubHub.Registered.step (h : s.Registered) {l : SubLabel} (hs : s.step W l = some s') :
    s'.Registered := by
  cases l with
  | createApp =>
    simp only [SubHub.step] at hs
    split at hs
    · cases hs
    · cases hs
      exact h.same rfl rfl rfl
  | updateApp u =>
    simp only [SubHub.step] at hs
    split at hs
    · split at hs
      · cases hs
      · cases hs
        exact h.same rfl rfl rfl
    · cases hs
  | fetchApp id =>
    obtain ⟨app, -, rfl⟩ := Option.map_eq_some_iff.1 hs
    exact h.same rfl rfl rfl
  | deleteApp env i =>
    simp only [SubHub.step] at hs
    split at hs
    · cases hs
    · split at hs
      · cases hs
      · cases hs
        exact h.same rfl rfl rfl
  | publish i =>
    obtain ⟨e, -, rfl⟩ := Option.map_eq_some_iff.1 hs
    refine h.append (List.append_nil _).symm (fun l hl => absurd hl List.not_mem_nil)
      (fun _ _ _ _ hlistener => hlistener) (fun j round hc => ?_) fun d hd hcancel => ?_
    · rcases hc with hlistener | ⟨d, hd, hlistener⟩
      · exact .inl hlistener
      · rcases List.mem_append.1 hd with hold | hnew
        · exact .inr ⟨d, hold, hlistener⟩
        · obtain ⟨listener, hmem, rfl⟩ := List.mem_map.1 hnew
          exact .inl (hlistener ▸ hmem)
    · rcases List.mem_append.1 hd with hold | hnew
      · exact hold
      · obtain ⟨listener, -, rfl⟩ := List.mem_map.1 hnew
        cases hcancel
  | consume i fault => exact h.consume hs
  | startApps fault =>
    simp only [SubHub.step] at hs
    split at hs
    · cases hs
    · cases hs
      refine h.append rfl (fun l hl => ?_) (fun _ _ _ _ hlistener => hlistener) (fun _ _ hc => hc)
        fun _ hd _ => hd
      split at hl
      · cases hl
      · obtain ⟨app, -, hl⟩ := List.mem_filterMap.1 hl
        obtain ⟨walletPubkey, -, rfl⟩ := Option.map_eq_some_iff.1 hl
        rfl
  | startLegacy fault =>
    simp only [SubHub.step] at hs
    split at hs
    · cases hs
      refine h.append rfl (fun l hl => ?_) (fun _ _ _ _ hlistener => hlistener) (fun _ _ hc => hc)
        fun _ hd _ => hd
      split at hl
      · rw [List.mem_singleton.1 hl]
      · cases hl
    · cases hs
  | loop i a => exact h.loop hs
  | stop =>
    cases hs
    exact h.same rfl rfl rfl
  | removeCreateApp =>
    simp only [SubHub.step] at hs
    split at hs
    · cases hs
      exact h.append (List.append_nil _).symm (fun l hl => absurd hl List.not_mem_nil)
        (fun _ _ _ _ hlistener => (mem_removeSubscriber AppConsumer.noConfusion).2 hlistener)
        (fun _ _ => Or.imp_left of_mem_removeSubscriber) fun _ hd _ => hd
    · cases hs

/-! ## Every loop has an app -/

/-- The deletion of the loop's app is on its way to its consumer. Reference:
`service/delete_app_consumer.go:21 ConsumeEvent`. -/
structure SubHub.Doomed (s : SubHub) (i : Nat) (l : WalletLoop) : Prop where
  watching : l.stage.Watching
  key : l.walletPubkey ≠ ""
  deletes : ∃ id, .deleted id l.walletPubkey ∈ s.unpublished ∨
    ⟨.deleteAppConsumer i l.round, .deleted id l.walletPubkey, false⟩ ∈ s.consumptions

/-- The key of a live loop is wanted, or the loop is about to be cancelled. Reference:
`service/start.go:216 startAppWalletSubscription`. -/
def SubHub.Exact (W : InfoWorld) (s : SubHub) : Prop :=
  ∀ i l, s.loops[i]? = some l → l.stage.Live → s.Wanted W l.walletPubkey ∨ s.Doomed i l

theorem SubHub.Wanted.later (h : s.Wanted W walletPubkey)
    (hconn : ∀ id pubkey, (id, pubkey, some walletPubkey) ∈ s.registry.connections →
      ∃ id pubkey, (id, pubkey, some walletPubkey) ∈ s'.registry.connections)
    (hlegacy : s.legacy = some true → s'.legacy = some true) : s'.Wanted W walletPubkey := by
  rcases h with ⟨app, happ, hwallet⟩ | ⟨hl, hkey⟩
  · have hc : (app.id, app.appPubkey, some walletPubkey) ∈ s.registry.connections :=
      Registry.mem_connections.2 ⟨app, happ, rfl, rfl, hwallet⟩
    obtain ⟨id, pubkey, hc'⟩ := hconn _ _ hc
    obtain ⟨app', happ', -, -, hwallet'⟩ := Registry.mem_connections.1 hc'
    exact .inl ⟨app', happ', hwallet'⟩
  · exact .inr ⟨hlegacy hl, hkey⟩

/-- A step that may add loops for keys that are wanted. Reference: none. -/
theorem SubHub.Exact.append (h : s.Exact W) {loops : List WalletLoop}
    (hloops : s'.loops = s.loops ++ loops) (hnew : ∀ l ∈ loops, s'.Wanted W l.walletPubkey)
    (hwanted : ∀ i l, s.loops[i]? = some l → l.stage.Live → s.Wanted W l.walletPubkey →
      s'.Wanted W l.walletPubkey ∨ s'.Doomed i l)
    (hdoomed : ∀ i l, s.loops[i]? = some l → s.Doomed i l → s'.Doomed i l) : s'.Exact W := by
  intro i l hl hlive
  rw [hloops] at hl
  by_cases hi : i < s.loops.length
  · rw [List.getElem?_append_left hi] at hl
    rcases h i l hl hlive with hw | hd
    · exact hwanted i l hl hlive hw
    · exact .inr (hdoomed i l hl hd)
  · rw [List.getElem?_append_right (by omega)] at hl
    exact .inl (hnew l (List.mem_of_getElem? hl))

/-- A step that leaves the loops, the keys and the events as they are. Reference: none. -/
theorem SubHub.Exact.same (h : s.Exact W) (hloops : s'.loops = s.loops)
    (hwanted : ∀ walletPubkey, s.Wanted W walletPubkey → s'.Wanted W walletPubkey)
    (hunpublished : ∀ e ∈ s.unpublished, e ∈ s'.unpublished)
    (hconsumptions : ∀ d ∈ s.consumptions, d ∈ s'.consumptions) : s'.Exact W := by
  refine h.append (hloops.trans (List.append_nil _).symm) (fun l hl => absurd hl List.not_mem_nil)
    (fun _ _ _ _ hw => .inl (hwanted _ hw)) fun i l _ hd => ⟨hd.watching, hd.key, ?_⟩
  obtain ⟨id, hdeletes⟩ := hd.deletes
  exact ⟨id, hdeletes.imp (hunpublished _) (hconsumptions _)⟩

/-- A deletion dooms the loops of the app. Reference: `apps/apps_service.go:183 DeleteApp`. -/
theorem SubHub.Exact.deleteApp (h : s.Exact W) (hk : s.Keyed W) (hW : W.Proper) {env : AppsEnv}
    (ha : s.Orderly W (.deleteApp env i)) (hs : s.step W (.deleteApp env i) = some s') :
    s'.Exact W := by
  simp only [SubHub.step, AppsService.DeleteApp] at hs
  split at hs
  · cases hs
  · next app happ =>
    have hrow := hk.fetched app (List.mem_of_getElem? happ)
    cases hfault : env.fault with
    | some e => simp [hfault] at hs
    | none =>
      simp only [hfault, Option.some.injEq] at hs
      subst hs
      refine h.append (List.append_nil _).symm (fun l hl => absurd hl List.not_mem_nil)
        (fun j l hl hlive hwanted => ?_) fun j l _ hd => ?_
      · by_cases hkey : app.walletPubkey = some l.walletPubkey
        · refine .inr ⟨ha app happ l (List.mem_of_getElem? hl) hkey hlive,
            (hW app.id _ (hrow.keyed _ hkey)).1, app.id, .inl ?_⟩
          rw [hkey]
          exact List.mem_append_right _ List.mem_cons_self
        · refine .inl (hwanted.later (fun id pubkey hc => ⟨id, pubkey, ?_⟩) fun hl => hl)
          refine Registry.mem_connections_deleteApp.2 ⟨hc, fun hid => hkey ?_⟩
          have hcurrent := hrow.current (hid ▸ Registry.hasApp_of_connection hc)
          have heq := List.inj_on_of_nodup_map hk.consistent.nodup hc hcurrent hid
          exact (congrArg (·.2.2) heq).symm
      · obtain ⟨id, hdeletes⟩ := hd.deletes
        exact ⟨hd.watching, hd.key, id, hdeletes.imp_left (List.mem_append_left _)⟩

theorem SubHub.Exact.publish (h : s.Exact W) (hreg : s.Registered)
    (hs : s.step W (.publish i) = some s') : s'.Exact W := by
  obtain ⟨e, he, rfl⟩ := Option.map_eq_some_iff.1 hs
  refine h.append (List.append_nil _).symm (fun l hl => absurd hl List.not_mem_nil)
    (fun _ _ _ _ hwanted => .inl hwanted) fun j l hl hd => ⟨hd.watching, hd.key, ?_⟩
  obtain ⟨id, hunpublished | hconsumption⟩ := hd.deletes
  · rcases mem_eraseIdx_or i hunpublished with hkeep | heq
    · exact ⟨id, .inl hkeep⟩
    · rw [he] at heq
      cases heq
      exact ⟨id, .inr (List.mem_append_right _
        (List.mem_map.2 ⟨_, hreg.watching j l hl hd.watching, rfl⟩))⟩
  · exact ⟨id, .inr (List.mem_append_left _ hconsumption)⟩

theorem SubHub.Exact.consume (h : s.Exact W) (hk : s.Keyed W) {fault : Bool}
    (hs : s.step W (.consume i fault) = some s') : s'.Exact W := by
  obtain ⟨d, hd, hc⟩ := SubHub.step_consume hs
  -- the consumption that dooms a loop goes on unless it is the one of the step
  have hkeep : ∀ j l, s.Doomed j l → (∃ id, .deleted id l.walletPubkey ∈ s.unpublished ∨
      ⟨.deleteAppConsumer j l.round, .deleted id l.walletPubkey, false⟩ ∈
        s.consumptions.eraseIdx i) ∨
      ∃ id, d = ⟨.deleteAppConsumer j l.round, .deleted id l.walletPubkey, false⟩ := by
    intro j l hdoomed
    obtain ⟨id, hunpublished | hconsumption⟩ := hdoomed.deletes
    · exact .inl ⟨id, .inl hunpublished⟩
    · rcases mem_eraseIdx_or i hconsumption with hkeep | heq
      · exact .inl ⟨id, .inr hkeep⟩
      · rw [hd] at heq
        exact .inr ⟨id, Option.some.inj heq⟩
  cases hc with
  | @starts id walletPubkey hlistener hevent happ hkey =>
    refine h.append rfl (fun l hl => ?_) (fun _ _ _ _ hwanted => .inl hwanted)
      fun j l _ hdoomed => ?_
    · obtain rfl := List.mem_singleton.1 hl
      obtain ⟨c, hc, rfl⟩ := Registry.hasApp_iff_connection.1 happ
      obtain ⟨-, hkeyed⟩ := hk.created c.1 (.inr ⟨d, List.mem_of_getElem? hd, hlistener, hevent⟩)
      obtain ⟨id, pubkey, wallet⟩ := c
      cases wallet with
      | none => exact absurd rfl (hkeyed _ hc rfl)
      | some wallet =>
        obtain ⟨hwanted, hwallet⟩ := hk.consistent.wanted hc
        rw [hkey] at hwallet
        cases hwallet
        exact hwanted
    · rcases hkeep j l hdoomed with hdeletes | ⟨id', rfl⟩
      · exact ⟨hdoomed.watching, hdoomed.key, hdeletes⟩
      · cases hlistener
  | ignores hcreated hdeleted =>
    refine h.append (List.append_nil _).symm (fun l hl => absurd hl List.not_mem_nil)
      (fun _ _ _ _ hwanted => .inl hwanted) fun j l hl hdoomed => ?_
    rcases hkeep j l hdoomed with hdeletes | ⟨id', rfl⟩
    · exact ⟨hdoomed.watching, hdoomed.key, hdeletes⟩
    · exact absurd rfl (hdeleted j l.round id' _ l rfl rfl hl hdoomed.key)
  | removes hlistener hcancelled =>
    refine h.append (List.append_nil _).symm (fun l hl => absurd hl List.not_mem_nil)
      (fun _ _ _ _ hwanted => .inl hwanted) fun j l _ hdoomed => ?_
    rcases hkeep j l hdoomed with hdeletes | ⟨id', rfl⟩
    · exact ⟨hdoomed.watching, hdoomed.key, hdeletes⟩
    · cases hcancelled
  | @cancels loop round id l hlistener hevent hl hkey hcancelled =>
    intro j l' hj hlive
    rw [List.getElem?_modify] at hj
    obtain ⟨l₁, hl₁, rfl⟩ := Option.map_eq_some_iff.1 hj
    -- a loop that still lives is as it was, and its round is not the cancelled one
    have hsame : (if loop = j then l₁.cancelSubscription round else l₁) = l₁ ∧
        (l₁.stage.Watching → loop = j → l₁.round ≠ round) := by
      by_cases hself : loop = j
      · rw [if_pos hself] at hlive ⊢
        rcases WalletLoop.cancelSubscription_cases round l₁ with ⟨heq, hne⟩ | ⟨closed, heq⟩
        · exact ⟨heq, fun hw _ => hne hw⟩
        · rw [heq] at hlive
          cases hlive
      · rw [if_neg hself]
        exact ⟨rfl, fun _ heq => absurd heq hself⟩
    rw [hsame.1] at hlive ⊢
    rcases h j l₁ hl₁ hlive with hwanted | hdoomed
    · exact .inl hwanted
    · refine .inr ⟨hdoomed.watching, hdoomed.key, ?_⟩
      rcases hkeep j l₁ hdoomed with ⟨id', hunpublished | hconsumption⟩ | ⟨id', rfl⟩
      · exact ⟨id', .inl hunpublished⟩
      · have hmem := List.mem_of_mem_eraseIdx hconsumption
        rcases SubHub.mem_cancelled hd hmem with ⟨rfl, -⟩ | hset
        · cases hlistener
          exact absurd rfl (hsame.2 hdoomed.watching rfl)
        · exact ⟨id', .inr hset⟩
      · cases hlistener
        exact absurd rfl (hsame.2 hdoomed.watching rfl)

theorem SubHub.Exact.loop (h : s.Exact W) {a : LoopStep} (ha : s.Orderly W (.loop i a))
    (hs : s.step W (.loop i a) = some s') : s'.Exact W := by
  obtain ⟨l, l', hl, hmove, rfl⟩ := SubHub.step_loop hs
  have hlt : i < s.loops.length := (List.getElem?_eq_some_iff.1 hl).1
  intro j l₁ hj hlive
  by_cases hij : i = j
  · subst hij
    simp only [List.getElem?_set_self hlt] at hj
    cases hj
    have hnot : ¬ l.stage.Watching → l.stage.Live → s.Wanted W l.walletPubkey := fun hw hlive =>
      (h i l hl hlive).resolve_right fun hd => hw hd.watching
    cases hmove with
    | subscribe hstage =>
      refine .inl (hnot ?_ ?_)
      · rw [hstage]
        exact id
      · rw [hstage]
        trivial
    | close hstage =>
      have hlive' : l.stage.Live := hstage ▸ hlive
      refine (h i l hl hlive').imp_right fun hd => ⟨hlive, hd.key, hd.deletes⟩
    | exit => cases hlive
    | fail hstage => exact .inl (ha l hl)
    | @leave failed hstage =>
      cases failed with
      | false => exact hlive.elim
      | true =>
        refine .inl (hnot ?_ ?_)
        · rw [hstage]
          exact id
        · rw [hstage]
          exact rfl
    | resubscribe hstage =>
      refine .inl (hnot ?_ ?_)
      · rw [hstage]
        exact id
      · rw [hstage]
        trivial
  · exact (h j l₁ ((List.getElem?_set_ne hij).symm.trans hj) hlive).imp_right fun hd =>
      ⟨hd.watching, hd.key, hd.deletes⟩

/-- An orderly step keeps the loops to the apps. Reference: none. -/
theorem SubHub.Exact.step (h : s.Exact W) (hk : s.Keyed W) (hreg : s.Registered) (hW : W.Proper)
    {l : SubLabel} (ha : s.Orderly W l) (hs : s.step W l = some s') : s'.Exact W := by
  cases l with
  | createApp =>
    simp only [SubHub.step] at hs
    split at hs
    · cases hs
    · next app secret r hcreate =>
      cases hs
      obtain ⟨_, _, _, -, -, hconn⟩ := AppsService.CreateApp_connections hcreate
      refine h.same rfl (fun _ hw => hw.later (fun id pubkey hc => ⟨id, pubkey, ?_⟩) fun hl => hl)
        (fun _ he => List.mem_append_left _ he) fun _ hd => hd
      rw [hconn]
      exact List.mem_append_left _ hc
  | updateApp u =>
    simp only [SubHub.step] at hs
    split at hs
    · next happ =>
      split at hs
      · cases hs
      · next r hupdate =>
        cases hs
        refine h.same rfl (fun _ hw => hw.later (fun id pubkey hc => ⟨id, pubkey, ?_⟩) fun hl => hl)
          (fun _ he => he) fun _ hd => hd
        rwa [Api.UpdateApp_connections happ hupdate]
    · cases hs
  | fetchApp id =>
    obtain ⟨app, -, rfl⟩ := Option.map_eq_some_iff.1 hs
    exact h.same rfl (fun _ hw => hw) (fun _ he => he) fun _ hd => hd
  | deleteApp env i => exact h.deleteApp hk hW ha hs
  | publish i => exact h.publish hreg hs
  | consume i fault => exact h.consume hk hs
  | startApps fault =>
    simp only [SubHub.step] at hs
    split at hs
    · cases hs
    · cases hs
      refine h.append rfl (fun l hl => ?_) (fun _ _ _ _ hw => .inl hw)
        fun _ _ _ hd => ⟨hd.watching, hd.key, hd.deletes⟩
      split at hl
      · cases hl
      · obtain ⟨app, happ, hl⟩ := List.mem_filterMap.1 hl
        obtain ⟨walletPubkey, hwallet, rfl⟩ := Option.map_eq_some_iff.1 hl
        exact .inl ⟨app, happ, hwallet⟩
  | startLegacy fault =>
    simp only [SubHub.step] at hs
    split at hs
    · next hstart =>
      cases hs
      refine h.append rfl (fun l hl => ?_) (fun _ _ _ _ hw => .inl (hw.imp_right ?_))
        fun _ _ _ hd => ⟨hd.watching, hd.key, hd.deletes⟩
      · split at hl
        · next hlegacy =>
          rw [List.mem_singleton.1 hl]
          exact .inr ⟨congrArg some hlegacy, rfl⟩
        · cases hl
      · rintro ⟨hlegacy, -⟩
        rw [hstart.2] at hlegacy
        cases hlegacy
    · cases hs
  | loop i a => exact h.loop ha hs
  | stop =>
    cases hs
    exact h.same rfl (fun _ hw => hw) (fun _ he => he) fun _ hd => hd
  | removeCreateApp =>
    simp only [SubHub.step] at hs
    split at hs
    · cases hs
      exact h.same rfl (fun _ hw => hw) (fun _ he => he) fun _ hd => hd
    · cases hs

/-! ## The runs -/

theorem SubHub.keyed_started (hr : r.Consistent W) : (SubHub.started r).Keyed W where
  consistent := hr
  fetched _ happ := absurd happ List.not_mem_nil
  gone := by
    rintro id walletPubkey (hu | ⟨d, hd, -⟩)
    · cases hu
    · cases hd
  created := by
    rintro id (hu | ⟨d, hd, -⟩)
    · cases hu
    · cases hd

theorem SubHub.covered_started : (SubHub.started r).Covered W where
  consumer := List.mem_cons_self
  apps _ _ _ _ := .inl rfl
  legacy hlegacy := by cases hlegacy

theorem SubHub.registered_started : (SubHub.started r).Registered where
  watching _ _ hl _ := by cases hl
  known := by
    rintro i round (hlistener | ⟨d, hd, -⟩)
    · cases List.mem_singleton.1 hlistener
    · cases hd
  cancelled _ hd := absurd hd List.not_mem_nil

theorem SubHub.exact_started : (SubHub.started r).Exact W := fun _ _ hl => by cases hl

/-- A stop is not undone. Reference: `service/start.go:125 startNostr`. -/
theorem SubHub.stopped_of_step {l : SubLabel} (hs : s.step W l = some s')
    (hns : s'.stopped = false) : s.stopped = false := by
  cases l with
  | consume i fault =>
    obtain ⟨d, -, hc⟩ := SubHub.step_consume hs
    cases hc <;> exact hns
  | loop i a =>
    obtain ⟨l, l', -, -, rfl⟩ := SubHub.step_loop hs
    exact hns
  | stop =>
    cases hs
    cases hns
  | fetchApp id =>
    obtain ⟨app, -, rfl⟩ := Option.map_eq_some_iff.1 hs
    exact hns
  | publish i =>
    obtain ⟨e, -, rfl⟩ := Option.map_eq_some_iff.1 hs
    exact hns
  | _ =>
    simp only [SubHub.step] at hs
    grind

theorem SubHub.Idle.not_creates (h : s.Idle W walletPubkey)
    (hkey : W.walletPubkey id = .ok walletPubkey) : ¬ s.Creates id := by
  rintro (hu | ⟨d, hd, -, hevent⟩)
  · exact h.unpublished _ hu hkey
  · refine h.consumptions d hd ?_
    rw [hevent]
    exact hkey

/-- In every run, and whatever the order of its steps, a wanted key for which nothing is left to do
has a subscription, where no query fails and the service goes on. Where no app is deleted while its
loop has no consumer registered, and no loop notices after a deletion that the relay has closed its
subscription, there is no other subscription. Reference: `service/start.go:33 startNostr`, `:194
startAppWalletSubscription`, `service/create_app_consumer.go:21 ConsumeEvent`,
`service/delete_app_consumer.go:21 ConsumeEvent`. -/
theorem wallet_subscriptions_follow_apps {ls : List SubLabel} (hW : W.Proper)
    (hr : r.Consistent W) (hrun : runLabels (SubHub.step W) (SubHub.started r) ls = some s) :
    (AllowsLabels (SubHub.step W) SubHub.Faultless (SubHub.started r) ls → s.stopped = false →
      s.appsStarted = true → ∀ walletPubkey, s.Idle W walletPubkey → s.Wanted W walletPubkey →
        s.Subscribed walletPubkey) ∧
    (AllowsLabels (SubHub.step W) (SubHub.Orderly W) (SubHub.started r) ls →
      ∀ walletPubkey, s.Idle W walletPubkey → s.Subscribed walletPubkey →
        s.Wanted W walletPubkey) := by
  constructor
  · intro ha hstopped hstarted walletPubkey hidle hwanted
    have hcovered : s.Keyed W ∧ (s.stopped = false → s.Covered W) := by
      refine run_induction (P := fun s => s.Keyed W ∧ (s.stopped = false → s.Covered W))
        ⟨SubHub.keyed_started hr, fun _ => SubHub.covered_started⟩
        (fun s₁ l s₂ h hl hs => ?_) ha hrun
      refine ⟨h.1.step hs, fun hns => ?_⟩
      have hns₁ : s₁.stopped = false := SubHub.stopped_of_step hs hns
      exact (h.2 hns₁).step h.1 hW hns₁ hl hs hns
    have hloop : s.HasLoop walletPubkey := by
      rcases hwanted with ⟨app, happ, hwallet⟩ | ⟨hlegacy, rfl⟩
      · have hc := Registry.mem_connections.2 ⟨app, happ, rfl, rfl, hwallet⟩
        rcases (hcovered.2 hstopped).apps _ _ _ hc with hstart | hcreates | hloop
        · rw [hstarted] at hstart
          cases hstart
        · exact absurd hcreates (hidle.not_creates (hcovered.1.consistent.wanted hc).2)
        · exact hloop
      · exact (hcovered.2 hstopped).legacy hlegacy
    obtain ⟨l, hl, hkey, hlive⟩ := hloop
    refine ⟨l, hl, hkey, (hidle.loops l hl hkey).resolve_right fun hended => ?_⟩
    rw [hended] at hlive
    exact hlive
  · rintro ha walletPubkey hidle ⟨l, hl, rfl, hstage⟩
    have hexact : s.Keyed W ∧ s.Registered ∧ s.Exact W :=
      run_induction (P := fun s => s.Keyed W ∧ s.Registered ∧ s.Exact W)
        ⟨SubHub.keyed_started hr, SubHub.registered_started, SubHub.exact_started⟩
        (fun s₁ l s₂ h hl hs =>
          ⟨h.1.step hs, h.2.1.step hs, h.2.2.step h.1 h.2.1 hW hl hs⟩) ha hrun
    obtain ⟨i, hi⟩ := List.mem_iff_getElem?.1 hl
    refine (hexact.2.2 i l hi ?_).resolve_right fun hdoomed => ?_
    · rw [hstage]
      exact rfl
    · obtain ⟨id, hunpublished | hconsumption⟩ := hdoomed.deletes
      · exact hidle.unpublished _ hunpublished rfl
      · exact hidle.consumptions _ hconsumption rfl

/-- A hub whose wallet keys are not empty. Reference: none. -/
def demoSubWorld : InfoWorld where
  nostrPublicKey := "hub"
  appWalletKey id := .ok (demoWalletKey (id + 1))
  publicKey := .ok
  relayUrls := ["wss://relay.example"]
  supportedMethods := []
  notificationTypes := []
  distinct i j privKey privKey' pubKey hi hj hp hp' := by
    cases hi
    cases hj
    have heq := demoWalletKey_inj (Except.ok.inj (hp.trans hp'.symm))
    omega

/-- Two apps are created, the relay closes the subscription of the first, which is made again, and
the first app is deleted. Reference: none. -/
def demoSubLabels : List SubLabel :=
  [.startApps false, .startLegacy false,
    .createApp {} "first" "" 0 "" none ["get_balance"] false none, .publish 0, .consume 0 false,
    .loop 0 .subscribe, .loop 0 .close, .loop 0 .fail, .loop 0 .leave, .loop 0 .resubscribe,
    .loop 0 .subscribe,
    .createApp { privateKey := "second" } "second" "" 0 "" none ["get_balance"] false none,
    .publish 0, .consume 1 false, .consume 0 false, .loop 1 .subscribe, .fetchApp 1,
    .deleteApp {} 0, .publish 0, .consume 0 false, .consume 0 false, .consume 0 false,
    .consume 0 false, .loop 0 .exit, .loop 0 .leave]

theorem demoSubWorld_proper : demoSubWorld.Proper := by
  intro id walletPubkey h
  cases h
  constructor
  · intro heq
    have hlength := congrArg (fun key => key.toList.length) heq
    simp [demoWalletKey] at hlength
  · intro heq
    have hlist := congrArg String.toList heq
    simp [demoSubWorld, demoWalletKey, List.replicate_succ] at hlist

/-- The second app has a subscription and the first has none. Reference: none. -/
theorem wallet_subscriptions_follow_apps_two :
    (labelsAfter (SubHub.step demoSubWorld) (SubHub.started .empty) demoSubLabels).Subscribed
        "kkk" ∧
      ¬ (labelsAfter (SubHub.step demoSubWorld) (SubHub.started .empty) demoSubLabels).Subscribed
        "kk" := by
  have hrun : runLabels (SubHub.step demoSubWorld) (SubHub.started .empty) demoSubLabels = some _ :=
    runLabels_after (by decide +kernel)
  have hfollow :=
    wallet_subscriptions_follow_apps demoSubWorld_proper Registry.consistent_empty hrun
  refine ⟨hfollow.1 ?_ ?_ ?_ _ ?_ ?_, fun h => ?_⟩
  · decide +kernel
  · decide +kernel
  · decide +kernel
  · decide +kernel
  · decide +kernel
  · have hwanted := hfollow.2 (by decide +kernel) "kk" (by decide +kernel) h
    revert hwanted
    decide +kernel

end

end AlbyHub
