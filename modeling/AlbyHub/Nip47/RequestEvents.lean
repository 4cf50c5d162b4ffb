import AlbyHub.Interaction.Index
import AlbyHub.Nip47.Accepted

/-!
# The stored request events

`HandleEvent` stores an event before it handles it, and a row with the same Nostr id refuses a
second delivery. The rows are deleted by a cleanup that counts them, and with their app. Calls of
`HandleEvent`, cleanups, and deletions and creations of apps are interleaved statement by statement;
a restart drops the calls. `dispatched` has the ids of the events that a controller was called for.
-/

namespace AlbyHub.RequestEvents

open Go Interaction Panicking EventHandler

/-- The columns that are read. Reference: `db/models.go:44 RequestEvent`. -/
structure RequestEvent where
  id : Nat
  nostrId : String
  appId : Option Nat := none
  deriving DecidableEq, Repr

/-- The tables with the last ids that they gave, the clock, and what was dispatched, latest first.
Reference: `db/models.go:13 App`, `:44 RequestEvent`. -/
structure RequestHub where
  requestEvents : List RequestEvent
  requestSeq : Nat
  apps : List AppRow
  appSeq : Nat
  clock : Time
  dispatched : List String := []

/-- What is outside at a step: the time since the last one, whether the database fails, and the
answers that do not depend on the tables. Reference: none. -/
structure RequestEnv where
  elapsed : Nat
  fault : Option Err
  answer : (c : EventCmd) → c.Ans

/-- What the calls do; `dispatch` is the call of a controller. Reference: `nip47/event_handler.go`,
`service/service.go:287 removeExcessEvents`, `apps/apps_service.go:55 CreateApp`, `:183 DeleteApp`.
-/
inductive RequestCmd where
  | event (c : EventCmd)
  | dispatch (nostrId : String)
  | requestIds (limit : Nat)
  | deleteRequestsBelow (id : Nat)
  | deleteResponsesBelow (id : Nat)
  | deleteApp (id : Nat)
  | createApp (app : AppRow)

/-- Reference: the results of the calls of `RequestCmd`. -/
abbrev RequestCmd.Ans : RequestCmd → Type
  | .event c => c.Ans
  | .dispatch _ => Unit
  | .requestIds _ => Except Err (List Nat)
  | .deleteRequestsBelow _ | .deleteResponsesBelow _ | .deleteApp _ => Except Err Unit
  | .createApp _ => Except Err Nat

/-- A program on the tables. Reference: none. -/
abbrev RequestProg := Panicking RequestCmd RequestCmd.Ans

/-- A call with its answer. Reference: none. -/
abbrev RequestCall := Call (Option RequestCmd) (Answer RequestCmd.Ans)

/-! ## The tables -/

/-- The Nostr id has a row. Reference: `db/models.go:48`. -/
def RequestHub.Has (s : RequestHub) (nostrId : String) : Prop :=
  ∃ row ∈ s.requestEvents, row.nostrId = nostrId

instance (s : RequestHub) (nostrId : String) : Decidable (s.Has nostrId) :=
  inferInstanceAs (Decidable (∃ row ∈ s.requestEvents, _))

/-- The Nostr id is unique. Reference: `nip47/event_handler.go:58 HandleEvent`,
`db/migrations/202407151352_autoincrement.go:37`. -/
def RequestHub.createRequestEvent (s : RequestHub) (nostrId : String) :
    Except Err Nat × RequestHub :=
  if s.Has nostrId then (.error (.database "duplicated key not allowed"), s)
  else (.ok (s.requestSeq + 1), { s with
    requestEvents := s.requestEvents ++ [{ id := s.requestSeq + 1, nostrId }]
    requestSeq := s.requestSeq + 1 })

/-- The app of a row has to exist. Reference: `nip47/event_handler.go:170 HandleEvent`. -/
def RequestHub.updateRequestApp (s : RequestHub) (requestEventId appId : Nat) :
    Except Err Unit × RequestHub :=
  if (∃ row ∈ s.requestEvents, row.id = requestEventId) ∧ ∀ app ∈ s.apps, app.id ≠ appId then
    (.error (.database "FOREIGN KEY constraint failed"), s)
  else (.ok (), { s with
    requestEvents := s.requestEvents.map fun row =>
      if row.id = requestEventId then { row with appId := some appId } else row })

/-- The rows of the app are deleted with it. Reference: `apps/apps_service.go:183 DeleteApp`,
`db/migrations/202407151352_autoincrement.go:37`. -/
def RequestHub.deleteApp (s : RequestHub) (id : Nat) : RequestHub :=
  { s with
    apps := s.apps.filter (·.id ≠ id)
    requestEvents := s.requestEvents.filter (·.appId ≠ some id) }

/-- The pubkey is unique. Reference: `apps/apps_service.go:55 CreateApp`,
`db/migrations/202407151352_autoincrement.go:20`. -/
def RequestHub.createApp (s : RequestHub) (app : AppRow) : Except Err Nat × RequestHub :=
  if ∃ app' ∈ s.apps, app'.appPubkey = app.appPubkey then
    (.error (.database "duplicated key not allowed"), s)
  else (.ok (s.appSeq + 1), { s with
    apps := s.apps ++ [{ app with id := s.appSeq + 1 }], appSeq := s.appSeq + 1 })

/-- A statement of the handler; an answer that does not depend on the tables is the environment's.
gorm leaves a condition out where its value is empty. Reference: `nip47/event_handler.go:26
HandleEvent`. -/
def execEvent (s : RequestHub) (env : RequestEnv) : (c : EventCmd) → c.Ans × RequestHub
  | .service .now => (s.clock, s)
  | .createRequestEvent nostrId =>
    match env.fault with
    | some e => (.error e, s)
    | none => s.createRequestEvent nostrId
  | .firstApp appPubkey =>
    match env.fault, s.apps.find? fun app => appPubkey = "" ∨ app.appPubkey = appPubkey with
    | some e, _ => (.error e, s)
    | none, none => (.error .notFound, s)
    | none, some app => (.ok app, s)
  | .updateRequestApp requestEventId appId =>
    match env.fault with
    | some e => (.error e, s)
    | none => s.updateRequestApp requestEventId appId
  | c => (env.answer c, s)

/-- A statement. Reference: `service/service.go:298 removeExcessEvents`. -/
def execCmd (s : RequestHub) (env : RequestEnv) : (c : RequestCmd) → c.Ans × RequestHub
  | .event c => execEvent s env c
  | .dispatch nostrId => ((), { s with dispatched := nostrId :: s.dispatched })
  | .requestIds limit =>
    match env.fault with
    | some e => (.error e, s)
    | none => (.ok (((s.requestEvents.map (·.id)).mergeSort (· ≤ ·)).take limit), s)
  | .deleteRequestsBelow id =>
    match env.fault with
    | some e => (.error e, s)
    | none => (.ok (), { s with requestEvents := s.requestEvents.filter (id ≤ ·.id) })
  | .deleteResponsesBelow _ =>
    match env.fault with
    | some e => (.error e, s)
    | none => (.ok (), s)
  | .deleteApp id =>
    match env.fault with
    | some e => (.error e, s)
    | none => (.ok (), s.deleteApp id)
  | .createApp app =>
    match env.fault with
    | some e => (.error e, s)
    | none => s.createApp app

/-- A statement at its time. A call that panics takes no further step. Reference: none. -/
def requestExec (s : RequestHub) : (c : Option RequestCmd) → RequestEnv →
    Option (Answer RequestCmd.Ans c × RequestHub)
  | none, _ => none
  | some c, env => some (execCmd { s with clock := s.clock + env.elapsed } env c)

/-! ## The calls -/

/-- What is called. Reference: `nip47/event_handler.go:26 HandleEvent`,
`service/service.go:287 removeExcessEvents`, `apps/apps_service.go:55 CreateApp`, `:183 DeleteApp`.
-/
inductive RequestOp where
  | handleEvent (lnClientStarted : Bool) (event : NostrEvent)
  | removeExcessEvents
  | deleteApp (id : Nat)
  | createApp (app : AppRow)

/-- Reference: `service/service.go:287 removeExcessEvents`. -/
def removeExcessEvents : RequestProg Unit := do
  let events := (← issue (.requestIds 6000) : Except Err (List Nat)).toOption.getD []
  let numEventsToDelete : Int := events.length - 1000
  if numEventsToDelete < 100 then return () else do
  let deleteEventsBelowId ← deref events[numEventsToDelete.toNat]?
  match (← issue (.deleteRequestsBelow deleteEventsBelowId) : Except Err Unit) with
  | .error _ => return ()
  | .ok () => do
    let _ ← issue (.deleteResponsesBelow deleteEventsBelowId)
    return ()

/-- The handler up to its controller. Reference: `nip47/event_handler.go:26 HandleEvent`. -/
def handleEvent (L : Library) (lnClientStarted : Bool) (event : NostrEvent) : RequestProg Unit := do
  match ← within RequestCmd.event (accept L lnClientStarted event) with
  | none => return ()
  | some _ => issue (RequestCmd.dispatch event.id)

/-- Reference: the functions of `RequestOp`. -/
def requestBody (L : Library) : RequestOp → RequestProg Unit
  | .handleEvent lnClientStarted event => handleEvent L lnClientStarted event
  | .removeExcessEvents => removeExcessEvents
  | .deleteApp id => do
    let _ ← issue (.deleteApp id)
    return ()
  | .createApp app => do
    let _ ← issue (.createApp app)
    return ()

/-- The tables with the calls. Reference: none. -/
abbrev RequestPool :=
  Config RequestHub (Option RequestCmd) (Answer RequestCmd.Ans) RequestOp Unit

/-- Reference: none. -/
abbrev RequestThread := Thread (Option RequestCmd) (Answer RequestCmd.Ans) RequestOp Unit

/-- Reference: none. -/
abbrev RequestLabel := Label RequestOp RequestEnv

/-- A run from any tables, before anything was dispatched. Reference: none. -/
abbrev RequestRun (L : Library) (allowed : RequestPool → RequestLabel → Prop) :
    RequestPool → Prop :=
  Reach requestExec (requestBody L) (fun cfg => cfg.state.dispatched = [] ∧ cfg.threads = [])
    allowed

/-! ## What a call has done -/

/-- The call has stored the event. Reference: `nip47/event_handler.go:58 HandleEvent`. -/
def Stored (h : List RequestCall) (nostrId : String) : Prop :=
  ∃ id : Nat, (⟨some (.event (.createRequestEvent nostrId)), (.ok id : Except Err Nat)⟩ :
    RequestCall) ∈ h

/-- The call has looked at the clock. Reference: Go `time.Now`. -/
def LookedAt (h : List RequestCall) (now : Time) : Prop :=
  (⟨some (.event (.service .now)), now⟩ : RequestCall) ∈ h

/-- The call has called a controller. Reference: `nip47/event_handler.go:395 HandleEvent`. -/
def Dispatched (h : List RequestCall) : Prop :=
  ∃ call ∈ h, ∃ nostrId, call.cmd = some (.dispatch nostrId)

/-- However the event is decrypted, it is a request to pay or to make an invoice of more than six
hours ago, or none that can be handled. Reference: `nip47/event_handler.go:352 HandleEvent`. -/
def Expired (L : Library) (event : NostrEvent) (now : Time) : Prop :=
  ∀ cipher payload request, Decrypt L cipher event.content = .ok payload →
    L.unmarshalRequest payload = .ok request → request.method ∉ GetAlwaysGrantedMethods ∧
      ∀ scope, RequestMethodToScope request.method = .ok scope → isStale now event scope = true

/-- The event had not expired when the call looked at the clock. Reference:
`nip47/event_handler.go:352 HandleEvent`. -/
def Current (L : Library) (event : NostrEvent) (h : List RequestCall) : Prop :=
  ∃ now, LookedAt h now ∧ ¬ Expired L event now

/-- The discipline of a call: it stores its own event, before anything else, and dispatches it once,
after it has stored it and while it has not expired. Reference: `nip47/event_handler.go:26
HandleEvent`. -/
def RequestOk (L : Library) (op : RequestOp) (h : List RequestCall) : Option RequestCmd → Prop
  | some (.event (.createRequestEvent nostrId)) => h = [] ∧ ∃ lnClientStarted event,
    op = .handleEvent lnClientStarted event ∧ event.id = nostrId
  | some (.dispatch nostrId) => ¬ Dispatched h ∧ ∃ lnClientStarted event,
    op = .handleEvent lnClientStarted event ∧ event.id = nostrId ∧ Stored h nostrId ∧
      Current L event h
  | _ => True

section
variable {L : Library} {op : RequestOp} {h h' : List RequestCall} {x : Context}
variable {cipher : Nip47Cipher} {event : NostrEvent} {nostrId : String} {now now' : Time}

theorem Stored.mono (hs : Stored h nostrId) (hsuffix : h <:+ h') : Stored h' nostrId :=
  hs.imp fun _ hmem => hsuffix.subset hmem

theorem Current.mono (hc : Current L event h) (hsuffix : h <:+ h') : Current L event h' :=
  hc.imp fun _ hnow => ⟨hsuffix.subset hnow.1, hnow.2⟩

/-- An event that has expired stays so. Reference: `nip47/event_handler.go:352 HandleEvent`. -/
theorem Expired.mono (he : Expired L event now) (hle : now ≤ now') : Expired L event now' := by
  intro cipher payload request hpayload hrequest
  obtain ⟨hmethod, hstale⟩ := he cipher payload request hpayload hrequest
  refine ⟨hmethod, fun scope hscope => ?_⟩
  have hbefore := hstale scope hscope
  simp only [isStale, decide_eq_true_eq] at hbefore ⊢
  exact ⟨hbefore.1, lt_of_lt_of_le hbefore.2 (Int.sub_le_sub_right hle _)⟩

/-! ## The handler -/

theorem mayIssue_publishResponseEvent {may : (c : EventCmd) → c.Ans → Prop} {requestEventId : Nat}
    {resp : Option NostrEvent} :
    ¬ MayIssue may (publishResponseEvent requestEventId resp) (.createRequestEvent nostrId) := by
  unfold publishResponseEvent
  simp only [mayIssue_bind, mayIssue_deref, mayIssue_issue, reduceCtorEq, false_or, not_exists,
    not_and]
  intro resp _ r _
  cases r with
  | error e => exact mayIssue_pure
  | ok responseEventId =>
    simp only [mayIssue_bind, mayIssue_issue, mayIssue_ite, reduceCtorEq, false_or, not_exists,
      not_and]
    intro results _
    simp

/-- Reference: `nip47/event_handler.go:286`, `publishResponse`. -/
theorem mayIssue_publishResponse {may : (c : EventCmd) → c.Ans → Prop} {response : Response}
    {tags : List (List String)} :
    ¬ MayIssue may (publishResponse L x cipher response tags) (.createRequestEvent nostrId) := by
  unfold publishResponse CreateResponse
  simp only [mayIssue_bind, mayIssue_issue, mayIssue_pure, reduceCtorEq, false_or, not_or,
    not_exists, not_and, not_false_iff, implies_true, and_true, true_and]
  intro created _
  cases created with
  | error e => simp
  | ok resp => simp [mayIssue_publishResponseEvent]

theorem mayIssue_publishError {may : (c : EventCmd) → c.Ans → Prop} {error : Nip47Error} :
    ¬ MayIssue may (publishError L x cipher error) (.createRequestEvent nostrId) := by
  unfold publishError CreateResponse
  simp [mayIssue_publishResponseEvent]

/-- A part of the handler that stands between the creation of the row and the controller. Reference:
none. -/
abbrev Accepts (L : Library) (op : RequestOp) (event : NostrEvent) (h : List RequestCall)
    (p : Handler (Option Accepted)) : Prop :=
  Follows (RequestOk L op) (fun h' r => r.isSome = true →
    ¬ Dispatched h' ∧ Stored h' event.id ∧ Current L event h') h (within RequestCmd.event p)

theorem requestOk_event {c : EventCmd} (hc : ∀ id, c ≠ .createRequestEvent id) :
    RequestOk L op h (some (.event c)) := by
  cases c with
  | createRequestEvent id => exact absurd rfl (hc id)
  | _ => trivial

theorem accepts_none : Accepts L op event h (return none) := fun hsome => Bool.noConfusion hsome

theorem accepts_ask {c : EventCmd} {k : c.Ans → Handler (Option Accepted)}
    (hc : ∀ id, c ≠ .createRequestEvent id)
    (hk : ∀ r, Accepts L op event (⟨some (.event c), r⟩ :: h) (k r)) :
    Accepts L op event h (EventHandler.ask c >>= k) := ⟨requestOk_event hc, hk⟩

theorem accepts_seq {p : Handler Unit} {k : Unit → Handler (Option Accepted)}
    (hp : ∀ nostrId, ¬ MayIssue (fun _ _ => True) p (.createRequestEvent nostrId))
    (hk : ∀ h', Accepts L op event h' (k ())) : Accepts L op event h (p >>= k) := by
  unfold Accepts
  rw [within_bind]
  refine (follows_within (fun _ => trivial) fun c hc h' => ?_).seq fun h' _ _ => hk h'
  exact requestOk_event fun nostrId he => hp nostrId (he ▸ hc)

theorem not_dispatched_cons {c : EventCmd} {r : c.Ans} (hn : ¬ Dispatched h) :
    ¬ Dispatched ((⟨some (.event c), r⟩ : RequestCall) :: h) := by
  rintro ⟨call, hcall, nostrId, he⟩
  rcases List.mem_cons.1 hcall with rfl | hcall
  · cases he
  · exact hn ⟨call, hcall, nostrId, he⟩

/-- What the handler knows once it has looked at the clock. Reference: `nip47/event_handler.go:84
HandleEvent`. -/
structure Found (event : NostrEvent) (h : List RequestCall) : Prop where
  undispatched : ¬ Dispatched h
  stored : Stored h event.id
  looked : ∃ now, LookedAt h now

theorem Found.cons {c : EventCmd} {r : c.Ans} (hf : Found event h) :
    Found event ((⟨some (.event c), r⟩ : RequestCall) :: h) where
  undispatched := not_dispatched_cons hf.undispatched
  stored := hf.stored.mono (List.suffix_cons _ _)
  looked := hf.looked.imp fun _ => List.mem_cons_of_mem _

/-- A request is accepted while it has not expired. Reference: `nip47/event_handler.go:352
HandleEvent`. -/
theorem accepts_acceptRequest {request : Request} {payload : String} (hf : Found x.event h)
    (hpayload : Decrypt L cipher x.event.content = .ok payload)
    (hrequest : L.unmarshalRequest payload = .ok request) :
    Accepts L op x.event h (acceptRequest L x cipher request) := by
  unfold acceptRequest
  split
  · next hgranted =>
    obtain ⟨now, hnow⟩ := hf.looked
    refine fun _ => ⟨hf.undispatched, hf.stored, now, hnow, fun hexpired => ?_⟩
    exact (hexpired cipher payload request hpayload hrequest).1 hgranted
  · cases hscope : RequestMethodToScope request.method with
    | error e => exact accepts_seq (fun _ => mayIssue_publishResponse) fun _ => accepts_none
    | ok scope =>
      refine accepts_ask (fun _ => EventCmd.noConfusion) fun now => ?_
      split
      · exact accepts_none
      · next hfresh =>
        refine accepts_ask (fun _ => EventCmd.noConfusion) fun turn => ?_
        obtain ⟨granted, code, message⟩ := HasPermission turn x.app scope
        cases granted with
        | true =>
          refine fun _ => ⟨hf.cons.cons.undispatched, hf.cons.cons.stored, now, ?_, ?_⟩
          · exact List.mem_cons_of_mem _ List.mem_cons_self
          · exact fun hexpired =>
              hfresh ((hexpired cipher payload request hpayload hrequest).2 scope hscope)
        | false =>
          refine accepts_ask (fun _ => EventCmd.noConfusion) fun _ => ?_
          exact accepts_seq (fun _ => mayIssue_publishResponse) fun _ => accepts_none

theorem accepts_acceptContent (hf : Found x.event h) :
    Accepts L op x.event h (acceptContent L x cipher) := by
  refine accepts_ask (fun _ => EventCmd.noConfusion) fun r => ?_
  cases r with
  | error e =>
    refine accepts_seq (fun _ => mayIssue_publishError) fun _ => ?_
    exact accepts_ask (fun _ => EventCmd.noConfusion) fun _ => accepts_none
  | ok _ =>
    cases hpayload : Decrypt L cipher x.event.content with
    | error decryptionErr =>
      simp only
      refine accepts_ask (fun _ => EventCmd.noConfusion) fun _ => ?_
      cases nip44Cipher L x with
      | error _ => exact accepts_none
      | ok cipher => exact accepts_seq (fun _ => mayIssue_publishError) fun _ => accepts_none
    | ok payload =>
      cases hrequest : L.unmarshalRequest payload with
      | error _ =>
        simp only [hrequest]
        exact accepts_ask (fun _ => EventCmd.noConfusion) fun _ => accepts_none
      | ok request =>
        simp only [hrequest]
        refine accepts_ask (fun _ => EventCmd.noConfusion) fun _ => ?_
        exact accepts_acceptRequest hf.cons.cons hpayload hrequest

theorem accepts_acceptEncryption {encryption : String} (hf : Found x.event h) :
    Accepts L op x.event h (acceptEncryption L x encryption) := by
  unfold acceptEncryption
  cases NewNip47Cipher L.toNostr encryption x.app.appPubkey x.appWalletPrivKey with
  | error cipherErr =>
    refine accepts_ask (fun _ => EventCmd.noConfusion) fun _ => ?_
    cases nip44Cipher L x with
    | error _ => exact accepts_none
    | ok cipher => exact accepts_seq (fun _ => mayIssue_publishError) fun _ => accepts_none
  | ok cipher => exact accepts_acceptContent hf

theorem accepts_acceptEncrypted (hf : Found x.event h) :
    Accepts L op x.event h (acceptEncrypted L x) := by
  unfold acceptEncrypted requestEncryption
  cases L.findTag x.event.tags "encryption" with
  | none => exact accepts_acceptEncryption hf
  | some encryptionTag =>
    simp only
    cases encryptionTag[1]? with
    | none => exact ⟨trivial, fun r => r.elim⟩
    | some encryption => exact accepts_acceptEncryption hf

/-- The handler stores its event before it accepts it. Reference: `nip47/event_handler.go:26
HandleEvent`. -/
theorem accepts_accept (lnClientStarted : Bool) (event : NostrEvent) :
    Accepts L (.handleEvent lnClientStarted event) event [] (accept L lnClientStarted event) := by
  unfold accept
  cases L.checkSignature event with
  | error _ => exact accepts_none
  | ok valid =>
    cases valid with
    | false => exact accepts_none
    | true =>
      cases lnClientStarted with
      | false => exact accepts_none
      | true =>
        refine ⟨⟨rfl, true, event, rfl, rfl⟩, fun r => ?_⟩
        cases r with
        | error _ => exact accepts_none
        | ok requestEventId =>
          refine accepts_ask (fun _ => EventCmd.noConfusion) fun r => ?_
          cases r with
          | error _ => exact accepts_none
          | ok app =>
            refine accepts_ask (fun _ => EventCmd.noConfusion) fun now => ?_
            refine accepts_ask (fun _ => EventCmd.noConfusion) fun _ => ?_
            cases AlbyHub.appWalletPrivKey L.toNostr app with
            | error _ => exact accepts_none
            | ok appWalletPrivKey =>
              refine accepts_acceptEncrypted
                (x := ⟨event, requestEventId, app, appWalletPrivKey⟩) ?_
              refine ⟨?_, ⟨requestEventId, by simp⟩, now, by simp [LookedAt]⟩
              refine not_dispatched_cons (not_dispatched_cons (not_dispatched_cons
                (not_dispatched_cons ?_)))
              rintro ⟨_, hmem, -⟩
              cases hmem

/-- Reference: the functions of `RequestOp`. -/
theorem follows_requestBody (op : RequestOp) :
    Follows (RequestOk L op) (fun _ _ => True) [] (requestBody L op) := by
  cases op with
  | handleEvent lnClientStarted event =>
    refine (accepts_accept lnClientStarted event).bind fun h' r _ hr => ?_
    cases r with
    | none => trivial
    | some a =>
      obtain ⟨hn, hstored, hcurrent⟩ := hr rfl
      exact ⟨⟨hn, lnClientStarted, event, rfl, rfl, hstored, hcurrent⟩, fun _ => trivial⟩
  | removeExcessEvents =>
    refine .call trivial fun r => ?_
    simp only
    split
    · trivial
    · refine Follows.deref trivial fun deleteEventsBelowId => ⟨trivial, fun r => ?_⟩
      cases r with
      | error _ => trivial
      | ok _ => exact ⟨trivial, fun _ => trivial⟩
  | deleteApp id => exact ⟨trivial, fun _ => trivial⟩
  | createApp app => exact ⟨trivial, fun _ => trivial⟩

end

end AlbyHub.RequestEvents
