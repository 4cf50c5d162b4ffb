import AlbyHub.Nip47.EventHandler

/-!
# Where a request is handed to its controller

`HandleEvent` stores the event, decodes the request and checks its age and the permission
(`accept`); what it accepts is handed to the controller of the method (`HandleEvent_eq`). Whatever a
call accepts it has stored before, and it has looked at the clock since, unless the method is
always granted.
-/

namespace AlbyHub.EventHandler

open Go Interaction Panicking

/-- A request that is handed to its controller. Reference: `nip47/event_handler.go:395
HandleEvent`, the variables. -/
structure Accepted where
  context : Context
  cipher : Nip47Cipher
  request : Request

section
variable (L : Library) (W : World)

/-- Reference: `nip47/event_handler.go:395 HandleEvent`. -/
def Accepted.handle (a : Accepted) : Handler Unit :=
  dispatch L W a.request a.context.requestEventId a.context.app
    (publishResponse L a.context a.cipher)

/-- Reference: `nip47/event_handler.go:335 HandleEvent`. -/
def acceptRequest (x : Context) (cipher : Nip47Cipher) (request : Request) :
    Handler (Option Accepted) :=
  if request.method ∈ GetAlwaysGrantedMethods then return some ⟨x, cipher, request⟩
  else
    match RequestMethodToScope request.method with
    | .error e => do
      publishResponse L x cipher (request.failed ⟨"INTERNAL", e⟩) []
      return none
    | .ok scope => do
      let now ← ask (.service .now)
      if isStale now x.event scope then return none else
      let turn ← ask .turn
      match HasPermission turn x.app scope with
      | (true, _, _) => return some ⟨x, cipher, request⟩
      | (false, code, message) => do
        ask (.publishPermissionDenied request.method x.app.name code message)
        publishResponse L x cipher (request.failed ⟨code, message⟩) []
        return none

/-- Reference: `nip47/event_handler.go:170 HandleEvent`. -/
def acceptContent (x : Context) (cipher : Nip47Cipher) : Handler (Option Accepted) := do
  match ← ask (.updateRequestApp x.requestEventId x.app.id) with
  | .error e => do
    publishError L x cipher ⟨"INTERNAL", "Failed to save app to nostr event: " ++ e.error⟩
    let _ ← ask (.updateRequestState x.requestEventId "error")
    return none
  | .ok () =>
    match Decrypt L cipher x.event.content with
    | .error decryptionErr => do
      let _ ← ask (.updateRequestState x.requestEventId "error")
      match nip44Cipher L x with
      | .error _ => return none
      | .ok cipher => do
        publishError L x cipher ⟨"BAD_REQUEST", "failed to decrypt: " ++ decryptionErr⟩
        return none
    | .ok payload =>
      match L.unmarshalRequest payload with
      | .error _ => do
        let _ ← ask (.updateRequestState x.requestEventId "error")
        return none
      | .ok request => do
        let _ ← ask (.updateRequestContent x.requestEventId request.method payload)
        acceptRequest L x cipher request

/-- Reference: `nip47/event_handler.go:119 HandleEvent`. -/
def acceptEncryption (x : Context) (encryption : String) : Handler (Option Accepted) :=
  match NewNip47Cipher L.toNostr encryption x.app.appPubkey x.appWalletPrivKey with
  | .error cipherErr => do
    let _ ← ask (.updateRequestState x.requestEventId "error")
    match nip44Cipher L x with
    | .error _ => return none
    | .ok cipher => do
      publishError L x cipher ⟨"UNSUPPORTED_ENCRYPTION", cipherErr⟩
      return none
  | .ok cipher => acceptContent L x cipher

/-- Reference: `nip47/event_handler.go:111 HandleEvent`. -/
def acceptEncrypted (x : Context) : Handler (Option Accepted) := do
  let encryption ← requestEncryption L x.event
  acceptEncryption L x encryption

/-- What `HandleEvent` does before the controller. Reference: `nip47/event_handler.go:26
HandleEvent`. -/
def accept (lnClientStarted : Bool) (event : NostrEvent) : Handler (Option Accepted) :=
  match L.checkSignature event with
  | .error _ | .ok false => return none
  | .ok true =>
    if lnClientStarted = false then return none else do
    match ← ask (.createRequestEvent event.id) with
    | .error _ => return none
    | .ok requestEventId =>
      match ← ask (.firstApp event.pubKey) with
      | .error _ => return none
      | .ok app => do
        let now ← ask (.service .now)
        let _ ← ask (.updateLastUsedAt app.id now)
        match AlbyHub.appWalletPrivKey L.toNostr app with
        | .error _ => return none
        | .ok appWalletPrivKey =>
          acceptEncrypted L ⟨event, requestEventId, app, appWalletPrivKey⟩

/-- The controller, if the request is accepted. Reference: `nip47/event_handler.go:395
HandleEvent`. -/
def handleAccepted : Option Accepted → Handler Unit
  | none => return ()
  | some a => a.handle L W

end

section
variable {L : Library} {W : World} {x : Context} {cipher : Nip47Cipher}

theorem then_none (p : Handler Unit) : ((do p; return none) >>= handleAccepted L W) = p := by
  induction p with
  | ret a => rfl
  | cmd c k ih =>
    show Prog.cmd c _ = Prog.cmd c k
    congr 1
    funext r
    exact ih r

theorem bind_congr {α β : Type} {p : Handler α} {f g : α → Handler β} (h : ∀ a, f a = g a) :
    (p >>= f) = (p >>= g) :=
  congrArg (p >>= ·) (funext h)

theorem handleRequest_eq (request : Request) : handleRequest L W x cipher request =
    acceptRequest L x cipher request >>= handleAccepted L W := by
  unfold handleRequest acceptRequest
  split
  · rfl
  · cases RequestMethodToScope request.method with
    | error e => exact (then_none _).symm
    | ok scope =>
      simp only
      rw [Prog.bind_assoc]
      refine bind_congr fun now => ?_
      split
      · rfl
      · rw [Prog.bind_assoc]
        refine bind_congr fun turn => ?_
        obtain ⟨granted, code, message⟩ := HasPermission turn x.app scope
        cases granted with
        | true => rfl
        | false =>
          simp only
          rw [Prog.bind_assoc]
          exact bind_congr fun _ => (then_none _).symm

theorem handleContent_eq : handleContent L W x cipher =
    acceptContent L x cipher >>= handleAccepted L W := by
  unfold handleContent acceptContent
  rw [Prog.bind_assoc]
  refine bind_congr fun r => ?_
  cases r with
  | error e =>
    simp only
    rw [Prog.bind_assoc]
    refine bind_congr fun _ => ?_
    rw [Prog.bind_assoc]
    rfl
  | ok _ =>
    cases Decrypt L cipher x.event.content with
    | error decryptionErr =>
      simp only
      rw [Prog.bind_assoc]
      refine bind_congr fun _ => ?_
      cases nip44Cipher L x with
      | error _ => rfl
      | ok cipher => exact (then_none _).symm
    | ok payload =>
      cases hrequest : L.unmarshalRequest payload with
      | error _ =>
        simp only [hrequest]
        rw [Prog.bind_assoc]
        rfl
      | ok request =>
        simp only [hrequest]
        rw [Prog.bind_assoc]
        exact bind_congr fun _ => handleRequest_eq request

theorem handleEncrypted_eq : handleEncrypted L W x =
    acceptEncrypted L x >>= handleAccepted L W := by
  unfold handleEncrypted acceptEncrypted
  rw [Prog.bind_assoc]
  refine bind_congr fun encryption => ?_
  unfold acceptEncryption
  cases NewNip47Cipher L.toNostr encryption x.app.appPubkey x.appWalletPrivKey with
  | error cipherErr =>
    simp only
    rw [Prog.bind_assoc]
    refine bind_congr fun _ => ?_
    cases nip44Cipher L x with
    | error _ => rfl
    | ok cipher => exact (then_none _).symm
  | ok cipher => exact handleContent_eq

/-- The handler is what accepts a request, and then its controller. Reference:
`nip47/event_handler.go:26 HandleEvent`. -/
theorem HandleEvent_eq (lnClientStarted : Bool) (event : NostrEvent) :
    HandleEvent L W lnClientStarted event =
      accept L lnClientStarted event >>= handleAccepted L W := by
  unfold HandleEvent accept
  cases L.checkSignature event with
  | error _ => rfl
  | ok valid =>
    cases valid with
    | false => rfl
    | true =>
      cases lnClientStarted with
      | false => rfl
      | true =>
        refine (bind_congr fun r => ?_).trans (Prog.bind_assoc _ _ _).symm
        cases r with
        | error _ => rfl
        | ok requestEventId =>
          refine (bind_congr fun r => ?_).trans (Prog.bind_assoc _ _ _).symm
          cases r with
          | error _ => rfl
          | ok app =>
            refine (bind_congr fun now => ?_).trans (Prog.bind_assoc _ _ _).symm
            refine (bind_congr fun _ => ?_).trans (Prog.bind_assoc _ _ _).symm
            cases AlbyHub.appWalletPrivKey L.toNostr app with
            | error _ => rfl
            | ok appWalletPrivKey => exact handleEncrypted_eq

end

end AlbyHub.EventHandler
