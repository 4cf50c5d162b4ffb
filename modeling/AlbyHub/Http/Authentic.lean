import AlbyHub.Config.OnePassword
import AlbyHub.Http.Sessions

/-!
# Every request is served with a token of the present password

Three things are kept by the steps of a run that keeps logins and changes of the password apart. The
trace is in order (`Ledger`); the secret in memory, the one in the table and those in the cache are
not those of a token from before the last change (`HttpHub.Kept`); and so are the secrets that a
login under way has read or generated (`LearnedSecret`). So a token that verifies was given out
since the last change of the password (`sessions_authentic`).
-/

namespace AlbyHub

open Go Interaction

/-! ## The trace -/

/-- A token that was given out is the signature of its claims. Reference:
`http/http_service.go:455 createJWT`. -/
structure Session.Valid (J : Jwt) (session : Session) : Prop where
  secret : session.secret ≠ ""
  token : session.token = J.SignedString session.claims session.secret
  permission : session.claims.Permission ∈ ["full", "readonly"]
  expiry : session.claims.ExpiresAt =
    (session.issuedAt + sessionLength session.expiryDays) / 10 ^ 9

/-- A trace in order. Reference: none. -/
structure Ledger (J : Jwt) (trace : List SessionEvent) : Prop where
  valid : ∀ session, .issued session ∈ trace → session.Valid J
  checked : ∀ session, .issued session ∈ sinceChange trace →
    .checked session.unlockPassword ∈ sinceChange trace
  authentic : AuthenticTrace trace

/-- The secret is not that of a token from before the last change. Reference: none. -/
def Current (trace : List SessionEvent) (secret : String) : Prop :=
  ∀ session, .issued session ∈ trace → session.secret = secret →
    .issued session ∈ sinceChange trace

section
variable {J : Jwt} {trace earlier : List SessionEvent} {e e' : SessionEvent} {secret : String}
variable {session : Session}

theorem sinceChange_cons (he : e ≠ .changed) :
    sinceChange (e :: earlier) = e :: sinceChange earlier := if_neg he

theorem mem_sinceChange_cons (he : e ≠ .changed) (h : e' ∈ sinceChange earlier) :
    e' ∈ sinceChange (e :: earlier) := by
  rw [sinceChange_cons he]
  exact List.mem_cons_of_mem e h

theorem mem_of_mem_sinceChange (h : e ∈ sinceChange trace) : e ∈ trace := by
  induction trace with
  | nil => exact h
  | cons e' trace ih =>
    rw [sinceChange] at h
    split at h
    · cases h
    · rcases List.mem_cons.1 h with rfl | h
      · exact List.mem_cons_self
      · exact List.mem_cons_of_mem e' (ih h)

/-- A secret stays current until the next change. Reference: none. -/
theorem Current.cons (h : Current trace secret) (he : e ≠ .changed) :
    Current (e :: trace) secret := by
  intro session hs hsecret
  rw [sinceChange_cons he]
  rcases List.mem_cons.1 hs with rfl | hs
  · exact List.mem_cons_self
  · exact List.mem_cons_of_mem e (h session hs hsecret)

theorem mem_issuedSessions : session ∈ issuedSessions trace ↔ .issued session ∈ trace := by
  rw [issuedSessions, List.mem_filterMap]
  constructor
  · rintro ⟨e, he, hs⟩
    cases e with
    | issued session' => exact Option.some.inj hs ▸ he
    | _ => cases hs
  · exact fun h => ⟨_, h, rfl⟩

theorem Ledger.current_empty (h : Ledger J trace) : Current trace "" :=
  fun session hs hsecret => absurd hsecret (h.valid session hs).secret

theorem AuthenticTrace.cons (h : AuthenticTrace trace) (he : e.Authentic trace) :
    AuthenticTrace (e :: trace) := by
  intro later e' earlier heq
  cases later with
  | nil =>
    obtain ⟨rfl, rfl⟩ := List.cons.inj heq
    exact he
  | cons e'' later =>
    obtain ⟨-, hrest⟩ := List.cons.inj heq
    exact h later e' earlier hrest

/-- An event that gives out no token. Reference: none. -/
theorem Ledger.cons (h : Ledger J trace) (he : e.Authentic trace)
    (hissued : ∀ session, e ≠ .issued session) : Ledger J (e :: trace) where
  valid session hs := by
    rcases List.mem_cons.1 hs with heq | hs
    · exact absurd heq.symm (hissued session)
    · exact h.valid session hs
  checked session hs := by
    rw [sinceChange] at hs ⊢
    split at hs
    · cases hs
    · next hne =>
      rw [if_neg hne]
      rcases List.mem_cons.1 hs with heq | hs
      · exact absurd heq.symm (hissued session)
      · exact List.mem_cons_of_mem e (h.checked session hs)
  authentic := h.authentic.cons he

/-- A token is given out. Reference: `http/http_service.go:455 createJWT`. -/
theorem Ledger.issue (h : Ledger J trace) (hvalid : session.Valid J)
    (hchecked : .checked session.unlockPassword ∈ sinceChange trace) :
    Ledger J (.issued session :: trace) where
  valid session' hs := by
    rcases List.mem_cons.1 hs with heq | hs
    · obtain rfl := SessionEvent.issued.inj heq
      exact hvalid
    · exact h.valid session' hs
  checked session' hs := by
    rw [sinceChange_cons SessionEvent.noConfusion] at hs ⊢
    refine List.mem_cons_of_mem _ ?_
    rcases List.mem_cons.1 hs with heq | hs
    · obtain rfl := SessionEvent.issued.inj heq
      exact hchecked
    · exact h.checked session' hs
  authentic := h.authentic.cons trivial

/-- A token that verifies under a current secret. Reference: `http/http_service.go:126
RegisterSharedRoutes`. -/
theorem Ledger.grant (hJ : J.Ideal) (h : Ledger J trace) {s : HubConfig} {token : String}
    {claims : JwtCustomClaims} {now : Int} (hcurrent : Current trace s.jwtSecret)
    (hverify : verifyToken J s token now = some claims)
    (hunforged : ∃ session ∈ issuedSessions trace, session.token = token) :
    (SessionEvent.granted token claims now).Authentic trace := by
  obtain ⟨session, hs, rfl⟩ := hunforged
  rw [mem_issuedSessions] at hs
  have hvalid := h.valid session hs
  rw [verifyToken, HubConfig.GetJWTSecret] at hverify
  split at hverify
  · cases hverify
  · next secret hsecret =>
    split at hsecret
    · cases hsecret
    · obtain rfl := Except.ok.inj hsecret
      obtain ⟨hparse, hnow⟩ := Option.filter_eq_some_iff.1 hverify
      rw [hvalid.token] at hparse
      obtain ⟨hsecret, rfl⟩ := hJ.of_parse _ _ _ _ hparse
      have hsince := hcurrent session hs hsecret.symm
      refine ⟨session, hsince, rfl, rfl, h.checked session hsince, ?_⟩
      have hlt := of_decide_eq_true hnow
      rw [hvalid.expiry] at hlt
      omega

/-- A request is handled with a token that was let through. Reference: `http/http_service.go:385
requireFullAccess`. -/
theorem Ledger.serve (h : Ledger J trace) {route : Route} {token : String}
    {claims : JwtCustomClaims} {now : Int} (hgranted : .granted token claims now ∈ trace)
    (hroute : route ∈ restrictedRoutes)
    (hfull : route.fullAccess = true → claims.Permission = "" ∨ claims.Permission = "full") :
    (SessionEvent.served route token).Authentic trace := by
  refine ⟨claims, now, hgranted, fun hf => ?_⟩
  have hneeds : route.fullAccess = true := hf.elim id (fullAccess_of_method route hroute)
  refine (hfull hneeds).resolve_left fun hempty => ?_
  obtain ⟨earlier, later, rfl⟩ := List.append_of_mem hgranted
  obtain ⟨session, hs, -, rfl, -⟩ := h.authentic _ _ _ rfl
  have hmem : .issued session ∈ earlier ++ .granted token session.claims now :: later :=
    List.mem_append_right _ (List.mem_cons_of_mem _ (mem_of_mem_sinceChange hs))
  have hpermission := (h.valid session hmem).permission
  rw [hempty] at hpermission
  exact absurd hpermission (by decide)

end

/-! ## What the calls do in order -/

/-- A check of the password has succeeded. Reference: `config/config.go:408 CheckUnlockPassword`. -/
def HttpChecked (h : List HttpCall) (unlockPassword : String) : Prop :=
  (⟨.config (.get "UnlockPasswordCheck" unlockPassword), .ok unlockPasswordCheck⟩ : HttpCall) ∈ h

/-- The secret was generated, or was read under a password that was checked. Reference:
`config/config.go:163 LoadJWTSecret`. -/
def Drawn (h : List HttpCall) (secret : String) : Prop :=
  (⟨.config (.outside "randomHex"), .ok secret⟩ : HttpCall) ∈ h ∨
  secret ≠ "" ∧ ∃ encryptionKey, HttpChecked h encryptionKey ∧
    (⟨.config (.get "JWTSecret" encryptionKey), .ok secret⟩ : HttpCall) ∈ h

/-- The command that may follow a history. Reference: `http/http_service.go`, `config/config.go`. -/
def sessionOk (J : Jwt) (op : HttpOp) (h : List HttpCall) : HttpCmd → Prop
  | .config (.get key _) => key = "JWTSecret" → op.isLogin = true
  | .config (.create onConflict key value encryptionKey) =>
    Guarded onConflict key value encryptionKey ∧
      (key = "JWTSecret" → op.isLogin = true ∧ HttpChecked h encryptionKey ∧ Drawn h value)
  | .config (.deleteCache _) => ∀ keys, droppedEntries h = some keys → op.isLogin = false
  | .config (.changePasswordTx keys _ new) => op.isLogin = false ∧ new ≠ "" ∧
    droppedEntries h = some keys.reverse
  | .config (.setJwtSecret secret) =>
    (op.isLogin = false ∧ secret = "" ∧
      ∃ keys old new h', h = ⟨.config (.changePasswordTx keys old new), .ok ()⟩ :: h') ∨
    (op.isLogin = true ∧ Drawn h secret)
  | .issue session => op.isLogin = true ∧ session.Valid J ∧ HttpChecked h session.unlockPassword
  | .handle route token => route ∈ restrictedRoutes ∧
    ∃ claims, (⟨.verify token, some claims⟩ : HttpCall) ∈ h ∧
      (route.fullAccess = true → claims.Permission = "" ∨ claims.Permission = "full")
  | _ => True

/-- A call may stop anywhere. Reference: none. -/
def anyPost {α : Type} (_ : List HttpCall) (_ : α) : Prop := True

section
variable {J : Jwt} {op : HttpOp} {h : List HttpCall} {α β : Type}
variable {post : List HttpCall → α → Prop} {out : List HttpCall → β → Prop}
variable {key value encryptionKey : String}

theorem onConfig_bind (p : Cfg α) (f : α → Cfg β) :
    onConfig (p >>= f) = (onConfig p >>= fun a => onConfig (f a)) :=
  @Prog.relabel_bind ConfigCmd α β HttpCmd HttpCmd.Ans HttpCmd.config p f

/-- The rule of a command of the configuration. Reference: none. -/
theorem follows_onConfig {c : ConfigCmd} {f : c.Ans → Cfg α} (hc : sessionOk J op h (.config c))
    (hf : ∀ r, Follows (sessionOk J op) post (⟨.config c, r⟩ :: h) (onConfig (f r))) :
    Follows (sessionOk J op) post h (onConfig (cfgAsk c >>= f)) :=
  ⟨hc, hf⟩

/-- The rule of a command of the service. Reference: none. -/
theorem follows_httpAsk {c : HttpCmd} {f : c.Ans → HttpProg β} (hc : sessionOk J op h c)
    (hf : ∀ r, Follows (sessionOk J op) out (⟨c, r⟩ :: h) (f r)) :
    Follows (sessionOk J op) out h (httpAsk c >>= f) :=
  ⟨hc, hf⟩

/-- The rule of a program of the configuration that is followed by another. Reference: none. -/
theorem follows_onConfig_bind {p : Cfg α} {f : α → Cfg β}
    (hp : Follows (sessionOk J op) post h (onConfig p))
    (hf : ∀ h' a, h <:+ h' → post h' a → Follows (sessionOk J op) out h' (onConfig (f a))) :
    Follows (sessionOk J op) out h (onConfig (p >>= f)) := by
  rw [onConfig_bind]
  exact hp.bind hf

theorem follows_check {password : String} :
    Follows (sessionOk J op) (fun h b => b = true → HttpChecked h password) h
      (onConfig (CheckUnlockPassword password)) := by
  refine follows_onConfig (fun hk => absurd hk (by decide)) fun r => ?_
  cases r with
  | error e => exact fun hb => Bool.noConfusion hb
  | ok value =>
    intro hb
    have hv : value = unlockPasswordCheck := by
      rw [Bool.and_eq_true] at hb
      exact of_decide_eq_true hb.2
    rw [hv]
    exact List.mem_cons_self

/-- A whole write. Reference: `config/config.go:287 set`. -/
theorem follows_write {onConflict : OnConflict}
    (hok : sessionOk J op h (.config (.create onConflict key value encryptionKey))) :
    Follows (sessionOk J op) anyPost h (onConfig (cfgSet onConflict key value encryptionKey)) := by
  refine follows_onConfig hok fun r => ?_
  cases r with
  | error e => exact trivial
  | ok _ =>
    refine follows_onConfig (fun keys hk => ?_) fun _ => trivial
    cases hk

/-- The loop of a change drops the entries of its rows. Reference: `config/config.go:305 set`. -/
theorem follows_dropped {keys dropped : List String} (hlogin : op.isLogin = false)
    (hopen : droppedEntries h = some dropped) :
    Follows (sessionOk J op) (fun h' _ => droppedEntries h' = some (keys.reverse ++ dropped)) h
      (onConfig (dropEntries keys)) := by
  induction keys generalizing h dropped with
  | nil => exact hopen
  | cons key keys ih =>
    have hnext : droppedEntries (⟨.config (.deleteCache key), ()⟩ :: h) =
        some (key :: dropped) := by
      rw [droppedEntries, hopen]
      rfl
    rw [List.reverse_cons, List.append_assoc]
    exact follows_onConfig (fun _ _ => hlogin) fun _ => ih hnext

theorem HttpChecked.suffix {h' : List HttpCall} {password : String} (hc : HttpChecked h password)
    (hs : h <:+ h') : HttpChecked h' password := hs.subset hc

theorem follows_load (hlogin : op.isLogin = true) :
    Follows (sessionOk J op) anyPost h (onConfig (LoadJWTSecret encryptionKey)) := by
  refine follows_onConfig_bind follows_check fun h₁ b _ hchecked => ?_
  cases b with
  | false => exact trivial
  | true =>
    have hc := hchecked rfl
    refine follows_onConfig trivial fun loaded => ?_
    split
    · exact trivial
    · refine follows_onConfig (fun _ => hlogin) fun r => ?_
      cases r with
      | error e => exact trivial
      | ok encryptedJwtSecret =>
        refine follows_onConfig (fun _ => hlogin) fun r => ?_
        cases r with
        | error e => exact trivial
        | ok jwtSecret =>
          have hc' : ∀ a b c, HttpChecked (a :: b :: c :: h₁) encryptionKey := fun a b c =>
            hc.suffix ⟨[a, b, c], rfl⟩
          dsimp only
          split
          · -- a new secret is generated and saved
            refine follows_onConfig trivial fun r => ?_
            cases r with
            | error e => exact trivial
            | ok hexSecret =>
              refine follows_onConfig_bind (follows_write ⟨?_, fun _ => ⟨hlogin, ?_, ?_⟩⟩)
                fun h₂ r hs _ => ?_
              · exact ⟨OnConflict.noConfusion, by decide, fun hk => absurd hk (by decide)⟩
              · exact List.mem_cons_of_mem _ (hc' _ _ _)
              · exact .inl List.mem_cons_self
              · cases r with
                | error e => exact trivial
                | ok _ =>
                  refine follows_onConfig (.inr ⟨hlogin, .inl ?_⟩) fun _ => trivial
                  exact hs.subset List.mem_cons_self
          · next hne =>
            refine follows_onConfig (.inr ⟨hlogin, .inr ⟨fun he => hne (.inl he), encryptionKey,
              hc' _ _ _, List.mem_cons_self⟩⟩) fun _ => trivial

theorem follows_changeConfig {old new : String} (hlogin : op.isLogin = false) :
    Follows (sessionOk J op) anyPost h (onConfig (ChangeUnlockPassword old new)) := by
  unfold ChangeUnlockPassword
  split
  · exact trivial
  · next hnew =>
    refine follows_onConfig_bind follows_check fun h₁ b _ _ => ?_
    cases b with
    | false => exact trivial
    | true =>
      refine follows_onConfig trivial fun keys => ?_
      refine follows_onConfig_bind (follows_dropped hlogin rfl) fun h₂ _ _ hdropped => ?_
      rw [List.append_nil] at hdropped
      refine follows_onConfig ⟨hlogin, hnew, hdropped⟩ fun r => ?_
      cases r with
      | error e => exact trivial
      | ok _ => exact follows_onConfig (.inl ⟨hlogin, rfl, keys, old, new, _, rfl⟩) fun _ => trivial

theorem follows_change {old new : String} (hlogin : op.isLogin = false) :
    Follows (sessionOk J op) anyPost h (onConfig (apiChangeUnlockPassword old new)) := by
  refine follows_onConfig trivial fun r => ?_
  cases r with
  | error e => exact trivial
  | ok _ =>
    refine follows_onConfig (fun hk => absurd hk (by decide)) fun r => ?_
    cases r with
    | error e => exact trivial
    | ok autoUnlockPassword =>
      dsimp only
      split
      · exact trivial
      · refine follows_onConfig_bind (follows_changeConfig hlogin) fun h₁ r _ _ => ?_
        cases r with
        | error e => exact trivial
        | ok _ =>
          refine follows_onConfig trivial fun r => ?_
          cases r <;> exact trivial

theorem follows_createJWT {unlockPassword permission : String}
    {tokenExpiryDays : Option UInt64} (hlogin : op.isLogin = true)
    (hc : HttpChecked h unlockPassword) :
    Follows (sessionOk J op) anyPost h
      (createJWT J unlockPassword tokenExpiryDays permission) := by
  unfold createJWT
  split
  · exact trivial
  · next hpermission =>
    refine follows_httpAsk trivial fun now => ?_
    refine follows_httpAsk (c := .config .getJwtSecret) trivial fun secret => ?_
    split
    · exact trivial
    · next hsecret =>
      refine follows_httpAsk ⟨hlogin, ⟨hsecret, rfl, not_not.1 hpermission, rfl⟩, ?_⟩
        fun _ => trivial
      exact hc.suffix ⟨[_, _], rfl⟩

theorem follows_restricted {fullAccess : Bool} {token : Option String}
    {handler : String → HttpProg HttpAnswer}
    (hf : ∀ h token claims, (⟨.verify token, some claims⟩ : HttpCall) ∈ h →
      (fullAccess = true → claims.Permission = "" ∨ claims.Permission = "full") →
        Follows (sessionOk J op) anyPost h (handler token)) :
    Follows (sessionOk J op) anyPost h (restricted fullAccess token handler) := by
  cases token with
  | none => exact trivial
  | some token =>
    refine follows_httpAsk trivial fun claims => ?_
    cases claims with
    | none => exact trivial
    | some claims =>
      dsimp only
      split
      · exact trivial
      · next hpermits =>
        refine hf _ token claims List.mem_cons_self fun hfull => ?_
        by_contra hne
        exact hpermits ⟨hfull, fun he => hne (.inl he), fun he => hne (.inr he)⟩

theorem follows_answerConfig {p : Cfg (Except ConfigErr α)}
    (hp : Follows (sessionOk J op) anyPost h (onConfig p)) :
    Follows (sessionOk J op) anyPost h (answerConfig p) := by
  refine hp.bind fun h' r _ _ => ?_
  cases r <;> exact trivial

/-- Every call follows the order. Reference: `http/http_service.go`. -/
theorem follows_httpBody (hop : op.Guarded) :
    Follows (sessionOk J op) anyPost [] (op.body J) := by
  cases op with
  | start unlockPassword =>
    refine follows_check.bind fun h₁ b _ hchecked => ?_
    cases b with
    | false => exact trivial
    | true =>
      refine (follows_load rfl).bind fun h₂ r hs _ => ?_
      cases r with
      | error e => exact trivial
      | ok _ =>
        exact (follows_createJWT rfl ((hchecked rfl).suffix hs)).bind fun _ _ _ _ => trivial
  | unlock unlockRequest =>
    refine follows_check.bind fun h₁ b _ hchecked => ?_
    cases b with
    | false => exact trivial
    | true =>
      dsimp only
      split
      · exact trivial
      · split
        · exact trivial
        · refine follows_httpAsk (c := .config (.outside "GetNodeStatus")) trivial fun r => ?_
          split
          · exact trivial
          · exact trivial
          · refine (follows_createJWT rfl ?_).bind fun _ _ _ _ => trivial
            exact (hchecked rfl).suffix ⟨[_], rfl⟩
  | request method path token =>
    rw [HttpOp.body]
    split
    · exact trivial
    · next route hroute =>
      refine follows_restricted fun h token claims hmem hpermits => ?_
      exact follows_httpAsk ⟨List.mem_of_find?_eq_some hroute, claims, hmem, hpermits⟩
        fun _ => trivial
  | changeUnlockPassword token old new =>
    refine follows_restricted fun h token claims hmem hpermits => ?_
    refine follows_httpAsk ⟨by decide, claims, hmem, hpermits⟩ fun _ => ?_
    refine (follows_change rfl).bind fun h' r _ _ => ?_
    cases r <;> exact trivial
  | loadJWTSecret encryptionKey => exact follows_answerConfig (follows_load rfl)
  | read key encryptionKey =>
    refine follows_answerConfig ⟨fun hk => absurd hk hop, fun _ => trivial⟩
  | write onConflict key value encryptionKey =>
    exact follows_answerConfig (follows_write ⟨hop.1, fun hk => absurd hk hop.2⟩)
  | reboot => exact follows_httpAsk (c := .config .reboot) trivial fun _ => trivial

end

/-! ## The secrets -/

/-- What the state keeps: the canary and the JWT secret are encrypted, and the secrets in memory, in
the table and under a password in the cache are current. Reference: none. -/
structure HttpHub.Kept (A : Aead) (s : HttpHub) : Prop where
  sealed : s.config.table.Sealed A
  encrypted : ∀ key r, key = "UnlockPasswordCheck" ∨ key = "JWTSecret" →
    s.config.table.row key = some r → r.encrypted = true
  blank : s.config.cache "UnlockPasswordCheck" "" ≠ some unlockPasswordCheck
  memory : Current s.trace s.config.jwtSecret
  stored : ∀ r password plaintext, s.config.table.row "JWTSecret" = some r →
    r.Under A password plaintext → Current s.trace plaintext
  cached : ∀ hash value, hash ≠ "" → s.config.cache "JWTSecret" hash = some value →
    Current s.trace value
  absent : s.config.table.row "JWTSecret" = none → ∀ hash value,
    s.config.cache "JWTSecret" hash = some value → value = ""

/-- What a call of a login says of the trace. Reference: `config/config.go:163 LoadJWTSecret`. -/
def LearnedSecret (trace : List SessionEvent) : HttpCall → Prop
  | ⟨.config (.get key encryptionKey), .ok value⟩ =>
    (key = "UnlockPasswordCheck" → value = unlockPasswordCheck →
      encryptionKey ≠ "" ∧ .checked encryptionKey ∈ sinceChange trace) ∧
    (key = "JWTSecret" → encryptionKey ≠ "" → Current trace value)
  | ⟨.config (.outside what), .ok secret⟩ =>
    what = "randomHex" → secret ≠ "" ∧ Current trace secret
  | _ => True

section
variable {A : Aead} {J : Jwt} {s s' : HttpHub} {config config' : HubConfig} {op : HttpOp}
variable {h : List HttpCall} {trace : List SessionEvent} {e : SessionEvent} {env : ConfigEnv}
variable {key value encryptionKey secret : String} {t : ConfigTable}

theorem LearnedSecret.cons {call : HttpCall} (hl : LearnedSecret trace call) (he : e ≠ .changed) :
    LearnedSecret (e :: trace) call := by
  obtain ⟨c, a⟩ := call
  unfold LearnedSecret at hl ⊢
  split at hl
  · refine ⟨fun hk hv => ?_, fun hk hne => (hl.2 hk hne).cons he⟩
    obtain ⟨hne, hmem⟩ := hl.1 hk hv
    exact ⟨hne, mem_sinceChange_cons he hmem⟩
  · exact fun hk => ⟨(hl hk).1, (hl hk).2.cons he⟩
  · trivial

/-- A password that was checked is not empty. Reference: `config/config.go:408
CheckUnlockPassword`. -/
theorem HttpChecked.learned (hc : HttpChecked h encryptionKey)
    (hl : ∀ call ∈ h, LearnedSecret trace call) :
    encryptionKey ≠ "" ∧ .checked encryptionKey ∈ sinceChange trace :=
  (hl _ hc).1 rfl rfl

theorem Drawn.learned (hd : Drawn h secret) (hl : ∀ call ∈ h, LearnedSecret trace call) :
    secret ≠ "" ∧ Current trace secret := by
  rcases hd with hgenerated | ⟨hne, encryptionKey, hc, hread⟩
  · exact (hl _ hgenerated) rfl
  · exact ⟨hne, (hl _ hread).2 rfl (hc.learned hl).1⟩

/-- An event that is not a change leaves the secrets current. Reference: none. -/
theorem HttpHub.Kept.event (hk : s.Kept A) (he : e ≠ .changed) :
    HttpHub.Kept A { s with trace := e :: s.trace } where
  sealed := hk.sealed
  encrypted := hk.encrypted
  blank := hk.blank
  memory := hk.memory.cons he
  stored r password plaintext hr hu := (hk.stored r password plaintext hr hu).cons he
  cached hash value hne hc := (hk.cached hash value hne hc).cons he
  absent := hk.absent

/-- Nothing is added to the cache, and the table is as it was. Reference: none. -/
theorem HttpHub.Kept.forget (hk : HttpHub.Kept A ⟨config, trace⟩)
    (htable : config'.table = config.table) (hsecret : Current trace config'.jwtSecret)
    (hcache : ∀ key hash value, config'.cache key hash = some value →
      config.cache key hash = some value) : HttpHub.Kept A ⟨config', trace⟩ where
  sealed := htable ▸ hk.sealed
  encrypted := htable ▸ hk.encrypted
  blank hb := hk.blank (hcache _ _ _ hb)
  memory := hsecret
  stored := htable ▸ hk.stored
  cached hash value hne hc := hk.cached hash value hne (hcache _ _ _ hc)
  absent hrow hash value hc := hk.absent (htable ▸ hrow) hash value (hcache _ _ _ hc)

/-- What the table has of the canary without a password is not the text. Reference:
`config/config.go:408 CheckUnlockPassword`. -/
theorem HttpHub.Kept.get_blank (hA : A.Ideal) (hk : HttpHub.Kept A ⟨config, trace⟩) {n : Nat}
    (hget : config.table.get A n "UnlockPasswordCheck" "" = .ok value) :
    value ≠ unlockPasswordCheck := by
  rw [ConfigTable.get_eq A (by decide)] at hget
  split at hget
  · obtain rfl := Except.ok.inj hget
    decide
  · next r hrow =>
    have hmem := (ConfigTable.mem_of_row hrow).1
    obtain ⟨password, plaintext, hu⟩ := (hk.sealed r hmem).2 (hk.encrypted _ r (.inl rfl) hrow)
    rcases hu.of_read hA hget with ⟨-, rfl⟩ | ⟨rfl, -⟩
    · exact hu.2.ne_unlockPasswordCheck hA
    · exact absurd rfl hu.2.1

/-- What the table has of the secret under a password is current. Reference: `config/config.go:181
LoadJWTSecret`. -/
theorem HttpHub.Kept.get_secret (hA : A.Ideal) (hk : HttpHub.Kept A ⟨config, trace⟩)
    (hledger : Ledger J trace) {n : Nat} (hne : encryptionKey ≠ "")
    (hget : config.table.get A n "JWTSecret" encryptionKey = .ok value) : Current trace value := by
  rw [ConfigTable.get_eq A (by decide)] at hget
  split at hget
  · obtain rfl := Except.ok.inj hget
    exact hledger.current_empty
  · next r hrow =>
    have hmem := (ConfigTable.mem_of_row hrow).1
    obtain ⟨password, plaintext, hu⟩ := (hk.sealed r hmem).2 (hk.encrypted _ r (.inr rfl) hrow)
    rcases hu.of_read hA hget with ⟨hempty, -⟩ | ⟨-, rfl⟩
    · exact absurd hempty hne
    · exact hk.stored r password value hrow hu

theorem getEncryptionKeyHash_eq_empty (hA : A.Ideal) :
    getEncryptionKeyHash A encryptionKey = "" ↔ encryptionKey = "" := by
  unfold getEncryptionKeyHash
  split
  · next he => simp [he]
  · next hne => exact ⟨fun h => absurd h (hA.prefix_ne _), fun h => absurd h hne⟩

/-- A read keeps the secrets current, and what it says is learned. Reference: `config/config.go:242
Get`. -/
theorem HttpHub.Kept.get (hA : A.Ideal) (hk : HttpHub.Kept A ⟨config, trace⟩)
    (hledger : Ledger J trace) {a : Except ConfigErr String}
    (hx : configExec A config (.get key encryptionKey) env = some (a, config')) :
    HttpHub.Kept A ⟨config', trace⟩ ∧ ∀ v, a = .ok v →
      (key = "UnlockPasswordCheck" → v = unlockPasswordCheck → encryptionKey ≠ "") ∧
      (key = "JWTSecret" → encryptionKey ≠ "" → Current trace v) := by
  have hhash : getEncryptionKeyHash A encryptionKey = "" ↔ encryptionKey = "" :=
    getEncryptionKeyHash_eq_empty hA
  rcases exec_get hx with ⟨rfl, hhit⟩ | ⟨v, rfl, hget, rfl⟩
  · refine ⟨hk, fun v ha => ⟨fun hkey hv he => ?_, fun hkey hne => ?_⟩⟩
    · have hc := hhit v ha
      rw [hhash.2 he, hkey, hv] at hc
      exact hk.blank hc
    · exact hk.cached _ v (fun he => hne (hhash.1 he)) (hkey ▸ hhit v ha)
  · have hcanary : key = "UnlockPasswordCheck" → v = unlockPasswordCheck → encryptionKey ≠ "" := by
      rintro rfl hv rfl
      exact hk.get_blank hA hget hv
    have hsecret : key = "JWTSecret" → encryptionKey ≠ "" → Current trace v := by
      rintro rfl hne
      exact hk.get_secret hA hledger hne hget
    refine ⟨⟨hk.sealed, hk.encrypted, fun hb => ?_, hk.memory, hk.stored, fun hash value hne hc =>
      ?_, fun hrow hash value hc => ?_⟩, fun v' ha => ?_⟩
    · simp only at hb
      split at hb
      · next hkey =>
        exact hcanary hkey.1.symm (Option.some.inj hb) (hhash.1 hkey.2.symm)
      · exact hk.blank hb
    · simp only at hc
      split at hc
      · next hkey =>
        obtain rfl := Option.some.inj hc
        exact hsecret hkey.1.symm fun he => hne (hkey.2.trans (hhash.2 he))
      · exact hk.cached hash value hne hc
    · simp only at hc
      split at hc
      · next hkey =>
        obtain rfl := Option.some.inj hc
        rw [← hkey.1, ConfigTable.get_eq A (by decide), hrow] at hget
        exact (Except.ok.inj hget).symm
      · exact hk.absent hrow hash value hc
    · obtain rfl := Except.ok.inj ha
      exact ⟨hcanary, hsecret⟩

/-- The row of a key after a write that is stored. Reference: `config/config.go:296 set`. -/
theorem row_of_create {onConflict : OnConflict} {r r' : UserConfig}
    (hc : onConflict ≠ .doUpdateValue) (hr : (t.create onConflict r).row key = some r') :
    t.row key = some r' ∨ (key = r.key ∧ r' = r) := by
  by_cases hkey : key = r.key
  · subst hkey
    rw [ConfigTable.row_create] at hr
    obtain rfl := Option.some.inj hr
    cases ho : t.row r.key with
    | none => exact .inr ⟨rfl, rfl⟩
    | some old =>
      cases onConflict with
      | doNothing => exact .inl rfl
      | doUpdates => exact .inr ⟨rfl, rfl⟩
      | doUpdateValue => exact absurd rfl hc
  · rw [ConfigTable.row_create_ne hkey] at hr
    exact .inl hr

/-- A row has one plaintext. Reference: `config/config.go:276 get`. -/
theorem UserConfig.Under.plaintext_eq (hA : A.Ideal) {r : UserConfig}
    {password password' plaintext plaintext' : String} (hu : r.Under A password plaintext)
    (hu' : r.Under A password' plaintext') : plaintext' = plaintext := by
  rcases hu.of_read hA (hu'.read hA) with ⟨hempty, -⟩ | ⟨-, he⟩
  · exact absurd hempty hu'.2.1
  · exact he

/-- A statement that stores a row: the canary and the secret under a password that is not empty, the
secret one that is current. Reference: `config/config.go:287 set`. -/
theorem HttpHub.Kept.create (hA : A.Ideal) (hk : HttpHub.Kept A ⟨config, trace⟩)
    {onConflict : OnConflict} {r : UserConfig} (hg : Guarded onConflict key value encryptionKey)
    (hsecret : key = "JWTSecret" → encryptionKey ≠ "" ∧ Current trace value)
    (hr : userConfigOf A env 0 key value encryptionKey = .ok r) :
    HttpHub.Kept A ⟨{ config with table := config.table.create onConflict r }, trace⟩ := by
  obtain ⟨hc, hne, hcanary⟩ := hg
  obtain ⟨hrk, hrow⟩ := userConfigOf_ok hr
  refine ⟨hk.sealed.create hc hne hr, fun key' r' hkey' hr' => ?_, hk.blank, hk.memory,
    fun r' password plaintext hr' hu => ?_, hk.cached, fun hnone => ?_⟩
  · rcases row_of_create hc hr' with hold | ⟨rfl, rfl⟩
    · exact hk.encrypted key' r' hkey' hold
    · rw [hrk] at hkey'
      have hpassword : encryptionKey ≠ "" :=
        hkey'.elim (fun hk => (hcanary hk).2.2) fun hk => (hsecret hk).1
      exact (hrow.resolve_left fun hplain => hpassword hplain.1).1
  · rcases row_of_create hc hr' with hold | ⟨hkey, rfl⟩
    · exact hk.stored r' password plaintext hold hu
    · obtain ⟨hpassword, hcurrent⟩ := hsecret (hrk.symm.trans hkey.symm)
      have hunder := hrow.resolve_left fun hplain => hpassword hplain.1
      rw [hunder.plaintext_eq hA hu]
      exact hcurrent
  · refine hk.absent ?_
    by_cases hkey : "JWTSecret" = r.key
    · rw [hkey, ConfigTable.row_create] at hnone
      cases hnone
    · rwa [ConfigTable.row_create_ne hkey] at hnone

/-- A change is committed where nothing of the secret is in the cache. Reference:
`config/config.go:343 ChangeUnlockPassword`. -/
theorem HttpHub.Kept.commit (hk : HttpHub.Kept A ⟨config, trace⟩) {old new : String}
    (hnew : new ≠ "") (hx : changePasswordTx A env config.table old new = .ok t)
    (hdropped : ∀ hash value, config.cache "JWTSecret" hash = some value → value = "") :
    HttpHub.Kept A ⟨{ config with table := t }, trace⟩ := by
  obtain ⟨hjwt, hother, hdone⟩ := changePasswordTx_ok hnew hk.sealed hx
  refine ⟨hk.sealed.changePassword hnew hx, fun key r hkey hr => ?_, hk.blank, hk.memory,
    fun r _ _ hr => ?_, hk.cached, fun _ => hdropped⟩
  · rcases hkey with rfl | rfl
    · by_cases hmem : "UnlockPasswordCheck" ∈ config.table.encryptedRows.map (·.key)
      · obtain ⟨u, hu, hkey⟩ := List.mem_map.1 hmem
        obtain ⟨plaintext, r', -, hunder, -, hrow⟩ := hdone u hu
        rw [hkey] at hrow
        obtain rfl := Option.some.inj ((hrow (by decide)).symm.trans hr)
        exact hunder.1
      · rw [show t.row "UnlockPasswordCheck" = _ from hother _ (by decide) hmem] at hr
        exact hk.encrypted _ r (.inl rfl) hr
    · rw [hjwt] at hr
      cases hr
  · rw [hjwt] at hr
    cases hr

/-- The secret in memory is dropped at the end of a change, where none is stored. Reference:
`config/config.go:389 ChangeUnlockPassword`. -/
theorem HttpHub.Kept.changed (hk : HttpHub.Kept A ⟨config, trace⟩) (hledger : Ledger J trace)
    (hrow : config.table.row "JWTSecret" = none) :
    HttpHub.Kept A ⟨{ config with jwtSecret := "" }, .changed :: trace⟩ := by
  have hempty : Current (.changed :: trace) "" :=
    (hledger.cons (e := .changed) trivial fun _ => SessionEvent.noConfusion).current_empty
  refine ⟨hk.sealed, hk.encrypted, hk.blank, hempty, fun r _ _ hr => ?_, fun hash value _ hc => ?_,
    hk.absent⟩
  · rw [show config.table.row "JWTSecret" = some r from hr] at hrow
    cases hrow
  · rw [hk.absent hrow hash value hc]
    exact hempty

theorem dropCache_cache {p : String → Bool} {hash : String}
    (hc : (config.dropCache p).cache key hash = some value) :
    p key = false ∧ config.cache key hash = some value := by
  simp only [HubConfig.dropCache] at hc
  split at hc
  · cases hc
  · next hp => exact ⟨Bool.eq_false_iff.2 hp, hc⟩

/-- A loop over the encrypted rows leaves nothing of the secret in the cache. Reference:
`config/config.go:305 set`. -/
theorem HttpHub.Kept.dropped (hk : HttpHub.Kept A ⟨config, trace⟩)
    (hempty : "JWTSecret" ∈ config.table.encryptedRows.map (·.key) → ∀ hash,
      config.cache "JWTSecret" hash = none) {hash : String}
    (hc : config.cache "JWTSecret" hash = some value) : value = "" := by
  cases hrow : config.table.row "JWTSecret" with
  | none => exact hk.absent hrow hash value hc
  | some r =>
    obtain ⟨hmem, hkey⟩ := ConfigTable.mem_of_row hrow
    have hrows := ConfigTable.mem_encryptedRows.2 ⟨hmem, hk.encrypted _ r (.inr rfl) hrow⟩
    have hnone : some value = none :=
      hc.symm.trans (hempty (List.mem_map.2 ⟨r, hrows, hkey⟩) hash)
    cases hnone

/-! ## A step -/

/-- The events of a command of the configuration. Reference: none. -/
theorem configEvents_cases (c : ConfigCmd) (a : c.Ans) :
    configEvents c a = [] ∨
    (∃ password, (⟨c, a⟩ : ConfigCall) = ⟨.get "UnlockPasswordCheck" password,
      .ok unlockPasswordCheck⟩ ∧ configEvents c a = [.checked password]) ∨
    (c = .setJwtSecret "" ∧ configEvents c a = [.changed]) := by
  cases c with
  | get key encryptionKey =>
    cases a with
    | error e => exact .inl rfl
    | ok value =>
      rw [configEvents]
      split
      · next hcond =>
        obtain ⟨rfl, rfl⟩ := hcond
        exact .inr (.inl ⟨encryptionKey, rfl, rfl⟩)
      · exact .inl rfl
  | setJwtSecret jwtSecret =>
    rw [configEvents]
    split
    · next he => exact .inr (.inr ⟨congrArg _ he, rfl⟩)
    · exact .inl rfl
  | _ => exact .inl rfl

theorem exec_config {c : ConfigCmd} {a : c.Ans} {env : HttpEnv}
    (hx : httpExec A J s (.config c) env = some (a, s')) :
    ∃ config', configExec A s.config c env.config = some (a, config') ∧
      s' = ⟨config', configEvents c a ++ s.trace⟩ := by
  obtain ⟨⟨a', config'⟩, hr, he⟩ := Option.map_eq_some_iff.1 hx
  cases he
  exact ⟨config', hr, rfl⟩

/-- What a command adds to the trace. Reference: none. -/
theorem trace_of_exec {c : HttpCmd} {a : c.Ans} {env : HttpEnv}
    (hx : httpExec A J s c env = some (a, s')) :
    s'.trace = s.trace ∨ (∃ e, e ≠ .changed ∧ s'.trace = e :: s.trace) ∨
    (c = .config (.setJwtSecret "") ∧ s'.trace = .changed :: s.trace) := by
  cases c with
  | config c =>
    obtain ⟨config', -, rfl⟩ := exec_config hx
    rcases configEvents_cases c a with he | ⟨password, -, he⟩ | ⟨rfl, he⟩
    · exact .inl (by rw [he]; rfl)
    · exact .inr (.inl ⟨_, SessionEvent.noConfusion, by rw [he]; rfl⟩)
    · exact .inr (.inr ⟨rfl, by rw [he]; rfl⟩)
  | verify token =>
    rw [httpExec] at hx
    split at hx
    · cases hx
      exact .inl rfl
    · cases hx
      exact .inr (.inl ⟨_, SessionEvent.noConfusion, rfl⟩)
  | now => cases hx; exact .inl rfl
  | issue session => cases hx; exact .inr (.inl ⟨_, SessionEvent.noConfusion, rfl⟩)
  | handle route token =>
    cases hx
    exact .inr (.inl ⟨_, SessionEvent.noConfusion, rfl⟩)

theorem mem_trace_of_exec {c : HttpCmd} {a : c.Ans} {env : HttpEnv}
    (hx : httpExec A J s c env = some (a, s')) (he : e ∈ s.trace) : e ∈ s'.trace := by
  rcases trace_of_exec hx with h | ⟨e', -, h⟩ | ⟨-, h⟩ <;> rw [h]
  · exact he
  · exact List.mem_cons_of_mem _ he
  · exact List.mem_cons_of_mem _ he

/-- The cache of the secret is filled by the reads of a login. Reference: `config/config.go:163
LoadJWTSecret`. -/
theorem cache_of_exec {c : HttpCmd} {a : c.Ans} {env : HttpEnv} {hash : String}
    (hx : httpExec A J s c env = some (a, s'))
    (hc : ∀ encryptionKey, c ≠ .config (.get "JWTSecret" encryptionKey))
    (hv : s'.config.cache "JWTSecret" hash = some value) :
    s.config.cache "JWTSecret" hash = some value := by
  cases c with
  | config c =>
    obtain ⟨config', hconf, rfl⟩ := exec_config hx
    cases c with
    | get key encryptionKey =>
      rcases exec_get hconf with ⟨rfl, -⟩ | ⟨value', -, -, rfl⟩
      · exact hv
      · simp only at hv
        split at hv
        · next hkey => exact absurd (hkey.1 ▸ rfl) (hc encryptionKey)
        · exact hv
    | create onConflict key value encryptionKey =>
      simp only [configExec] at hconf
      split at hconf <;> cases hconf <;> exact hv
    | changePasswordTx keys old new =>
      rcases exec_changePasswordTx hconf with ⟨-, rfl⟩ | ⟨-, -, t, -, rfl⟩
      · exact hv
      · exact hv
    | deleteCache key =>
      cases hconf
      exact (dropCache_cache hv).2
    | reboot => cases hconf; cases hv
    | _ => cases hconf; exact hv
  | verify token =>
    rw [httpExec] at hx
    split at hx <;> cases hx <;> exact hv
  | _ => cases hx; exact hv

/-- A committed change has removed the secret. Reference: `config/config.go:376
ChangeUnlockPassword`. -/
theorem row_changePasswordTx {t' : ConfigTable} {old new : String}
    (h : changePasswordTx A env t old new = .ok t') : t'.row "JWTSecret" = none := by
  unfold changePasswordTx at h
  split at h
  · cases h
  · cases h
    exact ConfigTable.row_delete

/-- A secret is stored by a login. Reference: `config/config.go:163 LoadJWTSecret`. -/
theorem row_of_exec {c : HttpCmd} {a : c.Ans} {env : HttpEnv}
    (hx : httpExec A J s c env = some (a, s'))
    (hc : ∀ onConflict value encryptionKey,
      c ≠ .config (.create onConflict "JWTSecret" value encryptionKey))
    (hrow : s.config.table.row "JWTSecret" = none) :
    s'.config.table.row "JWTSecret" = none := by
  cases c with
  | config c =>
    obtain ⟨config', hconf, rfl⟩ := exec_config hx
    cases c with
    | get key encryptionKey =>
      rcases exec_get hconf with ⟨rfl, -⟩ | ⟨value', -, -, rfl⟩ <;> exact hrow
    | create onConflict key value encryptionKey =>
      simp only [configExec] at hconf
      split at hconf
      · cases hconf; exact hrow
      · cases hconf; exact hrow
      · next r _ hof =>
        cases hconf
        have hkey := (userConfigOf_ok hof).1
        have hne : "JWTSecret" ≠ r.key := fun he => hc onConflict value encryptionKey (by
          rw [← hkey, ← he])
        rw [ConfigTable.row_create_ne hne]
        exact hrow
    | changePasswordTx keys old new =>
      rcases exec_changePasswordTx hconf with ⟨-, rfl⟩ | ⟨-, -, t, htx, rfl⟩
      · exact hrow
      · exact row_changePasswordTx htx
    | _ => cases hconf; exact hrow
  | verify token =>
    rw [httpExec] at hx
    split at hx <;> cases hx <;> exact hrow
  | _ => cases hx; exact hrow

/-- What a step needs of the pool: a change finds nothing of the secret in the cache and at its end
no row, a generated secret is new, and a token that verifies is from the hub. Reference: none. -/
structure Ready (J : Jwt) (s : HttpHub) (c : HttpCmd) (env : HttpEnv) : Prop where
  dropped : ∀ keys old new, c = .config (.changePasswordTx keys old new) → "JWTSecret" ∈ keys →
    ∀ hash, s.config.cache "JWTSecret" hash = none
  committed : c = .config (.setJwtSecret "") → s.config.table.row "JWTSecret" = none
  fresh : c = .config (.outside "randomHex") → ∀ secret ∈ env.config.outside.toOption,
    secret ≠ "" ∧ ∀ session ∈ issuedSessions s.trace, session.secret ≠ secret
  unforged : ∀ token, c = .verify token → verifyToken J s.config token env.now ≠ none →
    ∃ session ∈ issuedSessions s.trace, session.token = token

/-- A disciplined command of the configuration keeps the state. Reference: `config/config.go`. -/
theorem HttpHub.Kept.execConfig (hA : A.Ideal) (hk : HttpHub.Kept A ⟨config, trace⟩)
    (hledger : Ledger J trace) {c : ConfigCmd} {a : c.Ans} {env : HttpEnv}
    (hl : op.isLogin = true → ∀ call ∈ h, LearnedSecret trace call)
    (hok : sessionOk J op h (.config c)) (hready : Ready J ⟨config, trace⟩ (.config c) env)
    (hx : configExec A config c env.config = some (a, config')) :
    HttpHub.Kept A ⟨config', configEvents c a ++ trace⟩ ∧
      LearnedSecret (configEvents c a ++ trace) ⟨.config c, a⟩ := by
  cases c with
  | get key encryptionKey =>
    obtain ⟨hk', hlearned⟩ := hk.get hA hledger hx
    rcases configEvents_cases _ a with he | ⟨password, hcall, he⟩ | ⟨hc, -⟩
    · rw [he]
      refine ⟨hk', ?_⟩
      cases a with
      | error e => exact trivial
      | ok v =>
        refine ⟨fun hkey hv => ?_, (hlearned v rfl).2⟩
        rw [configEvents, if_pos ⟨hkey, hv⟩] at he
        cases he
    · rw [he]
      cases hcall
      refine ⟨hk'.event SessionEvent.noConfusion, fun hkey hv => ⟨(hlearned _ rfl).1 hkey hv, ?_⟩,
        fun hkey => absurd hkey (by decide)⟩
      rw [List.singleton_append, sinceChange_cons SessionEvent.noConfusion]
      exact List.mem_cons_self
    · cases hc
  | create onConflict key value encryptionKey =>
    refine ⟨?_, trivial⟩
    simp only [configExec] at hx
    split at hx
    · cases hx; exact hk
    · cases hx; exact hk
    · next r _ hof =>
      cases hx
      refine hk.create hA hok.1 (fun hkey => ?_) hof
      obtain ⟨hlogin, hchecked, hdrawn⟩ := hok.2 hkey
      exact ⟨(hchecked.learned (hl hlogin)).1, (hdrawn.learned (hl hlogin)).2⟩
  | deleteCache key =>
    cases hx
    exact ⟨hk.forget rfl hk.memory fun _ _ _ hc => (dropCache_cache hc).2, trivial⟩
  | changePasswordTx keys old new =>
    refine ⟨?_, trivial⟩
    rcases exec_changePasswordTx hx with ⟨-, rfl⟩ | ⟨-, hall, t, htx, rfl⟩
    · exact hk
    · refine hk.commit hok.2.1 htx fun hash value => hk.dropped fun hmem => ?_
      exact hready.dropped keys old new rfl (hall ▸ hmem)
  | reboot =>
    cases hx
    refine ⟨hk.forget rfl hledger.current_empty fun _ _ _ hc => ?_, trivial⟩
    cases hc
  | setJwtSecret secret =>
    cases hx
    refine ⟨?_, trivial⟩
    rcases hok with ⟨-, rfl, -⟩ | ⟨hlogin, hdrawn⟩
    · exact hk.changed hledger (hready.committed rfl)
    · obtain ⟨hne, hcurrent⟩ := hdrawn.learned (hl hlogin)
      have hnone : configEvents (.setJwtSecret secret) () = [] := if_neg hne
      rw [hnone]
      exact hk.forget rfl hcurrent fun _ _ _ hc => hc
  | outside what =>
    cases hx
    refine ⟨hk, ?_⟩
    cases ha : env.config.outside with
    | error e => exact trivial
    | ok secret =>
      rintro rfl
      obtain ⟨hne, hnew⟩ := hready.fresh rfl secret (by rw [ha]; rfl)
      exact ⟨hne, fun session hs he => absurd he (hnew session (mem_issuedSessions.2 hs))⟩
  | _ =>
    cases hx
    exact ⟨hk.forget rfl hk.memory fun _ _ _ hc => hc, trivial⟩

/-- A disciplined step keeps the state and the trace in order, and what it says is learned.
Reference: `http/http_service.go`, `config/config.go`. -/
theorem HttpHub.Kept.step (hA : A.Ideal) (hJ : J.Ideal) (hk : s.Kept A) (hledger : Ledger J s.trace)
    {c : HttpCmd} {a : c.Ans} {env : HttpEnv}
    (hl : op.isLogin = true → ∀ call ∈ h, LearnedSecret s.trace call)
    (hgranted : ∀ token claims, (⟨.verify token, some claims⟩ : HttpCall) ∈ h →
      ∃ now, .granted token claims now ∈ s.trace)
    (hok : sessionOk J op h c) (hready : Ready J s c env)
    (hx : httpExec A J s c env = some (a, s')) :
    s'.Kept A ∧ Ledger J s'.trace ∧ LearnedSecret s'.trace ⟨c, a⟩ := by
  cases c with
  | config c =>
    obtain ⟨config', hconf, rfl⟩ := exec_config hx
    obtain ⟨hk', hlearned⟩ := hk.execConfig hA hledger hl hok hready hconf
    refine ⟨hk', ?_, hlearned⟩
    rcases configEvents_cases c a with he | ⟨password, -, he⟩ | ⟨-, he⟩ <;> rw [he]
    · exact hledger
    · exact hledger.cons trivial fun _ => SessionEvent.noConfusion
    · exact hledger.cons trivial fun _ => SessionEvent.noConfusion
  | now => cases hx; exact ⟨hk, hledger, trivial⟩
  | issue session =>
    cases hx
    obtain ⟨hlogin, hvalid, hchecked⟩ := hok
    have hsince := (hchecked.learned (hl hlogin)).2
    exact ⟨hk.event SessionEvent.noConfusion, hledger.issue hvalid hsince, trivial⟩
  | verify token =>
    rw [httpExec] at hx
    split at hx
    · cases hx
      exact ⟨hk, hledger, trivial⟩
    · next claims hverify =>
      cases hx
      have hgrant := hledger.grant hJ hk.memory hverify
        (hready.unforged token rfl (by rw [hverify]; exact Option.some_ne_none _))
      exact ⟨hk.event SessionEvent.noConfusion,
        hledger.cons hgrant fun _ => SessionEvent.noConfusion, trivial⟩
  | handle route token =>
    cases hx
    obtain ⟨hroute, claims, hmem, hfull⟩ := hok
    obtain ⟨now, hnow⟩ := hgranted token claims hmem
    exact ⟨hk.event SessionEvent.noConfusion,
      hledger.cons (hledger.serve hnow hroute hfull) fun _ => SessionEvent.noConfusion, trivial⟩

/-! ## The pool -/

/-- What a run keeps. Reference: none. -/
structure HttpPool.InOrder (A : Aead) (J : Jwt) (cfg : HttpPool) : Prop where
  kept : cfg.state.Kept A
  ledger : Ledger J cfg.state.trace
  follows : ∀ t ∈ cfg.threads, Follows (sessionOk J t.op) anyPost t.hist t.rest
  learned : ∀ t ∈ cfg.threads, InProgress t → ∀ call ∈ t.hist, LearnedSecret cfg.state.trace call
  granted : ∀ t ∈ cfg.threads, ∀ token claims,
    (⟨.verify token, some claims⟩ : HttpCall) ∈ t.hist →
      ∃ now, .granted token claims now ∈ cfg.state.trace
  apart : ∀ t ∈ cfg.threads, Critical t → ∀ t' ∈ cfg.threads, ¬ InProgress t'
  dropped : ∀ t ∈ cfg.threads, ∀ keys ∈ droppedEntries t.hist, "JWTSecret" ∈ keys → ∀ hash,
    cfg.state.config.cache "JWTSecret" hash = none
  committed : ∀ t ∈ cfg.threads, t.rest.next = some (.config (.setJwtSecret "")) →
    cfg.state.config.table.row "JWTSecret" = none

theorem Follows.issues {p : HttpProg HttpAnswer} {c : HttpCmd}
    (hf : Follows (sessionOk J op) anyPost h p) (hn : p.next = some c) : sessionOk J op h c := by
  cases p with
  | ret a => cases hn
  | cmd c' k =>
    cases hn
    exact hf.1

/-- Of the entries that a change has dropped, one was by its latest call. Reference:
`config/config.go:353 ChangeUnlockPassword`. -/
theorem mem_droppedEntries_cons {c : HttpCmd} {a : c.Ans} {keys : List String}
    (hopen : droppedEntries (⟨c, a⟩ :: h) = some keys) (hmem : key ∈ keys) :
    ∃ key' keys', c = .config (.deleteCache key') ∧ droppedEntries h = some keys' ∧
      (key' = key ∨ key ∈ keys') := by
  cases c with
  | config c =>
    cases c with
    | encryptedKeys =>
      obtain rfl := Option.some.inj hopen
      cases hmem
    | deleteCache key' =>
      obtain ⟨keys', hkeys, rfl⟩ := Option.map_eq_some_iff.1 hopen
      rcases List.mem_cons.1 hmem with rfl | hmem
      · exact ⟨key, keys', rfl, hkeys, .inl rfl⟩
      · exact ⟨key', keys', rfl, hkeys, .inr hmem⟩
    | _ => cases hopen
  | _ => cases hopen

/-- A call that is to end a change has just committed it. Reference: `config/config.go:336
ChangeUnlockPassword`. -/
theorem commit_of_next {p : HttpProg HttpAnswer} {call : HttpCall}
    (hf : Follows (sessionOk J op) anyPost (call :: h) p)
    (hl : op.isLogin = true → ∀ call' ∈ call :: h, LearnedSecret trace call')
    (hn : p.next = some (.config (.setJwtSecret ""))) : op.isLogin = false ∧
    ∃ keys old new, call = ⟨.config (.changePasswordTx keys old new), .ok ()⟩ := by
  rcases Follows.issues hf hn with ⟨hlogin, -, keys, old, new, h', he⟩ | ⟨hlogin, hdrawn⟩
  · exact ⟨hlogin, keys, old, new, (List.cons.inj he).1⟩
  · exact absurd rfl (hdrawn.learned (hl hlogin)).1

/-- A committed change has removed the secret. Reference: `config/config.go:376
ChangeUnlockPassword`. -/
theorem row_of_commit {keys : List String} {old new : String} {env : HttpEnv}
    (hx : httpExec A J s (.config (.changePasswordTx keys old new)) env = some (.ok (), s')) :
    s'.config.table.row "JWTSecret" = none := by
  obtain ⟨config', hconf, rfl⟩ := exec_config hx
  rcases exec_changePasswordTx hconf with ⟨⟨e, he⟩, -⟩ | ⟨-, -, t, htx, rfl⟩
  · cases he
  · exact row_changePasswordTx htx

variable {cfg cfg' : HttpPool}

/-- A call that steps is ready for it. Reference: none. -/
theorem HttpPool.InOrder.ready (hd : cfg.InOrder A J) {i : Nat} {c : HttpCmd}
    {k : c.Ans → HttpProg HttpAnswer} {env : HttpEnv}
    (hi : cfg.threads[i]? = some ⟨op, h, .cmd c k⟩) (hallowed : c.Allowed J cfg env) :
    Ready J cfg.state c env := by
  have hmem := List.mem_of_getElem? hi
  have hok : sessionOk J op h c := (hd.follows _ hmem).1
  refine ⟨fun keys old new hc hkeys => ?_, fun hc => ?_, fun hc => ?_, fun token hc => ?_⟩
  · rw [hc] at hok
    exact hd.dropped _ hmem _ hok.2.2 (List.mem_reverse.2 hkeys)
  · exact hd.committed _ hmem (congrArg some hc)
  · rw [hc] at hallowed
    exact hallowed rfl
  · rw [hc] at hallowed
    exact hallowed

section
variable {i : Nat} {c : HttpCmd} {a : c.Ans} {k : c.Ans → HttpProg HttpAnswer} {env : HttpEnv}

/-- What the logins in progress have learned stays so, as the end of a change comes when none is.
Reference: `config/config.go:376 ChangeUnlockPassword`. -/
theorem HttpPool.InOrder.learned_run (hd : cfg.InOrder A J)
    (hi : cfg.threads[i]? = some ⟨op, h, .cmd c k⟩)
    (hx : httpExec A J cfg.state c env = some (a, s')) :
    ∀ t ∈ cfg.threads, InProgress t → ∀ call ∈ t.hist, LearnedSecret s'.trace call := by
  intro t ht hprogress call hcall
  have hlearned := hd.learned t ht hprogress call hcall
  rcases trace_of_exec hx with htrace | ⟨e, he, htrace⟩ | ⟨rfl, -⟩
  · rw [htrace]
    exact hlearned
  · rw [htrace]
    exact hlearned.cons he
  · exact absurd hprogress (hd.apart _ (List.mem_of_getElem? hi) (.inl rfl) t ht)

/-- What the middleware let through stays in the trace. Reference: none. -/
theorem HttpPool.InOrder.granted_run (hd : cfg.InOrder A J)
    (hi : cfg.threads[i]? = some ⟨op, h, .cmd c k⟩)
    (hx : httpExec A J cfg.state c env = some (a, s')) :
    ∀ t ∈ cfg.threads.set i ⟨op, ⟨c, a⟩ :: h, k a⟩, ∀ token claims,
      (⟨.verify token, some claims⟩ : HttpCall) ∈ t.hist →
        ∃ now, .granted token claims now ∈ s'.trace := by
  intro t ht token claims hcall
  rcases Config.mem_set ht with rfl | ht
  · rcases List.mem_cons.1 hcall with heq | hcall
    · cases heq
      rw [httpExec] at hx
      split at hx
      · cases hx
      · cases hx
        exact ⟨env.now, List.mem_cons_self⟩
    · obtain ⟨now, hnow⟩ := hd.granted _ (List.mem_of_getElem? hi) token claims hcall
      exact ⟨now, mem_trace_of_exec hx hnow⟩
  · obtain ⟨now, hnow⟩ := hd.granted t ht token claims hcall
    exact ⟨now, mem_trace_of_exec hx hnow⟩

/-- The secret is not read from the table while a change has dropped its entry. Reference:
`config/config.go:353 ChangeUnlockPassword`. -/
theorem HttpPool.InOrder.dropped_run (hd : cfg.InOrder A J)
    (hi : cfg.threads[i]? = some ⟨op, h, .cmd c k⟩)
    (hlogins : op.isLogin = true → ∀ t ∈ cfg.threads, ¬ Critical t)
    (hx : httpExec A J cfg.state c env = some (a, s')) :
    ∀ t ∈ cfg.threads.set i ⟨op, ⟨c, a⟩ :: h, k a⟩, ∀ keys ∈ droppedEntries t.hist,
      "JWTSecret" ∈ keys → ∀ hash, s'.config.cache "JWTSecret" hash = none := by
  have hmem := List.mem_of_getElem? hi
  have hok : sessionOk J op h c := (hd.follows _ hmem).1
  have hkeep : ∀ t ∈ cfg.threads, ∀ keys ∈ droppedEntries t.hist, "JWTSecret" ∈ keys → ∀ hash,
      s'.config.cache "JWTSecret" hash = none := by
    intro t ht keys hopen hkeys hash
    cases hv : s'.config.cache "JWTSecret" hash with
    | none => rfl
    | some value =>
      have hread : ∀ encryptionKey, c ≠ .config (.get "JWTSecret" encryptionKey) := by
        rintro encryptionKey rfl
        exact hlogins (hok rfl) t ht (.inr ⟨keys, hopen, hkeys⟩)
      have hold := cache_of_exec hx hread hv
      rw [hd.dropped t ht keys hopen hkeys hash] at hold
      cases hold
  intro t ht keys hopen hkeys hash
  rcases Config.mem_set ht with rfl | hin
  · obtain ⟨key', keys', rfl, hopen', rfl | hkeys'⟩ := mem_droppedEntries_cons hopen hkeys
    · obtain ⟨config', hconf, rfl⟩ := exec_config hx
      exact deleteCache_none hconf hash
    · exact hkeep _ hmem keys' hopen' hkeys' hash
  · exact hkeep t hin keys hopen hkeys hash

end

/-- A step of a call keeps the pool in order. Reference: none. -/
theorem HttpPool.InOrder.run (hA : A.Ideal) (hJ : J.Ideal) (hd : cfg.InOrder A J) {i : Nat}
    {env : HttpEnv} (ha : Separated J cfg (.run i env))
    (hs : cfg.step (httpExec A J) (HttpOp.body J) (.run i env) = some cfg') :
    cfg'.InOrder A J := by
  obtain ⟨op, h, c, k, a, s', hi, hx, rfl⟩ := Config.step_run hs
  have hmem := List.mem_of_getElem? hi
  obtain ⟨hlogins, hdrops, hallowed⟩ := ha _ hi
  have hallowed : c.Allowed J cfg env := hallowed c rfl
  have hok : sessionOk J op h c := (hd.follows _ hmem).1
  have hl : op.isLogin = true → ∀ call ∈ h, LearnedSecret cfg.state.trace call :=
    fun hlogin call hcall => hd.learned _ hmem ⟨hlogin, List.ne_nil_of_mem hcall, rfl⟩ call hcall
  obtain ⟨hkept, hledger, hnew⟩ := hd.kept.step hA hJ hd.ledger hl (hd.granted _ hmem) hok
    (hd.ready hi hallowed) hx
  have hold := hd.learned_run hi hx
  have hstepped : op.isLogin = true → ∀ call ∈ ⟨c, a⟩ :: h, LearnedSecret s'.trace call := by
    intro hlogin call hcall
    rcases List.mem_cons.1 hcall with rfl | hcall
    · exact hnew
    · exact hold _ hmem ⟨hlogin, List.ne_nil_of_mem hcall, rfl⟩ call hcall
  have hnext := (hd.follows _ hmem).2 a
  refine ⟨hkept, hledger, fun t ht => ?_, fun t ht => ?_, hd.granted_run hi hx, fun t ht => ?_,
    hd.dropped_run hi hlogins hx, fun t ht => ?_⟩
  · rcases Config.mem_set ht with rfl | ht
    · exact hnext
    · exact hd.follows t ht
  · rcases Config.mem_set ht with rfl | ht
    · exact fun hprogress => hstepped hprogress.1
    · exact hold t ht
  · intro hcritical t' ht' hprogress
    rcases Config.mem_set ht with rfl | hin
    · obtain ⟨hlogin, hapart⟩ : op.isLogin = false ∧ ∀ t' ∈ cfg.threads, ¬ InProgress t' := by
        rcases hcritical with hn | ⟨keys, hopen, hkeys⟩
        · obtain ⟨hlogin, keys, old, new, he⟩ := commit_of_next hnext hstepped hn
          cases he
          exact ⟨hlogin, hallowed⟩
        · obtain ⟨key', keys', rfl, hopen', hcases⟩ := mem_droppedEntries_cons hopen hkeys
          have hlogin := hok keys' hopen'
          rcases hcases with rfl | hkeys'
          · exact ⟨hlogin, hdrops hlogin rfl⟩
          · exact ⟨hlogin, hd.apart _ hmem (.inr ⟨keys', hopen', hkeys'⟩)⟩
      rcases Config.mem_set ht' with rfl | hin'
      · exact Bool.false_ne_true (hlogin.symm.trans hprogress.1)
      · exact hapart t' hin' hprogress
    · rcases Config.mem_set ht' with rfl | hin'
      · exact hlogins hprogress.1 t hin hcritical
      · exact hd.apart t hin hcritical t' hin' hprogress
  · intro hn
    rcases Config.mem_set ht with rfl | hin
    · obtain ⟨-, keys, old, new, he⟩ := commit_of_next hnext hstepped hn
      cases he
      exact row_of_commit hx
    · refine row_of_exec hx ?_ (hd.committed t hin hn)
      rintro onConflict value encryptionKey rfl
      exact hlogins (hok.2 rfl).1 t hin (.inl hn)

/-- A call does not begin at the end of a change. Reference: none. -/
theorem not_critical_body (hop : op.Guarded) : ¬ Critical ⟨op, [], op.body J⟩ := by
  rintro (hn | ⟨keys, hopen, -⟩)
  · rcases Follows.issues (follows_httpBody hop) hn with
      ⟨-, -, keys, old, new, h', he⟩ | ⟨-, hgenerated | ⟨-, encryptionKey, -, hread⟩⟩
    · cases he
    · cases hgenerated
    · cases hread
  · cases hopen

/-- A step keeps the pool in order. Reference: none. -/
theorem HttpPool.InOrder.step (hA : A.Ideal) (hJ : J.Ideal) (hd : cfg.InOrder A J) {l : HttpLabel}
    (ha : Separated J cfg l) (hs : cfg.step (httpExec A J) (HttpOp.body J) l = some cfg') :
    cfg'.InOrder A J := by
  cases l with
  | run i env => exact hd.run hA hJ ha hs
  | restart =>
    cases hs
    have hsub : ∀ {t : HttpThread}, t ∈ cfg.threads.filter (·.rest.done) → t ∈ cfg.threads :=
      fun ht => (List.mem_filter.1 ht).1
    exact ⟨hd.kept, hd.ledger, fun t ht => hd.follows t (hsub ht), fun t ht =>
      hd.learned t (hsub ht), fun t ht => hd.granted t (hsub ht), fun t ht hc t' ht' =>
      hd.apart t (hsub ht) hc t' (hsub ht'), fun t ht => hd.dropped t (hsub ht), fun t ht =>
      hd.committed t (hsub ht)⟩
  | spawn op =>
    cases hs
    have hcases : ∀ {t : HttpThread}, t ∈ cfg.threads ++ [⟨op, [], op.body J⟩] →
        t ∈ cfg.threads ∨ t = ⟨op, [], op.body J⟩ := by
      intro t ht
      rwa [List.mem_append, List.mem_singleton] at ht
    have hnone : ¬ InProgress ⟨op, [], op.body J⟩ := fun hp => hp.2.1 rfl
    refine ⟨hd.kept, hd.ledger, fun t ht => ?_, fun t ht => ?_, fun t ht => ?_, fun t ht => ?_,
      fun t ht => ?_, fun t ht => ?_⟩
    · rcases hcases ht with ht | rfl
      · exact hd.follows t ht
      · exact follows_httpBody ha
    · rcases hcases ht with ht | rfl
      · exact hd.learned t ht
      · exact fun hp => absurd hp hnone
    · rcases hcases ht with ht | rfl
      · exact hd.granted t ht
      · intro token claims hcall
        cases hcall
    · intro hcritical t' ht'
      rcases hcases ht with ht | rfl
      · rcases hcases ht' with ht' | rfl
        · exact hd.apart t ht hcritical t' ht'
        · exact hnone
      · exact absurd hcritical (not_critical_body ha)
    · rcases hcases ht with ht | rfl
      · exact hd.dropped t ht
      · intro keys hopen
        cases hopen
    · rcases hcases ht with ht | rfl
      · exact hd.committed t ht
      · exact fun hn => absurd (.inl hn) (not_critical_body ha)

/-- A hub that starts is in order. Reference: `config/config.go:34 NewConfig`. -/
theorem HttpPool.Starts.inOrder (h : HttpPool.Starts A cfg) : cfg.InOrder A J := by
  obtain ⟨t, hsealed, hencrypted, rfl⟩ := h
  have hempty : ∀ secret, Current [] secret := fun _ _ hs => absurd hs List.not_mem_nil
  have hcache : ∀ key hash value, (HubConfig.start t).cache key hash ≠ some value :=
    fun _ _ _ hc => by cases hc
  have hnone : ∀ {t : HttpThread}, t ∉ ([] : List HttpThread) := List.not_mem_nil
  refine ⟨⟨hsealed, hencrypted, hcache _ _ _, hempty _, fun _ _ _ _ _ => hempty _, fun _ _ _ hc =>
    absurd hc (hcache _ _ _), fun _ _ _ hc => absurd hc (hcache _ _ _)⟩, ⟨fun _ hs => absurd hs
    List.not_mem_nil, fun _ hs => absurd hs List.not_mem_nil, fun later e earlier he => ?_⟩,
    fun _ ht => absurd ht hnone, fun _ ht => absurd ht hnone, fun _ ht => absurd ht hnone,
    fun _ ht => absurd ht hnone, fun _ ht => absurd ht hnone, fun _ ht => absurd ht hnone⟩
  cases later <;> cases he

/-- In every run where logins and changes of the password are kept apart, a token that is let
through was given out since the last change that is done, to a call that gave the password, and a
request is handled with such a token. Reference: `http/http_service.go:63 RegisterSharedRoutes`,
`config/config.go:336 ChangeUnlockPassword`. -/
theorem sessions_authentic (A : Aead) (J : Jwt) (hA : A.Ideal) (hJ : J.Ideal) (cfg : HttpPool)
    (h : HttpRun A J cfg) : AuthenticTrace cfg.state.trace := by
  have hd : cfg.InOrder A J := by
    refine Reach.induction (P := HttpPool.InOrder A J) (fun cfg₀ h₀ => h₀.inOrder)
      (fun cfg₀ l cfg₁ _ hd ha hs => ?_) h
    exact hd.step hA hJ ha hs
  exact hd.ledger.authentic

end

instance {t : HttpThread} : Decidable (Critical t) :=
  inferInstanceAs (Decidable (_ ∨ ∃ keys ∈ droppedEntries t.hist, "JWTSecret" ∈ keys))

instance {t : HttpThread} : Decidable (InProgress t) :=
  inferInstanceAs (Decidable (_ ∧ _ ∧ _))

instance : ∀ op : HttpOp, Decidable op.Guarded
  | .read key _ => inferInstanceAs (Decidable (key ≠ "JWTSecret"))
  | .write onConflict key value encryptionKey =>
    inferInstanceAs (Decidable ((onConflict ≠ .doUpdateValue ∧ key ≠ "" ∧
      (key = "UnlockPasswordCheck" → onConflict = .doUpdates ∧ value = unlockPasswordCheck ∧
        encryptionKey ≠ "")) ∧ key ≠ "JWTSecret"))
  | .start _ | .unlock _ | .request _ _ _ | .changeUnlockPassword _ _ _ | .loadJWTSecret _
  | .reboot => isTrue trivial

instance {J : Jwt} {cfg : HttpPool} {env : HttpEnv} : ∀ c : HttpCmd, Decidable (c.Allowed J cfg env)
  | .config (.changePasswordTx _ _ _) =>
    inferInstanceAs (Decidable (∀ t ∈ cfg.threads, ¬ InProgress t))
  | .config (.outside what) =>
    inferInstanceAs (Decidable (what = "randomHex" → ∀ secret ∈ env.config.outside.toOption,
      secret ≠ "" ∧ ∀ session ∈ issuedSessions cfg.state.trace, session.secret ≠ secret))
  | .verify token =>
    inferInstanceAs (Decidable (verifyToken J cfg.state.config token env.now ≠ none →
      ∃ session ∈ issuedSessions cfg.state.trace, session.token = token))
  | .config (.get _ _) | .config (.create _ _ _ _) | .config (.deleteCache _)
  | .config .encryptedKeys | .config .getJwtSecret | .config (.setJwtSecret _)
  | .config .tryLockStart | .config .unlockStart | .config .reboot | .now | .issue _
  | .handle _ _ => isTrue trivial

instance {J : Jwt} {cfg : HttpPool} : ∀ l : HttpLabel, Decidable (Separated J cfg l)
  | .spawn op => inferInstanceAs (Decidable op.Guarded)
  | .run i env => inferInstanceAs (Decidable (∀ t ∈ cfg.threads[i]?,
    (t.op.isLogin = true → ∀ t' ∈ cfg.threads, ¬ Critical t') ∧
      (t.op.isLogin = false → t.rest.next = some (.config (.deleteCache "JWTSecret")) →
        ∀ t' ∈ cfg.threads, ¬ InProgress t') ∧
      ∀ c ∈ t.rest.next, c.Allowed J cfg env))
  | .restart => isTrue trivial

/-- Tokens of one value of the claims, which show the secret. Reference: none. -/
def Jwt.clear (claims : JwtCustomClaims) : Jwt where
  SignedString claims' secret := if claims' = claims then "1" ++ secret else "0"
  ParseWithClaims token secret := if token = "1" ++ secret then some claims else none

theorem Jwt.clear_ideal (claims : JwtCustomClaims) : (Jwt.clear claims).Ideal where
  of_parse claims' secret secret' claims'' h := by
    simp only [Jwt.clear, Option.ite_none_right_eq_some] at h
    obtain ⟨heq, h⟩ := h
    have hlist := congrArg String.toList heq
    by_cases he : claims' = claims
    · rw [if_pos he, String.toList_append, String.toList_append, List.append_right_inj] at hlist
      exact ⟨(String.toList_inj.1 hlist).symm, (Option.some.inj h).symm.trans he.symm⟩
    · rw [if_neg he, String.toList_append] at hlist
      simp at hlist

theorem length_zeroNonce : (List.replicate 12 (0 : UInt8)).length = 12 := List.length_replicate

/-- What the calls meet in the example. Reference: none. -/
def demoHttpEnv : HttpEnv where
  config := {
    nonce := fun _ => ⟨List.replicate 12 0, length_zeroNonce⟩
    outside := .ok "secret" }
  now := 1000000000

/-- The whole of a call, as the call number `i`. Reference: none. -/
def wholeCall (i steps : Nat) (op : HttpOp) : List HttpLabel :=
  .spawn op :: List.replicate steps (.run i demoHttpEnv)

/-- A start, a request, a change of the password with the token, and another request with it.
Reference: none. -/
def demoSession : List HttpLabel :=
  wholeCall 0 2 (.write .doUpdates "UnlockPasswordCheck" unlockPasswordCheck "pw") ++
    wholeCall 1 12 (.start "pw") ++
    wholeCall 2 2 (.request "POST" "/payments/:invoice" (some "1secret")) ++
    wholeCall 3 11 (.changeUnlockPassword (some "1secret") "pw" "new") ++
    wholeCall 4 1 (.request "POST" "/payments/:invoice" (some "1secret"))

/-- The pool of the example when it ends. Reference: none. -/
def demoSessionPool : Option HttpPool :=
  Interaction.Config.run (httpExec .clear (.clear ⟨"full", 2592001⟩))
    (HttpOp.body (.clear ⟨"full", 2592001⟩)) ⟨{ config := HubConfig.start .empty }, []⟩ demoSession

/-- After the change the token is refused. Reference: none. -/
theorem sessions_authentic_change : ∃ cfg, demoSessionPool = some cfg ∧
    cfg.threads.map (·.rest.result) = [some .handled, some (.token "1secret"), some .handled,
      some .handled, some (.error 401 "invalid or expired jwt")] ∧
    AuthenticTrace cfg.state.trace := by
  have hlook : demoSessionPool.map (fun cfg => cfg.threads.map (·.rest.result)) =
      some [some .handled, some (.token "1secret"), some .handled, some .handled,
        some (.error 401 "invalid or expired jwt")] := by decide +kernel
  obtain ⟨cfg, hcfg, hresults⟩ := Option.map_eq_some_iff.1 hlook
  have hstarts : HttpPool.Starts .clear ⟨{ config := HubConfig.start .empty }, []⟩ := by
    refine ⟨.empty, fun _ hr => absurd hr List.not_mem_nil, fun _ _ _ hr => ?_, rfl⟩
    cases hr
  have hrun : HttpRun .clear (.clear ⟨"full", 2592001⟩) cfg :=
    Reach.of_run (.start hstarts) (by decide +kernel) hcfg
  exact ⟨cfg, hcfg, hresults, sessions_authentic .clear _ Aead.clear_ideal
    (Jwt.clear_ideal _) cfg hrun⟩

end AlbyHub
