import AlbyHub.Config.ChangePassword

/-!
# The sessions of the HTTP service

A start or an unlock of the hub under the unlock password gives out a token, signed with the JWT
secret in memory; a request is let through with a token that verifies under the secret there is
then. The secret is loaded by a start and is dropped by a change of the password. The calls are
programs over `HttpCmd`, whose commands are those of the configuration and those of the middleware;
what the service has seen and done so far is its trace.
-/

namespace AlbyHub

open Go Interaction

/-- The time is in seconds. Reference: `http/http_service.go:35 jwtCustomClaims`. -/
structure JwtCustomClaims where
  Permission : String
  ExpiresAt : Int
  deriving DecidableEq, Repr

/-- The functions from outside `src/` that the tokens are built on: the token of claims and a
secret, and the claims of a token whose signature is that of a secret. Reference: the imports of
`http/http_service.go`, `jwt` and `echojwt`. -/
structure Jwt where
  SignedString : JwtCustomClaims → String → String
  ParseWithClaims : String → String → Option JwtCustomClaims

/-- What is assumed of them: a token has the signature of its own secret only. Reference:
`http/http_service.go:474 createJWT`, HS256. -/
structure Jwt.Ideal (J : Jwt) : Prop where
  of_parse : ∀ claims secret secret' claims',
    J.ParseWithClaims (J.SignedString claims secret) secret' = some claims' →
      secret' = secret ∧ claims' = claims

/-- A route behind the middleware: its method and its path in `/api`, and whether it is in the group
that needs full access. Reference: `http/http_service.go:121 RegisterSharedRoutes`. -/
structure Route where
  method : String
  path : String
  fullAccess : Bool
  deriving DecidableEq, Repr

/-- Reference: `http/http_service.go:135 RegisterSharedRoutes`,
`http/alby_http_service.go:37 RegisterSharedRoutes`. -/
def readOnlyRoutes : List (String × String) :=
  [("GET", "/apps"), ("GET", "/apps/:pubkey"), ("GET", "/v2/apps/:id"), ("GET", "/channels"),
    ("GET", "/channels/suggestions"), ("GET", "/channel-offer"), ("GET", "/node/connection-info"),
    ("GET", "/node/status"), ("GET", "/node/network-graph"), ("GET", "/node/transactions"),
    ("GET", "/peers"), ("GET", "/wallet/address"), ("GET", "/wallet/capabilities"),
    ("GET", "/transactions"), ("GET", "/transactions/:paymentHash"), ("GET", "/balances"),
    ("GET", "/mempool"), ("GET", "/health"), ("GET", "/commands"), ("GET", "/swaps"),
    ("GET", "/swaps/:swapId"), ("GET", "/swaps/out/info"), ("GET", "/swaps/in/info"),
    ("GET", "/autoswap"), ("GET", "/forwards"), ("GET", "/alby/me")]

/-- Reference: `http/http_service.go:165 RegisterSharedRoutes`,
`http/alby_http_service.go:38 RegisterSharedRoutes`. -/
def fullAccessRoutes : List (String × String) :=
  [("POST", "/event"), ("PATCH", "/unlock-password"), ("PATCH", "/auto-unlock"),
    ("PATCH", "/settings"), ("PATCH", "/apps/:pubkey"), ("PATCH", "/transactions/:id/labels"),
    ("DELETE", "/apps/:pubkey"), ("POST", "/transfers"), ("POST", "/apps"),
    ("POST", "/lightning-addresses"), ("DELETE", "/lightning-addresses/:appId"),
    ("POST", "/mnemonic"), ("PATCH", "/backup-reminder"), ("POST", "/channels"),
    ("POST", "/channels/rebalance"), ("POST", "/lsp-orders"), ("POST", "/node/migrate-storage"),
    ("POST", "/peers"), ("DELETE", "/peers/:peerId"),
    ("DELETE", "/peers/:peerId/channels/:channelId"),
    ("PATCH", "/peers/:peerId/channels/:channelId"), ("POST", "/wallet/new-address"),
    ("POST", "/wallet/redeem-onchain-funds"), ("POST", "/wallet/sign-message"),
    ("POST", "/wallet/sync"), ("POST", "/payments/:invoice"), ("POST", "/invoices"),
    ("POST", "/offers"), ("POST", "/reset-router"), ("POST", "/stop"), ("POST", "/command"),
    ("POST", "/swaps/out"), ("POST", "/swaps/in"), ("POST", "/swaps/refund"),
    ("GET", "/swaps/mnemonic"), ("GET", "/log/:type"), ("POST", "/autoswap"),
    ("DELETE", "/autoswap"), ("POST", "/node/alias"), ("POST", "/alby/link-account"),
    ("POST", "/alby/auto-channel"), ("POST", "/alby/unlink-account")]

/-- Reference: `http/http_service.go:63 RegisterSharedRoutes`. -/
def restrictedRoutes : List Route :=
  (readOnlyRoutes.map fun r => ⟨r.1, r.2, false⟩) ++ fullAccessRoutes.map fun r => ⟨r.1, r.2, true⟩

/-- What is not a read needs full access. Reference: `http/http_service.go:165
RegisterSharedRoutes`. -/
theorem fullAccess_of_method : ∀ route ∈ restrictedRoutes, route.method ≠ "GET" →
    route.fullAccess = true := by decide

/-- A token that was given out: for which password, when, and for how many days. Reference:
`http/http_service.go:455 createJWT`. -/
structure Session where
  token : String
  secret : String
  claims : JwtCustomClaims
  unlockPassword : String
  issuedAt : Int
  expiryDays : UInt64
  deriving DecidableEq, Repr

/-- What the service has seen and done: a check of the password that succeeded, a token given out, a
change of the password that is done, a token that the middleware has let through, and a request that
was handled. Reference: none. -/
inductive SessionEvent where
  | checked (unlockPassword : String)
  | issued (session : Session)
  | changed
  | granted (token : String) (claims : JwtCustomClaims) (now : Int)
  | served (route : Route) (token : String)
  deriving DecidableEq, Repr

/-- The configuration and the trace, latest first. Reference: `http/http_service.go:43
HttpService`. -/
structure HttpHub where
  config : HubConfig
  trace : List SessionEvent := []

/-- A command of a call: one of the configuration, the time, a token given out, the middleware's
look at a token, and the handler behind it. Reference: `http/http_service.go`. -/
inductive HttpCmd where
  | config (c : ConfigCmd)
  | now
  | issue (session : Session)
  | verify (token : String)
  | handle (route : Route) (token : String)
  deriving DecidableEq

/-- The answer to a command. Reference: the results of the calls of `HttpCmd`. -/
abbrev HttpCmd.Ans : HttpCmd → Type
  | .config c => c.Ans
  | .now => Int
  | .verify _ => Option JwtCustomClaims
  | .issue _ | .handle _ _ => Unit

/-- Reference: none. -/
abbrev HttpCall := Call HttpCmd HttpCmd.Ans

/-- What a command takes from outside. Reference: none. -/
structure HttpEnv where
  config : ConfigEnv := {}
  now : Int := 0

/-- What a command of the configuration shows: a check that succeeded, and the end of a change.
Reference: `config/config.go:408 CheckUnlockPassword`, `:389 ChangeUnlockPassword`. -/
def configEvents : (c : ConfigCmd) → c.Ans → List SessionEvent
  | .get key encryptionKey, .ok value =>
    if key = "UnlockPasswordCheck" ∧ value = unlockPasswordCheck then [.checked encryptionKey]
    else []
  | .setJwtSecret jwtSecret, _ => if jwtSecret = "" then [.changed] else []
  | _, _ => []

/-- The times are in nanoseconds. Reference: `http/http_service.go:126 RegisterSharedRoutes`,
`KeyFunc`, and the check of the expiry by `jwt`. -/
def verifyToken (J : Jwt) (s : HubConfig) (token : String) (now : Int) : Option JwtCustomClaims :=
  match s.GetJWTSecret with
  | .error _ => none
  | .ok secret =>
    (J.ParseWithClaims token secret).filter fun claims => now < claims.ExpiresAt * 10 ^ 9

/-- What a command does. The middleware looks at the secret and the time in one step. Reference: the
calls of `HttpCmd`. -/
def httpExec (A : Aead) (J : Jwt) (s : HttpHub) : (c : HttpCmd) → HttpEnv →
    Option (c.Ans × HttpHub)
  | .config c, env => (configExec A s.config c env.config).map fun r =>
    (r.1, { config := r.2, trace := configEvents c r.1 ++ s.trace })
  | .now, env => some (env.now, s)
  | .issue session, _ => some ((), { s with trace := .issued session :: s.trace })
  | .verify token, env =>
    match verifyToken J s.config token env.now with
    | none => some (none, s)
    | some claims =>
      some (some claims, { s with trace := .granted token claims env.now :: s.trace })
  | .handle route token, _ => some ((), { s with trace := .served route token :: s.trace })

/-- A program of the service. Reference: none. -/
abbrev HttpProg := Prog HttpCmd HttpCmd.Ans

/-- One command. Reference: none. -/
abbrev httpAsk (c : HttpCmd) : HttpProg c.Ans := Prog.call c

/-- A call of the configuration. Reference: none. -/
def onConfig {α : Type} (p : Cfg α) : HttpProg α :=
  Prog.relabel HttpCmd.config p

/-- What a handler answers. Reference: `http/http_service.go`, `c.JSON` and `c.NoContent`. -/
inductive HttpAnswer where
  | token (token : String)
  | handled
  | error (status : Nat) (message : String)
  deriving DecidableEq, Repr

/-- Reference: the method `Error` of the errors of `config/config.go`. -/
def ConfigErr.Error : ConfigErr → String
  | .message text | .cipher (.error text) | .cipher (.panic text) => text

/-- `time.Hour * 24 * time.Duration(expiryDays)`, an `int64`. Reference: `http/http_service.go:469
createJWT`. -/
def sessionLength (expiryDays : UInt64) : Int :=
  (86400 * 10 ^ 9 * (expiryDays.toNat : Int)).bmod (2 ^ 64)

/-- The password is that of the call. Reference: `http/http_service.go:455 createJWT`. -/
def createJWT (J : Jwt) (unlockPassword : String) (tokenExpiryDays : Option UInt64)
    (permission : String) : HttpProg (Except String String) :=
  if permission ∉ ["full", "readonly"] then return .error "invalid token permission"
  else do
    let expiryDays := tokenExpiryDays.getD 30
    let now ← httpAsk .now
    let claims : JwtCustomClaims := ⟨permission, (now + sessionLength expiryDays) / 10 ^ 9⟩
    let secret ← httpAsk (.config .getJwtSecret)
    if secret = "" then return .error "config not unlocked" else do
      let token := J.SignedString claims secret
      httpAsk (.issue ⟨token, secret, claims, unlockPassword, now, expiryDays⟩)
      return .ok token

/-- The answer of a handler that has created a token. Reference: `http/http_service.go:319
startHandler`, `:372 unlockHandler`. -/
def answerToken : Except String String → HttpAnswer
  | .error e => .error 500 ("Failed to save session: " ++ e)
  | .ok token => .token token

/-- The start of the node afterwards is a call of its own. Reference: `http/http_service.go:293
startHandler`. -/
def startHandler (J : Jwt) (unlockPassword : String) : HttpProg HttpAnswer := do
  match ← onConfig (CheckUnlockPassword unlockPassword) with
  | false => return .error 401 "Invalid password"
  | true =>
    match ← onConfig (LoadJWTSecret unlockPassword) with
    | .error e => return .error 500 ("Failed to load JWT secret: " ++ e.Error)
    | .ok _ => return answerToken (← createJWT J unlockPassword none "full")

/-- Reference: `api/models.go UnlockRequest`. -/
structure UnlockRequest where
  UnlockPassword : String
  TokenExpiryDays : Option UInt64 := none
  Permission : String
  deriving DecidableEq, Repr

/-- Reference: `http/http_service.go:330 unlockHandler`. -/
def unlockHandler (J : Jwt) (unlockRequest : UnlockRequest) : HttpProg HttpAnswer := do
  match ← onConfig (CheckUnlockPassword unlockRequest.UnlockPassword) with
  | false => return .error 401 "Invalid password"
  | true =>
    if unlockRequest.Permission = "" then return .error 400 "Permission field is required"
    else if unlockRequest.Permission ∉ ["full", "readonly"] then
      return .error 400 "Permission field is unknown"
    else
      -- an empty answer is that of a node that is not started
      match ← httpAsk (.config (.outside "GetNodeStatus")) with
      | .error e => return .error 500 e.Error
      | .ok "" =>
        return .error 400 "Node is not running, start it before unlocking."
      | .ok _ =>
        return answerToken (← createJWT J unlockRequest.UnlockPassword
          unlockRequest.TokenExpiryDays unlockRequest.Permission)

/-- The middleware of the two groups of routes; a request without a token has none. Reference:
`http/http_service.go:121 RegisterSharedRoutes`, `:385 requireFullAccess`. -/
def restricted (fullAccess : Bool) (token : Option String)
    (handler : String → HttpProg HttpAnswer) : HttpProg HttpAnswer :=
  match token with
  | none => return .error 400 "missing or malformed jwt"
  | some token => do
    match ← httpAsk (.verify token) with
    | none => return .error 401 "invalid or expired jwt"
    | some claims =>
      if fullAccess = true ∧ claims.Permission ≠ "" ∧ claims.Permission ≠ "full" then
        return .error 403 "This operation requires full access permissions"
      else handler token

/-- The node that is not started, and auto-unlock, are refused; the node is stopped afterwards.
Reference: `api/api.go:799 ChangeUnlockPassword`. -/
def apiChangeUnlockPassword (currentUnlockPassword newUnlockPassword : String) :
    Cfg (Except ConfigErr Unit) :=
  orReturn (cfgAsk (.outside "lnClient")) fun _ =>
  orReturn (cfgAsk (.get "AutoUnlockPassword" "")) fun autoUnlockPassword =>
  if autoUnlockPassword ≠ "" then
    return .error (.message "please disable auto-unlock before using this feature")
  else
    orReturn (ChangeUnlockPassword currentUnlockPassword newUnlockPassword) fun _ =>
    orReturn (cfgAsk (.outside "Stop")) fun _ => return .ok ()

/-- Reference: `http/http_service.go:401 changeUnlockPasswordHandler`. -/
def changeUnlockPasswordHandler (token : Option String)
    (currentUnlockPassword newUnlockPassword : String) : HttpProg HttpAnswer :=
  restricted true token fun token => do
    httpAsk (.handle ⟨"PATCH", "/unlock-password", true⟩ token)
    match ← onConfig (apiChangeUnlockPassword currentUnlockPassword newUnlockPassword) with
    | .error e => return .error 500 ("Failed to change unlock password: " ++ e.Error)
    | .ok _ => return .handled

/-- A call on the hub. `request` is one to a route behind the middleware, whose handler is one step;
`start` and `unlock` are two of the routes that are handled without a token. `loadJWTSecret` is that
of a start of the node, `read` and `write` are the other calls on the configuration, one statement
each, and `reboot` is a restart of the process. Reference: `http/http_service.go:63
RegisterSharedRoutes`; `service/start.go:290 StartApp`; the callers of `config/config.go`. -/
inductive HttpOp where
  | start (unlockPassword : String)
  | unlock (unlockRequest : UnlockRequest)
  | request (method path : String) (token : Option String)
  | changeUnlockPassword (token : Option String) (currentUnlockPassword newUnlockPassword : String)
  | loadJWTSecret (encryptionKey : String)
  | read (key encryptionKey : String)
  | write (onConflict : OnConflict) (key value encryptionKey : String)
  | reboot
  deriving DecidableEq, Repr

/-- The answer of a call that is not a request. Reference: none. -/
def answerConfig {α : Type} (p : Cfg (Except ConfigErr α)) : HttpProg HttpAnswer := do
  match ← onConfig p with
  | .error e => return .error 500 e.Error
  | .ok _ => return .handled

/-- The program of a call. The frontend, `/logout`, `/api/info`, `/api/setup`, `/api/restore`,
`/api/start`, `/api/unlock`, `/api/backup` and five reads under `/api/alby` are handled without a
token: they are not among the routes of a `request`, which answers 404 there. Reference:
`http/http_service.go:63`, `http/alby_http_service.go:31 RegisterSharedRoutes`. -/
def HttpOp.body (J : Jwt) : HttpOp → HttpProg HttpAnswer
  | .start unlockPassword => startHandler J unlockPassword
  | .unlock unlockRequest => unlockHandler J unlockRequest
  | .request method path token =>
    match restrictedRoutes.find? fun route => route.method = method ∧ route.path = path with
    | none => return .error 404 "Not Found"
    | some route => restricted route.fullAccess token fun token => do
      httpAsk (.handle route token)
      return .handled
  | .changeUnlockPassword token currentUnlockPassword newUnlockPassword =>
    changeUnlockPasswordHandler token currentUnlockPassword newUnlockPassword
  | .loadJWTSecret encryptionKey => answerConfig (LoadJWTSecret encryptionKey)
  | .read key encryptionKey => answerConfig (cfgAsk (.get key encryptionKey))
  | .write onConflict key value encryptionKey =>
    answerConfig (cfgSet onConflict key value encryptionKey)
  | .reboot => do
    onConfig (cfgAsk .reboot)
    return .handled

/-- The JWT secret is read and written by the calls that load it. Reference: the callers of
`config/config.go`. -/
def HttpOp.Guarded : HttpOp → Prop
  | .read key _ => key ≠ "JWTSecret"
  | .write onConflict key value encryptionKey =>
    AlbyHub.Guarded onConflict key value encryptionKey ∧ key ≠ "JWTSecret"
  | _ => True

/-- Whether the call checks the password and loads the secret or gives out a token. Reference:
`http/http_service.go:293 startHandler`, `:330 unlockHandler`, `config/config.go:163
LoadJWTSecret`. -/
def HttpOp.isLogin : HttpOp → Bool
  | .start _ | .unlock _ | .loadJWTSecret _ => true
  | _ => false

/-! ## The runs -/

/-- Reference: none. -/
abbrev HttpPool := Interaction.Config HttpHub HttpCmd HttpCmd.Ans HttpOp HttpAnswer

/-- Reference: none. -/
abbrev HttpThread := Thread HttpCmd HttpCmd.Ans HttpOp HttpAnswer

/-- Reference: none. -/
abbrev HttpLabel := Label HttpOp HttpEnv

/-- The entries that a call has dropped in the transaction of a password change, latest first.
Reference: `config/config.go:353 ChangeUnlockPassword`. -/
def droppedEntries : List HttpCall → Option (List String)
  | ⟨.config .encryptedKeys, _⟩ :: _ => some []
  | ⟨.config (.deleteCache key), _⟩ :: h => (droppedEntries h).map (key :: ·)
  | _ => none

/-- The call has dropped the entry of the secret, or has committed, and has not yet dropped the
secret in memory. Reference: `config/config.go:343 ChangeUnlockPassword`. -/
def Critical (t : HttpThread) : Prop :=
  t.rest.next = some (.config (.setJwtSecret "")) ∨
    ∃ keys ∈ droppedEntries t.hist, "JWTSecret" ∈ keys

/-- The call has begun and is not done. Reference: none. -/
def InProgress (t : HttpThread) : Prop :=
  t.op.isLogin = true ∧ t.hist ≠ [] ∧ t.rest.done = false

/-- The events since the last change of the password that is done. Reference: none. -/
def sinceChange : List SessionEvent → List SessionEvent
  | [] => []
  | e :: earlier => if e = .changed then [] else e :: sinceChange earlier

/-- The tokens that were given out. Reference: none. -/
def issuedSessions (trace : List SessionEvent) : List Session :=
  trace.filterMap fun e => match e with
    | .issued session => some session
    | _ => none

/-- The condition on a command: a change of the password does not commit while a login is under way,
what is generated as a secret is new, and nobody has a token that verifies under the secret but from
the hub. Reference: `config/config.go:336 ChangeUnlockPassword`, `:438 randomHex`. -/
def HttpCmd.Allowed (J : Jwt) (cfg : HttpPool) (env : HttpEnv) : HttpCmd → Prop
  | .config (.changePasswordTx _ _ _) => ∀ t ∈ cfg.threads, ¬ InProgress t
  | .config (.outside what) => what = "randomHex" → ∀ secret ∈ env.config.outside.toOption,
    secret ≠ "" ∧ ∀ session ∈ issuedSessions cfg.state.trace, session.secret ≠ secret
  | .verify token => verifyToken J cfg.state.config token env.now ≠ none →
    ∃ session ∈ issuedSessions cfg.state.trace, session.token = token
  | _ => True

/-- The condition on the steps of a run: no login comes between the removal of the secret's cache
entry and the end of a change of the password, or the other way around. The process may be killed at
any time. Reference: `config/config.go:163 LoadJWTSecret`, `:336 ChangeUnlockPassword`. -/
def Separated (J : Jwt) (cfg : HttpPool) : HttpLabel → Prop
  | .spawn op => op.Guarded
  | .run i env => ∀ t ∈ cfg.threads[i]?,
    (t.op.isLogin = true → ∀ t' ∈ cfg.threads, ¬ Critical t') ∧
    (t.op.isLogin = false → t.rest.next = some (.config (.deleteCache "JWTSecret")) →
      ∀ t' ∈ cfg.threads, ¬ InProgress t') ∧
    ∀ c ∈ t.rest.next, c.Allowed J cfg env
  | .restart => True

/-- A hub when it starts: what is marked as encrypted is, and the canary and the secret are marked.
Reference: `config/config.go:34 NewConfig`. -/
def HttpPool.Starts (A : Aead) (cfg : HttpPool) : Prop :=
  ∃ t : ConfigTable, t.Sealed A ∧
    (∀ key r, key = "UnlockPasswordCheck" ∨ key = "JWTSecret" → t.row key = some r →
      r.encrypted = true) ∧
    cfg = ⟨{ config := HubConfig.start t }, []⟩

/-- The runs of the service. Reference: none. -/
abbrev HttpRun (A : Aead) (J : Jwt) : HttpPool → Prop :=
  Reach (httpExec A J) (HttpOp.body J) (HttpPool.Starts A) (Separated J)

/-- What has to be found before an event. A token that is let through was given out since the last
change of the password, on a check of the password that succeeded since then, and is not expired; a
request is handled with a token that was let through, and one that is not a read with a token of
full access.
Reference: `http/http_service.go`. -/
def SessionEvent.Authentic (earlier : List SessionEvent) : SessionEvent → Prop
  | .granted token claims now => ∃ session, .issued session ∈ sinceChange earlier ∧
    session.token = token ∧ session.claims = claims ∧
    .checked session.unlockPassword ∈ sinceChange earlier ∧
    now < session.issuedAt + sessionLength session.expiryDays
  | .served route token => ∃ claims now, .granted token claims now ∈ earlier ∧
    (route.fullAccess = true ∨ route.method ≠ "GET" → claims.Permission = "full")
  | _ => True

/-- Every event of a trace has before it what it has to. Reference: none. -/
def AuthenticTrace (trace : List SessionEvent) : Prop :=
  ∀ later e earlier, trace = later ++ e :: earlier → e.Authentic earlier

end AlbyHub
