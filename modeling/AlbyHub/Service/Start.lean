import AlbyHub.Interaction.Pool

/-!
# Starting and stopping the node

`StartApp` checks that no client is set, starts a goroutine that stops the client when the context
of the attempt ends, and then lets the backend create the client. An attempt that fails cancels its
context and returns; `StopApp` cancels the context of the last attempt that succeeded and waits for
the goroutines. The goroutine stops whatever client is set by then.
-/

namespace AlbyHub.Node

open Interaction

/-- A client that a backend has created for an attempt, which is named by its context. Reference:
`lnclient/models.go LNClient`. -/
structure LNClient where
  id : Nat
  ctx : Nat
  deriving DecidableEq, Repr

/-- The calls of the two programs on the hub's fields and on what is around them. Reference:
`service/start.go:259 StartApp`, `service/stop.go`. -/
inductive NodeCmd where
  | tryLock
  | unlock
  | getUserIdentifier
  | isConnected
  | isUnlockPasswordCheckSet
  | checkUnlockPassword (encryptionKey : String)
  | loadJWTSecret (encryptionKey : String)
  | keysInit (encryptionKey : String)
  | lnClient
  | setLnClient (lnClient : Option LNClient)
  | lnClientShuttingDown
  | setShuttingDown (shuttingDown : Bool)
  | appCancelFn
  | setAppCancelFn (ctx : Nat)
  | withCancel
  | cancel (ctx : Nat)
  | cancelRoot
  | goStop (ctx : Nat)
  | done
  | wgDone (ctx : Nat)
  | wait
  | lnBackendType
  | requestVssToken
  | newService (lnBackend : String) (ctx : Nat)
  | shutdown (lnClient : LNClient)
  | startNostr (ctx : Nat)
  | crash
  deriving DecidableEq

/-- The answer to a call. Reference: the results of the calls of `NodeCmd`. -/
abbrev NodeCmd.Ans : NodeCmd → Type
  | .tryLock | .isConnected | .checkUnlockPassword _ | .lnClientShuttingDown => Bool
  | .getUserIdentifier => Except String String
  | .isUnlockPasswordCheckSet => Except String Bool
  | .loadJWTSecret _ | .keysInit _ | .requestVssToken | .shutdown _ | .startNostr _ =>
    Except String Unit
  | .lnClient => Option LNClient
  | .appCancelFn => Option Nat
  | .withCancel | .done => Nat
  | .lnBackendType => String
  | .newService _ _ => Except String LNClient
  | .crash => Empty
  | .unlock | .setLnClient _ | .setShuttingDown _ | .setAppCancelFn _ | .cancel _ | .cancelRoot
  | .goStop _ | .wgDone _ | .wait => Unit

abbrev NodeProg := Prog NodeCmd NodeCmd.Ans
abbrev NodeCall := Call NodeCmd NodeCmd.Ans

/-- Reference: the calls of `NodeCmd`. -/
def NodeCmd.issue (c : NodeCmd) : NodeProg c.Ans := Prog.call c

/-- A step that can fail, and what follows if it does not. Reference: `if err != nil { return err
}`. -/
def NodeProg.andThen {α β : Type} (p : NodeProg (Except String α))
    (f : α → NodeProg (Except String β)) : NodeProg (Except String β) := do
  match ← p with
  | .error e => return .error e
  | .ok a => f a

/-! ## Starting -/

/-- The backends that `launchLNBackend` knows. Reference: `config/models.go:4`. -/
def lnBackends : List String := ["LND", "LDK", "PHOENIX", "CASHU", "BARK", "CLN"]

/-- Reference: `service/start.go:353 launchLNBackend`. -/
def newLNClient (lnBackend : String) (ctx : Nat) : NodeProg (Except String LNClient) := do
  if lnBackend = "LDK" then
    NodeProg.andThen (NodeCmd.issue .requestVssToken) fun _ =>
      NodeCmd.issue (.newService lnBackend ctx)
  else if lnBackend ∈ lnBackends then NodeCmd.issue (.newService lnBackend ctx)
  else return .error ("unsupported backend type: " ++ lnBackend)

/-- What follows on the nil check. Reference: `service/start.go:337 launchLNBackend`. -/
def launch (ctx : Nat) : NodeProg (Except String Unit) := do
  NodeCmd.issue (.goStop ctx)
  let lnBackend ← NodeCmd.issue .lnBackendType
  if lnBackend = "" then return .error "no LNBackendType specified"
  else
    (newLNClient lnBackend ctx).andThen fun lnClient => do
      NodeCmd.issue (.setLnClient (some lnClient))
      return .ok ()

/-- Reference: `service/start.go:331 launchLNBackend`. -/
def launchLNBackend (ctx : Nat) : NodeProg (Except String Unit) := do
  match ← NodeCmd.issue .lnClient with
  | some _ => return .error "LNClient already started"
  | none => launch ctx

/-- Reference: `service/start.go:265 StartApp`. -/
def checkAccount : NodeProg (Except String Unit) :=
  NodeProg.andThen (NodeCmd.issue .getUserIdentifier) fun albyIdentifier => do
    if albyIdentifier = "" then return .ok ()
    else do
      let connected ← NodeCmd.issue .isConnected
      if connected then return .ok () else return .error "alby account is not authenticated"

/-- Reference: `service/start.go:276 StartApp`. -/
def unlockHub (encryptionKey : String) : NodeProg (Except String Unit) := do
  match ← NodeCmd.issue .isUnlockPasswordCheckSet with
  | .error e => return .error ("check unlock password check: " ++ e)
  | .ok false =>
    return .error
      "your wallet data is incomplete and cannot be unlocked. Please restore from a backup"
  | .ok true => do
    let right ← NodeCmd.issue (.checkUnlockPassword encryptionKey)
    if right then
      NodeProg.andThen (NodeCmd.issue (.loadJWTSecret encryptionKey)) fun _ =>
        NodeCmd.issue (.keysInit encryptionKey)
    else return .error "invalid password"

/-- The attempt with its own context; one that fails cancels it. Reference: `service/start.go:301
StartApp`. -/
def attempt : NodeProg (Except String Unit) := do
  let ctx ← NodeCmd.issue .withCancel
  let launched ← (launchLNBackend ctx).andThen fun _ => NodeCmd.issue (.startNostr ctx)
  match launched with
  | .error e => do
    NodeCmd.issue (.cancel ctx)
    return .error e
  | .ok () => do
    NodeCmd.issue (.setAppCancelFn ctx)
    return .ok ()

/-- Reference: `service/start.go:259 StartApp`. -/
def StartApp (encryptionKey : String) : NodeProg (Except String Unit) :=
  checkAccount.andThen fun _ => do
    match ← NodeCmd.issue .lnClient with
    | some _ => return .error "app already started"
    | none => (unlockHub encryptionKey).andThen fun _ => attempt

/-! ## Stopping -/

/-- Reference: `service/stop.go:10 StopApp`. -/
def StopApp : NodeProg Unit := do
  match ← NodeCmd.issue .appCancelFn with
  | none => return ()
  | some ctx => do
    NodeCmd.issue (.cancel ctx)
    NodeCmd.issue .wait

/-- What `stopLNClient` does between its first statement and its deferred ones; a client that was
cleared in between makes the call on it panic. Reference: `service/stop.go:26 stopLNClient`. -/
def shutdownLNClient : NodeProg Unit := do
  match ← NodeCmd.issue .lnClient with
  | none => return ()
  | some _ => do
    match ← NodeCmd.issue .lnClient with
    | none => do
      let never ← NodeCmd.issue .crash
      nomatch never
    | some lnClient => do
      NodeCmd.issue (.setLnClient none)
      let _ ← NodeCmd.issue (.shutdown lnClient)
      return ()

/-- The goroutine of an attempt. Reference: `service/start.go:338 launchLNBackend`,
`service/stop.go:19 stopLNClient`. -/
def stopLNClient : NodeProg Unit := do
  let ctx ← NodeCmd.issue .done
  NodeCmd.issue (.setShuttingDown true)
  shutdownLNClient
  NodeCmd.issue (.setShuttingDown false)
  NodeCmd.issue (.wgDone ctx)

/-! ## The calls of the API -/

/-- A call runs when no other one does. Reference: `api/api.go:1725 startMutex`. -/
def withStartMutex (p : NodeProg (Except String Unit)) : NodeProg (Except String Unit) := do
  let locked ← NodeCmd.issue .tryLock
  if locked then do
    let err ← p
    NodeCmd.issue .unlock
    return err
  else return .error "app is busy"

/-- Reference: `service/service.go:260 GetLNClient`. -/
def GetLNClient : NodeProg (Option LNClient) := do
  let shuttingDown ← NodeCmd.issue .lnClientShuttingDown
  if shuttingDown then return none else NodeCmd.issue .lnClient

/-- Reference: `api/api.go:839 Stop`. -/
def stopNode : NodeProg (Except String Unit) := do
  match ← GetLNClient with
  | none => return .error "LNClient not started"
  | some _ => do
    StopApp
    return .ok ()

/-- The calls: those of the hub itself (its automatic start, its shutdown, a backup), those of the
API, the goroutines, and a signal that ends the process. Reference: `service/models.go:20 Service`,
`api/api.go:1737 startInternal`, `:839 Stop`, `cmd/http/main.go:42`. -/
inductive NodeOp where
  | startApp (encryptionKey : String)
  | stopApp
  | start (encryptionKey : String)
  | stop
  | stopGoroutine
  | signal
  deriving DecidableEq

/-- Reference: the functions of the calls. -/
def nodeBody : NodeOp → NodeProg (Except String Unit)
  | .startApp encryptionKey => StartApp encryptionKey
  | .stopApp => do StopApp; return .ok ()
  | .start encryptionKey => withStartMutex (StartApp encryptionKey)
  | .stop => withStartMutex stopNode
  | .stopGoroutine => do stopLNClient; return .ok ()
  | .signal => do NodeCmd.issue .cancelRoot; return .ok ()

/-! ## The hub -/

/-- The hub's fields, its contexts and goroutines, and the clients: `waiting` are the contexts whose
goroutine waits for their end, `wg` those whose goroutine has not returned, and `running` the
clients that were created and not yet shut down. Reference: `service/service.go:33 service`. -/
structure NodeHub where
  startMutex : Bool := false
  lnClient : Option LNClient := none
  shuttingDown : Bool := false
  appCancelFn : Option Nat := none
  rootCancelled : Bool := false
  cancelled : List Nat := []
  nextCtx : Nat := 0
  waiting : List Nat := []
  wg : List Nat := []
  running : List LNClient := []
  nextClient : Nat := 0
  deriving DecidableEq, Repr

/-- Reference: `context.Context Done`. -/
def NodeHub.Done (s : NodeHub) (ctx : Nat) : Prop := s.rootCancelled = true ∨ ctx ∈ s.cancelled

instance (s : NodeHub) (ctx : Nat) : Decidable (s.Done ctx) := inferInstanceAs (Decidable (_ ∨ _))

/-- What is around a command: the error of a call outside the hub, its answer, and the goroutine
that the scheduler picks. Reference: none. -/
structure NodeEnv where
  fault : Option String := none
  text : String := ""
  flag : Bool := true
  goroutine : Nat := 0
  deriving DecidableEq, Repr

/-- Reference: `(value, err)`. -/
def NodeEnv.answer {α : Type} (env : NodeEnv) (a : α) : Except String α :=
  match env.fault with
  | some e => .error e
  | none => .ok a

/-- Reference: the calls of `NodeCmd`. -/
def nodeExec (s : NodeHub) : (c : NodeCmd) → NodeEnv → Option (c.Ans × NodeHub)
  | .tryLock, _ => some (!s.startMutex, { s with startMutex := true })
  | .unlock, _ => some ((), { s with startMutex := false })
  | .getUserIdentifier, env => some (env.answer env.text, s)
  | .isConnected, env => some (env.flag, s)
  | .isUnlockPasswordCheckSet, env => some (env.answer env.flag, s)
  | .checkUnlockPassword _, env => some (env.flag, s)
  | .loadJWTSecret _, env => some (env.answer (), s)
  | .keysInit _, env => some (env.answer (), s)
  | .lnClient, _ => some (s.lnClient, s)
  | .setLnClient lnClient, _ => some ((), { s with lnClient := lnClient })
  | .lnClientShuttingDown, _ => some (s.shuttingDown, s)
  | .setShuttingDown shuttingDown, _ => some ((), { s with shuttingDown := shuttingDown })
  | .appCancelFn, _ => some (s.appCancelFn, s)
  | .setAppCancelFn ctx, _ => some ((), { s with appCancelFn := some ctx })
  | .withCancel, _ => some (s.nextCtx, { s with nextCtx := s.nextCtx + 1 })
  | .cancel ctx, _ => some ((), { s with cancelled := ctx :: s.cancelled })
  | .cancelRoot, _ => some ((), { s with rootCancelled := true })
  | .goStop ctx, _ => some ((), { s with waiting := ctx :: s.waiting, wg := ctx :: s.wg })
  | .done, env =>
    if env.goroutine ∈ s.waiting ∧ s.Done env.goroutine then
      some (env.goroutine, { s with waiting := s.waiting.erase env.goroutine })
    else none
  | .wgDone ctx, _ => some ((), { s with wg := s.wg.erase ctx })
  | .wait, _ => if s.wg = [] then some ((), s) else none
  | .lnBackendType, env => some (env.text, s)
  | .requestVssToken, env => some (env.answer (), s)
  | .newService _ ctx, env =>
    match env.fault with
    | some e => some (.error e, s)
    | none => some (.ok ⟨s.nextClient, ctx⟩, { s with
        running := s.running ++ [⟨s.nextClient, ctx⟩], nextClient := s.nextClient + 1 })
  | .shutdown lnClient, env =>
    match env.fault with
    | some e => some (.error e, s)
    | none => some (.ok (), { s with running := s.running.erase lnClient })
  | .startNostr _, env => some (env.answer (), s)
  | .crash, _ => none

abbrev NodePool := Config NodeHub NodeCmd NodeCmd.Ans NodeOp (Except String Unit)
abbrev NodeLabel := Label NodeOp NodeEnv

/-- The hub has just begun. Reference: `service/service.go:52 NewService`. -/
def FreshNode (cfg : NodePool) : Prop := cfg.state = {} ∧ cfg.threads = []

end AlbyHub.Node
