import AlbyHub.Config.Config

/-!
# Setting up and starting the hub

The callers that write encrypted values: the setup request, the keys of the hub, and the start. What
they read and write outside the configuration (the files of a backend, the generation of keys, the
launch of the node) is a command `outside`.
-/

namespace AlbyHub

open Interaction

/-- Reference: `api/models.go SetupRequest`. -/
structure SetupRequest where
  LNBackendType : String := ""
  UnlockPassword : String
  Mnemonic : String := ""
  NextBackupReminder : String := ""
  LNDAddress : String := ""
  LNDCertFile : String := ""
  LNDMacaroonFile : String := ""
  PhoenixdAddress : String := ""
  PhoenixdAuthorization : String := ""
  CashuMintUrl : String := ""
  CLNAddress : String := ""
  CLNLightningDir : String := ""
  CLNAddressHold : String := ""
  deriving DecidableEq, Repr

/-- `SetUpdate` of a value that is not empty. Reference: `api/api.go:1790 Setup`. -/
def saveNonEmpty (key value encryptionKey : String) : Cfg (Except ConfigErr Unit) :=
  if value = "" then return .ok () else SetUpdate key value encryptionKey

/-- A value that is read from a file of the request, with the error that the request is told.
Reference: `api/api.go:1811 Setup`. -/
def saveFromFile (key file read text encryptionKey : String) : Cfg (Except ConfigErr Unit) :=
  if file = "" then return .ok () else do
    match ← cfgAsk (.outside read) with
    | .error _ => return .error (.message text)
    | .ok value => SetUpdate key value encryptionKey

/-- Reference: `api/api.go:1880 Setup`, `CLNLightningDir`. -/
def saveLightningDir (dir encryptionKey : String) : Cfg (Except ConfigErr Unit) :=
  if dir = "" then return .ok () else do
    match ← cfgAsk (.outside "validateCLNLightningDir") with
    | .error _ => return .error (.message "invalid CLN lightning directory")
    | .ok _ => SetUpdate "CLNLightningDir" dir encryptionKey

/-- `info.SetupCompleted`; the other values that the call reads are left out. Reference:
`api/api.go:1509 GetInfo`, `config/config.go:138 SetupCompleted`. -/
def setupCompleted : Cfg (Except ConfigErr Bool) := do
  match ← cfgAsk (.outside "nodeMigrationFileCreated") with
  | .ok _ => return .ok true
  | .error _ =>
    orReturn (cfgAsk (.get "NodeLastStartTime" "")) fun nodeLastStartTime =>
      return .ok (nodeLastStartTime ≠ "")

/-- The values that a setup request sets, in order. Reference: `api/api.go:1790 Setup`. -/
def saveSetup (setupRequest : SetupRequest) : Cfg (Except ConfigErr Unit) :=
  orReturn (saveNonEmpty "LNBackendType" setupRequest.LNBackendType "") fun _ =>
  orReturn (saveNonEmpty "Mnemonic" setupRequest.Mnemonic setupRequest.UnlockPassword) fun _ =>
  orReturn (saveNonEmpty "LNDAddress" setupRequest.LNDAddress setupRequest.UnlockPassword) fun _ =>
  orReturn (saveFromFile "LNDCertHex" setupRequest.LNDCertFile "readAndCanonicalizeLNDCert"
    "invalid LND certificate file" setupRequest.UnlockPassword) fun _ =>
  orReturn (saveFromFile "LNDMacaroonHex" setupRequest.LNDMacaroonFile
    "readAndCanonicalizeLNDMacaroon" "invalid LND macaroon file" setupRequest.UnlockPassword)
      fun _ =>
  orReturn (saveNonEmpty "PhoenixdAddress" setupRequest.PhoenixdAddress
    setupRequest.UnlockPassword) fun _ =>
  orReturn (saveNonEmpty "PhoenixdAuthorization" setupRequest.PhoenixdAuthorization
    setupRequest.UnlockPassword) fun _ =>
  orReturn (saveNonEmpty "CashuMintUrl" setupRequest.CashuMintUrl setupRequest.UnlockPassword)
    fun _ =>
  orReturn (saveNonEmpty "CLNAddress" setupRequest.CLNAddress setupRequest.UnlockPassword) fun _ =>
  orReturn (saveLightningDir setupRequest.CLNLightningDir setupRequest.UnlockPassword) fun _ =>
  saveNonEmpty "CLNAddressHold" setupRequest.CLNAddressHold setupRequest.UnlockPassword

/-- The call while it holds the start mutex; `defaultClient` says that the hub has persistent
storage. Reference: `api/api.go:1752 Setup`. -/
def setupLocked (defaultClient : Bool) (setupRequest : SetupRequest) :
    Cfg (Except ConfigErr Unit) :=
  orReturn setupCompleted fun completed =>
  if completed then return .error (.message "setup already completed")
  else if setupRequest.UnlockPassword = "" then
    return .error (.message "no unlock password provided")
  else if defaultClient = false ∧
      (setupRequest.LNBackendType = "BARK" ∨ setupRequest.LNBackendType = "CASHU") then
    return .error (.message (setupRequest.LNBackendType ++
      " backend is not supported in this environment (no persistent storage)"))
  else
    orReturn (SaveUnlockPasswordCheck setupRequest.UnlockPassword) fun _ => do
      -- the result of this write is only logged
      let _ ← SetUpdate "NextBackupReminder" setupRequest.NextBackupReminder ""
      saveSetup setupRequest

/-- Reference: `service/keys/keys.go:48 Init`. -/
def keysInit (encryptionKey : String) : Cfg (Except ConfigErr Unit) :=
  orReturn (cfgAsk (.get "NostrSecretKey" encryptionKey)) fun nostrSecretKey =>
  orReturn (if nostrSecretKey = "" then
      orReturn (cfgAsk (.outside "GeneratePrivateKey")) fun nostrSecretKey =>
        SetUpdate "NostrSecretKey" nostrSecretKey encryptionKey
    else return .ok ()) fun _ =>
  orReturn (cfgAsk (.outside "GetPublicKey")) fun _ =>
  orReturn (cfgAsk (.get "Mnemonic" encryptionKey)) fun mnemonic =>
  orReturn (if mnemonic = "" then
      orReturn (cfgAsk (.outside "NewMnemonic")) fun mnemonic =>
        SetUpdate "Mnemonic" mnemonic encryptionKey
    else return .ok ()) fun _ =>
  orReturn (cfgAsk (.outside "NewMasterKey")) fun _ => return .ok ()

/-- The token of a node that stores its state remotely. Reference: `service/start.go:476
requestVssToken`. -/
def fetchVssToken : Cfg (Except ConfigErr String) := do
  match ← cfgAsk (.get "LdkVssEnabled" "") with
  | .ok "true" =>
    match ← cfgAsk (.outside "GetVssAuthToken") with
    | .error e =>
      match ← cfgAsk (.get "VssToken" "") with
      | .ok existingVssToken =>
        return if existingVssToken = "" then .error e else .ok existingVssToken
      | .error _ => return .error e
    | .ok vssToken => do
      let _ ← SetUpdate "VssToken" vssToken ""
      return .ok vssToken
  | _ => return .ok ""

/-- Reference: `service/start.go:449 requestVssToken`. -/
def requestVssToken : Cfg (Except ConfigErr String) := do
  let _ ← cfgAsk (.get "NodeLastStartTime" "")
  orReturn (cfgAsk (.outside "paidSubscriber")) fun planCode =>
  if planCode = "" then fetchVssToken else do
    let _ ← SetUpdate "LdkVssEnabled" "true" ""
    fetchVssToken

/-- The values that a backend is started with. Reference: `service/start.go:353 launchLNBackend`. -/
def backendKeys : String → Option (List String)
  | "LND" => some ["LNDAddress", "LNDCertHex", "LNDMacaroonHex"]
  | "LDK" | "BARK" => some ["Mnemonic"]
  | "PHOENIX" => some ["PhoenixdAddress", "PhoenixdAuthorization"]
  | "CASHU" => some ["Mnemonic", "CashuMintUrl"]
  | "CLN" => some ["CLNAddress", "CLNLightningDir", "CLNAddressHold"]
  | _ => none

/-- The reads whose errors are dropped. Reference: `service/start.go:353 launchLNBackend`. -/
def readAll (encryptionKey : String) : List String → Cfg Unit
  | [] => return ()
  | key :: keys => do
    let _ ← cfgAsk (.get key encryptionKey)
    readAll encryptionKey keys

/-- Reference: `service/start.go:331 launchLNBackend`. -/
def launchLNBackend (encryptionKey : String) : Cfg (Except ConfigErr Unit) := do
  match ← cfgAsk (.get "LNBackendType" "") with
  | .error _ | .ok "" => return .error (.message "no LNBackendType specified")
  | .ok lnBackend =>
    match backendKeys lnBackend with
    | none => return .error (.message ("unsupported backend type: " ++ lnBackend))
    | some keys => do
      readAll encryptionKey keys
      orReturn (if lnBackend = "LDK" then requestVssToken else return .ok "") fun _ =>
      orReturn (cfgAsk (.outside "NewLNClient")) fun now => do
        let _ ← SetUpdate "NodeLastStartTime" now ""
        return .ok ()

/-- Reference: `service/start.go:259 StartApp`. -/
def StartApp (encryptionKey : String) : Cfg (Except ConfigErr Unit) :=
  orReturn (cfgAsk (.outside "albyAccount")) fun _ =>
  orReturn (cfgAsk (.outside "lnClient")) fun _ =>
  orReturn IsUnlockPasswordCheckSet fun unlockPasswordCheckSet =>
  if unlockPasswordCheckSet = false then
    return .error (.message ("your wallet data is incomplete and cannot be unlocked. " ++
      "Please restore from a backup"))
  else do
    match ← CheckUnlockPassword encryptionKey with
    | false => return .error (.message "invalid password")
    | true =>
      orReturn (LoadJWTSecret encryptionKey) fun _ =>
      orReturn (keysInit encryptionKey) fun _ =>
      orReturn (launchLNBackend encryptionKey) fun _ =>
      orReturn (cfgAsk (.outside "startNostr")) fun _ => return .ok ()

/-- A call under the mutex of the start. Reference: `api/api.go:1738 startInternal`, `:1747
Setup`. -/
def withStartMutex (p : Cfg (Except ConfigErr Unit)) : Cfg (Except ConfigErr Unit) := do
  match ← cfgAsk .tryLockStart with
  | false => return .error (.message "app is busy")
  | true =>
    let result ← p
    cfgAsk .unlockStart
    return result

/-- Reference: `api/api.go:1746 Setup`. -/
def Setup (defaultClient : Bool) (setupRequest : SetupRequest) : Cfg (Except ConfigErr Unit) :=
  withStartMutex (setupLocked defaultClient setupRequest)

/-- A value of the settings that is stored under the unlock password. Reference: `api/api.go:1094
EnableAutoSwapOut`, the destination. -/
def saveUnderPassword (key value unlockPassword : String) : Cfg (Except ConfigErr Unit) := do
  match ← CheckUnlockPassword unlockPassword with
  | false => return .error (.message "invalid unlock password")
  | true => SetUpdate key value unlockPassword

/-- The calls on the configuration. `setUpdate` and `setIgnore` are those of other components, under
a constant key; `autoUnlock` starts the hub without the mutex, and `reboot` is a new process.
Reference: the callers of `config/config.go`; `service/service.go:160`. -/
inductive ConfigOp where
  | get (key encryptionKey : String)
  | setUpdate (key value encryptionKey : String)
  | setIgnore (key value encryptionKey : String)
  | saveUnderPassword (key value unlockPassword : String)
  | setup (defaultClient : Bool) (setupRequest : SetupRequest)
  | start (unlockPassword : String)
  | autoUnlock (unlockPassword : String)
  | keysInit (encryptionKey : String)
  | loadJWTSecret (encryptionKey : String)
  | changeUnlockPassword (currentUnlockPassword newUnlockPassword : String)
  | reboot
  deriving DecidableEq, Repr

/-- The program of a call. Reference: the callers of `config/config.go`. -/
def ConfigOp.body : ConfigOp → Cfg (Except ConfigErr Unit)
  | .get key encryptionKey => orReturn (cfgAsk (.get key encryptionKey)) fun _ => return .ok ()
  | .setUpdate key value encryptionKey => SetUpdate key value encryptionKey
  | .setIgnore key value encryptionKey => SetIgnore key value encryptionKey
  | .saveUnderPassword key value unlockPassword =>
    AlbyHub.saveUnderPassword key value unlockPassword
  | .setup defaultClient setupRequest => Setup defaultClient setupRequest
  | .start unlockPassword => withStartMutex (StartApp unlockPassword)
  | .autoUnlock unlockPassword => StartApp unlockPassword
  | .keysInit encryptionKey => AlbyHub.keysInit encryptionKey
  | .loadJWTSecret encryptionKey => LoadJWTSecret encryptionKey
  | .changeUnlockPassword currentUnlockPassword newUnlockPassword =>
    ChangeUnlockPassword currentUnlockPassword newUnlockPassword
  | .reboot => do
    cfgAsk .reboot
    return .ok ()

/-- The key of a call of another component is a name. Reference: the callers of `SetUpdate` and
`SetIgnore`, which pass constants. -/
def ConfigOp.Named : ConfigOp → Prop
  | .get key _ | .setUpdate key _ _ | .setIgnore key _ _ | .saveUnderPassword key _ _ => key ≠ ""
  | _ => True

end AlbyHub
