import AlbyHub.Config.AesGcm
import AlbyHub.Db.Table
import AlbyHub.Interaction.Pool

/-!
# The configuration

The table `user_configs`, the cache of decrypted values in front of it, and the JWT secret in
memory. A call is a program over `ConfigCmd`: a read through the cache, one statement or transaction
of the database, the removal of a cache entry. `Get` holds the cache's mutex while it reads the
database, so it is one command; a writer changes the database first and drops the cache entry
afterwards.
-/

namespace AlbyHub

open Go Interaction

/-- A row of `user_configs`. Reference: `db/models.go:9 UserConfig`. -/
structure UserConfig where
  key : String
  value : String
  encrypted : Bool
  deriving DecidableEq, Repr

/-- The table; a key names at most one row. Reference:
`db/migrations/202401191539_initial_migration.sql.tmpl`, `idx_user_configs_key`. -/
structure ConfigTable where
  rows : List UserConfig
  keys_nodup : (rows.map (·.key)).Nodup

namespace ConfigTable

/-- The table of a new hub. Reference: none. -/
def empty : ConfigTable := ⟨[], List.nodup_nil⟩

/-- The row of a key. Reference: `idx_user_configs_key`. -/
def row (t : ConfigTable) (key : String) : Option UserConfig := t.rows.find? (·.key = key)

/-- `Where(&db.UserConfig{Key: key}).Limit(1).Find(…)`; the empty key does not filter. Reference:
`config/config.go:271 get`. -/
def find (t : ConfigTable) (n : Nat) (key : String) : Option UserConfig :=
  pick n (t.rows.filter fun r => key = "" ∨ r.key = key)

/-- The row after a change of its value, and of the flag where the statement assigns it. Reference:
`config/config.go:325 SetUpdate`, `:364 ChangeUnlockPassword`. -/
def assign (key value : String) (encrypted : Option Bool) (r : UserConfig) : UserConfig :=
  if r.key = key then ⟨r.key, value, encrypted.getD r.encrypted⟩ else r

theorem assign_key (key value : String) (encrypted : Option Bool) (r : UserConfig) :
    (assign key value encrypted r).key = r.key := by
  unfold assign; split <;> rfl

/-- `ON CONFLICT (key) DO UPDATE` where the row is there. Reference: gorm `clause.OnConflict`. -/
def update (t : ConfigTable) (key value : String) (encrypted : Option Bool) : ConfigTable where
  rows := t.rows.map (assign key value encrypted)
  keys_nodup := by
    rw [List.map_map]
    have : ((·.key) ∘ assign key value encrypted : UserConfig → String) = (·.key) :=
      funext (assign_key key value encrypted)
    rw [this]
    exact t.keys_nodup

/-- An insertion where no row has the key. Reference: gorm `Create`. -/
def insert (t : ConfigTable) (r : UserConfig) (h : t.row r.key = none) : ConfigTable where
  rows := t.rows ++ [r]
  keys_nodup := by
    rw [List.map_append, List.nodup_append]
    refine ⟨t.keys_nodup, by simp, fun key hkey key' hkey' he => ?_⟩
    obtain ⟨r', hr', rfl⟩ := List.mem_map.1 hkey
    have hne := List.find?_eq_none.1 h r' hr'
    simp only [List.map_cons, List.map_nil, List.mem_singleton] at hkey'
    simp only [decide_eq_true_eq] at hne
    exact hne (he.trans hkey')

/-- `Delete(&db.UserConfig{})` where the key is given. Reference: `config/config.go:376
ChangeUnlockPassword`. -/
def delete (t : ConfigTable) (key : String) : ConfigTable where
  rows := t.rows.filter (·.key ≠ key)
  keys_nodup := t.keys_nodup.sublist (List.filter_sublist.map _)

end ConfigTable

/-- What an insertion does where the key is there. Reference: `config/config.go:311 SetIgnore`,
`:324 SetUpdate`, `:362 ChangeUnlockPassword`. -/
inductive OnConflict where
  | doNothing
  | doUpdates
  | doUpdateValue
  deriving DecidableEq, Repr

/-- `Clauses(clauses).Create(&userConfig)`. Reference: `config/config.go:296 set`. -/
def ConfigTable.create (t : ConfigTable) (onConflict : OnConflict) (r : UserConfig) : ConfigTable :=
  match h : t.row r.key with
  | none => t.insert r h
  | some _ =>
    match onConflict with
    | .doNothing => t
    | .doUpdates => t.update r.key r.value (some r.encrypted)
    | .doUpdateValue => t.update r.key r.value none

/-- The configuration: the table, the cache by key and digest of the password, and the JWT secret in
memory; and the mutex of the calls that set the hub up or start it. Reference: `config/config.go:21
config`, `api/api.go:1725 startMutex`. -/
structure HubConfig where
  table : ConfigTable
  cache : String → String → Option String
  jwtSecret : String
  startMutex : Bool

/-- The configuration when the hub starts. Reference: `config/config.go:34 NewConfig`. -/
def HubConfig.start (t : ConfigTable) : HubConfig := ⟨t, fun _ _ => none, "", false⟩

/-- An error of the configuration. Reference: the errors of `config/config.go`. -/
inductive ConfigErr where
  | message (text : String)
  | cipher (e : CipherErr)
  deriving DecidableEq, Repr

/-- A nonce has 12 bytes. Reference: `config/aesgcm.go:69 AesGcmEncryptWithKey`. -/
abbrev Nonce := { bytes : List UInt8 // bytes.length = 12 }

/-- What a command takes from outside: a failure of the database or of the system's randomness, the
number of rows that a change of the password comes to where it fails on the way, the database's
choice among rows, the random bytes of the encryptions, by number, a random text, and the result of
what is not the configuration's. Reference: none. -/
structure ConfigEnv where
  fault : Option String := none
  reached : Option Nat := none
  pick : Nat := 0
  salt : Nat → List UInt8 := fun _ => []
  nonce : Nat → Nonce := fun _ => ⟨List.replicate 12 0, rfl⟩
  outside : Except String String := .ok ""

/-- `encryptedKeys` begins the transaction of a password change, `changePasswordTx` ends it;
`outside` is a call of another part of the hub, and `reboot` a new process. Reference:
`config/config.go`, the calls on `cfg.db`, `cfg.cache`, `cfg.jwtSecret` and `rand`; `api/api.go`,
`startMutex`. -/
inductive ConfigCmd where
  | get (key encryptionKey : String)
  | create (onConflict : OnConflict) (key value encryptionKey : String)
  | deleteCache (key : String)
  | encryptedKeys
  | changePasswordTx (keys : List String) (currentUnlockPassword newUnlockPassword : String)
  | getJwtSecret
  | setJwtSecret (jwtSecret : String)
  | tryLockStart
  | unlockStart
  | outside (what : String)
  | reboot
  deriving DecidableEq

/-- The answer to a command. Reference: the results of the calls of `ConfigCmd`. -/
abbrev ConfigCmd.Ans : ConfigCmd → Type
  | .get _ _ | .outside _ => Except ConfigErr String
  | .create _ _ _ _ | .changePasswordTx _ _ _ => Except ConfigErr Unit
  | .encryptedKeys => List String
  | .deleteCache _ | .setJwtSecret _ | .unlockStart | .reboot => Unit
  | .getJwtSecret => String
  | .tryLockStart => Bool

/-- Reference: `config/config.go:231 getEncryptionKeyHash`. -/
def getEncryptionKeyHash (A : Aead) (encryptionKey : String) : String :=
  if encryptionKey = "" then "" else A.sha256Prefix encryptionKey

/-- The value of a row under a password. Reference: `config/config.go:276 get`. -/
def UserConfig.read (A : Aead) (userConfig : UserConfig) (encryptionKey : String) :
    Except ConfigErr String :=
  if userConfig.value ≠ "" ∧ encryptionKey ≠ "" ∧ userConfig.encrypted = true then
    (AesGcmDecryptWithPassword A userConfig.value encryptionKey).mapError .cipher
  else .ok userConfig.value

/-- Reference: `config/config.go:269 get`. -/
def ConfigTable.get (A : Aead) (t : ConfigTable) (n : Nat) (key encryptionKey : String) :
    Except ConfigErr String :=
  match t.find n key with
  | none => .ok ""
  | some userConfig => userConfig.read A encryptionKey

/-- The row that a write stores; `i` is the number of the encryption. Reference:
`config/config.go:287 set`. -/
def userConfigOf (A : Aead) (env : ConfigEnv) (i : Nat) (key value encryptionKey : String) :
    Except ConfigErr UserConfig :=
  if encryptionKey ≠ "" then
    match AesGcmEncryptWithPassword A (env.salt i) (env.nonce i).1 value encryptionKey with
    | .ok encrypted => .ok ⟨key, encrypted, true⟩
    | .error e => .error (.cipher e)
  else .ok ⟨key, value, false⟩

/-- The loop over the encrypted rows. Reference: `config/config.go:353 ChangeUnlockPassword`. -/
def reencrypt (A : Aead) (env : ConfigEnv) (currentUnlockPassword newUnlockPassword : String) :
    Nat → List UserConfig → ConfigTable → Except ConfigErr ConfigTable
  | _, [], t => .ok t
  | i, userConfig :: userConfigs, t =>
    match t.get A env.pick userConfig.key currentUnlockPassword with
    | .error e => .error e
    | .ok decryptedValue =>
      match userConfigOf A env i userConfig.key decryptedValue newUnlockPassword with
      | .error e => .error e
      | .ok r => reencrypt A env currentUnlockPassword newUnlockPassword (i + 1) userConfigs
        (t.create .doUpdateValue r)

/-- The rows that are encrypted. Reference: `config/config.go:346 ChangeUnlockPassword`. -/
def ConfigTable.encryptedRows (t : ConfigTable) : List UserConfig := t.rows.filter (·.encrypted)

/-- The transaction of a password change. Reference: `config/config.go:343 ChangeUnlockPassword`. -/
def changePasswordTx (A : Aead) (env : ConfigEnv) (t : ConfigTable)
    (currentUnlockPassword newUnlockPassword : String) : Except ConfigErr ConfigTable :=
  match reencrypt A env currentUnlockPassword newUnlockPassword 0 t.encryptedRows t with
  | .error e => .error e
  | .ok t => .ok (t.delete "JWTSecret")

/-- The cache without the entries of some keys. Reference: `config/config.go:305 set`. -/
def HubConfig.dropCache (s : HubConfig) (p : String → Bool) : HubConfig :=
  { s with cache := fun key hash => if p key then none else s.cache key hash }

/-- What a command does in an environment. Reference: the calls of `ConfigCmd`. -/
def configExec (A : Aead) (s : HubConfig) : (c : ConfigCmd) → ConfigEnv → Option (c.Ans × HubConfig)
  | .get key encryptionKey, env =>
    let hash := getEncryptionKeyHash A encryptionKey
    match s.cache key hash with
    | some value => some (.ok value, s)
    | none =>
      match env.fault, s.table.get A env.pick key encryptionKey with
      | some e, _ => some (.error (.message ("failed to get configuration value: " ++ e)), s)
      | none, .error e => some (.error e, s)
      | none, .ok value => some (.ok value, { s with
        cache := fun key' hash' =>
          if key' = key ∧ hash' = hash then some value else s.cache key' hash' })
  | .create onConflict key value encryptionKey, env =>
    match env.fault, userConfigOf A env 0 key value encryptionKey with
    | some e, _ => some (.error (.message ("failed to save key to config: " ++ e)), s)
    | none, .error e => some (.error e, s)
    | none, .ok r => some (.ok (), { s with table := s.table.create onConflict r })
  | .deleteCache key, _ => some ((), s.dropCache (· = key))
  | .encryptedKeys, env =>
    let keys := s.table.encryptedRows.map (·.key)
    some (keys.take (env.reached.getD keys.length), s)
  | .changePasswordTx keys currentUnlockPassword newUnlockPassword, env =>
    match env.fault, changePasswordTx A env s.table currentUnlockPassword newUnlockPassword with
    | some e, _ => some (.error (.message e), s)
    | none, .error e => some (.error e, s)
    | none, .ok t =>
      -- a write that came between the begin and the commit makes the commit fail
      if s.table.encryptedRows.map (·.key) = keys then some (.ok (), { s with table := t })
      else some (.error (.message "could not serialize access due to concurrent update"), s)
  | .getJwtSecret, _ => some (s.jwtSecret, s)
  | .setJwtSecret jwtSecret, _ => some ((), { s with jwtSecret := jwtSecret })
  | .tryLockStart, _ => some (!s.startMutex, { s with startMutex := true })
  | .unlockStart, _ => some ((), { s with startMutex := false })
  | .outside _, env => some (env.outside.mapError .message, s)
  | .reboot, _ => some ((), HubConfig.start s.table)

/-- A program of the configuration. Reference: none. -/
abbrev Cfg := Prog ConfigCmd ConfigCmd.Ans

/-- One command. Reference: none. -/
abbrev cfgAsk (c : ConfigCmd) : Cfg c.Ans := Prog.call c

/-- `err := p; if err != nil { return err }`. Reference: the Go language. -/
def orReturn {α β : Type} (p : Cfg (Except ConfigErr α)) (f : α → Cfg (Except ConfigErr β)) :
    Cfg (Except ConfigErr β) := do
  match ← p with
  | .error e => return .error e
  | .ok a => f a

/-- Reference: `config/config.go:287 set`. -/
def cfgSet (onConflict : OnConflict) (key value encryptionKey : String) :
    Cfg (Except ConfigErr Unit) :=
  orReturn (cfgAsk (.create onConflict key value encryptionKey)) fun _ => do
    cfgAsk (.deleteCache key)
    return .ok ()

/-- Reference: `config/config.go:310 SetIgnore`. -/
def SetIgnore (key value encryptionKey : String) : Cfg (Except ConfigErr Unit) :=
  cfgSet .doNothing key value encryptionKey

/-- Reference: `config/config.go:323 SetUpdate`. -/
def SetUpdate (key value encryptionKey : String) : Cfg (Except ConfigErr Unit) :=
  cfgSet .doUpdates key value encryptionKey

/-- Reference: `config/config.go:31 unlockPasswordCheck`. -/
def unlockPasswordCheck : String := "THIS STRING SHOULD MATCH IF PASSWORD IS CORRECT"

/-- Reference: `config/config.go:408 CheckUnlockPassword`. -/
def CheckUnlockPassword (encryptionKey : String) : Cfg Bool := do
  match ← cfgAsk (.get "UnlockPasswordCheck" encryptionKey) with
  | .error _ => return false
  | .ok decryptedValue => return decryptedValue ≠ "" && decryptedValue = unlockPasswordCheck

/-- Reference: `config/config.go:415 IsUnlockPasswordCheckSet`. -/
def IsUnlockPasswordCheckSet : Cfg (Except ConfigErr Bool) :=
  orReturn (cfgAsk (.get "UnlockPasswordCheck" "")) fun value => return .ok (value ≠ "")

/-- Reference: `config/config.go:425 SaveUnlockPasswordCheck`. -/
def SaveUnlockPasswordCheck (encryptionKey : String) : Cfg (Except ConfigErr Unit) :=
  SetUpdate "UnlockPasswordCheck" unlockPasswordCheck encryptionKey

/-- The entries of the rows that the loop has stored, one after the other. Reference:
`config/config.go:305 set`. -/
def dropEntries : List String → Cfg Unit
  | [] => return ()
  | key :: keys => do
    cfgAsk (.deleteCache key)
    dropEntries keys

/-- The entries are dropped while the transaction is open, each with its row; what the transaction
writes is seen by nobody else before the commit, so it is one command. Reference:
`config/config.go:336 ChangeUnlockPassword`. -/
def ChangeUnlockPassword (currentUnlockPassword newUnlockPassword : String) :
    Cfg (Except ConfigErr Unit) :=
  if newUnlockPassword = "" then
    return .error (.message "new unlock password must not be empty")
  else do
    match ← CheckUnlockPassword currentUnlockPassword with
    | false => return .error (.message "incorrect password")
    | true =>
      let keys ← cfgAsk .encryptedKeys
      dropEntries keys
      orReturn (cfgAsk (.changePasswordTx keys currentUnlockPassword newUnlockPassword)) fun _ => do
        cfgAsk (.setJwtSecret "")
        return .ok ()

/-- Reference: `config/config.go:150 GetJWTSecret`. -/
def HubConfig.GetJWTSecret (s : HubConfig) : Except ConfigErr String :=
  if s.jwtSecret = "" then .error (.message "config not unlocked") else .ok s.jwtSecret

/-- Reference: `config/config.go:163 LoadJWTSecret`. -/
def LoadJWTSecret (encryptionKey : String) : Cfg (Except ConfigErr Unit) := do
  match ← CheckUnlockPassword encryptionKey with
  | false => return .error (.message "incorrect password")
  | true =>
    let loaded ← cfgAsk .getJwtSecret
    if loaded ≠ "" then return .ok () else
      orReturn (cfgAsk (.get "JWTSecret" "")) fun encryptedJwtSecret =>
      orReturn (cfgAsk (.get "JWTSecret" encryptionKey)) fun jwtSecret =>
      if jwtSecret = "" ∨ jwtSecret = encryptedJwtSecret then
        orReturn (cfgAsk (.outside "randomHex")) fun hexSecret =>
        orReturn (SetUpdate "JWTSecret" hexSecret encryptionKey) fun _ => do
          cfgAsk (.setJwtSecret hexSecret)
          return .ok ()
      else do
        cfgAsk (.setJwtSecret jwtSecret)
        return .ok ()

end AlbyHub
