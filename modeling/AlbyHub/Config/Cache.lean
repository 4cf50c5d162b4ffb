import AlbyHub.Config.ChangePassword

/-!
# The cache while calls interleave

Here the change of the password takes its database transaction statement by statement, so that other
calls come in between: its own statements see what it has written, the others see the table as it
was committed. The cache entry of a row is dropped when the row is written, which is before the
transaction commits. A `Get` in between reads the old row and fills the cache with it, and the entry
stays (`stale_after_change`). As long as no changed row is in the cache when a password change
commits, the cache agrees with the table whenever no writer is on its way (`cache_coherent`).
-/

namespace AlbyHub

open Interaction

/-! ## Transactions -/

/-- A statement of an open transaction. Reference: `config/config.go:296 set`, `:376
ChangeUnlockPassword`. -/
inductive TxWrite where
  | put (r : UserConfig)
  | delete (key : String)

/-- Reference: `config/config.go:296 set`, `:376 ChangeUnlockPassword`. -/
def TxWrite.key : TxWrite → String
  | .put r => r.key
  | .delete key => key

/-- Reference: `config/config.go:362`, `:376 ChangeUnlockPassword`. -/
def TxWrite.apply (t : ConfigTable) : TxWrite → ConfigTable
  | .put r => t.create .doUpdateValue r
  | .delete key => t.delete key

/-- An open transaction and what it has written. Reference: gorm `Transaction`. -/
structure OpenTx where
  id : Nat
  writes : List TxWrite

/-- The configuration with the open transactions; the table is the committed one. Reference:
`config/config.go:21 config`. -/
structure SharedConfig where
  hub : HubConfig
  txs : List OpenTx
  nextTx : Nat

namespace SharedConfig

/-- Reference: gorm `Transaction`. -/
def tx (s : SharedConfig) (id : Nat) : Option OpenTx := s.txs.find? (·.id = id)

/-- The table as the statements of a transaction see it. Reference: gorm `Transaction`. -/
def view (s : SharedConfig) (tx : OpenTx) : ConfigTable := tx.writes.foldl TxWrite.apply s.hub.table

/-- Reference: gorm `Transaction`. -/
def write (s : SharedConfig) (id : Nat) (w : TxWrite) : SharedConfig :=
  { s with txs := s.txs.map fun tx => if tx.id = id then { tx with
    writes := tx.writes ++ [w] } else tx }

/-- Reference: gorm `Transaction`. -/
def close (s : SharedConfig) (id : Nat) : SharedConfig :=
  { s with txs := s.txs.filter (·.id ≠ id) }

/-- Another transaction keeps a statement from writing a row: on sqlite any open one, on postgres
one that has written the row. Reference: `db/db.go:57`, `_txlock=immediate`; postgres, row locks. -/
def Locked (postgres : Bool) (s : SharedConfig) (own : Option Nat) (key : String) : Prop :=
  ∃ tx ∈ s.txs, own ≠ some tx.id ∧ (postgres = false ∨ ∃ w ∈ tx.writes, w.key = key)

instance (postgres : Bool) (s : SharedConfig) (own : Option Nat) (key : String) :
    Decidable (s.Locked postgres own key) := inferInstanceAs (Decidable (∃ tx ∈ s.txs, _))

end SharedConfig

/-- The commands of the calls: those of the configuration, and the statements of a transaction.
Reference: `config/config.go:343 ChangeUnlockPassword`. -/
inductive SharedCmd where
  | plain (c : ConfigCmd)
  | beginTx
  | encryptedRows (tx : Nat)
  | getIn (tx : Nat) (key encryptionKey : String)
  | createIn (tx : Nat) (key value encryptionKey : String)
  | deleteIn (tx : Nat) (key : String)
  | commit (tx : Nat)
  | rollback (tx : Nat)

/-- The answer to a command. Reference: the results of the calls of `SharedCmd`. -/
abbrev SharedCmd.Ans : SharedCmd → Type
  | .plain c => c.Ans
  | .beginTx => Except ConfigErr Nat
  | .encryptedRows _ => Except ConfigErr (List UserConfig)
  | .getIn _ _ _ => Except ConfigErr String
  | .createIn _ _ _ _ | .deleteIn _ _ | .commit _ => Except ConfigErr Unit
  | .rollback _ => Unit

/-- The command waits for another transaction. Reference: `db/db.go:57`; postgres, row locks. -/
def SharedCmd.Blocked (postgres : Bool) (s : SharedConfig) : SharedCmd → Prop
  | .plain (.create _ key _ _) => s.Locked postgres none key
  | .beginTx => postgres = false ∧ s.txs.isEmpty = false
  | .createIn tx key _ _ | .deleteIn tx key => s.Locked postgres (some tx) key
  | _ => False

instance (postgres : Bool) (s : SharedConfig) : ∀ c : SharedCmd, Decidable (c.Blocked postgres s)
  | .plain c => by unfold SharedCmd.Blocked; split <;> infer_instance
  | .beginTx => inferInstanceAs (Decidable (_ ∧ _))
  | .createIn _ _ _ _ | .deleteIn _ _ => inferInstanceAs (Decidable (s.Locked _ _ _))
  | .encryptedRows _ | .getIn _ _ _ | .commit _ | .rollback _ => inferInstanceAs (Decidable False)

/-- A statement of a transaction, with the text that its error gets. Reference: gorm
`Transaction`. -/
def SharedConfig.statement {α : Type} (s : SharedConfig) (env : ConfigEnv) (text : String)
    (id : Nat)
    (f : OpenTx → Except ConfigErr (α × SharedConfig)) :
    Option (Except ConfigErr α × SharedConfig) :=
  match env.fault, s.tx id with
  | some e, _ => some (.error (.message (text ++ e)), s)
  | none, none =>
    some (.error (.message (text ++ "sql: transaction has already been committed or rolled back")),
      s)
  | none, some tx =>
    match f tx with
    | .error e => some (.error e, s)
    | .ok (a, s') => some (.ok a, s')

/-- What a command that is not blocked does. Reference: the calls of `SharedCmd`. -/
def sharedAnswer (A : Aead) (s : SharedConfig) :
    (c : SharedCmd) → ConfigEnv → Option (c.Ans × SharedConfig)
  | .plain c, env => (configExec A s.hub c env).map fun x => (x.1, { s with hub := x.2 })
  | .beginTx, env =>
    match env.fault with
    | some e => some (.error (.message e), s)
    | none =>
      some (.ok s.nextTx, { s with txs := s.txs ++ [⟨s.nextTx, []⟩], nextTx := s.nextTx + 1 })
  | .encryptedRows id, env => s.statement env "" id fun tx => .ok ((s.view tx).encryptedRows, s)
  | .getIn id key encryptionKey, env =>
    s.statement env "failed to get configuration value: " id fun tx =>
      ((s.view tx).get A env.pick key encryptionKey).map (·, s)
  | .createIn id key value encryptionKey, env =>
    s.statement env "failed to save key to config: " id fun _ =>
      (userConfigOf A env 0 key value encryptionKey).map fun r => ((), s.write id (.put r))
  | .deleteIn id key, env =>
    s.statement env "failed to delete new JWT secret: " id fun _ =>
      .ok ((), s.write id (.delete key))
  | .commit id, env =>
    match env.fault, s.tx id with
    | some e, _ => some (.error (.message e), s.close id)
    | none, none =>
      some (.error (.message "sql: transaction has already been committed or rolled back"), s)
    | none, some tx =>
      some (.ok (), { s.close id with hub := { s.hub with table := s.view tx } })
  | .rollback id, _ => some ((), s.close id)

/-- A command waits as long as it is blocked, or fails when the database gives up. Reference: the
calls of `SharedCmd`; `db/db.go:59`, `_busy_timeout`. -/
def sharedExec (A : Aead) (postgres : Bool) (s : SharedConfig) (c : SharedCmd) (env : ConfigEnv) :
    Option (c.Ans × SharedConfig) :=
  if env.fault = none ∧ c.Blocked postgres s then none else sharedAnswer A s c env

/-! ## The calls -/

/-- A program over the shared configuration. Reference: none. -/
abbrev Shared := Prog SharedCmd SharedCmd.Ans

/-- One command. Reference: none. -/
abbrev sharedAsk (c : SharedCmd) : Shared c.Ans := Prog.call c

/-- A program without a transaction. Reference: none. -/
def liftCfg {α : Type} : Cfg α → Shared α
  | .ret a => .ret a
  | .cmd c k => .cmd (.plain c) fun r => liftCfg (k r)

/-- One row of the loop. Reference: `config/config.go:353 ChangeUnlockPassword`. -/
def changeRow (tx : Nat) (currentUnlockPassword newUnlockPassword : String)
    (userConfig : UserConfig) :
    Shared (Except ConfigErr Unit) := do
  match ← sharedAsk (.getIn tx userConfig.key currentUnlockPassword) with
  | .error e => return .error e
  | .ok decryptedValue =>
    match ← sharedAsk (.createIn tx userConfig.key decryptedValue newUnlockPassword) with
    | .error e => return .error e
    | .ok () =>
      sharedAsk (.plain (.deleteCache userConfig.key))
      return .ok ()

/-- Reference: `config/config.go:353 ChangeUnlockPassword`. -/
def changeRows (tx : Nat) (currentUnlockPassword newUnlockPassword : String) :
    List UserConfig → Shared (Except ConfigErr Unit)
  | [] => return .ok ()
  | userConfig :: userConfigs => do
    match ← changeRow tx currentUnlockPassword newUnlockPassword userConfig with
    | .error e => return .error e
    | .ok () => changeRows tx currentUnlockPassword newUnlockPassword userConfigs

/-- The function that runs in the transaction. Reference: `config/config.go:343
ChangeUnlockPassword`. -/
def changeInTx (currentUnlockPassword newUnlockPassword : String) (tx : Nat) :
    Shared (Except ConfigErr Unit) := do
  match ← sharedAsk (.encryptedRows tx) with
  | .error e => return .error e
  | .ok encryptedUserConfigs =>
    match ← changeRows tx currentUnlockPassword newUnlockPassword encryptedUserConfigs with
    | .error e => return .error e
    | .ok () => sharedAsk (.deleteIn tx "JWTSecret")

/-- Reference: gorm `Transaction`. -/
def dbTransaction (f : Nat → Shared (Except ConfigErr Unit)) : Shared (Except ConfigErr Unit) := do
  match ← sharedAsk .beginTx with
  | .error e => return .error e
  | .ok tx =>
    match ← f tx with
    | .error e =>
      sharedAsk (.rollback tx)
      return .error e
    | .ok () => sharedAsk (.commit tx)

/-- The change of the password, statement by statement. Reference: `config/config.go:336
ChangeUnlockPassword`. -/
def changeUnlockPasswordSteps (currentUnlockPassword newUnlockPassword : String) :
    Shared (Except ConfigErr Unit) :=
  if newUnlockPassword = "" then
    return .error (.message "new unlock password must not be empty")
  else do
    match ← liftCfg (CheckUnlockPassword currentUnlockPassword) with
    | false => return .error (.message "incorrect password")
    | true =>
      match ← dbTransaction (changeInTx currentUnlockPassword newUnlockPassword) with
      | .error e => return .error e
      | .ok () =>
        sharedAsk (.plain (.setJwtSecret ""))
        return .ok ()

/-- A call of the configuration. Reference: `config/config.go`. -/
inductive CacheOp where
  | get (key encryptionKey : String)
  | setUpdate (key value encryptionKey : String)
  | setIgnore (key value encryptionKey : String)
  | checkUnlockPassword (encryptionKey : String)
  | changeUnlockPassword (currentUnlockPassword newUnlockPassword : String)

/-- Whether the call writes. Reference: `config/config.go`. -/
def CacheOp.isWriter : CacheOp → Bool
  | .setUpdate _ _ _ | .setIgnore _ _ _ | .changeUnlockPassword _ _ => true
  | .get _ _ | .checkUnlockPassword _ => false

/-- What a call returns. Reference: `config/config.go`. -/
inductive CacheResult where
  | value (r : Except ConfigErr String)
  | written (r : Except ConfigErr Unit)
  | checked (b : Bool)

/-- The program of a call. Reference: `config/config.go:242 Get`, `:310 SetIgnore`, `:323
SetUpdate`, `:336 ChangeUnlockPassword`, `:408 CheckUnlockPassword`. -/
def cacheBody : CacheOp → Shared CacheResult
  | .get key encryptionKey => do
    let r ← sharedAsk (.plain (.get key encryptionKey))
    return .value r
  | .setUpdate key value encryptionKey => do
    let r ← liftCfg (SetUpdate key value encryptionKey)
    return .written r
  | .setIgnore key value encryptionKey => do
    let r ← liftCfg (SetIgnore key value encryptionKey)
    return .written r
  | .checkUnlockPassword encryptionKey => do
    let b ← liftCfg (CheckUnlockPassword encryptionKey)
    return .checked b
  | .changeUnlockPassword currentUnlockPassword newUnlockPassword => do
    let r ← changeUnlockPasswordSteps currentUnlockPassword newUnlockPassword
    return .written r

/-- The configuration with its calls. Reference: none. -/
abbrev CachePool := Config SharedConfig SharedCmd SharedCmd.Ans CacheOp CacheResult

/-! ## What the calls do in order -/

/-- A call that was made, with its answer. Reference: none. -/
abbrev SharedCall := Call SharedCmd SharedCmd.Ans

/-- The key whose cache entry is to be dropped next: that of a write that was committed. Reference:
`config/config.go:303 set`. -/
def invalidationDue : List SharedCall → Option String
  | ⟨.plain (.create _ key _ _), .ok _⟩ :: _ => some key
  | _ => none

/-- The lookup of the empty key filters nothing. Reference: `config/config.go:271 get`. -/
def CacheOp.Named : CacheOp → Prop
  | .get key _ => key ≠ ""
  | _ => True

/-- The command that may follow a history. Reference: `config/config.go`. -/
def SharedOk (op : CacheOp) (h : List SharedCall) (c : SharedCmd) : Prop :=
  (∀ key, invalidationDue h = some key → c = .plain (.deleteCache key)) ∧
    match c with
    | .plain (.create _ _ _ _) => op.isWriter = true
    | .plain (.get key _) => op.Named → key ≠ ""
    | .plain (.changePasswordTx _ _ _) => False
    | _ => True

/-- Where a program may stop. Reference: `config/config.go`. -/
def sharedPost {α : Type} (h : List SharedCall) (_ : α) : Prop := invalidationDue h = none

section
variable {α : Type} {op : CacheOp} {h : List SharedCall} {key value encryptionKey old new : String}
variable {tx : Nat}

theorem sharedOk_of_none {c : SharedCmd} (h0 : invalidationDue h = none)
    (hc : match c with
      | .plain (.create _ _ _ _) => op.isWriter = true
      | .plain (.get key _) => op.Named → key ≠ ""
      | .plain (.changePasswordTx _ _ _) => False
      | _ => True) : SharedOk op h c := by
  refine ⟨fun key he => ?_, hc⟩
  rw [h0] at he
  cases he

/-- Reference: `config/config.go:408 CheckUnlockPassword`. -/
theorem follows_lift_check (h0 : invalidationDue h = none) :
    Follows (SharedOk op) sharedPost h (liftCfg (CheckUnlockPassword encryptionKey)) := by
  have hget : SharedOk op h (.plain (.get "UnlockPasswordCheck" encryptionKey)) :=
    sharedOk_of_none h0 fun _ => by decide
  refine ⟨hget, fun r => ?_⟩
  cases r with
  | error e => exact rfl
  | ok value => exact rfl

/-- A whole write. Reference: `config/config.go:287 set`. -/
theorem follows_lift_set {onConflict : OnConflict} (hw : op.isWriter = true)
    (h0 : invalidationDue h = none) :
    Follows (SharedOk op) sharedPost h (liftCfg (cfgSet onConflict key value encryptionKey)) := by
  refine ⟨sharedOk_of_none h0 hw, fun r => ?_⟩
  cases r with
  | error e => exact rfl
  | ok _ =>
    refine ⟨⟨fun key' he => ?_, trivial⟩, fun _ => rfl⟩
    rw [Option.some.inj he]

theorem follows_changeRow {userConfig : UserConfig} (h0 : invalidationDue h = none) :
    Follows (SharedOk op) sharedPost h (changeRow tx old new userConfig) := by
  refine Follows.call (sharedOk_of_none h0 trivial) fun r => ?_
  cases r with
  | error e => exact rfl
  | ok decryptedValue =>
    refine Follows.call (sharedOk_of_none rfl trivial) fun r => ?_
    cases r with
    | error e => exact rfl
    | ok _ => exact Follows.call (sharedOk_of_none rfl trivial) fun _ => rfl

theorem follows_changeRows {rows : List UserConfig} (h0 : invalidationDue h = none) :
    Follows (SharedOk op) sharedPost h (changeRows tx old new rows) := by
  induction rows generalizing h with
  | nil => exact h0
  | cons userConfig rows ih =>
    refine (follows_changeRow h0).bind fun h' r _ hpost => ?_
    cases r with
    | error e => exact hpost
    | ok _ => exact ih hpost

theorem follows_changeInTx (h0 : invalidationDue h = none) :
    Follows (SharedOk op) sharedPost h (changeInTx old new tx) := by
  refine Follows.call (sharedOk_of_none h0 trivial) fun r => ?_
  cases r with
  | error e => exact rfl
  | ok rows =>
    refine (follows_changeRows rfl).bind fun h' r _ hpost => ?_
    cases r with
    | error e => exact hpost
    | ok _ => exact ⟨sharedOk_of_none hpost trivial, fun _ => rfl⟩

theorem follows_dbTransaction {f : Nat → Shared (Except ConfigErr Unit)}
    (h0 : invalidationDue h = none)
    (hf : ∀ h tx, invalidationDue h = none → Follows (SharedOk op) sharedPost h (f tx)) :
    Follows (SharedOk op) sharedPost h (dbTransaction f) := by
  refine Follows.call (sharedOk_of_none h0 trivial) fun r => ?_
  cases r with
  | error e => exact rfl
  | ok tx =>
    refine (hf _ tx rfl).bind fun h' r _ hpost => ?_
    cases r with
    | error e => exact Follows.call (sharedOk_of_none hpost trivial) fun _ => rfl
    | ok _ => exact ⟨sharedOk_of_none hpost trivial, fun _ => rfl⟩

theorem follows_changeUnlockPasswordSteps (h0 : invalidationDue h = none) :
    Follows (SharedOk op) sharedPost h (changeUnlockPasswordSteps old new) := by
  unfold changeUnlockPasswordSteps
  split
  · exact h0
  · refine (follows_lift_check h0).bind fun h' b _ hpost => ?_
    cases b with
    | false => exact hpost
    | true =>
      refine (follows_dbTransaction hpost fun _ _ h0 => follows_changeInTx h0).bind
        fun h' r _ hpost => ?_
      cases r with
      | error e => exact hpost
      | ok _ => exact Follows.call (sharedOk_of_none hpost trivial) fun _ => rfl

/-- Every call drops the cache entry of a row right after it has committed a write of the row.
Reference: `config/config.go:303 set`. -/
theorem follows_cacheBody (op : CacheOp) : Follows (SharedOk op) sharedPost [] (cacheBody op) := by
  cases op with
  | get key encryptionKey => exact Follows.call (sharedOk_of_none rfl fun hn => hn) fun _ => rfl
  | setUpdate key value encryptionKey => exact (follows_lift_set rfl rfl).bind fun _ _ _ h => h
  | setIgnore key value encryptionKey => exact (follows_lift_set rfl rfl).bind fun _ _ _ h => h
  | checkUnlockPassword encryptionKey => exact (follows_lift_check rfl).bind fun _ _ _ h => h
  | changeUnlockPassword old new =>
    exact (follows_changeUnlockPasswordSteps rfl).bind fun _ _ _ h => h

end

/-! ## The invariant -/

/-- The pool before the first call, over any table and with an empty cache. Reference:
`config/config.go:34 NewConfig`. -/
def FreshCache (cfg : CachePool) : Prop :=
  ∃ t, cfg.state = ⟨HubConfig.start t, [], 0⟩ ∧ cfg.threads = []

/-- The condition on the steps: a `Get` names a key, and when the transaction of a password change
commits, no row that it changes is in the cache. A restart would start over with an empty cache.
Reference: `config/config.go:271 get`, `:343 ChangeUnlockPassword`. -/
def Undisturbed (cfg : CachePool) : Label CacheOp ConfigEnv → Prop
  | .spawn op => op.Named
  | .run i env => ∀ op h id k tx, cfg.threads[i]? = some ⟨op, h, .cmd (.commit id) k⟩ →
    env.fault = none → cfg.state.tx id = some tx →
      ∀ key hash, (cfg.state.view tx).row key ≠ cfg.state.hub.table.row key →
        cfg.state.hub.cache key hash = none
  | .restart => False

/-- The values in the cache are those of the table, except for the rows that a writer has just
committed and is about to drop from the cache. Reference: none. -/
structure CachePool.Coherent (A : Aead) (cfg : CachePool) : Prop where
  follows : ∀ t ∈ cfg.threads, Follows (SharedOk t.op) sharedPost t.hist t.rest
  named : ∀ t ∈ cfg.threads, t.op.Named
  cached : ∀ key password value,
    cfg.state.hub.cache key (getEncryptionKeyHash A password) = some value →
    key ≠ "" ∧ (cfg.state.hub.table.get A 0 key password = .ok value ∨
      ∃ t ∈ cfg.threads, t.op.isWriter = true ∧ invalidationDue t.hist = some key)

section
variable {A : Aead} {postgres : Bool} {cfg cfg' : CachePool} {s s' : SharedConfig} {c : SharedCmd}
variable {env : ConfigEnv} {key password value : String}

theorem sharedExec_of_not (h : ¬ c.Blocked postgres s) :
    sharedExec A postgres s c env = sharedAnswer A s c env := if_neg fun hb => h hb.2

/-- A statement that succeeds. Reference: gorm `Transaction`. -/
theorem statement_ok {α : Type} {text : String} {id : Nat} {tx : OpenTx}
    {f : OpenTx → Except ConfigErr (α × SharedConfig)} {a : α} (hf : env.fault = none)
    (htx : s.tx id = some tx) (h : f tx = .ok (a, s')) :
    s.statement env text id f = some (.ok a, s') := by
  simp only [SharedConfig.statement, hf, htx, h]

theorem sharedExec_eq {a : c.Ans} (hx : sharedExec A postgres s c env = some (a, s')) :
    sharedAnswer A s c env = some (a, s') := by
  unfold sharedExec at hx
  split at hx
  · cases hx
  · exact hx

/-- A read depends on the row of the key only. Reference: `config/config.go:269 get`. -/
theorem get_of_row {t t' : ConfigTable} {n n' : Nat} (hk : key ≠ "") (h : t'.row key = t.row key) :
    t'.get A n' key password = t.get A n key password := by
  rw [ConfigTable.get_eq A hk, ConfigTable.get_eq A hk, h]

/-- A statement of a transaction leaves the committed table and the cache. Reference: gorm
`Transaction`. -/
theorem statement_hub {α : Type} {text : String} {id : Nat}
    {f : OpenTx → Except ConfigErr (α × SharedConfig)} {a : Except ConfigErr α}
    (hf : ∀ tx a s', f tx = .ok (a, s') → s'.hub = s.hub)
    (hx : s.statement env text id f = some (a, s')) : s'.hub = s.hub := by
  unfold SharedConfig.statement at hx
  split at hx
  · cases hx; rfl
  · cases hx; rfl
  · next tx _ _ =>
    split at hx
    · cases hx; rfl
    · next hok =>
      cases hx
      exact hf tx _ _ hok

/-- The commands of a transaction leave the committed table and the cache, apart from the commit.
Reference: gorm `Transaction`. -/
theorem sharedAnswer_hub {a : c.Ans} (hplain : ∀ c', c ≠ .plain c') (hcommit : ∀ id, c ≠ .commit id)
    (hx : sharedAnswer A s c env = some (a, s')) : s'.hub = s.hub := by
  cases c with
  | plain c => exact absurd rfl (hplain c)
  | commit id => exact absurd rfl (hcommit id)
  | beginTx =>
    simp only [sharedAnswer] at hx
    split at hx <;> cases hx <;> rfl
  | encryptedRows id =>
    simp only [sharedAnswer] at hx
    refine statement_hub ?_ hx
    rintro tx a s' h
    cases h; rfl
  | getIn id key encryptionKey =>
    refine statement_hub ?_ hx
    intro tx a s' h
    cases hget : (s.view tx).get A env.pick key encryptionKey with
    | error e => rw [hget] at h; cases h
    | ok value => rw [hget] at h; cases h; rfl
  | createIn id key value encryptionKey =>
    refine statement_hub ?_ hx
    intro tx a s' h
    cases hrow : userConfigOf A env 0 key value encryptionKey with
    | error e => rw [hrow] at h; cases h
    | ok r => rw [hrow] at h; cases h; rfl
  | deleteIn id key =>
    simp only [sharedAnswer] at hx
    refine statement_hub ?_ hx
    rintro tx a s' h
    cases h; rfl
  | rollback id => cases hx; rfl

/-- What a commit does to the table; the cache stays. Reference: `config/config.go:343
ChangeUnlockPassword`. -/
theorem commit_hub {id : Nat} {a : (SharedCmd.commit id).Ans}
    (hx : sharedAnswer A s (.commit id) env = some (a, s')) : s'.hub.cache = s.hub.cache ∧
      (s'.hub = s.hub ∨
        env.fault = none ∧ ∃ tx, s.tx id = some tx ∧ s'.hub.table = s.view tx) := by
  simp only [sharedAnswer] at hx
  split at hx
  · cases hx; exact ⟨rfl, .inl rfl⟩
  · cases hx; exact ⟨rfl, .inl rfl⟩
  · next tx hf htx =>
    cases hx
    exact ⟨rfl, .inr ⟨hf, tx, htx, rfl⟩⟩

/-- What the other commands of the configuration do: the table stays, and no entry comes into the
cache. Reference: `config/config.go`. -/
theorem configExec_frame {c : ConfigCmd} {hub hub' : HubConfig} {a : c.Ans}
    (hget : ∀ key encryptionKey, c ≠ .get key encryptionKey)
    (hcreate : ∀ onConflict key value encryptionKey, c ≠ .create onConflict key value encryptionKey)
    (hchange : ∀ keys old new, c ≠ .changePasswordTx keys old new)
    (hx : configExec A hub c env = some (a, hub')) :
    hub'.table = hub.table ∧ ∀ key hash value, hub'.cache key hash = some value →
      hub.cache key hash = some value := by
  cases c with
  | get key encryptionKey => exact absurd rfl (hget key encryptionKey)
  | create onConflict key value encryptionKey => exact absurd rfl (hcreate _ _ _ _)
  | changePasswordTx keys old new => exact absurd rfl (hchange keys old new)
  | deleteCache =>
    cases hx
    refine ⟨rfl, fun key' hash value hc => ?_⟩
    simp only [HubConfig.dropCache] at hc
    split at hc
    · cases hc
    · exact hc
  | encryptedKeys | getJwtSecret | setJwtSecret | tryLockStart | unlockStart | outside =>
    cases hx
    exact ⟨rfl, fun _ _ _ hc => hc⟩
  | reboot =>
    cases hx
    refine ⟨rfl, fun key hash value hc => ?_⟩
    cases hc

/-- A write changes the row of its key. Reference: `config/config.go:287 set`. -/
theorem create_hub {onConflict : OnConflict} {encryptionKey : String} {hub hub' : HubConfig}
    {a : Except ConfigErr Unit}
    (hx : configExec A hub (.create onConflict key value encryptionKey) env = some (a, hub')) :
    hub'.cache = hub.cache ∧ (hub' = hub ∨
      a = .ok () ∧ ∀ key', key' ≠ key → hub'.table.row key' = hub.table.row key') := by
  simp only [configExec] at hx
  split at hx
  · cases hx; exact ⟨rfl, .inl rfl⟩
  · cases hx; exact ⟨rfl, .inl rfl⟩
  · next r _ hr =>
    cases hx
    refine ⟨rfl, .inr ⟨rfl, fun key' hne => ConfigTable.row_create_ne ?_⟩⟩
    rw [(userConfigOf_ok hr).1]
    exact hne

/-- A step of a call keeps the cached values right. Reference: `config/config.go`. -/
theorem CachePool.Coherent.run (hA : A.Ideal) (hc : cfg.Coherent A) {i : Nat}
    (hallowed : Undisturbed cfg (.run i env))
    (hstep : cfg.step (sharedExec A postgres) cacheBody (.run i env) = some cfg') :
    cfg'.Coherent A := by
  obtain ⟨op, h, c, k, a, s', hi, hx, rfl⟩ := Config.step_run hstep
  have hmem := List.mem_of_getElem? hi
  have hfollows := hc.follows _ hmem
  obtain ⟨hdue, hok⟩ := hfollows.1
  have hnamed : op.Named := hc.named _ hmem
  have hx := sharedExec_eq hx
  refine ⟨fun t ht => ?_, fun t ht => ?_, ?_⟩
  · rcases Config.mem_set ht with rfl | ht
    · exact hfollows.2 a
    · exact hc.follows t ht
  · rcases Config.mem_set ht with rfl | ht
    · exact hnamed
    · exact hc.named t ht
  intro key password value hcache
  -- an entry that was there stays right where its row is as it was
  have hframe : cfg.state.hub.cache key (getEncryptionKeyHash A password) = some value →
      invalidationDue h ≠ some key →
      (key ≠ "" → s'.hub.table.get A 0 key password = cfg.state.hub.table.get A 0 key password) →
      key ≠ "" ∧ (s'.hub.table.get A 0 key password = .ok value ∨
        ∃ t ∈ cfg.threads.set i ⟨op, ⟨c, a⟩ :: h, k a⟩,
          t.op.isWriter = true ∧ invalidationDue t.hist = some key) := by
    intro hold hnot htable
    obtain ⟨hk, hright | ⟨t, ht, hw, hd⟩⟩ := hc.cached key password value hold
    · exact ⟨hk, .inl ((htable hk).trans hright)⟩
    · rcases Config.mem_of_set ⟨op, ⟨c, a⟩ :: h, k a⟩ hi ht with rfl | ht
      · exact absurd hd hnot
      · exact ⟨hk, .inr ⟨t, ht, hw, hd⟩⟩
  by_cases hplain : ∃ c', c = .plain c'
  · obtain ⟨c, rfl⟩ := hplain
    obtain ⟨⟨a', hub'⟩, hcfg, heq⟩ := Option.map_eq_some_iff.1 hx
    cases heq
    by_cases hget : ∃ key' password', c = .get key' password'
    · obtain ⟨key', password', rfl⟩ := hget
      have hnone : ∀ key, invalidationDue h ≠ some key := fun key he => nomatch hdue key he
      have hk' : key' ≠ "" := hok hnamed
      rcases exec_get hcfg with ⟨hub, -⟩ | ⟨value', -, hget, hub⟩
      · subst hub
        exact hframe hcache (hnone key) fun _ => rfl
      · subst hub
        simp only at hcache
        split at hcache
        · next hkey =>
          obtain ⟨rfl, hhash⟩ := hkey
          obtain rfl := getEncryptionKeyHash_inj hA hhash
          obtain rfl := Option.some.inj hcache
          exact ⟨hk', .inl ((get_of_row hk' rfl).trans hget)⟩
        · exact hframe hcache (hnone key) fun _ => rfl
    by_cases hcreate : ∃ onConflict key' value' password',
      c = .create onConflict key' value' password'
    · obtain ⟨onConflict, key', value', password', rfl⟩ := hcreate
      have hnone : ∀ key, invalidationDue h ≠ some key := fun key he => nomatch hdue key he
      obtain ⟨hcache', hsame | ⟨hans, hrow⟩⟩ := create_hub hcfg
      · rw [hcache'] at hcache
        exact hframe hcache (hnone key) fun _ => by rw [hsame]
      · rw [hcache'] at hcache
        by_cases hkey : key = key'
        · subst hkey
          have hset := List.mem_set (List.getElem?_eq_some_iff.1 hi).1
            (⟨op, ⟨.plain (.create onConflict key value' password'), a'⟩ :: h, k a'⟩ :
              Thread SharedCmd SharedCmd.Ans CacheOp CacheResult)
          refine ⟨(hc.cached key password value hcache).1, .inr ⟨_, hset, hok, ?_⟩⟩
          subst hans
          rfl
        · exact hframe hcache (hnone key) fun hk => get_of_row hk (hrow key hkey)
    have hget' : ∀ key encryptionKey, c ≠ .get key encryptionKey :=
      fun k' e' he => hget ⟨k', e', he⟩
    have hcreate' : ∀ onConflict key value encryptionKey,
        c ≠ .create onConflict key value encryptionKey :=
          fun o k' v' e' he => hcreate ⟨o, k', v', e', he⟩
    have hchange : ∀ keys old new, c ≠ .changePasswordTx keys old new := by
      rintro keys old new rfl
      exact hok
    obtain ⟨htable, hsub⟩ := configExec_frame hget' hcreate' hchange hcfg
    refine hframe (hsub _ _ _ hcache) (fun hd => ?_) fun _ => by rw [htable]
    have hdelete := hdue key hd
    obtain rfl : c = .deleteCache key := SharedCmd.plain.inj hdelete
    rw [deleteCache_none hcfg] at hcache
    cases hcache
  · have hnone : ∀ key, invalidationDue h ≠ some key := fun key he => hplain ⟨_, hdue key he⟩
    by_cases hcommit : ∃ id, c = .commit id
    · obtain ⟨id, rfl⟩ := hcommit
      obtain ⟨hcache', hsame | ⟨hf, tx, htx, htable⟩⟩ := commit_hub hx
      · rw [hcache'] at hcache
        exact hframe hcache (hnone key) fun _ => by rw [hsame]
      · rw [hcache'] at hcache
        refine hframe hcache (hnone key) fun hk => get_of_row hk ?_
        rw [htable]
        refine Classical.byContradiction fun hne => ?_
        rw [hallowed op h id k tx hi hf htx key _ hne] at hcache
        cases hcache
    · have hsame :=
        sharedAnswer_hub (fun c' he => hplain ⟨c', he⟩) (fun id he => hcommit ⟨id, he⟩) hx
      rw [hsame] at hcache
      exact hframe hcache (hnone key) fun _ => by rw [hsame]

/-- In every run whose steps meet the condition the cached values are right. Reference:
`config/config.go`. -/
theorem CachePool.coherent (hA : A.Ideal)
    (hr : Reach (sharedExec A postgres) cacheBody FreshCache Undisturbed cfg) : cfg.Coherent A := by
  refine hr.induction ?_ ?_
  · rintro cfg ⟨t, hstate, hthreads⟩
    refine ⟨fun t ht => ?_, fun t ht => ?_, fun key password value hc => ?_⟩
    · rw [hthreads] at ht; cases ht
    · rw [hthreads] at ht; cases ht
    · rw [hstate] at hc; cases hc
  · intro cfg l cfg' _ hc hallowed hstep
    cases l with
    | spawn op =>
      cases hstep
      refine ⟨fun t ht => ?_, fun t ht => ?_, fun key password value hcache => ?_⟩
      · rcases List.mem_append.1 ht with ht | ht
        · exact hc.follows t ht
        · rw [List.mem_singleton.1 ht]; exact follows_cacheBody op
      · rcases List.mem_append.1 ht with ht | ht
        · exact hc.named t ht
        · rw [List.mem_singleton.1 ht]; exact hallowed
      · obtain ⟨hk, hright | ⟨t, ht, hdue⟩⟩ := hc.cached key password value hcache
        · exact ⟨hk, .inl hright⟩
        · exact ⟨hk, .inr ⟨t, List.mem_append_left _ ht, hdue⟩⟩
    | run i env => exact hc.run hA hallowed hstep
    | restart => exact hallowed.elim

/-- Once every writer has returned, a `Get` answers what the row says under the password: in every
run where no changed row is in the cache when the transaction of a password change commits.
Reference: `config/config.go:242 Get`, `:336 ChangeUnlockPassword`. -/
theorem cache_coherent (hA : A.Ideal)
    (hr : Reach (sharedExec A postgres) cacheBody FreshCache Undisturbed cfg)
    (hreturned : ∀ t ∈ cfg.threads, t.op.isWriter = true → t.rest.done = true)
    (key password : String) (hf : env.fault = none) :
    ∃ s', sharedExec A postgres cfg.state (.plain (.get key password)) env =
      some (cfg.state.hub.table.get A env.pick key password, s') := by
  have hc := CachePool.coherent hA hr
  have hexec : sharedExec A postgres cfg.state (.plain (.get key password)) env =
      sharedAnswer A cfg.state (.plain (.get key password)) env := if_neg fun h => h.2
  rw [hexec]
  simp only [sharedAnswer, configExec, hf]
  cases hcache : cfg.state.hub.cache key (getEncryptionKeyHash A password) with
  | none =>
    cases hget : cfg.state.hub.table.get A env.pick key password with
    | error e => exact ⟨_, rfl⟩
    | ok value => exact ⟨_, rfl⟩
  | some value =>
    obtain ⟨hk, hright | ⟨t, ht, hw, hdue⟩⟩ := hc.cached key password value hcache
    · rw [get_of_row hk rfl] at hright
      rw [hright]
      exact ⟨_, rfl⟩
    · -- a writer that has returned has nothing left to drop
      have hpost := hc.follows t ht
      have hdone := hreturned t ht hw
      cases hrest : t.rest with
      | cmd c k => rw [hrest] at hdone; cases hdone
      | ret a =>
        rw [hrest] at hpost
        have hnone : invalidationDue t.hist = none := hpost
        rw [hdue] at hnone
        cases hnone

end

/-! ## Runs -/

section
variable {A : Aead} {t : ConfigTable} {r r' : UserConfig} {old new : String}

/-- A `Get` that misses the cache. Reference: `config/config.go:259 Get`. -/
theorem sharedExec_get {s : SharedConfig} {key password value : String}
    (hcache : s.hub.cache key (getEncryptionKeyHash A password) = none)
    (hget : s.hub.table.get A 0 key password = .ok value) :
    sharedExec A false s (.plain (.get key password)) {} = some (.ok value, { s with
      hub := { s.hub with
        cache := fun key' hash' =>
          if key' = key ∧ hash' = getEncryptionKeyHash A password then some value
          else s.hub.cache key' hash' } }) := by
  have hblocked : ¬ (SharedCmd.plain (.get key password)).Blocked false s := fun h => h
  rw [sharedExec_of_not hblocked]
  simp only [sharedAnswer, configExec, hcache, hget, Option.map_some]

/-- A password is changed while a call reads the canary under the old password. Reference:
`config/config.go:353 ChangeUnlockPassword`. -/
theorem reach_stale (hold : t.get A 0 "UnlockPasswordCheck" old = .ok unlockPasswordCheck)
    (hrows : t.encryptedRows = [r]) (hkey : r.key = "UnlockPasswordCheck") (hnew : new ≠ "")
    (hr' : userConfigOf A {} 0 "UnlockPasswordCheck" unlockPasswordCheck new = .ok r') :
    ∃ cfg : CachePool, Reach (sharedExec A false) cacheBody FreshCache (fun _ _ => True) cfg ∧
      (∀ t ∈ cfg.threads, t.rest.done = true) ∧
      cfg.state.hub.cache "UnlockPasswordCheck" (getEncryptionKeyHash A old) =
        some unlockPasswordCheck ∧
      cfg.state.hub.table = (t.create .doUpdateValue r').delete "JWTSecret" := by
  have h0 : Reach (sharedExec A false) cacheBody FreshCache (fun _ _ => True)
      (⟨⟨HubConfig.start t, [], 0⟩, []⟩ : CachePool) := .start ⟨t, rfl, rfl⟩
  have h1 := Reach.step (l := .spawn (.changeUnlockPassword old new)) h0 trivial rfl
  have h2 := Reach.step (l := .spawn (.get "UnlockPasswordCheck" old)) h1 trivial rfl
  simp only [cacheBody, changeUnlockPasswordSteps, if_neg hnew] at h2
  have hrows' : ∀ s : SharedConfig, s.hub.table = t → s.txs = [⟨0, []⟩] →
      sharedExec A false s (.encryptedRows 0) {} = some (.ok [r], s) := by
    rintro ⟨hub, txs, next⟩ rfl rfl
    have hblocked : ¬ (SharedCmd.encryptedRows 0).Blocked false ⟨hub, [⟨0, []⟩], next⟩ := fun h => h
    rw [sharedExec_of_not hblocked, ← hrows]
    simp only [sharedAnswer]
    exact statement_ok rfl rfl rfl
  have hgetIn : ∀ s : SharedConfig, s.hub.table = t → s.txs = [⟨0, []⟩] →
      sharedExec A false s (.getIn 0 r.key old) {} = some (.ok unlockPasswordCheck, s) := by
    rintro ⟨hub, txs, next⟩ rfl rfl
    have hblocked : ¬ (SharedCmd.getIn 0 r.key old).Blocked false ⟨hub, [⟨0, []⟩], next⟩ :=
      fun h => h
    rw [sharedExec_of_not hblocked, hkey]
    simp only [sharedAnswer]
    refine statement_ok rfl rfl ?_
    show (hub.table.get A 0 "UnlockPasswordCheck" old).map _ = _
    rw [hold]
    rfl
  have hcreateIn : ∀ s : SharedConfig, s.txs = [⟨0, []⟩] →
      sharedExec A false s (.createIn 0 r.key unlockPasswordCheck new) {} =
        some (.ok (), { s with txs := [⟨0, [.put r']⟩] }) := by
    rintro ⟨hub, txs, next⟩ rfl
    have hblocked : ¬ (SharedCmd.createIn 0 r.key unlockPasswordCheck new).Blocked false
        ⟨hub, [⟨0, []⟩], next⟩ := by
      rintro ⟨tx, htx, hother, -⟩
      exact hother (by rw [List.mem_singleton.1 htx])
    rw [sharedExec_of_not hblocked, hkey]
    simp only [sharedAnswer]
    refine statement_ok rfl rfl ?_
    rw [hr']
    rfl
  -- the password is checked, the transaction is opened, and the row is written in it and
  -- invalidated
  have h3 := h2.run (i := 0) (e := {}) rfl trivial (sharedExec_get rfl hold)
  have h4 := h3.run (i := 0) (e := {}) rfl trivial rfl
  have h5 := h4.run (i := 0) (e := {}) rfl trivial (hrows' _ rfl rfl)
  have h6 := h5.run (i := 0) (e := {}) rfl trivial (hgetIn _ rfl rfl)
  have h7 := h6.run (i := 0) (e := {}) rfl trivial (hcreateIn _ rfl)
  have h8 := h7.run (i := 0) (e := {}) rfl trivial rfl
  -- the other call reads the committed row, which is the old one
  have h9 := h8.run (i := 1) (e := {}) rfl trivial
    (sharedExec_get (if_pos (decide_eq_true hkey.symm)) hold)
  have h10 := h9.run (i := 0) (e := {}) rfl trivial rfl
  have h11 := h10.run (i := 0) (e := {}) rfl trivial rfl
  have h12 := h11.run (i := 0) (e := {}) rfl trivial rfl
  refine ⟨_, h12, ?_, ?_, rfl⟩
  · intro t ht
    simp at ht
    rcases ht with rfl | rfl
    · rfl
    · rfl
  · exact if_pos ⟨rfl, rfl⟩

end

theorem canaryRow_under : canaryRow.Under .clear "123" unlockPasswordCheck := by
  refine ⟨rfl, by decide, [], List.replicate 12 0, rfl, ?_⟩
  rw [AesGcmEncryptWithPassword_ok Aead.clear_ideal]
  rfl

/-- The password is changed from `123` to `1234` while a call reads the canary. Afterwards the
canary is still read under `123`, from the cache, though its row is not. Reference:
`config/config.go:353 ChangeUnlockPassword`. -/
theorem stale_after_change : ∃ cfg : CachePool,
    Reach (sharedExec .clear false) cacheBody FreshCache (fun _ _ => True) cfg ∧
    (∀ t ∈ cfg.threads, t.rest.done = true) ∧
    (∃ s', sharedExec .clear false cfg.state (.plain (.get "UnlockPasswordCheck" "123")) {} =
      some (.ok unlockPasswordCheck, s')) ∧
    cfg.state.hub.table.get .clear 0 "UnlockPasswordCheck" "123" ≠ .ok unlockPasswordCheck := by
  obtain ⟨r', hr'⟩ : ∃ r',
      userConfigOf .clear {} 0 "UnlockPasswordCheck" unlockPasswordCheck "1234" =
      .ok r' := exists_userConfigOf Aead.clear_ideal
  have hrow : (canaryHub canaryRow).table.row "UnlockPasswordCheck" = some canaryRow :=
    canaryHub_row canaryRow
  have hold : (canaryHub canaryRow).table.get .clear 0 "UnlockPasswordCheck" "123" =
      .ok unlockPasswordCheck := by
    rw [ConfigTable.get_eq .clear (by decide), hrow]
    exact canaryRow_under.read Aead.clear_ideal
  obtain ⟨cfg, hreach, hdone, hcache, htable⟩ := reach_stale hold rfl rfl (by decide) hr'
  refine ⟨cfg, hreach, hdone, ⟨cfg.state, ?_⟩, fun hget => ?_⟩
  · have hblocked : ¬
        (SharedCmd.plain (.get "UnlockPasswordCheck" "123")).Blocked false cfg.state :=
      fun h => h
    rw [sharedExec_of_not hblocked]
    simp only [sharedAnswer, configExec, hcache, Option.map_some]
  · obtain ⟨hkey, hr' | hr'⟩ := userConfigOf_ok hr'
    · exact absurd hr'.1 (by decide)
    · have hnew : cfg.state.hub.table.row "UnlockPasswordCheck" =
          some { r' with encrypted := true } := by
        rw [← hkey] at hrow
        rw [htable, ConfigTable.row_delete_ne (by decide), ← hkey, ConfigTable.row_create, hrow]
        rfl
      rw [ConfigTable.get_eq .clear (by decide), hnew] at hget
      have hunder : ({ r' with encrypted := true } : UserConfig).Under .clear "1234"
          unlockPasswordCheck :=
        ⟨rfl, hr'.2⟩
      rcases hunder.of_read Aead.clear_ideal hget with ⟨h, -⟩ | ⟨h, -⟩
      · exact absurd h (by decide)
      · exact absurd h (by decide)

/-- A value is cached, written and read again. Reference: `config/tests/config_test.go`. -/
theorem cache_coherent_written : ∃ cfg : CachePool,
    cfg.state.hub.table.rows = [⟨"Currency", "EUR", false⟩] ∧
    ∃ s', sharedExec .clear false cfg.state (.plain (.get "Currency" "")) {} =
      some (cfg.state.hub.table.get .clear 0 "Currency" "", s') := by
  have h0 : Reach (sharedExec .clear false) cacheBody FreshCache Undisturbed
      (⟨⟨HubConfig.start .empty, [], 0⟩, []⟩ : CachePool) := .start ⟨.empty, rfl, rfl⟩
  have hget : CacheOp.Named (.get "Currency" "") := show "Currency" ≠ "" by decide
  have hset : CacheOp.Named (.setUpdate "Currency" "EUR" "") := trivial
  have h1 := Reach.step (l := Label.spawn (CacheOp.get "Currency" "")) h0 hget rfl
  have h2 := Reach.step (l := Label.spawn (CacheOp.setUpdate "Currency" "EUR" "")) h1 hset rfl
  have h3 := h2.run (i := 0) (e := {}) rfl (fun _ _ _ _ _ h => nomatch h) rfl
  have h4 := h3.run (i := 1) (e := {}) rfl (fun _ _ _ _ _ h => nomatch h) rfl
  have h5 := h4.run (i := 1) (e := {}) rfl (fun _ _ _ _ _ h => nomatch h) rfl
  refine ⟨_, ?_, cache_coherent Aead.clear_ideal h5 (fun t ht _ => ?_) "Currency" "" rfl⟩
  · rfl
  · simp at ht
    rcases ht with rfl | rfl
    · rfl
    · rfl

end AlbyHub
