import AlbyHub.Config.ChangePassword

/-!
# One password for every encrypted value

The calls that set the hub up, start it and change its password run in any interleaving. The pool of
these calls keeps `ConfigTable.OnePassword`: the canary and every encrypted row are under one
password. It does so in the runs in which an encrypted write finds its password still that of the
canary, a setup finds no row under another password, and no check of a password comes between the
removal of its cache entry and the commit of a change (`Orderly`). Then, once the calls have
returned, the accepted password opens every encrypted row (`one_password`). A second setup before
the first start breaks it.
-/

namespace AlbyHub

open Go Interaction

/-- A call that is not one of another component under the unlock password or on the canary.
Reference: the callers of `SetUpdate` and `SetIgnore`. -/
def ConfigOp.Guarded : ConfigOp → Prop
  | .setUpdate key _ encryptionKey | .setIgnore key _ encryptionKey =>
    key ≠ "" ∧ key ≠ "UnlockPasswordCheck" ∧ encryptionKey = ""
  | .saveUnderPassword key _ _ => key ≠ "" ∧ key ≠ "UnlockPasswordCheck"
  | _ => True

/-- The calls of the hub. Reference: the callers of `config/config.go`. -/
abbrev GuardedOp := { op : ConfigOp // op.Guarded }

/-- A call of the configuration that was made, with its answer. Reference: none. -/
abbrev ConfigCall := Call ConfigCmd ConfigCmd.Ans

/-- The configuration and the calls on it. Reference: none. -/
abbrev ConfigPool :=
  Interaction.Config HubConfig ConfigCmd ConfigCmd.Ans GuardedOp (Except ConfigErr Unit)

/-- A step of the pool. Reference: none. -/
abbrev ConfigLabel := Label GuardedOp ConfigEnv

/-- The hub before its first setup. Reference: none. -/
def ConfigPool.start : ConfigPool := ⟨HubConfig.start .empty, []⟩

/-! ## What the calls do in order -/

/-- The key whose cache entry is to be dropped next: that of a write that was stored. Reference:
`config/config.go:303 set`. -/
def dropDue : List ConfigCall → Option String
  | ⟨.create _ key _ _, .ok _⟩ :: _ => some key
  | _ => none

/-- The latest call decides. Reference: none. -/
theorem dropDue_cons (call : ConfigCall) (h : List ConfigCall) :
    dropDue (call :: h) = dropDue [call] := by
  obtain ⟨c, a⟩ := call
  cases c with
  | create onConflict key value encryptionKey => cases a <;> rfl
  | _ => rfl

/-- The entries that a call has dropped in the transaction of a password change, latest first.
Reference: `config/config.go:353 ChangeUnlockPassword`. -/
def openChange : List ConfigCall → Option (List String)
  | ⟨.encryptedKeys, _⟩ :: _ => some []
  | ⟨.deleteCache key, _⟩ :: h => (openChange h).map (key :: ·)
  | _ => none

/-- A check of the password has succeeded. Reference: `config/config.go:408 CheckUnlockPassword`. -/
def Checked (h : List ConfigCall) (password : String) : Prop :=
  (⟨.get "UnlockPasswordCheck" password, .ok unlockPasswordCheck⟩ : ConfigCall) ∈ h

/-- The command that may follow a history. Reference: `config/config.go`. -/
def configOk (h : List ConfigCall) (c : ConfigCmd) : Prop :=
  (∀ key, dropDue h = some key → c = .deleteCache key) ∧
    match c with
    | .create onConflict key value encryptionKey => Guarded onConflict key value encryptionKey
    | .changePasswordTx keys old new => new ≠ "" ∧ Checked h old ∧
      openChange h = some keys.reverse
    | _ => True

/-- Where a program may stop. Reference: `config/config.go`. -/
def configPost {α : Type} (h : List ConfigCall) (_ : α) : Prop := dropDue h = none

section
variable {α : Type} {h : List ConfigCall} {key value encryptionKey old new password : String}

theorem configOk_of_none {c : ConfigCmd} (h0 : dropDue h = none)
    (hc : match c with
      | .create onConflict key value encryptionKey => Guarded onConflict key value encryptionKey
      | .changePasswordTx keys old new => new ≠ "" ∧ Checked h old ∧
        openChange h = some keys.reverse
      | _ => True) : configOk h c := by
  refine ⟨fun key he => ?_, hc⟩
  rw [h0] at he
  cases he

/-- A whole write. Reference: `config/config.go:287 set`. -/
theorem follows_cfgSet {onConflict : OnConflict} (h0 : dropDue h = none)
    (hw : Guarded onConflict key value encryptionKey) :
    Follows configOk configPost h (cfgSet onConflict key value encryptionKey) := by
  refine Follows.call (configOk_of_none h0 hw) fun r => ?_
  cases r with
  | error e => exact rfl
  | ok _ =>
    refine Follows.call ⟨fun key' he => ?_, trivial⟩ fun _ => rfl
    rw [Option.some.inj he]

theorem follows_plain {c : ConfigCmd} (h0 : dropDue h = none) (hc : c.Plain) :
    Follows configOk configPost h (cfgAsk c) := by
  cases c with
  | getJwtSecret => exact ⟨configOk_of_none h0 trivial, fun _ => rfl⟩
  | setJwtSecret jwtSecret => exact ⟨configOk_of_none h0 trivial, fun _ => rfl⟩
  | tryLockStart => exact ⟨configOk_of_none h0 trivial, fun _ => rfl⟩
  | unlockStart => exact ⟨configOk_of_none h0 trivial, fun _ => rfl⟩
  | outside what => exact ⟨configOk_of_none h0 trivial, fun _ => rfl⟩
  | _ => exact hc.elim

theorem Made.follows {p : Cfg α} (hp : Made Guarded p) (h0 : dropDue h = none) :
    Follows configOk configPost h p := by
  induction hp generalizing h with
  | ret a => exact h0
  | get key encryptionKey => exact ⟨configOk_of_none h0 trivial, fun _ => rfl⟩
  | plain hc => exact follows_plain h0 hc
  | reboot => exact ⟨configOk_of_none h0 trivial, fun _ => rfl⟩
  | set hw => exact follows_cfgSet h0 hw
  | bind _ _ ihp ihf => exact (ihp h0).bind fun h' a _ hpost => ihf a hpost

theorem follows_CheckUnlockPassword (h0 : dropDue h = none) :
    Follows configOk (fun h b => dropDue h = none ∧ (b = true → Checked h password)) h
      (CheckUnlockPassword password) := by
  refine Follows.call (configOk_of_none h0 trivial) fun r => ?_
  cases r with
  | error e => exact ⟨rfl, nofun⟩
  | ok value =>
    refine ⟨rfl, fun hb => ?_⟩
    have hv : value = unlockPasswordCheck := by
      rw [Bool.and_eq_true] at hb
      exact of_decide_eq_true hb.2
    rw [hv]
    exact List.mem_cons_self

/-- The loop of a change drops the entries of its rows. Reference: `config/config.go:305 set`. -/
theorem follows_dropEntries {keys dropped : List String} (h0 : dropDue h = none)
    (hopen : openChange h = some dropped) :
    Follows configOk
      (fun h' _ => dropDue h' = none ∧ openChange h' = some (keys.reverse ++ dropped)) h
      (dropEntries keys) := by
  induction keys generalizing h dropped with
  | nil => exact ⟨h0, hopen⟩
  | cons key keys ih =>
    have hnext : openChange (⟨.deleteCache key, ()⟩ :: h) = some (key :: dropped) := by
      rw [openChange, hopen]
      rfl
    rw [List.reverse_cons, List.append_assoc]
    exact Follows.call (configOk_of_none h0 trivial) fun _ => ih rfl hnext

theorem follows_ChangeUnlockPassword (h0 : dropDue h = none) :
    Follows configOk configPost h (ChangeUnlockPassword old new) := by
  unfold ChangeUnlockPassword
  split
  · exact h0
  · next hnew =>
    refine (follows_CheckUnlockPassword h0).bind fun h' b _ hpost => ?_
    obtain ⟨h0', hchecked⟩ := hpost
    cases b with
    | false => exact h0'
    | true =>
      refine Follows.call (configOk_of_none h0' trivial) fun keys => ?_
      refine (follows_dropEntries rfl rfl).bind fun h₂ _ hs hdropped => ?_
      obtain ⟨h0'', hopen⟩ := hdropped
      rw [List.append_nil] at hopen
      have hold : Checked h₂ old := hs.subset (List.mem_cons_of_mem _ (hchecked rfl))
      refine Follows.call (configOk_of_none h0'' ⟨hnew, hold, hopen⟩) fun r => ?_
      cases r with
      | error e => exact rfl
      | ok _ => exact Follows.call (configOk_of_none rfl trivial) fun _ => rfl

/-- Every call follows the order. Reference: the callers of `config/config.go`. -/
theorem follows_configBody (op : GuardedOp) : Follows configOk configPost [] op.1.body := by
  obtain ⟨op, hop⟩ := op
  cases hc : op.isChange with
  | true =>
    cases op with
    | changeUnlockPassword old new => exact follows_ChangeUnlockPassword rfl
    | _ => cases hc
  | false =>
    refine (ConfigOp.made hc (fun _ _ _ _ hg => hg) (fun key value encryptionKey he => ?_)
      fun key value encryptionKey he => ?_).follows rfl
    · rcases he with rfl | rfl
      · exact ⟨nofun, hop.1, fun hk => absurd hk hop.2.1⟩
      · exact ⟨nofun, hop.1, fun hk => absurd hk hop.2⟩
    · rw [he] at hop
      exact ⟨nofun, hop.1, fun hk => absurd hk hop.2.1⟩

end

/-! ## The rows -/

/-- The canary and every encrypted row are under one password, or the hub is not set up. Reference:
none. -/
def ConfigTable.OnePassword (A : Aead) (t : ConfigTable) : Prop :=
  (t.row "UnlockPasswordCheck" = none ∧ t.encryptedRows = []) ∨
  ∃ password u, t.row "UnlockPasswordCheck" = some u ∧ u.Under A password unlockPasswordCheck ∧
    ∀ v ∈ t.encryptedRows, ∃ plaintext, v.Under A password plaintext

/-- What a read of the canary says: the check text is there under a password. Reference:
`config/config.go:408 CheckUnlockPassword`. -/
def ConfigTable.Vouches (t : ConfigTable) (password value : String) : Prop :=
  value = unlockPasswordCheck → password ≠ "" ∧ t.row "UnlockPasswordCheck" ≠ none

/-- Whether the password decrypts the row. Reference: `config/config.go:276 get`. -/
def UserConfig.opens (A : Aead) (u : UserConfig) (password : String) : Bool :=
  match AesGcmDecryptWithPassword A u.value password with
  | .ok _ => true
  | .error _ => false

/-- The condition on a step: the setup writes the canary where every other encrypted row is under
its password, and another encrypted write happens under the password of the canary. Reference:
`api/api.go:1780 Setup`, `config/config.go:287 set`. -/
def ConfigCmd.Fits (A : Aead) (t : ConfigTable) : ConfigCmd → Prop
  | .create _ key _ encryptionKey =>
    if key = "UnlockPasswordCheck" then
      ∀ u ∈ t.encryptedRows, u.key = "UnlockPasswordCheck" ∨ u.opens A encryptionKey = true
    else encryptionKey = "" ∨ t.Accepts A encryptionKey
  | _ => True

section
variable {A : Aead} {t t' : ConfigTable} {s s' : HubConfig} {env : ConfigEnv} {n i : Nat}
variable {key value encryptionKey old new password plaintext : String} {u r : UserConfig}
variable {onConflict : OnConflict}

theorem UserConfig.Under.of_opens (h : u.Under A password plaintext) (hA : A.Ideal)
    {password' : String} (ho : u.opens A password' = true) : password' = password := by
  unfold UserConfig.opens at ho
  split at ho
  · next value hd => exact h.2.password_eq hA hd
  · cases ho

theorem vouches_of_get (hA : A.Ideal) (h : t.OnePassword A)
    (hget : t.get A n "UnlockPasswordCheck" password = .ok value) : t.Vouches password value := by
  rintro rfl
  rw [ConfigTable.get_eq A (by decide)] at hget
  rcases h with ⟨hrow, -⟩ | ⟨password', u, hrow, hu, -⟩
  · rw [hrow] at hget
    exact absurd (Except.ok.inj hget) (by decide)
  · rw [hrow] at hget ⊢
    rcases hu.of_read hA hget with ⟨-, hv⟩ | ⟨rfl, -⟩
    · exact absurd hv.symm (hu.2.ne_unlockPasswordCheck hA)
    · exact ⟨hu.2.1, nofun⟩

/-- The setup stores the canary. Reference: `config/config.go:425 SaveUnlockPasswordCheck`. -/
theorem onePassword_canary (hA : A.Ideal) (ht : t.Sealed A)
    (hr : r.key = "UnlockPasswordCheck" ∧ r.Under A password unlockPasswordCheck)
    (hfits : ∀ u ∈ t.encryptedRows, u.key = "UnlockPasswordCheck" ∨ u.opens A password = true) :
    (t.create .doUpdates r).OnePassword A := by
  obtain ⟨hk, hunder⟩ := hr
  have hcreated : ConfigTable.created .doUpdates r (t.row r.key) = r := by
    cases t.row r.key <;> rfl
  have hrow : (t.create .doUpdates r).row "UnlockPasswordCheck" = some r := by
    have h : (t.create .doUpdates r).row r.key = _ := ConfigTable.row_create
    rw [hcreated, hk] at h
    exact h
  refine .inr ⟨password, r, hrow, hunder, fun v hv => ?_⟩
  obtain ⟨hmem, he⟩ := ConfigTable.mem_encryptedRows.1 hv
  by_cases hvk : v.key = "UnlockPasswordCheck"
  · have hv' := ConfigTable.row_of_mem hmem
    rw [hvk, hrow] at hv'
    exact ⟨_, Option.some.inj hv' ▸ hunder⟩
  · rcases ConfigTable.mem_create hmem with hold | hnew
    · obtain ⟨password', text, hv'⟩ := (ht v hold).2 he
      obtain rfl :=
        hv'.of_opens hA ((hfits v (ConfigTable.mem_encryptedRows.2 ⟨hold, he⟩)).resolve_left hvk)
      exact ⟨text, hv'⟩
    · rw [hcreated] at hnew
      exact absurd (hnew ▸ hk) hvk

/-- Another write, without a password or under the one of the canary. Reference:
`config/config.go:287 set`. -/
theorem onePassword_other (hA : A.Ideal) (h : t.OnePassword A) (hne : r.key ≠ "UnlockPasswordCheck")
    (hc : onConflict ≠ .doUpdateValue)
    (hr : r.encrypted = false ∨ ∃ password plaintext, t.Accepts A password ∧
    r.Under A password plaintext) :
    (t.create onConflict r).OnePassword A := by
  have hmem : ∀ v ∈ (t.create onConflict r).encryptedRows, v ∈ t.encryptedRows ∨ v = r := by
    intro v hv
    obtain ⟨hmem, he⟩ := ConfigTable.mem_encryptedRows.1 hv
    rcases ConfigTable.mem_create hmem with hold | rfl
    · exact .inl (ConfigTable.mem_encryptedRows.2 ⟨hold, he⟩)
    · cases ho : t.row r.key with
      | none => exact .inr rfl
      | some o =>
        cases onConflict with
        | doNothing =>
          rw [ho] at he
          exact .inl (ConfigTable.mem_encryptedRows.2 ⟨(ConfigTable.mem_of_row ho).1, he⟩)
        | doUpdates => exact .inr rfl
        | doUpdateValue => exact absurd rfl hc
  rw [ConfigTable.OnePassword, ConfigTable.row_create_ne hne.symm]
  rcases h with ⟨hrow, hnone⟩ | ⟨password, u, hrow, hu, hall⟩
  · refine .inl ⟨hrow, List.eq_nil_iff_forall_not_mem.2 fun v hv => ?_⟩
    rcases hmem v hv with hold | rfl
    · rw [hnone] at hold
      cases hold
    · rcases hr with hr | ⟨password, plaintext, haccepts, -⟩
      · exact absurd (ConfigTable.mem_encryptedRows.1 hv).2 (by simp [hr])
      · rw [ConfigTable.Accepts, ConfigTable.get_eq A (by decide), hrow] at haccepts
        exact absurd (Except.ok.inj haccepts) (by decide)
  · refine .inr ⟨password, u, hrow, hu, fun v hv => ?_⟩
    rcases hmem v hv with hold | rfl
    · exact hall v hold
    · rcases hr with hr | ⟨password', plaintext, haccepts, hunder⟩
      · exact absurd (ConfigTable.mem_encryptedRows.1 hv).2 (by simp [hr])
      · obtain rfl := (accepts_iff_of_under hA hrow hu).1 haccepts
        exact ⟨plaintext, hunder⟩

/-- The encrypted rows after a change are those of before, under the new password. Reference:
`config/config.go:353 ChangeUnlockPassword`. -/
theorem under_of_change (ht : t.Sealed A) (hnew : new ≠ "")
    (hx : changePasswordTx A env t old new = .ok t') {v : UserConfig} (hv : v ∈ t'.encryptedRows) :
    v.key ∈ t.encryptedRows.map (·.key) ∧ ∃ plaintext, v.Under A new plaintext := by
  obtain ⟨hjwt, hother, hdone⟩ := changePasswordTx_ok hnew ht hx
  obtain ⟨hmem, he⟩ := ConfigTable.mem_encryptedRows.1 hv
  have hrow := ConfigTable.row_of_mem hmem
  have hne : v.key ≠ "JWTSecret" := by
    intro hk
    rw [hk, hjwt] at hrow
    cases hrow
  by_cases hkeys : v.key ∈ t.encryptedRows.map (·.key)
  · obtain ⟨w, hw, hk⟩ := List.mem_map.1 hkeys
    obtain ⟨plaintext, r, -, hunder, -, hrow'⟩ := hdone w hw
    rw [← hk, hrow' (hk ▸ hne)] at hrow
    exact ⟨hkeys, plaintext, Option.some.inj hrow ▸ hunder⟩
  · rw [hother _ hne hkeys] at hrow
    have hold := ConfigTable.mem_encryptedRows.2 ⟨(ConfigTable.mem_of_row hrow).1, he⟩
    exact absurd (List.mem_map.2 ⟨v, hold, rfl⟩) hkeys

/-- A committed change. Reference: `config/config.go:343 ChangeUnlockPassword`. -/
theorem onePassword_change (hA : A.Ideal) (ht : t.Sealed A) (h : t.OnePassword A) (hnew : new ≠ "")
    (hold : old ≠ "") (hx : changePasswordTx A env t old new = .ok t') :
    t'.OnePassword A ∧
      (t.row "UnlockPasswordCheck" ≠ none → t'.row "UnlockPasswordCheck" ≠ none) := by
  obtain ⟨-, hother, hdone⟩ := changePasswordTx_ok hnew ht hx
  rcases h with ⟨hrow, hnone⟩ | ⟨password, u, hrow, hu, -⟩
  · have hkeys : "UnlockPasswordCheck" ∉ t.encryptedRows.map (·.key) := by simp [hnone]
    refine ⟨.inl ⟨(hother _ (by decide) hkeys).trans hrow, ?_⟩, fun hne => absurd hrow hne⟩
    refine List.eq_nil_iff_forall_not_mem.2 fun v hv => ?_
    have hmem := (under_of_change ht hnew hx hv).1
    rw [hnone] at hmem
    cases hmem
  · obtain ⟨hmem, hk⟩ := ConfigTable.mem_of_row hrow
    obtain ⟨text, r, hread, hunder, hrk, hrow'⟩ :=
      hdone u (ConfigTable.mem_encryptedRows.2 ⟨hmem, hu.1⟩)
    rw [hk] at hrow'
    have hnewrow := hrow' (by decide)
    rcases hu.of_read hA hread with ⟨hempty, -⟩ | ⟨-, rfl⟩
    · exact absurd hempty hold
    · refine ⟨.inr ⟨new, r, hnewrow, hunder, fun v hv => (under_of_change ht hnew hx hv).2⟩,
        fun _ => ?_⟩
      rw [hnewrow]
      exact nofun

end

/-! ## The pool -/

/-- Whether a call is in the transaction of a password change and has dropped the entry of the
canary. Reference: `config/config.go:343 ChangeUnlockPassword`. -/
def ConfigPool.Committing (cfg : ConfigPool) : Prop :=
  ∃ t ∈ cfg.threads, ∃ keys ∈ openChange t.hist, "UnlockPasswordCheck" ∈ keys

/-- The command that a call is to execute next. Reference: none. -/
def ConfigPool.next (cfg : ConfigPool) (i : Nat) : Option ConfigCmd :=
  cfg.threads[i]?.bind (·.rest.next)

/-- Whether the command reads the canary. Reference: `config/config.go:408 CheckUnlockPassword`. -/
def ConfigCmd.readsCanary : ConfigCmd → Bool
  | .get key _ => key = "UnlockPasswordCheck"
  | _ => false

/-- The condition on the steps of a run: an encrypted write finds its password still that of the
canary, a setup finds no row under another password (`ConfigCmd.Fits`), and no check of a password
comes between the removal of its cache entry and the commit of a change. The process may be killed
at any time: a `reboot` empties the memory, and then a `restart` drops the calls. Reference:
`api/api.go:1780 Setup`, `config/config.go:287 set`, `:371 ChangeUnlockPassword`. -/
def Orderly (A : Aead) (cfg : ConfigPool) : ConfigLabel → Prop
  | .spawn _ => True
  | .restart => cfg.state = HubConfig.start cfg.state.table
  | .run i _ => ∀ c ∈ cfg.next i, c.Fits A cfg.state.table ∧
    (c.readsCanary = true → ¬ cfg.Committing)

/-- The runs of the hub from its first setup. Reference: none. -/
abbrev ConfigRun (A : Aead) (allowed : ConfigPool → ConfigLabel → Prop) : ConfigPool → Prop :=
  Reach (configExec A) (fun op : GuardedOp => op.1.body) (· = ConfigPool.start) allowed

/-- What the state keeps: the rows, and what the cache says of the canary. Reference: none. -/
structure HubConfig.Locked (A : Aead) (s : HubConfig) : Prop where
  sealed : s.table.Sealed A
  one : s.table.OnePassword A
  cached : ∀ password value, s.cache "UnlockPasswordCheck" (getEncryptionKeyHash A password) =
    some value → s.table.Vouches password value

/-- What an answer says of the state. Reference: none. -/
def HubConfig.Knows (_ : GuardedOp) (call : ConfigCall) (s : HubConfig) : Prop :=
  ∀ password value, call = ⟨.get "UnlockPasswordCheck" password, .ok value⟩ →
    s.table.Vouches password value

section
variable {A : Aead} {s s' : HubConfig} {env : ConfigEnv} {allowed : ConfigPool → ConfigLabel → Prop}
variable {cfg cfg' : ConfigPool} {key value encryptionKey password : String}

theorem ConfigPool.mem_next {i : Nat} {op : GuardedOp} {h : List ConfigCall} {c : ConfigCmd}
    {k : c.Ans → Cfg (Except ConfigErr Unit)} (hi : cfg.threads[i]? = some ⟨op, h, .cmd c k⟩) :
    c ∈ cfg.next i := by
  rw [ConfigPool.next, hi]
  exact rfl

theorem ConfigTable.Vouches.mono {t t' : ConfigTable} (h : t.Vouches password value)
    (hrow : t.row "UnlockPasswordCheck" ≠ none → t'.row "UnlockPasswordCheck" ≠ none) :
    t'.Vouches password value :=
  fun hv => ⟨(h hv).1, hrow (h hv).2⟩

/-- A write keeps the row of the canary. Reference: `config/config.go:296 set`. -/
theorem row_canary_create {t : ConfigTable} {r : UserConfig} {onConflict : OnConflict}
    (h : t.row "UnlockPasswordCheck" ≠ none) :
    (t.create onConflict r).row "UnlockPasswordCheck" ≠ none := by
  by_cases hk : r.key = "UnlockPasswordCheck"
  · rw [← hk, ConfigTable.row_create]
    exact nofun
  · rw [ConfigTable.row_create_ne (Ne.symm hk)]
    exact h

/-- A step that does not add to the cache and keeps the row of the canary. Reference: none. -/
theorem HubConfig.Locked.of_table (s' : HubConfig) (h : s.Locked A) (hsealed : s'.table.Sealed A)
    (hone : s'.table.OnePassword A)
    (hrow : s.table.row "UnlockPasswordCheck" ≠ none → s'.table.row "UnlockPasswordCheck" ≠ none)
    (hcache : ∀ hash value, s'.cache "UnlockPasswordCheck" hash = some value →
      s.cache "UnlockPasswordCheck" hash = some value) :
    s'.Locked A ∧ ∀ op call, s.Knows op call → s'.Knows op call :=
  ⟨⟨hsealed, hone, fun password value hc => (h.cached password value (hcache _ _ hc)).mono hrow⟩,
    fun _ _ hk password value he => (hk password value he).mono hrow⟩

/-- A whole statement that stores a row. Reference: `config/config.go:296 set`. -/
theorem HubConfig.Locked.create (hA : A.Ideal) (h : s.Locked A) {onConflict : OnConflict}
    (hg : AlbyHub.Guarded onConflict key value encryptionKey)
    (hfits : (ConfigCmd.create onConflict key value encryptionKey).Fits A s.table) {r : UserConfig}
    (hr : userConfigOf A env 0 key value encryptionKey = .ok r) :
    (s.table.create onConflict r).OnePassword A := by
  obtain ⟨hc, hk, hcanary⟩ := hg
  obtain ⟨hrk, hrow⟩ := userConfigOf_ok hr
  simp only [ConfigCmd.Fits] at hfits
  split at hfits
  · next hkey =>
    obtain ⟨rfl, rfl, hne⟩ := hcanary hkey
    exact onePassword_canary hA h.sealed ⟨hrk.trans hkey, hrow.resolve_left fun hp =>
      hne hp.1⟩ hfits
  · next hkey =>
    refine onePassword_other hA h.one (by rw [hrk]; exact hkey) hc ?_
    rcases hrow with ⟨-, rfl⟩ | hunder
    · exact .inl rfl
    · exact .inr ⟨_, _, hfits.resolve_left hunder.2.1, hunder⟩

/-- A disciplined command under the condition keeps the invariant of the state. Reference: none. -/
theorem HubConfig.Locked.step (hA : A.Ideal) {op : GuardedOp} {h : List ConfigCall} {c : ConfigCmd}
    {a : c.Ans} (hs : s.Locked A) (hknown : ∀ call ∈ h, s.Knows op call) (hok : configOk h c)
    (hfits : c.Fits A s.table) (hx : configExec A s c env = some (a, s')) :
    s'.Locked A ∧ s'.Knows op ⟨c, a⟩ ∧ ∀ op call, s.Knows op call → s'.Knows op call := by
  have hother : (∀ password, c ≠ .get "UnlockPasswordCheck" password) → s'.Knows op ⟨c, a⟩ := by
    intro hc password value he
    exact absurd (congrArg Call.cmd he) (hc password)
  cases c with
  | get key encryptionKey =>
    rcases exec_get hx with ⟨rfl, hhit⟩ | ⟨value, rfl, hget, rfl⟩
    · refine ⟨hs, fun password value he => ?_, fun _ _ hk => hk⟩
      cases he
      exact hs.cached _ _ (hhit value rfl)
    · refine ⟨⟨hs.sealed, hs.one, fun password value' hc => ?_⟩, fun password value' he => ?_,
        fun _ _ hk => hk⟩
      · simp only at hc
        split at hc
        · next hkey =>
          obtain ⟨rfl, hhash⟩ := hkey
          obtain rfl := getEncryptionKeyHash_inj hA hhash
          obtain rfl := Option.some.inj hc
          exact vouches_of_get hA hs.one hget
        · exact hs.cached password value' hc
      · cases he
        exact vouches_of_get hA hs.one hget
  | create onConflict key value encryptionKey =>
    simp only [configExec] at hx
    split at hx
    · cases hx
      exact ⟨hs, hother (fun _ => ConfigCmd.noConfusion), fun _ _ hk => hk⟩
    · cases hx
      exact ⟨hs, hother (fun _ => ConfigCmd.noConfusion), fun _ _ hk => hk⟩
    · next r _ hof =>
      obtain ⟨hc, hk, -⟩ := hok.2
      have hone := hs.create hA hok.2 hfits hof
      cases hx
      obtain ⟨hs', hkeep⟩ := hs.of_table { s with table := s.table.create onConflict r }
        (hs.sealed.create hc hk hof) hone row_canary_create fun _ _ hv => hv
      exact ⟨hs', hother (fun _ => ConfigCmd.noConfusion), hkeep⟩
  | deleteCache key =>
    cases hx
    obtain ⟨hs', hkeep⟩ := hs.of_table (s.dropCache (· = key)) hs.sealed hs.one id
      fun _ _ hv => by
        simp only [HubConfig.dropCache] at hv
        split at hv
        · cases hv
        · exact hv
    exact ⟨hs', hother (fun _ => ConfigCmd.noConfusion), hkeep⟩
  | reboot =>
    cases hx
    obtain ⟨hs', hkeep⟩ := hs.of_table (HubConfig.start s.table) hs.sealed hs.one id
      fun _ _ hv => by cases hv
    exact ⟨hs', hother (fun _ => ConfigCmd.noConfusion), hkeep⟩
  | changePasswordTx keys old new =>
    obtain ⟨-, hnew, hchecked, -⟩ := hok
    have hold : old ≠ "" := (hknown _ hchecked old unlockPasswordCheck rfl rfl).1
    rcases exec_changePasswordTx hx with ⟨-, rfl⟩ | ⟨-, -, t, htx, rfl⟩
    · exact ⟨hs, hother (fun _ => ConfigCmd.noConfusion), fun _ _ hk => hk⟩
    · obtain ⟨hone, hrow⟩ := onePassword_change hA hs.sealed hs.one hnew hold htx
      obtain ⟨hs', hkeep⟩ := hs.of_table { s with table := t }
        (hs.sealed.changePassword hnew htx) hone hrow fun _ _ hv => hv
      exact ⟨hs', hother (fun _ => ConfigCmd.noConfusion), hkeep⟩
  | _ =>
    cases hx
    exact ⟨⟨hs.sealed, hs.one, hs.cached⟩, hother (fun _ => ConfigCmd.noConfusion),
      fun _ _ hk => hk⟩

/-- The discipline of the calls on the configuration. Reference: none. -/
theorem config_sound (hA : A.Ideal) : Sound (configExec A) (fun op : GuardedOp => op.1.body)
    (Orderly A) (fun _ => configOk) (fun _ => configPost)
    (fun _ _ s c _ => c.Fits A s.table) (HubConfig.Locked A) HubConfig.Knows where
  body := follows_configBody
  obeys := fun _ _ _ _ _ _ _ ha hi => (ha _ (ConfigPool.mem_next hi)).1
  step := fun _ _ _ _ _ _ _ hinv hknown hok hfits hx => hinv.step hA hknown hok hfits hx

theorem ConfigRun.disciplined (hA : A.Ideal) (h : ConfigRun A (Orderly A) cfg) :
    cfg.Disciplined (fun _ => configOk) (fun _ =>
      configPost) (HubConfig.Locked A) HubConfig.Knows := by
  refine Reach.sound (config_sound hA) (fun cfg₀ h₀ => ?_) h
  rw [h₀]
  exact ⟨⟨nofun, .inl ⟨rfl, rfl⟩, nofun⟩, nofun, nofun, nofun⟩

/-! ## The cache in the pool -/

/-- What a run keeps of the cache: unless the entry of the canary is about to be dropped, its values
are those of the table, and there are none while a change has dropped them. Reference: none. -/
structure ConfigPool.CacheSettled (A : Aead) (cfg : ConfigPool) : Prop where
  canary : (∀ t ∈ cfg.threads, t.rest.next ≠ some (.deleteCache "UnlockPasswordCheck")) →
    cfg.state.CanaryCached A
  committing : cfg.Committing → ∀ hash, cfg.state.cache "UnlockPasswordCheck" hash = none

/-- A step that leaves the cache of the canary and its row, or drops the cache. Reference: none. -/
theorem HubConfig.CanaryCached.of_row (s' : HubConfig) (h : s.CanaryCached A)
    (hrow : s'.table.row "UnlockPasswordCheck" = s.table.row "UnlockPasswordCheck")
    (hcache : ∀ hash value, s'.cache "UnlockPasswordCheck" hash = some value →
      s.cache "UnlockPasswordCheck" hash = some value) : s'.CanaryCached A := by
  intro password value hc
  have hold := h password value (hcache _ _ hc)
  rw [ConfigTable.get_eq A (by decide)] at hold ⊢
  rw [hrow]
  exact hold

/-- A command other than a read of the canary adds nothing to its cache. Reference: none. -/
theorem cache_canary_of_exec {c : ConfigCmd} {a : c.Ans} (hx : configExec A s c env = some (a, s'))
    (hc : ∀ password, c ≠ .get "UnlockPasswordCheck" password) (hash value : String)
    (hv : s'.cache "UnlockPasswordCheck" hash = some value) :
    s.cache "UnlockPasswordCheck" hash = some value := by
  cases c with
  | get key encryptionKey =>
    rcases exec_get hx with ⟨rfl, -⟩ | ⟨value', -, -, rfl⟩
    · exact hv
    · simp only at hv
      split at hv
      · next hkey => exact absurd (hkey.1 ▸ rfl) (hc encryptionKey)
      · exact hv
  | create onConflict key value encryptionKey =>
    simp only [configExec] at hx
    split at hx <;> cases hx <;> exact hv
  | changePasswordTx keys old new =>
    rcases exec_changePasswordTx hx with ⟨-, rfl⟩ | ⟨-, -, t, -, rfl⟩
    · exact hv
    · exact hv
  | deleteCache key =>
    cases hx
    simp only [HubConfig.dropCache] at hv
    split at hv
    · cases hv
    · exact hv
  | reboot => cases hx; cases hv
  | _ => cases hx; exact hv

/-- A stored canary is one of the encrypted rows. Reference: `config/config.go:346
ChangeUnlockPassword`. -/
theorem HubConfig.Locked.mem_encryptedKeys (hs : s.Locked A)
    (hrow : s.table.row "UnlockPasswordCheck" ≠ none) :
    "UnlockPasswordCheck" ∈ s.table.encryptedRows.map (·.key) := by
  rcases hs.one with ⟨hnone, -⟩ | ⟨password, u, hu, hunder, -⟩
  · exact absurd hnone hrow
  · obtain ⟨hmem, hk⟩ := ConfigTable.mem_of_row hu
    exact List.mem_map.2 ⟨u, ConfigTable.mem_encryptedRows.2 ⟨hmem, hunder.1⟩, hk⟩

/-- The cached values of the canary after a step that is not the last of a write or of a change.
Reference: none. -/
theorem HubConfig.CanaryCached.step (hA : A.Ideal) {c : ConfigCmd} {a : c.Ans}
    (h : s.CanaryCached A)
    (hx : configExec A s c env = some (a, s'))
    (hwrite : dropDue [⟨c, a⟩] ≠ some "UnlockPasswordCheck")
    (hchange : ∀ keys old new, c ≠ .changePasswordTx keys old new) : s'.CanaryCached A := by
  by_cases hget : ∃ key password, c = .get key password
  · obtain ⟨key, password, rfl⟩ := hget
    exact (h.get hA hx).1
  · have hcache := cache_canary_of_exec hx fun password he => hget ⟨_, password, he⟩
    refine h.of_row s' ?_ hcache
    cases c with
    | get key encryptionKey => exact absurd ⟨key, encryptionKey, rfl⟩ hget
    | create onConflict key value encryptionKey =>
      simp only [configExec] at hx
      split at hx
      · cases hx; rfl
      · cases hx; rfl
      · next r _ hof =>
        cases hx
        have hk := (userConfigOf_ok hof).1
        refine ConfigTable.row_create_ne fun he => ?_
        rw [hk] at he
        exact hwrite (congrArg some he.symm)
    | changePasswordTx keys old new => exact absurd rfl (hchange keys old new)
    | _ => cases hx; rfl

/-- The entry of the canary has been dropped by the latest call of a change, or before. Reference:
`config/config.go:353 ChangeUnlockPassword`. -/
theorem mem_openChange_cons {h : List ConfigCall} {c : ConfigCmd} {a : c.Ans} {keys : List String}
    (hopen : openChange (⟨c, a⟩ :: h) = some keys) (hmem : key ∈ keys) :
    c = .deleteCache key ∨ ∃ keys', openChange h = some keys' ∧ key ∈ keys' := by
  cases c with
  | encryptedKeys =>
    obtain rfl := Option.some.inj hopen
    cases hmem
  | deleteCache key' =>
    obtain ⟨keys', hkeys, rfl⟩ := Option.map_eq_some_iff.1 hopen
    rcases List.mem_cons.1 hmem with rfl | hmem
    · exact .inl rfl
    · exact .inr ⟨keys', hkeys, hmem⟩
  | _ => cases hopen

section
variable {i : Nat} {op : GuardedOp} {h : List ConfigCall} {c : ConfigCmd} {a : c.Ans}
variable {k : c.Ans → Cfg (Except ConfigErr Unit)}

/-- The entry of the canary is right after a step by which none is left to be dropped: a stored
canary is followed by the removal of its entry, and a change has dropped it before it commits.
Reference: `config/config.go:296 set`, `:336 ChangeUnlockPassword`. -/
theorem ConfigPool.CacheSettled.canary_run (hA : A.Ideal) (hc : cfg.CacheSettled A)
    (hd : cfg.Disciplined (fun _ => configOk) (fun _ => configPost) (HubConfig.Locked A)
      HubConfig.Knows) (hi : cfg.threads[i]? = some ⟨op, h, .cmd c k⟩)
    (hx : configExec A cfg.state c env = some (a, s'))
    (hundue : ∀ t ∈ cfg.threads.set i ⟨op, ⟨c, a⟩ :: h, k a⟩,
      t.rest.next ≠ some (.deleteCache "UnlockPasswordCheck")) : s'.CanaryCached A := by
  have hok : configOk h c := hd.issues hi
  have hknown := hd.known _ (List.mem_of_getElem? hi)
  obtain ⟨hnext, hpost⟩ := hd.follows_next a hi
  have hwrite : dropDue [⟨c, a⟩] ≠ some "UnlockPasswordCheck" := by
    intro hdue
    have hdue' : dropDue (⟨c, a⟩ :: h) = some "UnlockPasswordCheck" := by
      rw [dropDue_cons]
      exact hdue
    cases hn : (k a).next with
    | none =>
      obtain ⟨_, hnone⟩ := hpost hn
      exact absurd (hdue'.symm.trans hnone) nofun
    | some c' =>
      have hdrop := (hnext c' hn).1 _ hdue'
      exact hundue _ (List.mem_set (List.getElem?_eq_some_iff.1 hi).1 _)
        (hn.trans (congrArg some hdrop))
  by_cases htx : ∃ keys old new, c = .changePasswordTx keys old new
  · obtain ⟨keys, old, new, rfl⟩ := htx
    rcases exec_changePasswordTx hx with ⟨-, rfl⟩ | ⟨-, hall, t, -, rfl⟩
    · refine hc.canary fun t ht => ?_
      rcases Config.mem_of_set _ hi ht with rfl | ht
      · exact nofun
      · exact hundue t ht
    · -- the loop has dropped the entry of the canary
      obtain ⟨-, -, hchecked, hopen⟩ := hok
      have hrow := (hknown _ hchecked old unlockPasswordCheck rfl rfl).2
      have hmem := List.mem_reverse.2 (hall ▸ hd.inv.mem_encryptedKeys hrow)
      have hempty := hc.committing ⟨_, List.mem_of_getElem? hi, _, hopen, hmem⟩
      intro password value hv
      have hnone : some value = none := hv.symm.trans (hempty _)
      cases hnone
  · by_cases hdrop : c = .deleteCache "UnlockPasswordCheck"
    · obtain rfl := hdrop
      intro password value hv
      rw [deleteCache_none hx] at hv
      cases hv
    · refine HubConfig.CanaryCached.step hA (hc.canary fun t ht => ?_) hx hwrite
        fun keys old new he => htx ⟨keys, old, new, he⟩
      rcases Config.mem_of_set _ hi ht with rfl | ht
      · exact fun he => hdrop (Option.some.inj he)
      · exact hundue t ht

/-- Nothing fills the entry of the canary while a change that has dropped it is in its transaction.
Reference: `config/config.go:343 ChangeUnlockPassword`. -/
theorem ConfigPool.CacheSettled.committing_run (hc : cfg.CacheSettled A)
    (hi : cfg.threads[i]? = some ⟨op, h, .cmd c k⟩)
    (hreads : c.readsCanary = true → ¬ cfg.Committing)
    (hx : configExec A cfg.state c env = some (a, s'))
    (hcom : ConfigPool.Committing ⟨s', cfg.threads.set i ⟨op, ⟨c, a⟩ :: h, k a⟩⟩) (hash : String) :
    s'.cache "UnlockPasswordCheck" hash = none := by
  obtain ⟨t, ht, keys, hopen, hmem⟩ := hcom
  have hkeep : cfg.Committing → s'.cache "UnlockPasswordCheck" hash = none := by
    intro hcom
    cases hv : s'.cache "UnlockPasswordCheck" hash with
    | none => rfl
    | some value =>
      have hread : ∀ password, c ≠ .get "UnlockPasswordCheck" password := by
        rintro password rfl
        exact hreads rfl hcom
      have hold := cache_canary_of_exec hx hread _ _ hv
      rw [hc.committing hcom hash] at hold
      cases hold
  rcases Config.mem_set ht with rfl | ht
  · rcases mem_openChange_cons hopen hmem with rfl | ⟨keys', hopen', hmem'⟩
    · exact deleteCache_none hx hash
    · exact hkeep ⟨_, List.mem_of_getElem? hi, keys', hopen', hmem'⟩
  · exact hkeep ⟨t, ht, keys, hopen, hmem⟩

end

/-- A step of the condition keeps the cache settled. Reference: none. -/
theorem ConfigPool.CacheSettled.step (hA : A.Ideal) {l : ConfigLabel} (hc : cfg.CacheSettled A)
    (hd : cfg.Disciplined (fun _ => configOk) (fun _ => configPost) (HubConfig.Locked A)
      HubConfig.Knows) (ha : Orderly A cfg l)
    (hs : cfg.step (configExec A) (fun op => op.1.body) l = some cfg') : cfg'.CacheSettled A := by
  cases l with
  | restart =>
    -- the memory is that of a start
    cases hs
    have hempty : ∀ key hash, cfg.state.cache key hash = none := by
      rw [show cfg.state = _ from ha]
      exact fun _ _ => rfl
    refine ⟨fun _ password value hv => ?_, fun _ hash => hempty _ hash⟩
    rw [hempty] at hv
    cases hv
  | spawn op =>
    cases hs
    refine ⟨fun hnext => hc.canary fun t ht => hnext t (List.mem_append_left _ ht), fun hcom => ?_⟩
    obtain ⟨t, ht, keys, hopen, hmem⟩ := hcom
    rcases List.mem_append.1 ht with ht | ht
    · exact hc.committing ⟨t, ht, keys, hopen, hmem⟩
    · rw [List.mem_singleton.1 ht] at hopen
      cases hopen
  | run i env =>
    obtain ⟨op, h, c, k, a, s', hi, hx, rfl⟩ := Config.step_run hs
    obtain ⟨-, hreads⟩ := ha c (ConfigPool.mem_next hi)
    exact ⟨hc.canary_run hA hd hi hx, hc.committing_run hi hreads hx⟩

theorem ConfigRun.cacheSettled (hA : A.Ideal) (h : ConfigRun A (Orderly A) cfg) :
    cfg.CacheSettled A := by
  refine Reach.induction (fun cfg₀ h₀ => ?_) (fun cfg₀ l cfg₁ hr hc ha hs => ?_) h
  · rw [h₀]
    refine ⟨fun _ => nofun, fun hcom => ?_⟩
    obtain ⟨t, ht, -⟩ := hcom
    cases ht
  · exact hc.step hA (ConfigRun.disciplined hA hr) ha hs

/-- No call is in progress. Reference: none. -/
def ConfigPool.Quiet (cfg : ConfigPool) : Prop := ∀ t ∈ cfg.threads, t.rest.done = true

/-- The accepted password opens every encrypted row, and there is one where a row is encrypted.
Reference: none. -/
def HubConfig.OpensEverything (A : Aead) (s : HubConfig) : Prop :=
  (s.table.encryptedRows ≠ [] → ∃ password, s.Accepts A password) ∧
  ∀ password, s.Accepts A password → ∀ u ∈ s.table.encryptedRows, ∃ plaintext,
    AesGcmDecryptWithPassword A u.value password = .ok plaintext

/-- In every orderly run, once no call is in progress one password opens everything. Reference:
`config/config.go`, `api/api.go:1746 Setup`, `service/keys/keys.go:48 Init`. -/
theorem one_password (A : Aead) (hA : A.Ideal) (cfg : ConfigPool) (h : ConfigRun A (Orderly A) cfg)
    (hquiet : cfg.Quiet) : cfg.state.OpensEverything A := by
  have hd := ConfigRun.disciplined hA h
  have hcanary : cfg.state.CanaryCached A := by
    refine (ConfigRun.cacheSettled hA h).canary fun t ht => ?_
    rw [Prog.next_of_done (hquiet t ht)]
    exact nofun
  rcases hd.inv.one with ⟨hrow, hnone⟩ | ⟨password, u, hrow, hu, hall⟩
  · refine ⟨fun hne => absurd hnone hne, fun password haccepts v hv => ?_⟩
    rw [hnone] at hv
    cases hv
  · refine ⟨fun _ => ⟨password, ?_⟩, fun password' haccepts v hv => ?_⟩
    · exact hcanary.accepts_iff.2 ((accepts_iff_of_under hA hrow hu).2 rfl)
    · obtain rfl := (accepts_iff_of_under hA hrow hu).1 (hcanary.accepts_iff.1 haccepts)
      obtain ⟨plaintext, hv'⟩ := hall v hv
      exact ⟨plaintext, hv'.2.decrypt hA⟩

end

instance {A : Aead} {t : ConfigTable} : ∀ c : ConfigCmd, Decidable (c.Fits A t)
  | .create _ key _ encryptionKey =>
    have : Decidable (t.Accepts A encryptionKey) := inferInstanceAs (Decidable (_ = _))
    inferInstanceAs (Decidable (if key = "UnlockPasswordCheck" then
      ∀ u ∈ t.encryptedRows, u.key = "UnlockPasswordCheck" ∨ u.opens A encryptionKey = true
      else encryptionKey = "" ∨ t.Accepts A encryptionKey))
  | .get _ _ | .deleteCache _ | .encryptedKeys | .changePasswordTx _ _ _ | .getJwtSecret
  | .setJwtSecret _ | .tryLockStart | .unlockStart | .outside _ | .reboot => isTrue trivial

instance {cfg : ConfigPool} : Decidable cfg.Committing :=
  inferInstanceAs (Decidable (∃ t ∈ cfg.threads, ∃ keys ∈ openChange t.hist,
    "UnlockPasswordCheck" ∈ keys))

noncomputable instance {A : Aead} {cfg : ConfigPool} : ∀ l : ConfigLabel,
    Decidable (Orderly A cfg l)
  | .spawn _ => isTrue trivial
  | .restart => Classical.propDecidable _
  | .run i _ => inferInstanceAs (Decidable (∀ c ∈ cfg.next i, _ ∧ _))

/-- A setup with a password and a mnemonic that runs to its end, as the call number `i`; the node
was not migrated. Reference: `api/api.go:1746 Setup`. -/
def setupSteps (i steps : Nat) (setupRequest : SetupRequest) : List ConfigLabel :=
  .spawn ⟨.setup true setupRequest, trivial⟩ ::
    List.replicate steps (.run i { outside := .error "" })

/-- The pool after some steps. Reference: none. -/
def ConfigPool.after (A : Aead) (labels : List ConfigLabel) : Option ConfigPool :=
  ConfigPool.start.run (configExec A) (fun op => op.1.body) labels

/-- What is seen of a pool: whether the calls have returned, the check of a password, and whether it
opens the encrypted rows. Reference: none. -/
def ConfigPool.look (A : Aead) (cfg : ConfigPool) (password : String) :
    Bool × Option (Except ConfigErr String) × Nat × Bool :=
  (cfg.threads.all (·.rest.done),
    (configExec A cfg.state (.get "UnlockPasswordCheck" password) {}).map (·.1),
    cfg.state.table.encryptedRows.length,
    cfg.state.table.encryptedRows.all (·.opens A password))

theorem one_password_setup : ∃ cfg, ConfigPool.after .clear
      (setupSteps 0 10 { UnlockPassword := "1", Mnemonic := "m" }) = some cfg ∧
    cfg.state.table.encryptedRows.length = 2 ∧ cfg.state.OpensEverything .clear := by
  have hlook : (ConfigPool.after .clear
      (setupSteps 0 10 { UnlockPassword := "1", Mnemonic := "m" })).map (fun cfg =>
        (cfg.threads.all (·.rest.done), cfg.state.table.encryptedRows.length)) =
      some (true, 2) := by decide +kernel
  obtain ⟨cfg, hafter, hcfg⟩ := Option.map_eq_some_iff.1 hlook
  simp only [Prod.mk.injEq] at hcfg
  have hrun : ConfigRun .clear (Orderly .clear) cfg :=
    Reach.of_run (.start rfl) (by decide +kernel) hafter
  exact ⟨cfg, hafter, hcfg.2,
    one_password .clear Aead.clear_ideal cfg hrun fun t ht => List.all_eq_true.1 hcfg.1 t ht⟩

/-- A second setup before the first start changes the password of the canary, not that of the
mnemonic. Reference: `api/api.go:1757 Setup`. -/
theorem second_setup_locks_out : ∃ cfg, ConfigPool.after .clear
      (setupSteps 0 10 { UnlockPassword := "1", Mnemonic := "m" } ++
        setupSteps 1 8 { UnlockPassword := "2" }) = some cfg ∧
    cfg.Quiet ∧ ¬ cfg.state.OpensEverything .clear := by
  have hlook : (ConfigPool.after .clear
      (setupSteps 0 10 { UnlockPassword := "1", Mnemonic := "m" } ++
      setupSteps 1 8 { UnlockPassword := "2" })).map (·.look .clear "2") =
      some (true, some (.ok unlockPasswordCheck), 2, false) := by decide +kernel
  obtain ⟨cfg, hafter, hcfg⟩ := Option.map_eq_some_iff.1 hlook
  simp only [ConfigPool.look, Prod.mk.injEq] at hcfg
  obtain ⟨hquiet, hcheck, -, hopens⟩ := hcfg
  refine ⟨cfg, hafter, fun t ht => List.all_eq_true.1 hquiet t ht, fun h => ?_⟩
  obtain ⟨⟨a, s'⟩, hx, ha⟩ := Option.map_eq_some_iff.1 hcheck
  obtain rfl : a = .ok unlockPasswordCheck := ha
  have haccepts : cfg.state.Accepts .clear "2" :=
    ⟨s', runs_CheckUnlockPassword.2 ⟨{}, _, hx, by simp⟩⟩
  obtain ⟨u, hu, hshut⟩ := List.all_eq_false.1 hopens
  obtain ⟨plaintext, hd⟩ := h.2 "2" haccepts u hu
  rw [UserConfig.opens, hd] at hshut
  exact hshut rfl

end AlbyHub
