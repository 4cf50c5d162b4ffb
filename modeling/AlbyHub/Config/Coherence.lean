import AlbyHub.Config.Writes
import AlbyHub.Interaction.Solo

/-!
# The table, its encrypted rows and the cached canary

What one statement does to the row of a key, what it means that a text is an encryption, and the
invariant of a configuration that is used by one call at a time (`HubConfig.Sound`): the cached
values of the canary are those of the table, and what is marked as encrypted is. What is made of
reads, whole writes and plain commands keeps it (`Made.keeps`).
-/

namespace AlbyHub

open Interaction

namespace ConfigTable

variable {t : ConfigTable} {r u : UserConfig} {key value encryptionKey : String} {n : Nat}
variable {onConflict : OnConflict}

theorem mem_of_row (h : t.row key = some r) : r ∈ t.rows ∧ r.key = key := by
  have hk := List.find?_some (p := fun u : UserConfig => decide (u.key = key)) h
  exact ⟨List.mem_of_find?_eq_some h, of_decide_eq_true hk⟩

/-- Of two rows in the table with one key, there is one. Reference: `idx_user_configs_key`. -/
theorem eq_of_key {rows : List UserConfig} (hn : (rows.map (·.key)).Nodup) (hr : r ∈ rows)
    (hu : u ∈ rows) (hk : r.key = u.key) : r = u :=
  List.inj_on_of_nodup_map hn hr hu hk

theorem row_of_mem (h : r ∈ t.rows) : t.row r.key = some r := by
  cases hu : t.row r.key with
  | none => exact absurd (decide_eq_true rfl) (List.find?_eq_none.1 hu r h)
  | some u =>
    obtain ⟨hmem, hk⟩ := mem_of_row hu
    rw [eq_of_key t.keys_nodup hmem h hk]

theorem row_eq_some : t.row key = some r ↔ r ∈ t.rows ∧ r.key = key := by
  constructor
  · exact mem_of_row
  · rintro ⟨h, rfl⟩
    exact row_of_mem h

/-- A query by a key finds the row of the key. Reference: `config/config.go:271 get`. -/
theorem find_eq_row (hk : key ≠ "") : t.find n key = t.row key := by
  have hfilter : (t.rows.filter fun r => key = "" ∨ r.key = key) = (t.row key).toList := by
    have hp : (fun r : UserConfig => decide (key = "" ∨ r.key = key)) = fun r =>
      decide (r.key = key) := by
      simp [hk]
    rw [hp, row]
    have hn := t.keys_nodup
    generalize t.rows = rows at hn
    induction rows with
    | nil => rfl
    | cons r rows ih =>
      rw [List.map_cons, List.nodup_cons] at hn
      by_cases hr : r.key = key
      · have hrest : rows.filter (fun r => decide (r.key = key)) = [] := by
          refine List.filter_eq_nil_iff.2 fun u hu => ?_
          have hne : u.key ≠ key := fun he => hn.1 (List.mem_map.2 ⟨u, hu, he.trans hr.symm⟩)
          simpa using hne
        rw [List.filter_cons_of_pos (by simpa using hr), List.find?_cons_of_pos (by simpa using hr),
          hrest]
        rfl
      · rw [List.filter_cons_of_neg (by simpa using hr), List.find?_cons_of_neg (by simpa using hr)]
        exact ih hn.2
  rw [find, hfilter, pick]
  cases t.row key with
  | none => rfl
  | some r => rw [Option.toList_some, List.length_singleton, Nat.mod_one, List.getElem?_cons_zero]

/-- What a read of the table gives. Reference: `config/config.go:269 get`. -/
theorem get_eq (A : Aead) (hk : key ≠ "") :
    t.get A n key encryptionKey = match t.row key with
      | none => .ok ""
      | some r => r.read A encryptionKey := by
  cases hrow : t.row key <;> simp only [get, find_eq_row hk, hrow]

theorem row_update {encrypted : Option Bool} : (t.update key value encrypted).row key =
    (t.row key).map (assign key value encrypted) := by
  have hcomp : (fun r : UserConfig => decide (r.key = key)) ∘ assign key value encrypted =
      fun r => decide (r.key = key) := by
    funext r
    simp [assign_key]
  rw [row, update, List.find?_map, hcomp, row]

theorem row_update_ne {encrypted : Option Bool} {key' : String} (hne : key' ≠ key) :
    (t.update key value encrypted).row key' = t.row key' := by
  have hcomp : (fun r : UserConfig => decide (r.key = key')) ∘ assign key value encrypted =
      fun r => decide (r.key = key') := by
    funext r
    simp [assign_key]
  rw [row, update, List.find?_map, hcomp]
  cases h : t.rows.find? (fun r => decide (r.key = key')) with
  | none => rw [row, h]; rfl
  | some r =>
    have hk := (mem_of_row h).2
    rw [row, h, Option.map_some, assign, if_neg (hk ▸ hne)]

/-- The row that a `Create` leaves under its key. Reference: `config/config.go:296 set`. -/
def created (onConflict : OnConflict) (r : UserConfig) : Option UserConfig → UserConfig
  | none => r
  | some u =>
    match onConflict with
    | .doNothing => u
    | .doUpdates => r
    | .doUpdateValue => { r with encrypted := u.encrypted }

theorem row_insert (h : t.row r.key = none) : (t.insert r h).row r.key = some r := by
  rw [row, insert, List.find?_append, show t.rows.find? _ = none from h]
  simp

theorem row_create :
    (t.create onConflict r).row r.key = some (created onConflict r (t.row r.key)) := by
  unfold create
  split
  · next h =>
    have hcreated : created onConflict r (t.row r.key) = r := by rw [h]; rfl
    rw [hcreated, row_insert]
  · next u h =>
    have hk := (mem_of_row h).2
    have hcreated : created onConflict r (t.row r.key) = created onConflict r (some u) := by rw [h]
    rw [hcreated]
    cases onConflict with
    | doNothing => exact h
    | doUpdates =>
      show (t.update _ _ _).row _ = _
      rw [row_update, h, Option.map_some, assign, if_pos hk, hk]
      rfl
    | doUpdateValue =>
      show (t.update _ _ _).row _ = _
      rw [row_update, h, Option.map_some, assign, if_pos hk, hk]
      rfl

theorem row_create_ne (hne : key ≠ r.key) : (t.create onConflict r).row key = t.row key := by
  unfold create
  split
  · next h =>
    rw [row, insert, List.find?_append, List.find?_cons_of_neg (by simpa using hne.symm)]
    simp [row]
  · next u h =>
    cases onConflict with
    | doNothing => rfl
    | doUpdates => exact row_update_ne hne
    | doUpdateValue => exact row_update_ne hne

theorem row_delete : (t.delete key).row key = none := by
  refine List.find?_eq_none.2 fun r hr => ?_
  have hne : r.key ≠ key := of_decide_eq_true (List.mem_filter.1 hr).2
  simpa using hne

theorem row_delete_ne {key' : String} (hne : key' ≠ key) :
    (t.delete key).row key' = t.row key' := by
  refine Option.ext fun r => ?_
  rw [row_eq_some, row_eq_some, delete, List.mem_filter]
  constructor
  · rintro ⟨⟨h, -⟩, hk⟩
    exact ⟨h, hk⟩
  · rintro ⟨h, hk⟩
    exact ⟨⟨h, by simpa [hk] using hne⟩, hk⟩

theorem mem_encryptedRows : r ∈ t.encryptedRows ↔ r ∈ t.rows ∧ r.encrypted = true := by
  simp [encryptedRows]

end ConfigTable

/-! ## Encrypted texts -/

/-- The text is what a password made of the plaintext. Reference: `config/config.go:288 set`. -/
def Aead.Encryption (A : Aead) (password plaintext text : String) : Prop :=
  password ≠ "" ∧ ∃ salt nonce, nonce.length = 12 ∧
    AesGcmEncryptWithPassword A salt nonce plaintext password = .ok text

section
variable {A : Aead} {password password' plaintext text value : String} {env : ConfigEnv} {i : Nat}
variable {key encryptionKey : String} {r : UserConfig} {t : ConfigTable}

theorem Aead.Encryption.ne_unlockPasswordCheck (h : A.Encryption password plaintext text)
    (hA : A.Ideal) : text ≠ unlockPasswordCheck := by
  obtain ⟨-, salt, nonce, -, henc⟩ := h
  have hdash := dash_mem_encrypt hA henc
  rintro rfl
  exact absurd hdash (by decide)

theorem Aead.Encryption.ne_empty (h : A.Encryption password plaintext text) (hA : A.Ideal) :
    text ≠ "" := by
  obtain ⟨-, salt, nonce, -, henc⟩ := h
  have hdash := dash_mem_encrypt hA henc
  rintro rfl
  exact absurd hdash (by decide)

theorem Aead.Encryption.decrypt (h : A.Encryption password plaintext text) (hA : A.Ideal) :
    AesGcmDecryptWithPassword A text password = .ok plaintext := by
  obtain ⟨-, salt, nonce, hn, henc⟩ := h
  exact decrypt_of_encrypt hA hn henc

theorem Aead.Encryption.password_eq (h : A.Encryption password plaintext text) (hA : A.Ideal)
    {value : String} (hd : AesGcmDecryptWithPassword A text password' = .ok value) :
    password' = password := by
  obtain ⟨-, salt, nonce, hn, henc⟩ := h
  exact password_of_decrypt hA hn henc hd

/-- The row's value is an encryption under the password. Reference: none. -/
def UserConfig.Under (A : Aead) (r : UserConfig) (password plaintext : String) : Prop :=
  r.encrypted = true ∧ A.Encryption password plaintext r.value

theorem UserConfig.Under.read (h : r.Under A password plaintext) (hA : A.Ideal) :
    r.read A password = .ok plaintext := by
  rw [UserConfig.read, if_pos ⟨h.2.ne_empty hA, h.2.1, h.1⟩, h.2.decrypt hA]
  rfl

/-- Of an encrypted row, only its own password reads the plaintext; none reads the stored text.
Reference: `config/config.go:269 get`. -/
theorem UserConfig.Under.of_read (h : r.Under A password plaintext) (hA : A.Ideal)
    (hr : r.read A password' = .ok value) :
    (password' = "" ∧ value = r.value) ∨ (password' = password ∧ value = plaintext) := by
  rw [UserConfig.read] at hr
  split at hr
  · next hcond =>
    right
    cases hd : AesGcmDecryptWithPassword A r.value password' with
    | error e => rw [hd] at hr; cases hr
    | ok value' =>
      rw [hd] at hr
      obtain rfl := Except.ok.inj hr
      obtain rfl := h.2.password_eq hA hd
      rw [h.2.decrypt hA] at hd
      exact ⟨rfl, (Except.ok.inj hd).symm⟩
  · next hcond =>
    left
    have hempty : password' = "" := by
      by_contra hne
      exact hcond ⟨h.2.ne_empty hA, hne, h.1⟩
    exact ⟨hempty, (Except.ok.inj hr).symm⟩

theorem UserConfig.read_of_not_encrypted (h : r.encrypted = false) :
    r.read A encryptionKey = .ok r.value := by
  rw [UserConfig.read, if_neg (by simp [h])]

/-- What a write stores. Reference: `config/config.go:287 set`. -/
theorem userConfigOf_ok (h : userConfigOf A env i key value encryptionKey = .ok r) : r.key = key ∧
    (encryptionKey = "" ∧ r = ⟨key, value, false⟩ ∨ r.Under A encryptionKey value) := by
  rw [userConfigOf] at h
  split at h
  · next hne =>
    cases henc : AesGcmEncryptWithPassword A (env.salt i) (env.nonce i).1 value encryptionKey with
    | error e => rw [henc] at h; cases h
    | ok text =>
      rw [henc] at h
      obtain rfl := Except.ok.inj h
      exact ⟨rfl, .inr ⟨rfl, hne, _, _, (env.nonce i).2, henc⟩⟩
  · next hne =>
    obtain rfl := Except.ok.inj h
    exact ⟨rfl, .inl ⟨not_not.1 hne, rfl⟩⟩

theorem exists_userConfigOf (hA : A.Ideal) : ∃ r,
    userConfigOf A env i key value encryptionKey = .ok r := by
  rw [userConfigOf]
  split
  · rw [AesGcmEncryptWithPassword_ok hA]
    exact ⟨_, rfl⟩
  · exact ⟨_, rfl⟩

/-- Every row has a name, and what is marked as encrypted is. Reference: none. -/
def ConfigTable.Sealed (A : Aead) (t : ConfigTable) : Prop :=
  ∀ r ∈ t.rows, r.key ≠ "" ∧
    (r.encrypted = true → ∃ password plaintext, r.Under A password plaintext)

/-- The rows of a table after a write. Reference: `config/config.go:296 set`. -/
theorem ConfigTable.mem_create {onConflict : OnConflict} {u : UserConfig}
    (h : u ∈ (t.create onConflict r).rows) :
    u ∈ t.rows ∨ u = ConfigTable.created onConflict r (t.row r.key) := by
  have hu := row_of_mem h
  by_cases hk : u.key = r.key
  · rw [hk, row_create] at hu
    exact .inr (Option.some.inj hu).symm
  · rw [row_create_ne hk] at hu
    exact .inl (mem_of_row hu).1

theorem ConfigTable.Sealed.create {onConflict : OnConflict} (h : t.Sealed A)
    (hc : onConflict ≠ .doUpdateValue) (hk : key ≠ "")
    (hr : userConfigOf A env i key value encryptionKey = .ok r) :
    (t.create onConflict r).Sealed A := by
  obtain ⟨hkey, hr⟩ := userConfigOf_ok hr
  have hnew : r.key ≠ "" ∧
      (r.encrypted = true → ∃ password plaintext, r.Under A password plaintext) := by
    refine ⟨hkey ▸ hk, fun he => ?_⟩
    rcases hr with ⟨-, rfl⟩ | hr
    · cases he
    · exact ⟨_, _, hr⟩
  intro u hu
  rcases mem_create hu with hu | rfl
  · exact h u hu
  · cases ho : t.row r.key with
    | none => exact hnew
    | some old =>
      cases onConflict with
      | doNothing => exact h old (mem_of_row ho).1
      | doUpdates => exact hnew
      | doUpdateValue => exact absurd rfl hc

end

/-! ## The cache of the canary -/

/-- The password is the one of the canary. Reference: `config/config.go:408 CheckUnlockPassword`. -/
def ConfigTable.Accepts (A : Aead) (t : ConfigTable) (password : String) : Prop :=
  t.get A 0 "UnlockPasswordCheck" password = .ok unlockPasswordCheck

/-- A check of the password can succeed. Reference: `config/config.go:408 CheckUnlockPassword`. -/
def HubConfig.Accepts (A : Aead) (s : HubConfig) (password : String) : Prop :=
  ∃ s', (CheckUnlockPassword password).Runs (configExec A) s true s'

/-- The cached values of the canary are those of the table. Reference: none. -/
def HubConfig.CanaryCached (A : Aead) (s : HubConfig) : Prop :=
  ∀ password value, s.cache "UnlockPasswordCheck" (getEncryptionKeyHash A password) = some value →
    s.table.get A 0 "UnlockPasswordCheck" password = .ok value

/-- The invariant of a configuration between calls. Reference: none. -/
structure HubConfig.Sound (A : Aead) (s : HubConfig) : Prop where
  canary : s.CanaryCached A
  sealed : s.table.Sealed A

theorem HubConfig.sound_start {A : Aead} {t : ConfigTable} (h : t.Sealed A) :
    (HubConfig.start t).Sound A where
  canary := fun _ _ hc => nomatch hc
  sealed := h

section
variable {A : Aead} {s s' : HubConfig} {env : ConfigEnv} {key value encryptionKey password : String}

/-- The digest names the password. Reference: `config/config.go:231 getEncryptionKeyHash`. -/
theorem getEncryptionKeyHash_inj (hA : A.Ideal) {password password' : String}
    (h : getEncryptionKeyHash A password = getEncryptionKeyHash A password') :
    password = password' := by
  unfold getEncryptionKeyHash at h
  split at h
  · next he =>
    split at h
    · next he' => rw [he, he']
    · exact absurd h.symm (hA.prefix_ne _)
  · split at h
    · exact absurd h (hA.prefix_ne _)
    · exact hA.password_of_prefix _ _ h

/-- What a read through the cache does. Reference: `config/config.go:242 Get`. -/
theorem exec_get {a : Except ConfigErr String}
    (h : configExec A s (.get key encryptionKey) env = some (a, s')) :
    (s' = s ∧
      (∀ value, a = .ok value → s.cache key (getEncryptionKeyHash A encryptionKey) = some value)) ∨
    (∃ value, a = .ok value ∧ s.table.get A env.pick key encryptionKey = .ok value ∧
      s' = { s with cache := fun key' hash' =>
        if key' = key ∧ hash' = getEncryptionKeyHash A encryptionKey then some value
        else s.cache key' hash' }) := by
  simp only [configExec] at h
  split at h
  · next value hc =>
    obtain ⟨rfl, rfl⟩ := Prod.ext_iff.1 (Option.some.inj h)
    exact .inl ⟨rfl, fun value' he => Except.ok.inj he ▸ hc⟩
  · next hc =>
    split at h
    · obtain ⟨rfl, rfl⟩ := Prod.ext_iff.1 (Option.some.inj h)
      exact .inl ⟨rfl, nofun⟩
    · obtain ⟨rfl, rfl⟩ := Prod.ext_iff.1 (Option.some.inj h)
      exact .inl ⟨rfl, nofun⟩
    · next value _ hget =>
      obtain ⟨rfl, rfl⟩ := Prod.ext_iff.1 (Option.some.inj h)
      exact .inr ⟨value, rfl, hget, rfl⟩

/-- The canary is read as the table has it, whichever row the database would pick. Reference:
`config/config.go:408 CheckUnlockPassword`. -/
theorem get_canary (t : ConfigTable) (n : Nat) (password : String) :
    t.get A n "UnlockPasswordCheck" password = t.get A 0 "UnlockPasswordCheck" password := by
  rw [ConfigTable.get_eq A (by decide), ConfigTable.get_eq A (by decide)]

theorem HubConfig.CanaryCached.get (h : s.CanaryCached A) (hA : A.Ideal)
    {a : Except ConfigErr String}
    (hx : configExec A s (.get key encryptionKey) env = some (a, s')) :
    s'.CanaryCached A ∧ s'.table = s.table := by
  rcases exec_get hx with ⟨rfl, -⟩ | ⟨value, -, hget, rfl⟩
  · exact ⟨h, rfl⟩
  · refine ⟨fun password value' hc => ?_, rfl⟩
    simp only at hc
    split at hc
    · next hkey =>
      obtain ⟨rfl, hhash⟩ := hkey
      obtain rfl := getEncryptionKeyHash_inj hA hhash
      rw [← Option.some.inj hc, ← get_canary, hget]
    · exact h password value' hc

/-- What a read of the canary answers. Reference: `config/config.go:408 CheckUnlockPassword`. -/
theorem HubConfig.CanaryCached.answer (h : s.CanaryCached A)
    (hx : configExec A s (.get "UnlockPasswordCheck" password) env = some (.ok value, s')) :
    s.table.get A 0 "UnlockPasswordCheck" password = .ok value := by
  rcases exec_get hx with ⟨-, hc⟩ | ⟨value', ha, hget, -⟩
  · exact h password value (hc value rfl)
  · rw [Except.ok.inj ha, ← get_canary, hget]

/-- The program of a check of the password. Reference: `config/config.go:408
CheckUnlockPassword`. -/
theorem runs_CheckUnlockPassword {b : Bool} :
    (CheckUnlockPassword password).Runs (configExec A) s b s' ↔ ∃ env a,
      configExec A s (.get "UnlockPasswordCheck" password) env = some (a, s') ∧
      b = decide (a = .ok unlockPasswordCheck) := by
  rw [CheckUnlockPassword, Prog.runs_call_bind]
  constructor
  · rintro ⟨env, a, s₁, hx, hr⟩
    cases a with
    | error e =>
      obtain ⟨rfl, rfl⟩ := hr
      exact ⟨env, _, hx, rfl⟩
    | ok value =>
      obtain ⟨rfl, rfl⟩ := hr
      refine ⟨env, _, hx, ?_⟩
      have hne : unlockPasswordCheck ≠ "" := by decide
      by_cases hv : value = unlockPasswordCheck
      · simp [hv, hne]
      · simp [hv]
  · rintro ⟨env, a, hx, rfl⟩
    refine ⟨env, a, s', hx, ?_⟩
    cases a with
    | error e => exact ⟨rfl, rfl⟩
    | ok value =>
      refine ⟨?_, rfl⟩
      have hne : unlockPasswordCheck ≠ "" := by decide
      by_cases hv : value = unlockPasswordCheck
      · simp [hv, hne]
      · simp [hv]

/-- Where the cache agrees with the table, the accepted password is the canary's. Reference:
`config/config.go:408 CheckUnlockPassword`. -/
theorem HubConfig.CanaryCached.accepts_iff (h : s.CanaryCached A) :
    s.Accepts A password ↔ s.table.Accepts A password := by
  constructor
  · rintro ⟨s', hr⟩
    obtain ⟨env, a, hx, hb⟩ := runs_CheckUnlockPassword.1 hr
    obtain rfl := of_decide_eq_true hb.symm
    exact h.answer hx
  · intro ht
    have hget : ∃ s', configExec A s (.get "UnlockPasswordCheck" password) {} =
        some (.ok unlockPasswordCheck, s') := by
      simp only [configExec]
      cases hc : s.cache "UnlockPasswordCheck" (getEncryptionKeyHash A password) with
      | some value =>
        obtain rfl : value = unlockPasswordCheck :=
          Except.ok.inj ((h password value hc).symm.trans ht)
        exact ⟨s, rfl⟩
      | none =>
        rw [show s.table.get A 0 "UnlockPasswordCheck" password = _ from ht]
        exact ⟨_, rfl⟩
    obtain ⟨s', hx⟩ := hget
    exact ⟨s', runs_CheckUnlockPassword.2 ⟨{}, _, hx, by simp⟩⟩

/-! ## What calls keep -/

theorem keeps_get (hA : A.Ideal) : Prog.Keeps (configExec A) (HubConfig.Sound A)
    (cfgAsk (.get key encryptionKey)) := by
  refine Prog.Keeps.call fun s env a s' hs hx => ?_
  obtain ⟨hcanary, htable⟩ := hs.canary.get hA hx
  exact ⟨hcanary, htable ▸ hs.sealed⟩

/-- A command that touches neither the table nor the cache. Reference: none. -/
theorem exec_plain {c : ConfigCmd} (hc : c.Plain) {a : c.Ans}
    (hx : configExec A s c env = some (a, s')) : s'.table = s.table ∧ s'.cache = s.cache := by
  cases c with
  | getJwtSecret => cases hx; exact ⟨rfl, rfl⟩
  | setJwtSecret jwtSecret => cases hx; exact ⟨rfl, rfl⟩
  | tryLockStart => cases hx; exact ⟨rfl, rfl⟩
  | unlockStart => cases hx; exact ⟨rfl, rfl⟩
  | outside what => cases hx; exact ⟨rfl, rfl⟩
  | _ => exact hc.elim

theorem keeps_plain {c : ConfigCmd} (hc : c.Plain) :
    Prog.Keeps (configExec A) (HubConfig.Sound A) (cfgAsk c) := by
  refine Prog.Keeps.call fun s env a s' hs hx => ?_
  obtain ⟨htable, hcache⟩ := exec_plain hc hx
  refine ⟨fun password value hcached => ?_, htable ▸ hs.sealed⟩
  rw [htable]
  exact hs.canary password value (hcache ▸ hcached)

/-- A new process has an empty cache. Reference: `config/config.go:34 NewConfig`. -/
theorem keeps_reboot :
    Prog.Keeps (configExec A) (HubConfig.Sound A) (cfgAsk .reboot) := by
  refine Prog.Keeps.call fun s env a s' hs hx => ?_
  cases hx
  exact HubConfig.sound_start hs.sealed

/-- A write drops the cache of its key. Reference: `config/config.go:287 set`. -/
theorem keeps_cfgSet {onConflict : OnConflict} (hc : onConflict ≠ .doUpdateValue) (hk : key ≠ "") :
    Prog.Keeps (configExec A) (HubConfig.Sound A) (cfgSet onConflict key value encryptionKey) := by
  rintro s a s'' hs hr
  obtain ⟨a, s', hcreate, hr⟩ := Prog.runs_bind.1 hr
  obtain ⟨env, hx⟩ := Prog.runs_call.1 hcreate
  simp only [configExec] at hx
  split at hx
  · obtain ⟨rfl, rfl⟩ := Prod.ext_iff.1 (Option.some.inj hx)
    obtain ⟨-, rfl⟩ := hr
    exact hs
  · obtain ⟨rfl, rfl⟩ := Prod.ext_iff.1 (Option.some.inj hx)
    obtain ⟨-, rfl⟩ := hr
    exact hs
  · next r _ hof =>
    obtain ⟨rfl, rfl⟩ := Prod.ext_iff.1 (Option.some.inj hx)
    obtain ⟨_, _, s₂, hdrop, -, rfl⟩ := hr
    cases hdrop
    refine ⟨fun password value hcached => ?_, hs.sealed.create hc hk hof⟩
    simp only [HubConfig.dropCache] at hcached
    split at hcached
    · cases hcached
    · next hne =>
      have hkey := (userConfigOf_ok hof).1
      have hold := hs.canary password value hcached
      rw [ConfigTable.get_eq A (by decide)] at hold ⊢
      simp only [HubConfig.dropCache]
      rw [ConfigTable.row_create_ne (by simpa [hkey] using hne)]
      exact hold

/-- A call that is made of reads, whole writes and plain commands keeps the invariant. Reference:
none. -/
theorem Made.keeps {W : OnConflict → String → String → String → Prop} (hA : A.Ideal)
    (hW : ∀ onConflict key value encryptionKey, W onConflict key value encryptionKey →
      onConflict ≠ .doUpdateValue ∧ key ≠ "") {α : Type} {p : Cfg α} (hp : Made W p) :
    Prog.Keeps (configExec A) (HubConfig.Sound A) p := by
  induction hp with
  | ret a => exact .ret
  | get key encryptionKey => exact keeps_get hA
  | plain hc => exact keeps_plain hc
  | reboot => exact keeps_reboot
  | set hw => exact keeps_cfgSet (hW _ _ _ _ hw).1 (hW _ _ _ _ hw).2
  | bind _ _ ihp ihf => exact ihp.bind ihf

end

end AlbyHub
