import AlbyHub.Config.Coherence

/-!
# Changing the unlock password

The loop over the encrypted rows is one function of the table (`reencrypt_spec`), so the transaction
is known row by row (`changePasswordTx_ok`). A change is all or nothing and complete on every hub
whose canary is encrypted. A hub without a password stores the canary as it is: there the change
succeeds, but every password is still accepted (`changeUnlockPassword_iff`).
-/

namespace AlbyHub

open Go Interaction

section
variable {A : Aead} {env : ConfigEnv} {old new key : String} {i : Nat} {us : List UserConfig}
variable {t t' : ConfigTable} {s s' : HubConfig} {u : UserConfig}

/-- The rows that the loop has still to do, as it finds them. Reference: `config/config.go:353
ChangeUnlockPassword`. -/
structure Pending (t : ConfigTable) (us : List UserConfig) : Prop where
  nodup : (us.map (·.key)).Nodup
  row : ∀ u ∈ us, t.row u.key = some u ∧ u.key ≠ "" ∧ u.encrypted = true

/-- The rest of the rows is untouched by a turn of the loop. Reference: `config/config.go:353
ChangeUnlockPassword`. -/
theorem Pending.tail {r : UserConfig} (h : Pending t (u :: us)) (hk : r.key = u.key) :
    Pending (t.create .doUpdateValue r) us where
  nodup := (List.nodup_cons.1 h.nodup).2
  row := by
    intro v hv
    have hne : v.key ≠ r.key := by
      intro he
      exact (List.nodup_cons.1 h.nodup).1 (List.mem_map.2 ⟨v, hv, he.trans hk⟩)
    rw [ConfigTable.row_create_ne hne]
    exact h.row v (List.mem_cons_of_mem u hv)

theorem pending_encryptedRows (h : t.Sealed A) : Pending t t.encryptedRows where
  nodup := t.keys_nodup.sublist (List.filter_sublist.map _)
  row := by
    intro u hu
    obtain ⟨hmem, he⟩ := ConfigTable.mem_encryptedRows.1 hu
    exact ⟨ConfigTable.row_of_mem hmem, (h u hmem).1, he⟩

/-- One turn of the loop. Reference: `config/config.go:354 ChangeUnlockPassword`. -/
theorem reencrypt_cons (hp : Pending t (u :: us)) :
    reencrypt A env old new i (u :: us) t = match u.read A old with
      | .error e => .error e
      | .ok plaintext =>
        match userConfigOf A env i u.key plaintext new with
        | .error e => .error e
        | .ok r => reencrypt A env old new (i + 1) us (t.create .doUpdateValue r) := by
  obtain ⟨hrow, hk, -⟩ := hp.row u List.mem_cons_self
  have hread : t.get A env.pick u.key old = u.read A old :=
    (ConfigTable.get_eq A hk).trans (by simp only [hrow])
  rw [reencrypt]
  generalize t.get A env.pick u.key old = plaintext at hread ⊢
  subst hread
  rfl

/-- The loop stores each row under the new password and no other row. Reference:
`config/config.go:353 ChangeUnlockPassword`. -/
theorem reencrypt_spec (hnew : new ≠ "") (hp : Pending t us)
    (h : reencrypt A env old new i us t = .ok t') :
    (∀ key, key ∉ us.map (·.key) → t'.row key = t.row key) ∧
    ∀ u ∈ us, ∃ plaintext r, u.read A old = .ok plaintext ∧ r.Under A new plaintext ∧
      r.key = u.key ∧ t'.row u.key = some r := by
  induction us generalizing t i with
  | nil =>
    obtain rfl := Except.ok.inj h
    exact ⟨fun _ _ => rfl, nofun⟩
  | cons u us ih =>
    rw [reencrypt_cons hp] at h
    split at h
    · cases h
    · next plaintext hread =>
      split at h
      · cases h
      · next r hof =>
        obtain ⟨hk, hr⟩ := userConfigOf_ok hof
        have hunder : r.Under A new plaintext := hr.resolve_left fun hr => hnew hr.1
        obtain ⟨hrest, hdone⟩ := ih (hp.tail hk) h
        have hu : u.key ∉ us.map (·.key) := (List.nodup_cons.1 hp.nodup).1
        refine ⟨fun key hkey => ?_, fun v hv => ?_⟩
        · rw [List.map_cons, List.mem_cons, not_or] at hkey
          rw [hrest key hkey.2, ConfigTable.row_create_ne (hk ▸ hkey.1)]
        · rcases List.mem_cons.1 hv with rfl | hv
          · refine ⟨plaintext, r, hread, hunder, hk, ?_⟩
            have hold := (hp.row v List.mem_cons_self).1
            have hcreated : ConfigTable.created .doUpdateValue r (t.row r.key) = r := by
              rw [hk, hold, ConfigTable.created, (hp.row v List.mem_cons_self).2.2, ← hunder.1]
            rw [hrest v.key hu, ← hk, ConfigTable.row_create, hcreated]
          · exact hdone v hv

/-- The loop fails only on a row that the old password does not read. Reference:
`config/config.go:354 ChangeUnlockPassword`. -/
theorem exists_reencrypt (hA : A.Ideal) (hp : Pending t us)
    (h : ∀ u ∈ us, ∃ plaintext, u.read A old = .ok plaintext) :
    ∃ t', reencrypt A env old new i us t = .ok t' := by
  induction us generalizing t i with
  | nil => exact ⟨t, rfl⟩
  | cons u us ih =>
    obtain ⟨plaintext, hread⟩ := h u List.mem_cons_self
    obtain ⟨r, hof⟩ : ∃ r, userConfigOf A env i u.key plaintext new = .ok r :=
      exists_userConfigOf hA
    obtain ⟨t', ht'⟩ := ih (i := i + 1) (hp.tail (userConfigOf_ok hof).1) fun v hv =>
      h v (List.mem_cons_of_mem u hv)
    refine ⟨t', ?_⟩
    rw [reencrypt_cons hp, hread]
    simp only [hof]
    exact ht'

/-- Every encrypted row is read by the password. Reference: none. -/
def ConfigTable.Readable (A : Aead) (t : ConfigTable) (password : String) : Prop :=
  ∀ u ∈ t.encryptedRows, ∃ plaintext, u.read A password = .ok plaintext

theorem exists_changePasswordTx (env : ConfigEnv) (new : String) (hA : A.Ideal) (ht : t.Sealed A)
    (h : t.Readable A old) :
    ∃ t', changePasswordTx A env t old new = .ok t' := by
  obtain ⟨t', ht'⟩ : ∃ t', reencrypt A env old new 0 t.encryptedRows t = .ok t' :=
    exists_reencrypt hA (pending_encryptedRows ht) h
  exact ⟨t'.delete "JWTSecret", by rw [changePasswordTx, ht']⟩

/-- What a committed change has made of the table. Reference: `config/config.go:343
ChangeUnlockPassword`. -/
theorem changePasswordTx_ok (hnew : new ≠ "") (ht : t.Sealed A)
    (h : changePasswordTx A env t old new = .ok t') : t'.row "JWTSecret" = none ∧
    (∀ key, key ≠ "JWTSecret" → key ∉ t.encryptedRows.map (·.key) → t'.row key = t.row key) ∧
    ∀ u ∈ t.encryptedRows, ∃ plaintext r, u.read A old = .ok plaintext ∧ r.Under A new plaintext ∧
      r.key = u.key ∧ (u.key ≠ "JWTSecret" → t'.row u.key = some r) := by
  unfold changePasswordTx at h
  split at h
  · cases h
  · next t₁ hre =>
    obtain rfl := Except.ok.inj h
    obtain ⟨hother, hdone⟩ := reencrypt_spec hnew (pending_encryptedRows ht) hre
    refine ⟨ConfigTable.row_delete, fun key hne hkey => ?_, fun u hu => ?_⟩
    · rw [ConfigTable.row_delete_ne hne, hother key hkey]
    · obtain ⟨plaintext, r, hread, hunder, hk, hrow⟩ := hdone u hu
      exact ⟨plaintext, r, hread, hunder, hk, fun hne => (ConfigTable.row_delete_ne hne).trans hrow⟩

/-- A row that is not encrypted is not one of the loop. Reference: none. -/
theorem ConfigTable.not_mem_keys_encryptedRows (t : ConfigTable) (key : String) (h : ∀ u,
    t.row key = some u → u.encrypted = false) :
    key ∉ t.encryptedRows.map (·.key) := by
  intro hmem
  obtain ⟨u, hu, rfl⟩ := List.mem_map.1 hmem
  obtain ⟨hmem, he⟩ := mem_encryptedRows.1 hu
  rw [h u (row_of_mem hmem)] at he
  cases he

theorem ConfigTable.Sealed.changePassword (hnew : new ≠ "") (ht : t.Sealed A)
    (h : changePasswordTx A env t old new = .ok t') : t'.Sealed A := by
  obtain ⟨hjwt, hother, hdone⟩ := changePasswordTx_ok hnew ht h
  intro r hr
  have hrow := row_of_mem hr
  have hne : r.key ≠ "JWTSecret" := by
    intro he
    rw [he, hjwt] at hrow
    cases hrow
  by_cases hmem : r.key ∈ t.encryptedRows.map (·.key)
  · obtain ⟨u, hu, hk⟩ := List.mem_map.1 hmem
    obtain ⟨plaintext, r', -, hunder, -, hrow'⟩ := hdone u hu
    rw [← hk, hrow' (hk ▸ hne)] at hrow
    obtain rfl := Option.some.inj hrow
    refine ⟨?_, fun _ => ⟨new, plaintext, hunder⟩⟩
    rw [← hk]
    exact (ht u (mem_encryptedRows.1 hu).1).1
  · rw [hother r.key hne hmem] at hrow
    exact ht r (mem_of_row hrow).1

/-! ## The call -/

theorem HubConfig.dropCache_dropCache (s : HubConfig) (p q : String → Bool) :
    (s.dropCache p).dropCache q = s.dropCache fun key => p key || q key := by
  simp only [dropCache, mk.injEq, and_true, true_and]
  funext key hash
  by_cases hq : q key = true
  · simp [hq]
  · simp [hq]

/-- A dropped entry is not there. Reference: `config/config.go:305 set`. -/
theorem deleteCache_none {a : Unit} (hx : configExec A s (.deleteCache key) env = some (a, s'))
    (hash : String) : s'.cache key hash = none := by
  cases hx
  simp [HubConfig.dropCache]

/-- The loop drops the entries of its rows. Reference: `config/config.go:305 set`. -/
theorem runs_dropEntries {keys : List String} {a : Unit} :
    (dropEntries keys).Runs (configExec A) s a s' ↔ s' = s.dropCache (· ∈ keys) := by
  induction keys generalizing s with
  | nil =>
    have hsame : s.dropCache (· ∈ []) = s := by simp [HubConfig.dropCache]
    rw [hsame]
    exact ⟨fun h => h.2, fun h => ⟨rfl, h⟩⟩
  | cons key keys ih =>
    have hdrop : (s.dropCache (· = key)).dropCache (· ∈ keys) = s.dropCache (· ∈ key :: keys) := by
      rw [HubConfig.dropCache_dropCache]
      congr 1
      funext key'
      simp
    rw [dropEntries, Prog.runs_call_bind, ← hdrop]
    constructor
    · rintro ⟨env, r, s₁, hx, hrest⟩
      cases hx
      exact ih.1 hrest
    · rintro rfl
      exact ⟨{}, (), _, rfl, ih.2 rfl⟩

/-- What the end of the transaction does: nothing, or the commit of the rows that the loop has
stored. Reference: `config/config.go:343 ChangeUnlockPassword`. -/
theorem exec_changePasswordTx {keys : List String} {a : Except ConfigErr Unit}
    (h : configExec A s (.changePasswordTx keys old new) env = some (a, s')) :
    ((∃ e, a = .error e) ∧ s' = s) ∨
    (a = .ok () ∧ s.table.encryptedRows.map (·.key) = keys ∧ ∃ t,
      changePasswordTx A env s.table old new = .ok t ∧ s' = { s with table := t }) := by
  simp only [configExec] at h
  split at h
  · obtain ⟨rfl, rfl⟩ := Prod.ext_iff.1 (Option.some.inj h)
    exact .inl ⟨⟨_, rfl⟩, rfl⟩
  · obtain ⟨rfl, rfl⟩ := Prod.ext_iff.1 (Option.some.inj h)
    exact .inl ⟨⟨_, rfl⟩, rfl⟩
  · next t _ htx =>
    split at h
    · next hkeys =>
      obtain ⟨rfl, rfl⟩ := Prod.ext_iff.1 (Option.some.inj h)
      exact .inr ⟨rfl, hkeys, t, htx, rfl⟩
    · obtain ⟨rfl, rfl⟩ := Prod.ext_iff.1 (Option.some.inj h)
      exact .inl ⟨⟨_, rfl⟩, rfl⟩

/-- A commit where the entry of an encrypted canary has been dropped leaves what is still so of the
canary. Reference: `config/config.go:305 set`. -/
theorem canaryCached_changed (jwtSecret : String) (hnew : new ≠ "") (hs : s.Sound A)
    (hempty : "UnlockPasswordCheck" ∈ s.table.encryptedRows.map (·.key) → ∀ hash,
      s.cache "UnlockPasswordCheck" hash = none)
    (h : changePasswordTx A env s.table old new = .ok t) :
    HubConfig.CanaryCached A { s with table := t, jwtSecret := jwtSecret } := by
  intro password value hc
  have hmem : "UnlockPasswordCheck" ∉ s.table.encryptedRows.map (·.key) := by
    intro hmem
    have hnone : some value = none := hc.symm.trans (hempty hmem _)
    cases hnone
  have hold := hs.canary password value hc
  rw [ConfigTable.get_eq A (by decide)] at hold ⊢
  simp only
  rw [(changePasswordTx_ok hnew hs.sealed h).2.1 _ (by decide) hmem]
  exact hold

theorem canaryCached_dropCache {p : String → Bool} (h : s.CanaryCached A) :
    (s.dropCache p).CanaryCached A := by
  intro password value hc
  simp only [HubConfig.dropCache] at hc
  split at hc
  · cases hc
  · exact h password value hc

/-- How a change can go: it is refused, the transaction fails, or it commits. Reference:
`config/config.go:336 ChangeUnlockPassword`. -/
theorem runs_ChangeUnlockPassword (hA : A.Ideal) {a : Except ConfigErr Unit} (hs : s.Sound A)
    (h : (ChangeUnlockPassword old new).Runs (configExec A) s a s') :
    ((∃ e, a = .error e) ∧ s'.table = s.table ∧ s'.Sound A) ∨
    (a = .ok () ∧ new ≠ "" ∧ s.table.Accepts A old ∧ s'.jwtSecret = "" ∧ s'.Sound A ∧
      ∃ env, changePasswordTx A env s.table old new = .ok s'.table) := by
  unfold ChangeUnlockPassword at h
  split at h
  · obtain ⟨rfl, rfl⟩ := h
    exact .inl ⟨⟨_, rfl⟩, rfl, hs⟩
  · next hnew =>
    obtain ⟨b, s₁, hcheck, h⟩ := Prog.runs_bind.1 h
    obtain ⟨env₁, a₁, hx, hb⟩ := runs_CheckUnlockPassword.1 hcheck
    obtain ⟨hcanary, htable⟩ := hs.canary.get hA hx
    have hs₁ : s₁.Sound A := ⟨hcanary, htable ▸ hs.sealed⟩
    cases b with
    | false =>
      obtain ⟨rfl, rfl⟩ := h
      exact .inl ⟨⟨_, rfl⟩, htable, hs₁⟩
    | true =>
      obtain rfl := of_decide_eq_true hb.symm
      have haccepts : s.table.Accepts A old := hs.canary.answer hx
      obtain ⟨_, keys, s₂, hkeys, h⟩ := Prog.runs_call_bind.1 h
      obtain rfl := congrArg Prod.snd (Option.some.inj hkeys)
      obtain ⟨_, s₃, hdrop, h⟩ := Prog.runs_bind.1 h
      obtain rfl := runs_dropEntries.1 hdrop
      obtain ⟨a₂, s₄, htx, h⟩ := Prog.runs_bind.1 h
      obtain ⟨env₂, htx⟩ := Prog.runs_call.1 htx
      have hs₂ : (s₁.dropCache (· ∈ keys)).Sound A :=
        ⟨canaryCached_dropCache hs₁.canary, hs₁.sealed⟩
      rcases exec_changePasswordTx htx with ⟨⟨e, rfl⟩, rfl⟩ | ⟨rfl, hall, t, hok, rfl⟩
      · obtain ⟨rfl, rfl⟩ := h
        exact .inl ⟨⟨_, rfl⟩, htable, hs₂⟩
      · obtain ⟨_, _, s₄, hjwt, rfl, rfl⟩ := h
        cases hjwt
        have hcached := canaryCached_changed "" hnew hs₂
          (fun hmem hash => if_pos (decide_eq_true (hall ▸ hmem))) hok
        refine .inr ⟨rfl, hnew, haccepts, rfl, ⟨hcached, hs₂.sealed.changePassword hnew hok⟩, env₂,
          ?_⟩
        rw [← htable]
        exact hok

theorem keeps_ChangeUnlockPassword (hA : A.Ideal) :
    Prog.Keeps (configExec A) (HubConfig.Sound A) (ChangeUnlockPassword old new) := by
  intro s a s' hs h
  rcases runs_ChangeUnlockPassword hA hs h with ⟨-, -, hs'⟩ | ⟨-, -, -, -, hs', -⟩
  · exact hs'
  · exact hs'

/-- Every call on the configuration keeps the invariant. Reference: the callers of
`config/config.go`. -/
theorem keeps_body (hA : A.Ideal) {op : ConfigOp} (hop : op.Named) :
    Prog.Keeps (configExec A) (HubConfig.Sound A) op.body := by
  cases hc : op.isChange with
  | true =>
    cases op with
    | changeUnlockPassword old new => exact keeps_ChangeUnlockPassword hA
    | _ => cases hc
  | false =>
    let W := fun (onConflict : OnConflict) (key _value _encryptionKey : String) =>
      onConflict ≠ .doUpdateValue ∧ key ≠ ""
    refine Made.keeps (W := W) hA (fun _ _ _ _ h =>
      h) (ConfigOp.made hc (fun _ _ _ _ h => ⟨h.1, h.2.1⟩)
      (fun key value encryptionKey h => ⟨nofun, ?_⟩) fun key value encryptionKey h => ⟨nofun, ?_⟩)
    · rcases h with rfl | rfl
      · exact hop
      · exact hop
    · rw [h] at hop
      exact hop

end

/-- The configurations that calls reach, one after the other, on a hub that starts with an empty
table and may be restarted. Reference: none. -/
inductive ConfigReach (A : Aead) : HubConfig → Prop
  | start : ConfigReach A (HubConfig.start .empty)
  | restart {s : HubConfig} : ConfigReach A s → ConfigReach A (HubConfig.start s.table)
  | call {s s' : HubConfig} {op : ConfigOp} {a : Except ConfigErr Unit} : ConfigReach A s →
    op.Named →
      op.body.Runs (configExec A) s a s' → ConfigReach A s'

theorem ConfigReach.sound {A : Aead} {s : HubConfig} (hA : A.Ideal) (h : ConfigReach A s) :
    s.Sound A := by
  induction h with
  | start => exact HubConfig.sound_start nofun
  | restart _ ih => exact HubConfig.sound_start ih.sealed
  | call _ hop hr ih => exact keeps_body hA hop _ _ _ ih hr

/-- What a successful change of the password is to achieve. Reference: `config/config.go:336
ChangeUnlockPassword`. -/
structure PasswordChanged (A : Aead) (old new : String) (s s' : HubConfig) : Prop where
  accepts : ∀ password, s'.Accepts A password ↔ password = new
  reencrypted : ∀ u ∈ s.table.rows, u.encrypted = true → u.key ≠ "JWTSecret" → ∀ plaintext,
    AesGcmDecryptWithPassword A u.value old = .ok plaintext →
    ∃ u' ∈ s'.table.rows, u'.key = u.key ∧ u'.encrypted = true ∧
      AesGcmDecryptWithPassword A u'.value new = .ok plaintext
  unencrypted : ∀ u ∈ s.table.rows, u.encrypted = false → u.key ≠ "JWTSecret" → u ∈ s'.table.rows
  keys : ∀ u' ∈ s'.table.rows, ∃ u ∈ s.table.rows, u.key = u'.key
  jwtSecret : s'.GetJWTSecret = .error (.message "config not unlocked") ∧
    s'.table.row "JWTSecret" = none

/-- A change is all or nothing and complete, however the database and the randomness behave.
Reference: `config/config.go:336 ChangeUnlockPassword`. -/
def HubConfig.ChangesPassword (A : Aead) (old new : String) (s : HubConfig) : Prop :=
  ∀ result s', (ChangeUnlockPassword old new).Runs (configExec A) s result s' →
    match result with
    | .ok _ => PasswordChanged A old new s s'
    | .error _ => s'.table = s.table ∧ ∀ password, s'.Accepts A password ↔ s.Accepts A password

/-- The canary is stored as it is: the hub was set up without a password. Reference:
`config/tests/config_test.go TestCheckUnlockPassword_NoPasswordHub`. -/
def ConfigTable.PlainCanary (t : ConfigTable) : Prop :=
  t.row "UnlockPasswordCheck" = some ⟨"UnlockPasswordCheck", unlockPasswordCheck, false⟩

section
variable {A : Aead} {env : ConfigEnv} {old new password plaintext : String} {t t' : ConfigTable}
variable {s s' : HubConfig} {u : UserConfig}

/-- A plain canary accepts every password. Reference: `config/config.go:408 CheckUnlockPassword`. -/
theorem ConfigTable.PlainCanary.accepts (h : t.PlainCanary) : t.Accepts A password := by
  rw [ConfigTable.Accepts, ConfigTable.get_eq A (by decide), h]
  exact UserConfig.read_of_not_encrypted rfl

/-- An accepted password is the one that the canary was encrypted with, unless it was not encrypted.
Reference: `config/config.go:408 CheckUnlockPassword`. -/
theorem ConfigTable.Accepts.canary (h : t.Accepts A password) (hA : A.Ideal) (ht : t.Sealed A) :
    t.PlainCanary ∨ ∃ u, t.row "UnlockPasswordCheck" = some u ∧
      u.Under A password unlockPasswordCheck := by
  rw [ConfigTable.Accepts, ConfigTable.get_eq A (by decide)] at h
  cases hrow : t.row "UnlockPasswordCheck" with
  | none =>
    rw [hrow] at h
    exact absurd (Except.ok.inj h) (by decide)
  | some u =>
    rw [hrow] at h
    obtain ⟨hmem, hk⟩ := mem_of_row hrow
    cases he : u.encrypted with
    | false =>
      simp only [UserConfig.read_of_not_encrypted he] at h
      left
      obtain ⟨key, value, encrypted⟩ := u
      obtain rfl : key = "UnlockPasswordCheck" := hk
      obtain rfl : encrypted = false := he
      obtain rfl : value = unlockPasswordCheck := Except.ok.inj h
      exact hrow
    | true =>
      right
      obtain ⟨password', plaintext, hunder⟩ := (ht u hmem).2 he
      rcases hunder.of_read hA h with ⟨-, hv⟩ | ⟨rfl, rfl⟩
      · exact absurd hv.symm (hunder.2.ne_unlockPasswordCheck hA)
      · exact ⟨u, rfl, hunder⟩

/-- The canary of an encrypted row accepts its own password only. Reference:
`config/config.go:408 CheckUnlockPassword`. -/
theorem accepts_iff_of_under (hA : A.Ideal) (hrow : t.row "UnlockPasswordCheck" = some u)
    (hu : u.Under A new unlockPasswordCheck) : t.Accepts A password ↔ password = new := by
  rw [ConfigTable.Accepts, ConfigTable.get_eq A (by decide), hrow]
  constructor
  · intro h
    rcases hu.of_read hA h with ⟨-, hv⟩ | ⟨rfl, -⟩
    · exact absurd hv.symm (hu.2.ne_unlockPasswordCheck hA)
    · rfl
  · rintro rfl
    exact hu.read hA

/-- The password that the canary had is replaced by the new one in every row. Reference:
`config/config.go:336 ChangeUnlockPassword`. -/
theorem passwordChanged (hA : A.Ideal) (hs : s.Sound A) (hs' : s'.Sound A) (hnew : new ≠ "")
    (hrow : s.table.row "UnlockPasswordCheck" = some u) (hu : u.Under A old unlockPasswordCheck)
    (hjwt : s'.jwtSecret = "") (h : changePasswordTx A env s.table old new = .ok s'.table) :
    PasswordChanged A old new s s' := by
  obtain ⟨hdeleted, hother, hdone⟩ := changePasswordTx_ok hnew hs.sealed h
  refine ⟨fun password => ?_, fun v hv he hne plaintext hd => ?_, fun v hv he hne => ?_,
    fun v hv => ?_, ?_, hdeleted⟩
  · obtain ⟨hmem, hk⟩ := ConfigTable.mem_of_row hrow
    obtain ⟨plaintext, r, hread, hunder, hrk, hrow'⟩ :=
      hdone u (ConfigTable.mem_encryptedRows.2 ⟨hmem, hu.1⟩)
    obtain rfl : plaintext = unlockPasswordCheck := Except.ok.inj (hread.symm.trans (hu.read hA))
    rw [hk] at hrow'
    rw [hs'.canary.accepts_iff, accepts_iff_of_under hA (hrow' (by decide)) hunder]
  · obtain ⟨plaintext', r, hread, hunder, hrk, hrow'⟩ :=
      hdone v (ConfigTable.mem_encryptedRows.2 ⟨hv, he⟩)
    obtain ⟨hmem, -⟩ := ConfigTable.mem_of_row (hrow' hne)
    obtain ⟨password, text, hv'⟩ := (hs.sealed v hv).2 he
    obtain rfl := hv'.2.password_eq hA hd
    rw [hv'.2.decrypt hA] at hd
    obtain rfl := Except.ok.inj hd
    obtain rfl : plaintext' = text := Except.ok.inj (hread.symm.trans (hv'.read hA))
    exact ⟨r, hmem, hrk, hunder.1, hunder.2.decrypt hA⟩
  · have hv' := ConfigTable.row_of_mem hv
    have hkey := ConfigTable.not_mem_keys_encryptedRows s.table v.key fun w hw => by
      rw [hv'] at hw
      exact Option.some.inj hw ▸ he
    rw [← hother v.key hne hkey] at hv'
    exact (ConfigTable.mem_of_row hv').1
  · have hv' := ConfigTable.row_of_mem hv
    have hne : v.key ≠ "JWTSecret" := by
      intro he
      rw [he, hdeleted] at hv'
      cases hv'
    by_cases hmem : v.key ∈ s.table.encryptedRows.map (·.key)
    · obtain ⟨w, hw, hk⟩ := List.mem_map.1 hmem
      exact ⟨w, (ConfigTable.mem_encryptedRows.1 hw).1, hk⟩
    · rw [hother v.key hne hmem] at hv'
      exact ⟨v, (ConfigTable.mem_of_row hv').1, rfl⟩
  · rw [HubConfig.GetJWTSecret, if_pos hjwt]

/-- A change that nothing refuses commits where the database does not fail. Reference:
`config/config.go:336 ChangeUnlockPassword`. -/
theorem exists_runs_ChangeUnlockPassword (hA : A.Ideal) (hs : s.Sound A) (hnew : new ≠ "")
    (haccepts : s.table.Accepts A old) (hread : s.table.Readable A old) :
    ∃ s', (ChangeUnlockPassword old new).Runs (configExec A) s (.ok ()) s' := by
  obtain ⟨s₁, hcheck⟩ := hs.canary.accepts_iff.2 haccepts
  obtain ⟨env₁, a₁, hx, -⟩ := runs_CheckUnlockPassword.1 hcheck
  obtain ⟨hcanary, htable⟩ := hs.canary.get hA hx
  obtain ⟨t', htx⟩ := exists_changePasswordTx {} new hA hs.sealed hread
  let keys := s₁.table.encryptedRows.map (·.key)
  let s₂ := s₁.dropCache (· ∈ keys)
  have hkeys : configExec A s₁ .encryptedKeys {} = some (keys, s₁) := by
    simp only [configExec, Option.getD_none, List.take_length]
    rfl
  have hrun : configExec A s₂ (.changePasswordTx keys old new) {} = some (.ok (),
      { s₂ with table := t' }) := by
    have htx' : changePasswordTx A {} s₂.table old new = .ok t' := by
      rw [show s₂.table = s.table from htable]
      exact htx
    simp only [configExec, htx']
    exact if_pos rfl
  refine ⟨{ s₂ with table := t', jwtSecret := "" }, ?_⟩
  rw [ChangeUnlockPassword, if_neg hnew]
  refine Prog.runs_bind.2 ⟨true, s₁, hcheck, ?_⟩
  refine Prog.runs_call_bind.2 ⟨{}, keys, s₁, hkeys, ?_⟩
  refine Prog.runs_bind.2 ⟨(), s₂, runs_dropEntries.2 rfl, ?_⟩
  refine Prog.runs_bind.2 ⟨.ok (), _, Prog.runs_call.2 ⟨{}, hrun⟩, ?_⟩
  exact ⟨{}, (), _, rfl, rfl, rfl⟩

end

/-- On a hub with a plain canary the change goes through, and every password is accepted as before.
Reference: `config/config.go:336 ChangeUnlockPassword`. -/
theorem not_changesPassword {A : Aead} {s : HubConfig} {old new : String} (hA : A.Ideal)
    (hs : s.Sound A)
    (hplain : s.table.PlainCanary) (hnew : new ≠ "") (hread : s.table.Readable A old) :
    ¬ s.ChangesPassword A old new := by
  intro hchanges
  obtain ⟨s', hr⟩ := exists_runs_ChangeUnlockPassword hA hs hnew hplain.accepts hread
  have hchanged : PasswordChanged A old new s s' := hchanges _ _ hr
  rcases runs_ChangeUnlockPassword hA hs hr with ⟨⟨e, he⟩, -⟩ | ⟨-, -, -, -, hs', env, htx⟩
  · cases he
  · -- the plain canary is not one of the loop, so the empty password is still accepted
    have hkey := ConfigTable.not_mem_keys_encryptedRows s.table
      "UnlockPasswordCheck" fun u hu => by
        rw [show s.table.row "UnlockPasswordCheck" = _ from hplain] at hu
        exact Option.some.inj hu ▸ rfl
    have hstill : s'.table.PlainCanary :=
      ((changePasswordTx_ok hnew hs.sealed htx).2.1 _ (by decide) hkey).trans hplain
    have haccepts : s'.Accepts A "" := hs'.canary.accepts_iff.2 hstill.accepts
    exact hnew ((hchanged.accepts "").1 haccepts).symm

/-- On a reachable hub a change of the password is all or nothing and complete exactly if it does
not go through on a canary that is not encrypted. Reference: `config/config.go:336
ChangeUnlockPassword`. -/
theorem changeUnlockPassword_iff (A : Aead) (hA : A.Ideal) (s : HubConfig) (hs : ConfigReach A s)
    (old new : String) : s.ChangesPassword A old new ↔
      ¬ (s.table.PlainCanary ∧ new ≠ "" ∧ s.table.Readable A old) := by
  have hsound := hs.sound hA
  constructor
  · rintro hchanges ⟨hplain, hnew, hread⟩
    exact not_changesPassword hA hsound hplain hnew hread hchanges
  · intro hcond result s' hr
    rcases runs_ChangeUnlockPassword hA hsound hr with
      ⟨⟨e, rfl⟩, htable, hs'⟩ | ⟨rfl, hnew, haccepts, hjwt, hs', env, htx⟩
    · refine ⟨htable, fun password => ?_⟩
      rw [hs'.canary.accepts_iff, hsound.canary.accepts_iff, htable]
    · rcases haccepts.canary hA hsound.sealed with hplain | ⟨u, hrow, hu⟩
      · refine absurd ⟨hplain, hnew, fun u hu => ?_⟩ hcond
        obtain ⟨plaintext, r, hread, -⟩ := (changePasswordTx_ok hnew hsound.sealed htx).2.2 u hu
        exact ⟨plaintext, hread⟩
      · exact passwordChanged hA hsound hs' hnew hrow hu hjwt htx

/-- The hub after one write of the canary. Reference: `config/config.go:425
SaveUnlockPasswordCheck`. -/
def canaryHub (r : UserConfig) : HubConfig :=
  HubConfig.start (ConfigTable.empty.create .doUpdates r)

theorem canaryHub_row (r : UserConfig) : (canaryHub r).table.row r.key = some r :=
  ConfigTable.row_create

theorem canaryHub_reach {A : Aead} {r : UserConfig} (encryptionKey : String)
    (h : userConfigOf A {} 0 "UnlockPasswordCheck" unlockPasswordCheck encryptionKey = .ok r) :
    ConfigReach A (canaryHub r) := by
  have hx : configExec A (HubConfig.start .empty)
      (.create .doUpdates "UnlockPasswordCheck" unlockPasswordCheck encryptionKey) {} =
      some (.ok (),
        { HubConfig.start .empty with table := ConfigTable.empty.create .doUpdates r }) := by
    simp only [configExec, h]
    rfl
  let op := ConfigOp.setUpdate "UnlockPasswordCheck" unlockPasswordCheck encryptionKey
  have hr : ∃ s', op.body.Runs (configExec A) (HubConfig.start .empty) (.ok ()) s' ∧
      s'.table = (canaryHub r).table :=
    ⟨_, Prog.runs_bind.2 ⟨.ok (), _, Prog.runs_call.2 ⟨{}, hx⟩, {}, (), _, rfl, rfl, rfl⟩, rfl⟩
  obtain ⟨s', hr, htable⟩ := hr
  have hnamed : op.Named := show "UnlockPasswordCheck" ≠ "" by decide
  have hreach := ConfigReach.restart (ConfigReach.call .start hnamed hr)
  rw [htable] at hreach
  exact hreach

/-- The canary under a password. Reference: `config/aesgcm.go:27 AesGcmEncryptWithPassword`. -/
def canaryRow : UserConfig where
  key := "UnlockPasswordCheck"
  value := hexEncodeToString [] ++ "-" ++ (hexEncodeToString (List.replicate 12 0) ++ "-" ++
    hexEncodeToString (Aead.clear.aesSeal (Aead.clear.argon2Key "123" []) (List.replicate 12 0)
      unlockPasswordCheck))
  encrypted := true

theorem changeUnlockPassword_canaryRow : ConfigReach .clear (canaryHub canaryRow) ∧
    (canaryHub canaryRow).ChangesPassword .clear "123" "1234" := by
  have hreach : ConfigReach .clear (canaryHub canaryRow) := by
    refine canaryHub_reach "123" ?_
    rw [userConfigOf, if_pos (by decide), AesGcmEncryptWithPassword_ok Aead.clear_ideal]
    rfl
  refine ⟨hreach, (changeUnlockPassword_iff .clear Aead.clear_ideal _ hreach _ _).2 fun h => ?_⟩
  have hplain := (canaryHub_row canaryRow).symm.trans h.1
  exact absurd (congrArg UserConfig.encrypted (Option.some.inj hplain)) (by decide)

/-- A hub without a password that gets one keeps accepting every password. Reference:
`config/tests/config_test.go TestCheckUnlockPassword_NoPasswordHub`. -/
theorem plain_canary_survives :
    ConfigReach .clear (canaryHub ⟨"UnlockPasswordCheck", unlockPasswordCheck, false⟩) ∧
    ¬ (canaryHub ⟨"UnlockPasswordCheck", unlockPasswordCheck, false⟩).ChangesPassword .clear ""
      "secret" := by
  have hreach : ConfigReach .clear
      (canaryHub ⟨"UnlockPasswordCheck", unlockPasswordCheck, false⟩) := canaryHub_reach "" rfl
  refine ⟨hreach, not_changesPassword Aead.clear_ideal (hreach.sound Aead.clear_ideal)
    (canaryHub_row _) (by decide) fun u hu => ?_⟩
  exact ⟨u.value, by rw [UserConfig.read, if_neg (by simp)]⟩

end AlbyHub
