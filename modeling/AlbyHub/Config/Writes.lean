import AlbyHub.Config.Setup

/-!
# What the calls are made of

Apart from the change of the password, every call on the configuration is built from reads, from
whole writes (a statement and the removal of the cache entry), from commands that touch neither the
table nor the cache, and from the start of a process (`Made`). Which writes is a parameter:
`Guarded` says that the canary is only written by the setup, under a password.
-/

namespace AlbyHub

open Interaction

/-- A command that touches neither the table nor the cache. Reference: none. -/
def ConfigCmd.Plain : ConfigCmd → Prop
  | .getJwtSecret | .setJwtSecret _ | .tryLockStart | .unlockStart | .outside _ => True
  | _ => False

/-- A program of reads, of writes in `W`, of plain commands and of starts. Reference: none. -/
inductive Made (W : OnConflict → String → String → String → Prop) : {α : Type} → Cfg α → Prop
  | ret {α : Type} (a : α) : Made W (pure a : Cfg α)
  | get (key encryptionKey : String) : Made W (cfgAsk (.get key encryptionKey))
  | plain {c : ConfigCmd} : c.Plain → Made W (cfgAsk c)
  | reboot : Made W (cfgAsk .reboot)
  | set {onConflict : OnConflict} {key value encryptionKey : String} :
      W onConflict key value encryptionKey → Made W (cfgSet onConflict key value encryptionKey)
  | bind {α β : Type} {p : Cfg α} {f : α → Cfg β} :
      Made W p → (∀ a, Made W (f a)) → Made W (p >>= f)

/-- A write of a caller: under a name, and of the canary only by the setup. Reference: the callers
of `SetUpdate` and `SetIgnore`. -/
def Guarded (onConflict : OnConflict) (key value encryptionKey : String) : Prop :=
  onConflict ≠ .doUpdateValue ∧ key ≠ "" ∧
    (key = "UnlockPasswordCheck" → onConflict = .doUpdates ∧ value = unlockPasswordCheck ∧
      encryptionKey ≠ "")

section
variable {W W' : OnConflict → String → String → String → Prop} {α β : Type}
variable {key value encryptionKey unlockPassword : String}

theorem Made.mono {p : Cfg α} (hp : Made W p) (h : ∀ onConflict key value encryptionKey,
    W onConflict key value encryptionKey → W' onConflict key value encryptionKey) : Made W' p := by
  induction hp with
  | ret a => exact .ret a
  | get key encryptionKey => exact .get key encryptionKey
  | plain hc => exact .plain hc
  | reboot => exact .reboot
  | set hw => exact .set (h _ _ _ _ hw)
  | bind _ _ ihp ihf => exact .bind ihp ihf

theorem Made.orReturn {p : Cfg (Except ConfigErr α)} {f : α → Cfg (Except ConfigErr β)}
    (hp : Made W p) (hf : ∀ a, Made W (f a)) : Made W (orReturn p f) := by
  refine hp.bind fun a => ?_
  cases a with
  | error e => exact .ret _
  | ok a => exact hf a

theorem made_outside {what : String} : Made W (cfgAsk (.outside what)) := .plain trivial

theorem made_setJwtSecret {jwtSecret : String} : Made W (cfgAsk (.setJwtSecret jwtSecret)) :=
  .plain trivial

theorem made_getJwtSecret : Made W (cfgAsk .getJwtSecret) := .plain trivial

theorem made_tryLockStart : Made W (cfgAsk .tryLockStart) := .plain trivial

theorem made_unlockStart : Made W (cfgAsk .unlockStart) := .plain trivial

theorem made_SetUpdate (hk : key ≠ "") (hne : key ≠ "UnlockPasswordCheck") :
    Made Guarded (SetUpdate key value encryptionKey) :=
  .set ⟨nofun, hk, fun he => absurd he hne⟩

theorem made_SaveUnlockPasswordCheck (hpw : encryptionKey ≠ "") :
    Made Guarded (SaveUnlockPasswordCheck encryptionKey) :=
  .set ⟨nofun, by decide, fun _ => ⟨rfl, rfl, hpw⟩⟩

theorem made_CheckUnlockPassword : Made W (CheckUnlockPassword encryptionKey) := by
  refine (Made.get _ _).bind fun a => ?_
  cases a with
  | error e => exact .ret _
  | ok value => exact .ret _

theorem made_LoadJWTSecret : Made Guarded (LoadJWTSecret encryptionKey) := by
  refine made_CheckUnlockPassword.bind fun b => ?_
  cases b with
  | false => exact .ret _
  | true =>
    refine made_getJwtSecret.bind fun loaded => ?_
    split
    · exact .ret _
    · refine (Made.get _ _).orReturn fun encryptedJwtSecret => ?_
      refine (Made.get _ _).orReturn fun jwtSecret => ?_
      split
      · refine made_outside.orReturn fun hexSecret => ?_
        refine (made_SetUpdate (by decide) (by decide)).orReturn fun _ => ?_
        exact made_setJwtSecret.bind fun _ => .ret _
      · exact made_setJwtSecret.bind fun _ => .ret _

theorem made_saveNonEmpty (hk : key ≠ "") (hne : key ≠ "UnlockPasswordCheck") :
    Made Guarded (saveNonEmpty key value encryptionKey) := by
  unfold saveNonEmpty
  split
  · exact .ret _
  · exact made_SetUpdate hk hne

theorem made_saveFromFile {file read text : String} (hk : key ≠ "")
    (hne : key ≠ "UnlockPasswordCheck") :
    Made Guarded (saveFromFile key file read text encryptionKey) := by
  unfold saveFromFile
  split
  · exact .ret _
  · refine made_outside.bind fun a => ?_
    cases a with
    | error e => exact .ret _
    | ok value => exact made_SetUpdate hk hne

theorem made_saveLightningDir {dir : String} :
    Made Guarded (saveLightningDir dir encryptionKey) := by
  unfold saveLightningDir
  split
  · exact .ret _
  · refine made_outside.bind fun a => ?_
    cases a with
    | error e => exact .ret _
    | ok value => exact made_SetUpdate (by decide) (by decide)

theorem made_saveSetup {setupRequest : SetupRequest} : Made Guarded (saveSetup setupRequest) := by
  refine (made_saveNonEmpty (by decide) (by decide)).orReturn fun _ => ?_
  refine (made_saveNonEmpty (by decide) (by decide)).orReturn fun _ => ?_
  refine (made_saveNonEmpty (by decide) (by decide)).orReturn fun _ => ?_
  refine (made_saveFromFile (by decide) (by decide)).orReturn fun _ => ?_
  refine (made_saveFromFile (by decide) (by decide)).orReturn fun _ => ?_
  refine (made_saveNonEmpty (by decide) (by decide)).orReturn fun _ => ?_
  refine (made_saveNonEmpty (by decide) (by decide)).orReturn fun _ => ?_
  refine (made_saveNonEmpty (by decide) (by decide)).orReturn fun _ => ?_
  refine (made_saveNonEmpty (by decide) (by decide)).orReturn fun _ => ?_
  refine made_saveLightningDir.orReturn fun _ => ?_
  exact made_saveNonEmpty (by decide) (by decide)

theorem made_setupLocked {defaultClient : Bool} {setupRequest : SetupRequest} :
    Made Guarded (setupLocked defaultClient setupRequest) := by
  refine Made.orReturn (made_outside.bind fun a => ?_) fun completed => ?_
  · cases a with
    | ok _ => exact .ret _
    | error _ => exact (Made.get _ _).orReturn fun _ => .ret _
  · split
    · exact .ret _
    · split
      · exact .ret _
      · next hpw =>
        split
        · exact .ret _
        · refine (made_SaveUnlockPasswordCheck hpw).orReturn fun _ => ?_
          exact (made_SetUpdate (by decide) (by decide)).bind fun _ => made_saveSetup

theorem made_keysInit : Made Guarded (keysInit encryptionKey) := by
  refine (Made.get _ _).orReturn fun nostrSecretKey => ?_
  refine Made.orReturn ?_ fun _ => made_outside.orReturn fun _ => ?_
  · split
    · exact made_outside.orReturn fun _ => made_SetUpdate (by decide) (by decide)
    · exact .ret _
  · refine (Made.get _ _).orReturn fun mnemonic => Made.orReturn ?_ fun _ => ?_
    · split
      · exact made_outside.orReturn fun _ => made_SetUpdate (by decide) (by decide)
      · exact .ret _
    · exact made_outside.orReturn fun _ => .ret _

theorem made_readAll (keys : List String) : Made Guarded (readAll encryptionKey keys) := by
  induction keys with
  | nil => exact .ret _
  | cons key keys ih => exact (Made.get _ _).bind fun _ => ih

theorem made_fetchVssToken : Made Guarded fetchVssToken := by
  refine (Made.get _ _).bind fun a => ?_
  split
  · refine made_outside.bind fun b => ?_
    cases b with
    | error e =>
      refine (Made.get _ _).bind fun c => ?_
      cases c with
      | error _ => exact .ret _
      | ok _ => exact .ret _
    | ok vssToken => exact (made_SetUpdate (by decide) (by decide)).bind fun _ => .ret _
  · exact .ret _

theorem made_requestVssToken : Made Guarded requestVssToken := by
  refine (Made.get _ _).bind fun _ => made_outside.orReturn fun planCode => ?_
  split
  · exact made_fetchVssToken
  · exact (made_SetUpdate (by decide) (by decide)).bind fun _ => made_fetchVssToken

theorem made_launchLNBackend : Made Guarded (launchLNBackend encryptionKey) := by
  refine (Made.get _ _).bind fun a => ?_
  split
  · exact .ret _
  · exact .ret _
  · split
    · exact .ret _
    · refine (made_readAll _).bind fun _ => Made.orReturn ?_ fun _ => ?_
      · split
        · exact made_requestVssToken
        · exact .ret _
      · refine made_outside.orReturn fun _ => ?_
        exact (made_SetUpdate (by decide) (by decide)).bind fun _ => .ret _

theorem made_StartApp : Made Guarded (StartApp encryptionKey) := by
  refine made_outside.orReturn fun _ => made_outside.orReturn fun _ => ?_
  refine Made.orReturn ((Made.get _ _).orReturn fun _ => .ret _) fun set => ?_
  split
  · exact .ret _
  · refine made_CheckUnlockPassword.bind fun b => ?_
    cases b with
    | false => exact .ret _
    | true =>
      refine made_LoadJWTSecret.orReturn fun _ => made_keysInit.orReturn fun _ => ?_
      exact made_launchLNBackend.orReturn fun _ => made_outside.orReturn fun _ => .ret _

theorem made_withStartMutex {p : Cfg (Except ConfigErr Unit)} (hp : Made W p) :
    Made W (withStartMutex p) := by
  refine made_tryLockStart.bind fun b => ?_
  cases b with
  | false => exact .ret _
  | true => exact hp.bind fun _ => made_unlockStart.bind fun _ => .ret _

/-- Whether the call is a change of the password. Reference: none. -/
def ConfigOp.isChange : ConfigOp → Bool
  | .changeUnlockPassword _ _ => true
  | _ => false

/-- The writes of a call, where those of another component are in `W`. Reference: none. -/
theorem ConfigOp.made {op : ConfigOp} (hop : op.isChange = false)
    (hW : ∀ onConflict key value encryptionKey, Guarded onConflict key value encryptionKey →
      W onConflict key value encryptionKey)
    (hset : ∀ key value encryptionKey, op = .setUpdate key value encryptionKey ∨
      op = .saveUnderPassword key value encryptionKey → W .doUpdates key value encryptionKey)
    (hignore : ∀ key value encryptionKey, op = .setIgnore key value encryptionKey →
      W .doNothing key value encryptionKey) : Made W op.body := by
  cases op with
  | get key encryptionKey => exact (Made.get _ _).orReturn fun _ => .ret _
  | setUpdate key value encryptionKey => exact .set (hset _ _ _ (.inl rfl))
  | setIgnore key value encryptionKey => exact .set (hignore _ _ _ rfl)
  | saveUnderPassword key value unlockPassword =>
    refine made_CheckUnlockPassword.bind fun b => ?_
    cases b with
    | false => exact .ret _
    | true => exact .set (hset _ _ _ (.inr rfl))
  | setup defaultClient setupRequest => exact (made_withStartMutex made_setupLocked).mono hW
  | start unlockPassword => exact (made_withStartMutex made_StartApp).mono hW
  | autoUnlock unlockPassword => exact made_StartApp.mono hW
  | keysInit encryptionKey => exact made_keysInit.mono hW
  | loadJWTSecret encryptionKey => exact made_LoadJWTSecret.mono hW
  | changeUnlockPassword old new => cases hop
  | reboot => exact Made.reboot.bind fun _ => .ret _

end

end AlbyHub
