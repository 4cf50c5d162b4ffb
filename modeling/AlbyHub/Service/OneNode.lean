import AlbyHub.Interaction.Index
import AlbyHub.Service.Start

/-!
# At most one node

A client is the business of one attempt: the one that created it, and the goroutine that this
attempt has started. An attempt that fails returns before its goroutine has run, so that a later
attempt passes the nil check while the goroutine is still on its way: then two clients run at once
(`two_nodes`), or the goroutine stops the client of the later attempt. As long as an attempt starts
its goroutine only when no other one is left, at most one client runs, and only its own goroutine
stops it (`one_node`).
-/

namespace AlbyHub.Node

open Interaction

/-! ## Discipline -/

/-- What a call does next with the client that it has just created, or that it has just cleared.
Reference: `service/start.go:422 launchLNBackend`, `service/stop.go:33 stopLNClient`. -/
def handOver : List NodeCall → Option NodeCmd
  | ⟨.newService _ _, .ok lnClient⟩ :: _ => some (.setLnClient (some lnClient))
  | ⟨.setLnClient none, _⟩ :: ⟨.lnClient, some lnClient⟩ :: _ => some (.shutdown lnClient)
  | _ => none

/-- The commands that need a history. Reference: `service/start.go:331 launchLNBackend`,
`service/stop.go:19 stopLNClient`. -/
def NodeMay (h : List NodeCall) : NodeCmd → Prop
  | .goStop _ => ∀ call ∈ h, ∀ ctx, call.cmd ≠ .goStop ctx
  | .newService _ ctx => (⟨.goStop ctx, ()⟩ : NodeCall) ∈ h ∧
      ∀ call ∈ h, ∀ lnBackend ctx', call.cmd ≠ .newService lnBackend ctx'
  | .setLnClient (some lnClient) => handOver h = some (.setLnClient (some lnClient))
  | .setLnClient none => (∃ ctx, (⟨.done, ctx⟩ : NodeCall) ∈ h) ∧
      (∀ call ∈ h, ∀ ctx, call.cmd ≠ .wgDone ctx) ∧
      ∃ lnClient h', h = ⟨.lnClient, some lnClient⟩ :: h'
  | .shutdown lnClient => handOver h = some (.shutdown lnClient) ∧
      ∀ call ∈ h, ∀ ctx, call.cmd ≠ .wgDone ctx
  | .done => h = []
  | .wgDone ctx => (⟨.done, ctx⟩ : NodeCall) ∈ h ∧ ∀ call ∈ h, ∀ ctx', call.cmd ≠ .wgDone ctx'
  | _ => True

/-- A client in hand is handed over first. Reference: `service/start.go:331 launchLNBackend`,
`service/stop.go:19 stopLNClient`. -/
def NodeOk (h : List NodeCall) (c : NodeCmd) : Prop :=
  (∀ c', handOver h = some c' → c = c') ∧ NodeMay h c

/-- No call returns with a client in hand. Reference: `service/start.go:331 launchLNBackend`,
`service/stop.go:19 stopLNClient`. -/
def NodePost {α : Type} (h : List NodeCall) (_ : α) : Prop := handOver h = none

section
variable {h : List NodeCall} {α β : Type}

/-- A command that needs no history keeps the hands empty. Reference: none. -/
def NodeCmd.Plain : NodeCmd → Prop
  | .goStop _ | .newService _ _ | .setLnClient _ | .shutdown _ | .done | .wgDone _ => False
  | _ => True

theorem NodeOk.of_plain {c : NodeCmd} (hh : handOver h = none) (hc : c.Plain) : NodeOk h c := by
  refine ⟨fun c' he => ?_, ?_⟩
  · rw [hh] at he
    cases he
  · cases c with
    | goStop ctx => exact hc.elim
    | newService lnBackend ctx => exact hc.elim
    | setLnClient lnClient => exact hc.elim
    | shutdown lnClient => exact hc.elim
    | done => exact hc.elim
    | wgDone ctx => exact hc.elim
    | _ => trivial

theorem handOver_plain {c : NodeCmd} {r : c.Ans} (hc : c.Plain) :
    handOver (⟨c, r⟩ :: h) = none := by
  cases c with
  | newService lnBackend ctx => exact hc.elim
  | setLnClient lnClient => exact hc.elim
  | _ => rfl

/-- The history of a call that has not touched the node yet. Reference: none. -/
def Untouched (h : List NodeCall) : Prop := handOver h = none ∧ ∀ call ∈ h, call.cmd.Plain

/-- The history of an attempt whose goroutine waits and whose client is not created yet. Reference:
`service/start.go:337 launchLNBackend`. -/
structure Launches (ctx : Nat) (h : List NodeCall) : Prop where
  empty : handOver h = none
  goStop : (⟨.goStop ctx, ()⟩ : NodeCall) ∈ h
  notYet : ∀ call ∈ h, ∀ lnBackend ctx', call.cmd ≠ .newService lnBackend ctx'

theorem Untouched.cons {c : NodeCmd} {r : c.Ans} (hu : Untouched h) (hc : c.Plain) :
    Untouched (⟨c, r⟩ :: h) := by
  refine ⟨handOver_plain hc, fun call hcall => ?_⟩
  rcases List.mem_cons.1 hcall with rfl | hcall
  · exact hc
  · exact hu.2 call hcall

theorem Launches.cons {ctx : Nat} {c : NodeCmd} {r : c.Ans} (hl : Launches ctx h) (hc : c.Plain) :
    Launches ctx (⟨c, r⟩ :: h) := by
  refine ⟨handOver_plain hc, List.mem_cons_of_mem _ hl.goStop, fun call hcall lnBackend ctx' he =>
    ?_⟩
  rcases List.mem_cons.1 hcall with rfl | hcall
  · have hplain : c = .newService lnBackend ctx' := he
    rw [hplain] at hc
    exact hc
  · exact hl.notYet call hcall lnBackend ctx' he

/-- The rule of a plain command. Reference: none. -/
theorem follows_plain {c : NodeCmd} {f : c.Ans → NodeProg β} {post : List NodeCall → β → Prop}
    (hh : handOver h = none) (hc : c.Plain) (hf : ∀ r, Follows NodeOk post (⟨c, r⟩ :: h) (f r)) :
    Follows NodeOk post h (c.issue >>= f) :=
  ⟨NodeOk.of_plain hh hc, hf⟩

/-- The rule of a plain command at the end. Reference: none. -/
theorem follows_plain_last {c : NodeCmd} (hh : handOver h = none) (hc : c.Plain) :
    Follows NodeOk NodePost h c.issue :=
  ⟨NodeOk.of_plain hh hc, fun _ => handOver_plain hc⟩

/-- The rule of a step that can fail. Reference: none. -/
theorem follows_andThen {p : NodeProg (Except String α)} {f : α → NodeProg (Except String β)}
    {mid : List NodeCall → Prop} {post : List NodeCall → Except String β → Prop}
    (hp : Follows NodeOk (fun h' _ => mid h') h p) (he : ∀ h' e, mid h' → post h' (.error e))
    (hf : ∀ h' a, mid h' → Follows NodeOk post h' (f a)) : Follows NodeOk post h (p.andThen f) := by
  refine hp.bind fun h' r _ hm => ?_
  cases r with
  | error e => exact he h' e hm
  | ok a => exact hf h' a hm

/-- The checks before the node is touched. Reference: `service/start.go:265 StartApp`. -/
theorem follows_checkAccount (hu : Untouched h) :
    Follows NodeOk (fun h' _ => Untouched h') h checkAccount := by
  have hask : Follows NodeOk (fun h' _ => Untouched h') h NodeCmd.getUserIdentifier.issue :=
    ⟨NodeOk.of_plain hu.1 trivial, fun _ => hu.cons trivial⟩
  refine follows_andThen hask (fun h' e hu' => hu') fun h' albyIdentifier hu' => ?_
  split
  · exact hu'
  · refine follows_plain hu'.1 trivial fun connected => ?_
    cases connected with
    | true => exact hu'.cons trivial
    | false => exact hu'.cons trivial

theorem follows_unlockHub {encryptionKey : String} (hu : Untouched h) :
    Follows NodeOk (fun h' _ => Untouched h') h (unlockHub encryptionKey) := by
  refine follows_plain hu.1 trivial fun r => ?_
  have hu₁ : Untouched (⟨.isUnlockPasswordCheckSet, r⟩ :: h) := hu.cons trivial
  cases r with
  | error e => exact hu₁
  | ok set =>
    cases set with
    | false => exact hu₁
    | true =>
      refine follows_plain hu₁.1 trivial fun right => ?_
      have hu₂ := hu₁.cons (c := .checkUnlockPassword encryptionKey) (r := right) trivial
      cases right with
      | false => exact hu₂
      | true =>
        have hload : Follows NodeOk (fun h' _ => Untouched h') _
            (NodeCmd.loadJWTSecret encryptionKey).issue :=
          ⟨NodeOk.of_plain hu₂.1 trivial, fun _ => hu₂.cons trivial⟩
        refine follows_andThen hload (fun h' e hu' => hu') fun h' _ hu' => ?_
        exact ⟨NodeOk.of_plain hu'.1 trivial, fun _ => hu'.cons trivial⟩

/-- What the hands hold after the backend's constructor. Reference: `service/start.go:410
launchLNBackend`. -/
def Created (h : List NodeCall) (r : Except String LNClient) : Prop :=
  match r with
  | .error _ => handOver h = none
  | .ok lnClient => handOver h = some (.setLnClient (some lnClient))

theorem follows_newService {lnBackend : String} {ctx : Nat} (hl : Launches ctx h) :
    Follows NodeOk Created h (NodeCmd.newService lnBackend ctx).issue := by
  refine ⟨⟨fun c' he => ?_, hl.goStop, hl.notYet⟩, fun r => ?_⟩
  · rw [hl.empty] at he
    cases he
  · cases r with
    | error e => exact rfl
    | ok lnClient => exact rfl

theorem follows_newLNClient {lnBackend : String} {ctx : Nat} (hl : Launches ctx h) :
    Follows NodeOk Created h (newLNClient lnBackend ctx) := by
  unfold newLNClient
  split
  · have hvss : Follows NodeOk (fun h' _ => Launches ctx h') h NodeCmd.requestVssToken.issue :=
      ⟨NodeOk.of_plain hl.empty trivial, fun _ => hl.cons trivial⟩
    exact follows_andThen hvss (fun h' e hl' => hl'.empty) fun h' _ hl' => follows_newService hl'
  · split
    · exact follows_newService hl
    · exact hl.empty

theorem follows_launch {ctx : Nat} (hu : Untouched h) : Follows NodeOk NodePost h (launch ctx) := by
  have hgo : NodeOk h (.goStop ctx) := by
    refine ⟨fun c' he => ?_, fun call hcall ctx' he => ?_⟩
    · rw [hu.1] at he
      cases he
    · have hplain := hu.2 call hcall
      rw [he] at hplain
      exact hplain
  have hl : Launches ctx (⟨.goStop ctx, ()⟩ :: h) := by
    refine ⟨rfl, List.mem_cons_self, fun call hcall lnBackend ctx' he => ?_⟩
    rcases List.mem_cons.1 hcall with rfl | hcall
    · cases he
    · have hplain := hu.2 call hcall
      rw [he] at hplain
      exact hplain
  refine ⟨hgo, fun _ => follows_plain hl.empty trivial fun lnBackend => ?_⟩
  have hl' := hl.cons (c := .lnBackendType) (r := lnBackend) trivial
  split
  · exact hl'.empty
  · refine (follows_newLNClient hl').bind fun h' r _ hr => ?_
    cases r with
    | error e => exact hr
    | ok lnClient =>
      have hput : NodeOk h' (.setLnClient (some lnClient)) := by
        refine ⟨fun c' he => ?_, hr⟩
        rw [show handOver h' = _ from hr] at he
        exact Option.some.inj he
      exact ⟨hput, fun _ => rfl⟩

theorem follows_attempt (hu : Untouched h) : Follows NodeOk NodePost h attempt := by
  refine follows_plain hu.1 trivial fun ctx => ?_
  have hu₁ : Untouched (⟨.withCancel, ctx⟩ :: h) := hu.cons trivial
  have hbackend : Follows NodeOk NodePost (⟨.withCancel, ctx⟩ :: h) (launchLNBackend ctx) := by
    refine follows_plain hu₁.1 trivial fun lnClient => ?_
    have hu₂ := hu₁.cons (c := .lnClient) (r := lnClient) trivial
    cases lnClient with
    | some lnClient => exact hu₂.1
    | none => exact follows_launch hu₂
  have hlaunched : Follows NodeOk NodePost (⟨.withCancel, ctx⟩ :: h)
      ((launchLNBackend ctx).andThen fun _ => NodeCmd.issue (.startNostr ctx)) :=
    follows_andThen hbackend (fun h' e hp => hp) fun h' _ hp => follows_plain_last hp trivial
  refine hlaunched.bind fun h' r _ hp => ?_
  cases r with
  | error e => exact follows_plain hp trivial fun _ => handOver_plain trivial
  | ok _ => exact follows_plain hp trivial fun _ => handOver_plain trivial

theorem follows_StartApp {encryptionKey : String} (hu : Untouched h) :
    Follows NodeOk NodePost h (StartApp encryptionKey) := by
  refine follows_andThen (follows_checkAccount hu) (fun h' e hu' => hu'.1) fun h' _ hu' => ?_
  refine follows_plain hu'.1 trivial fun lnClient => ?_
  have hu₁ := hu'.cons (c := .lnClient) (r := lnClient) trivial
  cases lnClient with
  | some lnClient => exact hu₁.1
  | none =>
    exact follows_andThen (follows_unlockHub hu₁) (fun h' e hu' => hu'.1) fun h' _ hu' =>
      follows_attempt hu'

theorem follows_StopApp (hh : handOver h = none) : Follows NodeOk NodePost h StopApp := by
  refine follows_plain hh trivial fun ctx => ?_
  cases ctx with
  | none => exact handOver_plain trivial
  | some ctx =>
    exact follows_plain (handOver_plain trivial) trivial fun _ =>
      follows_plain_last (handOver_plain trivial) trivial

/-- The history of a goroutine that is stopping the client. Reference: `service/stop.go:19
stopLNClient`. -/
structure Stops (ctx : Nat) (h : List NodeCall) : Prop where
  empty : handOver h = none
  done : (⟨.done, ctx⟩ : NodeCall) ∈ h
  notYet : ∀ call ∈ h, ∀ ctx', call.cmd ≠ .wgDone ctx'

theorem Stops.cons {ctx : Nat} {c : NodeCmd} {r : c.Ans} (hs : Stops ctx h)
    (hh : handOver (⟨c, r⟩ :: h) = none) (hc : ∀ ctx', c ≠ .wgDone ctx') :
    Stops ctx (⟨c, r⟩ :: h) := by
  refine ⟨hh, List.mem_cons_of_mem _ hs.done, fun call hcall ctx' => ?_⟩
  rcases List.mem_cons.1 hcall with rfl | hcall
  · exact hc ctx'
  · exact hs.notYet call hcall ctx'

theorem follows_shutdownLNClient {ctx : Nat} (hs : Stops ctx h) :
    Follows NodeOk (fun h' _ => Stops ctx h') h shutdownLNClient := by
  refine follows_plain hs.empty trivial fun lnClient => ?_
  have hs₁ := hs.cons (c := .lnClient) (r := lnClient) rfl nofun
  cases lnClient with
  | none => exact hs₁
  | some first =>
    refine follows_plain hs₁.empty trivial fun lnClient => ?_
    have hs₂ := hs₁.cons (c := .lnClient) (r := lnClient) rfl nofun
    cases lnClient with
    | none => exact follows_plain hs₂.empty trivial fun never => nomatch never
    | some lnClient =>
      refine ⟨⟨fun c' he => ?_, ⟨ctx, hs₂.done⟩, hs₂.notYet, lnClient, _, rfl⟩, fun _ => ?_⟩
      · rw [hs₂.empty] at he
        cases he
      · have hnot : ∀ call ∈ (⟨.setLnClient none, ()⟩ :: ⟨.lnClient, some lnClient⟩ ::
            ⟨.lnClient, some first⟩ :: h : List NodeCall), ∀ ctx', call.cmd ≠ .wgDone ctx' := by
          intro call hcall ctx'
          rcases List.mem_cons.1 hcall with rfl | hcall
          · exact nofun
          · exact hs₂.notYet call hcall ctx'
        refine ⟨⟨fun c' he => Option.some.inj he, rfl, hnot⟩, fun r => ?_⟩
        refine ⟨rfl, ?_, fun call hcall ctx' => ?_⟩
        · exact List.mem_cons_of_mem _ (List.mem_cons_of_mem _ hs₂.done)
        · rcases List.mem_cons.1 hcall with rfl | hcall
          · exact nofun
          · exact hnot call hcall ctx'

theorem follows_stopLNClient : Follows NodeOk NodePost [] stopLNClient := by
  refine ⟨⟨nofun, rfl⟩, fun ctx => ?_⟩
  have hs : Stops ctx [⟨.done, ctx⟩] :=
    ⟨rfl, List.mem_cons_self, fun call hcall ctx' he => by
      rw [List.mem_singleton.1 hcall] at he
      cases he⟩
  refine follows_plain hs.empty trivial fun _ => ?_
  have hs₁ := hs.cons (c := .setShuttingDown true) (r := ()) rfl nofun
  refine (follows_shutdownLNClient hs₁).bind fun h' _ _ hs' => ?_
  refine follows_plain hs'.empty trivial fun _ => ?_
  have hs₂ := hs'.cons (c := .setShuttingDown false) (r := ()) rfl nofun
  refine ⟨⟨fun c' he => ?_, hs₂.done, hs₂.notYet⟩, fun _ => rfl⟩
  rw [hs₂.empty] at he
  cases he

theorem follows_withStartMutex {p : NodeProg (Except String Unit)}
    (hp : ∀ h, Untouched h → Follows NodeOk NodePost h p) (hu : Untouched h) :
    Follows NodeOk NodePost h (withStartMutex p) := by
  refine follows_plain hu.1 trivial fun locked => ?_
  have hu₁ := hu.cons (c := .tryLock) (r := locked) trivial
  cases locked with
  | false => exact hu₁.1
  | true =>
    refine (hp _ hu₁).bind fun h' err _ hh => ?_
    exact follows_plain hh trivial fun _ => handOver_plain trivial

theorem follows_stopNode (hu : Untouched h) : Follows NodeOk NodePost h stopNode := by
  have hget : Follows NodeOk NodePost h GetLNClient := by
    refine follows_plain hu.1 trivial fun shuttingDown => ?_
    cases shuttingDown with
    | true => exact handOver_plain trivial
    | false => exact follows_plain_last (handOver_plain trivial) trivial
  refine hget.bind fun h' lnClient _ hh => ?_
  cases lnClient with
  | none => exact hh
  | some _ => exact (follows_StopApp hh).bind fun h' _ _ hh => hh

/-- Every call follows the discipline. Reference: `service/models.go:20 Service`. -/
theorem follows_nodeBody (op : NodeOp) : Follows NodeOk NodePost [] (nodeBody op) := by
  have hu : Untouched [] := ⟨rfl, nofun⟩
  cases op with
  | startApp encryptionKey => exact follows_StartApp hu
  | stopApp => exact (follows_StopApp rfl).bind fun h' _ _ hh => hh
  | start encryptionKey => exact follows_withStartMutex (fun h hu => follows_StartApp hu) hu
  | stop => exact follows_withStartMutex (fun h hu => follows_stopNode hu) hu
  | stopGoroutine => exact follows_stopLNClient.bind fun h' _ _ hh => hh
  | signal => exact follows_plain rfl trivial fun _ => handOver_plain trivial

end

/-! ## The invariant -/

abbrev NodeThread := Thread NodeCmd NodeCmd.Ans NodeOp (Except String Unit)

/-- The call has a client in hand: it has just been created and is not stored yet, or it was cleared
and its `Shutdown` has not returned. Reference: `service/start.go:410 launchLNBackend`,
`service/stop.go:30 stopLNClient`. -/
def Holds (t : NodeThread) (lnClient : LNClient) : Prop :=
  handOver t.hist = some (.setLnClient (some lnClient)) ∨
    handOver t.hist = some (.shutdown lnClient)

/-- An attempt that has started its goroutine and has not returned. Reference: `service/start.go:337
launchLNBackend`. -/
def Launching (t : NodeThread) : Prop :=
  t.rest.done = false ∧ ∃ ctx, (⟨.goStop ctx, ()⟩ : NodeCall) ∈ t.hist

/-- A goroutine whose context has ended and that has not returned. Reference: `service/stop.go:19
stopLNClient`. -/
def Stopping (t : NodeThread) : Prop :=
  (∃ ctx, (⟨.done, ctx⟩ : NodeCall) ∈ t.hist) ∧ ∀ call ∈ t.hist, ∀ ctx, call.cmd ≠ .wgDone ctx

/-- The step keeps to the condition: an attempt starts its goroutine when no goroutine is left, no
client is set and no other attempt is past that point, and `Shutdown` does not fail. Reference:
`service/start.go:337 launchLNBackend`, `service/stop.go:33 stopLNClient`. -/
def Undisturbed (cfg : NodePool) : NodeLabel → Prop
  | .spawn _ => True
  | .run i env => ∀ op h c k, cfg.threads[i]? = some ⟨op, h, .cmd c k⟩ →
    (∀ ctx, c = .goStop ctx → cfg.state.wg = [] ∧ cfg.state.lnClient = none ∧
      ∀ (j : Nat) t, cfg.threads[j]? = some t → j ≠ i → ¬ Launching t) ∧
    ∀ lnClient, c = .shutdown lnClient → env.fault = none
  | .restart => False

/-- Where the client is, whose it is, and who may touch it. Reference: `service/start.go`,
`service/stop.go`. -/
structure OneNode (s : NodeHub) (ts : List NodeThread) : Prop where
  follows : ∀ t ∈ ts, Follows NodeOk NodePost t.hist t.rest
  launcher : Unique Launching ts
  stopper : Unique Stopping ts
  holder : Unique (fun t => ∃ lnClient, Holds t lnClient) ts
  waits : ∀ ctx ∈ s.waiting, s.waiting = [ctx] ∧ s.wg = [ctx]
  stops : ∀ t ∈ ts, Stopping t → s.waiting = [] ∧
    ∀ ctx, (⟨.done, ctx⟩ : NodeCall) ∈ t.hist → s.wg = [ctx]
  launches : ∀ t ∈ ts, Launching t → ∀ ctx, (⟨.goStop ctx, ()⟩ : NodeCall) ∈ t.hist →
    (∀ ctx' ∈ s.wg, ctx' = ctx) ∧
    ((∀ call ∈ t.hist, ∀ lnBackend ctx', call.cmd ≠ .newService lnBackend ctx') →
      s.lnClient = none ∧ s.running = [])
  owned : ∀ ctx ∈ s.wg, ∀ lnClient ∈ s.running, lnClient.ctx = ctx
  stored : ∀ lnClient, s.lnClient = some lnClient → s.running = [lnClient]
  located : ∀ lnClient ∈ s.running, s.lnClient = some lnClient ∨ ∃ t ∈ ts, Holds t lnClient
  holds : ∀ t ∈ ts, ∀ lnClient, Holds t lnClient →
    s.lnClient = none ∧ s.running = [lnClient] ∧ (Launching t ∨ Stopping t)
  reads : ∀ t ∈ ts, Stopping t → ∀ lnClient h', t.hist = ⟨.lnClient, some lnClient⟩ :: h' →
    s.lnClient = some lnClient

section
variable {s s' : NodeHub} {ts : List NodeThread} {op : NodeOp} {h : List NodeCall} {c : NodeCmd}
variable {k : c.Ans → NodeProg (Except String Unit)} {r : c.Ans} {i : Nat} {t t' : NodeThread}

/-- What a thread is after a command that does not start it was true before. Reference: none. -/
theorem Launching.of_step (hgo : ∀ ctx, c ≠ .goStop ctx) (hl : Launching ⟨op, ⟨c, r⟩ :: h, k r⟩) :
    Launching ⟨op, h, .cmd c k⟩ := by
  obtain ⟨-, ctx, hmem⟩ := hl
  refine ⟨rfl, ctx, ?_⟩
  rcases List.mem_cons.1 hmem with he | hmem
  · cases he
    exact absurd rfl (hgo ctx)
  · exact hmem

theorem Stopping.of_step (hdone : c ≠ .done) (hs : Stopping ⟨op, ⟨c, r⟩ :: h, k r⟩) :
    Stopping ⟨op, h, .cmd c k⟩ := by
  obtain ⟨⟨ctx, hmem⟩, hnot⟩ := hs
  refine ⟨⟨ctx, ?_⟩, fun call hcall => hnot call (List.mem_cons_of_mem _ hcall)⟩
  rcases List.mem_cons.1 hmem with he | hmem
  · cases he
    exact absurd rfl hdone
  · exact hmem

theorem Stopping.step (hwg : ∀ ctx, c ≠ .wgDone ctx) (hs : Stopping ⟨op, h, .cmd c k⟩) :
    Stopping ⟨op, ⟨c, r⟩ :: h, k r⟩ := by
  obtain ⟨⟨ctx, hmem⟩, hnot⟩ := hs
  refine ⟨⟨ctx, List.mem_cons_of_mem _ hmem⟩, fun call hcall => ?_⟩
  rcases List.mem_cons.1 hcall with rfl | hcall
  · exact hwg
  · exact hnot call hcall

theorem not_holds (h0 : handOver h = none) {rest : NodeProg (Except String Unit)}
    {lnClient : LNClient} : ¬ Holds ⟨op, h, rest⟩ lnClient := by
  rintro (he | he)
  · rw [show handOver h = _ from he] at h0
    cases h0
  · rw [show handOver h = _ from he] at h0
    cases h0

theorem handOver_cases {c' : NodeCmd} (he : handOver h = some c') :
    (∃ lnClient, c' = .setLnClient (some lnClient)) ∨ ∃ lnClient, c' = .shutdown lnClient := by
  unfold handOver at he
  split at he
  · exact .inl ⟨_, (Option.some.inj he).symm⟩
  · exact .inr ⟨_, (Option.some.inj he).symm⟩
  · cases he

/-- A command that hands nothing over is issued with empty hands. Reference: none. -/
theorem NodeOk.empty (hok : NodeOk h c) (hput : ∀ lnClient, c ≠ .setLnClient (some lnClient))
    (hshut : ∀ lnClient, c ≠ .shutdown lnClient) : handOver h = none := by
  cases he : handOver h with
  | none => rfl
  | some c' =>
    have hc := hok.1 c' he
    rcases handOver_cases he with ⟨n, hn⟩ | ⟨n, hn⟩
    · exact absurd (hc.trans hn) (hput n)
    · exact absurd (hc.trans hn) (hshut n)

theorem Launching.goStop_mem {ctx : Nat} (hgo : ∀ ctx, c ≠ .goStop ctx)
    (hmem : (⟨.goStop ctx, ()⟩ : NodeCall) ∈ (⟨c, r⟩ :: h : List NodeCall)) :
    (⟨.goStop ctx, ()⟩ : NodeCall) ∈ h := by
  rcases List.mem_cons.1 hmem with he | hmem
  · cases he
    exact absurd rfl (hgo ctx)
  · exact hmem

namespace OneNode

/-- The thread that steps issues a disciplined command. Reference: none. -/
theorem issues (hn : OneNode s ts) (hi : ts[i]? = some ⟨op, h, .cmd c k⟩) : NodeOk h c :=
  (hn.follows _ (List.mem_of_getElem? hi)).1

theorem follows_set (hn : OneNode s ts) (hi : ts[i]? = some ⟨op, h, .cmd c k⟩) :
    ∀ t ∈ ts.set i ⟨op, ⟨c, r⟩ :: h, k r⟩, Follows NodeOk NodePost t.hist t.rest := by
  intro t ht
  rcases Config.mem_set ht with rfl | ht
  · exact (hn.follows _ (List.mem_of_getElem? hi)).2 r
  · exact hn.follows t ht

/-- A call that has a client in hand has not returned. Reference: none. -/
theorem not_done (hn : OneNode s ts) (hi : ts[i]? = some ⟨op, h, .cmd c k⟩)
    (hh : handOver (⟨c, r⟩ :: h) ≠ none) : (k r).done = false := by
  have hf := (hn.follows _ (List.mem_of_getElem? hi)).2 r
  cases hk : k r with
  | ret a =>
    rw [hk] at hf
    exact absurd hf hh
  | cmd c' k' => rfl

theorem stops_set (hn : OneNode s ts) (hi : ts[i]? = some ⟨op, h, .cmd c k⟩) (hdone : c ≠ .done) :
    ∀ t ∈ ts.set i ⟨op, ⟨c, r⟩ :: h, k r⟩, Stopping t →
      s.waiting = [] ∧ ∀ ctx, (⟨.done, ctx⟩ : NodeCall) ∈ t.hist → s.wg = [ctx] := by
  intro t ht hs
  rcases Config.mem_set ht with rfl | ht
  · obtain ⟨hw, hctx⟩ := hn.stops _ (List.mem_of_getElem? hi) (Stopping.of_step hdone hs)
    refine ⟨hw, fun ctx hc => hctx ctx ?_⟩
    rcases List.mem_cons.1 hc with he | hc
    · cases he
      exact absurd rfl hdone
    · exact hc
  · exact hn.stops t ht hs

/-- A step that moves no client and no goroutine keeps the invariant. Reference: none. -/
theorem quiet (hn : OneNode s ts) (hi : ts[i]? = some ⟨op, h, .cmd c k⟩)
    (hclient : s'.lnClient = s.lnClient) (hrunning : s'.running = s.running) (hwg : s'.wg = s.wg)
    (hwaiting : s'.waiting = s.waiting) (hgo : ∀ ctx, c ≠ .goStop ctx) (hdone : c ≠ .done)
    (h0 : handOver h = none) (h1 : handOver (⟨c, r⟩ :: h) = none)
    (hread : ∀ lnClient h', (⟨c, r⟩ :: h : List NodeCall) = ⟨.lnClient, some lnClient⟩ :: h' →
      s.lnClient = some lnClient) :
    OneNode s' (ts.set i ⟨op, ⟨c, r⟩ :: h, k r⟩) := by
  have hmem := List.mem_of_getElem? hi
  refine ⟨hn.follows_set hi, hn.launcher.set hi (Launching.of_step hgo),
    hn.stopper.set hi (Stopping.of_step hdone), hn.holder.set hi ?_, ?_, fun t ht hs => ?_,
    fun t ht hl ctx hctx => ?_, ?_, ?_, fun n hrun => ?_, fun t ht n hholds => ?_,
    fun t ht hs n h' he => ?_⟩
  · rintro ⟨n, hholds⟩
    exact absurd hholds (not_holds h1)
  · rw [hwaiting, hwg]
    exact hn.waits
  · rw [hwaiting, hwg]
    exact hn.stops_set hi hdone t ht hs
  · rw [hwg, hclient, hrunning]
    rcases Config.mem_set ht with rfl | ht
    · have hgoStop : (⟨.goStop ctx, ()⟩ : NodeCall) ∈ h := by
        rcases List.mem_cons.1 hctx with he | hc
        · cases he
          exact absurd rfl (hgo ctx)
        · exact hc
      obtain ⟨hown, hnone⟩ := hn.launches _ hmem (Launching.of_step hgo hl) ctx hgoStop
      exact ⟨hown, fun hnot => hnone fun call hcall => hnot call (List.mem_cons_of_mem _ hcall)⟩
    · exact hn.launches t ht hl ctx hctx
  · rw [hwg, hrunning]
    exact hn.owned
  · rw [hclient, hrunning]
    exact hn.stored
  · rw [hrunning] at hrun
    rw [hclient]
    rcases hn.located n hrun with hst | ⟨t, ht, hholds⟩
    · exact .inl hst
    · rcases Config.mem_of_set ⟨op, ⟨c, r⟩ :: h, k r⟩ hi ht with rfl | ht
      · exact absurd hholds (not_holds h0)
      · exact .inr ⟨t, ht, hholds⟩
  · rw [hclient, hrunning]
    rcases Config.mem_set ht with rfl | ht
    · exact absurd hholds (not_holds h1)
    · exact hn.holds t ht n hholds
  · rw [hclient]
    rcases Config.mem_set ht with rfl | ht
    · exact hread n h' he
    · exact hn.reads t ht hs n h' he

/-- An attempt starts its goroutine. Reference: `service/start.go:337 launchLNBackend`. -/
theorem goStop {ctx : Nat} {k : Unit → NodeProg (Except String Unit)} (hn : OneNode s ts)
    (hi : ts[i]? = some ⟨op, h, .cmd (.goStop ctx) k⟩) (hwg : s.wg = [])
    (hclient : s.lnClient = none)
    (hno : ∀ (j : Nat) t, ts[j]? = some t → j ≠ i → ¬ Launching t) :
    OneNode { s with waiting := ctx :: s.waiting, wg := ctx :: s.wg }
      (ts.set i ⟨op, ⟨.goStop ctx, ()⟩ :: h, k ()⟩) := by
  have hmem := List.mem_of_getElem? hi
  have hok := hn.issues hi
  have h0 : handOver h = none := hok.empty nofun nofun
  have hne : NodeCmd.goStop ctx ≠ .done := nofun
  have hwaiting : s.waiting = [] := by
    cases hw : s.waiting with
    | nil => rfl
    | cons ctx' rest =>
      have hone := (hn.waits ctx' (by rw [hw]; exact List.mem_cons_self)).2
      rw [hwg] at hone
      cases hone
  have hstop : ∀ t ∈ ts, ¬ Stopping t := by
    intro t ht hs
    obtain ⟨ctx', hdone⟩ := hs.1
    have hone := (hn.stops t ht hs).2 ctx' hdone
    rw [hwg] at hone
    cases hone
  have hholds : ∀ t ∈ ts, ∀ n, ¬ Holds t n := by
    intro t ht n hh
    rcases (hn.holds t ht n hh).2.2 with hl | hs
    · obtain ⟨j, hj⟩ := List.mem_iff_getElem?.1 ht
      by_cases he : j = i
      · rw [he, hi] at hj
        cases hj
        exact not_holds h0 hh
      · exact hno j t hj he hl
    · exact hstop t ht hs
  have hrunning : s.running = [] := by
    cases hrun : s.running with
    | nil => rfl
    | cons n rest =>
      rcases hn.located n (by rw [hrun]; exact List.mem_cons_self) with hst | ⟨t, ht, hh⟩
      · rw [hclient] at hst
        cases hst
      · exact absurd hh (hholds t ht n)
  refine ⟨hn.follows_set hi, Unique.set_of_none hno, hn.stopper.set hi (Stopping.of_step hne),
    Unique.set_of_none fun j t hj _ ⟨n, hh⟩ => hholds t (List.mem_of_getElem? hj) n hh,
    fun ctx' hctx' => ?_, fun t ht hs => ?_, fun t ht hl ctx' hctx' => ?_, fun ctx' hctx' n hrun =>
      ?_,
    hn.stored, fun n hrun => ?_, fun t ht n hh => ?_, fun t ht hs n h' he => ?_⟩
  · simp only [hwaiting, hwg, List.mem_singleton] at hctx' ⊢
    rw [hctx']
    exact ⟨rfl, rfl⟩
  · rcases Config.mem_set ht with rfl | ht
    · exact absurd (Stopping.of_step hne hs) (hstop _ hmem)
    · exact absurd hs (hstop t ht)
  · rcases mem_set_index ht with rfl | ⟨j, hji, hj⟩
    · have hone : ctx' = ctx := by
        rcases List.mem_cons.1 hctx' with he | hold
        · cases he
          rfl
        · exact absurd rfl (hok.2 _ hold ctx')
      rw [hone]
      refine ⟨fun ctx'' hc => ?_, fun _ => ⟨hclient, hrunning⟩⟩
      rw [hwg] at hc
      exact List.mem_singleton.1 hc
    · exact absurd hl (hno j t hj hji)
  · rw [hrunning] at hrun
    cases hrun
  · rw [hrunning] at hrun
    cases hrun
  · rcases Config.mem_set ht with rfl | ht
    · exact absurd hh (not_holds rfl)
    · exact absurd hh (hholds t ht n)
  · rcases Config.mem_set ht with rfl | ht
    · cases he
    · exact hn.reads t ht hs n h' he

/-- The context of a goroutine has ended. Reference: `service/start.go:340 launchLNBackend`. -/
theorem done {ctx : Nat} {k : Nat → NodeProg (Except String Unit)} (hn : OneNode s ts)
    (hi : ts[i]? = some ⟨op, h, .cmd .done k⟩) (hctx : ctx ∈ s.waiting) :
    OneNode { s with waiting := s.waiting.erase ctx }
      (ts.set i ⟨op, ⟨.done, ctx⟩ :: h, k ctx⟩) := by
  have hmem := List.mem_of_getElem? hi
  obtain rfl : h = [] := (hn.issues hi).2
  have hne : ∀ ctx', NodeCmd.done ≠ .goStop ctx' := nofun
  obtain ⟨hwaiting, hwg⟩ := hn.waits ctx hctx
  have hstop : ∀ t ∈ ts, ¬ Stopping t := by
    intro t ht hs
    rw [(hn.stops t ht hs).1] at hctx
    cases hctx
  have herase : s.waiting.erase ctx = [] := by
    rw [hwaiting, List.erase_cons_head]
  refine ⟨hn.follows_set hi, hn.launcher.set hi (Launching.of_step hne),
    Unique.set_of_none fun j t hj _ hs => hstop t (List.mem_of_getElem? hj) hs,
    hn.holder.set hi fun ⟨n, hh⟩ => absurd hh (not_holds rfl), fun ctx' hctx' => ?_,
      fun t ht hs => ?_,
    fun t ht hl ctx' hctx' => ?_, hn.owned, hn.stored, fun n hrun => ?_, fun t ht n hh => ?_,
    fun t ht hs n h' he => ?_⟩
  · rw [herase] at hctx'
    cases hctx'
  · refine ⟨herase, fun ctx' hctx' => ?_⟩
    rcases Config.mem_set ht with rfl | ht
    · rcases List.mem_cons.1 hctx' with he | hc
      · cases he
        exact hwg
      · cases hc
    · exact absurd hs (hstop t ht)
  · rcases Config.mem_set ht with rfl | ht
    · cases Launching.goStop_mem hne hctx'
    · exact hn.launches t ht hl ctx' hctx'
  · rcases hn.located n hrun with hst | ⟨t, ht, hh⟩
    · exact .inl hst
    · rcases Config.mem_of_set ⟨op, [⟨.done, ctx⟩], k ctx⟩ hi ht with rfl | ht
      · exact absurd hh (not_holds rfl)
      · exact .inr ⟨t, ht, hh⟩
  · rcases Config.mem_set ht with rfl | ht
    · exact absurd hh (not_holds rfl)
    · exact hn.holds t ht n hh
  · rcases Config.mem_set ht with rfl | ht
    · cases he
    · exact hn.reads t ht hs n h' he

/-- A goroutine has returned. Reference: `service/stop.go:23 stopLNClient`. -/
theorem wgDone {ctx : Nat} {k : Unit → NodeProg (Except String Unit)} (hn : OneNode s ts)
    (hi : ts[i]? = some ⟨op, h, .cmd (.wgDone ctx) k⟩) :
    OneNode { s with wg := s.wg.erase ctx } (ts.set i ⟨op, ⟨.wgDone ctx, ()⟩ :: h, k ()⟩) := by
  have hmem := List.mem_of_getElem? hi
  obtain ⟨-, hdone, hnot⟩ := hn.issues hi
  have h0 : handOver h = none := (hn.issues hi).empty nofun nofun
  have hgo : ∀ ctx', NodeCmd.wgDone ctx ≠ .goStop ctx' := nofun
  have hstopping : Stopping ⟨op, h, .cmd (.wgDone ctx) k⟩ := ⟨⟨ctx, hdone⟩, hnot⟩
  obtain ⟨hwaiting, hwg⟩ := hn.stops _ hmem hstopping
  have herase : s.wg.erase ctx = [] := by
    rw [hwg ctx hdone, List.erase_cons_head]
  have hself : ¬ Stopping ⟨op, ⟨.wgDone ctx, ()⟩ :: h, k ()⟩ := fun hs =>
    hs.2 _ List.mem_cons_self ctx rfl
  -- no other goroutine is on its way
  have hother : ∀ (j : Nat) t, ts[j]? = some t → j ≠ i → ¬ Stopping t := fun j t hj hne hs =>
    hne (hn.stopper j i _ _ hj hi hs hstopping)
  refine ⟨hn.follows_set hi, hn.launcher.set hi (Launching.of_step hgo), Unique.set_of_none hother,
    hn.holder.set hi fun ⟨n, hh⟩ => absurd hh (not_holds rfl), fun ctx' hctx' => ?_,
      fun t ht hs => ?_,
    fun t ht hl ctx' hctx' => ?_, fun ctx' hctx' => ?_, hn.stored, fun n hrun => ?_,
      fun t ht n hh => ?_,
    fun t ht hs n h' he => ?_⟩
  · rw [hwaiting] at hctx'
    cases hctx'
  · rcases mem_set_index ht with rfl | ⟨j, hne, hj⟩
    · exact absurd hs hself
    · exact absurd hs (hother j t hj hne)
  · refine ⟨fun ctx'' hc => ?_, ?_⟩
    · rw [herase] at hc
      cases hc
    · rcases Config.mem_set ht with rfl | ht
      · obtain ⟨-, hnone⟩ := hn.launches _ hmem (Launching.of_step hgo hl) ctx'
          (Launching.goStop_mem hgo hctx')
        exact fun hnot => hnone fun call hcall => hnot call (List.mem_cons_of_mem _ hcall)
      · exact (hn.launches t ht hl ctx' hctx').2
  · rw [herase] at hctx'
    cases hctx'
  · rcases hn.located n hrun with hst | ⟨t, ht, hh⟩
    · exact .inl hst
    · rcases Config.mem_of_set ⟨op, ⟨.wgDone ctx, ()⟩ :: h, k ()⟩ hi ht with rfl | ht
      · exact absurd hh (not_holds h0)
      · exact .inr ⟨t, ht, hh⟩
  · rcases Config.mem_set ht with rfl | ht
    · exact absurd hh (not_holds rfl)
    · exact hn.holds t ht n hh
  · rcases Config.mem_set ht with rfl | ht
    · cases he
    · exact hn.reads t ht hs n h' he

/-- The backend has created the client. Reference: `service/start.go:353 launchLNBackend`. -/
theorem created {lnBackend : String} {ctx id : Nat}
    {k : Except String LNClient → NodeProg (Except String Unit)} (hn : OneNode s ts)
    (hi : ts[i]? = some ⟨op, h, .cmd (.newService lnBackend ctx) k⟩) :
    OneNode { s with running := s.running ++ [⟨id, ctx⟩], nextClient := s.nextClient + 1 }
      (ts.set i ⟨op, ⟨.newService lnBackend ctx, .ok ⟨id, ctx⟩⟩ :: h, k (.ok ⟨id, ctx⟩)⟩) := by
  have hmem := List.mem_of_getElem? hi
  obtain ⟨-, hstarted, hnot⟩ := hn.issues hi
  have hgo : ∀ ctx', NodeCmd.newService lnBackend ctx ≠ .goStop ctx' := nofun
  have hdone : NodeCmd.newService lnBackend ctx ≠ .done := nofun
  have hlaunching : Launching ⟨op, h, .cmd (.newService lnBackend ctx) k⟩ := ⟨rfl, ctx, hstarted⟩
  obtain ⟨hown, hnone⟩ := hn.launches _ hmem hlaunching ctx hstarted
  obtain ⟨hclient, hrunning⟩ := hnone hnot
  have hholds : ∀ t ∈ ts, ∀ n, ¬ Holds t n := by
    intro t ht n hh
    have hone := (hn.holds t ht n hh).2.1
    rw [hrunning] at hone
    cases hone
  have hrun' : s.running ++ [⟨id, ctx⟩] = [⟨id, ctx⟩] := by rw [hrunning, List.nil_append]
  have hself : ∀ n,
      Holds ⟨op, ⟨.newService lnBackend ctx, .ok ⟨id, ctx⟩⟩ :: h, k (.ok ⟨id, ctx⟩)⟩ n →
      n = ⟨id, ctx⟩ := by
    rintro n (he | he)
    · cases he
      rfl
    · cases he
  refine ⟨hn.follows_set hi, hn.launcher.set hi (Launching.of_step hgo),
    hn.stopper.set hi (Stopping.of_step hdone),
    Unique.set_of_none fun j t hj _ ⟨n, hh⟩ => hholds t (List.mem_of_getElem? hj) n hh, hn.waits,
    hn.stops_set hi hdone, fun t ht hl ctx' hctx' => ?_, fun ctx' hctx' n hrun => ?_,
      fun n hst => ?_,
    fun n hrun => ?_, fun t ht n hh => ?_, fun t ht hs n h' he => ?_⟩
  · rcases mem_set_index ht with rfl | ⟨j, hji, hj⟩
    · refine ⟨(hn.launches _ hmem hlaunching ctx' (Launching.goStop_mem hgo hctx')).1,
        fun hnew => ?_⟩
      exact absurd rfl (hnew _ List.mem_cons_self lnBackend ctx)
    · exact absurd (hn.launcher j i _ _ hj hi hl hlaunching) hji
  · simp only [hrun', List.mem_singleton] at hrun
    rw [hrun]
    exact (hown ctx' hctx').symm
  · rw [hclient] at hst
    cases hst
  · simp only [hrun', List.mem_singleton] at hrun
    rw [hrun]
    exact .inr ⟨_, mem_set_self hi, .inl rfl⟩
  · rcases Config.mem_set ht with rfl | ht
    · rw [hself n hh]
      have hnext : (k (.ok ⟨id, ctx⟩)).done = false := hn.not_done hi fun he => by cases he
      exact ⟨hclient, hrun', .inl ⟨hnext, ctx, List.mem_cons_of_mem _ hstarted⟩⟩
    · exact absurd hh (hholds t ht n)
  · rcases Config.mem_set ht with rfl | ht
    · cases he
    · exact hn.reads t ht hs n h' he

/-- An attempt stores its client. Reference: `service/start.go:422 launchLNBackend`. -/
theorem put {lnClient : LNClient} {k : Unit → NodeProg (Except String Unit)} (hn : OneNode s ts)
    (hi : ts[i]? = some ⟨op, h, .cmd (.setLnClient (some lnClient)) k⟩) :
    OneNode { s with lnClient := some lnClient }
      (ts.set i ⟨op, ⟨.setLnClient (some lnClient), ()⟩ :: h, k ()⟩) := by
  have hmem := List.mem_of_getElem? hi
  have hold : handOver h = some (.setLnClient (some lnClient)) := (hn.issues hi).2
  have hgo : ∀ ctx', NodeCmd.setLnClient (some lnClient) ≠ .goStop ctx' := nofun
  have hdone : NodeCmd.setLnClient (some lnClient) ≠ .done := nofun
  obtain ⟨hclient, hrunning, -⟩ := hn.holds _ hmem lnClient (.inl hold)
  have hother : ∀ (j : Nat) t, ts[j]? = some t → j ≠ i → ∀ n, ¬ Holds t n := fun j t hj hne n hh =>
    hne (hn.holder j i _ _ hj hi ⟨n, hh⟩ ⟨lnClient, .inl hold⟩)
  refine ⟨hn.follows_set hi, hn.launcher.set hi (Launching.of_step hgo),
    hn.stopper.set hi (Stopping.of_step hdone),
    Unique.set_of_none fun j t hj hne ⟨n, hh⟩ => hother j t hj hne n hh, hn.waits,
      hn.stops_set hi hdone,
    fun t ht hl ctx' hctx' => ?_, hn.owned, fun n hst => ?_, fun n hrun => ?_, fun t ht n hh => ?_,
    fun t ht hs n h' he => ?_⟩
  · have hnonempty : ∀ t ∈ ts, Launching t → ∀ ctx, (⟨.goStop ctx, ()⟩ : NodeCall) ∈ t.hist →
        ¬ ∀ call ∈ t.hist, ∀ lnBackend ctx', call.cmd ≠ .newService lnBackend ctx' := by
      intro t ht hl ctx hctx hnot
      have hempty := ((hn.launches t ht hl ctx hctx).2 hnot).2
      rw [hrunning] at hempty
      cases hempty
    rcases Config.mem_set ht with rfl | ht
    · have hstarted := Launching.goStop_mem hgo hctx'
      refine ⟨(hn.launches _ hmem (Launching.of_step hgo hl) ctx' hstarted).1, fun hnot => ?_⟩
      refine absurd ?_ (hnonempty _ hmem (Launching.of_step hgo hl) ctx' hstarted)
      exact fun call hcall => hnot call (List.mem_cons_of_mem _ hcall)
    · exact ⟨(hn.launches t ht hl ctx' hctx').1,
        fun hnot => absurd hnot (hnonempty t ht hl ctx' hctx')⟩
  · rw [← Option.some.inj hst]
    exact hrunning
  · left
    rw [hrunning, List.mem_singleton] at hrun
    rw [hrun]
  · rcases mem_set_index ht with rfl | ⟨j, hji, hj⟩
    · exact absurd hh (not_holds rfl)
    · exact absurd hh (hother j t hj hji n)
  · rcases Config.mem_set ht with rfl | ht
    · cases he
    · have hread := hn.reads t ht hs n h' he
      rw [hclient] at hread
      cases hread

/-- A goroutine clears its client. Reference: `service/stop.go:30 stopLNClient`. -/
theorem clear {k : Unit → NodeProg (Except String Unit)} (hn : OneNode s ts)
    (hi : ts[i]? = some ⟨op, h, .cmd (.setLnClient none) k⟩) :
    OneNode { s with lnClient := none } (ts.set i ⟨op, ⟨.setLnClient none, ()⟩ :: h, k ()⟩) := by
  have hmem := List.mem_of_getElem? hi
  obtain ⟨-, hctx, hnot, n₀, h₀, rfl⟩ := hn.issues hi
  have hgo : ∀ ctx', NodeCmd.setLnClient none ≠ .goStop ctx' := nofun
  have hdone : NodeCmd.setLnClient none ≠ .done := nofun
  have hwg : ∀ ctx', NodeCmd.setLnClient none ≠ .wgDone ctx' := nofun
  have hstopping : Stopping ⟨op, ⟨.lnClient, some n₀⟩ :: h₀, .cmd (.setLnClient none) k⟩ :=
    ⟨hctx, hnot⟩
  have hclient := hn.reads _ hmem hstopping n₀ h₀ rfl
  have hrunning := hn.stored n₀ hclient
  have hholds : ∀ t ∈ ts, ∀ n, ¬ Holds t n := by
    intro t ht n hh
    have hempty := (hn.holds t ht n hh).1
    rw [hclient] at hempty
    cases hempty
  refine ⟨hn.follows_set hi, hn.launcher.set hi (Launching.of_step hgo),
    hn.stopper.set hi (Stopping.of_step hdone),
    Unique.set_of_none fun j t hj _ ⟨n, hh⟩ => hholds t (List.mem_of_getElem? hj) n hh, hn.waits,
    hn.stops_set hi hdone, fun t ht hl ctx' hctx' => ?_, hn.owned, nofun, fun n hrun => ?_,
    fun t ht n hh => ?_, fun t ht hs n h' he => ?_⟩
  · rcases Config.mem_set ht with rfl | ht
    · obtain ⟨hown, hnone⟩ := hn.launches _ hmem (Launching.of_step hgo hl) ctx'
        (Launching.goStop_mem hgo hctx')
      refine ⟨hown, fun hnew => ⟨rfl, ?_⟩⟩
      exact (hnone fun call hcall => hnew call (List.mem_cons_of_mem _ hcall)).2
    · exact ⟨(hn.launches t ht hl ctx' hctx').1, fun hnew =>
        ⟨rfl, ((hn.launches t ht hl ctx' hctx').2 hnew).2⟩⟩
  · rw [hrunning, List.mem_singleton] at hrun
    rw [hrun]
    exact .inr ⟨_, mem_set_self hi, .inr rfl⟩
  · rcases Config.mem_set ht with rfl | ht
    · rcases hh with he | he
      · cases he
      · cases he
        exact ⟨rfl, hrunning, .inr (Stopping.step hwg hstopping)⟩
    · exact absurd hh (hholds t ht n)
  · rcases mem_set_index ht with rfl | ⟨j, hji, hj⟩
    · cases he
    · exact absurd (hn.stopper j i _ _ hj hi hs hstopping) hji

/-- A client has been shut down. Reference: `service/stop.go:33 stopLNClient`. -/
theorem shutdown {lnClient : LNClient} {k : Except String Unit → NodeProg (Except String Unit)}
    (hn : OneNode s ts) (hi : ts[i]? = some ⟨op, h, .cmd (.shutdown lnClient) k⟩) :
    OneNode { s with running := s.running.erase lnClient }
      (ts.set i ⟨op, ⟨.shutdown lnClient, .ok ()⟩ :: h, k (.ok ())⟩) := by
  have hmem := List.mem_of_getElem? hi
  have hold : handOver h = some (.shutdown lnClient) := (hn.issues hi).2.1
  have hgo : ∀ ctx', NodeCmd.shutdown lnClient ≠ .goStop ctx' := nofun
  have hdone : NodeCmd.shutdown lnClient ≠ .done := nofun
  obtain ⟨hclient, hrunning, -⟩ := hn.holds _ hmem lnClient (.inr hold)
  have herase : s.running.erase lnClient = [] := by
    rw [hrunning, List.erase_cons_head]
  have hother : ∀ (j : Nat) t, ts[j]? = some t → j ≠ i → ∀ n, ¬ Holds t n := fun j t hj hne n hh =>
    hne (hn.holder j i _ _ hj hi ⟨n, hh⟩ ⟨lnClient, .inr hold⟩)
  refine ⟨hn.follows_set hi, hn.launcher.set hi (Launching.of_step hgo),
    hn.stopper.set hi (Stopping.of_step hdone),
    Unique.set_of_none fun j t hj hne ⟨n, hh⟩ => hother j t hj hne n hh, hn.waits,
      hn.stops_set hi hdone,
    fun t ht hl ctx' hctx' => ?_, fun ctx' hctx' n hrun => ?_, fun n hst => ?_, fun n hrun => ?_,
    fun t ht n hh => ?_, fun t ht hs n h' he => ?_⟩
  · rcases Config.mem_set ht with rfl | ht
    · refine ⟨(hn.launches _ hmem (Launching.of_step hgo hl) ctx'
        (Launching.goStop_mem hgo hctx')).1,
        fun _ => ⟨hclient, herase⟩⟩
    · exact ⟨(hn.launches t ht hl ctx' hctx').1, fun _ => ⟨hclient, herase⟩⟩
  · rw [herase] at hrun
    cases hrun
  · rw [hclient] at hst
    cases hst
  · rw [herase] at hrun
    cases hrun
  · rcases mem_set_index ht with rfl | ⟨j, hji, hj⟩
    · exact absurd hh (not_holds rfl)
    · exact absurd hh (hother j t hj hji n)
  · rcases Config.mem_set ht with rfl | ht
    · cases he
    · exact hn.reads t ht hs n h' he

/-- A new call keeps the invariant. Reference: none. -/
theorem spawn (hn : OneNode s ts) (op : NodeOp) : OneNode s (ts ++ [⟨op, [], nodeBody op⟩]) := by
  have hnew : ∀ t ∈ ts ++ [⟨op, [], nodeBody op⟩], t ∈ ts ∨ t = ⟨op, [], nodeBody op⟩ :=
    fun t ht => by
    rcases List.mem_append.1 ht with ht | ht
    · exact .inl ht
    · exact .inr (List.mem_singleton.1 ht)
  have hlaunch : ¬ Launching ⟨op, [], nodeBody op⟩ := fun ⟨_, ctx, hmem⟩ => nomatch hmem
  have hstop : ¬ Stopping ⟨op, [], nodeBody op⟩ := fun ⟨⟨ctx, hmem⟩, _⟩ => nomatch hmem
  have hhold : ∀ n, ¬ Holds ⟨op, [], nodeBody op⟩ n := fun n => not_holds rfl
  refine ⟨fun t ht => ?_, hn.launcher.append hlaunch, hn.stopper.append hstop,
    hn.holder.append fun ⟨n, hh⟩ => hhold n hh, hn.waits, fun t ht hs => ?_, fun t ht hl => ?_,
      hn.owned,
    hn.stored, fun n hrun => ?_, fun t ht n hh => ?_, fun t ht hs => ?_⟩
  · rcases hnew t ht with ht | rfl
    · exact hn.follows t ht
    · exact follows_nodeBody op
  · rcases hnew t ht with ht | rfl
    · exact hn.stops t ht hs
    · exact absurd hs hstop
  · rcases hnew t ht with ht | rfl
    · exact hn.launches t ht hl
    · exact absurd hl hlaunch
  · rcases hn.located n hrun with hst | ⟨t, ht, hh⟩
    · exact .inl hst
    · exact .inr ⟨t, List.mem_append_left _ ht, hh⟩
  · rcases hnew t ht with ht | rfl
    · exact hn.holds t ht n hh
    · exact absurd hh (hhold n)
  · rcases hnew t ht with ht | rfl
    · exact hn.reads t ht hs
    · exact absurd hs hstop

/-- A step that meets the condition keeps the invariant. Reference: `service/start.go`,
`service/stop.go`. -/
theorem step {cfg cfg' : NodePool} {l : NodeLabel} (hn : OneNode cfg.state cfg.threads)
    (ha : Undisturbed cfg l) (hs : cfg.step nodeExec nodeBody l = some cfg') :
    OneNode cfg'.state cfg'.threads := by
  cases l with
  | spawn op =>
    cases hs
    exact hn.spawn op
  | restart => exact ha.elim
  | run i env =>
    obtain ⟨op, h, c, k, r, s', hi, hx, rfl⟩ := Config.step_run hs
    obtain ⟨hgo, hshut⟩ := ha op h c k hi
    have hok := hn.issues hi
    -- the commands that leave the clients and the goroutines as they are
    have hplain : c.Plain → c ≠ .lnClient → s'.lnClient = cfg.state.lnClient →
        s'.running = cfg.state.running → s'.wg = cfg.state.wg → s'.waiting = cfg.state.waiting →
        OneNode s' (cfg.threads.set i ⟨op, ⟨c, r⟩ :: h, k r⟩) := by
      intro hc hread h₁ h₂ h₃ h₄
      refine hn.quiet hi h₁ h₂ h₃ h₄ (fun ctx he => ?_) (fun he => ?_) (hok.empty ?_ ?_)
        (handOver_plain hc) fun n h' he => ?_
      · rw [he] at hc
        exact hc
      · rw [he] at hc
        exact hc
      · intro n he
        rw [he] at hc
        exact hc
      · intro n he
        rw [he] at hc
        exact hc
      · cases he
        exact absurd rfl hread
    cases c with
    | lnClient =>
      cases hx
      refine hn.quiet hi rfl rfl rfl rfl nofun nofun (hok.empty nofun nofun) rfl fun n h' he => ?_
      exact eq_of_heq (Call.mk.inj (List.cons.inj he).1).2
    | goStop ctx =>
      cases hx
      obtain ⟨hwg, hclient, hno⟩ := hgo ctx rfl
      exact hn.goStop hi hwg hclient hno
    | done =>
      simp only [nodeExec] at hx
      split at hx
      · next hwait =>
        cases hx
        exact hn.done hi hwait.1
      · cases hx
    | wgDone ctx =>
      cases hx
      exact hn.wgDone hi
    | newService lnBackend ctx =>
      simp only [nodeExec] at hx
      split at hx
      · cases hx
        refine hn.quiet hi rfl rfl rfl rfl nofun nofun (hok.empty nofun nofun) rfl fun n h' he => ?_
        cases he
      · cases hx
        exact hn.created hi
    | setLnClient lnClient =>
      cases hx
      cases lnClient with
      | none => exact hn.clear hi
      | some lnClient => exact hn.put hi
    | shutdown lnClient =>
      simp only [nodeExec, hshut lnClient rfl] at hx
      cases hx
      exact hn.shutdown hi
    | wait =>
      simp only [nodeExec] at hx
      split at hx
      · cases hx
        exact hplain trivial nofun rfl rfl rfl rfl
      · cases hx
    | crash => cases hx
    | _ =>
      cases hx
      exact hplain trivial nofun rfl rfl rfl rfl

end OneNode

end

/-- Every state of a run that meets the condition keeps the invariant. Reference:
`service/start.go`, `service/stop.go`. -/
theorem OneNode.reach {cfg : NodePool} (hr : Reach nodeExec nodeBody FreshNode Undisturbed cfg) :
    OneNode cfg.state cfg.threads := by
  refine Reach.induction (P := fun cfg => OneNode cfg.state cfg.threads) ?_
    (fun cfg l cfg' _ hn ha hs => hn.step ha hs) hr
  rintro cfg ⟨hstate, hthreads⟩
  simp only [hstate, hthreads]
  exact ⟨nofun, nofun, nofun, nofun, nofun, nofun, nofun, nofun, nofun, nofun, nofun, nofun⟩

/-! ## The node -/

/-- The goroutine of an attempt touches the client of this attempt only. Reference:
`service/stop.go:30 stopLNClient`. -/
def StopsOwn (cfg : NodePool) : Prop :=
  ∀ t ∈ cfg.threads, ∀ ctx, (⟨.done, ctx⟩ : NodeCall) ∈ t.hist →
    (t.rest.next = some (.setLnClient none) → ∀ lnClient, cfg.state.lnClient = some lnClient →
      lnClient.ctx = ctx) ∧
    ∀ lnClient, t.rest.next = some (.shutdown lnClient) → lnClient.ctx = ctx

/-- No client runs while the hub has none. Reference: `service/start.go:273 StartApp`, `:332
launchLNBackend`. -/
def NilWhenNone (cfg : NodePool) : Prop := cfg.state.lnClient = none → cfg.state.running = []

/-- A goroutine about to touch the client has not returned. Reference: none. -/
theorem Stopping.of_next {t : NodeThread} {ctx : Nat} {c : NodeCmd}
    (hf : Follows NodeOk NodePost t.hist t.rest) (hdone : (⟨.done, ctx⟩ : NodeCall) ∈ t.hist)
    (hnext : t.rest.next = some c)
    (hc : NodeMay t.hist c → ∀ call ∈ t.hist, ∀ ctx, call.cmd ≠ .wgDone ctx) : Stopping t := by
  cases hrest : t.rest with
  | ret a =>
    rw [hrest] at hnext
    cases hnext
  | cmd c' k =>
    rw [hrest] at hnext hf
    cases hnext
    exact ⟨⟨ctx, hdone⟩, hc hf.1.2⟩

theorem handOver_of_next {t : NodeThread} {lnClient : LNClient}
    (hf : Follows NodeOk NodePost t.hist t.rest) (hnext : t.rest.next = some (.shutdown lnClient)) :
    handOver t.hist = some (.shutdown lnClient) := by
  cases hrest : t.rest with
  | ret a =>
    rw [hrest] at hnext
    cases hnext
  | cmd c k =>
    rw [hrest] at hnext hf
    cases hnext
    exact hf.1.2.1

/-- In a run that meets the condition at most one client runs, only the goroutine of its own attempt
clears it and shuts it down, and no client is set only when none runs, except while a call has the
client in hand. Reference: `service/start.go:259 StartApp`, `service/stop.go:19 stopLNClient`. -/
theorem one_node {cfg : NodePool} (hr : Reach nodeExec nodeBody FreshNode Undisturbed cfg) :
    cfg.state.running.length ≤ 1 ∧ StopsOwn cfg ∧
      (NilWhenNone cfg ↔ ∀ t ∈ cfg.threads, ∀ lnClient, ¬ Holds t lnClient) := by
  have hn := OneNode.reach hr
  refine ⟨?_, fun t ht ctx hdone => ⟨fun hnext n hclient => ?_, fun n hnext => ?_⟩,
    fun hnil t ht n hh => ?_,
    fun hno hclient => ?_⟩
  · cases hrun : cfg.state.running with
    | nil => exact Nat.zero_le 1
    | cons n rest =>
      have hone : cfg.state.running = [n] := by
        rcases hn.located n (by rw [hrun]; exact List.mem_cons_self) with hst | ⟨t, ht, hh⟩
        · exact hn.stored n hst
        · exact (hn.holds t ht n hh).2.1
      rw [← hrun, hone]
      exact Nat.le_refl 1
  · have hs := Stopping.of_next (hn.follows t ht) hdone hnext fun hmay => hmay.2.1
    have hwg := (hn.stops t ht hs).2 ctx hdone
    have hrun := hn.stored n hclient
    exact hn.owned ctx (by rw [hwg]; exact List.mem_cons_self) n
      (by rw [hrun]; exact List.mem_cons_self)
  · have hs := Stopping.of_next (hn.follows t ht) hdone hnext fun hmay => hmay.2
    have hwg := (hn.stops t ht hs).2 ctx hdone
    obtain ⟨-, hrun, -⟩ := hn.holds t ht n (.inr (handOver_of_next (hn.follows t ht) hnext))
    exact hn.owned ctx (by rw [hwg]; exact List.mem_cons_self) n
      (by rw [hrun]; exact List.mem_cons_self)
  · obtain ⟨hclient, hrun, -⟩ := hn.holds t ht n hh
    rw [hnil hclient] at hrun
    cases hrun
  · cases hrun : cfg.state.running with
    | nil => rfl
    | cons n rest =>
      rcases hn.located n (by rw [hrun]; exact List.mem_cons_self) with hst | ⟨t, ht, hh⟩
      · rw [hclient] at hst
        cases hst
      · exact absurd hh (hno t ht n)

/-- A command that starts no goroutine and shuts nothing down is always allowed. Reference: none. -/
theorem Undisturbed.of_other {cfg : NodePool} {i : Nat} {env : NodeEnv} {op : NodeOp}
    {h : List NodeCall} {c : NodeCmd} {k : c.Ans → NodeProg (Except String Unit)}
    (hi : cfg.threads[i]? = some ⟨op, h, .cmd c k⟩) (hgo : ∀ ctx, c ≠ .goStop ctx)
    (hshut : ∀ lnClient, c ≠ .shutdown lnClient) : Undisturbed cfg (.run i env) := by
  intro op' h' c' k' hi'
  rw [hi] at hi'
  cases hi'
  exact ⟨fun ctx he => absurd he (hgo ctx), fun n he => absurd he (hshut n)⟩

/-- The node is started once. Reference: `service/start.go:259 StartApp`. -/
theorem one_node_started : ∃ cfg : NodePool, cfg.state.running = [⟨0, 0⟩] ∧
    cfg.state.lnClient = some ⟨0, 0⟩ ∧ cfg.state.running.length ≤ 1 ∧ StopsOwn cfg ∧
      (NilWhenNone cfg ↔ ∀ t ∈ cfg.threads, ∀ lnClient, ¬ Holds t lnClient) := by
  have h0 : Reach nodeExec nodeBody FreshNode Undisturbed (⟨{}, []⟩ : NodePool) := .start ⟨rfl, rfl⟩
  have h1 := Reach.step (l := Label.spawn (NodeOp.startApp "123")) h0 trivial rfl
  -- the checks
  have h2 := h1.run (i := 0) (e := {}) rfl (.of_other rfl nofun nofun) rfl
  have h3 := h2.run (i := 0) (e := {}) rfl (.of_other rfl nofun nofun) rfl
  have h4 := h3.run (i := 0) (e := {}) rfl (.of_other rfl nofun nofun) rfl
  have h5 := h4.run (i := 0) (e := {}) rfl (.of_other rfl nofun nofun) rfl
  have h6 := h5.run (i := 0) (e := {}) rfl (.of_other rfl nofun nofun) rfl
  have h7 := h6.run (i := 0) (e := {}) rfl (.of_other rfl nofun nofun) rfl
  -- the context, the second check and the goroutine
  have h8 := h7.run (i := 0) (e := {}) rfl (.of_other rfl nofun nofun) rfl
  have h9 := h8.run (i := 0) (e := {}) rfl (.of_other rfl nofun nofun) rfl
  have h10 := h9.run (i := 0) (e := {}) rfl (fun op h c k hi => by
    cases hi
    refine ⟨fun _ _ => ⟨rfl, rfl, fun j t hj hne => ?_⟩, nofun⟩
    have hlt := (List.getElem?_eq_some_iff.1 hj).1
    simp only [List.length_set, List.length_append, List.length_cons, List.length_nil] at hlt
    omega) rfl
  -- the backend and the client
  have h11 := h10.run (i := 0) (e := { text := "LND" }) rfl (.of_other rfl nofun nofun) rfl
  have h12 := h11.run (i := 0) (e := {}) rfl (.of_other rfl nofun nofun) rfl
  have h13 := h12.run (i := 0) (e := {}) rfl (.of_other rfl nofun nofun) rfl
  exact ⟨_, rfl, rfl, one_node h13⟩

/-- Some steps of a call in which nothing fails. Reference: none. -/
def turns (i n : Nat) : List NodeLabel := List.replicate n (.run i {})

/-- `StartApp` under the lock, up to the answer of the backend. Reference: `service/start.go:259
StartApp`. -/
def startTurns (i : Nat) : List NodeLabel := turns i 10 ++ [.run i { text := "LND" }]

/-- A call that starts the node, its goroutine, and another one that starts the node. Reference:
`api/api.go:1737 startInternal`. -/
def threeCalls : List NodeLabel :=
  [.spawn (.start "123"), .spawn .stopGoroutine, .spawn (.start "123")]

/-- The context that a goroutine waited for. Reference: `service/start.go:340 launchLNBackend`. -/
def doneCtx : NodeCall → Option Nat
  | ⟨.done, ctx⟩ => some ctx
  | _ => none

theorem doneCtx_eq_some {call : NodeCall} {ctx : Nat} (h : doneCtx call = some ctx) :
    call = ⟨.done, ctx⟩ := by
  unfold doneCtx at h
  split at h
  · cases h
    rfl
  · cases h

/-- The relay connection of an attempt fails after the client was created; its goroutine clears the
client and is still shutting it down when the next attempt creates another one, and two clients run
at once. The backend of an attempt cannot be reached; its goroutine gets its turn only after the
next attempt has started the node, whose client it is about to clear. Reference:
`service/start.go:259 StartApp`, `service/stop.go:19 stopLNClient`. -/
theorem two_nodes :
    (∃ cfg, Reach nodeExec nodeBody FreshNode (fun _ _ => True) cfg ∧
      cfg.state.running.length = 2) ∧
    ∃ cfg, Reach nodeExec nodeBody FreshNode (fun _ _ => True) cfg ∧ ¬ StopsOwn cfg := by
  have h0 : Reach nodeExec nodeBody FreshNode (fun _ _ => True) (⟨{}, []⟩ : NodePool) :=
    .start ⟨rfl, rfl⟩
  constructor
  · have hlook : ((⟨{}, []⟩ : NodePool).run nodeExec nodeBody
        (threeCalls ++ startTurns 0 ++ turns 0 2 ++
        [.run 0 { fault := some "No relay URLs found" }] ++ turns 0 2 ++ turns 1 5 ++
          startTurns 2 ++
        turns 2 5)).map (·.state.running.length) = some 2 := by decide +kernel
    obtain ⟨cfg, hafter, hcfg⟩ := Option.map_eq_some_iff.1 hlook
    exact ⟨cfg, h0.of_run (by decide +kernel) hafter, hcfg⟩
  · have hlook : ((⟨{}, []⟩ : NodePool).run nodeExec nodeBody (threeCalls ++ startTurns 0 ++
        [.run 0 { fault := some "connection refused" }] ++ turns 0 2 ++ startTurns 2 ++ turns 2 5 ++
        turns 1 4)).map (fun cfg => (cfg.state.lnClient,
          (cfg.threads[1]?).map fun t => (t.hist.filterMap doneCtx, t.rest.next))) =
        some (some ⟨0, 1⟩, some ([0], some (.setLnClient none))) := by decide +kernel
    obtain ⟨cfg, hafter, hcfg⟩ := Option.map_eq_some_iff.1 hlook
    obtain ⟨hclient, hthread⟩ := Prod.mk.inj hcfg
    obtain ⟨t, ht, hlast⟩ := Option.map_eq_some_iff.1 hthread
    obtain ⟨hdone, hnext⟩ := Prod.mk.inj hlast
    refine ⟨cfg, h0.of_run (by decide +kernel) hafter, fun hstops => ?_⟩
    have hmem : 0 ∈ t.hist.filterMap doneCtx := by
      rw [hdone]
      exact List.mem_cons_self
    obtain ⟨call, hcall, hctx⟩ := List.mem_filterMap.1 hmem
    rw [doneCtx_eq_some hctx] at hcall
    have hown := (hstops t (List.mem_of_getElem? ht) 0 hcall).1 hnext ⟨0, 1⟩ hclient
    cases hown

end AlbyHub.Node
