import AlbyHub.Interaction.Solo
import AlbyHub.Nip47.NoCrash
import AlbyHub.Nip47.RequestEvents

/-!
# A request is dispatched at most once

An event is dispatched at most once in every run where its row outlives what it protects: when a
call stores an event that was dispatched before, or whose handler is running, the event has expired
(`Unforgotten`, `dispatched_once`). The cleanup keeps the latest 1000 rows only, so that 1100 later
events, from anybody, make room for a replay of a payment (`replayed_after_cleanup`).
-/

namespace AlbyHub.RequestEvents

open Go Interaction Panicking EventHandler

/-- The event was dispatched, or a call that has stored it runs. Reference: none. -/
def RequestHub.Handled (s : RequestHub) (ts : List RequestThread) (nostrId : String) : Prop :=
  nostrId ∈ s.dispatched ∨ ∃ t ∈ ts, t.rest.done = false ∧ Stored t.hist nostrId

/-- A delivery of an event that was handled finds the row of the earlier one, or the event has
expired. Reference: `nip47/event_handler.go:58 HandleEvent`, `service/service.go:287
removeExcessEvents`. -/
def Unforgotten (L : Library) (cfg : RequestPool) : RequestLabel → Prop
  | .run i env => ∀ t ∈ cfg.threads[i]?, ∀ lnClientStarted event,
    t.op = .handleEvent lnClientStarted event →
    t.rest.next = some (some (.event (.createRequestEvent event.id))) →
    cfg.state.Handled cfg.threads event.id →
    cfg.state.Has event.id ∨ Expired L event (cfg.state.clock + env.elapsed)
  | _ => True

/-- The call may still dispatch the event. Reference: none. -/
structure Live (L : Library) (now : Time) (nostrId : String) (t : RequestThread) : Prop where
  running : t.rest.done = false
  undispatched : ¬ Dispatched t.hist
  stored : Stored t.hist nostrId
  current : ∃ lnClientStarted event, t.op = .handleEvent lnClientStarted event ∧
    event.id = nostrId ∧ (¬ Expired L event now ∨ Current L event t.hist)

/-- What holds while no row is forgotten. Reference: none. -/
structure OnceEach (L : Library) (s : RequestHub) (ts : List RequestThread) : Prop where
  follows : ∀ t ∈ ts, Follows (RequestOk L t.op) (fun _ _ => True) t.hist t.rest
  nodup : s.dispatched.Nodup
  one : ∀ nostrId, Unique (Live L s.clock nostrId) ts
  spent : ∀ nostrId ∈ s.dispatched, ∀ t ∈ ts, ¬ Live L s.clock nostrId t

/-! ## The statements -/

section
variable {s s' : RequestHub} {env : RequestEnv}

theorem execEvent_keeps (c : EventCmd) : (execEvent s env c).2.clock = s.clock ∧
    (execEvent s env c).2.dispatched = s.dispatched := by
  cases c with
  | createRequestEvent nostrId =>
    simp only [execEvent]
    split
    · exact ⟨rfl, rfl⟩
    · unfold RequestHub.createRequestEvent
      split
      · exact ⟨rfl, rfl⟩
      · exact ⟨rfl, rfl⟩
  | firstApp appPubkey =>
    simp only [execEvent]
    split
    · exact ⟨rfl, rfl⟩
    · exact ⟨rfl, rfl⟩
    · exact ⟨rfl, rfl⟩
  | updateRequestApp requestEventId appId =>
    simp only [execEvent]
    split
    · exact ⟨rfl, rfl⟩
    · unfold RequestHub.updateRequestApp
      split
      · exact ⟨rfl, rfl⟩
      · exact ⟨rfl, rfl⟩
  | service c => cases c <;> exact ⟨rfl, rfl⟩
  | _ => exact ⟨rfl, rfl⟩

theorem execCmd_clock (c : RequestCmd) : (execCmd s env c).2.clock = s.clock := by
  cases c with
  | event c => exact (execEvent_keeps c).1
  | dispatch nostrId => rfl
  | createApp app =>
    simp only [execCmd]
    split
    · rfl
    · unfold RequestHub.createApp
      split <;> rfl
  | _ => simp only [execCmd]; split <;> rfl

theorem execCmd_dispatched {c : RequestCmd} (hc : ∀ nostrId, c ≠ .dispatch nostrId) :
    (execCmd s env c).2.dispatched = s.dispatched := by
  cases c with
  | event c => exact (execEvent_keeps c).2
  | dispatch nostrId => exact absurd rfl (hc nostrId)
  | createApp app =>
    simp only [execCmd]
    split
    · rfl
    · unfold RequestHub.createApp
      split <;> rfl
  | _ => simp only [execCmd]; split <;> rfl

/-- A row is created only where there is none. Reference: `nip47/event_handler.go:58 HandleEvent`.
-/
theorem not_has_of_created {nostrId : String} {id : Nat}
    (hx : execEvent s env (.createRequestEvent nostrId) = (.ok id, s')) : ¬ s.Has nostrId := by
  intro hhas
  simp only [execEvent] at hx
  split at hx
  · cases hx
  · unfold RequestHub.createRequestEvent at hx
    rw [if_pos hhas] at hx
    cases hx

theorem requestExec_clock {c : RequestCmd} {r : c.Ans}
    (hx : requestExec s (some c) env = some (r, s')) : s'.clock = s.clock + env.elapsed := by
  obtain ⟨rfl, rfl⟩ := Prod.mk.inj (Option.some.inj hx)
  exact execCmd_clock c

theorem requestExec_dispatched {c : RequestCmd} {r : c.Ans} (hc : ∀ nostrId, c ≠ .dispatch nostrId)
    (hx : requestExec s (some c) env = some (r, s')) : s'.dispatched = s.dispatched := by
  obtain ⟨rfl, rfl⟩ := Prod.mk.inj (Option.some.inj hx)
  exact execCmd_dispatched hc

/-! ## The calls that may still dispatch -/

variable {L : Library} {ts : List RequestThread} {t : RequestThread} {op : RequestOp}
variable {h : List RequestCall} {event : NostrEvent} {nostrId : String} {now now' : Time} {i : Nat}

/-- A call that may dispatch could do so before. Reference: none. -/
theorem Live.mono (hl : Live L now' nostrId t) (hle : now ≤ now') : Live L now nostrId t where
  running := hl.running
  undispatched := hl.undispatched
  stored := hl.stored
  current := by
    obtain ⟨lnClientStarted, event, hop, hid, hcurrent⟩ := hl.current
    refine ⟨lnClientStarted, event, hop, hid, hcurrent.imp_left fun hfresh hexpired => ?_⟩
    exact hfresh (hexpired.mono hle)

theorem Live.handled (hl : Live L now nostrId t) (ht : t ∈ ts) : s.Handled ts nostrId :=
  .inr ⟨t, ht, hl.running, hl.stored⟩

theorem stored_cons {c : RequestCmd} {r : c.Ans}
    (hc : c ≠ .event (.createRequestEvent nostrId))
    (hs : Stored ((⟨some c, r⟩ : RequestCall) :: h) nostrId) : Stored h nostrId := by
  obtain ⟨id, hmem⟩ := hs
  rcases List.mem_cons.1 hmem with he | hmem
  · exact absurd (Option.some.inj (congrArg Call.cmd he)).symm hc
  · exact ⟨id, hmem⟩

/-- A call that may dispatch after a step could do so before, unless the step stored the event.
Reference: none. -/
theorem Live.of_step {c : RequestCmd} {r : c.Ans} {k : c.Ans → RequestProg Unit}
    (hx : requestExec s (some c) env = some (r, s'))
    (hc : c ≠ .event (.createRequestEvent nostrId))
    (hl : Live L s'.clock nostrId ⟨op, ⟨some c, r⟩ :: h, k r⟩) :
    Live L s.clock nostrId ⟨op, h, .cmd (some c) k⟩ where
  running := rfl
  undispatched hd := hl.undispatched (hd.imp fun _ hcall =>
    ⟨List.mem_cons_of_mem _ hcall.1, hcall.2⟩)
  stored := stored_cons hc hl.stored
  current := by
    have hle : s.clock ≤ s'.clock := by
      rw [requestExec_clock hx]
      exact Int.le_add_of_nonneg_right (Int.natCast_nonneg _)
    obtain ⟨lnClientStarted, event, hop, hid, hcurrent⟩ := hl.current
    refine ⟨lnClientStarted, event, hop, hid, ?_⟩
    rcases hcurrent with hfresh | ⟨now, hnow, hfresh⟩
    · exact .inl fun hexpired => hfresh (hexpired.mono hle)
    · rcases List.mem_cons.1 hnow with he | hnow
      · -- the clock was looked at in this step
        cases he
        obtain ⟨rfl, rfl⟩ := Prod.mk.inj (Option.some.inj hx)
        exact .inl fun hexpired => hfresh (hexpired.mono hle)
      · exact .inr ⟨now, hnow, hfresh⟩

/-! ## The steps -/

/-- A step that dispatches nothing keeps the invariant where its call may dispatch afterwards only
what it could before, or what was not handled. Reference: none. -/
theorem OnceEach.set {t' : RequestThread} (ho : OnceEach L s ts) (hi : ts[i]? = some t)
    (hle : s.clock ≤ s'.clock) (hsame : s'.dispatched = s.dispatched)
    (hfollows : Follows (RequestOk L t'.op) (fun _ _ => True) t'.hist t'.rest)
    (hnew : ∀ nostrId, Live L s'.clock nostrId t' →
      Live L s.clock nostrId t ∨ ¬ s.Handled ts nostrId) : OnceEach L s' (ts.set i t') where
  follows u hu := by
    rcases Config.mem_set hu with rfl | hu
    · exact hfollows
    · exact ho.follows u hu
  nodup := hsame ▸ ho.nodup
  one nostrId := by
    have hold : Unique (Live L s'.clock nostrId) ts :=
      (ho.one nostrId).imp fun _ hl => hl.mono hle
    by_cases hl : Live L s'.clock nostrId t'
    · rcases hnew nostrId hl with hbefore | hnot
      · exact Unique.set_of_none fun j u hj hne hu =>
          hne (ho.one nostrId j i u t hj hi (hu.mono hle) hbefore)
      · exact Unique.set_of_none fun j u hj _ hu =>
          hnot ((hu.mono hle).handled (List.mem_of_getElem? hj))
    · exact hold.set hi fun h => absurd h hl
  spent nostrId hmem u hu := by
    rw [hsame] at hmem
    intro hl
    rcases Config.mem_set hu with rfl | hu
    · rcases hnew nostrId hl with hbefore | hnot
      · exact ho.spent nostrId hmem t (List.mem_of_getElem? hi) hbefore
      · exact hnot (.inl hmem)
    · exact ho.spent nostrId hmem u hu (hl.mono hle)

/-- A call that stores its event, where it was not handled. Reference: `nip47/event_handler.go:58
HandleEvent`. -/
theorem live_created {r : Except Err Nat} {k : Except Err Nat → RequestProg Unit}
    {lnClientStarted : Bool} (hop : op = .handleEvent lnClientStarted event)
    (hkept : s.Handled ts event.id → s.Has event.id ∨ Expired L event (s.clock + env.elapsed))
    (hx : requestExec s (some (.event (.createRequestEvent event.id))) env = some (r, s'))
    (hl : Live L s'.clock nostrId
      ⟨op, [⟨some (.event (.createRequestEvent event.id)), r⟩], k r⟩) : ¬ s.Handled ts nostrId := by
  obtain ⟨id, hmem⟩ := hl.stored
  have hmem := List.mem_singleton.1 hmem
  cases hmem
  intro hhandled
  rcases hkept hhandled with hhas | hexpired
  · exact not_has_of_created (Option.some.inj hx) hhas
  · obtain ⟨_, event', hop', -, hcurrent⟩ := hl.current
    obtain ⟨-, rfl⟩ := RequestOp.handleEvent.inj (hop.symm.trans hop')
    rcases hcurrent with hfresh | ⟨now, hnow, -⟩
    · exact hfresh (requestExec_clock hx ▸ hexpired)
    · cases List.mem_singleton.1 hnow

/-- A call dispatches its event. Reference: `nip47/event_handler.go:395 HandleEvent`. -/
theorem OnceEach.dispatch {r : Unit} {k : Unit → RequestProg Unit} (ho : OnceEach L s ts)
    (hi : ts[i]? = some ⟨op, h, .cmd (some (.dispatch nostrId)) k⟩)
    (hx : requestExec s (some (.dispatch nostrId)) env = some (r, s')) :
    OnceEach L s' (ts.set i ⟨op, ⟨some (.dispatch nostrId), r⟩ :: h, k r⟩) := by
  have hle : s.clock ≤ s'.clock := by
    rw [requestExec_clock hx]
    exact Int.le_add_of_nonneg_right (Int.natCast_nonneg _)
  have hfollows := ho.follows _ (List.mem_of_getElem? hi)
  obtain ⟨hn, lnClientStarted, event, hop, rfl, hstored, hcurrent⟩ := hfollows.1
  have hlive : Live L s.clock event.id ⟨op, h, .cmd (some (.dispatch event.id)) k⟩ :=
    ⟨rfl, hn, hstored, lnClientStarted, event, hop, rfl, .inr hcurrent⟩
  have hspent : ∀ nostrId, ¬ Live L s'.clock nostrId
      ⟨op, ⟨some (.dispatch event.id), r⟩ :: h, k r⟩ :=
    fun _ hl => hl.undispatched ⟨_, List.mem_cons_self, _, rfl⟩
  obtain ⟨-, rfl⟩ := Prod.mk.inj (Option.some.inj hx)
  refine ⟨fun u hu => ?_, ?_, fun nostrId => ?_, fun nostrId hmem u hu hl => ?_⟩
  · rcases Config.mem_set hu with rfl | hu
    · exact hfollows.2 r
    · exact ho.follows u hu
  · have hnot : event.id ∉ s.dispatched :=
      fun hmem => ho.spent _ hmem _ (List.mem_of_getElem? hi) hlive
    exact List.nodup_cons.2 ⟨hnot, ho.nodup⟩
  · have hold : Unique (Live L _ nostrId) ts := (ho.one nostrId).imp fun _ hl => hl.mono hle
    exact hold.set hi fun hl => absurd hl (hspent nostrId)
  · rcases mem_set_index hu with rfl | ⟨j, hne, hj⟩
    · exact hspent nostrId hl
    · rcases List.mem_cons.1 hmem with rfl | hmem
      · exact hne (ho.one _ j i u _ hj hi (hl.mono hle) hlive)
      · exact ho.spent nostrId hmem u (List.mem_of_getElem? hj) (hl.mono hle)

/-- A statement of a call. Reference: `nip47/event_handler.go:26 HandleEvent`. -/
theorem OnceEach.run {c : RequestCmd} {r : c.Ans} {k : c.Ans → RequestProg Unit}
    (ho : OnceEach L s ts) (hi : ts[i]? = some ⟨op, h, .cmd (some c) k⟩)
    (hkept : ∀ lnClientStarted event, op = .handleEvent lnClientStarted event →
      c = .event (.createRequestEvent event.id) → s.Handled ts event.id →
      s.Has event.id ∨ Expired L event (s.clock + env.elapsed))
    (hx : requestExec s (some c) env = some (r, s')) :
    OnceEach L s' (ts.set i ⟨op, ⟨some c, r⟩ :: h, k r⟩) := by
  have hle : s.clock ≤ s'.clock := by
    rw [requestExec_clock hx]
    exact Int.le_add_of_nonneg_right (Int.natCast_nonneg _)
  have hfollows := ho.follows _ (List.mem_of_getElem? hi)
  by_cases hd : ∃ nostrId, c = .dispatch nostrId
  · obtain ⟨nostrId, rfl⟩ := hd
    exact ho.dispatch hi hx
  · have hsame := requestExec_dispatched (fun nostrId he => hd ⟨nostrId, he⟩) hx
    refine ho.set hi hle hsame (hfollows.2 r) fun nostrId hl => ?_
    by_cases hc : ∃ nostrId, c = .event (.createRequestEvent nostrId)
    · obtain ⟨nostrId', rfl⟩ := hc
      obtain ⟨rfl, lnClientStarted, event, hop, rfl⟩ := hfollows.1
      exact .inr (live_created hop (hkept _ _ hop rfl) hx hl)
    · exact .inl (hl.of_step hx fun he => hc ⟨_, he⟩)

theorem not_live_nil {p : RequestProg Unit} : ¬ Live L now nostrId ⟨op, [], p⟩ := by
  intro hl
  obtain ⟨_, hmem⟩ := hl.stored
  cases hmem

/-- An allowed step keeps the invariant. Reference: none. -/
theorem OnceEach.step {cfg cfg' : RequestPool} {l : RequestLabel}
    (ho : OnceEach L cfg.state cfg.threads) (ha : Unforgotten L cfg l)
    (hs : cfg.step requestExec (requestBody L) l = some cfg') :
    OnceEach L cfg'.state cfg'.threads := by
  cases l with
  | spawn op =>
    cases hs
    refine ⟨fun t ht => ?_, ho.nodup, fun nostrId => (ho.one nostrId).append not_live_nil,
      fun nostrId hmem t ht hl => ?_⟩
    · rcases List.mem_append.1 ht with ht | ht
      · exact ho.follows t ht
      · rw [List.mem_singleton.1 ht]
        exact follows_requestBody op
    · rcases List.mem_append.1 ht with ht | ht
      · exact ho.spent nostrId hmem t ht hl
      · rw [List.mem_singleton.1 ht] at hl
        exact not_live_nil hl
  | run i env =>
    obtain ⟨op, h, c, k, r, s, hi, hx, rfl⟩ := Config.step_run hs
    cases c with
    | none => cases hx
    | some c =>
      refine ho.run hi (fun lnClientStarted event hop hc => ?_) hx
      exact ha _ hi lnClientStarted event hop (congrArg (fun c => some (some c)) hc)
  | restart =>
    cases hs
    exact ⟨fun t ht => ho.follows t (List.mem_filter.1 ht).1, ho.nodup,
      fun nostrId => (ho.one nostrId).filter _,
      fun nostrId hmem t ht => ho.spent nostrId hmem t (List.mem_filter.1 ht).1⟩

end

/-- In every run where no row is forgotten while its event can still be handled, each event is
dispatched at most once. Reference: `nip47/event_handler.go:26 HandleEvent`. -/
theorem dispatched_once (L : Library) (cfg : RequestPool) (h : RequestRun L (Unforgotten L) cfg) :
    cfg.state.dispatched.Nodup := by
  refine (Reach.induction (P := fun cfg => OnceEach L cfg.state cfg.threads) ?_ ?_ h).nodup
  · rintro cfg ⟨hnone, hnil⟩
    refine ⟨fun t ht => ?_, ?_, fun nostrId i j t t' hi => ?_, fun nostrId hmem => ?_⟩
    · rw [hnil] at ht
      cases ht
    · rw [hnone]
      exact List.nodup_nil
    · rw [hnil] at hi
      cases hi
    · rw [hnone] at hmem
      cases hmem
  · exact fun _ _ _ _ ho ha hs => ho.step ha hs

/-- Every text is a request to pay. Reference: none. -/
def payingLibrary : Library :=
  { demoLibrary with unmarshalRequest := fun _ => .ok ⟨"pay_keysend", ""⟩ }

/-- The app 1 may pay. Reference: none. -/
def payingAnswer : (c : EventCmd) → c.Ans
  | .turn => { now := 0, permissions := [{ appId := 1, scope := "pay_invoice" }] }
  | c => demoAnswer c

/-- A database that does not fail. Reference: none. -/
def payingEnv : RequestEnv := ⟨0, none, payingAnswer⟩

/-- A request that an app has signed. Reference: none. -/
def payment : NostrEvent :=
  { id := "payment", pubKey := "alice", createdAt := 0, kind := 23194, tags := [], content := "" }

/-- Requests that no app has signed. Reference: none. -/
def stranger (n : Nat) : NostrEvent :=
  { payment with id := String.ofList (List.replicate (n + 8) 'x'), pubKey := "mallory" }

/-- The hub of one app. Reference: none. -/
def oneApp : RequestHub where
  requestEvents := []
  requestSeq := 0
  apps := [{ id := 1, name := "alice", isolated := false, appPubkey := "alice" }]
  appSeq := 1
  clock := 0

/-- The tables after the payment. Reference: none. -/
def RequestHub.paid (s : RequestHub) : RequestHub :=
  let stored : RequestEvent := { id := s.requestSeq + 1, nostrId := payment.id }
  { s with
    requestEvents := (s.requestEvents ++ [stored]).map fun row =>
      if row.id = stored.id then { row with appId := some 1 } else row
    requestSeq := s.requestSeq + 1
    dispatched := payment.id :: s.dispatched }

/-- The tables after the payment and `n` requests of others. Reference: none. -/
def flooded (n : Nat) : RequestHub :=
  { oneApp with
    requestEvents := { id := 1, nostrId := payment.id, appId := some 1 } ::
      (List.range n).map fun i => { id := i + 2, nostrId := (stranger i).id }
    requestSeq := n + 1
    dispatched := [payment.id] }

theorem runs_paying {s s₁ s' : RequestHub} {c : RequestCmd} {r : c.Ans}
    {k : c.Ans → RequestProg Unit} (hx : execCmd s payingEnv c = (r, s₁))
    (hk : (k r).Runs requestExec s₁ () s') :
    Prog.Runs requestExec (Prog.cmd (some c) k : RequestProg Unit) s () s' := by
  refine ⟨payingEnv, r, s₁, ?_, hk⟩
  have hclock : s.clock + (payingEnv.elapsed : Int) = s.clock := Int.add_zero _
  have hsame : execCmd { s with clock := s.clock + payingEnv.elapsed } payingEnv c =
      execCmd s payingEnv c :=
    congrArg (fun clock => execCmd { s with clock } payingEnv c) hclock
  exact congrArg some (hsame.trans hx)

theorem runs_payment {s : RequestHub} (hclock : s.clock = 0) (happs : s.apps = oneApp.apps)
    (hnot : ¬ s.Has payment.id) :
    (requestBody payingLibrary (.handleEvent true payment)).Runs requestExec s () s.paid := by
  obtain ⟨rows, seq, apps, appSeq, clock, dispatched⟩ := s
  simp only at hclock happs
  subst hclock happs
  refine runs_paying (if_neg hnot) ?_
  refine runs_paying (c := .event (.firstApp "alice")) rfl ?_
  refine runs_paying (c := .event (.service .now)) rfl ?_
  refine runs_paying (c := .event (.updateLastUsedAt 1 0)) rfl ?_
  refine runs_paying (c := .event (.updateRequestApp (seq + 1) 1)) (if_neg ?_) ?_
  · simp [oneApp]
  refine runs_paying (c := .event (.updateRequestContent (seq + 1) "pay_keysend" "")) rfl ?_
  refine runs_paying (c := .event (.service .now)) rfl ?_
  have hfresh : isStale 0 payment "pay_invoice" = false := rfl
  simp only [Prog.bind, hfresh, Bool.false_eq_true, if_false]
  refine runs_paying (c := .event .turn) rfl ?_
  refine runs_paying (c := .dispatch payment.id) rfl ?_
  exact ⟨rfl, rfl⟩

/-- The event that the call stores next. Reference: `nip47/event_handler.go:58 HandleEvent`. -/
def storesNext (t : RequestThread) : Option String :=
  match t.rest.next with
  | some (some (.event (.createRequestEvent nostrId))) => some nostrId
  | _ => none

/-- An event is stored where it has its row, or was not dispatched and no call that has done
something runs. Reference: none. -/
def Retained (cfg : RequestPool) : RequestLabel → Prop
  | .run i _ => ∀ t ∈ cfg.threads[i]?, ∀ nostrId ∈ storesNext t, cfg.state.Has nostrId ∨
    nostrId ∉ cfg.state.dispatched ∧ ∀ u ∈ cfg.threads, u.rest.done = true ∨ u.hist = []
  | _ => True

instance (cfg : RequestPool) (l : RequestLabel) : Decidable (Retained cfg l) := by
  induction l using Label.casesOn with
  | run i env => exact inferInstanceAs (Decidable (∀ t ∈ cfg.threads[i]?, _))
  | spawn op => exact isTrue trivial
  | restart => exact isTrue trivial

theorem Retained.unforgotten {L : Library} {cfg : RequestPool} {l : RequestLabel}
    (h : Retained cfg l) : Unforgotten L cfg l := by
  cases l with
  | run i env =>
    intro t ht lnClientStarted event _ hnext hhandled
    have hstores : event.id ∈ storesNext t := by simp [storesNext, hnext]
    rcases h t ht event.id hstores with hhas | ⟨hnot, hrest⟩
    · exact .inl hhas
    · rcases hhandled with hmem | ⟨u, hu, hrunning, hstored⟩
      · exact absurd hmem hnot
      · rcases hrest u hu with hdone | hnil
        · rw [hdone] at hrunning
          cases hrunning
        · rw [hnil] at hstored
          obtain ⟨_, hmem⟩ := hstored
          cases hmem
  | spawn op => trivial
  | restart => trivial

/-- The event is delivered, and once more after it was dispatched. Reference: none. -/
def redelivery : List RequestLabel :=
  .spawn (.handleEvent true payment) :: List.replicate 9 (.run 0 payingEnv) ++
    [.spawn (.handleEvent true payment), .run 1 payingEnv]

theorem redelivered_once : ∃ cfg, Config.run requestExec (requestBody payingLibrary) ⟨oneApp, []⟩
      redelivery = some cfg ∧
    cfg.threads.map (·.rest.done) = [true, true] ∧ cfg.state.dispatched = [payment.id] ∧
    cfg.state.dispatched.Nodup := by
  have hlook : (Config.run requestExec (requestBody payingLibrary) ⟨oneApp, []⟩ redelivery).map
      (fun cfg => (cfg.threads.map (·.rest.done), cfg.state.dispatched)) =
      some ([true, true], [payment.id]) := by decide +kernel
  obtain ⟨cfg, hrun, hcfg⟩ := Option.map_eq_some_iff.1 hlook
  simp only [Prod.mk.injEq] at hcfg
  have hreach : RequestRun payingLibrary Retained cfg :=
    Reach.of_run (.start ⟨rfl, rfl⟩) (by decide +kernel) hrun
  exact ⟨cfg, hrun, hcfg.1, hcfg.2,
    dispatched_once payingLibrary cfg (hreach.imp fun _ _ hl => hl.unforgotten)⟩

theorem stranger_id_inj {m n : Nat} (h : (stranger m).id = (stranger n).id) : m = n := by
  have hsize := congrArg String.utf8ByteSize h
  simp only [stranger, utf8ByteSize_ofList_replicate] at hsize
  omega

theorem stranger_id_ne (n : Nat) : payment.id ≠ (stranger n).id := by
  intro h
  have hsize := congrArg String.utf8ByteSize h
  simp only [stranger, utf8ByteSize_ofList_replicate] at hsize
  have hpayment : payment.id.utf8ByteSize = 7 := rfl
  omega

theorem not_has_flooded (n : Nat) : ¬ (flooded n).Has (stranger n).id := by
  rintro ⟨row, hrow, hid⟩
  rcases List.mem_cons.1 hrow with rfl | hrow
  · exact stranger_id_ne n hid
  · obtain ⟨m, hm, rfl⟩ := List.mem_map.1 hrow
    have hm := List.mem_range.1 hm
    have := stranger_id_inj hid
    omega

theorem runs_stranger (n : Nat) : (requestBody payingLibrary (.handleEvent true (stranger n))).Runs
    requestExec (flooded n) () (flooded (n + 1)) := by
  have hstored : (flooded n).createRequestEvent (stranger n).id =
      (.ok (n + 2), flooded (n + 1)) := by
    unfold RequestHub.createRequestEvent
    rw [if_neg (not_has_flooded n)]
    simp [flooded, List.range_succ]
  refine runs_paying (c := .event (.createRequestEvent (stranger n).id)) hstored ?_
  refine runs_paying (c := .event (.firstApp "mallory")) rfl ?_
  exact ⟨rfl, rfl⟩

theorem ids_flooded (n : Nat) : (flooded n).requestEvents.map (·.id) = List.range' 1 (n + 1) := by
  simp [flooded, List.range'_succ, List.range'_eq_map_range, Function.comp_def, Nat.add_comm]

/-- The tables after the rows below an id are deleted. Reference: `service/service.go:317
removeExcessEvents`. -/
def cleaned (n deleteEventsBelowId : Nat) : RequestHub :=
  { flooded n with
    requestEvents := (flooded n).requestEvents.filter (deleteEventsBelowId ≤ ·.id) }

theorem not_has_cleaned {n deleteEventsBelowId : Nat} (h : 1 < deleteEventsBelowId) :
    ¬ (cleaned n deleteEventsBelowId).Has payment.id := by
  rintro ⟨row, hrow, hid⟩
  obtain ⟨hrow, hbelow⟩ := List.mem_filter.1 hrow
  rcases List.mem_cons.1 hrow with rfl | hrow
  · exact absurd (of_decide_eq_true hbelow) (Nat.not_le_of_lt h)
  · obtain ⟨m, -, rfl⟩ := List.mem_map.1 hrow
    exact stranger_id_ne m hid.symm

/-- The row of the payment is deleted. Reference: `service/service.go:287 removeExcessEvents`. -/
theorem runs_removeExcessEvents {n : Nat} (hn : 1100 ≤ n) (hle : n < 6000) :
    ∃ deleteEventsBelowId, 1 < deleteEventsBelowId ∧
      (requestBody payingLibrary .removeExcessEvents).Runs requestExec (flooded n) ()
        (cleaned n deleteEventsBelowId) := by
  have hids : execCmd (flooded n) payingEnv (.requestIds 6000) =
      (.ok (List.range' 1 (n + 1)), flooded n) := by
    show (Except.ok _, _) = _
    rw [ids_flooded, List.mergeSort_of_pairwise, List.take_of_length_le]
    · rw [List.length_range']
      exact hle
    · exact (List.pairwise_le_range' 1).imp decide_eq_true
  have hlength : ((List.range' 1 (n + 1)).length : Int) - 1000 = (n - 999 : Nat) := by
    rw [List.length_range']
    omega
  refine ⟨1 + 1 * (n - 999), by omega, runs_paying (c := .requestIds 6000) hids ?_⟩
  show Prog.Runs requestExec
    (if ((List.range' 1 (n + 1)).length : Int) - 1000 < 100 then _ else
      deref (List.range' 1 (n + 1))[(((List.range' 1 (n + 1)).length : Int) - 1000).toNat]? >>= _)
    _ _ _
  rw [hlength, if_neg (by omega), Int.toNat_natCast, List.getElem?_range' (by omega)]
  refine runs_paying (c := .deleteRequestsBelow _) rfl ?_
  refine runs_paying (c := .deleteResponsesBelow _) rfl ?_
  exact ⟨rfl, rfl⟩

/-- A payment is dispatched, 1100 requests that no app has signed make the cleanup delete its row,
and the same event is dispatched again. Reference: `service/service.go:287 removeExcessEvents`. -/
theorem replayed_after_cleanup : ∃ cfg, RequestRun payingLibrary (fun _ _ => True) cfg ∧
    cfg.state.dispatched = [payment.id, payment.id] ∧ ¬ cfg.state.dispatched.Nodup := by
  have hflood : ∀ n, ∃ ts, RequestRun payingLibrary (fun _ _ => True) ⟨flooded n, ts⟩ := by
    intro n
    induction n with
    | zero =>
      exact (runs_payment (s := oneApp) rfl rfl (by decide)).served (.start ⟨rfl, rfl⟩)
    | succ n ih =>
      obtain ⟨ts, hr⟩ := ih
      exact (runs_stranger n).served hr
  obtain ⟨ts, hr⟩ := hflood 1100
  obtain ⟨deleteEventsBelowId, hbelow, hclean⟩ := runs_removeExcessEvents le_rfl (by decide)
  obtain ⟨ts, hr⟩ := hclean.served hr
  obtain ⟨ts, hr⟩ := (runs_payment (s := cleaned 1100 _) rfl rfl (not_has_cleaned hbelow)).served hr
  exact ⟨_, hr, rfl, fun hnodup => (List.nodup_cons.1 hnodup).1 List.mem_cons_self⟩

end AlbyHub.RequestEvents
