import AlbyHub.LnClient.Broadcaster

/-!
# The safety of the broadcaster

In every run a call that reads in time receives the events that are broadcast between its two calls,
once and in order (`delivered_of_fits`). The rest depends on how the server leaves its loop. Once it
has left, nobody takes a listener any more, to add or to remove it (`blocked_iff`), and the channels
that it closes make a call that reads from them panic. Where it leaves with no listener and no call
in `Subscribe`, and nobody subscribes later, none of this happens (`broadcasts_safe`).
-/

namespace AlbyHub.Broadcaster

open Interaction

variable {E : Type} {s s' : State E} {p q : Nat} {c c' : Call E} {a : Action E}

/-! ## What a step does -/

/-- What a step may do. Reference: `lnclient/ldk/ldk_event_broadcaster.go:47`, `:54`, `:68`. -/
inductive Stepped (s : State E) : Action E → State E → Prop
  | cancel : Stepped s .cancel { s with cancelled := true }
  | subscribe : Stepped s .subscribe
      { s.put s.started { s.calls s.started with phase := .adding } with started := s.started + 1 }
  | add (p : Nat) : s.server = .serving → (s.calls p).phase = .adding → Stepped s (.add p)
      { s.put p { s.calls p with phase := .working, since := s.log.length } with
        listeners := s.listeners ++ [p] }
  | wait (p : Nat) : (s.calls p).phase = .working →
      Stepped s (.wait p) (s.put p { s.calls p with phase := .waiting })
  | finish (p : Nat) : (s.calls p).phase = .working → Stepped s (.finish p) (s.leave p false)
  | ctxDone (p : Nat) : (s.calls p).phase = .waiting → s.cancelled = true →
      Stepped s (.ctxDone p) (s.leave p false)
  | readClosed (p : Nat) : (s.calls p).phase = .waiting → (s.calls p).closed = true →
      Stepped s (.readClosed p) (s.leave p true)
  | close (p : Nat) : (s.calls p).phase = .closing →
      Stepped s (.close p) (s.put p { s.calls p with phase := .removing, closed := true })
  | remove (p : Nat) : s.server = .serving → (s.calls p).phase = .removing → Stepped s (.remove p)
      { s.put p { s.calls p with phase := .done } with listeners := removeListener s.listeners p }
  | event (e : E) : s.server = .serving →
      Stepped s (.event e) { s with server := .sending e s.listeners, log := s.log ++ [e] }
  | send (e : E) (p : Nat) (todo : List Nat) : s.server = .sending e (p :: todo) →
      (s.calls p).phase = .waiting → (s.calls p).closed = false → Stepped s .send
      { s.put p { s.calls p with phase := .working, received := (s.calls p).received ++ [e] } with
        server := .sending e todo }
  | sendPanics (e : E) (p : Nat) (todo : List Nat) : s.server = .sending e (p :: todo) →
      (s.calls p).closed = true → Stepped s .sendPanics { s with server := .sending e todo }
  | timeout (e : E) (p : Nat) (todo : List Nat) : s.server = .sending e (p :: todo) →
      (s.calls p).phase ≠ .waiting → (s.calls p).closed = false → Stepped s .timeout
      { s.put p { s.calls p with missed := true } with server := .sending e todo }
  | sent (e : E) : s.server = .sending e [] → Stepped s .sent { s with server := .serving }
  | ctxDoneServer : s.server = .serving → s.cancelled = true →
      Stepped s .ctxDoneServer { s with server := .closing s.listeners }
  | closeListener (p : Nat) (todo : List Nat) : s.server = .closing (p :: todo) →
      Stepped s .closeListener { s.put p { s.calls p with closed := true } with
        server := .closing todo }
  | closedListeners : s.server = .closing [] →
    Stepped s .closedListeners { s with server := .returned }

theorem broadcasterStep_cases (hs : broadcasterStep s a = some s') : Stepped s a s' := by
  cases a with
  | cancel =>
    cases hs
    exact .cancel
  | subscribe =>
    cases hs
    exact .subscribe
  | add p =>
    simp only [broadcasterStep] at hs
    split at hs
    · next hserver hphase =>
      cases hs
      exact .add p hserver hphase
    · cases hs
  | wait p =>
    obtain ⟨hphase, hs⟩ := Option.ite_none_right_eq_some.1 hs
    cases hs
    exact .wait p hphase
  | finish p =>
    obtain ⟨hphase, hs⟩ := Option.ite_none_right_eq_some.1 hs
    cases hs
    exact .finish p hphase
  | ctxDone p =>
    obtain ⟨hphase, hs⟩ := Option.ite_none_right_eq_some.1 hs
    cases hs
    exact .ctxDone p hphase.1 hphase.2
  | readClosed p =>
    obtain ⟨hphase, hs⟩ := Option.ite_none_right_eq_some.1 hs
    cases hs
    exact .readClosed p hphase.1 hphase.2
  | close p =>
    obtain ⟨hphase, hs⟩ := Option.ite_none_right_eq_some.1 hs
    cases hs
    exact .close p hphase
  | remove p =>
    simp only [broadcasterStep] at hs
    split at hs
    · next hserver hphase =>
      cases hs
      exact .remove p hserver hphase
    · cases hs
  | event e =>
    simp only [broadcasterStep] at hs
    split at hs
    · next hserver =>
      cases hs
      exact .event e hserver
    · cases hs
  | send =>
    simp only [broadcasterStep] at hs
    split at hs
    · next e p todo hserver =>
      obtain ⟨hphase, hs⟩ := Option.ite_none_right_eq_some.1 hs
      cases hs
      exact .send e p todo hserver hphase.1 hphase.2
    · cases hs
  | sendPanics =>
    simp only [broadcasterStep] at hs
    split at hs
    · next e p todo hserver =>
      obtain ⟨hclosed, hs⟩ := Option.ite_none_right_eq_some.1 hs
      cases hs
      exact .sendPanics e p todo hserver hclosed
    · cases hs
  | timeout =>
    simp only [broadcasterStep] at hs
    split at hs
    · next e p todo hserver =>
      obtain ⟨hphase, hs⟩ := Option.ite_none_right_eq_some.1 hs
      cases hs
      exact .timeout e p todo hserver hphase.1 hphase.2
    · cases hs
  | sent =>
    simp only [broadcasterStep] at hs
    split at hs
    · next e hserver =>
      cases hs
      exact .sent e hserver
    · cases hs
  | ctxDoneServer =>
    simp only [broadcasterStep] at hs
    split at hs
    · next hserver =>
      obtain ⟨hcancelled, hs⟩ := Option.ite_none_right_eq_some.1 hs
      cases hs
      exact .ctxDoneServer hserver hcancelled
    · cases hs
  | closeListener =>
    simp only [broadcasterStep] at hs
    split at hs
    · next p todo hserver =>
      cases hs
      exact .closeListener p todo hserver
    · cases hs
  | closedListeners =>
    simp only [broadcasterStep] at hs
    split at hs
    · next hserver =>
      cases hs
      exact .closedListeners hserver
    · cases hs

/-! ## The listeners -/

/-- The last listener goes in the place of the one that is removed, so the others stay. Reference:
`lnclient/ldk/ldk_event_broadcaster.go:95 serve`. -/
theorem removeListener_perm {listeners : List Nat} :
    (removeListener listeners p).Perm (listeners.erase p) := by
  rw [removeListener]
  split
  · next hnone =>
    rw [List.idxOf?_eq_none_iff] at hnone
    rw [List.erase_of_not_mem hnone]
  · next i hi =>
    obtain ⟨hlt, hp, -⟩ := List.idxOf?_eq_some_iff.1 hi
    have hmem : p ∈ listeners := hp ▸ List.getElem_mem hlt
    refine (List.perm_cons p).1 (List.Perm.trans ?_ (List.perm_cons_erase hmem))
    obtain ⟨front, last, rfl⟩ : ∃ front last, listeners = front ++ [last] :=
      ⟨_, _, (List.dropLast_concat_getLast (List.ne_nil_of_mem hmem)).symm⟩
    have hlast : (front ++ [last]).getLastD 0 = last := by
      simp
    rw [hlast]
    by_cases hfront : i < front.length
    · rw [List.set_append_left _ _ hfront, List.dropLast_concat]
      rw [List.getElem_append_left hfront] at hp
      have hset : (front.set i last).Perm (last :: front.eraseIdx i) :=
        List.set_perm_cons_eraseIdx hfront last
      have hget : (p :: front.eraseIdx i).Perm front := hp ▸ List.getElem_cons_eraseIdx_perm hfront
      calc (p :: front.set i last).Perm (p :: last :: front.eraseIdx i) := hset.cons p
        List.Perm _ (last :: p :: front.eraseIdx i) := .swap _ _ _
        List.Perm _ (last :: front) := hget.cons last
        List.Perm _ (front ++ [last]) := (List.perm_append_singleton last front).symm
    · have hi : i = front.length := by
        simp only [List.length_append, List.length_singleton] at hlt
        omega
      subst hi
      have hp : last = p := by
        simpa using hp
      rw [List.set_append_right _ _ (Nat.le_refl _), hp]
      simpa using (List.perm_append_singleton p front).symm

/-! ## What every run keeps -/

/-- The server has left its loop. Reference: `lnclient/ldk/ldk_event_broadcaster.go:70 serve`. -/
def State.down (s : State E) : Bool :=
  match s.server with
  | .serving | .sending _ _ => false
  | .closing _ | .returned => true

/-- The listeners that the event is still to be sent to. Reference:
`lnclient/ldk/ldk_event_broadcaster.go:108 serve`. -/
def State.todo (s : State E) : List Nat :=
  match s.server with
  | .sending _ todo => todo
  | _ => []

/-- The number of events that were sent to the listener. Reference: none. -/
def State.reached (s : State E) (p : Nat) : Nat := if p ∈ s.todo then s.broadcast else s.log.length

/-- The call is between the two. Reference: `lnclient/ldk/ldk_event_broadcaster.go:47 Subscribe`,
`:54 CancelSubscription`. -/
def Phase.subscribed : Phase → Bool
  | .working | .waiting => true
  | _ => false

/-- `CancelSubscription` was called. Reference: `lnclient/ldk/ldk_event_broadcaster.go:54
CancelSubscription`. -/
def Phase.cancelled : Phase → Bool
  | .closing | .removing | .done => true
  | _ => false

/-- The listener of the call is one of the server's. Reference:
`lnclient/ldk/ldk_event_broadcaster.go:91 serve`. -/
def Phase.registered : Phase → Bool
  | .working | .waiting | .closing | .removing => true
  | _ => false

/-- What holds of a call. Reference: `lnclient/ldk/ldk.go:611 SendPaymentSync`, `:710
SendKeysend`. -/
structure Fits (s : State E) (p : Nat) (c : Call E) : Prop where
  registered : p ∈ s.listeners ↔ c.phase.registered = true
  closed : c.closed = true → c.phase = .removing ∨ c.phase = .done ∨ s.down = true
  fresh : c.phase = .idle ∨ c.phase = .adding → c.received = [] ∧ c.left = none
  reads : c.phase.subscribed = true → c.left = none ∧ c.since ≤ s.broadcast ∧
    (c.missed = false → c.received = (s.log.take (s.reached p)).drop c.since)
  cancels : c.phase.cancelled = true → ∃ n, c.left = some n ∧ c.since ≤ n ∧
    (c.missed = false → ∃ m, (m = n ∨ m = n + 1) ∧ m ≤ s.log.length ∧
      c.received = (s.log.take m).drop c.since)

/-- What holds in every state: besides the calls, the listeners that an event is still to be sent to
are some of the server's, and it is the last one. Reference:
`lnclient/ldk/ldk_event_broadcaster.go:68 serve`. -/
structure Served (s : State E) : Prop where
  nodup : s.listeners.Nodup
  todo : ∀ e todo, s.server = .sending e todo → todo.Nodup ∧ todo ⊆ s.listeners ∧
    ∃ before, s.log = before ++ [e]
  closing : ∀ todo, s.server = .closing todo → todo ⊆ s.listeners
  unstarted : ∀ p, s.started ≤ p → s.calls p = {}
  calls : ∀ p, Fits s p (s.calls p)

@[simp] theorem put_calls : (s.put p c).calls = Function.update s.calls p c := rfl

@[simp] theorem put_server : (s.put p c).server = s.server := rfl

@[simp] theorem put_listeners : (s.put p c).listeners = s.listeners := rfl

@[simp] theorem put_log : (s.put p c).log = s.log := rfl

@[simp] theorem put_started : (s.put p c).started = s.started := rfl

/-- A call fits into another state of the same server. Reference: none. -/
theorem Fits.of_eq (hf : Fits s p c) (hserver : s'.server = s.server)
    (hlisteners : s'.listeners = s.listeners) (hlog : s'.log = s.log) : Fits s' p c := by
  have hdown : s'.down = s.down := by rw [State.down, State.down, hserver]
  have hbroadcast : s'.broadcast = s.broadcast :=
    by rw [State.broadcast, State.broadcast, hserver, hlog]
  have hreached : s'.reached p = s.reached p := by
    rw [State.reached, State.reached, State.todo, State.todo, hserver, hlog, hbroadcast]
  constructor
  · rw [hlisteners]
    exact hf.registered
  · rw [hdown]
    exact hf.closed
  · exact hf.fresh
  · rw [hbroadcast, hlog, hreached]
    exact hf.reads
  · rw [hlog]
    exact hf.cancels

/-- A step of one call that the server takes no part in. Reference: none. -/
theorem Served.put (hs : Served s) (hp : p < s.started) (hc : Fits s p c) : Served (s.put p c) := by
  constructor
  · exact hs.nodup
  · exact hs.todo
  · exact hs.closing
  · intro q hq
    rw [put_calls, Function.update_of_ne (by rintro rfl; exact absurd hp (Nat.not_lt.2 hq))]
    exact hs.unstarted q hq
  · intro q
    rw [put_calls]
    by_cases heq : q = p
    · subst heq
      rw [Function.update_self]
      exact hc.of_eq rfl rfl rfl
    · rw [Function.update_of_ne heq]
      exact (hs.calls q).of_eq rfl rfl rfl

/-- A call that is not idle was started. Reference: none. -/
theorem Served.lt_started (hs : Served s) (hp : (s.calls p).phase ≠ .idle) : p < s.started := by
  by_contra hnot
  rw [hs.unstarted p (Nat.not_lt.1 hnot)] at hp
  exact hp rfl

theorem Phase.registered_of_subscribed {phase : Phase} (h : phase.subscribed = true) :
    phase.registered = true := by
  cases phase <;> first | rfl | cases h

/-- The event that is being sent is one more than those that were. Reference: none. -/
theorem State.broadcast_le (s : State E) : s.broadcast ≤ s.log.length ∧
    s.log.length ≤ s.broadcast + 1 := by
  rw [State.broadcast]
  split
  · omega
  · omega

/-- The listener was sent all the events that were broadcast, and at most one more. Reference:
none. -/
theorem State.reached_eq (s : State E) (p : Nat) :
    (s.reached p = s.broadcast ∨ s.reached p = s.broadcast + 1) ∧ s.reached p ≤ s.log.length := by
  have hle := s.broadcast_le
  rw [State.reached]
  split
  · exact ⟨.inl rfl, hle.1⟩
  · omega

/-- The call runs its deferred `CancelSubscription`. Reference: `lnclient/ldk/ldk.go:613
SendPaymentSync`. -/
theorem Served.leave {b : Bool} (hs : Served s) (hp : (s.calls p).phase.subscribed = true) :
    Served (s.leave p b) := by
  obtain ⟨-, hsince, hreceived⟩ := (hs.calls p).reads hp
  have hregistered := (hs.calls p).registered.2 (Phase.registered_of_subscribed hp)
  obtain ⟨hreached, hle⟩ := s.reached_eq p
  refine hs.put (hs.lt_started ?_) ?_
  · intro hidle
    rw [hidle] at hp
    cases hp
  constructor
  · exact ⟨fun _ => rfl, fun _ => hregistered⟩
  · intro hclosed
    rcases (hs.calls p).closed hclosed with h | h | h
    · rw [h] at hp
      cases hp
    · rw [h] at hp
      cases hp
    · exact .inr (.inr h)
  · rintro (h | h) <;> cases h
  · nofun
  · intro _
    exact ⟨s.broadcast, rfl, hsince, fun hm => ⟨s.reached p, hreached, hle, hreceived hm⟩⟩

/-- A listener is a call that was started. Reference: none. -/
theorem Served.lt_started_of_mem (hs : Served s) (hp : p ∈ s.listeners) : p < s.started := by
  refine hs.lt_started fun hidle => ?_
  have hregistered := (hs.calls p).registered.1 hp
  rw [hidle] at hregistered
  cases hregistered

/-- A step of the server that takes one listener off those that are left, and changes no call but
that one. Reference: `lnclient/ldk/ldk_event_broadcaster.go:108 serve`. -/
theorem Served.next {e : E} {todo : List Nat} (hs : Served s)
    (hserver : s.server = .sending e (p :: todo))
    (hc : Fits { s with server := .sending e todo } p c) :
    Served { s.put p c with server := .sending e todo } := by
  obtain ⟨hnodup, hsub, before, hlog⟩ := hs.todo e _ hserver
  have hnodup' := (List.nodup_cons.1 hnodup).2
  constructor
  · exact hs.nodup
  · intro e' todo' h
    cases h
    exact ⟨hnodup', fun q hq => hsub (List.mem_cons_of_mem p hq), before, hlog⟩
  · nofun
  · have hp := hs.lt_started_of_mem (hsub List.mem_cons_self)
    intro q hq
    rw [put_calls, Function.update_of_ne (by rintro rfl; exact absurd hp (Nat.not_lt.2 hq))]
    exact hs.unstarted q hq
  · intro q
    rw [put_calls]
    by_cases heq : q = p
    · subst heq
      rw [Function.update_self]
      exact hc.of_eq rfl rfl rfl
    · rw [Function.update_of_ne heq]
      have hf := hs.calls q
      have hbroadcast : s.broadcast = s.log.length - 1 := by rw [State.broadcast, hserver]
      have hreached : s.reached q = if q ∈ todo then s.log.length - 1 else s.log.length := by
        rw [State.reached, State.todo, hserver, hbroadcast]
        simp only [List.mem_cons, heq, false_or]
      refine ⟨hf.registered, ?_, hf.fresh, ?_, hf.cancels⟩
      · intro hclosed
        have h := hf.closed hclosed
        rwa [State.down, hserver] at h
      · intro hsubscribed
        have h := hf.reads hsubscribed
        rwa [hbroadcast, hreached] at h

/-- The server receives from one of its channels or leaves its loop, and no call moves. Reference:
`lnclient/ldk/ldk_event_broadcaster.go:86 serve`. -/
theorem Served.server {server : Server E} (hs : Served s) (htodo : s.todo = [])
    (hserver : ∀ e todo, server ≠ .sending e todo) (hclosing : ∀ todo, server = .closing todo →
      todo ⊆ s.listeners)
    (hdown : s.down = true → State.down { s with server := server } = true) :
    Served { s with server := server } := by
  have hbroadcast : State.broadcast { s with server := server } = s.log.length := by
    rw [State.broadcast]
    split
    · next e todo h => exact absurd h (hserver e todo)
    · rfl
  have htodo' : State.todo { s with server := server } = [] := by
    rw [State.todo]
    split
    · next e todo h => exact absurd h (hserver e todo)
    · rfl
  refine ⟨hs.nodup, fun e todo h => absurd h (hserver e todo), hclosing, hs.unstarted, fun p => ?_⟩
  have hf := hs.calls p
  have hreached : s.reached p = s.log.length := by
    rw [State.reached, htodo, if_neg List.not_mem_nil]
  have hreached' : State.reached { s with server := server } p = s.log.length := by
    rw [State.reached, htodo', if_neg List.not_mem_nil]
  refine ⟨hf.registered, ?_, hf.fresh, ?_, hf.cancels⟩
  · intro hclosed
    exact (hf.closed hclosed).imp_right (Or.imp_right hdown)
  · intro hsubscribed
    obtain ⟨hleft, hsince, hreceived⟩ := hf.reads hsubscribed
    rw [hreached] at hreceived
    rw [hbroadcast, hreached']
    exact ⟨hleft, Nat.le_trans hsince s.broadcast_le.1, hreceived⟩

/-- The server takes a listener. Reference: `lnclient/ldk/ldk_event_broadcaster.go:91 serve`. -/
theorem Served.add (hs : Served s) (hserver : s.server = .serving)
    (hphase : (s.calls p).phase = .adding) :
    Served { s.put p { s.calls p with phase := .working, since := s.log.length } with
      listeners := s.listeners ++ [p] } := by
  have hnot : p ∉ s.listeners := by
    rw [(hs.calls p).registered, hphase]
    nofun
  have hp := hs.lt_started (p := p) (by rw [hphase]; nofun)
  have hbroadcast : s.broadcast = s.log.length := by rw [State.broadcast, hserver]
  constructor
  · exact List.nodup_append.2 ⟨hs.nodup, List.nodup_singleton p,
      fun q hq q' hq' heq => hnot (List.mem_singleton.1 hq' ▸ heq ▸ hq)⟩
  · intro e todo h
    have h : s.server = .sending e todo := h
    rw [hserver] at h
    cases h
  · intro todo h
    have h : s.server = .closing todo := h
    rw [hserver] at h
    cases h
  · intro q hq
    rw [put_calls, Function.update_of_ne (by rintro rfl; exact absurd hp (Nat.not_lt.2 hq))]
    exact hs.unstarted q hq
  · intro q
    rw [put_calls]
    by_cases heq : q = p
    · subst heq
      have hf := hs.calls q
      obtain ⟨hreceived, hleft⟩ := hf.fresh (.inr hphase)
      rw [Function.update_self]
      refine ⟨⟨fun _ => rfl, fun _ => List.mem_append_right _ (List.mem_singleton.2 rfl)⟩, ?_, ?_,
        ?_, nofun⟩
      · intro hclosed
        have h := hf.closed hclosed
        rw [hphase, State.down, hserver] at h
        simp at h
      · rintro (h | h) <;> cases h
      · intro _
        refine ⟨hleft, Nat.le_of_eq hbroadcast.symm, fun _ => ?_⟩
        show (s.calls q).received = _
        rw [hreceived]
        exact (List.drop_of_length_le (List.length_take_le' _ s.log)).symm
    · rw [Function.update_of_ne heq]
      have hf := hs.calls q
      refine ⟨?_, hf.closed, hf.fresh, hf.reads, hf.cancels⟩
      rw [← hf.registered]
      simp [heq]

/-- The server removes a listener. Reference: `lnclient/ldk/ldk_event_broadcaster.go:93 serve`. -/
theorem Served.remove (hs : Served s) (hserver : s.server = .serving)
    (hphase : (s.calls p).phase = .removing) :
    Served { s.put p { s.calls p with phase := .done } with
      listeners := removeListener s.listeners p } := by
  have hmem : ∀ q, q ∈ removeListener s.listeners p ↔ q ≠ p ∧ q ∈ s.listeners := fun q =>
    removeListener_perm.mem_iff.trans hs.nodup.mem_erase_iff
  have hp := hs.lt_started (p := p) (by rw [hphase]; nofun)
  constructor
  · exact removeListener_perm.nodup_iff.2 (hs.nodup.erase p)
  · intro e todo h
    have h : s.server = .sending e todo := h
    rw [hserver] at h
    cases h
  · intro todo h
    have h : s.server = .closing todo := h
    rw [hserver] at h
    cases h
  · intro q hq
    rw [put_calls, Function.update_of_ne (by rintro rfl; exact absurd hp (Nat.not_lt.2 hq))]
    exact hs.unstarted q hq
  · intro q
    rw [put_calls]
    by_cases heq : q = p
    · subst heq
      rw [Function.update_self]
      refine ⟨⟨fun h => absurd rfl ((hmem q).1 h).1, nofun⟩, fun _ => .inr (.inl rfl), ?_, nofun,
        ?_⟩
      · rintro (h | h) <;> cases h
      · intro _
        exact (hs.calls q).cancels (by rw [hphase]; rfl)
    · rw [Function.update_of_ne heq]
      have hf := hs.calls q
      refine ⟨?_, hf.closed, hf.fresh, hf.reads, hf.cancels⟩
      rw [← hf.registered]
      exact (hmem q).trans (and_iff_right heq)

/-- The server receives an event. Reference: `lnclient/ldk/ldk_event_broadcaster.go:102 serve`. -/
theorem Served.event {e : E} (hs : Served s) (hserver : s.server = .serving) :
    Served { s with server := .sending e s.listeners, log := s.log ++ [e] } := by
  have hbroadcast : s.broadcast = s.log.length := by rw [State.broadcast, hserver]
  refine ⟨hs.nodup, ?_, nofun, hs.unstarted, fun p => ?_⟩
  · intro e' todo h
    cases h
    exact ⟨hs.nodup, List.Subset.refl _, s.log, rfl⟩
  have hf := hs.calls p
  refine ⟨hf.registered, ?_, hf.fresh, ?_, ?_⟩
  · intro hclosed
    have h := hf.closed hclosed
    rwa [State.down, hserver] at h
  · intro hsubscribed
    obtain ⟨hleft, hsince, hreceived⟩ := hf.reads hsubscribed
    have hmem := hf.registered.2 (Phase.registered_of_subscribed hsubscribed)
    have hreached : s.reached p = s.log.length := by
      rw [State.reached, State.todo, hserver, if_neg List.not_mem_nil]
    refine ⟨hleft, ?_, fun hm => ?_⟩
    · rw [hbroadcast] at hsince
      simpa [State.broadcast] using hsince
    · rw [hreceived hm, hreached]
      simp [State.reached, State.todo, State.broadcast, hmem]
  · intro hcancelled
    obtain ⟨n, hleft, hsince, hreceived⟩ := hf.cancels hcancelled
    refine ⟨n, hleft, hsince, fun hm => ?_⟩
    obtain ⟨m, hmn, hle, heq⟩ := hreceived hm
    refine ⟨m, hmn, ?_, ?_⟩
    · rw [List.length_append]
      omega
    · rw [heq, List.take_append_of_le_length hle]

/-- A call begins to subscribe. Reference: `lnclient/ldk/ldk_event_broadcaster.go:47 Subscribe`. -/
theorem Served.subscribe (hs : Served s) :
    Served { s.put s.started { s.calls s.started with phase := .adding } with
      started := s.started + 1 } := by
  have hnew := hs.unstarted s.started (Nat.le_refl _)
  refine ⟨hs.nodup, hs.todo, hs.closing, ?_, ?_⟩
  · intro q hq
    have hq : s.started < q := hq
    rw [put_calls, Function.update_of_ne (Nat.ne_of_gt hq)]
    exact hs.unstarted q (Nat.le_of_lt hq)
  · intro q
    rw [put_calls]
    by_cases heq : q = s.started
    · subst heq
      rw [Function.update_self, hnew]
      refine ⟨⟨fun hmem => absurd (hs.lt_started_of_mem hmem) (Nat.lt_irrefl _), nofun⟩, nofun,
        fun _ => ⟨rfl, rfl⟩, nofun, nofun⟩
    · rw [Function.update_of_ne heq]
      exact (hs.calls q).of_eq rfl rfl rfl

/-- A call is about to read from its channel. Reference: `lnclient/ldk/ldk.go:650
SendPaymentSync`. -/
theorem Served.wait (hs : Served s) (hphase : (s.calls p).phase = .working) :
    Served (s.put p { s.calls p with phase := .waiting }) := by
  have hf := hs.calls p
  refine hs.put (hs.lt_started (by rw [hphase]; nofun)) ⟨?_, ?_, ?_, ?_, ?_⟩
  · rw [hf.registered, hphase]
    rfl
  · intro hclosed
    have h := hf.closed hclosed
    rw [hphase] at h
    simpa using h
  · rintro (h | h) <;> cases h
  · intro _
    exact hf.reads (by rw [hphase]; rfl)
  · nofun

/-- A call closes its channel. Reference: `lnclient/ldk/ldk_event_broadcaster.go:54
CancelSubscription`. -/
theorem Served.close (hs : Served s) (hphase : (s.calls p).phase = .closing) :
    Served (s.put p { s.calls p with phase := .removing, closed := true }) := by
  have hf := hs.calls p
  refine hs.put (hs.lt_started (by rw [hphase]; nofun)) ⟨?_, fun _ => .inl rfl, ?_, nofun, ?_⟩
  · rw [hf.registered, hphase]
    rfl
  · rintro (h | h) <;> cases h
  · intro _
    exact hf.cancels (by rw [hphase]; rfl)

/-- The event is received by a listener that waits. Reference:
`lnclient/ldk/ldk_event_broadcaster.go:121 serve`. -/
theorem Served.send {e : E} {todo : List Nat} (hs : Served s)
    (hserver : s.server = .sending e (p :: todo)) (hphase : (s.calls p).phase = .waiting)
    (hclosed : (s.calls p).closed = false) :
    Served { s.put p { s.calls p with
      phase := .working, received := (s.calls p).received ++ [e] } with
        server := .sending e todo } := by
  obtain ⟨hnodup, hsub, before, hlog⟩ := hs.todo e _ hserver
  have hnot := (List.nodup_cons.1 hnodup).1
  have hf := hs.calls p
  obtain ⟨hleft, hsince, hreceived⟩ := hf.reads (by rw [hphase]; rfl)
  rw [State.reached, State.todo, State.broadcast, hserver, if_pos List.mem_cons_self] at hreceived
  rw [State.broadcast, hserver] at hsince
  refine hs.next hserver ⟨⟨fun _ => rfl, fun _ => hsub List.mem_cons_self⟩, ?_, ?_, ?_, nofun⟩
  · rw [hclosed]
    nofun
  · rintro (h | h) <;> cases h
  · intro _
    refine ⟨hleft, hsince, fun hm => ?_⟩
    have hlen : before.length = s.log.length - 1 := by
      rw [hlog]
      simp
    rw [← hlen] at hsince hreceived
    show (s.calls p).received ++ [e] = _
    rw [hreceived hm, State.reached, State.todo, if_neg hnot]
    simp only [hlog, List.take_left, List.take_length]
    rw [List.drop_append_of_le_length hsince]

/-- The send to a closed channel panics, and the server goes on. Reference:
`lnclient/ldk/ldk_event_broadcaster.go:112 serve`. -/
theorem Served.sendPanics {e : E} {todo : List Nat} (hs : Served s)
    (hserver : s.server = .sending e (p :: todo)) (hclosed : (s.calls p).closed = true) :
    Served { s with server := .sending e todo } := by
  have hf := hs.calls p
  have hphase : (s.calls p).phase = .removing ∨ (s.calls p).phase = .done := by
    have h := hf.closed hclosed
    rw [State.down, hserver] at h
    simpa using h
  have hreads : (s.calls p).phase.subscribed ≠ true := by
    rcases hphase with hp | hp <;> rw [hp] <;> nofun
  have hnext := hs.next hserver (c := s.calls p)
    ⟨hf.registered, fun _ => hphase.imp_right .inl, hf.fresh, fun h => absurd h hreads,
      hf.cancels⟩
  have hput : s.put p (s.calls p) = s := by
    rw [State.put, Function.update_eq_self]
  rwa [hput] at hnext

/-- The listener does not read in time. Reference: `lnclient/ldk/ldk_event_broadcaster.go:125
serve`. -/
theorem Served.timeout {e : E} {todo : List Nat} (hs : Served s)
    (hserver : s.server = .sending e (p :: todo)) (hclosed : (s.calls p).closed = false) :
    Served { s.put p { s.calls p with missed := true } with server := .sending e todo } := by
  have hf := hs.calls p
  refine hs.next hserver ⟨hf.registered, ?_, hf.fresh, ?_, ?_⟩
  · intro h
    rw [hclosed] at h
    cases h
  · intro h
    obtain ⟨hleft, hsince, -⟩ := hf.reads h
    rw [State.broadcast, hserver] at hsince
    exact ⟨hleft, hsince, nofun⟩
  · intro h
    obtain ⟨n, hleft, hsince, -⟩ := hf.cancels h
    exact ⟨n, hleft, hsince, nofun⟩

/-- The server closes the channel of a listener. Reference:
`lnclient/ldk/ldk_event_broadcaster.go:78 serve`. -/
theorem Served.closeListener {todo : List Nat} (hs : Served s)
    (hserver : s.server = .closing (p :: todo)) :
    Served { s.put p { s.calls p with closed := true } with server := .closing todo } := by
  have hsub := hs.closing _ hserver
  have hs' : Served { s with server := .closing todo } := by
    refine hs.server (by rw [State.todo, hserver]) nofun ?_ fun _ => rfl
    rintro todo' h
    cases h
    exact fun q hq => hsub (List.mem_cons_of_mem p hq)
  have hf := hs'.calls p
  exact hs'.put (hs.lt_started_of_mem (hsub List.mem_cons_self))
    ⟨hf.registered, fun _ => .inr (.inr rfl), hf.fresh, hf.reads, hf.cancels⟩

/-- What holds in every state is kept by every step. Reference:
`lnclient/ldk/ldk_event_broadcaster.go:47`, `:54`, `:68`. -/
theorem Served.step (hs : Served s) (ha : broadcasterStep s a = some s') : Served s' := by
  cases broadcasterStep_cases ha with
  | cancel =>
    exact ⟨hs.nodup, hs.todo, hs.closing, hs.unstarted, fun p => (hs.calls p).of_eq rfl rfl rfl⟩
  | subscribe => exact hs.subscribe
  | add p hserver hphase => exact hs.add hserver hphase
  | wait p hphase => exact hs.wait hphase
  | finish p hphase => exact hs.leave (by rw [hphase]; rfl)
  | ctxDone p hphase hcancelled => exact hs.leave (by rw [hphase]; rfl)
  | readClosed p hphase hclosed => exact hs.leave (by rw [hphase]; rfl)
  | close p hphase => exact hs.close hphase
  | remove p hserver hphase => exact hs.remove hserver hphase
  | event e hserver => exact hs.event hserver
  | send e p todo hserver hphase hclosed => exact hs.send hserver hphase hclosed
  | sendPanics e p todo hserver hclosed => exact hs.sendPanics hserver hclosed
  | timeout e p todo hserver hphase hclosed => exact hs.timeout hserver hclosed
  | sent e hserver =>
    refine hs.server (by rw [State.todo, hserver]) nofun nofun ?_
    rw [State.down, hserver]
    nofun
  | ctxDoneServer hserver hcancelled =>
    refine hs.server (by rw [State.todo, hserver]) nofun ?_ fun _ => rfl
    rintro todo h
    cases h
    exact List.Subset.refl _
  | closeListener p todo hserver => exact hs.closeListener hserver
  | closedListeners hserver =>
    exact hs.server (by rw [State.todo, hserver]) nofun nofun fun _ => rfl

/-! ## After the server has left its loop -/

/-- The call waits for the server, in `Subscribe` or in the second half of `CancelSubscription`.
Reference: `lnclient/ldk/ldk_event_broadcaster.go:50 Subscribe`, `:65 CancelSubscription`. -/
def Phase.pending : Phase → Bool
  | .adding | .removing => true
  | _ => false

/-- The call stays where it waits for the server, whatever happens. Reference: none. -/
def BlockedForever (s : State E) (p : Nat) : Prop :=
  ∀ as s', runLabels broadcasterStep s as = some s' → (s'.calls p).phase.pending = true

/-- The server does not come back, and nobody else takes a listener. Reference:
`lnclient/ldk/ldk_event_broadcaster.go:86 serve`. -/
theorem pending_step (hdown : s.down = true) (hp : (s.calls p).phase.pending = true)
    (ha : broadcasterStep s a = some s') : s'.down = true ∧ (s'.calls p).phase.pending = true := by
  have hserver : s.server ≠ .serving := by
    intro h
    rw [State.down, h] at hdown
    cases hdown
  have hsending : ∀ e todo, s.server ≠ .sending e todo := by
    intro e todo h
    rw [State.down, h] at hdown
    cases hdown
  have hput : ∀ {q : Nat} {c : Call E}, (q = p → c.phase.pending = true) →
      ((s.put q c).calls p).phase.pending = true := by
    intro q c hc
    rw [put_calls]
    by_cases heq : p = q
    · subst heq
      rw [Function.update_self]
      exact hc rfl
    · rw [Function.update_of_ne heq]
      exact hp
  have hother : ∀ {q : Nat} {c : Call E}, (s.calls q).phase.pending = false →
      ((s.put q c).calls p).phase.pending = true := by
    intro q c hq
    refine hput fun heq => ?_
    rw [heq, hp] at hq
    cases hq
  cases broadcasterStep_cases ha with
  | cancel => exact ⟨hdown, hp⟩
  | subscribe => exact ⟨hdown, hput fun _ => rfl⟩
  | add q h => exact absurd h hserver
  | wait q hphase => exact ⟨hdown, hother (by rw [hphase]; rfl)⟩
  | finish q hphase => exact ⟨hdown, hother (by rw [hphase]; rfl)⟩
  | ctxDone q hphase => exact ⟨hdown, hother (by rw [hphase]; rfl)⟩
  | readClosed q hphase => exact ⟨hdown, hother (by rw [hphase]; rfl)⟩
  | close q hphase => exact ⟨hdown, hother (by rw [hphase]; rfl)⟩
  | remove q h => exact absurd h hserver
  | event e h => exact absurd h hserver
  | send e q todo h => exact absurd h (hsending e _)
  | sendPanics e q todo h => exact absurd h (hsending e _)
  | timeout e q todo h => exact absurd h (hsending e _)
  | sent e h => exact absurd h (hsending e _)
  | ctxDoneServer h => exact absurd h hserver
  | closeListener q todo h => exact ⟨rfl, hput fun heq => heq ▸ hp⟩
  | closedListeners h => exact ⟨rfl, hp⟩

/-- A call that waits for a server that has left its loop waits for ever. Reference:
`lnclient/ldk/ldk_event_broadcaster.go:50 Subscribe`, `:65 CancelSubscription`. -/
theorem blocked_iff (hdown : s.down = true) : BlockedForever s p ↔
    (s.calls p).phase.pending = true := by
  constructor
  · intro h
    exact h [] s rfl
  · intro hp as s' hr
    have hinv : s'.down = true ∧ (s'.calls p).phase.pending = true :=
      run_invariant (P := fun s => s.down = true ∧ (s.calls p).phase.pending = true) ⟨hdown, hp⟩
        (fun _ _ _ h ha => pending_step h.1 h.2 ha) hr
    exact hinv.2

/-! ## Safety -/

/-- A call that reads in time has received the events that were broadcast between its `Subscribe`
and its `CancelSubscription`, each once and in order; of the one that is being sent at the end it
may or may not have been reached. Reference: none. -/
def Delivered (s : State E) (p : Nat) : Prop :=
  (s.calls p).phase.subscribed = true ∨ (s.calls p).phase.cancelled = true →
    (s.calls p).missed = false →
    (s.calls p).since ≤ (s.calls p).left.getD s.broadcast ∧
    ∃ m, (m = (s.calls p).left.getD s.broadcast ∨ m = (s.calls p).left.getD s.broadcast + 1) ∧
      m ≤ s.log.length ∧ (s.calls p).received = (s.log.take m).drop (s.calls p).since

/-- No call dereferences a nil event, no call waits for ever for a server that has left its loop,
and every call that reads in time receives its events. Reference: none. -/
structure Safe (s : State E) : Prop where
  panics : ∀ p, (s.calls p).panicked = false
  returns : s.down = true → ∀ p, ¬BlockedForever s p
  delivers : ∀ p, Delivered s p

/-- The server leaves its loop only with no listener and no call in `Subscribe`, and nobody
subscribes later. Reference: `lnclient/ldk/ldk_event_broadcaster.go:88 serve`. -/
def LeavesNobody (s : State E) : Action E → Prop
  | .ctxDoneServer => s.listeners = [] ∧ ∀ p < s.started, (s.calls p).phase ≠ .adding
  | .subscribe => s.down = false
  | _ => True

instance (s : State E) : ∀ a, Decidable (LeavesNobody s a)
  | .ctxDoneServer => inferInstanceAs (Decidable (_ ∧ _))
  | .subscribe => inferInstanceAs (Decidable (_ = _))
  | .cancel | .add _ | .wait _ | .finish _ | .ctxDone _ | .readClosed _ | .close _ | .remove _ |
    .event _
  | .send | .sendPanics | .timeout | .sent | .closeListener | .closedListeners => isTrue trivial

/-- What such a server keeps. Reference: none. -/
structure Quiet (s : State E) : Prop where
  served : Served s
  panics : ∀ p, (s.calls p).panicked = false
  nobody : s.down = true → s.listeners = [] ∧ ∀ p, (s.calls p).phase ≠ .adding

theorem served_new : Served (newBroadcaster : State E) :=
  ⟨List.nodup_nil, nofun, nofun, fun _ _ => rfl,
    fun _ => ⟨⟨nofun, nofun⟩, nofun, fun _ => ⟨rfl, rfl⟩, nofun,
    nofun⟩⟩

theorem quiet_new : Quiet (newBroadcaster : State E) := ⟨served_new, fun _ => rfl, nofun⟩

/-- What holds of the calls holds after one of them changed to one of which it holds. Reference:
none. -/
theorem forall_put {P : Call E → Prop} (hc : P c) (hs : ∀ q, P (s.calls q)) :
    ∀ q, P ((s.put p c).calls q) := by
  intro q
  rw [put_calls]
  by_cases heq : q = p
  · subst heq
    rwa [Function.update_self]
  · rw [Function.update_of_ne heq]
    exact hs q

/-- A step of one call that does not panic and does not come to `Subscribe`. Reference: none. -/
theorem Quiet.put (hq : Quiet s) (hs : Served (s.put p c)) (hpanicked : c.panicked = false)
    (hphase : c.phase ≠ .adding) : Quiet (s.put p c) where
  served := hs
  panics := forall_put (P := fun c => c.panicked = false) hpanicked hq.panics
  nobody hdown := by
    obtain ⟨hlisteners, hadding⟩ := hq.nobody hdown
    exact ⟨hlisteners, forall_put (P := fun c => c.phase ≠ .adding) hphase hadding⟩

/-- No call reads from a closed channel. Reference: `lnclient/ldk/ldk.go:651 SendPaymentSync`, `:736
SendKeysend`. -/
theorem Quiet.open (hq : Quiet s) (hphase : (s.calls p).phase = .waiting) :
    (s.calls p).closed = false := by
  by_contra hclosed
  have hf := hq.served.calls p
  have hregistered : p ∈ s.listeners := by
    rw [hf.registered, hphase]
    rfl
  rcases hf.closed (Bool.not_eq_false _ ▸ hclosed) with h | h | hdown
  · rw [hphase] at h
    cases h
  · rw [hphase] at h
    cases h
  · rw [(hq.nobody hdown).1] at hregistered
    cases hregistered

/-- Reference: `lnclient/ldk/ldk_event_broadcaster.go:68 serve`. -/
theorem Quiet.step (hq : Quiet s) (hl : LeavesNobody s a) (ha : broadcasterStep s a = some s') :
    Quiet s' := by
  have hs' := hq.served.step ha
  have hserving : ∀ {P : Prop}, s.server = .serving → s.down = true → P := by
    intro P h hdown
    rw [State.down, h] at hdown
    cases hdown
  have hpanics : ∀ {p : Nat} {c : Call E}, c.panicked = false → ∀ q,
      ((s.put p c).calls q).panicked = false :=
    fun hc => forall_put (P := fun c => c.panicked = false) hc hq.panics
  cases broadcasterStep_cases ha with
  | cancel => exact ⟨hs', hq.panics, hq.nobody⟩
  | subscribe =>
    refine ⟨hs', hpanics (hq.panics _), fun hdown => ?_⟩
    have hup : s.down = false := hl
    have hdown : s.down = true := hdown
    rw [hup] at hdown
    cases hdown
  | add p h hphase => exact ⟨hs', hpanics (hq.panics p), hserving h⟩
  | wait p hphase => exact hq.put hs' (hq.panics p) nofun
  | finish p hphase => exact hq.put hs' rfl nofun
  | ctxDone p hphase hcancelled => exact hq.put hs' rfl nofun
  | readClosed p hphase hclosed =>
    rw [hq.open hphase] at hclosed
    cases hclosed
  | close p hphase => exact hq.put hs' (hq.panics p) nofun
  | remove p h hphase => exact ⟨hs', hpanics (hq.panics p), hserving h⟩
  | event e h => exact ⟨hs', hq.panics, nofun⟩
  | send e p todo h => exact ⟨hs', hpanics (hq.panics p), nofun⟩
  | sendPanics e p todo h => exact ⟨hs', hq.panics, nofun⟩
  | timeout e p todo h => exact ⟨hs', hpanics (hq.panics p), nofun⟩
  | sent e h => exact ⟨hs', hq.panics, nofun⟩
  | ctxDoneServer h =>
    obtain ⟨hlisteners, hadding⟩ := hl
    refine ⟨hs', hq.panics, fun _ => ⟨hlisteners, fun p => ?_⟩⟩
    by_cases hp : p < s.started
    · exact hadding p hp
    · show (s.calls p).phase ≠ .adding
      rw [hq.served.unstarted p (Nat.not_lt.1 hp)]
      nofun
  | closeListener p todo h =>
    have hdown : s.down = true := by rw [State.down, h]
    obtain ⟨hlisteners, hadding⟩ := hq.nobody hdown
    exact ⟨hs', hpanics (hq.panics p),
      fun _ => ⟨hlisteners, forall_put (P := fun c => c.phase ≠ .adding) (hadding p) hadding⟩⟩
  | closedListeners h =>
    have hdown : s.down = true := by rw [State.down, h]
    exact ⟨hs', hq.panics, fun _ => hq.nobody hdown⟩

/-- What holds of a call says what it has received. Reference: none. -/
theorem delivered_of_fits (hf : Fits s p (s.calls p)) : Delivered s p := by
  rintro (hsubscribed | hcancelled) hm
  · obtain ⟨hleft, hsince, hreceived⟩ := hf.reads hsubscribed
    obtain ⟨hreached, hle⟩ := s.reached_eq p
    rw [hleft]
    exact ⟨hsince, s.reached p, hreached, hle, hreceived hm⟩
  · obtain ⟨n, hleft, hsince, hreceived⟩ := hf.cancels hcancelled
    rw [hleft]
    exact ⟨hsince, hreceived hm⟩

theorem Quiet.safe (hq : Quiet s) : Safe s where
  panics := hq.panics
  returns hdown p hblocked := by
    have hpending := (blocked_iff hdown).1 hblocked
    obtain ⟨hlisteners, hadding⟩ := hq.nobody hdown
    have hregistered := (hq.served.calls p).registered
    rw [hlisteners] at hregistered
    cases hphase : (s.calls p).phase with
    | adding => exact hadding p hphase
    | removing =>
      rw [hphase] at hregistered
      exact absurd (hregistered.2 rfl) List.not_mem_nil
    | _ =>
      rw [hphase] at hpending
      cases hpending
  delivers p := delivered_of_fits (hq.served.calls p)

/-- In every run in which the server leaves its loop only with no listener and no call in
`Subscribe`, and in which nobody subscribes later, the broadcaster is safe. Reference:
`lnclient/ldk/ldk_event_broadcaster.go:24 ldkEventBroadcastServer`. -/
theorem broadcasts_safe {as : List (Action E)}
    (ha : AllowsLabels broadcasterStep LeavesNobody newBroadcaster as)
    (hr : runLabels broadcasterStep newBroadcaster as = some s) : Safe s :=
  (run_induction quiet_new (fun _ _ _ hq hl ha => Quiet.step hq hl ha) ha hr).safe

/-- A call whose listener the server still has when it leaves its loop can only end up waiting for
it: it returns sooner or later, and then cancels its subscription. Reference:
`lnclient/ldk/ldk.go:613 SendPaymentSync`. -/
theorem registered_blocks (hdown : s.down = true) (hcancelled : s.cancelled = true)
    (hp : (s.calls p).phase.registered = true) :
    ∃ as s', runLabels broadcasterStep s as = some s' ∧ s'.down = true ∧ BlockedForever s' p := by
  have hremoving : ∀ {s : State E}, s.down = true → (s.calls p).phase = .closing →
      ∃ s', runLabels broadcasterStep s [.close p] = some s' ∧ s'.down = true ∧
        BlockedForever s' p := by
    intro s hdown hphase
    have hdown' : (s.put p { s.calls p with phase := .removing, closed := true }).down = true :=
      hdown
    refine ⟨_, ?_, hdown', (blocked_iff hdown').2 ?_⟩
    · simp [runLabels, broadcasterStep, hphase]
    · rw [put_calls, Function.update_self]
      rfl
  have hleave : (s.leave p false).down = true ∧ ((s.leave p false).calls p).phase = .closing := by
    refine ⟨hdown, ?_⟩
    rw [State.leave, put_calls, Function.update_self]
  obtain ⟨s', hr, hs'⟩ := hremoving hleave.1 hleave.2
  cases hphase : (s.calls p).phase with
  | working =>
    refine ⟨[.finish p, .close p], s', ?_, hs'⟩
    rw [runLabels, broadcasterStep, if_pos hphase]
    exact hr
  | waiting =>
    refine ⟨[.ctxDone p, .close p], s', ?_, hs'⟩
    rw [runLabels, broadcasterStep, if_pos ⟨hphase, hcancelled⟩]
    exact hr
  | closing =>
    obtain ⟨s', hr, hs'⟩ := hremoving hdown hphase
    exact ⟨_, s', hr, hs'⟩
  | removing =>
    refine ⟨[], s, rfl, hdown, (blocked_iff hdown).2 ?_⟩
    rw [hphase]
    rfl
  | _ =>
    rw [hphase] at hp
    cases hp

/-- Where the server leaves its loop otherwise, or somebody subscribes later, the run can go on to a
call that waits for ever. Reference: `lnclient/ldk/ldk_event_broadcaster.go:88 serve`. -/
theorem leaving_blocks (hs : Served s) (hl : ¬LeavesNobody s a)
    (ha : broadcasterStep s a = some s') :
    ∃ as s'' p, runLabels broadcasterStep s' as = some s'' ∧ s''.down = true ∧
      BlockedForever s'' p := by
  cases broadcasterStep_cases ha with
  | subscribe =>
    have hdown : s.down = true := Bool.not_eq_false _ ▸ hl
    refine ⟨[],
      { s.put s.started { s.calls s.started with phase := .adding } with started := s.started + 1 },
      s.started, rfl, hdown, (blocked_iff ?_).2 ?_⟩
    · exact hdown
    · rw [put_calls, Function.update_self]
      rfl
  | ctxDoneServer hserver hcancelled =>
    by_cases hadding : ∃ p, (s.calls p).phase = .adding
    · obtain ⟨p, hp⟩ := hadding
      refine ⟨[], _, p, rfl, rfl, (blocked_iff rfl).2 ?_⟩
      show (s.calls p).phase.pending = true
      rw [hp]
      rfl
    · obtain ⟨p, hp⟩ : ∃ p, p ∈ s.listeners := by
        refine List.exists_mem_of_ne_nil _ fun hnil => hl ⟨hnil, fun p _ hp => hadding ⟨p, hp⟩⟩
      obtain ⟨as, s'', hr, hs''⟩ := registered_blocks (p := p)
        (s := { s with server := .closing s.listeners }) rfl hcancelled
          ((hs.calls p).registered.1 hp)
      exact ⟨as, s'', p, hr, hs''⟩
  | _ => exact absurd trivial hl

/-- A call that subscribes, receives an event, unsubscribes, and after which the context is
cancelled. Reference: none. -/
def orderlyRun : List (Action Unit) :=
  [.subscribe, .add 0, .wait 0, .event (), .send, .sent, .finish 0, .close 0, .remove 0, .cancel,
    .ctxDoneServer, .closedListeners]

theorem broadcasts_safe_orderly :
    Safe (labelsAfter broadcasterStep (newBroadcaster : State Unit) orderlyRun) :=
  @broadcasts_safe Unit _ orderlyRun (by decide +kernel) (runLabels_after (by decide +kernel))

/-- A call that subscribed is still sending its payment when the context is cancelled and the server
closes its channel, and its `select` then takes the channel. Reference: `lnclient/ldk/ldk.go:634
SendPaymentSync`. -/
def shutdownRun : List (Action Unit) :=
  [.subscribe, .add 0, .cancel, .ctxDoneServer, .closeListener, .closedListeners, .wait 0,
    .readClosed 0,
    .close 0]

/-- The call has dereferenced a nil event, and stays in `CancelSubscription`. Reference:
`lnclient/ldk/ldk_event_broadcaster.go:65 CancelSubscription`. -/
theorem broadcasts_panic_at_shutdown :
    ¬∀ (as : List (Action Unit)) (s : State Unit),
      runLabels broadcasterStep newBroadcaster as = some s → Safe s := by
  intro h
  have hsafe := h shutdownRun _ (runLabels_after (by decide +kernel))
  exact absurd (hsafe.panics 0) (by decide +kernel)

end AlbyHub.Broadcaster
