import AlbyHub.Swaps.Dispatcher

/-!
# Whether the dispatcher stalls

A listener that has stopped reading never reads again, so the dispatcher stays blocked for ever
exactly when it holds an update for a full channel whose listener has stopped (`staysBlocked_iff`).
Where an update arrives for such a channel, or a listener stops while its channel is full and the
dispatcher holds another update for it, all swaps stall (`updates_stall`); otherwise every update is
delivered or dropped, and the updates of other swaps are dispatched (`updates_never_stall`).
-/

namespace AlbyHub.Dispatch

open Interaction

/-- The listener does not read from its channel any more. Reference: `swaps/swaps_service.go:904`,
`:1044 startSwapInListener`. -/
def Listener.stopped (l : Listener) : Bool :=
  match l.phase with
  | .refunding | .leaving | .ended => true
  | .handling signal => .again ∉ outcomes l.type l.swapId signal
  | _ => false

/-- The dispatcher stays where it sends, whatever happens. Reference: `swaps/swaps_service.go:118
NewSwapsService`. -/
def StaysBlocked (s : SwapsHub) : Prop :=
  (∃ update ch, s.dispatcher = .sending update ch) ∧
    ∀ es s', runLabels swapsStep s es = some s' → s'.dispatcher = s.dispatcher

/-- The dispatcher goes round its loop without an update. Reference: `swaps/swaps_service.go:109
NewSwapsService`. -/
def Spins (s : SwapsHub) : Prop := swapsStep s .receiveClosed = some s

/-- The update that the dispatcher holds. Reference: none. -/
def SwapsHub.inHand (s : SwapsHub) : List SwapMessage :=
  match s.dispatcher with
  | .receiving => []
  | .sending update _ => [update]

/-! ## What a step does -/

/-- What a step may do. Reference: `swaps/swaps_service.go:106`, `:885`, `:1053`. -/
inductive Stepped (s : SwapsHub) (e : Event) : SwapsHub → Prop
  | start (type : SwapType) (swapId : String) : e = .start type swapId → Stepped s e
      { s with
        listeners := s.listeners ++ [{ type, swapId }]
        swapListeners := fun id =>
          if id = swapId then some s.listeners.length else s.swapListeners id }
  | sends (update : SwapMessage) (ch : Nat) : e = .receive update → s.dispatcher = .receiving →
      s.swapListeners update.id = some ch → Stepped s e
      { s with dispatcher := .sending update ch, received := s.received ++ [update] }
  | drops (update : SwapMessage) : e = .receive update → s.dispatcher = .receiving →
      s.swapListeners update.id = none → Stepped s e
      { s with received := s.received ++ [update], dispatched := s.dispatched ++ [(update, none)] }
  | close : e = .close → Stepped s e { s with closed := true }
  | spin : e = .receiveClosed → s.closed = true → Stepped s e s
  | sent (update : SwapMessage) (ch : Nat) (l : Listener) : e = .send →
      s.dispatcher = .sending update ch → s.listeners[ch]? = some l → l.updateCh = none →
      Stepped s e { s.put ch { l with updateCh := some update } with
        dispatcher := .receiving, dispatched := s.dispatched ++ [(update, some ch)] }
  | listener (i : Nat) (l l' : Listener) : e.listener = some i → s.listeners[i]? = some l →
      l.step e = some l' → (∀ j, e ≠ .unregister j) → Stepped s e (s.put i l')
  | unregister (i : Nat) (l l' : Listener) : e = .unregister i → s.listeners[i]? = some l →
      l.step e = some l' → Stepped s e ((s.put i l').delete l.swapId)

/-- What a listener may do. Reference: `swaps/swaps_service.go:885`, `:1053`. -/
inductive Moved (l : Listener) (e : Event) : Listener → Prop
  | subscribed (i : Nat) : e = .subscribe i true → l.phase = .subscribing →
      Moved l e { l with phase := .preparing }
  | retries (i : Nat) : e = .subscribe i false → l.phase = .subscribing → Moved l e l
  | prepared (i : Nat) : e = .prepare i true → l.phase = .preparing →
      Moved l e { l with phase := .reading }
  | failed (i : Nat) : e = .prepare i false → l.phase = .preparing →
      Moved l e { l with phase := .leaving }
  | reads (i : Nat) (update : SwapMessage) : e = .select i (.update update) → l.phase = .reading →
      l.updateCh = some update →
      Moved l e { l with phase := .handling (.update update), updateCh := none }
  | signalled (i : Nat) (signal : SwapSignal) : e = .select i signal → l.phase = .reading →
      (∀ update, signal ≠ .update update) → Moved l e { l with phase := .handling signal }
  | handled (i : Nat) (outcome : Outcome) (signal : SwapSignal) : e = .handle i outcome →
      l.phase = .handling signal → outcome ∈ outcomes l.type l.swapId signal →
      Moved l e { l with phase := outcome.phase }
  | refunds (i : Nat) : e = .refund i false → l.phase = .refunding → Moved l e l
  | refunded (i : Nat) : e = .refund i true → l.phase = .refunding →
      Moved l e { l with phase := .leaving }
  | unregistered (i : Nat) : e = .unregister i → l.phase = .leaving →
      Moved l e { l with phase := .ended }

section
variable {s s' : SwapsHub} {e : Event} {i : Nat} {l l' : Listener} {update : SwapMessage}

theorem swapsStep_of_listener {i : Nat} (he : e.listener = some i) (hne : ∀ j, e ≠ .unregister j) :
    swapsStep s e = s.listeners[i]?.bind fun l => (l.step e).map (s.put i) := by
  cases e with
  | unregister j => exact absurd rfl (hne j)
  | subscribe j _ | prepare j _ | select j _ | handle j _ | refund j _ =>
    obtain rfl := Option.some.inj he
    simp only [swapsStep]
    cases s.listeners[j]? <;> rfl
  | _ => cases he

theorem swapsStep_cases (hs : swapsStep s e = some s') : Stepped s e s' := by
  have hlistener : ∀ {i : Nat}, e.listener = some i → (∀ j, e ≠ .unregister j) →
      Stepped s e s' := by
    intro i he hne
    rw [swapsStep_of_listener he hne] at hs
    obtain ⟨l, hl, hs⟩ := Option.bind_eq_some_iff.1 hs
    obtain ⟨l', hl', rfl⟩ := Option.map_eq_some_iff.1 hs
    exact .listener i l l' he hl hl' hne
  cases e with
  | start type swapId =>
    cases hs
    exact .start type swapId rfl
  | receive update =>
    simp only [swapsStep] at hs
    split at hs
    · next hd =>
      cases hs
      unfold SwapsHub.receive
      split
      · next ch hch => exact .sends update ch rfl hd.1 hch
      · next hnone => exact .drops update rfl hd.1 hnone
    · cases hs
  | close =>
    cases hs
    exact .close rfl
  | receiveClosed =>
    simp only [swapsStep] at hs
    split at hs
    · next hd =>
      cases hs
      exact .spin rfl hd.2
    · cases hs
  | send =>
    simp only [swapsStep] at hs
    split at hs
    · cases hs
    · next update ch hd =>
      split at hs
      · cases hs
      · next l hl =>
        split at hs
        · next hempty =>
          cases hs
          exact .sent update ch l rfl hd hl hempty
        · cases hs
  | unregister i =>
    simp only [swapsStep] at hs
    split at hs
    · cases hs
    · next l hl =>
      obtain ⟨l', hl', rfl⟩ := Option.map_eq_some_iff.1 hs
      exact .unregister i l l' rfl hl hl'
  | subscribe i ok => exact hlistener rfl fun _ => Event.noConfusion
  | prepare i ok => exact hlistener rfl fun _ => Event.noConfusion
  | select i signal => exact hlistener rfl fun _ => Event.noConfusion
  | handle i outcome => exact hlistener rfl fun _ => Event.noConfusion
  | refund i ended => exact hlistener rfl fun _ => Event.noConfusion

theorem Listener.step_cases (hs : l.step e = some l') : Moved l e l' := by
  cases e with
  | subscribe i ok =>
    simp only [Listener.step] at hs
    split at hs
    · next hp =>
      cases hs
      cases ok with
      | false => exact .retries i rfl hp
      | true => exact .subscribed i rfl hp
    · cases hs
  | prepare i ok =>
    simp only [Listener.step] at hs
    split at hs
    · next hp =>
      cases hs
      cases ok with
      | false => exact .failed i rfl hp
      | true => exact .prepared i rfl hp
    · cases hs
  | select i signal =>
    simp only [Listener.step] at hs
    split at hs
    · next hp =>
      split at hs
      · next update =>
        split at hs
        · next hch =>
          cases hs
          exact .reads i update rfl hp hch
        · cases hs
      · cases hs
      · next hupdate _ =>
        cases hs
        exact .signalled i signal rfl hp hupdate
    · cases hs
  | handle i outcome =>
    simp only [Listener.step] at hs
    split at hs
    · next signal hp =>
      split at hs
      · next ho =>
        cases hs
        exact .handled i outcome signal rfl hp ho
      · cases hs
    · cases hs
  | refund i ended =>
    simp only [Listener.step] at hs
    split at hs
    · next hp =>
      cases hs
      cases ended with
      | false => exact .refunds i rfl hp
      | true => exact .refunded i rfl hp
    · cases hs
  | unregister i =>
    simp only [Listener.step] at hs
    split at hs
    · next hp =>
      cases hs
      exact .unregistered i rfl hp
    · cases hs
  | _ => cases hs

/-- A listener stays the one of its swap. Reference: none. -/
theorem Moved.swapId (hm : Moved l e l') : l'.swapId = l.swapId := by
  cases hm <;> rfl

/-- A listener that has stopped reading has stopped for good. Reference:
`swaps/swaps_service.go:904`. -/
theorem Moved.stopped (hm : Moved l e l') (hstopped : l.stopped = true) :
    l'.stopped = true ∧ l'.updateCh = l.updateCh := by
  unfold Listener.stopped at hstopped
  cases hm with
  | subscribed i he hp => rw [hp] at hstopped; cases hstopped
  | retries i he hp => rw [hp] at hstopped; cases hstopped
  | prepared i he hp => rw [hp] at hstopped; cases hstopped
  | failed i he hp => rw [hp] at hstopped; cases hstopped
  | reads i update he hp hch => rw [hp] at hstopped; cases hstopped
  | signalled i signal he hp hs => rw [hp] at hstopped; cases hstopped
  | handled i outcome signal he hp ho =>
    rw [hp] at hstopped
    cases outcome with
    | again => exact absurd ho (of_decide_eq_true hstopped)
    | refund => exact ⟨rfl, rfl⟩
    | stop => exact ⟨rfl, rfl⟩
  | refunds i he hp =>
    refine ⟨?_, rfl⟩
    unfold Listener.stopped
    rw [hp]
  | refunded i he hp => exact ⟨rfl, rfl⟩
  | unregistered i he hp => exact ⟨rfl, rfl⟩

end

/-! ## Every update is delivered or dropped -/

/-- The channels belong to the listeners of their swaps, and every update that was received has gone
to such a channel, was dropped, or is in the hand of the dispatcher. Reference:
`swaps/swaps_service.go:106 NewSwapsService`. -/
structure Accounted (s : SwapsHub) : Prop where
  registered : ∀ swapId ch, s.swapListeners swapId = some ch →
    ∃ l, s.listeners[ch]? = some l ∧ l.swapId = swapId
  sending : ∀ update ch, s.dispatcher = .sending update ch →
    ∃ l, s.listeners[ch]? = some l ∧ l.swapId = update.id
  delivered : ∀ update ch, (update, some ch) ∈ s.dispatched →
    ∃ l, s.listeners[ch]? = some l ∧ l.swapId = update.id
  account : s.received = s.dispatched.map (·.1) ++ s.inHand

section
variable {s s' : SwapsHub} {e : Event} {i : Nat} {l l' : Listener}

theorem put_listeners_of_ne {j : Nat} (hne : j ≠ i) :
    (s.put i l').listeners[j]? = s.listeners[j]? :=
  List.getElem?_set_ne (Ne.symm hne)

theorem put_listeners_self (hl : s.listeners[i]? = some l) :
    (s.put i l').listeners[i]? = some l' := by
  obtain ⟨hlt, -⟩ := List.getElem?_eq_some_iff.1 hl
  exact List.getElem?_set_self hlt

/-- A listener that is put in the place of another one of its swap. Reference: none. -/
theorem put_swapId (hl : s.listeners[i]? = some l) (hid : l'.swapId = l.swapId) {ch : Nat}
    {swapId : String} (h : ∃ l, s.listeners[ch]? = some l ∧ l.swapId = swapId) :
    ∃ l, (s.put i l').listeners[ch]? = some l ∧ l.swapId = swapId := by
  obtain ⟨l₁, hl₁, hswap⟩ := h
  by_cases he : ch = i
  · rw [he] at hl₁ ⊢
    rw [hl] at hl₁
    cases hl₁
    exact ⟨l', put_listeners_self hl, hid.trans hswap⟩
  · exact ⟨l₁, (put_listeners_of_ne he).trans hl₁, hswap⟩

theorem Accounted.put (ha : Accounted s) (hl : s.listeners[i]? = some l)
    (hid : l'.swapId = l.swapId) : Accounted (s.put i l') where
  registered swapId ch hch := put_swapId hl hid (ha.registered swapId ch hch)
  sending update ch hd := put_swapId hl hid (ha.sending update ch hd)
  delivered update ch hmem := put_swapId hl hid (ha.delivered update ch hmem)
  account := ha.account

/-- One step. Reference: none. -/
theorem Accounted.step (ha : Accounted s) (hs : swapsStep s e = some s') : Accounted s' := by
  cases swapsStep_cases hs with
  | start type swapId he =>
    have hold : ∀ {ch : Nat} {id : String}, (∃ l, s.listeners[ch]? = some l ∧ l.swapId = id) →
        ∃ l, (s.listeners ++ [({ type, swapId } : Listener)])[ch]? = some l ∧ l.swapId = id := by
      rintro ch id ⟨l, hl, hid⟩
      obtain ⟨hlt, -⟩ := List.getElem?_eq_some_iff.1 hl
      exact ⟨l, (List.getElem?_append_left hlt).trans hl, hid⟩
    refine ⟨fun id ch hch => ?_, fun update ch hd => hold (ha.sending update ch hd),
      fun update ch hmem => hold (ha.delivered update ch hmem), ha.account⟩
    have hch : (if id = swapId then some s.listeners.length else s.swapListeners id) = some ch :=
      hch
    split at hch
    · next hid =>
      cases hch
      exact ⟨_, List.getElem?_concat_length, hid.symm⟩
    · exact hold (ha.registered id ch hch)
  | sends update ch he hd hch =>
    have haccount := ha.account
    rw [show s.inHand = [] by rw [SwapsHub.inHand, hd], List.append_nil] at haccount
    refine ⟨ha.registered, ?_, ha.delivered, ?_⟩
    · rintro update' ch' hd'
      cases hd'
      exact ha.registered update.id ch hch
    · show s.received ++ [update] = s.dispatched.map (·.1) ++ [update]
      rw [haccount]
  | drops update he hd hnone =>
    have haccount := ha.account
    have hhand : s.inHand = [] := by rw [SwapsHub.inHand, hd]
    rw [hhand, List.append_nil] at haccount
    refine ⟨ha.registered, ha.sending, fun update' ch hmem => ?_, ?_⟩
    · rcases List.mem_append.1 hmem with hmem | hmem
      · exact ha.delivered update' ch hmem
      · cases List.mem_singleton.1 hmem
    · show s.received ++ [update] = (s.dispatched ++ [(update, none)]).map Prod.fst ++ s.inHand
      rw [haccount, hhand, List.map_append, List.append_nil]
      rfl
  | close he => exact ⟨ha.registered, ha.sending, ha.delivered, ha.account⟩
  | spin he hc => exact ha
  | sent update ch l he hd hl hempty =>
    have haccount := ha.account
    rw [show s.inHand = [update] by rw [SwapsHub.inHand, hd]] at haccount
    have hput : Accounted (s.put ch { l with updateCh := some update }) := ha.put hl rfl
    refine ⟨hput.registered, nofun, fun update' ch' hmem => ?_, ?_⟩
    · rcases List.mem_append.1 hmem with hmem | hmem
      · exact hput.delivered update' ch' hmem
      · cases List.mem_singleton.1 hmem
        exact hput.sending update ch hd
    · show s.received = (s.dispatched ++ [(update, some ch)]).map Prod.fst ++ []
      rw [haccount, List.map_append, List.append_nil]
      rfl
  | listener i l l' he hl hstep hne => exact ha.put hl (Listener.step_cases hstep).swapId
  | unregister i l l' he hl hstep =>
    have hput := ha.put hl (Listener.step_cases hstep).swapId
    refine ⟨fun id ch hch => ?_, hput.sending, hput.delivered, hput.account⟩
    have hch : (if id = l.swapId then none else s.swapListeners id) = some ch := hch
    split at hch
    · cases hch
    · exact hput.registered id ch hch

theorem accounted_run {es : List Event} (ha : Accounted s)
    (hr : runLabels swapsStep s es = some s') : Accounted s' := by
  induction es generalizing s with
  | nil => cases hr; exact ha
  | cons e es ih =>
    obtain ⟨s₁, hs, hr⟩ := Option.bind_eq_some_iff.1 hr
    exact ih (ha.step hs) hr

theorem accounted_newSwapsHub : Accounted newSwapsHub := ⟨nofun, nofun, nofun, rfl⟩

end

/-! ## When the dispatcher stays blocked -/

/-- The dispatcher holds an update for a full channel whose listener has stopped reading. Reference:
`swaps/swaps_service.go:118 NewSwapsService`. -/
def Stalled (s : SwapsHub) : Prop :=
  ∃ update ch l, s.dispatcher = .sending update ch ∧ s.listeners[ch]? = some l ∧
    l.stopped = true ∧ l.updateCh ≠ none

/-- From here the dispatcher gets rid of its update, and nothing but the listener `i` has moved.
Reference: none. -/
def Clears (s : SwapsHub) (i : Nat) : Prop :=
  ∃ es s', runLabels swapsStep s es = some s' ∧ s'.dispatcher = .receiving ∧
    s'.received = s.received ∧ s'.closed = s.closed ∧ s'.swapListeners = s.swapListeners ∧
    ∀ j, j ≠ i → s'.listeners[j]? = s.listeners[j]?

section
variable {s s' : SwapsHub} {e : Event} {i : Nat} {l l' : Listener} {update : SwapMessage}

/-- A step of the listener, after which the dispatcher gets rid of its update. Reference: none. -/
theorem Clears.of_put (hs : swapsStep s e = some (s.put i l')) (h : Clears (s.put i l') i) :
    Clears s i := by
  obtain ⟨es, s', hr, hd, hreceived, hclosed, hmap, hothers⟩ := h
  refine ⟨e :: es, s', ?_, hd, hreceived, hclosed, hmap, fun j hj => ?_⟩
  · show (swapsStep s e).bind _ = some s'
    rw [hs]
    exact hr
  · rw [hothers j hj]
    exact put_listeners_of_ne hj

/-- The channel is empty. Reference: `swaps/swaps_service.go:118 NewSwapsService`. -/
theorem clears_empty (hd : s.dispatcher = .sending update i) (hl : s.listeners[i]? = some l)
    (hempty : l.updateCh = none) : Clears s i := by
  have hs : swapsStep s .send = some { s.put i { l with updateCh := some update } with
      dispatcher := .receiving, dispatched := s.dispatched ++ [(update, some i)] } := by
    simp only [swapsStep, hd, hl, hempty, if_true]
  refine ⟨[.send], { s.put i { l with updateCh := some update } with
      dispatcher := .receiving, dispatched := s.dispatched ++ [(update, some i)] }, ?_, rfl, rfl,
        rfl,
    rfl, fun j hj => put_listeners_of_ne hj⟩
  show (swapsStep s .send).bind _ = _
  rw [hs]
  rfl

/-- The listener waits for a signal. Reference: `swaps/swaps_service.go:980`, `:1151`. -/
theorem clears_reading {unread : SwapMessage} (hd : s.dispatcher = .sending update i)
    (hl : s.listeners[i]? = some l) (hp : l.phase = .reading) (hfull : l.updateCh = some unread) :
    Clears s i := by
  have hs : swapsStep s (.select i (.update unread)) =
      some (s.put i { l with phase := .handling (.update unread), updateCh := none }) := by
    simp only [swapsStep, Listener.step, hl, hp, hfull, if_true, Option.map_some]
  exact .of_put hs (clears_empty hd (put_listeners_self hl) rfl)

/-- The listener has subscribed. Reference: `swaps/swaps_service.go:915`, `:1083`. -/
theorem clears_preparing {unread : SwapMessage} (hd : s.dispatcher = .sending update i)
    (hl : s.listeners[i]? = some l) (hp : l.phase = .preparing) (hfull : l.updateCh = some unread) :
    Clears s i := by
  have hs : swapsStep s (.prepare i true) = some (s.put i { l with phase := .reading }) := by
    simp only [swapsStep, Listener.step, hl, hp, if_true, Option.map_some]
  exact .of_put hs (clears_reading hd (put_listeners_self hl) rfl hfull)

/-- A listener that has not stopped, or an empty channel. Reference: `swaps/swaps_service.go:118
NewSwapsService`. -/
theorem clears_of_free (hd : s.dispatcher = .sending update i) (hl : s.listeners[i]? = some l)
    (hfree : l.stopped = true → l.updateCh = none) : Clears s i := by
  cases hfull : l.updateCh with
  | none => exact clears_empty hd hl hfull
  | some unread =>
    have hreads : l.stopped = false := by
      cases hstopped : l.stopped with
      | false => rfl
      | true =>
        rw [hfree hstopped] at hfull
        cases hfull
    unfold Listener.stopped at hreads
    cases hp : l.phase with
    | subscribing =>
      have hs : swapsStep s (.subscribe i true) = some (s.put i { l with
          phase := .preparing }) := by
        simp only [swapsStep, Listener.step, hl, hp, if_true, Option.map_some]
      exact .of_put hs (clears_preparing hd (put_listeners_self hl) rfl hfull)
    | preparing => exact clears_preparing hd hl hp hfull
    | reading => exact clears_reading hd hl hp hfull
    | handling signal =>
      rw [hp] at hreads
      have hagain : .again ∈ outcomes l.type l.swapId signal :=
        Decidable.not_not.1 (of_decide_eq_false hreads)
      have hs : swapsStep s (.handle i .again) = some (s.put i { l with phase := .reading }) := by
        simp only [swapsStep, Listener.step, hl, hp, hagain, if_true, Option.map_some]
        rfl
      exact .of_put hs (clears_reading hd (put_listeners_self hl) rfl hfull)
    | refunding => rw [hp] at hreads; cases hreads
    | leaving => rw [hp] at hreads; cases hreads
    | ended => rw [hp] at hreads; cases hreads

/-- A stall lasts. Reference: `swaps/swaps_service.go:118 NewSwapsService`. -/
theorem stalled_step {ch : Nat} (hd : s.dispatcher = .sending update ch)
    (hl : s.listeners[ch]? = some l) (hstopped : l.stopped = true) (hfull : l.updateCh ≠ none)
    (hs : swapsStep s e = some s') :
    s'.dispatcher = .sending update ch ∧
      ∃ l', s'.listeners[ch]? = some l' ∧ l'.stopped = true ∧ l'.updateCh ≠ none := by
  have hput : ∀ {i : Nat} {l₁ l₁' : Listener}, s.listeners[i]? = some l₁ → Moved l₁ e l₁' →
      ∃ l', (s.put i l₁').listeners[ch]? = some l' ∧ l'.stopped = true ∧ l'.updateCh ≠ none := by
    intro i l₁ l₁' hl₁ hm
    by_cases he : ch = i
    · subst he
      rw [hl] at hl₁
      cases hl₁
      obtain ⟨hstopped', hch⟩ := hm.stopped hstopped
      exact ⟨l₁', put_listeners_self hl, hstopped', hch ▸ hfull⟩
    · exact ⟨l, (put_listeners_of_ne he).trans hl, hstopped, hfull⟩
  cases swapsStep_cases hs with
  | start type swapId he =>
    obtain ⟨hlt, -⟩ := List.getElem?_eq_some_iff.1 hl
    exact ⟨hd, l, (List.getElem?_append_left hlt).trans hl, hstopped, hfull⟩
  | sends update' ch' he hd' hch => rw [hd] at hd'; cases hd'
  | drops update' he hd' hnone => rw [hd] at hd'; cases hd'
  | close he => exact ⟨hd, l, hl, hstopped, hfull⟩
  | spin he hc => exact ⟨hd, l, hl, hstopped, hfull⟩
  | sent update' ch' l₁ he hd' hl₁ hempty =>
    rw [hd] at hd'
    cases hd'
    rw [hl] at hl₁
    cases hl₁
    exact absurd hempty hfull
  | listener i l₁ l₁' he hl₁ hstep hne => exact ⟨hd, hput hl₁ (Listener.step_cases hstep)⟩
  | unregister i l₁ l₁' he hl₁ hstep => exact ⟨hd, hput hl₁ (Listener.step_cases hstep)⟩

theorem Stalled.run {es : List Event} (hstalled : Stalled s)
    (hr : runLabels swapsStep s es = some s') : s'.dispatcher = s.dispatcher ∧ Stalled s' := by
  induction es generalizing s with
  | nil => cases hr; exact ⟨rfl, hstalled⟩
  | cons e es ih =>
    obtain ⟨s₁, hs, hr⟩ := Option.bind_eq_some_iff.1 hr
    obtain ⟨update, ch, l, hd, hl, hstopped, hfull⟩ := hstalled
    obtain ⟨hd₁, l₁, hl₁, hstopped₁, hfull₁⟩ := stalled_step hd hl hstopped hfull hs
    obtain ⟨hd', hstalled'⟩ := ih ⟨update, ch, l₁, hd₁, hl₁, hstopped₁, hfull₁⟩ hr
    exact ⟨hd'.trans (hd₁.trans hd.symm), hstalled'⟩

/-- The dispatcher stays blocked for ever if and only if the listener it sends to has stopped
reading and has left an update in its channel. Reference: `swaps/swaps_service.go:118
NewSwapsService`. -/
theorem staysBlocked_iff (ha : Accounted s) : StaysBlocked s ↔ Stalled s := by
  constructor
  · rintro ⟨⟨update, ch, hd⟩, hblocked⟩
    obtain ⟨l, hl, -⟩ := ha.sending update ch hd
    by_cases hfree : l.stopped = true → l.updateCh = none
    · obtain ⟨es, s', hr, hd', -⟩ := clears_of_free hd hl hfree
      have hsame := hblocked es s' hr
      rw [hd, hd'] at hsame
      cases hsame
    · exact ⟨update, ch, l, hd, hl, by simpa using hfree⟩
  · rintro ⟨update, ch, l, hd, hl, hstopped, hfull⟩
    refine ⟨⟨update, ch, hd⟩, fun es s' hr => ?_⟩
    exact (Stalled.run ⟨update, ch, l, hd, hl, hstopped, hfull⟩ hr).1

end

/-! ## Runs without a stall -/

/-- The channel that is registered for the update is empty, or its listener has not stopped reading.
Reference: `swaps/swaps_service.go:114 NewSwapsService`. -/
def Free (s : SwapsHub) (update : SwapMessage) : Prop :=
  ∀ ch l, s.swapListeners update.id = some ch → s.listeners[ch]? = some l →
    l.stopped = true → l.updateCh = none

/-- The listener stops reading with this event, and does not empty its channel. Reference:
`swaps/swaps_service.go:979`, `:1150`. -/
def Listener.stopsAt (l : Listener) : Event → Bool
  | .prepare _ ok => !ok
  | .select _ (.update _) => false
  | .select _ signal => .again ∉ outcomes l.type l.swapId signal
  | .handle _ outcome => outcome ≠ .again
  | _ => false

/-- What a step needs: the channel of the websocket is not closed; an update arrives while its
channel is empty or read; a listener does not stop with an update in its channel while the
dispatcher holds another one for it. Reference: `swaps/swaps_service.go:106 NewSwapsService`. -/
def Timely (s : SwapsHub) (e : Event) : Prop :=
  e ≠ .close ∧ (∀ update, e = .receive update → Free s update) ∧
    ∀ i l update, e.listener = some i → s.listeners[i]? = some l → l.stopsAt e = true →
      s.dispatcher = .sending update i → l.updateCh = none

/-- What holds while the steps are timely. Reference: none. -/
structure Flowing (s : SwapsHub) : Prop where
  accounted : Accounted s
  opened : s.closed = false
  free : ∀ update ch l, s.dispatcher = .sending update ch → s.listeners[ch]? = some l →
    l.stopped = true → l.updateCh = none

section
variable {s s' : SwapsHub} {e : Event} {i : Nat} {l l' : Listener}

/-- A listener that stops leaves an empty channel. Reference: none. -/
theorem Moved.free (hm : Moved l e l') (hfree : l.stopped = true → l.updateCh = none)
    (hstops : l.stopsAt e = true → l.updateCh = none) :
    l'.stopped = true → l'.updateCh = none := by
  intro hstopped
  unfold Listener.stopped at hstopped
  cases hm with
  | subscribed i he hp => cases hstopped
  | retries i he hp => rw [hp] at hstopped; cases hstopped
  | prepared i he hp => cases hstopped
  | failed i he hp =>
    subst he
    exact hstops rfl
  | reads i update he hp hch => rfl
  | signalled i signal he hp hs =>
    subst he
    refine hstops ?_
    cases signal with
    | update update => exact absurd rfl (hs update)
    | _ => exact hstopped
  | handled i outcome signal he hp ho =>
    subst he
    cases outcome with
    | again => cases hstopped
    | refund => exact hstops rfl
    | stop => exact hstops rfl
  | refunds i he hp => exact hfree (by unfold Listener.stopped; rw [hp])
  | refunded i he hp => exact hfree (by unfold Listener.stopped; rw [hp])
  | unregistered i he hp => exact hfree (by unfold Listener.stopped; rw [hp])

/-- One step. Reference: none. -/
theorem Flowing.step (hf : Flowing s) (ht : Timely s e) (hs : swapsStep s e = some s') :
    Flowing s' := by
  obtain ⟨hclose, harrives, hstops⟩ := ht
  have ha' := hf.accounted.step hs
  have hput : ∀ {i : Nat} {l₁ l₁' : Listener}, e.listener = some i → s.listeners[i]? = some l₁ →
      Moved l₁ e l₁' → ∀ update ch l, s.dispatcher = .sending update ch →
      (s.put i l₁').listeners[ch]? = some l → l.stopped = true → l.updateCh = none := by
    intro i l₁ l₁' he hl₁ hm update ch l hd hl
    by_cases hch : ch = i
    · subst hch
      rw [put_listeners_self hl₁] at hl
      cases hl
      exact hm.free (hf.free update ch l₁ hd hl₁) fun hst => hstops ch l₁ update he hl₁ hst hd
    · rw [put_listeners_of_ne hch] at hl
      exact hf.free update ch l hd hl
  cases swapsStep_cases hs with
  | start type swapId he =>
    refine ⟨ha', hf.opened, fun update ch l hd hl => ?_⟩
    obtain ⟨l₀, hl₀, -⟩ := hf.accounted.sending update ch hd
    obtain ⟨hlt, -⟩ := List.getElem?_eq_some_iff.1 hl₀
    rw [List.getElem?_append_left hlt] at hl
    exact hf.free update ch l hd hl
  | sends update ch he hd hch =>
    refine ⟨ha', hf.opened, ?_⟩
    rintro update' ch' l hd' hl
    cases hd'
    exact harrives update he ch l hch hl
  | drops update he hd hnone => exact ⟨ha', hf.opened, hf.free⟩
  | close he => exact absurd he hclose
  | spin he hc => exact hf
  | sent update ch l he hd hl hempty =>
    refine ⟨ha', hf.opened, ?_⟩
    rintro update' ch' l' hd'
    cases hd'
  | listener i l l' he hl hstep hne =>
    exact ⟨ha', hf.opened, hput he hl (Listener.step_cases hstep)⟩
  | unregister i l l' he hl hstep =>
    have hlistener : e.listener = some i := by rw [he]; rfl
    exact ⟨ha', hf.opened, hput hlistener hl (Listener.step_cases hstep)⟩

theorem Flowing.clears {update : SwapMessage} {ch : Nat} (hf : Flowing s)
    (hd : s.dispatcher = .sending update ch) : Clears s ch := by
  obtain ⟨l, hl, -⟩ := hf.accounted.sending update ch hd
  exact clears_of_free hd hl (hf.free update ch l hd hl)

/-- The dispatcher receives the update and gets rid of it. Reference: `swaps/swaps_service.go:106
NewSwapsService`. -/
def Dispatches (s : SwapsHub) (update : SwapMessage) : Prop :=
  ∃ es s', runLabels swapsStep s es = some s' ∧ s'.dispatcher = .receiving ∧
    s'.received = s.received ++ [update]

theorem runLabels_append {es es' : List Event} {s₁ : SwapsHub}
    (hr : runLabels swapsStep s es = some s₁) (hr' : runLabels swapsStep s₁ es' = some s') :
    runLabels swapsStep s (es ++ es') = some s' := by
  induction es generalizing s with
  | nil => cases hr; exact hr'
  | cons e es ih =>
    obtain ⟨s₂, hs, hr⟩ := Option.bind_eq_some_iff.1 hr
    show (swapsStep s e).bind _ = some s'
    rw [hs]
    exact ih hr

/-- A dispatcher that waits takes the next update. Reference: `swaps/swaps_service.go:108
NewSwapsService`. -/
theorem dispatches_receiving {update : SwapMessage} (ha : Accounted s) (ho : s.closed = false)
    (hd : s.dispatcher = .receiving) (hfree : Free s update) : Dispatches s update := by
  have hreceive : swapsStep s (.receive update) = some (s.receive update) := by
    simp only [swapsStep, hd, ho, and_self, if_true]
  cases hch : s.swapListeners update.id with
  | none =>
    refine ⟨[.receive update], s.receive update, ?_, ?_, ?_⟩
    · show (swapsStep s (.receive update)).bind _ = _
      rw [hreceive]
      rfl
    · simp only [SwapsHub.receive, hch]
      exact hd
    · simp only [SwapsHub.receive, hch]
  | some ch =>
    obtain ⟨l, hl, -⟩ := ha.registered update.id ch hch
    have heq : s.receive update =
        { s with dispatcher := .sending update ch, received := s.received ++ [update] } := by
      simp only [SwapsHub.receive, hch]
    have hclears : Clears (s.receive update) ch := by
      rw [heq]
      have hsending : Dispatcher.sending update ch = .sending update ch := rfl
      exact clears_of_free hsending hl (hfree ch l hch hl)
    obtain ⟨es, s', hr, hd', hreceived, -⟩ := hclears
    refine ⟨.receive update :: es, s', ?_, hd', ?_⟩
    · show (swapsStep s (.receive update)).bind _ = _
      rw [hreceive]
      exact hr
    · rw [hreceived, heq]

/-- The updates of the other swaps are still dispatched. Reference: `swaps/swaps_service.go:106
NewSwapsService`. -/
theorem Flowing.dispatches {update : SwapMessage} (hf : Flowing s) (hfree : Free s update)
    (hother : ∀ held ∈ s.inHand, held.id ≠ update.id) : Dispatches s update := by
  cases hd : s.dispatcher with
  | receiving => exact dispatches_receiving hf.accounted hf.opened hd hfree
  | sending held ch =>
    obtain ⟨es, s₁, hr, hd₁, hreceived, hclosed, hmap, hothers⟩ := hf.clears hd
    have hfree₁ : Free s₁ update := by
      intro ch' l' hch' hl'
      rw [hmap] at hch'
      -- the channel of another swap is another one
      have hne : ch' ≠ ch := by
        rintro rfl
        obtain ⟨l, hl, hid⟩ := hf.accounted.sending held ch' hd
        obtain ⟨l₁, hl₁, hid₁⟩ := hf.accounted.registered update.id ch' hch'
        rw [hl] at hl₁
        cases hl₁
        exact hother held (by rw [SwapsHub.inHand, hd]; exact List.mem_singleton.2 rfl)
          (hid.symm.trans hid₁)
      rw [hothers ch' hne] at hl'
      exact hfree ch' l' hch' hl'
    obtain ⟨es', s', hr', hd', hreceived'⟩ := dispatches_receiving (accounted_run hf.accounted hr)
      (hclosed.trans hf.opened) hd₁ hfree₁
    exact ⟨es ++ es', s', runLabels_append hr hr', hd', by rw [hreceived', hreceived]⟩

theorem flowing_run {es : List Event} (ha : AllowsLabels swapsStep Timely newSwapsHub es)
    (hr : runLabels swapsStep newSwapsHub es = some s) : Flowing s := by
  have hstart : Flowing newSwapsHub := by
    refine ⟨accounted_newSwapsHub, rfl, ?_⟩
    rintro update ch l hd
    cases hd
  exact run_induction hstart (fun _ _ _ hf ht hs => hf.step ht hs) ha hr

end

/-- In every run whose steps are timely the dispatcher neither stays blocked nor spins, every update
is delivered to the listener of its swap or dropped, and the updates of other swaps are still
dispatched. Reference: `swaps/swaps_service.go:106 NewSwapsService`. -/
theorem updates_never_stall {es : List Event} {s : SwapsHub}
    (ha : AllowsLabels swapsStep Timely newSwapsHub es)
    (hr : runLabels swapsStep newSwapsHub es = some s) :
    ¬ StaysBlocked s ∧ ¬ Spins s ∧ Accounted s ∧
      ∀ update, Free s update → (∀ held ∈ s.inHand, held.id ≠ update.id) → Dispatches s update := by
  have hf := flowing_run ha hr
  refine ⟨fun hblocked => ?_, fun hspins => ?_, hf.accounted, fun update hfree hother => ?_⟩
  · obtain ⟨update, ch, l, hd, hl, hstopped, hfull⟩ := (staysBlocked_iff hf.accounted).1 hblocked
    exact hfull (hf.free update ch l hd hl hstopped)
  · simp only [Spins, swapsStep, hf.opened, Bool.false_eq_true, and_false, if_false] at hspins
    cases hspins
  · exact hf.dispatches hfree hother

instance decidableFree (s : SwapsHub) (update : SwapMessage) : Decidable (Free s update) :=
  decidable_of_iff (∀ ch ∈ s.swapListeners update.id, ∀ l ∈ s.listeners[ch]?,
      l.stopped = true → l.updateCh = none)
    ⟨fun h ch l hch hl => h ch hch l hl, fun h ch hch l hl => h ch l hch hl⟩

/-- The update that an event brings from the websocket. Reference: `swaps/swaps_service.go:108
NewSwapsService`. -/
def Event.received : Event → Option SwapMessage
  | .receive update => some update
  | _ => none

/-- The channel that the dispatcher sends on. Reference: `swaps/swaps_service.go:118
NewSwapsService`. -/
def Dispatcher.target : Dispatcher → Option Nat
  | .receiving => none
  | .sending _ ch => some ch

instance decidableTimely (s : SwapsHub) (e : Event) : Decidable (Timely s e) :=
  decidable_of_iff (e ≠ .close ∧ (∀ update ∈ e.received, Free s update) ∧
      ∀ i ∈ e.listener, ∀ l ∈ s.listeners[i]?, l.stopsAt e = true →
        s.dispatcher.target = some i → l.updateCh = none) <| by
    refine and_congr_right fun _ => and_congr ⟨fun h update he => ?_, fun h update he => ?_⟩
      ⟨fun h i l update hi hl hst hd => ?_, fun h i hi l hl hst hd => ?_⟩
    · exact h update (by rw [he]; rfl)
    · cases e with
      | receive update' => cases he; exact h _ rfl
      | _ => cases he
    · exact h i hi l hl hst (by rw [hd]; rfl)
    · cases hdispatcher : s.dispatcher with
      | receiving => rw [hdispatcher] at hd; cases hd
      | sending update ch =>
        rw [hdispatcher] at hd
        cases hd
        exact h i l update hi hl hst hdispatcher

/-- A swap-in and a swap-out have subscribed, and the invoice of the swap-in cannot be paid.
Reference: `swaps/swaps_service.go:885 startSwapInListener`, `:1053 startSwapOutListener`. -/
def refundRun : List Event :=
  [.start .swapIn "a", .subscribe 0 true, .prepare 0 true,
    .start .swapOut "b", .subscribe 1 true, .prepare 1 true,
    .receive ⟨"a", .invoiceFailedToPay, "", ""⟩, .send,
    .select 0 (.update ⟨"a", .invoiceFailedToPay, "", ""⟩), .handle 0 .refund]

/-- What is seen of the hub. Reference: none. -/
def look (s : SwapsHub) : Dispatcher × List (Phase × Option SwapMessage) :=
  (s.dispatcher, s.listeners.map fun l => (l.phase, l.updateCh))

/-- The swap-in is being refunded, and one more update of it has arrived. Reference:
`swaps/swaps_service.go:1044 startSwapInListener`. -/
theorem updates_never_stall_refund : ∃ s,
    look s = (.receiving, [(.refunding, some ⟨"a", .swapExpired, "", ""⟩), (.reading, none)]) ∧
      ¬ StaysBlocked s ∧ ¬ Spins s ∧ Accounted s ∧
      ∀ update, Free s update → (∀ held ∈ s.inHand, held.id ≠ update.id) → Dispatches s update := by
  have hlook : (runLabels swapsStep newSwapsHub
      (refundRun ++ [.receive ⟨"a", .swapExpired, "", ""⟩, .send])).map look =
        some (.receiving, [(.refunding, some ⟨"a", .swapExpired, "", ""⟩), (.reading, none)]) := by
    decide +kernel
  obtain ⟨s, hr, hs⟩ := Option.map_eq_some_iff.1 hlook
  have htimely : AllowsLabels swapsStep Timely newSwapsHub
      (refundRun ++ [.receive ⟨"a", .swapExpired, "", ""⟩, .send]) := by
    decide +kernel
  exact ⟨s, hs, updates_never_stall htimely hr⟩

/-- Two more updates of the swap-in arrive while it is being refunded: the dispatcher stays blocked,
and no update of the other swap is received any more. Reference: `swaps/swaps_service.go:106
NewSwapsService`, `:732 RefundSwap`. -/
theorem updates_stall : ∃ es s, runLabels swapsStep newSwapsHub es = some s ∧
    look s = (.sending ⟨"a", .swapExpired, "", ""⟩ 0,
      [(.refunding, some ⟨"a", .swapExpired, "", ""⟩), (.reading, none)]) ∧
    StaysBlocked s ∧ ∀ update, ¬ Dispatches s update := by
  have hlook : (runLabels swapsStep newSwapsHub
      (refundRun ++ [.receive ⟨"a", .swapExpired, "", ""⟩, .send,
        .receive ⟨"a", .swapExpired, "", ""⟩])).map look =
        some (.sending ⟨"a", .swapExpired, "", ""⟩ 0,
          [(.refunding, some ⟨"a", .swapExpired, "", ""⟩), (.reading, none)]) := by
    decide +kernel
  obtain ⟨s, hr, hs⟩ := Option.map_eq_some_iff.1 hlook
  obtain ⟨hd, hlisteners⟩ := Prod.mk.inj hs
  have hblocked : StaysBlocked s := by
    refine (staysBlocked_iff (accounted_run accounted_newSwapsHub hr)).2 ?_
    match hl : s.listeners with
    | [l, l'] =>
      rw [hl] at hlisteners
      simp only [List.map_cons, List.map_nil, List.cons.injEq, Prod.mk.injEq] at hlisteners
      obtain ⟨⟨hphase, hch⟩, -⟩ := hlisteners
      refine ⟨_, 0, l, hd, by rw [hl]; rfl, ?_, ?_⟩
      · rw [Listener.stopped, hphase]
      · rw [hch]
        nofun
    | [] | [l] | l :: l' :: l'' :: ls =>
      rw [hl] at hlisteners
      exact absurd (congrArg List.length hlisteners) (by simp)
  refine ⟨_, s, hr, hs, hblocked, fun update ⟨es, s', hr', hd', _⟩ => ?_⟩
  have hsame := hblocked.2 es s' hr'
  rw [hd', hd] at hsame
  cases hsame

end AlbyHub.Dispatch
