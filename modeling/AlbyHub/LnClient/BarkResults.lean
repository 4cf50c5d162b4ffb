import AlbyHub.LnClient.BarkSends

/-!
# Where the result of a Bark send goes

A result is sent on the channel that is registered under the hash when the notification is handled,
whoever registered it. A step keeps every result with its own attempt, or published, exactly where
it meets a condition on the state that it is taken in (`reached_step_iff`): a result is taken only
for the call that it is about and that still waits for it, an event is published only about a result
that no call has, and `PayLightningInvoice` fails only for a call without a result. So the results
of a run all reach their attempts exactly where all of its steps meet it (`sends_reach_iff`).
-/

namespace AlbyHub.BarkSends

open Interaction

variable {s s' : State} {a b : Nat} {c : Attempt} {x : Sent} {act : Action}

/-! ## Safety -/

/-- The call still comes to receive its result, unless `PayLightningInvoice` fails. Reference:
`lnclient/bark/bark.go:507 SendPaymentSync`, `:512 SendPaymentSync`. -/
def Phase.live : Phase → Bool
  | .paying | .waiting => true
  | _ => false

/-- The result is on its way to the call, or the call has it. Reference: none. -/
def Holds (s : State) (b : Nat) (x : Sent) : Prop :=
  s.delivering = some (b, x) ∨ (s.attempts b).resultCh = some x ∨
    (s.attempts b).returned = some (.sent x)

/-- The call of the attempt has returned its result, or is going to. Reference: none. -/
def Returns (s : State) (a : Nat) : Prop :=
  ∃ r, (s.attempts a).returned = some (.sent ⟨a, r⟩) ∨
    ((s.attempts a).phase.live = true ∧
      ((s.attempts a).resultCh = some ⟨a, r⟩ ∨ s.delivering = some (a, ⟨a, r⟩)))

/-- The result of the attempt is published. Reference: none. -/
def Publishes (s : State) (a : Nat) : Prop := ∃ event, (a, event) ∈ s.published

/-- Every call has at most the result of its own attempt, and the result of every attempt that is
known to have ended is either returned by its call or published. Reference: none. -/
structure Reached (s : State) : Prop where
  own : ∀ b x, Holds s b x → x.attempt = b
  outcome : ∀ a, (s.attempts a).handled = true →
    (Returns s a ∧ ¬Publishes s a) ∨ (¬Returns s a ∧ Publishes s a)

/-- The channel that the movement is answered on. Reference: `lnclient/bark/bark.go:538
takeInflightSend`. -/
def State.waiter (s : State) (movement : Movement) : Option Nat :=
  (paymentHashFromMovement movement).bind s.inflightSends

/-- The event that is published for want of a waiter. Reference: `lnclient/bark/bark.go:379
deliverSendResult`. -/
def fallback (movement : Movement) (state : Except String LightningSendStatus) : Option SendEvent :=
  (paymentHashFromMovement movement).bind fun paymentHash =>
    (sendOutcome movement paymentHash state).2

/-- A call fails to pay only without a result; a movement that has ended is answered on the channel
of its own attempt, whose call comes to receive it, or there is no channel and an event is published
exactly where the result has not gone anywhere yet. Reference: `lnclient/bark/bark.go:373
deliverSendResult`, `:507 SendPaymentSync`. -/
def Meets (s : State) : Action → Prop
  | .pay a (some _) => (s.attempts a).resultCh = none ∧ ∀ x, s.delivering ≠ some (a, x)
  | .notify a movement state => movement.status ≠ movementStatusPending →
    match s.waiter movement with
    | some b => b = a ∧ (s.attempts a).phase.live = true
    | none => (Returns s a → fallback movement state = none) ∧
      (¬Returns s a → Publishes s a ∨ fallback movement state ≠ none)
  | _ => True

/-! ## What every run keeps -/

/-- What every step keeps: a channel that is registered is that of a call with this hash that has no
result, a result is sent once, and a result or an event is about an attempt that is known to have
ended. Reference: `lnclient/bark/bark.go:522 registerInflightSend`, `:538 takeInflightSend`. -/
structure Kept (s : State) : Prop where
  unmade : ∀ a, s.made ≤ a → s.attempts a = {}
  live : ∀ a, (s.attempts a).phase.live = true → (s.attempts a).returned = none
  inflight : ∀ h b, s.inflightSends h = some b → b < s.made ∧ (s.attempts b).paymentHash = h ∧
    (∀ x, ¬Holds s b x) ∧ ¬Publishes s b
  delivering : ∀ b x, s.delivering = some (b, x) → b < s.made ∧ (s.attempts b).resultCh = none ∧
    ∀ y, (s.attempts b).returned ≠ some (.sent y)
  results : ∀ b x, Holds s b x → (s.attempts x.attempt).handled = true
  events : ∀ a, Publishes s a → (s.attempts a).handled = true

@[simp] theorem put_attempts : (s.put a c).attempts = Function.update s.attempts a c := rfl

@[simp] theorem put_delivering : (s.put a c).delivering = s.delivering := rfl

@[simp] theorem put_published : (s.put a c).published = s.published := rfl

@[simp] theorem put_inflightSends : (s.put a c).inflightSends = s.inflightSends := rfl

@[simp] theorem put_made : (s.put a c).made = s.made := rfl

theorem kept_new : Kept newBarkService where
  unmade _ _ := rfl
  live _ h := by cases h
  inflight _ _ h := by cases h
  delivering _ _ h := by cases h
  results b x h := by rcases h with h | h | h <;> cases h
  events a h := by
    obtain ⟨event, h⟩ := h
    cases h

theorem reached_new : Reached newBarkService where
  own b x h := by rcases h with h | h | h <;> cases h
  outcome a h := by cases h

/-- A step that moves no result away from its call and handles no notification. Reference: none. -/
theorem Reached.of_same (hr : Reached s) (hholds : ∀ b x, Holds s' b x → Holds s b x)
    (hreturns : ∀ a, Returns s' a ↔ Returns s a)
    (hhandled : ∀ a, (s'.attempts a).handled = (s.attempts a).handled)
    (hpublished : s'.published = s.published) : Reached s' where
  own b x h := hr.own b x (hholds b x h)
  outcome a h := by
    rw [hhandled] at h
    rw [hreturns, Publishes, hpublished]
    exact hr.outcome a h

/-- A call has no result after a step of another one. Reference: none. -/
theorem holds_put_of_ne (hne : b ≠ a) : Holds (s.put a c) b x ↔ Holds s b x := by
  simp [Holds, hne]

/-- A step of one call, which gets no result from elsewhere. Reference: none. -/
theorem Kept.put (hk : Kept s) (ha : a < s.made)
    (hhash : c.paymentHash = (s.attempts a).paymentHash)
    (hlive : c.phase.live = true → c.returned = none)
    (hhandled : (s.attempts a).handled = true → c.handled = true)
    (hresult : ∀ x, c.resultCh = some x ∨ c.returned = some (.sent x) →
      (s.attempts a).resultCh = some x ∨ (s.attempts a).returned = some (.sent x)) :
    Kept (s.put a c) := by
  have hhandled' : ∀ b, (s.attempts b).handled = true →
      ((s.put a c).attempts b).handled = true := by
    intro b hb
    rw [put_attempts]
    by_cases heq : b = a
    · subst heq
      rw [Function.update_self]
      exact hhandled hb
    · rwa [Function.update_of_ne heq]
  have hholds : ∀ b x, Holds (s.put a c) b x → Holds s b x := by
    intro b x h
    by_cases heq : b = a
    · subst heq
      simp only [Holds, put_delivering, put_attempts, Function.update_self] at h
      rcases h with h | h
      · exact .inl h
      · exact .inr (hresult x h)
    · exact (holds_put_of_ne heq).1 h
  constructor
  · intro b hb
    rw [put_attempts, Function.update_of_ne (by rintro rfl; exact absurd ha (Nat.not_lt.2 hb))]
    exact hk.unmade b hb
  · intro b hb
    rw [put_attempts] at hb ⊢
    by_cases heq : b = a
    · subst heq
      rw [Function.update_self] at hb ⊢
      exact hlive hb
    · rw [Function.update_of_ne heq] at hb ⊢
      exact hk.live b hb
  · intro h b hb
    obtain ⟨hmade, hash, hnone, hpublishes⟩ := hk.inflight h b hb
    refine ⟨hmade, ?_, fun x hx => hnone x (hholds b x hx), hpublishes⟩
    rw [put_attempts]
    by_cases heq : b = a
    · subst heq
      rwa [Function.update_self, hhash]
    · rwa [Function.update_of_ne heq]
  · intro b x hb
    obtain ⟨hmade, hnone, hreturned⟩ := hk.delivering b x hb
    refine ⟨hmade, ?_⟩
    rw [put_attempts]
    by_cases heq : b = a
    · subst heq
      rw [Function.update_self]
      have hempty : ∀ x, ¬(c.resultCh = some x ∨ c.returned = some (.sent x)) := by
        intro x hx
        rcases hresult x hx with h | h
        · rw [hnone] at h
          cases h
        · exact hreturned x h
      exact ⟨Option.eq_none_iff_forall_ne_some.2 fun y hy => hempty y (.inl hy),
        fun y hy => hempty y (.inr hy)⟩
    · rw [Function.update_of_ne heq]
      exact ⟨hnone, hreturned⟩
  · intro b x hx
    exact hhandled' _ (hk.results b x (hholds b x hx))
  · intro b hb
    exact hhandled' b (hk.events b hb)

/-- A channel is taken out of the map. Reference: `lnclient/bark/bark.go:532 clearInflightSend`. -/
theorem Kept.delete (hk : Kept s) {h : String} : Kept (s.delete h) where
  unmade := hk.unmade
  live := hk.live
  inflight h' b hb := by
    have hb : Function.update s.inflightSends h none h' = some b := hb
    by_cases heq : h' = h
    · rw [heq, Function.update_self] at hb
      cases hb
    · rw [Function.update_of_ne heq] at hb
      exact hk.inflight h' b hb
  delivering := hk.delivering
  results := hk.results
  events := hk.events

/-- An attempt that is made has no result. Reference: none. -/
theorem Kept.not_made (hk : Kept s) : ∀ x, ¬Holds s s.made x := by
  have hnew := hk.unmade s.made (Nat.le_refl _)
  rintro x (h | h | h)
  · exact absurd (hk.delivering _ _ h).1 (Nat.lt_irrefl _)
  · rw [hnew] at h
    cases h
  · rw [hnew] at h
    cases h

/-- A new attempt. Reference: none. -/
theorem Kept.make (hk : Kept s) (hlive : c.phase.live = true → c.returned = none)
    (hch : c.resultCh = none) (hreturned : ∀ x, c.returned ≠ some (.sent x)) : Kept (s.make c) := by
  have hnew := hk.unmade s.made (Nat.le_refl _)
  have hother : ∀ {b}, b ≠ s.made → (s.make c).attempts b = s.attempts b :=
    fun hne => Function.update_of_ne hne _ _
  have hself : (s.make c).attempts s.made = c := Function.update_self _ _ _
  have hholds : ∀ b x, Holds (s.make c) b x → Holds s b x := by
    intro b x h
    by_cases heq : b = s.made
    · subst heq
      rcases h with h | h | h
      · exact .inl h
      · rw [hself, hch] at h
        cases h
      · rw [hself] at h
        exact absurd h (hreturned x)
    · rwa [Holds, hother heq] at h
  have hhandled : ∀ b, (s.attempts b).handled = true → ((s.make c).attempts b).handled = true := by
    intro b hb
    by_cases heq : b = s.made
    · rw [heq, hnew] at hb
      cases hb
    · rwa [hother heq]
  constructor
  · intro b hb
    have hb : s.made + 1 ≤ b := hb
    rw [hother (by omega)]
    exact hk.unmade b (by omega)
  · intro b hb
    by_cases heq : b = s.made
    · rw [heq, hself] at hb ⊢
      exact hlive hb
    · rw [hother heq] at hb ⊢
      exact hk.live b hb
  · intro h b hb
    obtain ⟨hmade, hash, hnone, hpublishes⟩ := hk.inflight h b hb
    refine ⟨Nat.lt_succ_of_lt hmade, ?_, fun x hx => hnone x (hholds b x hx), hpublishes⟩
    rwa [hother (Nat.ne_of_lt hmade)]
  · intro b x hb
    obtain ⟨hmade, hempty⟩ := hk.delivering b x hb
    rw [hother (Nat.ne_of_lt hmade)]
    exact ⟨Nat.lt_succ_of_lt hmade, hempty⟩
  · intro b x hx
    exact hhandled _ (hk.results b x (hholds b x hx))
  · intro b hb
    exact hhandled b (hk.events b hb)

/-! ## What a step does -/

/-- What a step may do. Reference: `lnclient/bark/bark.go:293 handleLightningSendMovement`, `:487
SendPaymentSync`. -/
inductive Stepped (s : State) : Action → State → Prop
  | earlier (h : String) : Stepped s (.earlier h) (s.make { paymentHash := h, phase := .done })
  | refused (h : String) (b : Nat) : s.inflightSends h = some b → Stepped s (.call h)
      (s.make { paymentHash := h, phase := .done, returned := some .alreadyInFlight })
  | registered (h : String) : s.inflightSends h = none → Stepped s (.call h)
      { s.make { paymentHash := h, phase := .paying } with
        inflightSends := Function.update s.inflightSends h (some s.made) }
  | paid (a : Nat) : (s.attempts a).phase = .paying →
      Stepped s (.pay a none) (s.put a { s.attempts a with phase := .waiting })
  | notPaid (a : Nat) (e : String) : (s.attempts a).phase = .paying → Stepped s (.pay a (some e))
      (s.put a { s.attempts a with phase := .clearing, returned := some (.notPaid e) })
  | received (a : Nat) (x : Sent) : (s.attempts a).phase = .waiting →
    (s.attempts a).resultCh = some x →
      Stepped s (.receive a) (s.put a { s.attempts a with
        phase := .clearing, resultCh := none, returned := some (.sent x) })
  | cleared (a : Nat) : (s.attempts a).phase = .clearing → Stepped s (.clear a)
      ((s.put a { s.attempts a with phase := .done }).delete (s.attempts a).paymentHash)
  | notified (a : Nat) (movement : Movement) (state : Except String LightningSendStatus) :
      s.delivering = none → a < s.made →
      (movement.paymentHash = none ∨ movement.paymentHash = some (s.attempts a).paymentHash) →
      Stepped s (.notify a movement state) (s.handleLightningSendMovement a movement state)
  | delivered (b : Nat) (x : Sent) : s.delivering = some (b, x) → Stepped s .deliver
      { s.put b { s.attempts b with resultCh := some x } with delivering := none }

theorem barkStep_cases (hs : barkStep s act = some s') : Stepped s act s' := by
  cases act with
  | earlier h =>
    cases hs
    exact .earlier h
  | call h =>
    simp only [barkStep] at hs
    split at hs
    · next b hb =>
      cases hs
      exact .refused h b hb
    · next hnone =>
      cases hs
      exact .registered h hnone
  | pay a err =>
    obtain ⟨hphase, hs⟩ := Option.ite_none_right_eq_some.1 hs
    cases err with
    | none =>
      cases hs
      exact .paid a hphase
    | some e =>
      cases hs
      exact .notPaid a e hphase
  | receive a =>
    simp only [barkStep] at hs
    split at hs
    · next x hphase hch =>
      cases hs
      exact .received a x hphase hch
    · cases hs
  | clear a =>
    obtain ⟨hphase, hs⟩ := Option.ite_none_right_eq_some.1 hs
    cases hs
    exact .cleared a hphase
  | notify a movement state =>
    obtain ⟨⟨hidle, hmade, -, hhash⟩, hs⟩ := Option.ite_none_right_eq_some.1 hs
    cases hs
    exact .notified a movement state hidle hmade hhash
  | deliver =>
    simp only [barkStep] at hs
    split at hs
    · cases hs
    · next b x hb =>
      obtain ⟨-, hs⟩ := Option.ite_none_right_eq_some.1 hs
      cases hs
      exact .delivered b x hb

/-- An attempt that is not idle was made. Reference: none. -/
theorem Kept.lt_made (hk : Kept s) (ha : (s.attempts a).phase ≠ .idle) : a < s.made := by
  by_contra hnot
  rw [hk.unmade a (Nat.not_lt.1 hnot)] at ha
  exact ha rfl

/-- The notification about the end of a movement is noted. Reference: none. -/
theorem Kept.note (hk : Kept s) (ha : a < s.made) :
    Kept (s.put a { s.attempts a with handled := true }) :=
  hk.put ha rfl (hk.live a) (fun _ => rfl) fun _ h => h

/-- The result is delivered or published. Reference: `lnclient/bark/bark.go:375
deliverSendResult`. -/
theorem Kept.deliverSendResult (hk : Kept s) {outcome : SendResult × Option SendEvent} {h : String}
    (hhandled : (s.attempts a).handled = true)
    (hash : (s.attempts a).paymentHash = h) : Kept (s.deliverSendResult a h outcome) := by
  rw [State.deliverSendResult]
  split
  · next b hb =>
    obtain ⟨hmade, -, hnone, -⟩ := hk.inflight h b hb
    have hdelete := hk.delete (h := h)
    refine ⟨hk.unmade, hk.live, ?_, ?_, ?_, hk.events⟩
    · intro h' b' hb'
      obtain ⟨hmade', hash', hnone', hpublishes'⟩ := hdelete.inflight h' b' hb'
      refine ⟨hmade', hash', ?_, hpublishes'⟩
      rintro x (hx | hx)
      · cases hx
        have hne : h' ≠ h := by
          rintro rfl
          have hb' : Function.update s.inflightSends h' none h' = some b := hb'
          rw [Function.update_self] at hb'
          cases hb'
        exact hne (hash'.symm.trans (hk.inflight h b hb).2.1)
      · exact hnone' x (.inr hx)
    · intro b' x hb'
      cases hb'
      refine ⟨hmade, Option.eq_none_iff_forall_ne_some.2 fun y hy => hnone y (.inr (.inl hy)),
        fun y hy => ?_⟩
      exact hnone y (.inr (.inr hy))
    · rintro b' x (hx | hx)
      · cases hx
        exact hhandled
      · exact hk.results b' x (.inr hx)
  · next hnone =>
    split
    · next event he =>
      have hpublishes : ∀ b, (∃ event', (b, event') ∈ s.published ++ [(a, event)]) → b = a ∨
          Publishes s b := by
        rintro b ⟨event', hb⟩
        rcases List.mem_append.1 hb with hb | hb
        · exact .inr ⟨event', hb⟩
        · rw [List.mem_singleton] at hb
          exact .inl (Prod.mk.inj hb).1
      refine ⟨hk.unmade, hk.live, ?_, hk.delivering, hk.results, ?_⟩
      · intro h' b hb
        obtain ⟨hmade, hash', hnone', hpublishes'⟩ := hk.inflight h' b hb
        refine ⟨hmade, hash', hnone', fun hp => ?_⟩
        rcases hpublishes b hp with rfl | hp
        · have hb : s.inflightSends h' = some b := hb
          rw [← hash', hash, hnone] at hb
          cases hb
        · exact hpublishes' hp
      · intro b hb
        rcases hpublishes b hb with rfl | hp
        · exact hhandled
        · exact hk.events b hp
    · exact hk

/-- A movement that carries a hash carries that of its attempt. Reference:
`lnclient/bark/bark.go:385 paymentHashFromMovement`. -/
theorem paymentHash_of_from {movement : Movement} {hash h : String}
    (hhash : movement.paymentHash = none ∨ movement.paymentHash = some hash)
    (hfrom : paymentHashFromMovement movement = some h) : hash = h := by
  unfold paymentHashFromMovement at hfrom
  rcases hhash with heq | heq
  · rw [heq] at hfrom
    cases hfrom
  · rw [heq] at hfrom
    simp only at hfrom
    split at hfrom
    · cases hfrom
    · exact Option.some.inj hfrom

/-- The result is sent on the channel. Reference: `lnclient/bark/bark.go:377 deliverSendResult`. -/
theorem Kept.delivered (hk : Kept s) (hb : s.delivering = some (b, x)) :
    (∀ b' y, Holds { s.put b { s.attempts b with resultCh := some x } with
      delivering := none } b' y →
      Holds s b' y) ∧
        Kept { s.put b { s.attempts b with resultCh := some x } with delivering := none } := by
  obtain ⟨hmade, hnone, hreturned⟩ := hk.delivering b x hb
  have hother : ∀ {b'}, b' ≠ b →
      Function.update s.attempts b { s.attempts b with resultCh := some x } b' = s.attempts b' :=
    fun hne => Function.update_of_ne hne _ _
  have hself : Function.update s.attempts b { s.attempts b with resultCh := some x } b =
      { s.attempts b with resultCh := some x } := Function.update_self _ _ _
  have hsame : ∀ b',
      (Function.update s.attempts b { s.attempts b with resultCh := some x } b').paymentHash =
      (s.attempts b').paymentHash ∧ (Function.update s.attempts b
      { s.attempts b with resultCh := some x } b').handled = (s.attempts b').handled := by
    intro b'
    by_cases heq : b' = b
    · rw [heq, hself]
      exact ⟨rfl, rfl⟩
    · rw [hother heq]
      exact ⟨rfl, rfl⟩
  have hholds : ∀ b' y,
      Holds { s.put b { s.attempts b with resultCh := some x } with delivering := none } b' y →
      Holds s b' y := by
    intro b' y h
    simp only [Holds, put_attempts, reduceCtorEq, false_or] at h
    by_cases heq : b' = b
    · rw [heq, hself] at h
      rw [heq]
      rcases h with h | h
      · cases h
        exact .inl hb
      · exact .inr (.inr h)
    · rw [hother heq] at h
      exact .inr h
  refine ⟨hholds, ?_⟩
  constructor
  · intro a ha
    have ha : s.made ≤ a := ha
    show Function.update s.attempts b _ a = {}
    rw [hother (Nat.ne_of_gt (Nat.lt_of_lt_of_le hmade ha))]
    exact hk.unmade a ha
  · intro a ha
    have ha : (Function.update s.attempts b { s.attempts b with resultCh := some x } a).phase.live =
        true := ha
    show (Function.update s.attempts b { s.attempts b with resultCh := some x } a).returned = none
    by_cases heq : a = b
    · rw [heq, hself] at ha ⊢
      exact hk.live b ha
    · rw [hother heq] at ha ⊢
      exact hk.live a ha
  · intro h b' hb'
    obtain ⟨hmade', hash, hempty, hpublishes⟩ := hk.inflight h b' hb'
    exact ⟨hmade', (hsame b').1.trans hash, fun y hy => hempty y (hholds b' y hy), hpublishes⟩
  · nofun
  · intro b' y hy
    exact (hsame _).2.trans (hk.results b' y (hholds b' y hy))
  · intro a ha
    exact (hsame a).2.trans (hk.events a ha)

/-- What every step keeps. Reference: `lnclient/bark/bark.go:293 handleLightningSendMovement`, `:487
SendPaymentSync`. -/
theorem Kept.step (hk : Kept s) (hs : barkStep s act = some s') : Kept s' := by
  cases barkStep_cases hs with
  | earlier h => exact hk.make nofun rfl nofun
  | refused h b hb => exact hk.make nofun rfl nofun
  | registered h hnone =>
    have hmake : Kept (s.make { paymentHash := h, phase := .paying }) :=
      hk.make (fun _ => rfl) rfl nofun
    refine ⟨hmake.unmade, hmake.live, ?_, hmake.delivering, hmake.results, hmake.events⟩
    intro h' b hb
    have hb : Function.update s.inflightSends h (some s.made) h' = some b := hb
    by_cases heq : h' = h
    · subst heq
      rw [Function.update_self] at hb
      cases hb
      have hself : (s.make { paymentHash := h', phase := .paying }).attempts s.made =
          { paymentHash := h', phase := .paying } := Function.update_self _ _ _
      refine ⟨Nat.lt_succ_self _, ?_, ?_, ?_⟩
      · exact congrArg Attempt.paymentHash hself
      · rintro x (hx | hx | hx)
        · exact hk.not_made x (.inl hx)
        · have hx := (congrArg Attempt.resultCh hself).symm.trans hx
          cases hx
        · have hx := (congrArg Attempt.returned hself).symm.trans hx
          cases hx
      · intro hp
        have hhandled := hk.events s.made hp
        rw [hk.unmade s.made (Nat.le_refl _)] at hhandled
        cases hhandled
    · rw [Function.update_of_ne heq] at hb
      exact hmake.inflight h' b hb
  | paid a hphase =>
    have hlive := hk.live a (by rw [hphase]; rfl)
    exact hk.put (hk.lt_made (by rw [hphase]; nofun)) rfl (fun _ => hlive) id fun _ h => h
  | notPaid a e hphase =>
    refine hk.put (hk.lt_made (by rw [hphase]; nofun)) rfl nofun id ?_
    rintro x (h | h)
    · exact .inl h
    · cases h
  | received a x hphase hch =>
    refine hk.put (hk.lt_made (by rw [hphase]; nofun)) rfl nofun id ?_
    rintro y (h | h)
    · cases h
    · cases h
      exact .inl hch
  | cleared a hphase =>
    have hput :=
      hk.put (c := { s.attempts a with phase := .done }) (hk.lt_made (by rw [hphase]; nofun)) rfl
      nofun id fun _ h => h
    exact hput.delete
  | notified a movement state hidle hmade hhash =>
    rw [State.handleLightningSendMovement]
    split
    · exact hk
    · have hnote := hk.note hmade
      split
      · exact hnote
      · next h hfrom =>
        refine hnote.deliverSendResult ?_ ?_
        · rw [put_attempts, Function.update_self]
        · rw [put_attempts, Function.update_self]
          exact paymentHash_of_from hhash hfrom
  | delivered b x hb => exact (hk.delivered hb).2

/-! ## Where the results go -/

/-- Where the result of an attempt is returned, the end of its movement is known, and nothing is
published. Reference: none. -/
theorem Reached.of_returns (hk : Kept s) (hr : Reached s) (ha : Returns s a) :
    (s.attempts a).handled = true ∧ ¬Publishes s a := by
  have hhandled : (s.attempts a).handled = true := by
    obtain ⟨r, h | ⟨-, h | h⟩⟩ := ha
    · exact hk.results a ⟨a, r⟩ (.inr (.inr h))
    · exact hk.results a ⟨a, r⟩ (.inr (.inl h))
    · exact hk.results a ⟨a, r⟩ (.inl h)
  rcases hr.outcome a hhandled with ⟨-, h⟩ | ⟨h, -⟩
  · exact ⟨hhandled, h⟩
  · exact absurd ha h

/-- A step that changes neither the results nor the events. Reference: none. -/
theorem reached_put (hr : Reached s) (hresult : ∀ x, c.resultCh = some x ∨
    c.returned = some (.sent x) →
      (s.attempts a).resultCh = some x ∨ (s.attempts a).returned = some (.sent x))
    (hhandled : c.handled = (s.attempts a).handled)
    (hreturns : Returns (s.put a c) a ↔ Returns s a) : Reached (s.put a c) := by
  refine hr.of_same ?_ ?_ ?_ rfl
  · intro b x h
    by_cases heq : b = a
    · subst heq
      simp only [Holds, put_delivering, put_attempts, Function.update_self] at h
      rcases h with h | h
      · exact .inl h
      · exact .inr (hresult x h)
    · exact (holds_put_of_ne heq).1 h
  · intro b
    by_cases heq : b = a
    · rw [heq]
      exact hreturns
    · simp [Returns, heq]
  · intro b
    by_cases heq : b = a
    · subst heq
      rw [put_attempts, Function.update_self, hhandled]
    · rw [put_attempts, Function.update_of_ne heq]

/-- A new attempt has no result. Reference: none. -/
theorem reached_make (hk : Kept s) (hr : Reached s) (hch : c.resultCh = none)
    (hreturned : ∀ x, c.returned ≠ some (.sent x)) (hhandled : c.handled = false) :
    Reached (s.make c) := by
  have hnew := hk.unmade s.made (Nat.le_refl _)
  have hput : Reached (s.put s.made c) := by
    refine reached_put hr ?_ (by rw [hhandled, hnew]) ?_
    · rintro x (h | h)
      · rw [hch] at h
        cases h
      · exact absurd h (hreturned x)
    · have hdelivering : ∀ y, s.delivering ≠ some (s.made, y) := fun y hy => hk.not_made y (.inl hy)
      simp [Returns, hnew, hch, hreturned, hdelivering]
  exact ⟨hput.own, hput.outcome⟩

/-- A call whose payment fails loses the result that it was sent. Reference:
`lnclient/bark/bark.go:507 SendPaymentSync`. -/
theorem reached_notPaid (hk : Kept s) (hr : Reached s) {e : String}
    (hphase : (s.attempts a).phase = .paying) :
    Reached (s.put a { s.attempts a with phase := .clearing, returned := some (.notPaid e) }) ↔
      ((s.attempts a).resultCh = none ∧ ∀ x, s.delivering ≠ some (a, x)) := by
  have hlive : (s.attempts a).phase.live = true := by rw [hphase]; rfl
  have hreturned := hk.live a hlive
  have hlost : ¬Returns (s.put a { s.attempts a with
      phase := .clearing, returned := some (.notPaid e) }) a := by
    simp [Returns, Phase.live]
  have hmeets : ((s.attempts a).resultCh = none ∧ ∀ x, s.delivering ≠ some (a, x)) ↔
      ¬Returns s a := by
    constructor
    · rintro ⟨hch, hdelivering⟩ ⟨r, h | ⟨-, h | h⟩⟩
      · rw [hreturned] at h
        cases h
      · rw [hch] at h
        cases h
      · exact hdelivering _ h
    · intro hnot
      refine ⟨Option.eq_none_iff_forall_ne_some.2 fun x hx => hnot ?_, fun x hx => hnot ?_⟩
      · obtain rfl := hr.own a x (.inr (.inl hx))
        exact ⟨x.result, .inr ⟨hlive, .inl hx⟩⟩
      · obtain rfl := hr.own a x (.inl hx)
        exact ⟨x.result, .inr ⟨hlive, .inr hx⟩⟩
  rw [hmeets]
  constructor
  · intro hr' ha
    obtain ⟨hhandled, hpublishes⟩ := hr.of_returns hk ha
    have hhandled' : ((s.put a { s.attempts a with
        phase := .clearing, returned := some (.notPaid e) }).attempts a).handled = true := by
      rw [put_attempts, Function.update_self]
      exact hhandled
    rcases hr'.outcome a hhandled' with ⟨h, -⟩ | ⟨-, h⟩
    · exact hlost h
    · exact hpublishes h
  · intro ha
    refine reached_put hr ?_ rfl ⟨fun h => absurd h hlost, fun h => absurd h ha⟩
    rintro x (h | h)
    · exact .inl h
    · cases h

/-- The attempt, whose movement is known to have ended. Reference: none. -/
def State.note (s : State) (a : Nat) : State := s.put a { s.attempts a with handled := true }

theorem note_attempts (s : State) (a b : Nat) : (s.note a).attempts b =
    { s.attempts b with handled := (s.attempts b).handled || decide (b = a) } := by
  by_cases heq : b = a
  · subst heq
    simp [State.note]
  · simp [State.note, heq]

@[simp] theorem holds_note : Holds (s.note a) b x ↔ Holds s b x := by
  rw [Holds, note_attempts]
  rfl

@[simp] theorem returns_note : Returns (s.note a) b ↔ Returns s b := by
  rw [Returns, note_attempts]
  rfl

/-- The end of a movement that is neither delivered nor published. Reference:
`lnclient/bark/bark.go:373 deliverSendResult`. -/
theorem reached_note (hk : Kept s) (hr : Reached s) :
    Reached (s.note a) ↔ (¬Returns s a → Publishes s a) := by
  constructor
  · intro hr' hnot
    rcases hr'.outcome a (by simp [note_attempts]) with ⟨h, -⟩ | ⟨-, h⟩
    · exact absurd (returns_note.1 h) hnot
    · exact h
  · intro hpublishes
    refine ⟨fun b x h => hr.own b x (holds_note.1 h), fun b hb => ?_⟩
    rw [returns_note]
    by_cases heq : b = a
    · subst heq
      by_cases ha : Returns s b
      · exact .inl ⟨ha, (hr.of_returns hk ha).2⟩
      · exact .inr ⟨ha, hpublishes ha⟩
    · refine hr.outcome b ?_
      simpa [note_attempts, heq] using hb

/-- The end of a movement that is published. Reference: `lnclient/bark/bark.go:381
deliverSendResult`. -/
theorem reached_publish (hr : Reached s) {event : SendEvent} :
    Reached { s.note a with published := s.published ++ [(a, event)] } ↔ ¬Returns s a := by
  have hreturns : ∀ b, Returns { s.note a with published := s.published ++ [(a, event)] } b ↔
      Returns s b :=
    fun _ => returns_note
  have hself : Publishes { s.note a with published := s.published ++ [(a, event)] } a :=
    ⟨event, List.mem_append_right _ (List.mem_singleton.2 rfl)⟩
  have hother : ∀ {b}, b ≠ a →
      (Publishes { s.note a with published := s.published ++ [(a, event)] } b ↔ Publishes s b) := by
    intro b hne
    simp [Publishes, hne]
  constructor
  · intro hr' ha
    have hhandled : ((s.note a).attempts a).handled = true := by simp [note_attempts]
    rcases hr'.outcome a hhandled with ⟨-, h⟩ | ⟨h, -⟩
    · exact h hself
    · exact h ((hreturns a).2 ha)
  · intro hnot
    refine ⟨fun b x h => hr.own b x (holds_note.1 h), fun b hb => ?_⟩
    rw [hreturns]
    by_cases heq : b = a
    · rw [heq]
      exact .inr ⟨hnot, hself⟩
    · rw [hother heq]
      refine hr.outcome b ?_
      have hb : ((s.note a).attempts b).handled = true := hb
      simpa [note_attempts, heq] using hb

/-- The end of a movement that is sent to a call. Reference: `lnclient/bark/bark.go:377
deliverSendResult`. -/
theorem reached_take (hk : Kept s) (hr : Reached s) {h : String} {res : SendResult}
    (hidle : s.delivering = none) (hb : s.inflightSends h = some b) :
    Reached { (s.note a).delete h with delivering := some (b, ⟨a, res⟩) } ↔
      (b = a ∧ (s.attempts a).phase.live = true) := by
  obtain ⟨-, -, hempty, hpublishes⟩ := hk.inflight h b hb
  have hreturns : ∀ {c}, c ≠ b →
      (Returns { (s.note a).delete h with delivering := some (b, ⟨a, res⟩) } c ↔ Returns s c) := by
    intro c hne
    have hattempts : ({ (s.note a).delete h with
        delivering := some (b, ⟨a, res⟩) } : State).attempts c =
        (s.note a).attempts c := rfl
    rw [Returns, Returns, hattempts, note_attempts, hidle]
    simp [hne.symm]
  constructor
  · intro hr'
    have hba : b = a := (hr'.own b ⟨a, res⟩ (.inl rfl)).symm
    subst hba
    refine ⟨rfl, ?_⟩
    have hhandled : ((s.note b).attempts b).handled = true := by simp [note_attempts]
    rcases hr'.outcome b hhandled with ⟨⟨r, hret | ⟨hlive, -⟩⟩, -⟩ | ⟨-, h⟩
    · have hret : ((s.note b).attempts b).returned = some (.sent ⟨b, r⟩) := hret
      rw [note_attempts] at hret
      exact absurd (.inr (.inr hret)) (hempty ⟨b, r⟩)
    · have hlive : ((s.note b).attempts b).phase.live = true := hlive
      rwa [note_attempts] at hlive
    · exact absurd h hpublishes
  · rintro ⟨rfl, hlive⟩
    refine ⟨?_, fun c hc => ?_⟩
    · rintro c x (hx | hx)
      · cases hx
        rfl
      · exact hr.own c x (holds_note.1 (.inr hx))
    · by_cases heq : c = b
      · rw [heq]
        refine .inl ⟨⟨res, .inr ⟨?_, .inr rfl⟩⟩, hpublishes⟩
        show ((s.note b).attempts b).phase.live = true
        rwa [note_attempts]
      · rw [hreturns heq]
        refine hr.outcome c ?_
        have hc : ((s.note b).attempts c).handled = true := hc
        simpa [note_attempts, heq] using hc

/-- A notification keeps the results with their attempts exactly where it meets the condition.
Reference: `lnclient/bark/bark.go:293 handleLightningSendMovement`. -/
theorem reached_notified (hk : Kept s) (hr : Reached s) {movement : Movement}
    {state : Except String LightningSendStatus} (hidle : s.delivering = none) :
    Reached (s.handleLightningSendMovement a movement state) ↔
      Meets s (.notify a movement state) := by
  rw [State.handleLightningSendMovement, Meets, State.waiter, fallback]
  split
  · next hpending => exact ⟨fun _ h => absurd hpending h, fun _ => hr⟩
  · next hended =>
    cases paymentHashFromMovement movement with
    | none =>
      refine (reached_note hk hr).trans ?_
      simp [hended]
    | some h =>
      cases hb : s.inflightSends h with
      | some b =>
        have hdeliver : (s.note a).deliverSendResult a h (sendOutcome movement h state) =
            { (s.note a).delete h with
              delivering := some (b, ⟨a, (sendOutcome movement h state).1⟩) } := by
          have hb : (s.note a).inflightSends h = some b := hb
          rw [State.deliverSendResult, hb]
        show Reached ((s.note a).deliverSendResult a h (sendOutcome movement h state)) ↔ _
        rw [hdeliver, reached_take hk hr hidle hb]
        simp [hended, hb]
      | none =>
        have hb' : (s.note a).inflightSends h = none := hb
        show Reached ((s.note a).deliverSendResult a h (sendOutcome movement h state)) ↔ _
        rw [State.deliverSendResult, hb']
        cases hevent : (sendOutcome movement h state).2 with
        | none =>
          refine (reached_note hk hr).trans ?_
          simp [hended, hb, hevent]
        | some event =>
          refine (reached_publish hr).trans ?_
          simp [hended, hb, hevent]

/-- A step keeps every result with its attempt, or published, exactly where it meets the condition.
Reference: `lnclient/bark/bark.go:293 handleLightningSendMovement`, `:487 SendPaymentSync`. -/
theorem reached_step_iff (hk : Kept s) (hr : Reached s) (hs : barkStep s act = some s') :
    Reached s' ↔ Meets s act := by
  cases barkStep_cases hs with
  | earlier h => exact iff_of_true (reached_make hk hr rfl nofun rfl) trivial
  | refused h b hb => exact iff_of_true (reached_make hk hr rfl nofun rfl) trivial
  | registered h hnone =>
    have hmake : Reached (s.make { paymentHash := h, phase := .paying }) :=
      reached_make hk hr rfl nofun rfl
    exact iff_of_true ⟨hmake.own, hmake.outcome⟩ trivial
  | paid a hphase =>
    refine iff_of_true (reached_put hr (fun _ h => h) rfl ?_) trivial
    simp [Returns, hphase, Phase.live]
  | notPaid a e hphase => exact reached_notPaid hk hr hphase
  | received a x hphase hch =>
    obtain rfl := hr.own a x (.inr (.inl hch))
    refine iff_of_true (reached_put hr ?_ rfl ?_) trivial
    · rintro y (h | h)
      · cases h
      · cases h
        exact .inl hch
    · refine iff_of_true ⟨x.result, .inl ?_⟩ ⟨x.result, .inr ⟨?_, .inl hch⟩⟩
      · rw [put_attempts, Function.update_self]
      · rw [hphase]
        rfl
  | cleared a hphase =>
    have hput : Reached (s.put a { s.attempts a with phase := .done }) := by
      refine reached_put hr (fun _ h => h) rfl ?_
      simp [Returns, hphase, Phase.live]
    exact iff_of_true ⟨hput.own, hput.outcome⟩ trivial
  | notified a movement state hidle hmade hhash => exact reached_notified hk hr hidle
  | delivered b x hb =>
    refine iff_of_true (hr.of_same (hk.delivered hb).1 ?_ ?_ rfl) trivial
    · intro c
      by_cases heq : c = b
      · subst heq
        simp [Returns, hb, (hk.delivering c x hb).2.1]
      · simp [Returns, hb, heq, Ne.symm heq]
    · intro c
      show (Function.update s.attempts b { s.attempts b with resultCh := some x } c).handled = _
      by_cases heq : c = b
      · rw [heq, Function.update_self]
      · rw [Function.update_of_ne heq]

/-- The result of every attempt is returned by its call or published, never both and never neither,
and no call returns the result of another attempt, in every state of a run exactly where every step
of the run meets the condition. Reference: `lnclient/bark/bark.go:293 handleLightningSendMovement`,
`:487 SendPaymentSync`. -/
theorem sends_reach_iff {acts : List Action}
    (hr : runLabels barkStep newBarkService acts = some s) :
    AllowsLabels barkStep Meets newBarkService acts ↔
      ∀ k s', runLabels barkStep newBarkService (acts.take k) = some s' → Reached s' :=
  allows_iff_always (I := Kept) kept_new reached_new (fun _ _ _ hk hs => hk.step hs)
    (fun _ _ _ hk hr hs => reached_step_iff hk hr hs) hr

/-- A payment that ends well, whose call returns the result. Reference: none. -/
def settledRun : List Action :=
  [.call "hash", .pay 0 none, .notify 0 ⟨"pending", some "hash", 1⟩ (.error ""),
    .notify 0 ⟨"successful", some "hash", 1⟩ (.ok (.paid "preimage")), .deliver, .receive 0,
      .clear 0]

theorem sends_reach_settled :
    AllowsLabels barkStep Meets newBarkService settledRun ↔
      ∀ k s', runLabels barkStep newBarkService (settledRun.take k) = some s' → Reached s' :=
  sends_reach_iff (runLabels_after (by decide +kernel))

/-- An attempt fails to start, the invoice is paid again, and then the wallet notifies about the
first attempt. Reference: `lnclient/bark/bark.go:507 SendPaymentSync`. -/
def retriedRun : List Action :=
  [.call "hash", .pay 0 (some "timeout"), .clear 0, .call "hash", .pay 1 none,
    .notify 0 ⟨"failed", some "hash", 0⟩ (.ok (.other "failed")), .deliver, .receive 1]

/-- The second call returns that the payment failed, which is about the first. Reference:
`lnclient/bark/bark.go:375 deliverSendResult`. -/
theorem retry_returns_late_failure :
    ¬∀ (acts : List Action) (s : State), runLabels barkStep newBarkService acts = some s →
      Reached s := by
  intro h
  have hreached := h retriedRun _ (runLabels_after (by decide +kernel))
  have hholds : Holds (labelsAfter barkStep newBarkService retriedRun) 1
      ⟨0, { err := some "bark lightning send failed" }⟩ := .inr (.inr (by decide +kernel))
  exact absurd (hreached.own 1 _ hholds) (by decide)

end AlbyHub.BarkSends
