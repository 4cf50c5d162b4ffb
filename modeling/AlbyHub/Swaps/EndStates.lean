import AlbyHub.Swaps.Stops

/-!
# The end states of a swap

One call of a swap at a time, and no failing answer to a listener once the swap is over: then a swap
that has succeeded or was refunded stays so, and after a claim or a refund was broadcast nothing
marks it as failed (`end_states_final`). A refund by the user while the listener runs breaks this
(`refunded_shown_failed`).
-/

namespace AlbyHub

open Interaction

/-- A transaction of the swap was broadcast, or it has succeeded or was refunded. Reference:
`constants/constants.go:17`. -/
def SwapHub.Over (s : SwapHub) : Prop :=
  s.broadcast = true ∨ s.swap.state = .success ∨ s.swap.state = .refunded

/-- The environment does not make the next command of a listener fail. Reference: none. -/
def SwapOp.Unharmed (op : SwapOp) (s : SwapHub) (c : SwapCmd) (env : SwapEnv) : Prop :=
  ∀ r, execSwap s c env = some r → ¬ op.Fails ⟨c, r.1⟩

/-- A call of the swap starts only when no other runs: a listener for a pending swap, a refund for
one that has not succeeded. Once the swap is over, nothing fails for its listener. Reference:
`swaps/swaps_service.go:372`, `:541`, `:858 subscribePendingSwaps`, `:614 RefundSwap`. -/
def SwapPool.Orderly (cfg : SwapPool) : SwapLabel → Prop
  | .spawn op => (∀ t ∈ cfg.threads, t.rest.done = true) ∧
    if op.isListener = true then cfg.state.swap.state = .pending
    else cfg.state.swap.state ≠ .success
  | .run i env =>
    match SwapPool.next cfg i with
    | some (op, c) => op.isListener = true → cfg.state.Over → op.Unharmed cfg.state c env
    | none => True
  | .restart => True

instance (s : SwapHub) : Decidable s.Over := inferInstanceAs (Decidable (_ ∨ _))

instance (op : SwapOp) : ∀ call : Call SwapCmd SwapCmd.Ans, Decidable (op.Fails call)
  | ⟨c, a⟩ => by
    cases c <;> unfold SwapOp.Fails <;> split <;> infer_instance

instance (op : SwapOp) (s : SwapHub) (c : SwapCmd) (env : SwapEnv) :
    Decidable (op.Unharmed s c env) :=
  match h : execSwap s c env with
  | none => isTrue fun r hr => by rw [h] at hr; cases hr
  | some r => decidable_of_iff (¬ op.Fails ⟨c, r.1⟩)
    ⟨fun hn r' hr => by rw [h] at hr; cases hr; exact hn, fun hall => hall r h⟩

instance SwapPool.decidableOrderly (cfg : SwapPool) (l : SwapLabel) :
    Decidable (SwapPool.Orderly cfg l) := by
  unfold SwapPool.Orderly
  split
  · infer_instance
  · split <;> infer_instance
  · infer_instance

/-- The end of a swap is kept. Reference: `constants/constants.go:17`. -/
def SwapHub.Keeps (s s' : SwapHub) : Prop :=
  (s.swap.state = .success ∨ s.swap.state = .refunded → s'.swap.state = s.swap.state) ∧
    (s.broadcast = true → s'.broadcast = true ∧
      (s'.swap.state = .failed → s.swap.state = .failed))

/-- What a running call knows of the swap, when it is the only one. Reference: none. -/
structure SwapHub.Alone (s : SwapHub) (op : SwapOp) (h : SwapHistory) : Prop where
  failed : op.isListener = true → op.FailedSince h → ¬ s.Over
  success : s.swap.state = .success → h.Wrote .success
  refunded : op.isListener = true → s.swap.state = .refunded → h.Wrote .refunded

/-- At most one call runs, and it knows the swap. Reference: none. -/
structure SwapPool.Serial (cfg : SwapPool) : Prop where
  one : ∀ (i j : Nat) (t t' : Thread SwapCmd SwapCmd.Ans SwapOp SwapExit),
    cfg.threads[i]? = some t → cfg.threads[j]? = some t' → t.rest.done = false →
    t'.rest.done = false → i = j
  alone : ∀ t ∈ cfg.threads, t.rest.done = false → cfg.state.Alone t.op t.hist

section
variable {s s' : SwapHub} {op : SwapOp} {h : SwapHistory} {c : SwapCmd} {a : c.Ans} {env : SwapEnv}
variable {state : SwapState} {cfg cfg' : SwapPool} {l : SwapLabel}

theorem SwapHub.Keeps.refl (s : SwapHub) : s.Keeps s := ⟨fun _ => rfl, fun h => ⟨h, id⟩⟩

theorem SwapHub.Keeps.trans {s'' : SwapHub} (h : s.Keeps s') (h' : s'.Keeps s'') : s.Keeps s'' := by
  constructor
  · intro hs
    have heq := h.1 hs
    rw [h'.1 (heq ▸ hs), heq]
  · intro hb
    obtain ⟨hb', hfailed⟩ := h.2 hb
    obtain ⟨hb'', hfailed'⟩ := h'.2 hb'
    exact ⟨hb'', fun hf => hfailed (hfailed' hf)⟩

theorem SwapHistory.Wrote.cons {call : Call SwapCmd SwapCmd.Ans} (hw : h.Wrote state) :
    SwapHistory.Wrote state (call :: h) := by
  obtain ⟨call', hmem, hcall⟩ := hw
  exact ⟨call', List.mem_cons_of_mem _ hmem, hcall⟩

/-- A broadcast is not undone. Reference: `swaps/swaps_service.go:1332`, `:805`. -/
theorem execSwap_broadcast (hx : execSwap s c env = some (a, s')) :
    s'.broadcast = s.broadcast ∨ (s'.broadcast = true ∧ Ends ⟨c, a⟩) := by
  cases c with
  | updates u =>
    cases hx
    unfold SwapHub.written
    split <;> exact .inl rfl
  | broadcastTransaction =>
    simp only [execSwap] at hx
    cases hx
    cases hf : env.fails with
    | none => exact .inr ⟨rfl, trivial⟩
    | some e => exact .inl rfl
  | _ => cases hx; exact .inl rfl

/-- A state is written by an update that succeeds. Reference: gorm `Updates`. -/
theorem execSwap_state (hx : execSwap s c env = some (a, s')) :
    s'.swap.state = s.swap.state ∨ ∃ u state, c = .updates u ∧ u.state = some state ∧
      Writes state ⟨c, a⟩ ∧ s'.swap.state = state := by
  rcases execSwap_swap hx with heq | ⟨u, rfl, hf, heq⟩
  · exact .inl (congrArg Swap.state heq)
  · cases hu : u.state with
    | none => left; rw [heq]; simp [Swap.updates, hu]
    | some state =>
      refine .inr ⟨u, state, rfl, hu, ?_, by rw [heq]; simp [Swap.updates, hu]⟩
      simp only [execSwap, SwapEnv.answer, hf] at hx
      cases hx
      exact hu

/-- A command that fails for the listener changes nothing. Reference: none. -/
theorem execSwap_of_fails (hx : execSwap s c env = some (a, s')) (hfails : op.Fails ⟨c, a⟩) :
    s' = s := by
  cases c with
  | updates u =>
    simp only [execSwap] at hx
    cases hx
    cases hf : env.fault with
    | none => rw [hf] at hfails; exact hfails.elim
    | some e => rfl
  | broadcastTransaction =>
    simp only [execSwap] at hx
    cases hx
    cases hf : env.fails with
    | none => rw [hf] at hfails; exact hfails.elim
    | some e => rfl
  | _ => cases hx; rfl

/-- A command that does not end the swap leaves it as far from its end as it was. Reference:
none. -/
theorem execSwap_not_over (hx : execSwap s c env = some (a, s')) (hends : ¬ Ends ⟨c, a⟩)
    (hs : ¬ s.Over) : ¬ s'.Over := by
  intro hover
  have hb : s'.broadcast = s.broadcast := (execSwap_broadcast hx).resolve_right fun h => hends h.2
  rcases execSwap_state hx with heq | ⟨u, state, rfl, hu, hw, heq⟩
  · rw [SwapHub.Over, hb, heq] at hover
    exact hs hover
  · rcases hover with hover | hover
    · exact hs (.inl (hb ▸ hover))
    · rw [heq] at hover
      match a with
      | .error e => exact hw.elim
      | .ok () =>
        refine hends ?_
        rcases hover with rfl | rfl
        · exact .inl hu
        · exact .inr hu

/-- A step of the running call keeps what it knows. Reference: none. -/
theorem SwapHub.Alone.step (hs : s.Alone op h) (hx : execSwap s c env = some (a, s'))
    (hsafe : op.isListener = true → s.Over → op.Unharmed s c env) : s'.Alone op (⟨c, a⟩ :: h) := by
  -- a state that was not written by this command was there before
  have wrote : ∀ state, s'.swap.state = state → (s.swap.state = state → h.Wrote state) →
      SwapHistory.Wrote state (⟨c, a⟩ :: h) := by
    rintro state rfl hold
    rcases execSwap_state hx with heq | ⟨u, state, -, -, hw, heq⟩
    · exact (hold heq.symm).cons
    · exact ⟨_, List.mem_cons_self, heq ▸ hw⟩
  refine ⟨fun hl hf => ?_, fun hst => wrote _ hst hs.success,
    fun hl hst => wrote _ hst (hs.refunded hl)⟩
  rcases hf with hfails | ⟨hf, hends⟩
  · rw [execSwap_of_fails hx hfails]
    exact fun hover => hsafe hl hover _ hx hfails
  · exact execSwap_not_over hx hends (hs.failed hl hf)

/-- A step of the running call keeps the end of the swap. Reference: none. -/
theorem SwapHub.Alone.keeps (hs : s.Alone op h) (hok : op.Ok h c)
    (hx : execSwap s c env = some (a, s')) : s.Keeps s' := by
  have hb : s.broadcast = true → s'.broadcast = true := fun hb => by
    rcases execSwap_broadcast hx with heq | ⟨hb', -⟩
    · rw [heq, hb]
    · exact hb'
  rcases execSwap_state hx with heq | ⟨u, state, rfl, hu, -, heq⟩
  · exact ⟨fun _ => heq, fun h => ⟨hb h, fun hf => heq ▸ hf⟩⟩
  · simp only [SwapOp.Ok, hu] at hok
    cases state with
    | pending => exact hok.elim
    | success =>
      refine ⟨fun hst => ?_, fun h => ⟨hb h, fun hf => SwapState.noConfusion (heq.symm.trans hf)⟩⟩
      rcases hst with hst | hst
      · rw [heq, hst]
      · exact absurd (hs.refunded hok.1 hst) hok.2
    | failed =>
      have hover := hs.failed hok.1 hok.2
      exact ⟨fun hst => absurd (.inr hst) hover, fun h => absurd (.inl h) hover⟩
    | refunded =>
      refine ⟨fun hst => ?_, fun h => ⟨hb h, fun hf => SwapState.noConfusion (heq.symm.trans hf)⟩⟩
      rcases hst with hst | hst
      · exact absurd (hs.success hst) hok
      · rw [heq, hst]

/-- The calls of a swap follow their discipline, whatever the steps are. Reference: none. -/
theorem swap_disciplined (allowed : SwapPool → SwapLabel → Prop) :
    Sound execSwap swapBody allowed SwapOp.Ok (fun op h exit => op.isListener = true →
      op.Left h exit)
      (fun _ _ _ _ _ => True) (fun _ => True) (fun _ _ _ => True) where
  body := swapBody_follows
  obeys _ _ _ _ _ _ _ _ _ := trivial
  step _ _ _ _ _ _ _ _ _ _ _ _ := ⟨trivial, trivial, fun _ _ _ => trivial⟩

/-- An orderly step keeps the end of the swap, and the calls serial. Reference: none. -/
theorem SwapPool.Serial.step (hs : SwapPool.Serial cfg)
    (hd : cfg.Disciplined SwapOp.Ok (fun op h exit => op.isListener = true → op.Left h exit)
      (fun _ => True) (fun _ _ _ => True)) (ha : SwapPool.Orderly cfg l)
    (hstep : cfg.step execSwap swapBody l = some cfg') :
    cfg.state.Keeps cfg'.state ∧ SwapPool.Serial cfg' := by
  cases l with
  | spawn op =>
    cases hstep
    obtain ⟨hdone, hstate⟩ := ha
    have last : ∀ i t, (cfg.threads ++ [⟨op, [], swapBody op⟩])[i]? = some t →
        t.rest.done = false → i = cfg.threads.length := by
      intro i t hi ht
      rcases Nat.lt_or_ge i cfg.threads.length with hlt | hge
      · rw [List.getElem?_append_left hlt] at hi
        rw [hdone t (List.mem_of_getElem? hi)] at ht
        cases ht
      · have hlen := (List.getElem?_eq_some_iff.1 hi).1
        simp only [List.length_append, List.length_cons, List.length_nil] at hlen
        omega
    refine ⟨.refl _, fun i j t t' hi hj ht ht' => (last i t hi ht).trans (last j t' hj ht').symm,
      fun t ht hrun => ?_⟩
    rcases List.mem_append.1 ht with ht | ht
    · rw [hdone t ht] at hrun
      cases hrun
    · obtain rfl := List.mem_singleton.1 ht
      refine ⟨fun _ hf => hf.elim, fun hst => ?_, fun hl hst => ?_⟩
      · split at hstate
        · rw [hstate] at hst
          cases hst
        · exact absurd hst hstate
      · rw [if_pos hl] at hstate
        rw [hstate] at hst
        cases hst
  | run i env =>
    obtain ⟨op, h, c, k, a, s', hi, hx, rfl⟩ := Config.step_run hstep
    have halone := hs.alone _ (List.mem_of_getElem? hi) rfl
    simp only [SwapPool.Orderly, SwapPool.next, hi] at ha
    -- no other call runs
    have others : ∀ j t, j ≠ i → (cfg.threads.set i ⟨op, ⟨c, a⟩ :: h, k a⟩)[j]? = some t →
        t.rest.done = true := by
      intro j t hne hj
      rw [List.getElem?_set_ne (Ne.symm hne)] at hj
      cases ht : t.rest.done with
      | true => rfl
      | false => exact absurd (hs.one j i t _ hj hi ht rfl) hne
    refine ⟨halone.keeps (hd.issues hi) hx, fun j j' t t' hj hj' ht ht' => ?_, fun t ht hrun => ?_⟩
    · have hj_eq : j = i := Decidable.byContradiction fun hne => by
        rw [others j t hne hj] at ht
        cases ht
      have hj'_eq : j' = i := Decidable.byContradiction fun hne => by
        rw [others j' t' hne hj'] at ht'
        cases ht'
      rw [hj_eq, hj'_eq]
    · obtain ⟨j, hj⟩ := List.mem_iff_getElem?.1 ht
      by_cases hne : j = i
      · subst hne
        rw [List.getElem?_set_self (List.getElem?_eq_some_iff.1 hi).1] at hj
        obtain rfl := Option.some.inj hj
        exact halone.step hx ha
      · rw [others j t hne hj] at hrun
        cases hrun
  | restart =>
    cases hstep
    have hdone : ∀ t ∈ cfg.threads.filter (·.rest.done), t.rest.done = true := fun t ht =>
      (List.mem_filter.1 ht).2
    refine ⟨.refl _, fun i j t t' hi _ ht _ => ?_, fun t ht hrun => ?_⟩
    · rw [hdone t (List.mem_of_getElem? hi)] at ht
      cases ht
    · rw [hdone t ht] at hrun
      cases hrun

/-- Every orderly run keeps its calls serial. Reference: none. -/
theorem serial_of_reach {init : SwapPool → Prop} (h0 : ∀ cfg, init cfg → cfg.threads = [])
    (hr : Reach execSwap swapBody init SwapPool.Orderly cfg) :
    SwapPool.Serial cfg ∧ cfg.Disciplined SwapOp.Ok
      (fun op h exit => op.isListener = true → op.Left h exit) (fun _ => True) (fun _ _ _ =>
        True) := by
  have empty : ∀ cfg, init cfg → ∀ t, t ∉ cfg.threads := fun cfg hi t ht => by
    rw [h0 cfg hi] at ht
    cases ht
  induction hr with
  | @start cfg hi =>
    refine ⟨⟨fun i j t t' hi' _ _ _ => ?_, fun t ht => absurd ht (empty cfg hi t)⟩, trivial,
      fun t ht => absurd ht (empty cfg hi t), fun t ht => absurd ht (empty cfg hi t),
      fun t ht => absurd ht (empty cfg hi t)⟩
    exact absurd (List.mem_of_getElem? hi') (empty cfg hi t)
  | step _ ha hstep ih =>
    exact ⟨(ih.1.step ih.2 ha hstep).2, ih.2.step (swap_disciplined _) ha hstep⟩

/-- Over every orderly run: a swap that has succeeded or was refunded stays so, and once a claim or
a refund was broadcast the swap does not become failed. Reference: `swaps/swaps_service.go:597
markSwapState`. -/
theorem end_states_final {init : SwapPool → Prop} (h0 : ∀ cfg, init cfg → cfg.threads = [])
    (hr : Reach execSwap swapBody init SwapPool.Orderly cfg)
    (hr' : Reach execSwap swapBody (· = cfg) SwapPool.Orderly cfg') :
    (cfg.state.swap.state = .success ∨ cfg.state.swap.state = .refunded →
      cfg'.state.swap.state = cfg.state.swap.state) ∧
    (cfg.state.broadcast = true → cfg'.state.swap.state = .failed →
      cfg.state.swap.state = .failed) := by
  have hkeeps : cfg.state.Keeps cfg'.state := by
    induction hr' with
    | start heq => rw [heq]; exact .refl _
    | step hr₁ ha hstep ih =>
      obtain ⟨hserial, hd⟩ := serial_of_reach h0 (hr.trans hr₁)
      exact ih.trans (hserial.step hd ha hstep).1
  exact ⟨hkeeps.1, fun hb hf => (hkeeps.2 hb).2 hf⟩

end

/-- A swap-in. Reference: `swaps/swaps_service.go:456 SwapIn`. -/
def demoSwapIn : Swap := { swapId := "swap", type := .swapIn }

/-- The calls of Boltz and of the node answer. Reference: none. -/
def demoAnswers : SwapEnv := { text := "tx" }

/-- The user refunds a swap-in while its listener waits. Reference: `api/api.go:874 RefundSwap`. -/
def refundRun : List SwapLabel :=
  [.spawn (.swapIn 0 1 demoSwapIn), .run 0 demoAnswers, .run 0 demoAnswers,
    .spawn (.refund 1 "addr")] ++
    List.replicate 15 (.run 1 demoAnswers)

/-- The listener is told that the swap has expired. Reference: `swaps/swaps_service.go:1035
startSwapInListener`. -/
def expiredAfterRun : List SwapLabel := List.replicate 4 (.run 0 (demoMessage .swapExpired))

/-- The listener finds the refund processed, takes this for an error and marks the refunded swap as
failed. Reference: `swaps/swaps_service.go:635 RefundSwap`, `:911 startSwapInListener`. -/
theorem refunded_shown_failed : ∃ cfg cfg',
    (demoSwapPool demoSwapIn).run execSwap swapBody refundRun = some cfg ∧
    cfg.run execSwap swapBody expiredAfterRun = some cfg' ∧
    cfg.state.swap.state = .refunded ∧ cfg.state.broadcast = true ∧
    cfg'.state.swap.state = .failed :=
  ⟨_, _, rfl, rfl, rfl, rfl, rfl⟩

/-- The listener refunds the swap-in. Reference: `swaps/swaps_service.go:1035
startSwapInListener`. -/
def listenerRefundRun : List SwapLabel :=
  [.spawn (.swapIn 0 1 demoSwapIn), .run 0 demoAnswers, .run 0 demoAnswers,
    .run 0 (demoMessage .swapExpired)] ++ List.replicate 16 (.run 0 demoAnswers)

/-- The user asks for another refund. Reference: `api/api.go:874 RefundSwap`. -/
def secondRefundRun : List SwapLabel := [.spawn (.refund 1 "addr"), .run 1 demoAnswers]

/-- A refund by the listener, and a second one that is refused. Reference:
`swaps/swaps_service.go:634 RefundSwap`. -/
theorem end_states_final_refunded : ∃ cfg cfg',
    (demoSwapPool demoSwapIn).run execSwap swapBody listenerRefundRun = some cfg ∧
    cfg.run execSwap swapBody secondRefundRun = some cfg' ∧ cfg.state.swap.state = .refunded ∧
    (cfg.state.swap.state = .success ∨ cfg.state.swap.state = .refunded →
      cfg'.state.swap.state = cfg.state.swap.state) ∧
    (cfg.state.broadcast = true → cfg'.state.swap.state = .failed →
      cfg.state.swap.state = .failed) := by
  have h0 : ∀ cfg, cfg = demoSwapPool demoSwapIn → cfg.threads = [] := by
    rintro _ rfl
    rfl
  have hstart : Reach execSwap swapBody (fun cfg => cfg = demoSwapPool demoSwapIn) SwapPool.Orderly
      (demoSwapPool demoSwapIn) := .start rfl
  have ha : (demoSwapPool demoSwapIn).Allows execSwap swapBody SwapPool.Orderly
      listenerRefundRun := by
    decide
  refine ⟨_, _, rfl, rfl, rfl, ?_⟩
  refine end_states_final h0 (hstart.of_run ha rfl) (.of_run (.start rfl)
    (?_ : Config.Allows execSwap swapBody SwapPool.Orderly _ secondRefundRun) rfl)
  decide

end AlbyHub
