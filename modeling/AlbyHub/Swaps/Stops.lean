import AlbyHub.Swaps.Discipline

/-!
# A listener does not stop on a pending swap

A listener returns from many places, and the deferred function marks the swap as failed by the
listener's error variable alone. Where the fee of the claim can be found and a success can be
recorded, every return leaves the swap at an end (`listener_ends`), whatever else the calls answer
and whatever other calls do to the swap. An error of the fee is kept in another variable, so the
listener returns and the swap stays pending (`fee_error_strands`).
-/

namespace AlbyHub

open Interaction

/-- The call that is next in turn `i`, with its operation. Reference: none. -/
def SwapPool.next (cfg : SwapPool) (i : Nat) : Option (SwapOp × SwapCmd) :=
  cfg.threads[i]?.bind fun t => t.rest.next.map fun c => (t.op, c)

/-- The claim's fee is found, and a success is recorded. Reference: `swaps/swaps_service.go:1288`,
`:1297`, `:606 markSwapState`. -/
def SwapOp.Answered (op : SwapOp) (env : SwapEnv) : SwapCmd → Prop
  | .check .voutValue => env.fails = none
  | .getFeeRate =>
    match op with
    | .swapOut _ _ => env.fails = none
    | _ => True
  | .updates u => u.state = some .success → env.fault = none
  | _ => True

/-- The step meets the condition. Reference: none. -/
def SwapPool.Answers (cfg : SwapPool) : SwapLabel → Prop
  | .run i env =>
    match SwapPool.next cfg i with
    | some (op, c) => op.Answered env c
    | none => True
  | _ => True

instance (op : SwapOp) (env : SwapEnv) (c : SwapCmd) : Decidable (op.Answered env c) := by
  induction c using SwapCmd.casesOn with
  | check what =>
    induction what using SwapCheck.casesOn with
    | voutValue => exact inferInstanceAs (Decidable (env.fails = none))
    | _ => exact isTrue trivial
  | getFeeRate =>
    induction op using SwapOp.casesOn with
    | swapOut => exact inferInstanceAs (Decidable (env.fails = none))
    | _ => exact isTrue trivial
  | updates => exact inferInstanceAs (Decidable (_ → _))
  | _ => exact isTrue trivial

instance (cfg : SwapPool) (l : SwapLabel) : Decidable (SwapPool.Answers cfg l) := by
  induction l using Label.casesOn with
  | run i env =>
    show Decidable (match SwapPool.next cfg i with
      | some (op, c) => op.Answered env c
      | none => True)
    exact match SwapPool.next cfg i with
      | some (op, c) => inferInstanceAs (Decidable (op.Answered env c))
      | none => isTrue trivial
  | _ => exact isTrue trivial

/-- What an answer says of the swap from then on. Reference: none. -/
def SwapOp.Known (op : SwapOp) (call : Call SwapCmd SwapCmd.Ans) (s : SwapHub) : Prop :=
  (Records call → s.swap.state ≠ .pending) ∧ ¬ Unrecorded .success call ∧ ¬ op.Forgets call

section
variable {s s' : SwapHub} {op : SwapOp} {h : SwapHistory} {c : SwapCmd} {a : c.Ans} {env : SwapEnv}

/-- The row after a command: as it was, or with the columns of an update. Reference: the calls of
`SwapCmd`. -/
theorem execSwap_swap (hx : execSwap s c env = some (a, s')) :
    s'.swap = s.swap ∨ ∃ u, c = .updates u ∧ env.fault = none ∧ s'.swap = s.swap.updates u := by
  cases c with
  | updates u =>
    cases hx
    unfold SwapHub.written
    split
    · next hf => exact .inr ⟨u, rfl, by simpa using hf, rfl⟩
    · exact .inl rfl
  | broadcastTransaction =>
    cases hx
    unfold SwapHub.sent
    split <;> exact .inl rfl
  | _ => cases hx; exact .inl rfl

/-- A call never makes a swap pending again. Reference: `swaps/swaps_service.go:597`. -/
theorem execSwap_not_pending (hok : op.Ok h c) (hx : execSwap s c env = some (a, s'))
    (hs : s.swap.state ≠ .pending) : s'.swap.state ≠ .pending := by
  rcases execSwap_swap hx with heq | ⟨u, rfl, -, heq⟩
  · rw [heq]
    exact hs
  · rw [heq]
    simp only [Swap.updates]
    simp only [SwapOp.Ok] at hok
    split at hok
    · next hu => rw [hu]; exact hs
    · exact hok.elim
    all_goals next hu => rw [hu]; exact SwapState.noConfusion

/-- What an answer says when it is given. Reference: the calls of `SwapCmd`. -/
theorem execSwap_known (hok : op.Ok h c) (ha : op.Answered env c)
    (hx : execSwap s c env = some (a, s')) : op.Known ⟨c, a⟩ s' := by
  cases c with
  | updates u =>
    cases hf : env.fault with
    | none =>
      simp only [execSwap, SwapHub.written, SwapEnv.answer, hf] at hx
      cases hx
      refine ⟨?_, id, id⟩
      rintro ⟨state, hu, hne⟩
      simpa [Swap.updates, hu] using hne
    | some e =>
      simp only [execSwap, SwapHub.written, SwapEnv.answer, hf] at hx
      cases hx
      refine ⟨False.elim, fun hu => ?_, id⟩
      rw [ha hu] at hf
      cases hf
  | findInState state =>
    simp only [execSwap] at hx
    cases hx
    refine ⟨?_, id, id⟩
    split
    · next hfound =>
      intro hne
      simp only [Bool.and_eq_true, decide_eq_true_eq] at hfound
      rw [hfound.2]
      exact hne
    · exact False.elim
  | check what =>
    refine ⟨False.elim, id, ?_⟩
    simp only [execSwap] at hx
    cases hx
    cases what with
    | voutValue =>
      have hf : env.fails = none := ha
      rw [hf]
      exact id
    | _ => cases env.fails <;> exact id
  | getFeeRate =>
    refine ⟨False.elim, id, ?_⟩
    simp only [execSwap] at hx
    cases hx
    cases op with
    | swapOut n swap =>
      have hf : env.fails = none := ha
      rw [hf]
      exact id
    | _ =>
      cases env.fails with
      | none => exact id
      | some e => exact nofun
  | _ => exact ⟨False.elim, id, id⟩

end

/-- The calls of a swap under the condition. Reference: none. -/
theorem swap_sound : Sound execSwap swapBody SwapPool.Answers SwapOp.Ok
    (fun op h exit => op.isListener = true → op.Left h exit)
    (fun op _ _ c env => op.Answered env c) (fun _ => True) SwapOp.Known where
  body := swapBody_follows
  obeys cfg i env op h c k ha hi := by
    simp only [SwapPool.Answers, SwapPool.next, hi] at ha
    exact ha
  step op h s c env a s' _ _ hok ha hx := by
    refine ⟨trivial, execSwap_known hok ha hx, fun op' call hk => ⟨fun hr => ?_, hk.2⟩⟩
    exact execSwap_not_pending hok hx (hk.1 hr)

/-- Whenever a listener has returned, other than because its context is done, and its deferred
function did not fail to write, the swap is at an end; in every run in which the claim's fee is
found and a success is recorded. Reference: `swaps/swaps_service.go:904`, `:1072`. -/
theorem listener_ends {init : SwapPool → Prop} (h0 : ∀ cfg, init cfg → cfg.threads = [])
    {cfg : SwapPool} (hr : Reach execSwap swapBody init SwapPool.Answers cfg) :
    ∀ t ∈ cfg.threads, ∀ err, t.op.isListener = true → t.rest = .ret (.returned err) →
      (∀ call ∈ t.hist, ¬ Unrecorded .failed call) → cfg.state.swap.state ≠ .pending := by
  have hd := hr.sound swap_sound fun cfg hi => by
    have hnone : ∀ t, t ∉ cfg.threads := fun t ht => by
      rw [h0 cfg hi] at ht
      cases ht
    exact ⟨trivial, fun t ht => absurd ht (hnone t), fun t ht => absurd ht (hnone t),
      fun t ht => absurd ht (hnone t)⟩
  intro t ht err hl hret hcleanup
  obtain ⟨call, hcall, hres⟩ := hd.returned ht hret hl err rfl
  have hknown := hd.known t ht call hcall
  rcases hres with hrec | hun | hfail | hforget
  · exact hknown.1 hrec
  · exact absurd hun hknown.2.1
  · exact absurd hfail (hcleanup call hcall)
  · exact absurd hforget hknown.2.2

/-- A swap-out whose amount is not known. Reference: `swaps/swaps_service.go:1296
startSwapOutListener`. -/
def demoSwap : Swap := { swapId := "swap", type := .swapOut }

/-- The hub of a new swap. Reference: none. -/
def demoSwapPool (swap : Swap) : SwapPool := ⟨⟨swap, false⟩, []⟩

/-- The message about a swap. Reference: none. -/
def demoMessage (status : SwapEvent) : SwapEnv :=
  { signal := .update { id := "swap", status := status, transactionId := "lockup" } }

/-- The lockup is seen, and the fee estimation fails. Reference: `swaps/swaps_service.go:1297
startSwapOutListener`. -/
def feeErrorRun : List SwapLabel :=
  .spawn (.swapOut 1 demoSwap) ::
    List.replicate 6 (.run 0 (demoMessage .transactionMempool)) ++
      [.run 0 { fails := some "timeout" }]

/-- The listener returns without an error, and the swap stays pending. Reference:
`swaps/swaps_service.go:1297 startSwapOutListener`. -/
theorem fee_error_strands : ∃ cfg,
    (demoSwapPool demoSwap).run execSwap swapBody feeErrorRun = some cfg ∧
    cfg.state.swap.state = .pending ∧ cfg.threads.map (·.rest.result) = [some (.returned none)] :=
  ⟨_, rfl, rfl, rfl⟩

/-- The lockup is not seen before the swap expires. Reference: `swaps/swaps_service.go:1368
startSwapOutListener`. -/
def expiredRun : List SwapLabel :=
  .spawn (.swapOut 1 demoSwap) :: List.replicate 5 (.run 0 (demoMessage .swapExpired))

/-- The listener returns the error, and the swap has failed. Reference:
`swaps/swaps_service.go:1368 startSwapOutListener`. -/
theorem listener_ends_expired : ∃ cfg,
    (demoSwapPool demoSwap).run execSwap swapBody expiredRun = some cfg ∧
    cfg.threads.map (·.rest.result) = [some (.returned (some "swap.expired"))] ∧
    cfg.state.swap.state = .failed ∧
    ∀ t ∈ cfg.threads, ∀ err, t.op.isListener = true → t.rest = .ret (.returned err) →
      (∀ call ∈ t.hist, ¬ Unrecorded .failed call) → cfg.state.swap.state ≠ .pending := by
  have hstart : Reach execSwap swapBody (fun cfg => cfg = demoSwapPool demoSwap) SwapPool.Answers
      (demoSwapPool demoSwap) := .start rfl
  have h0 : ∀ cfg, cfg = demoSwapPool demoSwap → cfg.threads = [] := by
    rintro _ rfl
    rfl
  have ha : (demoSwapPool demoSwap).Allows execSwap swapBody SwapPool.Answers expiredRun := by
    decide
  exact ⟨_, rfl, rfl, rfl, listener_ends h0 (hstart.of_run ha rfl)⟩

end AlbyHub
