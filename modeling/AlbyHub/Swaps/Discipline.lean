import AlbyHub.Swaps.Service

/-!
# What the listeners of a swap do

Which states a call writes after which answers (`SwapOp.Ok`), and what a listener that returns has
done (`swapBody_follows`): it has recorded an end of the swap, found it recorded, failed to record
it, or taken the branch that forgets the error of the claim's fee.
-/

namespace AlbyHub

open Interaction

/-- The call has written the state. Reference: gorm `Updates`. -/
def Writes (state : SwapState) : Call SwapCmd SwapCmd.Ans → Prop
  | ⟨.updates u, .ok ()⟩ => u.state = some state
  | _ => False

/-- The state has been written. Reference: none. -/
def SwapHistory.Wrote (state : SwapState) (h : SwapHistory) : Prop := ∃ call ∈ h, Writes state call

/-- The status ends the swap without a payment. Reference: `swaps/swaps_service.go:1035`,
`:1368`. -/
def SwapOp.endsWith : SwapOp → SwapEvent → Bool
  | .swapIn _ _ _, .transactionLockupFailed | .swapIn _ _ _, .invoiceFailedToPay
  | .swapIn _ _ _, .swapExpired | .swapOut _ _, .transactionFailed
  | .swapOut _ _, .swapExpired => true
  | _, _ => false

/-- The answer for which a listener returns an error. Reference: `swaps/swaps_service.go:885`,
`:1053`. -/
def SwapOp.Fails (op : SwapOp) : Call SwapCmd SwapCmd.Ans → Prop
  | ⟨.find, .error _⟩ | ⟨.newTxFromHex _, .error _⟩ | ⟨.getNewOnchainAddress, .error _⟩
  | ⟨.getSwapTransaction, .error _⟩ | ⟨.constructTransaction _, .error _⟩
  | ⟨.broadcastTransaction, .error _⟩ | ⟨.select, .paymentError _⟩ => True
  | ⟨.updates u, .error _⟩ => u.state ≠ some .success
  | ⟨.check what, .error _⟩ => what ≠ .voutValue
  | ⟨.select, .update message⟩ => op.endsWith message.status = true
  | _ => False

/-- The call ends the swap: a transaction was broadcast, or an end was written. Reference: none. -/
def Ends : Call SwapCmd SwapCmd.Ans → Prop
  | ⟨.broadcastTransaction, .ok _⟩ => True
  | ⟨.updates u, .ok ()⟩ => u.state = some .success ∨ u.state = some .refunded
  | _ => False

/-- After the last answer that failed, the call has not ended the swap. Reference: none. -/
def SwapOp.FailedSince (op : SwapOp) : SwapHistory → Prop
  | [] => False
  | call :: h => op.Fails call ∨ (op.FailedSince h ∧ ¬ Ends call)

/-- The states that a call writes: a failure by a listener that an answer has failed, a success by
one that has not refunded the swap, and a refund where it has not made the swap succeed. Reference:
`swaps/swaps_service.go:597`, `:816`. -/
def SwapOp.Ok (op : SwapOp) (h : SwapHistory) : SwapCmd → Prop
  | .updates u =>
    match u.state with
    | none => True
    | some .pending => False
    | some .failed => op.isListener = true ∧ op.FailedSince h
    | some .success => op.isListener = true ∧ ¬ h.Wrote .refunded
    | some .refunded => ¬ h.Wrote .success
  | _ => True

/-- The call has recorded that the swap is over, or found it recorded. Reference:
`swaps/swaps_service.go:597 markSwapState`. -/
def Records : Call SwapCmd SwapCmd.Ans → Prop
  | ⟨.updates u, .ok ()⟩ => ∃ state, u.state = some state ∧ state ≠ .pending
  | ⟨.findInState state, some _⟩ => state ≠ .pending
  | _ => False

/-- The call has failed to record a state. Reference: `swaps/swaps_service.go:606 markSwapState`. -/
def Unrecorded (state : SwapState) : Call SwapCmd SwapCmd.Ans → Prop
  | ⟨.updates u, .error _⟩ => u.state = some state
  | _ => False

/-- The error of the claim's fee, which the listener forgets. Reference:
`swaps/swaps_service.go:1288`, `:1297`. -/
def SwapOp.Forgets (op : SwapOp) : Call SwapCmd SwapCmd.Ans → Prop
  | ⟨.check .voutValue, .error _⟩ => True
  | ⟨.getFeeRate, .error _⟩ => ∃ n swap, op = .swapOut n swap
  | _ => False

/-- What a listener that has returned has done. Reference: none. -/
def SwapOp.Resolved (op : SwapOp) (h : SwapHistory) : Prop :=
  ∃ call ∈ h, Records call ∨ Unrecorded .success call ∨ Unrecorded .failed call ∨ op.Forgets call

/-- A call that has neither refunded the swap nor made it succeed. Reference: none. -/
def SwapHistory.Open (h : SwapHistory) : Prop := ¬ h.Wrote .success ∧ ¬ h.Wrote .refunded

section
variable {op : SwapOp} {h h' : SwapHistory} {call : Call SwapCmd SwapCmd.Ans} {state : SwapState}
variable {swap : Swap} {n : Nat} {α : Type}

theorem SwapOp.Resolved.mono (hr : op.Resolved h) (hs : h <:+ h') : op.Resolved h' := by
  obtain ⟨call, hc, hcall⟩ := hr
  exact ⟨call, hs.subset hc, hcall⟩

theorem SwapOp.Resolved.last (hc : Records call ∨ Unrecorded .success call ∨
    Unrecorded .failed call ∨ op.Forgets call) : op.Resolved (call :: h) :=
  ⟨call, List.mem_cons_self, hc⟩

theorem SwapHistory.not_wrote_cons (hw : ¬ h.Wrote state) (hc : ¬ Writes state call) :
    ¬ SwapHistory.Wrote state (call :: h) := by
  rintro ⟨call', hmem, hcall⟩
  rcases List.mem_cons.1 hmem with rfl | hmem
  · exact hc hcall
  · exact hw ⟨call', hmem, hcall⟩

/-- An update of other columns writes no state. Reference: gorm `Updates` with a struct. -/
theorem not_writes_of_none {u : SwapColumns} {r : Except String Unit} (hu : u.state = none) :
    ¬ Writes state ⟨.updates u, r⟩ := by
  match r with
  | .error e => exact id
  | .ok () =>
    intro hw
    simp only [Writes, hu] at hw
    cases hw

theorem SwapHistory.Open.cons (ho : h.Open) (hs : ¬ Writes .success call)
    (hr : ¬ Writes .refunded call) : SwapHistory.Open (call :: h) :=
  ⟨SwapHistory.not_wrote_cons ho.1 hs, SwapHistory.not_wrote_cons ho.2 hr⟩

theorem SwapOp.FailedSince.cons (hf : op.FailedSince h) (hc : ¬ Ends call) :
    op.FailedSince (call :: h) := .inr ⟨hf, hc⟩

/-- What a turn of a listener leaves behind. Reference: none. -/
def SwapOp.Turned (op : SwapOp) (h : SwapHistory) : Turn → Prop
  | .again _ => h.Open
  | .leave exit => ∀ err, exit ≠ .returned err
  | .stop none => op.Resolved h
  | .stop (some _) => op.FailedSince h

/-- What a listener leaves behind. Reference: none. -/
def SwapOp.Left (op : SwapOp) (h : SwapHistory) (exit : SwapExit) : Prop :=
  ∀ err, exit = .returned err → op.Resolved h

/-- A failure is recorded after an answer that failed, a success before anything else. Reference:
`swaps/swaps_service.go:597 markSwapState`. -/
theorem follows_markSwapState (hok : ∀ row, op.Ok (⟨.findInState state, row⟩ :: h)
      (.updates { state := some state })) (hstate : state = .success ∨ state = .failed) :
    Follows op.Ok (fun h' _ => op.Resolved h') h (markSwapState state) := by
  refine .call trivial fun row => ?_
  cases row with
  | some swap =>
    refine .last (.inl ?_)
    rcases hstate with rfl | rfl <;> exact SwapState.noConfusion
  | none =>
    refine .call (hok none) fun r => ?_
    refine .last ?_
    match r with
    | .ok () =>
      refine .inl ⟨state, rfl, ?_⟩
      rcases hstate with rfl | rfl <;> exact SwapState.noConfusion
    | .error e =>
      rcases hstate with rfl | rfl
      · exact .inr (.inl rfl)
      · exact .inr (.inr (.inl rfl))

/-- Reference: `swaps/swaps_service.go:904`, `:1072`. -/
theorem follows_cleanup {err : Option String} (hlistener : op.isListener = true)
    (hnone : err = none → op.Resolved h) (hsome : err ≠ none → op.FailedSince h) :
    Follows op.Ok op.Left h (cleanup err) := by
  cases err with
  | none => exact fun _ _ => hnone rfl
  | some e =>
    have hf := hsome (by simp)
    have hok : ∀ row,
        op.Ok (⟨.findInState .failed, row⟩ :: h) (.updates { state := some .failed }) :=
      fun row => ⟨hlistener, hf.cons id⟩
    exact (follows_markSwapState hok (.inr rfl)).bind fun _ _ _ hr _ _ => hr

/-- The turns of a listener. Reference: `swaps/swaps_service.go:979`, `:1150`. -/
theorem follows_listen {turn : Swap → Swp Turn} (hlistener : op.isListener = true)
    (hturn : ∀ h swap, SwapHistory.Open h → Follows op.Ok op.Turned h (turn swap))
    (ho : h.Open) : Follows op.Ok op.Left h (listen turn n swap) := by
  induction n generalizing h swap with
  | zero => exact fun err he => nomatch he
  | succ n ih =>
    refine (hturn h swap ho).bind fun h' t _ ht => ?_
    cases t with
    | again swap => exact ih ht
    | leave exit => exact fun err he => absurd he (ht err)
    | stop err =>
      cases err with
      | none => exact follows_cleanup hlistener (fun _ => ht) (fun h => absurd rfl h)
      | some e => exact follows_cleanup hlistener (fun h => nomatch h) (fun _ => ht)

/-- Reference: `swaps/swaps_service.go:916`, `:1084`. -/
theorem follows_startListener {turn : Swap → Swp Turn} (hlistener : op.isListener = true)
    (hturn : ∀ h swap, SwapHistory.Open h → Follows op.Ok op.Turned h (turn swap)) :
    Follows op.Ok op.Left [] (startListener turn n swap) := by
  have ho : SwapHistory.Open [] := ⟨fun ⟨_, hc, _⟩ => (nomatch hc), fun ⟨_, hc, _⟩ => (nomatch hc)⟩
  have fails : ∀ {h : SwapHistory} (what : SwapCheck) (e : String), what ≠ .voutValue →
      Follows op.Ok op.Left (⟨.check what, .error e⟩ :: h) (cleanup (some e)) := fun what e hw =>
    follows_cleanup hlistener (fun h => nomatch h) fun _ => .inl hw
  refine .call trivial fun r => ?_
  match r with
  | .error e => exact fails .parseChain e (by decide)
  | .ok () =>
    refine .call trivial fun r => ?_
    match r with
    | .error e => exact fails .keysAndTree e (by decide)
    | .ok () => exact follows_listen hlistener hturn ((ho.cons id id).cons id id)

/-! ## The refund -/

/-- What the refund of a swap leaves behind: without an error the refund is recorded, and an error
leaves a call failed that had failed before. Reference: none. -/
def SwapOp.Refunds (op : SwapOp) (h₀ h : SwapHistory) (exit : SwapExit) : Prop :=
  (exit = .returned none → op.Resolved h) ∧
    ∀ e, exit = .returned (some e) → op.FailedSince h₀ → op.FailedSince h

theorem SwapOp.Refunds.of_failedSince {h₀ : SwapHistory} {e : String} (hf : op.FailedSince h) :
    op.Refunds h₀ h (.returned (some e)) :=
  ⟨fun he => (nomatch he), fun _ _ _ => hf⟩

theorem SwapOp.Refunds.failed {h₀ : SwapHistory} {e : String} (hc : op.Fails call) :
    op.Refunds h₀ (call :: h) (.returned (some e)) := .of_failedSince (.inl hc)

/-- A part of a call that writes no state; where it answers an error, its last command has failed.
Reference: none. -/
def SwapOp.Quiet (op : SwapOp) (h : SwapHistory) (h' : SwapHistory) (r : Except String α) : Prop :=
  (∀ e, r = .error e → op.FailedSince h') ∧ ∀ state, h'.Wrote state → h.Wrote state

theorem quiet_saveLockup {lockupTxId : String} :
    Follows op.Ok (op.Quiet h) h (saveLockup swap lockupTxId) := by
  unfold saveLockup
  split
  · refine ⟨trivial, fun r => ?_⟩
    have hquiet : ∀ state, SwapHistory.Wrote state (⟨.updates { lockupTxId }, r⟩ :: h) →
        h.Wrote state := fun state hw => Classical.byContradiction fun hn =>
      SwapHistory.not_wrote_cons hn (not_writes_of_none rfl) hw
    match r with
    | .error e => exact ⟨fun _ _ => .inl nofun, hquiet⟩
    | .ok () => exact ⟨nofun, hquiet⟩
  · exact ⟨nofun, fun _ hw => hw⟩

theorem quiet_refundAddress {address : String} :
    Follows op.Ok (op.Quiet h) h (refundAddress address) := by
  unfold refundAddress
  split
  · refine ⟨trivial, fun r => ?_⟩
    have hquiet : ∀ state, SwapHistory.Wrote state (⟨.getNewOnchainAddress, r⟩ :: h) →
        h.Wrote state := fun state hw => Classical.byContradiction fun hn =>
      SwapHistory.not_wrote_cons hn id hw
    match r with
    | .error e => exact ⟨fun _ _ => .inl trivial, hquiet⟩
    | .ok address => exact ⟨nofun, hquiet⟩
  · exact ⟨nofun, fun _ hw => hw⟩

/-- Reference: `swaps/swaps_service.go:732 RefundSwap`. -/
theorem follows_constructRefund {enableRetries : Bool} {timeoutBlockHeight : Nat} {h₀ : SwapHistory}
    (ho : ¬ h.Wrote .success) : Follows op.Ok (fun h' r =>
      (∀ exit, r = .error exit → op.Refunds h₀ h' exit) ∧ ¬ SwapHistory.Wrote .success h') h
      (constructRefund enableRetries timeoutBlockHeight n) := by
  have leaves : ∀ {h : SwapHistory} (exit : SwapExit), (∀ err, exit ≠ .returned err) →
      op.Refunds h₀ h exit := fun exit he =>
    ⟨fun h => absurd h (he none), fun e h => absurd h (he (some e))⟩
  induction n generalizing h with
  | zero =>
    refine ⟨?_, ho⟩
    rintro _ ⟨⟩
    exact leaves _ nofun
  | succ n ih =>
    have ho₁ : ∀ d, ¬ SwapHistory.Wrote .success (⟨.contextDone, d⟩ :: h) := fun d =>
      SwapHistory.not_wrote_cons ho id
    refine .call trivial fun d => ?_
    match d with
    | true =>
      refine ⟨?_, ho₁ true⟩
      rintro _ ⟨⟩
      exact leaves _ nofun
    | false =>
      refine .call trivial fun r => ?_
      have ho₂ : ¬ SwapHistory.Wrote .success (⟨.getInfo, r⟩ :: _) :=
        SwapHistory.not_wrote_cons (ho₁ false) id
      match r with
      | .error e => exact ih ho₂
      | .ok blockHeight =>
        refine .call trivial fun r => ?_
        have ho₃ : ¬ SwapHistory.Wrote .success (⟨.getFeeRate, r⟩ :: _) :=
          SwapHistory.not_wrote_cons ho₂ id
        match r with
        | .error e => exact ih ho₃
        | .ok () =>
          refine .call trivial fun r => ?_
          have ho₄ : ¬ SwapHistory.Wrote .success (⟨.constructTransaction _, r⟩ :: _) :=
            SwapHistory.not_wrote_cons ho₃ id
          match r with
          | .error e =>
            simp only
            split
            · exact ih ho₄
            · refine ⟨?_, ho₄⟩
              rintro _ ⟨⟩
              exact .failed trivial
          | .ok refundAmountSat => exact ⟨nofun, ho₄⟩

/-- Reference: `swaps/swaps_service.go:798 RefundSwap`. -/
theorem follows_sendRefund {refundAmountSat : Nat} {h₀ : SwapHistory} (ho : ¬ h.Wrote .success) :
    Follows op.Ok (fun h' exit => op.Refunds h₀ h' exit) h (sendRefund refundAmountSat) := by
  refine .call trivial fun r => ?_
  match r with
  | .error e => exact .failed SwapCheck.noConfusion
  | .ok () =>
    refine .call trivial fun r => ?_
    match r with
    | .error e => exact .failed trivial
    | .ok claimTxId =>
      have ho₁ : ¬ SwapHistory.Wrote .success
          (⟨.broadcastTransaction, .ok claimTxId⟩ :: ⟨.check .serialize, .ok ()⟩ :: h) :=
        SwapHistory.not_wrote_cons (SwapHistory.not_wrote_cons ho id) id
      refine .call ho₁ fun r => ?_
      match r with
      | .error e => exact .failed nofun
      | .ok () =>
        exact ⟨fun _ => .last (.inl ⟨_, rfl, SwapState.noConfusion⟩), fun e he => (nomatch he)⟩

/-- Reference: `swaps/swaps_service.go:718 RefundSwap`. -/
theorem follows_refundTo {enableRetries : Bool} {timeoutBlockHeight : Nat} {address : String}
    {h₀ : SwapHistory} (ho : ¬ h.Wrote .success) :
    Follows op.Ok (fun h' exit => op.Refunds h₀ h' exit) h
      (refundTo enableRetries n timeoutBlockHeight address) := by
  refine .call trivial fun r => ?_
  match r with
  | .error e => exact .failed nofun
  | .ok () =>
    have ho₁ : ¬ SwapHistory.Wrote .success
        (⟨.updates { refundAddress := address }, .ok ()⟩ :: h) :=
      SwapHistory.not_wrote_cons ho (not_writes_of_none rfl)
    have hconstruct : Follows op.Ok (fun h' r =>
        (∀ exit, r = .error exit → op.Refunds h₀ h' exit) ∧ ¬ SwapHistory.Wrote .success h') _
        (constructRefund enableRetries timeoutBlockHeight n) := follows_constructRefund ho₁
    refine hconstruct.bind fun h' r _ hr => ?_
    cases r with
    | error exit => exact hr.1 exit rfl
    | ok refundAmountSat => exact follows_sendRefund hr.2

/-- Reference: `swaps/swaps_service.go:662 RefundSwap`. -/
theorem follows_refundLockup {enableRetries : Bool} {timeoutBlockHeight : Nat} {address : String}
    {h₀ : SwapHistory} (ho : ¬ h.Wrote .success) :
    Follows op.Ok (fun h' exit => op.Refunds h₀ h' exit) h
      (refundLockup enableRetries n timeoutBlockHeight address) := by
  refine .call trivial fun r => ?_
  have ho₁ : ¬ SwapHistory.Wrote .success (⟨.check .keysAndTree, r⟩ :: _) :=
    SwapHistory.not_wrote_cons ho id
  match r with
  | .error e => exact .failed SwapCheck.noConfusion
  | .ok () =>
    refine .call trivial fun r => ?_
    have ho₂ : ¬ SwapHistory.Wrote .success (⟨.newTxFromHex "", r⟩ :: _) :=
      SwapHistory.not_wrote_cons ho₁ id
    match r with
    | .error e => exact .failed trivial
    | .ok () =>
      refine .call trivial fun r => ?_
      have ho₃ : ¬ SwapHistory.Wrote .success (⟨.check .findVout, r⟩ :: _) :=
        SwapHistory.not_wrote_cons ho₂ id
      match r with
      | .error e => exact .failed SwapCheck.noConfusion
      | .ok () =>
        refine quiet_refundAddress.bind fun h' r _ ⟨hfailed, hquiet⟩ => ?_
        cases r with
        | error e => exact .of_failedSince (hfailed e rfl)
        | ok address => exact follows_refundTo fun hw => ho₃ (hquiet .success hw)

/-- A refund writes no failure; without an error it is recorded. Reference:
`swaps/swaps_service.go:614 RefundSwap`. -/
theorem follows_RefundSwap {enableRetries : Bool} {address : String} (ho : ¬ h.Wrote .success) :
    Follows op.Ok (fun h' exit => op.Refunds h h' exit) h (RefundSwap n address enableRetries) := by
  -- the errors of the row itself come after an answer that did not fail
  have refused : ∀ (found : Option Swap) (e : String),
      op.Refunds h (⟨.find, .ok found⟩ :: h) (.returned (some e)) := fun _ _ =>
    ⟨fun he => (nomatch he), fun _ _ hf => hf.cons id⟩
  refine .call trivial fun r => ?_
  have ho₁ : ¬ SwapHistory.Wrote .success (⟨.find, r⟩ :: _) :=
    SwapHistory.not_wrote_cons ho id
  match r with
  | .error e => exact .failed trivial
  | .ok none => exact refused none _
  | .ok (some swap) =>
    simp only
    split
    · exact refused (some swap) _
    · split
      · exact refused (some swap) _
      · refine .call trivial fun r => ?_
        have ho₂ : ¬ SwapHistory.Wrote .success (⟨.check .parseChain, r⟩ :: _) :=
          SwapHistory.not_wrote_cons ho₁ id
        match r with
        | .error e => exact .failed SwapCheck.noConfusion
        | .ok () =>
          refine .call trivial fun r => ?_
          have ho₃ : ¬ SwapHistory.Wrote .success (⟨.getSwapTransaction, r⟩ :: _) :=
            SwapHistory.not_wrote_cons ho₂ id
          match r with
          | .error e => exact .failed trivial
          | .ok (lockupTxId, timeoutBlockHeight) =>
            refine quiet_saveLockup.bind fun h' r _ ⟨hfailed, hquiet⟩ => ?_
            cases r with
            | error e => exact .of_failedSince (hfailed e rfl)
            | ok => exact follows_refundLockup fun hw => ho₃ (hquiet .success hw)

/-! ## The two listeners -/

/-- A turn that ends with an answer that failed. Reference: none. -/
theorem SwapOp.Turned.failed {e : String} (hc : op.Fails call) :
    op.Turned (call :: h) (.stop (some e)) := .inl hc

/-- Reference: `swaps/swaps_service.go:994 startSwapInListener`. -/
theorem follows_swapInTurn {amountSat m : Nat} {swap₀ : Swap} (hop : op = .swapIn amountSat m swap₀)
    (h : SwapHistory) (swap : Swap) (ho : h.Open) :
    Follows op.Ok op.Turned h (swapInTurn amountSat n swap) := by
  subst hop
  refine .call trivial fun signal => ?_
  have ho₁ : SwapHistory.Open (⟨.select, signal⟩ :: h) := ho.cons id id
  match signal with
  | .done => exact nofun
  | .paymentError _ | .claimTicker | .closed => exact ho₁
  | .update update =>
    simp only
    split
    · exact ho₁
    · unfold swapInUpdate
      split
      · refine .call trivial fun r => ?_
        match r with
        | .error e => exact .failed nofun
        | .ok () => exact ho₁.cons (not_writes_of_none rfl) (not_writes_of_none rfl)
      · refine (follows_markSwapState (fun row => ?_) (.inl rfl)).bind fun h' _ _ hr => ?_
        · exact ⟨rfl, SwapHistory.not_wrote_cons ho₁.2 id⟩
        · refine .call trivial fun r => ?_
          match r with
          | .error e => exact .failed nofun
          | .ok () =>
            refine .call trivial fun _ => ?_
            exact (hr.mono (List.suffix_cons _ _)).mono (List.suffix_cons _ _)
      all_goals try exact ho₁
      all_goals
        next hstatus =>
        refine (follows_RefundSwap ho₁.1).bind fun h' exit _ hr => ?_
        match exit with
        | .running => exact nofun
        | .cancelled => exact nofun
        | .returned none => exact hr.1 rfl
        | .returned (some e) =>
          refine hr.2 e rfl (.inl ?_)
          simp [SwapOp.Fails, SwapOp.endsWith, hstatus]

/-- Reference: `swaps/swaps_service.go:1330 startSwapOutListener`. -/
theorem follows_broadcastClaim {n : Nat} (ho : h.Open) :
    Follows op.Ok (fun h' r => (∀ e, r = .error e → op.FailedSince h') ∧ SwapHistory.Open h') h
      (broadcastClaim n) := by
  induction n generalizing h with
  | zero =>
    refine ⟨trivial, fun r => ⟨?_, ho.cons id id⟩⟩
    rintro e rfl
    exact .inl trivial
  | succ n ih =>
    refine .call trivial fun r => ?_
    match r with
    | .error e => exact ih (ho.cons id id)
    | .ok claimTxId => exact ⟨nofun, ho.cons id id⟩

/-- Reference: `swaps/swaps_service.go:1321 startSwapOutListener`. -/
theorem follows_sendClaim {claimAmountSat : Nat} (ho : h.Open) :
    Follows op.Ok op.Turned h (sendClaim swap claimAmountSat) := by
  refine .call trivial fun r => ?_
  match r with
  | .error e => exact .failed SwapCheck.noConfusion
  | .ok () =>
    have ho₁ : SwapHistory.Open (⟨.check .serialize, .ok ()⟩ :: h) := ho.cons id id
    refine (follows_broadcastClaim ho₁).bind fun h' r _ ⟨hfailed, ho₂⟩ => ?_
    cases r with
    | error e => exact hfailed e rfl
    | ok claimTxId =>
      refine .call trivial fun r => ?_
      match r with
      | .error e => exact .failed nofun
      | .ok () => exact ho₂.cons (not_writes_of_none rfl) (not_writes_of_none rfl)

/-- The error of the fee is forgotten. Reference: `swaps/swaps_service.go:1287
startSwapOutListener`. -/
theorem follows_claimFee {swap₀ : Swap} (hop : op = .swapOut n swap₀) (ho : h.Open) :
    Follows op.Ok (fun h' r => (∀ e, r = .error e → op.Resolved h') ∧ SwapHistory.Open h') h
      (claimFee swap) := by
  unfold claimFee
  split
  · refine ⟨trivial, fun r => ⟨?_, ho.cons id id⟩⟩
    rintro e rfl
    exact .last (.inr (.inr (.inr trivial)))
  · refine ⟨trivial, fun r => ⟨?_, ho.cons id id⟩⟩
    rintro e rfl
    exact .last (.inr (.inr (.inr ⟨n, swap₀, hop⟩)))

/-- Reference: `swaps/swaps_service.go:1255 startSwapOutListener`. -/
theorem follows_claimLockup {swap₀ : Swap} {update : SwapMessage} (hop : op = .swapOut n swap₀)
    (ho : h.Open) : Follows op.Ok op.Turned h (claimLockup swap update) := by
  refine .call trivial fun r => ?_
  have ho₁ : SwapHistory.Open (⟨.newTxFromHex update.transactionHex, r⟩ :: h) := ho.cons id id
  match r with
  | .error e => exact .failed trivial
  | .ok () =>
    refine .call trivial fun r => ?_
    have ho₂ : SwapHistory.Open (⟨.check .findVout, r⟩ :: _) := ho₁.cons id id
    match r with
    | .error e => exact .failed SwapCheck.noConfusion
    | .ok () =>
      refine (follows_claimFee hop ho₂).bind fun h' r _ ⟨hforgotten, ho₃⟩ => ?_
      cases r with
      | error e => exact hforgotten e rfl
      | ok =>
        refine .call trivial fun r => ?_
        match r with
        | .error e => exact .failed trivial
        | .ok claimAmountSat => exact follows_sendClaim (ho₃.cons id id)

/-- Reference: `swaps/swaps_service.go:1228 startSwapOutListener`. -/
theorem follows_lockupDetected {swap₀ : Swap} {update : SwapMessage} (hop : op = .swapOut n swap₀)
    (ho : h.Open) : Follows op.Ok op.Turned h (lockupDetected swap update) := by
  refine quiet_saveLockup.bind fun h' r _ ⟨hfailed, hquiet⟩ => ?_
  have ho₁ : SwapHistory.Open h' := ⟨fun hw => ho.1 (hquiet _ hw), fun hw => ho.2 (hquiet _ hw)⟩
  have claims : ∀ swap : Swap, Follows op.Ok op.Turned h'
      (if swap.claimTxId ≠ "" then return .again swap else claimLockup swap update) := by
    intro swap
    split
    · exact ho₁
    · exact follows_claimLockup hop ho₁
  cases r with
  | error e => exact hfailed e rfl
  | ok => exact claims _

/-- Reference: `swaps/swaps_service.go:1162 startSwapOutListener`. -/
theorem follows_claimPoll (hlistener : op.isListener = true) (ho : h.Open) :
    Follows op.Ok op.Turned h (claimPoll swap) := by
  unfold claimPoll
  split
  · exact ho
  · refine .call trivial fun r => ?_
    have ho₁ : SwapHistory.Open (⟨.isTransactionConfirmed swap.claimTxId, r⟩ :: h) :=
      ho.cons id id
    match r with
    | .error e => exact ho₁
    | .ok false => exact ho₁
    | .ok true =>
      refine (follows_markSwapState (fun row => ?_) (.inl rfl)).bind fun h' _ _ hr => ?_
      · exact ⟨hlistener, SwapHistory.not_wrote_cons ho₁.2 id⟩
      · have hbump : Follows op.Ok (fun h'' _ => op.Resolved h'') h' (bumpIndex swap) := by
          unfold bumpIndex
          split
          · exact ⟨trivial, fun _ => hr.mono (List.suffix_cons _ _)⟩
          · exact hr
        refine hbump.bind fun h'' _ _ hr => ?_
        exact ⟨trivial, fun _ => hr.mono (List.suffix_cons _ _)⟩

/-- Reference: `swaps/swaps_service.go:1151 startSwapOutListener`. -/
theorem follows_swapOutTurn {swap₀ : Swap} (hop : op = .swapOut n swap₀) (h : SwapHistory)
    (swap : Swap) (ho : h.Open) : Follows op.Ok op.Turned h (swapOutTurn swap) := by
  refine .call trivial fun signal => ?_
  have ho₁ : SwapHistory.Open (⟨.select, signal⟩ :: h) := ho.cons id id
  match signal with
  | .done => exact nofun
  | .paymentError e => exact .failed trivial
  | .claimTicker => exact follows_claimPoll (hop ▸ rfl) ho₁
  | .closed => exact ho₁
  | .update update =>
    simp only
    split
    · exact ho₁
    · unfold swapOutUpdate
      split
      · exact ⟨trivial, fun _ => ho₁.cons id id⟩
      · exact follows_lockupDetected hop ho₁
      · exact follows_lockupDetected hop ho₁
      · next hstatus => exact .failed (by simp [SwapOp.Fails, SwapOp.endsWith, hop, hstatus])
      · next hstatus => exact .failed (by simp [SwapOp.Fails, SwapOp.endsWith, hop, hstatus])
      · exact ho₁

/-- What a call of the swap does, and what a listener that returns has done. Reference:
`swaps/swaps_service.go:885`, `:1053`, `:614`. -/
theorem swapBody_follows (op : SwapOp) :
    Follows op.Ok (fun h exit => op.isListener = true → op.Left h exit) [] (swapBody op) := by
  cases op with
  | swapIn amountSat n swap =>
    exact (follows_startListener rfl (follows_swapInTurn rfl)).mono (fun _ _ h => h)
      fun _ _ _ hl _ => hl
  | swapOut n swap =>
    exact (follows_startListener rfl (follows_swapOutTurn rfl)).mono (fun _ _ h => h)
      fun _ _ _ hl _ => hl
  | refund n address =>
    refine (follows_RefundSwap ?_).mono (fun _ _ h => h) fun _ _ _ _ h => nomatch h
    rintro ⟨call, hc, -⟩
    cases hc

end

end AlbyHub
