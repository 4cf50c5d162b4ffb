import AlbyHub.Swaps.Refund

/-!
# What the record of a refund says

A call that has recorded its address and not returned yet may still broadcast a transaction to it,
so the recorded address has to stay the one of every such call. Then the transaction that is
recorded pays the recorded address.
-/

namespace AlbyHub.Refund

open Interaction

/-! ## Discipline -/

/-- Columns that say nothing about the refund. Reference: `swaps/swaps_service.go:650 RefundSwap`,
`:597 markSwapState`. -/
def Harmless (u : SwapColumns) : Prop :=
  u.refundAddress = "" ∧ u.claimTxId = "" ∧ u.receiveAmountSat = 0 ∧ u.state ≠ some .refunded

/-- The call has recorded its address. Reference: `swaps/swaps_service.go:719 RefundSwap`. -/
def SavedAddress (h : List RefundCall) (address : String) : Prop :=
  (⟨.saveAddress address, .ok ()⟩ : RefundCall) ∈ h

/-- The commands that need a history. Reference: `swaps/swaps_service.go:718`, `:809`, `:818
RefundSwap`. -/
def RefundOk (h : List RefundCall) : RefundCmd → Prop
  | .plain (.updates u) => Harmless u
  | .saveAddress _ => ∀ call ∈ h, ∀ address, call.cmd ≠ .saveAddress address
  | .broadcast address _ => SavedAddress h address
  | .record claimTxId refundAmountSat =>
    ∃ address h', h = ⟨.broadcast address refundAmountSat, .ok claimTxId⟩ :: h'
  | _ => True

/-- Any return. Reference: none. -/
def anyExit {α : Type} (_ : List RefundCall) (_ : α) : Prop := True

section
variable {h : List RefundCall} {α β : Type} {address : String}

theorem SavedAddress.cons {call : RefundCall} (hs : SavedAddress h address) :
    SavedAddress (call :: h) address :=
  List.mem_cons_of_mem _ hs

/-- The call has not come to its address. Reference: none. -/
def NoAddress (h : List RefundCall) : Prop := ∀ call ∈ h, ∀ address, call.cmd ≠ .saveAddress address

theorem NoAddress.cons {c : SwapCmd} {r : c.Ans} (hn : NoAddress h) :
    NoAddress (⟨.plain c, r⟩ :: h) := by
  intro call hcall address
  rcases List.mem_cons.1 hcall with rfl | hcall
  · exact nofun
  · exact hn call hcall address

theorem follows_constructRefund {enableRetries : Bool} {timeoutBlockHeight n : Nat}
    (hs : SavedAddress h address) : Follows RefundOk (fun h' _ => SavedAddress h' address) h
      (constructRefund enableRetries timeoutBlockHeight address n) := by
  induction n generalizing h with
  | zero => exact hs
  | succ n ih =>
    refine ⟨trivial, fun done => ?_⟩
    cases done with
    | true => exact hs.cons
    | false =>
      refine ⟨trivial, fun r => ?_⟩
      cases r with
      | error e => exact ih hs.cons.cons
      | ok blockHeight =>
        refine ⟨trivial, fun r => ?_⟩
        cases r with
        | error e => exact ih hs.cons.cons.cons
        | ok _ =>
          refine ⟨trivial, fun r => ?_⟩
          cases r with
          | ok refundAmountSat => exact hs.cons.cons.cons.cons
          | error e =>
            show Follows _ _ _ (ite _ _ _)
            split
            · exact ih hs.cons.cons.cons.cons
            · exact hs.cons.cons.cons.cons

theorem follows_sendRefund {refundAmountSat : Nat} (hs : SavedAddress h address) :
    Follows RefundOk anyExit h (sendRefund address refundAmountSat) := by
  refine ⟨trivial, fun r => ?_⟩
  cases r with
  | error e => trivial
  | ok _ =>
    refine ⟨hs.cons, fun r => ?_⟩
    cases r with
    | error e => trivial
    | ok claimTxId =>
      refine ⟨⟨address, _, rfl⟩, fun r => ?_⟩
      cases r with
      | error e => trivial
      | ok _ => trivial

theorem follows_refundTo {enableRetries : Bool} {n timeoutBlockHeight : Nat} (hn : NoAddress h) :
    Follows RefundOk anyExit h (refundTo enableRetries n timeoutBlockHeight address) := by
  refine ⟨hn, fun r => ?_⟩
  cases r with
  | error e => trivial
  | ok _ =>
    have hs : SavedAddress (⟨.saveAddress address, .ok ()⟩ :: h) address := List.mem_cons_self
    refine (follows_constructRefund hs).bind fun h' r _ hs' => ?_
    cases r with
    | error exit => trivial
    | ok refundAmountSat => exact follows_sendRefund hs'

theorem follows_refundAddress (hn : NoAddress h) :
    Follows RefundOk (fun h' _ => NoAddress h') h (plainly (refundAddress address)) := by
  unfold refundAddress
  split
  · exact ⟨trivial, fun _ => hn.cons⟩
  · exact hn

theorem follows_refundLockup {enableRetries : Bool} {n timeoutBlockHeight : Nat}
    (hn : NoAddress h) :
    Follows RefundOk anyExit h (refundLockup enableRetries n timeoutBlockHeight address) := by
  refine ⟨trivial, fun r => ?_⟩
  cases r with
  | error e => trivial
  | ok _ =>
    refine ⟨trivial, fun r => ?_⟩
    cases r with
    | error e => trivial
    | ok _ =>
      refine ⟨trivial, fun r => ?_⟩
      cases r with
      | error e => trivial
      | ok _ =>
        refine (follows_refundAddress hn.cons.cons.cons).bind fun h' r _ hn' => ?_
        cases r with
        | error e => trivial
        | ok address => exact follows_refundTo hn'

theorem follows_saveLockup {swap : Swap} {lockupTxId : String} (hn : NoAddress h) :
    Follows RefundOk (fun h' _ => NoAddress h') h (plainly (saveLockup swap lockupTxId)) := by
  unfold saveLockup
  split
  · exact ⟨⟨rfl, rfl, rfl, nofun⟩, fun _ => hn.cons⟩
  · exact hn

theorem follows_RefundSwap {n : Nat} {enableRetries : Bool} (hn : NoAddress h) :
    Follows RefundOk anyExit h (RefundSwap n address enableRetries) := by
  refine ⟨trivial, fun r => ?_⟩
  cases r with
  | error e => trivial
  | ok row =>
    cases row with
    | none => trivial
    | some swap =>
      show Follows _ _ _ (ite _ _ _)
      split
      · trivial
      · show Follows _ _ _ (ite _ _ _)
        split
        · trivial
        · refine ⟨trivial, fun r => ?_⟩
          cases r with
          | error e => trivial
          | ok _ =>
            refine ⟨trivial, fun r => ?_⟩
            cases r with
            | error e => trivial
            | ok lockup =>
              refine (follows_saveLockup hn.cons.cons.cons).bind fun h' r _ hn' => ?_
              cases r with
              | error e => trivial
              | ok _ => exact follows_refundLockup hn'

/-- Every call follows the discipline. Reference: `swaps/swaps_service.go:614 RefundSwap`. -/
theorem follows_refundBody (op : RefundOp) : Follows RefundOk anyExit [] (refundBody op) := by
  have hn : NoAddress [] := nofun
  cases op with
  | refund n address => exact follows_RefundSwap hn
  | automatic n =>
    have hrefund : Follows RefundOk anyExit [] (RefundSwap n "" true) := follows_RefundSwap hn
    refine hrefund.bind fun h' exit _ _ => ?_
    cases exit with
    | running => trivial
    | cancelled => trivial
    | returned err =>
      cases err with
      | none => trivial
      | some e =>
        refine ⟨trivial, fun row => ?_⟩
        cases row with
        | some swap => trivial
        | none => exact ⟨⟨rfl, rfl, rfl, nofun⟩, fun _ => trivial⟩

end

/-! ## The invariant -/

/-- The row says nothing about a refund. Reference: `swaps/swaps_service.go:456 SwapIn`. -/
def Unrecorded (row : Swap) : Prop :=
  row.claimTxId = "" ∧ row.receiveAmountSat = 0 ∧ row.state ≠ .refunded

/-- The record of a refund is that of a transaction that was broadcast. Reference:
`swaps/swaps_service.go:818 RefundSwap`. -/
def Truthful (s : RefundHub) : Prop :=
  s.row.state = .refunded → ∃ tx ∈ s.sent, tx.id = s.row.claimTxId ∧
    tx.address = s.row.refundAddress ∧ tx.amountSat = s.row.receiveAmountSat

/-- The call has broadcast its transaction and not recorded it yet. Reference:
`swaps/swaps_service.go:809 RefundSwap`. -/
def Pending (t : RefundThread) : Prop :=
  ∃ address amountSat claimTxId h', t.hist = ⟨.broadcast address amountSat, .ok claimTxId⟩ :: h'

/-- The step keeps to the condition: a call records its address only where every other call on its
way has recorded the same one, the recorded address is that one afterwards, and the row of a swap
that was refunded keeps its address. Reference: `swaps/swaps_service.go:718 RefundSwap`. -/
def Orderly (cfg : RefundPool) : RefundLabel → Prop
  | .run i env => env.fault = none → ∀ op h address k,
    cfg.threads[i]? = some ⟨op, h, .cmd (.saveAddress address) k⟩ →
      (address = "" → cfg.state.row.refundAddress = "") ∧
      (cfg.state.row.state = .refunded → cfg.state.row.refundAddress = address) ∧
      ∀ t ∈ cfg.threads, t.rest.done = false → ∀ address', SavedAddress t.hist address' →
        address' = address
  | _ => True

/-- What is recorded, and what the calls on their way will record. Reference:
`swaps/swaps_service.go:614 RefundSwap`. -/
structure Recorded (s : RefundHub) (ts : List RefundThread) : Prop where
  follows : ∀ t ∈ ts, Follows RefundOk anyExit t.hist t.rest
  unique : Unique Pending ts
  pending : ∀ t ∈ ts, ∀ address amountSat claimTxId h',
    t.hist = ⟨.broadcast address amountSat, .ok claimTxId⟩ :: h' →
      s.sent = [⟨claimTxId, address, amountSat⟩] ∧ SavedAddress h' address ∧ Unrecorded s.row
  unsent : s.sent = [] → Unrecorded s.row
  address : ∀ t ∈ ts, t.rest.done = false → ∀ address, SavedAddress t.hist address →
    s.row.refundAddress = address
  truthful : Truthful s

section
variable {s s' : RefundHub} {ts : List RefundThread} {op : RefundOp} {h : List RefundCall}
variable {c : RefundCmd} {r : c.Ans} {k : c.Ans → Rfd SwapExit} {i : Nat} {t : RefundThread}

namespace Recorded

theorem issues (hn : Recorded s ts) (hi : ts[i]? = some ⟨op, h, .cmd c k⟩) : RefundOk h c :=
  (hn.follows _ (List.mem_of_getElem? hi)).1

theorem follows_set (hn : Recorded s ts) (hi : ts[i]? = some ⟨op, h, .cmd c k⟩) :
    ∀ t ∈ ts.set i ⟨op, ⟨c, r⟩ :: h, k r⟩, Follows RefundOk anyExit t.hist t.rest := by
  intro t ht
  rcases Config.mem_set ht with rfl | ht
  · exact (hn.follows _ (List.mem_of_getElem? hi)).2 r
  · exact hn.follows t ht

/-- A step that keeps the columns of the refund, and after which the call has no transaction to
record and no new address, keeps the invariant. Reference: none. -/
theorem quiet (hn : Recorded s ts) (hi : ts[i]? = some ⟨op, h, .cmd c k⟩)
    (hsaved : ∀ address, SavedAddress (⟨c, r⟩ :: h) address → SavedAddress h address)
    (hpending : ∀ address amountSat claimTxId h',
      (⟨c, r⟩ :: h : List RefundCall) ≠ ⟨.broadcast address amountSat, .ok claimTxId⟩ :: h')
    (hsent : s'.sent = s.sent) (haddress : s'.row.refundAddress = s.row.refundAddress)
    (hclaim : s'.row.claimTxId = s.row.claimTxId)
    (hamount : s'.row.receiveAmountSat = s.row.receiveAmountSat)
    (hstate : s'.row.state = .refunded → s.row.state = .refunded) :
    Recorded s' (ts.set i ⟨op, ⟨c, r⟩ :: h, k r⟩) := by
  have hfresh : Unrecorded s.row → Unrecorded s'.row := by
    rintro ⟨h₁, h₂, h₃⟩
    exact ⟨hclaim.trans h₁, hamount.trans h₂, fun he => h₃ (hstate he)⟩
  refine ⟨hn.follows_set hi, hn.unique.set hi ?_, fun t ht a n id h' he => ?_, fun he => ?_,
    fun t ht hdone a hs => ?_, fun he => ?_⟩
  · rintro ⟨a, n, id, h', he⟩
    exact absurd he (hpending a n id h')
  · rcases Config.mem_set ht with rfl | ht
    · exact absurd he (hpending a n id h')
    · obtain ⟨hone, hsave, hun⟩ := hn.pending t ht a n id h' he
      exact ⟨hsent.trans hone, hsave, hfresh hun⟩
  · exact hfresh (hn.unsent (hsent.symm.trans he))
  · rw [haddress]
    rcases Config.mem_set ht with rfl | ht
    · exact hn.address _ (List.mem_of_getElem? hi) rfl a (hsaved a hs)
    · exact hn.address t ht hdone a hs
  · obtain ⟨tx, htx, h₁, h₂, h₃⟩ := hn.truthful (hstate he)
    exact ⟨tx, hsent ▸ htx, h₁.trans hclaim.symm, h₂.trans haddress.symm, h₃.trans hamount.symm⟩

/-- A call records its address. Reference: `swaps/swaps_service.go:719 RefundSwap`. -/
theorem saveAddress {address : String} {k : Except String Unit → Rfd SwapExit} (hn : Recorded s ts)
    (hi : ts[i]? = some ⟨op, h, .cmd (.saveAddress address) k⟩)
    (hempty : address = "" → s.row.refundAddress = "")
    (hrefunded : s.row.state = .refunded → s.row.refundAddress = address)
    (hsame : ∀ t ∈ ts, t.rest.done = false → ∀ address', SavedAddress t.hist address' →
      address' = address) :
    Recorded { s with row := s.row.updates { refundAddress := address } }
      (ts.set i ⟨op, ⟨.saveAddress address, .ok ()⟩ :: h, k (.ok ())⟩) := by
  have hnew : (s.row.updates { refundAddress := address }).refundAddress = address := by
    show (if address = "" then s.row.refundAddress else address) = address
    split
    · next he => rw [hempty he, he]
    · rfl
  have hfresh : Unrecorded s.row → Unrecorded (s.row.updates { refundAddress := address }) :=
    fun hun =>
    hun
  refine ⟨hn.follows_set hi, hn.unique.set hi ?_, fun t ht a n id h' he => ?_, fun he => ?_,
    fun t ht hdone a hs => ?_, fun he => ?_⟩
  · rintro ⟨a, n, id, h', he⟩
    cases he
  · rcases Config.mem_set ht with rfl | ht
    · cases he
    · obtain ⟨hone, hsave, hun⟩ := hn.pending t ht a n id h' he
      exact ⟨hone, hsave, hfresh hun⟩
  · exact hfresh (hn.unsent he)
  · show (s.row.updates { refundAddress := address }).refundAddress = a
    rw [hnew]
    rcases Config.mem_set ht with rfl | ht
    · rcases List.mem_cons.1 hs with he | hs
      · cases he
        rfl
      · exact absurd rfl (hn.issues hi _ hs a)
    · exact (hsame t ht hdone a hs).symm
  · obtain ⟨tx, htx, h₁, h₂, h₃⟩ := hn.truthful he
    exact ⟨tx, htx, h₁, (h₂.trans (hrefunded he)).trans hnew.symm, h₃⟩

/-- A refund transaction is broadcast. Reference: `swaps/swaps_service.go:809 RefundSwap`. -/
theorem broadcast {address claimTxId : String} {amountSat : Nat}
    {k : Except String String → Rfd SwapExit} (hn : Recorded s ts)
    (hi : ts[i]? = some ⟨op, h, .cmd (.broadcast address amountSat) k⟩) (hsent : s.sent = []) :
    Recorded { s with sent := [⟨claimTxId, address, amountSat⟩] }
      (ts.set i ⟨op, ⟨.broadcast address amountSat, .ok claimTxId⟩ :: h, k (.ok claimTxId)⟩) := by
  have hun := hn.unsent hsent
  have hnone : ∀ t ∈ ts, ¬ Pending t := by
    rintro t ht ⟨a, n, id, h', he⟩
    have hone := (hn.pending t ht a n id h' he).1
    rw [hsent] at hone
    cases hone
  refine ⟨hn.follows_set hi,
    Unique.set_of_none fun j t hj _ => hnone t (List.mem_of_getElem? hj),
    fun t ht a n id h' he => ?_, nofun, fun t ht hdone a hs => ?_, fun he => absurd he hun.2.2⟩
  · rcases Config.mem_set ht with rfl | ht
    · cases he
      exact ⟨rfl, hn.issues hi, hun⟩
    · exact absurd ⟨a, n, id, h', he⟩ (hnone t ht)
  · rcases Config.mem_set ht with rfl | ht
    · refine hn.address _ (List.mem_of_getElem? hi) rfl a ?_
      rcases List.mem_cons.1 hs with he | hs
      · cases he
      · exact hs
    · exact hn.address t ht hdone a hs

/-- The transaction is recorded. Reference: `swaps/swaps_service.go:818 RefundSwap`. -/
theorem record {claimTxId : String} {refundAmountSat : Nat} {k : Except String Unit → Rfd SwapExit}
    (hn : Recorded s ts) (hi : ts[i]? = some ⟨op, h, .cmd (.record claimTxId refundAmountSat) k⟩) :
    Recorded ⟨s.row.updates ⟨some .refunded, refundAmountSat, "", "", claimTxId⟩, s.sent⟩
      (ts.set i ⟨op, ⟨.record claimTxId refundAmountSat, .ok ()⟩ :: h, k (.ok ())⟩) := by
  have hmem := List.mem_of_getElem? hi
  obtain ⟨address, h₀, rfl⟩ := hn.issues hi
  obtain ⟨hsent, hsave, hclaim, hamount, -⟩ :=
    hn.pending _ hmem address refundAmountSat claimTxId h₀ rfl
  have hnone : ∀ (j : Nat) t, ts[j]? = some t → j ≠ i → ¬ Pending t := fun j t hj hne hp =>
    hne (hn.unique j i _ _ hj hi hp ⟨address, refundAmountSat, claimTxId, h₀, rfl⟩)
  have haddress := hn.address _ hmem rfl address hsave.cons
  refine ⟨hn.follows_set hi, Unique.set_of_none hnone, fun t ht a n id h' he => ?_, fun he => ?_,
    fun t ht hdone a hs => ?_, fun _ => ?_⟩
  · rcases mem_set_index ht with rfl | ⟨j, hji, hj⟩
    · cases he
    · exact absurd ⟨a, n, id, h', he⟩ (hnone j t hj hji)
  · rw [show s.sent = _ from hsent] at he
    cases he
  · show s.row.refundAddress = a
    rcases Config.mem_set ht with rfl | ht
    · refine hn.address _ hmem rfl a ?_
      rcases List.mem_cons.1 hs with he | hs
      · cases he
      · exact hs
    · exact hn.address t ht hdone a hs
  · refine ⟨⟨claimTxId, address, refundAmountSat⟩, ?_, ?_, haddress.symm, ?_⟩
    · show _ ∈ s.sent
      rw [hsent]
      exact List.mem_singleton_self _
    · show claimTxId = if claimTxId = "" then s.row.claimTxId else claimTxId
      split
      · next he => rw [hclaim, he]
      · rfl
    · show refundAmountSat = if refundAmountSat = 0 then s.row.receiveAmountSat else refundAmountSat
      split
      · next he => rw [hamount, he]
      · rfl

/-- A command without a part in the transaction keeps the columns of the refund. Reference: the
calls of `SwapCmd`. -/
theorem plain {c : SwapCmd} {r : c.Ans} {k : c.Ans →
    Rfd SwapExit} {env : SwapEnv} (hn : Recorded s ts)
    (hi : ts[i]? = some ⟨op, h, .cmd (.plain c) k⟩)
    (hx : refundExec s (.plain c) env = some (r, s')) :
    Recorded s' (ts.set i ⟨op, ⟨.plain c, r⟩ :: h, k r⟩) := by
  have hsaved : ∀ (r : c.Ans) address,
      SavedAddress (⟨.plain c, r⟩ :: h) address → SavedAddress h address := by
    intro r address hs
    rcases List.mem_cons.1 hs with he | hs
    · cases he
    · exact hs
  have hpending : ∀ (r : c.Ans) address amountSat claimTxId h',
      (⟨.plain c, r⟩ :: h : List RefundCall) ≠ ⟨.broadcast address amountSat,
        .ok claimTxId⟩ :: h' := by
    intro r address amountSat claimTxId h' he
    cases he
  have hok := hn.issues hi
  obtain ⟨⟨r', s₁⟩, hx', he⟩ := Option.map_eq_some_iff.1 hx
  cases he
  cases c with
  | updates u =>
    obtain ⟨haddress, hclaim, hamount, hstate⟩ : Harmless u := hok
    cases hx'
    cases hf : env.fault with
    | some e =>
      have hw : (s.forget.written (some e) u).swap = s.row := rfl
      refine hn.quiet hi (hsaved _) (hpending _) rfl ?_ ?_ ?_ ?_
      all_goals simp only [hw]
      exact id
    | none =>
      have hw : (s.forget.written none u).swap = s.row.updates u := rfl
      refine hn.quiet hi (hsaved _) (hpending _) rfl ?_ ?_ ?_ ?_
      all_goals simp only [hw, Swap.updates, haddress, hclaim, hamount, if_true]
      intro he
      cases hu : u.state with
      | none =>
        rw [hu] at he
        exact he
      | some state =>
        rw [hu] at he hstate
        exact absurd (congrArg some he) hstate
  | broadcastTransaction =>
    cases hx'
    cases env.fails with
    | none => exact hn.quiet hi (hsaved _) (hpending _) rfl rfl rfl rfl id
    | some e => exact hn.quiet hi (hsaved _) (hpending _) rfl rfl rfl rfl id
  | _ =>
    cases hx'
    exact hn.quiet hi (hsaved _) (hpending _) rfl rfl rfl rfl id

/-- A step that meets the condition keeps the invariant. Reference: `swaps/swaps_service.go:614
RefundSwap`. -/
theorem step {cfg cfg' : RefundPool} {l : RefundLabel} (hn : Recorded cfg.state cfg.threads)
    (ha : Orderly cfg l) (hs : cfg.step refundExec refundBody l = some cfg') :
    Recorded cfg'.state cfg'.threads := by
  cases l with
  | spawn op =>
    cases hs
    have hnew : ∀ t ∈ cfg.threads ++ [⟨op, [], refundBody op⟩],
        t ∈ cfg.threads ∨ t = ⟨op, [], refundBody op⟩ := fun t ht => by
      rcases List.mem_append.1 ht with ht | ht
      · exact .inl ht
      · exact .inr (List.mem_singleton.1 ht)
    refine ⟨fun t ht => ?_, hn.unique.append ?_, fun t ht a n id h' he => ?_, hn.unsent,
      fun t ht hdone a hs => ?_, hn.truthful⟩
    · rcases hnew t ht with ht | rfl
      · exact hn.follows t ht
      · exact follows_refundBody op
    · rintro ⟨a, n, id, h', he⟩
      cases he
    · rcases hnew t ht with ht | rfl
      · exact hn.pending t ht a n id h' he
      · cases he
    · rcases hnew t ht with ht | rfl
      · exact hn.address t ht hdone a hs
      · cases hs
  | restart =>
    cases hs
    -- the calls that are left have returned, so none of them has a transaction to record
    refine ⟨fun t ht => hn.follows t (List.mem_filter.1 ht).1, hn.unique.filter _,
      fun t ht => hn.pending t (List.mem_filter.1 ht).1, hn.unsent,
      fun t ht => hn.address t (List.mem_filter.1 ht).1, hn.truthful⟩
  | run i env =>
    obtain ⟨op, h, c, k, r, s', hi, hx, rfl⟩ := Config.step_run hs
    cases c with
    | plain c => exact hn.plain hi hx
    | saveAddress address =>
      cases hx
      cases hf : env.fault with
      | some e =>
        refine hn.quiet hi (fun address' hs => ?_) (fun _ _ _ _ he =>
          by cases he) rfl rfl rfl rfl id
        rcases List.mem_cons.1 hs with he | hs
        · cases he
        · exact hs
      | none =>
        obtain ⟨hempty, hrefunded, hsame⟩ := ha hf op h address k hi
        exact hn.saveAddress hi hempty hrefunded hsame
    | construct cooperative address =>
      cases hx
      refine hn.quiet hi (fun address' hs => ?_) (fun _ _ _ _ he => by cases he) rfl rfl rfl rfl id
      rcases List.mem_cons.1 hs with he | hs
      · cases he
      · exact hs
    | broadcast address amountSat =>
      have hsaved : ∀ (r : Except String String) address',
          SavedAddress (⟨.broadcast address amountSat, r⟩ :: h) address' →
            SavedAddress h address' := by
        intro r address' hs
        rcases List.mem_cons.1 hs with he | hs
        · cases he
        · exact hs
      simp only [refundExec] at hx
      split at hx
      · cases hx
        exact hn.quiet hi (hsaved _) (fun _ _ _ _ he => by cases he) rfl rfl rfl rfl id
      · cases hx
        exact hn.quiet hi (hsaved _) (fun _ _ _ _ he => by cases he) rfl rfl rfl rfl id
      · next hsent =>
        cases hx
        exact hn.broadcast hi hsent
    | record claimTxId refundAmountSat =>
      cases hx
      cases hf : env.fault with
      | some e =>
        refine hn.quiet hi (fun address' hs => ?_) (fun _ _ _ _ he =>
          by cases he) rfl rfl rfl rfl id
        rcases List.mem_cons.1 hs with he | hs
        · cases he
        · exact hs
      | none => exact hn.record hi

end Recorded

end

/-- Every state of a run that meets the condition keeps the invariant. Reference:
`swaps/swaps_service.go:614 RefundSwap`. -/
theorem Recorded.reach {cfg : RefundPool}
    (hr : Reach refundExec refundBody NotRefunded Orderly cfg) :
    Recorded cfg.state cfg.threads := by
  refine Reach.induction (P := fun cfg => Recorded cfg.state cfg.threads) ?_
    (fun cfg l cfg' _ hn ha hs => hn.step ha hs) hr
  rintro cfg ⟨hthreads, hsent, -, hstate, hclaim, hamount⟩
  rw [hthreads]
  exact ⟨nofun, nofun, nofun, fun _ => ⟨hclaim, hamount, hstate⟩, nofun, fun he => absurd he hstate⟩

/-- In a run in which no call records its address while another one with a different address is on
its way, the record of a refund is that of a transaction that was broadcast, and once a transaction
is recorded no call broadcasts another one. Reference: `swaps/swaps_service.go:614 RefundSwap`. -/
theorem refund_truthful {cfg : RefundPool}
    (hr : Reach refundExec refundBody NotRefunded Orderly cfg) :
    Truthful cfg.state ∧ (cfg.state.row.claimTxId ≠ "" → ∀ l cfg',
      cfg.step refundExec refundBody l = some cfg' → cfg'.state.sent = cfg.state.sent) := by
  have hn := Recorded.reach hr
  refine ⟨hn.truthful, fun hclaim l cfg' hs => ?_⟩
  have hsent : cfg.state.sent ≠ [] := fun he => hclaim (hn.unsent he).1
  cases l with
  | spawn op =>
    cases hs
    rfl
  | restart =>
    cases hs
    rfl
  | run i env =>
    obtain ⟨op, h, c, k, r, s', hi, hx, rfl⟩ := Config.step_run hs
    have hwritten : ∀ (u : SwapColumns), (cfg.state.written env.fault u).sent = cfg.state.sent := by
      intro u
      unfold RefundHub.written
      split <;> rfl
    cases c with
    | plain c =>
      obtain ⟨x, -, he⟩ := Option.map_eq_some_iff.1 hx
      cases he
      rfl
    | saveAddress address =>
      cases hx
      exact hwritten _
    | construct cooperative address =>
      cases hx
      rfl
    | broadcast address amountSat =>
      simp only [refundExec] at hx
      split at hx
      · cases hx
        rfl
      · cases hx
        rfl
      · next hnone => exact absurd hnone hsent
    | record claimTxId refundAmountSat =>
      cases hx
      exact hwritten _

/-- A swap-in that was not refunded. Reference: `swaps/swaps_service.go:456 SwapIn`. -/
def swapInRow : Swap := { swapId := "swap", type := .swapIn, lockupTxId := "lockup" }

/-- The hub of the swap-in before any refund. Reference: none. -/
def beforeRefund : RefundPool := ⟨⟨swapInRow, []⟩, []⟩

theorem notRefunded_beforeRefund : NotRefunded beforeRefund := ⟨rfl, rfl, rfl, nofun, rfl, rfl⟩

/-- A step that records no address is always allowed. Reference: none. -/
theorem Orderly.of_other {cfg : RefundPool} {i : Nat} {env : SwapEnv} {op : RefundOp}
    {h : List RefundCall} {c : RefundCmd} {k : c.Ans → Rfd SwapExit}
    (hi : cfg.threads[i]? = some ⟨op, h, .cmd c k⟩) (hc : ∀ address, c ≠ .saveAddress address) :
    Orderly cfg (.run i env) := by
  intro _ op' h' address k' hi'
  rw [hi] at hi'
  cases hi'
  exact absurd rfl (hc address)

/-- The swap-in is refunded once. Reference: `swaps/swaps_service.go:614 RefundSwap`. -/
theorem refund_truthful_once : ∃ cfg : RefundPool, cfg.state.row.state = .refunded ∧
    cfg.state.row.claimTxId = "tx" ∧ cfg.state.row.refundAddress = "bc1" ∧
    Truthful cfg.state ∧ (cfg.state.row.claimTxId ≠ "" → ∀ l cfg',
      cfg.step refundExec refundBody l = some cfg' → cfg'.state.sent = cfg.state.sent) := by
  have h0 : Reach refundExec refundBody NotRefunded Orderly beforeRefund :=
    .start notRefunded_beforeRefund
  have h1 := Reach.step (l := Label.spawn (RefundOp.refund 1 "bc1")) h0 trivial rfl
  -- the checks
  have h2 := h1.run (i := 0) (e := {}) rfl (.of_other rfl nofun) rfl
  have h3 := h2.run (i := 0) (e := {}) rfl (.of_other rfl nofun) rfl
  have h4 := h3.run (i := 0) (e := { text := "lockup" }) rfl (.of_other rfl nofun) rfl
  have h5 := h4.run (i := 0) (e := {}) rfl (.of_other rfl nofun) rfl
  have h6 := h5.run (i := 0) (e := {}) rfl (.of_other rfl nofun) rfl
  have h7 := h6.run (i := 0) (e := {}) rfl (.of_other rfl nofun) rfl
  -- the address
  have h8 := h7.run (i := 0) (e := {}) rfl (fun _ op h address k hi => by
    cases hi
    refine ⟨nofun, nofun, fun t ht _ address' hs => ?_⟩
    obtain rfl := List.mem_singleton.1 ht
    exact absurd rfl ((Recorded.reach h7).issues (i := 0) rfl _ hs address')) rfl
  -- the transaction
  have h9 := h8.run (i := 0) (e := {}) rfl (.of_other rfl nofun) rfl
  have h10 := h9.run (i := 0) (e := {}) rfl (.of_other rfl nofun) rfl
  have h11 := h10.run (i := 0) (e := {}) rfl (.of_other rfl nofun) rfl
  have h12 := h11.run (i := 0) (e := { number := 50000 }) rfl (.of_other rfl nofun) rfl
  have h13 := h12.run (i := 0) (e := {}) rfl (.of_other rfl nofun) rfl
  have h14 := h13.run (i := 0) (e := { text := "tx" }) rfl (.of_other rfl nofun) rfl
  have h15 := h14.run (i := 0) (e := {}) rfl (.of_other rfl nofun) rfl
  exact ⟨_, rfl, rfl, rfl, refund_truthful h15⟩

/-- Two calls with different addresses: the second one records its address while the first one is
constructing its transaction. Reference: `swaps/swaps_service.go:718 RefundSwap`. -/
def twoRefundsRun : List RefundLabel :=
  [.spawn (.refund 1 "bc1a"), .spawn (.refund 1 "bc1b")] ++ List.replicate 7 (.run 0 {}) ++
    List.replicate 7 (.run 1 {}) ++ List.replicate 3 (.run 0 {}) ++
    [.run 0 { number := 50000 }, .run 0 {}, .run 0 { text := "tx" }, .run 0 {}]

/-- The row after the run. Reference: none. -/
def wrongRow : Swap :=
  { swapInRow with
    state := .refunded
    claimTxId := "tx"
    refundAddress := "bc1b"
    receiveAmountSat := 50000 }

/-- The record says that the refund went to the address of the second call, while the transaction
pays that of the first one. Reference: `swaps/swaps_service.go:718`, `:818 RefundSwap`. -/
theorem refund_record_wrong : ∃ cfg,
    Reach refundExec refundBody NotRefunded (fun _ _ => True) cfg ∧ ¬ Truthful cfg.state := by
  have h0 : Reach refundExec refundBody NotRefunded (fun _ _ => True) beforeRefund :=
    .start notRefunded_beforeRefund
  have hlook : (beforeRefund.run refundExec refundBody twoRefundsRun).map (·.state) =
      some ⟨wrongRow, [⟨"tx", "bc1a", 50000⟩]⟩ := by decide +kernel
  obtain ⟨cfg, hafter, hcfg⟩ := Option.map_eq_some_iff.1 hlook
  refine ⟨cfg, h0.of_run (by decide +kernel) hafter, fun ht => ?_⟩
  obtain ⟨tx, htx, -, haddress, -⟩ := ht (by rw [hcfg]; rfl)
  rw [hcfg] at htx haddress
  rw [List.mem_singleton.1 htx] at haddress
  revert haddress
  decide

end AlbyHub.Refund
