import AlbyHub.Interaction.Prog

/-!
# The fee of a claim

When Boltz has seen the lockup transaction of a swap-out, the listener claims it. Here that branch
of the listener is taken with its amounts, which `AlbyHub.Swaps.Service` leaves out: the fee is what
the lockup output has more than the agreed amount, a difference of two unsigned numbers that nobody
compares. `claim_exact_iff` says when it is the difference of the amounts.
-/

namespace AlbyHub.SwapOutClaim

open Interaction

/-- The columns of a swap-out that its claim reads. The keys, the preimage and the tree, which go
into the signature, are left out. Reference: `db/models.go:94 Swap`. -/
structure SwapOut where
  swapId : String
  receiveAmountSat : UInt64 := 0
  destinationAddress : String := ""
  lockupAddress : String := ""
  lockupTxId : String := ""
  claimTxId : String := ""
  deriving DecidableEq, Repr

/-- A transaction: the one of a status message, known by its text, or one that was constructed.
Reference: boltz-client `Transaction`. -/
inductive BoltzTx where
  | parsed (hex : String)
  | constructed (n : Nat)
  deriving DecidableEq, Repr

/-- The transaction of a status message. Reference: boltz-client `SwapUpdate`. -/
structure UpdateTransaction where
  id : String
  hex : String
  deriving DecidableEq, Repr

/-- What is spent, and where to. Reference: boltz-client `OutputDetails`. -/
structure OutputDetails where
  swapId : String
  address : String
  lockupTransaction : BoltzTx
  vout : UInt32
  cooperative : Bool
  deriving DecidableEq, Repr

/-- The fee of a transaction: an amount, or a rate, given by the bits of its float. Reference:
boltz-client `Fee`. -/
inductive BoltzFee where
  | sats (n : UInt64)
  | satsPerVbyte (bits : UInt64)
  deriving DecidableEq, Repr

/-- The argument of `Updates`: a column with its zero value is not written. Reference: gorm
`Updates` with a struct. -/
structure ClaimColumns where
  lockupTxId : String := ""
  claimTxId : String := ""
  receiveAmountSat : UInt64 := 0
  deriving DecidableEq, Repr

/-- The caller's copy after `Updates`. Reference: gorm `Updates` with a struct. -/
def SwapOut.updates (swap : SwapOut) (u : ClaimColumns) : SwapOut :=
  { swap with
    lockupTxId := if u.lockupTxId = "" then swap.lockupTxId else u.lockupTxId
    claimTxId := if u.claimTxId = "" then swap.claimTxId else u.claimTxId
    receiveAmountSat :=
      if u.receiveAmountSat = 0 then swap.receiveAmountSat else u.receiveAmountSat }

/-- The calls of a claim. Reference: `swaps/swaps_service.go:1228 startSwapOutListener`. -/
inductive ClaimCmd where
  | updates (u : ClaimColumns)
  | newTxFromHex (hex : String)
  | findVout (tx : BoltzTx) (address : String)
  | voutValue (tx : BoltzTx) (vout : UInt32)
  | getFeeRate
  | constructTransaction (outputs : List OutputDetails) (fee : BoltzFee)
  | serialize (tx : BoltzTx)
  | broadcastTransaction (txHex : String)
  deriving DecidableEq, Repr

/-- What a call returns beside its error. Reference: the results of the calls of `ClaimCmd`. -/
abbrev ClaimCmd.Result : ClaimCmd → Type
  | .updates _ | .newTxFromHex _ => Unit
  | .findVout _ _ => UInt32
  | .voutValue _ _ | .getFeeRate => UInt64
  | .constructTransaction _ _ => Nat
  | .serialize _ | .broadcastTransaction _ => String

/-- Reference: the results of the calls of `ClaimCmd`. -/
abbrev ClaimCmd.Ans (c : ClaimCmd) : Type := Except String c.Result

/-- A program of the claim. Reference: none. -/
abbrev Claim := Prog ClaimCmd ClaimCmd.Ans

/-- What a claim has done so far, latest first. Reference: none. -/
abbrev ClaimHistory := List (Call ClaimCmd ClaimCmd.Ans)

/-- One call. Reference: none. -/
abbrev ask (c : ClaimCmd) : Claim c.Ans := Prog.call c

/-- How the handling of the message ends: with the next turn of the listener, or with its return;
`stop` carries the listener's own `err`. Reference: `swaps/swaps_service.go:1150
startSwapOutListener`. -/
inductive ClaimTurn where
  | again (swap : SwapOut)
  | stop (err : Option String)
  deriving DecidableEq, Repr

/-- The value of a call whose error is ignored. Reference: Go `v, _ := f()`. -/
def ignoreError (r : Except String UInt64) : UInt64 :=
  match r with
  | .ok v => v
  | .error _ => 0

/-- The fee of the claim transaction. The errors of the two branches are kept in a variable of their
own, so the listener's stays as it is. Reference: `swaps/swaps_service.go:1286
startSwapOutListener`. -/
def claimFee (swap : SwapOut) (lockupTransaction : BoltzTx) (vout : UInt32) :
    Claim (Except String BoltzFee) := do
  if swap.receiveAmountSat ≠ 0 then
    match ← ask (.voutValue lockupTransaction vout) with
    | .error e => return .error e
    | .ok lockupAmountSat => return .ok (.sats (lockupAmountSat - swap.receiveAmountSat))
  else
    match ← ask .getFeeRate with
    | .error e => return .error e
    | .ok feeRate => return .ok (.satsPerVbyte feeRate)

/-- The attempts to send the claim transaction. Reference: `swaps/swaps_service.go:1330
startSwapOutListener`. -/
def broadcastClaim (txHex : String) : Nat → Claim (Except String String)
  | 0 => ask (.broadcastTransaction txHex)
  | n + 1 => do
    match ← ask (.broadcastTransaction txHex) with
    | .error _ => broadcastClaim txHex n
    | .ok claimTxId => return .ok claimTxId

/-- The claim transaction is sent and recorded. The amount that it pays is 0 if its output is not
found. Reference: `swaps/swaps_service.go:1317 startSwapOutListener`. -/
def sendClaim (swap : SwapOut) (claimTransaction : BoltzTx) : Claim ClaimTurn := do
  let vout ← ask (.findVout claimTransaction swap.destinationAddress)
  let claimAmountSat ← ask (.voutValue claimTransaction (vout.toOption.getD 0))
  match ← ask (.serialize claimTransaction) with
  | .error e => return .stop (some e)
  | .ok txHex =>
    match ← broadcastClaim txHex 4 with
    | .error e => return .stop (some e)
    | .ok claimTxId =>
      let u : ClaimColumns :=
        { claimTxId := claimTxId, receiveAmountSat := ignoreError claimAmountSat }
      match ← ask (.updates u) with
      | .error e => return .stop (some e)
      | .ok () => return .again (swap.updates u)

/-- The claim of the lockup transaction. Reference: `swaps/swaps_service.go:1255
startSwapOutListener`. -/
def claimLockup (swap : SwapOut) (hex : String) : Claim ClaimTurn := do
  match ← ask (.newTxFromHex hex) with
  | .error e => return .stop (some e)
  | .ok () =>
    match ← ask (.findVout (.parsed hex) swap.lockupAddress) with
    | .error e => return .stop (some e)
    | .ok vout =>
      match ← claimFee swap (.parsed hex) vout with
      | .error _ => return .stop none
      | .ok boltzFee =>
        let output : OutputDetails :=
          { swapId := swap.swapId, address := swap.destinationAddress
            lockupTransaction := .parsed hex, vout := vout, cooperative := true }
        match ← ask (.constructTransaction [output] boltzFee) with
        | .error e => return .stop (some e)
        | .ok n => sendClaim swap (.constructed n)

/-- The id of the lockup transaction is recorded if it is not there. Reference:
`swaps/swaps_service.go:1234 startSwapOutListener`. -/
def saveLockup (swap : SwapOut) (id : String) : Claim (Except String SwapOut) := do
  if swap.lockupTxId = "" then
    match ← ask (.updates { lockupTxId := id }) with
    | .error e => return .error e
    | .ok () => return .ok (swap.updates { lockupTxId := id })
  else return .ok swap

/-- The lockup transaction was seen. Reference: `swaps/swaps_service.go:1228
startSwapOutListener`. -/
def lockupDetected (swap : SwapOut) (transaction : UpdateTransaction) : Claim ClaimTurn := do
  match ← saveLockup swap transaction.id with
  | .error e => return .stop (some e)
  | .ok swap =>
    if swap.claimTxId ≠ "" then return .again swap else claimLockup swap transaction.hex

/-! ## An exact claim -/

/-- Every lockup output whose value was asked for has the value `v`. Reference: none. -/
def Reports (v : UInt64) (h : ClaimHistory) : Prop :=
  ∀ hex vout w, (⟨.voutValue (.parsed hex) vout, .ok w⟩ : Call ClaimCmd ClaimCmd.Ans) ∈ h → w = v

/-- The columns are those of a claim. Reference: `swaps/swaps_service.go:1356
startSwapOutListener`. -/
def ClaimColumns.Claims (u : ClaimColumns) : Prop := u.claimTxId ≠ "" ∨ u.receiveAmountSat ≠ 0

/-- The fee and the agreed amount are the value of the lockup output, as numbers. Reference:
none. -/
def BoltzFee.IsDifference (fee : BoltzFee) (v receiveAmountSat : UInt64) : Prop :=
  ∃ n, fee = .sats n ∧ n.toNat + receiveAmountSat.toNat = v.toNat

/-- A claim goes to the destination with the exact fee, and is sent and recorded for a sufficient
lockup output only. Reference: none. -/
def Exact (swap : SwapOut) (v : UInt64) : ClaimCmd → Prop
  | .constructTransaction outputs fee =>
    (∀ o ∈ outputs, o.address = swap.destinationAddress) ∧
      fee.IsDifference v swap.receiveAmountSat
  | .broadcastTransaction _ => swap.receiveAmountSat ≤ v
  | .updates u => u.Claims → swap.receiveAmountSat ≤ v
  | _ => True

/-- A call has returned an error. Reference: none. -/
def ClaimHistory.Failed (h : ClaimHistory) : Prop := ∃ c e, ⟨c, .error e⟩ ∈ h

/-- A claim was constructed, sent and recorded. Reference: none. -/
def ClaimHistory.Claimed (h : ClaimHistory) : Prop :=
  ∃ outputs fee n txHex claimTxId claimAmountSat,
    ⟨.constructTransaction outputs fee, .ok n⟩ ∈ h ∧
    ⟨.broadcastTransaction txHex, .ok claimTxId⟩ ∈ h ∧
    ⟨.updates { claimTxId := claimTxId, receiveAmountSat := claimAmountSat }, .ok ()⟩ ∈ h

/-- Whatever the calls answer, where the lockup output has the value `v`: every claim is exact, and
the lockup is claimed unless a call fails or there is a claim already. Reference: none. -/
def ClaimsExactly (swap : SwapOut) (transaction : UpdateTransaction) (v : UInt64) : Prop :=
  Follows (fun h c => Reports v h → Exact swap v c)
    (fun h _ => swap.claimTxId ≠ "" ∨ ClaimHistory.Failed h ∨ ClaimHistory.Claimed h) []
    (lockupDetected swap transaction)

section
variable {swap : SwapOut} {transaction : UpdateTransaction} {v : UInt64} {h : ClaimHistory}

/-- The discipline of an exact claim. Reference: none. -/
abbrev Ok (swap : SwapOut) (v : UInt64) (h : ClaimHistory) (c : ClaimCmd) : Prop :=
  Reports v h → Exact swap v c

/-- A call that does not ask for another value. Reference: none. -/
theorem Reports.cons {call : Call ClaimCmd ClaimCmd.Ans} (hv : Reports v h)
    (hc : ∀ hex vout w, (⟨.voutValue (.parsed hex) vout, .ok w⟩ : Call ClaimCmd ClaimCmd.Ans) =
      call → w = v) : Reports v (call :: h) := by
  intro hex vout w hw
  rcases List.mem_cons.1 hw with hw | hw
  · exact hc hex vout w hw
  · exact hv hex vout w hw

/-- The subtraction does not wrap for a sufficient output only. Reference: Go unsigned integers. -/
theorem isDifference_iff (v r : UInt64) : (BoltzFee.sats (v - r)).IsDifference v r ↔ r ≤ v := by
  constructor
  · rintro ⟨n, hn, hsum⟩
    rw [UInt64.le_iff_toNat_le]
    omega
  · intro hle
    refine ⟨v - r, rfl, ?_⟩
    rw [UInt64.toNat_sub_of_le _ _ hle]
    exact Nat.sub_add_cancel (UInt64.le_iff_toNat_le.1 hle)

/-! ## Sufficient lockup outputs -/

/-- The attempts end with an error or with a transaction that was sent. Reference:
`swaps/swaps_service.go:1330 startSwapOutListener`. -/
theorem follows_broadcastClaim (hle : swap.receiveAmountSat ≤ v) (txHex : String) (n : Nat) :
    Follows (Ok swap v) (fun h' r => h <:+ h' ∧ (⟨.broadcastTransaction txHex, r⟩ : Call ClaimCmd
      ClaimCmd.Ans) ∈ h') h (broadcastClaim txHex n) := by
  induction n generalizing h with
  | zero => exact ⟨fun _ => hle, fun r => ⟨List.suffix_cons _ _, List.mem_cons_self⟩⟩
  | succ n ih =>
    refine Follows.call (fun _ => hle) fun r => ?_
    cases r with
    | error e =>
      refine ih.mono (fun _ _ hok => hok) ?_
      intro h' r _ hr
      exact ⟨(List.suffix_cons _ _).trans hr.1, hr.2⟩
    | ok claimTxId => exact ⟨List.suffix_cons _ _, List.mem_cons_self⟩

/-- A constructed claim is sent and recorded. Reference: `swaps/swaps_service.go:1317
startSwapOutListener`. -/
theorem follows_sendClaim {outputs : List OutputDetails} {fee : BoltzFee} {n : Nat} {tx : BoltzTx}
    {swap' : SwapOut} (hle : swap.receiveAmountSat ≤ v)
    (hc : (⟨.constructTransaction outputs fee, .ok n⟩ : Call ClaimCmd ClaimCmd.Ans) ∈ h) :
    Follows (Ok swap v) (fun h _ => ClaimHistory.Failed h ∨ ClaimHistory.Claimed h) h
      (sendClaim swap' tx) := by
  refine Follows.call (fun _ => trivial) fun vout => ?_
  refine Follows.call (fun _ => trivial) fun claimAmountSat => ?_
  refine Follows.call (fun _ => trivial) fun serialized => ?_
  cases serialized with
  | error e => exact .inl ⟨_, e, List.mem_cons_self⟩
  | ok txHex =>
    refine (follows_broadcastClaim hle txHex 4).bind fun h' sent _ hsent => ?_
    cases sent with
    | error e => exact .inl ⟨_, e, hsent.2⟩
    | ok claimTxId =>
      refine Follows.call (fun _ _ => hle) fun updated => ?_
      cases updated with
      | error e => exact .inl ⟨_, e, List.mem_cons_self⟩
      | ok u =>
        refine .inr ⟨outputs, fee, n, txHex, claimTxId, _, ?_, List.mem_cons_of_mem _ hsent.2,
          List.mem_cons_self⟩
        have hh : h <:+ h' :=
          (((List.suffix_cons _ _).trans (List.suffix_cons _ _)).trans
            (List.suffix_cons _ _)).trans hsent.1
        exact List.mem_cons_of_mem _ (hh.mem hc)

/-- A sufficient lockup output is claimed with the exact fee. Reference:
`swaps/swaps_service.go:1255 startSwapOutListener`. -/
theorem follows_claimLockup {swap' : SwapOut} (hne : swap.receiveAmountSat ≠ 0)
    (hle : swap.receiveAmountSat ≤ v) (hr : swap'.receiveAmountSat = swap.receiveAmountSat)
    (hd : swap'.destinationAddress = swap.destinationAddress) (hex : String) :
    Follows (Ok swap v) (fun h _ => ClaimHistory.Failed h ∨ ClaimHistory.Claimed h) h
      (claimLockup swap' hex) := by
  refine Follows.call (fun _ => trivial) fun parsed => ?_
  cases parsed with
  | error e => exact .inl ⟨_, e, List.mem_cons_self⟩
  | ok u =>
    refine Follows.call (fun _ => trivial) fun found => ?_
    cases found with
    | error e => exact .inl ⟨_, e, List.mem_cons_self⟩
    | ok vout =>
      simp only [claimFee, hr, ne_eq, hne, not_false_eq_true, if_true]
      refine Follows.call (fun _ => trivial) fun value => ?_
      cases value with
      | error e => exact .inl ⟨_, e, List.mem_cons_self⟩
      | ok w =>
        -- The value of the message is `v`, and its difference does not wrap.
        refine Follows.call (fun hv => ?_) fun constructed => ?_
        · obtain rfl := hv hex vout w List.mem_cons_self
          refine ⟨fun o ho => ?_, (isDifference_iff _ _).2 hle⟩
          rw [List.mem_singleton.1 ho]
          exact hd
        · cases constructed with
          | error e => exact .inl ⟨_, e, List.mem_cons_self⟩
          | ok n => exact follows_sendClaim hle List.mem_cons_self

/-! ## Every message -/

/-- The columns of a claim are the same after the id of the lockup transaction was recorded.
Reference: `swaps/swaps_service.go:1234 startSwapOutListener`. -/
theorem follows_saveLockup (id : String) :
    Follows (Ok swap v) (fun h r => (∀ e, r = .error e → ClaimHistory.Failed h) ∧
      ∀ swap', r = .ok swap' → swap'.claimTxId = swap.claimTxId ∧
        swap'.receiveAmountSat = swap.receiveAmountSat ∧
        swap'.destinationAddress = swap.destinationAddress) h (saveLockup swap id) := by
  by_cases hid : swap.lockupTxId = ""
  · rw [saveLockup, if_pos hid]
    refine Follows.call ?_ fun r => ?_
    · rintro - (hclaim | hclaim)
      · exact absurd rfl hclaim
      · exact absurd rfl hclaim
    · cases r with
      | error e => exact ⟨fun _ _ => ⟨_, e, List.mem_cons_self⟩, nofun⟩
      | ok u =>
        refine ⟨nofun, fun swap' hok => ?_⟩
        obtain rfl := Except.ok.inj hok
        exact ⟨rfl, rfl, rfl⟩
  · rw [saveLockup, if_neg hid]
    refine ⟨nofun, fun swap' hok => ?_⟩
    obtain rfl := Except.ok.inj hok
    exact ⟨rfl, rfl, rfl⟩

/-- Where every call succeeds, a claim that is not there yet is constructed with the fee that was
computed. Reference: `swaps/swaps_service.go:1286 startSwapOutListener`. -/
theorem isDifference_of_claimLockup {post : ClaimHistory → ClaimTurn → Prop} {swap' : SwapOut}
    (hr : swap'.receiveAmountSat = swap.receiveAmountSat) (hex : String)
    (hv : Reports v h) (hf : Follows (Ok swap v) post h (claimLockup swap' hex)) :
    swap.receiveAmountSat ≠ 0 ∧ swap.receiveAmountSat ≤ v := by
  have hfee : Follows (Ok swap v) post _ (claimFee swap' (.parsed hex) 0 >>= _) :=
    (hf.2 (.ok ())).2 (.ok 0)
  have hasked : Reports v (⟨.findVout (.parsed hex) swap'.lockupAddress, .ok 0⟩ ::
      ⟨.newTxFromHex hex, .ok ()⟩ :: h) :=
    (hv.cons (by rintro _ _ _ ⟨⟩)).cons (by rintro _ _ _ ⟨⟩)
  by_cases hzero : swap.receiveAmountSat = 0
  · simp only [claimFee, hr, hzero, ne_eq, not_true_eq_false, if_false] at hfee
    obtain ⟨-, n, hn, -⟩ := (hfee.2 (.ok 0)).1 (hasked.cons (by rintro _ _ _ ⟨⟩))
    cases hn
  · refine ⟨hzero, ?_⟩
    simp only [claimFee, hr, ne_eq, hzero, not_false_eq_true, if_true] at hfee
    refine (isDifference_iff v swap.receiveAmountSat).1 ((hfee.2 (.ok v)).1 (hasked.cons ?_)).2
    intro hex' vout w hc
    cases hc
    rfl

/-- The message of a lockup transaction with the output `v` is handled as it should be if and only
if there is a claim already, or an agreed amount that the output suffices for. Reference:
`swaps/swaps_service.go:1286 startSwapOutListener`. -/
theorem claim_exact_iff (swap : SwapOut) (transaction : UpdateTransaction) (v : UInt64) :
    ClaimsExactly swap transaction v ↔
      swap.claimTxId ≠ "" ∨ swap.receiveAmountSat ≠ 0 ∧ swap.receiveAmountSat ≤ v := by
  constructor
  · intro hf
    by_cases hclaim : swap.claimTxId = ""
    · refine .inr ?_
      unfold ClaimsExactly lockupDetected saveLockup at hf
      by_cases hid : swap.lockupTxId = ""
      · rw [if_pos hid] at hf
        have hclaims : Follows (Ok swap v) _ _
            (if (swap.updates { lockupTxId := transaction.id }).claimTxId ≠ "" then _
              else claimLockup _ transaction.hex) := hf.2 (.ok ())
        have hclaim' : (swap.updates { lockupTxId := transaction.id }).claimTxId = "" := hclaim
        rw [if_neg (not_not_intro hclaim')] at hclaims
        exact isDifference_of_claimLockup (by rfl) _ (by simp [Reports]) hclaims
      · rw [if_neg hid] at hf
        have hclaims : Follows (Ok swap v) _ _
            (if swap.claimTxId ≠ "" then _ else claimLockup _ transaction.hex) := hf
        rw [if_neg (not_not_intro hclaim)] at hclaims
        exact isDifference_of_claimLockup rfl _ (by simp [Reports]) hclaims
    · exact .inl hclaim
  · intro hcond
    refine (follows_saveLockup transaction.id).bind fun h r _ hr => ?_
    cases r with
    | error e => exact .inr (.inl (hr.1 e rfl))
    | ok swap' =>
      obtain ⟨hid, hamount, haddress⟩ := hr.2 swap' rfl
      by_cases hclaim : swap.claimTxId = ""
      · obtain ⟨hne, hle⟩ := hcond.resolve_left (not_not_intro hclaim)
        show Follows _ _ _ (if swap'.claimTxId ≠ "" then _ else _)
        rw [if_neg (not_not_intro (hid.trans hclaim))]
        exact (follows_claimLockup hne hle hamount haddress _).mono (fun _ _ hok => hok)
          fun _ _ _ hpost => .inr hpost
      · show Follows _ _ _ (if swap'.claimTxId ≠ "" then _ else _)
        rw [if_pos (hid.trans_ne hclaim)]
        exact .inl hclaim

/-- An output of 49000 sats for an agreed amount of 50000: the claim is constructed with a fee of
18446744073709550616 sats. Reference: `swaps/swaps_service.go:1295 startSwapOutListener`. -/
theorem small_lockup_wraps :
    ¬ ClaimsExactly { swapId := "swap", receiveAmountSat := 50000 } ⟨"tx", "00"⟩ 49000 ∧
    (49000 - 50000 : UInt64) = 18446744073709550616 := by
  refine ⟨fun hf => ?_, by decide⟩
  let swap : SwapOut := { swapId := "swap", receiveAmountSat := 50000 }
  have hclaims : Follows (Ok swap 49000) _ _
      (claimLockup (swap.updates { lockupTxId := "tx" }) "00")
      := hf.2 (.ok ())
  have hle := (isDifference_of_claimLockup (by rfl) "00" (by simp [Reports]) hclaims).2
  exact absurd hle (by decide)

end

end AlbyHub.SwapOutClaim
