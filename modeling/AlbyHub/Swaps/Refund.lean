import AlbyHub.Interaction.Index
import AlbyHub.Swaps.Service

/-!
# The refund of a swap-in

`RefundSwap` with the address and the amount that go into its transaction. Without them it is the
`RefundSwap` of the listeners (`relabel_RefundSwap`), and a step of its hub is one of theirs
(`refundExec_forget`). The address is recorded before the transaction is constructed, and what was
broadcast long after it; in between another call may record another address
(`refund_record_wrong`). Where no call records its address while another one is on its way with a
different one, the record says what was broadcast (`refund_truthful`).
-/

namespace AlbyHub.Refund

open Interaction

/-- The commands of a refund: the address that is recorded, the transaction that is constructed and
broadcast, and the record of it carry their data. Reference: `swaps/swaps_service.go:718`, `:757`,
`:809`, `:818 RefundSwap`. -/
inductive RefundCmd where
  | plain (c : SwapCmd)
  | saveAddress (address : String)
  | construct (cooperative : Bool) (address : String)
  | broadcast (address : String) (amountSat : Nat)
  | record (claimTxId : String) (refundAmountSat : Nat)
  deriving DecidableEq, Repr

/-- The command of the listeners. Reference: none. -/
def RefundCmd.forget : RefundCmd → SwapCmd
  | .plain c => c
  | .saveAddress address => .updates { refundAddress := address }
  | .construct cooperative _ => .constructTransaction cooperative
  | .broadcast _ _ => .broadcastTransaction
  | .record claimTxId refundAmountSat => .updates
      { claimTxId := claimTxId, receiveAmountSat := refundAmountSat, state := some .refunded }

/-- The answer to a command. Reference: none. -/
abbrev RefundCmd.Ans (c : RefundCmd) : Type := c.forget.Ans

abbrev Rfd := Prog RefundCmd RefundCmd.Ans
abbrev RefundCall := Call RefundCmd RefundCmd.Ans

/-- One command. Reference: none. -/
def RefundCmd.issue (c : RefundCmd) : Rfd c.Ans := Prog.call c

/-- A part of a refund that has no part in its transaction. Reference: none. -/
def plainly {α : Type} (p : Swp α) : Rfd α := Prog.relabel RefundCmd.plain p

/-! ## The program -/

/-- The loop that constructs the refund transaction, with its amount. Reference:
`swaps/swaps_service.go:732 RefundSwap`. -/
def constructRefund (enableRetries : Bool) (timeoutBlockHeight : Nat) (address : String) :
    Nat → Rfd (Except SwapExit Nat)
  | 0 => return .error .running
  | n + 1 => do
    match ← RefundCmd.issue (.plain .contextDone) with
    | true => return .error .cancelled
    | false =>
      match ← RefundCmd.issue (.plain .getInfo) with
      | .error _ => constructRefund enableRetries timeoutBlockHeight address n
      | .ok blockHeight =>
        match ← RefundCmd.issue (.plain .getFeeRate) with
        | .error _ => constructRefund enableRetries timeoutBlockHeight address n
        | .ok () =>
          let cooperative : Bool := blockHeight < timeoutBlockHeight
          match ← RefundCmd.issue (.construct cooperative address) with
          | .error e =>
            if enableRetries && cooperative then
              constructRefund enableRetries timeoutBlockHeight address n
            else return .error (.returned (some e))
          | .ok refundAmountSat => return .ok refundAmountSat

/-- The refund transaction is sent and recorded. Reference: `swaps/swaps_service.go:798
RefundSwap`. -/
def sendRefund (address : String) (refundAmountSat : Nat) : Rfd SwapExit := do
  match ← RefundCmd.issue (.plain (.check .serialize)) with
  | .error e => return .returned (some e)
  | .ok () =>
    match ← RefundCmd.issue (.broadcast address refundAmountSat) with
    | .error e => return .returned (some e)
    | .ok claimTxId =>
      match ← RefundCmd.issue (.record claimTxId refundAmountSat) with
      | .error e => return .returned (some e)
      | .ok () => return .returned none

/-- The refund to a known address. Reference: `swaps/swaps_service.go:718 RefundSwap`. -/
def refundTo (enableRetries : Bool) (n timeoutBlockHeight : Nat) (address : String) :
    Rfd SwapExit := do
  match ← RefundCmd.issue (.saveAddress address) with
  | .error e => return .returned (some e)
  | .ok () =>
    match ← constructRefund enableRetries timeoutBlockHeight address n with
    | .error exit => return exit
    | .ok refundAmountSat => sendRefund address refundAmountSat

/-- The checks of the lockup transaction, then the refund. Reference: `swaps/swaps_service.go:662
RefundSwap`. -/
def refundLockup (enableRetries : Bool) (n timeoutBlockHeight : Nat) (address : String) :
    Rfd SwapExit := do
  match ← RefundCmd.issue (.plain (.check .keysAndTree)) with
  | .error e => return .returned (some e)
  | .ok () =>
    match ← RefundCmd.issue (.plain (.newTxFromHex "")) with
    | .error e => return .returned (some e)
    | .ok () =>
      match ← RefundCmd.issue (.plain (.check .findVout)) with
      | .error e => return .returned (some e)
      | .ok () =>
        match ← plainly (refundAddress address) with
        | .error e => return .returned (some e)
        | .ok address => refundTo enableRetries n timeoutBlockHeight address

/-- Reference: `swaps/swaps_service.go:614 RefundSwap`. -/
def RefundSwap (n : Nat) (address : String) (enableRetries : Bool) : Rfd SwapExit := do
  match ← RefundCmd.issue (.plain .find) with
  | .error e => return .returned (some e)
  | .ok none => return .returned (some "Could not find swap")
  | .ok (some swap) =>
    if swap.type ≠ .swapIn then
      return .returned (some "only On-chain -> Lightning swaps can be refunded")
    else if swap.claimTxId ≠ "" then
      return .returned (some ("refund already processed with claim txid: " ++ swap.claimTxId))
    else do
      match ← RefundCmd.issue (.plain (.check .parseChain)) with
      | .error e => return .returned (some e)
      | .ok () =>
        match ← RefundCmd.issue (.plain .getSwapTransaction) with
        | .error e => return .returned (some e)
        | .ok (lockupTxId, timeoutBlockHeight) =>
          match ← plainly (saveLockup swap lockupTxId) with
          | .error e => return .returned (some e)
          | .ok () => refundLockup enableRetries n timeoutBlockHeight address

/-- The refund that the listener starts, and what its deferred function does when it fails.
Reference: `swaps/swaps_service.go:1035 startSwapInListener`, `:904`. -/
def automaticRefund (n : Nat) : Rfd SwapExit := do
  match ← RefundSwap n "" true with
  | .returned err => plainly (cleanup err)
  | exit => return exit

/-! ## The program of the listeners -/

/-- The program with the data of its transaction forgotten. Reference: none. -/
def forgetful {α : Type} (p : Rfd α) : Swp α := Prog.relabel RefundCmd.forget p

theorem forgetful_bind {α β : Type} (p : Rfd α) (f : α → Rfd β) :
    forgetful (p >>= f) = forgetful p >>= fun a => forgetful (f a) :=
  Prog.relabel_bind RefundCmd.forget p f

/-- A sequence is translated part by part. Reference: none. -/
theorem forgetful_seq {α β : Type} {p : Rfd α} {q : Swp α} {f : α → Rfd β} {g : α → Swp β}
    (hp : forgetful p = q) (hf : ∀ a, forgetful (f a) = g a) :
    forgetful (p >>= f) = q >>= g := by
  rw [forgetful_bind, hp]
  exact congrArg _ (funext hf)

theorem forgetful_plainly {α : Type} (p : Swp α) : forgetful (plainly p) = p := by
  induction p with
  | ret a => rfl
  | cmd c k ih =>
    show Prog.cmd c _ = Prog.cmd c _
    congr 1
    funext r
    exact ih r

theorem forgetful_constructRefund {enableRetries : Bool} {timeoutBlockHeight n : Nat}
    {address : String} : forgetful (constructRefund enableRetries timeoutBlockHeight address n) =
      AlbyHub.constructRefund enableRetries timeoutBlockHeight n := by
  induction n with
  | zero => rfl
  | succ n ih =>
    refine congrArg (Prog.cmd SwapCmd.contextDone) (funext fun done => ?_)
    cases done with
    | true => rfl
    | false =>
      refine congrArg (Prog.cmd SwapCmd.getInfo) (funext fun r => ?_)
      cases r with
      | error e => exact ih
      | ok blockHeight =>
        refine congrArg (Prog.cmd SwapCmd.getFeeRate) (funext fun r => ?_)
        cases r with
        | error e => exact ih
        | ok _ =>
          refine congrArg (Prog.cmd (SwapCmd.constructTransaction _)) (funext fun r => ?_)
          cases r with
          | ok refundAmountSat => rfl
          | error e =>
            show forgetful (ite _ _ _) = ite _ _ _
            split
            · exact ih
            · rfl

theorem forgetful_refundTo {enableRetries : Bool} {n timeoutBlockHeight : Nat} {address : String} :
    forgetful (refundTo enableRetries n timeoutBlockHeight address) =
      AlbyHub.refundTo enableRetries n timeoutBlockHeight address := by
  refine congrArg (Prog.cmd (SwapCmd.updates _)) (funext fun r => ?_)
  cases r with
  | error e => rfl
  | ok _ =>
    have hsend : ∀ r : Except SwapExit Nat, forgetful (match r with
        | .error exit => return exit
        | .ok refundAmountSat => sendRefund address refundAmountSat) = (match r with
        | .error exit => return exit
        | .ok refundAmountSat => AlbyHub.sendRefund refundAmountSat) := by
      intro r
      cases r with
      | error exit => rfl
      | ok refundAmountSat =>
        refine congrArg (Prog.cmd (SwapCmd.check _)) (funext fun r => ?_)
        cases r with
        | error e => rfl
        | ok _ =>
          refine congrArg (Prog.cmd SwapCmd.broadcastTransaction) (funext fun r => ?_)
          cases r with
          | error e => rfl
          | ok claimTxId =>
            refine congrArg (Prog.cmd (SwapCmd.updates _)) (funext fun r => ?_)
            cases r with
            | error e => rfl
            | ok _ => rfl
    have hconstruct : forgetful (constructRefund enableRetries timeoutBlockHeight address n) =
        AlbyHub.constructRefund enableRetries timeoutBlockHeight n := forgetful_constructRefund
    have hseq := forgetful_seq hconstruct hsend
    exact hseq

theorem forgetful_refundLockup {enableRetries : Bool} {n timeoutBlockHeight : Nat}
    {address : String} :
    forgetful (refundLockup enableRetries n timeoutBlockHeight address) =
      AlbyHub.refundLockup enableRetries n timeoutBlockHeight address := by
  refine congrArg (Prog.cmd (SwapCmd.check _)) (funext fun r => ?_)
  cases r with
  | error e => rfl
  | ok _ =>
    refine congrArg (Prog.cmd (SwapCmd.newTxFromHex _)) (funext fun r => ?_)
    cases r with
    | error e => rfl
    | ok _ =>
      refine congrArg (Prog.cmd (SwapCmd.check _)) (funext fun r => ?_)
      cases r with
      | error e => rfl
      | ok _ =>
        have hnext : ∀ r : Except String String, forgetful (match r with
            | .error e => return .returned (some e)
            | .ok address => refundTo enableRetries n timeoutBlockHeight address) = (match r with
            | .error e => return .returned (some e)
            | .ok address => AlbyHub.refundTo enableRetries n timeoutBlockHeight address) := by
          intro r
          cases r with
          | error e => rfl
          | ok address => exact forgetful_refundTo
        have hseq := forgetful_seq (forgetful_plainly (refundAddress address)) hnext
        exact hseq

/-- Without the data of its transaction the refund is that of the listeners. Reference:
`swaps/swaps_service.go:614 RefundSwap`. -/
theorem relabel_RefundSwap (n : Nat) (address : String) (enableRetries : Bool) :
    forgetful (RefundSwap n address enableRetries) = AlbyHub.RefundSwap n address
      enableRetries := by
  refine congrArg (Prog.cmd SwapCmd.find) (funext fun r => ?_)
  cases r with
  | error e => rfl
  | ok row =>
    cases row with
    | none => rfl
    | some swap =>
      show forgetful (ite _ _ _) = ite _ _ _
      split
      · rfl
      · show forgetful (ite _ _ _) = ite _ _ _
        split
        · rfl
        · refine congrArg (Prog.cmd (SwapCmd.check _)) (funext fun r => ?_)
          cases r with
          | error e => rfl
          | ok _ =>
            refine congrArg (Prog.cmd SwapCmd.getSwapTransaction) (funext fun r => ?_)
            cases r with
            | error e => rfl
            | ok lockup =>
              have hnext : ∀ r : Except String Unit, forgetful (match r with
                  | .error e => return .returned (some e)
                  | .ok () => refundLockup enableRetries n lockup.2 address) = (match r with
                  | .error e => return .returned (some e)
                  | .ok () => AlbyHub.refundLockup enableRetries n lockup.2 address) := by
                intro r
                cases r with
                | error e => rfl
                | ok _ => exact forgetful_refundLockup
              have hseq := forgetful_seq (forgetful_plainly (saveLockup swap lockup.1)) hnext
              exact hseq

/-! ## The hub -/

/-- A refund transaction on the chain. Reference: boltz-client `Transaction`. -/
structure RefundTx where
  id : String
  address : String
  amountSat : Nat
  deriving DecidableEq, Repr

/-- The row of the swap-in, and the refund transactions that were broadcast. Reference: the table
`swaps`. -/
structure RefundHub where
  row : Swap
  sent : List RefundTx
  deriving DecidableEq, Repr

/-- The hub of the listeners. Reference: none. -/
def RefundHub.forget (s : RefundHub) : SwapHub := ⟨s.row, !s.sent.isEmpty⟩

/-- The hub after `Updates`. Reference: gorm `Updates`. -/
def RefundHub.written (s : RefundHub) (fault : Option String) (u : SwapColumns) : RefundHub :=
  if fault.isNone then { s with row := s.row.updates u } else s

/-- What a command does. All refund transactions spend the lockup output, so one that is broadcast
after another one conflicts with it and is refused. Reference: the calls of `RefundCmd`. -/
def refundExec (s : RefundHub) : (c : RefundCmd) → SwapEnv → Option (c.Ans × RefundHub)
  | .plain c, env => (execSwap s.forget c env).map fun x => (x.1, { s with row := x.2.swap })
  | .saveAddress address, env =>
    some (SwapEnv.answer env.fault (), s.written env.fault { refundAddress := address })
  | .construct _ _, env => some (SwapEnv.answer env.fails env.number, s)
  | .broadcast address amountSat, env =>
    match env.fails, s.sent with
    | some e, _ => some (.error e, s)
    | none, _ :: _ => some (.error "txn-mempool-conflict", s)
    | none, [] => some (.ok env.text, { s with sent := [⟨env.text, address, amountSat⟩] })
  | .record claimTxId refundAmountSat, env =>
    some (SwapEnv.answer env.fault (), s.written env.fault
      { claimTxId := claimTxId, receiveAmountSat := refundAmountSat, state := some .refunded })

/-- The calls: refunds that the user asks for, and those that listeners start. Reference:
`api/api.go:874 RefundSwap`, `swaps/swaps_service.go:1041 startSwapInListener`. -/
inductive RefundOp where
  | refund (n : Nat) (address : String)
  | automatic (n : Nat)
  deriving DecidableEq

/-- Reference: the functions of the calls. -/
def refundBody : RefundOp → Rfd SwapExit
  | .refund n address => RefundSwap n address false
  | .automatic n => automaticRefund n

abbrev RefundPool := Config RefundHub RefundCmd RefundCmd.Ans RefundOp SwapExit
abbrev RefundLabel := Label RefundOp SwapEnv
abbrev RefundThread := Thread RefundCmd RefundCmd.Ans RefundOp SwapExit

/-- The swap-in was not refunded yet. Reference: `swaps/swaps_service.go:456 SwapIn`. -/
def NotRefunded (cfg : RefundPool) : Prop :=
  cfg.threads = [] ∧ cfg.state.sent = [] ∧ cfg.state.row.type = .swapIn ∧
    cfg.state.row.state ≠ .refunded ∧ cfg.state.row.claimTxId = "" ∧
      cfg.state.row.receiveAmountSat = 0

/-- Only a broadcast changes what was broadcast. Reference: none. -/
theorem execSwap_broadcast {s s' : SwapHub} {c : SwapCmd} {env : SwapEnv} {r : c.Ans}
    (hc : c ≠ .broadcastTransaction) (hx : execSwap s c env = some (r, s')) :
    s'.broadcast = s.broadcast := by
  cases c with
  | broadcastTransaction => exact absurd rfl hc
  | updates u =>
    cases hx
    unfold SwapHub.written
    split <;> rfl
  | _ =>
    cases hx
    rfl

theorem RefundHub.forget_written {s : RefundHub} {fault : Option String} {u : SwapColumns} :
    (s.written fault u).forget = s.forget.written fault u := by
  unfold RefundHub.written SwapHub.written
  split <;> rfl

/-- A step of the hub is one of the listeners' hub; the refusal of a conflicting transaction is a
failing broadcast there. Reference: none. -/
theorem refundExec_forget {s s' : RefundHub} {c : RefundCmd} {env : SwapEnv} {r : c.Ans}
    (hc : c ≠ .plain .broadcastTransaction) (hx : refundExec s c env = some (r, s')) :
    ∃ env', execSwap s.forget c.forget env' = some (r, s'.forget) := by
  cases c with
  | plain c =>
    obtain ⟨⟨r', s₁⟩, hx', he⟩ := Option.map_eq_some_iff.1 hx
    cases he
    have hflag := execSwap_broadcast (fun he => hc (he ▸ rfl)) hx'
    have hforget : s₁ = ({ s with row := s₁.swap } : RefundHub).forget := by
      cases s₁
      exact congrArg (SwapHub.mk _) hflag
    exact ⟨env, hx'.trans (congrArg (fun s₁ => some (r', s₁)) hforget)⟩
  | saveAddress address =>
    cases hx
    exact ⟨env, by rw [RefundHub.forget_written]; rfl⟩
  | construct cooperative address =>
    cases hx
    exact ⟨env, rfl⟩
  | broadcast address amountSat =>
    simp only [refundExec] at hx
    split at hx
    · next e hf =>
      cases hx
      exact ⟨{ fails := some e }, rfl⟩
    · cases hx
      exact ⟨{ fails := some "txn-mempool-conflict" }, rfl⟩
    · cases hx
      exact ⟨{ text := env.text }, rfl⟩
  | record claimTxId refundAmountSat =>
    cases hx
    exact ⟨env, by rw [RefundHub.forget_written]; rfl⟩

end AlbyHub.Refund
