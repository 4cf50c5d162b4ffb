import AlbyHub.Interaction.Pool

/-!
# The listeners of a swap

What `swapsService` does for one swap after it was created: the two listeners that follow Boltz'
status messages, and the refund of a swap-in, which the listener, its user and nothing else start. A
program issues one command at a time; what a node, Boltz or the database answers is arbitrary. A
listener loops for as long as it is given turns.
-/

namespace AlbyHub

open Interaction

/-- Reference: `constants/constants.go:13`. -/
inductive SwapType where
  | swapIn
  | swapOut
  deriving DecidableEq, Repr

/-- Reference: `constants/constants.go:17`. -/
inductive SwapState where
  | pending
  | success
  | failed
  | refunded
  deriving DecidableEq, Repr

/-- The columns of a swap that the listeners read or write; those that only go into keys, trees and
transactions are left out. Reference: `db/models.go:94 Swap`. -/
structure Swap where
  swapId : String
  type : SwapType
  state : SwapState := .pending
  receiveAmountSat : Nat := 0
  refundAddress : String := ""
  lockupTxId : String := ""
  claimTxId : String := ""
  usedXpub : Bool := false
  deriving DecidableEq, Repr

/-- The argument of `Updates`: a column with its zero value is not written. Reference: gorm
`Updates` with a struct. -/
structure SwapColumns where
  state : Option SwapState := none
  receiveAmountSat : Nat := 0
  refundAddress : String := ""
  lockupTxId : String := ""
  claimTxId : String := ""
  deriving DecidableEq, Repr

/-- The row, and the caller's copy, after `Updates`. Reference: gorm `Updates` with a struct. -/
def Swap.updates (swap : Swap) (u : SwapColumns) : Swap where
  swapId := swap.swapId
  type := swap.type
  state := u.state.getD swap.state
  receiveAmountSat := if u.receiveAmountSat = 0 then swap.receiveAmountSat else u.receiveAmountSat
  refundAddress := if u.refundAddress = "" then swap.refundAddress else u.refundAddress
  lockupTxId := if u.lockupTxId = "" then swap.lockupTxId else u.lockupTxId
  claimTxId := if u.claimTxId = "" then swap.claimTxId else u.claimTxId
  usedXpub := swap.usedXpub

/-- Reference: boltz-client `SwapUpdateEvent`. -/
inductive SwapEvent where
  | swapCreated
  | transactionMempool
  | transactionConfirmed
  | transactionFailed
  | transactionLockupFailed
  | invoicePaid
  | invoiceFailedToPay
  | swapExpired
  | other
  deriving DecidableEq, Repr

/-- A status message. Reference: boltz-client `SwapUpdate`. -/
structure SwapMessage where
  id : String
  status : SwapEvent
  transactionId : String := ""
  transactionHex : String := ""
  deriving DecidableEq, Repr

/-- What the `select` of a listener receives. Reference: `swaps/swaps_service.go:980`, `:1151`. -/
inductive SwapSignal where
  | done
  | paymentError (e : String)
  | claimTicker
  | closed
  | update (message : SwapMessage)
  deriving DecidableEq, Repr

/-- The pure checks that fail with an error of their own. Reference: `swaps/swaps_service.go:916`,
`:1084`, `:640`, `:662`. -/
inductive SwapCheck where
  | parseChain
  | keysAndTree
  | findVout
  | voutValue
  | serialize
  deriving DecidableEq, Repr

/-- Reference: `swaps/swaps_service.go`, the calls on `svc.db`, `svc.boltzApi`, `svc.lnClient`,
`svc.eventPublisher`, the channels and the context. -/
inductive SwapCmd where
  | find
  | findInState (state : SwapState)
  | updates (u : SwapColumns)
  | select
  | check (what : SwapCheck)
  | newTxFromHex (hex : String)
  | isTransactionConfirmed (txId : String)
  | getFeeRate
  | getInfo
  | getNewOnchainAddress
  | getSwapTransaction
  | constructTransaction (cooperative : Bool)
  | broadcastTransaction
  | contextDone
  | payInvoice
  | publishSucceeded (type : SwapType)
  | bumpAutoswapXpubIndex
  deriving DecidableEq, Repr

/-- The answer to a command. `getSwapTransaction` answers the lockup transaction's id and the height
of its timeout, `constructTransaction` the amount of the new transaction. Reference: the results of
the calls of `SwapCmd`. -/
abbrev SwapCmd.Ans : SwapCmd → Type
  | .find => Except String (Option Swap)
  | .findInState _ => Option Swap
  | .select => SwapSignal
  | .updates _ | .check _ | .newTxFromHex _ | .getFeeRate => Except String Unit
  | .isTransactionConfirmed _ => Except String Bool
  | .getInfo | .constructTransaction _ => Except String Nat
  | .getNewOnchainAddress | .broadcastTransaction => Except String String
  | .getSwapTransaction => Except String (String × Nat)
  | .contextDone => Bool
  | .payInvoice | .publishSucceeded _ | .bumpAutoswapXpubIndex => Unit

/-- A program of the swaps service. Reference: none. -/
abbrev Swp := Prog SwapCmd SwapCmd.Ans

/-- One command. Reference: none. -/
abbrev swp (c : SwapCmd) : Swp c.Ans := Prog.call c

/-- Reference: `swaps/swaps_service.go:597 markSwapState`. -/
def markSwapState (state : SwapState) : Swp Unit := do
  match ← swp (.findInState state) with
  | some _ => return ()
  | none =>
    let _ ← swp (.updates { state := some state })
    return ()

/-- How far a call has come after its turns: it still runs, it has returned because its context is
done, or it has returned an error or none. Reference: none. -/
inductive SwapExit where
  | running
  | cancelled
  | returned (err : Option String)
  deriving DecidableEq, Repr

/-- How a turn of a listener ends; `stop` carries the listener's own `err`. Reference:
`swaps/swaps_service.go:979`, `:1150`. -/
inductive Turn where
  | again (swap : Swap)
  | leave (exit : SwapExit)
  | stop (err : Option String)

/-- The deferred function of both listeners. Reference: `swaps/swaps_service.go:904`, `:1072`. -/
def cleanup (err : Option String) : Swp SwapExit := do
  match err with
  | some _ =>
    markSwapState .failed
    return .returned err
  | none => return .returned none

/-- The turns of a listener, then its deferred function. Reference: `swaps/swaps_service.go:979`,
`:1150`. -/
def listen (turn : Swap → Swp Turn) : Nat → Swap → Swp SwapExit
  | 0, _ => return .running
  | n + 1, swap => do
    match ← turn swap with
    | .again swap => listen turn n swap
    | .leave exit => return exit
    | .stop err => cleanup err

/-- What both listeners do before they wait. Reference: `swaps/swaps_service.go:916`, `:1084`. -/
def startListener (turn : Swap → Swp Turn) (n : Nat) (swap : Swap) : Swp SwapExit := do
  match ← swp (.check .parseChain) with
  | .error e => cleanup (some e)
  | .ok () =>
    match ← swp (.check .keysAndTree) with
    | .error e => cleanup (some e)
    | .ok () => listen turn n swap

/-! ## The refund of a swap-in -/

/-- The loop that constructs the refund transaction, with its amount. Reference:
`swaps/swaps_service.go:732 RefundSwap`. -/
def constructRefund (enableRetries : Bool) (timeoutBlockHeight : Nat) :
    Nat → Swp (Except SwapExit Nat)
  | 0 => return .error .running
  | n + 1 => do
    match ← swp .contextDone with
    | true => return .error .cancelled
    | false =>
      match ← swp .getInfo with
      | .error _ => constructRefund enableRetries timeoutBlockHeight n
      | .ok blockHeight =>
        match ← swp .getFeeRate with
        | .error _ => constructRefund enableRetries timeoutBlockHeight n
        | .ok () =>
          let cooperative : Bool := blockHeight < timeoutBlockHeight
          match ← swp (.constructTransaction cooperative) with
          | .error e =>
            if enableRetries && cooperative then constructRefund enableRetries timeoutBlockHeight n
            else return .error (.returned (some e))
          | .ok refundAmountSat => return .ok refundAmountSat

/-- The refund transaction is sent and recorded. Reference: `swaps/swaps_service.go:798
RefundSwap`. -/
def sendRefund (refundAmountSat : Nat) : Swp SwapExit := do
  match ← swp (.check .serialize) with
  | .error e => return .returned (some e)
  | .ok () =>
    match ← swp .broadcastTransaction with
    | .error e => return .returned (some e)
    | .ok claimTxId =>
      match ← swp (.updates
        { claimTxId := claimTxId, receiveAmountSat := refundAmountSat, state := some .refunded })
          with
      | .error e => return .returned (some e)
      | .ok () => return .returned none

/-- The refund to a known address. Reference: `swaps/swaps_service.go:718 RefundSwap`. -/
def refundTo (enableRetries : Bool) (n timeoutBlockHeight : Nat) (address : String) :
    Swp SwapExit := do
  match ← swp (.updates { refundAddress := address }) with
  | .error e => return .returned (some e)
  | .ok () =>
    match ← constructRefund enableRetries timeoutBlockHeight n with
    | .error exit => return exit
    | .ok refundAmountSat => sendRefund refundAmountSat

/-- The address of the refund. Reference: `swaps/swaps_service.go:711 RefundSwap`. -/
def refundAddress (address : String) : Swp (Except String String) :=
  if address = "" then swp .getNewOnchainAddress else return .ok address

/-- The checks of the lockup transaction, then the refund. Reference: `swaps/swaps_service.go:662
RefundSwap`. -/
def refundLockup (enableRetries : Bool) (n timeoutBlockHeight : Nat) (address : String) :
    Swp SwapExit := do
  match ← swp (.check .keysAndTree) with
  | .error e => return .returned (some e)
  | .ok () =>
    match ← swp (.newTxFromHex "") with
    | .error e => return .returned (some e)
    | .ok () =>
      match ← swp (.check .findVout) with
      | .error e => return .returned (some e)
      | .ok () =>
        match ← refundAddress address with
        | .error e => return .returned (some e)
        | .ok address => refundTo enableRetries n timeoutBlockHeight address

/-- The id of the lockup transaction is recorded if it is not there. Reference:
`swaps/swaps_service.go:649 RefundSwap`. -/
def saveLockup (swap : Swap) (lockupTxId : String) : Swp (Except String Unit) :=
  if swap.lockupTxId = "" then swp (.updates { lockupTxId := lockupTxId }) else return .ok ()

/-- Reference: `swaps/swaps_service.go:614 RefundSwap`. -/
def RefundSwap (n : Nat) (address : String) (enableRetries : Bool) : Swp SwapExit := do
  match ← swp .find with
  | .error e => return .returned (some e)
  | .ok none => return .returned (some "Could not find swap")
  | .ok (some swap) =>
    if swap.type ≠ .swapIn then
      return .returned (some "only On-chain -> Lightning swaps can be refunded")
    else if swap.claimTxId ≠ "" then
      return .returned (some ("refund already processed with claim txid: " ++ swap.claimTxId))
    else do
      match ← swp (.check .parseChain) with
      | .error e => return .returned (some e)
      | .ok () =>
        match ← swp .getSwapTransaction with
        | .error e => return .returned (some e)
        | .ok (lockupTxId, timeoutBlockHeight) =>
          match ← saveLockup swap lockupTxId with
          | .error e => return .returned (some e)
          | .ok () => refundLockup enableRetries n timeoutBlockHeight address

/-! ## The listener of a swap-in -/

/-- The invoice of a swap-in was paid. Reference: `swaps/swaps_service.go:1015
startSwapInListener`. -/
def swapInPaid (amountSat : Nat) : Swp Turn := do
  markSwapState .success
  match ← swp (.updates { receiveAmountSat := amountSat }) with
  | .error e => return .stop (some e)
  | .ok () =>
    swp (.publishSucceeded .swapIn)
    return .stop none

/-- The swap-in has failed. Reference: `swaps/swaps_service.go:1035 startSwapInListener`. -/
def swapInFailed (n : Nat) : Swp Turn := do
  match ← RefundSwap n "" true with
  | .running => return .leave .running
  | .cancelled => return .leave .cancelled
  | .returned err => return .stop err

/-- Reference: `swaps/swaps_service.go:994 startSwapInListener`. -/
def swapInUpdate (amountSat n : Nat) (swap : Swap) (update : SwapMessage) : Swp Turn :=
  match update.status with
  | .transactionMempool => do
    match ← swp (.updates { lockupTxId := update.transactionId }) with
    | .error e => return .stop (some e)
    | .ok () => return .again (swap.updates { lockupTxId := update.transactionId })
  | .invoicePaid => swapInPaid amountSat
  | .transactionLockupFailed | .invoiceFailedToPay | .swapExpired => swapInFailed n
  | _ => return .again swap

/-- One turn of the listener. Reference: `swaps/swaps_service.go:980 startSwapInListener`. -/
def swapInTurn (amountSat n : Nat) (swap : Swap) : Swp Turn := do
  match ← swp .select with
  | .done => return .leave .cancelled
  | .update update =>
    if update.id ≠ swap.swapId then return .again swap else swapInUpdate amountSat n swap update
  | _ => return .again swap

/-- `amountSat` is the amount of the swap's invoice, `n` the turns of the loops. Reference:
`swaps/swaps_service.go:885 startSwapInListener`. -/
def startSwapInListener (amountSat n : Nat) (swap : Swap) : Swp SwapExit :=
  startListener (swapInTurn amountSat n) n swap

/-! ## The listener of a swap-out -/

/-- Reference: `swaps/swaps_service.go:1175 startSwapOutListener`. -/
def bumpIndex (swap : Swap) : Swp Unit :=
  if swap.usedXpub then swp .bumpAutoswapXpubIndex else return ()

/-- The claim transaction is looked for. Reference: `swaps/swaps_service.go:1162
startSwapOutListener`. -/
def claimPoll (swap : Swap) : Swp Turn :=
  if swap.claimTxId = "" then return .again swap else do
  match ← swp (.isTransactionConfirmed swap.claimTxId) with
  | .error _ | .ok false => return .again swap
  | .ok true =>
    markSwapState .success
    bumpIndex swap
    swp (.publishSucceeded .swapOut)
    return .stop none

/-- The fee of the claim transaction. The errors of the two branches are kept in a variable of their
own, so the listener's stays as it is. Reference: `swaps/swaps_service.go:1287
startSwapOutListener`. -/
def claimFee (swap : Swap) : Swp (Except String Unit) :=
  if swap.receiveAmountSat ≠ 0 then swp (.check .voutValue) else swp .getFeeRate

/-- The attempts to send the claim transaction. Reference: `swaps/swaps_service.go:1330
startSwapOutListener`. -/
def broadcastClaim : Nat → Swp (Except String String)
  | 0 => swp .broadcastTransaction
  | n + 1 => do
    match ← swp .broadcastTransaction with
    | .error _ => broadcastClaim n
    | .ok claimTxId => return .ok claimTxId

/-- The claim transaction is sent and recorded. Reference: `swaps/swaps_service.go:1321
startSwapOutListener`. -/
def sendClaim (swap : Swap) (claimAmountSat : Nat) : Swp Turn := do
  match ← swp (.check .serialize) with
  | .error e => return .stop (some e)
  | .ok () =>
    match ← broadcastClaim 4 with
    | .error e => return .stop (some e)
    | .ok claimTxId =>
      match ← swp (.updates { claimTxId := claimTxId, receiveAmountSat := claimAmountSat }) with
      | .error e => return .stop (some e)
      | .ok () => return .again (swap.updates
          { claimTxId := claimTxId, receiveAmountSat := claimAmountSat })

/-- The claim of the lockup transaction. Reference: `swaps/swaps_service.go:1255
startSwapOutListener`. -/
def claimLockup (swap : Swap) (update : SwapMessage) : Swp Turn := do
  match ← swp (.newTxFromHex update.transactionHex) with
  | .error e => return .stop (some e)
  | .ok () =>
    match ← swp (.check .findVout) with
    | .error e => return .stop (some e)
    | .ok () =>
      match ← claimFee swap with
      | .error _ => return .stop none
      | .ok () =>
        match ← swp (.constructTransaction true) with
        | .error e => return .stop (some e)
        | .ok claimAmountSat => sendClaim swap claimAmountSat

/-- The lockup transaction was seen. Reference: `swaps/swaps_service.go:1228
startSwapOutListener`. -/
def lockupDetected (swap : Swap) (update : SwapMessage) : Swp Turn := do
  match ← saveLockup swap update.transactionId with
  | .error e => return .stop (some e)
  | .ok () =>
    let swap := if swap.lockupTxId = "" then swap.updates { lockupTxId := update.transactionId }
      else swap
    if swap.claimTxId ≠ "" then return .again swap else claimLockup swap update

/-- Reference: `swaps/swaps_service.go:1195 startSwapOutListener`. -/
def swapOutUpdate (swap : Swap) (update : SwapMessage) : Swp Turn :=
  match update.status with
  | .swapCreated => do
    swp .payInvoice
    return .again swap
  | .transactionMempool | .transactionConfirmed => lockupDetected swap update
  | .transactionFailed => return .stop (some "transaction.failed")
  | .swapExpired => return .stop (some "swap.expired")
  | _ => return .again swap

/-- One turn of the listener. Reference: `swaps/swaps_service.go:1151 startSwapOutListener`. -/
def swapOutTurn (swap : Swap) : Swp Turn := do
  match ← swp .select with
  | .done => return .leave .cancelled
  | .paymentError e => return .stop (some e)
  | .claimTicker => claimPoll swap
  | .closed => return .again swap
  | .update update =>
    if update.id ≠ swap.swapId then return .again swap else swapOutUpdate swap update

/-- `n` are the turns of the loop. Reference: `swaps/swaps_service.go:1053 startSwapOutListener`. -/
def startSwapOutListener (n : Nat) (swap : Swap) : Swp SwapExit := startListener swapOutTurn n swap

/-! ## The hub of one swap -/

/-- The row of the swap, and whether a claim or refund transaction of it was broadcast. Reference:
the table `swaps`. -/
structure SwapHub where
  swap : Swap
  broadcast : Bool
  deriving DecidableEq, Repr

/-- What a command takes from outside: a failure of the database; the signal that is received; the
answers of Boltz and of the node, which `fails` to answer or not. Reference: none. -/
structure SwapEnv where
  fault : Option String := none
  signal : SwapSignal := .claimTicker
  fails : Option String := none
  confirmed : Bool := false
  number : Nat := 0
  text : String := ""
  done : Bool := false

/-- The answer of a call that may fail. Reference: none. -/
def SwapEnv.answer {α : Type} (fails : Option String) (a : α) : Except String α :=
  match fails with
  | some e => .error e
  | none => .ok a

/-- The hub after a broadcast. Reference: none. -/
def SwapHub.sent (s : SwapHub) (fails : Option String) : SwapHub :=
  if fails.isNone then { s with broadcast := true } else s

/-- The hub after `Updates`. Reference: gorm `Updates`. -/
def SwapHub.written (s : SwapHub) (fault : Option String) (u : SwapColumns) : SwapHub :=
  if fault.isNone then { s with swap := s.swap.updates u } else s

/-- What a command does. Reference: the calls of `SwapCmd`. -/
def execSwap (s : SwapHub) : (c : SwapCmd) → SwapEnv → Option (c.Ans × SwapHub)
  | .find, env => some (SwapEnv.answer env.fault (some s.swap), s)
  | .findInState state, env =>
    some (if env.fault.isNone && s.swap.state = state then some s.swap else none, s)
  | .updates u, env => some (SwapEnv.answer env.fault (), s.written env.fault u)
  | .select, env => some (env.signal, s)
  | .check _, env | .newTxFromHex _, env | .getFeeRate, env =>
    some (SwapEnv.answer env.fails (), s)
  | .isTransactionConfirmed _, env => some (SwapEnv.answer env.fails env.confirmed, s)
  | .getInfo, env | .constructTransaction _, env => some (SwapEnv.answer env.fails env.number, s)
  | .getNewOnchainAddress, env => some (SwapEnv.answer env.fails env.text, s)
  | .broadcastTransaction, env => some (SwapEnv.answer env.fails env.text, s.sent env.fails)
  | .getSwapTransaction, env => some (SwapEnv.answer env.fails (env.text, env.number), s)
  | .contextDone, env => some (env.done, s)
  | .payInvoice, _ | .publishSucceeded _, _ | .bumpAutoswapXpubIndex, _ => some ((), s)

/-- The calls of one swap; `n` bounds the turns of their loops, and every `n` is allowed. Reference:
`swaps/swaps_service.go:372`, `:541`, `:858 subscribePendingSwaps`, `api/api.go:874 RefundSwap`. -/
inductive SwapOp where
  | swapIn (amountSat n : Nat) (swap : Swap)
  | swapOut (n : Nat) (swap : Swap)
  | refund (n : Nat) (address : String)

/-- The call is a listener. Reference: none. -/
def SwapOp.isListener : SwapOp → Bool
  | .refund _ _ => false
  | _ => true

/-- Reference: none. -/
def swapBody : SwapOp → Swp SwapExit
  | .swapIn amountSat n swap => startSwapInListener amountSat n swap
  | .swapOut n swap => startSwapOutListener n swap
  | .refund n address => RefundSwap n address false

/-- What a call of the swap has done so far, latest first. Reference: none. -/
abbrev SwapHistory := List (Call SwapCmd SwapCmd.Ans)

/-- Reference: none. -/
abbrev SwapPool := Config SwapHub SwapCmd SwapCmd.Ans SwapOp SwapExit

/-- Reference: none. -/
abbrev SwapLabel := Label SwapOp SwapEnv

end AlbyHub
