import AlbyHub.Go.Numbers
import AlbyHub.Go.Text
import AlbyHub.Interaction.Index
import AlbyHub.Swaps.Service

/-!
# The auto swap loop

`EnableAutoSwapOut` starts a goroutine that looks at the balance once an hour and swaps out what is
above a threshold, to a fixed address or to the next unused one of an xpub. The goroutine blocks in
`SwapOut` until the listener of the swap returns. Reconfiguring cancels the context of the loop and
starts another one; a new process starts a loop of its own and resumes the swaps that are pending. A
call belongs to a process, and those of a process that is gone take no step (`InProcess`).
-/

namespace AlbyHub.AutoSwap

open Interaction

/-- A row of the table; the columns that the listeners use are in the hub. Reference:
`db/models.go:94 Swap`. -/
structure SwapRow where
  id : Nat
  hub : SwapHub
  autoSwap : Bool := false
  destinationAddress : String := ""
  deriving DecidableEq, Repr

/-- Reference: `config/models.go:12`. -/
inductive ConfigKey where
  | AutoSwapDestinationKey
  | AutoSwapBalanceThresholdKey
  | AutoSwapAmountKey
  | AutoSwapXpubIndexStart
  deriving DecidableEq, Repr

/-- The calls of the loop and of those that start and stop it. `createReverseSwap` is what `SwapOut`
does up to the listener: its transaction, whose statements are those of `AlbyHub.Creation`. `listen`
is a call of the listener of one row, `newSwapsService` the start of a process. Reference:
`swaps/swaps_service.go:79`, `:135`, `:146`, `:239`, `:858`, `:1392`, `:1484`. -/
inductive AutoCmd where
  | newSwapsService (proc : Nat)
  | cancelContext
  | callCancelFn
  | setDecryptedXpub (xpub : String)
  | withCancel
  | get (key : ConfigKey)
  | setUpdate (key : ConfigKey) (value : String)
  | validateXpub (xpub : String)
  | cancel (ctx : Nat)
  | setCancelFn (ctx : Nat)
  | wait (ctx : Nat)
  | getBalances (ctx : Nat)
  | decryptedXpub
  | checkAddressHasTransactions (address : String)
  | getNewOnchainAddress
  | createReverseSwap (amountSat : Nat) (destination : String) (autoSwap usedXpubDerivation : Bool)
  | findPending (id : Nat)
  | listen (id : Nat) (c : SwapCmd)
  deriving DecidableEq, Repr

/-- The answer to a call. `wait` answers whether the timer has fired, `getBalances` the spendable
millisatoshis, `createReverseSwap` the id of the row and the caller's copy. Reference: the results
of the calls of `AutoCmd`. -/
abbrev AutoCmd.Ans : AutoCmd → Type
  | .withCancel => Nat
  | .get _ => Except String String
  | .setUpdate _ _ => Except String Unit
  | .validateXpub _ | .wait _ => Bool
  | .getBalances _ => Except String Int
  | .decryptedXpub => String
  | .checkAddressHasTransactions _ => Except String Bool
  | .getNewOnchainAddress => Except String String
  | .createReverseSwap _ _ _ _ => Except String (Nat × Swap)
  | .findPending _ => Option Swap
  | .listen _ c => c.Ans
  | .newSwapsService _ | .cancelContext | .callCancelFn | .setDecryptedXpub _ | .cancel _
  | .setCancelFn _ => Unit

abbrev AutoProg := Prog AutoCmd AutoCmd.Ans
abbrev AutoCall := Call AutoCmd AutoCmd.Ans

/-- Reference: the calls of `AutoCmd`. -/
def AutoCmd.issue (c : AutoCmd) : AutoProg c.Ans := Prog.call c

/-! ## The listener of a row -/

/-- Reference: `swaps/swaps_service.go:1392 bumpAutoswapXpubIndex`. -/
def bumpAutoswapXpubIndex : AutoProg Unit := do
  match ← AutoCmd.issue (.get .AutoSwapXpubIndexStart) with
  | .error _ => return ()
  | .ok indexStr =>
    match Go.parseUintBits 32 (if indexStr = "" then "0" else indexStr) with
    | none => return ()
    | some index => do
      let _ ← AutoCmd.issue (.setUpdate .AutoSwapXpubIndexStart (toString (index + 1)))
      return ()

/-- A command of a listener. Reference: `swaps/swaps_service.go:1175 startSwapOutListener`. -/
def listenCmd (id : Nat) : (c : SwapCmd) → AutoProg c.Ans
  | .bumpAutoswapXpubIndex => bumpAutoswapXpubIndex
  | c => AutoCmd.issue (.listen id c)

/-- A call of the swaps service on the row. Reference: `swaps/swaps_service.go:885`, `:1053`. -/
def onRow {α : Type} (id : Nat) (p : Swp α) : AutoProg α := p.through (listenCmd id)

/-! ## The loop -/

/-- What the goroutine closes over. Reference: `swaps/swaps_service.go:184 EnableAutoSwapOut`. -/
structure Workflow where
  ctx : Nat
  swapDestination : String
  balanceThreshold : Nat
  amountSat : Nat
  deriving DecidableEq, Repr

/-- Reference: `swaps/swaps_service.go:135 StopAutoSwapOut`. -/
def StopAutoSwapOut : AutoProg Unit := do
  AutoCmd.issue .callCancelFn
  AutoCmd.issue (.setDecryptedXpub "")

/-- The destination, and what is kept of it if it is an xpub. Reference: `swaps/swaps_service.go:154
EnableAutoSwapOut`. -/
def loadDestination : AutoProg String := do
  match ← AutoCmd.issue (.get .AutoSwapDestinationKey) with
  | .error _ => return ""
  | .ok swapDestination =>
    if swapDestination = "" then return "" else do
      let valid ← AutoCmd.issue (.validateXpub swapDestination)
      if valid then do
        AutoCmd.issue (.setDecryptedXpub swapDestination)
        return swapDestination
      else return swapDestination

/-- The text of a key, and none where it cannot be read. Reference: `swaps/swaps_service.go:164
EnableAutoSwapOut`. -/
def getText (key : ConfigKey) : AutoProg String := do
  match ← AutoCmd.issue (.get key) with
  | .error _ => return ""
  | .ok value => return value

/-- The loop is not started. Reference: `swaps/swaps_service.go:167 EnableAutoSwapOut`. -/
def cancelled {α : Type} (ctx : Nat) (r : Except String (Option α)) :
    AutoProg (Except String (Option α)) := do
  AutoCmd.issue (.cancel ctx)
  return r

/-- The answer is the goroutine that is started. Reference: `swaps/swaps_service.go:146
EnableAutoSwapOut`. -/
def EnableAutoSwapOut : AutoProg (Except String (Option Workflow)) := do
  StopAutoSwapOut
  let ctx ← AutoCmd.issue .withCancel
  AutoCmd.issue (.setDecryptedXpub "")
  let swapDestination ← loadDestination
  let balanceThresholdStr ← getText .AutoSwapBalanceThresholdKey
  let amountStr ← getText .AutoSwapAmountKey
  if balanceThresholdStr = "" ∨ amountStr = "" then cancelled ctx (.ok none)
  else
    match Go.parseUintBits 64 balanceThresholdStr with
    | none => cancelled ctx (.error "invalid auto swap configuration")
    | some balanceThreshold =>
      match Go.parseUintBits 64 amountStr with
      | none => cancelled ctx (.error "invalid auto swap configuration")
      | some amountSat => do
        AutoCmd.issue (.setCancelFn ctx)
        return .ok (some ⟨ctx, swapDestination, balanceThreshold, amountSat⟩)

/-- An error of the look-up of an address. Reference: the errors of `swaps/swaps_service.go:1484
getNextUnusedAddressFromXpub`. -/
inductive AddressErr where
  | message (text : String)
  | number (e : Go.NumError)
  deriving DecidableEq, Repr

section
variable (derive : String → Nat → Except String String)

/-- The first of the addresses that has no transactions. Reference: `swaps/swaps_service.go:1545
getNextUnusedAddressFromXpub`. -/
def firstUnused (xpub : String) : List Nat → AutoProg (Except AddressErr String)
  | [] => return .error (.message "could not find unused address within 100 addresses")
  | i :: is =>
    match derive xpub i with
    | .error e =>
      return .error (.message ("failed to derive address at index " ++ toString i ++ ": " ++ e))
    | .ok address => do
      match ← AutoCmd.issue (.checkAddressHasTransactions address) with
      | .error e =>
        return .error (.message ("failed to check address for transactions at index " ++
          toString i ++ ": " ++ e))
      | .ok true => firstUnused xpub is
      | .ok false => return .ok address

/-- The indices of the look-ahead: `i < uint32(index) + 100` holds for none of them where the sum
wraps. Reference: `swaps/swaps_service.go:1545 getNextUnusedAddressFromXpub`. -/
def lookAhead (index : Nat) : List Nat :=
  List.range' index ((index + 100) % 2 ^ 32 - index)

/-- Reference: `swaps/swaps_service.go:1484 getNextUnusedAddressFromXpub`. -/
def getNextUnusedAddressFromXpub : AutoProg (Except AddressErr String) := do
  let destination ← AutoCmd.issue .decryptedXpub
  if destination = "" then return .error (.message "no XPUB configured")
  else do
    match ← AutoCmd.issue (.get .AutoSwapXpubIndexStart) with
    | .error e => return .error (.message e)
    | .ok indexStr =>
      match Go.ParseUint 32 (if indexStr = "" then "0" else indexStr) with
      | .error e => return .error (.number e)
      | .ok index => firstUnused derive destination (lookAhead index)

/-- How a part of a call ends: it has given out its turns, or it has returned. Reference: none. -/
inductive Ended where
  | running
  | returned
  deriving DecidableEq, Repr

/-- An auto swap, which blocks until its listener returns. Reference: `swaps/swaps_service.go:239
SwapOut`. -/
def SwapOut (n amountSat : Nat) (destination : String) (usedXpubDerivation : Bool) :
    AutoProg Ended := do
  match ← AutoCmd.issue (.createReverseSwap amountSat destination true usedXpubDerivation) with
  | .error _ => return .returned
  | .ok (id, swap) => do
    match ← onRow id (startSwapOutListener n swap) with
    | .running => return .running
    | _ => return .returned

/-- The destination of a swap-out. Reference: `swaps/swaps_service.go:239 SwapOut`. -/
def swapOutDestination (destination : String) : AutoProg (Except String String) :=
  if destination = "" then AutoCmd.issue .getNewOnchainAddress else return .ok destination

/-- Reference: `swaps/swaps_service.go:239 SwapOut`. -/
def swapOutTo (n : Nat) (w : Workflow) (destination : String) (usedXpubDerivation : Bool) :
    AutoProg Ended := do
  match ← swapOutDestination destination with
  | .error _ => return .returned
  | .ok destination => SwapOut n w.amountSat destination usedXpubDerivation

/-- The timer has fired. Reference: `swaps/swaps_service.go:187 EnableAutoSwapOut`. -/
def tick (n : Nat) (w : Workflow) : AutoProg Ended := do
  match ← AutoCmd.issue (.getBalances w.ctx) with
  | .error _ => return .returned
  | .ok totalSpendableMsat =>
    if Go.uint64OfInt totalSpendableMsat < Go.uint64 (w.balanceThreshold * 1000) then
      return .returned
    else do
      let decryptedXpub ← AutoCmd.issue .decryptedXpub
      if decryptedXpub = "" then swapOutTo n w w.swapDestination false
      else do
        match ← getNextUnusedAddressFromXpub derive with
        | .error _ => return .returned
        | .ok actualDestination => swapOutTo n w actualDestination true

/-- The goroutine, which is given turns. Reference: `swaps/swaps_service.go:184
EnableAutoSwapOut`. -/
def workflow (n : Nat) (w : Workflow) : Nat → AutoProg SwapExit
  | 0 => return .running
  | m + 1 => do
    let fired ← AutoCmd.issue (.wait w.ctx)
    if fired then do
      match ← tick derive n w with
      | .running => return .running
      | .returned => workflow n w m
    else return .returned none

/-- A call of `EnableAutoSwapOut`, with the goroutine that it starts. Reference:
`swaps/swaps_service.go:146 EnableAutoSwapOut`. -/
def enableAutoSwapOut (n : Nat) : AutoProg SwapExit := do
  match ← EnableAutoSwapOut with
  | .error e => return .returned (some e)
  | .ok none => return .returned none
  | .ok (some w) => workflow derive n w n

end

/-- Reference: `swaps/swaps_service.go:858 subscribePendingSwaps`. -/
def resumeSwap (n amountSat id : Nat) : AutoProg SwapExit := do
  match ← AutoCmd.issue (.findPending id) with
  | none => return .returned none
  | some swap =>
    match swap.type with
    | .swapIn => onRow id (startSwapInListener amountSat n swap)
    | .swapOut => onRow id (startSwapOutListener n swap)

/-! ## The hub -/

/-- The calls; `n` bounds the turns of the loops, and every `n` is allowed. A configuration is
written by the API before it calls `EnableAutoSwapOut`, and after a start there is a call `resume`
for each row that was loaded. Reference: `swaps/swaps_service.go:79`, `:135`, `:146`, `:858`,
`api/api.go:1081`, `service/stop.go`. -/
inductive AutoOp where
  | newSwapsService (n : Nat)
  | enableAutoSwapOut (n : Nat)
  | stopAutoSwapOut
  | setUpdate (key : ConfigKey) (value : String)
  | resume (n amountSat id : Nat)
  | shutdown
  deriving DecidableEq, Repr

/-- A call, with the number of its process. Reference: none. -/
structure AutoSpawn where
  proc : Nat
  op : AutoOp
  deriving DecidableEq, Repr

/-- Reference: the functions of the calls. -/
def autoBody (derive : String → Nat → Except String String) (call : AutoSpawn) :
    AutoProg SwapExit :=
  match call.op with
  | .newSwapsService n => do
    AutoCmd.issue (.newSwapsService call.proc)
    enableAutoSwapOut derive n
  | .enableAutoSwapOut n => enableAutoSwapOut derive n
  | .stopAutoSwapOut => do
    StopAutoSwapOut
    return .returned none
  | .setUpdate key value => do
    let _ ← AutoCmd.issue (.setUpdate key value)
    return .returned none
  | .resume n amountSat id => resumeSwap n amountSat id
  | .shutdown => do
    AutoCmd.issue .cancelContext
    return .returned none

/-- The table and the last id of its sequence, the configuration, and the memory of the process: its
number, the last id there was when it started, whether its context is done, how many contexts it has
made for loops and which of them are cancelled, `autoSwapOutCancelFn` by the context it cancels, and
`autoSwapOutDecryptedXpub`. Reference: `swaps/swaps_service.go:39 swapsService`. -/
structure AutoHub where
  rows : List SwapRow
  seq : Nat
  config : ConfigKey → String
  proc : Nat := 0
  startedAt : Nat := 0
  ctxDone : Bool := false
  contexts : Nat := 0
  cancelled : List Nat := []
  cancelFn : Option Nat := none
  decryptedXpub : String := ""

/-- What is around a command: its error; whether the timer fires; the answers of the node, of Boltz
and of Esplora; the row that a creation which fails marks; and what a listener receives. Reference:
none. -/
structure AutoEnv where
  fault : Option String := none
  tick : Bool := false
  answer : Bool := false
  amountMsat : Int := 0
  text : String := ""
  marks : Option Nat := none
  swap : SwapEnv := {}

/-- Reference: `(value, err)`. -/
def AutoEnv.reply {α : Type} (env : AutoEnv) (a : α) : Except String α :=
  match env.fault with
  | some e => .error e
  | none => .ok a

/-- The hub with the row after a call of its listener. Reference: none. -/
def AutoHub.setRow (s : AutoHub) (id : Nat) (hub : SwapHub) : AutoHub :=
  { s with rows := s.rows.map fun row => if row.id = id then { row with hub := hub } else row }

/-- A creation that fails may mark a row as failed, its own or the one that has its id. Reference:
`swaps/swaps_service.go:294 SwapOut`. -/
def SwapRow.markFailed (row : SwapRow) : SwapRow :=
  { row with hub := { row.hub with swap := { row.hub.swap with state := .failed } } }

/-- The columns of a new swap-out. Reference: `swaps/swaps_service.go:280 SwapOut`. -/
def newSwap (swapId : String) (amountSat : Nat) (usedXpub : Bool) : Swap :=
  { swapId, type := .swapOut, receiveAmountSat := amountSat, usedXpub }

/-- What a command does. `wait` returns without a tick only if a context is done; a listener sees
that the context of the service is done only if it is. Reference: the calls of `AutoCmd`. -/
def autoExec (s : AutoHub) : (c : AutoCmd) → AutoEnv → Option (c.Ans × AutoHub)
  | .newSwapsService proc, _ => some ((), { s with
      proc := proc, startedAt := s.seq, ctxDone := false, contexts := 0, cancelled := [],
      cancelFn := none, decryptedXpub := "" })
  | .cancelContext, _ => some ((), { s with ctxDone := true })
  | .callCancelFn, _ => some ((), { s with cancelled := s.cancelFn.toList ++ s.cancelled })
  | .setDecryptedXpub xpub, _ => some ((), { s with decryptedXpub := xpub })
  | .withCancel, _ => some (s.contexts, { s with contexts := s.contexts + 1 })
  | .get key, env => some (env.reply (s.config key), s)
  | .setUpdate key value, env =>
    match env.fault with
    | some e => some (.error e, s)
    | none => some (.ok (), { s with config := fun k => if k = key then value else s.config k })
  | .validateXpub _, env => some (env.answer, s)
  | .cancel ctx, _ => some ((), { s with cancelled := ctx :: s.cancelled })
  | .setCancelFn ctx, _ => some ((), { s with cancelFn := some ctx })
  | .wait ctx, env =>
    if env.tick then some (true, s)
    else if ctx ∈ s.cancelled ∨ s.ctxDone = true then some (false, s) else none
  | .getBalances _, env => some (env.reply env.amountMsat, s)
  | .decryptedXpub, _ => some (s.decryptedXpub, s)
  | .checkAddressHasTransactions _, env => some (env.reply env.answer, s)
  | .getNewOnchainAddress, env => some (env.reply env.text, s)
  | .createReverseSwap amountSat destination autoSwap usedXpub, env =>
    match env.fault with
    | some e => some (.error e, { s with
        rows := s.rows.map fun row => if some row.id = env.marks then row.markFailed else row })
    | none =>
      let swap := newSwap env.text amountSat usedXpub
      some (.ok (s.seq + 1, swap), { s with
        seq := s.seq + 1
        rows := s.rows ++ [⟨s.seq + 1, ⟨swap, false⟩, autoSwap, destination⟩] })
  | .findPending id, env =>
    some (if env.fault.isSome then none else
      (s.rows.find? fun row => row.id = id ∧ row.hub.swap.state = .pending).map (·.hub.swap), s)
  | .listen id c, env =>
    if c = .select ∧ env.swap.signal = .done ∧ s.ctxDone = false then none
    else
      match s.rows.find? (·.id = id) with
      | none => none
      | some row => (execSwap row.hub c env.swap).map fun (r, hub) => (r, s.setRow id hub)

abbrev AutoPool := Config AutoHub AutoCmd AutoCmd.Ans AutoSpawn SwapExit
abbrev AutoThread := Thread AutoCmd AutoCmd.Ans AutoSpawn SwapExit
abbrev AutoLabel := Label AutoSpawn AutoEnv

/-- The process that issues a command; the start of a process is issued by the next one. Reference:
none. -/
def AutoHub.issuer (s : AutoHub) : Option AutoCmd → Nat
  | some (.newSwapsService _) => s.proc + 1
  | _ => s.proc

/-- A call that takes a step belongs to the process. One that ends leaves its calls behind, and the
next one is started. Reference: `cmd/http/main.go`. -/
def InProcess (cfg : AutoPool) : AutoLabel → Prop
  | .spawn _ => True
  | .restart => False
  | .run i _ => ∀ t ∈ cfg.threads[i]?, t.op.proc = cfg.state.issuer t.rest.next

end AlbyHub.AutoSwap
