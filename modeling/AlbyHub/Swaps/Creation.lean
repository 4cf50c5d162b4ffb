import AlbyHub.Interaction.Index
import AlbyHub.Swaps.Service

/-!
# The creation of swaps

A swap is created in a database transaction that inserts the row, asks Boltz for the swap with a key
that is derived from the row's id, and completes the row. A call that fails marks its row as failed
after the transaction. On sqlite a transaction that is rolled back frees its id, so that the next
insert gets it again: then the failing call marks the row of another swap, and two requests carry
the key of one id (`creation_reuses_id`). Where that does not happen, no call touches the row of
another one and the keys are distinct (`creation_isolated`).
-/

namespace AlbyHub.Creation

open Interaction

/-- A row of the table, with the columns that its creation writes. Reference: `db/models.go:94
Swap`. -/
structure SwapRow where
  id : Nat := 0
  swapId : String := ""
  type : SwapType
  state : SwapState := .pending
  invoice : String := ""
  sendAmountSat : Nat := 0
  receiveAmountSat : Nat := 0
  preimage : String := ""
  paymentHash : String := ""
  destinationAddress : String := ""
  lockupAddress : String := ""
  timeoutBlockHeight : Nat := 0
  boltzPubkey : String := ""
  swapTree : String := ""
  autoSwap : Bool := false
  usedXpub : Bool := false
  deriving DecidableEq, Repr

/-- The key of a swap, named by the id that it is derived from. Reference: `service/keys/keys.go:174
GetSwapKey`. -/
structure SwapKey where
  swapID : Nat
  deriving DecidableEq, Repr

/-- The answer of Boltz. Reference: boltz-client `CreateReverseSwapResponse`,
`CreateSwapResponse`. -/
structure BoltzSwap where
  id : String
  invoice : String := ""
  expectedAmount : Nat := 0
  lockupAddress : String := ""
  timeoutBlockHeight : Nat := 0
  publicKey : String := ""
  swapTree : String := ""
  deriving DecidableEq, Repr

/-- The columns that complete a row. Reference: `swaps/swaps_service.go:338 SwapOut`, `:502
SwapIn`. -/
structure SwapDetails where
  swapId : String
  sendAmountSat : Nat
  invoice : String
  lockupAddress : String
  timeoutBlockHeight : Nat
  boltzPubkey : String
  swapTree : String
  deriving DecidableEq, Repr

/-- The row after `Updates`; a column with its zero value is not written. Reference:
`swaps/swaps_service.go:338 SwapOut`, gorm `Updates` with a struct. -/
def SwapRow.complete (row : SwapRow) (u : SwapDetails) : SwapRow :=
  { row with
    swapId := if u.swapId = "" then row.swapId else u.swapId
    sendAmountSat := if u.sendAmountSat = 0 then row.sendAmountSat else u.sendAmountSat
    invoice := if u.invoice = "" then row.invoice else u.invoice
    lockupAddress := if u.lockupAddress = "" then row.lockupAddress else u.lockupAddress
    timeoutBlockHeight :=
      if u.timeoutBlockHeight = 0 then row.timeoutBlockHeight else u.timeoutBlockHeight
    boltzPubkey := if u.boltzPubkey = "" then row.boltzPubkey else u.boltzPubkey
    swapTree := if u.swapTree = "" then row.swapTree else u.swapTree }

/-- An invoice that the hub has made for a swap-in. Reference: `transactions/transactions_service.go
MakeInvoice`. -/
structure MadeInvoice where
  id : Nat
  paymentRequest : String
  paymentHash : String
  deriving DecidableEq, Repr

/-- The calls of the creation. A transaction begins with the insert, its first statement, and is
named by the id of its row. Reference: `swaps/swaps_service.go:239 SwapOut`, `:422 SwapIn`, `:597
markSwapState`. -/
inductive CreateCmd where
  | getNewOnchainAddress
  | randRead
  | getReversePairs
  | getSubmarinePairs
  | makeInvoice (amountMsat : Nat)
  | save (row : SwapRow)
  | getSwapKey (id : Nat)
  | createReverseSwap (claimPublicKey : SwapKey) (preimageHash : String) (onchainAmount : Nat)
  | createSwap (refundPublicKey : SwapKey) (invoice : String)
  | marshalTree
  | verifySwapOutInvoice (invoice paymentHash : String) (amountSat : Nat)
  | updates (id : Nat) (u : SwapDetails)
  | commit (id : Nat)
  | rollback (id : Nat)
  | setTransactionMetadata (invoice : Nat) (swapId : String)
  | findInState (id : Nat) (swapId : String) (state : SwapState)
  | updateState (id : Nat) (state : SwapState)
  deriving DecidableEq

/-- The answer to a call; the pairs answer with the miner fee of the claim, the random bytes with
the preimage and its hash. Reference: the results of the calls of `CreateCmd`. -/
abbrev CreateCmd.Ans : CreateCmd → Type
  | .getNewOnchainAddress => Except String String
  | .randRead => Except String (String × String)
  | .getReversePairs | .save _ | .verifySwapOutInvoice _ _ _ => Except String Nat
  | .makeInvoice _ => Except String MadeInvoice
  | .createReverseSwap _ _ _ | .createSwap _ _ => Except String BoltzSwap
  | .getSubmarinePairs | .getSwapKey _ | .marshalTree | .updates _ _ | .commit _
  | .setTransactionMetadata _ _ | .updateState _ _ => Except String Unit
  | .findInState _ _ _ => Bool
  | .rollback _ => Unit

abbrev CreateProg := Prog CreateCmd CreateCmd.Ans
abbrev CreateCall := Call CreateCmd CreateCmd.Ans

/-- Reference: the calls of `CreateCmd`. -/
def CreateCmd.issue (c : CreateCmd) : CreateProg c.Ans := Prog.call c

/-- A step that can fail, and what follows if it does not; the error gets the text. Reference:
`fmt.Errorf("…: %s", err)`. -/
def CreateProg.andThen {α β : Type} (p : CreateProg (Except String α)) (text : String)
    (f : α → CreateProg (Except String β)) : CreateProg (Except String β) := do
  match ← p with
  | .error e => return .error (text ++ e)
  | .ok a => f a

/-! ## The calls -/

/-- What is left of the caller's copy of the row after the transaction, and what the transaction has
returned. Reference: `swaps/swaps_service.go:301 SwapOut`. -/
structure Created where
  id : Nat
  swapId : String
  result : Except String BoltzSwap

/-- A statement of the transaction has failed. Reference: gorm `Transaction`. -/
def rollback (id : Nat) (swapId : String) (err : String) : CreateProg Created := do
  CreateCmd.issue (.rollback id)
  return ⟨id, swapId, .error err⟩

/-- The end of the transaction. Reference: gorm `Transaction`. -/
def complete (id : Nat) (swap : BoltzSwap) (u : SwapDetails) : CreateProg Created := do
  match ← CreateCmd.issue (.updates id u) with
  | .error e => rollback id swap.id e
  | .ok () => do
    match ← CreateCmd.issue (.commit id) with
    | .error e => rollback id swap.id e
    | .ok () => return ⟨id, swap.id, .ok swap⟩

/-- The transaction of a swap-out. Reference: `swaps/swaps_service.go:301 SwapOut`. -/
def swapOutTransaction (dbSwap : SwapRow) (preimageHash : String) (amountSat claimFeeSat : Nat) :
    CreateProg Created := do
  match ← CreateCmd.issue (.save dbSwap) with
  | .error e => return ⟨0, "", .error e⟩
  | .ok id => do
    match ← CreateCmd.issue (.getSwapKey id) with
    | .error e => rollback id "" ("error generating swap child private key: " ++ e)
    | .ok () => do
      match ← CreateCmd.issue (.createReverseSwap ⟨id⟩ preimageHash (amountSat + claimFeeSat)) with
      | .error e => rollback id "" ("could not create swap: " ++ e)
      | .ok swap => do
        match ← CreateCmd.issue .marshalTree with
        | .error e => rollback id "" e
        | .ok () => do
          match ← CreateCmd.issue
            (.verifySwapOutInvoice swap.invoice dbSwap.paymentHash amountSat) with
          | .error e => rollback id "" ("invalid swap invoice: " ++ e)
          | .ok sendAmountSat =>
            complete id swap ⟨swap.id, sendAmountSat, swap.invoice, swap.lockupAddress,
              swap.timeoutBlockHeight, swap.publicKey, swap.swapTree⟩

/-- The transaction of a swap-in. Reference: `swaps/swaps_service.go:473 SwapIn`. -/
def swapInTransaction (dbSwap : SwapRow) : CreateProg Created := do
  match ← CreateCmd.issue (.save dbSwap) with
  | .error e => return ⟨0, "", .error e⟩
  | .ok id => do
    match ← CreateCmd.issue (.getSwapKey id) with
    | .error e => rollback id "" ("error generating swap child private key: " ++ e)
    | .ok () => do
      match ← CreateCmd.issue (.createSwap ⟨id⟩ dbSwap.invoice) with
      | .error e => rollback id "" ("could not create swap: " ++ e)
      | .ok swap => do
        match ← CreateCmd.issue .marshalTree with
        | .error e => rollback id "" e
        | .ok () =>
          complete id swap ⟨swap.id, swap.expectedAmount, "", swap.lockupAddress,
            swap.timeoutBlockHeight, swap.publicKey, swap.swapTree⟩

/-- Reference: `swaps/swaps_service.go:597 markSwapState`. -/
def markSwapState (id : Nat) (swapId : String) (state : SwapState) : CreateProg Unit := do
  let marked ← CreateCmd.issue (.findInState id swapId state)
  if marked then return ()
  else do
    let _ ← CreateCmd.issue (.updateState id state)
    return ()

/-- The deferred function of a call that fails. Reference: `swaps/swaps_service.go:294 SwapOut`,
`:466 SwapIn`. -/
def fail {α : Type} (id : Nat) (swapId : String) (err : String) : CreateProg (Except String α) :=
  if id = 0 then return .error err
  else do
    markSwapState id swapId .failed
    return .error err

/-- Reference: `swaps/swaps_service.go:55 SwapResponse`. -/
structure SwapResponse where
  swapId : String
  paymentHash : String
  deriving DecidableEq, Repr

/-- The destination of a swap-out. Reference: `swaps/swaps_service.go:239 SwapOut`. -/
def swapOutDestination (destination : String) : CreateProg (Except String String) :=
  if destination = "" then
    (CreateCmd.issue .getNewOnchainAddress).andThen "could not get onchain address from config: "
      fun destination => return .ok destination
  else return .ok destination

/-- Reference: `swaps/swaps_service.go:239 SwapOut`. -/
def SwapOut (amountSat : Nat) (destination : String) (autoSwap usedXpubDerivation : Bool) :
    CreateProg (Except String SwapResponse) :=
  (swapOutDestination destination).andThen "" fun destination =>
  CreateProg.andThen (CreateCmd.issue .randRead) "" fun (preimage, paymentHash) =>
  CreateProg.andThen (CreateCmd.issue .getReversePairs) "could not get reverse pairs: "
    fun claimFeeSat => do
      let created ← swapOutTransaction
        { type := .swapOut, preimage, paymentHash, destinationAddress := destination, autoSwap,
          usedXpub := usedXpubDerivation, receiveAmountSat := amountSat }
        paymentHash amountSat claimFeeSat
      match created.result with
      | .error e => fail created.id created.swapId e
      | .ok swap => return .ok ⟨swap.id, paymentHash⟩

/-- Reference: `swaps/swaps_service.go:422 SwapIn`. -/
def SwapIn (amountSat : Nat) (autoSwap : Bool) : CreateProg (Except String SwapResponse) :=
  CreateProg.andThen (CreateCmd.issue (.makeInvoice (amountSat * 1000))) "" fun invoice =>
  CreateProg.andThen (CreateCmd.issue .getSubmarinePairs) "could not get submarine pairs: "
    fun _ => do
      let created ← swapInTransaction
        { type := .swapIn, invoice := invoice.paymentRequest, paymentHash := invoice.paymentHash,
          autoSwap }
      match created.result with
      | .error e => fail created.id created.swapId e
      | .ok swap => do
        match ← CreateCmd.issue (.setTransactionMetadata invoice.id swap.id) with
        | .error e => fail created.id created.swapId e
        | .ok () => return .ok ⟨swap.id, invoice.paymentHash⟩

/-- The calls that create a swap. Reference: `swaps/swaps_service.go:59 SwapsService`. -/
inductive CreateOp where
  | swapOut (amountSat : Nat) (destination : String) (autoSwap usedXpubDerivation : Bool)
  | swapIn (amountSat : Nat) (autoSwap : Bool)
  deriving DecidableEq

/-- Reference: the functions of the calls. -/
def createBody : CreateOp → CreateProg (Except String SwapResponse)
  | .swapOut amountSat destination autoSwap usedXpubDerivation =>
    SwapOut amountSat destination autoSwap usedXpubDerivation
  | .swapIn amountSat autoSwap => SwapIn amountSat autoSwap

/-! ## The database -/

/-- The table, the rows of the open transactions, and the last id of the sequence. Reference:
`db/migrations/202506170342_swaps.go`. -/
structure SwapsDb where
  rows : List SwapRow
  uncommitted : List SwapRow
  seq : Nat
  deriving DecidableEq, Repr

/-- What is around a command: its error, and its answer. Reference: none. -/
structure CreateEnv where
  fault : Option String := none
  text : String := ""
  text' : String := ""
  amount : Nat := 0
  swap : BoltzSwap := ⟨"", "", 0, "", 0, "", ""⟩
  deriving DecidableEq, Repr

/-- Reference: `(value, err)`. -/
def CreateEnv.answer {α : Type} (env : CreateEnv) (a : α) : Except String α :=
  match env.fault with
  | some e => .error e
  | none => .ok a

/-- A write outside a transaction, and the beginning of one, waits on sqlite for the open
transaction. On postgres an insert takes the next number of the sequence for good, on sqlite the
commit does. Reference: `db/db.go:57`; gorm `Save`, `Updates`, `Transaction`. -/
def createExec (postgres : Bool) (s : SwapsDb) :
    (c : CreateCmd) → CreateEnv → Option (c.Ans × SwapsDb)
  | .getNewOnchainAddress, env => some (env.answer env.text, s)
  | .randRead, env => some (env.answer (env.text, env.text'), s)
  | .getReversePairs, env => some (env.answer env.amount, s)
  | .getSubmarinePairs, env => some (env.answer (), s)
  | .makeInvoice _, env => some (env.answer ⟨env.amount, env.text, env.text'⟩, s)
  | .save row, env =>
    if postgres = false ∧ s.uncommitted ≠ [] then none
    else
      match env.fault with
      | some e => some (.error e, s)
      | none => some (.ok (s.seq + 1), { s with
          uncommitted := s.uncommitted ++ [{ row with id := s.seq + 1 }]
          seq := if postgres then s.seq + 1 else s.seq })
  | .getSwapKey _, env => some (env.answer (), s)
  | .createReverseSwap _ _ _, env => some (env.answer env.swap, s)
  | .createSwap _ _, env => some (env.answer env.swap, s)
  | .marshalTree, env => some (env.answer (), s)
  | .verifySwapOutInvoice _ _ _, env => some (env.answer env.amount, s)
  | .updates id u, env =>
    match env.fault with
    | some e => some (.error e, s)
    | none => some (.ok (), { s with
        uncommitted := s.uncommitted.map fun row => if row.id = id then row.complete u else row })
  | .commit id, env =>
    match env.fault, s.uncommitted.find? (·.id = id) with
    | some e, _ => some (.error e, s)
    | none, none => some (.error "sql: transaction has already been committed or rolled back", s)
    | none, some row => some (.ok (), { s with
        rows := s.rows ++ [row]
        uncommitted := s.uncommitted.filter (·.id ≠ id)
        seq := max s.seq id })
  | .rollback id, _ => some ((), { s with uncommitted := s.uncommitted.filter (·.id ≠ id) })
  | .setTransactionMetadata _ _, env => some (env.answer (), s)
  | .findInState id swapId state, env =>
    match env.fault with
    | some _ => some (false, s)
    | none => some (s.rows.any fun row =>
        row.id = id ∧ (swapId = "" ∨ row.swapId = swapId) ∧ row.state = state, s)
  | .updateState id state, env =>
    if postgres = false ∧ s.uncommitted ≠ [] then none
    else
      match env.fault with
      | some e => some (.error e, s)
      | none => some (.ok (), { s with
          rows := s.rows.map fun row => if row.id = id then { row with state := state } else row })

abbrev CreatePool := Config SwapsDb CreateCmd CreateCmd.Ans CreateOp (Except String SwapResponse)
abbrev CreateLabel := Label CreateOp CreateEnv
abbrev CreateThread := Thread CreateCmd CreateCmd.Ans CreateOp (Except String SwapResponse)

/-- No call creates a swap yet, and the sequence is past the rows that there are. Reference:
`swaps/swaps_service.go:79 NewSwapsService`. -/
def FreshSwaps (cfg : CreatePool) : Prop :=
  cfg.threads = [] ∧ cfg.state.uncommitted = [] ∧ (cfg.state.rows.map (·.id)).Nodup ∧
    ∀ row ∈ cfg.state.rows, row.id ≤ cfg.state.seq

end AlbyHub.Creation
