import AlbyHub.Swaps.Stops
import AlbyHub.Transactions.Discipline
import AlbyHub.Transactions.Calls
import AlbyHub.Interaction.Machine

/-!
# The payment of a swap-out

`SwapCreated` makes the listener start a goroutine that pays the swap's invoice, unless the
transactions know its payment hash. The goroutines run in the pool of the hub's calls, and the
listener, which they report an error to, in the pool of the swap: `SwapOutHub` is the two of them
with what passes between them.
-/

namespace AlbyHub

open Go Interaction

/-- The columns of a swap-out that its payment reads. Reference: `db/models.go:94 Swap`. -/
structure SwapInvoice where
  swapId : String
  invoice : String
  paymentHash : String
  sendAmountSat : Nat

/-- Reference: `swaps/swaps_service.go:404 verifySwapOutInvoice`. -/
def verifySwapOutInvoice (W : World) (invoice expectedPaymentHash : String)
    (maxSendAmountSat : Nat) : Except String Nat :=
  match W.decodepay invoice with
  | .error e => .error ("failed to decode bolt11 invoice: " ++ e)
  | .ok paymentRequest =>
    if paymentRequest.paymentHash ≠ expectedPaymentHash then
      .error ("invoice payment hash " ++ paymentRequest.paymentHash ++
        " does not match swap payment hash " ++ expectedPaymentHash)
    else if paymentRequest.mSatoshi ≤ 0 then .error "invoice does not have an amount"
    else
      let sendAmountSat := uint64OfInt paymentRequest.mSatoshi / 1000
      if sendAmountSat > maxSendAmountSat then
        .error ("invoice amount " ++ toString sendAmountSat ++
          " sat exceeds maximum expected amount " ++ toString maxSendAmountSat ++ " sat")
      else .ok sendAmountSat

/-- The goroutine of `SwapCreated`; an error is one that it sends to the listener. Reference:
`swaps/swaps_service.go:1197 startSwapOutListener`. -/
def payInvoice (W : World) (swap : SwapInvoice) : Svc Result := do
  match ← LookupTransaction W swap.paymentHash none none with
  | .ok _ => return .ok none
  | .error .notFound =>
    match verifySwapOutInvoice W swap.invoice swap.paymentHash swap.sendAmountSat with
    | .error e => return .error (.message e)
    | .ok _ => do
      let sent ← SendPaymentSync W swap.invoice none (some [("swap_id", .string swap.swapId)]) none
        none
      return sent.map fun _ => none
  | .error _ => return .ok none

/-- A payment that a listener has started, or another call of the hub. Reference: none. -/
inductive PayOp where
  | payment (listener : Nat)
  | call (op : Op)

/-- The programs of the calls, where `pay` is the goroutine of `SwapCreated`. Reference: none. -/
def payBody (W : World) (pay : Svc Result) : PayOp → Svc Result
  | .payment _ => pay
  | .call op => body W op

/-- Reference: none. -/
abbrev PayPool := Config Hub Cmd Cmd.Ans PayOp Result

/-- The calls of the hub, the listeners of the swap, how often a payment of the swap has handed the
invoice to the node, and which listener has taken the error of which payment. Reference: none. -/
structure SwapOutHub where
  calls : PayPool
  listeners : SwapPool
  handed : Nat
  taken : List (Nat × Nat)

/-- What can happen: another call starts; a call takes a step; a listener is started for the pending
swap, with the turns that it is given; listener `i` takes a step; it receives the error of payment
`j`; the process restarts. Reference: `swaps/swaps_service.go:372`, `:858 subscribePendingSwaps`,
`:1150`. -/
inductive SwapOutStep where
  | call (op : Op)
  | run (i : Nat) (env : Env)
  | subscribe (n : Nat)
  | listen (i : Nat) (env : SwapEnv)
  | fail (i j : Nat)
  | restart

/-- The command hands an invoice to the node. Reference:
`transactions/transactions_service.go:438 SendPaymentSync`. -/
def Cmd.handsInvoice : Cmd → Bool
  | .lnSendPaymentSync _ _ => true
  | _ => false

/-- The next step of call `i` hands the invoice to the node for the swap. Reference:
`transactions/transactions_service.go:438 SendPaymentSync`. -/
def SwapOutHub.hands (s : SwapOutHub) (i : Nat) : Bool :=
  match s.calls.threads[i]? with
  | some ⟨.payment _, _, .cmd c _⟩ => c.handsInvoice
  | _ => false

/-- A listener takes its next step; where it is told that the swap was created, a payment starts.
Reference: `swaps/swaps_service.go:1150 startSwapOutListener`. -/
def SwapOutHub.listen (pay : Svc Result) (s : SwapOutHub) (i : Nat) (env : SwapEnv) :
    Option SwapOutHub :=
  (s.listeners.step execSwap swapBody (.run i env)).map fun listeners =>
    match SwapPool.next s.listeners i with
    | some (_, .payInvoice) =>
      { s with
        listeners := listeners
        calls := ⟨s.calls.state, s.calls.threads ++ [⟨.payment i, [], pay⟩]⟩ }
    | _ => { s with listeners := listeners }

/-- Reference: `swaps/swaps_service.go:858`, `:1150`. -/
def SwapOutHub.step (W : World) (pay : Svc Result) (s : SwapOutHub) :
    SwapOutStep → Option SwapOutHub
  | .call op => (s.calls.step (exec W) (payBody W pay) (.spawn (.call op))).map fun calls =>
    { s with calls := calls }
  | .run i env => (s.calls.step (exec W) (payBody W pay) (.run i env)).map fun calls =>
    { s with calls := calls, handed := s.handed + if s.hands i then 1 else 0 }
  | .subscribe n =>
    if s.listeners.state.swap.state = .pending then
      (s.listeners.step execSwap swapBody (.spawn (.swapOut n s.listeners.state.swap))).map
        fun listeners => { s with listeners := listeners }
    else none
  | .listen i env =>
    match env.signal with
    | .paymentError _ => none
    | _ => s.listen pay i env
  | .fail i j =>
    match s.calls.threads[j]?, SwapPool.next s.listeners i with
    | some ⟨.payment k, _, .ret (.error e)⟩, some (_, .select) =>
      if k = i then
        (s.listen pay i { signal := .paymentError e.error }).map fun s' =>
          { s' with taken := (i, j) :: s'.taken }
      else none
    | _, _ => none
  | .restart => some ⟨⟨s.calls.state, []⟩, ⟨s.listeners.state, []⟩, s.handed, []⟩

/-- A hub that has just started, over any database and any row of the swap. Reference: none. -/
structure SwapOutHub.Initial (s : SwapOutHub) : Prop where
  calls : s.calls.threads = []
  listeners : s.listeners.threads = []
  handed : s.handed = 0
  taken : s.taken = []

/-- The listener has not returned. Reference: none. -/
def SwapOutHub.listening (s : SwapOutHub) (i : Nat) : Bool :=
  s.listeners.threads[i]?.any fun t => !t.rest.done

/-- The transactions did not know the payment hash. Reference: `swaps/swaps_service.go:1198
startSwapOutListener`. -/
def foundNothing (paymentHash : String) (h : History) : Bool :=
  h.any fun
    | ⟨.lookup p none none, .ok none⟩ => p = paymentHash
    | ⟨.lookup p none none, .error .notFound⟩ => p = paymentHash
    | _ => false

/-- The call has inserted an outgoing row. Reference: `transactions/transactions_service.go:397`. -/
def hasInserted (h : History) : Bool := h.any fun call => (insertedRow call).isSome

/-- No outgoing row has the payment hash. Reference: none. -/
def Table.NoneSent (t : Table) (paymentHash : String) : Prop :=
  ∀ row ∈ t.rows, row.type = .outgoing → row.paymentHash ≠ paymentHash

instance (t : Table) (paymentHash : String) : Decidable (t.NoneSent paymentHash) :=
  inferInstanceAs (Decidable (∀ row ∈ t.rows, _))

/-- The payment has found nothing and has inserted nothing, and either still runs or may end the
listener that has started it. Reference: `swaps/swaps_service.go:1197 startSwapOutListener`. -/
def SwapOutHub.owes (s : SwapOutHub) (paymentHash : String)
    (t : Thread Cmd Cmd.Ans PayOp Result) : Bool :=
  match t.op with
  | .payment i => foundNothing paymentHash t.hist && !hasInserted t.hist &&
      (!t.rest.done || s.listening i)
  | .call _ => false

/-- The payments that owe a row. Reference: none. -/
def SwapOutHub.owing (s : SwapOutHub) (paymentHash : String) : List Nat :=
  (List.range s.calls.threads.length).filter fun j =>
    s.calls.threads[j]?.any (s.owes paymentHash)

/-- The first outgoing row of the payment hash is not inserted by a call while another payment owes
one. Reference: `swaps/swaps_service.go:1198`, `:1213`. -/
def SwapOutHub.Undisturbed (W : World) (pay : Svc Result) (paymentHash : String) (s : SwapOutHub) :
    SwapOutStep → Prop
  | .run i env => ∀ s', s.step W pay (.run i env) = some s' →
      s.calls.state.db.transactions.NoneSent paymentHash →
      ¬ s'.calls.state.db.transactions.NoneSent paymentHash → ∀ j ∈ s.owing paymentHash, j = i
  | _ => True

instance (W : World) (pay : Svc Result) (paymentHash : String) (s : SwapOutHub) (l : SwapOutStep) :
    Decidable (s.Undisturbed W pay paymentHash l) := by
  unfold SwapOutHub.Undisturbed
  split
  · next i env =>
    cases h : s.step W pay (.run i env) with
    | none => exact isTrue fun s' hs => by cases hs
    | some s₁ =>
      refine decidable_of_iff (s.calls.state.db.transactions.NoneSent paymentHash →
        ¬ s₁.calls.state.db.transactions.NoneSent paymentHash → ∀ j ∈ s.owing paymentHash, j = i)
        ⟨fun hd s' hs => ?_, fun hd => hd s₁ rfl⟩
      cases hs
      exact hd
  · infer_instance

/-- The swap-out was handed to the node at most once, and while a listener ends by the error of a
payment that has not inserted a row, every row of the payment hash is a failed one. Reference:
`swaps/swaps_service.go:1195 startSwapOutListener`. -/
structure SwapOutHub.PaidOnce (s : SwapOutHub) (paymentHash : String) : Prop where
  handed : s.handed ≤ 1
  ends : ∀ i j t, (i, j) ∈ s.taken → s.listening i = true → s.calls.threads[j]? = some t →
    hasInserted t.hist = false → ∀ row ∈ s.calls.state.db.transactions.rows, row.type = .outgoing →
      row.paymentHash = paymentHash → row.state = .failed

/-- The errors that were taken, checked one by one. Reference: none. -/
def SwapOutHub.checkEnds (s : SwapOutHub) (paymentHash : String) : Bool :=
  s.taken.all fun (i, j) => !s.listening i || s.calls.threads[j]?.all fun t =>
    hasInserted t.hist || s.calls.state.db.transactions.rows.all fun row =>
      row.type ≠ .outgoing || row.paymentHash ≠ paymentHash || row.state = .failed

end AlbyHub
