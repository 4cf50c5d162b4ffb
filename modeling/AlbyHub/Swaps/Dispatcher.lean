import AlbyHub.Interaction.Machine
import AlbyHub.Swaps.Service

/-!
# The dispatcher of the swap updates

One goroutine receives the status messages of all swaps from the websocket, looks up the channel of
the swap's listener and sends the message on it. A channel has one slot, and the lock is not held
while the dispatcher sends. The listeners register a channel, subscribe, wait for signals and handle
them, and a deferred function removes the registration of their swap, whichever channel it is. What
a listener does between two waits is left open as far as the dispatcher cannot see it: the ways that
a turn ends are those of the programs of the listeners (`outcome_swapInTurn`,
`outcome_swapOutTurn`).
-/

namespace AlbyHub.Dispatch

open Interaction

/-- How a turn of a listener ends: it waits again, it refunds the swap and then returns, or it
returns. Reference: `swaps/swaps_service.go:979`, `:1150`. -/
inductive Outcome where
  | again
  | refund
  | stop
  deriving DecidableEq, Repr

/-- The status makes the listener of a swap-in refund the swap. Reference:
`swaps/swaps_service.go:1035 startSwapInListener`. -/
def refundStatus : SwapEvent → Bool
  | .transactionLockupFailed | .invoiceFailedToPay | .swapExpired => true
  | _ => false

/-- The ways that a turn may end after the signal. Reference: `swaps/swaps_service.go:980
startSwapInListener`, `:1151 startSwapOutListener`. -/
def outcomes (type : SwapType) (swapId : String) : SwapSignal → List Outcome
  | .done => [.stop]
  | .closed => [.again]
  | .paymentError _ =>
    match type with
    | .swapIn => [.again]
    | .swapOut => [.stop]
  | .claimTicker =>
    match type with
    | .swapIn => [.again]
    | .swapOut => [.again, .stop]
  | .update update =>
    if update.id ≠ swapId then [.again] else
    match type, update.status with
    | .swapIn, .transactionMempool => [.again, .stop]
    | .swapIn, .invoicePaid => [.stop]
    | .swapIn, status => if refundStatus status then [.refund] else [.again]
    | .swapOut, .transactionMempool | .swapOut, .transactionConfirmed => [.again, .stop]
    | .swapOut, .transactionFailed | .swapOut, .swapExpired => [.stop]
    | .swapOut, _ => [.again]

/-- The phase of the goroutine of a listener. Reference: `swaps/swaps_service.go:885
startSwapInListener`, `:1053 startSwapOutListener`. -/
inductive Phase where
  | subscribing
  | preparing
  | reading
  | handling (signal : SwapSignal)
  | refunding
  | leaving
  | ended
  deriving DecidableEq, Repr

/-- A listener, with what is in its channel. Reference: `swaps/swaps_service.go:886
startSwapInListener`. -/
structure Listener where
  type : SwapType
  swapId : String
  phase : Phase := .subscribing
  updateCh : Option SwapMessage := none
  deriving DecidableEq, Repr

/-- The dispatcher waits for an update, or it sends one on the channel of a listener. Reference:
`swaps/swaps_service.go:106 NewSwapsService`. -/
inductive Dispatcher where
  | receiving
  | sending (update : SwapMessage) (ch : Nat)
  deriving DecidableEq, Repr

/-- The listeners, named by their place; the map from a swap to the channel of a listener; the
dispatcher; whether the channel of the websocket is closed; the updates that were received, and
where each of them went. Reference: `swaps/swaps_service.go:39 swapsService`. -/
structure SwapsHub where
  listeners : List Listener := []
  swapListeners : String → Option Nat := fun _ => none
  dispatcher : Dispatcher := .receiving
  closed : Bool := false
  received : List SwapMessage := []
  dispatched : List (SwapMessage × Option Nat) := []

/-- What can happen. Reference: `swaps/swaps_service.go:79`, `:614`, `:885`, `:1053`. -/
inductive Event where
  | start (type : SwapType) (swapId : String)
  | subscribe (i : Nat) (ok : Bool)
  | prepare (i : Nat) (ok : Bool)
  | receive (update : SwapMessage)
  | close
  | receiveClosed
  | send
  | select (i : Nat) (signal : SwapSignal)
  | handle (i : Nat) (outcome : Outcome)
  | refund (i : Nat) (ended : Bool)
  | unregister (i : Nat)
  deriving DecidableEq, Repr

/-- The hub with the listener in another phase. Reference: none. -/
def SwapsHub.put (s : SwapsHub) (i : Nat) (l : Listener) : SwapsHub :=
  { s with listeners := s.listeners.set i l }

/-- The phase after a turn. Reference: `swaps/swaps_service.go:979`, `:1150`. -/
def Outcome.phase : Outcome → Phase
  | .again => .reading
  | .refund => .refunding
  | .stop => .leaving

/-- What a listener does next, with what happens to its channel. A select receives from the channel
what is in it; the others of its signals come from outside. Reference: `swaps/swaps_service.go:885
startSwapInListener`, `:1053 startSwapOutListener`. -/
def Listener.step (l : Listener) : Event → Option Listener
  | .subscribe _ ok =>
    if l.phase = .subscribing then some (if ok then { l with phase := .preparing } else l) else none
  | .prepare _ ok =>
    if l.phase = .preparing then some { l with phase := if ok then .reading else .leaving }
      else none
  | .select _ signal =>
    if l.phase = .reading then
      match signal with
      | .update update =>
        if l.updateCh = some update then
          some { l with phase := .handling signal, updateCh := none }
        else none
      | .closed => none
      | _ => some { l with phase := .handling signal }
    else none
  | .handle _ outcome =>
    match l.phase with
    | .handling signal =>
      if outcome ∈ outcomes l.type l.swapId signal then some { l with phase := outcome.phase }
        else none
    | _ => none
  | .refund _ ended =>
    if l.phase = .refunding then some (if ended then { l with phase := .leaving } else l) else none
  | .unregister _ => if l.phase = .leaving then some { l with phase := .ended } else none
  | _ => none

/-- The listener whose step it is. Reference: none. -/
def Event.listener : Event → Option Nat
  | .subscribe i _ | .prepare i _ | .select i _ | .handle i _ | .refund i _ | .unregister i =>
    some i
  | _ => none

/-- The dispatcher receives an update and looks its channel up under the lock. Reference:
`swaps/swaps_service.go:108 NewSwapsService`. -/
def SwapsHub.receive (s : SwapsHub) (update : SwapMessage) : SwapsHub :=
  match s.swapListeners update.id with
  | some ch => { s with dispatcher := .sending update ch, received := s.received ++ [update] }
  | none =>
    { s with received := s.received ++ [update], dispatched := s.dispatched ++ [(update, none)] }

/-- The map after the deferred function of a listener. Reference: `swaps/swaps_service.go:906`,
`:1074`. -/
def SwapsHub.delete (s : SwapsHub) (swapId : String) : SwapsHub :=
  { s with swapListeners := fun id => if id = swapId then none else s.swapListeners id }

/-- One step. A channel that is full blocks the dispatcher; one of the websocket that is closed
answers at once, and the dispatcher receives again. Reference: `swaps/swaps_service.go:106
NewSwapsService`, `:885 startSwapInListener`, `:1053 startSwapOutListener`. -/
def swapsStep (s : SwapsHub) (e : Event) : Option SwapsHub :=
  match e with
  | .start type swapId =>
    some { s with
      listeners := s.listeners ++ [{ type, swapId }]
      swapListeners :=
        fun id => if id = swapId then some s.listeners.length else s.swapListeners id }
  | .receive update =>
    if s.dispatcher = .receiving ∧ s.closed = false then some (s.receive update) else none
  | .close => some { s with closed := true }
  | .receiveClosed => if s.dispatcher = .receiving ∧ s.closed = true then some s else none
  | .send =>
    match s.dispatcher with
    | .receiving => none
    | .sending update ch =>
      match s.listeners[ch]? with
      | none => none
      | some l =>
        if l.updateCh = none then
          some { s.put ch { l with updateCh := some update } with
            dispatcher := .receiving, dispatched := s.dispatched ++ [(update, some ch)] }
        else none
  | .unregister i =>
    match s.listeners[i]? with
    | none => none
    | some l => (l.step e).map fun l' => (s.put i l').delete l.swapId
  | .subscribe i _ | .prepare i _ | .select i _ | .handle i _ | .refund i _ =>
    match s.listeners[i]? with
    | none => none
    | some l => (l.step e).map (s.put i)

/-- The hub before any swap. Reference: `swaps/swaps_service.go:94 NewSwapsService`. -/
def newSwapsHub : SwapsHub := {}

/-! ## The turns of the listeners -/

/-- The outcome of a turn. Reference: none. -/
def turnOutcome : Turn → Outcome
  | .again _ => .again
  | _ => .stop

/-- Every turn that the program may end with has an outcome of the list. Reference: none. -/
abbrev Ends (os : List Outcome) (hs : SwapHistory) (p : Swp Turn) : Prop :=
  Follows (fun _ _ => True) (fun _ t => turnOutcome t ∈ os) hs p

section
variable {hs : SwapHistory} {swap : Swap} {update : SwapMessage} {amountSat n : Nat}

/-- Reference: `swaps/swaps_service.go:1035 startSwapInListener`. -/
theorem ends_swapInFailed : Ends [.stop] hs (swapInFailed n) := by
  refine follows_any.seq fun h' exit _ => ?_
  match exit with
  | .running => exact List.mem_singleton.2 rfl
  | .cancelled => exact List.mem_singleton.2 rfl
  | .returned err => exact List.mem_singleton.2 rfl

/-- Reference: `swaps/swaps_service.go:1015 startSwapInListener`. -/
theorem ends_swapInPaid : Ends [.stop] hs (swapInPaid amountSat) := by
  refine follows_any.seq fun h' _ _ => ?_
  refine .call trivial fun r => ?_
  match r with
  | .error e => exact List.mem_singleton.2 rfl
  | .ok () => exact ⟨trivial, fun _ => List.mem_singleton.2 rfl⟩

/-- Every turn waits again or stops. Reference: none. -/
theorem ends_any {p : Swp Turn} : Ends [.again, .stop] hs p := by
  refine follows_any.mono (fun _ _ h => h) fun h' t _ _ => ?_
  cases t with
  | again swap => exact List.mem_cons_self
  | leave exit => exact List.mem_cons_of_mem _ (List.mem_singleton.2 rfl)
  | stop err => exact List.mem_cons_of_mem _ (List.mem_singleton.2 rfl)

/-- What the listener of a swap-in does with a signal. Reference: `swaps/swaps_service.go:980
startSwapInListener`. -/
def swapInSignal (amountSat n : Nat) (swap : Swap) : SwapSignal → Swp Turn
  | .done => return .leave .cancelled
  | .update update =>
    if update.id ≠ swap.swapId then return .again swap else swapInUpdate amountSat n swap update
  | _ => return .again swap

/-- What the listener of a swap-out does with a signal. Reference: `swaps/swaps_service.go:1151
startSwapOutListener`. -/
def swapOutSignal (swap : Swap) : SwapSignal → Swp Turn
  | .done => return .leave .cancelled
  | .paymentError e => return .stop (some e)
  | .claimTicker => claimPoll swap
  | .closed => return .again swap
  | .update update =>
    if update.id ≠ swap.swapId then return .again swap else swapOutUpdate swap update

theorem ends_again : Ends [.again] hs (return .again swap) := List.mem_singleton.2 rfl

theorem outcomes_update_eq {type : SwapType} {swapId : String} (hid : update.id = swapId) :
    outcomes type swapId (.update update) =
      match type, update.status with
      | .swapIn, .transactionMempool => [.again, .stop]
      | .swapIn, .invoicePaid => [.stop]
      | .swapIn, status => if refundStatus status then [.refund] else [.again]
      | .swapOut, .transactionMempool | .swapOut, .transactionConfirmed => [.again, .stop]
      | .swapOut, .transactionFailed | .swapOut, .swapExpired => [.stop]
      | .swapOut, _ => [.again] := by
  simp only [outcomes, hid, ne_eq, not_true_eq_false, if_false]

theorem outcomes_update_ne {type : SwapType} {swapId : String} (hid : update.id ≠ swapId) :
    outcomes type swapId (.update update) = [.again] := by
  simp only [outcomes, hid, ne_eq, not_false_eq_true, if_true]

/-- A turn of the listener of a swap-in ends as its signal says; where it refunds the swap, the
refund is the rest of the turn, which then stops. Reference: `swaps/swaps_service.go:980
startSwapInListener`. -/
theorem outcome_swapInTurn :
    swapInTurn amountSat n swap = (do swapInSignal amountSat n swap (← swp .select)) ∧
    ∀ signal,
      (outcomes .swapIn swap.swapId signal = [.refund] →
        swapInSignal amountSat n swap signal = swapInFailed n ∧ Ends [.stop] hs (swapInFailed n)) ∧
      (outcomes .swapIn swap.swapId signal ≠ [.refund] →
        Ends (outcomes .swapIn swap.swapId signal) hs (swapInSignal amountSat n swap signal)) := by
  refine ⟨rfl, fun signal => ?_⟩
  match signal with
  | .done => exact ⟨nofun, fun _ => List.mem_singleton.2 rfl⟩
  | .closed => exact ⟨nofun, fun _ => ends_again⟩
  | .paymentError e => exact ⟨nofun, fun _ => ends_again⟩
  | .claimTicker => exact ⟨nofun, fun _ => ends_again⟩
  | .update update =>
    simp only [swapInSignal]
    by_cases hid : update.id = swap.swapId
    · rw [outcomes_update_eq hid, if_neg (not_not_intro hid)]
      unfold swapInUpdate
      cases update.status with
      | transactionMempool => exact ⟨nofun, fun _ => ends_any⟩
      | invoicePaid => exact ⟨nofun, fun _ => ends_swapInPaid⟩
      | transactionLockupFailed =>
        exact ⟨fun _ => ⟨rfl, ends_swapInFailed⟩, fun hne => absurd rfl hne⟩
      | invoiceFailedToPay => exact ⟨fun _ => ⟨rfl, ends_swapInFailed⟩, fun hne => absurd rfl hne⟩
      | swapExpired => exact ⟨fun _ => ⟨rfl, ends_swapInFailed⟩, fun hne => absurd rfl hne⟩
      | swapCreated => exact ⟨nofun, fun _ => ends_again⟩
      | transactionConfirmed => exact ⟨nofun, fun _ => ends_again⟩
      | transactionFailed => exact ⟨nofun, fun _ => ends_again⟩
      | other => exact ⟨nofun, fun _ => ends_again⟩
    · rw [outcomes_update_ne hid, if_pos hid]
      exact ⟨nofun, fun _ => ends_again⟩

/-- A turn of the listener of a swap-out ends as its signal says. Reference:
`swaps/swaps_service.go:1151 startSwapOutListener`. -/
theorem outcome_swapOutTurn :
    swapOutTurn swap = (do swapOutSignal swap (← swp .select)) ∧
    ∀ signal, Ends (outcomes .swapOut swap.swapId signal) hs (swapOutSignal swap signal) := by
  refine ⟨rfl, fun signal => ?_⟩
  match signal with
  | .done => exact List.mem_singleton.2 rfl
  | .closed => exact ends_again
  | .paymentError e => exact List.mem_singleton.2 rfl
  | .claimTicker => exact ends_any
  | .update update =>
    simp only [swapOutSignal]
    by_cases hid : update.id = swap.swapId
    · rw [outcomes_update_eq hid, if_neg (not_not_intro hid)]
      unfold swapOutUpdate
      cases update.status with
      | swapCreated => exact ⟨trivial, fun _ => ends_again⟩
      | transactionMempool => exact ends_any
      | transactionConfirmed => exact ends_any
      | transactionFailed => exact List.mem_singleton.2 rfl
      | swapExpired => exact List.mem_singleton.2 rfl
      | _ => exact ends_again
    · rw [outcomes_update_ne hid, if_pos hid]
      exact ends_again

end

end AlbyHub.Dispatch
