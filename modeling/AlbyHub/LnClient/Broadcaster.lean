import AlbyHub.Interaction.Machine
import Mathlib.Data.List.Nodup
import Mathlib.Data.List.Perm.Basic
import Mathlib.Logic.Function.Basic

/-!
# The broadcaster of the LDK events

One goroutine serves three channels without buffers: the events, the listeners to add and the
listeners to remove. A payment call subscribes, sends its payment, reads events in a `select` beside
the context, and cancels its subscription when it returns: it closes its channel first and then
hands it over to be removed. Once the context is cancelled the goroutine may leave its loop, and it
then closes the channels of the listeners that it has.
-/

namespace AlbyHub.Broadcaster

open Interaction

/-- Where a call is: in `Subscribe`, away from its `select`, at it, in the first or in the second
half of `CancelSubscription`. Reference: `lnclient/ldk/ldk.go:612 SendPaymentSync`, `:710
SendKeysend`. -/
inductive Phase where
  | idle
  | adding
  | working
  | waiting
  | closing
  | removing
  | done
  deriving DecidableEq, Repr

/-- A call, with its channel. `since` is the number of events that the server had received when it
took the listener, `left` the number of those that it had broadcast when `CancelSubscription` was
called, and `missed` says that the server gave up sending it one. Reference:
`lnclient/ldk/ldk.go:611 SendPaymentSync`, `:710 SendKeysend`. -/
structure Call (E : Type) where
  phase : Phase := .idle
  closed : Bool := false
  panicked : Bool := false
  missed : Bool := false
  since : Nat := 0
  left : Option Nat := none
  received : List E := []

/-- Where the server is: at its `select`, sending an event to the listeners that are left, closing
the channels of those that are left, or returned. Reference:
`lnclient/ldk/ldk_event_broadcaster.go:68 serve`. -/
inductive Server (E : Type) where
  | serving
  | sending (event : E) (todo : List Nat)
  | closing (todo : List Nat)
  | returned

/-- The state: the calls are named by the order in which they subscribe, and `log` are the events
that the server received. Reference: `lnclient/ldk/ldk_event_broadcaster.go:24
ldkEventBroadcastServer`. -/
structure State (E : Type) where
  cancelled : Bool := false
  server : Server E := .serving
  listeners : List Nat := []
  calls : Nat → Call E := fun _ => {}
  started : Nat := 0
  log : List E := []

/-- What can happen. Reference: `lnclient/ldk/ldk_event_broadcaster.go:47`, `:54`, `:68`,
`lnclient/ldk/ldk.go:646 SendPaymentSync`, `:731 SendKeysend`. -/
inductive Action (E : Type) where
  | cancel
  | subscribe
  | add (p : Nat)
  | wait (p : Nat)
  | finish (p : Nat)
  | ctxDone (p : Nat)
  | readClosed (p : Nat)
  | close (p : Nat)
  | remove (p : Nat)
  | event (e : E)
  | send
  | sendPanics
  | timeout
  | sent
  | ctxDoneServer
  | closeListener
  | closedListeners

variable {E : Type}

/-- The listeners without one of them, in whose place the last one goes. Reference:
`lnclient/ldk/ldk_event_broadcaster.go:95 serve`. -/
def removeListener (listeners : List Nat) (p : Nat) : List Nat :=
  match listeners.idxOf? p with
  | none => listeners
  | some i => (listeners.set i (listeners.getLastD 0)).dropLast

/-- The number of events that were sent to all listeners. Reference: none. -/
def State.broadcast (s : State E) : Nat :=
  match s.server with
  | .sending _ _ => s.log.length - 1
  | _ => s.log.length

/-- The state with another call. Reference: none. -/
def State.put (s : State E) (p : Nat) (c : Call E) : State E :=
  { s with calls := Function.update s.calls p c }

/-- The call runs its deferred `CancelSubscription`. Reference: `lnclient/ldk/ldk.go:613
SendPaymentSync`. -/
def State.leave (s : State E) (p : Nat) (panicked : Bool) : State E :=
  s.put p { s.calls p with phase := .closing, panicked := panicked, left := some s.broadcast }

/-- One step. The two parties of an exchange over a channel without a buffer take it together; a
send on a closed channel panics, which is recovered; a receive from one gives nil, which the call
dereferences; and the server gives a listener up that does not read for five seconds. Reference:
`lnclient/ldk/ldk_event_broadcaster.go:47 Subscribe`, `:54 CancelSubscription`, `:68 serve`,
`lnclient/ldk/ldk.go:611 SendPaymentSync`, `:710 SendKeysend`. -/
def broadcasterStep (s : State E) : Action E → Option (State E)
  | .cancel => some { s with cancelled := true }
  | .subscribe =>
    some { s.put s.started { s.calls s.started with phase := .adding } with
      started := s.started + 1 }
  | .add p =>
    match s.server, (s.calls p).phase with
    | .serving, .adding =>
      some { s.put p { s.calls p with phase := .working, since := s.log.length } with
        listeners := s.listeners ++ [p] }
    | _, _ => none
  | .wait p =>
    if (s.calls p).phase = .working then some (s.put p { s.calls p with phase := .waiting })
      else none
  | .finish p => if (s.calls p).phase = .working then some (s.leave p false) else none
  | .ctxDone p =>
    if (s.calls p).phase = .waiting ∧ s.cancelled = true then some (s.leave p false) else none
  | .readClosed p =>
    if (s.calls p).phase = .waiting ∧ (s.calls p).closed = true then some (s.leave p true) else none
  | .close p =>
    if (s.calls p).phase = .closing then
      some (s.put p { s.calls p with phase := .removing, closed := true })
    else none
  | .remove p =>
    match s.server, (s.calls p).phase with
    | .serving, .removing =>
      some { s.put p { s.calls p with phase := .done } with
        listeners := removeListener s.listeners p }
    | _, _ => none
  | .event e =>
    match s.server with
    | .serving => some { s with server := .sending e s.listeners, log := s.log ++ [e] }
    | _ => none
  | .send =>
    match s.server with
    | .sending e (p :: todo) =>
      if (s.calls p).phase = .waiting ∧ (s.calls p).closed = false then
        some { s.put p { s.calls p with
          phase := .working, received := (s.calls p).received ++ [e] } with
          server := .sending e todo }
      else none
    | _ => none
  | .sendPanics =>
    match s.server with
    | .sending e (p :: todo) =>
      if (s.calls p).closed = true then some { s with server := .sending e todo } else none
    | _ => none
  | .timeout =>
    match s.server with
    | .sending e (p :: todo) =>
      if (s.calls p).phase ≠ .waiting ∧ (s.calls p).closed = false then
        some { s.put p { s.calls p with missed := true } with server := .sending e todo }
      else none
    | _ => none
  | .sent =>
    match s.server with
    | .sending _ [] => some { s with server := .serving }
    | _ => none
  | .ctxDoneServer =>
    match s.server with
    | .serving =>
      if s.cancelled = true then some { s with server := .closing s.listeners } else none
    | _ => none
  | .closeListener =>
    match s.server with
    | .closing (p :: todo) =>
      some { s.put p { s.calls p with closed := true } with server := .closing todo }
    | _ => none
  | .closedListeners =>
    match s.server with
    | .closing [] => some { s with server := .returned }
    | _ => none

/-- The broadcaster before its first event. Reference: `lnclient/ldk/ldk_event_broadcaster.go:36
NewLDKEventBroadcaster`. -/
def newBroadcaster : State E := {}

end AlbyHub.Broadcaster
