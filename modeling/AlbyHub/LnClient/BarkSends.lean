import AlbyHub.Go.Numbers
import AlbyHub.Interaction.Machine
import Mathlib.Logic.Function.Basic

/-!
# The results of the Bark sends

A call registers a channel under the payment hash, starts its payment and waits for a result. One
goroutine handles the notifications of the wallet: it takes the channel that is registered under the
hash of the movement and sends the result on it, or it publishes an event where no channel is.
Results and events carry the attempt whose movement they are about, which the code does not know.
-/

namespace AlbyHub.BarkSends

open Go Interaction

/-! ## What a movement means -/

/-- The fields of a movement that are read. Reference: bark-go `Movement`. -/
structure Movement where
  status : String
  paymentHash : Option String
  offchainFeeSats : Nat
  deriving DecidableEq, Repr

/-- The state of a send. Reference: bark-go `LightningSendStatus`. -/
inductive LightningSendStatus where
  | paid (preimage : String)
  | other (kind : String)
  deriving DecidableEq, Repr

/-- Reference: `lnclient/bark/bark.go:80 sendResult`. -/
structure SendResult where
  preimage : String := ""
  feeMsat : Nat := 0
  err : Option String := none
  deriving DecidableEq, Repr

/-- The events about a send; of the time that the payment was settled at is nothing kept. Reference:
`lnclient/bark/bark.go:313 handleLightningSendMovement`, `:342 handleLightningSendMovement`. -/
inductive SendEvent where
  | paymentFailed (paymentHash reason : String)
  | paymentSent (paymentHash preimage : String) (feesPaidMsat : Int)
  deriving DecidableEq, Repr

/-- Reference: `lnclient/models.go:187 PayInvoiceResponse`. -/
structure PayInvoiceResponse where
  preimage : String
  feeMsat : Nat
  deriving DecidableEq, Repr

/-- Reference: `lnclient/bark/bark.go:33 movementStatusPending`. -/
def movementStatusPending : String := "pending"

/-- Reference: `lnclient/bark/bark.go:36 movementStatusSuccessful`. -/
def movementStatusSuccessful : String := "successful"

/-- Reference: `lnclient/bark/bark.go:385 paymentHashFromMovement`. -/
def paymentHashFromMovement (movement : Movement) : Option String :=
  match movement.paymentHash with
  | none => none
  | some paymentHash => if paymentHash = "" then none else some paymentHash

/-- Reference: `lnclient/bark/bark.go:358 getSettledSendPreimage`. -/
def getSettledSendPreimage : Except String LightningSendStatus → Except String String
  | .error e => .error ("failed to look up bark lightning send state: " ++ e)
  | .ok (.other kind) => .error ("send is in state " ++ kind ++ ", expected settled")
  | .ok (.paid preimage) =>
    if preimage = "" then .error "settled send has an empty preimage" else .ok preimage

/-- The result that a movement is delivered with, and the event that is published where there is no
waiter. `state` is what the wallet answers about the send. Reference: `lnclient/bark/bark.go:305
handleLightningSendMovement`. -/
def sendOutcome (movement : Movement) (paymentHash : String)
    (state : Except String LightningSendStatus) :
    SendResult × Option SendEvent :=
  if movement.status ≠ movementStatusSuccessful then
    let reason := "bark lightning send " ++ movement.status
    ({ err := some reason }, some (.paymentFailed paymentHash reason))
  else
    match getSettledSendPreimage state with
    | .error e => ({ err := some ("bark lightning send completed without a preimage: " ++ e) },
      none)
    | .ok preimage =>
      let feeMsat := uint64 (movement.offchainFeeSats * 1000)
      ({ preimage, feeMsat }, some (.paymentSent paymentHash preimage (int64 feeMsat)))

/-! ## The machine -/

/-- Where a call is. A call that finds a channel registered under its hash is refused. Reference:
`lnclient/bark/bark.go:487 SendPaymentSync`. -/
inductive Phase where
  | idle
  | paying
  | waiting
  | clearing
  | done
  deriving DecidableEq, Repr

/-- A result, with the attempt whose movement it is about. Reference: none. -/
structure Sent where
  attempt : Nat
  result : SendResult
  deriving DecidableEq, Repr

/-- What a call returns. Reference: `lnclient/bark/bark.go:487 SendPaymentSync`. -/
inductive Returned where
  | alreadyInFlight
  | notPaid (e : String)
  | sent (sent : Sent)
  deriving DecidableEq, Repr

/-- Reference: `lnclient/bark/bark.go:502`, `:508`, `:512 SendPaymentSync`. -/
def Returned.response (paymentHash : String) : Returned → Except String PayInvoiceResponse
  | .alreadyInFlight =>
    .error ("a bark lightning send is already in flight for payment hash " ++ paymentHash)
  | .notPaid e => .error ("bark PayLightningInvoice failed: " ++ e)
  | .sent ⟨_, res⟩ =>
    match res.err with
    | some e => .error e
    | none => .ok { preimage := res.preimage, feeMsat := res.feeMsat }

/-- An attempt to pay an invoice: the call, what is in its channel, what it returns, and whether a
notification about the end of its movement was handled. Reference: `lnclient/bark/bark.go:487
SendPaymentSync`. -/
structure Attempt where
  paymentHash : String := ""
  phase : Phase := .idle
  resultCh : Option Sent := none
  returned : Option Returned := none
  handled : Bool := false
  deriving DecidableEq

/-- The state: the attempts, named by the order in which they were made; the map from a payment hash
to the channel of an attempt; the result that the goroutine is about to send, and on which channel;
the events that were published, each with the attempt that it is about. Reference:
`lnclient/bark/bark.go:67 BarkService`. -/
structure State where
  attempts : Nat → Attempt := fun _ => {}
  made : Nat := 0
  inflightSends : String → Option Nat := fun _ => none
  delivering : Option (Nat × Sent) := none
  published : List (Nat × SendEvent) := []

/-- What can happen: an attempt before the hub was restarted, a call, what `PayLightningInvoice`
answers, a call that receives its result or runs its deferred function, a notification about the
movement of an attempt, and the send on the channel. Reference: `lnclient/bark/bark.go:293
handleLightningSendMovement`, `:487 SendPaymentSync`. -/
inductive Action where
  | earlier (paymentHash : String)
  | call (paymentHash : String)
  | pay (a : Nat) (err : Option String)
  | receive (a : Nat)
  | clear (a : Nat)
  | notify (a : Nat) (movement : Movement) (state : Except String LightningSendStatus)
  | deliver

/-- The state with another attempt. Reference: none. -/
def State.put (s : State) (a : Nat) (attempt : Attempt) : State :=
  { s with attempts := Function.update s.attempts a attempt }

/-- The map without a hash. Reference: `lnclient/bark/bark.go:532 clearInflightSend`, `:538
takeInflightSend`. -/
def State.delete (s : State) (paymentHash : String) : State :=
  { s with inflightSends := Function.update s.inflightSends paymentHash none }

/-- A new attempt. Reference: none. -/
def State.make (s : State) (attempt : Attempt) : State :=
  { s.put s.made attempt with made := s.made + 1 }

/-- The channel is taken under the lock, or the event is published. Reference:
`lnclient/bark/bark.go:375 deliverSendResult`. -/
def State.deliverSendResult (s : State) (a : Nat) (paymentHash : String)
    (outcome : SendResult × Option SendEvent) : State :=
  match s.inflightSends paymentHash with
  | some b => { s.delete paymentHash with delivering := some (b, ⟨a, outcome.1⟩) }
  | none =>
    match outcome.2 with
    | some event => { s with published := s.published ++ [(a, event)] }
    | none => s

/-- Reference: `lnclient/bark/bark.go:293 handleLightningSendMovement`. -/
def State.handleLightningSendMovement (s : State) (a : Nat) (movement : Movement)
    (state : Except String LightningSendStatus) : State :=
  if movement.status = movementStatusPending then s else
  let s := s.put a { s.attempts a with handled := true }
  match paymentHashFromMovement movement with
  | none => s
  | some paymentHash => s.deliverSendResult a paymentHash (sendOutcome movement paymentHash state)

/-- One step. The wallet notifies about an attempt that it was asked to pay, at any time and as
often as it likes, and a movement carries the hash of its attempt if any. Reference:
`lnclient/bark/bark.go:293 handleLightningSendMovement`, `:487 SendPaymentSync`. -/
def barkStep (s : State) : Action → Option State
  | .earlier paymentHash => some (s.make { paymentHash, phase := .done })
  | .call paymentHash =>
    match s.inflightSends paymentHash with
    | some _ => some (s.make { paymentHash, phase := .done, returned := some .alreadyInFlight })
    | none =>
      some { s.make { paymentHash, phase := .paying } with
        inflightSends := Function.update s.inflightSends paymentHash (some s.made) }
  | .pay a err =>
    if (s.attempts a).phase = .paying then
      match err with
      | none => some (s.put a { s.attempts a with phase := .waiting })
      | some e =>
        some (s.put a { s.attempts a with phase := .clearing, returned := some (.notPaid e) })
    else none
  | .receive a =>
    match (s.attempts a).phase, (s.attempts a).resultCh with
    | .waiting, some sent =>
      some (s.put a { s.attempts a with
        phase := .clearing, resultCh := none, returned := some (.sent sent) })
    | _, _ => none
  | .clear a =>
    if (s.attempts a).phase = .clearing then
      some ((s.put a { s.attempts a with phase := .done }).delete (s.attempts a).paymentHash)
    else none
  | .notify a movement state =>
    if s.delivering = none ∧ a < s.made ∧ (s.attempts a).returned ≠ some .alreadyInFlight ∧
        (movement.paymentHash = none ∨ movement.paymentHash = some (s.attempts a).paymentHash) then
      some (s.handleLightningSendMovement a movement state)
    else none
  | .deliver =>
    match s.delivering with
    | none => none
    | some (b, sent) =>
      if (s.attempts b).resultCh = none then
        some { s.put b { s.attempts b with resultCh := some sent } with delivering := none }
      else none

/-- The service before its first send. Reference: `lnclient/bark/bark.go:102 NewBarkService`. -/
def newBarkService : State := {}

end AlbyHub.BarkSends
