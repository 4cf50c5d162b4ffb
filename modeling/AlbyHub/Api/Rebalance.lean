import AlbyHub.Apps.Service
import AlbyHub.Go.Float64
import AlbyHub.Interaction.Solo
import AlbyHub.Transactions.Runs

/-!
# The fee of a rebalance

A rebalance makes an invoice that is paid through the chosen channel, orders from a service an
invoice that makes the service pay it, and pays that one. `RebalanceChannel` bounds the service's
invoice from above only, and subtracts without a sign: the fee that it reports is the one that was
paid exactly when the service did not ask for less than it gave (`rebalance_fee_iff`).
-/

namespace AlbyHub

open Go Interaction

/-! ## The function -/

/-- Reference: `api/models.go:433 RebalanceChannelRequest`. -/
structure RebalanceChannelRequest where
  receiveThroughNodePubkey : String
  amountSat : Option Nat
  amountMsat : Option Nat

/-- Reference: `api/models.go:438 RebalanceChannelResponse`. -/
structure RebalanceChannelResponse where
  totalFeeSat : Nat
  totalFeeMsat : Nat
  deriving DecidableEq, Repr

/-- Reference: `api/rebalance.go:43 rspCreateOrderRequest`. -/
structure RspCreateOrderRequest where
  token : String
  payRequest : String
  payThroughThisPublicKey : String

/-- Reference: `api/rebalance.go:103 rspRebalanceCreateOrderResponse`. -/
structure RspRebalanceCreateOrderResponse where
  orderId : String
  payRequest : String

/-- What comes back from the service: the status code, and the body or the error of reading it.
Reference: Go `http.Response`. -/
structure HttpResponse where
  statusCode : Nat
  body : Except String String

/-- What surrounds the function: the JSON of the service's answer, whether the processor fuses a
multiplication with the addition that follows, and what a conversion gives for a number that an
`int64` does not hold. Reference: Go `json.Unmarshal`; the Go language, floating-point operators and
conversions. -/
structure RebalanceWorld extends World where
  unmarshalOrder : String → Except String RspRebalanceCreateOrderResponse
  fused : Bool
  outOfRange : ℚ → Int

/-- What the function does. Reference: `api/rebalance.go:20 RebalanceChannel`. -/
inductive RebalanceCmd where
  | getLNClient
  | createOrder (request : RspCreateOrderRequest)
  | publish (event : String)
  | service (c : Cmd)

/-- The answer to a command. Reference: the results of the calls of `RebalanceCmd`. -/
abbrev RebalanceCmd.Ans : RebalanceCmd → Type
  | .getLNClient => Bool
  | .createOrder _ => Except String HttpResponse
  | .publish _ => Unit
  | .service c => c.Ans

/-- A program of the API. Reference: none. -/
abbrev RebalanceProg := Prog RebalanceCmd RebalanceCmd.Ans

/-- A call of the transactions service. Reference: `api/rebalance.go:36 RebalanceChannel`. -/
def callService {α : Type} (p : Svc α) : RebalanceProg α := Prog.relabel RebalanceCmd.service p

/-- The nearest number that a `float64` holds; the numbers here are too small to overflow.
Reference: IEEE 754, binary64. -/
def float64 (q : ℚ) : ℚ := (parseFloat q).getD 0

/-- The most that the service may ask for. Reference: `api/rebalance.go:124 RebalanceChannel`. -/
def maxRebalanceMsat (W : RebalanceWorld) (amountSat : Nat) : Int :=
  let amount := float64 (float64 amountSat * 1000)
  let product := amount * float64 1.005
  let limit := float64 ((if W.fused then product else float64 product) + 1)
  if limit < 2 ^ 63 then ⌊limit⌋ else W.outOfRange limit

/-- The order of an invoice from the service. Reference: `api/rebalance.go:49 RebalanceChannel`. -/
def createOrder (W : RebalanceWorld) (request : RspCreateOrderRequest) :
    RebalanceProg (Except Err RspRebalanceCreateOrderResponse) := do
  match ← Prog.call (R := RebalanceCmd.Ans) (.createOrder request) with
  | .error e => return .error (.message e)
  | .ok res =>
    match res.body with
    | .error _ => return .error (.message "failed to read response body")
    | .ok body =>
      if res.statusCode ≠ 200 then
        return .error (.message
          ("rebalance create_order endpoint returned non-success code: " ++ body))
      else
        match W.unmarshalOrder body with
        | .error _ => return .error (.message
          ("failed to deserialize json from rebalance create order response: " ++ body))
        | .ok order => return .ok order

/-- Reference: `api/rebalance.go:26 RebalanceChannel`. -/
def RebalanceChannelRequest.sat (request : RebalanceChannelRequest) : Nat :=
  (ResolveToSat request.amountSat request.amountMsat none none).getD 0

/-- What the invoice for the chosen channel is made for. Reference: `api/rebalance.go:36
RebalanceChannel`. -/
def RebalanceChannelRequest.msat (request : RebalanceChannelRequest) : Nat :=
  uint64 (request.sat * 1000)

/-- What is reported. Reference: `api/rebalance.go:147 RebalanceChannel`. -/
def rebalanceFee (request : RebalanceChannelRequest) (paymentRequest : Bolt11)
    (payment : Transaction) : RebalanceChannelResponse :=
  let left := uint64 (uint64OfInt paymentRequest.mSatoshi + payment.feeMsat)
  let totalFeeMsat := uint64OfInt (left - request.msat)
  { totalFeeSat := totalFeeMsat / 1000, totalFeeMsat }

/-- The invoice of the order is paid, unless it is too expensive. Reference: `api/rebalance.go:118
RebalanceChannel`. -/
def payOrder (W : RebalanceWorld) (request : RebalanceChannelRequest)
    (order : RspRebalanceCreateOrderResponse) :
    RebalanceProg (Except Err (Bolt11 × Transaction)) :=
  match W.decodepay order.payRequest with
  | .error e => return .error (.message e)
  | .ok paymentRequest =>
    if maxRebalanceMsat W request.sat < paymentRequest.mSatoshi then
      return .error (.message "rebalance payment is more expensive than expected")
    else do
      let payMetadata := [("receive_through", Json.string request.receiveThroughNodePubkey),
        ("amount_sat", .number request.sat 1), ("order_id", .string order.orderId)]
      match ← callService (SendPaymentSync W.toWorld order.payRequest none (some payMetadata) none
        none) with
      | .error e => return .error e
      | .ok payment =>
        Prog.call (R := RebalanceCmd.Ans) (.publish "nwc_rebalance_succeeded")
        return .ok (paymentRequest, payment)

/-- The function up to the fee: the invoice of the service, and the settled payment of it.
Reference: `api/rebalance.go:20 RebalanceChannel`. -/
def rebalance (W : RebalanceWorld) (request : RebalanceChannelRequest) :
    RebalanceProg (Except Err (Bolt11 × Transaction)) := do
  if ← Prog.call (R := RebalanceCmd.Ans) .getLNClient then
    let receiveMetadata := [("receive_through", Json.string request.receiveThroughNodePubkey)]
    match ← callService (MakeInvoice W.toWorld request.msat
      ("Alby Hub Rebalance through " ++ request.receiveThroughNodePubkey) "" 0
      (some receiveMetadata) none none (some request.receiveThroughNodePubkey)) with
    | .error e => return .error e
    | .ok receiveInvoice =>
      let newRspCreateOrderRequest : RspCreateOrderRequest :=
        { token := "alby-hub"
          payRequest := receiveInvoice.paymentRequest
          payThroughThisPublicKey := request.receiveThroughNodePubkey }
      match ← createOrder W newRspCreateOrderRequest with
      | .error e => return .error e
      | .ok order => payOrder W request order
  else return .error (.message "LNClient not started")

/-- Reference: `api/rebalance.go:20 RebalanceChannel`. -/
def RebalanceChannel (W : RebalanceWorld) (request : RebalanceChannelRequest) :
    RebalanceProg (Except Err RebalanceChannelResponse) := do
  let paid ← rebalance W request
  return paid.map fun x => rebalanceFee request x.1 x.2

/-! ## The fee -/

/-- The reported fee is the difference between what has left the node, the amount of the service's
invoice and the fee of its payment, and what came back, the amount of the own invoice. Reference:
none. -/
structure FeeExact (request : RebalanceChannelRequest) (paymentRequest : Bolt11)
    (payment : Transaction) (response : RebalanceChannelResponse) : Prop where
  msat : (response.totalFeeMsat : Int) =
    paymentRequest.mSatoshi + payment.feeMsat - request.msat
  sat : (response.totalFeeSat : Int) =
    (paymentRequest.mSatoshi + payment.feeMsat - request.msat) / 1000

/-- What has left is no less than what came back, and the difference fits. Reference: none. -/
def FeeFits (request : RebalanceChannelRequest) (paymentRequest : Bolt11) (payment : Transaction) :
    Prop :=
  (request.msat : Int) ≤ paymentRequest.mSatoshi + payment.feeMsat ∧
    paymentRequest.mSatoshi + payment.feeMsat < request.msat + 2 ^ 64

/-- The difference is computed up to multiples of `2 ^ 64`. Reference: `api/rebalance.go:147
RebalanceChannel`. -/
theorem rebalanceFee_msat {request : RebalanceChannelRequest} {paymentRequest : Bolt11}
    {payment : Transaction} :
    ((rebalanceFee request paymentRequest payment).totalFeeMsat : Int) =
      (paymentRequest.mSatoshi + payment.feeMsat - request.msat) % 2 ^ 64 := by
  simp only [rebalanceFee, uint64OfInt, uint64]
  omega

theorem rebalanceFee_exact_iff {request : RebalanceChannelRequest} {paymentRequest : Bolt11}
    {payment : Transaction} :
    FeeExact request paymentRequest payment (rebalanceFee request paymentRequest payment) ↔
      FeeFits request paymentRequest payment := by
  have hmsat := @rebalanceFee_msat request paymentRequest payment
  have hsat : (rebalanceFee request paymentRequest payment).totalFeeSat =
    (rebalanceFee request paymentRequest payment).totalFeeMsat / 1000 := rfl
  unfold FeeFits
  constructor
  · intro h
    have hexact := h.msat
    omega
  · intro h
    constructor <;> omega

/-! ## The runs -/

section
variable {S E : Type} (exec : S → (c : RebalanceCmd) → E → Option (c.Ans × S))
variable (W : RebalanceWorld) (request : RebalanceChannelRequest)
variable (h : List (Call RebalanceCmd RebalanceCmd.Ans))

/-- What a run has done: the node was asked for an invoice of the amount, the service gave an order
with an invoice, and the transactions service has settled the payment of that. Reference: none. -/
structure Rebalanced (s s' : S) (paymentRequest : Bolt11) (payment : Transaction) : Prop where
  run : (rebalance W request).Traces exec s h (.ok (paymentRequest, payment)) s'
  made : ∃ description expiry tx,
    ⟨.service (.lnMakeInvoice (int64 request.msat) description "" expiry
      (some request.receiveThroughNodePubkey)), .ok tx⟩ ∈ h
  paid : ∃ newOrder body order metadata calls s₁ s₂,
    ⟨.createOrder newOrder, .ok ⟨200, .ok body⟩⟩ ∈ h ∧ W.unmarshalOrder body = .ok order ∧
      W.decodepay order.payRequest = .ok paymentRequest ∧
      (∀ call ∈ calls, ⟨.service call.cmd, call.answer⟩ ∈ h) ∧
      (SendPaymentSync W.toWorld order.payRequest none metadata none none).Traces
        (fun s c => exec s (.service c)) s₁ calls (.ok payment) s₂

end

section
variable {S E : Type} {exec : S → (c : RebalanceCmd) → E → Option (c.Ans × S)}
variable {W : RebalanceWorld} {request : RebalanceChannelRequest} {s s' : S}
variable {h : List (Call RebalanceCmd RebalanceCmd.Ans)}
variable {paymentRequest : Bolt11} {payment : Transaction}

theorem traces_callService {α : Type} {p : Svc α} {a : α}
    (ht : (callService p).Traces exec s h a s') :
    ∃ calls, (∀ call ∈ calls, ⟨.service call.cmd, call.answer⟩ ∈ h) ∧
      p.Traces (fun s c => exec s (.service c)) s calls a s' := by
  obtain ⟨calls, rfl, hcalls⟩ := Prog.Traces.of_relabel (fun _ _ _ => rfl) ht
  exact ⟨calls, fun call hmem => List.mem_map.2 ⟨call, hmem, rfl⟩, hcalls⟩

/-- An invoice that was made was asked of the node. Reference:
`transactions/transactions_service.go:196 MakeInvoice`. -/
theorem traces_makeInvoice {exec : S → (c : Cmd) → E → Option (c.Ans × S)} {W : World}
    {amountMsat expiry : Nat} {description descriptionHash : String} {metadata : Option Metadata}
    {throughNodePubkey : Option String} {calls : List (Call Cmd Cmd.Ans)} {row : Transaction}
    (ht : (MakeInvoice W amountMsat description descriptionHash expiry metadata none none
      throughNodePubkey).Traces exec s calls (.ok row) s') :
    ∃ tx, ⟨.lnMakeInvoice (int64 amountMsat) description descriptionHash (int64 expiry)
      throughNodePubkey, .ok tx⟩ ∈ calls := by
  unfold MakeInvoice at ht
  split at ht
  · cases ht.2.1
  split at ht
  · cases ht.2.1
  cases hmetadata : encodeMetadata W "invoice" metadata with
  | error e =>
    simp only [hmetadata] at ht
    cases ht.2.1
  | ok metadataBytes =>
    cases happ : overwriteAppId metadata none with
    | error e =>
      simp only [hmetadata, happ] at ht
      cases ht.2.1
    | ok appId =>
      simp only [hmetadata, happ] at ht
      obtain ⟨env, made, s₁, h', -, rfl, hk⟩ := Prog.traces_call_bind.1 ht
      cases made with
      | error e => cases hk.2.1
      | ok tx => exact ⟨tx, List.mem_cons_self⟩

/-- An order is the one that the service has given. Reference: `api/rebalance.go:49
RebalanceChannel`. -/
theorem traces_createOrder {newOrder : RspCreateOrderRequest}
    {order : RspRebalanceCreateOrderResponse}
    (ht : (createOrder W newOrder).Traces exec s h (.ok order) s') :
    ∃ body, ⟨.createOrder newOrder, .ok ⟨200, .ok body⟩⟩ ∈ h ∧
      W.unmarshalOrder body = .ok order := by
  obtain ⟨env, answer, s₁, h', -, rfl, hk⟩ := Prog.traces_call_bind.1 ht
  cases answer with
  | error e => cases hk.2.1
  | ok res =>
    obtain ⟨statusCode, read⟩ := res
    cases read with
    | error e => cases hk.2.1
    | ok body =>
      simp only at hk
      split at hk
      · cases hk.2.1
      · next hstatus =>
        obtain rfl : statusCode = 200 := not_not.1 hstatus
        cases hdecoded : W.unmarshalOrder body with
        | error e =>
          rw [hdecoded] at hk
          cases hk.2.1
        | ok decoded =>
          rw [hdecoded] at hk
          cases hk.2.1
          exact ⟨body, List.mem_cons_self, hdecoded⟩

/-- A payment of an order pays its invoice. Reference: `api/rebalance.go:118 RebalanceChannel`. -/
theorem traces_payOrder {order : RspRebalanceCreateOrderResponse}
    (ht : (payOrder W request order).Traces exec s h (.ok (paymentRequest, payment)) s') :
    ∃ metadata calls s₁ s₂, W.decodepay order.payRequest = .ok paymentRequest ∧
      (∀ call ∈ calls, ⟨.service call.cmd, call.answer⟩ ∈ h) ∧
      (SendPaymentSync W.toWorld order.payRequest none metadata none none).Traces
        (fun s c => exec s (.service c)) s₁ calls (.ok payment) s₂ := by
  unfold payOrder at ht
  cases hdecoded : W.decodepay order.payRequest with
  | error e =>
    rw [hdecoded] at ht
    cases ht.2.1
  | ok decoded =>
    rw [hdecoded] at ht
    simp only at ht
    split at ht
    · cases ht.2.1
    · obtain ⟨h₁, sent, s₁, h₂, rfl, hsend, hk⟩ := Prog.traces_bind.1 ht
      obtain ⟨calls, hmem, hcalls⟩ := traces_callService hsend
      cases sent with
      | error e => cases hk.2.1
      | ok row =>
        obtain ⟨env, _, s₂, h₃, -, -, hk⟩ := Prog.traces_call_bind.1 hk
        obtain ⟨-, hresult, -⟩ := hk
        cases hresult
        exact ⟨_, calls, s, s₁, rfl, fun call hcall =>
          List.mem_append_left _ (hmem call hcall), hcalls⟩

/-- A run up to the fee has made an invoice and paid the service's one. Reference:
`api/rebalance.go:20 RebalanceChannel`. -/
theorem traces_rebalance
    (ht : (rebalance W request).Traces exec s h (.ok (paymentRequest, payment)) s') :
    Rebalanced exec W request h s s' paymentRequest payment := by
  obtain ⟨env, there, s₁, h₁, -, rfl, hk⟩ := Prog.traces_call_bind.1 ht
  split at hk
  · obtain ⟨h₂, made, s₂, h₃, rfl, hmake, hk⟩ := Prog.traces_bind.1 hk
    obtain ⟨calls, hmem, hcalls⟩ := traces_callService hmake
    cases made with
    | error e => cases hk.2.1
    | ok receiveInvoice =>
      obtain ⟨tx, hasked⟩ := traces_makeInvoice hcalls
      obtain ⟨h₄, ordered, s₃, h₅, rfl, horder, hk⟩ := Prog.traces_bind.1 hk
      cases ordered with
      | error e => cases hk.2.1
      | ok order =>
        obtain ⟨body, hbody, hdecoded⟩ := traces_createOrder horder
        obtain ⟨metadata, paid, s₄, s₅, hinvoice, hpaid, hsend⟩ := traces_payOrder hk
        refine ⟨ht, ⟨_, _, tx, List.mem_cons_of_mem _ (List.mem_append_left _ (hmem _ hasked))⟩,
          _, body, order, metadata, paid, s₄, s₅,
          List.mem_cons_of_mem _ (List.mem_append_right _ (List.mem_append_left _ hbody)),
          hdecoded, hinvoice, fun call hcall => ?_, hsend⟩
        exact List.mem_cons_of_mem _ (List.mem_append_right _
          (List.mem_append_right _ (hpaid call hcall)))
  · cases hk.2.1

/-- A run up to the fee is followed by its report. Reference: `api/rebalance.go:147
RebalanceChannel`. -/
theorem Rebalanced.report (hr : Rebalanced exec W request h s s' paymentRequest payment) :
    (RebalanceChannel W request).Traces exec s h
      (.ok (rebalanceFee request paymentRequest payment)) s' :=
  Prog.traces_bind.2 ⟨h, .ok (paymentRequest, payment), s', [], (List.append_nil h).symm, hr.run,
    rfl, rfl, rfl⟩

/-- The fee is computed from the run before it. Reference: `api/rebalance.go:147
RebalanceChannel`. -/
theorem traces_rebalanceChannel {response : RebalanceChannelResponse}
    (ht : (RebalanceChannel W request).Traces exec s h (.ok response) s') :
    ∃ paymentRequest payment, Rebalanced exec W request h s s' paymentRequest payment ∧
      response = rebalanceFee request paymentRequest payment := by
  obtain ⟨h₁, paid, s₁, h₂, rfl, hpaid, hk⟩ := Prog.traces_bind.1 ht
  obtain ⟨rfl, hresponse, rfl⟩ := hk
  cases paid with
  | error e => cases hresponse
  | ok x =>
    cases hresponse
    rw [List.append_nil]
    exact ⟨x.1, x.2, traces_rebalance hpaid, rfl⟩

end

/-- Whatever the node, the database and the service answer: the fee that a rebalance reports is
exact precisely when the service's invoice and the fee of its payment are no less than the own
invoice. Reference: `api/rebalance.go:20 RebalanceChannel`. -/
theorem rebalance_fee_iff {S E : Type} (exec : S → (c : RebalanceCmd) → E → Option (c.Ans × S))
    (W : RebalanceWorld) (request : RebalanceChannelRequest) (s s' : S)
    (h : List (Call RebalanceCmd RebalanceCmd.Ans)) (response : RebalanceChannelResponse)
    (ht : (RebalanceChannel W request).Traces exec s h (.ok response) s') :
    ∃ paymentRequest payment, Rebalanced exec W request h s s' paymentRequest payment ∧
      (FeeExact request paymentRequest payment response ↔
        FeeFits request paymentRequest payment) := by
  obtain ⟨paymentRequest, payment, hrun, rfl⟩ := traces_rebalanceChannel ht
  exact ⟨paymentRequest, payment, hrun, rebalanceFee_exact_iff⟩

/-! ## A service that asks for too little -/

def demoOrderBody : String :=
  "\x7b\"order_id\":\"1\",\"pay_request\":\"" ++ mockInvoice ++ "\"\x7d"

/-- The service orders the payment of an invoice of 123 sat. Reference: none. -/
def demoRebalanceWorld : RebalanceWorld := { demo with
  decodepay := fun s =>
    if s = mockInvoice then .ok ⟨123000, mockHash, "te", "", 1734375307, 3153600000⟩
    else .error "invalid bech32 string"
  unmarshalOrder := fun body =>
    if body = demoOrderBody then .ok ⟨"1", mockInvoice⟩ else .error "unexpected end of JSON input"
  fused := false
  outOfRange := fun _ => 0 }

/-- The commands while the LN client is started. Reference: the calls of `RebalanceCmd`. -/
def execRebalance (W : World) (s : Hub) : (c : RebalanceCmd) → Env → Option (c.Ans × Hub)
  | .getLNClient, _ => some (true, s)
  | .createOrder _, _ => some (.ok ⟨200, .ok demoOrderBody⟩, s)
  | .publish _, _ => some ((), s)
  | .service c, env => exec W s c env

/-- The node makes an invoice, and pays for half a satoshi. Reference: none. -/
def demoRebalanceEnv : RebalanceCmd → Env
  | .service (.lnMakeInvoice amountMsat _ _ _ _) =>
    { transaction := .ok { invoice := "lnbc", paymentHash := wrappedHash, amountMsat } }
  | .service (.lnSendPaymentSync _ _) => { payInvoice := .ok ⟨wrappedPreimage, 500⟩ }
  | _ => { now := Time.unix 1734375400 }

def demoRebalanceHub : Hub := ⟨demoDB Table.empty, []⟩

def demoRebalanceRequest (amountSat : Nat) : RebalanceChannelRequest :=
  ⟨"123pubkey", some amountSat, none⟩

theorem demoRebalance_decodes : demoRebalanceWorld.decodepay mockInvoice =
    .ok ⟨123000, mockHash, "te", "", 1734375307, 3153600000⟩ := by
  simp only [demoRebalanceWorld, if_true]

theorem demoRebalance_ordered :
    demoRebalanceWorld.unmarshalOrder demoOrderBody = .ok ⟨"1", mockInvoice⟩ := by
  simp only [demoRebalanceWorld, if_true]

/-- The invoice is not too expensive. Reference: `api/rebalance.go:124 RebalanceChannel`. -/
theorem demoRebalance_cheap (n : Nat) (hn : n = 123 ∨ n = 200) :
    ¬ maxRebalanceMsat demoRebalanceWorld n < 123000 := by
  rcases hn with rfl | rfl
  · decide +kernel
  · decide +kernel

/-- The two calls of the transactions service. Reference: none. -/
theorem demoRebalance_calls (n : Nat) (hn : n = 123 ∨ n = 200) :
    (((MakeInvoice demoRebalanceWorld.toWorld (demoRebalanceRequest n).msat
      ("Alby Hub Rebalance through " ++ "123pubkey") "" 0
      (some [("receive_through", Json.string "123pubkey")]) none none (some "123pubkey")).play
        (exec demoRebalanceWorld.toWorld) (fun _ s => s) (fun c => demoRebalanceEnv (.service c))
        demoRebalanceHub).bind fun made =>
      ((SendPaymentSync demoRebalanceWorld.toWorld mockInvoice none
        (some [("receive_through", Json.string "123pubkey"), ("amount_sat", .number n 1),
          ("order_id", .string "1")]) none none).play
        (exec demoRebalanceWorld.toWorld) (fun _ s => s) (fun c => demoRebalanceEnv (.service c))
        made.2).map fun sent => (made.1.toBool, sent.1.toOption.map (·.feeMsat))) =
      some (true, some 500) := by
  have hlower : toLower demoRebalanceWorld.lowerNonAscii mockInvoice = mockInvoice :=
    toLower_mockInvoice
  rw [SendPaymentSync, hlower]
  simp only [encodeMetadata, demoRebalance_decodes]
  rcases hn with rfl | rfl
  · decide +kernel
  · decide +kernel

theorem play_callService {α : Type} {p : Svc α} {s : Hub} :
    (callService p).play (execRebalance demoRebalanceWorld.toWorld) (fun _ s => s) demoRebalanceEnv
      s = p.play (exec demoRebalanceWorld.toWorld) (fun _ s => s)
        (fun c => demoRebalanceEnv (.service c)) s :=
  Prog.play_relabel fun _ _ _ => rfl

/-- An order is given, and its invoice is paid. Reference: none. -/
theorem demoRebalance_order {newOrder : RspCreateOrderRequest} {s : Hub} :
    (createOrder demoRebalanceWorld newOrder).play (execRebalance demoRebalanceWorld.toWorld)
      (fun _ s => s) demoRebalanceEnv s = some (.ok ⟨"1", mockInvoice⟩, s) := by
  rw [createOrder, Prog.play_call_bind, execRebalance, Option.bind_some]
  simp only [demoRebalance_ordered]
  rfl

/-- The run up to the fee. Reference: none. -/
theorem demoRebalance_play (n : Nat) (hn : n = 123 ∨ n = 200) : ∃ payment s',
    (rebalance demoRebalanceWorld (demoRebalanceRequest n)).play
      (execRebalance demoRebalanceWorld.toWorld) (fun _ s => s) demoRebalanceEnv demoRebalanceHub =
        some (.ok (⟨123000, mockHash, "te", "", 1734375307, 3153600000⟩, payment), s') ∧
      payment.feeMsat = 500 := by
  obtain ⟨⟨made, s₁⟩, hmake, hrest⟩ := Option.bind_eq_some_iff.1 (demoRebalance_calls n hn)
  obtain ⟨⟨sent, s₂⟩, hsend, hresult⟩ := Option.map_eq_some_iff.1 hrest
  rcases made with e | receiveInvoice
  · cases hresult
  rcases sent with e | payment
  · cases hresult
  refine ⟨payment, s₂, ?_, ?_⟩
  · have hpay : (payOrder demoRebalanceWorld (demoRebalanceRequest n) ⟨"1", mockInvoice⟩).play
        (execRebalance demoRebalanceWorld.toWorld) (fun _ s => s) demoRebalanceEnv s₁ =
          some (.ok (⟨123000, mockHash, "te", "", 1734375307, 3153600000⟩, payment), s₂) := by
      unfold payOrder
      simp only [demoRebalance_decodes]
      have hcheap : ¬ maxRebalanceMsat demoRebalanceWorld (demoRebalanceRequest n).sat < 123000 :=
        demoRebalance_cheap n hn
      rw [if_neg hcheap, Prog.play_bind]
      exact congrArg (Option.bind · _) (play_callService.trans hsend)
    rw [rebalance, Prog.play_call_bind, execRebalance, Option.bind_some, if_pos rfl, Prog.play_bind]
    refine (congrArg (Option.bind · _) (play_callService.trans hmake)).trans ?_
    rw [Option.bind_some]
    simp only
    rw [Prog.play_bind, demoRebalance_order, Option.bind_some]
    exact hpay
  · have hfee := (Prod.mk.inj hresult).2
    exact Option.some.inj hfee

theorem rebalance_fee_iff_123 : ∃ h response s',
    (RebalanceChannel demoRebalanceWorld (demoRebalanceRequest 123)).Traces
        (execRebalance demoRebalanceWorld.toWorld) demoRebalanceHub h (.ok response) s' ∧
      ∃ paymentRequest payment, Rebalanced (execRebalance demoRebalanceWorld.toWorld)
          demoRebalanceWorld (demoRebalanceRequest 123) h demoRebalanceHub s' paymentRequest
          payment ∧
        (FeeExact (demoRebalanceRequest 123) paymentRequest payment response ↔
          FeeFits (demoRebalanceRequest 123) paymentRequest payment) := by
  obtain ⟨payment, s', hplay, -⟩ := demoRebalance_play 123 (.inl rfl)
  obtain ⟨h, ht, -⟩ := Prog.Traces.of_play hplay
  have hrun := (traces_rebalance ht).report
  exact ⟨h, _, s', hrun, rebalance_fee_iff (execRebalance demoRebalanceWorld.toWorld)
    demoRebalanceWorld (demoRebalanceRequest 123) demoRebalanceHub s' h _ hrun⟩

/-- With an invoice of 123 sat for a request of 200 sat, the fee is below zero. Reference: none. -/
theorem rebalance_fee_wraps : ¬ ∀ {S E : Type}
    (exec : S → (c : RebalanceCmd) → E → Option (c.Ans × S)) (W : RebalanceWorld)
    (request : RebalanceChannelRequest) (s s' : S) (h : List (Call RebalanceCmd RebalanceCmd.Ans))
    (response : RebalanceChannelResponse),
    (RebalanceChannel W request).Traces exec s h (.ok response) s' →
      ∃ paymentRequest payment, Rebalanced exec W request h s s' paymentRequest payment ∧
        FeeExact request paymentRequest payment response := by
  intro hall
  obtain ⟨payment, s', hplay, hfee⟩ := demoRebalance_play 200 (.inr rfl)
  obtain ⟨h, ht, -⟩ := Prog.Traces.of_play hplay
  have hrun := (traces_rebalance ht).report
  obtain ⟨paymentRequest', payment', hr, hexact⟩ := hall _ _ _ _ _ _ _ hrun
  cases hr.run.result_eq ht
  obtain ⟨hfits, -⟩ := rebalanceFee_exact_iff.1 hexact
  rw [hfee] at hfits
  exact absurd hfits (by decide)

end AlbyHub
