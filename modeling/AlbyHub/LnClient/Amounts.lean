import AlbyHub.LnClient.Payments
import AlbyHub.Transactions.Discipline
import AlbyHub.Transactions.Runs

/-!
# The amount that is recorded and the amount that is paid

`SendPaymentSync` of the service takes the caller's amount only for an invoice without one, checks
it and records it. The LN clients resolve the amount again, and take the caller's in any case. Over
every run, the node is asked to pay what was recorded exactly when the caller gives no other amount
than the invoice's (`lnClient_pays_recorded`).
-/

namespace AlbyHub

open Go Interaction

/-- The clients that pay an invoice of any amount. Reference: `lnclient/ldk/ldk.go`,
`lnclient/lnd/lnd.go`. -/
inductive Backend where
  | ldk
  | lnd
  deriving DecidableEq, Repr

/-- What the client asks its node to pay. Reference: `lnclient/ldk/ldk.go:583`,
`lnclient/lnd/lnd.go:435 SendPaymentSync`. -/
def Backend.payment (W : World) : Backend → String → Option Nat → Except String NodePayment
  | .ldk => LDKService.payment W
  | .lnd => LNDService.payment W

/-- The node pays what the row says, at no more fees than are reserved, and so takes no more than
the row charges. Reference: none. -/
def NodePayment.Matches (p : NodePayment) (paymentRequest : Bolt11) (row : Transaction) : Prop :=
  p.pays paymentRequest = row.amountMsat ∧ p.feeLimitMsat ≤ row.feeReserveMsat ∧
    p.pays paymentRequest + p.feeLimitMsat ≤ row.amountMsat + row.feeReserveMsat

instance (p : NodePayment) (paymentRequest : Bolt11) (row : Transaction) :
    Decidable (p.Matches paymentRequest row) := inferInstanceAs (Decidable (_ ∧ _))

/-- The client asks its node for a payment that matches the row. Reference: none. -/
def Backend.PaysRecorded (W : World) (backend : Backend) (row : Transaction) (payReq : String)
    (amountMsat : Option Nat) : Bool :=
  match W.decodepay payReq, backend.payment W payReq amountMsat with
  | .ok paymentRequest, .ok p => p.Matches paymentRequest row
  | _, _ => false

/-- The caller gives no other amount than the invoice's; to LND, 0 is no amount. Reference: none. -/
def Backend.Agrees (paymentRequest : Bolt11) (amountMsat : Option Nat) : Backend → Prop
  | .ldk => ∀ a, amountMsat = some a →
    paymentRequest.mSatoshi = 0 ∨ a = uint64OfInt paymentRequest.mSatoshi
  | .lnd => ∀ a, amountMsat = some a →
    paymentRequest.mSatoshi = 0 ∨ a = uint64OfInt paymentRequest.mSatoshi ∨ a = 0

/-- The row that `SendPaymentSync` recorded: its amount is the checked one, and its reserve is that
amount's. Reference: `transactions/transactions_service.go:387 SendPaymentSync`. -/
structure SendPaymentArgs.Recorded (W : World) (a : SendPaymentArgs) (row : Transaction) :
    Prop where
  amount : row.amountMsat = a.paymentAmountMsat
  reserve : row.feeReserveMsat = CalculateFeeReserveMsat a.paymentAmountMsat
  storable : row.amountMsat < 2 ^ 63 ∧ row.feeReserveMsat < 2 ^ 63
  checked : ∃ env db, (validateCanPay W env db a.appId row.amountMsat a.paymentRequest.description
    a.selfPayment).1 = .ok ()

section
variable {W : World} {paymentRequest : Bolt11} {amountMsat : Option Nat} {row : Transaction}
variable {payReq : String}

/-- The reserve is at least 10 sat. Reference: `transactions/transactions_service.go:1215
CalculateFeeReserveMsat`. -/
theorem reserve_zero_le (n : Nat) : CalculateFeeReserveMsat 0 ≤ CalculateFeeReserveMsat n := by
  have hzero : CalculateFeeReserveMsat 0 = 10000 := by decide
  rw [hzero]
  exact le_max_right _ _

/-- A payment of the recorded amount with the recorded reserve. Reference: none. -/
theorem NodePayment.matches_of_amount {p : NodePayment}
    (hamount : p.pays paymentRequest = row.amountMsat)
    (hfee : p.feeLimitMsat ≤ row.feeReserveMsat) :
    p.Matches paymentRequest row :=
  ⟨hamount, hfee, by omega⟩

theorem ldk_matches (hdec : W.decodepay payReq = .ok paymentRequest)
    (hamount : row.amountMsat = paymentAmount paymentRequest amountMsat)
    (hreserve : row.feeReserveMsat = CalculateFeeReserveMsat row.amountMsat) :
    (∃ p, LDKService.payment W payReq amountMsat = .ok p ∧ p.Matches paymentRequest row) ↔
      Backend.ldk.Agrees paymentRequest amountMsat := by
  simp only [LDKService.payment, hdec, Except.ok.injEq, exists_eq_left']
  cases amountMsat with
  | none =>
    refine ⟨fun _ _ ha => (nomatch ha), fun _ => ?_⟩
    refine NodePayment.matches_of_amount ?_ ?_
    · rw [hamount]; rfl
    · have hclient : clientAmount paymentRequest none = row.amountMsat := hamount.symm
      exact Int.le_of_eq (congrArg Int.ofNat ((congrArg _ hclient).trans hreserve.symm))
  | some a =>
    constructor
    · intro hm _ ha
      cases ha
      by_cases hzero : paymentRequest.mSatoshi = 0
      · exact .inl hzero
      · have hpays : (a : Int) = row.amountMsat := hm.1
        rw [hamount, paymentAmount, if_neg hzero] at hpays
        exact .inr (Int.ofNat.inj hpays)
    · intro hagree
      have heq : row.amountMsat = a := by
        rw [hamount, paymentAmount]
        split
        · rfl
        · next hzero => exact ((hagree a rfl).resolve_left hzero).symm
      refine NodePayment.matches_of_amount ?_ ?_
      · rw [heq]; rfl
      · have hclient : clientAmount paymentRequest (some a) = row.amountMsat := heq.symm
        exact Int.le_of_eq (congrArg Int.ofNat ((congrArg _ hclient).trans hreserve.symm))

/-- The sign of an amount on its way to LND. Reference: `lnclient/lnd/lnd.go:457`. -/
theorem int64_eq_natCast {a n : Nat} (ha : a < 2 ^ 64) (hn : n < 2 ^ 63) :
    int64 a = (n : Int) ↔ a = n := by
  unfold int64
  rw [Nat.mod_eq_of_lt ha]
  split <;> omega

theorem lnd_matches (hdec : W.decodepay payReq = .ok paymentRequest)
    (hamount : row.amountMsat = paymentAmount paymentRequest amountMsat)
    (hreserve : row.feeReserveMsat = CalculateFeeReserveMsat row.amountMsat)
    (hstore : row.amountMsat < 2 ^ 63 ∧ row.feeReserveMsat < 2 ^ 63)
    (hu : ∀ a, amountMsat = some a → a < 2 ^ 64) :
    (∃ p, LNDService.payment W payReq amountMsat = .ok p ∧ p.Matches paymentRequest row) ↔
      Backend.lnd.Agrees paymentRequest amountMsat := by
  -- the limit that the client computes from the recorded amount is the reserve
  have hlimit : int64 (CalculateFeeReserveMsat row.amountMsat) = row.feeReserveMsat := by
    rw [← hreserve, int64_of_lt hstore.2]
  simp only [LNDService.payment, hdec, Except.ok.injEq, exists_eq_left']
  cases amountMsat with
  | none =>
    refine ⟨fun _ _ ha => (nomatch ha), fun _ => ?_⟩
    refine NodePayment.matches_of_amount ?_ ?_
    · rw [hamount]; rfl
    · have hclient : clientAmount paymentRequest none = row.amountMsat := hamount.symm
      rw [← hclient] at hlimit
      exact Int.le_of_eq hlimit
  | some a =>
    have ha := hu a rfl
    have hzero : int64 a = 0 ↔ a = 0 := int64_eq_natCast ha (Nat.two_pow_pos 63)
    by_cases h0 : a = 0
    · subst h0
      have heq : row.amountMsat = uint64OfInt paymentRequest.mSatoshi := by
        rw [hamount, paymentAmount]
        split
        · next hm => rw [hm]; rfl
        · rfl
      refine ⟨fun _ a ha => .inr (.inr (Option.some.inj ha).symm), fun _ => ?_⟩
      refine NodePayment.matches_of_amount ?_ ?_
      · simp only [hzero.2 rfl, if_true, NodePayment.pays, Option.getD_none, heq]
      · have hle := reserve_zero_le row.amountMsat
        have hnow : int64 (CalculateFeeReserveMsat 0) = CalculateFeeReserveMsat 0 := by decide
        simp only [clientAmount, Option.getD_some, hnow]
        omega
    · simp only [mt hzero.1 h0, if_false]
      constructor
      · intro hm _ ha'
        cases ha'
        by_cases hm0 : paymentRequest.mSatoshi = 0
        · exact .inl hm0
        · have hpays : int64 a = row.amountMsat := hm.1
          rw [int64_eq_natCast ha hstore.1, hamount, paymentAmount, if_neg hm0] at hpays
          exact .inr (.inl hpays)
      · intro hagree
        have heq : row.amountMsat = a := by
          rw [hamount, paymentAmount]
          split
          · rfl
          · next hm0 =>
            exact (((hagree a rfl).resolve_left hm0).resolve_right h0).symm
        refine NodePayment.matches_of_amount ?_ ?_
        · exact (int64_eq_natCast ha hstore.1).2 heq.symm
        · have hclient : clientAmount paymentRequest (some a) = row.amountMsat := heq.symm
          rw [← hclient] at hlimit
          exact Int.le_of_eq hlimit

end

/-- A payment is asked for with the caller's amount, once its row is there. Reference:
`transactions/transactions_service.go:439 SendPaymentSync`. -/
def AsksFor (W : World) (amountMsat : Option Nat) (h : History) : Cmd → Prop
  | .lnSendPaymentSync payReq amountMsat' => amountMsat' = amountMsat ∧ ∃ a row,
    Did h (.sendPaymentTx a) (.ok row) ∧ a.payReq = payReq ∧
      W.decodepay payReq = .ok a.paymentRequest ∧
      a.paymentAmountMsat = paymentAmount a.paymentRequest amountMsat
  | _ => True

/-- The discipline of the operations: only `SendPaymentSync` is of interest. Reference: none. -/
def Op.AsksFor (W : World) : Op → History → Cmd → Prop
  | .sendPaymentSync _ amountMsat _ _ _ => AlbyHub.AsksFor W amountMsat
  | _ => fun _ _ => True

section
variable {W : World} {amountMsat : Option Nat} {h : History}

theorem asksFor_lenient : Lenient (AsksFor W amountMsat) where
  read h c _ hp := by
    cases c with
    | lnSendPaymentSync => cases hp
    | _ => trivial
  publish _ _ _ _ _ := trivial

theorem sendPaymentSync_asksFor {payReq : String} {metadata : Option Metadata}
    {appId requestEventId : Option Nat} :
    Follows (AsksFor W amountMsat) (fun _ _ => True) h
      (SendPaymentSync W payReq amountMsat metadata appId requestEventId) := by
  refine follows_sendPaymentSync asksFor_lenient (fun _ _ _ => trivial) (fun _ _ _ _ => trivial)
    fun h' a row _ ha => ?_
  have hfinish : ∀ {h : History} {r : Except Err PayInvoiceResponse},
      Follows (AsksFor W amountMsat) (fun _ _ => True) h (finishPayment row a.selfPayment r) :=
    follows_finishPayment asksFor_lenient (fun _ => trivial) fun _ _ _ => trivial
  unfold SendPaymentSync.pay
  split
  · exact (follows_interceptSelfPayment asksFor_lenient (fun _ _ _ => trivial) (fun _ _ _ =>
      trivial)
      fun _ _ _ _ _ _ _ _ => trivial).bind fun _ _ _ _ => hfinish
  · exact .call ⟨rfl, a, row, .last, rfl, ha.decoded, ha.amount⟩ fun _ => hfinish

theorem body_asksFor (W : World) (op : Op) :
    Follows (op.AsksFor W) (fun _ _ => True) [] (body W op) := by
  cases op with
  | sendPaymentSync => exact sendPaymentSync_asksFor.bind fun _ _ _ _ => trivial
  | _ => exact follows_any

/-- What is known of an inserted row: that it was recorded as it was checked. Reference: none. -/
def RecordedCall (W : World) (call : Call Cmd Cmd.Ans) : Prop :=
  ∀ a row, call = ⟨.sendPaymentTx a, .ok row⟩ → a.Recorded W row

theorem exec_recorded {s s' : Hub} {env : Env} {c : Cmd} {r : c.Ans}
    (hx : exec W s c env = some (r, s')) : RecordedCall W ⟨c, r⟩ := by
  intro a row heq
  cases heq
  obtain ⟨db, hb, rfl⟩ := Hub.transaction_ok hx
  obtain ⟨-, hcheck, hstore, rfl, -⟩ := sendPaymentTx_ok hb
  exact ⟨rfl, rfl, ⟨hstore.1, hstore.2.2⟩, env, s.db, hcheck⟩

theorem recorded_sound (W : World) (allowed : Pool → PoolLabel → Prop) :
    Sound (exec W) (body W) allowed (Op.AsksFor W) (fun _ _ _ => True) (fun _ _ _ _ _ => True)
      (fun _ => True) (fun _ call _ => RecordedCall W call) where
  body := body_asksFor W
  obeys _ _ _ _ _ _ _ _ _ := trivial
  step _ _ _ _ _ _ _ _ _ _ _ hx := ⟨trivial, exec_recorded hx, fun _ _ h => h⟩

end

/-- The amount that the caller of `SendPaymentSync` gives. Reference:
`transactions/transactions_service.go:301 SendPaymentSync`. -/
def Op.callerAmount : Op → Option (Option Nat)
  | .sendPaymentSync _ amountMsat _ _ _ => some amountMsat
  | _ => none

/-- What the LN client was asked to pay. Reference: `transactions/transactions_service.go:439
SendPaymentSync`. -/
def askedPayment : Call Cmd Cmd.Ans → Option (String × Option Nat)
  | ⟨.lnSendPaymentSync payReq amountMsat, _⟩ => some (payReq, amountMsat)
  | _ => none

/-- Whenever `SendPaymentSync` reaches the LN client, it has checked and recorded the amount of a
row, and the node is asked to pay that amount, at fees within the reserve, exactly when the caller
gives no other amount than the invoice's. Reference: `transactions/transactions_service.go:301
SendPaymentSync`, `lnclient/ldk/ldk.go:583`, `lnclient/lnd/lnd.go:435 SendPaymentSync`. -/
theorem lnClient_pays_recorded (W : World) (backend : Backend) {cfg : Pool}
    (h : Reachable W (Fresh fun _ => True) anyStep cfg) {t : HubThread} (ht : t ∈ cfg.threads)
    {amountMsat : Option Nat} (hop : t.op.callerAmount = some amountMsat)
    (hu : ∀ a, amountMsat = some a → a < 2 ^ 64) {call : Call Cmd Cmd.Ans} (hcall : call ∈ t.hist)
    {asked : String × Option Nat} (hasked : askedPayment call = some asked) :
    ∃ a row, Did t.hist (.sendPaymentTx a) (.ok row) ∧ a.Recorded W row ∧
      W.decodepay asked.1 = .ok a.paymentRequest ∧
      (backend.PaysRecorded W row asked.1 asked.2 = true ↔
        backend.Agrees a.paymentRequest amountMsat) := by
  have hpool := h.sound (recorded_sound W anyStep) fun cfg hf =>
    ⟨trivial, by simp [hf.2.2], by simp [hf.2.2], by simp [hf.2.2]⟩
  obtain ⟨h', hs, hok⟩ := (hpool.obeys t ht).of_mem hcall
  have hask : AsksFor W amountMsat h' call.cmd := by
    unfold Op.callerAmount at hop
    split at hop
    · next heq =>
      cases hop
      rwa [heq] at hok
    · cases hop
  unfold askedPayment at hasked
  split at hasked
  · next payReq' amountMsat' r =>
    cases hasked
    obtain ⟨rfl, a, row, hins, rfl, hdec, hamount⟩ := hask
    have hrec := hpool.known t ht _ (hins.mono hs) a row rfl
    refine ⟨a, row, hins.mono hs, hrec, hdec, ?_⟩
    have hpaid : row.amountMsat = paymentAmount a.paymentRequest amountMsat' :=
      hrec.amount.trans hamount
    have hreserve : row.feeReserveMsat = CalculateFeeReserveMsat row.amountMsat := by
      rw [hrec.reserve, hrec.amount]
    have hmatches : (∃ p, backend.payment W a.payReq amountMsat' = .ok p ∧
        p.Matches a.paymentRequest row) ↔ backend.Agrees a.paymentRequest amountMsat' := by
      cases backend with
      | ldk => exact ldk_matches hdec hpaid hreserve
      | lnd => exact lnd_matches hdec hpaid hreserve hrec.storable hu
    rw [← hmatches, Backend.PaysRecorded, hdec]
    cases backend.payment W a.payReq amountMsat' with
    | error e => simp
    | ok p => simp
  · cases hasked

/-- A payment of the invoice of 123 sat with an amount of the caller's, up to the answer of the LN
client. Reference: `transactions/payments_test.go:70
TestSendPaymentSync_AmountOnNonZeroAmountInvoice`. -/
def demoPayment (amountMsat : Option Nat) : List PoolLabel :=
  .spawn (.sendPaymentSync mockInvoice amountMsat none none none) ::
    steps 0 4 { now := demoNow, payInvoice := .ok ⟨"123preimage", 0⟩ }

/-- Starting a payment leaves its program to run. Reference:
`transactions/transactions_service.go:301 SendPaymentSync`. -/
theorem Pool.run_sendPaymentSync {W : World} {cfg : Pool} {payReq : String}
    {metadata : Option Metadata} {amountMsat appId requestEventId : Option Nat}
    {labels : List PoolLabel} :
    cfg.run (exec W) (body W)
        (.spawn (.sendPaymentSync payReq amountMsat metadata appId requestEventId) :: labels) =
      Config.run (exec W) (body W)
        ⟨cfg.state, cfg.threads ++
          [⟨.sendPaymentSync payReq amountMsat metadata appId requestEventId, [],
          (SendPaymentSync W payReq amountMsat metadata appId requestEventId).bind
            fun r => .ret (r.map some)⟩]⟩ labels :=
  rfl

theorem toLower_demo : toLower demo.lowerNonAscii mockInvoice = mockInvoice := by
  have h : demo.lowerNonAscii = fun c => c := rfl
  rw [h, toLower_mockInvoice]

theorem demoPayment_reachable (amountMsat : Option Nat)
    (hr : (demoPool .empty).runs demo (demoPayment amountMsat) = true) :
    Reachable demo (Fresh fun _ => True) anyStep
      ((demoPool .empty).after demo (demoPayment amountMsat)) :=
  .of_after (.start ⟨trivial, rfl, rfl⟩) Config.allows_any hr

theorem lnClient_pays_recorded_mock : ∃ (a : SendPaymentArgs) (row : Transaction),
    a.Recorded demo row ∧
    (Backend.lnd.PaysRecorded demo row mockInvoice none = true ↔
      Backend.lnd.Agrees a.paymentRequest none) := by
  obtain ⟨hr, t, ht, hop, call, hcall, hasked⟩ :
      (demoPool .empty).runs demo (demoPayment none) = true ∧
      ∃ t ∈ ((demoPool .empty).after demo (demoPayment none)).threads,
        t.op.callerAmount = some none ∧
        ∃ call ∈ t.hist, askedPayment call = some (mockInvoice, none) := by
    -- the program is rewritten to the lowered invoice, which is slow to compute
    unfold demoPayment Pool.runs Pool.after
    rw [Pool.run_sendPaymentSync, SendPaymentSync, toLower_demo]
    decide +kernel
  obtain ⟨a, row, -, hrec, -, hiff⟩ := lnClient_pays_recorded demo .lnd
    (demoPayment_reachable none hr) ht hop (by simp) hcall hasked
  exact ⟨a, row, hrec, hiff⟩

/-- An invoice of 123 sat is recorded with its amount, and LDK is asked to pay the caller's 1000
sat. Reference: `lnclient/ldk/ldk.go:637 SendPaymentSync`. -/
theorem lnClient_pays_more :
    Reachable demo (Fresh fun _ => True) anyStep
      ((demoPool .empty).after demo (demoPayment (some 1000000))) ∧
    ∃ t ∈ ((demoPool .empty).after demo (demoPayment (some 1000000))).threads,
      t.op.callerAmount = some (some 1000000) ∧
      ∃ call ∈ t.hist, askedPayment call = some (mockInvoice, some 1000000) ∧
      ∃ inserted ∈ t.hist, ∃ row ∈ insertedRow inserted, row.amountMsat = 123000 ∧
        Backend.ldk.PaysRecorded demo row mockInvoice (some 1000000) = false := by
  have hrun : (demoPool .empty).runs demo (demoPayment (some 1000000)) = true ∧
      ∃ t ∈ ((demoPool .empty).after demo (demoPayment (some 1000000))).threads,
        t.op.callerAmount = some (some 1000000) ∧
        ∃ call ∈ t.hist, askedPayment call = some (mockInvoice, some 1000000) ∧
        ∃ inserted ∈ t.hist, ∃ row ∈ insertedRow inserted, row.amountMsat = 123000 ∧
          Backend.ldk.PaysRecorded demo row mockInvoice (some 1000000) = false := by
    -- the program is rewritten to the lowered invoice, which is slow to compute
    unfold demoPayment Pool.runs Pool.after
    rw [Pool.run_sendPaymentSync, SendPaymentSync, toLower_demo]
    decide +kernel
  exact ⟨demoPayment_reachable _ hrun.1, hrun.2⟩

end AlbyHub
