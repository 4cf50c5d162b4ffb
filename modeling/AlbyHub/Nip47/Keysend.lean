import AlbyHub.Go.Hex
import AlbyHub.Nip47.Controllers
import AlbyHub.Transactions.Runs
import AlbyHub.Transactions.WellFormed

/-!
# What a keysend answers

The handlers of `pay_keysend` and `multi_pay_keysend` read through the transaction that
`SendKeysend` returns, and through its preimage, whenever there is no error. So a keysend has to
answer an error or a transaction with a preimage. A settlement answers the latter, as the rows are
well formed; but a preimage that is decoded to another number of bytes than 32 is refused without
an error (`keysend_answers_iff`).
-/

namespace AlbyHub

open Go Interaction

/-- Reference: `nip47/controllers/models.go:10 payResponse`. -/
structure PayResponse where
  preimage : String
  feesPaid : Nat

/-- What the handler publishes for the results of `SendKeysend`: an error, which is mapped to an
error of NIP-47, or the payment; `none` where it reads through a nil pointer. Reference:
`nip47/controllers/pay_keysend_controller.go:53 payKeysend`. -/
def payKeysendResponse : Result → Option (Except Err PayResponse)
  | .error e => some (.error e)
  | .ok none => none
  | .ok (some transaction) => transaction.preimage.map fun preimage =>
    .ok ⟨preimage, transaction.feeMsat⟩

/-- The keysends that a request asks for; those of a `multi_pay_keysend` are sent concurrently.
Reference: `nip47/controllers/pay_keysend_controller.go:25 HandlePayKeysendEvent`,
`nip47/controllers/multi_pay_keysend_controller.go:21 HandleMultiPayKeysendEvent`. -/
def Nip47Request.keysends : Nip47Request → List PayKeysendParams
  | .payKeysend params => [params]
  | .multiPayKeysend keysends => keysends
  | _ => []

/-- The random source fills the 32 bytes that it is given. Reference: Go `crypto/rand.Read`. -/
def FillsRandomBytes (_ : Pool) : PoolLabel → Prop
  | .run _ env => env.randomBytes.length = 32
  | _ => True

/-- An error, or a transaction with a preimage. Reference: none. -/
def Result.Complete (out : Result) : Prop :=
  (∃ e, out = .error e) ∨
    ∃ transaction preimage, out = .ok (some transaction) ∧ transaction.preimage = some preimage

/-- Every such call, in every run, returns a complete result if it returns. Reference: none. -/
def Op.Completes (W : World) (op : Op) : Prop :=
  ∀ cfg, Reachable W (Fresh fun db => db.transactions.WellFormed) FillsRandomBytes cfg →
    ∀ t ∈ cfg.threads, t.op = op → ∀ out, t.rest = .ret out → out.Complete

/-- No keysend of the request makes its handler read through a nil pointer. Reference: none. -/
def Nip47Request.KeysendsRespond (W : World) (appId requestEventId : Nat) (request : Nip47Request) :
    Prop :=
  ∀ params ∈ request.keysends, ∀ op ∈ params.calls appId requestEventId,
    ∀ cfg, Reachable W (Fresh fun db => db.transactions.WellFormed) FillsRandomBytes cfg →
      ∀ t ∈ cfg.threads, t.op = op → ∀ out, t.rest = .ret out →
        (payKeysendResponse out).isSome = true

/-- The caller leaves the preimage to the hub, or gives one of 32 bytes, or one that cannot be
decoded. Reference: `transactions/transactions_service.go:474 SendKeysend`. -/
def KeysendPreimageFits (preimage : String) : Prop :=
  preimage = "" ∨ ∀ bytes, hexDecodeString preimage = some bytes → bytes.length = 32

section
variable {W : World} {h : History} {s s' : Hub} {env : Env} {op : Op} {out : Result}
variable {amountMsat : Nat} {destination preimage : String} {customRecords : List TLVRecord}
variable {appId requestEventId : Option Nat}

theorem payKeysendResponse_isSome : (payKeysendResponse out).isSome = true ↔ out.Complete := by
  constructor
  · intro hsome
    match out with
    | .error e => exact .inl ⟨e, rfl⟩
    | .ok none => cases hsome
    | .ok (some transaction) =>
      rw [payKeysendResponse, Option.isSome_map] at hsome
      obtain ⟨preimage, hp⟩ := Option.isSome_iff_exists.1 hsome
      exact .inr ⟨transaction, preimage, rfl, hp⟩
  · rintro (⟨e, rfl⟩ | ⟨transaction, preimage, rfl, hp⟩)
    · rfl
    · rw [payKeysendResponse, hp]
      rfl

/-- What a keysend returns, given what it has done: an error, the answer of a settlement, or nothing
where the preimage has the wrong length. Reference: `transactions/transactions_service.go:465
SendKeysend`. -/
inductive KeysendReturns (preimage : String) (h : History) : Result → Prop
  | error {e : Err} : KeysendReturns preimage h (.error e)
  | settled {row : Transaction} {preimage' : String} {feeMsat : Nat} {selfPayment : Bool}
      {st : Settlement} : Did h (.markTransactionSettledTx row preimage' feeMsat selfPayment)
      (.ok st) → KeysendReturns preimage h (.ok (some st.settled))
  | random {bytes : List UInt8} : Did h .randomBytes (.ok bytes) → bytes.length ≠ 32 →
      KeysendReturns preimage h (.ok none)
  | given {bytes : List UInt8} : preimage ≠ "" → hexDecodeString preimage = some bytes →
      bytes.length ≠ 32 → KeysendReturns preimage h (.ok none)

theorem lenient_any : Lenient fun _ _ => True :=
  ⟨fun _ _ _ _ => trivial, fun _ _ _ _ _ => trivial⟩

/-- Reference: `transactions/transactions_service.go:573 SendKeysend`. -/
theorem keysendReturns_finishPayment {row : Transaction} {selfPayment : Bool}
    {response : Except Err PayInvoiceResponse} :
    Follows (fun _ _ => True) (fun h r => KeysendReturns preimage h (r.map some)) h
      (finishPayment row selfPayment response) := by
  cases response with
  | error e =>
    exact (follows_markPaymentFailed lenient_any trivial).bind fun _ _ _ _ => .error
  | ok response =>
    refine (follows_markTransactionSettled lenient_any fun _ => trivial).mono (fun _ _ h => h)
      fun h' r _ ⟨hok, _⟩ => ?_
    cases r with
    | error e => exact .error
    | ok settled =>
      obtain ⟨-, st, rfl, hd⟩ := hok settled rfl
      exact .settled hd

/-- Reference: `transactions/transactions_service.go:540 SendKeysend`. -/
theorem keysendReturns_pay {k : KeysendArgs} {row : Transaction} :
    Follows (fun _ _ => True) (fun h r => KeysendReturns preimage h (r.map some)) h
      (k.pay row) := by
  unfold KeysendArgs.pay
  split
  · refine (follows_any).bind fun h₁ recipientAppId _ _ => .call trivial fun r => ?_
    cases r with
    | error e => exact .error
    | ok _ => exact (follows_any).bind fun h₂ response _ _ => keysendReturns_finishPayment
  · exact .call trivial fun response => keysendReturns_finishPayment

theorem keysendReturns_send {p paymentHash : String} :
    Follows (fun _ _ => True) (fun h r => KeysendReturns preimage h (r.map some)) h
      (SendKeysend.send W amountMsat destination customRecords p paymentHash appId
        requestEventId) := by
  unfold SendKeysend.send
  split
  · exact .error
  · refine .call trivial fun r => ?_
    cases r with
    | error e => exact .error
    | ok row => exact keysendReturns_pay

/-- Reference: `transactions/transactions_service.go:465 SendKeysend`. -/
theorem keysendReturns_sendKeysend :
    Follows (fun _ _ => True) (KeysendReturns preimage) h
      (SendKeysend W amountMsat destination customRecords preimage appId requestEventId) := by
  -- the preimage is the caller's, or the hexadecimal form of random bytes
  have hpreimage : Follows (fun _ _ => True)
      (fun h' r => ∀ p, r = .ok p → preimage ≠ "" ∧ p = preimage ∨
        ∃ bytes, Did h' .randomBytes (.ok bytes) ∧ p = hexEncodeToString bytes) h
      (keysendPreimage preimage) := by
    unfold keysendPreimage
    split
    · refine .call trivial fun r => ?_
      cases r with
      | error e => exact fun _ he => nomatch he
      | ok bytes =>
        rintro _ ⟨⟩
        exact .inr ⟨bytes, .last, rfl⟩
    · next hne =>
      rintro _ ⟨⟩
      exact .inl ⟨hne, rfl⟩
  refine hpreimage.bind fun h₁ r _ hr => ?_
  cases r with
  | error e => exact .error
  | ok p =>
    simp only
    split
    · exact .error
    · next bytes hbytes =>
      split
      · next hlength =>
        rcases hr p rfl with ⟨hne, rfl⟩ | ⟨random, hdid, rfl⟩
        · exact .given hne hbytes hlength
        · rw [hexDecodeString_hexEncodeToString] at hbytes
          exact .random hdid ((Option.some.inj hbytes).symm ▸ hlength)
      · exact Follows.map keysendReturns_send

/-- What an answer says for good: a settlement answers a row with a preimage, and random bytes are
32. Reference: none. -/
def AnswersWhole : Call Cmd Cmd.Ans → Prop
  | ⟨.markTransactionSettledTx _ _ _ _, .ok st⟩ => ∃ preimage, st.settled.preimage = some preimage
  | ⟨.randomBytes, .ok bytes⟩ => bytes.length = 32
  | _ => True

/-- The row that a settlement answers has a preimage: it has been settled before, and the rows are
well formed, or it gets one now. Reference: `transactions/transactions_service.go:1475
markTransactionSettled`. -/
theorem answersWhole_settle {row : Transaction} {feeMsat : Nat} {selfPayment : Bool}
    {a : Except Err Settlement} (ht : s.db.transactions.WellFormed)
    (hx : exec W s (.markTransactionSettledTx row preimage feeMsat selfPayment) env =
      some (a, s')) :
    AnswersWhole ⟨.markTransactionSettledTx row preimage feeMsat selfPayment, a⟩ := by
  rcases Hub.transaction_cases hx with ⟨_, rfl, -⟩ | ⟨_, -, rfl, -⟩ | ⟨st, db, hst, rfl, -⟩
  · trivial
  · trivial
  · change markTransactionSettledTx W env s.db row preimage feeMsat selfPayment = _ at hst
    unfold markTransactionSettledTx at hst
    split at hst
    · next existing hfind =>
      cases hst
      obtain ⟨hmem, -, -, hstate, -⟩ := Table.mem_select.1 (mem_of_pick hfind)
      have hsettled : existing.state = .settled := by
        simpa [Transaction.settledFilter, eq_comm] using hstate
      obtain ⟨preimage, hp, -⟩ := (ht existing hmem).preimage hsettled
      exact ⟨preimage, hp⟩
    · split at hst
      · cases hst
        exact ⟨preimage, rfl⟩
      · cases hst

theorem exec_answersWhole {c : Cmd} {a : c.Ans} (ht : s.db.transactions.WellFormed)
    (hrandom : env.randomBytes.length = 32) (hx : exec W s c env = some (a, s')) :
    AnswersWhole ⟨c, a⟩ := by
  cases c with
  | markTransactionSettledTx => exact answersWhole_settle ht hx
  | randomBytes =>
    obtain ⟨-, ⟨e, rfl⟩ | rfl⟩ := Hub.read_eq hx
    · trivial
    · exact hrandom
  | _ => trivial

/-- Reference: none. -/
theorem keysend_sound (W : World) :
    Sound (exec W) (body W) FillsRandomBytes
      (fun _ h c => (SourcedBy h c ∧ PromptBy h c) ∧ True)
      (fun op h out => ∀ {amountMsat destination customRecords preimage appId requestEventId},
        op = .sendKeysend amountMsat destination customRecords preimage appId requestEventId →
        KeysendReturns preimage h out)
      (fun _ _ _ _ env => env.randomBytes.length = 32)
      (fun s => s.db.transactions.WellFormed)
      (fun _ call s => KnownRows call s ∧ AnswersWhole call) where
  body op := by
    have hkeysend : Follows (fun _ _ => True)
        (fun h out => ∀ {amountMsat destination customRecords preimage appId requestEventId},
          op = .sendKeysend amountMsat destination customRecords preimage appId requestEventId →
          KeysendReturns preimage h out) [] (body W op) := by
      cases op with
      | sendKeysend =>
        refine keysendReturns_sendKeysend.mono (fun _ _ h => h) fun h out _ hr => ?_
        rintro _ _ _ _ _ _ ⟨⟩
        exact hr
      | _ => exact follows_any.mono (fun _ _ h => h) fun _ _ _ _ => nofun
    exact (((body_sourced W op).and (body_prompt W op)).and hkeysend).mono (fun _ _ h => h)
      fun _ _ _ hpost => hpost.2
  obeys _ _ _ _ _ _ _ ha _ := ha
  step _ h s c e r s' hi hk hc hp hx := by
    have hrows : ∀ call ∈ h, KnownRows call s := fun call hcall => (hk call hcall).1
    obtain ⟨-, hnew, hold⟩ := exec_sourced hrows hc.1.1 hx
    refine ⟨exec_wellFormed hi hrows hc.1.1 hc.1.2 hx, ⟨hnew, exec_answersWhole hi hp hx⟩, ?_⟩
    exact fun _ call hcall => ⟨hold call hcall.1, hcall.2⟩

/-- A preimage of another length is refused at once. Reference:
`transactions/transactions_service.go:475 SendKeysend`. -/
theorem sendKeysend_refused (W : World) (amountMsat : Nat) (destination : String)
    (customRecords : List TLVRecord) (appId requestEventId : Option Nat) {bytes : List UInt8}
    (hne : preimage ≠ "") (hdec : hexDecodeString preimage = some bytes)
    (hlength : bytes.length ≠ 32) :
    SendKeysend W amountMsat destination customRecords preimage appId requestEventId =
      .ret (.ok none) := by
  have hgiven : keysendPreimage preimage = .ret (.ok preimage) := if_neg hne
  unfold SendKeysend
  rw [hgiven]
  simp only [bind, Prog.bind, hdec]
  exact if_pos hlength

/-- So the run of such a keysend is over when it begins. Reference:
`transactions/transactions_service.go:475 SendKeysend`. -/
theorem reachable_refused (W : World) (amountMsat : Nat) (destination : String)
    (customRecords : List TLVRecord) (appId requestEventId : Option Nat) {bytes : List UInt8}
    (hne : preimage ≠ "")
    (hdec : hexDecodeString preimage = some bytes) (hlength : bytes.length ≠ 32) :
    ∃ cfg, Reachable W (Fresh fun db => db.transactions.WellFormed) FillsRandomBytes cfg ∧
      ∃ t ∈ cfg.threads, t.op =
        .sendKeysend amountMsat destination customRecords preimage appId requestEventId ∧
        t.rest = .ret (.ok none) := by
  have hbody : body W (.sendKeysend amountMsat destination customRecords preimage appId
      requestEventId) = .ret (.ok none) :=
    sendKeysend_refused W amountMsat destination customRecords appId requestEventId hne hdec hlength
  have hstart : Reachable W (Fresh fun db => db.transactions.WellFormed) FillsRandomBytes
      (demoPool .empty) :=
    .start ⟨by simp [Table.WellFormed, demoPool, demoDB, Table.empty], rfl, rfl⟩
  refine ⟨_, .step hstart (l := .spawn _) trivial rfl, _, List.mem_append_right _
    List.mem_cons_self, rfl, hbody⟩

/-- A keysend completes exactly where the preimage fits. Reference:
`transactions/transactions_service.go:474 SendKeysend`. -/
theorem keysend_completes_iff :
    (Op.sendKeysend amountMsat destination customRecords preimage appId
      requestEventId).Completes W ↔ KeysendPreimageFits preimage := by
  constructor
  · intro hall
    by_contra hfit
    rw [KeysendPreimageFits, not_or, not_forall] at hfit
    obtain ⟨hne, bytes, hbytes⟩ := hfit
    obtain ⟨hdec, hlength⟩ := Classical.not_imp.1 hbytes
    obtain ⟨cfg, hreach, t, ht, hop, hret⟩ := reachable_refused W amountMsat destination
      customRecords appId requestEventId hne hdec hlength
    rcases hall cfg hreach t ht hop _ hret with ⟨e, he⟩ | ⟨transaction, preimage, he, -⟩
    · cases he
    · cases he
  · intro hfit cfg hreach t ht hop out hret
    have hd := hreach.sound (keysend_sound W) fun cfg hf =>
      ⟨hf.1, by simp [hf.2.2], by simp [hf.2.2], by simp [hf.2.2]⟩
    have hwhole : ∀ call ∈ t.hist, AnswersWhole call :=
      fun call hcall => (hd.known t ht call hcall).2
    cases hd.returned ht hret hop with
    | error => exact .inl ⟨_, rfl⟩
    | settled hdid =>
      obtain ⟨preimage, hp⟩ := hwhole _ hdid
      exact .inr ⟨_, preimage, rfl, hp⟩
    | random hdid hlength => exact absurd (hwhole _ hdid) hlength
    | given hne hbytes hlength =>
      rcases hfit with rfl | hfit
      · exact absurd rfl hne
      · exact absurd (hfit _ hbytes) hlength

/-- A keysend answers an error or a transaction with a preimage exactly where the preimage is left
to the hub, has 32 bytes or cannot be decoded; and no handler reads through a nil pointer exactly
where this holds of all the keysends of its request. Reference:
`transactions/transactions_service.go:465 SendKeysend`,
`nip47/controllers/pay_keysend_controller.go:52 payKeysend`. -/
theorem keysend_answers_iff (W : World) :
    (∀ amountMsat destination customRecords preimage appId requestEventId,
      (Op.sendKeysend amountMsat destination customRecords preimage appId
        requestEventId).Completes W ↔ KeysendPreimageFits preimage) ∧
    ∀ appId requestEventId (request : Nip47Request),
      request.KeysendsRespond W appId requestEventId ↔
        ∀ params ∈ request.keysends, KeysendPreimageFits params.preimage := by
  refine ⟨fun _ _ _ _ _ _ => keysend_completes_iff, fun appId requestEventId request => ?_⟩
  refine forall_congr' fun params => imp_congr_right fun _ => ?_
  rw [PayKeysendParams.calls, List.forall_mem_singleton]
  have hop : (Op.sendKeysend params.amount params.pubkey params.tlvRecords params.preimage
      (some appId) (some requestEventId)).Completes W ↔ KeysendPreimageFits params.preimage :=
    keysend_completes_iff
  rw [← hop]
  simp only [payKeysendResponse_isSome, Op.Completes]

/-- A keysend with a preimage of one byte returns neither a transaction nor an error, and the
handler reads through the nil transaction. Reference: `transactions/transactions_service.go:479
SendKeysend`. -/
theorem short_preimage_returns_nothing :
    ¬ (Op.sendKeysend 1000 "" [] "00" (some 1) none).Completes demo ∧
      ¬ (Nip47Request.payKeysend { amount := 1000, pubkey := "", preimage := "00" }).KeysendsRespond
        demo 1 1 := by
  have hdec : hexDecodeString "00" = some [0] := by decide
  refine ⟨fun hall => ?_, fun hall => ?_⟩
  · obtain ⟨cfg, hreach, t, ht, hop, hret⟩ := reachable_refused demo 1000 "" [] (some 1) none
      (by decide) hdec (by decide)
    rcases hall cfg hreach t ht hop _ hret with ⟨e, he⟩ | ⟨transaction, preimage, he, -⟩
    · cases he
    · cases he
  · obtain ⟨cfg, hreach, t, ht, hop, hret⟩ := reachable_refused demo 1000 "" [] (some 1) (some 1)
      (by decide) hdec (by decide)
    cases hall _ List.mem_cons_self _ List.mem_cons_self cfg hreach t ht hop _ hret

end

end AlbyHub
