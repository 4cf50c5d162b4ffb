import AlbyHub.Transactions.Sourced
import AlbyHub.Transactions.Runs

/-!
# What a returned payment call leaves behind

A payment call that inserted its outgoing row closes it before it returns: it settles it on success
and fails it on an error. There are three ways around this in the code. The LN client may report
success without a preimage, which `markTransactionSettled` refuses; the incoming row of a keysend to
the own node may not be inserted; and the settlement may be redirected to another settled row with
the same key, since only `SendPaymentSync` looks for one before it pays. `closingSteps` is the
policy that excludes the three, `payment_closes_row` says that then no reservation is left.
-/

namespace AlbyHub

open Go Interaction

/-- Whether the command inserts an outgoing row. Reference:
`transactions/transactions_service.go:360`, `:506`. -/
def Cmd.insertsOutgoing : Cmd → Bool
  | .sendPaymentTx _ | .sendKeysendTx _ => true
  | _ => false

/-- How a payment call that inserted `row` came to its result. Reference:
`transactions/transactions_service.go:441 SendPaymentSync`, `:574 SendKeysend`. -/
def PaymentExit (row : Transaction) (h : History) : Result → Prop
  | .ok _ => ∃ preimage feeMsat selfPayment st,
    Did h (.markTransactionSettledTx row preimage feeMsat selfPayment) (.ok st)
  | .error _ => (∃ reason r, Did h (.markPaymentFailedTx row reason) r) ∨
    (∃ preimage feeMsat selfPayment e,
      Did h (.markTransactionSettledTx row preimage feeMsat selfPayment) (.error e)) ∨
    (∃ payReq amountMsat response, Did h (.lnSendPaymentSync payReq amountMsat) (.ok response) ∧
      response.preimage = "") ∨
    (∃ since paymentRequest settled, Did h (.receiveHoldUpdate since paymentRequest)
      (.settled settled) ∧ settled.preimage = some "") ∨
    (∃ incoming e, Did h (.create incoming) (.error e))

/-- Every row that the call inserted was brought to an end. Reference: none. -/
def PaymentPost (h : History) (r : Result) : Prop :=
  ∀ call ∈ h, ∀ row, insertedRow call = some row → PaymentExit row h r

/-- The discipline of a payment once its row is there. Reference: none. -/
def PaysBy (h : History) (c : Cmd) : Prop := SourcedBy h c ∧ c.insertsOutgoing = false

section
variable {W : World} {h h' : History} {row : Transaction}

theorem paysBy_lenient : Lenient PaysBy where
  read h c hc hp := ⟨sourcedBy_lenient.read h c hc hp, by cases c <;> first | rfl | cases hc⟩
  publish h event events he hn := ⟨sourcedBy_lenient.publish h event events he hn, rfl⟩

theorem insertedRow_of_insertsOutgoing {call : Call Cmd Cmd.Ans}
    (hc : call.cmd.insertsOutgoing = false) : insertedRow call = none := by
  obtain ⟨c, a⟩ := call
  cases c <;> first | rfl | cases hc

/-- The empty preimage of a response that the call was given. Reference: none. -/
def EmptyPreimage (h : History) : Prop :=
  (∃ payReq amountMsat response, Did h (.lnSendPaymentSync payReq amountMsat) (.ok response) ∧
    response.preimage = "") ∨
  (∃ since paymentRequest settled, Did h (.receiveHoldUpdate since paymentRequest)
    (.settled settled) ∧ settled.preimage = some "")

/-- `finishPayment` settles or fails the row, but for a response without a preimage. Reference:
`transactions/transactions_service.go:441 SendPaymentSync`. -/
theorem pays_finishPayment {selfPayment : Bool} {response : Except Err PayInvoiceResponse}
    (hrow : History.Inserted h row)
    (hempty : ∀ x, response = .ok x → x.preimage = "" → EmptyPreimage h) :
    Follows PaysBy (fun h' r => PaymentExit row h' (r.map some)) h
      (finishPayment row selfPayment response) := by
  cases response with
  | error e =>
    refine (follows_markPaymentFailed paysBy_lenient ⟨.inl hrow, rfl⟩).bind fun h' r _ ⟨hd, _⟩ => ?_
    exact .inl ⟨_, r, hd⟩
  | ok x =>
    refine (follows_markTransactionSettled paysBy_lenient fun hp => ⟨⟨hrow.answered, hp⟩, rfl⟩).mono
      (fun _ _ h => h) fun h' r hs ⟨hok, herr⟩ => ?_
    cases r with
    | ok settled =>
      obtain ⟨-, st, -, hd⟩ := hok settled rfl
      exact ⟨_, _, _, st, hd⟩
    | error e =>
      rcases herr e rfl with hp | hd
      · rcases hempty x rfl hp with ⟨q, m, y, hd, hy⟩ | ⟨n, q, y, hd, hy⟩
        · exact .inr (.inr (.inl ⟨q, m, y, hd.mono hs, hy⟩))
        · exact .inr (.inr (.inr (.inl ⟨n, q, y, hd.mono hs, hy⟩)))
      · exact .inr (.inl ⟨_, _, _, e, hd⟩)

theorem pays_interceptSelfPayment {paymentRequest paymentHash : String} :
    Follows PaysBy (fun h' r => ∀ x, r = .ok x → x.preimage = "" → EmptyPreimage h') h
      (interceptSelfPayment paymentRequest paymentHash) := by
  refine (follows_interceptSelfPayment paysBy_lenient (fun _ _ _ => ⟨trivial, rfl⟩)
    (fun _ _ _ => ⟨trivial, rfl⟩) ?_).mono
    (fun _ _ h => h) fun h' r _ hpost x hx hp => ?_
  · rintro h' incoming preimage - - - hp hd
    exact ⟨⟨⟨_, hd, List.mem_singleton.2 rfl⟩, hp⟩, rfl⟩
  · rcases (hpost x hx).2 with ⟨incoming, st, -, -, hne, -⟩ | ⟨since, settled, hpre, hd⟩
    · exact absurd hp hne
    · exact .inr ⟨since, _, settled, hd, hpre.trans (congrArg some hp)⟩

/-- A program that inserts nothing brings the one inserted row to an end. Reference: none. -/
theorem paymentPost_of_pays {α : Type} {p : Svc α} {f : α → Result} {call : Call Cmd Cmd.Ans}
    (hinsert : insertedRow call = some row)
    (hframe : ∀ call ∈ h, call ∈ ([] : History) ∨ Prepares call)
    (hp : Follows PaysBy (fun h' r => PaymentExit row h' (f r)) (call :: h) p) :
    Follows SourcedBy (fun h' r => PaymentPost h' (f r)) (call :: h) p := by
  refine (Follows.frame (P := fun c => c.insertsOutgoing = false) (fun _ _ hc => hc.2) hp).mono
    (fun _ _ hc => hc.1) fun h' r _ ⟨hexit, hmem⟩ call' hcall' row' hrow' => ?_
  have hnone : ∀ {call' : Call Cmd Cmd.Ans}, insertedRow call' = none →
      insertedRow call' = some row' → False := fun h₁ h₂ => by rw [h₁] at h₂; cases h₂
  rcases hmem call' hcall' with hcall' | hcall'
  · rcases List.mem_cons.1 hcall' with rfl | hcall'
    · rw [hinsert] at hrow'
      cases hrow'
      exact hexit
    · rcases hframe call' hcall' with hc | hc
      · cases hc
      · exact (hnone hc.insertedRow_eq_none hrow').elim
  · exact (hnone (insertedRow_of_insertsOutgoing hcall') hrow').elim

theorem paymentPost_of_none {r : Result}
    (hframe : ∀ call ∈ h, call ∈ ([] : History) ∨ Prepares call) : PaymentPost h r := by
  intro call hcall row hrow
  rcases hframe call hcall with hc | hc
  · cases hc
  · rw [hc.insertedRow_eq_none] at hrow; cases hrow

theorem sendPaymentSync_exits {payReq : String} {amountMsat : Option Nat}
    {metadata : Option Metadata} {appId requestEventId : Option Nat} :
    Follows SourcedBy (fun h' (r : Except Err Transaction) => PaymentPost h' (r.map some)) []
      (SendPaymentSync W payReq amountMsat metadata appId requestEventId) := by
  refine follows_sendPaymentSync sourcedBy_lenient (fun _ _ => paymentPost_of_none)
    (fun _ _ _ _ => trivial) fun h' a row hframe _ => paymentPost_of_pays rfl hframe ?_
  have hrow : History.Inserted (⟨.sendPaymentTx a, .ok row⟩ :: h') row :=
    ⟨_, List.mem_cons_self, rfl⟩
  unfold SendPaymentSync.pay
  split
  · exact pays_interceptSelfPayment.bind fun _ _ hs hempty =>
      pays_finishPayment (hrow.mono hs) hempty
  · refine .call ⟨trivial, rfl⟩ fun r => pays_finishPayment (hrow.mono (List.suffix_cons _ _)) ?_
    rintro x rfl hp
    exact .inl ⟨_, _, x, .last, hp⟩

theorem sendKeysend_exits {amountMsat : Nat} {destination : String}
    {customRecords : List TLVRecord} {preimage : String} {appId requestEventId : Option Nat} :
    Follows SourcedBy PaymentPost []
      (SendKeysend W amountMsat destination customRecords preimage appId requestEventId) := by
  refine follows_sendKeysend sourcedBy_lenient (fun _ _ _ => paymentPost_of_none)
    (fun _ k _ _ => ⟨k, rfl⟩) fun h' k row hframe hk => paymentPost_of_pays rfl hframe ?_
  have hrow : History.Inserted (⟨.sendKeysendTx k.row, .ok row⟩ :: h') row :=
    ⟨_, List.mem_cons_self, rfl⟩
  -- the response carries the preimage of the keysend, which is not empty
  have hpre : ∀ {α : Type} {h : History} {response : Except Err α} {f : α → Nat} x,
      response.map (fun a => (⟨k.preimage, f a⟩ : PayInvoiceResponse)) = .ok x →
      x.preimage = "" → EmptyPreimage h := by
    intro α h response f x hx hp
    cases response with
    | error e => cases hx
    | ok a => cases hx; exact absurd hp hk.preimage_ne
  unfold KeysendArgs.pay
  split
  · refine (follows_getAppIdFromCustomRecords paysBy_lenient _).bind fun h₁ recipient hs₁ _ => ?_
    refine .call ⟨⟨rfl, rfl⟩, rfl⟩ fun r => ?_
    cases r with
    | error e => exact .inr (.inr (.inr (.inr ⟨_, e, .last⟩)))
    | ok incoming =>
      refine pays_interceptSelfPayment.bind fun h₂ r hs₂ _ => ?_
      exact pays_finishPayment (hrow.mono ((hs₁.trans (List.suffix_cons _ _)).trans hs₂)) hpre
  · exact .call ⟨trivial, rfl⟩ fun r =>
      pays_finishPayment (hrow.mono (List.suffix_cons _ _)) hpre

/-- Every payment call brings the row that it inserted to an end. Reference: none. -/
theorem body_exits (W : World) (op : Op) : Follows SourcedBy
    (fun h r => op.isPayment = true → PaymentPost h r) [] (body W op) := by
  have other : op.isPayment = false → Follows SourcedBy
      (fun h r => op.isPayment = true → PaymentPost h r) [] (body W op) := fun ho =>
    (body_sourced W op).mono (fun _ _ h => h) fun _ _ _ _ hp => by rw [ho] at hp; cases hp
  cases op with
  | sendPaymentSync =>
    exact sendPaymentSync_exits.bind fun _ _ _ hpost _ => hpost
  | sendKeysend => exact sendKeysend_exits.mono (fun _ _ h => h) fun _ _ _ hpost _ => hpost
  | _ => exact other rfl

end

/-- A row that holds no money back: it is closed and its reserve is released. Reference:
`db/queries/get_isolated_balance.go:24`. -/
def Transaction.Released (r : Transaction) : Prop := r.Closed ∧ r.feeReserveMsat = 0

/-- What becomes of an outgoing row: it is pending until it is released. Reference: none. -/
def Transaction.Reserved (r : Transaction) : Prop :=
  r.type = .outgoing ∧ (r.state = .pending ∨ r.Released)

section
variable {r r' : Transaction} {t t' : Table} {id : Nat}

theorem Transaction.Step.released (h : r.Step r') (hr : r.Released) : r'.Released := by
  refine ⟨h.closed hr.1, ?_⟩
  cases h with
  | annotate => exact hr.2
  | settle | fail => rfl
  | accept => exact hr.2

theorem Transaction.Step.reserved (h : r.Step r') (hr : r.Reserved) : r'.Reserved := by
  obtain ⟨hty, hp | hr⟩ := hr
  · refine ⟨(congrArg Identity.type h.identity).trans hty, ?_⟩
    cases h with
    | annotate => exact .inl hp
    | settle => exact .inr ⟨.inl rfl, rfl⟩
    | fail => exact .inr ⟨.inr rfl, rfl⟩
    | accept hin => rw [hty] at hin; cases hin
  · exact ⟨(congrArg Identity.type h.identity).trans hty, .inr (h.released hr)⟩

/-- Two facts about the row of an id are about one row. Reference: none. -/
theorem Table.At.and {p q : Transaction → Prop} (hp : t.At id p) (hq : t.At id q) :
    t.At id fun r => p r ∧ q r := by
  obtain ⟨r, hr, hid, hpr⟩ := hp
  obtain ⟨r', hr', hid', hqr⟩ := hq
  rw [← Table.eq_of_id hr hr' (hid.trans hid'.symm)] at hqr
  exact ⟨r, hr, hid, hpr, hqr⟩

theorem Table.At.mono {p q : Transaction → Prop} (h : ∀ r, p r → q r) (hp : t.At id p) :
    t.At id q := by
  obtain ⟨r, hr, hid, hpr⟩ := hp
  exact ⟨r, hr, hid, h r hpr⟩

end

/-- The steps of a payment that close its row: the LN client reports no success without a preimage,
the incoming row of a keysend is inserted, and the outgoing row is not settled while another row of
the same payment is settled. Other calls are free. Reference:
`transactions/transactions_service.go:441 SendPaymentSync`, `:541 SendKeysend`,
`:1470 markTransactionSettled`. -/
def closingCall (s : Hub) (env : Env) : Cmd → Prop
  | .lnSendPaymentSync _ _ =>
    match env.payInvoice with
    | .ok response => response.preimage ≠ ""
    | .error _ => True
  | .create row => env.fault = none ∧ row.Storable ∧ ∀ appId ∈ row.appId, appId < 2 ^ 63
  | .markTransactionSettledTx row _ _ _ => row.type = .outgoing →
    s.db.transactions.select row.settledFilter = [] ∨
      ∃ r ∈ s.db.transactions.rows, r.id = row.id ∧ r.state = .settled
  | _ => True

instance (s : Hub) (env : Env) (c : Cmd) : Decidable (closingCall s env c) := by
  induction c using Cmd.casesOn with
  | lnSendPaymentSync =>
    exact match h : env.payInvoice with
      | .ok response => decidable_of_iff (response.preimage ≠ "") (by simp [closingCall, h])
      | .error _ => isTrue (by simp [closingCall, h])
  | create => exact inferInstanceAs (Decidable (_ ∧ _))
  | markTransactionSettledTx => exact inferInstanceAs (Decidable (_ → _ ∨ _))
  | _ => exact isTrue trivial

/-- Reference: none. -/
def closingSteps : Policy where
  call op _ s c env := op.isPayment = true → closingCall s env c

instance (op : Op) (h : History) (s : Hub) (c : Cmd) (env : Env) :
    Decidable (closingSteps.call op h s c env) :=
  inferInstanceAs (Decidable (_ → _))

instance (cfg : Pool) (op : Op) : Decidable (closingSteps.spawn cfg op) := isTrue trivial

instance (cfg : Pool) : Decidable (closingSteps.restart cfg) := isTrue trivial

/-- What the answer to a command of a payment says about the row that it closes. Reference: none. -/
def Outcome (t : Table) : Call Cmd Cmd.Ans → Prop
  | ⟨.markTransactionSettledTx row _ _ _, .ok _⟩ =>
    row.type = .outgoing → t.At row.id (·.state = .settled)
  | ⟨.markTransactionSettledTx _ _ _ _, .error e⟩ => ∃ text, e = .database text
  | ⟨.markPaymentFailedTx row _, .ok _⟩ => t.At row.id (·.Closed)
  | ⟨.markPaymentFailedTx row _, .error e⟩ => (∃ text, e = .database text) ∨ t.At row.id (·.Closed)
  | ⟨.lnSendPaymentSync _ _, .ok response⟩ => response.preimage ≠ ""
  | ⟨.create _, .error _⟩ => False
  | ⟨.receiveHoldUpdate _ _, .settled row⟩ => row.preimage ≠ some ""
  | _ => True

/-- What the answer to a command says from then on. Reference: none. -/
structure Held (op : Op) (call : Call Cmd Cmd.Ans) (s : Hub) : Prop where
  rows : KnownRows call s
  inserted : ∀ row, insertedRow call = some row → s.db.transactions.At row.id (·.Reserved)
  handed : ∀ row, .paymentReceived row ∈ handedEvents call → row.preimage ≠ some ""
  outcome : op.isPayment = true → Outcome s.db.transactions call

/-- Every receipt that was published has a preimage. Reference:
`transactions/transactions_service.go:1471 markTransactionSettled`. -/
def Hub.ReceiptsProven (s : Hub) : Prop :=
  ∀ row, .paymentReceived row ∈ s.published → row.preimage ≠ some ""

section
variable {W : World} {s s' : Hub} {env : Env} {c : Cmd} {a : c.Ans} {h : History} {op : Op}

theorem Outcome.step {t t' : Table} (hs : t.Step t') {call : Call Cmd Cmd.Ans}
    (ho : Outcome t call) : Outcome t' call := by
  unfold Outcome at ho ⊢
  split at ho
  · exact fun hty => hs.at (fun _ _ hst h => hst.stays_settled h) (ho hty)
  · exact ho
  · exact hs.at (fun _ _ hst h => hst.closed h) ho
  · exact ho.imp_right (hs.at fun _ _ hst h => hst.closed h)
  · exact ho
  · exact ho
  · exact ho
  · trivial

theorem Held.step (hs : s.db.transactions.Step s'.db.transactions)
    {call : Call Cmd Cmd.Ans} (hh : Held op call s) : Held op call s' where
  rows row hrow := hs.knows (hh.rows row hrow)
  inserted row hrow := hs.at (fun _ _ hst h => hst.reserved h) (hh.inserted row hrow)
  handed := hh.handed
  outcome hp := (hh.outcome hp).step hs

/-- The row that a payment inserts is reserved. Reference:
`transactions/transactions_service.go:397`, `:512`. -/
theorem exec_inserted (hc : SourcedBy h c) (hx : exec W s c env = some (a, s')) (row : Transaction)
    (hrow : insertedRow ⟨c, a⟩ = some row) : s'.db.transactions.At row.id (·.Reserved) := by
  unfold insertedRow at hrow
  split at hrow
  · next args row' heq =>
    cases heq; cases hrow
    obtain ⟨db, hb, rfl⟩ := Hub.transaction_ok hx
    obtain ⟨-, -, -, rfl, rfl⟩ := sendPaymentTx_ok hb
    exact ⟨_, Table.mem_create.2 (.inr rfl), rfl, rfl, .inl rfl⟩
  · next row₀ row' heq =>
    cases heq; cases hrow
    obtain ⟨db, hb, rfl⟩ := Hub.transaction_ok hx
    obtain ⟨-, -, rfl, rfl⟩ := validateAndCreate_ok hb
    obtain ⟨k, rfl⟩ := hc
    exact ⟨_, Table.mem_create.2 (.inr rfl), rfl, rfl, .inl rfl⟩
  · cases hrow

/-- A settlement of an outgoing row settles it, unless another row of the payment is settled.
Reference: `transactions/transactions_service.go:1477 markTransactionSettled`. -/
theorem exec_settles {row : Transaction} {preimage : String} {feeMsat : Nat} {selfPayment : Bool}
    {st : Settlement} (hk : s.db.transactions.Knows row)
    (hx : exec W s (.markTransactionSettledTx row preimage feeMsat selfPayment) env =
      some (.ok st, s'))
    (hp : s.db.transactions.select row.settledFilter = [] ∨
      ∃ r ∈ s.db.transactions.rows, r.id = row.id ∧ r.state = .settled) :
    s'.db.transactions.At row.id (·.state = .settled) := by
  obtain ⟨db, hb, rfl⟩ := Hub.transaction_ok hx
  obtain ⟨r₀, hr₀, hi⟩ := hk
  have hid : r₀.id = row.id := Transaction.id_of_identity hi
  rcases markTransactionSettledTx_ok hb with ⟨r, hr, hm, -, rfl⟩ | ⟨-, -, -, -, -, -, ht⟩
  · refine hp.resolve_left fun hn => ?_
    exact List.ne_nil_of_mem (Table.mem_select.2 ⟨hr, hm⟩) hn
  · show db.transactions.At row.id _
    rw [ht, ← hid]
    exact ⟨_, Table.mem_update_self hr₀, by simp, rfl⟩

/-- A failure that is not the database's leaves the row closed. Reference:
`transactions/transactions_service.go:1709 markPaymentFailed`. -/
theorem exec_fails {row : Transaction} {reason : String} {r : Except Err (Bool × Transaction)}
    (hk : s.db.transactions.Knows row)
    (hx : exec W s (.markPaymentFailedTx row reason) env = some (r, s')) :
    (∃ text, r = .error (.database text)) ∨ s'.db.transactions.At row.id (·.Closed) := by
  cases r with
  | error e =>
    obtain ⟨hdb, ⟨text, rfl⟩ | hb⟩ := Hub.transaction_error hx
    · exact .inl ⟨text, rfl⟩
    · obtain ⟨r, hr, hid, hs⟩ := markPaymentFailedTx_error hk hb
      rw [hdb]
      exact .inr ⟨r, hr, hid, .inl hs⟩
  | ok x =>
    obtain ⟨marked, copy⟩ := x
    obtain ⟨db, hb, rfl⟩ := Hub.transaction_ok hx
    obtain ⟨r₀, hr₀, hi⟩ := hk
    have hid : r₀.id = row.id := Transaction.id_of_identity hi
    have hpos : row.id ≠ 0 := by have := s.db.transactions.id_pos r₀ hr₀; omega
    refine .inr ?_
    obtain ⟨r, hr, hrid, ⟨hs, -, -, rfl⟩ | ⟨-, -, -, rfl⟩⟩ := markPaymentFailedTx_ok hb
    · exact ⟨r, hr, hrid hpos, .inr hs⟩
    · show ((s.db.withTransactions _).transactions).At row.id _
      rw [DB.withTransactions_transactions, ← hid]
      exact ⟨_, Table.mem_update_self hr₀, by simp, .inr rfl⟩

/-- A closing command has the outcome that its answer tells. Reference: none. -/
theorem exec_outcome (hi : s.ReceiptsProven) (hk : ∀ call ∈ h, KnownRows call s)
    (hc : SourcedBy h c) (hclose : closingCall s env c) (hx : exec W s c env = some (a, s')) :
    Outcome s'.db.transactions ⟨c, a⟩ := by
  unfold Outcome
  split
  · next row preimage feeMsat selfPayment st heq =>
    cases heq
    exact fun hty => exec_settles (hc.sourced hk) hx (hclose hty)
  · next row preimage feeMsat selfPayment e heq =>
    cases heq
    obtain ⟨-, he | hb⟩ := Hub.transaction_error hx
    · exact he
    · simp only [markTransactionSettledTx] at hb
      split at hb
      · cases hb
      · split at hb <;> cases hb
        exact ⟨_, rfl⟩
  · next row reason x heq =>
    cases heq
    exact (exec_fails (hc.sourced hk) hx).resolve_left fun ⟨_, he⟩ => nomatch he
  · next row reason e heq =>
    cases heq
    refine (exec_fails (hc.sourced hk) hx).imp_left ?_
    rintro ⟨text, ⟨⟩⟩
    exact ⟨text, rfl⟩
  · next payReq amountMsat response heq =>
    cases heq
    obtain ⟨-, hr⟩ := Hub.lnClient_eq hx
    cases hp : env.payInvoice with
    | error e => rw [hp] at hr; cases hr
    | ok x =>
      rw [hp] at hr
      cases hr
      simpa [closingCall, hp] using hclose
  · next row e heq =>
    cases heq
    obtain ⟨hfault, hstore, hid⟩ := hclose
    have hcreate : createForTx env s.db row = createTx env s.db row := if_pos hid
    simp [exec, Hub.transaction, hcreate, createTx, hfault, hstore] at hx
  · next since paymentRequest row heq =>
    cases heq
    simp only [exec, Option.map_eq_some_iff] at hx
    obtain ⟨update, hpick, hs⟩ := hx
    cases hs
    obtain ⟨event, hevent, hupdate⟩ := List.mem_filterMap.1 (mem_of_pick hpick)
    unfold holdUpdate at hupdate
    split at hupdate
    · split at hupdate <;> cases hupdate
      exact hi _ (List.mem_of_mem_drop hevent)
    · split at hupdate <;> cases hupdate
    · cases hupdate
  · trivial

/-- A publication keeps the receipts proven. Reference: none. -/
theorem exec_receiptsProven (hi : s.ReceiptsProven) (hk : ∀ call ∈ h, Held op call s)
    (hc : SourcedBy h c) (hx : exec W s c env = some (a, s')) : s'.ReceiptsProven := by
  intro row hrow
  obtain ⟨events, hpub, hev⟩ := exec_published hx
  rw [hpub] at hrow
  rcases List.mem_append.1 hrow with hrow | hrow
  · exact hi row hrow
  · rcases hev with ⟨event, rfl, rfl⟩ | ⟨-, hden⟩
    · obtain ⟨⟨more, hmore⟩, -⟩ := hc
      rw [← List.mem_singleton.1 hrow] at hmore
      obtain ⟨call, hcall, hmem⟩ := mem_handedEvents_of_toPublish (hmore ▸ List.mem_cons_self)
      exact (hk call hcall).handed row hmem
    · exact nomatch hden _ hrow

/-- What is held is sound. Reference: none. -/
theorem held_sound (W : World) :
    Sound (exec W) (body W) closingSteps.allowed (fun _ => SourcedBy)
      (fun op h r => op.isPayment = true → PaymentPost h r) closingSteps.call
      Hub.ReceiptsProven Held where
  body := body_exits W
  obeys cfg i e op h c k ha hi := ha op h c k hi
  step op h s c env a s' hi hk hc hp hx := by
    obtain ⟨hstep, hrows, -⟩ := exec_sourced (fun call hcall => (hk call hcall).rows) hc hx
    refine ⟨exec_receiptsProven hi hk hc hx, ⟨hrows, exec_inserted hc hx, ?_, fun hpay => ?_⟩,
      fun _ _ => Held.step hstep⟩
    · intro row hrow
      obtain ⟨-, r, preimage, _, _, -, ⟨rfl, rfl, -⟩ | ⟨rfl, rfl, -⟩⟩ := exec_received hx hrow
      · exact fun he => hc.2 (Option.some.inj he)
      · exact fun he => hc.1 (Option.some.inj he)
    · exact exec_outcome hi (fun call hcall => (hk call hcall).rows) hc (hp hpay) hx

end

/-- The database failed the transaction that should have closed the row. Reference:
`transactions/transactions_service.go:1477`, `:1712`. -/
def StatusUpdateFailed (h : History) (row : Transaction) : Prop :=
  ∃ text, (∃ preimage feeMsat selfPayment,
      Did h (.markTransactionSettledTx row preimage feeMsat selfPayment)
        (.error (.database text))) ∨
    ∃ reason, Did h (.markPaymentFailedTx row reason) (.error (.database text))

/-- Every payment call that inserted a row and has returned since has left no reservation: on
success the row is settled, on an error it is failed (or settled by a notification meanwhile), and
its reserve is released, unless the database failed the closing transaction. Reference:
`transactions/transactions_service.go:301 SendPaymentSync`, `:465 SendKeysend`. -/
def Pool.NoReservationLeft (cfg : Pool) : Prop :=
  ∀ t ∈ cfg.threads, t.op.isPayment = true → ∀ result, t.rest = .ret result →
    ∀ call ∈ t.hist, ∀ row, insertedRow call = some row → ¬ StatusUpdateFailed t.hist row →
      ∃ r ∈ cfg.state.db.transactions.rows, r.id = row.id ∧ r.feeReserveMsat = 0 ∧
        match result with
        | .ok _ => r.state = .settled
        | .error _ => r.state = .failed ∨ r.state = .settled

/-- A payment whose steps close its row leaves no reservation, over any table and in any company.
Reference: `transactions/transactions_service.go:301 SendPaymentSync`, `:465 SendKeysend`. -/
theorem payment_closes_row (W : World) {cfg : Pool}
    (h : Reachable W (Fresh fun _ => True) closingSteps.allowed cfg) : cfg.NoReservationLeft := by
  have hd := h.sound (held_sound W) fun cfg hf =>
    ⟨by simp [Hub.ReceiptsProven, hf.2.1], by simp [hf.2.2], by simp [hf.2.2], by simp [hf.2.2]⟩
  intro t ht hpay result hret call hcall row hrow hdb
  have hheld := fun {c a} (hdid : Did t.hist c a) => hd.known t ht _ hdid
  have hres := (hd.known t ht call hcall).inserted row hrow
  have hty : row.type = .outgoing := by
    obtain ⟨r, hr, hid, hout, -⟩ := hres
    have hknows := (hd.known t ht call hcall).rows row (answeredRows_of_insertedRow hrow)
    exact (congrArg Identity.type (hknows.identity_of_id hr hid)).symm.trans hout
  -- the closed row is not pending, so it is released
  have finish : ∀ {p : Transaction → Prop}, (∀ r, p r → r.Closed) →
      cfg.state.db.transactions.At row.id p →
      ∃ r ∈ cfg.state.db.transactions.rows, r.id = row.id ∧ r.feeReserveMsat = 0 ∧ p r := by
    intro p hp hat
    obtain ⟨r, hr, hid, ⟨-, hpend | hrel⟩, hpr⟩ := hres.and hat
    · rcases hp r hpr with hs | hs <;> rw [hpend] at hs <;> cases hs
    · exact ⟨r, hr, hid, hrel.2, hpr⟩
  have hexit := hd.returned ht hret hpay call hcall row hrow
  cases result with
  | ok x =>
    obtain ⟨preimage, feeMsat, selfPayment, st, hdid⟩ := hexit
    exact finish (fun _ => .inl) ((hheld hdid).outcome hpay hty)
  | error e =>
    have closed : cfg.state.db.transactions.At row.id (·.Closed) := by
      rcases hexit with ⟨reason, r, hdid⟩ | ⟨preimage, feeMsat, selfPayment, e, hdid⟩ |
        ⟨payReq, amountMsat, response, hdid, hp⟩ | ⟨since, paymentRequest, settled, hdid, hp⟩ |
        ⟨incoming, e, hdid⟩
      · have ho := (hheld hdid).outcome hpay
        cases r with
        | ok x => exact ho
        | error e =>
          refine Or.resolve_left ho ?_
          rintro ⟨text, rfl⟩
          exact hdb ⟨text, .inr ⟨reason, hdid⟩⟩
      · obtain ⟨text, rfl⟩ := (hheld hdid).outcome hpay
        exact absurd ⟨text, .inl ⟨preimage, feeMsat, selfPayment, hdid⟩⟩ hdb
      · exact absurd hp ((hheld hdid).outcome hpay)
      · exact absurd hp ((hheld hdid).outcome hpay)
      · exact ((hheld hdid).outcome hpay).elim
    obtain ⟨r, hr, hid, hz, hc⟩ := finish (fun _ hc => hc) closed
    exact ⟨r, hr, hid, hz, hc.symm⟩

theorem payment_closes_row_keysend :
    ((demoPool .empty).after demo (demoKeysendRun 0)).NoReservationLeft :=
  payment_closes_row demo
    (.of_after (.start ⟨trivial, rfl, rfl⟩) (by decide +kernel) (by decide +kernel))

/-- The closing transaction failed. Reference: none. -/
def closingError : Call Cmd Cmd.Ans → Bool
  | ⟨.markTransactionSettledTx _ _ _ _, .error _⟩ | ⟨.markPaymentFailedTx _ _, .error _⟩ => true
  | _ => false

/-- Whether a payment call has returned and left its row pending. Reference: none. -/
def Pool.leavesPending (cfg : Pool) : Bool :=
  cfg.threads.any fun t => t.op.isPayment && t.rest.done && !t.hist.any closingError &&
    t.hist.any fun call => (insertedRow call).any fun row =>
      cfg.state.db.transactions.rows.any fun r => r.id = row.id ∧ r.state = .pending

theorem Pool.not_noReservationLeft {cfg : Pool} (hl : cfg.leavesPending = true) :
    ¬ cfg.NoReservationLeft := by
  intro hno
  simp only [leavesPending, List.any_eq_true, Bool.and_eq_true, Bool.not_eq_true',
    Option.any_eq_true, decide_eq_true_eq] at hl
  obtain ⟨t, ht, ⟨⟨hpay, hdone⟩, herr⟩, call, hcall, row, hrow, r, hr, hid, hpend⟩ := hl
  cases hret : t.rest with
  | cmd c k => rw [hret] at hdone; cases hdone
  | ret result =>
    have noError : ∀ call ∈ t.hist, closingError call = false := by
      simpa using herr
    have hok : ¬ StatusUpdateFailed t.hist row := by
      rintro ⟨text, ⟨_, _, _, hd⟩ | ⟨_, hd⟩⟩
      · cases noError _ hd
      · cases noError _ hd
    obtain ⟨r', hr', hid', -, hst⟩ := hno t ht hpay result hret call hcall row hrow hok
    rw [← Table.eq_of_id hr hr' (hid.trans hid'.symm), hpend] at hst
    cases result <;> simp at hst

/-- Two keysends to the own node with one preimage. Reference:
`transactions/transactions_service.go:465 SendKeysend`. -/
def reusedPreimage : List PoolLabel :=
  demoKeysendRun 0 ++ .spawn demoKeysend :: steps 1 5 { now := demoNow }

/-- The second keysend with a preimage returns success and leaves its row pending: its settlement
finds the settled row of the first one. Reference:
`transactions/transactions_service.go:1477 markTransactionSettled`. -/
theorem payment_leaves_row_pending :
    Reachable demo (Fresh fun _ => True) anyStep ((demoPool .empty).after demo reusedPreimage) ∧
      ¬ ((demoPool .empty).after demo reusedPreimage).NoReservationLeft :=
  ⟨.of_after (.start ⟨trivial, rfl, rfl⟩) Config.allows_any (by decide +kernel),
    Pool.not_noReservationLeft (by decide +kernel)⟩

end AlbyHub
