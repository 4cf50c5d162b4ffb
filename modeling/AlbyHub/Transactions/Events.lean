import AlbyHub.Interaction.Solo
import AlbyHub.Transactions.Effects
import AlbyHub.Transactions.Runs

/-!
# Which rows a node event changes

`ConsumeEvent` looks the row of a payment up by its type, state and payment hash, never by the
invoice, and takes any of the rows that it finds. Alone on any table, it changes rows of the event's
invoice only if, and only if, each row that it may find and would change carries that invoice
(`consumeEvent_hits_invoice`). Wrapped invoices share a hash, so their tables are not of this kind.
-/

namespace AlbyHub

open Go Interaction

/-- Only rows of the invoice are changed; a new row is of the invoice, which had none of its type.
Reference: none. -/
structure Table.OnlyInvoice (type : TransactionType) (invoice : String) (t t' : Table) : Prop where
  kept : ∀ r ∈ t.rows, r.paymentRequest ≠ invoice → r ∈ t'.rows
  fresh : ∀ r' ∈ t'.rows, (∀ r ∈ t.rows, r.id ≠ r'.id) → r'.paymentRequest = invoice ∧
    ∀ r ∈ t.rows, r.type = type → r.paymentRequest ≠ invoice

section
variable {W : World} {env : Env} {s s' : Hub} {t : Table} {r row : Transaction} {id : Nat}
variable {type : TransactionType} {invoice : String} {u : Update}

theorem Table.OnlyInvoice.refl (t : Table) : t.OnlyInvoice type invoice t where
  kept _ hr _ := hr
  fresh r' hr' hnew := absurd rfl (hnew r' hr')

/-- An update of a row of the invoice. Reference: none. -/
theorem Table.OnlyInvoice.update (hr : r ∈ t.rows) (hi : r.paymentRequest = invoice) :
    t.OnlyInvoice type invoice (t.update r.id u) where
  kept r' hr' hne := Table.mem_update_of_ne hr' fun hid =>
    hne (Table.eq_of_id hr' hr hid ▸ hi)
  fresh r' hr' hnew := by
    obtain ⟨r₀, hr₀, rfl⟩ := Table.mem_update.1 hr'
    exact absurd (Table.updateRow_id ..).symm (hnew r₀ hr₀)

/-- An update that does not leave the row as it is, of a row of another invoice. Reference: none. -/
theorem Table.OnlyInvoice.not_update (hr : r ∈ t.rows) (hi : r.paymentRequest ≠ invoice)
    (hu : u r ≠ r) : ¬ t.OnlyInvoice type invoice (t.update r.id u) := by
  intro h
  obtain ⟨r₀, hr₀, heq⟩ := Table.mem_update.1 (h.kept r hr hi)
  have hid : r₀.id = r.id := by rw [← heq]; exact (Table.updateRow_id ..).symm
  rw [Table.eq_of_id hr₀ hr hid, Table.updateRow_of_eq rfl] at heq
  exact hu heq

/-- A new row of the invoice. Reference: none. -/
theorem Table.onlyInvoice_create {now : Time} (hi : row.paymentRequest = invoice) :
    t.OnlyInvoice type invoice (t.create now row) ↔
      ∀ r ∈ t.rows, r.type = type → r.paymentRequest ≠ invoice := by
  constructor
  · intro h
    have hlast : t.created now row ∈ (t.create now row).rows := Table.mem_create.2 (.inr rfl)
    exact (h.fresh _ hlast fun r hr => Table.created_id_ne hr).2
  · intro h
    refine ⟨fun r hr _ => Table.mem_create.2 (.inl hr), fun r' hr' hnew => ?_⟩
    rcases Table.mem_create.1 hr' with hr' | rfl
    · exact absurd rfl (hnew r' hr')
    · exact ⟨hi, h⟩

/-- The rows that a query may answer. Reference: gorm `Find` with `Limit(1)`. -/
def Table.found (t : Table) (q : Where) (order : Order) : List Transaction :=
  order.first (t.select q)

/-- A lookup answers any of the rows, or none when there are none; or it fails. Reference: gorm
`Find` with `Limit(1)`. -/
theorem runs_find {q : Where} {order : Order} {a : Except Err (Option Transaction)} :
    (ask (.find q order)).Runs (exec W) s a s' ↔
      s' = s ∧ ((∃ text, a = .error (.database text)) ∨
        ∃ n, a = .ok (pick n (s.db.transactions.found q order))) := by
  rw [ask, Prog.runs_call]
  constructor
  · rintro ⟨env, hx⟩
    obtain ⟨hs, he | ha⟩ := Hub.read_eq hx
    · exact ⟨hs, .inl he⟩
    · exact ⟨hs, .inr ⟨_, ha⟩⟩
  · rintro ⟨rfl, ⟨text, rfl⟩ | ⟨n, rfl⟩⟩
    · exact ⟨{ fault := some text }, rfl⟩
    · exact ⟨{ pick := n }, rfl⟩

/-- Publications leave the database. Reference:
`transactions/transactions_service.go:1655 publishEvents`. -/
theorem runs_publishEvents {events : List Event} {a : Unit} :
    (publishEvents events).Runs (exec W) s a s' ↔
      s' = { s with published := s.published ++ events } := by
  induction events generalizing s with
  | nil => simp [publishEvents]
  | cons event events ih =>
    constructor
    · rintro ⟨env, r, s₁, hx, h⟩
      cases hx
      rw [ih.1 h, List.append_assoc, List.singleton_append]
    · rintro rfl
      refine ⟨{}, (), _, rfl, ih.2 ?_⟩
      simp

end

/-- The event's payment would settle the row. Reference:
`transactions/transactions_service.go:1470 markTransactionSettled`. -/
def LnTransaction.Settles (t : Table) (tx : LnTransaction) (r : Transaction) : Prop :=
  tx.preimage ≠ "" ∧ uint64OfInt tx.feesPaidMsat < 2 ^ 63 ∧ t.select r.settledFilter = []

instance (t : Table) (tx : LnTransaction) (r : Transaction) : Decidable (tx.Settles t r) :=
  inferInstanceAs (Decidable (_ ∧ _))

/-- The event's payment can be recorded in a row of its own. Reference:
`transactions/transactions_service.go:1528 createSettledTransactionFromNotification`. -/
def LnTransaction.Recordable (tx : LnTransaction) : Prop :=
  tx.preimage ≠ "" ∧ uint64OfInt tx.amountMsat < 2 ^ 63 ∧ uint64OfInt tx.feesPaidMsat < 2 ^ 63

/-- The rows that the lookups for a sent payment may answer. Reference:
`transactions/transactions_service.go:889 ConsumeEvent`. -/
def sentCandidates (t : Table) (paymentHash : String) : List Transaction :=
  let pending := t.found { type := some .outgoing, state := some .pending, paymentHash } .none
  let failed :=
    t.found { type := some .outgoing, state := some .failed, paymentHash } .latestUpdated
  if pending ≠ [] then pending
  else if failed ≠ [] then failed
  else t.found { type := some .outgoing, paymentHash } .none

/-- No row of the type carries the invoice. Reference: none. -/
def Table.NoRowOf (t : Table) (type : TransactionType) (invoice : String) : Prop :=
  ∀ r ∈ t.rows, r.type = type → r.paymentRequest ≠ invoice

/-- Each row that the event may find and would change carries its invoice, and where it finds none
and records the payment, no row of the type does. Reference:
`transactions/transactions_service.go:795 ConsumeEvent`. -/
def NodeEvent.HitsInvoice (W : World) (t : Table) : NodeEvent → Prop
  | .paymentReceived tx =>
    let found := t.found { type := some .incoming, paymentHash := tx.paymentHash } .none
    (∀ r ∈ found, tx.Settles t r → r.paymentRequest = tx.invoice) ∧
      (found = [] → tx.Recordable →
        (∀ fields, tx.metadata = some fields → ∃ bytes, W.marshal (.object fields) = .ok bytes) →
        t.NoRowOf .incoming tx.invoice)
  | .paymentSent tx =>
    let found := sentCandidates t tx.paymentHash
    (∀ r ∈ found, tx.Settles t r → r.paymentRequest = tx.invoice) ∧
      (found = [] → tx.Recordable → t.NoRowOf .outgoing tx.invoice)
  | .paymentFailed tx _ => ∀ r ∈ t.found
    { type := some .outgoing, state := some .pending, paymentHash := tx.paymentHash } .none,
    r.paymentRequest = tx.invoice
  | .holdInvoiceAccepted _ => True

/-- The invoice of the event's payment. Reference: `lnclient/models.go:31 Transaction`. -/
def NodeEvent.invoice : NodeEvent → String
  | .paymentReceived tx | .holdInvoiceAccepted tx | .paymentSent tx | .paymentFailed tx _ =>
    tx.invoice

/-- The type of the rows that the event is about. Reference:
`transactions/transactions_service.go:795 ConsumeEvent`. -/
def NodeEvent.rowType : NodeEvent → TransactionType
  | .paymentReceived _ | .holdInvoiceAccepted _ => .incoming
  | .paymentSent _ | .paymentFailed _ _ => .outgoing

section
variable {W : World} {s s' : Hub} {r row : Transaction} {preimage reason : String} {feeMsat : Nat}
variable {selfPayment : Bool}

/-- What a settlement does to the table. Reference:
`transactions/transactions_service.go:1470 markTransactionSettled`. -/
theorem runs_markTransactionSettled {a : Except Err Transaction}
    (h : (markTransactionSettled row preimage feeMsat selfPayment).Runs (exec W) s a s') :
    s'.db.transactions = s.db.transactions ∨
      (preimage ≠ "" ∧ feeMsat < 2 ^ 63 ∧ s.db.transactions.select row.settledFilter = [] ∧
        ∃ now, s'.db.transactions =
          s.db.transactions.update row.id (settleUpdate preimage feeMsat selfPayment now)) := by
  obtain ⟨a, s₂, hcopy, -, rfl⟩ := Prog.runs_bind.1 h
  unfold settleCopy at hcopy
  split at hcopy
  · obtain ⟨-, rfl⟩ := hcopy
    exact .inl rfl
  · next hp =>
    obtain ⟨env, x, s₁, hx, hrest⟩ := Prog.runs_call_bind.1 hcopy
    cases x with
    | error e =>
      obtain ⟨-, rfl⟩ := hrest
      exact .inl (congrArg DB.transactions (Hub.transaction_error hx).1)
    | ok st =>
      obtain ⟨_, s₃, hpub, -, rfl⟩ := Prog.runs_bind.1 hrest
      rw [runs_publishEvents.1 hpub]
      obtain ⟨db, hb, rfl⟩ := Hub.transaction_ok hx
      rcases markTransactionSettledTx_ok hb with ⟨_, -, -, -, rfl⟩ | ⟨hn, hfee, -, -, -, -, ht⟩
      · exact .inl rfl
      · exact .inr ⟨hp, hfee, hn, env.now, ht⟩

/-- The transaction of a settlement that finds no settled row of the payment. Reference:
`transactions/transactions_service.go:1476 markTransactionSettled`. -/
theorem exists_markTransactionSettledTx (hfee : feeMsat < 2 ^ 63)
    (hn : s.db.transactions.select row.settledFilter = []) :
    ∃ st db, markTransactionSettledTx W {} s.db row preimage feeMsat selfPayment = .ok (st, db) ∧
      db.transactions =
        s.db.transactions.update row.id (settleUpdate preimage feeMsat selfPayment 0) := by
  have hfind : findSettledTransaction {} s.db row = none := pick_eq_none.2 hn
  simp only [markTransactionSettledTx, hfind, if_pos hfee]
  exact ⟨_, _, rfl, (afterTransactionSettled_spec ..).1⟩

/-- A settlement that finds no settled row of the payment can succeed. Reference:
`transactions/transactions_service.go:1470 markTransactionSettled`. -/
theorem exists_runs_markTransactionSettled (hp : preimage ≠ "") (hfee : feeMsat < 2 ^ 63)
    (hn : s.db.transactions.select row.settledFilter = []) :
    ∃ a s', (markTransactionSettled row preimage feeMsat selfPayment).Runs (exec W) s a s' ∧
      s'.db.transactions =
        s.db.transactions.update row.id (settleUpdate preimage feeMsat selfPayment 0) := by
  obtain ⟨st, db, hb, ht⟩ : ∃ st db, markTransactionSettledTx W {} s.db row preimage feeMsat
      selfPayment = .ok (st, db) ∧ db.transactions =
        s.db.transactions.update row.id (settleUpdate preimage feeMsat selfPayment 0) :=
    exists_markTransactionSettledTx hfee hn
  have hcopy : (settleCopy row preimage feeMsat selfPayment).Runs (exec W) s
      (.ok (st.settled, st.copy)) ⟨db, s.published ++ st.events⟩ := by
    unfold settleCopy
    rw [if_neg hp]
    refine Prog.runs_call_bind.2 ⟨{}, .ok st, ⟨db, s.published⟩, ?_, ?_⟩
    · simp [exec, Hub.transaction, hb]
    · exact Prog.runs_bind.2 ⟨(), _, runs_publishEvents.2 rfl, rfl, rfl⟩
  exact ⟨_, _, Prog.runs_bind.2 ⟨_, _, hcopy, rfl, rfl⟩, ht⟩

/-- What the record of a notified payment does to the table. Reference:
`transactions/transactions_service.go:1528 createSettledTransactionFromNotification`. -/
theorem runs_createSettled {a : Except Err Transaction}
    (h : (createSettledTransactionFromNotification row preimage feeMsat selfPayment).Runs (exec W)
      s a s') :
    s'.db.transactions = s.db.transactions ∨
      (preimage ≠ "" ∧ row.amountMsat < 2 ^ 63 ∧ feeMsat < 2 ^ 63 ∧
        ∃ now, s'.db.transactions = s.db.transactions.create now
          (settleUpdate preimage feeMsat selfPayment now row)) := by
  unfold createSettledTransactionFromNotification at h
  split at h
  · obtain ⟨-, rfl⟩ := h
    exact .inl rfl
  · next hp =>
    obtain ⟨env, x, s₁, hx, hrest⟩ := Prog.runs_call_bind.1 h
    cases x with
    | error e =>
      obtain ⟨-, rfl⟩ := hrest
      exact .inl (congrArg DB.transactions (Hub.transaction_error hx).1)
    | ok st =>
      obtain ⟨_, s₃, hpub, -, rfl⟩ := Prog.runs_bind.1 hrest
      rw [runs_publishEvents.1 hpub]
      obtain ⟨db, hb, rfl⟩ := Hub.transaction_ok hx
      rcases createSettledTransactionTx_ok hb with ⟨_, -, -, -, rfl⟩ | ⟨-, hstore, -, -, -, ht⟩
      · exact .inl rfl
      · exact .inr ⟨hp, hstore.1, hstore.2.1, env.now, ht⟩

/-- A notified payment that has no settled row can be recorded. Reference:
`transactions/transactions_service.go:1528 createSettledTransactionFromNotification`. -/
theorem exists_runs_createSettled (hp : preimage ≠ "") (hamount : row.amountMsat < 2 ^ 63)
    (hfee : feeMsat < 2 ^ 63) (hn : s.db.transactions.select row.settledFilter = []) :
    ∃ a s', (createSettledTransactionFromNotification row preimage feeMsat selfPayment).Runs
      (exec W) s a s' ∧ s'.db.transactions =
        s.db.transactions.create 0 (settleUpdate preimage feeMsat selfPayment 0 row) := by
  have hfind : findSettledTransaction {} s.db row = none := pick_eq_none.2 hn
  have hstore : (settleUpdate preimage feeMsat selfPayment 0 row).Storable :=
    ⟨hamount, hfee, Nat.two_pow_pos 63⟩
  obtain ⟨st, db, hb, ht⟩ : ∃ st db, createSettledTransactionTx W {} s.db row preimage feeMsat
      selfPayment = .ok (st, db) ∧ db.transactions =
        s.db.transactions.create 0 (settleUpdate preimage feeMsat selfPayment 0 row) := by
    simp only [createSettledTransactionTx, hfind, createTx, if_pos hstore]
    exact ⟨_, _, rfl, (afterTransactionSettled_spec ..).1⟩
  refine ⟨.ok st.settled, ⟨db, s.published ++ st.events⟩, ?_, ht⟩
  unfold createSettledTransactionFromNotification
  rw [if_neg hp]
  refine Prog.runs_call_bind.2 ⟨{}, .ok st, ⟨db, s.published⟩, ?_, ?_⟩
  · simp [exec, Hub.transaction, hb]
  · exact Prog.runs_bind.2 ⟨(), _, runs_publishEvents.2 rfl, rfl, rfl⟩

/-- What a failure does to the table. Reference:
`transactions/transactions_service.go:1709 markPaymentFailed`. -/
theorem runs_markPaymentFailed {a : Except Err (Bool × Transaction)}
    (h : (markPaymentFailed row reason).Runs (exec W) s a s') :
    s'.db.transactions = s.db.transactions ∨
      ∃ now, s'.db.transactions = s.db.transactions.update row.id (failUpdate reason now) := by
  obtain ⟨env, x, s₁, hx, hrest⟩ := Prog.runs_call_bind.1 h
  cases x with
  | error e =>
    obtain ⟨-, rfl⟩ := hrest
    exact .inl (congrArg DB.transactions (Hub.transaction_error hx).1)
  | ok x =>
    obtain ⟨marked, copy⟩ := x
    obtain ⟨_, s₃, hpub, -, rfl⟩ := Prog.runs_bind.1 hrest
    rw [runs_publishEvents.1 hpub]
    obtain ⟨db, hb, rfl⟩ := Hub.transaction_ok hx
    obtain ⟨_, -, -, ⟨-, -, -, rfl⟩ | ⟨-, -, -, rfl⟩⟩ := markPaymentFailedTx_ok hb
    · exact .inl rfl
    · exact .inr ⟨env.now, rfl⟩

/-- A pending row can be failed. Reference:
`transactions/transactions_service.go:1709 markPaymentFailed`. -/
theorem exists_runs_markPaymentFailed (hr : r ∈ s.db.transactions.rows) (hst : r.state = .pending) :
    ∃ a s', (markPaymentFailed r reason).Runs (exec W) s a s' ∧
      s'.db.transactions = s.db.transactions.update r.id (failUpdate reason 0) := by
  have hpos := s.db.transactions.id_pos r hr
  obtain ⟨db, hb, ht⟩ : ∃ db, markPaymentFailedTx {} s.db r reason =
      .ok ((true, failUpdate reason 0 r), db) ∧
      db.transactions = s.db.transactions.update r.id (failUpdate reason 0) := by
    unfold markPaymentFailedTx
    cases hfind : pick 0 (s.db.transactions.select { id := r.id }) with
    | none =>
      have hm : r ∈ s.db.transactions.select { id := r.id } :=
        Table.mem_select.2 ⟨hr, by simp [Where.Matches]⟩
      rw [pick_eq_none.1 hfind] at hm
      cases hm
    | some existing =>
      obtain ⟨hmem, hm⟩ := Table.mem_select.1 (mem_of_pick hfind)
      have heq : existing = r := Table.eq_of_id hmem hr (hm.1.resolve_left (Nat.ne_of_gt hpos))
      simp only [heq, hst]
      exact ⟨_, rfl, rfl⟩
  refine ⟨.ok (true, failUpdate reason 0 r), ⟨db, s.published ++
    [.paymentFailed (failUpdate reason 0 r)]⟩, ?_, ht⟩
  refine Prog.runs_call_bind.2 ⟨{}, .ok (true, failUpdate reason 0 r), ⟨db, s.published⟩, ?_, ?_⟩
  · simp [exec, Hub.transaction, hb]
  · exact Prog.runs_bind.2 ⟨(), _, runs_publishEvents.2 rfl, rfl, rfl⟩

/-- The lookup of an app reads. Reference:
`transactions/transactions_service.go:1279 getAppIdFromCustomRecords`. -/
theorem runs_getAppIdFromCustomRecords {records : List TLVRecord} {a : Option Nat}
    (h : (getAppIdFromCustomRecords records).Runs (exec W) s a s') : s' = s := by
  induction records generalizing s with
  | nil => exact h.2
  | cons record records ih =>
    unfold getAppIdFromCustomRecords at h
    split at h
    · exact ih h
    · split at h
      · exact ih h
      · obtain ⟨env, r, s₁, hx, hrest⟩ := Prog.runs_call_bind.1 h
        have hs : s₁ = s := exec_of_not_writes rfl hx
        subst hs
        cases r with
        | error e => exact ih hrest
        | ok app => exact hrest.2

theorem exists_runs_getAppIdFromCustomRecords (records : List TLVRecord) :
    ∃ a, (getAppIdFromCustomRecords records).Runs (exec W) s a s := by
  induction records with
  | nil => exact ⟨none, rfl, rfl⟩
  | cons record records ih =>
    obtain ⟨a, ha⟩ := ih
    unfold getAppIdFromCustomRecords
    split
    · exact ⟨a, ha⟩
    · split
      · exact ⟨a, ha⟩
      · exact ⟨a, Prog.runs_call_bind.2 ⟨{ fault := some "" }, .error (.database ""), s, rfl, ha⟩⟩

/-- The lookups for a sent payment. Reference: `transactions/transactions_service.go:889
ConsumeEvent`. -/
theorem runs_findSent {paymentHash : String} {a : Except Err (Option Transaction)}
    (h : (findSent paymentHash).Runs (exec W) s a s') :
    s' = s ∧ ((∃ text, a = .error (.database text)) ∨
      ∃ n, a = .ok (pick n (sentCandidates s.db.transactions paymentHash))) := by
  obtain ⟨r, s₁, hfind, hrest⟩ := Prog.runs_bind.1 h
  obtain ⟨rfl, ⟨text, rfl⟩ | ⟨n, rfl⟩⟩ := runs_find.1 hfind
  · exact ⟨hrest.2, .inl ⟨text, hrest.1⟩⟩
  cases hp : pick n (s₁.db.transactions.found
    { type := some .outgoing, state := some .pending, paymentHash } .none) with
  | some row =>
    rw [hp] at hrest
    have hne := List.ne_nil_of_mem (mem_of_pick hp)
    refine ⟨hrest.2, .inr ⟨n, ?_⟩⟩
    rw [sentCandidates, if_pos hne]
    exact hrest.1.trans (congrArg Except.ok hp.symm)
  | none =>
    rw [hp] at hrest
    have hnil := pick_eq_none.1 hp
    obtain ⟨r, s₂, hfind, hrest⟩ := Prog.runs_bind.1 hrest
    obtain ⟨rfl, ⟨text, rfl⟩ | ⟨m, rfl⟩⟩ := runs_find.1 hfind
    · exact ⟨hrest.2, .inl ⟨text, hrest.1⟩⟩
    cases hf : pick m (s₂.db.transactions.found
      { type := some .outgoing, state := some .failed, paymentHash } .latestUpdated) with
    | some row =>
      rw [hf] at hrest
      have hne := List.ne_nil_of_mem (mem_of_pick hf)
      refine ⟨hrest.2, .inr ⟨m, ?_⟩⟩
      rw [sentCandidates, if_neg (not_not.2 hnil), if_pos hne]
      exact hrest.1.trans (congrArg Except.ok hf.symm)
    | none =>
      rw [hf] at hrest
      obtain ⟨rfl, hlast⟩ := runs_find.1 hrest
      refine ⟨rfl, hlast.imp_right ?_⟩
      rintro ⟨k, rfl⟩
      refine ⟨k, ?_⟩
      rw [sentCandidates, if_neg (not_not.2 hnil), if_neg (not_not.2 (pick_eq_none.1 hf))]

theorem exists_runs_findSent {paymentHash : String} (n : Nat) :
    (findSent paymentHash).Runs (exec W) s
      (.ok (pick n (sentCandidates s.db.transactions paymentHash))) s := by
  refine Prog.runs_bind.2 ⟨_, s, runs_find.2 ⟨rfl, .inr ⟨n, rfl⟩⟩, ?_⟩
  cases hp : pick n (s.db.transactions.found
    { type := some .outgoing, state := some .pending, paymentHash } .none) with
  | some row =>
    rw [sentCandidates, if_pos (List.ne_nil_of_mem (mem_of_pick hp))]
    exact ⟨congrArg Except.ok hp, rfl⟩
  | none =>
    have hnil := pick_eq_none.1 hp
    refine Prog.runs_bind.2 ⟨_, s, runs_find.2 ⟨rfl, .inr ⟨n, rfl⟩⟩, ?_⟩
    cases hf : pick n (s.db.transactions.found
      { type := some .outgoing, state := some .failed, paymentHash } .latestUpdated) with
    | some row =>
      rw [sentCandidates, if_neg (not_not.2 hnil), if_pos (List.ne_nil_of_mem (mem_of_pick hf))]
      exact ⟨congrArg Except.ok hf, rfl⟩
    | none =>
      rw [sentCandidates, if_neg (not_not.2 hnil), if_neg (not_not.2 (pick_eq_none.1 hf))]
      exact runs_find.2 ⟨rfl, .inr ⟨n, rfl⟩⟩

end

section
variable {W : World} {s s' : Hub} {tx : LnTransaction} {row : Transaction}
variable {type : TransactionType}

/-- The settlement of a row that was found, and that it settles, is right for the rows of the
invoice only. Reference: none. -/
theorem settle_onlyInvoice (hr : row ∈ s.db.transactions.rows) :
    (∀ a s', (markTransactionSettled row tx.preimage (uint64OfInt tx.feesPaidMsat) false).Runs
      (exec W) s a s' → s.db.transactions.OnlyInvoice type tx.invoice s'.db.transactions) ↔
    (tx.Settles s.db.transactions row → row.paymentRequest = tx.invoice) := by
  constructor
  · rintro h ⟨hp, hfee, hn⟩
    by_contra hne
    obtain ⟨a, s', hruns, ht⟩ := exists_runs_markTransactionSettled (W := W) (s := s) hp hfee hn
    have honly := h a s' hruns
    rw [ht] at honly
    refine Table.OnlyInvoice.not_update hr hne (fun heq => ?_) honly
    have hst : row.state = .settled := congrArg Transaction.state heq.symm
    exact Table.select_settledFilter_ne_nil hr hst rfl hn
  · intro h a s' hruns
    rcases runs_markTransactionSettled hruns with ht | ⟨hp, hfee, hn, now, ht⟩
    · rw [ht]
      exact .refl _
    · rw [ht]
      exact .update hr (h ⟨hp, hfee, hn⟩)

/-- A record of the payment is right when no row of the type carries the invoice. Reference:
none. -/
theorem record_onlyInvoice (hrow : row.paymentRequest = tx.invoice)
    (hamount : row.amountMsat = uint64OfInt tx.amountMsat)
    (hn : s.db.transactions.select row.settledFilter = []) :
    (∀ a s', (createSettledTransactionFromNotification row tx.preimage
      (uint64OfInt tx.feesPaidMsat) false).Runs (exec W) s a s' →
      s.db.transactions.OnlyInvoice type tx.invoice s'.db.transactions) ↔
    (tx.Recordable → s.db.transactions.NoRowOf type tx.invoice) := by
  constructor
  · rintro h ⟨hp, hstore, hfee⟩
    rw [← hamount] at hstore
    obtain ⟨a, s', hruns, ht⟩ := exists_runs_createSettled (W := W) (s := s) hp hstore hfee hn
    have honly := h a s' hruns
    rw [ht] at honly
    have hi : (settleUpdate tx.preimage (uint64OfInt tx.feesPaidMsat) false 0 row).paymentRequest =
        tx.invoice := hrow
    exact (Table.onlyInvoice_create hi).1 honly
  · intro h a s' hruns
    rcases runs_createSettled hruns with ht | ⟨hp, hstore, hfee, now, ht⟩
    · rw [ht]
      exact .refl _
    · rw [ht]
      have hi : (settleUpdate tx.preimage (uint64OfInt tx.feesPaidMsat) false now
          row).paymentRequest =
          tx.invoice := hrow
      exact (Table.onlyInvoice_create hi).2 (h ⟨hp, hamount ▸ hstore, hfee⟩)

/-- A row that is not settled yet has no settled row where none of its type and hash is there.
Reference: none. -/
theorem select_settledFilter_of_found_nil {t : Table} (hty : row.type = type)
    (hn : t.found { type := some type, paymentHash := row.paymentHash } .none = []) :
    t.select row.settledFilter = [] := by
  refine List.filter_eq_nil_iff.2 fun r hr hm => ?_
  have hm : row.settledFilter.Matches r := by simpa using hm
  obtain ⟨-, hm, -, -, hh⟩ := hm
  have hfound : r ∈ t.select { type := some type, paymentHash := row.paymentHash } := by
    refine Table.mem_select.2 ⟨hr, .inl rfl, ?_, .inl rfl, .inl rfl, hh⟩
    rw [← hty]
    exact hm
  have hnil : t.select { type := some type, paymentHash := row.paymentHash } = [] := hn
  rw [hnil] at hfound
  cases hfound

/-- Every state that the event may leave the hub in. Reference:
`transactions/transactions_service.go:795 ConsumeEvent`. -/
def NodeEvent.Right (W : World) (s : Hub) (event : NodeEvent) : Prop :=
  ∀ s', (ConsumeEvent W event).Runs (exec W) s () s' →
    s.db.transactions.OnlyInvoice event.rowType event.invoice s'.db.transactions

theorem paymentFailed_right {reason : String} :
    (NodeEvent.paymentFailed tx reason).Right W s ↔
      (NodeEvent.paymentFailed tx reason).HitsInvoice W s.db.transactions := by
  constructor
  · intro h row hfound
    by_contra hne
    obtain ⟨n, hpick⟩ := exists_pick hfound
    obtain ⟨hr, -, -, hst, -⟩ := Table.mem_select.1 (Order.mem_of_first hfound)
    have hst : row.state = .pending := (Option.some.inj (hst.resolve_left (by simp))).symm
    obtain ⟨a, s', hruns, ht⟩ : ∃ a s', (markPaymentFailed row reason).Runs (exec W) s a s' ∧ _ :=
      exists_runs_markPaymentFailed hr hst
    have honly := h s' <| by
      refine Prog.runs_bind.2 ⟨_, s, runs_find.2 ⟨rfl, .inr ⟨n, rfl⟩⟩, ?_⟩
      rw [hpick]
      exact Prog.runs_bind.2 ⟨a, s', hruns, rfl, rfl⟩
    rw [ht] at honly
    refine Table.OnlyInvoice.not_update hr hne (fun heq => ?_) honly
    rw [← heq] at hst
    cases hst
  · intro h s' hruns
    obtain ⟨r, s₁, hfind, hrest⟩ := Prog.runs_bind.1 hruns
    obtain ⟨rfl, ⟨text, rfl⟩ | ⟨n, rfl⟩⟩ := runs_find.1 hfind
    · rw [hrest.2]
      exact .refl _
    cases hpick : pick n (s₁.db.transactions.found
      { type := some .outgoing, state := some .pending, paymentHash := tx.paymentHash } .none) with
    | none =>
      rw [hpick] at hrest
      rw [hrest.2]
      exact .refl _
    | some row =>
      rw [hpick] at hrest
      obtain ⟨a, s₂, hfail, -, rfl⟩ := Prog.runs_bind.1 hrest
      have hfound := mem_of_pick hpick
      rcases runs_markPaymentFailed hfail with ht | ⟨now, ht⟩
      · rw [ht]
        exact .refl _
      · rw [ht]
        exact .update (Table.mem_select.1 (Order.mem_of_first hfound)).1 (h row hfound)

/-- A lookup, then the settlement of the row that it found or else a record of the payment: both
branches are right. Reference: `transactions/transactions_service.go:796`, `:882 ConsumeEvent`. -/
theorem found_onlyInvoice {l : List Transaction} {find : Svc (Except Err (Option Transaction))}
    {record : Svc Unit} {rest : Except Err (Option Transaction) → Svc Unit}
    (hl : ∀ r ∈ l, r ∈ s.db.transactions.rows)
    (hfind : ∀ a s', find.Runs (exec W) s a s' →
      s' = s ∧ ((∃ text, a = .error (.database text)) ∨ ∃ n, a = .ok (pick n l)))
    (hpick : ∀ n, find.Runs (exec W) s (.ok (pick n l)) s)
    (herror : ∀ e, rest (.error e) = pure ())
    (hnone : rest (.ok none) = record)
    (hsome : ∀ row, rest (.ok (some row)) = do
      let _ ← markTransactionSettled row tx.preimage (uint64OfInt tx.feesPaidMsat) false
      return ()) :
    (∀ s', (find >>= rest).Runs (exec W) s () s' →
      s.db.transactions.OnlyInvoice type tx.invoice s'.db.transactions) ↔
    (∀ r ∈ l, tx.Settles s.db.transactions r → r.paymentRequest = tx.invoice) ∧
      (l = [] → ∀ s', record.Runs (exec W) s () s' →
        s.db.transactions.OnlyInvoice type tx.invoice s'.db.transactions) := by
  constructor
  · intro h
    constructor
    · intro row hrow
      have only : ∀ a s', (markTransactionSettled row tx.preimage (uint64OfInt tx.feesPaidMsat)
          false).Runs (exec W) s a s' →
          s.db.transactions.OnlyInvoice type tx.invoice s'.db.transactions := fun a s' hruns => by
        obtain ⟨n, hn⟩ := exists_pick hrow
        refine h s' (Prog.runs_bind.2 ⟨_, s, hpick n, ?_⟩)
        rw [hn, hsome]
        exact Prog.runs_bind.2 ⟨a, s', hruns, rfl, rfl⟩
      exact (settle_onlyInvoice (hl row hrow)).1 only
    · intro hnil s' hruns
      refine h s' (Prog.runs_bind.2 ⟨_, s, hpick 0, ?_⟩)
      rw [hnil, pick_eq_none.2 rfl, hnone]
      exact hruns
  · rintro ⟨hsettle, hrecord⟩ s' hruns
    obtain ⟨a, s₁, hf, hrest⟩ := Prog.runs_bind.1 hruns
    obtain ⟨rfl, ⟨text, rfl⟩ | ⟨n, rfl⟩⟩ := hfind a s₁ hf
    · rw [herror] at hrest
      rw [hrest.2]
      exact .refl _
    · cases hn : pick n l with
      | none =>
        rw [hn, hnone] at hrest
        exact hrecord (pick_eq_none.1 hn) s' hrest
      | some row =>
        rw [hn, hsome] at hrest
        have hrow := mem_of_pick hn
        obtain ⟨a, s₂, hset, hs₂⟩ := Prog.runs_bind.1 hrest
        rw [hs₂.2]
        exact (settle_onlyInvoice (hl row hrow)).2 (hsettle row hrow) a s₂ hset

theorem mem_of_sentCandidates {t : Table} {paymentHash : String} {r : Transaction}
    (h : r ∈ sentCandidates t paymentHash) : r ∈ t.rows := by
  unfold sentCandidates at h
  simp only at h
  split at h
  · exact (Table.mem_select.1 (Order.mem_of_first h)).1
  · split at h <;> exact (Table.mem_select.1 (Order.mem_of_first h)).1

/-- Without candidates there is no outgoing row of the hash. Reference:
`transactions/transactions_service.go:921 ConsumeEvent`. -/
theorem found_nil_of_sentCandidates_nil {t : Table} {paymentHash : String}
    (h : sentCandidates t paymentHash = []) :
    t.found { type := some .outgoing, paymentHash } .none = [] := by
  unfold sentCandidates at h
  simp only at h
  split at h
  · next hne => exact absurd h hne
  · split at h
    · next hne => exact absurd h hne
    · exact h

theorem paymentSent_right :
    (NodeEvent.paymentSent tx).Right W s ↔
      (NodeEvent.paymentSent tx).HitsInvoice W s.db.transactions := by
  refine (found_onlyInvoice (l := sentCandidates s.db.transactions tx.paymentHash)
    (fun r hr => mem_of_sentCandidates hr) (fun a s' => runs_findSent) exists_runs_findSent
    (fun e => rfl) rfl (fun row => rfl)).trans
    (and_congr_right fun _ => forall_congr' fun hnil => ?_)
  have hn : s.db.transactions.select (sentRow tx).settledFilter = [] :=
    select_settledFilter_of_found_nil rfl (found_nil_of_sentCandidates_nil hnil)
  have hrecord : (∀ a s', (createSettledTransactionFromNotification (sentRow tx) tx.preimage
      (uint64OfInt tx.feesPaidMsat) false).Runs (exec W) s a s' →
      s.db.transactions.OnlyInvoice .outgoing tx.invoice s'.db.transactions) ↔ _ :=
    record_onlyInvoice rfl rfl hn
  rw [← hrecord]
  constructor
  · intro h a s' hruns
    exact h s' (Prog.runs_bind.2 ⟨a, s', hruns, rfl, rfl⟩)
  · intro h s' hruns
    obtain ⟨a, s₁, hrec, -, rfl⟩ := Prog.runs_bind.1 hruns
    exact h a _ hrec

/-- The record of a received payment. Reference: `transactions/transactions_service.go:816
ConsumeEvent`. -/
theorem createReceived_onlyInvoice
    (hnil : s.db.transactions.found
      { type := some .incoming, paymentHash := tx.paymentHash } .none =
      []) :
    (∀ a s', (createReceived W tx).Runs (exec W) s a s' →
      s.db.transactions.OnlyInvoice .incoming tx.invoice s'.db.transactions) ↔
    (tx.Recordable →
      (∀ fields, tx.metadata = some fields → ∃ bytes, W.marshal (.object fields) = .ok bytes) →
      s.db.transactions.NoRowOf .incoming tx.invoice) := by
  -- whatever the description, the metadata and the app are
  have record : ∀ description metadata boostagram appId,
      (∀ a s', (createSettledTransactionFromNotification
        (receivedRow tx description metadata boostagram appId) tx.preimage
        (uint64OfInt tx.feesPaidMsat) false).Runs (exec W) s a s' →
        s.db.transactions.OnlyInvoice .incoming tx.invoice s'.db.transactions) ↔
      (tx.Recordable → s.db.transactions.NoRowOf .incoming tx.invoice) := fun _ _ _ _ =>
    record_onlyInvoice rfl rfl (select_settledFilter_of_found_nil rfl hnil)
  unfold createReceived
  cases hmeta : tx.metadata with
  | none =>
    rw [record]
    exact forall_congr' fun _ => ⟨fun h _ => h, fun h => h fun _ hf => nomatch hf⟩
  | some fields =>
    cases hm : W.marshal (.object fields) with
    | error e =>
      simp only [hm]
      constructor
      · intro _ _ hmarshal
        obtain ⟨bytes, hb⟩ := hmarshal fields rfl
        rw [hm] at hb
        cases hb
      · intro _ a s' hruns
        rw [hruns.2]
        exact .refl _
    | ok bytes =>
      simp only [hm]
      have hmarshal : ∀ fields', some fields = some fields' →
          ∃ bytes, W.marshal (.object fields') = .ok bytes := by
        rintro _ ⟨⟩
        exact ⟨bytes, hm⟩
      constructor
      · intro h hrec _
        obtain ⟨appId, happ⟩ :=
          exists_runs_getAppIdFromCustomRecords (W := W) (s := s) tx.tlvRecords
        have hall := fun a s' hruns => h a s' (Prog.runs_bind.2 ⟨appId, s, happ, hruns⟩)
        exact (record _ _ _ appId).1 hall hrec
      · intro h a s' hruns
        obtain ⟨appId, s₁, happ, hrec⟩ := Prog.runs_bind.1 hruns
        rw [runs_getAppIdFromCustomRecords happ] at hrec
        exact (record _ _ _ appId).2 (fun hr => h hr hmarshal) a s' hrec

theorem paymentReceived_right :
    (NodeEvent.paymentReceived tx).Right W s ↔
      (NodeEvent.paymentReceived tx).HitsInvoice W s.db.transactions := by
  refine (found_onlyInvoice
    (l := s.db.transactions.found { type := some .incoming, paymentHash := tx.paymentHash } .none)
    (fun r hr => (Table.mem_select.1 (Order.mem_of_first hr)).1) (fun a s' => runs_find.1)
    (fun n => runs_find.2 ⟨rfl, .inr ⟨n, rfl⟩⟩) (fun e => rfl) rfl (fun row => rfl)).trans
    (and_congr_right fun _ => forall_congr' fun hnil => ?_)
  rw [← createReceived_onlyInvoice hnil]
  constructor
  · intro h a s' hruns
    exact h s' (Prog.runs_bind.2 ⟨a, s', hruns, rfl, rfl⟩)
  · intro h s' hruns
    obtain ⟨a, s₁, hrec, -, rfl⟩ := Prog.runs_bind.1 hruns
    exact h a _ hrec

/-- The acceptance of a hold invoice does look at the invoice. Reference:
`transactions/transactions_service.go:993 markHoldInvoiceAccepted`. -/
theorem holdInvoiceAccepted_right : (NodeEvent.holdInvoiceAccepted tx).Right W s := by
  intro s' hruns
  simp only [ConsumeEvent] at hruns
  split at hruns
  · rw [hruns.2]
    exact .refl _
  · obtain ⟨env, r, s₁, hx, hrest⟩ := Prog.runs_call_bind.1 hruns
    cases r with
    | error e =>
      rw [hrest.2, (Hub.transaction_error hx).1]
      exact .refl _
    | ok row =>
      obtain ⟨_, _, _, hpub, -, rfl⟩ := hrest
      cases hpub
      obtain ⟨db, hb, rfl⟩ := Hub.transaction_ok hx
      obtain ⟨r, hr, hacc, -, rfl⟩ := markHoldInvoiceAcceptedTx_ok hb
      exact .update hr hacc.2.1

/-- An event, alone on any table, is right for the rows of its invoice in every run exactly when the
rows that it may find and would change carry that invoice. Reference:
`transactions/transactions_service.go:795 ConsumeEvent`. -/
theorem consumeEvent_hits_invoice (W : World) (s : Hub) (event : NodeEvent) :
    event.Right W s ↔ event.HitsInvoice W s.db.transactions := by
  cases event with
  | paymentReceived tx => exact paymentReceived_right
  | paymentSent tx => exact paymentSent_right
  | paymentFailed tx reason => exact paymentFailed_right
  | holdInvoiceAccepted tx => exact ⟨fun _ => trivial, fun _ => holdInvoiceAccepted_right⟩

end

/-- Charlie's invoice and Bob's hold invoice, which wraps it. Reference:
`transactions/self_hold_payments_test.go:105 TestWrappedInvoice`. -/
def wrappedTable : Table :=
  let charlie : Transaction :=
    { appId := some 1, type := .incoming, state := .pending, amountMsat := 1000000
      paymentRequest := charlieInvoice, paymentHash := wrappedHash
      preimage := some wrappedPreimage }
  let bob : Transaction :=
    { appId := some 2, type := .incoming, state := .pending, amountMsat := 1100000
      paymentRequest := bobHoldInvoice, paymentHash := wrappedHash, hold := true }
  (Table.empty.create 0 charlie).create 0 bob

/-- The node's notification of the payment of Bob's hold invoice. Reference:
`transactions/self_hold_payments_test.go:105 TestWrappedInvoice`. -/
def bobPaid : LnTransaction where
  invoice := bobHoldInvoice
  paymentHash := wrappedHash
  preimage := wrappedPreimage
  amountMsat := 1100000

/-- Bob's hold invoice is paid, and the event may settle Charlie's invoice. Reference:
`transactions/transactions_service.go:804 ConsumeEvent`. -/
theorem consumeEvent_hits_wrapped :
    ¬ (NodeEvent.paymentReceived bobPaid).Right demo ⟨demoDB wrappedTable, []⟩ := by
  rw [paymentReceived_right]
  rintro ⟨hsettle, -⟩
  obtain ⟨r, hr, hs, hne⟩ : ∃ r ∈ wrappedTable.found
      { type := some .incoming, paymentHash := wrappedHash } .none,
      bobPaid.Settles wrappedTable r ∧ r.paymentRequest ≠ bobHoldInvoice := by
    decide +kernel
  exact hne (hsettle r hr hs)

end AlbyHub
