import AlbyHub.Transactions.Tx

/-!
# What can happen to the ledger

`Table.Step` lists every way in which the service changes the transactions table, with the guard
under which it does. The life of a row, the uniqueness of settlements and the sums follow from the
steps alone; that the commands of the service take no other steps is proved in
`AlbyHub.Transactions.Effects`.
-/

namespace AlbyHub

/-- The table has a row of this identity. A call's copy of a row may be stale, but this stays true
of it. Reference: none. -/
def Table.Knows (t : Table) (r : Transaction) : Prop := ∃ r' ∈ t.rows, r'.identity = r.identity

/-- One change of the table. Reference: the statements of
`transactions/transactions_service.go` that write to `transactions`. -/
inductive Table.Step (t : Table) : Table → Prop
  | same : Step t t
  | insert {now : Time} {row : Transaction} : row.state = .pending → Step t (t.create now row)
  | settle {r : Transaction} {preimage : String} {feeMsat : Nat} {selfPayment : Bool} {now : Time} :
    t.Knows r → t.select r.settledFilter = [] →
    Step t (t.update r.id (settleUpdate preimage feeMsat selfPayment now))
  | insertSettled {row : Transaction} {preimage : String} {feeMsat : Nat} {selfPayment : Bool}
      {now : Time} : t.select row.settledFilter = [] →
    Step t (t.create now (settleUpdate preimage feeMsat selfPayment now row))
  | fail {r : Transaction} {id : Nat} {reason : String} {now : Time} : r ∈ t.rows → r.id = id →
    r.state = .pending ∨ r.state = .accepted → Step t (t.update id (failUpdate reason now))
  | accept {r : Transaction} {settleDeadline : Nat} {selfPayment : Bool} : r ∈ t.rows →
    r.type = .incoming → r.state = .pending →
    Step t (t.update r.id (acceptUpdate settleDeadline selfPayment))
  | annotate {id : Nat} {metadata : Update} : (∀ r, ∃ m, metadata r = { r with metadata := m }) →
    Step t (t.update id metadata)

/-- What a row pays: two rows with the same payment may be two attempts at it. Reference: the filter
of `transactions/transactions_service.go:1597 findSettledTransaction`. -/
def Transaction.payment (r : Transaction) : TransactionType × String × String :=
  (r.type, r.paymentHash, r.paymentRequest)

section
variable {t t' : Table} {r r' : Transaction}

theorem Transaction.id_of_identity (h : r.identity = r'.identity) : r.id = r'.id :=
  congrArg Identity.id h

theorem Transaction.payment_of_identity (h : r.identity = r'.identity) : r.payment = r'.payment :=
  congrArg (fun i => (i.type, i.paymentHash, i.paymentRequest)) h

@[simp] theorem Update.payment (u : Update) (r : Transaction) : (u r).payment = r.payment :=
  Transaction.payment_of_identity (u.2 r)

theorem Table.Knows.of_mem (h : r ∈ t.rows) : t.Knows r := ⟨r, h, rfl⟩

theorem Table.Knows.create {now : Time} {row : Transaction} (h : t.Knows r) :
    (t.create now row).Knows r := by
  obtain ⟨r', hr', hid⟩ := h
  exact ⟨r', Table.mem_create.2 (.inl hr'), hid⟩

theorem Table.Knows.update {id : Nat} {u : Update} (h : t.Knows r) : (t.update id u).Knows r := by
  obtain ⟨r', hr', hid⟩ := h
  exact ⟨Table.updateRow id u r', Table.mem_update.2 ⟨r', hr', rfl⟩, by simpa using hid⟩

/-- Rows are never deleted and keep their identity. Reference: none. -/
theorem Table.Step.knows (h : t.Step t') (hk : t.Knows r) : t'.Knows r := by
  cases h with
  | same => exact hk
  | insert | insertSettled => exact hk.create
  | settle | fail | accept | annotate => exact hk.update

/-- The filter of a settlement finds the settled rows of the same payment. Reference:
`transactions/transactions_service.go:1597 findSettledTransaction`. -/
theorem Transaction.settledFilter_matches (hs : r'.state = .settled)
    (hp : r'.payment = r.payment) : r.settledFilter.Matches r' := by
  simp only [payment, Prod.mk.injEq] at hp
  simp [Where.Matches, settledFilter, hs, hp]

theorem Table.select_settledFilter_ne_nil (hr : r' ∈ t.rows) (hs : r'.state = .settled)
    (hp : r'.payment = r.payment) : t.select r.settledFilter ≠ [] :=
  List.ne_nil_of_mem (Table.mem_select.2 ⟨hr, Transaction.settledFilter_matches hs hp⟩)

/-- The filter depends on the payment only. Reference: none. -/
theorem Transaction.settledFilter_congr (hp : r'.payment = r.payment) :
    r'.settledFilter = r.settledFilter := by
  simp only [payment, Prod.mk.injEq] at hp
  simp [settledFilter, hp]

/-- The row that a copy stands for. Reference: none. -/
theorem Table.Knows.identity_of_id (hk : t.Knows r) (hr : r' ∈ t.rows) (hid : r'.id = r.id) :
    r'.identity = r.identity := by
  obtain ⟨r₀, hr₀, hi⟩ := hk
  rw [← Table.eq_of_id hr₀ hr ((Transaction.id_of_identity hi).trans hid.symm), hi]

/-- A row that is about to be settled is not settled. Reference: none. -/
theorem Table.not_settled_of_select (hk : t.Knows r) (hn : t.select r.settledFilter = [])
    (hr : r' ∈ t.rows) (hid : r'.id = r.id) : r'.state ≠ .settled := fun hs =>
  Table.select_settledFilter_ne_nil hr hs
    (Transaction.payment_of_identity (hk.identity_of_id hr hid)) hn

/-- What a step does to one row. Reference: the statements of
`transactions/transactions_service.go` that write to `transactions`. -/
inductive Transaction.Step (r : Transaction) : Transaction → Prop
  | annotate {m : String} : Step r { r with metadata := m }
  | settle {preimage : String} {feeMsat : Nat} {selfPayment : Bool} {now : Time} :
    r.state ≠ .settled → Step r (settleUpdate preimage feeMsat selfPayment now r)
  | fail {reason : String} {now : Time} : r.state = .pending ∨ r.state = .accepted →
    Step r (failUpdate reason now r)
  | accept {settleDeadline : Nat} {selfPayment : Bool} : r.type = .incoming → r.state = .pending →
    Step r (acceptUpdate settleDeadline selfPayment r)

theorem Transaction.Step.refl (r : Transaction) : r.Step r := .annotate (m := r.metadata)

theorem Transaction.Step.identity (h : r.Step r') : r'.identity = r.identity := by
  cases h <;> rfl

theorem Transaction.Step.id (h : r.Step r') : r'.id = r.id :=
  Transaction.id_of_identity h.identity

/-- A row of the table makes a step of its own life. Reference: none. -/
theorem Table.Step.row (h : t.Step t') (hr : r ∈ t.rows) : ∃ r' ∈ t'.rows, r.Step r' := by
  have of_update : ∀ {id : Nat} {u : Update}, (r.id = id → r.Step (u r)) →
      ∃ r' ∈ (t.update id u).rows, r.Step r' := by
    intro id u hu
    by_cases hid : r.id = id
    · subst hid
      exact ⟨u r, Table.mem_update_self hr, hu rfl⟩
    · exact ⟨r, Table.mem_update_of_ne hr hid, .refl r⟩
  cases h with
  | same => exact ⟨r, hr, .refl r⟩
  | insert | insertSettled => exact ⟨r, Table.mem_create.2 (.inl hr), .refl r⟩
  | settle hk hn =>
    exact of_update fun hid => .settle (Table.not_settled_of_select hk hn hr hid)
  | fail hr' hid' hst =>
    refine of_update fun hid => .fail ?_
    rwa [Table.eq_of_id hr hr' (hid.trans hid'.symm)]
  | accept hr' hty hst =>
    refine of_update fun hid => ?_
    rw [← Table.eq_of_id hr hr' hid] at hty hst
    exact .accept hty hst
  | @annotate id u hu =>
    refine of_update fun _ => ?_
    obtain ⟨m, hm⟩ := hu r
    rw [hm]
    exact .annotate

/-- Where a row of the table comes from: it made a step of its life, or it is new. Reference:
none. -/
theorem Table.Step.origin (h : t.Step t') (hr' : r' ∈ t'.rows) :
    (∃ r ∈ t.rows, r.Step r') ∨ r'.state = .pending ∨ r'.state = .settled := by
  by_cases hold : ∃ r ∈ t.rows, r.id = r'.id
  · obtain ⟨r, hr, hid⟩ := hold
    obtain ⟨r'', hr'', hstep⟩ := h.row hr
    rw [Table.eq_of_id hr' hr'' (hid.symm.trans hstep.id.symm)]
    exact .inl ⟨r, hr, hstep⟩
  · have of_update : ∀ {id : Nat} {u : Update}, r' ∉ (t.update id u).rows := by
      intro id u hmem
      obtain ⟨r, hr, rfl⟩ := Table.mem_update.1 hmem
      exact hold ⟨r, hr, by simp⟩
    cases h with
    | same => exact absurd ⟨r', hr', rfl⟩ hold
    | insert hst =>
      rcases Table.mem_create.1 hr' with hr' | rfl
      · exact absurd ⟨r', hr', rfl⟩ hold
      · exact .inr (.inl hst)
    | insertSettled =>
      rcases Table.mem_create.1 hr' with hr' | rfl
      · exact absurd ⟨r', hr', rfl⟩ hold
      · exact .inr (.inr rfl)
    | settle | fail | accept | annotate => exact absurd hr' of_update

/-- A settled row stays as it is, but for its metadata. Reference: the docstring of
`transactions/transactions_service.go:1704 markPaymentFailed`. -/
theorem Table.Step.settled (h : t.Step t') (hr : r ∈ t.rows) (hs : r.state = .settled) :
    ∃ m, { r with metadata := m } ∈ t'.rows := by
  obtain ⟨r', hr', hstep⟩ := h.row hr
  cases hstep with
  | annotate => exact ⟨_, hr'⟩
  | settle hst => exact absurd hs hst
  | fail hst => rw [hs] at hst; simp at hst
  | accept _ hst => rw [hs] at hst; cases hst

/-- At most one row of each payment is settled. Reference:
`transactions/transactions_service.go:1594 findSettledTransaction`. -/
def Table.SettledOnce (t : Table) : Prop :=
  ∀ r ∈ t.rows, ∀ r' ∈ t.rows, r.state = .settled → r'.state = .settled → r.payment = r'.payment →
    r = r'

/-- The settled rows after a step: the old ones, and at most one of a payment that had none.
Reference: none. -/
theorem Table.Step.of_settled (h : t.Step t') : ∃ id, ∀ r' ∈ t'.rows, r'.state = .settled →
    (∃ r ∈ t.rows, r.state = .settled ∧ r.identity = r'.identity) ∨
      (r'.id = id ∧ t.select r'.settledFilter = []) := by
  cases h with
  | same => exact ⟨0, fun r' hr' hs => .inl ⟨r', hr', hs, rfl⟩⟩
  | @insert now row hst =>
    refine ⟨0, fun r' hr' hs => ?_⟩
    rcases Table.mem_create.1 hr' with hr' | rfl
    · exact .inl ⟨r', hr', hs, rfl⟩
    · simp [Table.created, hst] at hs
  | @insertSettled row preimage feeMsat selfPayment now hn =>
    refine ⟨t.nextId, fun r' hr' hs => ?_⟩
    rcases Table.mem_create.1 hr' with hr' | rfl
    · exact .inl ⟨r', hr', hs, rfl⟩
    · exact .inr ⟨rfl, hn⟩
  | @settle r preimage feeMsat selfPayment now hk hn =>
    refine ⟨r.id, fun r' hr' hs => ?_⟩
    rcases Table.of_mem_update hr' with ⟨hr', -⟩ | ⟨r₀, hr₀, hid, rfl⟩
    · exact .inl ⟨r', hr', hs, rfl⟩
    · have hp := Transaction.payment_of_identity (hk.identity_of_id hr₀ hid)
      exact .inr ⟨by simpa using hid, by rwa [Transaction.settledFilter_congr (r := r)]; simpa⟩
  | fail | accept =>
    refine ⟨0, fun r' hr' hs => ?_⟩
    rcases Table.of_mem_update hr' with ⟨hr', -⟩ | ⟨r₀, hr₀, hid, rfl⟩
    · exact .inl ⟨r', hr', hs, rfl⟩
    · simp [failUpdate, acceptUpdate] at hs
  | @annotate id u hu =>
    refine ⟨0, fun r' hr' hs => ?_⟩
    rcases Table.of_mem_update hr' with ⟨hr', -⟩ | ⟨r₀, hr₀, hid, rfl⟩
    · exact .inl ⟨r', hr', hs, rfl⟩
    · obtain ⟨m, hm⟩ := hu r₀
      rw [hm] at hs
      exact .inl ⟨r₀, hr₀, hs, by simp⟩

/-- A step settles no payment twice. Reference: the docstring of
`transactions/transactions_service.go:1597 findSettledTransaction`. -/
theorem Table.Step.settledOnce (h : t.Step t') (ht : t.SettledOnce) : t'.SettledOnce := by
  obtain ⟨id, hid⟩ := h.of_settled
  -- an old settled row of the payment of `b` is one that a settlement of `b` would have found
  have old_new : ∀ r₁ ∈ t.rows, r₁.state = .settled → ∀ a b : Transaction,
      r₁.identity = a.identity → a.payment = b.payment → t.select b.settledFilter ≠ [] :=
    fun r₁ hr₁ hs₁ a b hi hp => Table.select_settledFilter_ne_nil hr₁ hs₁
      ((Transaction.payment_of_identity hi).trans hp)
  intro a ha b hb hsa hsb hp
  refine Table.eq_of_id ha hb ?_
  rcases hid a ha hsa with ⟨r₁, hr₁, hs₁, hi₁⟩ | ⟨hia, hna⟩ <;>
    rcases hid b hb hsb with ⟨r₂, hr₂, hs₂, hi₂⟩ | ⟨hib, hnb⟩
  · have hp₁ := Transaction.payment_of_identity hi₁
    have hp₂ := Transaction.payment_of_identity hi₂
    have he := ht r₁ hr₁ r₂ hr₂ hs₁ hs₂ (by rw [hp₁, hp₂, hp])
    rw [← Transaction.id_of_identity hi₁, ← Transaction.id_of_identity hi₂, he]
  · exact absurd hnb (old_new r₁ hr₁ hs₁ a b hi₁ hp)
  · exact absurd hna (old_new r₂ hr₂ hs₂ b a hi₂ hp.symm)
  · rw [hia, hib]

/-- The row with this id has the property. Reference: none. -/
def Table.At (t : Table) (id : Nat) (p : Transaction → Prop) : Prop :=
  ∃ r ∈ t.rows, r.id = id ∧ p r

/-- A property that a row keeps in every step of its life is kept by the table. Reference: none. -/
theorem Table.Step.at {p : Transaction → Prop} {id : Nat}
    (hp : ∀ r r' : Transaction, r.Step r' → p r → p r') (h : t.Step t') (ha : t.At id p) :
    t'.At id p := by
  obtain ⟨r, hr, hid, hpr⟩ := ha
  obtain ⟨r', hr', hstep⟩ := h.row hr
  exact ⟨r', hr', hstep.id.trans hid, hp r r' hstep hpr⟩

/-- A row that counts no longer: it is settled or failed. Reference: none. -/
def Transaction.Closed (r : Transaction) : Prop := r.state = .settled ∨ r.state = .failed

theorem Transaction.Step.closed (h : r.Step r') (hc : r.Closed) : r'.Closed := by
  cases h with
  | annotate => exact hc
  | settle => exact .inl rfl
  | fail => exact .inr rfl
  | accept _ hst => rcases hc with hc | hc <;> rw [hc] at hst <;> cases hst

theorem Transaction.Step.stays_settled (h : r.Step r') (hs : r.state = .settled) :
    r'.state = .settled := by
  cases h with
  | annotate => exact hs
  | settle => rfl
  | fail hst => rw [hs] at hst; simp at hst
  | accept _ hst => rw [hs] at hst; cases hst

end

end AlbyHub
