import AlbyHub.Swaps.Payment
import AlbyHub.Transactions.Runs

/-!
# A swap-out is paid once

A payment of the swap looks its payment hash up in one statement and inserts its row in another.
Where no row of the payment hash comes in between, the row that one payment inserts is found by all
later ones: the invoice is handed to the node once, and an error that a listener takes is that of
the payment itself or of one that nobody has made (`swap_out_paid_once`). Two payments that both
find nothing break this: the second one is refused, and its error fails the swap that the first one
pays (`second_payment_fails_swap`).
-/

namespace AlbyHub

open Go Interaction

/-- The call has handed an invoice to the node. Reference:
`transactions/transactions_service.go:438 SendPaymentSync`. -/
def hasHanded (h : History) : Bool := h.any fun call => call.cmd.handsInvoice

/-- What a payment of the swap does: it inserts one row, after it has found nothing, and then hands
the invoice to the node once. Reference: `swaps/swaps_service.go:1197 startSwapOutListener`. -/
def Pays (paymentHash : String) (h : History) : Cmd → Prop
  | .sendPaymentTx a => a.paymentRequest.paymentHash = paymentHash ∧
    foundNothing paymentHash h = true ∧ hasInserted h = false
  | .lnSendPaymentSync _ _ => hasInserted h = true ∧ hasHanded h = false
  | .create _ | .sendKeysendTx _ | .createSettledTransactionTx _ _ _ _ => False
  | _ => True

/-- Reference: none. -/
def PayOp.Ok (paymentHash : String) : PayOp → History → Cmd → Prop
  | .payment _, h, c => Pays paymentHash h c
  | .call _, _, _ => True

/-- A payment that reports an error has found nothing. Reference: `swaps/swaps_service.go:1197
startSwapOutListener`. -/
def PayOp.Post (paymentHash : String) : PayOp → History → Result → Prop
  | .payment _, h, r => ∀ e, r = .error e → foundNothing paymentHash h = true
  | .call _, _, _ => True

section
variable {W : World} {h h' : History} {paymentHash payReq : String} {row : Transaction}

theorem pays_lenient : Lenient (Pays paymentHash) where
  read h c hw hd := by cases c <;> trivial
  publish _ _ _ _ _ := trivial

/-- What a payment prepares hands nothing out. Reference:
`transactions/transactions_service.go:301 SendPaymentSync`. -/
theorem Prepares.not_handsInvoice {call : Call Cmd Cmd.Ans} (hp : Prepares call) :
    ¬ call.cmd.handsInvoice = true := by
  unfold Prepares at hp
  split at hp <;> first | exact Bool.false_ne_true | exact hp.elim

/-- An invoice that is paid has the payment hash of the swap. Reference:
`swaps/swaps_service.go:404 verifySwapOutInvoice`. -/
theorem verifySwapOutInvoice_ok {invoice expectedPaymentHash : String} {maxSendAmountSat n : Nat}
    (hv : verifySwapOutInvoice W invoice expectedPaymentHash maxSendAmountSat = .ok n) :
    ∃ p, W.decodepay invoice = .ok p ∧ p.paymentHash = expectedPaymentHash := by
  unfold verifySwapOutInvoice at hv
  split at hv
  · cases hv
  · next p hdec =>
    split at hv
    · cases hv
    · next hhash => exact ⟨p, hdec, Decidable.not_not.1 hhash⟩

theorem foundNothing_mono (hs : h <:+ h') (hf : foundNothing paymentHash h = true) :
    foundNothing paymentHash h' = true := by
  unfold foundNothing at hf ⊢
  rw [List.any_eq_true] at hf ⊢
  obtain ⟨call, hc, hcall⟩ := hf
  exact ⟨call, hs.subset hc, hcall⟩

theorem pays_checkUnsettledTransaction :
    Follows (Pays paymentHash) (fun _ _ => True) h (checkUnsettledTransaction W row) := by
  unfold checkUnsettledTransaction
  split
  · trivial
  · refine .call trivial fun r => ?_
    cases r with
    | error e => trivial
    | ok tx =>
      simp only
      split
      · trivial
      · refine (follows_settleCopy pays_lenient fun _ => trivial).bind fun _ r _ _ => ?_
        cases r <;> trivial

/-- The lookup of the payment; where it finds nothing, it is all that was done. Reference:
`transactions/transactions_service.go:599 LookupTransaction`. -/
theorem pays_lookupTransaction : Follows (Pays paymentHash) (fun h r => r = .error .notFound →
      foundNothing paymentHash h = true ∧ ∃ a, h = [⟨.lookup paymentHash none none, a⟩]) []
      (LookupTransaction W paymentHash none none) := by
  refine .call trivial fun r => ?_
  match r with
  | .error e =>
    rintro ⟨⟩
    exact ⟨by simp [foundNothing], _, rfl⟩
  | .ok none => exact fun _ => ⟨by simp [foundNothing], _, rfl⟩
  | .ok (some row) =>
    simp only
    split
    · exact pays_checkUnsettledTransaction.bind fun _ _ _ _ hr => nomatch hr
    · exact fun hr => nomatch hr

/-- Reference: `transactions/transactions_service.go:434 SendPaymentSync`. -/
theorem pays_pay {amountMsat : Option Nat} {hash : String} {selfPayment : Bool}
    (hi : hasInserted h = true) (hh : hasHanded h = false) :
    Follows (Pays paymentHash) (fun _ _ => True) h
      (SendPaymentSync.pay payReq amountMsat hash selfPayment row) := by
  have finish : ∀ {h : History} (r : Except Err PayInvoiceResponse),
      Follows (Pays paymentHash) (fun _ _ => True) h (finishPayment row selfPayment r) := fun r =>
    follows_finishPayment pays_lenient (fun _ => trivial) fun _ _ _ => trivial
  unfold SendPaymentSync.pay
  split
  · refine (follows_interceptSelfPayment pays_lenient (fun _ _ _ => trivial) (fun _ _ _ => trivial)
      fun _ _ _ _ _ _ _ _ => trivial).bind fun _ r _ _ => finish r
  · exact .call ⟨hi, hh⟩ fun r => finish r

/-- What the goroutine of a payment does. The database's answer to the lookup is all it has done
when it pays, and decoding an invoice does not depend on its case. Reference:
`swaps/swaps_service.go:1197 startSwapOutListener`. -/
theorem pays_payInvoice {swap : SwapInvoice} (hcase : ∀ p, W.decodepay swap.invoice = .ok p →
      W.decodepay (toLower W.lowerNonAscii swap.invoice) = .ok p) :
    Follows (Pays swap.paymentHash)
      (fun h r => ∀ e, r = .error e → foundNothing swap.paymentHash h = true) []
      (payInvoice W swap) := by
  refine pays_lookupTransaction.bind fun h₁ r _ hr => ?_
  match r with
  | .ok row => exact fun _ he => nomatch he
  | .error .notFound =>
    obtain ⟨hfound, a, rfl⟩ := hr rfl
    simp only
    cases hv : verifySwapOutInvoice W swap.invoice swap.paymentHash swap.sendAmountSat with
    | error e => exact fun _ _ => hfound
    | ok sendAmountSat =>
      obtain ⟨p, hdec, hhash⟩ := verifySwapOutInvoice_ok hv
      -- nothing but the lookup comes before the row, and it inserts and hands out nothing
      have fresh : ∀ {h' : History},
          (∀ call ∈ h', call ∈ ([⟨.lookup swap.paymentHash none none, a⟩] :
          History) ∨ Prepares call) → hasInserted h' = false ∧ hasHanded h' = false := by
        intro h' hframe
        refine ⟨?_, ?_⟩
        · refine List.any_eq_false.2 fun call hc => ?_
          rcases hframe call hc with hc | hp
          · rw [List.mem_singleton.1 hc]
            exact Bool.false_ne_true
          · rw [hp.insertedRow_eq_none]
            exact Bool.false_ne_true
        · refine List.any_eq_false.2 fun call hc => ?_
          rcases hframe call hc with hc | hp
          · rw [List.mem_singleton.1 hc]
            exact Bool.false_ne_true
          · exact hp.not_handsInvoice
      have hsend : Follows (Pays swap.paymentHash) (fun _ _ => True)
          [⟨.lookup swap.paymentHash none none, a⟩] (SendPaymentSync W swap.invoice none
            (some [("swap_id", .string swap.swapId)]) none none) := by
        refine follows_sendPaymentSync_prepared pays_lenient (fun _ _ _ => trivial) ?_ ?_
        · intro h' args hs hframe hargs
          refine ⟨?_, foundNothing_mono hs hfound, (fresh hframe).1⟩
          have hdec' := hcase p hdec
          rw [← hargs.payReq, hargs.decoded] at hdec'
          rw [Except.ok.inj hdec', hhash]
        · intro h' args row hframe hargs
          exact pays_pay rfl (fresh hframe).2
      refine hsend.bind fun h' r hs _ => ?_
      exact fun _ _ => foundNothing_mono hs hfound
  | .error .insufficientBalance | .error .quotaExceeded | .error .holdInvoiceCanceled
  | .error (.database _) | .error (.message _) => exact fun _ he => nomatch he

end

/-! ## The rows of the payment hash -/

/-- The command may insert a row. Reference: the calls of `Cmd`. -/
def Cmd.insertsRow : Cmd → Bool
  | .create _ | .sendPaymentTx _ | .sendKeysendTx _ | .createSettledTransactionTx _ _ _ _ => true
  | _ => false

section
variable {W : World} {env : Env} {s s' : Hub} {c : Cmd} {a : c.Ans} {paymentHash : String}
variable {t : Table}

theorem lookupBefore_trans {r₁ r₂ r₃ : Transaction} (h : lookupBefore W r₁ r₂ = true)
    (h' : lookupBefore W r₂ r₃ = true) : lookupBefore W r₁ r₃ = true := by
  have lex : ∀ a b c x y z : Int, (b < a ∨ a = b ∧ y < x) → (c < b ∨ b = c ∧ z < y) →
      (c < a ∨ a = c ∧ z < x) := by
    omega
  cases h₁ : r₁.settledAt <;> cases h₂ : r₂.settledAt <;> cases h₃ : r₃.settledAt <;>
    cases hp : W.postgres <;> simp [lookupBefore, h₁, h₂, h₃, hp] at h h' ⊢
  · exact Int.lt_trans h' h
  · exact Int.lt_trans h' h
  · exact lex _ _ _ _ _ _ h h'
  · exact lex _ _ _ _ _ _ h h'

/-- Some row comes before which there is no other. Reference: SQL `ORDER BY`. -/
theorem exists_first {l : List Transaction} (hl : l ≠ []) :
    ∃ r ∈ l, ∀ r' ∈ l, lookupBefore W r' r = false := by
  induction l with
  | nil => exact absurd rfl hl
  | cons r l ih =>
    by_cases hnil : l = []
    · subst hnil
      exact ⟨r, List.mem_cons_self, by simpa using lookupBefore_irrefl r⟩
    · obtain ⟨m, hm, hfirst⟩ := ih hnil
      cases hrm : lookupBefore W r m with
      | false =>
        refine ⟨m, List.mem_cons_of_mem _ hm, fun r' hr' => ?_⟩
        rcases List.mem_cons.1 hr' with rfl | hr'
        · exact hrm
        · exact hfirst r' hr'
      | true =>
        refine ⟨r, List.mem_cons_self, fun r' hr' => ?_⟩
        rcases List.mem_cons.1 hr' with rfl | hr'
        · exact lookupBefore_irrefl _
        · refine Bool.eq_false_iff.2 fun hb => ?_
          have hm' := hfirst r' hr'
          rw [lookupBefore_trans hb hrm] at hm'
          cases hm'

/-- Where the lookup finds nothing, there is no row. Reference:
`transactions/transactions_service.go:629 LookupTransaction`. -/
theorem lookupRows_eq_nil (h : lookupRows W t paymentHash none none = []) :
    t.select { paymentHash := paymentHash } = [] := by
  refine Decidable.byContradiction fun hne => ?_
  obtain ⟨r, hr, hfirst⟩ := exists_first (W := W) hne
  have hmem : r ∈ lookupRows W t paymentHash none none := by
    simp only [lookupRows, List.mem_filter, List.all_eq_true, true_or, decide_true, and_true]
    refine ⟨hr, fun r' hr' => ?_⟩
    rw [hfirst r' (by simpa using hr')]
    rfl
  rw [h] at hmem
  cases hmem

/-- A lookup that finds nothing says that no row has the payment hash. Reference:
`swaps/swaps_service.go:1198 startSwapOutListener`. -/
theorem noneSent_of_lookup {r : Except Err (Option Transaction)}
    (hx : exec W s (.lookup paymentHash none none) env = some (r, s'))
    (hr : r = .ok none ∨ r = .error .notFound) : s'.db.transactions.NoneSent paymentHash := by
  obtain ⟨hs, ⟨e, rfl⟩ | hok⟩ := Hub.read_eq hx
  · rcases hr with hr | hr <;> cases hr
  · rw [hs]
    have hnil : lookupRows W s.db.transactions paymentHash none none = [] := by
      rw [hok] at hr
      rcases hr with hr | hr
      · exact pick_eq_none.1 (Except.ok.inj hr)
      · cases hr
    intro row hrow _ hhash
    have hmem : row ∈ s.db.transactions.select { paymentHash := paymentHash } :=
      Table.mem_select.2 ⟨hrow, .inl rfl, .inl rfl, .inl rfl, .inl rfl, .inr hhash⟩
    rw [lookupRows_eq_nil hnil] at hmem
    cases hmem

/-- A command keeps every row's payment, and where it inserts no row it adds none. Reference: the
calls of `Cmd`. -/
theorem exec_payments (hx : exec W s c env = some (a, s')) :
    (∀ r ∈ s.db.transactions.rows, ∃ r' ∈ s'.db.transactions.rows, r'.payment = r.payment) ∧
    (c.insertsRow = false → ∀ r' ∈ s'.db.transactions.rows,
      ∃ r ∈ s.db.transactions.rows, r'.payment = r.payment) := by
  have created : ∀ {row : Transaction}, ∀ r ∈ s.db.transactions.rows,
      ∃ r' ∈ (s.db.transactions.create env.now row).rows, r'.payment = r.payment :=
    fun r hr => ⟨r, Table.mem_create.2 (.inl hr), rfl⟩
  have updated : ∀ {id : Nat} {u : Update},
      (∀ r ∈ s.db.transactions.rows,
        ∃ r' ∈ (s.db.transactions.update id u).rows, r'.payment = r.payment) ∧
      ∀ r' ∈ (s.db.transactions.update id u).rows,
        ∃ r ∈ s.db.transactions.rows, r'.payment = r.payment := by
    refine fun {id u} => ⟨fun r hr => ?_, fun r' hr' => ?_⟩
    · refine ⟨Table.updateRow id u r, Table.mem_update.2 ⟨r, hr, rfl⟩, ?_⟩
      exact Transaction.payment_of_identity (Table.updateRow_identity id u r)
    · obtain ⟨r, hr, rfl⟩ := Table.mem_update.1 hr'
      exact ⟨r, hr, Transaction.payment_of_identity (Table.updateRow_identity id u r)⟩
  generalize s'.db.transactions = t', exec_effect hx = he
  cases he with
  | same => exact ⟨fun r hr => ⟨r, hr, rfl⟩, fun _ r hr => ⟨r, hr, rfl⟩⟩
  | create | sendPayment | sendKeysend | createSettled => exact ⟨created, fun h => nomatch h⟩
  | settle | fail | accept | updateMetadata => exact ⟨updated.1, fun _ => updated.2⟩

theorem exec_noneSent (hx : exec W s c env = some (a, s')) (hc : c.insertsRow = false)
    (hn : s.db.transactions.NoneSent paymentHash) : s'.db.transactions.NoneSent paymentHash := by
  intro r' hr' hty hhash
  obtain ⟨r, hr, hp⟩ := (exec_payments hx).2 hc r' hr'
  simp only [Transaction.payment, Prod.mk.injEq] at hp
  exact hn r hr (hp.1 ▸ hty) (hp.2.1 ▸ hhash)

theorem noneSent_of_exec (hx : exec W s c env = some (a, s'))
    (hn : s'.db.transactions.NoneSent paymentHash) : s.db.transactions.NoneSent paymentHash := by
  intro r hr hty hhash
  obtain ⟨r', hr', hp⟩ := (exec_payments hx).1 r hr
  simp only [Transaction.payment, Prod.mk.injEq] at hp
  exact hn r' hr' (hp.1.trans hty) (hp.2.1.trans hhash)

end

/-! ## The runs -/

/-- What a call contributes to the payments that the swap will have made: a payment that has
inserted its row and not handed the invoice to the node yet. Reference: none. -/
def unhanded (t : Thread Cmd Cmd.Ans PayOp Result) : Nat :=
  match t.op with
  | .payment _ => if hasInserted t.hist && !hasHanded t.hist then 1 else 0
  | .call _ => 0

/-- The payments of the swap that were made or are about to be. Reference: none. -/
def SwapOutHub.paid (s : SwapOutHub) : Nat := s.handed + (s.calls.threads.map unhanded).sum

/-- What undisturbed steps keep. Reference: none. -/
structure SwapOutHub.Inv (s : SwapOutHub) (paymentHash : String) : Prop where
  calls : s.calls.Disciplined (PayOp.Ok paymentHash) (PayOp.Post paymentHash) (fun _ => True)
    (fun _ _ _ => True)
  started : ∀ t ∈ s.calls.threads, ∀ i, t.op = .payment i → i < s.listeners.threads.length
  owes : ∀ (j : Nat) t, s.calls.threads[j]? = some t → s.owes paymentHash t = true →
    s.calls.state.db.transactions.NoneSent paymentHash
  once : s.paid ≤ 1
  unpaid : s.calls.state.db.transactions.NoneSent paymentHash → s.paid = 0
  taken : ∀ i j, (i, j) ∈ s.taken → ∃ t e, s.calls.threads[j]? = some t ∧ t.op = .payment i ∧
    t.rest = .ret (.error e)

section
variable {W : World} {pay : Svc Result} {s s' : SwapOutHub} {paymentHash : String} {i : Nat}
variable {env : Env}

/-- The calls follow their disciplines. Reference: none. -/
theorem pay_sound (hpay : Follows (Pays paymentHash)
      (fun h r => ∀ e, r = .error e → foundNothing paymentHash h = true) [] pay) :
    Sound (exec W) (payBody W pay) (fun _ _ => True) (PayOp.Ok paymentHash)
      (PayOp.Post paymentHash) (fun _ _ _ _ _ => True) (fun _ => True)
      (fun _ _ _ => True) where
  body op := by
    cases op with
    | payment i => exact hpay
    | call op => exact follows_any
  obeys _ _ _ _ _ _ _ _ _ := trivial
  step _ _ _ _ _ _ _ _ _ _ _ _ := ⟨trivial, trivial, fun _ _ _ => trivial⟩

theorem unhanded_le_one (t : Thread Cmd Cmd.Ans PayOp Result) : unhanded t ≤ 1 := by
  unfold unhanded
  split
  · split <;> omega
  · omega

/-- A payment owes a row for as long as its listener runs. Reference: none. -/
theorem SwapOutHub.owes_of_owes {t : Thread Cmd Cmd.Ans PayOp Result}
    (hl : ∀ k, t.op = .payment k → s'.listening k = true → s.listening k = true)
    (ho : s'.owes paymentHash t = true) : s.owes paymentHash t = true := by
  unfold SwapOutHub.owes at ho ⊢
  split at ho
  · next k hop =>
    simp only [Bool.and_eq_true, Bool.or_eq_true] at ho ⊢
    refine ⟨ho.1, ?_⟩
    rcases ho.2 with hrun | hlis
    · exact .inl hrun
    · exact .inr (hl k hop hlis)
  · cases ho

/-- A listener that is started or takes a step changes nothing about the payments. Reference:
none. -/
theorem SwapOutHub.Inv.listeners (hs : s.Inv paymentHash) {listeners : SwapPool}
    (hlen : s.listeners.threads.length ≤ listeners.threads.length)
    (hl : ∀ k < s.listeners.threads.length,
      ({ s with listeners := listeners } : SwapOutHub).listening k = true →
      s.listening k = true) : ({ s with listeners := listeners } : SwapOutHub).Inv paymentHash where
  calls := hs.calls
  started t ht k hop := Nat.lt_of_lt_of_le (hs.started t ht k hop) hlen
  owes j t hj ho := hs.owes j t hj (SwapOutHub.owes_of_owes
    (fun k hop hlis => hl k (hs.started t (List.mem_of_getElem? hj) k hop) hlis) ho)
  once := hs.once
  unpaid := hs.unpaid
  taken := hs.taken

/-- A call that starts owes nothing. Reference: none. -/
theorem SwapOutHub.Inv.spawn (hpay : Follows (Pays paymentHash)
      (fun h r => ∀ e, r = .error e → foundNothing paymentHash h = true) [] pay)
    (hs : s.Inv paymentHash) (op : PayOp)
    (hop : ∀ k, op = .payment k → k < s.listeners.threads.length) :
    ({ s with calls := ⟨s.calls.state, s.calls.threads ++ [⟨op, [], payBody W pay op⟩]⟩ } :
      SwapOutHub).Inv paymentHash := by
  have old : ∀ (j : Nat) t, (s.calls.threads ++ [⟨op, [], payBody W pay op⟩])[j]? = some t →
      s.calls.threads[j]? = some t ∨ t = ⟨op, [], payBody W pay op⟩ := by
    intro j t hj
    rcases Nat.lt_or_ge j s.calls.threads.length with hlt | hge
    · rw [List.getElem?_append_left hlt] at hj
      exact .inl hj
    · rw [List.getElem?_append_right hge] at hj
      exact .inr (List.mem_singleton.1 (List.mem_of_getElem? hj))
  have hnone : unhanded ⟨op, [], payBody W pay op⟩ = 0 := by cases op <;> rfl
  have hpaid : ({ s with
      calls := ⟨s.calls.state, s.calls.threads ++ [⟨op, [], payBody W pay op⟩]⟩ } :
      SwapOutHub).paid = s.paid := by
    simp [SwapOutHub.paid, hnone]
  refine ⟨hs.calls.step (pay_sound hpay) (l := .spawn op) trivial rfl, fun t ht k hk => ?_,
    fun j t hj ho => ?_, hpaid ▸ hs.once, fun hn => hpaid.trans (hs.unpaid hn),
    fun i j hij => ?_⟩
  · rcases List.mem_append.1 ht with ht | ht
    · exact hs.started t ht k hk
    · rw [List.mem_singleton.1 ht] at hk
      exact hop k hk
  · rcases old j t hj with hj | rfl
    · exact hs.owes j t hj ho
    · cases op <;> cases ho
  · obtain ⟨t, e, hj, hrest⟩ := hs.taken i j hij
    exact ⟨t, e, (List.getElem?_append_left (List.getElem?_eq_some_iff.1 hj).1).trans hj, hrest⟩

/-- A listener that takes a step does not come to run. Reference: none. -/
theorem swapPool_run {listeners listeners' : SwapPool} {env : SwapEnv}
    (hstep : listeners.step execSwap swapBody (.run i env) = some listeners') :
    i < listeners.threads.length ∧ listeners'.threads.length = listeners.threads.length ∧
    ∀ k, ({ s with listeners := listeners' } : SwapOutHub).listening k = true →
      ({ s with listeners := listeners } : SwapOutHub).listening k = true := by
  obtain ⟨op, h, c, k, a, s₁, hi, hx, rfl⟩ := Config.step_run hstep
  have hlt := (List.getElem?_eq_some_iff.1 hi).1
  refine ⟨hlt, List.length_set, fun k hk => ?_⟩
  by_cases hne : i = k
  · subst hne
    simp [SwapOutHub.listening, hi, Prog.done]
  · simp only [SwapOutHub.listening] at hk ⊢
    rwa [List.getElem?_set_ne hne] at hk

/-- A step of a listener, with the payment that it may start, keeps the invariant. Reference:
`swaps/swaps_service.go:1150 startSwapOutListener`. -/
theorem SwapOutHub.Inv.listen (W : World) (hpay : Follows (Pays paymentHash)
      (fun h r => ∀ e, r = .error e → foundNothing paymentHash h = true) [] pay)
    (hs : s.Inv paymentHash) {env : SwapEnv} (hstep : s.listen pay i env = some s') :
    s'.Inv paymentHash ∧ s'.taken = s.taken ∧
      ∀ (j : Nat) t, s.calls.threads[j]? = some t → s'.calls.threads[j]? = some t := by
  unfold SwapOutHub.listen at hstep
  obtain ⟨listeners, hl, rfl⟩ := Option.map_eq_some_iff.1 hstep
  obtain ⟨hlt, hlen, hrun⟩ := swapPool_run (s := s) hl
  have hinv := hs.listeners (Nat.le_of_eq hlen.symm) fun k _ => hrun k
  split
  · refine ⟨hinv.spawn (W := W) hpay (.payment i) fun k hk => ?_, rfl, fun j t hj => ?_⟩
    · cases hk
      exact hlen ▸ hlt
    · exact (List.getElem?_append_left (List.getElem?_eq_some_iff.1 hj).1).trans hj
  · exact ⟨hinv, rfl, fun _ _ hj => hj⟩

/-- A payment that steps takes one of three steps: it hands the invoice to the node, it inserts its
row, or neither. Reference: `transactions/transactions_service.go:301 SendPaymentSync`. -/
theorem Pays.cases {h : History} {c : Cmd} (hok : Pays paymentHash h c) (a : c.Ans) :
    (c.handsInvoice = true ∧ hasInserted h = true ∧ hasHanded h = false) ∨
    (∃ args row, (⟨c, a⟩ : Call Cmd Cmd.Ans) = ⟨.sendPaymentTx args, .ok row⟩ ∧
      args.paymentRequest.paymentHash = paymentHash ∧ foundNothing paymentHash h = true ∧
      hasInserted h = false) ∨
    (c.handsInvoice = false ∧ insertedRow ⟨c, a⟩ = none) := by
  cases c with
  | sendPaymentTx args =>
    match a with
    | .ok row => exact .inr (.inl ⟨args, row, rfl, hok⟩)
    | .error e => exact .inr (.inr ⟨rfl, rfl⟩)
  | lnSendPaymentSync payReq amountMsat => exact .inl ⟨rfl, hok⟩
  | create | sendKeysendTx | createSettledTransactionTx => exact hok.elim
  | _ => exact .inr (.inr ⟨rfl, rfl⟩)

/-- The row that a payment inserts is an outgoing one of its payment hash. Reference:
`transactions/transactions_service.go:397 SendPaymentSync`. -/
theorem sent_of_sendPaymentTx {hub hub' : Hub} {args : SendPaymentArgs} {row : Transaction}
    (hx : exec W hub (.sendPaymentTx args) env = some (.ok row, hub'))
    (hhash : args.paymentRequest.paymentHash = paymentHash) :
    ¬ hub'.db.transactions.NoneSent paymentHash := by
  obtain ⟨db, hb, rfl⟩ := Hub.transaction_ok hx
  obtain ⟨-, -, -, -, rfl⟩ := sendPaymentTx_ok hb
  intro hn
  exact hn _ (Table.mem_create.2 (.inr rfl)) rfl hhash

/-- A payment owes a row until it has inserted it. Reference: `swaps/swaps_service.go:1197
startSwapOutListener`. -/
theorem SwapOutHub.owes_running {h : History} {c : Cmd} {k : c.Ans → Svc Result} {l : Nat}
    (hf : foundNothing paymentHash h = true) (hn : hasInserted h = false) :
    s.owes paymentHash ⟨.payment l, h, .cmd c k⟩ = true := by
  simp [SwapOutHub.owes, hf, hn, Prog.done]

/-- A step of a call makes no payment of the swap more than there were, but for the first row.
Reference: `transactions/transactions_service.go:301 SendPaymentSync`. -/
theorem SwapOutHub.Inv.paid_run (hs : s.Inv paymentHash) {op : PayOp} {h : History} {c : Cmd}
    {k : c.Ans → Svc Result} {a : c.Ans} {hub : Hub}
    (hi : s.calls.threads[i]? = some ⟨op, h, .cmd c k⟩)
    (hx : exec W s.calls.state c env = some (a, hub)) {s' : SwapOutHub}
    (hs' : s' = { s with
      calls := ⟨hub, s.calls.threads.set i ⟨op, ⟨c, a⟩ :: h, k a⟩⟩
      handed := s.handed + if s.hands i then 1 else 0 }) :
    s'.paid = s.paid ∨ (s.calls.state.db.transactions.NoneSent paymentHash ∧
      ¬ hub.db.transactions.NoneSent paymentHash ∧ s'.paid ≤ s.paid + 1) := by
  have hsum : ((s.calls.threads.set i ⟨op, ⟨c, a⟩ :: h, k a⟩).map unhanded).sum +
      unhanded ⟨op, h, .cmd c k⟩ =
      (s.calls.threads.map unhanded).sum + unhanded ⟨op, ⟨c, a⟩ :: h, k a⟩ :=
    Config.sum_set unhanded hi
  subst hs'
  simp only [SwapOutHub.paid, SwapOutHub.hands, hi]
  cases op with
  | call op =>
    left
    simp only [unhanded] at hsum ⊢
    simp only [Bool.false_eq_true, if_false]
    omega
  | payment l =>
    rcases (hs.calls.issues hi).cases a with ⟨hc, hins, hhand⟩ | ⟨args, row, hcall, hhash, hf, hn⟩ |
      ⟨hc, hnone⟩
    · left
      have hbefore : unhanded ⟨.payment l, h, .cmd c k⟩ = 1 := by simp [unhanded, hins, hhand]
      have hafter : unhanded ⟨.payment l, ⟨c, a⟩ :: h, k a⟩ = 0 := by
        simp [unhanded, hasHanded, hc]
      rw [hbefore, hafter] at hsum
      simp only [hc, if_true]
      omega
    · right
      cases hcall
      have hafter := unhanded_le_one ⟨.payment l, ⟨.sendPaymentTx args, .ok row⟩ :: h, k (.ok row)⟩
      refine ⟨hs.owes i _ hi (SwapOutHub.owes_running hf hn), sent_of_sendPaymentTx hx hhash, ?_⟩
      simp only [Cmd.handsInvoice, Bool.false_eq_true, if_false]
      omega
    · left
      have hsame : unhanded ⟨.payment l, ⟨c, a⟩ :: h, k a⟩ = unhanded ⟨.payment l, h,
          .cmd c k⟩ := by
        simp [unhanded, hasInserted, hasHanded, hc, hnone]
      rw [hsame] at hsum
      simp only [hc, Bool.false_eq_true, if_false]
      omega

/-- A payment that owes a row after its step knows that there is none. Reference:
`swaps/swaps_service.go:1197 startSwapOutListener`. -/
theorem SwapOutHub.Inv.owes_run (hs : s.Inv paymentHash) {op : PayOp} {h : History} {c : Cmd}
    {k : c.Ans → Svc Result} {a : c.Ans} {hub : Hub}
    (hi : s.calls.threads[i]? = some ⟨op, h, .cmd c k⟩)
    (hx : exec W s.calls.state c env = some (a, hub))
    (ho : s'.owes paymentHash ⟨op, ⟨c, a⟩ :: h, k a⟩ = true) :
    hub.db.transactions.NoneSent paymentHash := by
  cases op with
  | call op => cases ho
  | payment l =>
    simp only [SwapOutHub.owes, Bool.and_eq_true, Bool.not_eq_true'] at ho
    obtain ⟨⟨hf, hn⟩, -⟩ := ho
    simp only [hasInserted, List.any_cons, Bool.or_eq_false_iff] at hn
    cases hfound : foundNothing paymentHash h with
    | true =>
      have hold := hs.owes i _ hi (SwapOutHub.owes_running (s := s) hfound hn.2)
      have hok : Pays paymentHash h c := hs.calls.issues hi
      cases c with
      | sendPaymentTx args =>
        match a with
        | .ok row => exact absurd hn.1 (by simp [insertedRow])
        | .error e =>
          rw [(Hub.transaction_error hx).1]
          exact hold
      | create | sendKeysendTx | createSettledTransactionTx => exact hok.elim
      | _ => exact exec_noneSent hx rfl hold
    | false =>
      -- the lookup is this step
      simp only [foundNothing, List.any_cons, Bool.or_eq_true] at hf hfound
      rcases hf with hf | hf
      · split at hf
        · next heq =>
          cases heq
          exact of_decide_eq_true hf ▸ noneSent_of_lookup hx (.inl rfl)
        · next heq =>
          cases heq
          exact of_decide_eq_true hf ▸ noneSent_of_lookup hx (.inr rfl)
        · cases hf
      · rw [hfound] at hf
        cases hf

/-- An undisturbed step of a call keeps the invariant. Reference: none. -/
theorem SwapOutHub.Inv.run (hpay : Follows (Pays paymentHash)
      (fun h r => ∀ e, r = .error e → foundNothing paymentHash h = true) [] pay)
    (hs : s.Inv paymentHash) (ha : s.Undisturbed W pay paymentHash (.run i env))
    (hstep : s.step W pay (.run i env) = some s') : s'.Inv paymentHash := by
  have hkeep := ha s' hstep
  simp only [SwapOutHub.step] at hstep
  obtain ⟨calls, hc, rfl⟩ := Option.map_eq_some_iff.1 hstep
  have hd := hs.calls.step (pay_sound hpay) trivial hc
  obtain ⟨op, h, c, k, a, hub, hi, hx, rfl⟩ := Config.step_run hc
  have hlt := (List.getElem?_eq_some_iff.1 hi).1
  have hpaid := hs.paid_run hi hx rfl
  refine ⟨hd, fun t ht l hl => ?_, fun j t hj ho => ?_, ?_, fun hn => ?_, fun i' j hij => ?_⟩
  · rcases Config.mem_set ht with rfl | ht
    · exact hs.started _ (List.mem_of_getElem? hi) l hl
    · exact hs.started t ht l hl
  · by_cases hne : i = j
    · subst hne
      simp only at hj
      rw [List.getElem?_set_self hlt] at hj
      cases hj
      exact hs.owes_run hi hx ho
    · simp only at hj
      rw [List.getElem?_set_ne hne] at hj
      have hold := hs.owes j t hj ho
      refine Decidable.byContradiction fun hsent => hne (hkeep hold hsent j ?_).symm
      refine List.mem_filter.2 ⟨List.mem_range.2 (List.getElem?_eq_some_iff.1 hj).1, ?_⟩
      rw [hj]
      exact ho
  · rcases hpaid with heq | ⟨hnone, -, hle⟩
    · rw [heq]
      exact hs.once
    · rw [hs.unpaid hnone] at hle
      exact hle
  · rcases hpaid with heq | ⟨-, hsent, -⟩
    · rw [heq]
      exact hs.unpaid (noneSent_of_exec hx hn)
    · exact absurd hn hsent
  · obtain ⟨t, e, hj, hop, hrest⟩ := hs.taken i' j hij
    refine ⟨t, e, ?_, hop, hrest⟩
    have hne : i ≠ j := by
      rintro rfl
      rw [hi] at hj
      cases hj
      cases hrest
    exact (List.getElem?_set_ne hne).trans hj

theorem SwapOutHub.Inv.initial (h0 : s.Initial) : s.Inv paymentHash := by
  have hthread : ∀ t, t ∉ s.calls.threads := fun t ht => by
    rw [h0.calls] at ht
    cases ht
  have hpaid : s.paid = 0 := by simp [SwapOutHub.paid, h0.calls, h0.handed]
  refine ⟨⟨trivial, fun t ht => absurd ht (hthread t), fun t ht => absurd ht (hthread t),
    fun t ht => absurd ht (hthread t)⟩, fun t ht => absurd ht (hthread t), fun j t hj =>
    absurd (List.mem_of_getElem? hj) (hthread t), hpaid ▸ Nat.zero_le 1, fun _ => hpaid,
    fun i j hij => ?_⟩
  rw [h0.taken] at hij
  cases hij

/-- An undisturbed step keeps the invariant. Reference: `swaps/swaps_service.go:1150`. -/
theorem SwapOutHub.Inv.step (hpay : Follows (Pays paymentHash)
      (fun h r => ∀ e, r = .error e → foundNothing paymentHash h = true) [] pay) {l : SwapOutStep}
    (hs : s.Inv paymentHash) (ha : s.Undisturbed W pay paymentHash l)
    (hstep : s.step W pay l = some s') : s'.Inv paymentHash := by
  cases l with
  | call op =>
    simp only [SwapOutHub.step] at hstep
    obtain ⟨calls, hc, rfl⟩ := Option.map_eq_some_iff.1 hstep
    cases hc
    exact hs.spawn (W := W) hpay (.call op) fun k hk => nomatch hk
  | run i env => exact hs.run hpay ha hstep
  | subscribe n =>
    simp only [SwapOutHub.step] at hstep
    split at hstep
    · obtain ⟨listeners, hl, rfl⟩ := Option.map_eq_some_iff.1 hstep
      cases hl
      refine hs.listeners (by simp) fun k hk hlis => ?_
      simp only [SwapOutHub.listening] at hlis ⊢
      rwa [List.getElem?_append_left hk] at hlis
    · cases hstep
  | listen i env =>
    simp only [SwapOutHub.step] at hstep
    split at hstep
    · cases hstep
    · exact (hs.listen W hpay hstep).1
  | fail i j =>
    simp only [SwapOutHub.step] at hstep
    split at hstep
    · next k h e _ hj _ =>
      split at hstep
      · next hk =>
        subst hk
        obtain ⟨s₁, hl, rfl⟩ := Option.map_eq_some_iff.1 hstep
        obtain ⟨hinv, htaken, hkept⟩ := hs.listen W hpay hl
        refine ⟨hinv.calls, hinv.started, hinv.owes, hinv.once, hinv.unpaid, fun i' j' hij => ?_⟩
        rcases List.mem_cons.1 hij with heq | hij
        · cases heq
          exact ⟨_, e, hkept j _ hj, rfl, rfl⟩
        · exact hinv.taken i' j' hij
      · cases hstep
    · cases hstep
  | restart =>
    cases hstep
    have hle : s.handed ≤ s.paid := Nat.le_add_right _ _
    refine ⟨⟨trivial, fun t ht => (nomatch ht), fun t ht => (nomatch ht), fun t ht => (nomatch ht)⟩,
      fun t ht => (nomatch ht), fun j t hj => ?_, Nat.le_trans hle hs.once, fun hn => ?_,
      fun i j hij => (nomatch hij)⟩
    · cases List.mem_of_getElem? hj
    · have hpaid := hs.unpaid hn
      exact Nat.eq_zero_of_le_zero (hpaid ▸ hle)

/-- Over every run in which no outgoing row of the payment hash comes between the lookup of a
payment and its own row: the invoice is handed to the node at most once, and no listener ends by the
error of a payment that has made no row while there is one that has not failed. Reference:
`swaps/swaps_service.go:1195 startSwapOutListener`. -/
theorem swap_out_paid_once {swap : SwapInvoice} (hcase : ∀ p, W.decodepay swap.invoice = .ok p →
      W.decodepay (toLower W.lowerNonAscii swap.invoice) = .ok p) {labels : List SwapOutStep}
    (h0 : s.Initial)
    (ha : AllowsLabels (SwapOutHub.step W (payInvoice W swap))
      (SwapOutHub.Undisturbed W (payInvoice W swap) swap.paymentHash) s labels)
    (hr : runLabels (SwapOutHub.step W (payInvoice W swap)) s labels = some s') :
    s'.PaidOnce swap.paymentHash := by
  have hs : s'.Inv swap.paymentHash :=
    run_induction (P := fun s => s.Inv swap.paymentHash) (SwapOutHub.Inv.initial h0)
      (fun s l s' hs ha hstep => hs.step (pays_payInvoice hcase) ha hstep) ha hr
  refine ⟨Nat.le_trans (Nat.le_add_right _ _) hs.once, fun i j t hij hlis hj hn => ?_⟩
  obtain ⟨t', e, hj', hop, hrest⟩ := hs.taken i j hij
  rw [hj] at hj'
  cases hj'
  have hpost := hs.calls.returned (List.mem_of_getElem? hj) hrest
  rw [hop] at hpost
  have howes : s'.owes swap.paymentHash t = true := by
    simp only [SwapOutHub.owes, hop]
    rw [hpost e rfl, hn, hlis]
    simp
  intro row hrow hty hhash
  exact absurd hhash (hs.owes j t hj howes row hrow hty)

end

theorem SwapOutHub.PaidOnce.checkEnds {s : SwapOutHub} {paymentHash : String}
    (hp : s.PaidOnce paymentHash) : s.checkEnds paymentHash = true := by
  refine List.all_eq_true.2 fun (i, j) hij => ?_
  simp only [Bool.or_eq_true, Bool.not_eq_true', Option.all_eq_true]
  rw [Decidable.or_iff_not_imp_left]
  intro hlis t hj
  rw [Bool.not_eq_false] at hlis
  simp only [Bool.or_eq_true, List.all_eq_true]
  rw [Decidable.or_iff_not_imp_left]
  intro hn row hrow
  have hfailed := hp.ends i j t hij hlis hj (Bool.eq_false_iff.2 hn) row hrow
  simp only [ne_eq, decide_not, Bool.not_eq_true', decide_eq_false_iff_not, decide_eq_true_eq]
  by_cases hty : row.type = .outgoing
  · by_cases hhash : row.paymentHash = paymentHash
    · exact .inr (hfailed hty hhash)
    · exact .inl (.inr hhash)
  · exact .inl (.inl hty)

/-- A swap-out with the invoice of the tests. Reference: `swaps/swaps_service.go:239 SwapOut`. -/
def demoSwapInvoice : SwapInvoice := ⟨"swap", mockInvoice, mockHash, 123⟩

/-- The world of the tests, where the only invoice is that of the swap. Reference:
`tests/mock_ln_client.go:15 MockInvoice`. -/
def demoOneInvoice : World :=
  { demo with decodepay := fun _ => .ok ⟨123000, mockHash, "te", "", 1734375307, 3153600000⟩ }

/-- A hub with a pending swap. Reference: none. -/
def demoSwapOutHub : SwapOutHub := ⟨⟨⟨demoDB .empty, []⟩, []⟩, demoSwapPool demoSwap, 0, []⟩

/-- A step of the hub with the pending swap. Reference: none. -/
abbrev demoSwapOutStep : SwapOutHub → SwapOutStep → Option SwapOutHub :=
  SwapOutHub.step demoOneInvoice (payInvoice demoOneInvoice demoSwapInvoice)

/-- The listener starts, and is told twice that the swap was created. Reference:
`swaps/swaps_service.go:1195 startSwapOutListener`. -/
def createdTwice : List SwapOutStep :=
  [.subscribe 3, .listen 0 {}, .listen 0 {}, .listen 0 (demoMessage .swapCreated), .listen 0 {},
    .listen 0 (demoMessage .swapCreated), .listen 0 {}]

/-- The node pays the invoice. Reference: none. -/
def demoPaid : Env := { now := demoNow, payInvoice := .ok ⟨wrappedPreimage, 0⟩ }

/-- Both payments find nothing, the first one inserts its row, and the second one is refused.
Reference: `transactions/transactions_service.go:376 SendPaymentSync`. -/
def racingRun : List SwapOutStep :=
  createdTwice ++ [.run 0 demoPaid, .run 1 demoPaid] ++ List.replicate 3 (.run 0 demoPaid) ++
    List.replicate 3 (.run 1 demoPaid) ++ [.fail 0 1]

/-- The deferred function of the listener. Reference: `swaps/swaps_service.go:1077
startSwapOutListener`. -/
def failingRun : List SwapOutStep := [.listen 0 {}, .listen 0 {}]

/-- What the two runs end in. Reference: none. -/
def racingEnd : Option (Bool × SwapState × List (TransactionState × String)) :=
  (runLabels demoSwapOutStep demoSwapOutHub racingRun).bind fun s =>
    (runLabels demoSwapOutStep s failingRun).map fun s' =>
      (s.checkEnds mockHash, s'.listeners.state.swap.state,
        s'.calls.state.db.transactions.rows.map fun row => (row.state, row.paymentHash))

/-- The listener takes the refusal for a failed payment and marks the swap as failed, while the
first payment is pending. Reference: `swaps/swaps_service.go:1156 startSwapOutListener`. -/
theorem second_payment_fails_swap : demoSwapOutHub.Initial ∧ ∃ s s',
    runLabels demoSwapOutStep demoSwapOutHub racingRun = some s ∧
    runLabels demoSwapOutStep s failingRun = some s' ∧
    ¬ s.PaidOnce mockHash ∧ s'.listeners.state.swap.state = .failed ∧
    s'.calls.state.db.transactions.rows.map (fun row => (row.state, row.paymentHash)) =
      [(.pending, mockHash)] := by
  have hend : racingEnd = some (false, .failed, [(.pending, mockHash)]) := by decide +kernel
  refine ⟨⟨rfl, rfl, rfl, rfl⟩, ?_⟩
  obtain ⟨s, hs, hend⟩ := Option.bind_eq_some_iff.1 hend
  obtain ⟨s', hs', hend⟩ := Option.map_eq_some_iff.1 hend
  simp only [Prod.mk.injEq] at hend
  obtain ⟨hcheck, hstate, hrows⟩ := hend
  refine ⟨s, s', hs, hs', fun hp => ?_, hstate, hrows⟩
  rw [hp.checkEnds] at hcheck
  cases hcheck

/-- The first payment is made before the second one looks it up. Reference:
`swaps/swaps_service.go:1199 startSwapOutListener`. -/
def orderlyRun : List SwapOutStep :=
  createdTwice ++ List.replicate 7 (.run 0 demoPaid) ++ [.run 1 demoPaid]

/-- The second payment finds the first one. Reference: `swaps/swaps_service.go:1199
startSwapOutListener`. -/
theorem swap_out_paid_once_repeated : ∃ s,
    runLabels demoSwapOutStep demoSwapOutHub orderlyRun = some s ∧ s.handed = 1 ∧
    s.calls.threads.map (fun t => t.rest.done) = [true, true] ∧ s.PaidOnce mockHash := by
  have ha : AllowsLabels demoSwapOutStep (SwapOutHub.Undisturbed demoOneInvoice
      (payInvoice demoOneInvoice demoSwapInvoice) mockHash) demoSwapOutHub orderlyRun := by
    decide +kernel
  have hend : (runLabels demoSwapOutStep demoSwapOutHub orderlyRun).map
      (fun s => (s.handed, s.calls.threads.map fun t => t.rest.done)) = some (1, [true, true]) := by
    decide +kernel
  obtain ⟨s, hs, hend⟩ := Option.map_eq_some_iff.1 hend
  simp only [Prod.mk.injEq] at hend
  have hany : ∀ invoice p, demoOneInvoice.decodepay invoice = .ok p →
      ∀ invoice', demoOneInvoice.decodepay invoice' = .ok p := fun _ _ hp _ => hp
  have hpaid : s.PaidOnce demoSwapInvoice.paymentHash :=
    swap_out_paid_once (fun p hp => hany _ p hp _) ⟨rfl, rfl, rfl, rfl⟩ ha hs
  exact ⟨s, hs, hend.1, hend.2, hpaid⟩

end AlbyHub
