import Mathlib.Data.List.Permutation
import AlbyHub.Nip47.Keysend

/-!
# What the methods answer to the controllers

The controllers read through the preimage of a payment, and convert rows for NIP-47, which reads
through the preimage of a settled one. What a method answers is fit for that wherever the answers of
its commands are (`AnswersReadable`), and those are so in every reachable state
(`exec_answersReadable`).
-/

namespace AlbyHub

open Go Interaction

/-- The conversion for NIP-47 reads through no nil pointer. Reference:
`nip47/models/transactions.go:25 ToNip47Transaction`. -/
def Transaction.Readable (r : Transaction) : Prop := (settledPreimage r).isSome = true

/-- The rows of an answer are readable, a settled row has a preimage, the caller's copy is as it was
or as the settled row, and random bytes are 32. Reference: none. -/
def AnswersReadable : Call Cmd Cmd.Ans → Prop
  | ⟨.listRows _, .ok rows⟩ => ∀ row ∈ rows, row.Readable
  | ⟨.markTransactionSettledTx row _ _ _, .ok st⟩ =>
    st.settled.preimage.isSome = true ∧ (st.copy = row ∨ st.copy = st.settled)
  | ⟨.randomBytes, .ok bytes⟩ => bytes.length = 32
  | call => ∀ row ∈ answeredRows call, row.Readable

/-- Every answer of the history is readable. Reference: none. -/
def History.Readable (h : History) : Prop := ∀ call ∈ h, AnswersReadable call

section
variable {W : World} {h h' : History} {s s' : Hub} {env : Env} {r row : Transaction}
variable {amountMsat : Nat} {description descriptionHash paymentHash : String} {expiry : Nat}
variable {metadata : Option Metadata} {appId requestEventId : Option Nat}

theorem Transaction.Readable.of_preimage (hp : r.preimage.isSome = true) : r.Readable := by
  unfold Transaction.Readable settledPreimage
  split
  · rfl
  · split
    · next hnone => simp [hnone] at hp
    · rfl

theorem Transaction.Readable.toNip47Transaction (hr : r.Readable) (now : Time) :
    (ToNip47Transaction W now r).isSome = true := by
  obtain ⟨x, hx⟩ := Option.isSome_iff_exists.1 hr
  unfold ToNip47Transaction
  rw [hx]
  rfl

theorem History.Readable.answered (hh : h.Readable) (hrow : h.Answered row) : row.Readable := by
  obtain ⟨⟨c, a⟩, hcall, hmem⟩ := hrow
  have hread := hh _ hcall
  unfold answeredRows at hmem
  split at hmem
  case h_7 => cases hmem
  all_goals
    next heq =>
      cases heq
      exact hread row hmem

theorem History.Readable.settled {preimage : String} {feeMsat : Nat} {selfPayment : Bool}
    {st : Settlement} (hh : h.Readable)
    (hd : Did h (.markTransactionSettledTx row preimage feeMsat selfPayment) (.ok st)) :
    st.settled.preimage.isSome = true ∧ (st.copy = row ∨ st.copy = st.settled) := hh _ hd

/-! ## The results -/

/-- Reference: `transactions/transactions_service.go:441 SendPaymentSync`. -/
theorem preimage_finishPayment {selfPayment : Bool} {response : Except Err PayInvoiceResponse} :
    Follows (fun _ _ => True)
      (fun (h : History) r => h.Readable → ∀ t, r = .ok t → t.preimage.isSome = true) h
      (finishPayment row selfPayment response) := by
  cases response with
  | error e =>
    exact (follows_markPaymentFailed lenient_any trivial).bind fun _ _ _ _ _ _ ht => nomatch ht
  | ok response =>
    refine (follows_markTransactionSettled lenient_any fun _ => trivial).mono (fun _ _ h => h)
      fun h' r _ ⟨hok, _⟩ hh t ht => ?_
    obtain ⟨-, st, rfl, hd⟩ := hok t ht
    exact (hh.settled hd).1

/-- Reference: `transactions/transactions_service.go:301 SendPaymentSync`. -/
theorem preimage_sendPaymentSync {payReq : String} {amountMsat : Option Nat} :
    Follows (fun _ _ => True)
      (fun (h : History) r => h.Readable → ∀ t, r = .ok t → t.preimage.isSome = true) h
      (SendPaymentSync W payReq amountMsat metadata appId requestEventId) := by
  refine follows_sendPaymentSync lenient_any (fun _ _ _ _ _ ht => nomatch ht)
    (fun _ _ _ _ => trivial) fun h' a row _ _ => ?_
  exact follows_any.bind fun _ _ _ _ => preimage_finishPayment

/-- Reference: `transactions/transactions_service.go:465 SendKeysend`. -/
theorem preimage_sendKeysend {destination preimage : String} {customRecords : List TLVRecord}
    (hfits : KeysendPreimageFits preimage) :
    Follows (fun _ _ => True)
      (fun (h : History) r =>
        h.Readable → ∀ x, r = .ok x → ∃ t, x = some t ∧ t.preimage.isSome = true) h
      (SendKeysend W amountMsat destination customRecords preimage appId requestEventId) := by
  refine keysendReturns_sendKeysend.mono (fun _ _ h => h) fun h' r _ hr hh x hx => ?_
  cases hr with
  | error => cases hx
  | settled hd =>
    cases hx
    exact ⟨_, rfl, (hh.settled hd).1⟩
  | random hd hlength => exact absurd (hh _ hd) hlength
  | given hne hbytes hlength =>
    rcases hfits with rfl | hfits
    · exact absurd rfl hne
    · exact absurd (hfits _ hbytes) hlength

/-- Reference: `transactions/transactions_service.go:166 MakeInvoice`. -/
theorem readable_makeInvoice {throughNodePubkey : Option String} :
    Follows (fun _ _ => True) (fun (h : History) r => h.Readable → ∀ t, r = .ok t → t.Readable) h
      (MakeInvoice W amountMsat description descriptionHash expiry metadata appId requestEventId
        throughNodePubkey) := by
  unfold MakeInvoice
  split
  · exact fun _ _ ht => nomatch ht
  · split
    · exact fun _ _ ht => nomatch ht
    · split
      · exact fun _ _ ht => nomatch ht
      · split
        · exact fun _ _ ht => nomatch ht
        · refine .call trivial fun r => ?_
          cases r with
          | error e => exact fun _ _ ht => nomatch ht
          | ok tx =>
            refine ⟨trivial, fun r hh t ht => ?_⟩
            subst ht
            exact hh.answered (.last (List.mem_singleton.2 rfl))

/-- Reference: `transactions/transactions_service.go:247 MakeHoldInvoice`. -/
theorem readable_makeHoldInvoice {minCltvExpiryDelta : Option Nat} :
    Follows (fun _ _ => True) (fun (h : History) r => h.Readable → ∀ t, r = .ok t → t.Readable) h
      (MakeHoldInvoice W amountMsat description descriptionHash expiry paymentHash
        minCltvExpiryDelta metadata appId requestEventId) := by
  unfold MakeHoldInvoice
  split
  · exact fun _ _ ht => nomatch ht
  · refine .call trivial fun r => ?_
    cases r with
    | error e => exact fun _ _ ht => nomatch ht
    | ok tx =>
      refine ⟨trivial, fun r hh t ht => ?_⟩
      subst ht
      exact hh.answered (.last (List.mem_singleton.2 rfl))

/-- The caller's copy is readable afterwards if it was before. Reference:
`transactions/transactions_service.go:773 checkUnsettledTransaction`. -/
theorem readable_checkUnsettledTransaction :
    Follows (fun _ _ => True) (fun (h : History) t => h.Readable → row.Readable → t.Readable) h
      (checkUnsettledTransaction W row) := by
  unfold checkUnsettledTransaction
  split
  · exact fun _ hr => hr
  · refine .call trivial fun r => ?_
    cases r with
    | error e => exact fun _ hr => hr
    | ok tx =>
      simp only
      split
      · exact fun _ hr => hr
      · refine (follows_settleCopy lenient_any fun _ => trivial).bind fun h' r _ ⟨hok, _⟩ => ?_
        cases r with
        | error e => exact fun _ hr => hr
        | ok x =>
          intro hh hr
          obtain ⟨-, st, rfl, hd⟩ := hok x rfl
          obtain ⟨hp, hcopy⟩ := hh.settled hd
          show st.copy.Readable
          rcases hcopy with hcopy | hcopy
          · rw [hcopy]
            exact hr
          · rw [hcopy]
            exact .of_preimage hp

/-- Reference: `transactions/transactions_service.go:599 LookupTransaction`. -/
theorem readable_lookupTransaction {type : Option TransactionType} :
    Follows (fun _ _ => True) (fun (h : History) r => h.Readable → ∀ t, r = .ok t → t.Readable) h
      (LookupTransaction W paymentHash type appId) := by
  unfold LookupTransaction
  refine follows_any.bind fun h₁ isolated _ _ => ?_
  cases isolated with
  | error e => exact fun _ _ ht => nomatch ht
  | ok appId =>
    refine .call trivial fun found => ?_
    match found with
    | .error e => exact fun _ _ ht => nomatch ht
    | .ok none => exact fun _ _ ht => nomatch ht
    | .ok (some transaction) =>
      have hrow : History.Answered (⟨.lookup paymentHash type appId, .ok (some transaction)⟩ :: h₁)
          transaction := .last (List.mem_singleton.2 rfl)
      simp only
      split
      · refine readable_checkUnsettledTransaction.bind fun h₂ t hs hcopy hh t' ht => ?_
        cases ht
        exact hcopy hh (hh.answered (hrow.mono hs))
      · intro hh t ht
        cases ht
        exact hh.answered hrow

/-- Reference: `transactions/transactions_service.go:654 ListTransactions`. -/
theorem readable_listTransactions {params : ListQuery} {forceFilterByAppId : Bool} :
    Follows (fun _ _ => True)
      (fun (h : History) r => h.Readable → ∀ x, r = .ok x → ∀ t ∈ x.1, t.Readable) h
      (ListTransactions W params appId forceFilterByAppId) := by
  unfold ListTransactions
  refine follows_any.bind fun h₁ _ _ _ => follows_any.bind fun h₂ isolated _ _ => ?_
  cases isolated with
  | error e => exact fun _ _ hx => nomatch hx
  | ok isolated =>
    refine .call trivial fun r => ?_
    cases r with
    | error e => exact fun _ _ hx => nomatch hx
    | ok totalCount =>
      refine .call trivial fun r => ?_
      cases r with
      | error e => exact fun _ _ hx => nomatch hx
      | ok transactions =>
        intro hh x hx
        cases hx
        exact hh _ List.mem_cons_self

/-! ## The answers in a reachable state -/

theorem mem_of_orderUpdated {n : Nat} {l : List Transaction} (hr : r ∈ orderUpdated n l) :
    r ∈ l := by
  rw [orderUpdated, List.mem_insertionSort] at hr
  cases hpick : pick n l.permutations with
  | none =>
    rw [hpick] at hr
    exact hr
  | some l' =>
    rw [hpick] at hr
    exact (List.mem_permutations.1 (mem_of_pick hpick)).mem_iff.1 hr

theorem ListQuery.mem_of_page {q : ListQuery} {l : List Transaction} (hr : r ∈ q.page l) :
    r ∈ l := by
  have hdrop : ∀ {l' : List Transaction}, l' = l ∨ l' = l.drop (int64 q.offset).toNat →
      r ∈ l' → r ∈ l := by
    rintro l' (rfl | rfl) hr
    · exact hr
    · exact List.mem_of_mem_drop hr
  unfold ListQuery.page at hr
  simp only at hr
  split at hr <;> split at hr
  · exact hdrop (.inr rfl) (List.mem_of_mem_take hr)
  · exact hdrop (.inl rfl) (List.mem_of_mem_take hr)
  · exact hdrop (.inr rfl) hr
  · exact hdrop (.inl rfl) hr

/-- A settlement answers the caller's row as its copy, or the settled row. Reference:
`transactions/transactions_service.go:1477 markTransactionSettled`. -/
theorem copy_of_settle {db db' : DB} {preimage : String} {feeMsat : Nat} {selfPayment : Bool}
    {st : Settlement}
    (hst : markTransactionSettledTx W env db row preimage feeMsat selfPayment = .ok (st, db')) :
    st.copy = row ∨ st.copy = st.settled := by
  unfold markTransactionSettledTx at hst
  split at hst
  · cases hst
    exact .inl rfl
  · split at hst
    · cases hst
      exact .inr rfl
    · cases hst

/-- What the commands of a call answer in a state with well-formed rows is readable. Reference: the
calls of `Cmd`. -/
theorem exec_answersReadable {c : Cmd} {a : c.Ans} (ht : s.db.transactions.WellFormed)
    (hk : ∀ call ∈ h, KnownRows call s) (hc : SourcedBy h c) (hp : PromptBy h c)
    (hrandom : env.randomBytes.length = 32) (hx : exec W s c env = some (a, s')) :
    AnswersReadable ⟨c, a⟩ := by
  have ht' := exec_wellFormed ht hk hc hp hx
  have hrows : ∀ row ∈ answeredRows ⟨c, a⟩, row.Readable := fun row hrow =>
    (ht' row (exec_answered hx row hrow)).settledPreimage
  unfold AnswersReadable
  split
  · next q rows heq =>
    cases heq
    intro row hrow
    change s.query env q _ = _ at hx
    unfold Hub.query at hx
    split at hx
    · obtain ⟨-, ⟨e, he⟩ | he⟩ := Hub.read_eq hx
      · cases he
      · cases he
        have hlisted := mem_of_orderUpdated (ListQuery.mem_of_page hrow)
        exact (ht row (List.mem_filter.1 hlisted).1).settledPreimage
    · cases hx
  · next row preimage feeMsat selfPayment st heq =>
    cases heq
    obtain ⟨preimage', hp'⟩ := answersWhole_settle ht hx
    refine ⟨by simp [hp'], ?_⟩
    obtain ⟨db, hst, -⟩ := Hub.transaction_ok hx
    exact copy_of_settle hst
  · next bytes heq =>
    cases heq
    exact exec_answersWhole ht hrandom hx
  · exact hrows

end

end AlbyHub
