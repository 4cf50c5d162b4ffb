import AlbyHub.Interaction.Solo
import AlbyHub.Transactions.WellFormed
import Mathlib.Data.Int.ConditionallyCompleteOrder
import Mathlib.Data.List.MinMax
import Mathlib.Data.Prod.Lex
import Mathlib.Order.ConditionallyCompleteLattice.Basic
import Mathlib.Order.WithBot

/-!
# The row that a lookup takes

`LookupTransaction` takes the first row in the order `settled_at desc, created_at desc`, which is
that of a key: the instant of the settlement, then that of the creation (`lookupKey`). On sqlite
`NULL` is the least instant and on postgres the greatest. So sqlite takes a settled row before an
unsettled one, and postgres the other way round.
-/

namespace AlbyHub

open Go Interaction

/-- What rows are ordered by; the order of the database sorts `NULL` before or after all instants.
Reference: `transactions/transactions_service.go:629 LookupTransaction`. -/
def lookupKey (postgres : Bool) (r : Transaction) : Lex (WithBot (WithTop Int) × Int) :=
  toLex (match r.settledAt with
    | some settledAt => ((settledAt : WithTop Int) : WithBot (WithTop Int))
    | none => if postgres then ((⊤ : WithTop Int) : WithBot (WithTop Int)) else ⊥, r.createdAt)

/-- The rows that the filters of a lookup leave. Reference:
`transactions/transactions_service.go:599 LookupTransaction`. -/
def lookupMatches (t : Table) (paymentHash : String) (type : Option TransactionType)
    (appId : Option Nat) : List Transaction :=
  (t.select { type, paymentHash }).filter fun r => appId = none ∨ r.appId = appId

/-- The app that a lookup is restricted to. Reference: `transactions/transactions_service.go:604
LookupTransaction`. -/
def DB.restriction (db : DB) : Option Nat → Option Nat
  | none => none
  | some appId => if db.apps.any fun a => a.id = appId && a.isolated then some appId else none

/-- A lookup, by itself, answers a settled row where one passes the filters, and else one of the
rows that were created last; the answered copy may have been updated. Reference: the comment at
`transactions/transactions_service.go:627 LookupTransaction`. -/
def PrefersSettled (W : World) (s : Hub) (paymentHash : String) (type : Option TransactionType)
    (appId : Option Nat) : Prop :=
  ∀ r s', (LookupTransaction W paymentHash type appId).Runs (exec W) s (.ok r) s' →
    let rows := lookupMatches s.db.transactions paymentHash type (s.db.restriction appId)
    ((∃ r' ∈ rows, r'.state = .settled) → r.state = .settled) ∧
      ((∀ r' ∈ rows, r'.state ≠ .settled) →
        ∃ r₀ ∈ rows, r₀.identity = r.identity ∧ ∀ r' ∈ rows, r'.createdAt ≤ r.createdAt)

/-- The world with one of the two databases. Reference: `db/db.go`. -/
def World.on (W : World) (postgres : Bool) : World := { W with postgres }

/-- Both databases prefer settled rows, and take the same rows. Reference:
`transactions/transactions_service.go:627 LookupTransaction`. -/
def LookupsPreferSettled (W : World) (s : Hub) (paymentHash : String)
    (type : Option TransactionType)
    (appId : Option Nat) : Prop :=
  (∀ postgres, PrefersSettled (W.on postgres) s paymentHash type appId) ∧
    ∀ r, r ∈ lookupRows (W.on true) s.db.transactions paymentHash type (s.db.restriction appId) ↔
      r ∈ lookupRows (W.on false) s.db.transactions paymentHash type (s.db.restriction appId)

/-- A settled row and another one pass the filters. Reference:
`transactions/transactions_service.go:627 LookupTransaction`. -/
def MixedMatches (s : Hub) (paymentHash : String) (type : Option TransactionType)
    (appId : Option Nat) : Prop :=
  let rows := lookupMatches s.db.transactions paymentHash type (s.db.restriction appId)
  (∃ r ∈ rows, r.state = .settled) ∧ ∃ r ∈ rows, r.state ≠ .settled

section
variable {W : World} {env : Env} {s s' : Hub} {t : Table} {r r' : Transaction} {postgres : Bool}
variable {paymentHash : String} {type : Option TransactionType} {appId : Option Nat}

/-- The comparison of the query is that of the keys. Reference: SQL `ORDER BY`. -/
theorem lookupBefore_iff : lookupBefore (W.on postgres) r r' = true ↔
    lookupKey postgres r' < lookupKey postgres r := by
  unfold lookupBefore lookupKey World.on
  rw [Prod.Lex.toLex_lt_toLex]
  cases hr : r.settledAt with
  | none =>
    cases hr' : r'.settledAt with
    | none => simp
    | some settledAt' =>
      have htop : ((settledAt' : WithTop Int) : WithBot (WithTop Int)) < (⊤ : WithTop Int) :=
        WithBot.coe_lt_coe.2 (WithTop.coe_lt_top _)
      cases postgres with
      | false => simp
      | true => simpa using htop
  | some settledAt =>
    cases hr' : r'.settledAt with
    | none => cases postgres <;> simp
    | some settledAt' =>
      simp only [gt_iff_lt, Bool.or_eq_true, decide_eq_true_eq, Bool.and_eq_true,
        WithBot.coe_lt_coe, WithTop.coe_lt_coe, WithBot.coe_inj, WithTop.coe_inj]
      rw [eq_comm (a := settledAt)]

/-- The lookup takes one of the greatest rows. Reference: SQL `ORDER BY … LIMIT 1`. -/
theorem mem_lookupRows : r ∈ lookupRows (W.on postgres) t paymentHash type appId ↔
    r ∈ lookupMatches t paymentHash type appId ∧
      ∀ r' ∈ lookupMatches t paymentHash type appId,
        lookupKey postgres r' ≤ lookupKey postgres r := by
  unfold lookupRows lookupMatches
  simp only [List.mem_filter, List.all_eq_true, Bool.not_eq_true', ← Bool.not_eq_true,
    lookupBefore_iff, not_lt]

/-- Some row is taken where a row passes the filters. Reference: SQL `ORDER BY … LIMIT 1`. -/
theorem exists_mem_lookupRows (hr : r ∈ lookupMatches t paymentHash type appId) :
    ∃ r, r ∈ lookupRows (W.on postgres) t paymentHash type appId := by
  cases hmax : (lookupMatches t paymentHash type appId).argmax (lookupKey postgres) with
  | none =>
    rw [List.argmax_eq_none] at hmax
    rw [hmax] at hr
    cases hr
  | some r' =>
    refine ⟨r', mem_lookupRows.2 ⟨List.argmax_mem hmax, fun r'' hr'' => ?_⟩⟩
    exact List.le_of_mem_argmax hr'' hmax

/-- On sqlite a settled row comes before an unsettled one. Reference:
`transactions/transactions_service.go:627 LookupTransaction`. -/
theorem lookupKey_sqlite (hr : r.settledAt ≠ none) (hr' : r'.settledAt = none) :
    lookupKey false r' < lookupKey false r := by
  obtain ⟨settledAt, hat⟩ := Option.ne_none_iff_exists'.1 hr
  unfold lookupKey
  rw [Prod.Lex.toLex_lt_toLex, hat, hr']
  simp

/-- On postgres an unsettled row comes before a settled one. Reference:
`transactions/transactions_service.go:629 LookupTransaction`. -/
theorem lookupKey_postgres (hr : r.settledAt ≠ none) (hr' : r'.settledAt = none) :
    lookupKey true r < lookupKey true r' := by
  obtain ⟨settledAt, hat⟩ := Option.ne_none_iff_exists'.1 hr
  have htop : ((settledAt : WithTop Int) : WithBot (WithTop Int)) < (⊤ : WithTop Int) :=
    WithBot.coe_lt_coe.2 (WithTop.coe_lt_top _)
  unfold lookupKey
  rw [Prod.Lex.toLex_lt_toLex, hat, hr']
  exact .inl htop

/-- Rows of one kind are in the order of the same key on both databases. Reference: SQL `ORDER
BY`. -/
theorem lookupKey_le_iff (h : r.settledAt = none ↔ r'.settledAt = none) :
    lookupKey true r' ≤ lookupKey true r ↔ lookupKey false r' ≤ lookupKey false r := by
  unfold lookupKey
  rw [Prod.Lex.toLex_le_toLex, Prod.Lex.toLex_le_toLex]
  cases hr : r.settledAt with
  | none => simp [h.1 hr]
  | some settledAt =>
    cases hr' : r'.settledAt with
    | none => cases hr.symm.trans (h.2 hr')
    | some settledAt' => simp

/-- Among unsettled rows the one that was created last comes first. Reference:
`transactions/transactions_service.go:629 LookupTransaction`. -/
theorem createdAt_le_of_lookupKey_le (hr : r.settledAt = none) (hr' : r'.settledAt = none)
    (h : lookupKey postgres r' ≤ lookupKey postgres r) : r'.createdAt ≤ r.createdAt := by
  unfold lookupKey at h
  rw [Prod.Lex.toLex_le_toLex, hr, hr'] at h
  simpa using h

/-! ## A lookup by itself -/

theorem isolatedAppId_runs {a : Option Nat}
    (h : (isolatedAppId appId).Runs (exec W) s (.ok a) s') : a = s.db.restriction appId ∧
    s' = s := by
  cases appId with
  | none =>
    obtain ⟨ha, hs⟩ := h
    cases ha
    exact ⟨rfl, hs⟩
  | some appId =>
    obtain ⟨env, r, s₁, hx, h⟩ := Prog.runs_call_bind.1 h
    obtain ⟨rfl, ⟨_, rfl⟩ | rfl⟩ := Hub.read_eq hx
    · obtain ⟨ha, _⟩ := h
      cases ha
    · obtain ⟨ha, hs⟩ := h
      cases ha
      exact ⟨rfl, hs⟩

/-- The caller's copy stays a copy of its row. Reference:
`transactions/transactions_service.go:1470 markTransactionSettled`. -/
theorem settleCopy_runs {preimage : String} {feeMsat : Nat} {selfPayment : Bool}
    {settled copy : Transaction}
    (h : (settleCopy r preimage feeMsat selfPayment).Runs (exec W) s (.ok (settled, copy)) s') :
    copy.identity = r.identity := by
  unfold settleCopy at h
  split at h
  · obtain ⟨ha, _⟩ := h
    cases ha
  · obtain ⟨env, a, s₁, hx, h⟩ := Prog.runs_call_bind.1 h
    cases a with
    | error e =>
      obtain ⟨ha, _⟩ := h
      cases ha
    | ok st =>
      obtain ⟨_, s₂, _, ha, _⟩ := Prog.runs_bind.1 h
      cases ha
      obtain ⟨db, hb, _⟩ := Hub.transaction_ok hx
      rcases markTransactionSettledTx_ok hb with ⟨_, _, _, rfl, _⟩ | ⟨_, _, hst, hcopy, _⟩
      · rfl
      · rw [hcopy, hst, Update.identity]

theorem checkUnsettledTransaction_runs
    (h : (checkUnsettledTransaction W r).Runs (exec W) s r' s') : r'.identity = r.identity := by
  unfold checkUnsettledTransaction at h
  split at h
  · rw [h.1]
  · obtain ⟨env, a, s₁, hx, h⟩ := Prog.runs_call_bind.1 h
    cases a with
    | error e => rw [h.1]
    | ok tx =>
      simp only at h
      split at h
      · rw [h.1]
      · obtain ⟨b, s₂, hcopy, h⟩ := Prog.runs_bind.1 h
        match b, hcopy, h with
        | .error _, _, h => rw [h.1]
        | .ok (_, copy), hcopy, h =>
          rw [h.1]
          exact settleCopy_runs hcopy

/-- What a lookup answers is one of the first rows, unless that is pending and was checked.
Reference: `transactions/transactions_service.go:599 LookupTransaction`. -/
theorem lookupTransaction_runs
    (h : (LookupTransaction W paymentHash type appId).Runs (exec W) s (.ok r) s') :
    ∃ r₀ ∈ lookupRows W s.db.transactions paymentHash type (s.db.restriction appId),
      r.identity = r₀.identity ∧ (r₀.state ≠ .pending → r = r₀) := by
  obtain ⟨a, s₁, happ, h⟩ := Prog.runs_bind.1 h
  cases a with
  | error e =>
    obtain ⟨ha, _⟩ := h
    cases ha
  | ok a =>
    obtain ⟨rfl, rfl⟩ := isolatedAppId_runs happ
    obtain ⟨env, found, s₂, hx, h⟩ := Prog.runs_call_bind.1 h
    obtain ⟨rfl, ⟨_, rfl⟩ | rfl⟩ := Hub.read_eq hx
    · obtain ⟨ha, _⟩ := h
      cases ha
    · cases hpick : pick env.pick (lookupRows W s₂.db.transactions paymentHash type
        (s₂.db.restriction appId)) with
      | none =>
        rw [hpick] at h
        obtain ⟨ha, _⟩ := h
        cases ha
      | some r₀ =>
        rw [hpick] at h
        refine ⟨r₀, mem_of_pick hpick, ?_⟩
        simp only at h
        split at h
        · next hst =>
          obtain ⟨r', s₃, hcheck, ha, _⟩ := Prog.runs_bind.1 h
          cases ha
          exact ⟨checkUnsettledTransaction_runs hcheck, fun hne => absurd hst hne⟩
        · obtain ⟨ha, _⟩ := h
          cases ha
          exact ⟨rfl, fun _ => rfl⟩

/-! ## Which lookups prefer settled rows -/

/-- Reference: none. -/
theorem Transaction.WellFormed.settledAt_eq_none (hr : r.WellFormed) :
    r.settledAt = none ↔ r.state ≠ .settled := by
  rw [ne_eq, hr.settledAt, not_not]

theorem wellFormed_of_lookupMatches (ht : t.WellFormed)
    (hr : r ∈ lookupMatches t paymentHash type appId) : r.WellFormed := by
  unfold lookupMatches at hr
  exact ht r (Table.mem_select.1 (List.mem_filter.1 hr).1).1

/-- It is enough that a settled row is taken where there is one. Reference:
`transactions/transactions_service.go:599 LookupTransaction`. -/
theorem prefersSettled_of (ht : s.db.transactions.WellFormed)
    (hfirst : ∀ r ∈ lookupMatches s.db.transactions paymentHash type (s.db.restriction appId),
      (∀ r' ∈ lookupMatches s.db.transactions paymentHash type (s.db.restriction appId),
        lookupKey postgres r' ≤ lookupKey postgres r) →
      (∃ r' ∈ lookupMatches s.db.transactions paymentHash type (s.db.restriction appId),
        r'.state = .settled) → r.state = .settled) :
    PrefersSettled (W.on postgres) s paymentHash type appId := by
  intro r s' hrun
  obtain ⟨r₀, hr₀, hid, hsame⟩ := lookupTransaction_runs hrun
  obtain ⟨hmem, hmax⟩ := mem_lookupRows.1 hr₀
  have hwell := wellFormed_of_lookupMatches ht hmem
  refine ⟨?_, ?_⟩
  · intro hsettled
    have hst : r₀.state = .settled := hfirst r₀ hmem hmax hsettled
    rw [hsame (by rw [hst]; simp), hst]
  · intro hnone
    have hcreated : r.createdAt = r₀.createdAt := congrArg Identity.createdAt hid
    refine ⟨r₀, hmem, hid.symm, fun r' hr' => ?_⟩
    rw [hcreated]
    have hwell' := wellFormed_of_lookupMatches ht hr'
    exact createdAt_le_of_lookupKey_le (hwell.settledAt_eq_none.2 (hnone _ hmem))
      (hwell'.settledAt_eq_none.2 (hnone _ hr')) (hmax r' hr')

/-- Sqlite prefers settled rows. Reference: `transactions/transactions_service.go:627
LookupTransaction`. -/
theorem prefersSettled_sqlite (ht : s.db.transactions.WellFormed) :
    PrefersSettled (W.on false) s paymentHash type appId := by
  refine prefersSettled_of ht fun r hr hmax hsettled => ?_
  obtain ⟨r', hr', hst'⟩ := hsettled
  by_contra hst
  have hlt := lookupKey_sqlite ((wellFormed_of_lookupMatches ht hr').settledAt.1 hst')
    ((wellFormed_of_lookupMatches ht hr).settledAt_eq_none.2 hst)
  exact absurd (hmax r' hr') (not_le.2 hlt)

/-- Postgres prefers settled rows where all rows are settled or none is. Reference:
`transactions/transactions_service.go:627 LookupTransaction`. -/
theorem prefersSettled_postgres (ht : s.db.transactions.WellFormed)
    (hn : ¬ MixedMatches s paymentHash type appId) :
    PrefersSettled (W.on true) s paymentHash type appId := by
  refine prefersSettled_of ht fun r hr _ hsettled => ?_
  by_contra hst
  exact hn ⟨hsettled, r, hr, hst⟩

/-- Where all rows are settled or none is, both databases take the same rows. Reference:
`transactions/transactions_service.go:629 LookupTransaction`. -/
theorem mem_lookupRows_iff (ht : s.db.transactions.WellFormed)
    (hn : ¬ MixedMatches s paymentHash type appId) :
    r ∈ lookupRows (W.on true) s.db.transactions paymentHash type (s.db.restriction appId) ↔
      r ∈ lookupRows (W.on false) s.db.transactions paymentHash type (s.db.restriction appId) := by
  rw [mem_lookupRows, mem_lookupRows]
  refine and_congr_right fun hr => forall₂_congr fun r' hr' => lookupKey_le_iff ?_
  rw [(wellFormed_of_lookupMatches ht hr).settledAt_eq_none,
    (wellFormed_of_lookupMatches ht hr').settledAt_eq_none]
  constructor
  · intro hst hst'
    exact hn ⟨⟨r', hr', hst'⟩, r, hr, hst⟩
  · intro hst' hst
    exact hn ⟨⟨r, hr, hst⟩, r', hr', hst'⟩

/-- In every reachable state the lookups prefer settled rows on both databases, and take the same
rows, exactly where no other row passes the filters beside a settled one. Reference:
`transactions/transactions_service.go:599 LookupTransaction`. -/
theorem lookups_prefer_settled_iff (W : World) {cfg : Pool}
    (h : Reachable W (Fresh fun db => db.transactions.WellFormed) anyStep cfg)
    (paymentHash : String)
    (type : Option TransactionType) (appId : Option Nat) :
    LookupsPreferSettled W cfg.state paymentHash type appId ↔
      ¬ MixedMatches cfg.state paymentHash type appId := by
  have ht := h.wellFormed
  constructor
  · rintro ⟨_, hagree⟩ ⟨⟨r, hr, hst⟩, r', hr', hst'⟩
    -- the rows that sqlite takes are settled, and those that postgres takes are not
    obtain ⟨r₀, hr₀⟩ : ∃ r₀, r₀ ∈ lookupRows (W.on false) cfg.state.db.transactions paymentHash type
        (cfg.state.db.restriction appId) :=
      exists_mem_lookupRows hr
    obtain ⟨hmem, hlite⟩ := mem_lookupRows.1 hr₀
    obtain ⟨_, hpost⟩ := mem_lookupRows.1 ((hagree r₀).2 hr₀)
    have hwell := wellFormed_of_lookupMatches ht hr
    have hwell' := wellFormed_of_lookupMatches ht hr'
    by_cases hst₀ : r₀.settledAt = none
    · exact absurd (hlite r hr) (not_le.2 (lookupKey_sqlite (hwell.settledAt.1 hst) hst₀))
    · have hnone := hwell'.settledAt_eq_none.2 hst'
      exact absurd (hpost r' hr') (not_le.2 (lookupKey_postgres hst₀ hnone))
  · intro hn
    refine ⟨fun postgres => ?_, fun r => mem_lookupRows_iff ht hn⟩
    cases postgres with
    | false => exact prefersSettled_sqlite ht
    | true => exact prefersSettled_postgres ht hn

end

theorem lookups_prefer_settled_keysend :
    ¬ MixedMatches ((demoPool .empty).after demo (demoKeysendRun 0)).state wrappedHash none none ∧
      LookupsPreferSettled demo ((demoPool .empty).after demo (demoKeysendRun 0)).state wrappedHash
        none none := by
  have hreach : Reachable demo (Fresh fun db => db.transactions.WellFormed) anyStep
      ((demoPool .empty).after demo (demoKeysendRun 0)) :=
    .of_after (.start ⟨by simp [Table.WellFormed, demoPool, demoDB, Table.empty], rfl, rfl⟩)
      Config.allows_any (by decide +kernel)
  have hrows : ((demoPool .empty).after demo (demoKeysendRun 0)).state.db.transactions.rows.map
      (·.state) = [.settled, .settled] := by decide +kernel
  have hn : ¬ MixedMatches ((demoPool .empty).after demo (demoKeysendRun 0)).state wrappedHash none
      none := by
    rintro ⟨_, r, hr, hst⟩
    have hmem := List.mem_map_of_mem (f := (·.state))
      (Table.mem_select.1 (List.mem_filter.1 hr).1).1
    rw [hrows] at hmem
    simp at hmem
    exact hst hmem
  exact ⟨hn, (lookups_prefer_settled_iff demo hreach wrappedHash none none).2 hn⟩

/-- A payment that failed and then succeeded. Reference: `transactions/transactions_service.go:627
LookupTransaction`. -/
def failedThenPaid : Table :=
  let failed : Transaction :=
    { type := .outgoing, state := .failed, amountMsat := 123000, paymentRequest := mockInvoice
      paymentHash := mockHash, failureReason := "no route" }
  let paid : Transaction :=
    { type := .outgoing, state := .settled, amountMsat := 123000, paymentRequest := mockInvoice
      paymentHash := mockHash, preimage := some "123preimage", settledAt := some (Time.unix 2) }
  (Table.empty.create (Time.unix 1) failed).create (Time.unix 2) paid

/-- The failed attempt is what postgres answers. Reference:
`transactions/transactions_service.go:629 LookupTransaction`. -/
theorem lookup_prefers_failed :
    Reachable demo (Fresh fun db => db.transactions.WellFormed) anyStep (demoPool failedThenPaid) ∧
      ¬ LookupsPreferSettled demo ⟨demoDB failedThenPaid, []⟩ mockHash none none := by
  refine ⟨.start ⟨?_, rfl, rfl⟩, ?_⟩
  · intro r hr
    simp only [demoPool, demoDB, failedThenPaid, Table.create_rows, Table.empty, List.nil_append,
      List.cons_append, List.mem_cons, List.not_mem_nil, or_false] at hr
    rcases hr with rfl | rfl
    · exact ⟨by simp [Table.created], by simp [Table.created], by simp [Table.created],
        by simp [Table.created], by simp [Table.created]⟩
    · exact ⟨by simp [Table.created], by simp [Table.created], by simp [Table.created],
        by simp [Table.created], by simp [Table.created]⟩
  · rintro ⟨hprefers, _⟩
    obtain ⟨r, hrows, hst⟩ : ∃ r,
        lookupRows (demo.on true) failedThenPaid mockHash none none = [r] ∧
        r.state = .failed :=
      ⟨_, rfl, rfl⟩
    have hx : exec (demo.on true) ⟨demoDB failedThenPaid, []⟩ (.lookup mockHash none none) {} =
        some (.ok (some r), ⟨demoDB failedThenPaid, []⟩) := by
      have hpick : pick 0 (lookupRows (demo.on true) failedThenPaid mockHash none none) =
          some r := by
        rw [hrows]
        rfl
      exact congrArg (fun found =>
        some (Except.ok found, (⟨demoDB failedThenPaid, []⟩ : Hub))) hpick
    have hrun : (LookupTransaction (demo.on true) mockHash none none).Runs (exec (demo.on true))
        ⟨demoDB failedThenPaid, []⟩ (.ok r) ⟨demoDB failedThenPaid, []⟩ := by
      refine Prog.runs_bind.2 ⟨.ok none, _, ⟨rfl, rfl⟩, Prog.runs_call_bind.2 ⟨_, _, _, hx, ?_⟩⟩
      simp only
      rw [if_neg (by simp [hst])]
      exact ⟨rfl, rfl⟩
    have hsettled := (hprefers true r _ hrun).1 (by decide)
    rw [hst] at hsettled
    cases hsettled

end AlbyHub
