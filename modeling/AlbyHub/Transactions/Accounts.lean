import AlbyHub.Accounting.Escrow
import AlbyHub.Db.Sums
import AlbyHub.Transactions.Attempts
import AlbyHub.Transactions.Solvency

/-!
# The table as a ledger of accounts

The balance of an app is computed anew from its rows each time it is read. Here the rows of an app
are read as an account (`Table.account`): a settled incoming row is a receipt, a pending outgoing
one a hold of its charge, a settled outgoing one a payment. Whatever the hub does to the table is a
journal of bookings on these accounts (`Table.Step.journal`), so over a run every balance changes by
what was booked, and no row is received or paid twice (`balance_journaled`).
-/

namespace AlbyHub

open Go Interaction Accounting

/-- What the row is to the account of the app. Reference: `db/queries/get_isolated_balance.go:8
GetIsolatedBalanceMsat`, its two filters. -/
def Transaction.entry (appId : Nat) (r : Transaction) : Entry :=
  if r.appId = some appId then
    match r.type, r.state with
    | .incoming, .settled => .received r.amountMsat
    | .outgoing, .pending => .held r.charge
    | .outgoing, .settled => .paid r.charge
    | _, _ => .none
  else .none

/-- The rows with what they are to the account of the app. Reference: none. -/
def Table.entries (t : Table) (appId : Nat) : List (Nat × Entry) :=
  t.rows.map fun r => (r.id, r.entry appId)

/-- The account of the app. Reference: `db/queries/get_isolated_balance.go:8
GetIsolatedBalanceMsat`. -/
def Table.account (t : Table) (appId : Nat) : Account Nat := .ofEntries (t.entries appId)

section
variable {t t' : Table} {r r' row : Transaction} {appId : Nat}

theorem Transaction.entry_of_ne (h : r.appId ≠ some appId) : r.entry appId = .none := if_neg h

theorem Table.keys_entries : (t.entries appId).map Prod.fst = t.rows.map (·.id) := by
  rw [Table.entries, List.map_map]
  rfl

theorem Table.valid_account : (t.account appId).Valid :=
  Account.valid_ofEntries (by rw [Table.keys_entries]; exact t.ids_nodup)

theorem Transaction.amount_receipts :
    amount ((r.entry appId).receipts r.id) = r.receivedBy appId := by
  by_cases happ : r.appId = some appId
  · cases hty : r.type <;> cases hst : r.state <;>
      simp [entry, receivedBy, ReceivedBy, Entry.receipts, happ, hty, hst]
  · simp [entry, receivedBy, ReceivedBy, Entry.receipts, happ]

theorem Transaction.amount_spent :
    amount ((r.entry appId).payments r.id) + amount ((r.entry appId).holds r.id) =
      r.spentBy appId := by
  by_cases happ : r.appId = some appId
  · cases hty : r.type <;> cases hst : r.state <;>
      simp [entry, spentBy, SpentBy, Entry.payments, Entry.holds, happ, hty, hst]
  · simp [entry, spentBy, SpentBy, Entry.payments, Entry.holds, happ]

/-- The receipts of the account are the received sum. Reference:
`db/queries/get_isolated_balance.go:12`. -/
theorem Table.amount_receipts : amount (t.account appId).receipts = t.received appId := by
  rw [Table.received_eq_sum, Table.sum, Table.account, Account.ofEntries, amount_sum, Table.entries,
    List.map_map]
  exact congrArg List.sum (List.map_congr_left fun r _ => Transaction.amount_receipts)

/-- The payments and the holds of the account are the spent sum. Reference:
`db/queries/get_isolated_balance.go:24`. -/
theorem Table.amount_spent : amount (t.account appId).payments + amount (t.account appId).holds =
    t.spent appId := by
  rw [Table.spent_eq_sum, Table.sum, Table.account, Account.ofEntries, amount_sum, amount_sum,
    ← List.sum_map_add, Table.entries, List.map_map]
  exact congrArg List.sum (List.map_congr_left fun r _ => Transaction.amount_spent)

/-- The balance that the query answers is the account's. Reference:
`db/queries/get_isolated_balance.go:8 GetIsolatedBalanceMsat`. -/
theorem GetIsolatedBalanceMsat_eq {balanceMsat : Int}
    (h : GetIsolatedBalanceMsat t appId = .ok balanceMsat) :
    balanceMsat = (t.account appId).balance := by
  unfold GetIsolatedBalanceMsat at h
  split at h
  · cases h
    rw [Account.balance, Table.amount_receipts, Table.amount_spent]
  · cases h

/-- A step of a row's life is a change of its entry. Reference: none. -/
theorem Transaction.Step.entry (h : r.Step r') : (r.entry appId).Step (r'.entry appId) := by
  have happ : r'.appId = r.appId := congrArg Identity.appId h.identity
  by_cases hr : r.appId = some appId
  · cases h with
    | annotate => exact .same
    | settle hst =>
      cases hty : r.type <;> cases hst' : r.state <;>
        simp_all [Transaction.entry, settleUpdate] <;> constructor
    | fail hst =>
      cases hty : r.type <;> rcases hst with hst | hst <;>
        simp_all [Transaction.entry, failUpdate] <;> constructor
    | accept hty hst =>
      simp_all [Transaction.entry, acceptUpdate]
      constructor
  · rw [Transaction.entry_of_ne hr, Transaction.entry_of_ne (happ ▸ hr)]
    exact .same

/-- A change of the accounts by one booking on the account of one app. Reference: none. -/
theorem journal_of_books {l l' : Nat → Account Nat} (app : Option Nat)
    (hother : ∀ appId, app ≠ some appId → l' appId = l appId)
    (hown : ∀ appId, app = some appId → l' appId = l appId ∨ ∃ b, (l appId).Books b (l' appId)) :
    ∃ js, js.length ≤ 1 ∧ Journal l js l' := by
  cases app with
  | none =>
    have heq : l' = l := funext fun appId =>
      hother appId (Option.some_ne_none appId).symm
    exact ⟨[], Nat.zero_le _, heq ▸ .nil⟩
  | some appId =>
    have hne : ∀ a, a ≠ appId → l' a = l a := fun a ha => hother a fun heq =>
      ha (Option.some.inj heq).symm
    rcases hown appId rfl with heq | ⟨b, hb⟩
    · have hl : l' = l := funext fun a => by
        by_cases ha : a = appId
        · rw [ha, heq]
        · exact hne a ha
      exact ⟨[], Nat.zero_le _, hl ▸ .nil⟩
    · exact ⟨[(appId, b)], Nat.le_refl _, .post .nil hb hne⟩

/-- An insertion is one booking at most. Reference: gorm `Create`. -/
theorem Table.journal_create {now : Time} :
    ∃ js, js.length ≤ 1 ∧ Journal t.account js (t.create now row).account := by
  have hentries : ∀ appId, (t.create now row).entries appId =
      t.entries appId ++ [(t.nextId, (t.created now row).entry appId)] := by
    intro appId
    rw [Table.entries, Table.create_rows, List.map_append]
    rfl
  have hnew : ∀ appId, t.nextId ∉ (t.entries appId).map Prod.fst := by
    intro appId hmem
    rw [Table.keys_entries, List.mem_map] at hmem
    obtain ⟨r, hr, hid⟩ := hmem
    exact absurd hid (Nat.ne_of_lt (t.id_lt r hr))
  refine journal_of_books row.appId (fun appId hne => ?_) fun appId _ => ?_
  · have hnone : (t.created now row).entry appId = .none := Transaction.entry_of_ne hne
    rw [Table.account, hentries, hnone]
    exact Account.ofEntries_append_none
  · rw [Table.account, Table.account, hentries]
    exact Account.ofEntries_append (hnew appId)

/-- An update of a row is one booking at most. Reference: gorm `Updates`. -/
theorem Table.journal_update {u : Update} (hr : r ∈ t.rows) (hstep : r.Step (u r)) :
    ∃ js, js.length ≤ 1 ∧ Journal t.account js (t.update r.id u).account := by
  obtain ⟨l₁, l₂, hrows⟩ := List.append_of_mem hr
  have hids := t.ids_nodup
  rw [hrows, List.map_append, List.map_cons, List.nodup_middle, ← List.map_append] at hids
  have hnew : ∀ r' ∈ l₁ ++ l₂, r'.id ≠ r.id := fun r' hr' he =>
    (List.nodup_cons.1 hids).1 (List.mem_map.2 ⟨r', hr', he⟩)
  have hupdated : (t.update r.id u).rows = l₁ ++ u r :: l₂ := by
    rw [Table.update_rows, hrows, List.map_append, List.map_cons, Table.updateRow_of_eq rfl,
      map_updateRow_of_ne fun r' h => hnew r' (List.mem_append_left _ h),
      map_updateRow_of_ne fun r' h => hnew r' (List.mem_append_right _ h)]
  let entries (appId : Nat) (l : List Transaction) : List (Nat × Entry) :=
    l.map fun r => (r.id, r.entry appId)
  have hold : ∀ appId, t.entries appId =
      entries appId l₁ ++ (r.id, r.entry appId) :: entries appId l₂ := by
    intro appId
    rw [Table.entries, hrows, List.map_append, List.map_cons]
  have hnow : ∀ appId, (t.update r.id u).entries appId =
      entries appId l₁ ++ (r.id, (u r).entry appId) :: entries appId l₂ := by
    intro appId
    rw [Table.entries, hupdated, List.map_append, List.map_cons, Update.id]
  refine journal_of_books r.appId (fun appId hne => ?_) fun appId _ => ?_
  · have happ : (u r).appId = r.appId := congrArg Identity.appId (u.identity r)
    rw [Table.account, Table.account, hold, hnow, Transaction.entry_of_ne hne,
      Transaction.entry_of_ne (happ ▸ hne)]
  · rw [Table.account, Table.account, hold, hnow]
    refine Account.ofEntries_books (fun hmem => ?_) hstep.entry
    rw [← List.map_append, List.map_map] at hmem
    obtain ⟨r', hr', he⟩ := List.mem_map.1 hmem
    exact hnew r' hr' he

/-- A step of the table is one booking at most, on the account of one app. Reference: the statements
of `transactions/transactions_service.go` that write to `transactions`. -/
theorem Table.Step.journal (h : t.Step t') :
    ∃ js, js.length ≤ 1 ∧ Journal t.account js t'.account := by
  cases h with
  | same => exact ⟨[], Nat.zero_le _, .nil⟩
  | insert | insertSettled => exact Table.journal_create
  | settle hk hn =>
    obtain ⟨r₀, hr₀, hid⟩ := hk
    rw [← Transaction.id_of_identity hid]
    refine Table.journal_update hr₀ (.settle ?_)
    exact Table.not_settled_of_select ⟨r₀, hr₀, hid⟩ hn hr₀ (Transaction.id_of_identity hid)
  | fail hr hid hst =>
    rw [← hid]
    exact Table.journal_update hr (.fail hst)
  | accept hr hty hst => exact Table.journal_update hr (.accept hty hst)
  | @annotate id u hu =>
    by_cases hex : ∃ r ∈ t.rows, r.id = id
    · obtain ⟨r, hr, rfl⟩ := hex
      obtain ⟨m, hm⟩ := hu r
      refine Table.journal_update hr ?_
      rw [hm]
      exact .annotate
    · have hrows : (t.update id u).rows = t.rows :=
        map_updateRow_of_ne fun r hr hid => hex ⟨r, hr, hid⟩
      have haccount : (t.update id u).account = t.account := funext fun appId => by
        rw [Table.account, Table.entries, hrows]
        rfl
      exact ⟨[], Nat.zero_le _, haccount ▸ .nil⟩

end

section

/-- The accounts of the apps. Reference: none. -/
abbrev Pool.accounts (cfg : Pool) : Nat → Account Nat := cfg.state.db.transactions.account

/-- There is one journal of bookings for all apps: the balance that the query answers for an app has
changed by what was booked on its account, what was released or paid from a hold had been held, and
no row was received or paid twice. Reference: `db/queries/get_isolated_balance.go:8
GetIsolatedBalanceMsat`. -/
def Pool.Journaled (cfg cfg' : Pool) : Prop :=
  ∃ js : List (Nat × Booking Nat), Journal cfg.accounts js cfg'.accounts ∧ ∀ appId,
    (∀ before after, GetIsolatedBalanceMsat cfg.state.db.transactions appId = .ok before →
      GetIsolatedBalanceMsat cfg'.state.db.transactions appId = .ok after →
        after = before + posted Booking.effect appId js) ∧
    (cfg'.accounts appId).holds + posted Booking.closed appId js =
      (cfg.accounts appId).holds + posted Booking.opened appId js ∧
    ((posted Booking.receipts appId js).map Prod.fst).Nodup ∧
    ((posted Booking.payments appId js).map Prod.fst).Nodup

/-- From any reachable state on, whatever calls run in whatever order, the balances of the apps are
those of a journal of bookings. Reference: `db/queries/get_isolated_balance.go:8
GetIsolatedBalanceMsat`, `transactions/transactions_service.go:1467 markTransactionSettled`, `:1704
markPaymentFailed`. -/
theorem balance_journaled (W : World) {cfg cfg' : Pool}
    (h : Reachable W (Fresh fun _ => True) anyStep cfg)
    (h' : Reachable W (· = cfg) anyStep cfg') : cfg.Journaled cfg' := by
  have hrun : ∃ js, Journal cfg.accounts js cfg'.accounts := by
    refine Reachable.relates (R := fun t t' => ∃ js, Journal t.account js t'.account)
      (fun _ => ⟨[], .nil⟩) ?_ ?_ h.ledger h'
    · rintro t t' t'' ⟨js, hj⟩ ⟨js', hj'⟩
      exact ⟨_, hj.trans hj'⟩
    · intro t t' hs
      obtain ⟨js, -, hj⟩ := hs.journal
      exact ⟨js, hj⟩
  obtain ⟨js, hj⟩ := hrun
  refine ⟨js, hj, fun appId => ⟨fun before after hb ha => ?_, hj.holds, ?_⟩⟩
  · rw [GetIsolatedBalanceMsat_eq ha, GetIsolatedBalanceMsat_eq hb]
    exact hj.balance
  · exact hj.once (fun _ => Table.valid_account) appId

end

theorem balance_journaled_keysend :
    GetIsolatedBalanceMsat
      ((demoPool .empty).after demo (demoSpend 100000)).state.db.transactions 1 = .ok 13000 ∧
    (demoPool .empty).Journaled ((demoPool .empty).after demo (demoSpend 100000)) :=
  ⟨by decide +kernel, balance_journaled demo (.start ⟨trivial, rfl, rfl⟩)
    (.of_after (.start rfl) Config.allows_any (by decide +kernel))⟩

end AlbyHub
