import AlbyHub.Db.Queries

/-!
# How the sums over the table change

Both parts of an app's balance are sums of a weight over the rows. An insertion adds the weight of
the new row, and an update replaces the weight of one row (`Table.sum_create`, `Table.sum_update`).
-/

namespace AlbyHub

/-- The sum of a weight over the rows. Reference: SQL `SUM`. -/
def Table.sum (t : Table) (w : Transaction → Nat) : Nat := (t.rows.map w).sum

/-- The weight of a row in what the app received. Reference:
`db/queries/get_isolated_balance.go:12`. -/
def Transaction.receivedBy (appId : Nat) (r : Transaction) : Nat :=
  if r.ReceivedBy appId then r.amountMsat else 0

/-- The weight of a row in what the app spent. Reference:
`db/queries/get_isolated_balance.go:24`. -/
def Transaction.spentBy (appId : Nat) (r : Transaction) : Nat :=
  if r.SpentBy appId then r.charge else 0

section
variable {t : Table} {w : Transaction → Nat} {id appId : Nat} {u : Update} {r : Transaction}

/-- A sum over the rows that pass a filter is a sum of a weight. Reference: none. -/
theorem sum_filter (p : Transaction → Prop) [DecidablePred p] (f : Transaction → Nat)
    (l : List Transaction) :
    ((l.filter fun r => p r).map f).sum = (l.map fun r => if p r then f r else 0).sum := by
  induction l with
  | nil => rfl
  | cons r l ih =>
    by_cases hp : p r
    · simp [hp, ih]
    · simp [hp, ih]

theorem Table.received_eq_sum : t.received appId = t.sum (·.receivedBy appId) :=
  sum_filter _ _ _

theorem Table.spent_eq_sum : t.spent appId = t.sum (·.spentBy appId) :=
  sum_filter _ _ _

theorem Table.sum_create {now : Time} {row : Transaction} :
    (t.create now row).sum w = t.sum w + w (t.created now row) := by
  simp [Table.sum]

/-- An update of another id leaves the weights. Reference: none. -/
theorem map_updateRow_of_ne {l : List Transaction} (h : ∀ r ∈ l, r.id ≠ id) :
    l.map (Table.updateRow id u) = l := by
  induction l with
  | nil => rfl
  | cons r l ih =>
    rw [List.map_cons, Table.updateRow_of_ne (h r List.mem_cons_self),
      ih fun r' hr' => h r' (List.mem_cons_of_mem r hr')]

/-- An update replaces the weight of its row. Reference: none. -/
theorem sum_updateRow {l : List Transaction} (hn : (l.map (·.id)).Nodup) (hr : r ∈ l) :
    ((l.map (Table.updateRow r.id u)).map w).sum + w r = (l.map w).sum + w (u r) := by
  induction l with
  | nil => cases hr
  | cons r' l ih =>
    have hn' := List.nodup_cons.1 hn
    simp only [List.map_cons, List.sum_cons]
    rcases List.mem_cons.1 hr with rfl | hr
    · have hne : ∀ r' ∈ l, r'.id ≠ r.id := fun r' hr' he =>
        hn'.1 (List.mem_map.2 ⟨r', hr', he⟩)
      rw [Table.updateRow_of_eq rfl, map_updateRow_of_ne hne]
      omega
    · have hne : r'.id ≠ r.id := fun he => hn'.1 (List.mem_map.2 ⟨r, hr, he.symm⟩)
      have hih := ih hn'.2 hr
      rw [Table.updateRow_of_ne hne]
      omega

theorem Table.sum_update (hr : r ∈ t.rows) :
    (t.update r.id u).sum w + w r = t.sum w + w (u r) :=
  sum_updateRow t.ids_nodup hr

/-- An update of an id that no row has changes nothing. Reference: none. -/
theorem Table.sum_update_of_not_mem (h : ∀ r ∈ t.rows, r.id ≠ id) :
    (t.update id u).sum w = t.sum w := by
  rw [Table.sum, Table.update_rows, map_updateRow_of_ne h, Table.sum]

/-- An update keeps a sum when it keeps the weight of its row. Reference: none. -/
theorem Table.sum_update_eq (h : ∀ r ∈ t.rows, r.id = id → w (u r) = w r) :
    (t.update id u).sum w = t.sum w := by
  by_cases hex : ∃ r ∈ t.rows, r.id = id
  · obtain ⟨r, hr, rfl⟩ := hex
    have hsum := Table.sum_update (w := w) (u := u) hr
    have heq := h r hr rfl
    omega
  · exact Table.sum_update_of_not_mem fun r hr hid => hex ⟨r, hr, hid⟩

end

end AlbyHub
