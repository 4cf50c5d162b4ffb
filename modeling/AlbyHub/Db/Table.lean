import AlbyHub.Db.Models
import Mathlib.Data.List.Nodup

/-!
# The transactions table

A table is a list of rows in the order of their ids, which the database assigns; a `Table` carries
this, so an id names at most one row. Rows are never deleted. `Where` is the filter of a gorm query
by a struct, which drops the fields that have their zero value, and `pick` is the choice the
database makes when a query with `Limit(1)` has no order.
-/

namespace AlbyHub

/-- The table. `nextId` is the id of the next row. Reference: the `transactions` table. -/
structure Table where
  rows : List Transaction
  nextId : Nat
  next_pos : 0 < nextId
  id_pos : ∀ r ∈ rows, 0 < r.id
  id_lt : ∀ r ∈ rows, r.id < nextId
  sorted : (rows.map (·.id)).Pairwise (· < ·)

namespace Table

variable {t : Table} {r r' : Transaction}

/-- The table of a new hub. Reference: none. -/
def empty : Table where
  rows := []
  nextId := 1
  next_pos := by decide
  id_pos := by simp
  id_lt := by simp
  sorted := by simp

theorem ids_nodup (t : Table) : (t.rows.map (·.id)).Nodup :=
  t.sorted.imp fun h => Nat.ne_of_lt h

/-- An id names one row. Reference: the primary key of `transactions`. -/
theorem eq_of_id (h : r ∈ t.rows) (h' : r' ∈ t.rows) (hid : r.id = r'.id) : r = r' :=
  List.inj_on_of_nodup_map t.ids_nodup h h' hid

/-- `tx.Create(&row)` at the instant `now`: the row gets the next id. Reference: gorm `Create`, with
`autoCreateTime` and `autoUpdateTime`. -/
def create (t : Table) (now : Time) (row : Transaction) : Table where
  rows := t.rows ++ [{ row with id := t.nextId, createdAt := now, updatedAt := now }]
  nextId := t.nextId + 1
  next_pos := Nat.succ_pos _
  id_pos := by
    intro r hr
    rcases List.mem_append.1 hr with hr | hr
    · exact t.id_pos r hr
    · rw [List.mem_singleton.1 hr]; exact t.next_pos
  id_lt := by
    intro r hr
    rcases List.mem_append.1 hr with hr | hr
    · exact Nat.lt_succ_of_lt (t.id_lt r hr)
    · rw [List.mem_singleton.1 hr]; exact Nat.lt_succ_self _
  sorted := by
    rw [List.map_append, List.pairwise_append]
    refine ⟨t.sorted, by simp, fun i hi j hj => ?_⟩
    obtain ⟨r, hr, rfl⟩ := List.mem_map.1 hi
    simp only [List.map_cons, List.map_nil, List.mem_singleton] at hj
    subst hj
    exact t.id_lt r hr

/-- The row that `create` appends. Reference: gorm `Create` writes it back to its argument. -/
def created (t : Table) (now : Time) (row : Transaction) : Transaction :=
  { row with id := t.nextId, createdAt := now, updatedAt := now }

@[simp] theorem create_rows (t : Table) (now : Time) (row : Transaction) :
    (t.create now row).rows = t.rows ++ [t.created now row] := rfl

@[simp] theorem create_nextId (t : Table) (now : Time) (row : Transaction) :
    (t.create now row).nextId = t.nextId + 1 := rfl

/-- The row after the update `u` of the row with the given id. Reference: none. -/
def updateRow (id : Nat) (u : Update) (r : Transaction) : Transaction :=
  if r.id = id then u r else r

@[simp] theorem updateRow_identity (id : Nat) (u : Update) (r : Transaction) :
    (updateRow id u r).identity = r.identity := by
  unfold updateRow; split <;> simp

@[simp] theorem updateRow_id (id : Nat) (u : Update) (r : Transaction) :
    (updateRow id u r).id = r.id := congrArg Identity.id (updateRow_identity id u r)

theorem updateRow_of_ne {id : Nat} {u : Update} (h : r.id ≠ id) : updateRow id u r = r :=
  if_neg h

theorem updateRow_of_eq {id : Nat} {u : Update} (h : r.id = id) : updateRow id u r = u r :=
  if_pos h

/-- `tx.Model(row).Updates(…)`: the update of the row with the id of `row`. Reference: gorm
`Updates` with a primary key. -/
def update (t : Table) (id : Nat) (u : Update) : Table where
  rows := t.rows.map (updateRow id u)
  nextId := t.nextId
  next_pos := t.next_pos
  id_pos := by
    intro r hr
    obtain ⟨r₀, hr₀, rfl⟩ := List.mem_map.1 hr
    simpa using t.id_pos r₀ hr₀
  id_lt := by
    intro r hr
    obtain ⟨r₀, hr₀, rfl⟩ := List.mem_map.1 hr
    simpa using t.id_lt r₀ hr₀
  sorted := by
    rw [List.map_map]
    have : ((·.id) ∘ updateRow id u : Transaction → Nat) = (·.id) := by
      funext r; simp
    rw [this]
    exact t.sorted

@[simp] theorem update_rows (t : Table) (id : Nat) (u : Update) :
    (t.update id u).rows = t.rows.map (updateRow id u) := rfl

@[simp] theorem update_nextId (t : Table) (id : Nat) (u : Update) :
    (t.update id u).nextId = t.nextId := rfl

theorem mem_create {now : Time} {row : Transaction} :
    r ∈ (t.create now row).rows ↔ r ∈ t.rows ∨ r = t.created now row := by
  simp

theorem mem_update {id : Nat} {u : Update} :
    r ∈ (t.update id u).rows ↔ ∃ r₀ ∈ t.rows, updateRow id u r₀ = r := by
  simp

/-- Other rows are unchanged by an update. Reference: none. -/
theorem mem_update_of_ne {id : Nat} {u : Update} (h : r ∈ t.rows) (hid : r.id ≠ id) :
    r ∈ (t.update id u).rows :=
  mem_update.2 ⟨r, h, updateRow_of_ne hid⟩

/-- The updated row. Reference: none. -/
theorem mem_update_self {u : Update} (h : r ∈ t.rows) : u r ∈ (t.update r.id u).rows :=
  mem_update.2 ⟨r, h, updateRow_of_eq rfl⟩

/-- A row of the updated table is an old row of another id, or the updated one. Reference: none. -/
theorem of_mem_update {id : Nat} {u : Update} (h : r ∈ (t.update id u).rows) :
    (r ∈ t.rows ∧ r.id ≠ id) ∨ ∃ r₀ ∈ t.rows, r₀.id = id ∧ r = u r₀ := by
  obtain ⟨r₀, h₀, rfl⟩ := mem_update.1 h
  by_cases hid : r₀.id = id
  · exact .inr ⟨r₀, h₀, hid, updateRow_of_eq hid⟩
  · exact .inl ⟨by rwa [updateRow_of_ne hid], by simpa using hid⟩

/-- The created row has a new id. Reference: the primary key of `transactions`. -/
theorem created_id_ne {now : Time} {row : Transaction} (h : r ∈ t.rows) :
    r.id ≠ (t.created now row).id :=
  Nat.ne_of_lt (t.id_lt r h)

end Table

/-- The choice of the database among the rows that a query without an order may return first: any
of them, by the number `n`. Reference: SQL `LIMIT 1` without `ORDER BY`. -/
def pick {α : Type} (n : Nat) (l : List α) : Option α := l[n % l.length]?

section
variable {α : Type} {n : Nat} {l : List α} {a : α}

theorem mem_of_pick (h : pick n l = some a) : a ∈ l := List.mem_of_getElem? h

theorem exists_pick (h : a ∈ l) : ∃ n, pick n l = some a := by
  obtain ⟨i, hi, rfl⟩ := List.mem_iff_getElem.1 h
  exact ⟨i, by simp [pick, Nat.mod_eq_of_lt hi]⟩

theorem pick_eq_none : pick n l = none ↔ l = [] := by
  cases l with
  | nil => simp [pick]
  | cons a l =>
    have hlt : n % (a :: l).length < (a :: l).length := Nat.mod_lt n (Nat.succ_pos l.length)
    refine iff_of_false ?_ (List.cons_ne_nil a l)
    rw [pick, List.getElem?_eq_getElem hlt]
    exact Option.some_ne_none _

end

/-- The filter of a query by a struct: a field with its zero value does not filter. Reference: gorm
struct conditions. -/
structure Where where
  id : Nat := 0
  type : Option TransactionType := none
  state : Option TransactionState := none
  paymentRequest : String := ""
  paymentHash : String := ""

/-- Whether the row passes the filter. Reference: gorm struct conditions. -/
def Where.Matches (q : Where) (r : Transaction) : Prop :=
  (q.id = 0 ∨ r.id = q.id) ∧ (q.type = none ∨ q.type = some r.type) ∧
    (q.state = none ∨ q.state = some r.state) ∧
    (q.paymentRequest = "" ∨ r.paymentRequest = q.paymentRequest) ∧
    (q.paymentHash = "" ∨ r.paymentHash = q.paymentHash)

instance (q : Where) (r : Transaction) : Decidable (q.Matches r) :=
  inferInstanceAs (Decidable (_ ∧ _))

/-- The rows that pass the filter. Reference: gorm `Find`. -/
def Table.select (t : Table) (q : Where) : List Transaction := t.rows.filter (q.Matches ·)

@[simp] theorem Table.mem_select {t : Table} {q : Where} {r : Transaction} :
    r ∈ t.select q ↔ r ∈ t.rows ∧ q.Matches r := by
  simp [select]

end AlbyHub
