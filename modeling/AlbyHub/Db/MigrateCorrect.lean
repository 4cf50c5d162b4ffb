import AlbyHub.Db.Migrate
import Mathlib.Data.List.Perm.Lattice
import Mathlib.Data.List.TakeWhile

/-!
# What the copy of the database keeps

When `MigrateDB` succeeds, the destination holds what it held before and what is read from the
source after the deletions; when it fails, the rows of the destination are as before, and the
sequences that were set stay set. From this follows exactly when the destination holds the rows of
the source and a failed migration leaves it as it was (`migration_preserves_iff`).
-/

namespace AlbyHub.Migrate

open Go Interaction

variable {V : Type} {M : Server V} {fault : Cmd V → Option String} {s : State V}
variable {rows rows' : TableName → List (Row V)} {t : TableName} {ts : List TableName}

/-! ## The insertions -/

/-- The rows are ones that can be inserted one after the other. Reference: none. -/
def Inserts (M : Server V) (rows : TableName →
    List (Row V)) (t : TableName) (old data : List (Row V)) :
    Prop :=
  ∀ before r after, data = before ++ r :: after → Fits M rows t (old ++ before) r

/-- A row fits by the rows of its own table and of the one that it references. Reference: none. -/
theorem Fits.congr {old : List (Row V)} {r : Row V} (hf : Fits M rows t old r)
    (hp : ∀ parents ∈ t.references, rows parents = rows' parents) : Fits M rows' t old r where
  pos := hf.pos
  primary := hf.primary
  foreign parents hparents := by
    rw [← hp parents hparents]
    exact hf.foreign parents hparents
  accepted := hf.accepted

theorem inserts_congr {old data : List (Row V)}
    (hp : ∀ parents ∈ t.references, rows parents = rows' parents) :
    Inserts M rows t old data ↔ Inserts M rows' t old data := by
  constructor
  · intro h before r after hd
    exact (h before r after hd).congr hp
  · intro h before r after hd
    exact (h before r after hd).congr fun parents hparents => (hp parents hparents).symm

/-- No table references itself. Reference: none. -/
theorem references_ne {parents : TableName} (h : parents ∈ t.references) : parents ≠ t := by
  cases t <;> simp [TableName.references] at h <;> subst h <;> simp

/-- A table's own rows do not decide whether its foreign keys hold. Reference: none. -/
theorem update_references {new : List (Row V)} :
    ∀ parents ∈ t.references, Function.update rows t new parents = rows parents :=
  fun _ h => Function.update_of_ne (references_ne h) _ _

theorem inserts_nil {old : List (Row V)} : Inserts M rows t old [] := by
  intro before r after h
  cases before <;> cases h

theorem inserts_cons {old data : List (Row V)} {r : Row V} :
    Inserts M rows t old (r :: data) ↔ Fits M rows t old r ∧
      Inserts M rows t (old ++ [r]) data := by
  constructor
  · intro h
    refine ⟨?_, fun before r' after hd => ?_⟩
    · have := h [] r data rfl
      rwa [List.append_nil] at this
    · have := h (r :: before) r' after (by rw [hd]; rfl)
      rwa [List.append_cons] at this
  · rintro ⟨hr, hdata⟩ before r' after hd
    cases before with
    | nil =>
      obtain ⟨rfl, rfl⟩ := List.cons.inj hd
      rwa [List.append_nil]
    | cons r'' before =>
      obtain ⟨rfl, rfl⟩ := List.cons.inj hd
      have := hdata before r' after rfl
      rwa [← List.append_cons] at this

theorem inserts_append {old xs ys : List (Row V)} :
    Inserts M rows t old (xs ++ ys) ↔ Inserts M rows t old xs ∧
      Inserts M rows t (old ++ xs) ys := by
  induction xs generalizing old with
  | nil => simp [inserts_nil]
  | cons x xs ih =>
    rw [List.cons_append, inserts_cons, inserts_cons, ih, and_assoc, ← List.append_cons]

/-- A row that fits is inserted. Reference: none. -/
theorem insertRow_some {db : Database V} {r : Row V} (hr : Fits M db.rows t (db.rows t) r) :
    ∃ db', db.insertRow M t r = some db' ∧
      db'.rows = Function.update db.rows t (db.rows t ++ [r]) := by
  unfold Database.insertRow
  rw [dif_pos hr]
  exact ⟨_, rfl, rfl⟩

/-- What the statement inserts where the rows can be inserted. Reference: none. -/
theorem insertRows_some {db : Database V} {data : List (Row V)}
    (h : Inserts M db.rows t (db.rows t) data) : ∃ db', Database.insertRows M t db data = some db' ∧
      db'.rows = Function.update db.rows t (db.rows t ++ data) := by
  induction data generalizing db with
  | nil => exact ⟨db, rfl, by simp⟩
  | cons r data ih =>
    obtain ⟨hr, hdata⟩ := inserts_cons.1 h
    obtain ⟨db₁, hins, hdb₁⟩ := insertRow_some hr
    have hdata₁ : Inserts M db₁.rows t (db₁.rows t) data := by
      rw [hdb₁, Function.update_self]
      exact (inserts_congr update_references).2 hdata
    obtain ⟨db', hrest, hdb'⟩ := ih hdata₁
    refine ⟨db', ?_, ?_⟩
    · rw [Database.insertRows, hins]
      exact hrest
    · rw [hdb', hdb₁, Function.update_self, Function.update_idem, ← List.append_cons]

/-- The statement inserts nothing where a row cannot be inserted. Reference: none. -/
theorem insertRows_none {db : Database V} {data : List (Row V)}
    (h : ¬Inserts M db.rows t (db.rows t) data) : Database.insertRows M t db data = none := by
  induction data generalizing db with
  | nil => exact absurd inserts_nil h
  | cons r data ih =>
    rw [Database.insertRows]
    by_cases hr : Fits M db.rows t (db.rows t) r
    · obtain ⟨db₁, hins, hdb₁⟩ := insertRow_some hr
      rw [hins]
      refine ih fun hdata => h (inserts_cons.2 ⟨hr, ?_⟩)
      rw [hdb₁, Function.update_self] at hdata
      exact (inserts_congr update_references).1 hdata
    · unfold Database.insertRow
      rw [dif_neg hr]
      rfl

/-! ## The chunks -/

/-- The first `k` chunks are the first `k * max` rows. Reference: none. -/
theorem flatten_chunks_take {α : Type} (max : Nat) (data : List α) (k : Nat) :
    ((List.range k).map fun i => (data.drop (i * max)).take max).flatten = data.take (k * max) := by
  induction k with
  | zero => simp
  | succ k ih =>
    rw [List.range_succ, List.map_append, List.flatten_append, ih, Nat.succ_mul, List.take_add]
    simp

/-- The chunks make up the table, whatever its size. Reference: `db/db_migrate.go:136
migrateTable`. -/
theorem flatten_chunks {α : Type} {max : Nat} (hmax : 0 < max) (data : List α) :
    (chunks max data).flatten = data := by
  rw [chunks, flatten_chunks_take]
  refine List.take_of_length_le ?_
  have hdiv := Nat.div_add_mod (data.length + max - 1) max
  have hmod := Nat.mod_lt (data.length + max - 1) hmax
  rw [ceilDiv, Nat.mul_comm]
  omega

/-! ## The statements and the loops -/

/-- A statement that does not fail on its own. Reference: none. -/
theorem ends_ask {c : Cmd V} {a : c.Val} {s' : State V} (hx : execute M s c = (.ok a, s')) :
    Ends (exec M) fault (fault c = none) (fun b s₁ => b = a ∧ s₁ = s') (· = s) (ask c) s := by
  cases hf : fault c with
  | none =>
    refine .inl ⟨rfl, a, s', ?_, rfl, rfl⟩
    simp [ask, Prog.call, Prog.play, exec, hf, hx]
  | some e =>
    refine .inr ⟨nofun, e, s, ?_, rfl⟩
    simp [ask, Prog.call, Prog.play, exec, hf]

/-- A statement that fails. Reference: none. -/
theorem ends_ask_error {c : Cmd V} {e : String} (hx : execute M s c = (.error e, s)) :
    Ends (exec M) fault False (fun _ _ => False) (· = s) (ask c) s := by
  cases hf : fault c with
  | none =>
    refine .inr ⟨id, e, s, ?_, rfl⟩
    simp [ask, Prog.call, Prog.play, exec, hf, hx]
  | some e' =>
    refine .inr ⟨id, e', s, ?_, rfl⟩
    simp [ask, Prog.call, Prog.play, exec, hf]

/-- The state with another view of the transaction. Reference: none. -/
def State.SameBesidesTx (s s' : State V) : Prop :=
  s'.source = s.source ∧ s'.dest = s.dest ∧ s'.next = s.next

/-- The statement that inserts a chunk. Reference: `db/db_migrate.go:139 migrateTable`. -/
theorem ends_create {data : List (Row V)} :
    Ends (exec M) fault (fault (.create t data) = none ∧ Inserts M s.tx.rows t (s.tx.rows t) data)
      (fun _ s' => s.SameBesidesTx s' ∧
        s'.tx.rows = Function.update s.tx.rows t (s.tx.rows t ++ data))
      (fun s' => s.SameBesidesTx s') (ask (.create t data)) s := by
  by_cases hins : Inserts M s.tx.rows t (s.tx.rows t) data
  · obtain ⟨tx, htx, hrows⟩ := insertRows_some hins
    have hx : execute M s (.create t data) = (.ok (), { s with tx := tx }) := by
      simp only [execute, htx]
    refine (ends_ask hx).mono (by simp [hins]) ?_ ?_
    · rintro - a s' ⟨-, rfl⟩
      exact ⟨⟨rfl, rfl, rfl⟩, hrows⟩
    · rintro - s' rfl
      exact ⟨rfl, rfl, rfl⟩
  · have hx : execute M s (.create t data) = (.error "constraint failed", s) := by
      simp only [execute, insertRows_none hins]
    refine (ends_ask_error hx).mono (by simp [hins]) ?_ ?_
    · rintro ⟨⟩
    · rintro - s' rfl
      exact ⟨rfl, rfl, rfl⟩

theorem State.SameBesidesTx.trans {s₁ s₂ : State V} (h₁ : s.SameBesidesTx s₁)
    (h₂ : s₁.SameBesidesTx s₂) : s.SameBesidesTx s₂ :=
  ⟨h₂.1.trans h₁.1, h₂.2.1.trans h₁.2.1, h₂.2.2.trans h₁.2.2⟩

/-- The loop over the chunks inserts their rows. Reference: `db/db_migrate.go:136 migrateTable`. -/
theorem ends_createChunks {cs : List (List (Row V))} :
    Ends (exec M) fault
      ((∀ data ∈ cs, fault (.create t data) = none) ∧
        Inserts M s.tx.rows t (s.tx.rows t) cs.flatten)
      (fun _ s' => s.SameBesidesTx s' ∧
        s'.tx.rows = Function.update s.tx.rows t (s.tx.rows t ++ cs.flatten))
      (fun s' => s.SameBesidesTx s') (createChunks t cs) s := by
  induction cs generalizing s with
  | nil =>
    refine .ret ⟨nofun, inserts_nil⟩ ⟨⟨rfl, rfl, rfl⟩, ?_⟩
    simp
  | cons data cs ih =>
    rw [createChunks]
    have hrest : ∀ s₁, s.SameBesidesTx s₁ ∧
        s₁.tx.rows = Function.update s.tx.rows t (s.tx.rows t ++ data) → Ends (exec M) fault
          ((∀ data ∈ cs, fault (.create t data) = none) ∧
            Inserts M s.tx.rows t (s.tx.rows t ++ data) cs.flatten)
          (fun _ s' => s.SameBesidesTx s' ∧
            s'.tx.rows = Function.update s.tx.rows t (s.tx.rows t ++ (data :: cs).flatten))
          (fun s' => s.SameBesidesTx s') (createChunks t cs) s₁ := by
      rintro s₁ ⟨hsame, hrows⟩
      refine ih.mono ?_ ?_ ?_
      · rw [hrows, Function.update_self, inserts_congr update_references]
      · rintro - _ s' ⟨hsame', hrows'⟩
        refine ⟨hsame.trans hsame', ?_⟩
        rw [hrows', hrows, Function.update_self, Function.update_idem, List.flatten_cons,
          List.append_assoc]
      · rintro - s' hsame'
        exact hsame.trans hsame'
    refine (ends_create.andThen fun _ _ s₁ hs₁ => hrest s₁ hs₁).mono ?_ (fun _ _ _ h =>
      h) fun _ _ h => h
    rw [List.flatten_cons, inserts_append, List.forall_mem_cons]
    tauto

/-- What is inserted for a table. Reference: `db/db_migrate.go:121 migrateTable`. -/
def Server.data (M : Server V) (source : Database V) (t : TableName) : List (Row V) :=
  (source.rows t).map (M.copy t)

/-- A table is copied where no statement for it fails and its rows can be inserted. Reference:
`db/db_migrate.go:119 migrateTable`. -/
theorem ends_migrateTable :
    Ends (exec M) fault (fault (.find t) = none ∧
        (∀ data ∈ chunks 1000 (M.data s.source t), fault (.create t data) = none) ∧
        Inserts M s.tx.rows t (s.tx.rows t) (M.data s.source t))
      (fun _ s' => s.SameBesidesTx s' ∧
        s'.tx.rows = Function.update s.tx.rows t (s.tx.rows t ++ M.data s.source t))
      (fun s' => s.SameBesidesTx s') (migrateTable t) s := by
  rw [migrateTable]
  have hfind : Ends (exec M) fault (fault (.find t) = none)
      (fun data s₁ => data = M.data s.source t ∧ s₁ = s) (fun s' => s.SameBesidesTx s')
      (ask (.find t)) s := by
    refine (ends_ask rfl).mono Iff.rfl (fun _ _ _ h => h) ?_
    rintro - s' rfl
    exact ⟨rfl, rfl, rfl⟩
  refine hfind.andThen ?_
  rintro - data s₁ ⟨rfl, rfl⟩
  have h := @ends_createChunks V M fault s₁ t (chunks 1000 (M.data s₁.source t))
  rwa [flatten_chunks (by decide)] at h

/-- The tables are copied where no statement for them fails and their rows can be inserted, each
beside the rows that its table had, `base`, and with the final rows of the other tables, `target`: a
referenced table comes before those that reference it. Reference: `db/db_migrate.go:67
MigrateDB`. -/
theorem ends_migrateTables {base target : TableName → List (Row V)} (hnodup : ts.Nodup)
    (horder : ts.Pairwise fun t t' => t' ∉ t.references) (hdone : ∀ t ∉ ts, s.tx.rows t = target t)
    (htodo : ∀ t ∈ ts, s.tx.rows t = base t) (htarget : ∀ t,
    target t = base t ++ M.data s.source t) :
    Ends (exec M) fault (∀ t ∈ ts, fault (.find t) = none ∧
        (∀ data ∈ chunks 1000 (M.data s.source t), fault (.create t data) = none) ∧
        Inserts M target t (base t) (M.data s.source t))
      (fun _ s' => s.SameBesidesTx s' ∧ s'.tx.rows = target) (fun s' => s.SameBesidesTx s')
      (migrateTables ts) s := by
  induction ts generalizing s with
  | nil => exact .ret nofun ⟨⟨rfl, rfl, rfl⟩, funext fun t => hdone t List.not_mem_nil⟩
  | cons t ts ih =>
    obtain ⟨hnot, hnodup⟩ := List.nodup_cons.1 hnodup
    obtain ⟨hfirst, horder⟩ := List.pairwise_cons.1 horder
    have hbase : s.tx.rows t = base t := htodo t List.mem_cons_self
    have hparents : ∀ parents ∈ t.references, s.tx.rows parents = target parents := by
      intro parents hmem
      refine hdone parents fun hin => ?_
      rcases List.mem_cons.1 hin with heq | hin
      · exact references_ne hmem heq
      · exact hfirst parents hin hmem
    have hrest : ∀ s₁, s.SameBesidesTx s₁ ∧
        s₁.tx.rows = Function.update s.tx.rows t (s.tx.rows t ++ M.data s.source t) →
        Ends (exec M) fault (∀ t ∈ ts, fault (.find t) = none ∧
          (∀ data ∈ chunks 1000 (M.data s.source t), fault (.create t data) = none) ∧
          Inserts M target t (base t) (M.data s.source t))
        (fun _ s' => s.SameBesidesTx s' ∧ s'.tx.rows = target) (fun s' => s.SameBesidesTx s')
        (migrateTables ts) s₁ := by
      rintro s₁ ⟨hsame, hrows⟩
      have hdone₁ : ∀ t' ∉ ts, s₁.tx.rows t' = target t' := by
        intro t' ht'
        rw [hrows]
        by_cases heq : t' = t
        · subst heq
          rw [Function.update_self, htarget, hbase]
        · rw [Function.update_of_ne heq]
          exact hdone t' fun hin => (List.mem_cons.1 hin).elim heq ht'
      have htodo₁ : ∀ t' ∈ ts, s₁.tx.rows t' = base t' := by
        intro t' ht'
        have heq : t' ≠ t := by
          rintro rfl
          exact hnot ht'
        rw [hrows, Function.update_of_ne heq]
        exact htodo t' (List.mem_cons_of_mem t ht')
      have hsource : s₁.source = s.source := hsame.1
      refine (ih hnodup horder hdone₁ htodo₁ (by rwa [hsource])).mono ?_ ?_ ?_
      · rw [hsource]
      · rintro - _ s' ⟨hsame', hrows'⟩
        exact ⟨hsame.trans hsame', hrows'⟩
      · rintro - s' hsame'
        exact hsame.trans hsame'
    rw [migrateTables]
    refine (ends_migrateTable.andThen fun _ _ s₁ hs₁ => hrest s₁ hs₁).mono ?_ (fun _ _ _ h => h)
      fun _ _ h => h
    rw [List.forall_mem_cons, hbase, inserts_congr hparents]

/-! ## The sequences -/

/-- The sequences after those of `ts` are set. Reference: `db/db_migrate.go:203 resetSequences`. -/
def setvals (rows : TableName → List (Row V)) (next : TableName → Nat) (ts : List TableName) :
    TableName → Nat :=
  ts.foldl (setval rows) next

/-- The sequences are set up to the first statement that fails. Reference:
`db/db_migrate.go:203 resetSequences`. -/
theorem ends_resetSequences :
    Ends (exec M) fault (∀ t ∈ ts, fault (.setval t) = none)
      (fun _ s' => s' = { s with next := setvals s.tx.rows s.next ts })
      (fun s' => s' = { s with
        next := setvals s.tx.rows s.next (ts.takeWhile fun t => (fault (.setval t)).isNone) })
      (resetSequences ts) s := by
  induction ts generalizing s with
  | nil => exact .ret nofun rfl
  | cons t ts ih =>
    rw [resetSequences]
    have hset : execute M s (.setval t) = (.ok (), { s with next := setval s.tx.rows s.next t }) :=
      rfl
    have hfirst : Ends (exec M) fault (fault (.setval t) = none)
        (fun _ s₁ => fault (.setval t) = none ∧ s₁ = { s with next := setval s.tx.rows s.next t })
        (fun s' => s' = { s with
          next := setvals s.tx.rows s.next ((t :: ts).takeWhile fun t =>
            (fault (.setval t)).isNone) })
        (ask (.setval t)) s := by
      refine (ends_ask hset).mono Iff.rfl ?_ ?_
      · rintro hok a s' ⟨-, rfl⟩
        exact ⟨hok, rfl⟩
      · rintro hfault s' rfl
        have hnone : ¬((fault (.setval t)).isNone = true) := by
          rwa [Option.isNone_iff_eq_none]
        rw [List.takeWhile_cons_of_neg (p := fun t => (fault (.setval t)).isNone) hnone]
        rfl
    rw [List.forall_mem_cons]
    refine hfirst.andThen ?_
    rintro - _ s₁ ⟨hok, rfl⟩
    refine ih.mono Iff.rfl ?_ ?_
    · rintro - _ s' rfl
      rfl
    · rintro - s' rfl
      have hnone : (fault (.setval t)).isNone = true := by
        rwa [Option.isNone_iff_eq_none]
      rw [List.takeWhile_cons_of_pos (p := fun t => (fault (.setval t)).isNone) hnone]
      rfl

/-- A sequence that is set is past the largest id, and the others are as they were. Reference:
`db/db_migrate.go:228 resetPostgresSequence`. -/
theorem setvals_apply {next : TableName → Nat} (hnodup : ts.Nodup) :
    setvals rows next ts t =
      if t ∈ ts then
        match maxId (rows t) with
        | none => next t
        | some id => id + 1
      else next t := by
  induction ts generalizing next with
  | nil => rfl
  | cons t' ts ih =>
    obtain ⟨hnot, hnodup⟩ := List.nodup_cons.1 hnodup
    have hfold : setvals rows next (t' :: ts) = setvals rows (setval rows next t') ts := rfl
    rw [hfold, ih hnodup, setval]
    by_cases heq : t = t'
    · subst heq
      rw [if_neg hnot, if_pos List.mem_cons_self]
      cases maxId (rows t) with
      | none => rfl
      | some id => exact Function.update_self _ _ _
    · cases maxId (rows t') with
      | none => simp [heq]
      | some id => simp [heq]

/-! ## The migration -/

/-- The source's rows after the deletions. Reference: `db/db_migrate.go:41 MigrateDB`, `:49
MigrateDB`. -/
def Database.cleaned (db : Database V) : Database V :=
  (db.deleteNotIn .requestEvents .apps).deleteNotIn .responseEvents .requestEvents

/-- The rows of the destination and those that are inserted. Reference: `db/db_migrate.go:67
MigrateDB`. -/
def loaded (M : Server V) (s : State V) (t : TableName) : List (Row V) :=
  s.dest.rows t ++ M.data s.source.cleaned t

/-- The schema check accepts the tables. Reference: `db/db_migrate.go:147 checkSchema`. -/
def Schema.Checked (schema : Schema) : Prop :=
  (schema.dialect = .sqlite ∨ schema.dialect = .postgres) ∧
    (∀ table ∈ expectedTables, table ∈ schema.tables) ∧ ∀ table ∈ schema.tables,
      table ∈ expectedTables

/-- The schemas are the expected ones, no statement up to the last insertion fails on its own, and
the destination takes the rows. Reference: `db/db_migrate.go:29 MigrateDB`. -/
structure Loads (M : Server V) (fault : Cmd V → Option String) (s : State V) : Prop where
  source : M.source.Checked ∧ fault (.listTables .source) = none
  dest : M.dest.Checked ∧ fault (.listTables .dest) = none
  requests : fault .deleteOrphanedRequestEvents = none
  responses : fault .deleteOrphanedResponseEvents = none
  begins : fault .begin = none
  tables : ∀ t, fault (.find t) = none ∧
    (∀ data ∈ chunks 1000 (M.data s.source.cleaned t), fault (.create t data) = none) ∧
    Inserts M (loaded M s) t (s.dest.rows t) (M.data s.source.cleaned t)

/-- No statement after the last insertion fails. Reference: `db/db_migrate.go:102 MigrateDB`. -/
def Completes (M : Server V) (fault : Cmd V → Option String) : Prop :=
  (M.dest.dialect = .postgres → ∀ t, fault (.setval t) = none) ∧ fault .commit = none

theorem ends_listTables {schema : Schema} {side : Side}
    (hx : execute M s (.listTables side) = (.ok schema.tables, s)) :
    Ends (exec M) fault
      ((schema.dialect = .sqlite ∨ schema.dialect = .postgres) ∧ fault (.listTables side) = none)
      (fun tables s' => tables = schema.tables ∧ s' = s) (· = s) (listTables schema side) s := by
  have hquery : Ends (exec M) fault (fault (.listTables side) = none ∧ True)
      (fun tables s' => tables = schema.tables ∧ s' = s) (· = s)
      (andThen (ask (.listTables side)) "failed to query table names: " fun tables =>
        .ret (.ok tables)) s :=
    (ends_ask hx).andThen fun _ _ _ h => .ret trivial h
  rw [listTables]
  split
  · next name hother =>
    exact .fail (by simp [hother]) rfl
  · next hother =>
    refine hquery.mono ?_ (fun _ _ _ h => h) fun _ _ h => h
    cases hd : schema.dialect with
    | sqlite => simp
    | postgres => simp
    | other name => exact absurd hd (hother name)

/-- The schema check changes nothing. Reference: `db/db_migrate.go:147 checkSchema`. -/
theorem ends_checkSchema {schema : Schema} {side : Side}
    (hx : execute M s (.listTables side) = (.ok schema.tables, s)) :
    Ends (exec M) fault (schema.Checked ∧ fault (.listTables side) = none) (fun _ s' =>
      s' = s) (· = s)
      (checkSchema schema side) s := by
  have hok : (schema.Checked ∧ fault (.listTables side) = none) ↔
      ((schema.dialect = .sqlite ∨ schema.dialect = .postgres) ∧
        fault (.listTables side) = none) ∧ (∀ table ∈ expectedTables, table ∈ schema.tables) ∧
          ∀ table ∈ schema.tables, table ∈ expectedTables := by
    rw [Schema.Checked]
    tauto
  rw [hok]
  unfold checkSchema
  refine (ends_listTables hx).andThen ?_
  rintro - tables s' ⟨rfl, rfl⟩
  split
  · next table hfind =>
    have hmissing := List.find?_some hfind
    have hexpected := List.mem_of_find?_eq_some hfind
    simp only [decide_eq_true_eq] at hmissing
    exact .fail (fun h => hmissing (h.1 table hexpected)) rfl
  · next hfind =>
    split
    · next table hfind' =>
      have hunexpected := List.find?_some hfind'
      have htable := List.mem_of_find?_eq_some hfind'
      simp only [decide_eq_true_eq] at hunexpected
      exact .fail (fun h => hunexpected (h.2 table htable)) rfl
    · next hfind' =>
      rw [List.find?_eq_none] at hfind hfind'
      refine .ret ⟨fun table h => ?_, fun table h => ?_⟩ rfl
      · simpa using hfind table h
      · simpa using hfind' table h

theorem mem_migrationOrder : t ∈ migrationOrder := by
  cases t <;> simp [migrationOrder]

theorem nodup_migrationOrder : migrationOrder.Nodup := by
  decide

/-- Every table comes after the one that it references. Reference: `db/db_migrate.go:64
MigrateDB`. -/
theorem ordered_migrationOrder : migrationOrder.Pairwise fun t t' => t' ∉ t.references := by
  decide

/-- The sequences after the migration, or after as much of it as was done. Reference:
`db/db_migrate.go:102 MigrateDB`. -/
def sequences (M : Server V) (fault : Cmd V → Option String) (rows : TableName → List (Row V))
    (next : TableName → Nat) : TableName → Nat :=
  if M.dest.dialect = .postgres then
    setvals rows next (migrationOrder.takeWhile fun t => (fault (.setval t)).isNone)
  else next

/-- Where no `setval` fails, they are all done. Reference: `db/db_migrate.go:203 resetSequences`. -/
theorem takeWhile_setval (h : ∀ t, fault (.setval t) = none) :
    (migrationOrder.takeWhile fun t => (fault (.setval t)).isNone) = migrationOrder := by
  rw [List.takeWhile_eq_self_iff]
  intro t _
  rw [h t]
  rfl

/-- The end of the migration: the sequences, and the commit. Reference: `db/db_migrate.go:102
MigrateDB`. -/
theorem ends_finish :
    Ends (exec M) fault (Completes M fault)
      (fun _ s' => s'.dest = s.tx ∧ s'.next = sequences M fault s.tx.rows s.next)
      (fun s' => s'.dest = s.dest ∧ s'.next = sequences M fault s.tx.rows s.next)
      (andThen (if M.dest.dialect = .postgres then
          andThen (resetSequences migrationOrder) "failed to reset sequences: " fun _ =>
            .ret (.ok ())
        else .ret (.ok ())) "" fun _ =>
      andThen (ask .commit) "failed to commit transaction: " fun _ => .ret (.ok ())) s := by
  have hcommit : ∀ s₁ : State V, s₁.dest = s.dest ∧ s₁.tx = s.tx ∧
      s₁.next = sequences M fault s.tx.rows s.next →
        Ends (exec M) fault (fault .commit = none ∧ True)
        (fun (_ : Unit) s' => s'.dest = s.tx ∧ s'.next = sequences M fault s.tx.rows s.next)
        (fun s' => s'.dest = s.dest ∧ s'.next = sequences M fault s.tx.rows s.next)
        (andThen (ask .commit) "failed to commit transaction: " fun _ => .ret (.ok ())) s₁ := by
    rintro s₁ ⟨hdest, htx, hnext⟩
    have hask : Ends (exec M) fault (fault .commit = none)
        (fun _ s' => s'.dest = s.tx ∧ s'.next = sequences M fault s.tx.rows s.next)
        (fun s' => s'.dest = s.dest ∧
          s'.next = sequences M fault s.tx.rows s.next) (ask .commit) s₁ := by
      refine (ends_ask rfl).mono Iff.rfl ?_ ?_
      · rintro - _ s' ⟨-, rfl⟩
        exact ⟨htx, hnext⟩
      · rintro - s' rfl
        exact ⟨hdest, hnext⟩
    exact hask.andThen fun _ _ _ h => .ret trivial h
  have hreset : Ends (exec M) fault (M.dest.dialect = .postgres → ∀ t, fault (.setval t) = none)
      (fun (_ : Unit) s₁ => s₁.dest = s.dest ∧ s₁.tx = s.tx ∧
        s₁.next = sequences M fault s.tx.rows s.next)
      (fun s' => s'.dest = s.dest ∧ s'.next = sequences M fault s.tx.rows s.next)
      (if M.dest.dialect = .postgres then
        andThen (resetSequences migrationOrder) "failed to reset sequences: " fun _ => .ret (.ok ())
      else .ret (.ok ())) s := by
    rw [sequences]
    split
    · next hpostgres =>
      have hset : Ends (exec M) fault ((∀ t ∈ migrationOrder, fault (.setval t) = none) ∧ True)
          (fun (_ : Unit) s' => s' = { s with next := setvals s.tx.rows s.next migrationOrder })
          (fun s' => s' = { s with
            next := setvals s.tx.rows s.next (migrationOrder.takeWhile fun t =>
              (fault (.setval t)).isNone) })
          (andThen (resetSequences migrationOrder) "failed to reset sequences: " fun _ =>
            .ret (.ok ())) s :=
        ends_resetSequences.andThen fun _ _ _ h => .ret trivial h
      refine hset.mono ?_ ?_ ?_
      · simp only [mem_migrationOrder, true_imp_iff, hpostgres, and_true]
      · rintro ⟨hok, -⟩ _ s' rfl
        rw [takeWhile_setval fun t => hok t mem_migrationOrder]
        exact ⟨rfl, rfl, rfl⟩
      · rintro - s' rfl
        exact ⟨rfl, rfl⟩
    · next hother =>
      exact .ret (fun h => absurd h hother) ⟨rfl, rfl, rfl⟩
  refine (hreset.andThen fun _ _ s₁ => hcommit s₁).mono ?_ (fun _ _ _ h => h) fun _ _ h => h
  rw [Completes, and_true]

/-- The destination holds what was loaded, and the sequences are set. Reference: none. -/
def Finished (M : Server V) (fault : Cmd V → Option String) (s s' : State V) : Prop :=
  s'.dest.rows = loaded M s ∧ s'.next = sequences M fault (loaded M s) s.next

/-- The rows of the destination are as before; sequences are set where everything was loaded.
Reference: none. -/
def RolledBack (M : Server V) (fault : Cmd V → Option String) (s s' : State V) : Prop :=
  s'.dest = s.dest ∧ (¬Loads M fault s → s'.next = s.next) ∧
    (Loads M fault s → s'.next = sequences M fault (loaded M s) s.next)

/-- A failure before everything is loaded. Reference: none. -/
theorem rolledBack_early {ok : Prop} {s' : State V} (hload : Loads M fault s → ok) (hok : ¬ok)
    (hdest : s'.dest = s.dest) (hnext : s'.next = s.next) : RolledBack M fault s s' :=
  ⟨hdest, fun _ => hnext, fun h => absurd (hload h) hok⟩

/-- What `MigrateDB` does: it succeeds exactly where everything is loaded and the rest completes.
Reference: `db/db_migrate.go:29 MigrateDB`. -/
theorem ends_MigrateDB :
    Ends (exec M) fault (Loads M fault s ∧ Completes M fault) (fun _ s' => Finished M fault s s')
      (fun s' => RolledBack M fault s s') (MigrateDB M) s := by
  let s₁ : State V := { s with source := s.source.deleteNotIn .requestEvents .apps }
  let s₂ : State V := { s with source := s.source.cleaned }
  let s₃ : State V := { s₂ with tx := s.dest }
  have hsource : Ends (exec M) fault (M.source.Checked ∧ fault (.listTables .source) = none)
      (fun _ s' => s' = s) (RolledBack M fault s) (checkSchema M.source .source) s := by
    refine (ends_checkSchema rfl).mono Iff.rfl (fun _ _ _ h => h) ?_
    rintro hok s' rfl
    exact rolledBack_early Loads.source hok rfl rfl
  have hdest : Ends (exec M) fault (M.dest.Checked ∧ fault (.listTables .dest) = none)
      (fun _ s' => s' = s) (RolledBack M fault s) (checkSchema M.dest .dest) s := by
    refine (ends_checkSchema rfl).mono Iff.rfl (fun _ _ _ h => h) ?_
    rintro hok s' rfl
    exact rolledBack_early Loads.dest hok rfl rfl
  have hrequests : Ends (exec M) fault (fault .deleteOrphanedRequestEvents = none)
      (fun _ s' => s' = s₁) (RolledBack M fault s) (ask .deleteOrphanedRequestEvents) s := by
    refine (ends_ask rfl).mono Iff.rfl (fun _ _ _ h => h.2) ?_
    rintro hok s' rfl
    exact rolledBack_early Loads.requests hok rfl rfl
  have hresponses : Ends (exec M) fault (fault .deleteOrphanedResponseEvents = none)
      (fun _ s' => s' = s₂) (RolledBack M fault s) (ask .deleteOrphanedResponseEvents) s₁ := by
    refine (ends_ask rfl).mono Iff.rfl (fun _ _ _ h => h.2) ?_
    rintro hok s' rfl
    exact rolledBack_early Loads.responses hok rfl rfl
  have hbegin : Ends (exec M) fault (fault .begin = none) (fun _ s' =>
    s' = s₃) (RolledBack M fault s)
      (ask .begin) s₂ := by
    refine (ends_ask rfl).mono Iff.rfl (fun _ _ _ h => h.2) ?_
    rintro hok s' rfl
    exact rolledBack_early Loads.begins hok rfl rfl
  have htables : Ends (exec M) fault (∀ t ∈ migrationOrder, fault (.find t) = none ∧
        (∀ data ∈ chunks 1000 (M.data s.source.cleaned t), fault (.create t data) = none) ∧
        Inserts M (loaded M s) t (s.dest.rows t) (M.data s.source.cleaned t))
      (fun _ s' => s₃.SameBesidesTx s' ∧ s'.tx.rows = loaded M s) (RolledBack M fault s)
      (migrateTables migrationOrder) s₃ := by
    have h := @ends_migrateTables V M fault s₃ migrationOrder s.dest.rows (loaded M s)
      nodup_migrationOrder ordered_migrationOrder (fun t h => absurd mem_migrationOrder h)
      (fun _ _ => rfl) fun _ => rfl
    refine h.mono Iff.rfl (fun _ _ _ h => h) ?_
    rintro hok s' ⟨-, hdest', hnext'⟩
    exact rolledBack_early (fun h t _ => h.tables t) hok hdest' hnext'
  have hrun : Ends (exec M) fault ((M.source.Checked ∧ fault (.listTables .source) = none) ∧
      (M.dest.Checked ∧ fault (.listTables .dest) = none) ∧
        fault .deleteOrphanedRequestEvents = none ∧
      fault .deleteOrphanedResponseEvents = none ∧ fault .begin = none ∧
      (∀ t ∈ migrationOrder, fault (.find t) = none ∧
        (∀ data ∈ chunks 1000 (M.data s.source.cleaned t), fault (.create t data) = none) ∧
        Inserts M (loaded M s) t (s.dest.rows t) (M.data s.source.cleaned t)) ∧ Completes M fault)
      (fun _ s' => Finished M fault s s') (RolledBack M fault s) (MigrateDB M) s := by
    rw [MigrateDB]
    refine hsource.andThen fun h₁ _ s' hs' => ?_
    rw [hs']
    refine hdest.andThen fun h₂ _ s' hs' => ?_
    rw [hs']
    refine hrequests.andThen fun h₃ _ s' hs' => ?_
    rw [hs']
    refine hresponses.andThen fun h₄ _ s' hs' => ?_
    rw [hs']
    refine hbegin.andThen fun h₅ _ s' hs' => ?_
    rw [hs']
    refine htables.andThen fun h₆ _ s' hs' => ?_
    have hload : Loads M fault s := ⟨h₁, h₂, h₃, h₄, h₅, fun t => h₆ t mem_migrationOrder⟩
    obtain ⟨⟨-, hdest', hnext'⟩, hrows⟩ := hs'
    refine ends_finish.mono Iff.rfl ?_ ?_
    · rintro - _ s'' ⟨hdest'', hnext''⟩
      refine ⟨by rw [hdest'', hrows], ?_⟩
      rw [hnext'', hrows, hnext']
    · rintro - s'' ⟨hdest'', hnext''⟩
      refine ⟨hdest''.trans hdest', fun h => absurd hload h, fun _ => ?_⟩
      rw [hnext'', hrows, hnext']
  refine hrun.mono ?_ (fun _ _ _ h => h) fun _ _ h => h
  constructor
  · rintro ⟨h₁, h₂, h₃, h₄, h₅, h₆, h₇⟩
    exact ⟨⟨h₁, h₂, h₃, h₄, h₅, fun t => h₆ t mem_migrationOrder⟩, h₇⟩
  · rintro ⟨h, h₇⟩
    exact ⟨h.source, h.dest, h.requests, h.responses, h.begins, fun t _ => h.tables t, h₇⟩

/-! ## What is preserved -/

/-- A foreign key that does not hold. Reference: SQL `FOREIGN KEY`. -/
def dangling (x : Option Nat) (ids : List Nat) : Bool := x.any fun id => id ∉ ids

/-- An event whose app is gone, or whose request is. Reference: `db/db_migrate.go:26 MigrateDB`. -/
def Database.orphaned (db : Database V) : TableName → Row V → Bool
  | .requestEvents, r => dangling r.parent ((db.rows .apps).map (·.id))
  | .responseEvents, r => dangling r.parent (((db.rows .requestEvents).filter fun r' =>
      !dangling r'.parent ((db.rows .apps).map (·.id))).map (·.id))
  | _, _ => false

/-- The rows without the orphaned events. Reference: `db/db_migrate.go:26 MigrateDB`. -/
def Database.kept (db : Database V) (t : TableName) : List (Row V) :=
  (db.rows t).filter fun r => !db.orphaned t r

/-- What the two deletions take. Reference: `db/db_migrate.go:41 MigrateDB`, `:49 MigrateDB`. -/
def Database.deleted (db : Database V) : TableName → Row V → Bool
  | .requestEvents, r => Database.notIn r.parent ((db.rows .apps).map (·.id))
  | .responseEvents, r => Database.notIn r.parent (((db.rows .requestEvents).filter fun r' =>
      !Database.notIn r'.parent ((db.rows .apps).map (·.id))).map (·.id))
  | _, _ => false

/-- The events that the deletions take though they are not orphaned. Reference: none. -/
def Database.lost (db : Database V) (t : TableName) : List (Row V) :=
  (db.kept t).filter (db.deleted t)

/-- The migration preserves the data: where it succeeds, every table of the destination holds the
rows of the source, each once and as it is, and on Postgres every sequence is past the largest id;
where it fails, the destination is as before. Reference: none. -/
def Preserves (M : Server V) (fault : Cmd V → Option String) (s : State V) : Prop :=
  ∃ r s', (MigrateDB M).play (exec M) (fun _ s => s) fault s = some (r, s') ∧
    match r with
    | .ok () => (∀ t, (s'.dest.rows t).Perm (s.source.kept t)) ∧
      (M.dest.dialect = .postgres → ∀ t, ∀ row ∈ s'.dest.rows t, row.id < s'.next t)
    | .error _ => s'.dest = s.dest ∧ s'.next = s.next

theorem cleaned_rows (db : Database V) (t : TableName) :
    db.cleaned.rows t = (db.rows t).filter fun r => !db.deleted t r := by
  cases t <;>
    simp [Database.cleaned, Database.deleteNotIn, Database.withRows, Database.deleted,
      Function.update]

/-- A foreign key that does not hold is not in any part of the ids. Reference: SQL `NOT IN`. -/
theorem notIn_of_dangling {x : Option Nat} {ids ids' : List Nat} (hsub : ids' ⊆ ids)
    (h : dangling x ids = true) : Database.notIn x ids' = true := by
  obtain ⟨id, rfl, hid⟩ := (Option.any_eq_true _ _).1 h
  have hnot : id ∉ ids' := fun hin => of_decide_eq_true hid (hsub hin)
  cases ids' with
  | nil => rfl
  | cons id' ids' => simpa [Database.notIn] using hnot

/-- The orphaned events are deleted. Reference: `db/db_migrate.go:26 MigrateDB`. -/
theorem deleted_of_orphaned {db : Database V} {r : Row V} (h : db.orphaned t r = true) :
    db.deleted t r = true := by
  have hrequests : ((db.rows .requestEvents).filter fun r' =>
      !Database.notIn r'.parent ((db.rows .apps).map (·.id))).Sublist
      ((db.rows .requestEvents).filter fun r' =>
        !dangling r'.parent ((db.rows .apps).map (·.id))) := by
    refine List.monotone_filter_right _ fun r' hr' => ?_
    simp only [Bool.not_eq_true'] at hr' ⊢
    by_contra hdangling
    rw [notIn_of_dangling (List.Subset.refl _) (Bool.not_eq_false _ ▸ hdangling)] at hr'
    cases hr'
  cases t with
  | requestEvents => exact notIn_of_dangling (List.Subset.refl _) h
  | responseEvents => exact notIn_of_dangling (hrequests.map _).subset h
  | _ => cases h

/-- The rows to keep are those that are copied, and the lost ones. Reference: none. -/
theorem kept_perm (db : Database V) (t : TableName) :
    (db.lost t ++ db.cleaned.rows t).Perm (db.kept t) := by
  have hcleaned : db.cleaned.rows t = (db.kept t).filter fun r => !db.deleted t r := by
    rw [cleaned_rows, Database.kept, List.filter_filter]
    refine List.filter_congr fun r _ => ?_
    cases ho : db.orphaned t r with
    | false => simp
    | true => simp [deleted_of_orphaned ho]
  rw [hcleaned]
  exact List.filter_append_perm _ _

/-- A row of the source that is copied to one is copied as it is. Reference: none. -/
theorem copy_eq_of_mem {r : Row V} (hr : r ∈ s.source.cleaned.rows t)
    (hcopy : M.copy t r ∈ s.source.kept t) : M.copy t r = r := by
  rw [cleaned_rows] at hr
  have hid : (M.copy t r).id = r.id := rfl
  exact List.inj_on_of_nodup_map (s.source.keyed t) (List.mem_filter.1 hcopy).1
    (List.mem_filter.1 hr).1 hid

/-- The destination holds the rows to keep exactly where every row is copied as it is, and what was
in the destination before are the lost rows. Reference: none. -/
theorem loaded_perm_iff : (loaded M s t).Perm (s.source.kept t) ↔
    (∀ r ∈ s.source.cleaned.rows t, M.copy t r = r) ∧ (s.dest.rows t).Perm (s.source.lost t) := by
  have hdata : (∀ r ∈ s.source.cleaned.rows t, M.copy t r = r) →
      M.data s.source.cleaned t = s.source.cleaned.rows t := by
    intro hcopy
    rw [Server.data, List.map_congr_left hcopy]
    exact List.map_id _
  constructor
  · intro hperm
    have hcopy : ∀ r ∈ s.source.cleaned.rows t, M.copy t r = r := fun r hr =>
      copy_eq_of_mem hr (hperm.subset (List.mem_append_right _ (List.mem_map_of_mem hr)))
    refine ⟨hcopy, ?_⟩
    rw [loaded, hdata hcopy] at hperm
    exact (List.perm_append_right_iff _).1 (hperm.trans (kept_perm s.source t).symm)
  · rintro ⟨hcopy, hdest⟩
    rw [loaded, hdata hcopy]
    exact (hdest.append_right _).trans (kept_perm s.source t)

/-- The sequences are as they were where each that was set was already past the largest id by one.
Reference: `db/db_migrate.go:228 resetPostgresSequence`. -/
theorem sequences_eq_iff : sequences M fault rows s.next = s.next ↔ (M.dest.dialect = .postgres →
    ∀ t ∈ migrationOrder.takeWhile (fun t => (fault (.setval t)).isNone), ∀ id ∈ maxId (rows t),
      s.next t = id + 1) := by
  have hnodup :=
    (List.takeWhile_sublist fun t => (fault (.setval t)).isNone).nodup nodup_migrationOrder
  rw [sequences]
  split
  · next hpostgres =>
    constructor
    · intro h _ t ht id hid
      rw [← h, setvals_apply hnodup, if_pos ht, hid]
    · intro h
      funext t
      rw [setvals_apply hnodup]
      split
      · next ht =>
        split
        · rfl
        · next id hid => exact (h hpostgres t ht id hid).symm
      · rfl
  · next hother => exact ⟨fun _ h => absurd h hother, fun _ => rfl⟩

/-- Every sequence is past the largest id where all are set. Reference:
`db/db_migrate.go:228 resetPostgresSequence`. -/
theorem lt_sequences (hset : ∀ t, fault (.setval t) = none) (hpostgres : M.dest.dialect = .postgres)
    {r : Row V} (hr : r ∈ rows t) : r.id < sequences M fault rows s.next t := by
  rw [sequences, if_pos hpostgres, takeWhile_setval hset, setvals_apply nodup_migrationOrder,
    if_pos mem_migrationOrder]
  have hid : r.id ∈ (rows t).map (·.id) := List.mem_map_of_mem hr
  cases hmax : maxId (rows t) with
  | none =>
    rw [maxId, List.max?_eq_none_iff] at hmax
    rw [hmax] at hid
    cases hid
  | some id => exact Nat.lt_succ_of_le ((List.max?_eq_some_iff.1 hmax).2 r.id hid)

/-- The migration preserves the data exactly where, once everything is loaded: if the rest
completes, each row is inserted as it was read and the destination had exactly the rows that the
deletions take beyond the orphaned ones, so none where no such row is; and if it does not, every
sequence that was set had been one past the largest id already. Reference: `db/db_migrate.go:29
MigrateDB`. -/
theorem migration_preserves_iff : Preserves M fault s ↔ (Loads M fault s →
    (Completes M fault → ∀ t, (∀ r ∈ s.source.cleaned.rows t, M.copy t r = r) ∧
      (s.dest.rows t).Perm (s.source.lost t)) ∧
    (¬Completes M fault → M.dest.dialect = .postgres →
      ∀ t ∈ migrationOrder.takeWhile (fun t => (fault (.setval t)).isNone),
        ∀ id ∈ maxId (loaded M s t),
        s.next t = id + 1)) := by
  rcases @ends_MigrateDB V M fault s with
    ⟨⟨hload, hcompletes⟩, ⟨⟩, s', hplay, hrows, hnext⟩ | ⟨hok, e, s', hplay, hdest, hearly, hlate⟩
  · have hiff : Preserves M fault s ↔ ∀ t, (loaded M s t).Perm (s.source.kept t) := by
      constructor
      · rintro ⟨r, s'', hplay', hpreserved⟩
        rw [hplay] at hplay'
        cases hplay'
        rw [← hrows]
        exact hpreserved.1
      · intro h
        refine ⟨_, _, hplay, fun t => ?_, fun hpostgres t row hrow => ?_⟩
        · rw [hrows]
          exact h t
        · rw [hrows] at hrow
          rw [hnext]
          exact lt_sequences (hcompletes.1 hpostgres) hpostgres hrow
    rw [hiff]
    simp only [loaded_perm_iff, hload, hcompletes, not_true_eq_false, true_imp_iff, false_imp_iff,
      and_true]
  · have hiff : Preserves M fault s ↔ s'.next = s.next := by
      constructor
      · rintro ⟨r, s'', hplay', hpreserved⟩
        rw [hplay] at hplay'
        cases hplay'
        exact hpreserved.2
      · intro h
        exact ⟨_, _, hplay, hdest, h⟩
    rw [hiff]
    by_cases hload : Loads M fault s
    · have hcompletes : ¬Completes M fault := fun h => hok ⟨hload, h⟩
      rw [hlate hload, sequences_eq_iff]
      simp only [hload, hcompletes, not_false_eq_true, true_imp_iff, false_imp_iff, true_and]
    · simp only [hearly hload, hload, false_imp_iff]

/-- A database without apps, with a request event of no app. Reference: `nip47/event_handler.go:58
HandleEvent`. -/
def unknownAppSource : Database Unit where
  rows t := if t = .requestEvents then [⟨1, none, ()⟩] else []
  keyed t := by cases t <;> decide
  pos t := by cases t <;> decide

/-- A database without rows. Reference: none. -/
def emptyDatabase : Database Unit where
  rows _ := []
  keyed _ := List.nodup_nil
  pos _ := nofun

/-- Two sqlite databases of the expected schema. Reference: none. -/
def sqliteServer : Server Unit where
  source := ⟨.sqlite, expectedTables⟩
  dest := ⟨.sqlite, expectedTables⟩
  copied _ v := v
  accepts _ _ _ := true

/-- The request event of no app is deleted, for want of apps, and the migration succeeds without it.
Reference: `db/db_migrate.go:41 MigrateDB`. -/
theorem migration_drops_request_without_app :
    ¬Preserves sqliteServer (fun _ => none) ⟨unknownAppSource, emptyDatabase, emptyDatabase,
      fun _ => 1⟩ := by
  rintro ⟨r, s', hplay, hpreserved⟩
  have hrun : ((MigrateDB sqliteServer).play (exec sqliteServer) (fun _ s => s) (fun _ => none)
      ⟨unknownAppSource, emptyDatabase, emptyDatabase, fun _ => 1⟩).map
        (fun x => (x.1.toBool, x.2.dest.rows .requestEvents)) = some (true, []) := by
    decide +kernel
  rw [hplay] at hrun
  obtain ⟨hok, hrows⟩ := Prod.mk.inj (Option.some.inj hrun)
  cases r with
  | error e => cases hok
  | ok a =>
    have hperm := hpreserved.1 .requestEvents
    rw [hrows] at hperm
    exact absurd hperm.length_eq (by decide)

end AlbyHub.Migrate
