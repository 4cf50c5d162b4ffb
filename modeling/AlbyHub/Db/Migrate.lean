import AlbyHub.Go.Errors
import AlbyHub.Go.Numbers
import Mathlib.Data.List.Nodup
import Mathlib.Logic.Function.Basic

/-!
# The copy of the database

`MigrateDB` deletes the orphaned events of the source, and copies the tables one after the other, in
chunks and inside one transaction of the destination; on Postgres it then sets the sequences. A
statement fails where the environment says so, or where the destination refuses a row.
-/

namespace AlbyHub.Migrate

open Go Interaction

/-- The tables that are copied. Reference: `db/models.go`. -/
inductive TableName where
  | apps
  | appPermissions
  | requestEvents
  | responseEvents
  | transactions
  | swaps
  | forwards
  | userConfigs
  deriving DecidableEq, Repr

/-- Reference: `db/db_migrate.go:12 expectedTables`. -/
def TableName.name : TableName → String
  | .apps => "apps"
  | .appPermissions => "app_permissions"
  | .requestEvents => "request_events"
  | .responseEvents => "response_events"
  | .transactions => "transactions"
  | .swaps => "swaps"
  | .forwards => "forwards"
  | .userConfigs => "user_configs"

/-- The table that the foreign key of a table references. Reference:
`db/migrations/202407151352_autoincrement.go:18 appsMigration`, `:36 reqRespMigration`. -/
def TableName.references : TableName → Option TableName
  | .appPermissions | .requestEvents => some .apps
  | .responseEvents => some .requestEvents
  | _ => none

/-- A row. `parent` is the foreign key (`app_id`, `request_id`), none for NULL; the other columns
are a `V`. Reference: `db/models.go`. -/
structure Row (V : Type) where
  id : Nat
  parent : Option Nat := none
  columns : V
  deriving DecidableEq

/-- The tables of a database; the ids are primary keys, from 1. Reference: `db/models.go`. -/
structure Database (V : Type) where
  rows : TableName → List (Row V)
  keyed : ∀ t, ((rows t).map (·.id)).Nodup
  pos : ∀ t, ∀ r ∈ rows t, 0 < r.id

/-- Reference: gorm `Dialector.Name`. -/
inductive Dialect where
  | sqlite
  | postgres
  | other (name : String)
  deriving DecidableEq, Repr

/-- What is there of a database besides the rows. Reference: gorm `DB`. -/
structure Schema where
  dialect : Dialect
  tables : List String

/-- The two databases, with what gorm and the destination do to a row. `copied` are the columns that
are stored for those that are read, through the fields of the model; `accepts` are the constraints
besides the keys. Reference: gorm `Find`, `Create`. -/
structure Server (V : Type) where
  source : Schema
  dest : Schema
  copied : TableName → V → V
  accepts : TableName → List (Row V) → Row V → Bool

/-- Which of the two databases. Reference: `db/db_migrate.go:29 MigrateDB`. -/
inductive Side where
  | source
  | dest

/-- The statements. Reference: the calls of `db/db_migrate.go`. -/
inductive Cmd (V : Type) where
  | listTables (side : Side)
  | deleteOrphanedRequestEvents
  | deleteOrphanedResponseEvents
  | begin
  | find (t : TableName)
  | create (t : TableName) (data : List (Row V))
  | setval (t : TableName)
  | commit

/-- What a statement gives that does not fail. Reference: the calls of `db/db_migrate.go`. -/
def Cmd.Val {V : Type} : Cmd V → Type
  | .listTables _ => List String
  | .find _ => List (Row V)
  | _ => Unit

/-- What a statement answers. Reference: the calls of `db/db_migrate.go`. -/
abbrev Cmd.Ans {V : Type} (c : Cmd V) : Type := Except String c.Val

/-- `tx` is what the transaction of the destination sees, and `next` are the destination's
sequences: the id that the next insertion without one is given. Reference: `db/db_migrate.go:29
MigrateDB`. -/
structure State (V : Type) where
  source : Database V
  dest : Database V
  tx : Database V
  next : TableName → Nat

/-! ## The databases -/

/-- The row is one that the keys and the other constraints of a table allow, beside the rows `old`
of the table and `rows` of the others. Reference: SQL `INSERT`. -/
structure Fits {V : Type} (M : Server V) (rows : TableName →
    List (Row V)) (t : TableName) (old : List (Row V))
    (r : Row V) : Prop where
  pos : 0 < r.id
  primary : ∀ r' ∈ old, r'.id ≠ r.id
  foreign : ∀ parents ∈ t.references, ∀ id ∈ r.parent, ∃ r' ∈ rows parents, r'.id = id
  accepted : M.accepts t old r = true

instance {V : Type} (M : Server V) (rows : TableName →
    List (Row V)) (t : TableName) (old : List (Row V)) (r : Row V) :
    Decidable (Fits M rows t old r) :=
  decidable_of_iff (0 < r.id ∧ (∀ r' ∈ old, r'.id ≠ r.id) ∧
      (∀ parents ∈ t.references, ∀ id ∈ r.parent, ∃ r' ∈ rows parents, r'.id = id) ∧
        M.accepts t old r = true)
    ⟨fun ⟨h₁, h₂, h₃, h₄⟩ => ⟨h₁, h₂, h₃, h₄⟩, fun ⟨h₁, h₂, h₃, h₄⟩ => ⟨h₁, h₂, h₃, h₄⟩⟩

namespace Database

variable {V : Type}

/-- The database with another table. Reference: none. -/
def withRows (db : Database V) (t : TableName) (rows : List (Row V))
    (hkeyed : (rows.map (·.id)).Nodup)
    (hpos : ∀ r ∈ rows, 0 < r.id) : Database V where
  rows := Function.update db.rows t rows
  keyed t' := by
    by_cases ht : t' = t
    · subst ht
      rw [Function.update_self]
      exact hkeyed
    · rw [Function.update_of_ne ht]
      exact db.keyed t'
  pos t' := by
    by_cases ht : t' = t
    · subst ht
      rw [Function.update_self]
      exact hpos
    · rw [Function.update_of_ne ht]
      exact db.pos t'

/-- `x NOT IN (SELECT id FROM …)`: unknown for a NULL beside some ids, and true beside none.
Reference: SQL `NOT IN`. -/
def notIn (x : Option Nat) (ids : List Nat) : Bool :=
  match ids, x with
  | [], _ => true
  | _ :: _, none => false
  | ids, some id => !ids.contains id

/-- `DELETE FROM t WHERE … NOT IN (SELECT id FROM parents)`. Reference: SQL `DELETE`. -/
def deleteNotIn (db : Database V) (t parents : TableName) : Database V :=
  db.withRows t ((db.rows t).filter fun r => !notIn r.parent ((db.rows parents).map (·.id)))
    ((db.keyed t).sublist (List.filter_sublist.map _)) fun r hr =>
      db.pos t r (List.mem_filter.1 hr).1

/-- The insertion of a row. Reference: SQL `INSERT`. -/
def insertRow (M : Server V) (db : Database V) (t : TableName) (r : Row V) : Option (Database V) :=
  if h : Fits M db.rows t (db.rows t) r then
    some (db.withRows t (db.rows t ++ [r])
      (by
        rw [List.map_append, List.nodup_append]
        refine ⟨db.keyed t, by simp, fun id hid id' hid' => ?_⟩
        obtain ⟨r', hr', rfl⟩ := List.mem_map.1 hid
        rw [List.map_cons, List.map_nil, List.mem_singleton] at hid'
        rw [hid']
        exact h.primary r' hr')
      (by
        intro r' hr'
        rcases List.mem_append.1 hr' with hr' | hr'
        · exact db.pos t r' hr'
        · rw [List.mem_singleton.1 hr']
          exact h.pos))
  else none

/-- The insertion of rows by one statement, all of them or none. Reference: gorm `Create`. -/
def insertRows (M : Server V) (t : TableName) : Database V → List (Row V) → Option (Database V)
  | db, [] => some db
  | db, r :: rows => (db.insertRow M t r).bind fun db' => insertRows M t db' rows

end Database

/-- `MAX(id)`, none for NULL. Reference: SQL `MAX`. -/
def maxId {V : Type} (rows : List (Row V)) : Option Nat := (rows.map (·.id)).max?

/-- What is inserted for a row that was read: a field that is not a pointer has no NULL. Reference:
`db/models.go:32 AppPermission`, `:56 ResponseEvent`, gorm `Find`, `Create`. -/
def Server.copy {V : Type} (M : Server V) (t : TableName) (r : Row V) : Row V where
  id := r.id
  parent := match t with
    | .appPermissions | .responseEvents => some (r.parent.getD 0)
    | _ => r.parent
  columns := M.copied t r.columns

/-- `setval` of the sequence to `MAX(id)`, which does nothing for a NULL. Reference: Postgres
`setval`. -/
def setval {V : Type} (rows : TableName → List (Row V)) (next : TableName → Nat) (t : TableName) :
    TableName → Nat :=
  match maxId (rows t) with
  | none => next
  | some id => Function.update next t (id + 1)

/-- What a statement does that does not fail outright; `setval` is not undone by a rollback.
Reference: the calls of `db/db_migrate.go`. -/
def execute {V : Type} (M : Server V) (s : State V) : (c : Cmd V) → c.Ans × State V
  | .listTables .source => (.ok M.source.tables, s)
  | .listTables .dest => (.ok M.dest.tables, s)
  | .deleteOrphanedRequestEvents =>
    (.ok (), { s with source := s.source.deleteNotIn .requestEvents .apps })
  | .deleteOrphanedResponseEvents =>
    (.ok (), { s with source := s.source.deleteNotIn .responseEvents .requestEvents })
  | .begin => (.ok (), { s with tx := s.dest })
  | .find t => (.ok ((s.source.rows t).map (M.copy t)), s)
  | .create t data =>
    match Database.insertRows M t s.tx data with
    | none => (.error "constraint failed", s)
    | some tx => (.ok (), { s with tx := tx })
  | .setval t => (.ok (), { s with next := setval s.tx.rows s.next t })
  | .commit => (.ok (), { s with dest := s.tx })

/-- What a statement does; the environment says whether it fails outright. Reference: the calls of
`db/db_migrate.go`. -/
def exec {V : Type} (M : Server V) (s : State V) (c : Cmd V) : Option String →
    Option (c.Ans × State V)
  | none => some (execute M s c)
  | some e => some (.error e, s)

/-! ## The program -/

section
variable {V : Type}

/-- Reference: none. -/
abbrev MigrateProg (V : Type) := Prog (Cmd V) Cmd.Ans

/-- A statement. Reference: none. -/
def ask (c : Cmd V) : MigrateProg V c.Ans := Prog.call c

/-- Reference: `db/db_migrate.go:12 expectedTables`. -/
def expectedTables : List String :=
  ["apps", "app_permissions", "request_events", "response_events", "transactions", "swaps",
    "user_configs",
    "migrations", "forwards"]

/-- Reference: `db/db_migrate.go:168 listTables`. -/
def listTables (schema : Schema) (side : Side) : MigrateProg V (Except String (List String)) :=
  match schema.dialect with
  | .other name => .ret (.error ("unsupported database: \"" ++ name ++ "\""))
  | _ => andThen (ask (.listTables side)) "failed to query table names: " fun tables =>
    .ret (.ok tables)

/-- Reference: `db/db_migrate.go:147 checkSchema`. -/
def checkSchema (schema : Schema) (side : Side) : MigrateProg V (Except String Unit) :=
  andThen (listTables schema side) "failed to list database tables: " fun tables =>
    match expectedTables.find? (· ∉ tables) with
    | some table => .ret (.error ("table missing from the database: \"" ++ table ++ "\""))
    | none =>
      match tables.find? (· ∉ expectedTables) with
      | some table => .ret (.error ("unexpected table found in the database: \"" ++ table ++ "\""))
      | none => .ret (.ok ())

/-- `data[i:j]` for `i = 0, max, 2 * max, …`. Reference: `db/db_migrate.go:136 migrateTable`. -/
def chunks {α : Type} (max : Nat) (data : List α) : List (List α) :=
  (List.range (ceilDiv data.length max)).map fun k => (data.drop (k * max)).take max

/-- The loop over the chunks. Reference: `db/db_migrate.go:136 migrateTable`. -/
def createChunks (t : TableName) : List (List (Row V)) → MigrateProg V (Except String Unit)
  | [] => .ret (.ok ())
  | data :: rest => andThen (ask (.create t data)) "failed to insert data: " fun _ =>
    createChunks t rest

/-- Reference: `db/db_migrate.go:119 migrateTable`. -/
def migrateTable (t : TableName) : MigrateProg V (Except String Unit) :=
  andThen (ask (.find t)) "failed to fetch data: " fun data => createChunks t (chunks 1000 data)

/-- Reference: `db/db_migrate.go:67 MigrateDB`. -/
def migrationOrder : List TableName :=
  [.apps, .appPermissions, .requestEvents, .responseEvents, .transactions, .swaps, .forwards,
    .userConfigs]

/-- The tables, one after the other. Reference: `db/db_migrate.go:67 MigrateDB`. -/
def migrateTables : List TableName → MigrateProg V (Except String Unit)
  | [] => .ret (.ok ())
  | t :: ts => andThen (migrateTable t) ("failed to migrate " ++ t.name ++ ": ") fun _ =>
    migrateTables ts

/-- The sequence of a table's ids. Reference: `db/db_migrate.go:210 resetSequences`. -/
def TableName.sequence : TableName → String
  | .apps => "apps_2_id_seq"
  | .appPermissions => "app_permissions_2_id_seq"
  | t => t.name ++ "_id_seq"

/-- Reference: `db/db_migrate.go:203 resetSequences`, `:228 resetPostgresSequence`. -/
def resetSequences : List TableName → MigrateProg V (Except String Unit)
  | [] => .ret (.ok ())
  | t :: ts =>
    andThen (ask (.setval t)) ("failed to reset sequence \"" ++ t.sequence ++ "\" for \"" ++
      t.name ++
      "\": failed to execute setval(): ") fun _ => resetSequences ts

/-- Reference: `db/db_migrate.go:29 MigrateDB`. -/
def MigrateDB (M : Server V) : MigrateProg V (Except String Unit) :=
  andThen (checkSchema M.source .source) "source database schema check failed: " fun _ =>
  andThen (checkSchema M.dest .dest) "destination database schema check failed: " fun _ =>
  andThen (ask .deleteOrphanedRequestEvents) "failed to delete orphaned request events: " fun _ =>
  andThen (ask .deleteOrphanedResponseEvents) "failed to delete orphaned response events: " fun _ =>
  andThen (ask .begin) "failed to start transaction: " fun _ =>
  andThen (migrateTables migrationOrder) "" fun _ =>
  andThen (if M.dest.dialect = .postgres then
      andThen (resetSequences migrationOrder) "failed to reset sequences: " fun _ => .ret (.ok ())
    else .ret (.ok ())) "" fun _ =>
  andThen (ask .commit) "failed to commit transaction: " fun _ => .ret (.ok ())

end

end AlbyHub.Migrate
