import AlbyHub.Interaction.Solo
import AlbyHub.Transactions.Runs
import Mathlib.Data.Nat.Digits.Defs

/-!
# The app that a keysend is for

The custom records of a keysend name the app that receives it, in decimal. What the lookup may
answer is a choice among the ids that its first record with a hit takes (`runs_getAppId`): a record
that reads as zero takes every app, since the condition on a zero id is none. Apart from that the
answer is the app that the first such record names (`keysend_attribution_iff`).
-/

namespace Go

/-- The bytes are decimal digits of the number, at least one. Reference: none. -/
def IsDecimal (bytes : List UInt8) (n : Nat) : Prop :=
  bytes ≠ [] ∧ (∀ b ∈ bytes, 48 ≤ b.toNat ∧ b.toNat ≤ 57) ∧
    Nat.ofDigits 10 (bytes.reverse.map fun b => b.toNat - 48) = n

theorem ofDigits_reverse_foldl (bytes : List UInt8) :
    Nat.ofDigits 10 (bytes.reverse.map fun b => b.toNat - 48) =
      bytes.foldl (fun n b => 10 * n + (b.toNat - 48)) 0 := by
  rw [Nat.ofDigits_eq_foldr, List.foldr_map, List.foldr_reverse]
  refine congrFun (congrFun (congrArg _ ?_) _) _
  funext n b
  exact Nat.add_comm _ _

/-- A text is parsed as the number whose decimal form it is, where that fits. Reference: Go
`strconv.ParseUint`. -/
theorem parseUint_eq_some {bytes : List UInt8} {n : Nat} :
    parseUint bytes = some n ↔ IsDecimal bytes n ∧ n < 2 ^ 64 := by
  rw [IsDecimal, ofDigits_reverse_foldl]
  unfold parseUint
  by_cases hdigits : bytes = [] ∨ ¬ bytes.all (fun b => 48 ≤ b.toNat && b.toNat ≤ 57)
  · rw [if_pos hdigits]
    constructor
    · intro h
      cases h
    · rintro ⟨⟨hne, hall, -⟩, -⟩
      rcases hdigits with hempty | hother
      · exact absurd hempty hne
      · refine absurd (List.all_eq_true.2 fun b hb => ?_) hother
        simp [hall b hb]
  · rw [if_neg hdigits]
    obtain ⟨hne, hall⟩ := not_or.1 hdigits
    have hbytes : ∀ b ∈ bytes, 48 ≤ b.toNat ∧ b.toNat ≤ 57 := by
      intro b hb
      have h := List.all_eq_true.1 (not_not.1 hall) b hb
      simpa using h
    constructor
    · intro h
      simp only at h
      split at h
      · next hlt =>
        obtain rfl := Option.some.inj h
        exact ⟨⟨hne, hbytes, rfl⟩, hlt⟩
      · cases h
    · rintro ⟨⟨-, -, rfl⟩, hlt⟩
      exact if_pos hlt

end Go

namespace AlbyHub

open Go Interaction

/-- The record has the type of custom keys, and its value is the hexadecimal form of the decimal
form of the id. Reference: `transactions/transactions_service.go:1282
getAppIdFromCustomRecords`. -/
def TLVRecord.Names (record : TLVRecord) (id : Nat) : Prop :=
  record.type = 696969 ∧ ∃ bytes, hexDecodeString record.value = some bytes ∧ IsDecimal bytes id

/-- The number that the code reads in a record. Reference:
`transactions/transactions_service.go:1283 getAppIdFromCustomRecords`. -/
def TLVRecord.customValue (record : TLVRecord) : Option Nat :=
  if record.type ≠ 696969 then none else (hexDecodeString record.value).bind parseUint

/-- The apps that the lookup of a record may find: with the number zero any. Reference:
`transactions/transactions_service.go:1293 getAppIdFromCustomRecords`. -/
def TLVRecord.takes (record : TLVRecord) (db : DB) : List App :=
  match record.customValue with
  | none => []
  | some customValue => db.apps.filter fun a => customValue = 0 ∨ a.id = customValue

/-- Whether the record names an app of the database. Reference: none. -/
def TLVRecord.NamesApp (record : TLVRecord) (db : DB) (id : Nat) : Prop :=
  record.Names id ∧ ∃ app ∈ db.apps, app.id = id

/-- The first of the records that name an app names this one. Reference: none. -/
def FirstNamed (db : DB) : List TLVRecord → Nat → Prop
  | [], _ => False
  | record :: records, id =>
    record.NamesApp db id ∨ (∀ id', ¬ record.NamesApp db id') ∧ FirstNamed db records id

/-- The attribution of a keysend: an answer is named by a record, and its app is there; the first
record that names an app decides; where there is none, there is no answer. Reference: none. -/
structure Attributed (db : DB) (records : List TLVRecord) (answer : Option Nat) : Prop where
  named : ∀ id, answer = some id → ∃ record ∈ records, record.NamesApp db id
  first : ∀ id, FirstNamed db records id → answer = some id
  unnamed : (∀ record ∈ records, ∀ id, ¬ record.NamesApp db id) → answer = none

/-- A database that answers. Reference: none. -/
def execAnswering (W : World) (s : Hub) (c : Cmd) (env : Env) : Option (c.Ans × Hub) :=
  exec W s c { env with fault := none }

section
variable {W : World} {s s' : Hub} {db : DB} {record : TLVRecord} {records : List TLVRecord}
variable {id : Nat} {answer : Option Nat}

theorem TLVRecord.customValue_eq_some :
    record.customValue = some id ↔ record.Names id ∧ id < 2 ^ 64 := by
  unfold customValue Names
  split
  · next hne => simp [hne]
  · next heq =>
    rw [Option.bind_eq_some_iff]
    constructor
    · rintro ⟨bytes, hbytes, hparse⟩
      obtain ⟨hdecimal, hlt⟩ := parseUint_eq_some.1 hparse
      exact ⟨⟨not_not.1 heq, bytes, hbytes, hdecimal⟩, hlt⟩
    · rintro ⟨⟨-, bytes, hbytes, hdecimal⟩, hlt⟩
      exact ⟨bytes, hbytes, parseUint_eq_some.2 ⟨hdecimal, hlt⟩⟩

/-- A record has one number. Reference: none. -/
theorem TLVRecord.Names.unique {id' : Nat} (h : record.Names id) (h' : record.Names id') :
    id = id' := by
  obtain ⟨-, bytes, hbytes, -, -, rfl⟩ := h
  obtain ⟨-, bytes', hbytes', -, -, rfl⟩ := h'
  rw [hbytes] at hbytes'
  cases hbytes'
  rfl

theorem exec_takeApp {env : Env} {r : Except Err App} :
    execAnswering W s (.takeApp id) env = some (r, s') ↔
      s' = s ∧ r = match s.db.findApp env.pickApp id with
        | some app => .ok app
        | none => .error (.message "record not found") := by
  simp only [execAnswering, exec, Hub.transaction]
  constructor
  · intro h
    cases hfind : s.db.findApp env.pickApp id with
    | none =>
      simp only [hfind, List.append_nil, Option.some.injEq, Prod.mk.injEq] at h
      exact ⟨h.2.symm, h.1.symm⟩
    | some app =>
      simp only [hfind, List.append_nil, Option.some.injEq, Prod.mk.injEq] at h
      exact ⟨h.2.symm, h.1.symm⟩
  · rintro ⟨rfl, rfl⟩
    cases s'.db.findApp env.pickApp id with
    | none => simp only [List.append_nil]
    | some app => simp only [List.append_nil]

/-- The answers of the lookup: an app that the first record with a hit takes. Reference:
`transactions/transactions_service.go:1279 getAppIdFromCustomRecords`. -/
theorem runs_getAppId :
    (getAppIdFromCustomRecords records).Runs (execAnswering W) s answer s' ↔
      s' = s ∧ match records.find? (fun record => record.takes s.db ≠ []) with
        | some record => ∃ app ∈ record.takes s.db, answer = some app.id
        | none => answer = none := by
  induction records with
  | nil =>
    rw [getAppIdFromCustomRecords]
    exact and_comm
  | cons record records ih =>
    rw [getAppIdFromCustomRecords, List.find?_cons]
    by_cases htype : record.type ≠ 696969
    · have hnone : record.takes s.db = [] := by
        simp [TLVRecord.takes, TLVRecord.customValue, htype]
      rw [if_pos htype, hnone]
      exact ih
    · rw [if_neg htype]
      have hvalue : record.customValue = (hexDecodeString record.value).bind parseUint :=
        if_neg htype
      cases hread : (hexDecodeString record.value).bind parseUint with
      | none =>
        have hnone : record.takes s.db = [] := by
          rw [TLVRecord.takes, hvalue, hread]
        rw [hnone]
        exact ih
      | some customValue =>
        have htakes : record.takes s.db =
            s.db.apps.filter fun a => customValue = 0 ∨ a.id = customValue := by
          rw [TLVRecord.takes, hvalue, hread]
        constructor
        · rintro ⟨env, r, s₁, hx, hrest⟩
          obtain ⟨rfl, rfl⟩ := exec_takeApp.1 hx
          cases hfind : s₁.db.findApp env.pickApp customValue with
          | none =>
            rw [hfind] at hrest
            rw [htakes, pick_eq_none.1 hfind]
            exact ih.1 hrest
          | some app =>
            rw [hfind] at hrest
            obtain ⟨rfl, rfl⟩ := hrest
            have hmem := mem_of_pick hfind
            have hne : decide (record.takes s'.db ≠ []) = true := by
              rw [htakes]
              exact decide_eq_true (List.ne_nil_of_mem hmem)
            rw [hne]
            exact ⟨rfl, app, htakes ▸ hmem, rfl⟩
        · rintro ⟨rfl, hanswer⟩
          by_cases hempty : record.takes s'.db = []
          · rw [hempty] at hanswer
            refine ⟨{}, .error (.message "record not found"), s', exec_takeApp.2 ⟨rfl, ?_⟩,
              ih.2 ⟨rfl, hanswer⟩⟩
            rw [DB.findApp, ← htakes, hempty]
            rfl
          · rw [decide_eq_true hempty] at hanswer
            obtain ⟨app, hmem, rfl⟩ := hanswer
            rw [htakes] at hmem
            obtain ⟨n, hpick⟩ := exists_pick hmem
            refine ⟨{ pickApp := n }, .ok app, s', exec_takeApp.2 ⟨rfl, ?_⟩, rfl, rfl⟩
            rw [DB.findApp, hpick]

/-- A record that names an app takes it. Reference: none. -/
theorem TLVRecord.NamesApp.takes_ne (hids : ∀ app ∈ db.apps, app.id < 2 ^ 64)
    (h : record.NamesApp db id) : record.takes db ≠ [] := by
  obtain ⟨hnames, app, happ, rfl⟩ := h
  have hvalue := customValue_eq_some.2 ⟨hnames, hids app happ⟩
  refine List.ne_nil_of_mem (a := app) ?_
  rw [TLVRecord.takes, hvalue]
  exact List.mem_filter.2 ⟨happ, decide_eq_true (.inr rfl)⟩

/-- A record that takes an app names it or the number zero. Reference: none. -/
theorem TLVRecord.namesApp_or_zero {app : App} (h : app ∈ record.takes db) :
    record.NamesApp db app.id ∨ record.Names 0 := by
  unfold takes at h
  split at h
  · cases h
  · next customValue hvalue =>
    obtain ⟨happ, hid⟩ := List.mem_filter.1 h
    have hnames := (customValue_eq_some.1 hvalue).1
    rcases of_decide_eq_true hid with rfl | rfl
    · exact .inr hnames
    · exact .inl ⟨hnames, app, happ, rfl⟩

/-- A record that names the number zero takes every app. Reference:
`transactions/transactions_service.go:1293 getAppIdFromCustomRecords`. -/
theorem TLVRecord.takes_of_zero (h : record.Names 0) : record.takes db = db.apps := by
  have hvalue : record.customValue = some 0 := customValue_eq_some.2 ⟨h, by decide⟩
  rw [takes, hvalue]
  exact List.filter_eq_self.2 fun app _ => decide_eq_true (.inl rfl)

theorem FirstNamed.unique {id' : Nat} (h : FirstNamed db records id)
    (h' : FirstNamed db records id') : id = id' := by
  induction records with
  | nil => exact h.elim
  | cons record records ih =>
    rcases h with h | ⟨hnot, h⟩
    · rcases h' with h' | ⟨hnot', -⟩
      · exact h.1.unique h'.1
      · exact absurd h (hnot' id)
    · rcases h' with h' | ⟨-, h'⟩
      · exact absurd h' (hnot id')
      · exact ih h h'

theorem FirstNamed.exists_named (h : FirstNamed db records id) :
    ∃ record ∈ records, record.NamesApp db id := by
  induction records with
  | nil => exact h.elim
  | cons record records ih =>
    rcases h with h | ⟨-, h⟩
    · exact ⟨record, List.mem_cons_self, h⟩
    · obtain ⟨record', hmem, h⟩ := ih h
      exact ⟨record', List.mem_cons_of_mem _ hmem, h⟩

theorem exists_firstNamed (h : ∃ record ∈ records, ∃ id, record.NamesApp db id) :
    ∃ id, FirstNamed db records id := by
  induction records with
  | nil =>
    obtain ⟨_, hmem, -⟩ := h
    cases hmem
  | cons record records ih =>
    by_cases hnames : ∃ id, record.NamesApp db id
    · obtain ⟨id, hid⟩ := hnames
      exact ⟨id, .inl hid⟩
    · obtain ⟨record', hmem, hnamed⟩ := h
      rcases List.mem_cons.1 hmem with rfl | hmem
      · exact absurd hnamed hnames
      · obtain ⟨id, hid⟩ := ih ⟨record', hmem, hnamed⟩
        exact ⟨id, .inr ⟨not_exists.1 hnames, hid⟩⟩

/-- The first record that names an app comes after records that name none. Reference: none. -/
theorem firstNamed_append {before after : List TLVRecord} (hnamed : record.NamesApp db id)
    (hbefore : ∀ record' ∈ before, ∀ id', ¬ record'.NamesApp db id') :
    FirstNamed db (before ++ record :: after) id := by
  induction before with
  | nil => exact .inl hnamed
  | cons record' before ih =>
    refine .inr ⟨hbefore record' List.mem_cons_self, ih fun r hr => ?_⟩
    exact hbefore r (List.mem_cons_of_mem _ hr)

theorem FirstNamed.attributed (h : FirstNamed db records id) :
    Attributed db records (some id) where
  named := by
    rintro _ ⟨⟩
    exact h.exists_named
  first := fun id' h' => congrArg some (h.unique h')
  unnamed := by
    intro hnone
    obtain ⟨record, hmem, hnamed⟩ := h.exists_named
    exact absurd hnamed (hnone record hmem id)

theorem Attributed.firstNamed (h : Attributed db records (some id)) : FirstNamed db records id := by
  obtain ⟨record, hmem, hnamed⟩ := h.named id rfl
  obtain ⟨id', hfirst⟩ := exists_firstNamed ⟨record, hmem, id, hnamed⟩
  obtain rfl := Option.some.inj (h.first id' hfirst)
  exact hfirst

/-- A search ends at an element with the property or before it. Reference: none. -/
theorem find?_before_or_eq {α : Type} {p : α → Bool} {before after : List α} {a b : α}
    (hp : p a = true) (hfind : (before ++ a :: after).find? p = some b) :
    p b = true ∧ (b ∈ before ∨ b = a) := by
  refine ⟨List.find?_some hfind, ?_⟩
  rw [List.find?_append] at hfind
  cases hbefore : before.find? p with
  | some b' =>
    rw [hbefore] at hfind
    obtain rfl := Option.some.inj hfind
    exact .inl (List.mem_of_find?_eq_some hbefore)
  | none =>
    rw [hbefore, Option.none_or, List.find?_cons, hp] at hfind
    exact .inr (Option.some.inj hfind).symm

/-- Before the first record that names an app, no record reads as zero, or there is no app but the
one that is named. Reference: `transactions/transactions_service.go:1293
getAppIdFromCustomRecords`. -/
def ZeroHarmless (db : DB) (records : List TLVRecord) : Prop :=
  ∀ before record after, records = before ++ record :: after → record.Names 0 →
    (∃ record' ∈ before, ∃ id, record'.NamesApp db id) ∨
      ∀ app ∈ db.apps, FirstNamed db records app.id

/-- The lookup attributes a keysend exactly where no zero comes first. Reference:
`transactions/transactions_service.go:1279 getAppIdFromCustomRecords`. -/
theorem keysend_attribution_iff (W : World) (s : Hub) (records : List TLVRecord)
    (hids : ∀ app ∈ s.db.apps, app.id < 2 ^ 64) :
    (∀ answer s', (getAppIdFromCustomRecords records).Runs (execAnswering W) s answer s' →
      s' = s ∧ Attributed s.db records answer) ↔ ZeroHarmless s.db records := by
  constructor
  · rintro hall before record after rfl hzero
    by_cases hbefore : ∃ record' ∈ before, ∃ id, record'.NamesApp s.db id
    · exact .inl hbefore
    refine .inr fun app happ => (hall (some app.id) s (runs_getAppId.2 ⟨rfl, ?_⟩)).2.firstNamed
    have htakes : app ∈ record.takes s.db := by rwa [TLVRecord.takes_of_zero hzero]
    split
    · next record₀ hfind =>
      refine ⟨app, ?_, rfl⟩
      have hhit : decide (record.takes s.db ≠ []) = true :=
        decide_eq_true (List.ne_nil_of_mem htakes)
      obtain ⟨hne, hwhere⟩ := find?_before_or_eq
        (p := fun r : TLVRecord => decide (r.takes s.db ≠ [])) hhit hfind
      -- the first record with a hit reads as zero too
      rcases hwhere with hmem | rfl
      · obtain ⟨app₀, happ₀⟩ := List.exists_mem_of_ne_nil _ (of_decide_eq_true hne)
        rcases TLVRecord.namesApp_or_zero happ₀ with hnames | hzero₀
        · exact absurd ⟨record₀, hmem, app₀.id, hnames⟩ hbefore
        · rwa [TLVRecord.takes_of_zero hzero₀]
      · exact htakes
    · next hfind =>
      have hno := List.find?_eq_none.1 hfind record (List.mem_append_right _ List.mem_cons_self)
      exact absurd (decide_eq_true (List.ne_nil_of_mem htakes)) hno
  · intro hharmless answer s' hruns
    obtain ⟨rfl, hanswer⟩ := runs_getAppId.1 hruns
    refine ⟨rfl, ?_⟩
    split at hanswer
    · next record hfind =>
      obtain ⟨app, happ, rfl⟩ := hanswer
      obtain ⟨-, before, after, rfl, hbefore⟩ := List.find?_eq_some_iff_append.1 hfind
      have hnone : ∀ record' ∈ before, ∀ id', ¬ record'.NamesApp s'.db id' := by
        intro record' hmem id' hnamed
        have h := hbefore record' hmem
        simp [hnamed.takes_ne hids] at h
      rcases TLVRecord.namesApp_or_zero happ with hnames | hzero
      · exact (firstNamed_append hnames hnone).attributed
      · rcases hharmless before record after rfl hzero with ⟨record', hmem, id', hnamed⟩ | hall
        · exact absurd hnamed (hnone record' hmem id')
        · have hmem : app ∈ s'.db.apps := by rwa [TLVRecord.takes_of_zero hzero] at happ
          exact (hall app hmem).attributed
    · next hfind =>
      obtain rfl := hanswer
      have hnone : ∀ record ∈ records, ∀ id, ¬ record.NamesApp s'.db id := by
        intro record hmem id hnamed
        exact List.find?_eq_none.1 hfind record hmem (decide_eq_true (hnamed.takes_ne hids))
      refine ⟨nofun, fun id hfirst => ?_, fun _ => rfl⟩
      obtain ⟨record, hmem, hnamed⟩ := hfirst.exists_named
      exact absurd hnamed (hnone record hmem id)

end

/-- A hub with the apps 1 and 2. Reference: `tests/create_test_service.go`. -/
def demoAppsHub : Hub := ⟨demoDB .empty, []⟩

theorem keysend_attribution_second :
    (∀ answer s', (getAppIdFromCustomRecords [⟨696969, "32"⟩]).Runs (execAnswering demo) demoAppsHub
      answer s' → s' = demoAppsHub ∧ Attributed demoAppsHub.db [⟨696969, "32"⟩] answer) ↔
    ZeroHarmless demoAppsHub.db [⟨696969, "32"⟩] :=
  keysend_attribution_iff demo demoAppsHub _ (by decide)

/-- A record that reads as zero sends a keysend to the first app, which it does not name.
Reference: `transactions/transactions_service.go:1293 getAppIdFromCustomRecords`. -/
theorem zero_record_takes_first_app :
    (getAppIdFromCustomRecords [⟨696969, "30"⟩]).Runs (execAnswering demo) demoAppsHub (some 1)
      demoAppsHub ∧ ¬ Attributed demoAppsHub.db [⟨696969, "30"⟩] (some 1) := by
  refine ⟨⟨{}, _, demoAppsHub, rfl, rfl, rfl⟩, fun h => ?_⟩
  obtain ⟨record, hmem, ⟨-, bytes, hbytes, -, -, hvalue⟩, -⟩ := h.named 1 rfl
  obtain rfl := List.mem_singleton.1 hmem
  obtain rfl := Option.some.inj hbytes
  exact absurd hvalue (by decide)

end AlbyHub
