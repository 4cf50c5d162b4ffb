import AlbyHub.Go.Float64
import AlbyHub.Go.Text
import Mathlib.Data.List.Sort
import Mathlib.Data.String.Basic

/-!
# JSON values and what a decoder makes of them

`JsonValue` is what a JSON text says: its numbers are exact, and the keys of its objects are sorted,
since their order says nothing. `decode` is the value in memory, whose numbers are `float64`s, and
`encode` what the text of a value in memory says. A value comes back from the round trip if and only
if each of its numbers does (`JsonValue.encode_decode`), and what was encoded once comes back
(`JsonValue.decode_stable`).
-/

namespace Go

/-- The value that a JSON text denotes. Reference: Go `encoding/json`. -/
inductive JsonValue where
  | null
  | bool (b : Bool)
  | number (q : ℚ)
  | string (s : String)
  | array (items : List JsonValue)
  | object (fields : List (String × JsonValue))

/-- The fields in the order of their keys. Reference: Go `encoding/json`, `mapEncoder`. -/
def byKey {α : Type} (a b : String × α) : Prop := a.1 ≤ b.1

instance {α : Type} : DecidableRel (byKey (α := α)) := fun a b =>
  inferInstanceAs (Decidable (a.1 ≤ b.1))

instance {α : Type} : Std.Total (byKey (α := α)) := ⟨fun a b => le_total a.1 b.1⟩

instance {α : Type} : IsTrans (String × α) byKey := ⟨fun _ _ _ h h' => le_trans h h'⟩

/-- The fields sorted by their keys. Reference: Go `encoding/json`, `mapEncoder`. -/
def sortFields {α : Type} (fields : List (String × α)) : List (String × α) :=
  fields.insertionSort byKey

mutual

/-- The value in memory; a number that overflows is an error. Reference: Go `json.Unmarshal` into an
`interface{}`. -/
def JsonValue.decode : JsonValue → Option Json
  | .null => some .null
  | .bool b => some (.bool b)
  | .number q => (parseFloat q).map fun f => .number f.num f.den
  | .string s => some (.string s)
  | .array items => (decodeItems items).map .array
  | .object fields => (decodeFields fields).map .object

/-- Reference: Go `encoding/json`, `arrayInterface`. -/
def decodeItems : List JsonValue → Option (List Json)
  | [] => some []
  | item :: items => do
    let item ← item.decode
    let items ← decodeItems items
    return item :: items

/-- Reference: Go `encoding/json`, `objectInterface`. -/
def decodeFields : List (String × JsonValue) → Option (List (String × Json))
  | [] => some []
  | (key, value) :: fields => do
    let value ← value.decode
    let fields ← decodeFields fields
    return (key, value) :: fields

end

mutual

/-- What the text of a value in memory denotes. Reference: Go `json.Marshal`. -/
def Json.encode : Json → JsonValue
  | .null => .null
  | .bool b => .bool b
  | .number numerator denominator => .number (shortest (numerator / denominator))
  | .string s => .string s
  | .array items => .array (encodeItems items)
  | .object fields => .object (sortFields (encodeFields fields))

/-- Reference: Go `encoding/json`, `arrayEncoder`. -/
def encodeItems : List Json → List JsonValue
  | [] => []
  | item :: items => item.encode :: encodeItems items

/-- Reference: Go `encoding/json`, `mapEncoder`. -/
def encodeFields : List (String × Json) → List (String × JsonValue)
  | [] => []
  | (key, value) :: fields => (key, value.encode) :: encodeFields fields

end

mutual

/-- The keys of every object are sorted, without duplicates. Reference: none. -/
def JsonValue.Sorted : JsonValue → Prop
  | .array items => SortedItems items
  | .object fields => (fields.map (·.1)).Pairwise (· < ·) ∧ SortedValues fields
  | _ => True

/-- Reference: none. -/
def SortedItems : List JsonValue → Prop
  | [] => True
  | item :: items => item.Sorted ∧ SortedItems items

/-- Reference: none. -/
def SortedValues : List (String × JsonValue) → Prop
  | [] => True
  | (_, value) :: fields => value.Sorted ∧ SortedValues fields

end

mutual

/-- Every number is printed as it was written. Reference: none. -/
def JsonValue.Exact : JsonValue → Prop
  | .number q => RoundTrips q
  | .array items => ExactItems items
  | .object fields => ExactValues fields
  | _ => True

/-- Reference: none. -/
def ExactItems : List JsonValue → Prop
  | [] => True
  | item :: items => item.Exact ∧ ExactItems items

/-- Reference: none. -/
def ExactValues : List (String × JsonValue) → Prop
  | [] => True
  | (_, value) :: fields => value.Exact ∧ ExactValues fields

end

section
variable {α β : Type} {fields fields' : List (String × α)} {values : List (String × JsonValue)}
variable {memory : List (String × Json)}

/-! ## Sorted fields -/

theorem sortFields_of_sorted (h : (fields.map (·.1)).Pairwise (· < ·)) :
    sortFields fields = fields :=
  List.Pairwise.insertionSort_eq ((List.pairwise_map.1 h).imp fun hlt => le_of_lt hlt)

theorem sortFields_perm (fields : List (String × α)) : (sortFields fields).Perm fields :=
  List.perm_insertionSort _ _

/-- Without duplicate keys the sorted keys increase. Reference: none. -/
theorem sortFields_pairwise (h : (fields.map (·.1)).Nodup) :
    ((sortFields fields).map (·.1)).Pairwise (· < ·) := by
  have hle : ((sortFields fields).map (·.1)).Pairwise (· ≤ ·) :=
    List.pairwise_map.2 (List.pairwise_insertionSort byKey fields)
  have hnodup : ((sortFields fields).map (·.1)).Nodup :=
    ((sortFields_perm fields).map _).nodup_iff.2 h
  exact (hle.and hnodup).imp fun ⟨hab, hne⟩ => lt_of_le_of_ne hab hne

/-- The order of the fields says nothing. Reference: Go `encoding/json`, `mapEncoder`. -/
theorem sortFields_congr (h : (fields.map (·.1)).Nodup) (hp : fields.Perm fields') :
    sortFields fields = sortFields fields' := by
  have h' : (fields'.map (·.1)).Nodup := (hp.map _).nodup_iff.1 h
  have hlt := List.pairwise_map.1 (sortFields_pairwise h)
  have hlt' := List.pairwise_map.1 (sortFields_pairwise h')
  refine List.Perm.eq_of_pairwise (fun a b _ _ hab hba => ?_) hlt hlt'
    ((sortFields_perm fields).trans (hp.trans (sortFields_perm fields').symm))
  exact absurd (lt_trans hab hba) (lt_irrefl _)

theorem sortFields_map {f : α → β} : sortFields (fields.map fun p => (p.1, f p.2)) =
    (sortFields fields).map fun p => (p.1, f p.2) :=
  (List.map_insertionSort byKey byKey (fun p => (p.1, f p.2)) fields fun _ _ _ _ => Iff.rfl).symm

/-! ## The round trip -/

theorem encodeFields_eq (memory : List (String × Json)) :
    encodeFields memory = memory.map fun p => (p.1, p.2.encode) := by
  induction memory with
  | nil => rfl
  | cons p memory ih => rw [encodeFields, ih, List.map_cons]

theorem encodeFields_keys : (encodeFields memory).map (·.1) = memory.map (·.1) := by
  rw [encodeFields_eq, List.map_map]
  rfl

theorem decodeFields_cons {key : String} {value : JsonValue}
    (h : decodeFields ((key, value) :: values) = some memory) :
    ∃ j js, value.decode = some j ∧ decodeFields values = some js ∧ memory = (key, j) :: js := by
  rw [decodeFields] at h
  obtain ⟨j, hj, h⟩ := Option.bind_eq_some_iff.1 h
  obtain ⟨js, hjs, h⟩ := Option.bind_eq_some_iff.1 h
  exact ⟨j, js, hj, hjs, (Option.some.inj h).symm⟩

theorem decodeItems_cons {item : JsonValue} {items : List JsonValue} {js : List Json}
    (h : decodeItems (item :: items) = some js) :
    ∃ j js', item.decode = some j ∧ decodeItems items = some js' ∧ js = j :: js' := by
  rw [decodeItems] at h
  obtain ⟨j, hj, h⟩ := Option.bind_eq_some_iff.1 h
  obtain ⟨js', hjs, h⟩ := Option.bind_eq_some_iff.1 h
  exact ⟨j, js', hj, hjs, (Option.some.inj h).symm⟩

/-- The decoder keeps the keys. Reference: Go `encoding/json`, `objectInterface`. -/
theorem decodeFields_keys (h : decodeFields values = some memory) :
    memory.map (·.1) = values.map (·.1) := by
  induction values generalizing memory with
  | nil =>
    cases h
    rfl
  | cons p values ih =>
    obtain ⟨j, js, -, hjs, rfl⟩ := decodeFields_cons h
    rw [List.map_cons, List.map_cons, ih hjs]

end

mutual

/-- A value is what it was after the round trip exactly when its numbers are. Reference: Go
`encoding/json`. -/
theorem JsonValue.encode_decode : ∀ {v : JsonValue} {j : Json}, v.Sorted → v.decode = some j →
    (j.encode = v ↔ v.Exact)
  | .null, _, _, h | .bool _, _, _, h | .string _, _, _, h => by
    cases h
    exact iff_of_true rfl trivial
  | .number q, _, _, h => by
    obtain ⟨f, hf, rfl⟩ := Option.map_eq_some_iff.1 h
    rw [Json.encode, Rat.num_div_den, JsonValue.number.injEq, JsonValue.Exact, RoundTrips, hf]
    simp
  | .array items, _, hs, h => by
    obtain ⟨js, hjs, rfl⟩ := Option.map_eq_some_iff.1 h
    rw [Json.encode, JsonValue.array.injEq]
    exact encodeItems_decodeItems hs hjs
  | .object fields, _, hs, h => by
    obtain ⟨js, hjs, rfl⟩ := Option.map_eq_some_iff.1 h
    have hkeys : ((encodeFields js).map (·.1)).Pairwise (· < ·) := by
      rw [encodeFields_keys, decodeFields_keys hjs]
      exact hs.1
    rw [Json.encode, JsonValue.object.injEq, sortFields_of_sorted hkeys]
    exact encodeFields_decodeFields hs.2 hjs

theorem encodeItems_decodeItems : ∀ {items : List JsonValue} {js : List Json},
    SortedItems items → decodeItems items = some js → (encodeItems js = items ↔ ExactItems items)
  | [], _, _, h => by
    cases h
    exact iff_of_true rfl trivial
  | _ :: _, _, hs, h => by
    obtain ⟨j, js, hj, hjs, rfl⟩ := decodeItems_cons h
    rw [encodeItems, List.cons.injEq, ExactItems, JsonValue.encode_decode hs.1 hj,
      encodeItems_decodeItems hs.2 hjs]

theorem encodeFields_decodeFields : ∀ {values : List (String × JsonValue)}
    {memory : List (String × Json)}, SortedValues values → decodeFields values = some memory →
    (encodeFields memory = values ↔ ExactValues values)
  | [], _, _, h => by
    cases h
    exact iff_of_true rfl trivial
  | (key, _) :: _, _, hs, h => by
    obtain ⟨j, js, hj, hjs, rfl⟩ := decodeFields_cons h
    rw [encodeFields, List.cons.injEq, ExactValues, ← JsonValue.encode_decode hs.1 hj,
      ← encodeFields_decodeFields hs.2 hjs]
    simp

end

/-- A value in memory that its text gives back. Reference: none. -/
structure Json.Stable (j : Json) : Prop where
  sorted : j.encode.Sorted
  decode : j.encode.decode = some j

section
variable {memory : List (String × Json)} {values : List (String × JsonValue)}

theorem sortedValues_iff : SortedValues values ↔ ∀ p ∈ values, p.2.Sorted := by
  induction values with
  | nil => exact iff_of_true trivial nofun
  | cons p values ih => rw [SortedValues, ih, List.forall_mem_cons]

/-- Without duplicate keys a key has one value. Reference: none. -/
theorem eq_of_key {α : Type} {fields : List (String × α)} {key : String} {a b : α}
    (h : (fields.map (·.1)).Nodup) (ha : (key, a) ∈ fields) (hb : (key, b) ∈ fields) : a = b :=
  congrArg (·.2) (List.inj_on_of_nodup_map h ha hb rfl)

theorem mem_encodeFields {key : String} {v : JsonValue} :
    (key, v) ∈ encodeFields memory ↔ ∃ j, (key, j) ∈ memory ∧ v = j.encode := by
  rw [encodeFields_eq, List.mem_map]
  constructor
  · rintro ⟨⟨key, j⟩, hj, he⟩
    cases he
    exact ⟨j, hj, rfl⟩
  · rintro ⟨j, hj, rfl⟩
    exact ⟨_, hj, rfl⟩

/-- A field is decoded. Reference: Go `encoding/json`, `objectInterface`. -/
theorem exists_decoded (h : decodeFields values = some memory) {key : String} {v : JsonValue}
    (hv : (key, v) ∈ values) : ∃ j, (key, j) ∈ memory ∧ v.decode = some j := by
  induction values generalizing memory with
  | nil => cases hv
  | cons p values ih =>
    obtain ⟨j, js, hj, hjs, rfl⟩ := decodeFields_cons h
    rcases List.mem_cons.1 hv with rfl | hv
    · exact ⟨j, List.mem_cons_self, hj⟩
    · obtain ⟨j', hj', hd⟩ := ih hjs hv
      exact ⟨j', List.mem_cons_of_mem _ hj', hd⟩

/-- A decoded field comes from one. Reference: Go `encoding/json`, `objectInterface`. -/
theorem of_mem_decoded (h : decodeFields values = some memory) {key : String} {j : Json}
    (hj : (key, j) ∈ memory) : ∃ v, (key, v) ∈ values ∧ v.decode = some j := by
  induction values generalizing memory with
  | nil =>
    cases h
    cases hj
  | cons p values ih =>
    obtain ⟨j₀, js, hj₀, hjs, rfl⟩ := decodeFields_cons h
    rcases List.mem_cons.1 hj with he | hj
    · cases he
      exact ⟨p.2, List.mem_cons_self, hj₀⟩
    · obtain ⟨v, hv, hd⟩ := ih hjs hj
      exact ⟨v, List.mem_cons_of_mem _ hv, hd⟩

theorem decodeFields_encodeFields (h : ∀ p ∈ memory, p.2.Stable) :
    decodeFields (encodeFields memory) = some memory := by
  induction memory with
  | nil => rfl
  | cons p memory ih =>
    obtain ⟨hp, hrest⟩ := List.forall_mem_cons.1 h
    rw [encodeFields, decodeFields, hp.decode, ih hrest]
    rfl

/-- The fields of a map that is written and read again. Reference: Go `encoding/json`. -/
theorem decodeFields_sortFields (h : ∀ p ∈ memory, p.2.Stable) :
    decodeFields (sortFields (encodeFields memory)) = some (sortFields memory) := by
  rw [encodeFields_eq, sortFields_map, ← encodeFields_eq]
  exact decodeFields_encodeFields fun p hp => h p ((sortFields_perm memory).mem_iff.1 hp)

theorem sorted_object (hkeys : (memory.map (·.1)).Nodup) (h : ∀ p ∈ memory, p.2.Stable) :
    (JsonValue.object (sortFields (encodeFields memory))).Sorted := by
  refine ⟨sortFields_pairwise (by rwa [encodeFields_keys]), sortedValues_iff.2 fun p hp => ?_⟩
  rw [(sortFields_perm _).mem_iff, encodeFields_eq] at hp
  obtain ⟨q, hq, rfl⟩ := List.mem_map.1 hp
  exact (h q hq).sorted

end

mutual

/-- What was decoded is given back by its text. Reference: Go `encoding/json`. -/
theorem JsonValue.decode_stable : ∀ {v : JsonValue} {j : Json}, v.Sorted → v.decode = some j →
    j.Stable
  | .null, _, _, h | .bool _, _, _, h | .string _, _, _, h => by
    cases h
    exact ⟨trivial, rfl⟩
  | .number q, _, _, h => by
    obtain ⟨f, hf, rfl⟩ := Option.map_eq_some_iff.1 h
    refine ⟨trivial, ?_⟩
    rw [Json.encode, Rat.num_div_den, JsonValue.decode, parseFloat_shortest hf]
    rfl
  | .array items, _, hs, h => by
    obtain ⟨js, hjs, rfl⟩ := Option.map_eq_some_iff.1 h
    obtain ⟨hsorted, hdecode⟩ := decodeItems_stable hs hjs
    refine ⟨hsorted, ?_⟩
    rw [Json.encode, JsonValue.decode, hdecode]
    rfl
  | .object fields, _, hs, h => by
    obtain ⟨js, hjs, rfl⟩ := Option.map_eq_some_iff.1 h
    have hstable := decodeFields_stable hs.2 hjs
    have hkeys : (js.map (·.1)).Pairwise (· < ·) := by
      rw [decodeFields_keys hjs]
      exact hs.1
    refine ⟨sorted_object (hkeys.imp ne_of_lt) hstable, ?_⟩
    rw [Json.encode, JsonValue.decode, decodeFields_sortFields hstable, sortFields_of_sorted hkeys]
    rfl

theorem decodeItems_stable : ∀ {items : List JsonValue} {js : List Json},
    SortedItems items → decodeItems items = some js →
    SortedItems (encodeItems js) ∧ decodeItems (encodeItems js) = some js
  | [], _, _, h => by
    cases h
    exact ⟨trivial, rfl⟩
  | _ :: _, _, hs, h => by
    obtain ⟨j, js, hj, hjs, rfl⟩ := decodeItems_cons h
    have hstable := JsonValue.decode_stable hs.1 hj
    obtain ⟨hsorted, hdecode⟩ := decodeItems_stable hs.2 hjs
    refine ⟨⟨hstable.sorted, hsorted⟩, ?_⟩
    rw [encodeItems, decodeItems, hstable.decode, hdecode]
    rfl

theorem decodeFields_stable : ∀ {values : List (String × JsonValue)}
    {memory : List (String × Json)}, SortedValues values → decodeFields values = some memory →
    ∀ p ∈ memory, p.2.Stable
  | [], _, _, h => by
    cases h
    exact nofun
  | (key, _) :: _, _, hs, h => by
    obtain ⟨j, js, hj, hjs, rfl⟩ := decodeFields_cons h
    exact List.forall_mem_cons.2 ⟨JsonValue.decode_stable hs.1 hj, decodeFields_stable hs.2 hjs⟩

end

end Go
