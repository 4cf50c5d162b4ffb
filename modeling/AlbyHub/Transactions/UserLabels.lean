import AlbyHub.Go.JsonValue
import AlbyHub.Transactions.Events

/-!
# The labels of a user

A call sets the labels under `user_labels` of the row's metadata, and writes all of the metadata
back. The map of the labels comes in any order, so where two keys are trimmed to one the last value
wins; and the rest of the metadata makes a round trip through the decoder and the encoder, which
changes a number that a `float64` does not hold. `labels_replace_iff` says that these are the only
ways in which the call is not a replacement of the labels.
-/

namespace AlbyHub

open Go Interaction

/-- What is relied on of the JSON texts in the database: the object that a text denotes, and that
the decoder and the encoder work on it. Reference: Go `encoding/json`. -/
structure JsonTexts (W : World) where
  value : String → Option (List (String × JsonValue))
  sorted : ∀ {text fields}, value text = some fields → (JsonValue.object fields).Sorted
  unmarshal : ∀ {text fields memory}, value text = some fields →
    decodeFields fields = some memory → W.unmarshal text = (some memory, none)
  refused : ∀ {text fields}, value text = some fields → decodeFields fields = none →
    ∃ memory e, W.unmarshal text = (memory, some e)
  marshal : ∀ {memory text}, (JsonValue.object (sortFields (encodeFields memory))).Sorted →
    W.marshal (.object memory) = .ok text → value text = some (sortFields (encodeFields memory))
  empty : value "" = none
  canonical : ∀ {memory memory'},
    sortFields (encodeFields memory) = sortFields (encodeFields memory') →
    W.marshal (.object memory) = W.marshal (.object memory')

/-- The object that the metadata of a row denotes; without metadata it is empty. Reference:
`transactions/transactions_service.go:1441 SetTransactionUserLabels`. -/
def JsonTexts.fields {W : World} (J : JsonTexts W) (metadata : String) :
    Option (List (String × JsonValue)) :=
  if metadata = "" then some [] else J.value metadata

/-- The metadata with the labels in place of those that were there. Reference:
`transactions/transactions_service.go:1458 SetTransactionUserLabels`. -/
def withLabels (labels : List (String × String)) (memory : List (String × Json)) :
    List (String × Json) :=
  let others := memory.filter (·.1 ≠ "user_labels")
  if sanitizedLabels labels = [] then others
  else others ++ [("user_labels", .object (sanitizedLabels labels))]

/-- The text that is to be written. Reference: `transactions/transactions_service.go:1440
SetTransactionUserLabels`. -/
def labelledMetadata (W : World) (metadata : String) (labels : List (String × String)) :
    Except Err String :=
  match existingMetadata W metadata with
  | .error e => .error e
  | .ok none =>
    if sanitizedLabels labels = [] then .ok "null"
    else .error (.message "assignment to entry in nil map")
  | .ok (some memory) => encodeMetadata W "invoice" (some (withLabels labels memory))

/-- The hub with another metadata text in a row. Reference:
`transactions/transactions_service.go:1421 SetTransactionMetadata`. -/
def Hub.withMetadata (s : Hub) (id : Nat) (text : String) : Hub where
  db := s.db.withTransactions (s.db.transactions.update id (metadataUpdate text))
  published := s.published

/-- A label that is dropped. Reference: `transactions/transactions_service.go:1452
SetTransactionUserLabels`. -/
def BlankLabel (label : String × String) : Prop := trimSpace label.1 = "" ∨ trimSpace label.2 = ""

/-- Keys that are trimmed to one have values that are trimmed to one. Reference:
`transactions/transactions_service.go:1450 SetTransactionUserLabels`. -/
def NoClash (labels : List (String × String)) : Prop :=
  ∀ a ∈ labels, ∀ b ∈ labels, ¬ BlankLabel a → ¬ BlankLabel b → trimSpace a.1 = trimSpace b.1 →
    trimSpace a.2 = trimSpace b.2

/-- The call that sets the labels, with the map in the order of the list. Reference:
`transactions/transactions_service.go:1430 SetTransactionUserLabels`. -/
abbrev SetsLabels (W : World) (s : Hub) (id : Nat) (labels : List (String × String))
    (r : Except Err Unit) (s' : Hub) : Prop :=
  (SetTransactionUserLabels W id labels).Runs (exec W) s r s'

/-- The call replaces the labels of the row, whose metadata has the fields, by the map of the
labels: what it stores does not depend on the order of the map, to set the labels again changes
nothing, without a label to keep there is none, the other fields have the values that they had, and
on an error nothing is changed. Reference: `transactions/transactions_service.go:1430
SetTransactionUserLabels`. -/
structure ReplacesLabels {W : World} (J : JsonTexts W) (s : Hub) (row : Transaction)
    (fields : List (String × JsonValue)) (labels : List (String × String)) : Prop where
  order : ∀ l l', l.Perm labels → l'.Perm labels → ∀ s', SetsLabels W s row.id l (.ok ()) s' →
    SetsLabels W s row.id l' (.ok ()) s'
  again : ∀ l l', l.Perm labels → l'.Perm labels → ∀ s', SetsLabels W s row.id l (.ok ()) s' →
    SetsLabels W s' row.id l' (.ok ()) s' ∧ ∀ r s'', SetsLabels W s' row.id l' r s'' → s'' = s'
  stored : ∀ l, l.Perm labels → ∀ s', SetsLabels W s row.id l (.ok ()) s' →
    ∃ text new, s' = s.withMetadata row.id text ∧ J.fields text = some new ∧
      ((∀ label ∈ labels, BlankLabel label) → ∀ value, ("user_labels", value) ∉ new) ∧
      ∀ key value, key ≠ "user_labels" → ((key, value) ∈ new ↔ (key, value) ∈ fields)
  failed : ∀ l, l.Perm labels → ∀ e s', SetsLabels W s row.id l (.error e) s' → s' = s

section
variable {W : World} {s s' : Hub} {row : Transaction} {labels l l' : List (String × String)}
variable {metadata text : String} {id : Nat}

/-! ## What a call does -/

/-- The end of a call that has found the row. Reference:
`transactions/transactions_service.go:1464 SetTransactionUserLabels`. -/
def writeLabelled (W : World) (id : Nat) (metadata : String) (labels : List (String × String)) :
    Svc (Except Err Unit) :=
  match labelledMetadata W metadata labels with
  | .error e => return .error e
  | .ok text => ask (.updateMetadata id text)

theorem setTransactionUserLabels_eq (h : id ≠ 0) :
    SetTransactionUserLabels W id labels = (do
      match ← ask (.find { id } .none) with
      | .error e => return .error e
      | .ok none => return .error .notFound
      | .ok (some row) => writeLabelled W id row.metadata labels) := by
  unfold SetTransactionUserLabels
  rw [if_neg h]
  refine congrArg _ (funext fun a => ?_)
  match a with
  | .error e => rfl
  | .ok none => rfl
  | .ok (some row) =>
    simp only [writeLabelled, labelledMetadata]
    cases existingMetadata W row.metadata with
    | error e => rfl
    | ok found =>
      cases found with
      | none => by_cases hnone : sanitizedLabels labels = [] <;> simp [hnone]
      | some memory => rfl

theorem runs_writeLabelled {r : Except Err Unit}
    (h : (writeLabelled W id metadata labels).Runs (exec W) s r s') :
    (∃ e, r = .error e) ∧ s' = s ∨ ∃ text, labelledMetadata W metadata labels = .ok text ∧
      r = .ok () ∧ s' = s.withMetadata id text := by
  unfold writeLabelled at h
  split at h
  · obtain ⟨rfl, rfl⟩ := h
    exact .inl ⟨⟨_, rfl⟩, rfl⟩
  · next text htext =>
    obtain ⟨env, hx⟩ := Prog.runs_call.1 h
    rcases Hub.transaction_cases hx with ⟨_, rfl, rfl⟩ | ⟨_, hb, _⟩ | ⟨_, _, hb, rfl, rfl⟩
    · exact .inl ⟨⟨_, rfl⟩, rfl⟩
    · cases hb
    · cases hb
      refine .inr ⟨text, htext, rfl, ?_⟩
      rw [Hub.withMetadata, List.append_nil]

/-- A call fails and changes nothing, or writes the labelled metadata. Reference:
`transactions/transactions_service.go:1430 SetTransactionUserLabels`. -/
theorem runs_setTransactionUserLabels {r : Except Err Unit} (h : SetsLabels W s id labels r s') :
    (∃ e, r = .error e) ∧ s' = s ∨ ∃ row ∈ s.db.transactions.rows, row.id = id ∧
      ∃ text, labelledMetadata W row.metadata labels = .ok text ∧ r = .ok () ∧
        s' = s.withMetadata id text := by
  by_cases hid : id = 0
  · unfold SetsLabels SetTransactionUserLabels at h
    rw [if_pos hid] at h
    obtain ⟨rfl, rfl⟩ := h
    exact .inl ⟨⟨_, rfl⟩, rfl⟩
  · rw [SetsLabels, setTransactionUserLabels_eq hid] at h
    obtain ⟨env, a, s₁, hx, hrest⟩ := Prog.runs_call_bind.1 h
    obtain ⟨rfl, ⟨e, rfl⟩ | rfl⟩ := Hub.read_eq hx
    · obtain ⟨rfl, rfl⟩ := hrest
      exact .inl ⟨⟨_, rfl⟩, rfl⟩
    · cases hfind : pick env.pick (Order.none.first (s₁.db.transactions.select { id })) with
      | none =>
        rw [hfind] at hrest
        obtain ⟨rfl, rfl⟩ := hrest
        exact .inl ⟨⟨_, rfl⟩, rfl⟩
      | some row =>
        rw [hfind] at hrest
        obtain ⟨hmem, hm⟩ := Table.mem_select.1 (mem_of_pick hfind)
        exact (runs_writeLabelled hrest).imp_right fun hw =>
          ⟨row, hmem, hm.1.resolve_left hid, hw⟩

/-- A call can write the labelled metadata. Reference: `transactions/transactions_service.go:1430
SetTransactionUserLabels`. -/
theorem exists_runs_setTransactionUserLabels (hr : row ∈ s.db.transactions.rows)
    (ht : labelledMetadata W row.metadata labels = .ok text) :
    SetsLabels W s row.id labels (.ok ()) (s.withMetadata row.id text) := by
  have hpos := s.db.transactions.id_pos row hr
  have hid : row.id ≠ 0 := Nat.pos_iff_ne_zero.1 hpos
  have hmem : row ∈ s.db.transactions.select { id := row.id } :=
    Table.mem_select.2 ⟨hr, by simp [Where.Matches]⟩
  obtain ⟨n, hn⟩ := exists_pick hmem
  rw [SetsLabels, setTransactionUserLabels_eq hid]
  refine Prog.runs_call_bind.2 ⟨{ pick := n }, .ok (some row), s, ?_, ?_⟩
  · simp [exec, Hub.read, Order.first, hn]
  · simp only [writeLabelled, ht]
    refine Prog.runs_call.2 ⟨{}, ?_⟩
    simp [exec, Hub.transaction, Hub.withMetadata]

/-! ## The labels that are kept -/

theorem sanitizedLabels_concat (l : List (String × String)) (label : String × String) :
    sanitizedLabels (l ++ [label]) =
      if trimSpace label.1 = "" ∨ trimSpace label.2 = "" then sanitizedLabels l
      else (sanitizedLabels l).filter (·.1 ≠ trimSpace label.1) ++
        [(trimSpace label.1, .string (trimSpace label.2))] := by
  unfold sanitizedLabels
  rw [List.foldl_append]
  rfl

/-- The kept keys are distinct. Reference: Go maps. -/
theorem sanitizedLabels_nodup (l : List (String × String)) :
    ((sanitizedLabels l).map (·.1)).Nodup := by
  induction l using List.reverseRecOn with
  | nil => exact List.nodup_nil
  | append_singleton l label ih =>
    rw [sanitizedLabels_concat]
    split
    · exact ih
    · rw [List.map_append, List.nodup_append]
      refine ⟨ih.sublist (List.filter_sublist.map _), List.nodup_singleton _, ?_⟩
      intro a ha b hb
      obtain ⟨p, hp, rfl⟩ := List.mem_map.1 ha
      rw [List.map_singleton, List.mem_singleton] at hb
      rw [hb]
      simpa using (List.mem_filter.1 hp).2

/-- A kept label is one of the map, trimmed and not blank. Reference:
`transactions/transactions_service.go:1448 SetTransactionUserLabels`. -/
theorem of_mem_sanitizedLabels {key : String} {value : Json}
    (h : (key, value) ∈ sanitizedLabels labels) : ∃ label ∈ labels, ¬ BlankLabel label ∧
      key = trimSpace label.1 ∧ value = .string (trimSpace label.2) := by
  induction labels using List.reverseRecOn with
  | nil => cases h
  | append_singleton l label ih =>
    have hold : (key, value) ∈ sanitizedLabels l → ∃ label' ∈ l ++ [label],
        ¬ BlankLabel label' ∧ key = trimSpace label'.1 ∧ value = .string (trimSpace label'.2) := by
      intro hmem
      obtain ⟨label', hl, hrest⟩ := ih hmem
      exact ⟨label', List.mem_append_left _ hl, hrest⟩
    rw [sanitizedLabels_concat] at h
    split at h
    · exact hold h
    · next hblank =>
      rcases List.mem_append.1 h with h | h
      · exact hold (List.mem_filter.1 h).1
      · cases List.mem_singleton.1 h
        exact ⟨label, List.mem_append_right _ (List.mem_singleton.2 rfl), hblank, rfl, rfl⟩

/-- Without a clash every label that is not blank is kept, in any order of the map. Reference:
`transactions/transactions_service.go:1448 SetTransactionUserLabels`. -/
theorem mem_sanitizedLabels (hn : NoClash labels) {label : String × String} (hl : label ∈ labels)
    (hb : ¬ BlankLabel label) :
    (trimSpace label.1, Json.string (trimSpace label.2)) ∈ sanitizedLabels labels := by
  induction labels using List.reverseRecOn with
  | nil => cases hl
  | append_singleton l last ih =>
    have hn' : NoClash l := fun a ha b hb =>
      hn a (List.mem_append_left _ ha) b (List.mem_append_left _ hb)
    have hlast : last ∈ l ++ [last] := List.mem_append_right _ (List.mem_singleton.2 rfl)
    rw [sanitizedLabels_concat]
    split
    · next hblank =>
      rcases List.mem_append.1 hl with hl' | hl'
      · exact ih hn' hl'
      · exact absurd (List.mem_singleton.1 hl' ▸ hblank) hb
    · next hkept =>
      by_cases hkey : trimSpace label.1 = trimSpace last.1
      · have hvalue := hn label hl last hlast hb hkept hkey
        rw [hkey, hvalue]
        exact List.mem_append_right _ (List.mem_singleton.2 rfl)
      · rcases List.mem_append.1 hl with hl' | hl'
        · exact List.mem_append_left _ (List.mem_filter.2 ⟨ih hn' hl', by simpa using hkey⟩)
        · rw [List.mem_singleton.1 hl'] at hkey
          exact absurd rfl hkey

/-- Without a clash the order of the map does not matter. Reference:
`transactions/transactions_service.go:1449 SetTransactionUserLabels`. -/
theorem sanitizedLabels_perm (hn : NoClash labels) (hl : l.Perm labels) :
    (sanitizedLabels l).Perm (sanitizedLabels labels) := by
  have hn' : NoClash l := fun a ha b hb => hn a (hl.mem_iff.1 ha) b (hl.mem_iff.1 hb)
  refine (List.perm_ext_iff_of_nodup ((sanitizedLabels_nodup l).of_map)
    ((sanitizedLabels_nodup labels).of_map)).2 fun p => ?_
  constructor
  · intro hp
    obtain ⟨label, hmem, hb, hk, hv⟩ := of_mem_sanitizedLabels hp
    have hkept := mem_sanitizedLabels hn (hl.mem_iff.1 hmem) hb
    rwa [← hk, ← hv] at hkept
  · intro hp
    obtain ⟨label, hmem, hb, hk, hv⟩ := of_mem_sanitizedLabels hp
    have hkept := mem_sanitizedLabels hn' (hl.mem_iff.2 hmem) hb
    rwa [← hk, ← hv] at hkept

/-! ## The metadata with the labels -/

/-- The fields that are written, with the labels sorted. Reference:
`transactions/transactions_service.go:1458 SetTransactionUserLabels`, `json.Marshal`. -/
def withSortedLabels (labels : List (String × String)) (memory : List (String × Json)) :
    List (String × Json) :=
  memory.filter (·.1 ≠ "user_labels") ++ if sanitizedLabels labels = [] then []
    else [("user_labels", .object (sortFields (sanitizedLabels labels)))]

theorem encodeFields_append (a b : List (String × Json)) :
    encodeFields (a ++ b) = encodeFields a ++ encodeFields b := by
  rw [encodeFields_eq, encodeFields_eq, encodeFields_eq, List.map_append]

/-- The text does not show in which order the labels were put into their map. Reference: Go
`encoding/json`, `mapEncoder`. -/
theorem encodeFields_withLabels (labels : List (String × String)) (memory : List (String × Json)) :
    encodeFields (withLabels labels memory) = encodeFields (withSortedLabels labels memory) := by
  unfold withLabels withSortedLabels
  by_cases hnil : sanitizedLabels labels = []
  · simp only [if_pos hnil, List.append_nil]
  · have hsort : sortFields (encodeFields (sanitizedLabels labels)) =
        sortFields (encodeFields (sortFields (sanitizedLabels labels))) := by
      rw [encodeFields_eq, encodeFields_eq]
      refine sortFields_congr ?_ ((sortFields_perm _).symm.map _)
      rw [← encodeFields_eq, encodeFields_keys]
      exact sanitizedLabels_nodup labels
    simp only [if_neg hnil, encodeFields_append]
    simp only [encodeFields, Json.encode, hsort]

variable {memory : List (String × Json)}

theorem sanitizedLabels_stable : ∀ p ∈ sanitizedLabels labels, p.2.Stable := by
  rintro ⟨key, value⟩ hp
  obtain ⟨label, -, -, -, rfl⟩ := of_mem_sanitizedLabels hp
  exact ⟨trivial, rfl⟩

/-- The object of the sorted labels is given back by its text. Reference: none. -/
theorem stable_sortedLabels : (Json.object (sortFields (sanitizedLabels labels))).Stable := by
  have hkeys := sortFields_pairwise (sanitizedLabels_nodup labels)
  have hstable : ∀ p ∈ sortFields (sanitizedLabels labels), p.2.Stable := fun p hp =>
    sanitizedLabels_stable p ((sortFields_perm _).mem_iff.1 hp)
  refine ⟨sorted_object (hkeys.imp ne_of_lt) hstable, ?_⟩
  rw [Json.encode, JsonValue.decode, decodeFields_sortFields hstable, sortFields_of_sorted hkeys]
  rfl

theorem mem_withSortedLabels {p : String × Json} : p ∈ withSortedLabels labels memory ↔
    (p ∈ memory ∧ p.1 ≠ "user_labels") ∨ sanitizedLabels labels ≠ [] ∧
      p = ("user_labels", .object (sortFields (sanitizedLabels labels))) := by
  unfold withSortedLabels
  rw [List.mem_append, List.mem_filter]
  split
  · next hnil => simp [hnil]
  · next hnil => simp [hnil]

theorem withSortedLabels_stable (h : ∀ p ∈ memory, p.2.Stable) :
    ∀ p ∈ withSortedLabels labels memory, p.2.Stable := by
  intro p hp
  rcases mem_withSortedLabels.1 hp with ⟨hp, -⟩ | ⟨-, rfl⟩
  · exact h p hp
  · exact stable_sortedLabels

theorem withSortedLabels_nodup (h : (memory.map (·.1)).Nodup) :
    ((withSortedLabels labels memory).map (·.1)).Nodup := by
  unfold withSortedLabels
  rw [List.map_append, List.nodup_append]
  refine ⟨h.sublist (List.filter_sublist.map _), ?_, ?_⟩
  · split <;> simp
  · intro a ha b hb
    obtain ⟨p, hp, rfl⟩ := List.mem_map.1 ha
    have hne : p.1 ≠ "user_labels" := by simpa using (List.mem_filter.1 hp).2
    split at hb
    · cases hb
    · rw [List.map_singleton, List.mem_singleton] at hb
      rw [hb]
      exact hne

/-- Without a clash the order of the map does not show. Reference:
`transactions/transactions_service.go:1449 SetTransactionUserLabels`. -/
theorem withSortedLabels_perm (hn : NoClash labels) (hl : l.Perm labels) :
    withSortedLabels l memory = withSortedLabels labels memory := by
  have hp := sanitizedLabels_perm hn hl
  have hnil : sanitizedLabels l = [] ↔ sanitizedLabels labels = [] := by
    constructor
    · intro he
      rw [he] at hp
      exact hp.nil_eq.symm
    · intro he
      rw [he] at hp
      exact hp.eq_nil
  unfold withSortedLabels
  rw [sortFields_congr (sanitizedLabels_nodup l) hp, if_congr hnil rfl rfl]

/-! ## One call -/

/-- The encoding of a request's metadata, where it succeeds. Reference:
`transactions/transactions_service.go:1409 SetTransactionMetadata`. -/
theorem encodeMetadata_ok {what : String} {memory : List (String × Json)}
    (h : encodeMetadata W what (some memory) = .ok text) :
    W.marshal (.object memory) = .ok text := by
  unfold encodeMetadata at h
  simp only at h
  split at h
  · cases h
  · next bytes hmarshal =>
    split at h
    · cases h
    · cases h
      exact hmarshal

variable {J : JsonTexts W} {fields new : List (String × JsonValue)}

theorem JsonTexts.fields_sorted (J : JsonTexts W) (h : J.fields metadata = some fields) :
    (JsonValue.object fields).Sorted := by
  unfold JsonTexts.fields at h
  split at h
  · cases h
    exact ⟨.nil, trivial⟩
  · exact J.sorted h

/-- What is read is the decoded object. Reference:
`transactions/transactions_service.go:1442 SetTransactionUserLabels`. -/
theorem JsonTexts.existingMetadata_eq (J : JsonTexts W) (h : J.fields metadata = some fields)
    (hd : decodeFields fields = some memory) : existingMetadata W metadata = .ok (some memory) := by
  unfold JsonTexts.fields at h
  unfold existingMetadata
  split at h
  · next hempty =>
    cases h
    cases hd
    rw [if_pos hempty]
  · next hempty =>
    rw [if_neg hempty, J.unmarshal h hd]

/-- Metadata with a number that overflows is refused. Reference:
`transactions/transactions_service.go:1443 SetTransactionUserLabels`. -/
theorem JsonTexts.refuses (J : JsonTexts W) (h : J.fields metadata = some fields)
    (hd : decodeFields fields = none) : ∃ e, labelledMetadata W metadata labels = .error e := by
  unfold JsonTexts.fields at h
  unfold labelledMetadata existingMetadata
  split at h
  · cases h
    cases hd
  · next hempty =>
    obtain ⟨_, e, he⟩ := J.refused h hd
    rw [if_neg hempty, he]
    exact ⟨_, rfl⟩

/-- The object in the memory of the call: its fields are given back by their texts, and its keys are
distinct. Reference: `transactions/transactions_service.go:1440 SetTransactionUserLabels`. -/
structure InMemory (J : JsonTexts W) (metadata : String) (fields : List (String × JsonValue))
    (memory : List (String × Json)) : Prop where
  fields_eq : J.fields metadata = some fields
  decoded : decodeFields fields = some memory

namespace InMemory

variable (m : InMemory J metadata fields memory)

include m

theorem stable : ∀ p ∈ memory, p.2.Stable :=
  decodeFields_stable (J.fields_sorted m.fields_eq).2 m.decoded

theorem nodup : (memory.map (·.1)).Nodup := by
  rw [decodeFields_keys m.decoded]
  exact (J.fields_sorted m.fields_eq).1.imp ne_of_lt

theorem labelled_eq : labelledMetadata W metadata labels =
    encodeMetadata W "invoice" (some (withLabels labels memory)) := by
  unfold labelledMetadata
  rw [J.existingMetadata_eq m.fields_eq m.decoded]

/-- The fields that are written. Reference: `transactions/transactions_service.go:1464
SetTransactionUserLabels`. -/
theorem value_eq (h : labelledMetadata W metadata labels = .ok text) :
    J.fields text = some (sortFields (encodeFields (withSortedLabels labels memory))) := by
  rw [m.labelled_eq] at h
  have hsorted := sorted_object (withSortedLabels_nodup m.nodup)
    (@withSortedLabels_stable labels memory m.stable)
  rw [← encodeFields_withLabels] at hsorted ⊢
  have hvalue := J.marshal hsorted (encodeMetadata_ok h)
  have hne : text ≠ "" := by
    rintro rfl
    rw [J.empty] at hvalue
    cases hvalue
  rw [JsonTexts.fields, if_neg hne, hvalue]

/-- What is written is read as the fields that were written. Reference:
`transactions/transactions_service.go:1442 SetTransactionUserLabels`. -/
theorem next (h : labelledMetadata W metadata labels = .ok text) :
    InMemory J text (sortFields (encodeFields (withSortedLabels labels memory)))
      (sortFields (withSortedLabels labels memory)) :=
  ⟨m.value_eq h, decodeFields_sortFields (withSortedLabels_stable m.stable)⟩

end InMemory

/-- Equal fields give equal texts. Reference: Go `json.Marshal`. -/
theorem labelled_congr {metadata' : String} {fields' : List (String × JsonValue)}
    {memory' : List (String × Json)} (m : InMemory J metadata fields memory)
    (m' : InMemory J metadata' fields' memory')
    (h : (withSortedLabels labels memory).Perm (withSortedLabels l memory')) :
    labelledMetadata W metadata labels = labelledMetadata W metadata' l := by
  have hsort : sortFields (encodeFields (withLabels labels memory)) =
      sortFields (encodeFields (withLabels l memory')) := by
    rw [encodeFields_withLabels, encodeFields_withLabels, encodeFields_eq, encodeFields_eq]
    refine sortFields_congr ?_ (h.map _)
    rw [← encodeFields_eq, encodeFields_keys]
    exact withSortedLabels_nodup m.nodup
  rw [m.labelled_eq, m'.labelled_eq]
  unfold encodeMetadata
  simp only [J.canonical hsort]

/-- The labels of the second call take the place of those of the first. Reference:
`transactions/transactions_service.go:1458 SetTransactionUserLabels`. -/
theorem withSortedLabels_again (hn : NoClash labels) (hl : l.Perm labels) (hl' : l'.Perm labels) :
    (withSortedLabels l memory).Perm
      (withSortedLabels l' (sortFields (withSortedLabels l memory))) := by
  have hothers : ((sortFields (withSortedLabels l memory)).filter (·.1 ≠ "user_labels")).Perm
      (memory.filter (·.1 ≠ "user_labels")) := by
    refine ((sortFields_perm _).filter _).trans ?_
    unfold withSortedLabels
    rw [List.filter_append, List.filter_filter]
    split <;> simp
  rw [withSortedLabels_perm hn hl', withSortedLabels_perm hn hl]
  rw [withSortedLabels_perm hn hl] at hothers
  exact (hothers.symm.append_right _)

/-! ## Replacement -/

theorem Hub.withMetadata_row (hr : row ∈ s.db.transactions.rows) :
    metadataUpdate text row ∈ (s.withMetadata row.id text).db.transactions.rows :=
  Table.mem_update_self hr

/-- The row with the id is the one with the new metadata. Reference: none. -/
theorem Hub.withMetadata_only (hr : row ∈ s.db.transactions.rows) {r : Transaction}
    (hmem : r ∈ (s.withMetadata row.id text).db.transactions.rows) (hid : r.id = row.id) :
    r.metadata = text := by
  rw [Table.eq_of_id hmem (Hub.withMetadata_row hr) (hid.trans (Update.id _ row).symm)]
  rfl

theorem Table.eq_of_rows {t t' : Table} (hrows : t.rows = t'.rows) (hid : t.nextId = t'.nextId) :
    t = t' := by
  cases t
  cases t'
  cases hrows
  cases hid
  rfl

/-- To write the text again changes nothing. Reference: gorm `UpdateColumn`. -/
theorem Hub.withMetadata_again :
    (s.withMetadata id text).withMetadata id text = s.withMetadata id text := by
  have htable : (s.withMetadata id text).db.transactions.update id (metadataUpdate text) =
      s.db.transactions.update id (metadataUpdate text) := by
    refine Table.eq_of_rows ?_ rfl
    show ((s.db.transactions.update id (metadataUpdate text)).rows.map _) = _
    rw [Table.update_rows, List.map_map]
    refine List.map_congr_left fun r _ => ?_
    by_cases hid : r.id = id
    · simp [Function.comp, Table.updateRow, hid, metadataUpdate]
    · simp [Function.comp, Table.updateRow_of_ne hid]
  rw [Hub.withMetadata, htable]
  rfl

/-- What a call on the row does. Reference: `transactions/transactions_service.go:1430
SetTransactionUserLabels`. -/
theorem setsLabels_ok (hr : row ∈ s.db.transactions.rows) : SetsLabels W s row.id l (.ok ()) s' ↔
    ∃ text, labelledMetadata W row.metadata l = .ok text ∧ s' = s.withMetadata row.id text := by
  constructor
  · intro h
    rcases runs_setTransactionUserLabels h with ⟨⟨e, he⟩, -⟩ | ⟨r, hmem, hid, text, ht, -, rfl⟩
    · cases he
    · rw [Table.eq_of_id hmem hr hid] at ht
      exact ⟨text, ht, rfl⟩
  · rintro ⟨text, ht, rfl⟩
    exact exists_runs_setTransactionUserLabels hr ht

theorem setsLabels_error {e : Err} (h : SetsLabels W s id l (.error e) s') : s' = s := by
  rcases runs_setTransactionUserLabels h with ⟨-, rfl⟩ | ⟨_, _, _, _, _, he, _⟩
  · rfl
  · cases he

/-- The metadata cannot be written with the labels, in any order of their map: a number of it
overflows, or the encoding is too large. Reference: `transactions/transactions_service.go:1443
SetTransactionUserLabels`, `:1415 SetTransactionMetadata`. -/
def Unwritable (W : World) (fields : List (String × JsonValue)) (labels : List (String × String)) :
    Prop :=
  ∀ memory, decodeFields fields = some memory → ∀ l, l.Perm labels →
    ∃ e, encodeMetadata W "invoice" (some (withLabels l memory)) = .error e

/-- Each number outside the labels is printed as it was written. Reference: Go `encoding/json`. -/
def ExactOthers (fields : List (String × JsonValue)) : Prop :=
  ∀ p ∈ fields, p.1 ≠ "user_labels" → p.2.Exact

/-- A field that is written, other than the labels. Reference:
`transactions/transactions_service.go:1464 SetTransactionUserLabels`. -/
theorem mem_written {key : String} {value : JsonValue} (hkey : key ≠ "user_labels") :
    (key, value) ∈ sortFields (encodeFields (withSortedLabels labels memory)) ↔
      ∃ j, (key, j) ∈ memory ∧ value = j.encode := by
  rw [(sortFields_perm _).mem_iff, mem_encodeFields]
  refine exists_congr fun j => and_congr_left fun _ => ?_
  rw [mem_withSortedLabels]
  constructor
  · rintro (⟨hj, -⟩ | ⟨-, hj⟩)
    · exact hj
    · exact absurd (congrArg (·.1) hj) hkey
  · exact fun hj => .inl ⟨hj, hkey⟩

/-- A field is written back as it was exactly when its numbers are printed as they were written.
Reference: `transactions/transactions_service.go:1442 SetTransactionUserLabels`. -/
theorem InMemory.written_iff (m : InMemory J metadata fields memory) {key : String}
    {value : JsonValue} (hkey : key ≠ "user_labels") (hv : (key, value) ∈ fields) :
    (key, value) ∈ sortFields (encodeFields (withSortedLabels labels memory)) ↔ value.Exact := by
  obtain ⟨j, hj, hd⟩ := exists_decoded m.decoded hv
  have hsorted := sortedValues_iff.1 (J.fields_sorted m.fields_eq).2 _ hv
  rw [mem_written hkey, ← JsonValue.encode_decode hsorted hd]
  constructor
  · rintro ⟨j', hj', rfl⟩
    rw [eq_of_key m.nodup hj hj']
  · exact fun he => ⟨j, hj, he.symm⟩

/-- Without a clash, and with numbers that are printed as they were written, the call replaces the
labels. Reference: `transactions/transactions_service.go:1430 SetTransactionUserLabels`. -/
theorem replacesLabels_of_exact (hr : row ∈ s.db.transactions.rows)
    (m : InMemory J row.metadata fields memory) (hn : NoClash labels) (he : ExactOthers fields) :
    ReplacesLabels J s row fields labels where
  order l l' hl hl' s' h := by
    obtain ⟨text, ht, rfl⟩ := (setsLabels_ok hr).1 h
    refine (setsLabels_ok hr).2 ⟨text, ?_, rfl⟩
    rw [← ht]
    refine labelled_congr m m ?_
    rw [withSortedLabels_perm hn hl, withSortedLabels_perm hn hl']
  again l l' hl hl' s' h := by
    obtain ⟨text, ht, rfl⟩ := (setsLabels_ok hr).1 h
    have hr' : metadataUpdate text row ∈ (s.withMetadata row.id text).db.transactions.rows :=
      Hub.withMetadata_row hr
    have ht' : labelledMetadata W text l' = .ok text :=
      (labelled_congr m (m.next ht) (withSortedLabels_again hn hl hl')).symm.trans ht
    have hagain := exists_runs_setTransactionUserLabels hr' ht'
    rw [Update.id, Hub.withMetadata_again] at hagain
    refine ⟨hagain, fun r s'' h' => ?_⟩
    rcases runs_setTransactionUserLabels h' with ⟨-, rfl⟩ | ⟨r', hmem, hid, text', ht'', -, rfl⟩
    · rfl
    · rw [Hub.withMetadata_only hr hmem hid, ht'] at ht''
      cases ht''
      exact Hub.withMetadata_again
  stored l hl s' h := by
    obtain ⟨text, ht, rfl⟩ := (setsLabels_ok hr).1 h
    refine ⟨text, _, rfl, m.value_eq ht, fun hblank value hmem => ?_, fun key value hkey => ?_⟩
    · have hnone : sanitizedLabels l = [] := by
        refine List.eq_nil_iff_forall_not_mem.2 fun p hp => ?_
        obtain ⟨label, hmem, hb, -⟩ := of_mem_sanitizedLabels hp
        exact hb (hblank label (hl.mem_iff.1 hmem))
      rw [(sortFields_perm _).mem_iff, mem_encodeFields] at hmem
      obtain ⟨j, hj, -⟩ := hmem
      rcases mem_withSortedLabels.1 hj with ⟨-, hne⟩ | ⟨hne, -⟩
      · exact hne rfl
      · exact hne hnone
    · constructor
      · intro hmem
        obtain ⟨j, hj, rfl⟩ := (mem_written hkey).1 hmem
        obtain ⟨v, hv, hd⟩ := of_mem_decoded m.decoded hj
        have hsorted := sortedValues_iff.1 (J.fields_sorted m.fields_eq).2 _ hv
        rwa [(JsonValue.encode_decode hsorted hd).2 (he _ hv hkey)]
      · exact fun hmem => (m.written_iff hkey hmem).2 (he _ hmem hkey)
  failed l _ e s' h := setsLabels_error h

/-- Where nothing can be written nothing is. Reference:
`transactions/transactions_service.go:1411 SetTransactionMetadata`. -/
theorem replacesLabels_of_refused (hr : row ∈ s.db.transactions.rows)
    (h : ∀ l, l.Perm labels → ∃ e, labelledMetadata W row.metadata l = .error e) :
    ReplacesLabels J s row fields labels := by
  have hnot : ∀ {l : List (String × String)} {s' : Hub} {p : Prop}, l.Perm labels →
      SetsLabels W s row.id l (.ok ()) s' → p := by
    intro l s' p hl hsets
    obtain ⟨text, ht, -⟩ := (setsLabels_ok hr).1 hsets
    obtain ⟨e, he⟩ := h l hl
    cases he.symm.trans ht
  exact ⟨fun _ _ hl _ _ hs => hnot hl hs, fun _ _ hl _ _ hs => hnot hl hs,
    fun _ hl _ hs => hnot hl hs, fun _ _ _ _ => setsLabels_error⟩

theorem Hub.withMetadata_inj {text' : String} (hr : row ∈ s.db.transactions.rows)
    (h : s.withMetadata row.id text = s.withMetadata row.id text') : text = text' := by
  have hmem : metadataUpdate text row ∈ (s.withMetadata row.id text).db.transactions.rows :=
    Hub.withMetadata_row hr
  rw [h] at hmem
  exact Hub.withMetadata_only hr hmem (Update.id _ row)

/-- A label of the map, where it comes last, is the one that is written under its key. Reference:
`transactions/transactions_service.go:1455 SetTransactionUserLabels`. -/
theorem last_label_written (m : InMemory J metadata fields memory) {label : String × String}
    (hb : ¬ BlankLabel label)
    (h : labelledMetadata W metadata (l ++ [label]) = .ok text) :
    ∃ kept new, J.fields text = some new ∧ ("user_labels", .object kept) ∈ new ∧
      (kept.map (·.1)).Nodup ∧ (trimSpace label.1, .string (trimSpace label.2)) ∈ kept := by
  have hlast : (trimSpace label.1, Json.string (trimSpace label.2)) ∈
      sanitizedLabels (l ++ [label]) := by
    rw [sanitizedLabels_concat]
    split
    · next hblank => exact absurd hblank hb
    · exact List.mem_append_right _ (List.mem_singleton.2 rfl)
  have hkept := sortFields_pairwise (sanitizedLabels_nodup (l ++ [label]))
  refine ⟨sortFields (encodeFields (sortFields (sanitizedLabels (l ++ [label])))), _,
    m.value_eq h, ?_, ?_, ?_⟩
  · rw [(sortFields_perm _).mem_iff, mem_encodeFields]
    refine ⟨.object (sortFields (sanitizedLabels (l ++ [label]))), ?_, ?_⟩
    · exact mem_withSortedLabels.2 (.inr ⟨List.ne_nil_of_mem hlast, rfl⟩)
    · rw [Json.encode]
  · refine ((sortFields_perm _).map _).nodup_iff.2 ?_
    rw [encodeFields_keys]
    exact hkept.imp ne_of_lt
  · rw [(sortFields_perm _).mem_iff, mem_encodeFields]
    exact ⟨_, (sortFields_perm _).mem_iff.2 hlast, by rw [Json.encode]⟩

/-- Where the call replaces the labels and can write them, no labels clash and the numbers outside
them are exact. Reference: `transactions/transactions_service.go:1430 SetTransactionUserLabels`. -/
theorem exact_of_replacesLabels (hr : row ∈ s.db.transactions.rows)
    (m : InMemory J row.metadata fields memory) (h : ReplacesLabels J s row fields labels)
    (hl : l.Perm labels) (ht : labelledMetadata W row.metadata l = .ok text) :
    NoClash labels ∧ ExactOthers fields := by
  have hsets := (setsLabels_ok hr).2 ⟨text, ht, rfl⟩
  -- every order of the map writes the same text
  have hall : ∀ l', l'.Perm labels → labelledMetadata W row.metadata l' = .ok text := by
    intro l' hl'
    obtain ⟨text', ht', heq⟩ := (setsLabels_ok hr).1 (h.order l l' hl hl' _ hsets)
    rwa [Hub.withMetadata_inj hr heq]
  refine ⟨fun a ha b hb hna hnb hkey => ?_, fun p hp hkey => ?_⟩
  · obtain ⟨kept, new, hnew, hmem, hnodup, hin⟩ := last_label_written m hna
      (hall (labels.erase a ++ [a]) (List.perm_append_comm.trans (List.perm_cons_erase ha).symm))
    obtain ⟨kept', new', hnew', hmem', -, hin'⟩ := last_label_written m hnb
      (hall (labels.erase b ++ [b]) (List.perm_append_comm.trans (List.perm_cons_erase hb).symm))
    cases hnew.symm.trans hnew'
    have hkeys := (J.fields_sorted hnew).1.imp ne_of_lt
    cases eq_of_key hkeys hmem hmem'
    rw [hkey] at hin
    exact JsonValue.string.inj (eq_of_key hnodup hin hin')
  · obtain ⟨text', new, heq, hnew, -, hsame⟩ := h.stored l hl _ hsets
    cases Hub.withMetadata_inj hr heq
    cases hnew.symm.trans (m.value_eq ht)
    exact (m.written_iff hkey hp).1 ((hsame _ _ hkey).2 hp)

end

/-- The call replaces the labels of a row if and only if the metadata cannot be written with them,
or no two keys are trimmed to one with different values and each number outside the labels is
printed as it was written. Reference: `transactions/transactions_service.go:1430
SetTransactionUserLabels`. -/
theorem labels_replace_iff {W : World} (J : JsonTexts W) {s : Hub} {row : Transaction}
    (hr : row ∈ s.db.transactions.rows) {fields : List (String × JsonValue)}
    (hf : J.fields row.metadata = some fields) (labels : List (String × String)) :
    ReplacesLabels J s row fields labels ↔
      Unwritable W fields labels ∨ NoClash labels ∧ ExactOthers fields := by
  cases hd : decodeFields fields with
  | none =>
    refine iff_of_true (replacesLabels_of_refused hr fun _ _ => J.refuses hf hd) (.inl ?_)
    intro memory hm
    cases hd.symm.trans hm
  | some memory =>
    have m : InMemory J row.metadata fields memory := ⟨hf, hd⟩
    constructor
    · intro h
      by_cases hw : ∃ l text, l.Perm labels ∧ labelledMetadata W row.metadata l = .ok text
      · obtain ⟨l, text, hl, ht⟩ := hw
        exact .inr (exact_of_replacesLabels hr m h hl ht)
      · refine .inl fun memory' hd' l hl => ?_
        cases hd.symm.trans hd'
        rw [← m.labelled_eq]
        cases ht : labelledMetadata W row.metadata l with
        | error e => exact ⟨e, rfl⟩
        | ok text => exact absurd ⟨l, text, hl, ht⟩ hw
    · rintro (hw | ⟨hn, he⟩)
      · refine replacesLabels_of_refused hr fun l hl => ?_
        rw [m.labelled_eq]
        exact hw memory hd l hl
      · exact replacesLabels_of_exact hr m hn he

/-! ## Two labels -/

/-- The metadata texts of a row without labels, and with one label `a`. Reference: Go
`encoding/json`. -/
def labelText (value : String) : String :=
  "\x7b\"user_labels\":\x7b\"a\":\"" ++ value ++ "\"\x7d\x7d"

/-- The object with the label `a`. Reference: none. -/
def labelValue (value : String) : List (String × JsonValue) :=
  [("user_labels", .object [("a", .string value)])]

/-- The objects of the texts that the demonstrations need. Reference: Go `encoding/json`. -/
def labelTexts (text : String) : Option (List (String × JsonValue)) :=
  if text = "\x7b\x7d" then some []
  else if text = labelText "x" then some (labelValue "x")
  else if text = labelText "y" then some (labelValue "y")
  else none

/-- The texts of these objects. Reference: Go `json.Marshal`. -/
def printLabels : JsonValue → Except String String
  | .object [] => .ok "\x7b\x7d"
  | .object [("user_labels", .object [("a", .string "x")])] => .ok (labelText "x")
  | .object [("user_labels", .object [("a", .string "y")])] => .ok (labelText "y")
  | _ => .error "not needed here"

/-- A world that reads and prints these objects. Reference: Go `encoding/json`. -/
def demoLabels : World :=
  { demo with
    marshal := fun value => printLabels value.encode
    unmarshal := fun text =>
      match (labelTexts text).bind decodeFields with
      | some memory => (some memory, none)
      | none => (none, some "not needed here") }

/-- These objects and their texts. Reference: Go `encoding/json`. -/
def demoLabelTexts : JsonTexts demoLabels where
  value := labelTexts
  sorted := by
    intro text fields h
    unfold labelTexts at h
    split at h
    · cases h
      exact ⟨.nil, trivial⟩
    · split at h
      · cases h
        exact ⟨List.pairwise_singleton .., ⟨List.pairwise_singleton .., trivial, trivial⟩, trivial⟩
      · split at h
        · cases h
          exact ⟨List.pairwise_singleton .., ⟨List.pairwise_singleton .., trivial, trivial⟩,
            trivial⟩
        · cases h
  unmarshal := by
    intro text fields memory h hd
    simp only [demoLabels, h, Option.bind_some, hd]
  refused := by
    intro text fields h hd
    simp only [demoLabels, h, Option.bind_some, hd]
    exact ⟨_, _, rfl⟩
  marshal := by
    intro memory text _ h
    simp only [demoLabels, Json.encode] at h
    generalize sortFields (encodeFields memory) = fields at h ⊢
    unfold printLabels at h
    split at h
    · next heq =>
      cases heq
      cases h
      exact if_pos rfl
    · next heq =>
      cases heq
      cases h
      exact (if_neg (by decide)).trans (if_pos rfl)
    · next heq =>
      cases heq
      cases h
      exact (if_neg (by decide)).trans ((if_neg (by decide)).trans (if_pos rfl))
    · cases h
  empty := by decide
  canonical := by
    intro memory memory' h
    simp only [demoLabels, Json.encode, h]

/-- A row without metadata. Reference: `transactions/user_labels_test.go:22
setupTransactionForUserLabels`. -/
def demoLabelRow : Transaction :=
  Table.empty.created demoNow
    { type := .outgoing, state := .settled, amountMsat := 123000, paymentHash := mockHash }

/-- The hub with the row. Reference: `transactions/user_labels_test.go:22
setupTransactionForUserLabels`. -/
def demoLabelHub : Hub :=
  ⟨demoDB (Table.empty.create demoNow
    { type := .outgoing, state := .settled, amountMsat := 123000, paymentHash := mockHash }), []⟩

theorem demo_labelRow : demoLabelRow ∈ demoLabelHub.db.transactions.rows :=
  Table.mem_create.2 (.inr rfl)

theorem labels_replace_iff_one :
    ReplacesLabels demoLabelTexts demoLabelHub demoLabelRow [] [(" a", "x ")] := by
  refine (labels_replace_iff demoLabelTexts demo_labelRow rfl _).2 (.inr ⟨?_, nofun⟩)
  intro a ha b hb _ _ _
  rw [List.mem_singleton.1 ha, List.mem_singleton.1 hb]

/-- The keys `a` and ` a` with two values: the order of the map decides which one is stored.
Reference: `transactions/transactions_service.go:1449 SetTransactionUserLabels`. -/
theorem labels_of_order :
    ¬ ReplacesLabels demoLabelTexts demoLabelHub demoLabelRow [] [("a", "x"), (" a", "y")] := by
  intro h
  have hy : labelledMetadata demoLabels demoLabelRow.metadata [("a", "x"), (" a", "y")] =
      .ok (labelText "y") := by decide +kernel
  have hx : labelledMetadata demoLabels demoLabelRow.metadata [(" a", "y"), ("a", "x")] =
      .ok (labelText "x") := by decide +kernel
  have hsets := h.order _ _ (.refl _) (List.Perm.swap ..) _
    ((setsLabels_ok demo_labelRow).2 ⟨_, hy, rfl⟩)
  obtain ⟨text, ht, heq⟩ := (setsLabels_ok demo_labelRow).1 hsets
  cases hx.symm.trans ht
  have htext := Hub.withMetadata_inj demo_labelRow heq
  revert htext
  decide

end AlbyHub
