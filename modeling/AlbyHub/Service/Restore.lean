import AlbyHub.Interaction.Crash
import Mathlib.Data.List.Dedup

/-!
# The end of a restore

A backup is extracted into the folder `restore` of the work directory. At the next start the entries
of the work directory that it replaces are removed one by one, its entries are moved one by one, and
the folder is removed (`finishRestoreNode`). The start may be interrupted anywhere and is then made
again; one that cannot look at the folder does nothing and reports no error, so it is not one that
completes (`Completes`). What has been moved is no longer listed, so it is not removed again, and
every restored entry is in the folder or in its place (`Midway`).
-/

namespace AlbyHub.Restore

open Interaction

/-- A file with its content, or a directory with its entries. Of two entries with one name the first
one counts. Reference: the file system. -/
inductive Node where
  | file (content : List UInt8)
  | dir (entries : List (String × Node))

/-- The entries of a directory. Reference: the file system. -/
abbrev Entries := List (String × Node)

/-- Reference: the file system. -/
def Entries.find (d : Entries) (name : String) : Option Node := d.lookup name

/-- Reference: the file system. -/
def Entries.remove (d : Entries) (name : String) : Entries := d.filter (·.1 ≠ name)

/-- Reference: the file system. -/
def Entries.put (d : Entries) (name : String) (node : Node) : Entries :=
  (name, node) :: d.remove name

/-- The names of the entries, sorted. Reference: Go `os.ReadDir`. -/
def Entries.names (d : Entries) : List String := (d.map Prod.fst).dedup.mergeSort (· ≤ ·)

/-- Reference: `service/service.go:184 finishRestoreNode`. -/
def restoreName : String := "restore"

/-- The calls on the file system; the paths are those of entries of the work directory and of its
folder `restore`. Reference: `service/service.go:183 finishRestoreNode`. -/
inductive FsCmd where
  | statRestoreDir
  | readRestoreDir
  | removeAll (name : String)
  | renameOut (name : String)
  deriving DecidableEq, Repr

/-- `Stat` answers whether there is a directory. Reference: Go `os.Stat`, `os.ReadDir`,
`os.RemoveAll`, `os.Rename`. -/
abbrev FsCmd.Ans : FsCmd → Type
  | .statRestoreDir => Except String Bool
  | .readRestoreDir => Except String (List String)
  | .removeAll _ | .renameOut _ => Except String Unit

abbrev FsProg := Prog FsCmd FsCmd.Ans

/-- Reference: the calls of `FsCmd`. -/
def FsCmd.issue (c : FsCmd) : FsProg c.Ans := Prog.call c

/-- The entries of the work directory that the folder replaces. Reference: `service/service.go:194
finishRestoreNode`. -/
def removeExisting : List String → FsProg (Except String Unit)
  | [] => return .ok ()
  | name :: names =>
    if name ≠ restoreName then do
      match ← FsCmd.issue (.removeAll name) with
      | .error e => return .error e
      | .ok () => removeExisting names
    else removeExisting names

/-- The entries of the folder. Reference: `service/service.go:210 finishRestoreNode`. -/
def moveFiles : List String → FsProg (Except String Unit)
  | [] => return .ok ()
  | name :: names => do
    match ← FsCmd.issue (.renameOut name) with
    | .error e => return .error e
    | .ok () => moveFiles names

/-- The folder is there. Reference: `service/service.go:186 finishRestoreNode`. -/
def finishRestore : FsProg (Except String Unit) := do
  match ← FsCmd.issue .readRestoreDir with
  | .error e => return .error e
  | .ok existingFiles => do
    match ← removeExisting existingFiles with
    | .error e => return .error e
    | .ok () => do
      match ← FsCmd.issue .readRestoreDir with
      | .error e => return .error e
      | .ok files => do
        match ← moveFiles files with
        | .error e => return .error e
        | .ok () => FsCmd.issue (.removeAll restoreName)

/-- What follows the `Stat`: nothing is done where it fails. Reference: `service/service.go:185
finishRestoreNode`. -/
def finishStatted : Except String Bool → FsProg (Except String Unit)
  | .ok true => finishRestore
  | .ok false | .error _ => return .ok ()

/-- Reference: `service/service.go:183 finishRestoreNode`. -/
def finishRestoreNode : FsProg (Except String Unit) := do
  let restoreDirStat ← FsCmd.issue .statRestoreDir
  finishStatted restoreDirStat

/-- The entries of the folder, if it is there. Reference: `service/service.go:184
finishRestoreNode`. -/
def restoreDir (d : Entries) : Option Entries :=
  match d.find restoreName with
  | some (.dir entries) => some entries
  | _ => none

/-- The entry is moved. A directory that is in the place of the new one is an error, and so is a
file in the place of a directory; a file in the place of a file is replaced. Reference: Go
`os.Rename`. -/
def renameOut (d : Entries) (name : String) : Except String Entries :=
  match restoreDir d with
  | none => .error "no such file or directory"
  | some entries =>
    match entries.find name, d.find name with
    | none, _ => .error "no such file or directory"
    | some _, some (.dir _) => .error "file exists"
    | some (.dir _), some (.file _) => .error "not a directory"
    | some node, _ => .ok ((d.put restoreName (.dir (entries.remove name))).put name node)

/-- What a call does; it may fail. Reference: Go `os.Stat`, `os.ReadDir`, `os.RemoveAll`,
`os.Rename`. -/
def fsExec (d : Entries) : (c : FsCmd) → Option String → Option (c.Ans × Entries)
  | .statRestoreDir, fault =>
    match fault, d.find restoreName with
    | some e, _ => some (.error e, d)
    | none, none => some (.error "no such file or directory", d)
    | none, some (.file _) => some (.ok false, d)
    | none, some (.dir _) => some (.ok true, d)
  | .readRestoreDir, fault =>
    match fault, restoreDir d with
    | some e, _ => some (.error e, d)
    | none, none => some (.error "no such file or directory", d)
    | none, some entries => some (.ok entries.names, d)
  | .removeAll name, fault =>
    match fault with
    | some e => some (.error e, d)
    | none => some (.ok (), d.remove name)
  | .renameOut name, fault =>
    match fault, renameOut d name with
    | some e, _ => some (.error e, d)
    | none, .error e => some (.error e, d)
    | none, .ok d' => some (.ok (), d')

/-- A start whose `Stat` meets no fault returns without an error. Reference: `service/service.go:183
finishRestoreNode`. -/
def Completes (d d' : Entries) : Prop :=
  ∃ stat, fsExec d .statRestoreDir none = some (stat, d) ∧
    (finishStatted stat).Runs fsExec d (.ok ()) d'

/-- What the work directory is to hold: the entries of the folder, and of the others those that were
there. Reference: `service/service.go:183 finishRestoreNode`. -/
def restored (d : Entries) (name : String) : Option Node :=
  match restoreDir d with
  | none => d.find name
  | some entries => if name = restoreName then none else (entries.find name).or (d.find name)

/-- No restored entry is lost: it is in the folder or in its place. Reference:
`service/service.go:183 finishRestoreNode`. -/
def NotLost (d₀ d : Entries) : Prop :=
  ∀ entries, restoreDir d₀ = some entries → ∀ name node, entries.find name = some node →
    (∃ entries', restoreDir d = some entries' ∧ entries'.find name = some node) ∨
      d.find name = some node

/-! ## Directories -/

section
variable {d d' : Entries} {name name' : String} {node : Node}

theorem find_cons (entry : String × Node) :
    Entries.find (entry :: d) name = if name = entry.1 then
      some entry.2 else Entries.find d name := by
  unfold Entries.find
  rw [List.lookup_cons]
  by_cases heq : name = entry.1
  · rw [if_pos heq, beq_iff_eq.2 heq]
  · rw [if_neg heq, beq_eq_false_iff_ne.2 heq]

theorem find_remove_self : (d.remove name).find name = none := by
  unfold Entries.remove
  induction d with
  | nil => rfl
  | cons entry d ih =>
    rw [List.filter_cons]
    split
    · next hne =>
      have hne : entry.1 ≠ name := by simpa using hne
      rw [find_cons, if_neg (Ne.symm hne), ih]
    · exact ih

theorem find_remove_of_ne (hne : name' ≠ name) : (d.remove name).find name' = d.find name' := by
  unfold Entries.remove
  induction d with
  | nil => rfl
  | cons entry d ih =>
    rw [List.filter_cons, find_cons]
    split
    · rw [find_cons, ih]
    · next heq =>
      have heq : entry.1 = name := by simpa using heq
      rw [ih, if_neg (heq ▸ hne)]

theorem find_put_self : (d.put name node).find name = some node := by
  unfold Entries.put
  rw [find_cons, if_pos rfl]

theorem find_put_of_ne (hne : name' ≠ name) : (d.put name node).find name' = d.find name' := by
  unfold Entries.put
  rw [find_cons, if_neg hne, find_remove_of_ne hne]

theorem mem_map_fst (d : Entries) : name ∈ d.map Prod.fst ↔ d.find name ≠ none := by
  induction d with
  | nil => simp [Entries.find]
  | cons entry d ih =>
    rw [List.map_cons, List.mem_cons, ih, find_cons]
    split
    · next heq => simp [heq]
    · next hne => simp [hne]

theorem mem_names : name ∈ d.names ↔ d.find name ≠ none := by
  unfold Entries.names
  rw [List.mem_mergeSort, List.mem_dedup, mem_map_fst]

theorem nodup_names (d : Entries) : d.names.Nodup :=
  (List.mergeSort_perm _ _).nodup_iff.2 (List.nodup_dedup _)

theorem restoreDir_eq (h : d'.find restoreName = d.find restoreName) :
    restoreDir d' = restoreDir d := by
  unfold restoreDir
  rw [h]

theorem restoreDir_eq_some {entries : Entries} :
    restoreDir d = some entries ↔ d.find restoreName = some (.dir entries) := by
  unfold restoreDir
  split
  · next entries' hfind => rw [hfind, Option.some.injEq, Option.some.injEq, Node.dir.injEq]
  · next hother =>
    constructor
    · intro h
      cases h
    · intro h
      exact absurd h (hother entries)

/-! ## What the calls do -/

theorem restored_of_none (h : restoreDir d = none) : restored d name = d.find name := by
  unfold restored
  rw [h]

theorem restored_of_some {entries : Entries} (h : restoreDir d = some entries) :
    restored d name =
      if name = restoreName then none else (entries.find name).or (d.find name) := by
  unfold restored
  rw [h]

/-- What a rename that succeeds has done. Reference: Go `os.Rename`. -/
theorem renameOut_ok (h : renameOut d name = .ok d') :
    ∃ entries node, restoreDir d = some entries ∧ entries.find name = some node ∧
      d' = (d.put restoreName (.dir (entries.remove name))).put name node := by
  unfold renameOut at h
  split at h
  · cases h
  · next entries hdir =>
    split at h
    · cases h
    · cases h
    · cases h
    · next node hnode _ _ =>
      cases h
      exact ⟨entries, node, hdir, hnode, rfl⟩

/-- A rename to a name that is free. Reference: Go `os.Rename`. -/
theorem renameOut_free {entries : Entries} (hdir : restoreDir d = some entries)
    (hnode : entries.find name = some node) (hfree : d.find name = none) :
    renameOut d name = .ok ((d.put restoreName (.dir (entries.remove name))).put name node) := by
  unfold renameOut
  rw [hdir]
  simp only
  rw [hnode, hfree]

/-- The folder cannot be moved onto itself. Reference: Go `os.Rename`. -/
theorem renameOut_restoreName : renameOut d restoreName ≠ .ok d' := by
  intro h
  obtain ⟨entries, node, hdir, hnode, rfl⟩ := renameOut_ok h
  unfold renameOut at h
  rw [hdir] at h
  simp only at h
  rw [hnode, restoreDir_eq_some.1 hdir] at h
  cases h

/-- The call took place. Reference: the calls of `FsCmd`. -/
theorem exec_removeAll {e : Option String} {r : Except String Unit}
    (h : fsExec d (.removeAll name) e = some (r, d')) :
    (∃ e, r = .error e ∧ d' = d) ∨ r = .ok () ∧ d' = d.remove name := by
  cases e <;> cases h
  · exact .inr ⟨rfl, rfl⟩
  · exact .inl ⟨_, rfl, rfl⟩

theorem exec_renameOut {e : Option String} {r : Except String Unit}
    (h : fsExec d (.renameOut name) e = some (r, d')) :
    (∃ e, r = .error e ∧ d' = d) ∨ r = .ok () ∧ renameOut d name = .ok d' := by
  simp only [fsExec] at h
  split at h
  · cases h
    exact .inl ⟨_, rfl, rfl⟩
  · cases h
    exact .inl ⟨_, rfl, rfl⟩
  · next hok =>
    cases h
    exact .inr ⟨rfl, hok⟩

theorem exec_readRestoreDir {e : Option String} {r : Except String (List String)}
    (h : fsExec d .readRestoreDir e = some (r, d')) :
    d' = d ∧ ∀ names, r = .ok names → ∃ entries, restoreDir d = some entries ∧
      names = entries.names := by
  simp only [fsExec] at h
  split at h
  · cases h
    exact ⟨rfl, fun _ hr => nomatch hr⟩
  · cases h
    exact ⟨rfl, fun _ hr => nomatch hr⟩
  · next entries hdir =>
    cases h
    refine ⟨rfl, fun names hr => ⟨entries, hdir, ?_⟩⟩
    cases hr
    rfl

/-- What is found is there; a fault hides it. Reference: Go `os.Stat`. -/
theorem exec_statRestoreDir {e : Option String} {r : Except String Bool}
    (h : fsExec d .statRestoreDir e = some (r, d')) :
    d' = d ∧ (r = .ok true → ∃ entries, restoreDir d = some entries) := by
  simp only [fsExec] at h
  split at h
  · cases h
    exact ⟨rfl, fun hr => by cases hr⟩
  · cases h
    exact ⟨rfl, fun hr => by cases hr⟩
  · cases h
    exact ⟨rfl, fun hr => by cases hr⟩
  · next entries hfind =>
    cases h
    exact ⟨rfl, fun _ => ⟨entries, restoreDir_eq_some.2 hfind⟩⟩

/-- A start that completes takes the folder, or there is none. Reference: `service/service.go:185
finishRestoreNode`. -/
theorem completes_iff : Completes d d' ↔
    (∃ entries, restoreDir d = some entries ∧ finishRestore.Runs fsExec d (.ok ()) d') ∨
      restoreDir d = none ∧ d' = d := by
  have hskip : (pure (.ok ()) : FsProg (Except String Unit)).Runs fsExec d (.ok ()) d' ↔ d' = d :=
    ⟨fun h => h.2, fun h => ⟨rfl, h⟩⟩
  constructor
  · rintro ⟨stat, hx, hrun⟩
    simp only [fsExec] at hx
    split at hx
    · next he => cases he
    · next hfind =>
      cases hx
      exact .inr ⟨by rw [restoreDir, hfind], hskip.1 hrun⟩
    · next hfind =>
      cases hx
      exact .inr ⟨by rw [restoreDir, hfind], hskip.1 hrun⟩
    · next entries _ hfind =>
      cases hx
      exact .inl ⟨entries, restoreDir_eq_some.2 hfind, hrun⟩
  · rintro (⟨entries, hdir, hrun⟩ | ⟨hnone, hd⟩)
    · exact ⟨.ok true, by simp only [fsExec, restoreDir_eq_some.1 hdir], hrun⟩
    · cases hfind : d.find restoreName with
      | none =>
        exact ⟨.error "no such file or directory", by simp only [fsExec, hfind], hskip.2 hd⟩
      | some node =>
        cases node with
        | file content => exact ⟨.ok false, by simp only [fsExec, hfind], hskip.2 hd⟩
        | dir entries =>
          rw [restoreDir_eq_some.2 hfind] at hnone
          cases hnone

end

/-! ## What an interrupted restore leaves -/

/-- The restore of the folder `entries₀` is under way in `d`, and `entries` are still to be moved:
these are as they were, the others are in their places, and what the folder does not replace is as
it was. Reference: `service/service.go:183 finishRestoreNode`. -/
structure Midway (d₀ entries₀ entries d : Entries) : Prop where
  dir : restoreDir d = some entries
  kept : ∀ name node, entries.find name = some node → entries₀.find name = some node
  clash : entries.find restoreName = entries₀.find restoreName
  moved : ∀ name node, name ≠ restoreName → entries₀.find name = some node →
    entries.find name = none → d.find name = some node
  others : ∀ name, name ≠ restoreName → entries₀.find name = none → d.find name = d₀.find name

/-- Where a start finds the work directory. Reference: `service/service.go:183
finishRestoreNode`. -/
def Recoverable (d₀ d : Entries) : Prop :=
  (∃ entries₀ entries, restoreDir d₀ = some entries₀ ∧ Midway d₀ entries₀ entries d) ∨
    (restoreDir d = none ∧ (∀ name, d.find name = restored d₀ name) ∧
      ∀ entries₀, restoreDir d₀ = some entries₀ → entries₀.find restoreName = none)

section
variable {d₀ entries₀ entries d d' : Entries} {name : String}

theorem Recoverable.start : Recoverable d₀ d₀ := by
  cases hdir : restoreDir d₀ with
  | none =>
    refine .inr ⟨hdir, fun name => (restored_of_none hdir).symm, fun entries₀ h => ?_⟩
    cases hdir.symm.trans h
  | some entries₀ =>
    refine .inl ⟨entries₀, entries₀, hdir, hdir, fun _ _ h => h, rfl, ?_, fun _ _ _ => rfl⟩
    intro name node _ hnode hnone
    cases hnode.symm.trans hnone

/-- An entry that the folder replaces is removed. Reference: `service/service.go:196
finishRestoreNode`. -/
theorem Midway.remove (h : Midway d₀ entries₀ entries d) (hname : entries.find name ≠ none)
    (hne : name ≠ restoreName) : Midway d₀ entries₀ entries (d.remove name) := by
  obtain ⟨node, hnode⟩ := Option.ne_none_iff_exists'.1 hname
  refine ⟨?_, h.kept, h.clash, ?_, ?_⟩
  · rw [restoreDir_eq (find_remove_of_ne (Ne.symm hne)), h.dir]
  · intro name' node' hne' hnode' hgone
    have hother : name' ≠ name := by
      rintro rfl
      exact hname hgone
    rw [find_remove_of_ne hother]
    exact h.moved name' node' hne' hnode' hgone
  · intro name' hne' hnone
    have hother : name' ≠ name := by
      rintro rfl
      cases hnone.symm.trans (h.kept _ _ hnode)
    rw [find_remove_of_ne hother]
    exact h.others name' hne' hnone

/-- An entry of the folder is moved. Reference: `service/service.go:211 finishRestoreNode`. -/
theorem Midway.move (h : Midway d₀ entries₀ entries d) (hok : renameOut d name = .ok d') :
    Midway d₀ entries₀ (entries.remove name) d' := by
  have hne : name ≠ restoreName := by
    rintro rfl
    exact renameOut_restoreName hok
  obtain ⟨entries', node, hdir, hnode, rfl⟩ := renameOut_ok hok
  have heq : entries' = entries := Option.some.inj (hdir.symm.trans h.dir)
  subst heq
  refine ⟨?_, ?_, ?_, ?_, ?_⟩
  · rw [restoreDir_eq_some, find_put_of_ne (Ne.symm hne), find_put_self]
  · intro name' node' hnode'
    by_cases hother : name' = name
    · rw [hother, find_remove_self] at hnode'
      cases hnode'
    · rw [find_remove_of_ne hother] at hnode'
      exact h.kept _ _ hnode'
  · rw [find_remove_of_ne (Ne.symm hne), h.clash]
  · intro name' node' hne' hnode' hgone
    by_cases hother : name' = name
    · subst hother
      rw [find_put_self, ← h.kept _ _ hnode, hnode']
    · rw [find_remove_of_ne hother] at hgone
      rw [find_put_of_ne hother, find_put_of_ne hne']
      exact h.moved _ _ hne' hnode' hgone
  · intro name' hne' hnone
    have hother : name' ≠ name := by
      rintro rfl
      cases hnone.symm.trans (h.kept _ _ hnode)
    rw [find_put_of_ne hother, find_put_of_ne hne']
    exact h.others _ hne' hnone

/-- The folder is empty and is removed. Reference: `service/service.go:218 finishRestoreNode`. -/
theorem Midway.finish (h : Midway d₀ entries₀ entries d) (hdir : restoreDir d₀ = some entries₀)
    (hempty : ∀ name, entries.find name = none) :
    restoreDir (d.remove restoreName) = none ∧
      (∀ name, (d.remove restoreName).find name = restored d₀ name) ∧
        entries₀.find restoreName = none := by
  refine ⟨?_, ?_, ?_⟩
  · unfold restoreDir
    rw [find_remove_self]
  · intro name
    rw [restored_of_some hdir]
    by_cases hne : name = restoreName
    · rw [if_pos hne, hne, find_remove_self]
    · rw [if_neg hne, find_remove_of_ne hne]
      cases hnode : entries₀.find name with
      | none => exact h.others _ hne hnode
      | some node => exact h.moved _ _ hne hnode (hempty name)
  · rw [← h.clash]
    exact hempty restoreName

/-- A restored entry is in the folder or in its place. Reference: `service/service.go:183
finishRestoreNode`. -/
theorem Recoverable.notLost (h : Recoverable d₀ d) : NotLost d₀ d := by
  intro entries₁ hdir₁ name node hnode
  rcases h with ⟨entries₀, entries, hdir, hm⟩ | ⟨_, hfind, hclash⟩
  · have heq : entries₁ = entries₀ := Option.some.inj (hdir₁.symm.trans hdir)
    subst heq
    cases hin : entries.find name with
    | some node' =>
      have hsame := hm.kept _ _ hin
      rw [hnode] at hsame
      cases hsame
      exact .inl ⟨entries, hm.dir, hin⟩
    | none =>
      have hne : name ≠ restoreName := by
        rintro rfl
        rw [hm.clash, hnode] at hin
        cases hin
      exact .inr (hm.moved _ _ hne hnode hin)
  · have hne : name ≠ restoreName := by
      rintro rfl
      cases hnode.symm.trans (hclash _ hdir₁)
    refine .inr ?_
    rw [hfind, restored_of_some hdir₁, if_neg hne, hnode, Option.some_or]

/-! ## The crash triples -/

/-- The folder `entries` is to be moved. Reference: `service/service.go:183 finishRestoreNode`. -/
def Restoring (d₀ entries₀ : Entries) (Here : Entries → Prop) (d : Entries) : Prop :=
  ∃ entries, Midway d₀ entries₀ entries d ∧ Here entries

theorem Restoring.recoverable {Here : Entries → Prop} (hdir : restoreDir d₀ = some entries₀)
    (h : Restoring d₀ entries₀ Here d) : Recoverable d₀ d := by
  obtain ⟨entries, hm, _⟩ := h
  exact .inl ⟨entries₀, entries, hdir, hm⟩

theorem removeExisting_survives (hdir : restoreDir d₀ = some entries₀) (names : List String) :
    (removeExisting names).Survives fsExec
      (Restoring d₀ entries₀ fun entries => ∀ name ∈ names, entries.find name ≠ none)
      (fun _ => Restoring d₀ entries₀ fun _ => True) (Recoverable d₀) := by
  induction names with
  | nil =>
    refine Prog.Survives.ret (fun d h => ?_) (fun d h => h.recoverable hdir)
    obtain ⟨entries, hm, _⟩ := h
    exact ⟨entries, hm, trivial⟩
  | cons name names ih =>
    unfold removeExisting
    split
    · next hne =>
      refine Prog.Survives.call (M := fun _ =>
        Restoring d₀ entries₀ fun entries => ∀ name ∈ names, entries.find name ≠ none)
        (fun d h => h.recoverable hdir) ?_ ?_
      · rintro d e r d' ⟨entries, hm, hnames⟩ hx
        have hrest : ∀ name ∈ names, entries.find name ≠ none :=
          fun name hmem => hnames name (List.mem_cons_of_mem _ hmem)
        rcases exec_removeAll hx with ⟨_, _, rfl⟩ | ⟨_, rfl⟩
        · exact ⟨entries, hm, hrest⟩
        · exact ⟨entries, hm.remove (hnames name List.mem_cons_self) hne, hrest⟩
      · intro r
        split
        · refine Prog.Survives.ret (fun d h => ?_) (fun d h => h.recoverable hdir)
          obtain ⟨entries, hm, _⟩ := h
          exact ⟨entries, hm, trivial⟩
        · exact ih
    · refine ih.mono (fun d h => ?_) (fun _ _ h => h)
      obtain ⟨entries, hm, hnames⟩ := h
      exact ⟨entries, hm, fun name hmem => hnames name (List.mem_cons_of_mem _ hmem)⟩

theorem moveFiles_survives (hdir : restoreDir d₀ = some entries₀) (names : List String) :
    (moveFiles names).Survives fsExec
      (Restoring d₀ entries₀ fun entries => ∀ name, entries.find name ≠ none → name ∈ names)
      (fun r => Restoring d₀ entries₀ fun entries => r = .ok () → ∀ name, entries.find name = none)
      (Recoverable d₀) := by
  induction names with
  | nil =>
    refine Prog.Survives.ret (fun d h => ?_) (fun d h => h.recoverable hdir)
    obtain ⟨entries, hm, hnames⟩ := h
    refine ⟨entries, hm, fun _ name => ?_⟩
    by_contra hname
    exact List.not_mem_nil (hnames name hname)
  | cons name names ih =>
    unfold moveFiles
    refine Prog.Survives.call (M := fun r => Restoring d₀ entries₀ fun entries =>
      r = .ok () → ∀ name, entries.find name ≠ none → name ∈ names)
      (fun d h => h.recoverable hdir) ?_ ?_
    · rintro d e r d' ⟨entries, hm, hnames⟩ hx
      rcases exec_renameOut hx with ⟨_, rfl, rfl⟩ | ⟨_, hok⟩
      · exact ⟨entries, hm, fun hr => nomatch hr⟩
      · refine ⟨entries.remove name, hm.move hok, fun _ name' hfind => ?_⟩
        have hne : name' ≠ name := by
          rintro rfl
          exact hfind find_remove_self
        rw [find_remove_of_ne hne] at hfind
        exact (List.mem_cons.1 (hnames name' hfind)).resolve_left hne
    · intro r
      split
      · refine Prog.Survives.ret (fun d h => ?_) (fun d h => h.recoverable hdir)
        obtain ⟨entries, hm, _⟩ := h
        exact ⟨entries, hm, fun hr => nomatch hr⟩
      · refine ih.mono (fun d h => ?_) (fun _ _ h => h)
        obtain ⟨entries, hm, hnames⟩ := h
        exact ⟨entries, hm, hnames rfl⟩

/-- The postcondition: an interrupted or failed start can be made again, and after one that succeeds
the work directory is as it is to be. Reference: `service/service.go:183 finishRestoreNode`. -/
def Restored (d₀ : Entries) (r : Except String Unit) (d : Entries) : Prop :=
  Recoverable d₀ d ∧ (r = .ok () → ∀ name, d.find name = restored d₀ name)

theorem Restored.failed {e : String} (h : Recoverable d₀ d) : Restored d₀ (.error e) d :=
  ⟨h, fun hr => nomatch hr⟩

theorem removeRestoreDir_survives (hdir : restoreDir d₀ = some entries₀) :
    (FsCmd.issue (.removeAll restoreName)).Survives fsExec
      (Restoring d₀ entries₀ fun entries => ∀ name, entries.find name = none)
      (Restored d₀) (Recoverable d₀) := by
  refine Prog.Survives.call (f := fun r => pure r) (M := Restored d₀) (fun d h =>
    h.recoverable hdir) ?_
    (fun r => .ret (fun _ h => h) fun _ h => h.1)
  rintro d e r d' ⟨entries, hm, hempty⟩ hx
  rcases exec_removeAll hx with ⟨_, rfl, rfl⟩ | ⟨_, rfl⟩
  · exact .failed (.inl ⟨entries₀, entries, hdir, hm⟩)
  · obtain ⟨hgone, hfind, hclash⟩ := hm.finish hdir hempty
    refine ⟨.inr ⟨hgone, hfind, fun entries₁ h => ?_⟩, fun _ => hfind⟩
    rw [hdir] at h
    cases h
    exact hclash

theorem readRestoreDir_exact {Here : Entries → Prop}
    {e : Option String} {r : Except String (List String)} (h : Restoring d₀ entries₀ Here d)
    (hx : fsExec d .readRestoreDir e = some (r, d')) :
    Restoring d₀ entries₀
      (fun entries => ∀ names, r = .ok names → ∀ name, name ∈ names ↔
        entries.find name ≠ none) d' := by
  obtain ⟨entries, hm, _⟩ := h
  obtain ⟨rfl, hr⟩ := exec_readRestoreDir hx
  refine ⟨entries, hm, fun names hok name => ?_⟩
  obtain ⟨entries', hdir', rfl⟩ := hr names hok
  rw [hm.dir] at hdir'
  cases hdir'
  exact mem_names

theorem finishRestore_survives (hdir : restoreDir d₀ = some entries₀) :
    finishRestore.Survives fsExec (Restoring d₀ entries₀ fun _ => True) (Restored d₀)
      (Recoverable d₀) := by
  have hfailed : ∀ (e : String) (Here : Entries → Prop),
      (pure (.error e) : FsProg (Except String Unit)).Survives fsExec (Restoring d₀ entries₀ Here)
        (Restored d₀) (Recoverable d₀) :=
    fun e Here => .ret (fun d h => .failed (h.recoverable hdir)) fun d h => h.recoverable hdir
  refine Prog.Survives.call (fun d h => h.recoverable hdir)
    (fun d e r d' h hx => readRestoreDir_exact h hx) fun r => ?_
  split
  · exact hfailed _ _
  · next existingFiles =>
    refine Prog.Survives.bind ((removeExisting_survives hdir existingFiles).mono ?_ fun _ _ h => h)
      fun r => ?_
    · rintro d ⟨entries, hm, hnames⟩
      exact ⟨entries, hm, fun name hmem => (hnames _ rfl name).1 hmem⟩
    split
    · exact hfailed _ _
    refine Prog.Survives.call (fun d h => h.recoverable hdir)
      (fun d e r d' h hx => readRestoreDir_exact h hx) fun r => ?_
    split
    · exact hfailed _ _
    · next files =>
      refine Prog.Survives.bind ((moveFiles_survives hdir files).mono ?_ fun _ _ h => h) fun r => ?_
      · rintro d ⟨entries, hm, hnames⟩
        exact ⟨entries, hm, fun name hfind => (hnames _ rfl name).2 hfind⟩
      split
      · exact hfailed _ _
      · refine (removeRestoreDir_survives hdir).mono ?_ fun _ _ h => h
        rintro d ⟨entries, hm, hempty⟩
        exact ⟨entries, hm, hempty rfl⟩

/-- A start leaves the work directory as a start may find it. Reference: `service/service.go:183
finishRestoreNode`. -/
theorem finishRestoreNode_survives :
    finishRestoreNode.Survives fsExec (Recoverable d₀) (fun _ => Recoverable d₀)
      (Recoverable d₀) := by
  refine Prog.Survives.call (M := fun stat d => Recoverable d₀ d ∧
    (stat = .ok true → ∃ entries, restoreDir d = some entries)) (fun _ h => h) ?_ fun stat => ?_
  · intro d e stat d' h hx
    obtain ⟨rfl, hfound⟩ := exec_statRestoreDir hx
    exact ⟨h, hfound⟩
  · unfold finishStatted
    split
    · rintro d ⟨hrec, hfound⟩
      obtain ⟨entries', hentries⟩ := hfound rfl
      rcases hrec with ⟨entries₀, entries, hdir, hm⟩ | ⟨hnone, -, -⟩
      · have hfinish := finishRestore_survives hdir d ⟨entries, hm, trivial⟩
        exact ⟨hfinish.1, fun r d' hrun => (hfinish.2 r d' hrun).1⟩
      · rw [hnone] at hentries
        cases hentries
    · exact Prog.Survives.ret (fun d h => h.1) fun d h => h.1
    · exact Prog.Survives.ret (fun d h => h.1) fun d h => h.1

/-- A start that completes leaves the work directory as it is to be. Reference:
`service/service.go:183 finishRestoreNode`. -/
theorem Recoverable.completes (h : Recoverable d₀ d) (hc : Completes d d') :
    d'.find name = restored d₀ name := by
  rcases h with ⟨entries₀, entries, hdir, hm⟩ | ⟨hnone, hfind, -⟩
  · rcases completes_iff.1 hc with ⟨_, _, hrun⟩ | ⟨hnone, -⟩
    · exact ((finishRestore_survives hdir d ⟨entries, hm, trivial⟩).2 _ _ hrun).2 rfl name
    · rw [hm.dir] at hnone
      cases hnone
  · rcases completes_iff.1 hc with ⟨entries, hdir, -⟩ | ⟨-, rfl⟩
    · rw [hnone] at hdir
      cases hdir
    · exact hfind name

end

/-! ## A start completes -/

section
variable {d entries : Entries}

theorem removeExisting_completes (names : List String) (d : Entries) :
    ∃ d', (removeExisting names).Runs fsExec d (.ok ()) d' ∧
      d'.find restoreName = d.find restoreName ∧
        ∀ name, name ≠ restoreName → name ∈ names ∨ d.find name = none → d'.find name = none := by
  induction names generalizing d with
  | nil => exact ⟨d, ⟨rfl, rfl⟩, rfl, fun name _ h => h.resolve_left List.not_mem_nil⟩
  | cons name names ih =>
    unfold removeExisting
    split
    · next hne =>
      obtain ⟨d', hrun, hrestore, hfree⟩ := ih (d.remove name)
      refine ⟨d', ⟨none, .ok (), d.remove name, rfl, hrun⟩, ?_, fun name' hne' h => ?_⟩
      · rw [hrestore, find_remove_of_ne (Ne.symm hne)]
      · apply hfree name' hne'
        by_cases heq : name' = name
        · rw [heq, find_remove_self]
          exact .inr rfl
        · rw [find_remove_of_ne heq]
          exact h.imp_left fun hmem => (List.mem_cons.1 hmem).resolve_left heq
    · next hrest =>
      obtain ⟨d', hrun, hrestore, hfree⟩ := ih d
      refine ⟨d', hrun, hrestore, fun name' hne' h => hfree name' hne' ?_⟩
      refine h.imp_left fun hmem => (List.mem_cons.1 hmem).resolve_left ?_
      rintro rfl
      exact hrest hne'

theorem moveFiles_completes (names : List String) {d entries : Entries}
    (hdir : restoreDir d = some entries) (hnodup : names.Nodup)
    (hnames : ∀ name ∈ names, name ≠ restoreName ∧ entries.find name ≠ none ∧ d.find name = none) :
    ∃ d', (moveFiles names).Runs fsExec d (.ok ()) d' := by
  induction names generalizing d entries with
  | nil => exact ⟨d, rfl, rfl⟩
  | cons name names ih =>
    obtain ⟨hnot, hnodup⟩ := List.nodup_cons.1 hnodup
    obtain ⟨hne, hsome, hfree⟩ := hnames name List.mem_cons_self
    obtain ⟨node, hnode⟩ := Option.ne_none_iff_exists'.1 hsome
    have hok := renameOut_free hdir hnode hfree
    have hdir' : restoreDir ((d.put restoreName (.dir (entries.remove name))).put name node) =
        some (entries.remove name) := by
      rw [restoreDir_eq_some, find_put_of_ne (Ne.symm hne), find_put_self]
    obtain ⟨d', hrun⟩ := ih hdir' hnodup fun name' hmem => by
      obtain ⟨hne', hsome', hfree'⟩ := hnames name' (List.mem_cons_of_mem _ hmem)
      have hother : name' ≠ name := by
        rintro rfl
        exact hnot hmem
      rw [find_remove_of_ne hother, find_put_of_ne hother, find_put_of_ne hne']
      exact ⟨hne', hsome', hfree'⟩
    refine ⟨d', none, .ok (), _, ?_, hrun⟩
    simp only [fsExec]
    rw [hok]

/-- A start that meets no fault completes. Reference: `service/service.go:183 finishRestoreNode`. -/
theorem finishRestoreNode_completes (hclash : ∀ entries, restoreDir d = some entries →
    entries.find restoreName = none) : ∃ d', Completes d d' := by
  cases hdir : restoreDir d with
  | none => exact ⟨d, completes_iff.2 (.inr ⟨hdir, rfl⟩)⟩
  | some entries =>
    obtain ⟨d₁, hremove, hrestore, hfree⟩ := removeExisting_completes entries.names d
    have hdir₁ : restoreDir d₁ = some entries := by
      rw [restoreDir_eq hrestore, hdir]
    have hnames : ∀ name ∈ entries.names,
        name ≠ restoreName ∧ entries.find name ≠ none ∧ d₁.find name = none := by
      intro name hmem
      have hne : name ≠ restoreName := by
        rintro rfl
        exact mem_names.1 hmem (hclash entries hdir)
      exact ⟨hne, mem_names.1 hmem, hfree name hne (.inl hmem)⟩
    obtain ⟨d₂, hmove⟩ := moveFiles_completes entries.names hdir₁ (nodup_names _) hnames
    have hread : fsExec d .readRestoreDir none = some (.ok entries.names, d) := by
      simp only [fsExec]
      rw [hdir]
    have hread₁ : fsExec d₁ .readRestoreDir none = some (.ok entries.names, d₁) := by
      simp only [fsExec]
      rw [hdir₁]
    refine ⟨d₂.remove restoreName, completes_iff.2 (.inl ⟨entries, hdir, ?_⟩)⟩
    refine Prog.runs_call_bind.2 ⟨none, .ok entries.names, d, hread, ?_⟩
    refine Prog.runs_bind.2 ⟨.ok (), d₁, hremove, ?_⟩
    refine Prog.runs_call_bind.2 ⟨none, .ok entries.names, d₁, hread₁, ?_⟩
    refine Prog.runs_bind.2 ⟨.ok (), d₂, hmove, ?_⟩
    exact Prog.runs_call.2 ⟨none, rfl⟩

end

/-- However often a restore is interrupted or fails, no restored entry is lost, the start that
completes leaves the restored entries and the others that were there, and unless the folder has an
entry of its own name, a start that meets no fault completes. Reference: `service/service.go:183
finishRestoreNode`. -/
theorem restore_survives_crashes {d₀ d : Entries}
    (hcrashes : Relation.ReflTransGen (finishRestoreNode.Passes fsExec) d₀ d) :
    NotLost d₀ d ∧
      (∀ d', Completes d d' → ∀ name, d'.find name = restored d₀ name) ∧
        ((∀ entries, restoreDir d₀ = some entries → entries.find restoreName = none) →
          ∃ d', Completes d d') := by
  have hrec : Recoverable d₀ d := finishRestoreNode_survives.recover .start hcrashes
  refine ⟨hrec.notLost, ?_, ?_⟩
  · exact fun d' hc name => hrec.completes hc
  · intro hclash
    apply finishRestoreNode_completes
    intro entries hdir
    rcases hrec with ⟨entries₀, entries', hdir₀, hm⟩ | ⟨hnone, _, _⟩
    · rw [hm.dir] at hdir
      cases hdir
      rw [hm.clash]
      exact hclash _ hdir₀
    · rw [hnone] at hdir
      cases hdir

/-- A work directory with a database and the folder with another one, and what is left of it when
the first start is interrupted after the old database is removed. Reference: `service/service.go:196
finishRestoreNode`. -/
def interruptedDir : Entries × Entries :=
  ([("nwc.db", .file [1]), ("restore", .dir [("nwc.db", .file [2])])],
    [("restore", .dir [("nwc.db", .file [2])])])

theorem restore_survives_crashes_once :
    Relation.ReflTransGen (finishRestoreNode.Passes fsExec) interruptedDir.1 interruptedDir.2 ∧
      restored interruptedDir.1 "nwc.db" = some (.file [2]) ∧
        ∃ d', finishRestoreNode.Runs fsExec interruptedDir.2 (.ok ()) d' ∧
          d'.find "nwc.db" = some (.file [2]) := by
  have hnames : Entries.names [("nwc.db", .file [2])] = ["nwc.db"] := by
    simp [Entries.names]
  have hpasses : finishRestoreNode.Passes fsExec interruptedDir.1 interruptedDir.2 := by
    refine .inr ⟨none, .ok true, interruptedDir.1, rfl, ?_⟩
    change finishRestore.Passes fsExec interruptedDir.1 interruptedDir.2
    refine .inr ⟨none, .ok ["nwc.db"], interruptedDir.1, ?_, ?_⟩
    · rw [← hnames]
      rfl
    · refine .inr ⟨none, .ok (), interruptedDir.2, rfl, .inl rfl⟩
  have hcrashes := Relation.ReflTransGen.single hpasses
  have hrestored : restored interruptedDir.1 "nwc.db" = some (.file [2]) := rfl
  obtain ⟨_, hexact, hcompletes⟩ := restore_survives_crashes hcrashes
  obtain ⟨d', hdone⟩ := hcompletes fun entries hdir => by
    cases hdir
    rfl
  obtain ⟨stat, hstat, hrun⟩ := hdone
  refine ⟨hcrashes, hrestored, d', ⟨none, stat, _, hstat, hrun⟩, ?_⟩
  rw [hexact d' ⟨stat, hstat, hrun⟩, hrestored]

end AlbyHub.Restore
