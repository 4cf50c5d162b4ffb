import AlbyHub.Go.Filepath
import AlbyHub.Interaction.Crash

/-!
# A file system

The entries of a file system without links, each of which is in a directory (`Disk`), and what the
calls of Go's `os` do to them. A call that fails may have done a part of its work: some of the
directories are made, some of the bytes are written, some of the entries are removed. Each operation
says what it changes, so that it changes nothing else.
-/

namespace Go

open Filepath Interaction

/-- Reference: the file system. -/
inductive Item where
  | file (content : List UInt8)
  | dir
  deriving DecidableEq, Repr

/-- The entries, by the names from the root to them. Reference: the file system. -/
structure Disk where
  item : List String → Option Item
  root : item [] = some .dir
  parents : ∀ p name, item (p ++ [name]) ≠ none → item p = some .dir

/-- Whether there is a file. Reference: Go `os.Stat`. -/
def Item.isFile : Option Item → Bool
  | some (.file _) => true
  | _ => false

/-- The entry stays where it is, and so do the directories from `p` on that it is in. Reference:
none. -/
def Keeps (keep : List String → Bool) (p q : List String) : Bool :=
  (List.range (q.length + 1)).all fun k => k < p.length || keep (q.take k)

namespace Disk

variable {d : Disk} {p q : List String} {n : Nat} {content : List UInt8}
variable {keep : List String → Bool}

/-- A file may be at the place. Reference: Go `os.OpenFile`. -/
def Takes (d : Disk) (p : List String) : Prop :=
  p ≠ [] ∧ d.item p.dropLast = some .dir ∧ d.item p ≠ some .dir

instance (d : Disk) (p : List String) : Decidable (d.Takes p) := inferInstanceAs (Decidable (_ ∧ _))

/-- No file is in the way. Reference: Go `os.MkdirAll`. -/
def Passable (d : Disk) (p : List String) (n : Nat) : Prop :=
  ∀ k ∈ List.range (n + 1), Item.isFile (d.item (p.take k)) = false

instance (d : Disk) (p : List String) (n : Nat) : Decidable (d.Passable p n) :=
  inferInstanceAs (Decidable (∀ k ∈ List.range (n + 1), _))

/-- An entry may be moved to a free place. Reference: Go `os.Rename`. -/
def Moves (d : Disk) (p q : List String) : Prop :=
  q ≠ [] ∧ d.item q.dropLast = some .dir ∧ d.item q = none ∧ p ≠ [] ∧ p.isPrefixOf q = false

instance (d : Disk) (p q : List String) : Decidable (d.Moves p q) :=
  inferInstanceAs (Decidable (_ ∧ _))

theorem dropLast_of_concat_eq {name : String} (h : q ++ [name] = p) : q = p.dropLast := by
  rw [← h, List.dropLast_concat]

/-- The file at the place gets a content. Reference: Go `os.OpenFile`, `File.Write`. -/
def write (d : Disk) (p : List String) (content : List UInt8) (h : d.Takes p) : Disk where
  item := fun q => if q = p then some (.file content) else d.item q
  root := by
    rw [if_neg (Ne.symm h.1)]
    exact d.root
  parents := by
    intro q name hq
    have hdir : d.item q = some .dir := by
      by_cases hqp : q ++ [name] = p
      · rw [dropLast_of_concat_eq hqp]
        exact h.2.1
      · rw [if_neg hqp] at hq
        exact d.parents q name hq
    have hne : q ≠ p := by
      rintro rfl
      exact h.2.2 hdir
    rw [if_neg hne]
    exact hdir

/-- The first directories of a path are made. Reference: Go `os.MkdirAll`. -/
def mkdirs (d : Disk) (p : List String) (n : Nat) (h : d.Passable p n) : Disk where
  item := fun q => if q.isPrefixOf p ∧ q.length ≤ n ∧ d.item q = none then some .dir else d.item q
  root := by
    split
    · rfl
    · exact d.root
  parents := by
    intro q name hq
    split
    · rfl
    · next hold =>
      split at hq
      · next hnew =>
        have hpre : q <+: p :=
          (List.prefix_append q [name]).trans (List.isPrefixOf_iff_prefix.1 hnew.1)
        have hlen : q.length ≤ n := by
          have := hnew.2.1
          rw [List.length_append] at this
          omega
        have hfile := h q.length (List.mem_range.2 (by omega))
        rw [← List.prefix_iff_eq_take.1 hpre] at hfile
        cases hitem : d.item q with
        | none => exact absurd ⟨List.isPrefixOf_iff_prefix.2 hpre, hlen, hitem⟩ hold
        | some item =>
          cases item with
          | file c => rw [hitem] at hfile; cases hfile
          | dir => rfl
      · exact d.parents q name hq

theorem keeps_concat {name : String} (h : Keeps keep p (q ++ [name]) = true) :
    Keeps keep p q = true := by
  unfold Keeps at h ⊢
  rw [List.all_eq_true] at h ⊢
  intro k hk
  have hk : k ≤ q.length := by
    have := List.mem_range.1 hk
    omega
  have hkeep := h k (List.mem_range.2 (by rw [List.length_append]; omega))
  rwa [List.take_append_of_le_length hk] at hkeep

/-- The entries from a place on are removed, but those that are kept. Reference: Go
`os.RemoveAll`. -/
def remove (d : Disk) (p : List String) (keep : List String → Bool) (h : p ≠ []) : Disk where
  item := fun q => if p.isPrefixOf q ∧ Keeps keep p q = false then none else d.item q
  root := by
    rw [if_neg]
    · exact d.root
    · rintro ⟨hpre, -⟩
      exact h (List.prefix_nil.1 (List.isPrefixOf_iff_prefix.1 hpre))
  parents := by
    intro q name hq
    split at hq
    · exact absurd rfl hq
    · next hkept =>
      rw [if_neg]
      · exact d.parents q name hq
      · rintro ⟨hpre, hgone⟩
        refine hkept ⟨?_, ?_⟩
        · exact List.isPrefixOf_iff_prefix.2
            ((List.isPrefixOf_iff_prefix.1 hpre).trans (List.prefix_append _ _))
        · cases hkeeps : Keeps keep p (q ++ [name]) with
          | false => rfl
          | true => rw [keeps_concat hkeeps] at hgone; cases hgone

/-- An entry is moved, with all that is in it. Reference: Go `os.Rename`. -/
def rename (d : Disk) (p q : List String) (h : d.Moves p q) : Disk where
  item := fun r =>
    if q.isPrefixOf r then d.item (p ++ r.drop q.length)
    else if p.isPrefixOf r then none else d.item r
  root := by
    rw [if_neg fun hpre => h.1 (List.prefix_nil.1 (List.isPrefixOf_iff_prefix.1 hpre)),
      if_neg fun hpre => h.2.2.2.1 (List.prefix_nil.1 (List.isPrefixOf_iff_prefix.1 hpre))]
    exact d.root
  parents := by
    intro r name hr
    obtain ⟨-, hparent, hfree, -, hapart⟩ := h
    have hapart : ¬ p <+: q := fun hpre => by
      rw [List.isPrefixOf_iff_prefix.2 hpre] at hapart
      cases hapart
    simp only [List.isPrefixOf_iff_prefix] at hr ⊢
    by_cases hq : q <+: r ++ [name]
    · rw [if_pos hq] at hr
      rcases List.prefix_concat_iff.1 hq with heq | hq
      · have hlast : r = q.dropLast := dropLast_of_concat_eq heq.symm
        rw [if_neg, if_neg, hlast]
        · exact hparent
        · intro hpre
          exact hapart (hpre.trans (hlast ▸ List.dropLast_prefix q))
        · intro hpre
          have hlen := hpre.length_le
          simp only [heq, List.length_append, List.length_singleton] at hlen
          omega
      · rw [if_pos hq]
        rw [List.drop_append_of_le_length hq.length_le, ← List.append_assoc] at hr
        exact d.parents _ name hr
    · rw [if_neg hq] at hr
      rw [if_neg fun hpre => hq (hpre.trans (List.prefix_append _ _))]
      split at hr
      · exact absurd rfl hr
      · next hp =>
        rw [if_neg fun hpre => hp (hpre.trans (List.prefix_append _ _))]
        exact d.parents r name hr

end Disk

/-! ## The calls -/

/-- What a call meets: it may fail, with a part of its work done, the name of a temporary file has a
random part, and a directory may be found empty. Reference: Go `os`. -/
structure Fault where
  error : Option String := none
  progress : Nat := 0
  keep : List String → Bool := fun _ => false
  random : Nat := 0
  bare : Bool := false

/-- A path is opened for writing, and emptied, by `openFile`; `write` is what is copied to an open
file. Reference: Go `os.CreateTemp`, `os.MkdirTemp`, `io.Copy`, `File.Sync`, `File.Seek`,
`os.MkdirAll`, `os.OpenFile`, `os.RemoveAll`, `os.Remove`, `os.Rename`. -/
inductive DiskCmd where
  | createTemp (dir pre suf : String)
  | mkdirTemp (dir pre : String)
  | write (path : String) (bytes : List UInt8)
  | sync (path : String)
  | seek (path : String)
  | mkdirAll (path : String)
  | openFile (path : String)
  | removeAll (path : String)
  | remove (path : String)
  | rename (oldpath newpath : String)

abbrev DiskCmd.Ans : DiskCmd → Type
  | .createTemp _ _ _ | .mkdirTemp _ _ => Except String String
  | _ => Except String Unit

abbrev DiskProg := Prog DiskCmd DiskCmd.Ans

/-- Reference: the calls of `DiskCmd`. -/
def DiskCmd.issue (c : DiskCmd) : DiskProg c.Ans := Prog.call c

/-- Reference: Go `os.joinPath`. -/
def joinPath (dir name : String) : String :=
  if dir.toList.getLast? = some '/' then dir ++ name else dir ++ "/" ++ name

/-- Where a path leads to, from the working directory. Reference: the file system. -/
def located (cwd path : String) : List String :=
  names true (if IsAbs path then path else cwd ++ "/" ++ path)

/-- What a call does. A temporary name that is taken is not the one that is chosen, and a directory
is only moved to a free place. Reference: Go `os`. -/
def diskExec (cwd : String) (d : Disk) : (c : DiskCmd) → Fault → Option (c.Ans × Disk)
  | .createTemp dir pre suf, f =>
    let path := joinPath dir (pre ++ toString f.random ++ suf)
    let p := located cwd path
    match f.error with
    | some e => some (.error e, d)
    | none =>
      if d.item p ≠ none then none
      else if h : d.Takes p then some (.ok path, d.write p [] h)
      else some (.error "no such file or directory", d)
  | .mkdirTemp dir pre, f =>
    let path := joinPath dir (pre ++ toString f.random)
    let p := located cwd path
    match f.error with
    | some e => some (.error e, d)
    | none =>
      if d.item p ≠ none then none
      else if h : d.item p.dropLast = some .dir ∧ d.Passable p p.length then
        some (.ok path, d.mkdirs p p.length h.2)
      else some (.error "no such file or directory", d)
  | .write path bytes, f =>
    let p := located cwd path
    match d.item p with
    | some (.file old) =>
      if h : d.Takes p then
        match f.error with
        | some e => some (.error e, d.write p (old ++ bytes.take f.progress) h)
        | none => some (.ok (), d.write p (old ++ bytes) h)
      else none
    | _ => none
  | .sync _, f | .seek _, f =>
    match f.error with
    | some e => some (.error e, d)
    | none => some (.ok (), d)
  | .mkdirAll path, f =>
    let p := located cwd path
    match f.error with
    | some e =>
      if h : d.Passable p f.progress then some (.error e, d.mkdirs p f.progress h) else none
    | none =>
      if h : d.Passable p p.length then some (.ok (), d.mkdirs p p.length h)
      else some (.error "not a directory", d)
  | .openFile path, f =>
    let p := located cwd path
    match f.error with
    | some e => some (.error e, d)
    | none =>
      if h : d.Takes p then some (.ok (), d.write p [] h)
      else if d.item p = some .dir then some (.error "is a directory", d)
      else some (.error "no such file or directory", d)
  | .removeAll path, f =>
    let p := located cwd path
    if h : p ≠ [] then
      match f.error with
      | some e => some (.error e, d.remove p f.keep h)
      | none => some (.ok (), d.remove p (fun _ => false) h)
    else some (.error "invalid argument", d)
  | .remove path, f =>
    let p := located cwd path
    if h : p ≠ [] then
      match f.error, d.item p with
      | some e, _ => some (.error e, d)
      | none, none => some (.error "no such file or directory", d)
      | none, some .dir =>
        -- what is not empty stays, here it may go as well
        if f.bare then some (.ok (), d.remove p (fun _ => false) h)
        else some (.error "directory not empty", d)
      | none, some (.file _) => some (.ok (), d.remove p (fun _ => false) h)
    else some (.error "invalid argument", d)
  | .rename oldpath newpath, f =>
    let p := located cwd oldpath
    let q := located cwd newpath
    match f.error with
    | some e => some (.error e, d)
    | none =>
      if d.item p = none then some (.error "no such file or directory", d)
      else if h : d.Moves p q then some (.ok (), d.rename p q h)
      else some (.error "file exists", d)

/-! ## Entries -/

section
variable {d d' : Disk} {p q : List String} {cwd dir path name : String}

/-- What an entry is in are directories. Reference: the file system. -/
theorem Disk.ancestors (h : d.item p ≠ none) (hpre : q <+: p) (hne : q ≠ p) :
    d.item q = some .dir := by
  obtain ⟨rest, rfl⟩ := hpre
  induction rest using List.reverseRecOn with
  | nil => exact absurd (List.append_nil q).symm hne
  | append_singleton rest name ih =>
    rw [← List.append_assoc] at h
    have hdir := d.parents _ _ h
    by_cases hrest : rest = []
    · rwa [hrest, List.append_nil] at hdir
    · refine ih ?_ fun heq => hrest (List.self_eq_append_right.1 heq)
      rw [hdir]
      exact Option.some_ne_none _

theorem Disk.below_none (h : d.item p = none) (hpre : p <+: q) : d.item q = none := by
  by_contra hq
  by_cases heq : p = q
  · exact hq (heq ▸ h)
  · rw [d.ancestors hq hpre heq] at h
    cases h

/-! ## Paths and places -/

/-- The absolute path leads to the same place. Reference: Go `filepath.Abs`. -/
theorem located_Abs {e : Option String} (hcwd : IsAbs cwd = true)
    (h : Abs (e.elim (.ok cwd) .error) path = .ok dir) :
    IsAbs dir = true ∧ names true dir = located cwd path := by
  unfold Abs at h
  unfold located
  split at h
  · next habs =>
    cases h
    rw [if_pos habs]
    exact ⟨isAbs_Clean habs, names_Clean habs⟩
  · next hrel =>
    cases e with
    | some e => cases h
    | none =>
      have hdir : Join [cwd, path] = dir := Except.ok.inj h
      have habs := isAbs_append (isAbs_append hcwd "/") path
      rw [if_neg hrel, ← hdir, Join_of_abs hcwd]
      exact ⟨isAbs_Clean habs, names_Clean habs⟩

theorem located_of_abs (h : IsAbs path = true) : located cwd path = names true path := by
  unfold located
  rw [if_pos h]

theorem names_append_name (hname : Name name) (dir : String) :
    names true (dir ++ "/" ++ name) = names true dir ++ [name] := by
  have hparts : parts name = [name] := by
    unfold parts
    rw [List.splitOn_eq_singleton hname.no_slash]
    simp
  rw [names_append, hparts, foldl_step_names (List.forall_mem_singleton.2 hname)]
  simp

/-- An entry of a directory. Reference: Go `os.joinPath`. -/
theorem located_joinPath (hdir : dir ≠ "") (hname : Name name) :
    located cwd (joinPath dir name) = located cwd dir ++ [name] := by
  have habs : IsAbs (joinPath dir name) = IsAbs dir := by
    have hlist : dir.toList ≠ [] := fun heq => hdir (String.toList_injective heq)
    unfold IsAbs joinPath
    split <;> simp [String.toList_append, List.head?_append_of_ne_nil _ hlist]
  -- a slash at the end of the directory makes no difference
  have hjoin : ∀ pre, names true (pre ++ joinPath dir name) =
      names true (pre ++ dir) ++ [name] := by
    intro pre
    unfold joinPath
    split
    · next hlast =>
      obtain ⟨cs, hcs⟩ := List.getLast?_eq_some_iff.1 hlast
      have hdir : dir = String.ofList cs ++ "/" := by
        refine String.toList_injective ?_
        simp [String.toList_append, hcs]
      have hslash : names true (pre ++ dir) = names true (pre ++ String.ofList cs) := by
        have happend := names_append (pre ++ String.ofList cs) ""
        have hparts : parts "" = [""] := by decide
        rw [hparts] at happend
        rw [hdir, ← String.append_assoc]
        simpa [step] using happend
      rw [hslash, ← names_append_name hname, hdir]
      simp [String.append_assoc]
    · rw [← names_append_name hname]
      simp [String.append_assoc]
  unfold located
  rw [habs]
  split
  · simpa using hjoin ""
  · exact hjoin (cwd ++ "/")

/-- A temporary name. Reference: Go `os.CreateTemp`, `os.MkdirTemp`. -/
theorem name_temp {pre suf : String} {c : Char} (hfirst : pre.toList.head? = some c) (hc : c ≠ '.')
    (hpre : '/' ∉ pre.toList) (hsuf : '/' ∉ suf.toList) (random : Nat) :
    Name (pre ++ toString random ++ suf) := by
  have hlist : (pre ++ toString random ++ suf).toList =
      pre.toList ++ Nat.toDigits 10 random ++ suf.toList := by
    simp [String.toList_append]
  have hhead : (pre ++ toString random ++ suf).toList.head? = some c := by
    rw [hlist, List.append_assoc]
    cases hp : pre.toList with
    | nil => rw [hp] at hfirst; cases hfirst
    | cons b bs => rw [hp] at hfirst; exact hfirst
  refine ⟨?_, ?_, ?_, ?_⟩
  · intro heq
    rw [heq] at hhead
    cases hhead
  · intro heq
    rw [heq] at hhead
    exact hc (Option.some.inj hhead).symm
  · intro heq
    rw [heq] at hhead
    exact hc (Option.some.inj hhead).symm
  · rw [hlist]
    simp only [List.mem_append, not_or]
    refine ⟨⟨hpre, fun hmem => ?_⟩, hsuf⟩
    exact absurd (Nat.isDigit_of_mem_toDigits (by decide) (by decide) hmem) (by decide)

end

/-! ## What a call does -/

section
variable {d d' : Disk} {cwd dir pre suf path oldpath newpath : String} {bytes : List UInt8}
variable {f : Fault}

/-- The name is free. Reference: Go `os.CreateTemp`. -/
theorem exec_createTemp {r : Except String String}
    (h : diskExec cwd d (.createTemp dir pre suf) f = some (r, d')) :
    (∃ e, r = .error e ∧ d' = d) ∨ ∃ path p, path = joinPath dir (pre ++ toString f.random ++ suf) ∧
      p = located cwd path ∧ r = .ok path ∧ d.item p = none ∧
      ∃ htakes : d.Takes p, d' = d.write p [] htakes := by
  simp only [diskExec] at h
  split at h
  · cases h
    exact .inl ⟨_, rfl, rfl⟩
  · split at h
    · cases h
    · next hfree =>
      split at h
      · next htakes =>
        cases h
        exact .inr ⟨_, _, rfl, rfl, rfl, not_not.1 hfree, htakes, rfl⟩
      · cases h
        exact .inl ⟨_, rfl, rfl⟩

/-- Reference: Go `os.MkdirTemp`. -/
theorem exec_mkdirTemp {r : Except String String}
    (h : diskExec cwd d (.mkdirTemp dir pre) f = some (r, d')) :
    (∃ e, r = .error e ∧ d' = d) ∨ ∃ path p, path = joinPath dir (pre ++ toString f.random) ∧
      p = located cwd path ∧ r = .ok path ∧ d.item p = none ∧ d.item p.dropLast = some .dir ∧
      ∃ hpass : d.Passable p p.length, d' = d.mkdirs p p.length hpass := by
  simp only [diskExec] at h
  split at h
  · cases h
    exact .inl ⟨_, rfl, rfl⟩
  · split at h
    · cases h
    · next hfree =>
      split at h
      · next hdir =>
        cases h
        exact .inr ⟨_, _, rfl, rfl, rfl, not_not.1 hfree, hdir.1, hdir.2, rfl⟩
      · cases h
        exact .inl ⟨_, rfl, rfl⟩

/-- A part of the bytes is written, or all of them. Reference: Go `io.Copy`. -/
theorem exec_write {r : Except String Unit}
    (h : diskExec cwd d (.write path bytes) f = some (r, d')) :
    ∃ old written, d.item (located cwd path) = some (.file old) ∧ (r = .ok () → written = bytes) ∧
      ∃ htakes : d.Takes (located cwd path),
        d' = d.write (located cwd path) (old ++ written) htakes := by
  simp only [diskExec] at h
  split at h
  · next old hold =>
    split at h
    · next htakes =>
      split at h
      · cases h
        exact ⟨old, _, hold, fun hr => (by cases hr), htakes, rfl⟩
      · cases h
        exact ⟨old, bytes, hold, fun _ => rfl, htakes, rfl⟩
    · cases h
  · cases h

/-- Reference: Go `File.Sync`. -/
theorem exec_sync {r : Except String Unit} (h : diskExec cwd d (.sync path) f = some (r, d')) :
    d' = d := by
  simp only [diskExec] at h
  split at h <;> cases h <;> rfl

/-- Reference: Go `File.Seek`. -/
theorem exec_seek {r : Except String Unit} (h : diskExec cwd d (.seek path) f = some (r, d')) :
    d' = d := by
  simp only [diskExec] at h
  split at h <;> cases h <;> rfl

/-- Some of the directories are made, or all of them. Reference: Go `os.MkdirAll`. -/
theorem exec_mkdirAll {r : Except String Unit}
    (h : diskExec cwd d (.mkdirAll path) f = some (r, d')) :
    (∃ e, r = .error e ∧ d' = d) ∨ ∃ n, ∃ hpass : d.Passable (located cwd path) n,
      d' = d.mkdirs (located cwd path) n hpass ∧ (r = .ok () → n = (located cwd path).length) := by
  simp only [diskExec] at h
  split at h
  · split at h
    · next hpass =>
      cases h
      exact .inr ⟨_, hpass, rfl, fun hr => (by cases hr)⟩
    · cases h
  · split at h
    · next hpass =>
      cases h
      exact .inr ⟨_, hpass, rfl, fun _ => rfl⟩
    · cases h
      exact .inl ⟨_, rfl, rfl⟩

/-- Reference: Go `os.OpenFile`. -/
theorem exec_openFile {r : Except String Unit}
    (h : diskExec cwd d (.openFile path) f = some (r, d')) :
    (∃ e, r = .error e ∧ d' = d) ∨ r = .ok () ∧ ∃ htakes : d.Takes (located cwd path),
      d' = d.write (located cwd path) [] htakes := by
  simp only [diskExec] at h
  split at h
  · cases h
    exact .inl ⟨_, rfl, rfl⟩
  · split at h
    · next htakes =>
      cases h
      exact .inr ⟨rfl, htakes, rfl⟩
    · split at h <;> cases h <;> exact .inl ⟨_, rfl, rfl⟩

/-- Some of the entries are removed, or all of them. Reference: Go `os.RemoveAll`. -/
theorem exec_removeAll {r : Except String Unit}
    (h : diskExec cwd d (.removeAll path) f = some (r, d')) :
    (∃ e, r = .error e ∧ d' = d) ∨ ∃ keep, ∃ hne : located cwd path ≠ [],
      d' = d.remove (located cwd path) keep hne ∧ (r = .ok () → keep = fun _ => false) := by
  simp only [diskExec] at h
  split at h
  · next hne =>
    split at h
    · cases h
      exact .inr ⟨_, hne, rfl, fun hr => (by cases hr)⟩
    · cases h
      exact .inr ⟨_, hne, rfl, fun _ => rfl⟩
  · cases h
    exact .inl ⟨_, rfl, rfl⟩

/-- Reference: Go `os.Remove`. -/
theorem exec_remove {r : Except String Unit}
    (h : diskExec cwd d (.remove path) f = some (r, d')) :
    (∃ e, r = .error e ∧ d' = d) ∨ ∃ hne : located cwd path ≠ [],
      r = .ok () ∧ d' = d.remove (located cwd path) (fun _ => false) hne := by
  simp only [diskExec] at h
  split at h
  · next hne =>
    split at h
    · cases h
      exact .inl ⟨_, rfl, rfl⟩
    · cases h
      exact .inl ⟨_, rfl, rfl⟩
    · split at h
      · cases h
        exact .inr ⟨hne, rfl, rfl⟩
      · cases h
        exact .inl ⟨_, rfl, rfl⟩
    · cases h
      exact .inr ⟨hne, rfl, rfl⟩
  · cases h
    exact .inl ⟨_, rfl, rfl⟩

/-- Reference: Go `os.Rename`. -/
theorem exec_rename {r : Except String Unit}
    (h : diskExec cwd d (.rename oldpath newpath) f = some (r, d')) :
    (∃ e, r = .error e ∧ d' = d) ∨
      ∃ hmoves : d.Moves (located cwd oldpath) (located cwd newpath), r = .ok () ∧
        d' = d.rename (located cwd oldpath) (located cwd newpath) hmoves := by
  simp only [diskExec] at h
  split at h
  · cases h
    exact .inl ⟨_, rfl, rfl⟩
  · split at h
    · cases h
      exact .inl ⟨_, rfl, rfl⟩
    · split at h
      · next hmoves =>
        cases h
        exact .inr ⟨hmoves, rfl, rfl⟩
      · cases h
        exact .inl ⟨_, rfl, rfl⟩

end

end Go
