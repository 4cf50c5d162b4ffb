import Mathlib.Data.List.Infix

/-!
# Paths

Go's `path/filepath` on Unix, on the names between the slashes. `Clean` walks over the names with a
stack, where `..` takes the last one away; the file system walks over an absolute path in the same
way (`names true`). A path that `IsLocal` accepts never takes away more than it has put: behind a
directory it leads to names below that directory (`names_join`), whatever it is made of.
-/

namespace Go.Filepath

/-- What is between the slashes. Reference: Go `strings.Split`. -/
def parts (path : String) : List String := (path.toList.splitOn '/').map String.ofList

/-- Reference: Go `strings.Join` with a slash. -/
def joinSlash (names : List String) : String :=
  String.ofList (['/'].intercalate (names.map String.toList))

/-- Reference: Go `filepath.IsAbs`. -/
def IsAbs (path : String) : Bool := path.toList.head? = some '/'

/-- A part of the path; the names so far are there with the last one first. Reference: Go
`filepath.Clean`. -/
def step (rooted : Bool) (out : List String) (name : String) : List String :=
  if name = "" ∨ name = "." then out
  else if name = ".." then
    match out with
    | [] => if rooted then [] else [".."]
    | last :: rest => if last = ".." then ".." :: last :: rest else rest
  else name :: out

/-- The names of a path, from the root or from a directory. Reference: Go `filepath.Clean`. -/
def names (rooted : Bool) (path : String) : List String :=
  ((parts path).foldl (step rooted) []).reverse

/-- Reference: Go `filepath.Clean`. -/
def Clean (path : String) : String :=
  let joined := joinSlash (names (IsAbs path) path)
  if IsAbs path then "/" ++ joined else if joined = "" then "." else joined

/-- Reference: Go `filepath.Join`. -/
def Join (elems : List String) : String :=
  match elems.dropWhile (· = "") with
  | [] => ""
  | elem :: elems => Clean (joinSlash (elem :: elems))

/-- Reference: Go `filepath.Dir`. -/
def Dir (path : String) : String :=
  Clean (String.ofList (path.toList.reverse.dropWhile (· ≠ '/')).reverse)

/-- Reference: Go `strings.HasPrefix`. -/
def HasPrefix (path pre : String) : Bool := pre.toList.isPrefixOf path.toList

/-- Reference: Go `filepath.IsLocal`. -/
def IsLocal (path : String) : Bool :=
  if IsAbs path ∨ path = "" then false
  else
    let path := if "." ∈ parts path ∨ ".." ∈ parts path then Clean path else path
    !(path = ".." ∨ HasPrefix path "../")

/-- A path from the working directory. Reference: Go `filepath.Abs`. -/
def Abs (cwd : Except String String) (path : String) : Except String String :=
  if IsAbs path then .ok (Clean path) else cwd.map fun wd => Join [wd, path]

/-! ## Names -/

/-- A name of a directory entry. Reference: the file system. -/
structure Name (name : String) : Prop where
  ne_empty : name ≠ ""
  ne_dot : name ≠ "."
  ne_dotdot : name ≠ ".."
  no_slash : '/' ∉ name.toList

section
variable {rooted : Bool} {path dir name : String} {ns out base ps : List String}

theorem not_mem_of_mem_splitOn {a : Char} {l : List Char} (xs : List Char)
    (h : l ∈ xs.splitOn a) : a ∉ l := by
  induction xs generalizing l with
  | nil =>
    rw [List.splitOn_nil, List.mem_singleton] at h
    rw [h]
    exact List.not_mem_nil
  | cons x xs ih =>
    rw [List.splitOn_cons_eq_if_modifyHead] at h
    split at h
    · rcases List.mem_cons.1 h with rfl | h
      · exact List.not_mem_nil
      · exact ih h
    · next hne =>
      cases hxs : xs.splitOn a with
      | nil => exact absurd hxs (List.splitOn_ne_nil _ _)
      | cons first rest =>
        rw [hxs] at h ih
        rcases List.mem_cons.1 h with rfl | h
        · have hx : a ≠ x := fun heq => hne (by simp [heq])
          simp [hx, ih List.mem_cons_self]
        · exact ih (List.mem_cons_of_mem _ h)

theorem no_slash_of_mem_parts (h : name ∈ parts path) : '/' ∉ name.toList := by
  obtain ⟨l, hl, rfl⟩ := List.mem_map.1 h
  rw [String.toList_ofList]
  exact not_mem_of_mem_splitOn _ hl

theorem parts_append (dir name : String) :
    parts (dir ++ "/" ++ name) = parts dir ++ parts name := by
  unfold parts
  rw [← List.map_append, ← List.splitOn_append_cons_self]
  simp [String.toList_append]

theorem parts_joinSlash (hne : ns ≠ []) (hns : ∀ n ∈ ns, '/' ∉ n.toList) :
    parts (joinSlash ns) = ns := by
  unfold parts joinSlash
  rw [String.toList_ofList, List.splitOn_intercalate _ ?_ (by simpa using hne), List.map_map]
  · simp
  · intro l hl
    obtain ⟨n, hn, rfl⟩ := List.mem_map.1 hl
    exact hns n hn

/-! ## The walk over the names -/

/-- The names of entries stay where they are. Reference: Go `filepath.Clean`. -/
theorem foldl_step_names (hns : ∀ n ∈ ns, Name n) (out : List String) :
    ns.foldl (step rooted) out = ns.reverse ++ out := by
  induction ns generalizing out with
  | nil => rfl
  | cons n ns ih =>
    have hn := hns n List.mem_cons_self
    have hstep : step rooted out n = n :: out := by
      simp [step, hn.ne_empty, hn.ne_dot, hn.ne_dotdot]
    rw [List.foldl_cons, hstep, ih fun m hm => hns m (List.mem_cons_of_mem _ hm)]
    simp

theorem step_names (hname : '/' ∉ name.toList) (hout : ∀ n ∈ out, Name n) :
    ∀ n ∈ step true out name, Name n := by
  unfold step
  split
  · exact hout
  · next hne =>
    rw [not_or] at hne
    split
    · next hdots =>
      split
      · simp
      · next last rest =>
        have hlast := hout last List.mem_cons_self
        rw [if_neg hlast.ne_dotdot]
        exact fun n hn => hout n (List.mem_cons_of_mem _ hn)
    · next hdots =>
      intro n hn
      rcases List.mem_cons.1 hn with rfl | hn
      · exact ⟨hne.1, hne.2, hdots, hname⟩
      · exact hout n hn

/-- From the root, a path leads to names of entries. Reference: the file system. -/
theorem names_rooted (path : String) : ∀ n ∈ names true path, Name n := by
  have hfold : ∀ ps : List String, (∀ p ∈ ps, '/' ∉ p.toList) → ∀ out : List String,
      (∀ n ∈ out, Name n) → ∀ n ∈ ps.foldl (step true) out, Name n := by
    intro ps
    induction ps with
    | nil => exact fun _ out hout => hout
    | cons p ps ih =>
      intro hps out hout
      exact ih (fun q hq => hps q (List.mem_cons_of_mem _ hq)) _
        (step_names (hps p List.mem_cons_self) hout)
  intro n hn
  exact hfold _ (fun p hp => no_slash_of_mem_parts hp) [] (by simp) n (List.mem_reverse.1 hn)

/-- Once there is a `..`, it stays. Reference: Go `filepath.Clean`. -/
theorem step_dotdot (h : ".." ∈ out) : ".." ∈ step false out name := by
  unfold step
  split
  · exact h
  · split
    · split
      · cases h
      · next last rest =>
        split
        · exact List.mem_cons_self
        · next hlast => exact (List.mem_cons.1 h).resolve_left (Ne.symm hlast)
    · exact List.mem_cons_of_mem _ h

theorem foldl_step_dotdot (h : ".." ∈ out) : ".." ∈ ps.foldl (step false) out := by
  induction ps generalizing out with
  | nil => exact h
  | cons p ps ih => exact ih (step_dotdot h)

/-- Where no `..` is left over, nothing below the stack is taken away. Reference: Go
`filepath.Clean`. -/
theorem foldl_step_local (base : List String) (h : ".." ∉ ps.foldl (step false) out) :
    ps.foldl (step true) (out ++ base) = ps.foldl (step false) out ++ base := by
  induction ps generalizing out with
  | nil => rfl
  | cons p ps ih =>
    rw [List.foldl_cons] at h ⊢
    have hout : ".." ∉ step false out p := fun hmem => h (foldl_step_dotdot hmem)
    have hstep : step true (out ++ base) p = step false out p ++ base := by
      unfold step at hout ⊢
      split
      · rfl
      · split
        · next hne hdots =>
          simp only [hdots, if_true] at hout ⊢
          cases out with
          | nil => simp at hout
          | cons last rest =>
            simp only [List.cons_append] at hout ⊢
            split
            · next hlast =>
              rw [if_pos hlast] at hout
              simp at hout
            · rfl
        · rfl
    rw [hstep, List.foldl_cons, ih h]

/-- No `..` comes from other names. Reference: Go `filepath.Clean`. -/
theorem foldl_step_plain (hps : ".." ∉ ps) (hout : ".." ∉ out) :
    ".." ∉ ps.foldl (step rooted) out := by
  induction ps generalizing out with
  | nil => exact hout
  | cons p ps ih =>
    rw [List.mem_cons, not_or] at hps
    refine ih hps.2 ?_
    unfold step
    split
    · exact hout
    · rw [if_neg (Ne.symm hps.1)]
      simp [hps.1, hout]

/-- What is left over of `..` is at the front of the path. Reference: Go `filepath.Clean`. -/
theorem foldl_step_bottom (hout : ".." ∈ out → out.getLast? = some "..") :
    ".." ∈ ps.foldl (step false) out → (ps.foldl (step false) out).getLast? = some ".." := by
  induction ps generalizing out with
  | nil => exact hout
  | cons p ps ih =>
    refine ih ?_
    unfold step
    split
    · exact hout
    · split
      · split
        · simp
        · next last rest =>
          split
          · next hlast =>
            intro _
            rw [List.getLast?_cons_cons]
            exact hlast ▸ hout (by simp [hlast])
          · intro hmem
            have hbottom := hout (List.mem_cons_of_mem _ hmem)
            cases rest with
            | nil => cases hmem
            | cons next rest => rwa [List.getLast?_cons_cons] at hbottom
      · next hdots =>
        intro hmem
        have hmem : ".." ∈ out := (List.mem_cons.1 hmem).resolve_left (Ne.symm hdots)
        have hbottom := hout hmem
        cases out with
        | nil => cases hmem
        | cons last rest => rwa [List.getLast?_cons_cons]

/-! ## Local paths -/

theorem joinSlash_cons_cons (a b : String) (ns : List String) :
    joinSlash (a :: b :: ns) = a ++ "/" ++ joinSlash (b :: ns) := by
  refine String.toList_injective ?_
  simp [joinSlash, String.toList_append, List.intercalate_cons_cons]

theorem joinSlash_singleton (a : String) : joinSlash [a] = a := by simp [joinSlash]

/-- What starts with a name is not empty. Reference: none. -/
theorem joinSlash_ne_empty (hname : name ≠ "") (ns : List String) :
    joinSlash (name :: ns) ≠ "" := by
  cases ns with
  | nil => rwa [joinSlash_singleton]
  | cons next ns =>
    rw [joinSlash_cons_cons]
    intro heq
    have hlist := congrArg String.toList heq
    simp [String.toList_append] at hlist

theorem Clean_of_rel (hrel : IsAbs path = false) (hne : joinSlash (names false path) ≠ "") :
    Clean path = joinSlash (names false path) := by
  unfold Clean
  simp only [hrel, Bool.false_eq_true, if_false]
  rw [if_neg hne]

/-- A local path has no `..` left over. Reference: Go `filepath.IsLocal`. -/
theorem no_dotdot_of_isLocal (h : IsLocal path = true) : ".." ∉ names false path := by
  unfold IsLocal at h
  split at h
  · cases h
  · next hpath =>
    rw [not_or, Bool.not_eq_true] at hpath
    intro hmem
    have hfold : ".." ∈ (parts path).foldl (step false) [] := List.mem_reverse.1 hmem
    have hdots : ".." ∈ parts path := by
      by_contra hno
      exact foldl_step_plain hno (by simp) hfold
    -- the cleaned path starts with what is left over
    have hfirst : (names false path).head? = some ".." := by
      rw [names, List.head?_reverse, foldl_step_bottom (by simp) hfold]
    simp only [hdots, or_true, if_true] at h
    cases hnames : names false path with
    | nil => rw [hnames] at hmem; cases hmem
    | cons first rest =>
      rw [hnames] at hfirst
      cases hfirst
      have hne : joinSlash (names false path) ≠ "" := by
        rw [hnames]
        exact joinSlash_ne_empty (by decide) rest
      rw [Clean_of_rel hpath.1 hne, hnames] at h
      cases rest with
      | nil =>
        rw [joinSlash_singleton] at h
        exact absurd h (by decide)
      | cons next rest =>
        rw [joinSlash_cons_cons] at h
        simp [HasPrefix, String.toList_append] at h

/-! ## Absolute paths -/

theorem isAbs_append (h : IsAbs dir = true) (name : String) : IsAbs (dir ++ name) = true := by
  unfold IsAbs at h ⊢
  rw [String.toList_append]
  cases hdir : dir.toList with
  | nil => rw [hdir] at h; cases h
  | cons c cs => rw [hdir] at h; exact h

theorem isAbs_Clean (h : IsAbs path = true) : IsAbs (Clean path) = true := by
  unfold Clean
  simp only [h, if_true]
  exact isAbs_append (by decide) _

/-- From the root, the parts of the second path are walked over after those of the first.
Reference: the file system. -/
theorem names_append (dir name : String) : names true (dir ++ "/" ++ name) =
    ((parts name).foldl (step true) (names true dir).reverse).reverse := by
  unfold names
  rw [parts_append, List.foldl_append, List.reverse_reverse]

/-- A path of names leads to these names. Reference: the file system. -/
theorem names_joinSlash (hns : ∀ n ∈ ns, Name n) : names true ("/" ++ joinSlash ns) = ns := by
  have happend := names_append "" (joinSlash ns)
  have hroot : names true "" = [] := by decide
  rw [hroot] at happend
  have hpath : "" ++ "/" ++ joinSlash ns = "/" ++ joinSlash ns := by simp
  rw [hpath] at happend
  rw [happend]
  cases ns with
  | nil => decide
  | cons n ns =>
    rw [parts_joinSlash (List.cons_ne_nil _ _) fun m hm => (hns m hm).no_slash,
      foldl_step_names hns]
    simp

/-- Reference: Go `filepath.Clean`. -/
theorem Clean_of_abs (h : IsAbs path = true) :
    Clean path = "/" ++ joinSlash (names true path) := by
  unfold Clean
  simp only [h, if_true]

/-- The cleaned path leads to the same place. Reference: Go `filepath.Clean`. -/
theorem names_Clean (h : IsAbs path = true) : names true (Clean path) = names true path := by
  rw [Clean_of_abs h, names_joinSlash (names_rooted path)]

/-- Behind an absolute directory. Reference: Go `filepath.Join`. -/
theorem Join_of_abs (h : IsAbs dir = true) (name : String) :
    Join [dir, name] = Clean (dir ++ "/" ++ name) := by
  have hne : dir ≠ "" := by
    rintro rfl
    exact absurd h (by decide)
  unfold Join
  rw [List.dropWhile_cons_of_neg (by simpa using hne)]
  simp only
  rw [joinSlash_cons_cons, joinSlash_singleton]

/-- Whatever a local path is made of, behind a directory it leads to its names below the directory.
Reference: Go `filepath.IsLocal`, `filepath.Join`. -/
theorem names_join (hdir : IsAbs dir = true) (hlocal : IsLocal name = true) :
    names true (Join [dir, name]) = names true dir ++ names false name := by
  rw [Join_of_abs hdir, names_Clean (isAbs_append (isAbs_append hdir "/") name), names_append]
  have hfold := foldl_step_local (names true dir).reverse
    (List.mem_reverse.not.1 (no_dotdot_of_isLocal hlocal))
  rw [List.nil_append] at hfold
  rw [hfold, List.reverse_append, List.reverse_reverse]
  rfl

theorem joinSlash_append {ms : List String} (hns : ns ≠ []) (hms : ms ≠ []) :
    joinSlash (ns ++ ms) = joinSlash ns ++ "/" ++ joinSlash ms := by
  induction ns with
  | nil => exact absurd rfl hns
  | cons n ns ih =>
    cases ns with
    | nil =>
      obtain ⟨m, ms, rfl⟩ := List.exists_cons_of_ne_nil hms
      rw [List.singleton_append, joinSlash_cons_cons, joinSlash_singleton]
    | cons n' ns =>
      rw [List.cons_append, List.cons_append, joinSlash_cons_cons, joinSlash_cons_cons,
        ← List.cons_append, ih (List.cons_ne_nil _ _)]
      simp [String.append_assoc]

/-- The directory of a path that ends with a name. Reference: Go `filepath.Dir`. -/
theorem Dir_append (dir : String) (hname : '/' ∉ name.toList) :
    Dir (dir ++ "/" ++ name) = Clean (dir ++ "/") := by
  have hlist : (dir ++ "/" ++ name).toList.reverse =
      name.toList.reverse ++ '/' :: dir.toList.reverse := by
    simp [String.toList_append]
  have hdrop : (dir ++ "/" ++ name).toList.reverse.dropWhile (· ≠ '/') =
      '/' :: dir.toList.reverse := by
    rw [hlist, List.dropWhile_append_of_pos, List.dropWhile_cons_of_neg (by simp)]
    intro c hc
    have hne : c ≠ '/' := by
      rintro rfl
      exact hname (List.mem_reverse.1 hc)
    simpa using hne
  unfold Dir
  rw [hdrop]
  congr 1
  refine String.toList_injective ?_
  simp [String.toList_append]

/-- The directory that an entry is in. Reference: Go `filepath.Dir`. -/
theorem names_Dir (hns : ∀ n ∈ ns, Name n) (hname : Name name) :
    IsAbs (Dir ("/" ++ joinSlash (ns ++ [name]))) = true ∧
      names true (Dir ("/" ++ joinSlash (ns ++ [name]))) = ns := by
  obtain ⟨dir, hpath, habs, hdir⟩ : ∃ dir, "/" ++ joinSlash (ns ++ [name]) = dir ++ "/" ++ name ∧
      IsAbs (dir ++ "/") = true ∧ names true dir = ns := by
    cases ns with
    | nil => exact ⟨"", by simp [joinSlash_singleton], by decide, by decide⟩
    | cons n ns =>
      refine ⟨"/" ++ joinSlash (n :: ns), ?_, isAbs_append (isAbs_append (by decide) _) _,
        names_joinSlash hns⟩
      rw [joinSlash_append (List.cons_ne_nil _ _) (List.cons_ne_nil _ _), joinSlash_singleton]
      simp [String.append_assoc]
  have hslash : names true (dir ++ "/") = ns := by
    have happend := names_append dir ""
    have hstep : (parts "").foldl (step true) (names true dir).reverse =
        (names true dir).reverse := by
      have hparts : parts "" = [""] := by decide
      rw [hparts]
      rfl
    rw [hstep, List.reverse_reverse, hdir] at happend
    simpa using happend
  rw [hpath, Dir_append dir hname.no_slash]
  exact ⟨isAbs_Clean habs, (names_Clean habs).trans hslash⟩

end

end Go.Filepath
