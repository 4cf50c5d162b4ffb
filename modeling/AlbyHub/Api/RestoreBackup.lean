import AlbyHub.Go.Disk

/-!
# Restoring a backup

`RestoreBackup` decrypts a file, extracts the archive into a staging directory and moves that to the
folder `restore` of the work directory, from which the next start takes it. The names of the entries
come from the archive and may be anything. Whatever they are, and wherever the calls fail or the
process dies, nothing is changed but the folder and the own temporary entries, the old database is
only removed once the folder holds the archive, and the folder holds what is left of the old one, or
the whole archive and nothing else (`restore_is_contained`). The goroutine that removes the old
database runs beside the end of the call. What it does before, which is to shut the service down,
is left out.
-/

namespace AlbyHub

open Go Filepath Interaction

/-! ## The model -/

/-- An entry of an archive, with what it gives up to its end or to an error. Reference: Go
`zip.File`, `File.Open`. -/
structure ZipFile where
  name : String
  opened : Except String (List UInt8 × Option String)

/-- What the call meets besides the files: the configuration, what is decrypted up to its end or to
an error, and the reader of archives. Of the removals of the goroutine, `early` come before that of
the staging directory, and `late` more before that of the temporary file. A work directory is always
set (`service/service.go:65 NewService`). Reference: `api/backup.go:251 RestoreBackup`. -/
structure RestoreEnv where
  workdir : String
  cwd : String
  getwd : Option String := none
  databaseUri : String
  dialector : String
  decrypted : Except String (List UInt8 × Option String)
  zipReader : List UInt8 → Except String (List ZipFile)
  quote : String → String
  early : Nat := 0
  late : Nat := 0
  cwd_abs : IsAbs cwd = true
  workdir_ne : workdir ≠ ""

/-- Reference: `api/backup.go:314 RestoreBackup`. -/
def extractZipEntry (quote : String → String) (stagingDir : String) (zipFile : ZipFile) :
    DiskProg (Except String Unit) := do
  let entryName := zipFile.name
  if ¬ IsLocal entryName then
    return .error ("refusing to extract zip entry outside restore directory: " ++ quote entryName)
  else
    let fsFilePath := Join [stagingDir, entryName]
    if fsFilePath ≠ stagingDir ∧ ¬ HasPrefix fsFilePath (stagingDir ++ "/") then
      return .error ("refusing to extract zip entry outside restore directory: " ++
        quote entryName)
    else do
      match ← DiskCmd.issue (.mkdirAll (Dir fsFilePath)) with
      | .error err => return .error ("failed to create directory for zip entry: " ++ err)
      | .ok () =>
        match zipFile.opened with
        | .error err => return .error ("failed to open zip entry for reading: " ++ err)
        | .ok (bytes, readErr) => do
          match ← DiskCmd.issue (.openFile fsFilePath) with
          | .error err => return .error ("failed to create destination file: " ++ err)
          | .ok () => do
            match ← DiskCmd.issue (.write fsFilePath bytes) with
            | .error err =>
              return .error ("failed to write zip entry to destination file: " ++ err)
            | .ok () =>
              match readErr with
              | some err => return .error ("failed to write zip entry to destination file: " ++ err)
              | none => return .ok ()

/-- The entries are extracted one by one. Reference: `api/backup.go:355 RestoreBackup`. -/
def extractZipEntries (quote : String → String) (stagingDir : String) :
    List ZipFile → DiskProg (Except String Unit)
  | [] => return .ok ()
  | f :: files => do
    match ← extractZipEntry quote stagingDir f with
    | .error err => return .error ("failed to extract zip entry: " ++ err)
    | .ok () => extractZipEntries quote stagingDir files

/-- What is done in the staging directory. Reference: `api/backup.go:355 RestoreBackup`. -/
def restoreStaged (E : RestoreEnv) (stagingDir restoreDir : String) (files : List ZipFile) :
    DiskProg (Except String Unit) := do
  match ← extractZipEntries E.quote stagingDir files with
  | .error err => return .error err
  | .ok () => do
    match ← DiskCmd.issue (.removeAll restoreDir) with
    | .error err => return .error ("failed to remove existing restore directory: " ++ err)
    | .ok () => do
      match ← DiskCmd.issue (.rename stagingDir restoreDir) with
      | .error err =>
        return .error ("failed to move extracted files to restore directory: " ++ err)
      | .ok () => return .ok ()

/-- The old files that would stop the restore at the next start. Reference: `api/backup.go:374
RestoreBackup`. -/
def oldDatabaseFiles : List String := ["nwc.db", "nwc.db-shm", "nwc.db-wal"]

/-- What fails is only logged. Reference: `api/backup.go:374 RestoreBackup`. -/
def removeFiles (workDir : String) : List String → DiskProg Unit
  | [] => return ()
  | filename :: filenames => do
    let _ ← DiskCmd.issue (.remove (Join [workDir, filename]))
    removeFiles workDir filenames

/-- A part of what the goroutine does, which is started where nothing has failed. Reference:
`api/backup.go:370 RestoreBackup`. -/
def removeOldDatabase (workDir : String) (filenames : List String) :
    Except String Unit → DiskProg Unit
  | .error _ => return ()
  | .ok () => removeFiles workDir filenames

/-- The archive is read from the temporary file. The staging directory is removed at the end.
Reference: `api/backup.go:293 RestoreBackup`. -/
def restoreArchive (E : RestoreEnv) (workDir : String) (bytes : List UInt8) :
    DiskProg (Except String Unit) :=
  match E.zipReader bytes with
  | .error err => return .error ("failed to create zip reader: " ++ err)
  | .ok files =>
    if files.length = 0 then return .error "backup file contains no files"
    else do
      let restoreDir := Join [workDir, "restore"]
      match ← DiskCmd.issue (.mkdirTemp workDir "albyhub-restore-") with
      | .error err => return .error ("failed to create staging directory: " ++ err)
      | .ok stagingDir => do
        let res ← restoreStaged E stagingDir restoreDir files
        removeOldDatabase workDir (oldDatabaseFiles.take E.early) res
        let _ ← DiskCmd.issue (.removeAll stagingDir)
        return res

/-- What is done with the temporary file. Reference: `api/backup.go:280 RestoreBackup`. -/
def restoreDecrypted (E : RestoreEnv) (workDir tmpName : String) (bytes : List UInt8)
    (readErr : Option String) : DiskProg (Except String Unit) := do
  match ← DiskCmd.issue (.write tmpName bytes) with
  | .error err => return .error ("failed to decrypt backup data into temporary file: " ++ err)
  | .ok () =>
    match readErr with
    | some err => return .error ("failed to decrypt backup data into temporary file: " ++ err)
    | none => do
      match ← DiskCmd.issue (.sync tmpName) with
      | .error err => return .error ("failed to flush temporary file: " ++ err)
      | .ok () => do
        match ← DiskCmd.issue (.seek tmpName) with
        | .error err => return .error ("failed to seek to beginning of temporary file: " ++ err)
        | .ok () => restoreArchive E workDir bytes

/-- The temporary file is removed at the end of the call, and the goroutine is followed to its own.
Reference: `api/backup.go:251 RestoreBackup`. -/
def RestoreBackup (E : RestoreEnv) : DiskProg (Except String Unit) :=
  match Abs (E.getwd.elim (.ok E.cwd) .error) E.workdir with
  | .error err => return .error ("failed to get absolute workdir: " ++ err)
  | .ok workDir =>
    if HasPrefix E.databaseUri "file:" then
      return .error "cannot restore backup when database path is a file URI"
    else if E.dialector ≠ "sqlite" then
      return .error "migration to non-sqlite backend is currently not supported"
    else
      match E.decrypted with
      | .error err => return .error ("failed to create decrypted reader: " ++ err)
      | .ok (bytes, readErr) => do
        match ← DiskCmd.issue (.createTemp E.workdir "albyhub-" ".bkp") with
        | .error err => return .error ("failed to create temporary output file: " ++ err)
        | .ok tmpName => do
          let res ← restoreDecrypted E workDir tmpName bytes readErr
          removeOldDatabase workDir ((oldDatabaseFiles.drop E.early).take E.late) res
          let _ ← DiskCmd.issue (.remove tmpName)
          removeOldDatabase workDir ((oldDatabaseFiles.drop E.early).drop E.late) res
          return res

/-! ## What is to be there -/

/-- The content of the entry at the place, which is that of the last entry with its names.
Reference: `api/backup.go:355 RestoreBackup`. -/
def LastAt (files : List ZipFile) (names : List String) (content : List UInt8) : Prop :=
  ∃ before f after, files = before ++ f :: after ∧ Filepath.names false f.name = names ∧
    f.opened = .ok (content, none) ∧ ∀ g ∈ after, Filepath.names false g.name ≠ names

/-- The work directory. Reference: `api/backup.go:254 RestoreBackup`. -/
@[irreducible] def RestoreEnv.place (E : RestoreEnv) : List String := located E.cwd E.workdir

theorem RestoreEnv.place_eq (E : RestoreEnv) : E.place = located E.cwd E.workdir := by
  delta RestoreEnv.place
  rfl

/-- The folder `restore`. Reference: `api/backup.go:302 RestoreBackup`. -/
def RestoreEnv.restorePlace (E : RestoreEnv) : List String := E.place ++ ["restore"]

/-- The places of the call: the folder, and entries of its own that were not there before.
Reference: `api/backup.go:272 RestoreBackup`, `:308`. -/
def RestoreEnv.Own (E : RestoreEnv) (d₀ : Disk) (p : List String) : Prop :=
  E.restorePlace <+: p ∨ ∃ name, HasPrefix name "albyhub-" = true ∧
    d₀.item (E.place ++ [name]) = none ∧ E.place ++ [name] <+: p

/-- The folder holds the archive: the files are those of its entries, which are all local, and the
directories those that they need. Reference: `api/backup.go:355 RestoreBackup`. -/
structure RestoreEnv.Extracted (E : RestoreEnv) (files : List ZipFile) (d : Disk) : Prop where
  archive : ∃ bytes, E.decrypted = .ok (bytes, none) ∧ E.zipReader bytes = .ok files
  isLocal : ∀ f ∈ files, IsLocal f.name = true
  file : ∀ names content, d.item (E.restorePlace ++ names) = some (.file content) ↔
    LastAt files names content
  dir : ∀ names, d.item (E.restorePlace ++ names) = some .dir →
    names = [] ∨ ∃ f ∈ files, names <+: (Filepath.names false f.name).dropLast

/-- The place of a file of the old database. Reference: `api/backup.go:374 RestoreBackup`. -/
def RestoreEnv.OldDatabase (E : RestoreEnv) (p : List String) : Prop :=
  ∃ filename ∈ oldDatabaseFiles, E.place ++ [filename] <+: p

/-- Nothing but the own places is changed, apart from the old database, which is only removed where
the folder holds the archive. The folder holds what is left of what was in it, or the archive.
Reference: `api/backup.go:304 RestoreBackup`. -/
structure RestoreEnv.Contained (E : RestoreEnv) (d₀ d : Disk) : Prop where
  outside : ∀ p, ¬ E.Own d₀ p → d.item p = d₀.item p ∨
    E.OldDatabase p ∧ d.item p = none ∧ ∃ files, E.Extracted files d
  restored : (∀ p, E.restorePlace <+: p → d.item p = d₀.item p ∨ d.item p = none) ∨
    ∃ files, E.Extracted files d

/-! ## Own places -/

section
variable {E : RestoreEnv} {d₀ d d' : Disk} {name : String} {p q : List String}
variable {files done : List ZipFile} {f : ZipFile} {stagingDir : String}

/-- A temporary entry of the call. Reference: `api/backup.go:272 RestoreBackup`, `:308`. -/
structure RestoreEnv.OwnName (E : RestoreEnv) (d₀ : Disk) (name : String) : Prop where
  own : HasPrefix name "albyhub-" = true
  free : d₀.item (E.place ++ [name]) = none

/-- A temporary entry is not the folder. Reference: none. -/
theorem RestoreEnv.OwnName.apart (h : E.OwnName d₀ name) (hq : E.place ++ [name] <+: q) :
    ¬ E.restorePlace <+: q := by
  intro hr
  have hlen : (E.place ++ [name]).length = E.restorePlace.length := by
    simp [RestoreEnv.restorePlace]
  have heq := (List.prefix_of_prefix_length_le hq hr (Nat.le_of_eq hlen)).eq_of_length hlen
  have hname : name = "restore" := by simpa [RestoreEnv.restorePlace] using heq
  have hown := h.own
  rw [hname] at hown
  exact absurd hown (by decide)

/-- As long as nothing is moved to the folder. Reference: `api/backup.go:366 RestoreBackup`. -/
structure RestoreEnv.Before (E : RestoreEnv) (d₀ d : Disk) : Prop where
  outside : ∀ p, ¬ E.Own d₀ p → d.item p = d₀.item p
  old : ∀ p, E.restorePlace <+: p → d.item p = d₀.item p ∨ d.item p = none

theorem RestoreEnv.Before.contained (h : E.Before d₀ d) : E.Contained d₀ d :=
  ⟨fun p hp => .inl (h.outside p hp), .inl h.old⟩

/-- A call on a temporary entry. Reference: none. -/
theorem RestoreEnv.Before.frame (h : E.Before d₀ d) (hown : E.OwnName d₀ name)
    (hd : ∀ q, ¬ E.place ++ [name] <+: q → d'.item q = d.item q) : E.Before d₀ d' := by
  refine ⟨fun q hq => ?_, fun q hq => ?_⟩
  · rw [hd q fun hpre => hq (.inr ⟨name, hown.own, hown.free, hpre⟩)]
    exact h.outside q hq
  · rw [hd q fun hpre => hown.apart hpre hq]
    exact h.old q hq

theorem RestoreEnv.Extracted.frame (h : E.Extracted files d) (hown : E.OwnName d₀ name)
    (hd : ∀ q, ¬ E.place ++ [name] <+: q → d'.item q = d.item q) : E.Extracted files d' := by
  have hsame : ∀ names, d'.item (E.restorePlace ++ names) = d.item (E.restorePlace ++ names) :=
    fun names => hd _ fun hpre => hown.apart hpre (List.prefix_append _ _)
  refine ⟨h.archive, h.isLocal, fun names content => ?_, fun names => ?_⟩
  · rw [hsame]
    exact h.file names content
  · rw [hsame]
    exact h.dir names

theorem RestoreEnv.Contained.frame (h : E.Contained d₀ d) (hown : E.OwnName d₀ name)
    (hd : ∀ q, ¬ E.place ++ [name] <+: q → d'.item q = d.item q) : E.Contained d₀ d' := by
  refine ⟨fun q hq => ?_, ?_⟩
  · rw [hd q fun hpre => hq (.inr ⟨name, hown.own, hown.free, hpre⟩)]
    rcases h.outside q hq with hsame | ⟨hold, hnone, files, hfiles⟩
    · exact .inl hsame
    · exact .inr ⟨hold, hnone, files, hfiles.frame hown hd⟩
  · rcases h.restored with hold | ⟨files, hfiles⟩
    · left
      intro q hq
      rw [hd q fun hpre => hown.apart hpre hq]
      exact hold q hq
    · exact .inr ⟨files, hfiles.frame hown hd⟩

/-! ## The staging directory -/

/-- What a directory holds with the directories that an entry needs. Reference: `api/backup.go:331
RestoreBackup`. -/
def makeDirs (item : List String → Option Item) (f : ZipFile) (names : List String) :
    Option Item :=
  if names.isPrefixOf (Filepath.names false f.name).dropLast ∧ item names = none then some .dir
  else item names

/-- What it holds with the file of an entry. Reference: `api/backup.go:341 RestoreBackup`. -/
def placeFile (item : List String → Option Item) (f : ZipFile) (content : List UInt8)
    (names : List String) : Option Item :=
  if names = Filepath.names false f.name then some (.file content) else item names

/-- Reference: `api/backup.go:314 RestoreBackup`. -/
def placeEntry (item : List String → Option Item) (f : ZipFile) : List String → Option Item :=
  placeFile (makeDirs item f) f ((f.opened.toOption.map (·.1)).getD [])

/-- Reference: `api/backup.go:308 RestoreBackup`. -/
def placeEntries (files : List ZipFile) : List String → Option Item :=
  files.foldl placeEntry fun names => if names = [] then some .dir else none

theorem placeEntries_append (files : List ZipFile) (f : ZipFile) :
    placeEntries (files ++ [f]) = placeEntry (placeEntries files) f := by
  unfold placeEntries
  rw [List.foldl_append]
  rfl

theorem placeEntries_nil (files : List ZipFile) : placeEntries files [] ≠ none := by
  induction files using List.reverseRecOn with
  | nil => exact Option.some_ne_none _
  | append_singleton files f ih =>
    rw [placeEntries_append, placeEntry, placeFile, makeDirs]
    split
    · exact Option.some_ne_none _
    · split
      · exact Option.some_ne_none _
      · exact ih

theorem placeEntries_dir {names : List String} (h : placeEntries files names = some .dir) :
    names = [] ∨ ∃ f ∈ files, names <+: (Filepath.names false f.name).dropLast := by
  induction files using List.reverseRecOn with
  | nil =>
    left
    by_contra hne
    have hnone : placeEntries [] names = none := if_neg hne
    rw [hnone] at h
    cases h
  | append_singleton files f ih =>
    rw [placeEntries_append, placeEntry, placeFile, makeDirs] at h
    split at h
    · cases h
    · split at h
      · next hnew =>
        exact .inr ⟨f, by simp, List.isPrefixOf_iff_prefix.1 hnew.1⟩
      · rcases ih h with hnil | ⟨g, hg, hpre⟩
        · exact .inl hnil
        · exact .inr ⟨g, List.mem_append_left _ hg, hpre⟩

/-- The last entry of its names gives the content. Reference: `api/backup.go:355 RestoreBackup`. -/
theorem lastAt_append {names : List String} {content : List UInt8} :
    LastAt (files ++ [f]) names content ↔
      Filepath.names false f.name = names ∧ f.opened = .ok (content, none) ∨
        Filepath.names false f.name ≠ names ∧ LastAt files names content := by
  constructor
  · rintro ⟨before, g, after, heq, hnames, hopened, hafter⟩
    rcases List.eq_nil_or_concat after with rfl | ⟨after, g', rfl⟩
    · obtain ⟨-, heq⟩ := List.append_inj' heq rfl
      cases heq
      exact .inl ⟨hnames, hopened⟩
    · rw [List.concat_eq_append] at heq hafter
      rw [← List.cons_append, ← List.append_assoc] at heq
      obtain ⟨hfiles, hlast⟩ := List.append_inj' heq rfl
      cases hlast
      refine .inr ⟨hafter f (by simp), before, g, after, hfiles, hnames, hopened, fun g' hg' => ?_⟩
      exact hafter g' (List.mem_append_left _ hg')
  · rintro (⟨hnames, hopened⟩ | ⟨hne, before, g, after, rfl, hnames, hopened, hafter⟩)
    · exact ⟨files, f, [], rfl, hnames, hopened, by simp⟩
    · refine ⟨before, g, after ++ [f], by simp, hnames, hopened, fun g' hg' => ?_⟩
      rcases List.mem_append.1 hg' with hg' | hg'
      · exact hafter g' hg'
      · rw [List.mem_singleton.1 hg']
        exact hne

theorem placeEntries_file (hopened : ∀ f ∈ files, ∃ content, f.opened = .ok (content, none))
    {names : List String} {content : List UInt8} :
    placeEntries files names = some (.file content) ↔ LastAt files names content := by
  induction files using List.reverseRecOn with
  | nil =>
    refine iff_of_false ?_ ?_
    · unfold placeEntries
      rw [List.foldl_nil]
      split
      · simp
      · simp
    · rintro ⟨before, f, after, heq, -⟩
      simp at heq
  | append_singleton files f ih =>
    rw [placeEntries_append, placeEntry, placeFile, makeDirs, lastAt_append,
      ← ih fun g hg => hopened g (List.mem_append_left _ hg)]
    obtain ⟨bytes, hbytes⟩ := hopened f (by simp)
    by_cases hnames : names = Filepath.names false f.name
    · simp [hnames, hbytes, Except.toOption]
    · rw [if_neg hnames]
      split
      · next hnew => simp [hnew.2, Ne.symm hnames]
      · simp [Ne.symm hnames]

/-- Some entries are extracted, or one more in part: the staging directory holds the items.
Reference: `api/backup.go:355 RestoreBackup`. -/
structure RestoreEnv.Staged (E : RestoreEnv) (d₀ : Disk) (name : String) (done : List ZipFile)
    (item : List String → Option Item) (d : Disk) : Prop where
  before : E.Before d₀ d
  isLocal : ∀ f ∈ done, IsLocal f.name = true
  opened : ∀ f ∈ done, ∃ content, f.opened = .ok (content, none)
  placed : ∀ names, d.item (E.place ++ [name] ++ names) = item names

/-- The path of the staging directory. Reference: `api/backup.go:308 RestoreBackup`. -/
structure RestoreEnv.StagingDir (E : RestoreEnv) (name stagingDir : String) : Prop where
  isAbs : IsAbs stagingDir = true
  names : Filepath.names true stagingDir = E.place ++ [name]

/-- An entry with a local name is extracted below the staging directory. Reference:
`api/backup.go:319 RestoreBackup`. -/
theorem RestoreEnv.StagingDir.located (hs : E.StagingDir name stagingDir)
    (hlocal : IsLocal f.name = true) :
    located E.cwd (Join [stagingDir, f.name]) =
        E.place ++ [name] ++ Filepath.names false f.name ∧
      located E.cwd (Dir (Join [stagingDir, f.name])) =
        (E.place ++ [name] ++ Filepath.names false f.name).dropLast := by
  have hjoin := names_join hs.isAbs hlocal
  rw [hs.names] at hjoin
  have hpath := isAbs_append (isAbs_append hs.isAbs "/") f.name
  have habs : IsAbs (Join [stagingDir, f.name]) = true := by
    rw [Join_of_abs hs.isAbs]
    exact isAbs_Clean hpath
  have hclean : Join [stagingDir, f.name] =
      "/" ++ joinSlash (E.place ++ [name] ++ Filepath.names false f.name) := by
    rw [← hjoin, Join_of_abs hs.isAbs, names_Clean hpath, Clean_of_abs hpath]
  rw [located_of_abs habs, hjoin]
  refine ⟨rfl, ?_⟩
  have hnames : ∀ n ∈ E.place ++ [name] ++ Filepath.names false f.name, Name n := by
    rw [← hjoin]
    exact names_rooted _
  rw [hclean]
  generalize hns : E.place ++ [name] ++ Filepath.names false f.name = ns at hnames
  rcases List.eq_nil_or_concat ns with rfl | ⟨front, last, rfl⟩
  · simp at hns
  · rw [List.concat_eq_append] at hnames ⊢
    obtain ⟨hdir, hloc⟩ := names_Dir (fun n hn => hnames n (List.mem_append_left _ hn))
      (hnames last (by simp))
    rw [located_of_abs hdir, hloc, List.dropLast_concat]

/-- The directories of an entry are made. Reference: `api/backup.go:331 RestoreBackup`. -/
theorem RestoreEnv.Staged.mkdirs {item : List String → Option Item} {n : Nat}
    (h : E.Staged d₀ name done item d) (hown : E.OwnName d₀ name) (hroot : item [] ≠ none)
    (hp : p = (E.place ++ [name] ++ Filepath.names false f.name).dropLast)
    (hpass : d.Passable p n) : E.Before d₀ (d.mkdirs p n hpass) ∧
      (n = p.length → E.Staged d₀ name done (makeDirs item f) (d.mkdirs p n hpass)) := by
  have hitem : ∀ q, (d.mkdirs p n hpass).item q =
      if q.isPrefixOf p ∧ q.length ≤ n ∧ d.item q = none then some .dir else d.item q :=
    fun _ => rfl
  have hstaging : d.item (E.place ++ [name]) ≠ none := by
    have hplaced := h.placed []
    rw [List.append_nil] at hplaced
    rwa [hplaced]
  have hbefore : E.Before d₀ (d.mkdirs p n hpass) := by
    refine h.before.frame hown fun q hq => ?_
    -- what is above the staging directory is there already
    rw [hitem, if_neg]
    rintro ⟨hpre, -, hnone⟩
    have hfull : q <+: E.place ++ [name] ++ Filepath.names false f.name :=
      (List.isPrefixOf_iff_prefix.1 hpre).trans (hp ▸ List.dropLast_prefix _)
    rcases List.prefix_or_prefix_of_prefix hfull (List.prefix_append (E.place ++ [name]) _) with
      habove | hbelow
    · by_cases heq : q = E.place ++ [name]
      · exact hq (heq ▸ List.prefix_refl _)
      · rw [d.ancestors hstaging habove heq] at hnone
        cases hnone
    · exact hq hbelow
  refine ⟨hbefore, fun hn => ⟨hbefore, h.isLocal, h.opened, fun names => ?_⟩⟩
  have hiff : (E.place ++ [name] ++ names).isPrefixOf p = true ∧ item names = none ↔
      names.isPrefixOf (Filepath.names false f.name).dropLast = true ∧ item names = none := by
    by_cases hns : Filepath.names false f.name = []
    · -- the staging directory itself is there
      have hlen : p.length < (E.place ++ [name] ++ names).length := by
        rw [hp, hns]
        simp
      rw [hns]
      constructor
      · rintro ⟨hpre, -⟩
        have hle := (List.isPrefixOf_iff_prefix.1 hpre).length_le
        omega
      · rintro ⟨hpre, hnone⟩
        rw [List.prefix_nil.1 (List.isPrefixOf_iff_prefix.1 hpre)] at hnone
        exact absurd hnone hroot
    · rw [hp, List.dropLast_append_of_ne_nil hns, List.isPrefixOf_iff_prefix,
        List.isPrefixOf_iff_prefix, List.prefix_append_right_inj]
  rw [hitem, h.placed, makeDirs]
  by_cases hnew : (E.place ++ [name] ++ names).isPrefixOf p = true ∧ item names = none
  · have hlen := (List.isPrefixOf_iff_prefix.1 hnew.1).length_le
    rw [if_pos ⟨hnew.1, hn ▸ hlen, hnew.2⟩, if_pos (hiff.1 hnew)]
  · rw [if_neg fun hall => hnew ⟨hall.1, hall.2.2⟩, if_neg fun hall => hnew (hiff.2 hall)]

/-- The file of an entry is written. Reference: `api/backup.go:341 RestoreBackup`. -/
theorem RestoreEnv.Staged.write {item : List String → Option Item}
    (h : E.Staged d₀ name done item d) (hown : E.OwnName d₀ name)
    (hp : p = E.place ++ [name] ++ Filepath.names false f.name) (content : List UInt8)
    (htakes : d.Takes p) :
    E.Staged d₀ name done (placeFile item f content) (d.write p content htakes) := by
  have hitem : ∀ q, (d.write p content htakes).item q =
      if q = p then some (.file content) else d.item q := fun _ => rfl
  refine ⟨h.before.frame hown fun q hq => ?_, h.isLocal, h.opened, fun names => ?_⟩
  · rw [hitem, if_neg]
    rintro rfl
    exact hq (hp ▸ List.prefix_append _ _)
  · rw [hitem, h.placed, placeFile]
    simp only [hp, List.append_right_inj]

theorem placeFile_placeFile (item : List String → Option Item) (f : ZipFile)
    (content content' : List UInt8) :
    placeFile (placeFile item f content) f content' = placeFile item f content' := by
  funext names
  unfold placeFile
  split
  · rfl
  · rfl

/-! ## The crash triples -/

/-- What holds after a part of an extraction: of one that succeeds, the items. Reference: none. -/
def RestoreEnv.Reached (E : RestoreEnv) (d₀ : Disk) (name : String) (done : List ZipFile)
    (item : List String → Option Item) (r : Except String Unit) (d : Disk) : Prop :=
  E.Before d₀ d ∧ (r = .ok () → E.Staged d₀ name done item d)

theorem reached_error {item : List String → Option Item} {msg : String} (h : E.Before d₀ d) :
    E.Reached d₀ name done item (.error msg) d :=
  ⟨h, fun hr => by cases hr⟩

theorem reached_ok {item : List String → Option Item} (h : E.Staged d₀ name done item d) :
    E.Reached d₀ name done item (.ok ()) d :=
  ⟨h.before, fun _ => h⟩

/-- A failure is returned. Reference: none. -/
theorem failed_survives {item : List String → Option Item} {msg : String} {P : Disk → Prop}
    (hP : ∀ d, P d → E.Before d₀ d) :
    (pure (.error msg) : DiskProg (Except String Unit)).Survives (diskExec E.cwd) P
      (E.Reached d₀ name done item) (E.Contained d₀) :=
  Prog.Survives.ret (fun d hd => reached_error (hP d hd)) fun d hd => (hP d hd).contained

/-- Reference: `api/backup.go:331 RestoreBackup`. -/
theorem RestoreEnv.Staged.exec_mkdirAll {item : List String → Option Item} {path : String}
    {fault : Fault} {r : Except String Unit} (h : E.Staged d₀ name done item d)
    (hown : E.OwnName d₀ name) (hroot : item [] ≠ none)
    (hpath : Go.located E.cwd path = (E.place ++ [name] ++ Filepath.names false f.name).dropLast)
    (hx : diskExec E.cwd d (.mkdirAll path) fault = some (r, d')) :
    E.Reached d₀ name done (makeDirs item f) r d' := by
  rcases Go.exec_mkdirAll hx with ⟨msg, rfl, rfl⟩ | ⟨n, hpass, rfl, hall⟩
  · exact reached_error h.before
  · obtain ⟨hbefore, hmade⟩ := h.mkdirs hown hroot hpath hpass
    exact ⟨hbefore, fun hr => hmade (hall hr)⟩

/-- Reference: `api/backup.go:341 RestoreBackup`. -/
theorem RestoreEnv.Staged.exec_openFile {item : List String → Option Item} {path : String}
    {fault : Fault} {r : Except String Unit} (h : E.Staged d₀ name done item d)
    (hown : E.OwnName d₀ name)
    (hpath : Go.located E.cwd path = E.place ++ [name] ++ Filepath.names false f.name)
    (hx : diskExec E.cwd d (.openFile path) fault = some (r, d')) :
    E.Reached d₀ name done (placeFile item f []) r d' := by
  rcases Go.exec_openFile hx with ⟨msg, rfl, rfl⟩ | ⟨rfl, htakes, rfl⟩
  · exact reached_error h.before
  · exact reached_ok (h.write hown hpath [] htakes)

/-- The file was emptied when it was opened. Reference: `api/backup.go:347 RestoreBackup`. -/
theorem RestoreEnv.Staged.exec_write {item : List String → Option Item} {path : String}
    {bytes : List UInt8} {fault : Fault} {r : Except String Unit}
    (h : E.Staged d₀ name done (placeFile item f []) d) (hown : E.OwnName d₀ name)
    (hpath : Go.located E.cwd path = E.place ++ [name] ++ Filepath.names false f.name)
    (hx : diskExec E.cwd d (.write path bytes) fault = some (r, d')) :
    E.Reached d₀ name done (placeFile item f bytes) r d' := by
  obtain ⟨old, written, hold, hall, htakes, rfl⟩ := Go.exec_write hx
  have hempty : old = [] := by
    rw [hpath, h.placed, placeFile, if_pos rfl] at hold
    cases hold
    rfl
  subst hempty
  have hwritten := h.write hown hpath ([] ++ written) htakes
  rw [placeFile_placeFile] at hwritten
  refine ⟨hwritten.before, fun hr => ?_⟩
  rw [hall hr] at hwritten ⊢
  exact hwritten

/-- The entry is there as a whole. Reference: `api/backup.go:351 RestoreBackup`. -/
theorem RestoreEnv.Staged.extracted {bytes : List UInt8}
    (h : E.Staged d₀ name done (placeFile (makeDirs (placeEntries done) f) f bytes) d)
    (hlocal : IsLocal f.name = true) (hopened : f.opened = .ok (bytes, none)) :
    E.Staged d₀ name (done ++ [f]) (placeEntries (done ++ [f])) d := by
  refine ⟨h.before, fun g hg => ?_, fun g hg => ?_, fun names => ?_⟩
  · rcases List.mem_append.1 hg with hg | hg
    · exact h.isLocal g hg
    · rw [List.mem_singleton.1 hg]
      exact hlocal
  · rcases List.mem_append.1 hg with hg | hg
    · exact h.opened g hg
    · rw [List.mem_singleton.1 hg]
      exact ⟨bytes, hopened⟩
  · rw [h.placed, placeEntries_append, placeEntry, hopened]
    rfl

/-- One entry is extracted, or nothing of the own places but the staging directory is changed.
Reference: `api/backup.go:314 RestoreBackup`. -/
theorem extractZipEntry_survives (hown : E.OwnName d₀ name) (hs : E.StagingDir name stagingDir) :
    (extractZipEntry E.quote stagingDir f).Survives (diskExec E.cwd)
      (E.Staged d₀ name done (placeEntries done))
      (E.Reached d₀ name (done ++ [f]) (placeEntries (done ++ [f]))) (E.Contained d₀) := by
  unfold extractZipEntry
  dsimp only
  split
  · exact failed_survives fun d hd => hd.before
  · next hlocal =>
    have hlocal : IsLocal f.name = true := not_not.1 hlocal
    obtain ⟨hfile, hdir⟩ := hs.located hlocal
    split
    · exact failed_survives fun d hd => hd.before
    · refine Prog.Survives.call (M := E.Reached d₀ name done (makeDirs (placeEntries done) f))
        (fun d hd => hd.before.contained)
        (fun d e r d' hd hx => hd.exec_mkdirAll hown (placeEntries_nil done) hdir hx) fun r => ?_
      cases r with
      | error err => exact failed_survives fun d hd => hd.1
      | ok u =>
        dsimp only
        cases hopened : f.opened with
        | error err => exact failed_survives fun d hd => hd.1
        | ok opened =>
          obtain ⟨bytes, readErr⟩ := opened
          refine Prog.Survives.call
            (M := E.Reached d₀ name done (placeFile (makeDirs (placeEntries done) f) f []))
            (fun d hd => hd.1.contained)
            (fun d e r d' hd hx => (hd.2 rfl).exec_openFile hown hfile hx) fun r => ?_
          cases r with
          | error err => exact failed_survives fun d hd => hd.1
          | ok u =>
            refine Prog.Survives.call
              (M := E.Reached d₀ name done (placeFile (makeDirs (placeEntries done) f) f bytes))
              (fun d hd => hd.1.contained)
              (fun d e r d' hd hx => (hd.2 rfl).exec_write hown hfile hx) fun r => ?_
            cases r with
            | error err => exact failed_survives fun d hd => hd.1
            | ok u =>
              cases readErr with
              | some err => exact failed_survives fun d hd => hd.1
              | none =>
                exact Prog.Survives.ret
                  (fun d hd => reached_ok ((hd.2 rfl).extracted hlocal hopened))
                  fun d hd => hd.1.contained

theorem extractZipEntries_survives (hown : E.OwnName d₀ name) (hs : E.StagingDir name stagingDir) :
    (extractZipEntries E.quote stagingDir files).Survives (diskExec E.cwd)
      (E.Staged d₀ name done (placeEntries done))
      (E.Reached d₀ name (done ++ files) (placeEntries (done ++ files))) (E.Contained d₀) := by
  induction files generalizing done with
  | nil =>
    rw [List.append_nil]
    exact Prog.Survives.ret (fun d hd => reached_ok hd) fun d hd => hd.before.contained
  | cons f files ih =>
    refine Prog.Survives.bind (extractZipEntry_survives hown hs) fun r => ?_
    cases r with
    | error err => exact failed_survives fun d hd => hd.1
    | ok u =>
      have hrest := @ih (done ++ [f])
      rw [List.append_assoc, List.singleton_append] at hrest
      exact hrest.mono (fun d hd => hd.2 rfl) fun _ _ h => h

/-- The postcondition of a restore. Reference: `api/backup.go:251 RestoreBackup`. -/
def RestoreEnv.Done (E : RestoreEnv) (d₀ : Disk) (r : Except String Unit) (d : Disk) : Prop :=
  E.Contained d₀ d ∧ (r = .ok () → ∃ files, E.Extracted files d)

theorem RestoreEnv.Done.frame {r : Except String Unit} (h : E.Done d₀ r d)
    (hown : E.OwnName d₀ name) (hd : ∀ q, ¬ E.place ++ [name] <+: q → d'.item q = d.item q) :
    E.Done d₀ r d' := by
  refine ⟨h.1.frame hown hd, fun hr => ?_⟩
  obtain ⟨files, hfiles⟩ := h.2 hr
  exact ⟨files, hfiles.frame hown hd⟩

theorem refused_survives {msg : String} {P : Disk → Prop} (hP : ∀ d, P d → E.Before d₀ d) :
    (pure (.error msg) : DiskProg (Except String Unit)).Survives (diskExec E.cwd) P (E.Done d₀)
      (E.Contained d₀) :=
  Prog.Survives.ret (fun d hd => ⟨(hP d hd).contained, fun hr => by cases hr⟩)
    fun d hd => (hP d hd).contained

/-- The removal from a place on changes nothing else. Reference: Go `os.RemoveAll`. -/
theorem item_remove {keep : List String → Bool} (h : p ≠ []) (hq : ¬ p <+: q) :
    (d.remove p keep h).item q = d.item q :=
  if_neg fun hall => hq (List.isPrefixOf_iff_prefix.1 hall.1)

/-- The old folder is removed, or a part of it. Reference: `api/backup.go:363 RestoreBackup`. -/
theorem RestoreEnv.Staged.removeRestoreDir {item : List String → Option Item}
    {keep : List String → Bool} (h : E.Staged d₀ name done item d) (hown : E.OwnName d₀ name)
    (hne : E.restorePlace ≠ []) :
    E.Staged d₀ name done item (d.remove E.restorePlace keep hne) := by
  refine ⟨⟨fun q hq => ?_, fun q hq => ?_⟩, h.isLocal, h.opened, fun names => ?_⟩
  · rw [item_remove hne fun hpre => hq (.inl hpre)]
    exact h.before.outside q hq
  · by_cases hgone : E.restorePlace.isPrefixOf q = true ∧ Keeps keep E.restorePlace q = false
    · exact .inr (if_pos hgone)
    · have hkept : (d.remove E.restorePlace keep hne).item q = d.item q := if_neg hgone
      rw [hkept]
      exact h.before.old q hq
  · rw [item_remove hne (hown.apart (List.prefix_append _ _))]
    exact h.placed names

/-- The staging directory becomes the folder. Reference: `api/backup.go:366 RestoreBackup`. -/
theorem RestoreEnv.Staged.rename (h : E.Staged d₀ name files (placeEntries files) d)
    (hown : E.OwnName d₀ name)
    (harchive : ∃ bytes, E.decrypted = .ok (bytes, none) ∧ E.zipReader bytes = .ok files)
    (hmoves : d.Moves (E.place ++ [name]) E.restorePlace) :
    E.Done d₀ (.ok ()) (d.rename (E.place ++ [name]) E.restorePlace hmoves) := by
  have hitem : ∀ q, (d.rename (E.place ++ [name]) E.restorePlace hmoves).item q =
      if E.restorePlace.isPrefixOf q then
        d.item (E.place ++ [name] ++ q.drop E.restorePlace.length)
      else if (E.place ++ [name]).isPrefixOf q then none else d.item q := fun _ => rfl
  have hmoved : ∀ names, (d.rename (E.place ++ [name]) E.restorePlace hmoves).item
      (E.restorePlace ++ names) = placeEntries files names := by
    intro names
    rw [hitem, if_pos (List.isPrefixOf_iff_prefix.2 (List.prefix_append _ _)), List.drop_left,
      h.placed]
  have hextracted : E.Extracted files
      (d.rename (E.place ++ [name]) E.restorePlace hmoves) := by
    refine ⟨harchive, h.isLocal, fun names content => ?_, fun names hdir => ?_⟩
    · rw [hmoved, placeEntries_file h.opened]
    · rw [hmoved] at hdir
      exact placeEntries_dir hdir
  refine ⟨⟨fun q hq => ?_, .inr ⟨files, hextracted⟩⟩, fun _ => ⟨files, hextracted⟩⟩
  rw [hitem, if_neg fun hpre => hq (.inl (List.isPrefixOf_iff_prefix.1 hpre)),
    if_neg fun hpre => hq (.inr ⟨name, hown.own, hown.free, List.isPrefixOf_iff_prefix.1 hpre⟩)]
  exact .inl (h.before.outside q hq)

theorem restoreStaged_survives {restoreDir : String} (hown : E.OwnName d₀ name)
    (hs : E.StagingDir name stagingDir) (hr : located E.cwd restoreDir = E.restorePlace)
    (harchive : ∃ bytes, E.decrypted = .ok (bytes, none) ∧ E.zipReader bytes = .ok files) :
    (restoreStaged E stagingDir restoreDir files).Survives (diskExec E.cwd)
      (E.Staged d₀ name [] (placeEntries [])) (E.Done d₀) (E.Contained d₀) := by
  have hstaging : located E.cwd stagingDir = E.place ++ [name] := by
    rw [located_of_abs hs.isAbs, hs.names]
  refine Prog.Survives.bind (extractZipEntries_survives hown hs) fun r => ?_
  cases r with
  | error err => exact refused_survives fun d hd => hd.1
  | ok u =>
    refine Prog.Survives.call (M := fun _ => E.Staged d₀ name files (placeEntries files))
      (fun d hd => hd.1.contained) ?_ fun r => ?_
    · intro d e r d' hd hx
      have hstaged := hd.2 rfl
      rcases exec_removeAll hx with ⟨msg, rfl, rfl⟩ | ⟨keep, hne, rfl, -⟩
      · exact hstaged
      · simp only [hr] at hne ⊢
        exact hstaged.removeRestoreDir hown hne
    · cases r with
      | error err => exact refused_survives fun d hd => hd.before
      | ok u =>
        refine Prog.Survives.call (M := E.Done d₀) (fun d hd => hd.before.contained) ?_ fun r => ?_
        · intro d e r d' hd hx
          rcases exec_rename hx with ⟨msg, rfl, rfl⟩ | ⟨hmoves, rfl, rfl⟩
          · exact ⟨hd.before.contained, fun hr => by cases hr⟩
          · simp only [hstaging, hr] at hmoves ⊢
            exact hd.rename hown harchive hmoves
        · cases r with
          | error err =>
            exact Prog.Survives.ret (fun d hd => ⟨hd.1, fun hr => by cases hr⟩) fun d hd => hd.1
          | ok u => exact Prog.Survives.ret (fun d hd => hd) fun d hd => hd.1

/-! ## Temporary entries -/

theorem hasPrefix_self_append (pre rest : String) : HasPrefix (pre ++ rest) pre = true := by
  unfold HasPrefix
  rw [List.isPrefixOf_iff_prefix, String.toList_append]
  exact List.prefix_append _ _

/-- A free name of the call is one that was free before. Reference: none. -/
theorem RestoreEnv.Before.ownName (h : E.Before d₀ d) (hname : HasPrefix name "albyhub-" = true)
    (hfree : d.item (E.place ++ [name]) = none) : E.OwnName d₀ name := by
  refine ⟨hname, ?_⟩
  by_cases hown : E.Own d₀ (E.place ++ [name])
  · rcases hown with hpre | ⟨other, -, hfree', hpre⟩
    · have hlen : E.restorePlace.length = (E.place ++ [name]).length := by
        simp [RestoreEnv.restorePlace]
      have heq := hpre.eq_of_length hlen
      have hrestore : name = "restore" := by
        simpa [RestoreEnv.restorePlace, eq_comm] using heq
      rw [hrestore] at hname
      exact absurd hname (by decide)
    · have heq := hpre.eq_of_length (by simp)
      rwa [heq] at hfree'
  · rw [← h.outside _ hown]
    exact hfree

theorem RestoreEnv.Before.refl : E.Before d₀ d₀ := ⟨fun _ _ => rfl, fun _ _ => .inl rfl⟩

/-- A new staging directory is empty. Reference: `api/backup.go:308 RestoreBackup`. -/
theorem RestoreEnv.Before.mkdirTemp {n : Nat} (h : E.Before d₀ d) (hown : E.OwnName d₀ name)
    (hfree : d.item (E.place ++ [name]) = none) (hdir : d.item E.place = some .dir)
    (hn : n = (E.place ++ [name]).length) (hpass : d.Passable (E.place ++ [name]) n) :
    E.Staged d₀ name [] (placeEntries []) (d.mkdirs (E.place ++ [name]) n hpass) := by
  have hitem : ∀ q, (d.mkdirs (E.place ++ [name]) n hpass).item q =
      if q.isPrefixOf (E.place ++ [name]) ∧ q.length ≤ n ∧ d.item q = none then some .dir
      else d.item q := fun _ => rfl
  refine ⟨h.frame hown fun q hq => ?_, by simp, by simp, fun names => ?_⟩
  · rw [hitem, if_neg]
    rintro ⟨hpre, -, hnone⟩
    rcases List.prefix_concat_iff.1 (List.isPrefixOf_iff_prefix.1 hpre) with heq | habove
    · exact hq (heq ▸ List.prefix_refl _)
    · have hsome : d.item q = some .dir := by
        by_cases heq : q = E.place
        · rw [heq, hdir]
        · exact d.ancestors (by rw [hdir]; exact Option.some_ne_none _) habove heq
      rw [hsome] at hnone
      cases hnone
  · have hbelow : d.item (E.place ++ [name] ++ names) = none :=
      d.below_none hfree (List.prefix_append _ _)
    rw [hitem, hbelow]
    by_cases hnil : names = []
    · have hself : (E.place ++ [name]).isPrefixOf (E.place ++ [name]) = true :=
        List.isPrefixOf_iff_prefix.2 (List.prefix_refl _)
      rw [hnil, List.append_nil, if_pos ⟨hself, Nat.le_of_eq hn.symm, rfl⟩]
      rfl
    · rw [if_neg]
      · exact (if_neg hnil).symm
      · rintro ⟨hpre, -⟩
        have hlen := (List.isPrefixOf_iff_prefix.1 hpre).length_le
        rw [@List.length_append _ _ names] at hlen
        exact hnil (List.length_eq_zero_iff.1 (by omega))

/-- The path of the work directory. Reference: `api/backup.go:254 RestoreBackup`. -/
structure RestoreEnv.WorkDir (E : RestoreEnv) (workDir : String) : Prop where
  isAbs : IsAbs workDir = true
  names : Filepath.names true workDir = E.place

theorem RestoreEnv.WorkDir.ne_empty {workDir : String} (h : E.WorkDir workDir) : workDir ≠ "" := by
  rintro rfl
  exact absurd h.isAbs (by decide)

/-- An entry of the work directory. Reference: Go `filepath.Join`. -/
theorem RestoreEnv.WorkDir.located_join {workDir filename : String} (h : E.WorkDir workDir)
    (hlocal : IsLocal filename = true) :
    located E.cwd (Join [workDir, filename]) = E.place ++ Filepath.names false filename := by
  have hjoin := names_join h.isAbs hlocal
  have habs : IsAbs (Join [workDir, filename]) = true := by
    rw [Join_of_abs h.isAbs]
    exact isAbs_Clean (isAbs_append (isAbs_append h.isAbs "/") _)
  rw [located_of_abs habs, hjoin, h.names]

theorem RestoreEnv.WorkDir.restorePlace {workDir : String} (h : E.WorkDir workDir) :
    located E.cwd (Join [workDir, "restore"]) = E.restorePlace := by
  have hname : Filepath.names false "restore" = ["restore"] := by decide
  rw [h.located_join (by decide), hname]
  rfl

/-! ## The old database -/

theorem located_oldDatabase {workDir filename : String} (h : E.WorkDir workDir)
    (hfile : filename ∈ oldDatabaseFiles) :
    located E.cwd (Join [workDir, filename]) = E.place ++ [filename] := by
  have hall : ∀ filename ∈ oldDatabaseFiles,
      IsLocal filename = true ∧ Filepath.names false filename = [filename] := by decide
  rw [h.located_join (hall filename hfile).1, (hall filename hfile).2]

/-- An old file is not in the folder. Reference: none. -/
theorem oldDatabase_apart {filename : String} (hfile : filename ∈ oldDatabaseFiles)
    (hq : E.place ++ [filename] <+: q) : ¬ E.restorePlace <+: q := by
  intro hr
  have hlen : (E.place ++ [filename]).length = E.restorePlace.length := by
    simp [RestoreEnv.restorePlace]
  have heq := (List.prefix_of_prefix_length_le hq hr (Nat.le_of_eq hlen)).eq_of_length hlen
  have hname : filename = "restore" := by simpa [RestoreEnv.restorePlace] using heq
  have hne : "restore" ∉ oldDatabaseFiles := by decide
  exact hne (hname ▸ hfile)

/-- The removal of an old file, once the archive is in the folder. Reference: `api/backup.go:375
RestoreBackup`. -/
theorem RestoreEnv.Done.removeOld {filename : String} (h : E.Done d₀ (.ok ()) d)
    (hfile : filename ∈ oldDatabaseFiles) (hp : p = E.place ++ [filename]) (hne : p ≠ []) :
    E.Done d₀ (.ok ()) (d.remove p (fun _ => false) hne) := by
  obtain ⟨files, hfiles⟩ := h.2 rfl
  have hsame : ∀ names, (d.remove p (fun _ => false) hne).item (E.restorePlace ++ names) =
      d.item (E.restorePlace ++ names) := fun names =>
    item_remove hne fun hpre =>
      oldDatabase_apart hfile (hp ▸ hpre) (List.prefix_append _ _)
  have hkept : E.Extracted files (d.remove p (fun _ => false) hne) := by
    refine ⟨hfiles.archive, hfiles.isLocal, fun names content => ?_, fun names => ?_⟩
    · rw [hsame]
      exact hfiles.file names content
    · rw [hsame]
      exact hfiles.dir names
  refine ⟨⟨fun q hq => ?_, .inr ⟨files, hkept⟩⟩, fun _ => ⟨files, hkept⟩⟩
  by_cases hgone : p.isPrefixOf q = true ∧ Keeps (fun _ => false) p q = false
  · have hold : E.OldDatabase q := ⟨filename, hfile, hp ▸ List.isPrefixOf_iff_prefix.1 hgone.1⟩
    exact .inr ⟨hold, if_pos hgone, files, hkept⟩
  · have hstays : (d.remove p (fun _ => false) hne).item q = d.item q := if_neg hgone
    rw [hstays]
    rcases h.1.outside q hq with hsame | ⟨hold, hnone, -⟩
    · exact .inl hsame
    · exact .inr ⟨hold, hnone, files, hkept⟩

theorem removeFiles_survives {workDir : String} {filenames : List String} (hw : E.WorkDir workDir)
    (hsub : filenames ⊆ oldDatabaseFiles) :
    (removeFiles workDir filenames).Survives (diskExec E.cwd) (E.Done d₀ (.ok ()))
      (fun _ => E.Done d₀ (.ok ())) (E.Contained d₀) := by
  induction filenames with
  | nil => exact Prog.Survives.ret (fun d hd => hd) fun d hd => hd.1
  | cons filename filenames ih =>
    have hfile := hsub List.mem_cons_self
    refine Prog.Survives.call (M := fun _ => E.Done d₀ (.ok ())) (fun d hd => hd.1) ?_
      fun _ => ih fun name hname => hsub (List.mem_cons_of_mem _ hname)
    intro d e r d' hd hx
    rcases exec_remove hx with ⟨msg, rfl, rfl⟩ | ⟨hne, rfl, rfl⟩
    · exact hd
    · exact hd.removeOld hfile (located_oldDatabase hw hfile) hne

/-- Reference: `api/backup.go:370 RestoreBackup`. -/
theorem removeOldDatabase_survives {workDir : String} {filenames : List String}
    {res : Except String Unit} (hw : E.WorkDir workDir) (hsub : filenames ⊆ oldDatabaseFiles) :
    (removeOldDatabase workDir filenames res).Survives (diskExec E.cwd) (E.Done d₀ res)
      (fun _ => E.Done d₀ res) (E.Contained d₀) := by
  cases res with
  | error err => exact Prog.Survives.ret (fun d hd => hd) fun d hd => hd.1
  | ok u => exact removeFiles_survives hw hsub

/-- A temporary entry of the work directory. Reference: Go `os.MkdirTemp`. -/
theorem RestoreEnv.WorkDir.staging {workDir : String} (h : E.WorkDir workDir)
    (hname : Name name) : E.StagingDir name (joinPath workDir name) := by
  have habs : IsAbs (joinPath workDir name) = true := by
    unfold joinPath
    split
    · exact isAbs_append h.isAbs _
    · exact isAbs_append (isAbs_append h.isAbs _) _
  refine ⟨habs, ?_⟩
  rw [← @located_of_abs E.cwd _ habs, located_joinPath h.ne_empty hname,
    located_of_abs h.isAbs, h.names]

/-- What is left where the staging directory is made. Reference: `api/backup.go:308
RestoreBackup`. -/
def RestoreEnv.Staging (E : RestoreEnv) (d₀ : Disk) (r : Except String String) (d : Disk) : Prop :=
  (∃ msg, r = .error msg ∧ E.Before d₀ d) ∨ ∃ name stagingDir, r = .ok stagingDir ∧
    E.OwnName d₀ name ∧ E.StagingDir name stagingDir ∧ E.Staged d₀ name [] (placeEntries []) d

theorem RestoreEnv.Staging.contained {r : Except String String} (h : E.Staging d₀ r d) :
    E.Contained d₀ d := by
  rcases h with ⟨_, -, h⟩ | ⟨_, _, -, -, -, h⟩
  · exact h.contained
  · exact h.before.contained

theorem exec_staging {workDir : String} {fault : Fault} {r : Except String String}
    (hw : E.WorkDir workDir) (h : E.Before d₀ d)
    (hx : diskExec E.cwd d (.mkdirTemp workDir "albyhub-restore-") fault = some (r, d')) :
    E.Staging d₀ r d' := by
  rcases exec_mkdirTemp hx with ⟨msg, rfl, rfl⟩ | ⟨path, p, hpath, hp, rfl, hfree, hdir, hpass, rfl⟩
  · exact .inl ⟨msg, rfl, h⟩
  · have hname : Name ("albyhub-restore-" ++ toString fault.random) := by
      have htemp := @name_temp "albyhub-restore-" "" 'a' rfl (by decide) (by decide) (by decide)
        fault.random
      rwa [String.append_empty] at htemp
    have hs := hw.staging hname
    rw [← hpath] at hs
    rw [located_of_abs hs.isAbs, hs.names] at hp
    subst hp
    have hpre : HasPrefix ("albyhub-restore-" ++ toString fault.random) "albyhub-" = true := by
      have happend := hasPrefix_self_append "albyhub-" ("restore-" ++ toString fault.random)
      rwa [← String.append_assoc] at happend
    have hown := h.ownName hpre hfree
    rw [List.dropLast_concat] at hdir
    exact .inr ⟨_, path, rfl, hown, hs, h.mkdirTemp hown hfree hdir rfl hpass⟩

theorem restoreArchive_survives {workDir : String} {bytes : List UInt8} (hw : E.WorkDir workDir)
    (hdecrypted : E.decrypted = .ok (bytes, none)) :
    (restoreArchive E workDir bytes).Survives (diskExec E.cwd) (E.Before d₀) (E.Done d₀)
      (E.Contained d₀) := by
  unfold restoreArchive
  cases hzip : E.zipReader bytes with
  | error err => exact refused_survives fun d hd => hd
  | ok files =>
    dsimp only
    split
    · exact refused_survives fun d hd => hd
    · refine Prog.Survives.call (M := E.Staging d₀) (fun d hd => hd.contained)
        (fun d e r d' hd hx => exec_staging hw hd hx) fun r => ?_
      cases r with
      | error err =>
        refine refused_survives fun d hd => ?_
        rcases hd with ⟨_, -, hd⟩ | ⟨_, _, hok, -⟩
        · exact hd
        · cases hok
      | ok stagingDir =>
        intro d hd
        rcases hd with ⟨_, hok, -⟩ | ⟨name, _, hok, hown, hs, hd⟩
        · cases hok
        · cases hok
          refine (Prog.Survives.bind (restoreStaged_survives hown hs hw.restorePlace
            ⟨bytes, hdecrypted, hzip⟩) fun res => ?_) d hd
          refine Prog.Survives.bind
            (removeOldDatabase_survives hw (List.take_subset _ _)) fun _ => ?_
          refine Prog.Survives.call (M := fun _ => E.Done d₀ res) (fun d hd => hd.1) ?_
            fun _ => Prog.Survives.ret (fun d hd => hd) fun d hd => hd.1
          intro d e r d' hd hx
          rcases exec_removeAll hx with ⟨msg, rfl, rfl⟩ | ⟨keep, hne, rfl, -⟩
          · exact hd
          · refine hd.frame hown fun q hq => item_remove hne ?_
            rwa [located_of_abs hs.isAbs, hs.names]

theorem restoreDecrypted_survives {workDir tmpName tmp : String} {bytes : List UInt8}
    {readErr : Option String} (hw : E.WorkDir workDir) (hown : E.OwnName d₀ tmp)
    (htmp : located E.cwd tmpName = E.place ++ [tmp])
    (hdecrypted : E.decrypted = .ok (bytes, readErr)) :
    (restoreDecrypted E workDir tmpName bytes readErr).Survives (diskExec E.cwd) (E.Before d₀)
      (E.Done d₀) (E.Contained d₀) := by
  refine Prog.Survives.call (M := fun _ => E.Before d₀) (fun d hd => hd.contained) ?_ fun r => ?_
  · intro d e r d' hd hx
    obtain ⟨old, written, -, -, htakes, rfl⟩ := exec_write hx
    refine hd.frame hown fun q hq => if_neg ?_
    rintro rfl
    exact hq (htmp ▸ List.prefix_refl _)
  · cases r with
    | error err => exact refused_survives fun d hd => hd
    | ok u =>
      cases readErr with
      | some err => exact refused_survives fun d hd => hd
      | none =>
        refine Prog.Survives.call (M := fun _ => E.Before d₀) (fun d hd => hd.contained)
          (fun d e r d' hd hx => exec_sync hx ▸ hd) fun r => ?_
        cases r with
        | error err => exact refused_survives fun d hd => hd
        | ok u =>
          refine Prog.Survives.call (M := fun _ => E.Before d₀) (fun d hd => hd.contained)
            (fun d e r d' hd hx => exec_seek hx ▸ hd) fun r => ?_
          cases r with
          | error err => exact refused_survives fun d hd => hd
          | ok u => exact restoreArchive_survives hw hdecrypted

/-- What is left where the temporary file is made. Reference: `api/backup.go:272 RestoreBackup`. -/
def RestoreEnv.Temp (E : RestoreEnv) (d₀ : Disk) (r : Except String String) (d : Disk) : Prop :=
  E.Before d₀ d ∧ ∀ tmpName, r = .ok tmpName → ∃ tmp, E.OwnName d₀ tmp ∧
    located E.cwd tmpName = E.place ++ [tmp]

theorem exec_temp {fault : Fault} {r : Except String String} (h : E.Before d₀ d)
    (hx : diskExec E.cwd d (.createTemp E.workdir "albyhub-" ".bkp") fault = some (r, d')) :
    E.Temp d₀ r d' := by
  rcases exec_createTemp hx with ⟨msg, rfl, rfl⟩ | ⟨path, p, hpath, hp, rfl, hfree, htakes, rfl⟩
  · exact ⟨h, fun _ hok => by cases hok⟩
  · have hname := @name_temp "albyhub-" ".bkp" 'a' rfl (by decide) (by decide) (by decide)
      fault.random
    have hplace : located E.cwd path =
        E.place ++ ["albyhub-" ++ toString fault.random ++ ".bkp"] := by
      rw [hpath, located_joinPath E.workdir_ne hname, E.place_eq]
    rw [hplace] at hp
    have hpre : HasPrefix ("albyhub-" ++ toString fault.random ++ ".bkp") "albyhub-" = true := by
      rw [String.append_assoc]
      exact hasPrefix_self_append _ _
    have hown := h.ownName hpre (hp ▸ hfree)
    refine ⟨h.frame hown fun q hq => if_neg ?_, fun tmpName hok => ?_⟩
    · rintro rfl
      exact hq (hp ▸ List.prefix_refl _)
    · cases hok
      exact ⟨_, hown, hplace⟩

theorem RestoreBackup_survives :
    (RestoreBackup E).Survives (diskExec E.cwd) (· = d₀) (E.Done d₀) (E.Contained d₀) := by
  have hstart : ∀ d, d = d₀ → E.Before d₀ d := fun d hd => hd ▸ .refl
  unfold RestoreBackup
  cases habs : Abs (E.getwd.elim (.ok E.cwd) .error) E.workdir with
  | error err => exact refused_survives hstart
  | ok workDir =>
    obtain ⟨hisAbs, hnames⟩ := located_Abs E.cwd_abs habs
    have hw : E.WorkDir workDir := ⟨hisAbs, E.place_eq ▸ hnames⟩
    dsimp only
    split
    · exact refused_survives hstart
    · split
      · exact refused_survives hstart
      · cases hdecrypted : E.decrypted with
        | error err => exact refused_survives hstart
        | ok opened =>
          obtain ⟨bytes, readErr⟩ := opened
          refine Prog.Survives.call (M := E.Temp d₀) (fun d hd => (hstart d hd).contained)
            (fun d e r d' hd hx => exec_temp (hstart d hd) hx) fun r => ?_
          cases r with
          | error err => exact refused_survives fun d hd => hd.1
          | ok tmpName =>
            intro d hd
            obtain ⟨tmp, hown, htmp⟩ := hd.2 tmpName rfl
            refine (Prog.Survives.bind (restoreDecrypted_survives hw hown htmp hdecrypted)
              fun res => ?_) d hd.1
            have hlate : (oldDatabaseFiles.drop E.early).take E.late ⊆ oldDatabaseFiles :=
              fun _ hmem => List.mem_of_mem_drop (List.mem_of_mem_take hmem)
            have hlast : (oldDatabaseFiles.drop E.early).drop E.late ⊆ oldDatabaseFiles :=
              fun _ hmem => List.mem_of_mem_drop (List.mem_of_mem_drop hmem)
            refine Prog.Survives.bind (removeOldDatabase_survives hw hlate) fun _ => ?_
            refine Prog.Survives.call (M := fun _ => E.Done d₀ res) (fun d hd => hd.1) ?_
              fun _ => Prog.Survives.bind (removeOldDatabase_survives hw hlast)
                fun _ => Prog.Survives.ret (fun d hd => hd) fun d hd => hd.1
            intro d e r d' hd hx
            rcases exec_remove hx with ⟨msg, rfl, rfl⟩ | ⟨hne, rfl, rfl⟩
            · exact hd
            · exact hd.frame hown fun q hq => item_remove hne (htmp ▸ hq)

end

/-- Whatever the archive holds, and wherever a call fails or the process dies, a restore changes
nothing but the folder `restore`, temporary entries of its own and, once the folder holds the whole
archive, the old database, and the folder holds what is left of the old one, or the whole archive;
after a restore that succeeds it holds the archive. Reference: `api/backup.go:251
RestoreBackup`. -/
theorem restore_is_contained {E : RestoreEnv} {d₀ d : Disk} :
    ((RestoreBackup E).Passes (diskExec E.cwd) d₀ d → E.Contained d₀ d) ∧
      ∀ r, (RestoreBackup E).Runs (diskExec E.cwd) d₀ r d →
        E.Contained d₀ d ∧ (r = .ok () → ∃ files, E.Extracted files d) := by
  refine ⟨fun hpass => ?_, fun r hruns => ?_⟩
  · exact (RestoreBackup_survives d₀ rfl).1 d hpass
  · exact (RestoreBackup_survives d₀ rfl).2 r d hruns

/-! ## A restore -/

/-- A file system with nothing in it. Reference: none. -/
def rootItem (p : List String) : Option Item := if p = [] then some .dir else none

theorem rootItem_parents (p : List String) (name : String) (h : rootItem (p ++ [name]) ≠ none) :
    rootItem p = some .dir := by
  unfold rootItem at h
  rw [if_neg (List.append_ne_nil_of_right_ne_nil _ (List.cons_ne_nil _ _))] at h
  exact absurd rfl h

/-- Reference: none. -/
def rootDisk : Disk := ⟨rootItem, rfl, rootItem_parents⟩

theorem isAbs_slash : IsAbs "/" = true := by decide

theorem slash_ne_empty : "/" ≠ "" := by decide

/-- An archive with one file. Reference: none. -/
def demoRestore : RestoreEnv where
  workdir := "/"
  cwd := "/"
  databaseUri := "nwc.db"
  dialector := "sqlite"
  decrypted := .ok ([1], none)
  zipReader := fun bytes => .ok [⟨"nwc.db", .ok (bytes, none)⟩]
  quote := id
  cwd_abs := isAbs_slash
  workdir_ne := slash_ne_empty

/-- Nothing fails. Reference: none. -/
def demoRestored : Option (Except String Unit × Disk) :=
  (RestoreBackup demoRestore).play (diskExec "/") (fun _ d => d) (fun _ => {}) rootDisk

theorem restore_is_contained_root : ∃ d,
    (RestoreBackup demoRestore).Runs (diskExec "/") rootDisk (.ok ()) d ∧
      demoRestore.Contained rootDisk d ∧ ∃ files, demoRestore.Extracted files d := by
  have hok : demoRestored.map (·.1.toOption) = some (some ()) := by decide +kernel
  obtain ⟨⟨r, d⟩, hplay, hr⟩ := Option.map_eq_some_iff.1 hok
  cases r with
  | error err => cases hr
  | ok u =>
    have hrun : (RestoreBackup demoRestore).Runs (diskExec "/") rootDisk (.ok ()) d :=
      Prog.Runs.of_play hplay
    have hdone := (restore_is_contained (E := demoRestore)).2 _ hrun
    exact ⟨d, hrun, hdone.1, hdone.2 rfl⟩

end AlbyHub
