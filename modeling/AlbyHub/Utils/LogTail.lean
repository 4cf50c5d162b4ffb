import AlbyHub.Go.Streams
import AlbyHub.Interaction.Solo

/-!
# The tail of a log file

`ReadFileTail` as a program over the calls of an open file, each of which may fail, and whose reads
may be as short as they like. What is read when nothing fails is the tail (`traces_readTail`). The
deferred function assigns the result of closing the file to the error, whatever has been returned,
so that a failure before it is reported only if the closing fails as well (`log_tail_iff`).
-/

namespace AlbyHub

open Go Interaction

/-! ## The file -/

/-- The calls of an open file. Reference: Go `os.Open`, `os.File`. -/
inductive FileCmd where
  | Open
  | Stat
  | Seek (offset : Int)
  | Read (size : Nat)
  | Close
  deriving DecidableEq, Repr

/-- What they answer. Reference: Go `os.Open`, `os.File`. -/
abbrev FileCmd.Ans : FileCmd → Type
  | .Open => Except String Unit
  | .Stat => Except String Nat
  | .Seek _ => Except String Unit
  | .Read _ => List UInt8 × Option IoErr
  | .Close => Except String Unit

/-- A program on a file. Reference: none. -/
abbrev FileProg := Prog FileCmd FileCmd.Ans

/-- The file and the position in it. Reference: Go `os.File`. -/
structure FileState where
  content : List UInt8
  offset : Nat
  deriving DecidableEq, Repr

/-- What the system does at a call: it may fail, and a read hands out `more + 1` bytes at most.
Reference: Go `os.File`. -/
structure FileEnv where
  fault : Option String := none
  more : Nat := 0

/-- What a call does. The offset of `Seek` is from the end. Reference: Go `os.File`. -/
def execFile (s : FileState) : (c : FileCmd) → FileEnv → Option (c.Ans × FileState)
  | .Open, env =>
    match env.fault with
    | some e => some (.error e, s)
    | none => some (.ok (), { s with offset := 0 })
  | .Stat, env =>
    match env.fault with
    | some e => some (.error e, s)
    | none => some (.ok s.content.length, s)
  | .Seek offset, env =>
    match env.fault with
    | some e => some (.error e, s)
    | none =>
      if 0 ≤ s.content.length + offset then
        some (.ok (), { s with offset := (s.content.length + offset).toNat })
      else some (.error "invalid argument", s)
  | .Read size, env =>
    match env.fault with
    | some e => some (([], some (.other e)), s)
    | none =>
      let bytes := (s.content.drop s.offset).take (min size (env.more + 1))
      if s.content.length ≤ s.offset then some (([], some .eof), s)
      else some ((bytes, none), { s with offset := s.offset + bytes.length })
  | .Close, env =>
    match env.fault with
    | some e => some (.error e, s)
    | none => some (.ok (), s)

/-! ## The function -/

/-- `Read` of the file, or of a limited reader on it, with what is left of the limit. Reference:
Go `io.LimitReader`. -/
def readLimited (limit : Option Nat) (size : Nat) :
    FileProg ((List UInt8 × Option IoErr) × Option Nat) :=
  if limit = some 0 then return (([], some .eof), limit)
  else do
    let r ← Prog.call (R := FileCmd.Ans) (.Read (limit.elim size (min size)))
    return (r, limit.map (· - r.1.length))

/-- The loop of `io.ReadAll`. Its buffer has room for `room n + 1` bytes behind the `n` that it
holds. The fuel bounds the turns. Reference: Go `io.ReadAll`. -/
def ioReadAll (room : Nat → Nat) : Nat → Option Nat → List UInt8 →
    FileProg (Option (List UInt8 × Option IoErr))
  | 0, _, _ => return none
  | fuel + 1, limit, b => do
    let (r, limit) ← readLimited limit (room b.length + 1)
    match r.2 with
    | none => ioReadAll room fuel limit (b ++ r.1)
    | some .eof => return some (b ++ r.1, none)
    | some e => return some (b ++ r.1, some e)

/-- The position and the limit of the reader. Reference: `utils/utils.go:27 ReadFileTail`. -/
def limitReader (maxLen : Int) : FileProg (Except String (Option Nat)) :=
  if 0 < maxLen then do
    match ← Prog.call (R := FileCmd.Ans) .Stat with
    | .error e => return .error ("failed to stat file: " ++ e)
    | .ok size =>
      if maxLen < size then
        match ← Prog.call (R := FileCmd.Ans) (.Seek (-maxLen)) with
        | .error e => return .error ("failed to seek file: " ++ e)
        | .ok () => return .ok (some maxLen.toNat)
      else return .ok (some maxLen.toNat)
  else return .ok none

/-- What is returned before the deferred function. Reference: `utils/utils.go:25 ReadFileTail`. -/
def readTail (room : Nat → Nat) (fuel : Nat) (maxLen : Int) :
    FileProg (Option (List UInt8 × Option String)) := do
  match ← limitReader maxLen with
  | .error e => return some ([], some e)
  | .ok limit =>
    match ← ioReadAll room fuel limit [] with
    | none => return none
    | some (_, some e) => return some ([], some ("failed to read file: " ++ e.Error))
    | some (data, none) => return some (data, none)

/-- Reference: `utils/utils.go:11 ReadFileTail`. -/
def ReadFileTail (room : Nat → Nat) (fuel : Nat) (maxLen : Int) :
    FileProg (Option (List UInt8 × Option String)) := do
  match ← Prog.call (R := FileCmd.Ans) .Open with
  | .error e => return some ([], some ("failed to open file: " ++ e))
  | .ok () =>
    match ← readTail room fuel maxLen with
    | none => return none
    | some (data, _) =>
      -- the deferred function assigns `err`, so that what has been returned in it is lost
      match ← Prog.call (R := FileCmd.Ans) .Close with
      | .ok () => return some (data, none)
      | .error e => return some ([], some ("failed to close file: " ++ e))

/-! ## What a run of it does -/

/-- The kinds of calls. Reference: none. -/
inductive FileOp where
  | opening
  | stating
  | seeking
  | reading
  | closing
  deriving DecidableEq, Repr

def FileCmd.op : FileCmd → FileOp
  | .Open => .opening
  | .Stat => .stating
  | .Seek _ => .seeking
  | .Read _ => .reading
  | .Close => .closing

/-- Whether the call has failed. The end of the file is no failure. Reference: none. -/
def FileCmd.fails : (c : FileCmd) → c.Ans → Bool
  | .Open, a => !a.isOk
  | .Stat, a => !a.isOk
  | .Seek _, a => !a.isOk
  | .Read _, a => a.2 ≠ none ∧ a.2 ≠ some .eof
  | .Close, a => !a.isOk

/-- A call of this kind has failed. Reference: none. -/
def Failed (op : FileOp) (h : List (Call FileCmd FileCmd.Ans)) : Prop :=
  ∃ call ∈ h, call.cmd.op = op ∧ call.cmd.fails call.answer = true

/-- No call has failed. Reference: none. -/
def Unfailing (h : List (Call FileCmd FileCmd.Ans)) : Prop :=
  ∀ call ∈ h, call.cmd.fails call.answer = false

/-- The last `maxLen` bytes, or all where there are not so many or no limit is given. Reference:
none. -/
def fileTail (maxLen : Int) (content : List UInt8) : List UInt8 :=
  if 0 < maxLen then content.drop (content.length - maxLen.toNat) else content

/-- The bytes that a reader has yet to hand out. Reference: Go `io.LimitReader`. -/
def FileState.rest (s : FileState) (limit : Option Nat) : List UInt8 :=
  match limit with
  | none => s.content.drop s.offset
  | some n => (s.content.drop s.offset).take n

/-- The result is the tail, or it is an error; where no call has failed it is no error, and where
the opening, a seeking or a reading has, it is one. Reference: none. -/
structure TailExact (content : List UInt8) (maxLen : Int) (h : List (Call FileCmd FileCmd.Ans))
    (data : List UInt8) (err : Option String) : Prop where
  tail : err = none → data = fileTail maxLen content
  complete : Unfailing h → err = none
  reported : Failed .opening h ∨ Failed .seeking h ∨ Failed .reading h → err ≠ none

section
variable {room : Nat → Nat} {fuel size : Nat} {limit : Option Nat} {b : List UInt8} {maxLen : Int}
variable {s s' : FileState} {op : FileOp} {h h' : List (Call FileCmd FileCmd.Ans)}
variable {call : Call FileCmd FileCmd.Ans}

@[simp] theorem toBool_error {α : Type} {e : String} :
    (Except.error e : Except String α).toBool = false := rfl

@[simp] theorem toBool_ok {α : Type} {a : α} : (Except.ok a : Except String α).toBool = true := rfl

@[simp] theorem op_eq : FileCmd.Open.op = .opening ∧ FileCmd.Stat.op = .stating ∧
    (∀ offset, (FileCmd.Seek offset).op = .seeking) ∧ (∀ size, (FileCmd.Read size).op = .reading) ∧
    FileCmd.Close.op = .closing :=
  ⟨rfl, rfl, fun _ => rfl, fun _ => rfl, rfl⟩

@[simp] theorem fails_eq : (∀ a, FileCmd.Open.fails a = !a.toBool) ∧
    (∀ a, FileCmd.Stat.fails a = !a.toBool) ∧
    (∀ offset a, (FileCmd.Seek offset).fails a = !a.toBool) ∧
    (∀ size a, (FileCmd.Read size).fails a = decide (a.2 ≠ none ∧ a.2 ≠ some .eof)) ∧
    ∀ a, FileCmd.Close.fails a = !a.toBool :=
  ⟨fun _ => rfl, fun _ => rfl, fun _ _ => rfl, fun _ _ => rfl, fun _ => rfl⟩

@[simp] theorem unfailing_nil : Unfailing [] := by
  simp [Unfailing]

@[simp] theorem failed_nil : ¬ Failed op [] := by
  simp [Failed]

@[simp] theorem failed_cons : Failed op (call :: h) ↔
    (call.cmd.op = op ∧ call.cmd.fails call.answer = true) ∨ Failed op h := by
  simp [Failed]

@[simp] theorem failed_append : Failed op (h ++ h') ↔ Failed op h ∨ Failed op h' := by
  simp [Failed, or_and_right, exists_or]

@[simp] theorem unfailing_cons :
    Unfailing (call :: h) ↔ call.cmd.fails call.answer = false ∧ Unfailing h := by
  simp [Unfailing]

@[simp] theorem unfailing_append : Unfailing (h ++ h') ↔ Unfailing h ∧ Unfailing h' := by
  simp [Unfailing, or_imp, forall_and]

theorem Unfailing.not_failed (hu : Unfailing h) : ¬ Failed op h := by
  rintro ⟨call, hmem, -, hfails⟩
  rw [hu call hmem] at hfails
  cases hfails

/-! ## Reading to the end -/

/-- A read moves the position behind what it hands out. Reference: Go `io.LimitReader`. -/
theorem FileState.rest_read {bytes rest : List UInt8}
    (hcontent : s.content.drop s.offset = bytes ++ rest)
    (hlimit : ∀ n, limit = some n → bytes.length ≤ n) :
    s.rest limit = bytes ++
      { s with offset := s.offset + bytes.length }.rest (limit.map (· - bytes.length)) := by
  have hrest : s.content.drop (s.offset + bytes.length) = rest := by
    rw [← List.drop_drop, hcontent, List.drop_left]
  cases limit with
  | none => simp only [FileState.rest, Option.map_none, hcontent, hrest]
  | some n =>
    have hn : bytes.length ≤ n := hlimit n rfl
    simp only [FileState.rest, Option.map_some, hcontent, hrest]
    rw [List.take_append, List.take_of_length_le hn]

/-- What the system does at a read. Reference: Go `os.File`. -/
theorem execFile_read {env : FileEnv} {a : List UInt8 × Option IoErr} (hsize : size ≠ 0)
    (hx : execFile s (.Read size) env = some (a, s')) :
    (∃ e, a = ([], some (.other e)) ∧ s' = s) ∨
      (a = ([], some .eof) ∧ s' = s ∧ s.content.drop s.offset = []) ∨
      ∃ bytes rest, a = (bytes, none) ∧ bytes ≠ [] ∧ bytes.length ≤ size ∧
        s.content.drop s.offset = bytes ++ rest ∧
        s' = { s with offset := s.offset + bytes.length } := by
  cases hfault : env.fault with
  | some e =>
    simp only [execFile, hfault] at hx
    cases hx
    exact .inl ⟨e, rfl, rfl⟩
  | none =>
    simp only [execFile, hfault] at hx
    split at hx
    · next hend =>
      cases hx
      exact .inr (.inl ⟨rfl, rfl, List.drop_eq_nil_of_le hend⟩)
    · next hmore =>
      cases hx
      refine .inr (.inr ⟨_, _, rfl, fun hnil => ?_,
        (List.length_take_le _ _).trans (min_le_left _ _), (List.take_append_drop _ _).symm, rfl⟩)
      have hlength := congrArg List.length hnil
      rw [List.length_take, List.length_drop, List.length_nil] at hlength
      omega

/-- What a read does: it comes to the end, or it hands out some bytes, or it fails. Reference: Go
`io.LimitReader`. -/
theorem traces_readLimited {r : (List UInt8 × Option IoErr) × Option Nat}
    (ht : (readLimited limit (size + 1)).Traces execFile s h r s') :
    s'.content = s.content ∧ (∀ call ∈ h, call.cmd.op = .reading) ∧
      ((Unfailing h ∧ r.1 = ([], some .eof) ∧ s.rest limit = []) ∨
        (Unfailing h ∧ r.1.2 = none ∧ r.1.1 ≠ [] ∧ s.rest limit = r.1.1 ++ s'.rest r.2) ∨
        Failed .reading h ∧ ∃ bytes e, r.1 = (bytes, some (.other e))) := by
  unfold readLimited at ht
  split at ht
  · next hlimit =>
    obtain ⟨rfl, rfl, rfl⟩ := ht
    subst hlimit
    exact ⟨rfl, by simp, .inl ⟨by simp, rfl, by simp [FileState.rest]⟩⟩
  · next hlimit =>
    obtain ⟨env, r, s₁, h', hx, rfl, rfl, rfl, rfl⟩ := Prog.traces_call_bind.1 ht
    have hsize : limit.elim (size + 1) (min (size + 1)) ≠ 0 := by
      cases limit with
      | none => simp
      | some n =>
        have hn : n ≠ 0 := fun hn => hlimit (congrArg some hn)
        simp only [Option.elim_some]
        omega
    rcases execFile_read hsize hx with ⟨e, rfl, rfl⟩ | ⟨rfl, rfl, hend⟩ |
      ⟨bytes, rest, rfl, hbytes, hle, hcontent, rfl⟩
    · exact ⟨rfl, by simp, .inr (.inr ⟨by simp, _, _, rfl⟩)⟩
    · refine ⟨rfl, by simp, .inl ⟨by simp, rfl, ?_⟩⟩
      cases limit <;> simp [FileState.rest, hend]
    · refine ⟨rfl, by simp, .inr (.inl ⟨by simp, rfl, hbytes,
        FileState.rest_read hcontent fun n hn => ?_⟩)⟩
      subst hn
      exact hle.trans (min_le_right _ _)

/-- Reading to the end gives all that the reader has yet to hand out, or a reading has failed.
Reference: Go `io.ReadAll`. -/
theorem traces_ioReadAll {r : Option (List UInt8 × Option IoErr)}
    (hfuel : (s.rest limit).length < fuel)
    (ht : (ioReadAll room fuel limit b).Traces execFile s h r s') :
    s'.content = s.content ∧ (∀ call ∈ h, call.cmd.op = .reading) ∧
      ((Unfailing h ∧ r = some (b ++ s.rest limit, none)) ∨
        Failed .reading h ∧ ∃ bytes e, r = some (bytes, some e)) := by
  induction fuel generalizing limit b s h with
  | zero => omega
  | succ fuel ih =>
    obtain ⟨h₁, ⟨⟨bytes, err⟩, limit'⟩, s₁, h₂, rfl, hread, hk⟩ := Prog.traces_bind.1 ht
    obtain ⟨hsame, hops, ⟨hquiet, hr, hrest⟩ | ⟨hquiet, hr, hbytes, hrest⟩ | ⟨hfailed, _, e, hr⟩⟩ :=
      traces_readLimited hread
    · cases hr
      obtain ⟨rfl, rfl, rfl⟩ := hk
      refine ⟨hsame, by simpa using hops, .inl ⟨by simpa using hquiet, ?_⟩⟩
      rw [hrest]
    · cases hr
      have hless : 0 < bytes.length := List.length_pos_iff.2 hbytes
      rw [hrest, List.length_append] at hfuel
      simp only at hfuel hrest
      obtain ⟨hsame', hops', hend⟩ := ih (by omega) hk
      refine ⟨hsame'.trans hsame, ?_, ?_⟩
      · simpa [or_imp, forall_and] using ⟨hops, hops'⟩
      rcases hend with ⟨hquiet', rfl⟩ | ⟨hfailed, hr⟩
      · refine .inl ⟨unfailing_append.2 ⟨hquiet, hquiet'⟩, ?_⟩
        rw [hrest, List.append_assoc]
      · exact .inr ⟨failed_append.2 (.inr hfailed), hr⟩
    · cases hr
      obtain ⟨rfl, rfl, rfl⟩ := hk
      exact ⟨hsame, by simpa using hops, .inr ⟨by simpa using hfailed, _, _, rfl⟩⟩

/-! ## The function -/

theorem execFile_stat {env : FileEnv} {a : Except String Nat}
    (hx : execFile s .Stat env = some (a, s')) :
    s' = s ∧ ((∃ e, a = .error e) ∨ a = .ok s.content.length) := by
  cases hfault : env.fault with
  | some e =>
    simp only [execFile, hfault] at hx
    cases hx
    exact ⟨rfl, .inl ⟨e, rfl⟩⟩
  | none =>
    simp only [execFile, hfault] at hx
    cases hx
    exact ⟨rfl, .inr rfl⟩

/-- A position behind the start of the file is one. Reference: Go `os.File`. -/
theorem execFile_seek {env : FileEnv} {a : Except String Unit} (hle : maxLen ≤ s.content.length)
    (hx : execFile s (.Seek (-maxLen)) env = some (a, s')) :
    s'.content = s.content ∧ ((∃ e, a = .error e) ∨
      a = .ok () ∧ s'.offset = (s.content.length - maxLen).toNat) := by
  cases hfault : env.fault with
  | some e =>
    simp only [execFile, hfault] at hx
    cases hx
    exact ⟨rfl, .inl ⟨e, rfl⟩⟩
  | none =>
    simp only [execFile, hfault] at hx
    rw [if_pos (by omega)] at hx
    cases hx
    exact ⟨rfl, .inr ⟨rfl, rfl⟩⟩

/-- The reader that `ioReadAll` gets hands out the tail, or a call has failed. Reference:
`utils/utils.go:27 ReadFileTail`. -/
theorem traces_limitReader {r : Except String (Option Nat)} (hstart : s.offset = 0)
    (ht : (limitReader maxLen).Traces execFile s h r s') :
    s'.content = s.content ∧ (∀ call ∈ h, call.cmd.op = .stating ∨ call.cmd.op = .seeking) ∧
      ((Unfailing h ∧ ∃ limit, r = .ok limit ∧ s'.rest limit = fileTail maxLen s.content) ∨
        (Failed .stating h ∨ Failed .seeking h) ∧ ∃ e, r = .error e) := by
  unfold limitReader at ht
  split at ht
  · next hpos =>
    obtain ⟨env, size, s₁, h₁, hx, rfl, hk⟩ := Prog.traces_call_bind.1 ht
    obtain ⟨rfl, ⟨e, rfl⟩ | rfl⟩ := execFile_stat hx
    · obtain ⟨rfl, rfl, rfl⟩ := hk
      exact ⟨rfl, by simp, .inr ⟨by simp, _, rfl⟩⟩
    simp only at hk
    split at hk
    · next hlong =>
      obtain ⟨env', a, s₂, h₂, hx', rfl, hk'⟩ := Prog.traces_call_bind.1 hk
      obtain ⟨hsame, ⟨e, rfl⟩ | ⟨rfl, hoffset⟩⟩ := execFile_seek (Int.le_of_lt hlong) hx'
      · obtain ⟨rfl, rfl, rfl⟩ := hk'
        exact ⟨hsame, by simp, .inr ⟨by simp, _, rfl⟩⟩
      · obtain ⟨rfl, rfl, rfl⟩ := hk'
        refine ⟨hsame, by simp, .inl ⟨by simp, _, rfl, ?_⟩⟩
        have hstart' : s'.offset = s₁.content.length - maxLen.toNat := by omega
        rw [fileTail, if_pos hpos, FileState.rest, hsame, hstart', List.take_of_length_le]
        rw [List.length_drop]
        omega
    · next hshort =>
      obtain ⟨rfl, rfl, rfl⟩ := hk
      refine ⟨rfl, by simp, .inl ⟨by simp, _, rfl, ?_⟩⟩
      have hall : s'.content.length - maxLen.toNat = 0 := by omega
      rw [fileTail, if_pos hpos, FileState.rest, hstart, hall, List.drop_zero,
        List.take_of_length_le]
      omega
  · next hall =>
    obtain ⟨rfl, rfl, rfl⟩ := ht
    refine ⟨rfl, by simp, .inl ⟨by simp, none, rfl, ?_⟩⟩
    rw [fileTail, if_neg hall, FileState.rest, hstart, List.drop_zero]

/-- What is returned before the deferred function is the tail, or an error without data. Reference:
`utils/utils.go:25 ReadFileTail`. -/
theorem traces_readTail {r : Option (List UInt8 × Option String)} (hstart : s.offset = 0)
    (hfuel : s.content.length < fuel)
    (ht : (readTail room fuel maxLen).Traces execFile s h r s') :
    (∀ call ∈ h, call.cmd.op ≠ .opening ∧ call.cmd.op ≠ .closing) ∧
      ∃ data err, r = some (data, err) ∧
        ((Unfailing h ∧ data = fileTail maxLen s.content ∧ err = none) ∨
          (Failed .stating h ∨ Failed .seeking h ∨ Failed .reading h) ∧
            data = [] ∧ err ≠ none) := by
  obtain ⟨h₁, limit, s₁, h₂, rfl, hlimit, hk⟩ := Prog.traces_bind.1 ht
  obtain ⟨hsame, hops, hopened⟩ := traces_limitReader hstart hlimit
  have hfirst : ∀ call ∈ h₁, call.cmd.op ≠ .opening ∧ call.cmd.op ≠ .closing := by
    intro call hmem
    rcases hops call hmem with hop | hop <;> simp [hop]
  rcases hopened with ⟨hquiet, limit, rfl, hrest⟩ | ⟨hfailed, e, rfl⟩
  · obtain ⟨h₃, read, s₂, h₄, rfl, hread, hk⟩ := Prog.traces_bind.1 hk
    have hfuel' : (s₁.rest limit).length < fuel := by
      rw [hrest, fileTail]
      split
      · rw [List.length_drop]
        omega
      · exact hfuel
    obtain ⟨-, hops', hend⟩ := traces_ioReadAll hfuel' hread
    have hcalls : ∀ call ∈ h₁ ++ (h₃ ++ []), call.cmd.op ≠ .opening ∧ call.cmd.op ≠ .closing := by
      refine List.forall_mem_append.2 ⟨hfirst, List.forall_mem_append.2 ⟨fun call hmem => ?_, ?_⟩⟩
      · simp [hops' call hmem]
      · simp
    rcases hend with ⟨hquiet', rfl⟩ | ⟨hfailed, bytes, e, rfl⟩
    · obtain ⟨rfl, rfl, rfl⟩ := hk
      exact ⟨hcalls, _, _, rfl, .inl ⟨by simpa using ⟨hquiet, hquiet'⟩, hrest, rfl⟩⟩
    · obtain ⟨rfl, rfl, rfl⟩ := hk
      exact ⟨hcalls, _, _, rfl, .inr ⟨by simp [hfailed], rfl, by simp⟩⟩
  · obtain ⟨rfl, rfl, rfl⟩ := hk
    refine ⟨List.forall_mem_append.2 ⟨hfirst, by simp⟩, _, _, rfl, .inr ⟨?_, rfl, by simp⟩⟩
    rcases hfailed with hfailed | hfailed <;> simp [hfailed]

theorem TailExact.of_failed {content data : List UInt8} {e : String} (o : FileOp)
    (hf : Failed o h) :
    TailExact content maxLen h data (some e) where
  tail := fun he => by cases he
  complete := fun hu => absurd hf hu.not_failed
  reported := fun _ he => by cases he

end

/-- The file is opened at its start. Reference: Go `os.Open`. -/
theorem execFile_open {s s' : FileState} {env : FileEnv} {a : Except String Unit}
    (hx : execFile s .Open env = some (a, s')) :
    s'.content = s.content ∧ ((∃ e, a = .error e) ∨ a = .ok () ∧ s'.offset = 0) := by
  cases hfault : env.fault with
  | some e =>
    simp only [execFile, hfault] at hx
    cases hx
    exact ⟨rfl, .inl ⟨e, rfl⟩⟩
  | none =>
    simp only [execFile, hfault] at hx
    cases hx
    exact ⟨rfl, .inr ⟨rfl, rfl⟩⟩

/-- Only an empty file has an empty tail. Reference: none. -/
theorem fileTail_eq_nil {maxLen : Int} {content : List UInt8} :
    fileTail maxLen content = [] ↔ content = [] := by
  unfold fileTail
  split
  · rw [List.drop_eq_nil_iff, ← List.length_eq_zero_iff]
    omega
  · rfl

/-- Where a failure is lost unless closing the file fails too. Reference: `utils/utils.go:16
ReadFileTail`. -/
def Overwritten (content : List UInt8) (h : List (Call FileCmd FileCmd.Ans)) : Prop :=
  Failed .stating h ∧ content ≠ [] ∨ Failed .seeking h ∨ Failed .reading h

/-- Whatever calls fail, and however short the reads are: the result is the tail or an error that
says so, exactly when no failure is overwritten. Reference: `utils/utils.go:11 ReadFileTail`. -/
theorem log_tail_iff (room : Nat → Nat) (fuel : Nat) (maxLen : Int) (s s' : FileState)
    (h : List (Call FileCmd FileCmd.Ans)) (r : Option (List UInt8 × Option String))
    (hfuel : s.content.length < fuel)
    (ht : (ReadFileTail room fuel maxLen).Traces execFile s h r s') :
    (∃ data err, r = some (data, err) ∧ TailExact s.content maxLen h data err) ↔
      (Overwritten s.content h → Failed .closing h) := by
  obtain ⟨env, a, s₁, h₁, hx, rfl, hk⟩ := Prog.traces_call_bind.1 ht
  obtain ⟨hsame, ⟨e, rfl⟩ | ⟨rfl, hstart⟩⟩ := execFile_open hx
  · obtain ⟨rfl, rfl, rfl⟩ := hk
    refine iff_of_true ⟨_, _, rfl, ?_⟩ fun hlost => ?_
    · exact TailExact.of_failed .opening (by simp)
    · simp [Overwritten] at hlost
  obtain ⟨h₂, body, s₂, h₃, rfl, hbody, hk⟩ := Prog.traces_bind.1 hk
  rw [← hsame]
  obtain ⟨hcalls, data, err, rfl, hend⟩ := traces_readTail hstart (hsame ▸ hfuel) hbody
  have hopening : ¬ Failed .opening h₂ := by
    rintro ⟨call, hmem, hop, -⟩
    exact (hcalls call hmem).1 hop
  have hclosing : ¬ Failed .closing h₂ := by
    rintro ⟨call, hmem, hop, -⟩
    exact (hcalls call hmem).2 hop
  obtain ⟨env', a, s₃, h₄, hx', rfl, hk'⟩ := Prog.traces_call_bind.1 hk
  rcases a with e | ⟨⟩
  · obtain ⟨rfl, rfl, rfl⟩ := hk'
    refine iff_of_true ⟨_, _, rfl, ?_⟩ fun _ => ?_
    · exact TailExact.of_failed .closing (by simp)
    · simp
  obtain ⟨rfl, rfl, rfl⟩ := hk'
  have hnone : ¬ Failed .closing (⟨.Open, .ok ()⟩ :: (h₂ ++ [⟨.Close, .ok ()⟩])) := by
    simp [hclosing]
  rcases hend with ⟨hquiet, rfl, -⟩ | ⟨hfailed, rfl, -⟩
  · refine iff_of_true ⟨_, _, rfl, fun _ => rfl, fun _ => rfl, ?_⟩ ?_
    · simp [hquiet.not_failed]
    · simp [Overwritten, hquiet.not_failed]
  constructor
  · rintro ⟨_, _, hr, htail⟩ (⟨-, hcontent⟩ | hlost)
    · cases hr
      exact absurd (fileTail_eq_nil.1 (htail.tail rfl).symm) hcontent
    · cases hr
      exact absurd rfl (htail.reported (.inr hlost))
  · intro hkept
    obtain ⟨hstat, hlost⟩ := not_or.1 (mt hkept hnone)
    obtain ⟨hseek, hread⟩ := not_or.1 hlost
    refine ⟨_, _, rfl, fun _ => ?_, fun _ => rfl, ?_⟩
    · have hstating : Failed .stating h₂ := by
        rcases hfailed with hf | hf | hf
        · exact hf
        · exact absurd (by simp [hf]) hseek
        · exact absurd (by simp [hf]) hread
      have hempty : s₁.content = [] := of_not_not fun hne => hstat ⟨by simp [hstating], hne⟩
      exact (fileTail_eq_nil.2 hempty).symm
    · rintro (hopen | hseek' | hread')
      · simp [hopening] at hopen
      · exact absurd hseek' hseek
      · exact absurd hread' hread

def demoFile : FileState := ⟨[1, 2, 3], 0⟩

/-- The reads of the last two bytes hand out one byte each. Reference: none. -/
def demoFileCalls : List (Call FileCmd FileCmd.Ans) :=
  [⟨.Open, .ok ()⟩, ⟨.Stat, .ok 3⟩, ⟨.Seek (-2), .ok ()⟩, ⟨.Read 2, ([2], none)⟩,
    ⟨.Read 1, ([3], none)⟩, ⟨.Close, .ok ()⟩]

theorem demoFile_traces : (ReadFileTail (fun _ => 511) 4 2).Traces execFile demoFile demoFileCalls
    (some ([2, 3], none)) ⟨[1, 2, 3], 3⟩ :=
  ⟨{}, _, _, _, rfl, rfl, {}, _, _, _, rfl, rfl, {}, _, _, _, rfl, rfl, {}, _, _, _, rfl, rfl,
    {}, _, _, _, rfl, rfl, {}, _, _, _, rfl, rfl, rfl, rfl, rfl⟩

theorem log_tail_iff_two :
    (∃ data err, some ([2, 3], none) = some (data, err) ∧
        TailExact [1, 2, 3] 2 demoFileCalls data err) ↔
      (Overwritten [1, 2, 3] demoFileCalls → Failed .closing demoFileCalls) :=
  log_tail_iff (fun _ => 511) 4 2 demoFile ⟨[1, 2, 3], 3⟩ demoFileCalls (some ([2, 3], none))
    (by decide) demoFile_traces

/-- The reading fails and the closing does not. Reference: none. -/
def demoFailingCalls : List (Call FileCmd FileCmd.Ans) :=
  [⟨.Open, .ok ()⟩, ⟨.Stat, .ok 3⟩, ⟨.Seek (-2), .ok ()⟩,
    ⟨.Read 2, ([], some (.other "input/output error"))⟩, ⟨.Close, .ok ()⟩]

theorem demoFailing_traces : (ReadFileTail (fun _ => 511) 4 2).Traces execFile demoFile
    demoFailingCalls (some ([], none)) ⟨[1, 2, 3], 1⟩ :=
  ⟨{}, _, _, _, rfl, rfl, {}, _, _, _, rfl, rfl, {}, _, _, _, rfl, rfl,
    { fault := some "input/output error" }, _, _, _, rfl, rfl, {}, _, _, _, rfl, rfl,
    rfl, rfl, rfl⟩

theorem read_failure_lost : ¬ ∀ (room : Nat → Nat) (fuel : Nat) (maxLen : Int) (s s' : FileState)
    (h : List (Call FileCmd FileCmd.Ans)) (r : Option (List UInt8 × Option String)),
    s.content.length < fuel → (ReadFileTail room fuel maxLen).Traces execFile s h r s' →
      ∃ data err, r = some (data, err) ∧ TailExact s.content maxLen h data err := by
  intro hall
  obtain ⟨_, _, hr, htail⟩ := hall (fun _ => 511) 4 2 demoFile ⟨[1, 2, 3], 1⟩ demoFailingCalls
    (some ([], none)) (by decide) demoFailing_traces
  cases hr
  have hread : Failed .reading demoFailingCalls := by simp [demoFailingCalls]
  exact htail.reported (.inr (.inr hread)) rfl

end AlbyHub
