import Mathlib.Data.List.Basic

/-!
# Byte streams

A `Reader` is a Go `io.Reader` with its state, a `Writer` an `io.Writer`. `Reader.Delivers` is the
contract of a reader that comes to the end of its content: in whatever portions it hands the bytes
out, and whether the end is reported with the last bytes or after them. The readers that are built
here from readers keep the contract (`bytesReader_delivers`, `streamReader_delivers`,
`multiReader_delivers`), `io.ReadFull` takes the first bytes of the content
(`Delivers.readFull_take`), and who reads to the end gets the content, whatever the sizes of the
buffers are (`Delivers.yields`).
-/

namespace Go

/-- Reference: Go `io.EOF`, `io.ErrUnexpectedEOF`, `io.ErrShortWrite`. -/
inductive IoErr where
  | eof
  | unexpectedEOF
  | shortWrite
  | other (text : String)
  deriving DecidableEq, Repr

/-- Reference: Go `io.EOF`, `io.ErrUnexpectedEOF`, `io.ErrShortWrite`. -/
def IoErr.Error : IoErr → String
  | .eof => "EOF"
  | .unexpectedEOF => "unexpected EOF"
  | .shortWrite => "short write"
  | .other text => text

/-- What one `Read` returns: the bytes that it has put in the buffer, and the error. Reference: Go
`io.Reader`. -/
structure ReadResult (σ : Type) where
  bytes : List UInt8
  err : Option IoErr
  next : σ

/-- `Read` for a buffer of a size. Reference: Go `io.Reader`. -/
structure Reader (σ : Type) where
  Read : σ → Nat → ReadResult σ

/-- `Write` for some bytes: the count of those that are written, and the error. Reference: Go
`io.Writer`. -/
structure Writer (ω : Type) where
  Write : ω → List UInt8 → Nat × Option IoErr × ω

/-- A buffer takes all bytes. Reference: Go `bytes.Buffer.Write`. -/
def bytesBuffer : Writer (List UInt8) where
  Write := fun w bytes => (bytes.length, none, w ++ bytes)

/-- Some calls of `Write`, up to the first error. Reference: none. -/
def Writer.writes {ω : Type} (W : Writer ω) (w : ω) : List (List UInt8) → Except IoErr ω
  | [] => .ok w
  | piece :: pieces =>
    match (W.Write w piece).2.1 with
    | some e => .error e
    | none => W.writes (W.Write w piece).2.2 pieces

/-- The reads with buffers of some sizes, up to the first error. Reference: none. -/
def Reader.reads {σ : Type} (R : Reader σ) : σ → List Nat → List UInt8 × Option IoErr
  | _, [] => ([], none)
  | s, k :: ks =>
    match (R.Read s k).err with
    | some e => ((R.Read s k).bytes, some e)
    | none =>
      ((R.Read s k).bytes ++ (R.reads (R.Read s k).next ks).1, (R.reads (R.Read s k).next ks).2)

/-- The loop of `io.ReadFull`: the bytes before the end of the buffer or the first error, and that
error. The fuel bounds the calls of `Read`. Reference: Go `io.ReadAtLeast`. -/
def readLoop {σ : Type} (R : Reader σ) : Nat → σ → Nat → Option (ReadResult σ)
  | _, s, 0 => some ⟨[], none, s⟩
  | 0, _, _ + 1 => none
  | fuel + 1, s, n + 1 =>
    match (R.Read s (n + 1)).err with
    | some e => some ⟨(R.Read s (n + 1)).bytes, some e, (R.Read s (n + 1)).next⟩
    | none =>
      (readLoop R fuel (R.Read s (n + 1)).next (n + 1 - (R.Read s (n + 1)).bytes.length)).map
        fun r =>
        { r with bytes := (R.Read s (n + 1)).bytes ++ r.bytes }

/-- The error is dropped when the buffer is full. Reference: Go `io.ReadFull`. -/
def readFull {σ : Type} (R : Reader σ) (fuel : Nat) (s : σ) (n : Nat) : Option (ReadResult σ) :=
  (readLoop R fuel s n).map fun r =>
    if n ≤ r.bytes.length then { r with err := none }
    else if 0 < r.bytes.length ∧ r.err = some .eof then { r with err := some .unexpectedEOF }
    else r

/-! ## The contract of a reader -/

/-- What one read for a buffer of a size hands out of the bytes that are left, under a measure that
was `m` before. It may hand out nothing, but not forever: a read with room and without an error
lowers the measure. Reference: Go `io.Reader`. -/
structure ReadResult.Portion {σ : Type} (r : ReadResult σ) (content : σ → List UInt8)
    (measure : σ → Nat) (size : Nat) (bytes : List UInt8) (m : Nat) : Prop where
  fits : r.bytes.length ≤ size
  rest : r.bytes ++ content r.next = bytes
  ends : ∀ e, r.err = some e → e = .eof ∧ content r.next = []
  keeps : measure r.next ≤ m
  lowers : 0 < size → r.err = none → measure r.next < m

/-- A reader hands out its content in portions, and reports the end of it. Reference: Go
`io.Reader`. -/
def Reader.Delivers {σ : Type} (R : Reader σ) (content : σ → List UInt8) (measure : σ → Nat) :
    Prop :=
  ∀ s k, (R.Read s k).Portion content measure k (content s) (measure s)

/-- Whatever the sizes of the buffers are, the reads give the bytes from the front and end with EOF
after the last of them; and they end when there are enough buffers with room. Reference: Go
`io.ReadAll`. -/
def Reader.Yields {σ : Type} (R : Reader σ) (s : σ) (bytes : List UInt8) : Prop :=
  (∀ sizes, (R.reads s sizes).1 <+: bytes ∧
    ∀ e, (R.reads s sizes).2 = some e → e = .eof ∧ (R.reads s sizes).1 = bytes) ∧
  ∃ enough, ∀ sizes : List Nat, enough ≤ (sizes.filter (0 < ·)).length →
    R.reads s sizes = (bytes, some .eof)

section
variable {σ : Type} {R : Reader σ} {content : σ → List UInt8} {measure : σ → Nat}

/-- The reads give the bytes from the front. Reference: Go `io.Reader`. -/
theorem Reader.Delivers.reads_prefix (h : R.Delivers content measure) (sizes : List Nat) (s : σ) :
    (R.reads s sizes).1 <+: content s ∧
      ∀ e, (R.reads s sizes).2 = some e → e = .eof ∧ (R.reads s sizes).1 = content s := by
  induction sizes generalizing s with
  | nil => exact ⟨List.nil_prefix, fun e he => by cases he⟩
  | cons k ks ih =>
    have hportion := (h s k).rest
    rw [Reader.reads]
    split
    · next e herr =>
      obtain ⟨rfl, hend⟩ := (h s k).ends e herr
      rw [hend, List.append_nil] at hportion
      refine ⟨hportion ▸ List.prefix_refl _, fun e' he' => ⟨(Option.some.inj he').symm, hportion⟩⟩
    · obtain ⟨hfront, hlast⟩ := ih (R.Read s k).next
      rw [← hportion]
      refine ⟨(List.prefix_append_right_inj _).2 hfront, fun e he => ?_⟩
      obtain ⟨heof, hall⟩ := hlast e he
      exact ⟨heof, by rw [hall]⟩

/-- Enough buffers with room come to the end. Reference: Go `io.Reader`. -/
theorem Reader.Delivers.reads_end (h : R.Delivers content measure) (sizes : List Nat) (s : σ)
    (henough : measure s < (sizes.filter (0 < ·)).length) : (R.reads s sizes).2 = some .eof := by
  induction sizes generalizing s with
  | nil => simp at henough
  | cons k ks ih =>
    rw [Reader.reads]
    split
    · next e herr => rw [((h s k).ends e herr).1]
    · next herr =>
      apply ih
      by_cases hk : 0 < k
      · have hlt := (h s k).lowers hk herr
        simp only [List.filter_cons, hk, decide_true, if_true, List.length_cons] at henough
        omega
      · have hle := (h s k).keeps
        simp only [List.filter_cons, hk, decide_false, Bool.false_eq_true, if_false] at henough
        omega

/-- Who reads to the end gets the content. Reference: Go `io.ReadAll`. -/
theorem Reader.Delivers.yields (h : R.Delivers content measure) (s : σ) :
    R.Yields s (content s) := by
  refine ⟨fun sizes => h.reads_prefix sizes s, measure s + 1, fun sizes henough => ?_⟩
  have hend := h.reads_end sizes s henough
  have hall := ((h.reads_prefix sizes s).2 _ hend).2
  exact Prod.ext hall hend

/-- The loop of `io.ReadFull` takes the bytes for the buffer from the front of the content. Only the
end of the content stops it before. Reference: Go `io.ReadAtLeast`. -/
theorem Reader.Delivers.readLoop_take (h : R.Delivers content measure) {fuel : Nat} :
    ∀ {s n}, measure s < fuel → ∃ r, readLoop R fuel s n = some r ∧
      r.bytes = (content s).take n ∧ content r.next = (content s).drop n ∧
      (r.bytes.length < n → r.err = some .eof) := by
  induction fuel with
  | zero => exact fun hlt => absurd hlt (Nat.not_lt_zero _)
  | succ fuel ih =>
    intro s n hlt
    cases n with
    | zero =>
      exact ⟨⟨[], none, s⟩, by rw [readLoop], by simp, by simp,
        fun hn => absurd hn (Nat.lt_irrefl _)⟩
    | succ n =>
      have hportion := (h s (n + 1)).rest
      have hfits := (h s (n + 1)).fits
      rw [readLoop]
      split
      · next e herr =>
        obtain ⟨rfl, hend⟩ := (h s (n + 1)).ends e herr
        rw [hend, List.append_nil] at hportion
        refine ⟨_, rfl, ?_, ?_, fun _ => rfl⟩
        · rw [← hportion, List.take_of_length_le hfits]
        · rw [← hportion, List.drop_of_length_le hfits]
          exact hend
      · next herr =>
        have hlow := (h s (n + 1)).lowers (Nat.succ_pos n) herr
        obtain ⟨r, hr, hbytes, hnext, hshort⟩ :=
          ih (s := (R.Read s (n + 1)).next) (n := n + 1 - (R.Read s (n + 1)).bytes.length)
            (by omega)
        refine ⟨_, by rw [hr]; rfl, ?_, ?_, ?_⟩
        · rw [← hportion, List.take_append, List.take_of_length_le hfits]
          exact congrArg _ hbytes
        · rw [← hportion, List.drop_append, List.drop_of_length_le hfits]
          exact hnext
        · intro hlen
          simp only [List.length_append] at hlen
          exact hshort (by omega)

/-- `io.ReadFull` fills the buffer from the front of the content; when there are too few bytes it
says so. Reference: Go `io.ReadFull`. -/
theorem Reader.Delivers.readFull_take (h : R.Delivers content measure) {fuel n : Nat} {s : σ}
    (hfuel : measure s < fuel) (hne : content s ≠ []) : ∃ r, readFull R fuel s n = some r ∧
      r.bytes = (content s).take n ∧ content r.next = (content s).drop n ∧
      r.err = if (content s).length < n then some .unexpectedEOF else none := by
  obtain ⟨r, hr, hbytes, hnext, hshort⟩ := h.readLoop_take (n := n) hfuel
  have hlen : r.bytes.length = min n (content s).length := by rw [hbytes, List.length_take]
  have hpos : 0 < (content s).length := List.length_pos_iff.2 hne
  rw [readFull, hr, Option.map_some]
  by_cases hn : n ≤ r.bytes.length
  · refine ⟨_, rfl, ?_, ?_, ?_⟩
    · rw [if_pos hn]; exact hbytes
    · rw [if_pos hn]; exact hnext
    · rw [if_pos hn, if_neg (by omega)]
  · have heof := hshort (by omega)
    have hcond : 0 < r.bytes.length ∧ r.err = some .eof := ⟨by omega, heof⟩
    refine ⟨_, rfl, ?_, ?_, ?_⟩
    · rw [if_neg hn, if_pos hcond]; exact hbytes
    · rw [if_neg hn, if_pos hcond]; exact hnext
    · rw [if_neg hn, if_pos hcond, if_pos (by omega)]

end

/-! ## Readers -/

/-- The bytes that are left. At the end it reports EOF, also to an empty buffer. Reference: Go
`bytes.Reader.Read`. -/
def bytesReader : Reader (List UInt8) where
  Read := fun rest k =>
    if rest = [] then ⟨[], some .eof, []⟩ else ⟨rest.take k, none, rest.drop k⟩

/-- The portions that come from a connection or a file, one after the other; a small buffer takes a
part of one. An eager end is reported with the last bytes, else it is reported after them.
Reference: Go `io.Reader`, `iotest.OneByteReader`, `iotest.DataErrReader`. -/
def piecesReader (eager : Bool) : Reader (List (List UInt8)) where
  Read := fun pieces k =>
    match pieces with
    | [] => ⟨[], some .eof, []⟩
    | piece :: pieces =>
      if piece.length ≤ k then
        ⟨piece, if eager = true ∧ pieces = [] then some .eof else none, pieces⟩
      else ⟨piece.take k, none, piece.drop k :: pieces⟩

/-- The readers that a `MultiReader` of two has left. Reference: Go `io.multiReader`. -/
inductive TwoReaders (α β : Type) where
  | both (first : α) (second : β)
  | last (second : β)
  | none

section
variable {α β : Type} (R₁ : Reader α) (R₂ : Reader β)

/-- A read when only the second reader is left. Reference: Go `io.multiReader.Read`. -/
def readLast (b : β) (k : Nat) : ReadResult (TwoReaders α β) :=
  if (R₂.Read b k).err = some .eof then ⟨(R₂.Read b k).bytes, some .eof, .none⟩
  else ⟨(R₂.Read b k).bytes, (R₂.Read b k).err, .last (R₂.Read b k).next⟩

/-- One reader after the other. The end of the first is not reported; when it comes without bytes,
the second is read at once. Reference: Go `io.MultiReader`. -/
def multiReader : Reader (TwoReaders α β) where
  Read := fun
    | .both a b, k =>
      if (R₁.Read a k).err = some .eof then
        if 0 < (R₁.Read a k).bytes.length then ⟨(R₁.Read a k).bytes, none, .last b⟩
        else readLast R₂ b k
      else ⟨(R₁.Read a k).bytes, (R₁.Read a k).err, .both (R₁.Read a k).next b⟩
    | .last b, k => readLast R₂ b k
    | .none, _ => ⟨[], some .eof, .none⟩

end

theorem bytesReader_delivers : bytesReader.Delivers id List.length := by
  intro rest k
  by_cases h : rest = []
  · subst h
    exact ⟨Nat.zero_le k, rfl, fun e he => ⟨(Option.some.inj he).symm, rfl⟩, Nat.le_refl _,
      fun _ he => (nomatch he)⟩
  · have hpos := List.length_pos_iff.2 h
    simp only [bytesReader, if_neg h]
    refine ⟨List.length_take_le k rest, List.take_append_drop k rest, fun e he => (nomatch he), ?_,
      fun hk _ => ?_⟩
    · simp only [List.length_drop]; omega
    · simp only [List.length_drop]; omega

/-- A connection delivers the bytes of its portions, however they are cut. Reference: Go
`io.Reader`. -/
theorem piecesReader_delivers (eager : Bool) :
    (piecesReader eager).Delivers List.flatten
      fun pieces => pieces.flatten.length + pieces.length := by
  intro pieces k
  cases pieces with
  | nil =>
    exact ⟨Nat.zero_le k, rfl, fun e he => ⟨(Option.some.inj he).symm, rfl⟩, Nat.le_refl _,
      fun _ he => (nomatch he)⟩
  | cons piece pieces =>
    simp only [piecesReader]
    split
    · next hle =>
      refine ⟨hle, rfl, fun e he => ?_, ?_, fun _ _ => ?_⟩
      · split at he
        · next heager => exact ⟨(Option.some.inj he).symm, by rw [heager.2]; rfl⟩
        · cases he
      · simp only [List.flatten_cons, List.length_append, List.length_cons]; omega
      · simp only [List.flatten_cons, List.length_append, List.length_cons]; omega
    · refine ⟨List.length_take_le k piece, ?_, fun e he => (nomatch he), ?_, fun hk _ => ?_⟩
      · simp only [List.flatten_cons, ← List.append_assoc, List.take_append_drop]
      · simp only [List.flatten_cons, List.length_append, List.length_cons, List.length_drop]; omega
      · simp only [List.flatten_cons, List.length_append, List.length_cons, List.length_drop]; omega

section
variable {α β : Type} {R₁ : Reader α} {R₂ : Reader β} {c : α → List UInt8} {d : β → List UInt8}
  {m : α → Nat} {n : β → Nat}

/-- The content of the readers that are left. Reference: Go `io.multiReader`. -/
def TwoReaders.content (c : α → List UInt8) (d : β → List UInt8) : TwoReaders α β → List UInt8
  | .both a b => c a ++ d b
  | .last b => d b
  | .none => []

/-- The measure of the readers that are left. Reference: none. -/
def TwoReaders.measure (m : α → Nat) (n : β → Nat) : TwoReaders α β → Nat
  | .both a b => m a + n b + 2
  | .last b => n b + 1
  | .none => 0

/-- A read of the second reader hands out its content. Reference: Go `io.multiReader.Read`. -/
theorem readLast_portion (h₂ : R₂.Delivers d n) (b : β) (k : Nat) :
    (readLast R₂ b k).Portion (TwoReaders.content c d) (TwoReaders.measure m n) k (d b)
      (n b + 1) := by
  obtain ⟨hfits, hrest, hends, hkeeps, hlowers⟩ := h₂ b k
  unfold readLast
  split
  · next herr =>
    rw [(hends _ herr).2, List.append_nil] at hrest
    refine ⟨hfits, ?_, fun e he => ⟨(Option.some.inj he).symm, rfl⟩, Nat.zero_le _,
      fun _ he => (nomatch he)⟩
    rw [TwoReaders.content, List.append_nil]
    exact hrest
  · next herr =>
    refine ⟨hfits, hrest, fun e he => ?_, Nat.succ_le_succ hkeeps, fun hk he => ?_⟩
    · exact absurd ((hends e he).1 ▸ he) herr
    · exact Nat.succ_lt_succ (hlowers hk he)

/-- Two readers in a row deliver the one content and then the other. Reference: Go
`io.MultiReader`. -/
theorem multiReader_delivers (h₁ : R₁.Delivers c m) (h₂ : R₂.Delivers d n) :
    (multiReader R₁ R₂).Delivers (TwoReaders.content c d) (TwoReaders.measure m n) := by
  intro s k
  cases s with
  | none =>
    exact ⟨Nat.zero_le k, rfl, fun e he => ⟨(Option.some.inj he).symm, rfl⟩, Nat.le_refl _,
      fun _ he => (nomatch he)⟩
  | last b => exact readLast_portion h₂ b k
  | both a b =>
    obtain ⟨hfits, hrest, hends, hkeeps, hlowers⟩ := h₁ a k
    simp only [multiReader]
    split
    · next herr =>
      rw [(hends _ herr).2, List.append_nil] at hrest
      split
      · refine ⟨hfits, by rw [hrest]; rfl, fun e he => (nomatch he), ?_, fun _ _ => ?_⟩
        · simp only [TwoReaders.measure]; omega
        · simp only [TwoReaders.measure]; omega
      · next hpos =>
        -- the first reader is at its end, and the second is read in the same call
        have hnil : c a = [] := by
          rw [← hrest]; exact List.length_eq_zero_iff.1 (by omega)
        have hboth : TwoReaders.measure m n (.both a b) = m a + n b + 2 := rfl
        obtain ⟨hf, hr, he, hk, hl⟩ := readLast_portion (c := c) (m := m) h₂ b k
        refine ⟨hf, ?_, he, by omega, fun hk' he' => ?_⟩
        · rw [hr, TwoReaders.content, hnil, List.nil_append]
        · have hlt := hl hk' he'
          omega
    · next herr =>
      refine ⟨hfits, ?_, fun e he => ?_, ?_, fun hk he => ?_⟩
      · rw [TwoReaders.content, TwoReaders.content, ← List.append_assoc, hrest]
      · exact absurd ((hends e he).1 ▸ he) herr
      · simp only [TwoReaders.measure]; omega
      · have hlt := hlowers hk he
        simp only [TwoReaders.measure]; omega

end

/-! ## Stream ciphers -/

/-- A stream cipher at an offset of its key stream. Reference: Go `cipher.Stream`. -/
structure Stream where
  keystream : Nat → UInt8
  offset : Nat

/-- Some bytes under the key stream from an offset on. Reference: Go
`cipher.Stream.XORKeyStream`. -/
def xorFrom (keystream : Nat → UInt8) : Nat → List UInt8 → List UInt8
  | _, [] => []
  | i, b :: bytes => (b ^^^ keystream i) :: xorFrom keystream (i + 1) bytes

/-- Reference: Go `cipher.Stream.XORKeyStream`. -/
def Stream.XORKeyStream (S : Stream) (src : List UInt8) : List UInt8 × Stream :=
  (xorFrom S.keystream S.offset src, { S with offset := S.offset + src.length })

/-- Reference: Go `cipher.StreamReader.Read`. -/
def streamReader {σ : Type} (R : Reader σ) : Reader (Stream × σ) where
  Read := fun s k =>
    ⟨(s.1.XORKeyStream (R.Read s.2 k).bytes).1, (R.Read s.2 k).err,
      ((s.1.XORKeyStream (R.Read s.2 k).bytes).2, (R.Read s.2 k).next)⟩

/-- A short write without an error is reported. Reference: Go `cipher.StreamWriter.Write`. -/
def streamWriter {ω : Type} (W : Writer ω) : Writer (Stream × ω) where
  Write := fun w src =>
    let c := w.1.XORKeyStream src
    let r := W.Write w.2 c.1
    (r.1, if r.1 ≠ src.length ∧ r.2.1 = none then some .shortWrite else r.2.1, (c.2, r.2.2))

section
variable {keystream : Nat → UInt8}

@[simp] theorem length_xorFrom (i : Nat) (bytes : List UInt8) :
    (xorFrom keystream i bytes).length = bytes.length := by
  induction bytes generalizing i with
  | nil => rfl
  | cons b bytes ih => rw [xorFrom, List.length_cons, ih, List.length_cons]

/-- The key stream goes on where it was left. Reference: Go `cipher.Stream`. -/
theorem xorFrom_append (i : Nat) (bytes bytes' : List UInt8) :
    xorFrom keystream i (bytes ++ bytes') =
      xorFrom keystream i bytes ++ xorFrom keystream (i + bytes.length) bytes' := by
  induction bytes generalizing i with
  | nil => rfl
  | cons b bytes ih =>
    rw [List.cons_append, xorFrom, xorFrom, ih, List.cons_append, List.length_cons,
      Nat.add_right_comm i 1, Nat.add_assoc i]

/-- The same key stream twice gives the bytes back. Reference: Go `cipher.Stream`. -/
theorem xorFrom_xorFrom (i : Nat) (bytes : List UInt8) :
    xorFrom keystream i (xorFrom keystream i bytes) = bytes := by
  induction bytes generalizing i with
  | nil => rfl
  | cons b bytes ih => rw [xorFrom, xorFrom, ih, UInt8.xor_assoc, UInt8.xor_self, UInt8.xor_zero]

/-- The front of some bytes goes to the front under the key stream. Reference: Go
`cipher.Stream`. -/
theorem xorFrom_front {i : Nat} {bytes bytes' : List UInt8} (h : bytes <+: bytes') :
    xorFrom keystream i bytes <+: xorFrom keystream i bytes' := by
  obtain ⟨rest, rfl⟩ := h
  rw [xorFrom_append]
  exact List.prefix_append _ _

/-- A write under a key stream puts the bytes under it into a buffer. Reference: Go
`cipher.StreamWriter.Write`. -/
theorem streamWriter_Write (i : Nat) (w piece : List UInt8) :
    (streamWriter bytesBuffer).Write (⟨keystream, i⟩, w) piece =
      (piece.length, none, ⟨keystream, i + piece.length⟩, w ++ xorFrom keystream i piece) := by
  simp [streamWriter, bytesBuffer, Stream.XORKeyStream]

/-- However the bytes are cut into writes, the buffer gets them under the key stream. Reference: Go
`cipher.StreamWriter`. -/
theorem streamWriter_writes (pieces : List (List UInt8)) (i : Nat) (w : List UInt8) :
    (streamWriter bytesBuffer).writes (⟨keystream, i⟩, w) pieces =
      .ok (⟨keystream, i + pieces.flatten.length⟩, w ++ xorFrom keystream i pieces.flatten) := by
  induction pieces generalizing i w with
  | nil => simp [Writer.writes, xorFrom]
  | cons piece pieces ih =>
    simp only [Writer.writes, streamWriter_Write]
    rw [ih, List.flatten_cons, List.length_append, xorFrom_append, Nat.add_assoc, List.append_assoc]

/-- A reader under a key stream delivers the content under it. Reference: Go
`cipher.StreamReader`. -/
theorem streamReader_delivers {σ : Type} {R : Reader σ} {content : σ → List UInt8}
    {measure : σ → Nat}
    (h : R.Delivers content measure) :
    (streamReader R).Delivers (fun s => xorFrom s.1.keystream s.1.offset (content s.2))
      fun s => measure s.2 := by
  intro s k
  obtain ⟨hfits, hrest, hends, hkeeps, hlowers⟩ := h s.2 k
  simp only [streamReader, Stream.XORKeyStream]
  refine ⟨by rw [length_xorFrom]; exact hfits, ?_, fun e he => ?_, hkeeps, hlowers⟩
  · rw [← xorFrom_append, hrest]
  · obtain ⟨heof, hend⟩ := hends e he
    refine ⟨heof, ?_⟩
    simp only [hend, xorFrom]

end

end Go
