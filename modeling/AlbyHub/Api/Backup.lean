import AlbyHub.Config.AesGcm
import AlbyHub.Go.Streams

/-!
# The backup file

A backup file is a salt, an IV and the archive under a stream cipher. New files are written in the
first scheme (`encryptingWriter`); the reader takes a header that is large enough for every scheme,
tries the schemes on it and goes on with the first that shows the signature of an archive
(`decryptingReader`). What is written in either scheme is read back, however the writes, the
underlying reads and the buffers are cut (`backup_round_trip`), as long as no other scheme shows the
signature too (`BackupCipher.Shows`).
-/

namespace AlbyHub

open Go

/-- The functions from outside `src/` that the schemes are built on, beside those of the
configuration: the key of older versions, and the key streams of a key and an IV. Reference: the
imports of `api/backup.go`. -/
structure StreamCiphers (A : Aead) where
  pbkdf2Key : String → List UInt8 → A.Key
  ctr : A.Key → List UInt8 → Nat → UInt8
  ofb : A.Key → List UInt8 → Nat → UInt8

/-- Both derivations are asked for 32 bytes. Reference: `config/aesgcm.go:13 DeriveKey`;
`api/backup.go:57`. -/
structure StreamCiphers.Sized {A : Aead} (P : StreamCiphers A) : Prop where
  argon2Key : ∀ password salt, A.keyLen (A.argon2Key password salt) = 32
  pbkdf2Key : ∀ password salt, A.keyLen (P.pbkdf2Key password salt) = 32

/-- Reference: `api/backup.go:32 zipMagic`. -/
def zipMagic : List UInt8 := [0x50, 0x4B, 0x03, 0x04]

/-- Reference: Go `aes.BlockSize`. -/
def blockSize : Nat := 16

/-- Reference: `api/backup.go:36 backupCipher`. -/
structure BackupCipher (A : Aead) where
  saltSize : Nat
  deriveKey : String → List UInt8 → Except String A.Key
  newStream : A.Key → List UInt8 → Stream

section
variable {A : Aead}

/-- The current scheme. `DeriveKey` has an error only where it is to make the salt. Reference:
`api/backup.go:43`. -/
def currentCipher (P : StreamCiphers A) : BackupCipher A where
  saltSize := 32
  deriveKey := fun password salt => .ok (A.argon2Key password salt)
  newStream := fun block iv => ⟨P.ctr block iv, 0⟩

/-- The scheme of older versions. Reference: `api/backup.go:52`. -/
def legacyCipher (P : StreamCiphers A) : BackupCipher A where
  saltSize := 8
  deriveKey := fun password salt => .ok (P.pbkdf2Key password salt)
  newStream := fun block iv => ⟨P.ofb block iv, 0⟩

/-- Reference: `api/backup.go:42 backupCiphers`. -/
def backupCiphers (P : StreamCiphers A) : List (BackupCipher A) := [currentCipher P, legacyCipher P]

/-- Reference: Go `fmt.Errorf` with `%w`. -/
def errorf {α : Type} (text : String) (x : Except String α) : Except String α :=
  x.mapError fun err => text ++ ": " ++ err

@[simp] theorem errorf_ok {α : Type} (text : String) (a : α) : errorf text (.ok a) = .ok a := rfl

/-- Reference: Go `aes.NewCipher`. -/
def aesNewCipher (key : A.Key) : Except String A.Key :=
  if A.keyLen key = 16 ∨ A.keyLen key = 24 ∨ A.keyLen key = 32 then .ok key
  else .error ("crypto/aes: invalid key size " ++ toString (A.keyLen key))

/-- A write of which only the error is looked at. Reference: `api/backup.go:411`. -/
def writeTo {ω : Type} (W : Writer ω) (w : ω) (bytes : List UInt8) : Except String ω :=
  match (W.Write w bytes).2.1 with
  | some err => .error err.Error
  | none => .ok (W.Write w bytes).2.2

/-- The writer of a scheme: the salt and the IV, which are what the two calls of `rand.Read` give,
are written, and what follows goes through the cipher. Reference: `api/backup.go:389
encryptingWriter`. -/
def encryptingWriterOf {ω : Type} (scheme : BackupCipher A) (W : Writer ω) (w : ω)
    (password : String) (salt iv : Except String (List UInt8)) : Except String (Stream × ω) := do
  let salt ← errorf "failed to generate salt" salt
  let encKey ← errorf "failed to derive encryption key" (scheme.deriveKey password salt)
  let block ← errorf "failed to create AES cipher" (aesNewCipher encKey)
  let iv ← errorf "failed to generate IV" iv
  let w ← errorf "failed to write salt" (writeTo W w salt)
  let w ← errorf "failed to write IV" (writeTo W w iv)
  pure (scheme.newStream block iv, w)

/-- New files are written in the first scheme; the second was the only one of older versions.
Reference: `api/backup.go:389 encryptingWriter`. -/
def encryptingWriter {ω : Type} (P : StreamCiphers A) (W : Writer ω) (w : ω) (password : String)
    (salt iv : Except String (List UInt8)) : Except String (Stream × ω) :=
  encryptingWriterOf (currentCipher P) W w password salt iv

/-- Reference: `api/backup.go:436 decryptingReader`. -/
def headerSize (scheme : BackupCipher A) : Nat := scheme.saltSize + blockSize + zipMagic.length

/-- Reference: `api/backup.go:433 decryptingReader`. -/
def maxHeaderSize (P : StreamCiphers A) : Nat :=
  (backupCiphers P).foldl (fun size scheme => max size (headerSize scheme)) 0

/-- It starts at the largest `int`. Reference: `api/backup.go:434 decryptingReader`. -/
def minHeaderSize (P : StreamCiphers A) : Nat :=
  (backupCiphers P).foldl (fun size scheme => min size (headerSize scheme)) 9223372036854775807

/-- One scheme is tried on the header: the bytes after the IV, decrypted, and the stream after them.
Reference: `api/backup.go:455 decryptingReader`. -/
def tryCipher (scheme : BackupCipher A) (password : String) (header : List UInt8) :
    Except String (Option (List UInt8 × Stream)) :=
  if header.length < scheme.saltSize + blockSize + zipMagic.length then .ok none
  else do
    let salt := header.take scheme.saltSize
    let iv := (header.drop scheme.saltSize).take blockSize
    let encrypted := header.drop (scheme.saltSize + blockSize)
    let encKey ← errorf "failed to derive encryption key" (scheme.deriveKey password salt)
    let block ← errorf "failed to create AES cipher" (aesNewCipher encKey)
    let decrypted := (scheme.newStream block iv).XORKeyStream encrypted
    pure (if decrypted.1.take zipMagic.length = zipMagic then some decrypted else none)

/-- The schemes are tried one after the other. Reference: `api/backup.go:455 decryptingReader`. -/
def tryCiphers (password : String) (header : List UInt8) :
    List (BackupCipher A) → Except String (List UInt8 × Stream)
  | [] => .error "invalid unlock password or backup file"
  | scheme :: schemes =>
    match tryCipher scheme password header with
    | .error err => .error err
    | .ok (some found) => .ok found
    | .ok none => tryCiphers password header schemes

/-- The reader that is returned: the decrypted bytes of the header, then the rest through the
cipher. Reference: `api/backup.go:481 decryptingReader`. -/
def backupReader {σ : Type} (R : Reader σ) : Reader (TwoReaders (List UInt8) (Stream × σ)) :=
  multiReader bytesReader (streamReader R)

/-- The fuel bounds the reads of the header. Reference: `api/backup.go:429 decryptingReader`. -/
def decryptingReader {σ : Type} (P : StreamCiphers A) (R : Reader σ) (fuel : Nat) (r : σ)
    (password : String) : Option (Except String (TwoReaders (List UInt8) (Stream × σ))) :=
  (readFull R fuel r (maxHeaderSize P)).map fun res =>
    match res.err with
    | some err =>
      if ¬ (err = .unexpectedEOF ∧ minHeaderSize P ≤ res.bytes.length) then
        .error ("failed to read backup header: " ++ err.Error)
      else (tryCiphers password res.bytes (backupCiphers P)).map fun found =>
        .both found.1 (found.2, res.next)
    | none => (tryCiphers password res.bytes (backupCiphers P)).map fun found =>
        .both found.1 (found.2, res.next)

end

/-! ## The round trip -/

section
variable {A : Aead} {P : StreamCiphers A} {scheme : BackupCipher A} {password : String}
  {salt iv payload file : List UInt8} {pieces : List (List UInt8)}

/-- The file that is made of the writes of an archive. Reference: `api/backup.go:389
encryptingWriter`. -/
def backupFile (scheme : BackupCipher A) (password : String) (salt iv : List UInt8)
    (pieces : List (List UInt8)) : Except String (List UInt8) := do
  let w ← encryptingWriterOf scheme bytesBuffer [] password (.ok salt) (.ok iv)
  let w ← ((streamWriter bytesBuffer).writes w pieces).mapError IoErr.Error
  pure w.2

/-- Under a password a scheme shows the signature of an archive in a file, at the place where it has
its first encrypted bytes. Reference: `api/backup.go:473 decryptingReader`. -/
def BackupCipher.Shows (scheme : BackupCipher A) (password : String) (file : List UInt8) : Prop :=
  ∃ key, scheme.deriveKey password (file.take scheme.saltSize) = .ok key ∧
    zipMagic <+: ((scheme.newStream key ((file.drop scheme.saltSize).take blockSize)).XORKeyStream
      (file.drop (scheme.saltSize + blockSize))).1

/-- What both schemes have. Reference: `api/backup.go:42 backupCiphers`. -/
structure BackupCipher.Sound (scheme : BackupCipher A) : Prop where
  derives : ∀ password salt, ∃ key, scheme.deriveKey password salt = .ok key ∧
    aesNewCipher key = .ok key
  starts : ∀ block iv, (scheme.newStream block iv).offset = 0
  min_le : 28 ≤ headerSize scheme
  le_max : headerSize scheme ≤ 52

theorem aesNewCipher_ok {key : A.Key} (h : A.keyLen key = 32) : aesNewCipher key = .ok key := by
  rw [aesNewCipher, if_pos (Or.inr (Or.inr h))]

theorem backupCiphers_sound (hP : P.Sized) (hs : scheme ∈ backupCiphers P) : scheme.Sound := by
  simp only [backupCiphers, List.mem_cons, List.not_mem_nil, or_false] at hs
  rcases hs with rfl | rfl
  · exact ⟨fun password salt => ⟨_, rfl, aesNewCipher_ok (hP.argon2Key password salt)⟩,
      fun _ _ => rfl, by simp [headerSize, currentCipher, blockSize, zipMagic], Nat.le_refl _⟩
  · exact ⟨fun password salt => ⟨_, rfl, aesNewCipher_ok (hP.pbkdf2Key password salt)⟩,
      fun _ _ => rfl, Nat.le_refl _, by simp [headerSize, legacyCipher, blockSize, zipMagic]⟩

/-- A scheme has written its salt and its IV. Reference: `api/backup.go:389 encryptingWriter`. -/
theorem encryptingWriterOf_ok (hs : scheme.Sound) {key : A.Key}
    (hkey : scheme.deriveKey password salt = .ok key) (hblock : aesNewCipher key = .ok key) :
    encryptingWriterOf scheme bytesBuffer [] password (.ok salt) (.ok iv) =
      .ok (⟨(scheme.newStream key iv).keystream, 0⟩, salt ++ iv) := by
  have hstream : scheme.newStream key iv = ⟨(scheme.newStream key iv).keystream, 0⟩ := by
    rw [← hs.starts key iv]
  simp only [encryptingWriterOf, errorf_ok, writeTo, bytesBuffer, bind, Except.bind, pure,
    Except.pure, hkey, hblock, List.nil_append]
  exact congrArg (fun st => Except.ok (st, salt ++ iv)) hstream

/-- A scheme writes its salt, its IV and the bytes under its key stream. Reference:
`api/backup.go:389 encryptingWriter`. -/
theorem backupFile_ok (hs : scheme.Sound) {key : A.Key}
    (hkey : scheme.deriveKey password salt = .ok key) (hblock : aesNewCipher key = .ok key) :
    backupFile scheme password salt iv pieces =
      .ok (salt ++ iv ++ xorFrom (scheme.newStream key iv).keystream 0 pieces.flatten) := by
  simp only [backupFile, encryptingWriterOf_ok hs hkey hblock]
  show (((streamWriter bytesBuffer).writes _ pieces).mapError IoErr.Error).bind _ = _
  rw [streamWriter_writes]
  rfl

/-- The own scheme of a file shows the signature in its header, and leaves the key stream where the
header ends. Reference: `api/backup.go:455 decryptingReader`. -/
theorem tryCipher_own (hs : scheme.Sound) {key : A.Key}
    (hkey : scheme.deriveKey password salt = .ok key) (hblock : aesNewCipher key = .ok key)
    (hsalt : salt.length = scheme.saltSize) (hiv : iv.length = blockSize) {front : List UInt8}
    (hmagic : zipMagic <+: front) :
    tryCipher scheme password
        (salt ++ iv ++ xorFrom (scheme.newStream key iv).keystream 0 front) =
      .ok (some (front, ⟨(scheme.newStream key iv).keystream, front.length⟩)) := by
  have hlen : zipMagic.length ≤ front.length := hmagic.length_le
  have hfront : front.take zipMagic.length = zipMagic := (List.prefix_iff_eq_take.1 hmagic).symm
  rw [tryCipher, if_neg (by simp only [List.length_append, length_xorFrom]; omega), ← hsalt, ← hiv]
  simp only [← List.length_append, List.drop_left, List.append_assoc, List.take_left]
  rw [← List.append_assoc, List.drop_left]
  simp only [hkey, hblock, errorf_ok, bind, Except.bind, pure, Except.pure]
  simp only [Stream.XORKeyStream, hs.starts, xorFrom_xorFrom, length_xorFrom, Nat.zero_add,
    if_pos hfront]

/-- A scheme that does not show the signature in a file is passed over on its header. Reference:
`api/backup.go:475 decryptingReader`. -/
theorem tryCipher_miss (hs : scheme.Sound) {header : List UInt8} (hheader : header <+: file)
    (hmiss : ¬ scheme.Shows password file) : tryCipher scheme password header = .ok none := by
  rw [tryCipher]
  split
  · rfl
  · next hlen =>
    obtain ⟨rest, rfl⟩ := hheader
    obtain ⟨key, hkey, hblock⟩ := hs.derives password (header.take scheme.saltSize)
    have hsalt : (header ++ rest).take scheme.saltSize = header.take scheme.saltSize :=
      List.take_append_of_le_length (by omega)
    have hiv : ((header ++ rest).drop scheme.saltSize).take blockSize =
        (header.drop scheme.saltSize).take blockSize := by
      rw [List.drop_append_of_le_length (by omega), List.take_append_of_le_length]
      simp only [List.length_drop]; omega
    have hrest : (header ++ rest).drop (scheme.saltSize + blockSize) =
        header.drop (scheme.saltSize + blockSize) ++ rest :=
          List.drop_append_of_le_length (by omega)
    simp only [hkey, hblock, errorf_ok, bind, Except.bind, pure, Except.pure]
    rw [if_neg]
    intro htake
    refine hmiss ⟨key, by rw [hsalt]; exact hkey, ?_⟩
    rw [hiv, hrest]
    have hfront := List.prefix_iff_eq_take.2 htake.symm
    exact hfront.trans (xorFrom_front (List.prefix_append _ _))

/-- The schemes that are tried first are passed over. Reference: `api/backup.go:455
decryptingReader`. -/
theorem tryCiphers_found {header : List UInt8} {found : List UInt8 × Stream}
    {schemes : List (BackupCipher A)} (hmem : scheme ∈ schemes)
    (hown : tryCipher scheme password header = .ok (some found))
    (hothers : ∀ other ∈ schemes, other ≠ scheme → tryCipher other password header = .ok none) :
    tryCiphers password header schemes = .ok found := by
  induction schemes with
  | nil => cases hmem
  | cons first schemes ih =>
    rw [tryCiphers]
    by_cases hfirst : first = scheme
    · rw [hfirst, hown]
    · rw [hothers first List.mem_cons_self hfirst]
      refine ih ?_ fun other ho => hothers other (List.mem_cons_of_mem _ ho)
      exact (List.mem_cons.1 hmem).resolve_left fun h => hfirst h.symm

/-- The header that is read, and what is left, are both under the key stream of the file. Reference:
`api/backup.go:446 decryptingReader`. -/
theorem file_cut (front rest : List UInt8) {ks : Nat → UInt8} {size : Nat}
    (hsize : (salt ++ iv).length + front.length = size ∨
      (salt ++ iv).length + front.length ≤ size ∧ rest = []) :
    (salt ++ iv ++ xorFrom ks 0 (front ++ rest)).take size = salt ++ iv ++ xorFrom ks 0 front ∧
    (salt ++ iv ++ xorFrom ks 0 (front ++ rest)).drop size = xorFrom ks front.length rest := by
  have hfile : salt ++ iv ++ xorFrom ks 0 (front ++ rest) =
      (salt ++ iv ++ xorFrom ks 0 front) ++ xorFrom ks front.length rest := by
    rw [xorFrom_append, Nat.zero_add, List.append_assoc]
    simp only [List.append_assoc]
  have hlen : (salt ++ iv ++ xorFrom ks 0 front).length = (salt ++ iv).length + front.length := by
    rw [List.length_append, length_xorFrom]
  rw [hfile]
  rcases hsize with hsize | ⟨hle, rfl⟩
  · rw [← hsize, ← hlen]
    exact ⟨List.take_left, List.drop_left⟩
  · rw [xorFrom, List.append_nil]
    exact ⟨List.take_of_length_le (by omega), List.drop_of_length_le (by omega)⟩

/-- The file of a scheme is opened: the archive is what the returned reader delivers. Reference:
`api/backup.go:429 decryptingReader`. -/
theorem decryptingReader_ok (hP : P.Sized) (hs : scheme ∈ backupCiphers P)
    (hsalt : salt.length = scheme.saltSize) (hiv : iv.length = blockSize)
    (hmagic : zipMagic <+: payload) {key : A.Key} (hkey : scheme.deriveKey password salt = .ok key)
    (hblock : aesNewCipher key = .ok key)
    (hfile : file = salt ++ iv ++ xorFrom (scheme.newStream key iv).keystream 0 payload)
    (hothers : ∀ other ∈ backupCiphers P, other ≠ scheme → ¬ other.Shows password file)
    {σ : Type} {R : Reader σ} {content : σ → List UInt8} {measure : σ → Nat}
    (hR : R.Delivers content measure) {r : σ} (hr : content r = file) {fuel : Nat}
    (hfuel : measure r < fuel) :
    ∃ front rest next, payload = front ++ rest ∧
      decryptingReader P R fuel r password =
        some (.ok (.both front (⟨(scheme.newStream key iv).keystream, front.length⟩, next))) ∧
      content next = xorFrom (scheme.newStream key iv).keystream front.length rest := by
  have hsound := backupCiphers_sound hP hs
  have hmin := hsound.min_le
  have hmax := hsound.le_max
  have hmaxSize : maxHeaderSize P = 52 := rfl
  have hminSize : minHeaderSize P = 28 := rfl
  have hmagicLen : zipMagic.length = 4 := rfl
  have hpayload := hmagic.length_le
  have hivLen : blockSize = 16 := rfl
  rw [headerSize] at hmin hmax
  -- the part of the archive that is in the header
  obtain ⟨size, hsize⟩ : ∃ size, (salt ++ iv).length + size = 52 :=
    ⟨52 - (salt ++ iv).length, by rw [List.length_append]; omega⟩
  rw [List.length_append] at hsize
  have hfront : zipMagic <+: payload.take size := List.prefix_take_iff.2 ⟨hmagic, by omega⟩
  obtain ⟨htake, hdrop⟩ : file.take 52 = _ ∧ file.drop 52 = _ := by
    rw [hfile, ← List.take_append_drop size payload]
    apply file_cut
    rw [List.length_append]
    rcases Nat.le_total payload.length size with hle | hle
    · right
      rw [List.length_take]
      exact ⟨by omega, List.drop_of_length_le hle⟩
    · left
      rw [List.length_take]
      omega
  have hfileLen : file.length = salt.length + iv.length + payload.length := by
    rw [hfile, List.length_append, List.length_append, length_xorFrom]
  have hne : content r ≠ [] := List.length_pos_iff.1 (by rw [hr]; omega)
  obtain ⟨res, hres, hbytes, hnext, herr⟩ := hR.readFull_take (n := 52) hfuel hne
  rw [hr] at hbytes hnext herr
  -- the header is tried with the scheme of the file, the others are passed over
  have htry : tryCiphers password res.bytes (backupCiphers P) =
      .ok (payload.take size,
        ⟨(scheme.newStream key iv).keystream, (payload.take size).length⟩) := by
    refine tryCiphers_found hs ?_ fun other ho hne => ?_
    · rw [hbytes, htake]
      exact tryCipher_own hsound hkey hblock hsalt hiv hfront
    · refine tryCipher_miss (backupCiphers_sound hP ho) ?_ (hothers other ho hne)
      rw [hbytes]
      exact List.take_prefix 52 file
  refine ⟨payload.take size, payload.drop size, res.next, (List.take_append_drop size payload).symm,
    ?_, by rw [hnext, hdrop]⟩
  rw [decryptingReader, hmaxSize, hres, Option.map_some, herr]
  by_cases hshort : file.length < 52
  · have hlen : res.bytes.length = file.length := by
      rw [hbytes, List.length_take]; omega
    simp only [if_pos hshort]
    rw [if_neg (by rw [hlen, hminSize]; exact fun h => h ⟨trivial, by omega⟩), htry]
    rfl
  · simp only [if_neg hshort]
    rw [htry]
    rfl

/-- The file of a scheme is read back through any reader of it and with buffers of any sizes.
Reference: `api/backup.go:429 decryptingReader`. -/
theorem decryptingReader_yields (hP : P.Sized) (hs : scheme ∈ backupCiphers P)
    (hsalt : salt.length = scheme.saltSize) (hiv : iv.length = blockSize)
    (hmagic : zipMagic <+: payload) {key : A.Key} (hkey : scheme.deriveKey password salt = .ok key)
    (hblock : aesNewCipher key = .ok key)
    (hfile : file = salt ++ iv ++ xorFrom (scheme.newStream key iv).keystream 0 payload)
    (hothers : ∀ other ∈ backupCiphers P, other ≠ scheme → ¬ other.Shows password file)
    {σ : Type} {R : Reader σ} {content : σ → List UInt8} {measure : σ → Nat}
    (hR : R.Delivers content measure) {r : σ} (hr : content r = file) :
    ∃ enough, ∀ fuel, enough ≤ fuel → ∃ opened,
      decryptingReader P R fuel r password = some (.ok opened) ∧
      (backupReader R).Yields opened payload := by
  refine ⟨measure r + 1, fun fuel hfuel => ?_⟩
  obtain ⟨front, rest, next, hcut, hopen, hnext⟩ :=
    decryptingReader_ok hP hs hsalt hiv hmagic hkey hblock hfile hothers hR hr hfuel
  refine ⟨_, hopen, ?_⟩
  have hyields := (multiReader_delivers bytesReader_delivers (streamReader_delivers hR)).yields
    (.both front (⟨(scheme.newStream key iv).keystream, front.length⟩, next))
  have hcontent : TwoReaders.content id
      (fun s : Stream × σ => xorFrom s.1.keystream s.1.offset (content s.2))
      (.both front (⟨(scheme.newStream key iv).keystream, front.length⟩, next)) = payload := by
    simp only [TwoReaders.content, id_eq, hnext, xorFrom_xorFrom]
    exact hcut.symm
  rw [hcontent] at hyields
  exact hyields

/-- The files that are written now: only that of older versions could be taken for theirs.
Reference: `api/backup.go:389 encryptingWriter`, `api/backup.go:429 decryptingReader`. -/
theorem encryptingWriter_round_trip (password : String) (hP : P.Sized) (hsalt : salt.length = 32)
    (hiv : iv.length = blockSize) (hmagic : zipMagic <+: pieces.flatten) :
    ∃ w w', encryptingWriter P bytesBuffer [] password (.ok salt) (.ok iv) = .ok w ∧
      (streamWriter bytesBuffer).writes w pieces = .ok w' ∧
      (¬ (legacyCipher P).Shows password w'.2 →
        ∀ {σ : Type} (R : Reader σ) (content : σ → List UInt8) (measure : σ → Nat),
          R.Delivers content measure → ∀ r, content r = w'.2 →
            ∃ enough, ∀ fuel, enough ≤ fuel → ∃ opened,
              decryptingReader P R fuel r password = some (.ok opened) ∧
              (backupReader R).Yields opened pieces.flatten) := by
  have hs : currentCipher P ∈ backupCiphers P := List.mem_cons_self
  have hsound := backupCiphers_sound hP hs
  obtain ⟨key, hkey, hblock⟩ := hsound.derives password salt
  refine ⟨_, _, encryptingWriterOf_ok hsound hkey hblock, streamWriter_writes _ _ _, ?_⟩
  intro hlegacy σ R content measure hR r hr
  refine decryptingReader_yields hP hs hsalt hiv hmagic hkey hblock rfl ?_ hR hr
  intro other ho hne
  simp only [backupCiphers, List.mem_cons, List.not_mem_nil, or_false] at ho
  rw [ho.resolve_left hne]
  exact hlegacy

/-- What is written in one of the schemes, however the writes are cut, is read back through any
reader of the file and with buffers of any sizes, and then the end is reported: if no other scheme
shows the signature in the file too. Reference: `api/backup.go:389 encryptingWriter`,
`api/backup.go:429 decryptingReader`. -/
theorem backup_round_trip (password : String) (hP : P.Sized) (hs : scheme ∈ backupCiphers P)
    (hsalt : salt.length = scheme.saltSize) (hiv : iv.length = blockSize)
    (hmagic : zipMagic <+: pieces.flatten) :
    ∃ file, backupFile scheme password salt iv pieces = .ok file ∧
      ((∀ other ∈ backupCiphers P, other ≠ scheme → ¬ other.Shows password file) →
        ∀ {σ : Type} (R : Reader σ) (content : σ → List UInt8) (measure : σ → Nat),
          R.Delivers content measure → ∀ r, content r = file →
            ∃ enough, ∀ fuel, enough ≤ fuel → ∃ opened,
              decryptingReader P R fuel r password = some (.ok opened) ∧
              (backupReader R).Yields opened pieces.flatten) := by
  have hsound := backupCiphers_sound hP hs
  obtain ⟨key, hkey, hblock⟩ := hsound.derives password salt
  refine ⟨_, backupFile_ok hsound hkey hblock, fun hothers σ R content measure hR r hr => ?_⟩
  exact decryptingReader_yields hP hs hsalt hiv hmagic hkey hblock rfl hothers hR hr

end

/-- Key streams that do not depend on the key. Reference: none. -/
def StreamCiphers.clear : StreamCiphers Aead.clear where
  pbkdf2Key := fun password _ => password
  ctr := fun _ _ i => UInt8.ofNat (7 * i + 1)
  ofb := fun _ _ i => UInt8.ofNat (3 * i + 2)

/-- A file of an older version that is long enough for the current scheme to be tried on it, and
that comes in one byte at a time. Reference: `api/backup_test.go:199`, `api/backup_test.go:224`. -/
theorem backup_round_trip_legacy :
    ∃ file, backupFile (legacyCipher .clear) "password" (List.replicate 8 1) (List.replicate 16 2)
        [[0x50], [0x4B, 0x03], 0x04 :: List.replicate 30 9] = .ok file ∧
      ∃ enough, ∀ fuel, enough ≤ fuel → ∃ opened,
        decryptingReader .clear (piecesReader true) fuel (file.map fun b => [b]) "password" =
          some (.ok opened) ∧
        (backupReader (piecesReader true)).Yields opened
          ([0x50, 0x4B, 0x03, 0x04] ++ List.replicate 30 9) := by
  have hsized : StreamCiphers.clear.Sized := ⟨fun _ _ => rfl, fun _ _ => rfl⟩
  obtain ⟨file, hfile, hread⟩ := backup_round_trip "password" hsized
    (show legacyCipher .clear ∈ backupCiphers .clear from List.mem_cons_of_mem _ List.mem_cons_self)
    (show (List.replicate 8 1).length = 8 from rfl)
      (show (List.replicate 16 2).length = 16 from rfl)
    (show zipMagic <+: [[0x50], [0x4B, 0x03], 0x04 :: List.replicate 30 9].flatten by decide)
  refine ⟨file, hfile, ?_⟩
  have hpieces : (file.map fun b => [b]).flatten = file := by
    rw [← List.flatMap_def, List.flatMap_singleton']
  refine hread ?_ (piecesReader true) _ _ (piecesReader_delivers true) _ hpieces
  obtain rfl := Except.ok.inj hfile
  rintro other ho hne ⟨key, -, hshow⟩
  simp only [backupCiphers, List.mem_cons, List.not_mem_nil, or_false] at ho
  obtain rfl := ho.resolve_right hne
  revert hshow
  show ¬ zipMagic <+: xorFrom (fun i => UInt8.ofNat (7 * i + 1)) 0 _
  decide

end AlbyHub
