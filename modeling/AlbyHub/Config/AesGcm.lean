import AlbyHub.Go.Text

/-!
# The encryption of configuration values

The text form of an encrypted value is the salt of its key, the nonce and the sealed data, in
hexadecimal. The key derivation and the sealing are parameters (`Aead`). `Aead.Ideal` is what is
assumed of them: what was sealed is opened under its own key only, and two passwords have different
keys. Under it the text of a value decrypts under its own password only
(`AesGcmDecryptWithPassword_encrypt`, `password_of_decrypt`).
-/

namespace AlbyHub

open Go

/-- The functions from outside `src/` that the encryption is built on: the key of a password and a
salt, sealing and opening under a key and a nonce, and the digest by which the cache knows a
password. A key is a term with a length, not a string of that many bytes: of those there are fewer
than there are passwords. Reference: the imports of `config/aesgcm.go`; `config/config.go:230
getEncryptionKeyHash`. -/
structure Aead where
  Key : Type
  keyLen : Key → Nat
  argon2Key : String → List UInt8 → Key
  aesSeal : Key → List UInt8 → String → List UInt8
  aesOpen : Key → List UInt8 → List UInt8 → Option String
  sha256Prefix : String → String

/-- What goes wrong in a decryption: an error, or a panic. Reference: `config/aesgcm.go`. -/
inductive CipherErr where
  | error (text : String)
  | panic (text : String)
  deriving DecidableEq, Repr

/-- The parts between a separator. Reference: Go `strings.Split`. -/
def splitOn (sep : Char) : List Char → List (List Char)
  | [] => [[]]
  | c :: cs =>
    if c = sep then [] :: splitOn sep cs
    else
      match splitOn sep cs with
      | [] => [[c]]
      | part :: parts => (c :: part) :: parts

/-- The bytes that are decoded up to the first error, which the callers ignore. Reference: Go
`hex.DecodeString`. -/
def hexDecodePrefix : List Char → List UInt8
  | hi :: lo :: cs =>
    match fromHexChar hi, fromHexChar lo with
    | some hi, some lo => UInt8.ofNat (16 * hi + lo) :: hexDecodePrefix cs
    | _, _ => []
  | _ => []

/-- Reference: `config/aesgcm.go:52 AesGcmEncryptWithKey`. -/
def AesGcmEncryptWithKey (A : Aead) (nonce : List UInt8) (plaintext : String) (key : A.Key) :
    Except CipherErr String :=
  if A.keyLen key ≠ 32 then
    .error (.error ("key must be at least 32 bytes, got " ++ toString (A.keyLen key)))
  else .ok (hexEncodeToString nonce ++ "-" ++ hexEncodeToString (A.aesSeal key nonce plaintext))

/-- Reference: `config/aesgcm.go:27 AesGcmEncryptWithPassword`. -/
def AesGcmEncryptWithPassword (A : Aead) (salt nonce : List UInt8) (plaintext password : String) :
    Except CipherErr String :=
  (AesGcmEncryptWithKey A nonce plaintext (A.argon2Key password salt)).map fun ciphertext =>
    hexEncodeToString salt ++ "-" ++ ciphertext

/-- The nonce of GCM has 12 bytes. Reference: `config/aesgcm.go:81 AesGcmDecryptWithKey`, Go
`cipher.AEAD`. -/
def AesGcmDecryptWithKey (A : Aead) (ciphertext : List Char) (key : A.Key) :
    Except CipherErr String :=
  if A.keyLen key ≠ 32 then
    .error (.error ("key must be at least 32 bytes, got " ++ toString (A.keyLen key)))
  else
    match splitOn '-' ciphertext with
    | nonce :: data :: _ =>
      if (hexDecodePrefix nonce).length ≠ 12 then
        .error (.panic "crypto/cipher: incorrect nonce length given to GCM")
      else
        match A.aesOpen key (hexDecodePrefix nonce) (hexDecodePrefix data) with
        | some plaintext => .ok plaintext
        | none => .error (.error "cipher: message authentication failed")
    | _ => .error (.panic "index out of range")

/-- Reference: `config/aesgcm.go:41 AesGcmDecryptWithPassword`. -/
def AesGcmDecryptWithPassword (A : Aead) (ciphertext password : String) : Except CipherErr String :=
  match splitOn '-' ciphertext.toList with
  | salt :: nonce :: data :: _ =>
    AesGcmDecryptWithKey A (nonce ++ '-' :: data) (A.argon2Key password (hexDecodePrefix salt))
  | _ => .error (.panic "index out of range")

/-- What is assumed of the primitives. Reference: `config/aesgcm.go` (argon2, AES-GCM),
`config/config.go:234 getEncryptionKeyHash`. -/
structure Aead.Ideal (A : Aead) : Prop where
  open_seal : ∀ key nonce plaintext,
    A.aesOpen key nonce (A.aesSeal key nonce plaintext) = some plaintext
  key_of_open : ∀ key key' nonce plaintext text,
    A.aesOpen key' nonce (A.aesSeal key nonce plaintext) = some text → key' = key
  password_of_key : ∀ password password' salt,
    A.argon2Key password salt = A.argon2Key password' salt → password = password'
  key_length : ∀ password salt, A.keyLen (A.argon2Key password salt) = 32
  password_of_prefix : ∀ password password',
    A.sha256Prefix password = A.sha256Prefix password' → password = password'
  prefix_ne : ∀ password, A.sha256Prefix password ≠ ""

section
variable {A : Aead} {salt nonce : List UInt8} {plaintext password password' text : String}

theorem fromHexChar_toHexChar {n : Nat} (h : n < 16) : fromHexChar (toHexChar n) = some n := by
  have hall : ∀ n : Fin 16, fromHexChar (toHexChar n.1) = some n.1 := by decide
  exact hall ⟨n, h⟩

theorem toHexChar_ne_dash {n : Nat} (h : n < 16) : toHexChar n ≠ '-' := by
  have hall : ∀ n : Fin 16, toHexChar n.1 ≠ '-' := by decide
  exact hall ⟨n, h⟩

/-- The hexadecimal form is decoded. Reference: Go `encoding/hex`. -/
theorem hexDecodePrefix_encode (bytes : List UInt8) :
    hexDecodePrefix (hexEncodeToString bytes).toList = bytes := by
  rw [hexEncodeToString, String.toList_ofList]
  induction bytes with
  | nil => rfl
  | cons b bytes ih =>
    have hb : b.toNat < 256 := b.toNat_lt
    simp only [List.flatMap_cons, List.cons_append, List.nil_append, hexDecodePrefix]
    rw [fromHexChar_toHexChar (by omega), fromHexChar_toHexChar (by omega)]
    simp only [ih, List.cons.injEq, and_true]
    rw [show 16 * (b.toNat / 16) + b.toNat % 16 = b.toNat by omega, UInt8.ofNat_toNat]

theorem dash_not_mem_hexEncode (bytes : List UInt8) : '-' ∉ (hexEncodeToString bytes).toList := by
  rw [hexEncodeToString, String.toList_ofList, List.mem_flatMap]
  rintro ⟨b, -, hb⟩
  have hlt : b.toNat < 256 := b.toNat_lt
  simp only [List.mem_cons, List.not_mem_nil, or_false] at hb
  rcases hb with hb | hb
  · exact toHexChar_ne_dash (by omega) hb.symm
  · exact toHexChar_ne_dash (by omega) hb.symm

/-- A text without separators is one part. Reference: Go `strings.Split`. -/
theorem splitOn_of_not_mem {sep : Char} {s : List Char} (h : sep ∉ s) : splitOn sep s = [s] := by
  induction s with
  | nil => rfl
  | cons c s ih =>
    have hc : c ≠ sep := fun he => h (he ▸ List.mem_cons_self)
    rw [splitOn, if_neg hc, ih fun hs => h (List.mem_cons_of_mem c hs)]

/-- The first part ends at the first separator. Reference: Go `strings.Split`. -/
theorem splitOn_append {sep : Char} {s t : List Char} (h : sep ∉ s) :
    splitOn sep (s ++ sep :: t) = s :: splitOn sep t := by
  induction s with
  | nil => rw [List.nil_append, splitOn, if_pos rfl]
  | cons c s ih =>
    have hc : c ≠ sep := fun he => h (he ▸ List.mem_cons_self)
    rw [List.cons_append, splitOn, if_neg hc, ih fun hs => h (List.mem_cons_of_mem c hs)]

/-- A password encrypts every text. Reference: `config/aesgcm.go:27 AesGcmEncryptWithPassword`. -/
theorem AesGcmEncryptWithPassword_ok (hA : A.Ideal) :
    AesGcmEncryptWithPassword A salt nonce plaintext password =
      .ok (hexEncodeToString salt ++ "-" ++ (hexEncodeToString nonce ++ "-" ++
        hexEncodeToString (A.aesSeal (A.argon2Key password salt) nonce plaintext))) := by
  have hlen : ¬ A.keyLen (A.argon2Key password salt) ≠ 32 := not_not_intro (hA.key_length _ _)
  rw [AesGcmEncryptWithPassword, AesGcmEncryptWithKey, if_neg hlen]
  rfl

/-- What a password makes of an encrypted text. Reference: `config/aesgcm.go:41
AesGcmDecryptWithPassword`. -/
theorem AesGcmDecryptWithPassword_encrypt (hA : A.Ideal) (hn : nonce.length = 12)
    (h : AesGcmEncryptWithPassword A salt nonce plaintext password = .ok text) :
    AesGcmDecryptWithPassword A text password' =
      match A.aesOpen (A.argon2Key password' salt) nonce
        (A.aesSeal (A.argon2Key password salt) nonce plaintext) with
      | some plaintext => .ok plaintext
      | none => .error (.error "cipher: message authentication failed") := by
  rw [AesGcmEncryptWithPassword_ok hA] at h
  obtain rfl := Except.ok.inj h
  have hlen : ¬ A.keyLen (A.argon2Key password' salt) ≠ 32 := not_not_intro (hA.key_length _ _)
  have hdash : ("-" : String).toList = ['-'] := rfl
  simp only [AesGcmDecryptWithPassword, String.toList_append, hdash, List.append_assoc,
    List.cons_append, List.nil_append]
  rw [splitOn_append (dash_not_mem_hexEncode salt), splitOn_append (dash_not_mem_hexEncode nonce),
    splitOn_of_not_mem (dash_not_mem_hexEncode _)]
  simp only [hexDecodePrefix_encode, AesGcmDecryptWithKey, if_neg hlen]
  rw [splitOn_append (dash_not_mem_hexEncode nonce), splitOn_of_not_mem (dash_not_mem_hexEncode _)]
  simp only [hexDecodePrefix_encode, hn, ne_eq, not_true_eq_false, if_false]

/-- A text decrypts under its own password. Reference: `config/aesgcm.go:41
AesGcmDecryptWithPassword`. -/
theorem decrypt_of_encrypt (hA : A.Ideal) (hn : nonce.length = 12)
    (h : AesGcmEncryptWithPassword A salt nonce plaintext password = .ok text) :
    AesGcmDecryptWithPassword A text password = .ok plaintext := by
  rw [AesGcmDecryptWithPassword_encrypt hA hn h, hA.open_seal]

/-- A text decrypts under its own password only. Reference: `config/aesgcm.go:41
AesGcmDecryptWithPassword`. -/
theorem password_of_decrypt (hA : A.Ideal) (hn : nonce.length = 12)
    (h : AesGcmEncryptWithPassword A salt nonce plaintext password = .ok text) {text' : String}
    (hd : AesGcmDecryptWithPassword A text password' = .ok text') : password' = password := by
  rw [AesGcmDecryptWithPassword_encrypt hA hn h] at hd
  split at hd
  · next hopen => exact hA.password_of_key _ _ _ (hA.key_of_open _ _ _ _ _ hopen)
  · cases hd

/-- An encrypted text is not one of words. Reference: `config/aesgcm.go:26
AesGcmEncryptWithPassword`. -/
theorem dash_mem_encrypt (hA : A.Ideal)
    (h : AesGcmEncryptWithPassword A salt nonce plaintext password = .ok text) :
    '-' ∈ text.toList := by
  rw [AesGcmEncryptWithPassword_ok hA] at h
  obtain rfl := Except.ok.inj h
  simp

end

/-! ## The assumptions can be met -/

/-- A character as three bytes, of which the first is small. Reference: none. -/
def charBytes (c : Char) : List UInt8 :=
  [UInt8.ofNat (c.toNat / 65536), UInt8.ofNat (c.toNat / 256), UInt8.ofNat c.toNat]

/-- The characters of such bytes. Reference: none. -/
def bytesChars : List UInt8 → List Char
  | a :: b :: c :: bytes =>
    Char.ofNat (65536 * a.toNat + 256 * b.toNat + c.toNat) :: bytesChars bytes
  | _ => []

/-- A key that is the password, and a sealing that shows the key and the text. Reference: none. -/
def Aead.clear : Aead where
  Key := String
  keyLen := fun _ => 32
  argon2Key := fun password _ => password
  aesSeal := fun key _ plaintext =>
    key.toList.flatMap charBytes ++ 255 :: plaintext.toList.flatMap charBytes
  aesOpen := fun key _ data =>
    let mark := key.toList.flatMap charBytes ++ [255]
    if mark.isPrefixOf data then some (String.ofList (bytesChars (data.drop mark.length))) else none
  sha256Prefix := fun password => "#" ++ password

theorem charBytes_toNat (c : Char) :
    65536 * (UInt8.ofNat (c.toNat / 65536)).toNat + 256 * (UInt8.ofNat (c.toNat / 256)).toNat +
      (UInt8.ofNat c.toNat).toNat = c.toNat := by
  have hlt : c.toNat < 1114112 := by
    have hv := c.valid
    rcases hv with hv | ⟨-, hv⟩
    · exact Nat.lt_trans hv (by decide)
    · exact hv
  simp only [UInt8.toNat_ofNat']
  omega

theorem bytesChars_flatMap (cs : List Char) : bytesChars (cs.flatMap charBytes) = cs := by
  induction cs with
  | nil => rfl
  | cons c cs ih =>
    rw [List.flatMap_cons]
    show Char.ofNat _ :: bytesChars (cs.flatMap charBytes) = _
    rw [charBytes_toNat, ih, Char.ofNat_toNat]

theorem charBytes_inj {c c' : Char} (h : charBytes c = charBytes c') : c = c' := by
  simp only [charBytes, List.cons.injEq, and_true] at h
  have hn : c.toNat = c'.toNat := by
    rw [← charBytes_toNat c, ← charBytes_toNat c', h.1, h.2.1, h.2.2]
  rw [← Char.ofNat_toNat c, hn, Char.ofNat_toNat]

theorem charBytes_head_ne (c : Char) : UInt8.ofNat (c.toNat / 65536) ≠ 255 := by
  intro h
  have hn := congrArg UInt8.toNat h
  have hlt : c.toNat < 1114112 := by
    rcases c.valid with hv | ⟨-, hv⟩
    · exact Nat.lt_trans hv (by decide)
    · exact hv
  simp only [UInt8.toNat_ofNat'] at hn
  have h255 : (255 : UInt8).toNat = 255 := rfl
  omega

/-- The mark of a key is the beginning of what that key sealed only. Reference: none. -/
theorem eq_of_mark_begins {cs cs' : List Char} {data : List UInt8}
    (h : cs'.flatMap charBytes ++ [255] <+: cs.flatMap charBytes ++ 255 :: data) : cs' = cs := by
  induction cs' generalizing cs with
  | nil =>
    cases cs with
    | nil => rfl
    | cons c cs =>
      have hhead := (List.cons_prefix_cons.1 h).1
      exact absurd hhead.symm (charBytes_head_ne c)
  | cons c' cs' ih =>
    cases cs with
    | nil =>
      have hhead := (List.cons_prefix_cons.1 h).1
      exact absurd hhead (charBytes_head_ne c')
    | cons c cs =>
      obtain ⟨h₁, h⟩ := List.cons_prefix_cons.1 h
      obtain ⟨h₂, h⟩ := List.cons_prefix_cons.1 h
      obtain ⟨h₃, h⟩ := List.cons_prefix_cons.1 h
      rw [ih h,
        charBytes_inj (show charBytes c' = charBytes c by rw [charBytes, h₁, h₂, h₃, charBytes])]

theorem Aead.clear_ideal : Aead.clear.Ideal where
  open_seal := by
    intro key nonce plaintext
    simp only [Aead.clear]
    rw [if_pos, show key.toList.flatMap charBytes ++ 255 :: plaintext.toList.flatMap charBytes =
      (key.toList.flatMap charBytes ++ [255]) ++ plaintext.toList.flatMap charBytes by simp,
      List.drop_left, bytesChars_flatMap, String.ofList_toList]
    simp
  key_of_open := by
    intro key key' nonce plaintext text h
    simp only [Aead.clear] at h
    split at h
    · next hp => exact String.toList_injective (eq_of_mark_begins (List.isPrefixOf_iff_prefix.1 hp))
    · cases h
  password_of_key := fun _ _ _ h => h
  key_length := fun _ _ => rfl
  password_of_prefix := by
    intro password password' h
    have htext := congrArg String.toList h
    simp only [Aead.clear, String.toList_append, List.append_cancel_left_eq] at htext
    exact String.toList_injective htext
  prefix_ne := by
    intro password h
    have htext := congrArg String.toList h
    simp [Aead.clear] at htext

end AlbyHub
