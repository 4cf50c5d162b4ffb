import AlbyHub.Config.AesGcm
import Mathlib.Data.List.Basic

/-!
# Decrypting any stored text

What was encrypted is decrypted again. But a stored text is split at its dashes, and its parts are
used by their position: one with too few dashes, or with another nonce than of 12 bytes, makes the
decryption panic. `decryption_settles_iff` says which texts these are.
-/

namespace AlbyHub

open Go

/-- What was sealed under a nonce of 12 bytes is opened, and a derived key has 32 bytes. Reference:
Go `cipher.AEAD`, `config/aesgcm.go:22 DeriveKey`. -/
structure Aead.Inverts (A : Aead) : Prop where
  open_seal : ∀ key nonce plaintext, nonce.length = 12 →
    A.aesOpen key nonce (A.aesSeal key nonce plaintext) = some plaintext
  key_length : ∀ password salt, A.keyLen (A.argon2Key password salt) = 32

/-- A value or an error, not a panic. Reference: none. -/
def Settles (r : Except CipherErr String) : Prop := ∀ text, r ≠ .error (.panic text)

/-- The hexadecimal digits that a part begins with. Reference: Go `hex.DecodeString`. -/
def leadingHexDigits (part : List Char) : Nat :=
  (part.takeWhile fun c => (fromHexChar c).isSome).length

/-- The text has a dash, and the digits of 12 bytes before the first one; a last digit without
another is dropped. Reference: `config/aesgcm.go:82 AesGcmDecryptWithKey`. -/
def HasNonce (text : List Char) : Prop :=
  ∃ nonce data, text = nonce ++ '-' :: data ∧ '-' ∉ nonce ∧
    (leadingHexDigits nonce = 24 ∨ leadingHexDigits nonce = 25)

/-- The text has a second dash, and a nonce behind the first one. Reference: `config/aesgcm.go:42
AesGcmDecryptWithPassword`. -/
def HasSaltAndNonce (text : List Char) : Prop :=
  ∃ salt rest, text = salt ++ '-' :: rest ∧ '-' ∉ salt ∧ HasNonce rest

section
variable {A : Aead} {key : A.Key} {salt nonce : List UInt8} {plaintext password text : String}
variable {cs part rest : List Char} {sep : Char}

/-! ## The parts of a text -/

/-- Two digits make a byte. Reference: Go `hex.DecodeString`. -/
theorem length_hexDecodePrefix (cs : List Char) :
    (hexDecodePrefix cs).length = leadingHexDigits cs / 2 := by
  unfold leadingHexDigits
  induction cs using hexDecodePrefix.induct with
  | case1 hi lo cs n m hhi hlo ih =>
    simp only [hexDecodePrefix, hhi, hlo, List.takeWhile_cons, Option.isSome_some, if_true,
      List.length_cons, ih]
    omega
  | case2 hi lo cs hdigits =>
    have hnil : hexDecodePrefix (hi :: lo :: cs) = [] := by
      unfold hexDecodePrefix
      split
      · next n m hhi hlo => exact (hdigits n m hhi hlo).elim
      · rfl
    rw [hnil]
    cases hhi : fromHexChar hi with
    | none =>
      simp only [List.takeWhile_cons, hhi, Option.isSome_none, Bool.false_eq_true, if_false,
        List.length_nil, Nat.zero_div]
    | some n =>
      cases hlo : fromHexChar lo with
      | none =>
        simp only [List.takeWhile_cons, hhi, hlo, Option.isSome_some, Option.isSome_none,
          Bool.false_eq_true, if_true, if_false, List.length_cons, List.length_nil]
      | some m => exact (hdigits n m hhi hlo).elim
  | case3 cs hshort =>
    cases cs with
    | nil => rfl
    | cons c cs =>
      cases cs with
      | nil =>
        have hle : ([c].takeWhile fun c => (fromHexChar c).isSome).length ≤ 1 :=
          (List.takeWhile_prefix _).length_le
        have hnil : hexDecodePrefix [c] = [] := rfl
        rw [hnil, List.length_nil]
        omega
      | cons lo cs => exact (hshort c lo cs rfl).elim

/-- A text has at least one part. Reference: Go `strings.Split`. -/
theorem exists_splitOn (sep : Char) (cs : List Char) :
    ∃ part parts, splitOn sep cs = part :: parts := by
  by_cases hsep : sep ∈ cs
  · obtain ⟨part, rest, rfl, hpart⟩ := List.eq_append_cons_of_mem hsep
    exact ⟨part, _, splitOn_append hpart⟩
  · exact ⟨cs, [], splitOn_of_not_mem hsep⟩

/-- The part before the first separator is one only. Reference: Go `strings.Split`. -/
theorem first_part_unique {part' rest' : List Char}
    (h : part ++ sep :: rest = part' ++ sep :: rest') (hpart : sep ∉ part) (hpart' : sep ∉ part') :
    part = part' ∧ rest = rest' := by
  induction part generalizing part' with
  | nil =>
    cases part' with
    | nil => exact ⟨rfl, List.tail_eq_of_cons_eq h⟩
    | cons c part' => exact absurd (List.head_eq_of_cons_eq h ▸ List.mem_cons_self) hpart'
  | cons c part ih =>
    cases part' with
    | nil => exact absurd (List.head_eq_of_cons_eq h ▸ List.mem_cons_self) hpart
    | cons c' part' =>
      obtain ⟨rfl, htail⟩ := List.cons.inj h
      obtain ⟨rfl, rfl⟩ := ih htail (fun hm => hpart (List.mem_cons_of_mem c hm))
        fun hm => hpart' (List.mem_cons_of_mem c hm)
      exact ⟨rfl, rfl⟩

/-! ## What a decryption does -/

/-- The digits of 12 bytes. Reference: none. -/
theorem twelve_bytes_iff (cs : List Char) :
    (hexDecodePrefix cs).length = 12 ↔ leadingHexDigits cs = 24 ∨ leadingHexDigits cs = 25 := by
  rw [length_hexDecodePrefix]
  omega

/-- The nonce of a text is what stands before its first dash. Reference: `config/aesgcm.go:88
AesGcmDecryptWithKey`. -/
theorem hasNonce_append (hpart : '-' ∉ part) :
    HasNonce (part ++ '-' :: rest) ↔ (hexDecodePrefix part).length = 12 := by
  rw [twelve_bytes_iff]
  constructor
  · rintro ⟨nonce, data, heq, hnonce, hdigits⟩
    obtain ⟨rfl, rfl⟩ := first_part_unique heq hpart hnonce
    exact hdigits
  · intro hdigits
    exact ⟨part, rest, rfl, hpart, hdigits⟩

/-- A text without a dash has no nonce. Reference: none. -/
theorem dash_mem_of_hasNonce (h : HasNonce cs) : '-' ∈ cs := by
  obtain ⟨nonce, data, rfl, -, -⟩ := h
  exact List.mem_append_right _ List.mem_cons_self

/-- Under a key of another length there is an error for every text. With one of 32 bytes the text
must have a nonce. Reference: `config/aesgcm.go:81 AesGcmDecryptWithKey`. -/
theorem decryptWithKey_settles :
    Settles (AesGcmDecryptWithKey A cs key) ↔ (A.keyLen key = 32 → HasNonce cs) := by
  unfold AesGcmDecryptWithKey
  by_cases hkey : A.keyLen key = 32
  · rw [if_neg (not_not_intro hkey)]
    by_cases hdash : '-' ∈ cs
    · obtain ⟨nonce, rest, rfl, hnonce⟩ := List.eq_append_cons_of_mem hdash
      obtain ⟨data, parts, hparts⟩ := exists_splitOn '-' rest
      simp only [hkey, true_implies, splitOn_append hnonce, hparts, hasNonce_append hnonce]
      by_cases hlength : (hexDecodePrefix nonce).length = 12
      · refine iff_of_true ?_ hlength
        rw [if_neg (not_not_intro hlength)]
        intro text
        split
        · exact fun h => nomatch h
        · exact fun h => CipherErr.noConfusion (Except.error.inj h)
      · refine iff_of_false ?_ hlength
        rw [if_pos hlength]
        exact fun h => h _ rfl
    · rw [splitOn_of_not_mem hdash]
      exact iff_of_false (fun h => h _ rfl) fun h => hdash (dash_mem_of_hasNonce (h hkey))
  · rw [if_pos hkey]
    exact iff_of_true (fun text h => CipherErr.noConfusion (Except.error.inj h))
      fun h => (hkey h).elim

/-- The salt may be anything, but there must be a second dash and a nonce before it. Reference:
`config/aesgcm.go:41 AesGcmDecryptWithPassword`. -/
theorem decryptWithPassword_settles (hA : A.Inverts) :
    Settles (AesGcmDecryptWithPassword A text password) ↔ HasSaltAndNonce text.toList := by
  unfold AesGcmDecryptWithPassword
  generalize text.toList = cs
  by_cases hdash : '-' ∈ cs
  · obtain ⟨salt, rest, rfl, hsalt⟩ := List.eq_append_cons_of_mem hdash
    rw [splitOn_append hsalt]
    have hrest : HasSaltAndNonce (salt ++ '-' :: rest) ↔ HasNonce rest := by
      constructor
      · rintro ⟨salt', rest', heq, hsalt', hnonce⟩
        obtain ⟨rfl, rfl⟩ := first_part_unique heq hsalt hsalt'
        exact hnonce
      · exact fun hnonce => ⟨salt, rest, rfl, hsalt, hnonce⟩
    rw [hrest]
    by_cases hdash' : '-' ∈ rest
    · obtain ⟨nonce, rest, rfl, hnonce⟩ := List.eq_append_cons_of_mem hdash'
      obtain ⟨data, parts, hparts⟩ := exists_splitOn '-' rest
      simp only [splitOn_append hnonce, hparts, decryptWithKey_settles, hA.key_length,
        true_implies, hasNonce_append hnonce]
    · rw [splitOn_of_not_mem hdash']
      exact iff_of_false (fun h => h _ rfl) fun h => hdash' (dash_mem_of_hasNonce h)
  · rw [splitOn_of_not_mem hdash]
    refine iff_of_false (fun h => h _ rfl) ?_
    rintro ⟨salt, rest, rfl, -, -⟩
    exact hdash (List.mem_append_right _ List.mem_cons_self)

/-! ## What was encrypted -/

/-- The text of a key is decrypted under it. Reference: `config/aesgcm.go:81
AesGcmDecryptWithKey`. -/
theorem decryptWithKey_encrypt (hA : A.Inverts) (hnonce : nonce.length = 12)
    (h : AesGcmEncryptWithKey A nonce plaintext key = .ok text) :
    AesGcmDecryptWithKey A text.toList key = .ok plaintext := by
  unfold AesGcmEncryptWithKey at h
  split at h
  · cases h
  · next hkey =>
    obtain rfl := Except.ok.inj h
    have hdash : ("-" : String).toList = ['-'] := rfl
    simp only [AesGcmDecryptWithKey, if_neg hkey, String.toList_append, hdash, List.append_assoc,
      List.cons_append, List.nil_append]
    rw [splitOn_append (dash_not_mem_hexEncode nonce),
      splitOn_of_not_mem (dash_not_mem_hexEncode _)]
    simp only [hexDecodePrefix_encode, hnonce, ne_eq, not_true_eq_false, if_false,
      hA.open_seal _ _ _ hnonce]

/-- The text of a password is decrypted under it. Reference: `config/aesgcm.go:41
AesGcmDecryptWithPassword`. -/
theorem decryptWithPassword_encrypt (hA : A.Inverts) (hnonce : nonce.length = 12)
    (h : AesGcmEncryptWithPassword A salt nonce plaintext password = .ok text) :
    AesGcmDecryptWithPassword A text password = .ok plaintext := by
  unfold AesGcmEncryptWithPassword at h
  cases hk : AesGcmEncryptWithKey A nonce plaintext (A.argon2Key password salt) with
  | error e =>
    rw [hk] at h
    cases h
  | ok ciphertext =>
    rw [hk] at h
    obtain rfl := Except.ok.inj h
    have hd := decryptWithKey_encrypt hA hnonce hk
    unfold AesGcmEncryptWithKey at hk
    split at hk
    · cases hk
    · obtain rfl := Except.ok.inj hk
      have hdash : ("-" : String).toList = ['-'] := rfl
      simp only [String.toList_append, hdash, List.append_assoc, List.cons_append,
        List.nil_append] at hd
      simp only [AesGcmDecryptWithPassword, String.toList_append, hdash, List.append_assoc,
        List.cons_append, List.nil_append]
      rw [splitOn_append (dash_not_mem_hexEncode salt),
        splitOn_append (dash_not_mem_hexEncode nonce),
        splitOn_of_not_mem (dash_not_mem_hexEncode _)]
      simp only [hexDecodePrefix_encode, hd]

end

/-- What was encrypted under a key or a password is decrypted under it. Any other text is decrypted
to a value or an error if and only if it has the parts that are used by their position. Reference:
`config/aesgcm.go:41 AesGcmDecryptWithPassword, :81 AesGcmDecryptWithKey`. -/
theorem decryption_settles_iff (A : Aead) (hA : A.Inverts) :
    (∀ key nonce plaintext text, nonce.length = 12 →
      AesGcmEncryptWithKey A nonce plaintext key = .ok text →
        AesGcmDecryptWithKey A text.toList key = .ok plaintext) ∧
    (∀ password salt nonce plaintext text, nonce.length = 12 →
      AesGcmEncryptWithPassword A salt nonce plaintext password = .ok text →
        AesGcmDecryptWithPassword A text password = .ok plaintext) ∧
    (∀ (text : String) key, Settles (AesGcmDecryptWithKey A text.toList key) ↔
      (A.keyLen key = 32 → HasNonce text.toList)) ∧
    ∀ text password, Settles (AesGcmDecryptWithPassword A text password) ↔
      HasSaltAndNonce text.toList :=
  ⟨fun _ _ _ _ hnonce h => decryptWithKey_encrypt hA hnonce h,
    fun _ _ _ _ _ hnonce h => decryptWithPassword_encrypt hA hnonce h,
    fun _ _ => decryptWithKey_settles, fun _ _ => decryptWithPassword_settles hA⟩

theorem Aead.clear_inverts : Aead.clear.Inverts where
  open_seal := fun key nonce plaintext _ => Aead.clear_ideal.open_seal key nonce plaintext
  key_length := Aead.clear_ideal.key_length

/-- Under the password "123" the text "abc" has one part only. Reference: none. -/
theorem decryption_settles_iff_clear :
    Aead.clear.Inverts ∧
    (Settles (AesGcmDecryptWithPassword Aead.clear "abc" "123") ↔
      HasSaltAndNonce ("abc" : String).toList) :=
  ⟨Aead.clear_inverts, (decryption_settles_iff Aead.clear Aead.clear_inverts).2.2.2 "abc" "123"⟩

/-- A text without a dash is indexed out of its range, and one with an empty nonce is handed to the
cipher. Reference: `config/aesgcm.go:49 AesGcmDecryptWithPassword, :90 AesGcmDecryptWithKey`. -/
theorem stored_text_panics :
    AesGcmDecryptWithPassword Aead.clear "abc" "123" = .error (.panic "index out of range") ∧
    AesGcmDecryptWithPassword Aead.clear "00--00" "123" =
      .error (.panic "crypto/cipher: incorrect nonce length given to GCM") ∧
    ¬ Settles (AesGcmDecryptWithPassword Aead.clear "abc" "123") := by
  have habc : AesGcmDecryptWithPassword Aead.clear "abc" "123" =
      .error (.panic "index out of range") := by rfl
  exact ⟨habc, by rfl, fun h => h _ habc⟩

end AlbyHub
