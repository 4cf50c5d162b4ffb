import AlbyHub.Go.Text
import Mathlib.Data.List.Basic

/-!
# Hexadecimal texts

The two directions of `encoding/hex` on each other: what is encoded is decoded again, and a text
that is decoded is encoded as its lower-case spelling, since the decoder takes digits in either
case. A text that is not decoded gives the decoder's error.
-/

namespace Go

/-- `fmt.Sprintf("%#U", rune(b))`: the code point, and the character where it can be printed.
Reference: Go `fmt`, the verb `%U`, and `unicode.IsPrint`. -/
def formatByte (b : UInt8) : String :=
  let point := "U+00" ++ String.ofList
    [(Nat.digitChar (b.toNat / 16)).toUpper, (Nat.digitChar (b.toNat % 16)).toUpper]
  if 0x20 ≤ b.toNat ∧ b.toNat ≤ 0x7E ∨ 0xA1 ≤ b.toNat ∧ b.toNat ≠ 0xAD then
    point ++ " '" ++ String.singleton (Char.ofNat b.toNat) ++ "'"
  else point

/-- The text of the error of `hex.DecodeString` where it fails: the first byte that is no digit is
reported before an odd length. Reference: Go `hex.Decode`. -/
def hexError (s : String) : String :=
  match s.toUTF8.toList.find? fun b => fromHexChar (Char.ofNat b.toNat) = none with
  | some b => "encoding/hex: invalid byte: " ++ formatByte b
  | none => "encoding/hex: odd length hex string"

/-- A digit is read back. Reference: Go `encoding/hex`. -/
theorem fromHexChar_toHexChar {n : Nat} (hn : n < 16) : fromHexChar (toHexChar n) = some n := by
  have hall : ∀ n : Fin 16, fromHexChar (toHexChar n) = some n.val := by decide
  exact hall ⟨n, hn⟩

theorem ofNat_halves (b : UInt8) : UInt8.ofNat (16 * (b.toNat / 16) + b.toNat % 16) = b := by
  rw [Nat.div_add_mod, UInt8.ofNat_toNat]

/-- What is encoded is decoded again. Reference: Go `encoding/hex`. -/
theorem hexDecodeString_hexEncodeToString (bytes : List UInt8) :
    hexDecodeString (hexEncodeToString bytes) = some bytes := by
  rw [hexDecodeString, hexEncodeToString, String.toList_ofList]
  induction bytes with
  | nil => rfl
  | cons b bytes ih =>
    have hb := b.toNat_lt
    have hhi := fromHexChar_toHexChar (n := b.toNat / 16) (by omega)
    have hlo := fromHexChar_toHexChar (n := b.toNat % 16) (by omega)
    simp only [List.flatMap_cons, List.cons_append, List.nil_append, decodeHexDigits, hhi, hlo, ih]
    exact congrArg (fun b => some (b :: bytes)) (ofNat_halves b)

/-- A character that is a digit is an ASCII one, and its value is written in lower case. Reference:
Go `encoding/hex`. -/
theorem of_fromHexChar {c : Char} {n : Nat} (h : fromHexChar c = some n) :
    n < 16 ∧ c.val < 128 ∧ toHexChar n = c.toLower := by
  have hascii : c.toNat < 128 := by
    unfold fromHexChar at h
    split at h
    · next hd => exact Nat.lt_of_le_of_lt hd.2 (by decide)
    · split at h
      · next hd => exact Nat.lt_of_le_of_lt hd.2 (by decide)
      · split at h
        · next hd => exact Nat.lt_of_le_of_lt hd.2 (by decide)
        · cases h
  have hall : ∀ k : Fin 128, ∀ n ∈ fromHexChar (Char.ofNat k),
      n < 16 ∧ toHexChar n = (Char.ofNat k).toLower := by
    decide
  have hc := hall ⟨c.toNat, hascii⟩ n
  rw [Char.ofNat_toNat] at hc
  exact ⟨(hc h).1, hascii, (hc h).2⟩

/-- A text that is decoded is encoded as its lower-case spelling. Reference: Go `encoding/hex`. -/
theorem hexEncodeToString_of_hexDecodeString {f : Char → Char} {s : String} {bytes : List UInt8}
    (h : hexDecodeString s = some bytes) : hexEncodeToString bytes = toLower f s := by
  rw [hexDecodeString] at h
  rw [hexEncodeToString, toLower]
  congr 1
  generalize s.toList = cs at h
  induction cs using decodeHexDigits.induct generalizing bytes with
  | case1 =>
    cases h
    rfl
  | case2 hi lo cs ih =>
    simp only [decodeHexDigits, Option.bind_eq_bind, Option.bind_eq_some_iff,
      Option.pure_def, Option.some.injEq] at h
    obtain ⟨n, hn, m, hm, rest, hrest, rfl⟩ := h
    obtain ⟨hn16, hnascii, hnlower⟩ := of_fromHexChar hn
    obtain ⟨hm16, hmascii, hmlower⟩ := of_fromHexChar hm
    have hvalue : (UInt8.ofNat (16 * n + m)).toNat = 16 * n + m :=
      UInt8.toNat_ofNat_of_lt' (by rw [UInt8.size]; omega)
    have hdiv : (16 * n + m) / 16 = n := by omega
    have hmod : (16 * n + m) % 16 = m := by omega
    rw [List.flatMap_cons, hvalue, hdiv, hmod, ih hrest, List.map_cons, List.map_cons,
      if_pos hnascii, if_pos hmascii, hnlower, hmlower]
    rfl
  | case3 => cases h

end Go
