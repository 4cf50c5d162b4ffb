import Mathlib.Algebra.GroupWithZero.Nat
import Mathlib.Algebra.Ring.Int.Defs
import Mathlib.Data.Nat.Notation

/-!
# Strings, bytes and JSON

The functions of the `strings`, `encoding/hex` and `strconv` packages that the transactions service
uses, on `String` and `List UInt8`.
-/

namespace Go

/-- `strings.ToLower`: each character by itself. The table of the characters outside ASCII is
Unicode's, which is a parameter. Reference: Go `strings.ToLower`. -/
def toLower (unicodeToLower : Char → Char) (s : String) : String :=
  String.ofList (s.toList.map fun c => if c.val < 128 then c.toLower else unicodeToLower c)

theorem toLower_append {f : Char → Char} {s t : String} :
    toLower f (s ++ t) = toLower f s ++ toLower f t := by
  unfold toLower
  rw [String.toList_append, List.map_append, String.ofList_append]

/-- A text in lower case stays as it is. Reference: Go `strings.ToLower`. -/
theorem toLower_ofList {f : Char → Char} {l : List Char}
    (h : (l.all fun c => (if c.val < 128 then c.toLower else f c) == c) = true) :
    toLower f (String.ofList l) = String.ofList l := by
  have hl : ∀ c ∈ l, (if c.val < 128 then c.toLower else f c) = c := fun c hc =>
    beq_iff_eq.1 (List.all_eq_true.1 h c hc)
  unfold toLower
  rw [String.toList_ofList, List.map_congr_left hl, List.map_id']

/-- The white space characters of Unicode. Reference: Go `unicode.IsSpace`. -/
def isSpace (c : Char) : Bool :=
  c.toNat ∈ [9, 10, 11, 12, 13, 32, 0x85, 0xA0, 0x1680, 0x2028, 0x2029, 0x202F, 0x205F, 0x3000] ||
    0x2000 ≤ c.toNat && c.toNat ≤ 0x200A

/-- `strings.TrimSpace`. Reference: Go `strings.TrimSpace`. -/
def trimSpace (s : String) : String :=
  String.ofList ((s.toList.dropWhile isSpace).reverse.dropWhile isSpace).reverse

/-- The value of a hexadecimal digit, in either case. Reference: Go `encoding/hex`,
`reverseHexTable`. -/
def fromHexChar (c : Char) : Option Nat :=
  if '0' ≤ c ∧ c ≤ '9' then some (c.toNat - 48)
  else if 'a' ≤ c ∧ c ≤ 'f' then some (c.toNat - 87)
  else if 'A' ≤ c ∧ c ≤ 'F' then some (c.toNat - 55)
  else none

/-- The bytes of pairs of hexadecimal digits. Reference: Go `hex.Decode`. -/
def decodeHexDigits : List Char → Option (List UInt8)
  | [] => some []
  | hi :: lo :: cs => do
    let hi ← fromHexChar hi
    let lo ← fromHexChar lo
    let bytes ← decodeHexDigits cs
    return UInt8.ofNat (16 * hi + lo) :: bytes
  | [_] => none

/-- `hex.DecodeString`; an odd length or another character is an error. Reference: Go
`hex.DecodeString`. -/
def hexDecodeString (s : String) : Option (List UInt8) := decodeHexDigits s.toList

/-- A digit of the lower-case hexadecimal form. Reference: Go `encoding/hex`, `hextable`. -/
def toHexChar (n : Nat) : Char := if n < 10 then Char.ofNat (48 + n) else Char.ofNat (87 + n)

/-- `hex.EncodeToString`. Reference: Go `hex.EncodeToString`. -/
def hexEncodeToString (bytes : List UInt8) : String :=
  String.ofList (bytes.flatMap fun b => [toHexChar (b.toNat / 16), toHexChar (b.toNat % 16)])

/-- `strconv.ParseUint(s, 10, 64)` on the bytes of `s`: decimal digits only, at least one, and in
range. Reference: Go `strconv.ParseUint`. -/
def parseUint (bytes : List UInt8) : Option Nat :=
  if bytes = [] ∨ ¬ bytes.all (fun b => 48 ≤ b.toNat && b.toNat ≤ 57) then none
  else
    let n := bytes.foldl (fun n b => 10 * n + (b.toNat - 48)) 0
    if n < 2 ^ 64 then some n else none

/-- `strconv.ParseUint(s, 10, bitSize)`. Reference: Go `strconv.ParseUint`. -/
def parseUintBits (bitSize : Nat) (s : String) : Option Nat :=
  (parseUint s.toUTF8.toList).filter (· < 2 ^ bitSize)

/-- Reference: Go `strconv.ErrSyntax`, `strconv.ErrRange`. -/
inductive NumErr where
  | errSyntax
  | errRange
  deriving DecidableEq, Repr

/-- Reference: Go `strconv.NumError`. -/
structure NumError where
  func : String
  num : String
  err : NumErr
  deriving DecidableEq, Repr

/-- The bytes are read one by one after digits of the value `n`; what is reported first is no digit,
or leads out of the range. Reference: Go `strconv.ParseUint`. -/
def numErr (bitSize : Nat) : Nat → List UInt8 → NumErr
  | _, [] => .errSyntax
  | n, b :: bytes =>
    if b.toNat < 48 ∨ 57 < b.toNat then .errSyntax
    else if 2 ^ bitSize ≤ 10 * n + (b.toNat - 48) then .errRange
    else numErr bitSize (10 * n + (b.toNat - 48)) bytes

/-- `strconv.ParseUint(s, 10, bitSize)` with its error. Reference: Go `strconv.ParseUint`. -/
def ParseUint (bitSize : Nat) (s : String) : Except NumError Nat :=
  match parseUintBits bitSize s with
  | some n => .ok n
  | none => .error ⟨"ParseUint", s, numErr bitSize 0 s.toUTF8.toList⟩

/-- A decoded JSON value, as `interface{}` holds it; a number is a `float64`, given by its exact
value. Reference: Go `encoding/json`. -/
inductive Json where
  | null
  | bool (b : Bool)
  | number (numerator : Int) (denominator : Nat)
  | string (s : String)
  | array (items : List Json)
  | object (fields : List (String × Json))

/-- The conversion `uint(x)` of a `float64`: the fraction is dropped. The language leaves a value
that does not fit to the implementation, which here keeps the low 64 bits. Reference: the Go
language, conversions. -/
def uintOfFloat (numerator : Int) (denominator : Nat) : Nat :=
  (numerator.tdiv denominator % 2 ^ 64).toNat

/-- A key of a JSON object; `none` where it is absent or the object is nil. Reference: Go index
expressions on maps. -/
def lookupKey (key : String) : Option (List (String × Json)) → Option Json
  | none => none
  | some fields => (fields.find? (·.1 = key)).map (·.2)

end Go
