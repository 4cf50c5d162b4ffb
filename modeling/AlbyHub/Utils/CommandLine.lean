import AlbyHub.Go.Text
import Mathlib.Data.List.Forall2

/-!
# The command line of a custom node command

`ParseCommandLine` as the scanner that it is, and what its input is made of: pieces (`Piece`), each
of which stands for a character of an argument, or for none. The scanner accepts the texts of the
pieces whose quotes are closed, and answers the words between the separators, less the empty ones
(`parseCommandLine_iff`). So an empty argument cannot be written, and every other one can.
-/

namespace AlbyHub

open Go

/-! ## The scanner -/

/-- The variables of the loop. Reference: `utils/utils.go:61 ParseCommandLine`. -/
structure Scanner where
  args : List String := []
  currentArg : List Char := []
  inQuotes : Bool := false
  escaped : Bool := false
  deriving DecidableEq, Repr

/-- An argument without characters is none. Reference: `utils/utils.go:77 ParseCommandLine`. -/
def Scanner.endArg (s : Scanner) : Scanner :=
  if 0 < s.currentArg.length then
    { s with args := s.args ++ [String.ofList s.currentArg], currentArg := [] }
  else s

/-- `currentArg.WriteRune(r)`. Reference: `utils/utils.go:70 ParseCommandLine`. -/
def Scanner.writeRune (s : Scanner) (r : Char) : Scanner :=
  { s with currentArg := s.currentArg ++ [r] }

/-- One turn of the loop. Reference: `utils/utils.go:67 ParseCommandLine`. -/
def Scanner.step (s : Scanner) (r : Char) : Scanner :=
  if s.escaped then { s.writeRune r with escaped := false }
  else if r = '\\' then { s with escaped := true }
  else if r = '"' then { s with inQuotes := !s.inQuotes }
  else if isSpace r ∧ s.inQuotes = false then s.endArg
  else s.writeRune r

/-- Reference: `utils/utils.go:61 ParseCommandLine`. -/
def ParseCommandLine (s : String) : Except String (List String) :=
  let scanner := s.toList.foldl Scanner.step {}
  if scanner.escaped ∨ scanner.inQuotes then .error "unexpected end of string"
  else .ok scanner.endArg.args

/-! ## Pieces -/

/-- A part of a command line: a character that stands for itself, one behind an escape character, a
quote, or white space between arguments. Reference: none. -/
inductive Piece where
  | plain (c : Char)
  | escaped (c : Char)
  | quote
  | separator (c : Char)
  deriving DecidableEq, Repr

/-- Reference: none. -/
def Piece.text : Piece → List Char
  | plain c | separator c => [c]
  | escaped c => ['\\', c]
  | quote => ['"']

/-- What the piece adds to an argument. Reference: none. -/
def Piece.kept : Piece → List Char
  | plain c | escaped c => [c]
  | quote | separator _ => []

/-- Reference: none. -/
def Piece.isSeparator : Piece → Bool
  | separator _ => true
  | plain _ | escaped _ | quote => false

/-- The pieces are what they are taken for, from inside quotes or not, and the quotes are closed at
the end. Reference: none. -/
def Balanced : Bool → List Piece → Prop
  | inQuotes, [] => inQuotes = false
  | inQuotes, .plain c :: ps =>
    c ≠ '\\' ∧ c ≠ '"' ∧ (isSpace c = true → inQuotes = true) ∧ Balanced inQuotes ps
  | inQuotes, .escaped _ :: ps => Balanced inQuotes ps
  | inQuotes, .quote :: ps => Balanced (!inQuotes) ps
  | inQuotes, .separator c :: ps => isSpace c = true ∧ inQuotes = false ∧ Balanced inQuotes ps

/-- The arguments that the pieces stand for: what is between the separators, if it is not empty.
Reference: none. -/
def words (ps : List Piece) : List String :=
  (((ps.splitOnP Piece.isSeparator).map (·.flatMap Piece.kept)).filter (· ≠ [])).map String.ofList

/-- The text is a quoting of the argument: pieces without a separator, which stand for it.
Reference: none. -/
def Quoting (text arg : String) : Prop :=
  ∃ ps : List Piece, Balanced false ps ∧ (∀ p ∈ ps, p.isSeparator = false) ∧
    ps.flatMap Piece.text = text.toList ∧ ps.flatMap Piece.kept = arg.toList

/-- Some quotings of the arguments, joined by spaces, are parsed to the arguments. Reference:
none. -/
def RoundTrips (args : List String) : Prop :=
  ∃ texts : List String, List.Forall₂ Quoting texts args ∧
    ParseCommandLine (" ".intercalate texts) = .ok args

/-- The answer is an error, or arguments that have the characters of the text in order, less the
separators, the quotes and the escape characters. Reference: none. -/
def KeepsCharacters (text : String) : Prop :=
  (∃ e, ParseCommandLine text = .error e) ∨
    ∃ args ps, ParseCommandLine text = .ok args ∧ Balanced false ps ∧
      ps.flatMap Piece.text = text.toList ∧ args.flatMap String.toList = ps.flatMap Piece.kept

section
variable {s : Scanner} {ps rs acc : List Piece} {p : Piece} {q : Bool} {text arg : String}
variable {texts args : List String}

/-! ## What the scanner makes of pieces -/

/-- What a piece does to the variables of the loop. Reference: `utils/utils.go:67
ParseCommandLine`. -/
def Scanner.take (s : Scanner) : Piece → Scanner
  | .plain c | .escaped c => s.writeRune c
  | .quote => { s with inQuotes := !s.inQuotes }
  | .separator _ => s.endArg

theorem Scanner.endArg_flags (s : Scanner) :
    s.endArg.inQuotes = s.inQuotes ∧ s.endArg.escaped = s.escaped := by
  unfold Scanner.endArg
  split
  · exact ⟨rfl, rfl⟩
  · exact ⟨rfl, rfl⟩

/-- A piece is scanned as what it is, and the pieces after it stay balanced. Reference: none. -/
theorem Scanner.foldl_piece (hb : Balanced s.inQuotes (p :: ps)) (he : s.escaped = false) :
    p.text.foldl Scanner.step s = s.take p ∧ (s.take p).escaped = false ∧
      Balanced (s.take p).inQuotes ps := by
  cases p with
  | plain c =>
    obtain ⟨hescape, hquote, hspace, hb⟩ := hb
    have hopen : ¬ (isSpace c = true ∧ s.inQuotes = false) := fun h => by
      rw [hspace h.1] at h
      exact absurd h.2 (by decide)
    refine ⟨?_, he, hb⟩
    simp only [Piece.text, List.foldl_cons, List.foldl_nil, Scanner.step, he, hescape, hquote,
      hopen, Bool.false_eq_true, if_false, Scanner.take]
  | escaped c =>
    refine ⟨?_, he, hb⟩
    simp only [Piece.text, List.foldl_cons, List.foldl_nil, Scanner.step, he, Bool.false_eq_true,
      if_false, if_true, Scanner.take, Scanner.writeRune]
  | quote =>
    refine ⟨?_, he, hb⟩
    simp [Piece.text, Scanner.step, he, Scanner.take]
  | separator c =>
    obtain ⟨hspace, hq, hb⟩ := hb
    have hne : c ≠ '\\' ∧ c ≠ '"' := by
      constructor
      · rintro rfl
        exact absurd hspace (by decide)
      · rintro rfl
        exact absurd hspace (by decide)
    refine ⟨?_, s.endArg_flags.2.trans he, s.endArg_flags.1 ▸ hb⟩
    simp only [Piece.text, List.foldl_cons, List.foldl_nil, Scanner.step, he, hne.1, hne.2, hspace,
      hq, Bool.false_eq_true, if_false, if_true, and_self, Scanner.take]

/-- The arguments of words. Reference: none. -/
def argsOf (pieces : List (List Piece)) : List String :=
  ((pieces.map (·.flatMap Piece.kept)).filter (· ≠ [])).map String.ofList

theorem words_eq (ps : List Piece) : words ps = argsOf (ps.splitOnP Piece.isSeparator) := rfl

theorem argsOf_cons (w : List Piece) (ws : List (List Piece)) :
    argsOf (w :: ws) = argsOf [w] ++ argsOf ws := by
  unfold argsOf
  rw [← List.map_append, ← List.filter_append, ← List.map_append, List.singleton_append]

/-- The current argument is ended. Reference: `utils/utils.go:77 ParseCommandLine`. -/
theorem Scanner.endArg_args (hcur : s.currentArg = acc.flatMap Piece.kept) :
    s.endArg.args = s.args ++ argsOf [acc] ∧ s.endArg.currentArg = [] := by
  unfold Scanner.endArg argsOf
  split
  · next hpos =>
    have hne : acc.flatMap Piece.kept ≠ [] := List.ne_nil_of_length_pos (hcur ▸ hpos)
    simp [hcur, hne]
  · next hzero =>
    have hnil : s.currentArg = [] := List.length_eq_zero_iff.1 (by omega)
    simp [hnil, ← hcur]

/-- Another piece adds to the current argument. Reference: `utils/utils.go:70 ParseCommandLine`. -/
theorem Scanner.take_within (hp : p.isSeparator = false) :
    (s.take p).args = s.args ∧ (s.take p).currentArg = s.currentArg ++ p.kept := by
  cases p with
  | plain c | escaped c => exact ⟨rfl, rfl⟩
  | quote => exact ⟨rfl, (List.append_nil _).symm⟩
  | separator c => cases hp

/-- The scanner comes to the end of balanced pieces with the arguments that they stand for; `acc`
are the pieces of the current argument, latest first. Reference: `utils/utils.go:67
ParseCommandLine`. -/
theorem Scanner.foldl_text (hb : Balanced s.inQuotes ps) (he : s.escaped = false)
    (hcur : s.currentArg = acc.reverse.flatMap Piece.kept) :
    let s' := (ps.flatMap Piece.text).foldl Scanner.step s
    s'.escaped = false ∧ s'.inQuotes = false ∧
      s'.endArg.args = s.args ++ argsOf (ps.splitOnPPrepend Piece.isSeparator acc) := by
  induction ps generalizing s acc with
  | nil => exact ⟨he, hb, (Scanner.endArg_args hcur).1⟩
  | cons p ps ih =>
    obtain ⟨hstep, he', hb'⟩ := Scanner.foldl_piece hb he
    rw [List.flatMap_cons, List.foldl_append, hstep]
    cases hp : p.isSeparator with
    | true =>
      have htake : s.take p = s.endArg := by
        cases p with
        | separator c => rfl
        | plain c | escaped c | quote => cases hp
      rw [htake] at hb' he' ⊢
      obtain ⟨hargs, hnil⟩ := Scanner.endArg_args hcur
      have hcur' : s.endArg.currentArg = ([] : List Piece).reverse.flatMap Piece.kept := hnil
      obtain ⟨hesc, hquotes, hrest⟩ := ih hb' he' hcur'
      refine ⟨hesc, hquotes, hrest.trans ?_⟩
      rw [List.splitOnPPrepend_cons_pos hp, argsOf_cons, ← List.append_assoc, ← hargs]
      rfl
    | false =>
      obtain ⟨hargs, hkept⟩ := Scanner.take_within (s := s) hp
      have hcur' : (s.take p).currentArg = (p :: acc).reverse.flatMap Piece.kept := by
        rw [hkept, hcur, List.reverse_cons, List.flatMap_append, List.flatMap_singleton]
      obtain ⟨hesc, hquotes, hrest⟩ := ih hb' he' hcur'
      refine ⟨hesc, hquotes, hrest.trans ?_⟩
      rw [List.splitOnPPrepend_cons_neg hp, hargs]

/-- Balanced pieces are parsed to the arguments that they stand for. Reference: `utils/utils.go:61
ParseCommandLine`. -/
theorem parseCommandLine_text (hb : Balanced false ps)
    (htext : ps.flatMap Piece.text = text.toList) :
    ParseCommandLine text = .ok (words ps) := by
  have hstart : (({} : Scanner).currentArg) = ([] : List Piece).reverse.flatMap Piece.kept := rfl
  obtain ⟨hesc, hquotes, hargs⟩ := Scanner.foldl_text (s := {}) hb rfl hstart
  unfold ParseCommandLine
  rw [← htext]
  simp only [hesc, hquotes, Bool.false_eq_true, or_self, if_false]
  exact congrArg _ hargs

/-- A character that is not behind an escape character begins an escape, or is a piece. Reference:
`utils/utils.go:72 ParseCommandLine`. -/
theorem Scanner.step_cases (he : s.escaped = false) (c : Char) :
    (c = '\\' ∧ s.step c = { s with escaped := true }) ∨
      ∃ p, p.text = [c] ∧ s.step c = s.take p ∧ (s.take p).escaped = false ∧
        ∀ ps, Balanced (s.take p).inQuotes ps → Balanced s.inQuotes (p :: ps) := by
  have hne : ¬ s.escaped = true := by
    rw [he]
    exact Bool.false_ne_true
  unfold Scanner.step
  rw [if_neg hne]
  split
  · next hescape => exact .inl ⟨hescape, rfl⟩
  · next hescape =>
    refine .inr ?_
    split
    · next hquote => exact ⟨.quote, by rw [hquote]; rfl, rfl, he, fun _ hb => hb⟩
    · next hquote =>
      split
      · next hspace =>
        obtain ⟨hquotes, hesc⟩ := s.endArg_flags
        refine ⟨.separator c, rfl, rfl, hesc.trans he, fun ps hb => ⟨hspace.1, hspace.2, ?_⟩⟩
        exact hquotes ▸ hb
      · next hspace =>
        refine ⟨.plain c, rfl, rfl, he, fun ps hb => ⟨hescape, hquote, fun hsp => ?_, hb⟩⟩
        exact Bool.of_not_eq_false fun hq => hspace ⟨hsp, hq⟩

/-- What the scanner does not refuse is made of balanced pieces; where it stands behind an escape
character, this one is the first of them. Reference: `utils/utils.go:67 ParseCommandLine`. -/
theorem exists_pieces (cs : List Char) (hesc : (cs.foldl Scanner.step s).escaped = false)
    (hquotes : (cs.foldl Scanner.step s).inQuotes = false) :
    ∃ ps, Balanced s.inQuotes ps ∧
      ps.flatMap Piece.text = if s.escaped then '\\' :: cs else cs := by
  induction cs generalizing s with
  | nil =>
    have he : s.escaped = false := hesc
    refine ⟨[], hquotes, ?_⟩
    rw [he]
    rfl
  | cons c cs ih =>
    obtain ⟨ps, hb, htext⟩ := ih (s := s.step c) hesc hquotes
    cases he : s.escaped with
    | true =>
      have hstep : s.step c = { s.writeRune c with escaped := false } := if_pos he
      rw [hstep] at hb htext
      exact ⟨.escaped c :: ps, hb, congrArg (fun l => '\\' :: c :: l) htext⟩
    | false =>
      rcases Scanner.step_cases he c with ⟨rfl, hstep⟩ | ⟨p, hp, hstep, he', hcons⟩
      · rw [hstep] at hb htext
        exact ⟨ps, hb, htext⟩
      · rw [hstep] at hb htext
        rw [he', if_neg Bool.false_ne_true] at htext
        refine ⟨p :: ps, hcons ps hb, ?_⟩
        rw [List.flatMap_cons, hp, htext]
        rfl

/-- The parser accepts the texts of balanced pieces, and answers their words. Reference:
`utils/utils.go:61 ParseCommandLine`. -/
theorem parseCommandLine_iff :
    ParseCommandLine text = .ok args ↔
      ∃ ps, Balanced false ps ∧ ps.flatMap Piece.text = text.toList ∧ args = words ps := by
  constructor
  · intro h
    have hends : (text.toList.foldl Scanner.step {}).escaped = false ∧
        (text.toList.foldl Scanner.step {}).inQuotes = false := by
      unfold ParseCommandLine at h
      dsimp only at h
      split at h
      · cases h
      · next hopen =>
        simp only [not_or, Bool.not_eq_true] at hopen
        exact hopen
    obtain ⟨ps, hb, htext⟩ := exists_pieces text.toList hends.1 hends.2
    rw [if_neg Bool.false_ne_true] at htext
    have hargs := parseCommandLine_text hb htext
    exact ⟨ps, hb, htext, Except.ok.inj (h.symm.trans hargs)⟩
  · rintro ⟨ps, hb, htext, rfl⟩
    exact parseCommandLine_text hb htext

example : ParseCommandLine "\"arg 1\" arg2 \"arg\\\"3\"" = .ok ["arg 1", "arg2", "arg\"3"] := by
  rfl

/-! ## Characters -/

theorem argsOf_characters (ws : List (List Piece)) :
    (argsOf ws).flatMap String.toList = ws.flatMap (·.flatMap Piece.kept) := by
  induction ws with
  | nil => rfl
  | cons w ws ih =>
    rw [argsOf_cons, List.flatMap_append, ih, List.flatMap_cons]
    congr 1
    by_cases hw : w.flatMap Piece.kept = []
    · simp [argsOf, hw]
    · simp [argsOf, hw]

/-- The words have the characters of the pieces between the separators. Reference: none. -/
theorem words_characters (ps : List Piece) :
    (words ps).flatMap String.toList = ps.flatMap Piece.kept := by
  suffices hacc : ∀ acc, (ps.splitOnPPrepend Piece.isSeparator acc).flatMap (·.flatMap Piece.kept) =
      acc.reverse.flatMap Piece.kept ++ ps.flatMap Piece.kept by
    rw [words_eq, argsOf_characters]
    exact hacc []
  induction ps with
  | nil => intro acc; simp
  | cons p ps ih =>
    intro acc
    cases hp : p.isSeparator with
    | true =>
      have hkept : p.kept = [] := by
        cases p with
        | separator c => rfl
        | plain c | escaped c | quote => cases hp
      rw [List.splitOnPPrepend_cons_pos hp, List.flatMap_cons, List.flatMap_cons, hkept]
      exact congrArg _ (ih [])
    | false =>
      rw [List.splitOnPPrepend_cons_neg hp, ih, List.reverse_cons, List.flatMap_append,
        List.flatMap_singleton, List.flatMap_cons, List.append_assoc]

theorem keepsCharacters (text : String) : KeepsCharacters text := by
  cases hparse : ParseCommandLine text with
  | error e => exact .inl ⟨e, hparse⟩
  | ok args =>
    obtain ⟨ps, hb, htext, rfl⟩ := parseCommandLine_iff.1 hparse
    exact .inr ⟨_, ps, hparse, hb, htext, words_characters ps⟩

/-! ## Quotings -/

theorem Balanced.append (hb : Balanced q ps) (hrest : Balanced false rs) :
    Balanced q (ps ++ rs) := by
  induction ps generalizing q with
  | nil =>
    have hq : q = false := hb
    rwa [hq]
  | cons p ps ih =>
    cases p with
    | plain c => exact ⟨hb.1, hb.2.1, hb.2.2.1, ih hb.2.2.2⟩
    | escaped c | quote => exact ih hb
    | separator c => exact ⟨hb.1, hb.2.1, ih hb.2.2⟩

theorem words_single (hp : ∀ p ∈ ps, p.isSeparator = false)
    (hkept : ps.flatMap Piece.kept = arg.toList) : words ps = [arg].filter (· ≠ "") := by
  rw [words_eq, List.splitOnP_eq_singleton hp]
  by_cases harg : arg = ""
  · simp [argsOf, hkept, harg]
  · simp [argsOf, hkept, harg]

theorem words_separated (hp : ∀ p ∈ ps, p.isSeparator = false) (c : Char) :
    words (ps ++ .separator c :: rs) = words ps ++ words rs := by
  rw [words_eq, words_eq, words_eq, List.splitOnP_append_cons_of_forall_mem hp _ rfl,
    List.splitOnP_eq_singleton hp, argsOf_cons]

/-- Quotings that are joined by spaces are parsed to the arguments that are not empty. Reference:
`utils/utils.go:61 ParseCommandLine`. -/
theorem parseCommandLine_join (h : List.Forall₂ Quoting texts args) :
    ParseCommandLine (" ".intercalate texts) = .ok (args.filter (· ≠ "")) := by
  suffices hpieces : ∃ ps, Balanced false ps ∧
      ps.flatMap Piece.text = (" ".intercalate texts).toList ∧ words ps = args.filter (· ≠ "") by
    obtain ⟨ps, hb, htext, hwords⟩ := hpieces
    rw [parseCommandLine_text hb htext, hwords]
  induction h with
  | nil => exact ⟨[], rfl, by simp, by simp [words, List.splitOnP_nil]⟩
  | @cons text arg texts args hq hrest ih =>
    obtain ⟨ps, hb, hsep, htext, hkept⟩ := hq
    obtain ⟨rs, hbrest, htexts, hwords⟩ := ih
    have hfirst := words_single hsep hkept
    have hargs : (arg :: args).filter (· ≠ "") = [arg].filter (· ≠ "") ++ args.filter (· ≠ "") := by
      rw [← List.filter_append, List.singleton_append]
    cases hrest with
    | nil => exact ⟨ps, hb, by rw [htext, String.intercalate_singleton], hfirst⟩
    | cons hq' hrest' =>
      refine ⟨ps ++ .separator ' ' :: rs, hb.append ⟨by decide, rfl, hbrest⟩, ?_, ?_⟩
      · rw [List.flatMap_append, List.flatMap_cons, htext, htexts]
        simp [Piece.text]
      · rw [words_separated hsep, hfirst, hwords, hargs]

/-- An argument between quotes, each of its characters behind an escape character. Reference:
none. -/
def quoted (arg : String) : List Piece := .quote :: (arg.toList.map .escaped ++ [.quote])

theorem exists_quoting (arg : String) : ∃ text, Quoting text arg := by
  have hescaped : ∀ cs : List Char, Balanced true (cs.map .escaped ++ [.quote]) ∧
      (cs.map Piece.escaped).flatMap Piece.kept = cs := by
    intro cs
    induction cs with
    | nil => exact ⟨rfl, rfl⟩
    | cons c cs ih => exact ⟨ih.1, congrArg (c :: ·) ih.2⟩
  obtain ⟨hb, hkept⟩ := hescaped arg.toList
  refine ⟨String.ofList ((quoted arg).flatMap Piece.text), quoted arg, hb, ?_, ?_, ?_⟩
  · intro p hp
    simp only [quoted, List.mem_cons, List.mem_append, List.mem_map, List.not_mem_nil,
      or_false] at hp
    rcases hp with rfl | ⟨c, -, rfl⟩ | rfl
    · rfl
    · rfl
    · rfl
  · rw [String.toList_ofList]
  · rw [quoted, List.flatMap_cons, List.flatMap_append, hkept]
    exact List.append_nil _

/-- Some command line is parsed to the arguments exactly when none of them is empty, and whatever is
parsed keeps its characters. Reference: `utils/utils.go:61 ParseCommandLine`. -/
theorem command_line_iff (args : List String) :
    (RoundTrips args ∧ ∀ text, KeepsCharacters text) ↔ ∀ arg ∈ args, arg ≠ "" := by
  rw [and_iff_left keepsCharacters]
  constructor
  · rintro ⟨texts, hq, hparse⟩
    rw [parseCommandLine_join hq] at hparse
    simpa using List.filter_eq_self.1 (Except.ok.inj hparse)
  · intro hne
    have hall : args.filter (· ≠ "") = args := List.filter_eq_self.2 (by simpa using hne)
    have hquotings : ∃ texts, List.Forall₂ Quoting texts args := by
      clear hne hall
      induction args with
      | nil => exact ⟨[], .nil⟩
      | cons arg args ih =>
        obtain ⟨text, hq⟩ := exists_quoting arg
        obtain ⟨texts, hrest⟩ := ih
        exact ⟨text :: texts, .cons hq hrest⟩
    obtain ⟨texts, hq⟩ := hquotings
    exact ⟨texts, hq, by rw [parseCommandLine_join hq, hall]⟩

end

/-- The empty argument between its quotes is parsed to no argument, and so is every other quoting of
it. Reference: `utils/utils.go:77 ParseCommandLine`. -/
theorem empty_argument_lost :
    Quoting "\"\"" "" ∧ ParseCommandLine "\"\"" = .ok [] ∧ ¬ RoundTrips [""] := by
  refine ⟨⟨[.quote, .quote], rfl, by decide, rfl, rfl⟩, by rfl, ?_⟩
  rintro ⟨texts, hq, hparse⟩
  rw [parseCommandLine_join hq] at hparse
  exact absurd (Except.ok.inj hparse) (by decide)

end AlbyHub
