import Mathlib.Data.Nat.Notation

/-!
# Replacing one character

`String.replace` with a pattern of one character is a map on the characters (`toList_replace`). Its
search goes through the text in steps, each of which is a match or a part without one
(`IsValidSearchFrom`).
-/

namespace Go

open String.Slice.Pattern String.Slice.Pattern.Model

/-- What a character is replaced by. Reference: Go `strings.ReplaceAll`. -/
def replaceChar (c : Char) (new : String) (d : Char) : List Char :=
  if d = c then new.toList else [d]

section
variable {c : Char} {new : String} {s : String.Slice}

theorem flatMap_replaceChar_of_not_mem {cs : List Char} (h : c ∉ cs) :
    cs.flatMap (replaceChar c new) = cs := by
  induction cs with
  | nil => rfl
  | cons d cs ih =>
    obtain ⟨hd, hcs⟩ := not_or.1 (mt List.mem_cons.2 h)
    have hkeep : replaceChar c new d = [d] := if_neg (Ne.symm hd)
    rw [List.flatMap_cons, hkeep, ih hcs]
    rfl

/-- No position of a part without a match is one of the character. Reference: none. -/
theorem not_mem_of_not_matchesAt {start stop : s.Pos} {t₁ part t₂ : String}
    (hstart : start.Splits t₁ (part ++ t₂)) (hstop : stop.Splits (t₁ ++ part) t₂)
    (hnone : ∀ pos, start ≤ pos → pos < stop → ¬ MatchesAt (String.singleton c) pos) :
    c ∉ part.toList := by
  intro hmem
  obtain ⟨l₁, l₂, hpart⟩ := List.append_of_mem hmem
  have hsplit : part = String.ofList l₁ ++ (String.singleton c ++ String.ofList l₂) := by
    apply String.toList_inj.1
    simp [hpart]
  have hcopy : s.copy =
      (t₁ ++ String.ofList l₁) ++ (String.singleton c ++ (String.ofList l₂ ++ t₂)) := by
    rw [hstart.eq_append, hsplit]
    simp only [String.append_assoc]
  have hpos := String.Slice.Pos.splits_ofEqAppend hcopy
  have hmatch : MatchesAt (String.singleton c) (String.Slice.Pos.ofEqAppend hcopy) :=
    ForwardStringSearcher.matchesAt_iff_splits.2 ⟨_, _, hpos⟩
  refine hnone _ ?_ ?_ hmatch
  · refine (hstart.le_iff_exists_eq_append hpos).2 ⟨String.ofList l₁, rfl, ?_⟩
    rw [hsplit]
    simp only [String.append_assoc]
  · refine (hpos.lt_iff_exists_eq_append hstop).2
      ⟨String.singleton c ++ String.ofList l₂, by simp, ?_, ?_⟩
    · rw [hsplit]
      simp only [String.append_assoc]
    · simp only [String.append_assoc]

/-- One step of a replacement. Reference: `String.Slice.replace`. -/
def replaceStep (s : String.Slice) (new : String) (sofar : String) : SearchStep s → String
  | .matched _ _ => sofar ++ new.toSlice
  | .rejected start stop => sofar ++ s.slice! start stop

/-- A valid search from a position replaces the characters after it. Reference: none. -/
theorem toList_foldl_replaceStep {pos : s.Pos} {l : List (SearchStep s)}
    (h : IsValidSearchFrom (String.singleton c) pos l) {t₁ t₂ sofar : String}
    (ht : pos.Splits t₁ t₂) :
    (l.foldl (replaceStep s new) sofar).toList =
      sofar.toList ++ t₂.toList.flatMap (replaceChar c new) := by
  induction h generalizing t₁ t₂ sofar with
  | endPos =>
    have hnil : t₂ = "" := ht.eq_endPos_iff.1 rfl
    simp [hnil]
  | matched hmatch _ ih =>
    obtain ⟨u₁, u₂, hstart, hend⟩ := ForwardStringSearcher.isLongestMatchAt_iff_splits.1 hmatch
    rw [ht.eq_right hstart, List.foldl_cons, ih hend]
    simp [replaceStep, replaceChar]
  | @mismatched l start stop hlt hnone _ ih =>
    have hstop := stop.splits
    obtain ⟨part, -, hleft, hright⟩ := (ht.lt_iff_exists_eq_append hstop).1 hlt
    rw [hleft] at hstop
    rw [hright] at ht
    have hpart : (s.slice! start stop).copy = part := by
      obtain ⟨hle, hcopy⟩ := String.Slice.copy_slice_eq_iff_splits.2 ⟨t₁, _, ht, hstop⟩
      rw [← String.Slice.slice_eq_slice!, hcopy]
      exact hle
    have hnot := not_mem_of_not_matchesAt ht hstop hnone
    rw [List.foldl_cons, ih hstop, hright, String.toList_append, List.flatMap_append,
      flatMap_replaceChar_of_not_mem hnot]
    simp [replaceStep, hpart, String.appendSlice_eq]

end

/-- Every occurrence of the character is replaced, and nothing else is. Reference: Go
`strings.ReplaceAll`. -/
theorem toList_replace (s : String) (c : Char) (new : String) :
    (s.replace (String.singleton c) new).toList = s.toList.flatMap (replaceChar c new) := by
  have hne : String.singleton c ≠ "" := by simp
  have hsearch := (ForwardStringSearcher.lawfulToForwardSearcherModel hne).isValidSearchFrom_toList
    s.toSlice
  have hfold : (List.foldl (replaceStep s.toSlice new) "" _).toList = _ :=
    toList_foldl_replaceStep hsearch (String.Slice.splits_startPos s.toSlice)
  rw [String.copy_toSlice, String.toList_empty, List.nil_append] at hfold
  unfold String.replace String.Slice.replace
  rw [← Std.Iter.foldl_toList]
  refine Eq.trans (congrArg (fun f => (List.foldl f "" _).toList) ?_) hfold
  funext sofar step
  cases step with
  | matched => rfl
  | rejected => rfl

end Go
