import AlbyHub.Db.Listing
import AlbyHub.Go.Replace
import Mathlib.Data.List.Infix

/-!
# The pattern of a search

`escapeLikePattern` puts an escape character before each character that `LIKE` does not take for
itself, so the pattern of a search matches the texts that contain the term (`search_literal`). The
three replacements do not touch what an earlier one has put in, since the escape character is
escaped first.
-/

namespace AlbyHub

open Go

/-- A character of a pattern that stands for itself. Reference:
`transactions/transactions_service.go:78 escapeLikePattern`. -/
def escapeLikeChar (c : Char) : List Char :=
  if c = '\\' ∨ c = '%' ∨ c = '_' then ['\\', c] else [c]

/-- The replacements escape each character by itself. Reference:
`transactions/transactions_service.go:78 escapeLikePattern`. -/
theorem toList_escapeLikePattern (s : String) :
    (escapeLikePattern s).toList = s.toList.flatMap escapeLikeChar := by
  have hback (t : String) :
      (t.replace "\\" "\\\\").toList = t.toList.flatMap (replaceChar '\\' "\\\\") :=
    toList_replace t '\\' "\\\\"
  have hpercent (t : String) :
      (t.replace "%" "\\%").toList = t.toList.flatMap (replaceChar '%' "\\%") :=
    toList_replace t '%' "\\%"
  have hunderscore (t : String) :
      (t.replace "_" "\\_").toList = t.toList.flatMap (replaceChar '_' "\\_") :=
    toList_replace t '_' "\\_"
  rw [escapeLikePattern, hunderscore, hpercent, hback, List.flatMap_assoc, List.flatMap_assoc]
  refine List.flatMap_congr fun c _ => ?_
  by_cases hc : c = '\\'
  · subst hc
    rfl
  by_cases hc' : c = '%'
  · subst hc'
    rfl
  by_cases hc'' : c = '_'
  · subst hc''
    rfl
  simp [replaceChar, escapeLikeChar, hc, hc', hc'']

section
variable {p s cs : List Char} {c : Char}

/-- A text matches from one of its ends on. Reference: SQL `LIKE`. -/
theorem like_percent : like ('%' :: p) s = true ↔ ∃ u, u <:+ s ∧ like p u = true := by
  rw [like, List.any_eq_true]
  simp only [List.mem_tails]

theorem like_escape :
    like ('\\' :: c :: p) s = true ↔ ∃ u, s = c :: u ∧ like p u = true := by
  cases s with
  | nil => simp [like]
  | cons d s => simp [like, @eq_comm _ c d]

theorem like_cons (hback : c ≠ '\\') (hpercent : c ≠ '%') (hunderscore : c ≠ '_') :
    like (c :: p) s = true ↔ ∃ u, s = c :: u ∧ like p u = true := by
  cases s with
  | nil => simp [like.eq_7 c p hpercent hunderscore fun _ _ h => absurd h hback]
  | cons d s =>
    simp [like.eq_8 c p d s hpercent hunderscore fun _ _ h => absurd h hback,
      @eq_comm _ c d]

/-- The escaped form of a character stands for it. Reference: SQL `LIKE`. -/
theorem like_escapeLikeChar :
    like (escapeLikeChar c ++ p) s = true ↔ ∃ u, s = c :: u ∧ like p u = true := by
  rw [escapeLikeChar]
  split
  next => exact like_escape
  next hc =>
    obtain ⟨hback, hc⟩ := not_or.1 hc
    obtain ⟨hpercent, hunderscore⟩ := not_or.1 hc
    exact like_cons hback hpercent hunderscore

/-- Escaped characters stand for themselves. Reference: SQL `LIKE`. -/
theorem like_escaped :
    like (cs.flatMap escapeLikeChar ++ p) s = true ↔ ∃ u, s = cs ++ u ∧ like p u = true := by
  induction cs generalizing s with
  | nil => simp
  | cons c cs ih =>
    rw [List.flatMap_cons, List.append_assoc, like_escapeLikeChar]
    simp only [ih]
    constructor
    · rintro ⟨_, rfl, u, rfl, hu⟩
      exact ⟨u, rfl, hu⟩
    · rintro ⟨u, rfl, hu⟩
      exact ⟨_, rfl, u, rfl, hu⟩

end

/-- The pattern of a search matches exactly the texts that contain the term. Reference:
`transactions/transactions_service.go:700 ListTransactions`. -/
theorem search_literal (searchTerm text : String) :
    like ("%" ++ escapeLikePattern searchTerm ++ "%").toList text.toList = true ↔
      searchTerm.toList <:+: text.toList := by
  have hpattern : ("%" ++ escapeLikePattern searchTerm ++ "%").toList =
      '%' :: (searchTerm.toList.flatMap escapeLikeChar ++ ['%']) := by
    rw [String.toList_append, String.toList_append, toList_escapeLikePattern]
    rfl
  have hend : ∀ u, like ['%'] u = true := fun u =>
    like_percent.2 ⟨[], List.nil_suffix, rfl⟩
  rw [hpattern, like_percent]
  simp only [like_escaped, hend, and_true]
  constructor
  · rintro ⟨u, ⟨front, hfront⟩, rest, rfl⟩
    exact ⟨front, rest, by rw [List.append_assoc, hfront]⟩
  · rintro ⟨front, rest, htext⟩
    exact ⟨searchTerm.toList ++ rest, ⟨front, by rw [← List.append_assoc, htext]⟩, rest, rfl⟩

end AlbyHub
