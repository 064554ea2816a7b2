import Mathlib.Algebra.Order.Floor.Semiring
import Mathlib.Data.List.Sort
import Mathlib.Order.Bounds.Basic

/-!
# Nearest ranks

In a sorted list the element at an index is the least one that more than
`index` elements do not exceed.
-/

namespace NearestRank

variable {α : Type} [LinearOrder α] {items : List α} {rank : Nat}

/-- The elements that at least `rank` elements do not exceed. -/
def reaching (items : List α) (rank : Nat) : Set α :=
  {item | item ∈ items ∧ rank ≤ items.countP fun other => decide (other ≤ item)}

theorem reaching_perm {items' : List α} (permuted : items.Perm items') :
    reaching items rank = reaching items' rank := by
  ext item
  simp only [reaching, Set.mem_ofPred_eq, permuted.mem_iff,
    permuted.countP_eq]

private theorem lt_countP_le (sorted : items.Pairwise (· ≤ ·)) {index : Nat}
    (inside : index < items.length) :
    index < items.countP fun other => decide (other ≤ items[index]) := by
  have front : (items.take (index + 1)).countP
      (fun other => decide (other ≤ items[index])) = index + 1 := by
    rw [List.countP_eq_length.mpr, List.length_take]
    · omega
    · intro other member
      obtain ⟨place, below, rfl⟩ := List.mem_take_iff_getElem.mp member
      have bounded : place ≤ index := by omega
      rcases Nat.lt_or_eq_of_le bounded with before | rfl
      · simpa using List.pairwise_iff_getElem.mp sorted place index
          (by omega) inside before
      · simp
  have part := (List.take_sublist (index + 1) items).countP_le
    (p := fun other => decide (other ≤ items[index]))
  omega

private theorem countP_le_of_lt (sorted : items.Pairwise (· ≤ ·)) {index : Nat}
    (inside : index < items.length) {item : α} (smaller : item < items[index]) :
    (items.countP fun other => decide (other ≤ item)) ≤ index := by
  have back : (items.drop index).countP
      (fun other => decide (other ≤ item)) = 0 := by
    rw [List.countP_eq_zero]
    intro other member
    obtain ⟨place, below, rfl⟩ := List.mem_drop_iff_getElem.mp member
    have larger : items[index] ≤ items[index + place] := by
      rcases Nat.eq_zero_or_pos place with rfl | after
      · exact le_refl _
      · exact List.pairwise_iff_getElem.mp sorted index (index + place)
          inside (by omega) (by omega)
    simpa using lt_of_lt_of_le smaller larger
  have front : (items.take index).countP
      (fun other => decide (other ≤ item)) ≤ index := by
    refine Nat.le_trans List.countP_le_length ?_
    rw [List.length_take]
    omega
  rw [← List.take_append_drop index items, List.countP_append, back]
  exact front

/-- The element at an index is the least one with its rank. -/
theorem isLeast_getElem (sorted : items.Pairwise (· ≤ ·)) {index : Nat}
    (inside : index < items.length) :
    IsLeast (reaching items (index + 1)) items[index] := by
  constructor
  · exact ⟨List.getElem_mem inside, lt_countP_le sorted inside⟩
  · rintro item ⟨-, enough⟩
    by_contra smaller
    have counted := countP_le_of_lt sorted inside (not_le.mp smaller)
    omega

end NearestRank
