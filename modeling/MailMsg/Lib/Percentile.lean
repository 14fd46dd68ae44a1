/-
Module: MailMsg.Lib.Percentile
Purpose: Percentiles of a sample by the nearest rank, and where they stand once the sample is
  sorted.
Source: none (general theory)
Trusted boundary: none
Main exports: IsPercentile, IsPercentile.perm, IsPercentile.of_sorted, isLeast_of_sorted,
  isGreatest_of_sorted
-/
import Mathlib.Data.List.Sort
import Mathlib.Order.Bounds.Basic

section Percentile

variable {α : Type*} [LinearOrder α] {sample sorted : List α}

/-- The least value of the sample that at least `percent` of a hundred of its values do not
exceed. -/
def IsPercentile (sample : List α) (percent : Nat) (value : α) : Prop :=
  IsLeast {value | value ∈ sample ∧ percent * sample.length ≤ 100 * sample.countP (· ≤ value)} value

/-- The order of the sample does not matter. -/
theorem IsPercentile.perm {percent : Nat} {value : α} (rearranged : sorted.Perm sample)
    (found : IsPercentile sorted percent value) : IsPercentile sample percent value := by
  unfold IsPercentile at found ⊢
  simpa only [rearranged.mem_iff, rearranged.length_eq, rearranged.countP_eq] using found

section Sorted

variable (ascending : sorted.SortedLE) {index : Nat} (inside : index < sorted.length)

include ascending

/-- The values up to a place do not exceed the one that stands there. -/
theorem succ_le_countP_of_sorted : index + 1 ≤ sorted.countP (· ≤ sorted[index]) := by
  have front : (sorted.take (index + 1)).countP (· ≤ sorted[index]) =
      (sorted.take (index + 1)).length := by
    rw [List.countP_eq_length]
    intro value member
    obtain ⟨place, placed, rfl⟩ := List.mem_take_iff_getElem.mp member
    have before : place ≤ index := by omega
    simpa using ascending.getElem_le_getElem_of_le before
  have whole : (sorted.take (index + 1)).countP (· ≤ sorted[index]) ≤
      sorted.countP (· ≤ sorted[index]) :=
    (List.take_sublist _ _).countP_le
  rw [front, List.length_take] at whole
  omega

/-- What does not exceed a smaller value stands before the place. -/
theorem countP_le_of_sorted {value : α} (below : value < sorted[index]) :
    sorted.countP (· ≤ value) ≤ index := by
  have back : (sorted.drop index).countP (· ≤ value) = 0 := by
    rw [List.countP_eq_zero]
    intro other member
    obtain ⟨place, placed, rfl⟩ := List.mem_drop_iff_getElem.mp member
    have above : sorted[index] ≤ sorted[index + place] :=
      ascending.getElem_le_getElem_of_le (Nat.le_add_right index place)
    simpa using below.trans_le above
  calc sorted.countP (· ≤ value)
      = (sorted.take index ++ sorted.drop index).countP (· ≤ value) := by rw [List.take_append_drop]
    _ = (sorted.take index).countP (· ≤ value) := by rw [List.countP_append, back, Nat.add_zero]
    _ ≤ (sorted.take index).length := List.countP_le_length
    _ ≤ index := List.length_take_le index sorted

/-- The percentile stands at the nearest rank. -/
theorem IsPercentile.of_sorted {percent : Nat}
    (rank : index + 1 = (sorted.length * percent + 99) / 100) :
    IsPercentile sorted percent sorted[index] := by
  refine ⟨⟨List.getElem_mem inside, ?_⟩, ?_⟩
  · have covered := succ_le_countP_of_sorted ascending inside
    rw [Nat.mul_comm percent]
    omega
  · rintro value ⟨-, covered⟩
    by_contra smaller
    have few := countP_le_of_sorted ascending inside (not_le.mp smaller)
    rw [Nat.mul_comm percent] at covered
    omega

/-- The least value comes first. -/
theorem isLeast_of_sorted (nonempty : 0 < sorted.length) :
    IsLeast {value | value ∈ sorted} sorted[0] := by
  refine ⟨List.getElem_mem nonempty, ?_⟩
  intro value member
  obtain ⟨place, placed, rfl⟩ := List.mem_iff_getElem.mp member
  exact ascending.getElem_le_getElem_of_le (Nat.zero_le place)

/-- The greatest value comes last. -/
theorem isGreatest_of_sorted (last : sorted.length = index + 1) :
    IsGreatest {value | value ∈ sorted} sorted[index] := by
  refine ⟨List.getElem_mem inside, ?_⟩
  intro value member
  obtain ⟨place, placed, rfl⟩ := List.mem_iff_getElem.mp member
  exact ascending.getElem_le_getElem_of_le (by omega)

end Sorted

end Percentile
