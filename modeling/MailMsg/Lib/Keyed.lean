/-
Module: MailMsg.Lib.Keyed
Purpose: Lists of records with pairwise different keys: taking one record out, and replacing one in
  place.
Trusted boundary: none
Main exports: Keyed.perm_cons_filter, Keyed.map_replace_perm
-/
import Mathlib.Data.List.Nodup
import Mathlib.Data.List.Perm.Basic

namespace Keyed

variable {α β : Type*} [DecidableEq β] {key : α → β}

/-- A list with distinct keys is any of its members together with the members of other keys. -/
theorem perm_cons_filter {items : List α} (distinct : (items.map key).Nodup) {item : α}
    (member : item ∈ items) :
    items.Perm (item :: items.filter fun other => key other ≠ key item) := by
  induction items with
  | nil => cases member
  | cons head tail inductionHypothesis =>
      rw [List.map_cons, List.nodup_cons] at distinct
      obtain ⟨headFresh, tailDistinct⟩ := distinct
      rcases List.mem_cons.mp member with rfl | inTail
      · have others : tail.filter (fun other => key other ≠ key item) = tail := by
          rw [List.filter_eq_self]
          intro other inTail
          have different : key other ≠ key item := by
            intro same
            exact headFresh (same ▸ List.mem_map_of_mem inTail)
          simpa using different
        have dropped : (item :: tail).filter (fun other => key other ≠ key item) = tail := by
          rw [List.filter_cons_of_neg (by simp), others]
        rw [dropped]
      · have different : key head ≠ key item := by
          intro same
          exact headFresh (same ▸ List.mem_map_of_mem inTail)
        rw [List.filter_cons_of_pos (by simpa using different)]
        exact ((inductionHypothesis tailDistinct inTail).cons head).trans (.swap _ _ _)

/-- Replacing the record of one key in place. -/
theorem map_replace_perm {items : List α} (distinct : (items.map key).Nodup) {item : α}
    (member : item ∈ items) (replace : α → α) :
    (items.map fun other => if key other = key item then replace other else other).Perm
      (replace item :: items.filter fun other => key other ≠ key item) := by
  refine ((perm_cons_filter distinct member).map _).trans ?_
  rw [List.map_cons, if_pos rfl]
  refine (List.Perm.of_eq ?_).cons _
  conv_rhs => rw [← List.map_id (items.filter fun other => key other ≠ key item)]
  refine List.map_congr_left ?_
  intro other kept
  have different : key other ≠ key item := by simpa using (List.mem_filter.mp kept).2
  rw [if_neg different]
  rfl

end Keyed
