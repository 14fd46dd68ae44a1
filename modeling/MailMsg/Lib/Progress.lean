/-
Module: MailMsg.Lib.Progress
Purpose: Ranking functions of labelled machines.  A kind of step that lowers a rank which no other
  step raises happens boundedly often in every run, and a machine that takes only such steps comes
  to rest.
Trusted boundary: none
Main exports: sum_add_le_of_drop, Ranking, Ranking.count_le, Ranking.comes_to_rest
-/
import MailMsg.Lib.Transition
import Mathlib.Algebra.BigOperators.Fin
import Mathlib.Algebra.Order.BigOperators.Group.Finset

/-- A sum over finitely many parts of which one drops by `amount` and none grows. -/
theorem sum_add_le_of_drop {Part : Type*} [Fintype Part] [DecidableEq Part]
    {before after : Part → Nat}
    (part : Part) {amount : Nat} (drops : after part + amount ≤ before part)
    (others : ∀ other, other ≠ part → after other ≤ before other) :
    Finset.univ.sum after + amount ≤ Finset.univ.sum before := by
  rw [← Finset.add_sum_erase Finset.univ after (Finset.mem_univ part),
    ← Finset.add_sum_erase Finset.univ before (Finset.mem_univ part)]
  have rest : ∑ other ∈ Finset.univ.erase part, after other ≤ ∑ other ∈ Finset.univ.erase part,
      before other := by
    apply Finset.sum_le_sum
    intro other member
    exact others other (Finset.ne_of_mem_erase member)
  omega

namespace Machine

variable {State Label : Type*}

/-- A rank that the steps of one kind lower and that no step raises, under an invariant. -/
structure Ranking (machine : Machine State Label) (counted : Label → Bool) where
  Inv : State → Prop
  rank : State → Nat
  preserved : ∀ {state label next}, Inv state → machine.step state label = some next → Inv next
  lowered : ∀ {state label next}, Inv state → machine.step state label = some next →
    counted label = true →
    rank next < rank state
  kept : ∀ {state label next}, Inv state → machine.step state label = some next →
    rank next ≤ rank state

namespace Ranking

variable {machine : Machine State Label} {counted : Label → Bool}
  (ranking : Ranking machine counted)

/-- The counted steps of a run are paid for by the rank. -/
theorem count_le {labels : List Label} {state last : State} (initial : ranking.Inv state)
    (executed : machine.run state labels = some last) :
    ranking.rank last + labels.countP counted ≤ ranking.rank state := by
  induction labels generalizing state with
  | nil =>
      obtain rfl : state = last := by simpa [run] using executed
      simp
  | cons label labels inductionHypothesis =>
      simp only [run] at executed
      split at executed
      · cases executed
      · rename_i next taken
        have later := inductionHypothesis (ranking.preserved initial taken) executed
        rw [List.countP_cons]
        split
        · rename_i isCounted
          have paid := ranking.lowered initial taken isCounted
          omega
        · have same := ranking.kept initial taken
          omega

/-- From every state a run of counted steps leads to one in which no counted step is enabled. -/
theorem comes_to_rest {state : State} (initial : ranking.Inv state) :
    ∃ labels last, (∀ label ∈ labels, counted label = true) ∧ machine.run state labels = some last ∧
      ∀ label, counted label = true → machine.step last label = none := by
  induction size : ranking.rank state using Nat.strongRecOn generalizing state with
  | ind size inductionHypothesis =>
      by_cases resting : ∀ label, counted label = true → machine.step state label = none
      · exact ⟨[], state, by simp, rfl, resting⟩
      · obtain ⟨label, moving⟩ := not_forall.mp resting
        obtain ⟨isCounted, enabled⟩ := Classical.not_imp.mp moving
        obtain ⟨next, taken⟩ := Option.ne_none_iff_exists'.mp enabled
        have lower := ranking.lowered initial taken isCounted
        rw [size] at lower
        obtain ⟨labels, last, onlyCounted, executed, rest⟩ :=
          inductionHypothesis _ lower (ranking.preserved initial taken) rfl
        refine ⟨label :: labels, last, ?_, ?_, rest⟩
        · intro other member
          rcases List.mem_cons.mp member with same | later
          · rw [same]
            exact isCounted
          · exact onlyCounted other later
        · rw [run, taken]
          exact executed

end Ranking

end Machine
