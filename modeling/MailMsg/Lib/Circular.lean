/-
Module: MailMsg.Lib.Circular
Purpose: Index arithmetic of a circular buffer and the FIFO list stored in a window of its cells.
Trusted boundary: none
Main exports: Circular.index_injective, Circular.distance, Circular.window, Circular.window_append,
  Circular.window_cons, Circular.window_congr
-/
import Mathlib.Data.List.Basic
import Mathlib.Data.List.Range
import Mathlib.Data.Nat.ModEq

namespace Circular

/-- Offsets below one revolution name distinct cells. -/
theorem index_injective {capacity start i j : Nat} (iBound : i < capacity) (jBound : j < capacity)
    (same : (start + i) % capacity = (start + j) % capacity) : i = j := by
  have congruent : (start + i) ≡ (start + j) [MOD capacity] := same
  exact Nat.ModEq.eq_of_lt_of_lt (Nat.ModEq.add_left_cancel' start congruent) iBound jBound

/-- Positions less than one revolution apart name distinct cells. -/
theorem position_injective {capacity start i j : Nat} (ordered : i ≤ j) (near : j < i + capacity)
    (same : (start + i) % capacity = (start + j) % capacity) : i = j := by
  obtain ⟨offset, rfl⟩ := Nat.exists_eq_add_of_le ordered
  have shifted : (start + i + 0) % capacity = (start + i + offset) % capacity := by
    simpa [Nat.add_assoc] using same
  have zero := index_injective (i := 0) (j := offset) (by omega) (by omega) shifted
  omega

/-- Number of steps from `tail` forward to `head`. -/
def distance (capacity tail head : Nat) : Nat := (head + capacity - tail) % capacity

theorem distance_lt {capacity tail head : Nat} (positive : 0 < capacity) :
    distance capacity tail head < capacity := Nat.mod_lt _ positive

/-- Walking the distance from `tail` ends at `head`. -/
theorem add_distance {capacity tail head : Nat} (tailBound : tail < capacity)
    (headBound : head < capacity) : (tail + distance capacity tail head) % capacity = head := by
  unfold distance
  rw [Nat.add_mod_mod, show tail + (head + capacity - tail) = head + capacity by omega,
    Nat.add_mod_right, Nat.mod_eq_of_lt headBound]

/-- The distance is the only offset below one revolution that leads from `tail` to `head`. -/
theorem distance_eq_of_add {capacity tail head offset : Nat} (tailBound : tail < capacity)
    (headBound : head < capacity) (offsetBound : offset < capacity)
    (reaches : (tail + offset) % capacity = head) : distance capacity tail head = offset :=
  index_injective (distance_lt (by omega)) offsetBound
    ((add_distance tailBound headBound).trans reaches.symm)

theorem distance_eq_zero_iff {capacity tail head : Nat} (tailBound : tail < capacity)
    (headBound : head < capacity) : distance capacity tail head = 0 ↔ tail = head := by
  constructor
  · intro none
    have reaches := add_distance tailBound headBound
    rw [none, Nat.add_zero, Nat.mod_eq_of_lt tailBound] at reaches
    exact reaches
  · intro same
    exact distance_eq_of_add tailBound headBound (by omega)
      (by rw [Nat.add_zero, Nat.mod_eq_of_lt tailBound, same])

variable {α : Type*}

/-- The `count` cells from `start` on, in FIFO order. -/
def window (cell : Nat → α) (capacity start count : Nat) : List α :=
  (List.range count).map fun offset => cell ((start + offset) % capacity)

@[simp] theorem window_length (cell : Nat → α) (capacity start count : Nat) :
    (window cell capacity start count).length = count := by
  simp [window]

/-- Widening a window by one cell appends that cell. -/
theorem window_append (cell : Nat → α) (capacity start count : Nat) :
    window cell capacity start (count + 1) =
      window cell capacity start count ++ [cell ((start + count) % capacity)] := by
  simp [window, List.range_succ]

/-- A non-empty window is its first cell followed by the window that starts one cell later. -/
theorem window_cons (cell : Nat → α) (capacity start count : Nat) :
    window cell capacity start (count + 1) =
      cell (start % capacity) :: window cell capacity ((start + 1) % capacity) count := by
  simp only [window, List.range_succ_eq_map, List.map_cons, List.map_map, Nat.add_zero]
  congr 1
  apply List.map_congr_left
  intro offset _
  simp only [Function.comp_apply, Nat.mod_add_mod]
  rw [show start + (offset + 1) = start + 1 + offset by omega]

/-- Two memories that agree on the cells of a window hold the same list there. -/
theorem window_congr {cell cell' : Nat → α} {capacity start count : Nat}
    (agree : ∀ offset < count,
      cell ((start + offset) % capacity) = cell' ((start + offset) % capacity)) :
    window cell capacity start count = window cell' capacity start count := by
  apply List.map_congr_left
  intro offset member
  exact agree offset (List.mem_range.mp member)

end Circular
