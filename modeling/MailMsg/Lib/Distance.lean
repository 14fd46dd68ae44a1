/-
Module: MailMsg.Lib.Distance
Purpose: How few bits can be turned over without a cyclic redundancy check noticing: a computed
  criterion that no pattern of at most four bits is a multiple of the generator.
Source: none (general theory)
Trusted boundary: none
Main exports: Crc.powers, Crc.residue, Crc.Separated, Crc.Separated.not_dvd, Crc.separatedCheck,
  Crc.separated_of_check
-/
import MailMsg.Lib.Crc
import Mathlib.Data.List.Iterate

namespace Crc

open Polynomial

/-! ### The powers of a bit string -/

/-- The powers whose coefficient is set, the highest first. -/
def powers : List Bool → List Nat
  | [] => []
  | bit :: bits => if bit then bits.length :: powers bits else powers bits

/-- One power for each set bit. -/
theorem powers_length (bits : List Bool) : (powers bits).length = bits.count true := by
  induction bits with
  | nil => rfl
  | cons bit bits inductionHypothesis =>
      cases bit with
      | false => simpa [powers] using inductionHypothesis
      | true => simpa [powers] using inductionHypothesis

/-- The powers lie below the length. -/
theorem powers_lt {bits : List Bool} {power : Nat} (member : power ∈ powers bits) :
    power < bits.length := by
  induction bits with
  | nil => cases member
  | cons bit bits inductionHypothesis =>
      cases bit with
      | false => exact Nat.lt_succ_of_lt (inductionHypothesis member)
      | true =>
          rcases List.mem_cons.mp member with rfl | later
          · exact Nat.lt_succ_self _
          · exact Nat.lt_succ_of_lt (inductionHypothesis later)

/-- The highest comes first. -/
theorem powers_decreasing (bits : List Bool) : (powers bits).Pairwise (· > ·) := by
  induction bits with
  | nil => exact List.Pairwise.nil
  | cons bit bits inductionHypothesis =>
      cases bit with
      | false => exact inductionHypothesis
      | true => exact List.pairwise_cons.mpr ⟨fun _ => powers_lt, inductionHypothesis⟩

/-- The polynomial with these powers. -/
noncomputable def sumPowers (places : List Nat) : (ZMod 2)[X] :=
    (places.map fun power => X ^ power).sum

/-- A bit string is the sum of its powers. -/
theorem bitsPoly_eq_sumPowers (bits : List Bool) : bitsPoly bits = sumPowers (powers bits) := by
  induction bits with
  | nil => rfl
  | cons bit bits inductionHypothesis =>
      cases bit with
      | false => simpa [bitsPoly, powers] using inductionHypothesis
      | true => simpa [bitsPoly, powers, sumPowers] using inductionHypothesis

/-- The lowest power can be taken out. -/
theorem sumPowers_shift {places : List Nat} {low : Nat} (above : ∀ power ∈ places, low ≤ power) :
    sumPowers places = sumPowers (places.map (· - low)) * X ^ low := by
  induction places with
  | nil => simp [sumPowers]
  | cons power places inductionHypothesis =>
      have first : low ≤ power := above power List.mem_cons_self
      have rest := inductionHypothesis fun other member =>
        above other (List.mem_cons_of_mem _ member)
      simp only [sumPowers, List.map_cons, List.sum_cons] at rest ⊢
      rw [rest, add_mul, ← pow_add, Nat.sub_add_cancel first]

/-! ### Residues -/

section Residues

variable {width : Nat} (taps : BitVec width)

/-- The register that holds `x ^ power` modulo the generator. -/
def residue (power : Nat) : BitVec width := (step taps)^[power] (BitVec.twoPow width (width - 1))

/-- The register with its last bit set stands for one. -/
theorem wordPoly_twoPow (positive : 0 < width) :
    wordPoly (BitVec.twoPow width (width - 1)) = 1 := by
  have bits : lsbFirst (BitVec.twoPow width (width - 1)) = List.replicate (width - 1)
      false ++ [true] := by
    apply List.ext_getElem?
    intro index
    rw [getElem?_lsbFirst, List.getElem?_append, List.getElem?_replicate, List.length_replicate,
      BitVec.getLsbD_twoPow]
    rcases Nat.lt_trichotomy index (width - 1) with low | last | high
    · simp [low, low.ne', show index < width by omega]
    · subst last
      simp [positive]
    · simp [show ¬ index < width by omega, show ¬ index < width - 1 by omega,
        show index - (width - 1) ≠ 0 by omega]
  have clear : bitsPoly (List.replicate (width - 1) false) = 0 :=
    bitsPoly_eq_zero_iff.mpr fun bit member => (List.mem_replicate.mp member).2
  rw [wordPoly, bits, bitsPoly_append, clear]
  simp [bitsPoly]

/-- The residue is congruent to its power. -/
theorem mk_residue (positive : 0 < width) (power : Nat) :
    AdjoinRoot.mk (generator taps) (wordPoly (residue taps power)) = AdjoinRoot.mk (generator taps)
      (X ^ power) := by
  rw [residue, mk_iterate_step taps positive, wordPoly_twoPow positive, mul_one]

/-- The sum of the residues of these powers. -/
def syndrome : List Nat → BitVec width
  | [] => 0
  | power :: places => residue taps power ^^^ syndrome places

@[simp] theorem syndrome_single (power : Nat) : syndrome taps [power] = residue taps power := by
  simp [syndrome]

@[simp] theorem syndrome_pair (first second : Nat) :
    syndrome taps [first, second] = residue taps first ^^^ residue taps second := by
  simp [syndrome]

/-- The syndrome is congruent to the sum of its powers. -/
theorem mk_syndrome (positive : 0 < width) (places : List Nat) :
    AdjoinRoot.mk (generator taps) (wordPoly (syndrome taps places)) =
      AdjoinRoot.mk (generator taps) (sumPowers places) := by
  induction places with
  | nil => exact congrArg _ wordPoly_zero
  | cons power places inductionHypothesis =>
      rw [syndrome, wordPoly_xor, map_add, mk_residue taps positive, inductionHypothesis, ← map_add]
      rfl

/-- Two parts of a multiple of the generator have the same syndrome. -/
theorem syndrome_eq (positive : 0 < width) {left right : List Nat}
    (divides : generator taps ∣ sumPowers (left ++ right)) :
    syndrome taps left = syndrome taps right := by
  refine @eq_of_mk_eq _ taps _ _ ?_
  rw [mk_syndrome taps positive, mk_syndrome taps positive, AdjoinRoot.mk_eq_mk, CharTwo.sub_eq_add]
  simpa [sumPowers] using divides

/-- No sum of two residues below `count` is `1`, or a residue plus `1`. -/
def Separated (count : Nat) : Prop :=
  ∀ first second, 0 < first → first < second → second < count →
    syndrome taps [second, first] ≠ syndrome taps [0] ∧
      ∀ third, 0 < third → third < count → syndrome taps [second, first] ≠ syndrome taps [third, 0]

variable {taps}

/-- The powers of a multiple of the generator, the lowest of which is `0`. -/
theorem Separated.not_dvd_based (positive : 0 < width) {count : Nat}
    (separated : Separated taps count)
    (room : 3 ≤ count) {upper : List Nat} (few : upper.length ≤ 3)
    (below : ∀ power ∈ upper, power < count)
    (above : ∀ power ∈ upper, 0 < power) (decreasing : upper.Pairwise (· > ·)) :
    ¬ generator taps ∣ sumPowers (upper ++ [0]) := by
  intro divides
  match upper with
  | [] =>
      -- the generator would divide `1`, and so every sum
      have unit : generator taps ∣ sumPowers ([2, 1] ++ [0]) :=
        divides.trans (by simp [sumPowers])
      exact (separated 1 2 (by decide) (by decide) room).1 (syndrome_eq taps positive unit)
  | [power] =>
      have twice (other : Nat) : generator taps ∣ sumPowers ([power, other] ++ [other, 0]) := by
        have cancels := add_self (X ^ other : (ZMod 2)[X])
        have same : sumPowers ([power, other] ++ [other, 0]) = sumPowers ([power] ++ [0]) := by
          simp only [sumPowers, List.cons_append, List.nil_append, List.map_cons, List.map_nil,
            List.sum_cons, List.sum_nil]
          linear_combination cancels
        rw [same]
        exact divides
      rcases Nat.lt_or_eq_of_le (above power List.mem_cons_self) with higher | rfl
      · exact (separated 1 power Nat.one_pos higher (below power List.mem_cons_self)).2 1
          Nat.one_pos (by omega)
          (syndrome_eq taps positive (twice 1))
      · have swapped : syndrome taps [2, 1] = syndrome taps [1, 2] := by
          simp [BitVec.xor_comm]
        exact (separated 1 2 Nat.one_pos Nat.one_lt_two room).2 2 Nat.two_pos room
          (swapped.trans (syndrome_eq taps positive (twice 2)))
  | [second, first] =>
      have apart : first < second := by simpa using decreasing
      exact (separated first second (above first (by simp)) apart (below second (by simp))).1
        (syndrome_eq taps positive divides)
  | [third, second, first] =>
      have ordered : second < third ∧ first < second := by
        have pairs := decreasing
        simp only [List.pairwise_cons, List.mem_cons] at pairs
        exact ⟨pairs.1 second (Or.inl rfl), pairs.2.1 first (Or.inl rfl)⟩
      exact (separated second third (above second (by simp)) ordered.1 (below third (by simp))).2 first
        (above first (by simp)) (below first (by simp)) (syndrome_eq taps positive divides)

/-- A generator with a constant term and separated residues divides no string with one to four set
bits. -/
theorem Separated.not_dvd (positive : 0 < width)
    (constant : (generator taps).coeff 0 ≠ 0) {count : Nat}
    (separated : Separated taps count) (room : 3 ≤ count) {bits : List Bool}
    (short : bits.length ≤ count)
    (some_ : true ∈ bits) (few : bits.count true ≤ 4) : ¬ generator taps ∣ bitsPoly bits := by
  have nonempty : powers bits ≠ [] := by
    intro none
    have length := powers_length bits
    rw [none] at length
    exact absurd (List.count_pos_iff.mpr some_) (by simp [← length])
  obtain ⟨upper, low, split⟩ : ∃ upper low, powers bits = upper ++ [low] :=
    ⟨_, _, (List.dropLast_append_getLast nonempty).symm⟩
  have decreasing := powers_decreasing bits
  have inside : ∀ power ∈ powers bits, power < count :=
    fun power member => (powers_lt member).trans_le short
  have size := powers_length bits
  rw [split] at decreasing inside size
  obtain ⟨upperDecreasing, -, above⟩ := List.pairwise_append.mp decreasing
  have lowest : ∀ power ∈ upper, low < power :=
    fun power member => above power member low List.mem_cons_self
  have least : ∀ power ∈ upper ++ [low], low ≤ power := by
    intro power member
    rcases List.mem_append.mp member with high | last
    · exact (lowest power high).le
    · exact (List.mem_singleton.mp last).ge
  intro divides
  rw [bitsPoly_eq_sumPowers, split, sumPowers_shift least] at divides
  have based := dvd_of_dvd_shift constant divides
  rw [List.map_append, List.map_singleton, Nat.sub_self] at based
  refine separated.not_dvd_based positive room ?_ ?_ ?_ ?_ based
  · rw [List.length_append, List.length_singleton] at size
    rw [List.length_map]
    omega
  · intro power member
    obtain ⟨before, listed, rfl⟩ := List.mem_map.mp member
    exact (Nat.sub_le _ _).trans_lt (inside before (List.mem_append_left _ listed))
  · intro power member
    obtain ⟨before, listed, rfl⟩ := List.mem_map.mp member
    exact Nat.sub_pos_of_lt (lowest before listed)
  · rw [List.pairwise_map]
    refine upperDecreasing.imp_of_mem ?_
    intro first second left right higher
    exact Nat.sub_lt_sub_right (lowest second right).le higher

end Residues

/-! ### Deciding separation

The criterion is a statement about many thousand registers.  Sieves over remainders make it a
computation on numbers that a kernel can carry out.
-/

/-- `step` on the numbers of the registers. -/
def stepNat (taps register : Nat) : Nat := (register / 2) ^^^ (taps * (register % 2))

/-- A set of numbers seen through their remainders: bit `r` is set where a member leaves `r`. -/
def sieve (modulus : Nat) : List Nat → Nat
  | [] => 0
  | value :: values => 1 <<< (value % modulus) ||| sieve modulus values

/-- The remainder of the number is in the sieve.  Written with the operations on numbers that a
kernel has. -/
def sifts (modulus table value : Nat) : Bool :=
  Nat.beq (Nat.mod (Nat.shiftRight table (Nat.mod value modulus)) 2) 1

/-- The sieve tests one bit of its table. -/
theorem sifts_eq_testBit (modulus table value : Nat) :
    sifts modulus table value = table.testBit (value % modulus) := by
  have bit : sifts modulus table value = true ↔ table >>> (value % modulus) % 2 = 1 :=
    iff_of_eq Nat.beq_eq
  rw [Bool.eq_iff_iff, bit, Nat.testBit_eq_decide_div_mod_eq, decide_eq_true_eq,
    Nat.shiftRight_eq_div_pow]

/-- A member passes the sieve. -/
theorem sifts_of_mem {modulus value : Nat} {values : List Nat} (member : value ∈ values) :
    sifts modulus (sieve modulus values) value = true := by
  rw [sifts_eq_testBit]
  induction values with
  | nil => cases member
  | cons first values inductionHypothesis =>
      rw [sieve, Nat.testBit_or, Bool.or_eq_true]
      rcases List.mem_cons.mp member with rfl | later
      · exact Or.inl (by simp)
      · exact Or.inr (inductionHypothesis later)

/-- One of two sieves holds the number back. -/
def missed (modulus other table otherTable value : Nat) : Bool :=
  match sifts modulus table value with
  | false => true
  | true => !sifts other otherTable value

/-- What one sieve holds back is no member. -/
theorem not_mem_of_missed {modulus other value : Nat} {values : List Nat}
    (miss : missed modulus other (sieve modulus values) (sieve other values) value = true) :
    value ∉ values := by
  intro member
  rw [missed, sifts_of_mem member, sifts_of_mem member] at miss
  cases miss

/-- The sum of every two registers of the list passes the test. -/
def pairsPass (test : Nat → Bool) : List Nat → Bool
  | [] => true
  | register :: registers =>
      registers.all (fun later => test (Nat.xor register later)) && pairsPass test registers

/-- The test over a list is the test over its pairs. -/
theorem pairsPass_iff {test : Nat → Bool} {registers : List Nat} :
    pairsPass test registers = true ↔ registers.Pairwise fun left right =>
      test (left ^^^ right) = true := by
  induction registers with
  | nil => simp [pairsPass]
  | cons register registers inductionHypothesis =>
      rw [pairsPass, Bool.and_eq_true, inductionHypothesis, List.all_eq_true, List.pairwise_cons]
      rfl

/-- Sums of two of the first `count` residues, sifted for `1` and the residues plus `1`. -/
def separatedCheck (taps one modulus other count : Nat) : Bool :=
  match List.iterate (stepNat taps) one count with
  | [] => true
  | first :: rest =>
      pairsPass
        (missed modulus other (sieve modulus (first :: rest.map (first ^^^ ·)))
          (sieve other (first :: rest.map (first ^^^ ·))))
        rest

section Check

variable {width : Nat} {taps : BitVec width}

/-- The step on numbers is the step on registers. -/
theorem step_toNat (register : BitVec width) :
    (step taps register).toNat = stepNat taps.toNat register.toNat := by
  have low : register.getLsbD 0 = decide (register.toNat % 2 = 1) := by
    rw [BitVec.getLsbD, Nat.testBit_zero]
  rw [step, BitVec.toNat_xor, BitVec.toNat_ushiftRight, stepNat, low]
  rcases Nat.mod_two_eq_zero_or_one register.toNat with even | odd
  · simp [even, Nat.shiftRight_one]
  · simp [odd, Nat.shiftRight_one]

/-- The residues as numbers. -/
theorem residue_toNat (positive : 0 < width) (power : Nat) :
    (residue taps power).toNat = (stepNat taps.toNat)^[power] (2 ^ (width - 1)) := by
  induction power with
  | zero => simp [residue, BitVec.toNat_twoPow, Nat.mod_eq_of_lt, Nat.pow_lt_pow_right, positive]
  | succ power inductionHypothesis =>
      rw [Function.iterate_succ_apply', ← inductionHypothesis, ← step_toNat, residue, residue,
        Function.iterate_succ_apply']

/-- Registers whose sums pass the check are separated. -/
theorem separated_of_check (positive : 0 < width) {modulus other count : Nat}
    (checked : separatedCheck taps.toNat (2 ^ (width - 1)) modulus other count = true) :
    Separated taps count := by
  cases count with
  | zero =>
      intro first second _ _ below
      cases below
  | succ count =>
      have place (power : Nat) (below : power < count) :
          (List.iterate (stepNat taps.toNat) (stepNat taps.toNat (2 ^ (width - 1))) count)[power]? =
            some (residue taps (power + 1)).toNat := by
        rw [List.getElem?_iterate _ _ _ _ below, residue_toNat positive,
          Function.iterate_succ_apply]
      generalize registers : List.iterate (stepNat taps.toNat)
        (stepNat taps.toNat (2 ^ (width - 1))) count = rest
        at place
      have one : 2 ^ (width - 1) = (residue taps 0).toNat := (residue_toNat positive 0).symm
      rw [separatedCheck, List.iterate, registers, one] at checked
      have pairs := List.pairwise_iff_getElem.mp (pairsPass_iff.mp checked)
      intro first second positiveFirst apart below
      obtain ⟨first, rfl⟩ := Nat.exists_eq_succ_of_ne_zero positiveFirst.ne'
      obtain ⟨second, rfl⟩ := Nat.exists_eq_succ_of_ne_zero (Nat.zero_lt_of_lt apart).ne'
      obtain ⟨firstBelow, firstAt⟩ := List.getElem?_eq_some_iff.mp (place first (by omega))
      obtain ⟨secondBelow, secondAt⟩ := List.getElem?_eq_some_iff.mp (place second (by omega))
      have outside := not_mem_of_missed
        (pairs first second firstBelow secondBelow (Nat.lt_of_succ_lt_succ apart))
      rw [firstAt, secondAt, ← BitVec.toNat_xor, BitVec.xor_comm, List.mem_cons, not_or] at outside
      constructor
      · intro same
        rw [syndrome_pair, syndrome_single] at same
        exact outside.1 (congrArg BitVec.toNat same)
      · intro third positiveThird thirdBelow same
        rw [syndrome_pair, syndrome_pair] at same
        obtain ⟨third, rfl⟩ := Nat.exists_eq_succ_of_ne_zero positiveThird.ne'
        refine outside.2 (List.mem_map.mpr ⟨_, List.mem_of_getElem? (place third (by omega)), ?_⟩)
        rw [← BitVec.toNat_xor, BitVec.xor_comm, ← Nat.succ_eq_add_one third, ← same]

end Check

end Crc
