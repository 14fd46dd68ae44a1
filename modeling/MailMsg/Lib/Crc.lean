/-
Module: MailMsg.Lib.Crc
Purpose: Cyclic redundancy checks in reflected registers, read as remainders of polynomials over
  GF(2).
Source: none (general theory)
Trusted boundary: none
Main exports: Crc.bitsPoly, Crc.lsbFirst, Crc.step, Crc.byteStep, Crc.generator,
  Crc.mk_fold_byteStep, Crc.reflected, Crc.reflected_remainder, Crc.Burst, Crc.Burst.not_dvd
-/
import Mathlib.Algebra.Field.ZMod
import Mathlib.Algebra.Polynomial.FieldDivision
import Mathlib.RingTheory.AdjoinRoot

namespace Crc

open Polynomial

/-! ### Bit strings as polynomials -/

/-- A bit string as a polynomial over GF(2): the bit that comes first has the highest power. -/
noncomputable def bitsPoly : List Bool → (ZMod 2)[X]
  | [] => 0
  | bit :: bits => (if bit then X ^ bits.length else 0) + bitsPoly bits

theorem add_self (poly : (ZMod 2)[X]) : poly + poly = 0 := CharTwo.add_self_eq_zero poly

/-- Appending shifts the front part. -/
theorem bitsPoly_append (left right : List Bool) :
    bitsPoly (left ++ right) = bitsPoly left * X ^ right.length + bitsPoly right := by
  induction left with
  | nil => simp [bitsPoly]
  | cons bit left inductionHypothesis =>
      simp only [List.cons_append, bitsPoly, inductionHypothesis, List.length_append]
      cases bit with
      | false => simp
      | true => simp only [if_true]; ring

/-- Bit strings of one length add by exclusive or. -/
theorem bitsPoly_zipWith_xor {left right : List Bool} (same : left.length = right.length) :
    bitsPoly (List.zipWith xor left right) = bitsPoly left + bitsPoly right := by
  induction left generalizing right with
  | nil =>
      have nothing : right = [] := List.length_eq_zero_iff.mp same.symm
      simp [nothing, bitsPoly]
  | cons bit left inductionHypothesis =>
      cases right with
      | nil => cases same
      | cons other right =>
          have lengths : left.length = right.length := Nat.succ.inj same
          have power := add_self (X ^ right.length)
          simp only [List.zipWith_cons_cons, bitsPoly, inductionHypothesis lengths,
            List.length_zipWith, lengths, min_self]
          cases bit with
          | false =>
              cases other with
              | false => simp
              | true => simp; ring
          | true =>
              cases other with
              | false => simp; ring
              | true =>
                  simp only [Bool.xor_self, Bool.false_eq_true, if_false, if_true]
                  linear_combination -power

/-- A string is a polynomial of degree below its length. -/
theorem degree_bitsPoly_lt (bits : List Bool) : (bitsPoly bits).degree < bits.length := by
  induction bits with
  | nil => simp [bitsPoly]
  | cons bit bits inductionHypothesis =>
      have below : ((bits.length : ℕ) : WithBot ℕ) < ((bit :: bits).length : ℕ) := by
        exact_mod_cast Nat.lt_succ_self _
      refine lt_of_le_of_lt (degree_add_le _ _) (max_lt ?_ (inductionHypothesis.trans below))
      cases bit with
      | false => simp
      | true =>
          rw [if_pos rfl, degree_X_pow]
          exact below

/-- A run of ones. -/
theorem bitsPoly_replicate_true (count : Nat) :
    bitsPoly (List.replicate count true) = ∑ power ∈ Finset.range count, X ^ power := by
  induction count with
  | zero => rfl
  | succ count inductionHypothesis =>
      rw [List.replicate_succ, bitsPoly, inductionHypothesis, Finset.sum_range_succ, if_pos rfl,
        List.length_replicate, add_comm]

/-- The last bit is the constant term. -/
theorem coeff_bitsPoly (bits : List Bool) (power : Nat) :
    (bitsPoly bits).coeff power = if bits.reverse[power]? = some true then 1 else 0 := by
  induction bits with
  | nil => simp [bitsPoly]
  | cons bit bits inductionHypothesis =>
      have below : bits.reverse.length = bits.length := List.length_reverse
      simp only [bitsPoly, coeff_add, inductionHypothesis, List.reverse_cons]
      rcases Nat.lt_trichotomy power bits.length with low | exact_ | high
      · rw [List.getElem?_append_left (by omega)]
        cases bit <;> simp [coeff_X_pow, low.ne]
      · subst exact_
        rw [List.getElem?_append_right (by omega), List.getElem?_eq_none (by omega)]
        cases bit <;> simp [below]
      · rw [List.getElem?_append_right (by omega), List.getElem?_eq_none (by omega),
          List.getElem?_eq_none (by simp; omega)]
        cases bit <;> simp [coeff_X_pow, high.ne']

/-- Only a string of clear bits is the zero polynomial. -/
theorem bitsPoly_eq_zero_iff {bits : List Bool} : bitsPoly bits = 0 ↔ ∀ bit ∈ bits,
    bit = false := by
  constructor
  · intro zero bit member
    obtain ⟨power, found⟩ := List.mem_iff_getElem?.mp (List.mem_reverse.mpr member)
    have coefficient := coeff_bitsPoly bits power
    rw [zero, coeff_zero, found] at coefficient
    cases bit with
    | false => rfl
    | true => simp at coefficient
  · intro clear
    induction bits with
    | nil => rfl
    | cons bit bits inductionHypothesis =>
        have first : bit = false := clear bit (by simp)
        have rest := inductionHypothesis fun other member => clear other (by simp [member])
        simp [bitsPoly, first, rest]

/-! ### Words, least significant bit first -/

variable {width : Nat}

/-- The bits of a word, least significant bit first. -/
def lsbFirst (word : BitVec width) : List Bool := List.ofFn fun index :
    Fin width => word.getLsbD index

@[simp] theorem length_lsbFirst (word : BitVec width) : (lsbFirst word).length = width := by
  simp [lsbFirst]

theorem getElem?_lsbFirst (word : BitVec width) (index : Nat) :
    (lsbFirst word)[index]? = if index < width then some (word.getLsbD index) else none := by
  rw [lsbFirst, List.getElem?_ofFn]
  split <;> simp_all

/-- Exclusive or acts bit by bit. -/
theorem lsbFirst_xor (left right : BitVec width) :
    lsbFirst (left ^^^ right) = List.zipWith xor (lsbFirst left) (lsbFirst right) := by
  apply List.ext_getElem?
  intro index
  rw [List.getElem?_zipWith, getElem?_lsbFirst, getElem?_lsbFirst, getElem?_lsbFirst]
  split <;> simp

/-- The polynomial of a word in a reflected register. -/
noncomputable def wordPoly (word : BitVec width) : (ZMod 2)[X] := bitsPoly (lsbFirst word)

/-- Exclusive or is addition. -/
theorem wordPoly_xor (left right : BitVec width) :
    wordPoly (left ^^^ right) = wordPoly left + wordPoly right := by
  unfold wordPoly
  rw [lsbFirst_xor, bitsPoly_zipWith_xor (by simp)]

@[simp] theorem wordPoly_zero : wordPoly (BitVec.ofNat width 0) = 0 := by
  rw [wordPoly, bitsPoly_eq_zero_iff]
  intro bit member
  obtain ⟨index, found⟩ := List.mem_iff_getElem?.mp member
  rw [getElem?_lsbFirst] at found
  split at found <;> simp_all

/-- A word has a remainder's degree. -/
theorem degree_wordPoly_lt (word : BitVec width) : (wordPoly word).degree < width := by
  have bound := degree_bitsPoly_lt (lsbFirst word)
  rwa [length_lsbFirst] at bound

/-- Bit `i` of a word is the coefficient of `x ^ (width - 1 - i)`. -/
theorem coeff_wordPoly (word : BitVec width) {index : Nat} (inside : index < width) :
    (wordPoly word).coeff (width - 1 - index) = if word.getLsbD index then 1 else 0 := by
  rw [wordPoly, coeff_bitsPoly, List.getElem?_reverse (by simp; omega), length_lsbFirst,
    show width - 1 - (width - 1 - index) = index by omega, getElem?_lsbFirst, if_pos inside]
  simp

/-- A word is given by its polynomial. -/
theorem wordPoly_injective {left right : BitVec width} (same : wordPoly left = wordPoly right) :
    left = right := by
  apply BitVec.eq_of_getLsbD_eq
  intro index inside
  have coefficients := coeff_wordPoly left inside
  rw [same, coeff_wordPoly right inside] at coefficients
  revert coefficients
  cases left.getLsbD index <;> cases right.getLsbD index <;> simp

/-- A word widened at the top keeps its bits in front. -/
theorem wordPoly_setWidth {wide : Nat} (word : BitVec width) (fits : width ≤ wide) :
    wordPoly (word.setWidth wide) = wordPoly word * X ^ (wide - width) := by
  have bits : lsbFirst (word.setWidth wide) =
      lsbFirst word ++ List.replicate (wide - width) false := by
    apply List.ext_getElem?
    intro index
    rw [getElem?_lsbFirst, List.getElem?_append, getElem?_lsbFirst, length_lsbFirst,
      List.getElem?_replicate, BitVec.getLsbD_setWidth]
    rcases Nat.lt_or_ge index width with low | high
    · simp [low, Nat.lt_of_lt_of_le low fits]
    · by_cases inside : index < wide
      · simp [inside, show ¬ index < width by omega, show index - width < wide - width by omega,
          BitVec.getLsbD_of_ge word index high]
      · simp [inside, show ¬ index < width by omega, show ¬ index - width < wide - width by omega]
  have clear : bitsPoly (List.replicate (wide - width) false) = 0 :=
    bitsPoly_eq_zero_iff.mpr fun bit member => (List.mem_replicate.mp member).2
  rw [wordPoly, bits, bitsPoly_append, clear, List.length_replicate, add_zero]
  rfl

/-! ### The register

One step of the register multiplies by `X` modulo the generator; feeding a byte adds its polynomial
first.
-/

/-- One bit of a reflected register: shift down, and subtract the taps when a one falls out. -/
def step (taps register : BitVec width) : BitVec width :=
  (register >>> 1) ^^^ (if register.getLsbD 0 then taps else 0)

/-- One byte: its bits are added at the low end, then shifted through. -/
def byteStep (taps register : BitVec width) (byte : BitVec 8) : BitVec width :=
  (step taps)^[8] (register ^^^ byte.setWidth width)

/-- The generator polynomial with these taps, the leading power included. -/
noncomputable def generator (taps : BitVec width) : (ZMod 2)[X] := X ^ width + wordPoly taps

/-- The leading coefficient is one. -/
theorem generator_monic (taps : BitVec width) : (generator taps).Monic :=
  monic_X_pow_add (degree_wordPoly_lt taps)

/-- The degree is the width of the register. -/
theorem generator_degree (taps : BitVec width) : (generator taps).degree = width := by
  rw [generator, degree_add_eq_left_of_degree_lt]
  · exact degree_X_pow width
  · rw [degree_X_pow]
    exact degree_wordPoly_lt taps

/-- Shifting a register down multiplies its polynomial by `x`, the bit that falls out apart. -/
theorem wordPoly_shift (positive : 0 < width) (register : BitVec width) :
    X * wordPoly register =
      wordPoly (register >>> 1) + (if register.getLsbD 0 then X ^ width else 0) := by
  obtain ⟨rest, rfl⟩ := Nat.exists_eq_succ_of_ne_zero positive.ne'
  have split : lsbFirst register =
      register.getLsbD 0 :: List.ofFn fun index : Fin rest => register.getLsbD (index + 1) := by
    simp [lsbFirst, List.ofFn_succ]
  have shifted : lsbFirst (register >>> 1) =
      (List.ofFn fun index : Fin rest => register.getLsbD (index + 1)) ++ [false] := by
    apply List.ext_getElem?
    intro index
    rw [getElem?_lsbFirst, List.getElem?_append, List.length_ofFn, List.getElem?_ofFn,
      BitVec.getLsbD_ushiftRight]
    rcases Nat.lt_trichotomy index rest with low | last | high
    · simp [low, Nat.lt_succ_of_lt low, Nat.add_comm 1 index]
    · subst last
      simp
    · simp [show ¬ index < rest + 1 by omega, show ¬ index < rest by omega,
        List.getElem?_eq_none (l := [false]) (i := index - rest) (by simp; omega)]
  rw [wordPoly, wordPoly, split, shifted, bitsPoly_append]
  simp only [bitsPoly, List.length_ofFn, List.length_cons, List.length_nil]
  cases register.getLsbD 0 with
  | false => simp; ring
  | true => simp; ring

/-- A step multiplies by `x` modulo the generator. -/
theorem wordPoly_step (positive : 0 < width) (taps register : BitVec width) :
    wordPoly (step taps register) =
      X * wordPoly register + (if register.getLsbD 0 then generator taps else 0) := by
  have power := add_self (X ^ width)
  rw [step, wordPoly_xor, wordPoly_shift positive]
  cases register.getLsbD 0 with
  | false => simp
  | true =>
      simp only [if_true, generator]
      linear_combination -power

section Quotient

variable (taps : BitVec width)

/-- One step multiplies by `X`. -/
theorem mk_step (positive : 0 < width) (register : BitVec width) :
    AdjoinRoot.mk (generator taps) (wordPoly (step taps register)) =
      AdjoinRoot.mk (generator taps) (X * wordPoly register) := by
  rw [wordPoly_step positive, map_add]
  cases register.getLsbD 0 with
  | false => simp
  | true => simp

/-- Steps without input multiply by a power of `X`. -/
theorem mk_iterate_step (positive : 0 < width) (count : Nat) (register : BitVec width) :
    AdjoinRoot.mk (generator taps) (wordPoly ((step taps)^[count] register)) =
      AdjoinRoot.mk (generator taps) (X ^ count * wordPoly register) := by
  induction count generalizing register with
  | zero => simp
  | succ count inductionHypothesis =>
      rw [Function.iterate_succ_apply, inductionHypothesis, map_mul,
        mk_step taps positive, ← map_mul]
      congr 1
      ring

/-- One byte shifts the register by eight powers and adds the byte above the remainder. -/
theorem mk_byteStep (wide : 8 ≤ width) (register : BitVec width) (byte : BitVec 8) :
    AdjoinRoot.mk (generator taps) (wordPoly (byteStep taps register byte)) =
      AdjoinRoot.mk (generator taps)
        (X ^ 8 * wordPoly register + wordPoly byte * X ^ width) := by
  rw [byteStep, mk_iterate_step taps (by omega), wordPoly_xor, wordPoly_setWidth byte wide]
  congr 1
  rw [mul_add, mul_left_comm, ← pow_add, show 8 + (width - 8) = width by omega]

/-- The bits of a string of bytes, least significant bit of each byte first. -/
def byteBits (bytes : List (BitVec 8)) : List Bool := bytes.flatMap lsbFirst

theorem length_byteBits (bytes : List (BitVec 8)) : (byteBits bytes).length = 8 * bytes.length := by
  induction bytes with
  | nil => rfl
  | cons byte bytes inductionHypothesis =>
      have split : byteBits (byte :: bytes) = lsbFirst byte ++ byteBits bytes := rfl
      rw [split, List.length_append, inductionHypothesis, length_lsbFirst, List.length_cons]
      ring

/-- Strings of bytes of one length add byte by byte. -/
theorem byteBits_zipWith_xor {left right : List (BitVec 8)} (same : left.length = right.length) :
    byteBits (List.zipWith (· ^^^ ·) left right) =
      List.zipWith xor (byteBits left) (byteBits right) := by
  induction left generalizing right with
  | nil => rfl
  | cons byte left inductionHypothesis =>
      cases right with
      | nil => cases same
      | cons other right =>
          change lsbFirst (byte ^^^ other) ++ byteBits (List.zipWith (· ^^^ ·) left right) =
            List.zipWith xor (lsbFirst byte ++ byteBits left) (lsbFirst other ++ byteBits right)
          rw [inductionHypothesis (Nat.succ.inj same), lsbFirst_xor,
            List.zipWith_append (by simp)]

/-- The invariant of the loop over the bytes: the register is congruent to the initial value shifted
past them plus the bits read so far, shifted past the remainder. -/
theorem mk_fold_byteStep (wide : 8 ≤ width) (bytes : List (BitVec 8)) (register : BitVec width) :
    AdjoinRoot.mk (generator taps) (wordPoly (bytes.foldl (byteStep taps) register)) =
      AdjoinRoot.mk (generator taps)
        (bitsPoly (byteBits bytes) * X ^ width +
          wordPoly register * X ^ (8 * bytes.length)) := by
  induction bytes generalizing register with
  | nil => simp [byteBits, bitsPoly]
  | cons byte bytes inductionHypothesis =>
      have split : byteBits (byte :: bytes) = lsbFirst byte ++ byteBits bytes := rfl
      rw [List.foldl_cons, inductionHypothesis, map_add, map_mul _ (wordPoly _),
        mk_byteStep taps wide, ← map_mul, ← map_add, split, bitsPoly_append, length_byteBits,
        List.length_cons]
      congr 1
      rw [← wordPoly]
      ring

end Quotient

/-! ### Remainders -/

/-- The word that holds a polynomial of degree below its width in reflected order. -/
noncomputable def reflected (width : Nat) (poly : (ZMod 2)[X]) : BitVec width :=
  (BitVec.ofBoolListLE
    (List.ofFn fun index : Fin width => decide (poly.coeff (width - 1 - index) = 1))).setWidth width

/-- Reading a word's polynomial back. -/
theorem reflected_wordPoly (word : BitVec width) : reflected width (wordPoly word) = word := by
  apply BitVec.eq_of_getLsbD_eq
  intro index inside
  have coefficient := coeff_wordPoly word inside
  rw [reflected, BitVec.getLsbD_setWidth, BitVec.getLsbD_ofBoolListLE, List.getD_eq_getElem?_getD,
    List.getElem?_ofFn, dif_pos inside]
  simp only [coefficient, inside]
  cases word.getLsbD index with
  | false => simp
  | true => simp

/-- A register that is congruent to a polynomial holds its remainder. -/
theorem wordPoly_eq_remainder {taps register : BitVec width} {poly : (ZMod 2)[X]}
    (congruent : AdjoinRoot.mk (generator taps) (wordPoly register) =
      AdjoinRoot.mk (generator taps) poly) :
    wordPoly register = poly %ₘ generator taps := by
  have divides := AdjoinRoot.mk_eq_mk.mp congruent
  have small : (wordPoly register).degree < (generator taps).degree := by
    rw [generator_degree]
    exact degree_wordPoly_lt register
  rw [← modByMonic_eq_of_dvd_sub (generator_monic taps) divides,
    (modByMonic_eq_self_iff (generator_monic taps)).mpr small]

/-- A register that is congruent to a polynomial is its remainder. -/
theorem reflected_remainder {taps register : BitVec width} {poly : (ZMod 2)[X]}
    (congruent : AdjoinRoot.mk (generator taps) (wordPoly register) =
      AdjoinRoot.mk (generator taps) poly) :
    register = reflected width (poly %ₘ generator taps) := by
  rw [← wordPoly_eq_remainder congruent, reflected_wordPoly]

/-- Registers that are congruent are equal. -/
theorem eq_of_mk_eq {taps left right : BitVec width}
    (congruent : AdjoinRoot.mk (generator taps) (wordPoly left) =
      AdjoinRoot.mk (generator taps) (wordPoly right)) : left = right := by
  have remainder := wordPoly_eq_remainder congruent
  rw [← wordPoly_eq_remainder rfl] at remainder
  exact wordPoly_injective remainder

/-! ### Bursts

A burst is a short polynomial times a power of `X`.  The generator has a constant term, so it
divides the burst only if it divides the short factor.
-/

/-- Every set bit of the string is within `span` consecutive places, and there is one. -/
def Burst (span : Nat) (bits : List Bool) : Prop :=
  true ∈ bits ∧
    ∃ start, ∀ index, bits[index]? = some true → start ≤ index ∧ index < start + span

/-- A short string between clear bits is a burst. -/
theorem Burst.of_padded {span before after : Nat} {inside : List Bool}
    (short : inside.length ≤ span) (member : true ∈ inside) :
    Burst span (List.replicate before false ++ inside ++ List.replicate after false) := by
  refine ⟨by simp [member], before, ?_⟩
  intro index found
  rw [List.append_assoc, List.getElem?_append, List.getElem?_append, List.getElem?_replicate,
    List.getElem?_replicate, List.length_replicate] at found
  grind

/-- The polynomial of a burst is a short one times a power of `x`. -/
theorem Burst.split {span : Nat} {bits : List Bool} (burst : Burst span bits) :
    ∃ inside power, inside.length ≤ span ∧ true ∈ inside ∧
      bitsPoly bits = bitsPoly inside * X ^ power := by
  obtain ⟨member, start, within⟩ := burst
  have before : ∀ bit ∈ bits.take start, bit = false := by
    intro bit taken
    obtain ⟨index, found⟩ := List.mem_iff_getElem?.mp taken
    rw [List.getElem?_take] at found
    split at found
    · cases bit with
      | false => rfl
      | true => exact absurd (within index found).1 (by omega)
    · cases found
  have after : ∀ bit ∈ (bits.drop start).drop span, bit = false := by
    intro bit dropped
    obtain ⟨index, found⟩ := List.mem_iff_getElem?.mp dropped
    rw [List.getElem?_drop, List.getElem?_drop] at found
    cases bit with
    | false => rfl
    | true => exact absurd (within _ found).2 (by omega)
  have whole : bits = bits.take start ++ ((bits.drop start).take span ++
      (bits.drop start).drop span) := by
    rw [List.take_append_drop, List.take_append_drop]
  refine ⟨(bits.drop start).take span, ((bits.drop start).drop span).length,
    by simp, ?_, ?_⟩
  · rw [whole, List.mem_append, List.mem_append] at member
    rcases member with early | middle | late
    · exact absurd (before true early) (by simp)
    · exact middle
    · exact absurd (after true late) (by simp)
  · have prefixZero := bitsPoly_eq_zero_iff.mpr before
    have suffixZero := bitsPoly_eq_zero_iff.mpr after
    conv_lhs => rw [whole]
    rw [bitsPoly_append, bitsPoly_append, prefixZero, suffixZero, zero_mul, zero_add, add_zero]

/-- A multiple of a generator with a constant term stays one when its lowest power is taken out. -/
theorem dvd_of_dvd_shift {taps : BitVec width}
    (constant : (generator taps).coeff 0 ≠ 0) {poly : (ZMod 2)[X]} {low : Nat}
    (divides : generator taps ∣ poly * X ^ low) : generator taps ∣ poly := by
  have coprime : IsCoprime (generator taps) (X ^ low) := by
    refine IsCoprime.pow_right (IsCoprime.symm ?_)
    rw [Irreducible.coprime_iff_not_dvd irreducible_X]
    rw [X_dvd_iff]
    exact constant
  exact coprime.dvd_of_dvd_mul_right divides

/-- A generator with a constant term divides no burst as long as its degree. -/
theorem Burst.not_dvd {taps : BitVec width} {bits : List Bool} (burst : Burst width bits)
    (constant : (generator taps).coeff 0 ≠ 0) : ¬ generator taps ∣ bitsPoly bits := by
  intro divides
  obtain ⟨inside, power, short, member, shape⟩ := burst.split
  rw [shape] at divides
  have remaining := dvd_of_dvd_shift constant divides
  have small : (bitsPoly inside).degree < (generator taps).degree := by
    rw [generator_degree]
    refine (degree_bitsPoly_lt inside).trans_le ?_
    exact_mod_cast short
  have zero := eq_zero_of_dvd_of_degree_lt remaining small
  exact absurd (bitsPoly_eq_zero_iff.mp zero true member) (by simp)

end Crc
