/-
# Words as polynomials

The bits of a word are the coefficients of a polynomial over the field with two elements. A
register that shifts left and divides by a generator works in the residue ring of the generator:
a shift multiplies by `x`, and an exclusive or adds.
-/

import Mathlib.RingTheory.AdjoinRoot
import Mathlib.Algebra.CharP.Two
import Mathlib.Algebra.Field.ZMod

namespace ExLink.Gf2

open Polynomial

variable {w : ℕ}

/-! ## Words -/

/-- The polynomial with the bits of a word as coefficients. -/
noncomputable def wordPoly (v : BitVec w) : (ZMod 2)[X] :=
  ∑ i ∈ Finset.range w, if v.getLsbD i then X ^ i else 0

@[simp]
theorem coeff_wordPoly (v : BitVec w) (i : ℕ) :
    (wordPoly v).coeff i = if v.getLsbD i then 1 else 0 := by
  rw [wordPoly, finsetSum_coeff]
  have hcoeff (e : ℕ) : (if v.getLsbD e then X ^ e else 0 : (ZMod 2)[X]).coeff i =
      if e = i then if v.getLsbD i then 1 else 0 else 0 := by
    by_cases hei : e = i
    · rw [if_pos hei, hei]
      split_ifs
      · rw [coeff_X_pow, if_pos rfl]
      · exact coeff_zero i
    · rw [if_neg hei]
      split_ifs
      · rw [coeff_X_pow, if_neg (Ne.symm hei)]
      · exact coeff_zero i
  rw [Finset.sum_congr rfl fun e _ => hcoeff e, Finset.sum_ite_eq']
  by_cases hi : i < w
  · rw [if_pos (Finset.mem_range.mpr hi)]
  · rw [if_neg (mt Finset.mem_range.mp hi), BitVec.getLsbD_of_ge v i (Nat.not_lt.mp hi)]
    rfl

/-- A word is as good as its polynomial. -/
theorem wordPoly_injective : Function.Injective (wordPoly : BitVec w → (ZMod 2)[X]) := by
  intro first second h
  apply BitVec.eq_of_getLsbD_eq
  intro i _
  have hbit : Function.Injective fun bit : Bool => if bit then (1 : ZMod 2) else 0 := by decide
  apply hbit
  simp only [← coeff_wordPoly, h]

@[simp]
theorem wordPoly_zero : wordPoly (0#w) = 0 := by
  ext i
  rw [coeff_wordPoly, BitVec.getLsbD_zero, if_neg Bool.false_ne_true, coeff_zero]

/-- A word with a single bit. -/
theorem wordPoly_twoPow {count : ℕ} (hcount : count < w) :
    wordPoly (BitVec.twoPow w count) = X ^ count := by
  ext i
  rw [coeff_wordPoly, BitVec.getLsbD_twoPow, coeff_X_pow, decide_eq_true hcount, Bool.true_and]
  exact if_congr (decide_eq_true_iff.trans eq_comm) rfl rfl

theorem wordPoly_one (hw : 0 < w) : wordPoly (1#w) = 1 := by
  rw [← BitVec.twoPow_zero, wordPoly_twoPow hw, pow_zero]

/-- Exclusive or adds. -/
theorem wordPoly_xor (first second : BitVec w) :
    wordPoly (first ^^^ second) = wordPoly first + wordPoly second := by
  ext i
  rw [coeff_add, coeff_wordPoly, coeff_wordPoly, coeff_wordPoly, BitVec.getLsbD_xor]
  cases first.getLsbD i <;> cases second.getLsbD i <;> decide

/-- A wider word with the same bits. -/
theorem wordPoly_setWidth {wide : ℕ} (hle : w ≤ wide) (v : BitVec w) :
    wordPoly (v.setWidth wide) = wordPoly v := by
  ext i
  rw [coeff_wordPoly, coeff_wordPoly, BitVec.getLsbD_setWidth]
  by_cases hi : i < wide
  · rw [decide_eq_true hi, Bool.true_and]
  · rw [BitVec.getLsbD_of_ge v i (by omega), Bool.and_false]

/-- A shift of bits that all stay in the word. -/
theorem wordPoly_shiftLeft {v : BitVec w} {count : ℕ}
    (hroom : ∀ i, w ≤ i + count → v.getLsbD i = false) :
    wordPoly (v <<< count) = wordPoly v * X ^ count := by
  ext i
  rw [coeff_wordPoly, BitVec.getLsbD_shiftLeft, coeff_mul_X_pow']
  by_cases hbelow : i < count
  · rw [if_neg (Nat.not_le.mpr hbelow), decide_eq_true hbelow]
    simp
  · rw [if_pos (Nat.not_lt.mp hbelow), coeff_wordPoly, decide_eq_false hbelow, Bool.not_false,
      Bool.and_true]
    by_cases hi : i < w
    · rw [decide_eq_true hi, Bool.true_and]
    · rw [hroom (i - count) (by omega), Bool.and_false]

theorem degree_wordPoly_lt (v : BitVec w) : (wordPoly v).degree < w := by
  rw [degree_lt_iff_coeff_zero]
  intro i hi
  rw [coeff_wordPoly, BitVec.getLsbD_of_ge v i hi]
  rfl

/-! ## Registers -/

/-- A monic polynomial, given by the bits below the leading one. -/
noncomputable def generator (poly : BitVec w) : (ZMod 2)[X] := X ^ w + wordPoly poly

/-- Shift out the top bit and divide. -/
def timesX (poly v : BitVec w) : BitVec w := if v.msb then (v <<< 1) ^^^ poly else v <<< 1

section Generator

variable (poly : BitVec w)

theorem monic_generator : (generator poly).Monic := monic_X_pow_add (degree_wordPoly_lt poly)

theorem degree_generator : (generator poly).degree = w := by
  rw [generator, add_comm, degree_add_eq_right_of_degree_lt, degree_X_pow]
  rw [degree_X_pow]
  exact degree_wordPoly_lt poly

/-- The remainders of division by the generator. -/
noncomputable def residue : (ZMod 2)[X] →+* AdjoinRoot (generator poly) :=
  AdjoinRoot.mk (generator poly)

/-- The residue of `x`. -/
noncomputable def residueX : AdjoinRoot (generator poly) := residue poly X

theorem residue_eq_zero {p : (ZMod 2)[X]} : residue poly p = 0 ↔ generator poly ∣ p :=
  AdjoinRoot.mk_eq_zero

theorem residue_eq {p q : (ZMod 2)[X]} :
    residue poly p = residue poly q ↔ generator poly ∣ p + q := by
  rw [← CharTwo.sub_eq_add]
  exact AdjoinRoot.mk_eq_mk

/-- What the register holds is the remainder itself. -/
theorem residue_wordPoly_inj {first second : BitVec w} :
    residue poly (wordPoly first) = residue poly (wordPoly second) ↔ first = second := by
  constructor
  · intro h
    rw [residue_eq, ← wordPoly_xor] at h
    by_contra hne
    have hnonzero : wordPoly (first ^^^ second) ≠ 0 := by
      intro hzero
      rw [wordPoly_xor, CharTwo.add_eq_zero] at hzero
      exact hne (wordPoly_injective hzero)
    apply (monic_generator poly).not_dvd_of_degree_lt hnonzero _ h
    rw [degree_generator]
    exact degree_wordPoly_lt _
  · rintro rfl
    rfl

/-- A shift by one, with the bit that leaves the word. -/
theorem X_mul_wordPoly (v : BitVec w) :
    X * wordPoly v = wordPoly (v <<< 1) + if v.msb then X ^ w else 0 := by
  ext i
  have htop : (if v.msb then X ^ w else 0 : (ZMod 2)[X]).coeff i =
      if i = w ∧ v.msb then 1 else 0 := by
    split_ifs with hmsb hboth hboth
    · rw [coeff_X_pow, if_pos hboth.1]
    · rw [coeff_X_pow, if_neg fun hi => hboth ⟨hi, hmsb⟩]
    · exact absurd hboth.2 hmsb
    · exact coeff_zero i
  rw [coeff_add, coeff_wordPoly, htop, BitVec.getLsbD_shiftLeft, BitVec.msb_eq_getLsbD_last]
  cases i with
  | zero =>
      have hzero : ¬ (0 = w ∧ v.getLsbD (w - 1) = true) := by
        rintro ⟨rfl, hbit⟩
        rw [BitVec.getLsbD_of_ge v _ (Nat.zero_le _)] at hbit
        exact Bool.false_ne_true hbit
      rw [coeff_X_mul_zero, if_neg hzero]
      simp
  | succ i =>
      rw [coeff_X_mul, coeff_wordPoly, Nat.add_sub_cancel]
      rcases Nat.lt_trichotomy (i + 1) w with hlt | rfl | hgt
      · simp [hlt, Nat.ne_of_lt hlt]
      · simp
      · rw [BitVec.getLsbD_of_ge v i (by omega)]
        simp [Nat.ne_of_gt hgt]

/-- The register step multiplies by `x`. -/
theorem residue_timesX (v : BitVec w) :
    residue poly (wordPoly (timesX poly v)) = residueX poly * residue poly (wordPoly v) := by
  rw [residueX, ← map_mul, residue_eq, X_mul_wordPoly, timesX]
  split_ifs
  · have hsum : wordPoly (v <<< 1 ^^^ poly) + (wordPoly (v <<< 1) + X ^ w) = generator poly := by
      rw [wordPoly_xor, generator]
      calc wordPoly (v <<< 1) + wordPoly poly + (wordPoly (v <<< 1) + X ^ w)
          = (wordPoly (v <<< 1) + wordPoly (v <<< 1)) + (X ^ w + wordPoly poly) := by ring
        _ = X ^ w + wordPoly poly := by rw [CharTwo.add_self_eq_zero, zero_add]
    rw [hsum]
  · rw [add_zero, CharTwo.add_self_eq_zero]
    exact dvd_zero _

/-- Several register steps. -/
theorem residue_iterate (count : ℕ) (v : BitVec w) :
    residue poly (wordPoly (Nat.repeat (timesX poly) count v)) =
      residueX poly ^ count * residue poly (wordPoly v) := by
  induction count with
  | zero => rw [Nat.repeat, pow_zero, one_mul]
  | succ count ih => rw [Nat.repeat, residue_timesX, ih, pow_succ', mul_assoc]

/-! ## Products and powers -/

/-- The product of residues, for at most `count` bits of the second factor. -/
def mulWord (poly first : BitVec w) : ℕ → BitVec w → BitVec w
  | 0, _ => 0#w
  | count + 1, second =>
      timesX poly (mulWord poly first count (second >>> 1)) ^^^
        if second.getLsbD 0 then first else 0#w

theorem residue_mulWord (first : BitVec w) (count : ℕ) (second : BitVec w)
    (hcount : ∀ i, count ≤ i → second.getLsbD i = false) :
    residue poly (wordPoly (mulWord poly first count second)) =
      residue poly (wordPoly first) * residue poly (wordPoly second) := by
  induction count generalizing second with
  | zero =>
      have hzero : second = 0#w := by
        apply BitVec.eq_of_getLsbD_eq
        intro i _
        rw [hcount i (Nat.zero_le i), BitVec.getLsbD_zero]
      rw [mulWord, hzero, wordPoly_zero, map_zero, mul_zero]
  | succ count ih =>
      have hrest := ih (second >>> 1) fun i hi => by
        rw [BitVec.getLsbD_ushiftRight]
        exact hcount (1 + i) (by omega)
      have hsecond : wordPoly second =
          X * wordPoly (second >>> 1) + if second.getLsbD 0 then 1 else 0 := by
        ext i
        cases i with
        | zero =>
            rw [coeff_add, coeff_X_mul_zero, coeff_wordPoly, zero_add]
            split_ifs
            · exact coeff_one_zero.symm
            · exact (coeff_zero 0).symm
        | succ i =>
            have hone : (if second.getLsbD 0 then 1 else 0 : (ZMod 2)[X]).coeff (i + 1) = 0 := by
              split_ifs
              · exact coeff_one.trans (if_neg (Nat.succ_ne_zero i))
              · exact coeff_zero _
            rw [coeff_add, coeff_X_mul, coeff_wordPoly, coeff_wordPoly, hone, add_zero,
              BitVec.getLsbD_ushiftRight, Nat.add_comm 1 i]
      rw [mulWord, wordPoly_xor, map_add, residue_timesX, hrest, hsecond, map_add, map_mul,
        ← residueX]
      split_ifs
      · rw [map_one]
        ring
      · rw [wordPoly_zero, map_zero]
        ring

/-- A power of `x`; the exponent is given by its bits, lowest first. -/
def powX (poly : BitVec w) : List Bool → BitVec w
  | [] => 1#w
  | bit :: rest =>
      let root := powX poly rest
      let square := mulWord poly root w root
      if bit then timesX poly square else square

/-- The number with these bits. -/
def bitsValue : List Bool → ℕ
  | [] => 0
  | bit :: rest => 2 * bitsValue rest + bit.toNat

theorem residue_powX (hw : 0 < w) (bits : List Bool) :
    residue poly (wordPoly (powX poly bits)) = residueX poly ^ bitsValue bits := by
  induction bits with
  | nil => rw [powX, wordPoly_one hw, map_one, bitsValue, pow_zero]
  | cons bit rest ih =>
      have hsquare := residue_mulWord poly (powX poly rest) w (powX poly rest)
        fun i hi => BitVec.getLsbD_of_ge _ i hi
      rw [ih, ← pow_two, ← pow_mul, mul_comm] at hsquare
      cases bit with
      | true => exact (residue_timesX poly _).trans (by rw [hsquare, ← pow_succ']; rfl)
      | false => exact hsquare

/-- A power of `x` is one where the register computes one. -/
theorem powX_eq_one_iff (hw : 0 < w) (bits : List Bool) :
    residueX poly ^ bitsValue bits = 1 ↔ powX poly bits = 1#w := by
  rw [← residue_powX poly hw, ← residue_wordPoly_inj poly, wordPoly_one hw, map_one]

variable {poly}

/-- With a period `x` has an inverse, its last power before one. -/
theorem isUnit_residueX {period : ℕ} (hpos : 0 < period) (hone : residueX poly ^ period = 1) :
    IsUnit (residueX poly) := IsUnit.of_pow_eq_one hone (Nat.ne_of_gt hpos)

/-- A factor `x` changes nothing. -/
theorem dvd_X_pow_mul (hunit : IsUnit (residueX poly)) (count : ℕ) (p : (ZMod 2)[X]) :
    generator poly ∣ X ^ count * p ↔ generator poly ∣ p := by
  rw [← residue_eq_zero, ← residue_eq_zero, map_mul, map_pow]
  exact (hunit.pow count).mul_right_eq_zero

end Generator

/-! ## Sets of exponents -/

/-- The polynomial with a set of exponents. -/
noncomputable def setPoly (exponents : Finset ℕ) : (ZMod 2)[X] := ∑ e ∈ exponents, X ^ e

section Sets

variable {poly : BitVec w} {exponents : Finset ℕ}

theorem coeff_setPoly (exponents : Finset ℕ) (i : ℕ) :
    (setPoly exponents).coeff i = if i ∈ exponents then 1 else 0 := by
  rw [setPoly, finsetSum_coeff]
  simp only [coeff_X_pow]
  exact Finset.sum_ite_eq exponents i fun _ => 1

/-- A generator with an even number of terms divides no polynomial with an odd number. -/
theorem not_dvd_setPoly_of_odd (heven : (generator poly).eval 1 = 0) (hodd : Odd exponents.card) :
    ¬ generator poly ∣ setPoly exponents := by
  rintro ⟨quotient, hquotient⟩
  have heval := congrArg (Polynomial.eval 1) hquotient
  rw [eval_mul, heven, zero_mul, setPoly, eval_finsetSum] at heval
  simp only [eval_pow, eval_X, one_pow, Finset.sum_const, nsmul_eq_mul, mul_one] at heval
  exact Nat.not_even_iff_odd.mpr hodd (ZMod.natCast_eq_zero_iff_even.mp heval)

/-- Two terms are a multiple exactly if they are a multiple of the order of `x` apart. -/
theorem dvd_setPoly_pair (hunit : IsUnit (residueX poly)) {first second : ℕ}
    (hne : first ≠ second) :
    generator poly ∣ setPoly {first, second} ↔ first ≡ second [MOD orderOf (residueX poly)] := by
  obtain ⟨unit, hunit⟩ := hunit
  have hpowers : residueX poly ^ first = residueX poly ^ second ↔ unit ^ first = unit ^ second := by
    rw [← hunit, ← Units.val_pow_eq_pow_val, ← Units.val_pow_eq_pow_val]
    exact Units.ext_iff.symm
  rw [setPoly, Finset.sum_pair hne, ← residue_eq, map_pow, map_pow, ← residueX, hpowers, ← hunit,
    orderOf_units]
  exact pow_eq_pow_iff_modEq

/-- A burst shorter than the generator is no multiple. -/
theorem not_dvd_setPoly_of_burst (hunit : IsUnit (residueX poly)) (hne : exponents.Nonempty)
    {start : ℕ} (hburst : ∀ e ∈ exponents, start ≤ e ∧ e < start + w) :
    ¬ generator poly ∣ setPoly exponents := by
  have hshift : setPoly exponents = X ^ start * setPoly (exponents.image (· - start)) := by
    have hinj : Set.InjOn (· - start) (exponents : Set ℕ) := by
      intro first hfirst second hsecond h
      have := (hburst first hfirst).1
      have := (hburst second hsecond).1
      simp only at h
      omega
    rw [setPoly, setPoly, Finset.sum_image hinj, Finset.mul_sum]
    apply Finset.sum_congr rfl
    intro e he
    rw [← pow_add, Nat.add_sub_cancel' (hburst e he).1]
  rw [hshift, dvd_X_pow_mul hunit]
  apply (monic_generator poly).not_dvd_of_degree_lt
  · intro hzero
    obtain ⟨e, he⟩ := hne
    have hcoeff := coeff_setPoly (exponents.image (· - start)) (e - start)
    rw [hzero, coeff_zero, if_pos (Finset.mem_image_of_mem _ he)] at hcoeff
    exact zero_ne_one hcoeff
  · rw [degree_generator, degree_lt_iff_coeff_zero]
    intro i hi
    rw [coeff_setPoly, if_neg]
    intro hmem
    obtain ⟨e, he, rfl⟩ := Finset.mem_image.mp hmem
    have := hburst e he
    omega

end Sets

end ExLink.Gf2
