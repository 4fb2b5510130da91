/-
# Byte messages and flipped bits

A byte sequence is a polynomial: the most significant bit of the first byte leads, as the
bits go over a wire. Flipping bits of the sequence adds the powers of `x` at their places.
-/

import ExLink.Coding.Gf2
import ExLink.Data.Bits

namespace ExLink.Gf2

open Polynomial

/-! ## Messages -/

/-- The polynomial of a byte sequence, the most significant bit of each byte first. -/
noncomputable def messagePoly (bytes : List (BitVec 8)) : (ZMod 2)[X] :=
  bytes.foldl (fun message byte => message * X ^ 8 + wordPoly byte) 0

@[simp]
theorem messagePoly_nil : messagePoly [] = 0 := rfl

theorem messagePoly_concat (bytes : List (BitVec 8)) (byte : BitVec 8) :
    messagePoly (bytes ++ [byte]) = messagePoly bytes * X ^ 8 + wordPoly byte := by
  rw [messagePoly, List.foldl_append]
  rfl

/-- Bytes of zeros are no message. -/
theorem messagePoly_replicate_zero (count : ℕ) : messagePoly (List.replicate count 0#8) = 0 := by
  induction count with
  | zero => rfl
  | succ count ih =>
      rw [List.replicate_succ', messagePoly_concat, ih, wordPoly_zero, zero_mul, add_zero]

/-! ## Flipped bits -/

/-- What a set of flipped bits does to one byte. Bits are counted from the first one of the
sequence. -/
def flipMask (flips : Finset ℕ) (index : ℕ) : BitVec 8 :=
  wordOfBits 8 ((List.range 8).map fun bit => decide (8 * index + (7 - bit) ∈ flips))

/-- A byte sequence with some of its bits flipped. -/
def flipBits (flips : Finset ℕ) (bytes : List (BitVec 8)) : List (BitVec 8) :=
  bytes.mapIdx fun index byte => byte ^^^ flipMask flips index

section Flips

variable (flips : Finset ℕ)

@[simp]
theorem length_flipBits (bytes : List (BitVec 8)) :
    (flipBits flips bytes).length = bytes.length := List.length_mapIdx

@[simp]
theorem flipBits_nil : flipBits flips [] = [] := rfl

theorem flipBits_concat (bytes : List (BitVec 8)) (byte : BitVec 8) :
    flipBits flips (bytes ++ [byte]) =
      flipBits flips bytes ++ [byte ^^^ flipMask flips bytes.length] := List.mapIdx_concat

theorem getLsbD_flipMask (index : ℕ) {bit : ℕ} (hbit : bit < 8) :
    (flipMask flips index).getLsbD bit = decide (8 * index + (7 - bit) ∈ flips) := by
  rw [flipMask, getLsbD_wordOfBits, decide_eq_true hbit, Bool.true_and]
  simp [hbit]

/-- A byte with no flipped bit stays. -/
theorem flipMask_eq_zero {index : ℕ} (hnone : ∀ bit ∈ flips, bit / 8 ≠ index) :
    flipMask flips index = 0#8 := by
  apply BitVec.eq_of_getLsbD_eq
  intro bit hbit
  rw [getLsbD_flipMask flips index hbit, BitVec.getLsbD_zero, decide_eq_false]
  intro hmem
  exact hnone _ hmem (by omega)

/-- A byte with a flipped bit changes. -/
theorem flipMask_ne_zero {index bit : ℕ} (hmem : bit ∈ flips) (hindex : bit / 8 = index) :
    flipMask flips index ≠ 0#8 := by
  intro hzero
  have hbit := getLsbD_flipMask flips index (show 7 - bit % 8 < 8 by omega)
  have hback : 8 * index + (7 - (7 - bit % 8)) = bit := by omega
  rw [hzero, BitVec.getLsbD_zero, hback, decide_eq_true hmem] at hbit
  exact Bool.false_ne_true hbit

/-- The mask of one byte has a power of `x` for each of its flipped bits. -/
theorem wordPoly_flipMask (index : ℕ) :
    wordPoly (flipMask flips index) =
      ∑ bit ∈ flips with bit / 8 = index, X ^ (8 * index + 7 - bit) := by
  rw [wordPoly, ← Finset.sum_filter]
  apply Finset.sum_nbij' (8 * index + 7 - ·) (8 * index + 7 - ·)
  · intro exponent hexponent
    obtain ⟨hlt, hset⟩ := Finset.mem_filter.mp hexponent
    rw [Finset.mem_range] at hlt
    rw [getLsbD_flipMask flips index hlt, decide_eq_true_iff,
      ← Nat.add_sub_assoc (Nat.le_of_lt_succ hlt)] at hset
    exact Finset.mem_filter.mpr ⟨hset, by omega⟩
  · intro bit hbit
    obtain ⟨hmem, hindex⟩ := Finset.mem_filter.mp hbit
    have hlt : 8 * index + 7 - bit < 8 := by omega
    have hback : 8 * index + (7 - (8 * index + 7 - bit)) = bit := by omega
    rw [Finset.mem_filter, Finset.mem_range, getLsbD_flipMask flips index hlt, hback,
      decide_eq_true_iff]
    exact ⟨hlt, hmem⟩
  · intro exponent hexponent
    have := Finset.mem_range.mp (Finset.mem_filter.mp hexponent).1
    omega
  · intro bit hbit
    have := (Finset.mem_filter.mp hbit).2
    omega
  · intro exponent hexponent
    have := Finset.mem_range.mp (Finset.mem_filter.mp hexponent).1
    congr 1
    omega

/-- Flipped bits add their powers of `x`; the last bit of the message is the lowest. -/
theorem messagePoly_flipBits (bytes : List (BitVec 8)) :
    messagePoly (flipBits flips bytes) = messagePoly bytes +
      ∑ bit ∈ flips with bit < 8 * bytes.length, X ^ (8 * bytes.length - 1 - bit) := by
  induction bytes using List.reverseRecOn with
  | nil => simp
  | append_singleton bytes byte ih =>
      have hlength : 8 * (bytes ++ [byte]).length = 8 * bytes.length + 8 := by
        rw [List.length_append, List.length_singleton, Nat.mul_add]
      have hbefore : (∑ bit ∈ flips with bit < 8 * bytes.length,
            X ^ (8 * bytes.length - 1 - bit) : (ZMod 2)[X]) * X ^ 8 =
          ∑ bit ∈ flips with bit < 8 * bytes.length, X ^ (8 * bytes.length + 8 - 1 - bit) := by
        rw [Finset.sum_mul]
        apply Finset.sum_congr rfl
        intro bit hbit
        have := (Finset.mem_filter.mp hbit).2
        rw [← pow_add]
        congr 1
        omega
      have hlast : wordPoly (flipMask flips bytes.length) =
          ∑ bit ∈ flips with bit / 8 = bytes.length,
            X ^ (8 * bytes.length + 8 - 1 - bit) := wordPoly_flipMask flips bytes.length
      have hdisjoint : Disjoint (flips.filter (· < 8 * bytes.length))
          (flips.filter (· / 8 = bytes.length)) := by
        apply Finset.disjoint_filter.mpr
        intro bit _ hbit hindex
        omega
      have hsplit : flips.filter (· < 8 * bytes.length + 8) =
          flips.filter (· < 8 * bytes.length) ∪ flips.filter (· / 8 = bytes.length) := by
        rw [← Finset.filter_or]
        apply Finset.filter_congr
        intro bit _
        omega
      rw [flipBits_concat, messagePoly_concat, messagePoly_concat, ih, wordPoly_xor, hlength,
        hsplit, Finset.sum_union hdisjoint, ← hbefore, ← hlast]
      ring

end Flips

end ExLink.Gf2
