/-
# Bits of a word, least significant first

Shift registers turn words into bit sequences and back, and parity is the
exclusive or of the bits of a prefix. A parity computed by folding a word onto
its own upper half is the exclusive or of all its bits.
-/

import Mathlib.Data.List.GetD
import Mathlib.Data.List.Induction

namespace ExLink

/-- The exclusive or of the `count` lowest bits. -/
def xorBits {w : ℕ} (value : BitVec w) : ℕ → Bool
  | 0 => false
  | count + 1 => xorBits value count ^^ value.getLsbD count

/-- The word with the given bits, least significant first; missing bits are zero
and surplus bits are dropped. -/
def wordOfBits (w : ℕ) (bits : List Bool) : BitVec w :=
  (BitVec.ofBoolListLE bits).setWidth w

section Parity

variable {w : ℕ}

@[simp]
theorem xorBits_zero (value : BitVec w) : xorBits value 0 = false := rfl

theorem xorBits_succ (value : BitVec w) (count : ℕ) :
    xorBits value (count + 1) = (xorBits value count ^^ value.getLsbD count) := rfl

theorem xorBits_congr {first second : BitVec w} {count : ℕ}
    (agree : ∀ i < count, first.getLsbD i = second.getLsbD i) :
    xorBits first count = xorBits second count := by
  induction count with
  | zero => rfl
  | succ count ih =>
      rw [xorBits_succ, xorBits_succ, ih fun i hi => agree i (by omega),
        agree count (by omega)]

theorem xorBits_add (value : BitVec w) (low high : ℕ) :
    xorBits value (low + high) = (xorBits value low ^^ xorBits (value >>> low) high) := by
  induction high with
  | zero => simp
  | succ high ih =>
      rw [← Nat.add_assoc, xorBits_succ, ih, xorBits_succ, BitVec.getLsbD_ushiftRight,
        Bool.xor_assoc]

theorem xorBits_xor (first second : BitVec w) (count : ℕ) :
    xorBits (first ^^^ second) count = (xorBits first count ^^ xorBits second count) := by
  induction count with
  | zero => rfl
  | succ count ih =>
      rw [xorBits_succ, xorBits_succ, xorBits_succ, ih, BitVec.getLsbD_xor]
      cases xorBits first count <;> cases xorBits second count <;> simp

/-- Folding the upper half onto the lower one keeps the parity. -/
theorem xorBits_fold (value : BitVec w) (count : ℕ) :
    xorBits (value ^^^ (value >>> count)) count = xorBits value (count + count) := by
  rw [xorBits_xor, xorBits_add]

end Parity

section Bits

variable {w : ℕ}

@[simp]
theorem getLsbD_wordOfBits (bits : List Bool) (i : ℕ) :
    (wordOfBits w bits).getLsbD i = (decide (i < w) && bits.getD i false) := by
  rw [wordOfBits, BitVec.getLsbD_setWidth, BitVec.getLsbD_ofBoolListLE]

/-- The lowest bit, as a word. -/
theorem and_one_eq (value : BitVec 32) :
    value &&& 1#32 = if value.getLsbD 0 then 1#32 else 0#32 := by
  apply BitVec.eq_of_getLsbD_eq
  intro i _
  cases i <;> cases h : value.getLsbD 0 <;> simp_all

/-- The parity of a word made of bits is the parity of the bits. -/
theorem xorBits_wordOfBits {bits : List Bool} (hlen : bits.length ≤ w) :
    xorBits (wordOfBits w bits) bits.length = bits.foldl Bool.xor false := by
  induction bits using List.reverseRecOn with
  | nil => rfl
  | append_singleton bits bit ih =>
      rw [List.length_append, List.length_singleton] at hlen
      have hagree : ∀ i < bits.length, (wordOfBits w (bits ++ [bit])).getLsbD i =
          (wordOfBits w bits).getLsbD i := by
        intro i hi
        rw [getLsbD_wordOfBits, getLsbD_wordOfBits, List.getD_append _ _ _ _ hi]
      have hlast : (wordOfBits w (bits ++ [bit])).getLsbD bits.length = bit := by
        rw [getLsbD_wordOfBits, List.getD_append_right _ _ _ _ (Nat.le_refl _), Nat.sub_self,
          decide_eq_true (by omega)]
        rfl
      rw [List.length_append, List.length_singleton, xorBits_succ, xorBits_congr hagree, hlast,
        ih (by omega), List.foldl_append]
      rfl

end Bits

/-! ## Shift registers -/

/-- A register of `w` bits that takes in a bit at the top and moves down. -/
def shiftIn {w : ℕ} (value : BitVec w) (bit : Bool) : BitVec w :=
  (value >>> 1) ||| ((BitVec.ofBool bit).setWidth w <<< (w - 1))

theorem getLsbD_shiftIn {w : ℕ} (value : BitVec w) (bit : Bool) {i : ℕ} (hi : i < w) :
    (shiftIn value bit).getLsbD i = if i + 1 = w then bit else value.getLsbD (i + 1) := by
  rw [shiftIn, BitVec.getLsbD_or, BitVec.getLsbD_ushiftRight, BitVec.getLsbD_shiftLeft,
    BitVec.getLsbD_setWidth, BitVec.getLsbD_ofBool, Nat.add_comm 1 i]
  by_cases htop : i + 1 = w
  · rw [if_pos htop]
    have hover : value.getLsbD (i + 1) = false := BitVec.getLsbD_of_ge _ _ (by omega)
    have hzero : i - (w - 1) = 0 := by omega
    have htopBit : ¬ i < w - 1 := by omega
    have hpos : 0 < w := by omega
    simp [hover, hzero, hi, htopBit, hpos]
  · rw [if_neg htop]
    have hbelow : i < w - 1 := by omega
    simp [hbelow]

/-- After `w` bits the register holds exactly these. -/
theorem foldl_shiftIn {w : ℕ} (bits : List Bool) (value : BitVec w) {i : ℕ} (hi : i < w) :
    (bits.foldl shiftIn value).getLsbD i =
      if i + bits.length < w then value.getLsbD (i + bits.length)
      else bits.getD (i + bits.length - w) false := by
  induction bits generalizing value with
  | nil => simp [hi]
  | cons bit rest ih =>
      rw [List.foldl_cons, ih, List.length_cons]
      rcases Nat.lt_trichotomy (i + rest.length + 1) w with hlt | heq | hgt
      · rw [if_pos (by omega), if_pos (by omega), getLsbD_shiftIn value bit (by omega),
          if_neg (by omega), Nat.add_assoc]
      · have hfirst : i + (rest.length + 1) - w = 0 := by omega
        rw [if_pos (by omega), if_neg (by omega), getLsbD_shiftIn value bit (by omega),
          if_pos heq, hfirst]
        rfl
      · have hlater : i + (rest.length + 1) - w = i + rest.length - w + 1 := by omega
        rw [if_neg (by omega), if_neg (by omega), hlater]
        rfl

/-- A register that took in a whole word holds it. -/
theorem foldl_shiftIn_eq_wordOfBits {w : ℕ} {bits : List Bool} (hlen : bits.length = w)
    (value : BitVec w) : bits.foldl shiftIn value = wordOfBits w bits := by
  apply BitVec.eq_of_getLsbD_eq
  intro i hi
  have hdrop : i + bits.length - w = i := by omega
  rw [foldl_shiftIn bits value hi, if_neg (by omega), getLsbD_wordOfBits, hdrop,
    decide_eq_true hi, Bool.true_and]

/-! ## Bits in bytes -/

/-- Bits in as many bytes as they need; what is missing in the last one is zero. -/
def bitsBytes (bits : List Bool) : List (BitVec 8) :=
  (List.range ((bits.length + 7) / 8)).map fun index => wordOfBits 8 (bits.drop (8 * index))

section Bytes

@[simp]
theorem bitsBytes_nil : bitsBytes [] = [] := rfl

@[simp]
theorem length_bitsBytes (bits : List Bool) : (bitsBytes bits).length = (bits.length + 7) / 8 := by
  simp [bitsBytes]

/-- The first byte, and those of the rest. -/
theorem bitsBytes_of_ne {bits : List Bool} (hne : bits ≠ []) :
    bitsBytes bits = wordOfBits 8 bits :: bitsBytes (bits.drop 8) := by
  have hpos := List.length_pos_iff.mpr hne
  have hcount : (bits.length + 7) / 8 = ((bits.drop 8).length + 7) / 8 + 1 := by
    rw [List.length_drop]
    omega
  rw [bitsBytes, hcount, List.range_succ_eq_map, List.map_cons, List.map_map, bitsBytes]
  congr 1
  apply List.map_congr_left
  intro index _
  rw [Function.comp_apply, List.drop_drop, Nat.mul_succ, Nat.add_comm]

/-- At most eight bits are one byte. -/
theorem bitsBytes_of_le {bits : List Bool} (hne : bits ≠ []) (hle : bits.length ≤ 8) :
    bitsBytes bits = [wordOfBits 8 bits] := by
  rw [bitsBytes_of_ne hne, List.drop_eq_nil_of_le hle, bitsBytes_nil]

/-- Whole bytes first. -/
theorem bitsBytes_append {first : List Bool} (hwhole : 8 ∣ first.length) (second : List Bool) :
    bitsBytes (first ++ second) = bitsBytes first ++ bitsBytes second := by
  obtain ⟨count, hcount⟩ := hwhole
  induction count generalizing first with
  | zero =>
      rw [List.length_eq_zero_iff.mp hcount]
      rfl
  | succ count ih =>
      have hle : 8 ≤ first.length := by omega
      have hfirst : first ≠ [] := List.length_pos_iff.mp (by omega)
      have hdrop : (first.drop 8).length = 8 * count := by
        rw [List.length_drop]
        omega
      have hhead : wordOfBits 8 (first ++ second) = wordOfBits 8 first := by
        apply BitVec.eq_of_getLsbD_eq
        intro i hi
        rw [getLsbD_wordOfBits, getLsbD_wordOfBits, List.getD_append _ _ _ _ (by omega)]
      rw [bitsBytes_of_ne (List.append_ne_nil_of_left_ne_nil hfirst _), bitsBytes_of_ne hfirst,
        List.drop_append_of_le_length hle, ih hdrop, hhead, List.cons_append]

end Bytes

end ExLink
