/-
# Bytes, words and byte buffers

Fixed-width values are bit vectors. A buffer is the memory seen through one
pointer: a byte at every offset, whatever its capacity, so that an out-of-bounds
access is a statement about the offset and not a missing case of a definition.
-/

import Mathlib.Data.List.Basic
import Mathlib.Data.List.Range
import Mathlib.Logic.Function.Basic

namespace ExLink

/-- `uint8_t`. -/
abbrev Byte := BitVec 8

/-- `uint16_t`. -/
abbrev Word16 := BitVec 16

/-- `uint32_t`. -/
abbrev Word32 := BitVec 32

/-- The memory behind a byte pointer. -/
abbrev Buf := ℕ → Byte

namespace Buf

/-- A buffer that holds the given bytes at its start. -/
def ofList (bytes : List Byte) : Buf := fun offset => bytes.getD offset 0

/-- The first `count` bytes, `buf[0..count)`. -/
def prefixBytes (buf : Buf) (count : ℕ) : List Byte := (List.range count).map buf

@[simp]
theorem length_prefixBytes (buf : Buf) (count : ℕ) :
    (buf.prefixBytes count).length = count := by
  simp [prefixBytes]

theorem prefixBytes_succ (buf : Buf) (count : ℕ) :
    buf.prefixBytes (count + 1) = buf.prefixBytes count ++ [buf count] := by
  simp [prefixBytes, List.range_succ]

/-- Bytes from an offset on, the first one apart. -/
theorem prefixBytes_shift_succ (buf : Buf) (offset count : ℕ) :
    prefixBytes (fun index => buf (offset + index)) (count + 1) =
      buf offset :: prefixBytes (fun index => buf (offset + 1 + index)) count := by
  simp only [prefixBytes, List.range_succ_eq_map, List.map_cons, List.map_map, Nat.add_zero]
  congr 1
  apply List.map_congr_left
  intro index _
  exact congrArg buf (by omega)

/-- Two buffers with the same first bytes have the same prefix. -/
theorem prefixBytes_congr {first second : Buf} {count : ℕ}
    (agree : ∀ offset < count, first offset = second offset) :
    first.prefixBytes count = second.prefixBytes count := by
  apply List.map_congr_left
  intro offset inside
  exact agree offset (List.mem_range.mp inside)

/-- A write at or past the end of a prefix does not change it. -/
theorem prefixBytes_update_of_le (buf : Buf) (byte : Byte) {count offset : ℕ}
    (outside : count ≤ offset) :
    Buf.prefixBytes (Function.update buf offset byte) count = buf.prefixBytes count := by
  apply prefixBytes_congr
  intro position inside
  exact Function.update_of_ne (by omega) _ _

/-- Writing the next byte extends the prefix by it. -/
theorem prefixBytes_update_succ (buf : Buf) (byte : Byte) (count : ℕ) :
    Buf.prefixBytes (Function.update buf count byte) (count + 1) =
      buf.prefixBytes count ++ [byte] := by
  rw [prefixBytes_succ, prefixBytes_update_of_le buf byte (le_refl count),
    Function.update_self]

/-- Reading back a whole list through its buffer. -/
@[simp]
theorem prefixBytes_ofList (bytes : List Byte) :
    (ofList bytes).prefixBytes bytes.length = bytes := by
  apply List.ext_getElem
  · simp
  · intro offset hleft hright
    simp [prefixBytes, ofList, List.getElem?_eq_getElem hright]

/-- `memcpy` of a byte list to the start of a buffer. -/
def write (buf : Buf) (bytes : List Byte) : Buf := fun offset => bytes.getD offset (buf offset)

/-- What was copied is read back. -/
@[simp]
theorem prefixBytes_write (buf : Buf) (bytes : List Byte) :
    (buf.write bytes).prefixBytes bytes.length = bytes := by
  have hsame : (buf.write bytes).prefixBytes bytes.length =
      (ofList bytes).prefixBytes bytes.length := by
    apply prefixBytes_congr
    intro offset inside
    simp [write, ofList, inside]
  rw [hsame, prefixBytes_ofList]

end Buf

/-! ## Little-endian halves of a 16-bit word -/

namespace Word16

/-- The low byte, `(uint8_t)(w & 0xFF)`. -/
def lowByte (word : Word16) : Byte := word.setWidth 8

/-- The high byte, `(uint8_t)((w >> 8) & 0xFF)`. -/
def highByte (word : Word16) : Byte := (word >>> 8).setWidth 8

/-- The word with the given low and high bytes, `lo | (hi << 8)`. -/
def ofBytes (low high : Byte) : Word16 := low.setWidth 16 ||| (high.setWidth 16 <<< 8)

theorem getLsbD_ofBytes (low high : Byte) (i : ℕ) :
    (ofBytes low high).getLsbD i = if i < 8 then low.getLsbD i else high.getLsbD (i - 8) := by
  rw [ofBytes, BitVec.getLsbD_or, BitVec.getLsbD_shiftLeft, BitVec.getLsbD_setWidth,
    BitVec.getLsbD_setWidth]
  by_cases hlow : i < 8
  · have hwidth : i < 16 := by omega
    simp [hlow, hwidth]
  · rw [if_neg hlow, BitVec.getLsbD_of_ge low i (Nat.not_lt.mp hlow)]
    by_cases hi : i < 16
    · have hwidth : i - 8 < 16 := by omega
      simp [hi, hlow, hwidth]
    · simp [hi, BitVec.getLsbD_of_ge high (i - 8) (by omega)]

@[simp]
theorem ofBytes_low_high (word : Word16) : ofBytes word.lowByte word.highByte = word := by
  apply BitVec.eq_of_getLsbD_eq
  intro bit hbit
  rw [getLsbD_ofBytes]
  split_ifs with hlow
  · simp [lowByte, hlow]
  · have hhigh : bit - 8 < 8 := by omega
    have hback : 8 + (bit - 8) = bit := by omega
    simp [highByte, hhigh, hback]

@[simp]
theorem lowByte_ofBytes (low high : Byte) : (ofBytes low high).lowByte = low := by
  apply BitVec.eq_of_getLsbD_eq
  intro bit hbit
  rw [lowByte, BitVec.getLsbD_setWidth, getLsbD_ofBytes, if_pos hbit, decide_eq_true hbit,
    Bool.true_and]

@[simp]
theorem highByte_ofBytes (low high : Byte) : (ofBytes low high).highByte = high := by
  apply BitVec.eq_of_getLsbD_eq
  intro bit hbit
  rw [highByte, BitVec.getLsbD_setWidth, BitVec.getLsbD_ushiftRight, getLsbD_ofBytes,
    if_neg (by omega), decide_eq_true hbit, Bool.true_and, Nat.add_sub_cancel_left]

/-- The halves do not meet. -/
theorem ofBytes_eq_xor (low high : Byte) :
    ofBytes low high = low.setWidth 16 ^^^ (high.setWidth 16 <<< 8) := by
  apply BitVec.eq_of_getLsbD_eq
  intro bit hbit
  rw [getLsbD_ofBytes, BitVec.getLsbD_xor, BitVec.getLsbD_shiftLeft, BitVec.getLsbD_setWidth,
    BitVec.getLsbD_setWidth]
  split_ifs with hlow
  · simp [hlow, hbit]
  · have hwidth : bit - 8 < 16 := by omega
    simp [hlow, hbit, hwidth, BitVec.getLsbD_of_ge low bit (Nat.not_lt.mp hlow)]

/-- Exclusive or, half by half. -/
theorem ofBytes_xor (low high lowMask highMask : Byte) :
    ofBytes (low ^^^ lowMask) (high ^^^ highMask) =
      ofBytes low high ^^^ ofBytes lowMask highMask := by
  rw [ofBytes_eq_xor, ofBytes_eq_xor, ofBytes_eq_xor, BitVec.setWidth_xor, BitVec.setWidth_xor,
    BitVec.shiftLeft_xor_distrib]
  ac_rfl

end Word16

/-! ## Little-endian bytes of a 32-bit word -/

namespace Word32

/-- The word in four consecutive bytes, low byte first. -/
def ofBuf (buf : Buf) : Word32 :=
  ((buf 0).setWidth 32 <<< 0) ||| ((buf 1).setWidth 32 <<< 8) |||
    ((buf 2).setWidth 32 <<< 16) ||| ((buf 3).setWidth 32 <<< 24)

end Word32

end ExLink
