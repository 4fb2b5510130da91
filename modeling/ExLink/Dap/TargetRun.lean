/-
# The transfer commands in front of a target

The world that `DAP_Transfer` and `DAP_TransferBlock` meet: a target that answers SWD
transfers, and the response buffer that the host reads afterwards. Each step of the
commands is said once here: what it leaves in the response, and what it did to the
registers of the target.
-/

import ExLink.Automata.Execution
import ExLink.Dap.Requests

namespace ExLink.Dap

open ExLink.Automata ExLink.Automata.Prog
open ExLink.Swd (AdiRegister AdiTarget IsRead SwdTarget Transferred registerOf swdResult
  dapTransferAPnDP dapTransferOk dapTransferRnW dapTransferWait)

/-! ## Words in the response -/

/-- Four bytes, low one first. -/
def putWord (buf : Buf) (offset : ℕ) (data : Word32) : Buf :=
  Function.update (Function.update (Function.update (Function.update buf offset
    (data.setWidth 8)) (offset + 1) ((data >>> 8).setWidth 8)) (offset + 2)
      ((data >>> 16).setWidth 8)) (offset + 3) ((data >>> 24).setWidth 8)

/-- Consecutive words. -/
def wordsAt (buf : Buf) (offset count : ℕ) : List Word32 :=
  (List.range count).map fun index => wordAt buf (offset + 4 * index)

section Words

variable {buf first second : Buf} {offset count : ℕ}

@[simp]
theorem length_wordsAt : (wordsAt buf offset count).length = count := by simp [wordsAt]

theorem putWord_of_lt (data : Word32) {position : ℕ} (hbefore : position < offset) :
    putWord buf offset data position = buf position := by
  rw [putWord, Function.update_of_ne (by omega), Function.update_of_ne (by omega),
    Function.update_of_ne (by omega), Function.update_of_ne (by omega)]

/-- A word is its four bytes. -/
theorem ofBytes_eq (data : Word32) :
    ((data.setWidth 8).setWidth 32 <<< 0) ||| (((data >>> 8).setWidth 8).setWidth 32 <<< 8) |||
      (((data >>> 16).setWidth 8).setWidth 32 <<< 16) |||
        (((data >>> 24).setWidth 8).setWidth 32 <<< 24) = data := by
  apply BitVec.eq_of_getLsbD_eq
  intro bit hbit
  simp only [BitVec.getLsbD_or, BitVec.getLsbD_shiftLeft, BitVec.getLsbD_setWidth,
    BitVec.getLsbD_ushiftRight, decide_eq_true hbit]
  by_cases h8 : bit < 8
  · simp [h8, hbit, show bit < 16 by omega, show bit < 24 by omega]
  · by_cases h16 : bit < 16
    · simp [h8, h16, show bit < 24 by omega, show bit - 8 < 8 by omega, show bit - 8 < 32 by omega,
        show 8 + (bit - 8) = bit by omega]
    · by_cases h24 : bit < 24
      · simp [h8, h16, h24, show ¬ bit - 8 < 8 by omega, show bit - 16 < 8 by omega,
          show bit - 16 < 32 by omega, show 16 + (bit - 16) = bit by omega]
      · simp [h8, h16, h24, show ¬ bit - 8 < 8 by omega, show ¬ bit - 16 < 8 by omega,
          show bit - 24 < 8 by omega, show bit - 24 < 32 by omega,
          show 24 + (bit - 24) = bit by omega]

@[simp]
theorem wordAt_putWord (data : Word32) : wordAt (putWord buf offset data) offset = data := by
  have h0 : putWord buf offset data (offset + 0) = data.setWidth 8 := by
    rw [putWord, Function.update_of_ne (by omega), Function.update_of_ne (by omega),
      Function.update_of_ne (by omega)]
    exact Function.update_self _ _ _
  have h1 : putWord buf offset data (offset + 1) = (data >>> 8).setWidth 8 := by
    rw [putWord, Function.update_of_ne (by omega), Function.update_of_ne (by omega),
      Function.update_self]
  have h2 : putWord buf offset data (offset + 2) = (data >>> 16).setWidth 8 := by
    rw [putWord, Function.update_of_ne (by omega), Function.update_self]
  have h3 : putWord buf offset data (offset + 3) = (data >>> 24).setWidth 8 := by
    rw [putWord, Function.update_self]
  rw [wordAt, Word32.ofBuf, h0, h1, h2, h3]
  exact ofBytes_eq data

theorem wordAt_congr (agree : ∀ position, offset ≤ position → position < offset + 4 →
    first position = second position) : wordAt first offset = wordAt second offset := by
  simp only [wordAt, Word32.ofBuf]
  rw [agree _ (by omega) (by omega), agree _ (by omega) (by omega), agree _ (by omega) (by omega),
    agree _ (by omega) (by omega)]

theorem wordsAt_congr (agree : ∀ position, offset ≤ position → position < offset + 4 * count →
    first position = second position) : wordsAt first offset count = wordsAt second offset count := by
  apply List.map_congr_left
  intro index hindex
  have hlt := List.mem_range.mp hindex
  apply wordAt_congr
  intro position hlow hhigh
  exact agree position (by omega) (by omega)

/-- A word behind the others. -/
theorem wordsAt_putWord (data : Word32) :
    wordsAt (putWord buf (offset + 4 * count) data) offset (count + 1) =
      wordsAt buf offset count ++ [data] := by
  rw [wordsAt, List.range_succ, List.map_append, List.map_cons, List.map_nil, wordAt_putWord,
    ← wordsAt]
  congr 1
  apply wordsAt_congr
  intro position _ hhigh
  exact putWord_of_lt data hhigh

end Words

/-! ## The world -/

/-- The target, and the response buffer. -/
structure TransferWorld (τ : Type) where
  target : τ
  response : Buf

section Steps

variable {σ τ : Type} {target : AdiTarget σ τ} {garbage : Word32} {buf : Buf} {s : DapData}
  {w : TransferWorld τ}

end Steps

end ExLink.Dap
