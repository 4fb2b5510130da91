/-
# A target as its registers

What a debugger means by a target: registers of the debug port and of an access port that
are read and written one at a time. The wire in front of them answers WAIT, FAULT or
nothing as it likes and may garble a word, but what it acknowledges was carried out, and a
word with the right parity bit is the word that was read. A read of an access port is
posted: its word is handed out by the next read of the access port or of RDBUFF, if that is
the next transfer.
-/

import ExLink.Automata.Registers
import ExLink.Swd.Access
import Mathlib.Logic.Relation

namespace ExLink.Swd

open ExLink.Automata

/-! ## Registers -/

/-- A register of the debug port, or of the access port that SELECT names. -/
structure AdiRegister where
  onAp : Bool
  offset : Byte
  deriving DecidableEq

/-- The register that a request is for. -/
def registerOf (request : Word32) : AdiRegister :=
  ⟨decide (request &&& dapTransferAPnDP ≠ 0#32), (request &&& 0x0C#32).setWidth 8⟩

/-- RDBUFF. -/
def rdbuffRegister : AdiRegister := ⟨false, dpRdbuff⟩

/-- The registers of a target. Reads of an access port are posted, and a read of RDBUFF right
after one fetches the word; what a second read of RDBUFF returns is up to the target. -/
abbrev AdiRegisters (σ : Type*) :=
  PostedRegisters AdiRegister Word32 σ AdiRegister.onAp rdbuffRegister

/-! ## The wire in front of them -/

/-- A target whose acknowledged transfers are accesses to its registers. It may answer WAIT
at any time, which has no effect. -/
structure AdiTarget (σ τ : Type*) extends SwdTarget τ where
  registers : AdiRegisters σ
  state : τ → σ
  /-- The transfer acknowledged last was a read of an access port. -/
  posted : τ → Prop
  wait_answer : ∀ request word t, (answer request word t).1.ack = dapTransferWait →
    state (answer request word t).2 = state t ∧ (posted t → posted (answer request word t).2)
  write_answer : ∀ request word t, (answer request word t).1.ack = dapTransferOk →
    ¬ IsRead request →
      state (answer request word t).2 = registers.write (registerOf request) word (state t)
  read_answer : ∀ request word t, (answer request word t).1.ack = dapTransferOk →
    IsRead request →
      state (answer request word t).2 = (registers.read (registerOf request) (state t)).2 ∧
        ((registerOf request).onAp = true → posted (answer request word t).2)
  dp_answer : ∀ request word t, (answer request word t).1.ack = dapTransferOk →
    IsRead request → (registerOf request).onAp = false → ¬ (answer request word t).1.BadParity →
      (answer request word t).1.data = (registers.read (registerOf request) (state t)).1
  ap_answer : ∀ request word t, (answer request word t).1.ack = dapTransferOk →
    IsRead request → (registerOf request).onAp = true → ¬ (answer request word t).1.BadParity →
      posted t → (answer request word t).1.data = (registers.read rdbuffRegister (state t)).1

/-! ## Transfers -/

section Transfers

variable {answer : SwdAnswer} {request : Word32} {data : Option Word32}

theorem setWidth_ack (hlt : answer.ack.toNat < 8) :
    (answer.ack.setWidth 8).setWidth 32 = answer.ack := by
  apply BitVec.eq_of_toNat_eq
  rw [BitVec.toNat_setWidth, BitVec.toNat_setWidth]
  omega

theorem swdResult_wait (hlt : answer.ack.toNat < 8)
    (hwait : (swdResult request data answer).1.setWidth 32 = dapTransferWait) :
    answer.ack = dapTransferWait ∧ (swdResult request data answer).2 = data := by
  by_cases hread : answer.ack = dapTransferOk ∧ IsRead request
  · rw [swdResult, if_pos hread, hread.1] at hwait
    simp only at hwait
    split_ifs at hwait <;> exact absurd hwait (by decide)
  · rw [swdResult, if_neg hread, setWidth_ack hlt] at hwait
    rw [swdResult, if_neg hread]
    exact ⟨hwait, rfl⟩

end Transfers

/-- `SWD_Transfer` with `tries` more attempts after a WAIT: the value that the commands get,
and the target after it. -/
def attempt {τ : Type*} (target : SwdTarget τ) (request : Word32) (data : Option Word32)
    (tries : ℕ) (t : τ) : Word32 × τ :=
  let (answer, after) := settle target request (data.getD 0#32) tries t
  ((swdResult request data answer).1.setWidth 32, after)

/-- The target after transfers that were all acknowledged within the retries. -/
def LeadsTo {τ : Type*} (target : SwdTarget τ) (tries : ℕ) : τ → τ → Prop :=
  Relation.ReflTransGen fun t after =>
    ∃ request data, attempt target request data tries t = (dapTransferOk, after)

/-- What a transfer, with its retries, did to the target and returned. -/
structure Transferred {σ τ : Type*} (target : AdiTarget σ τ) (tries : ℕ) (request : Word32)
    (data : Option Word32) (before after : τ) (value : Word32) (out : Option Word32) : Prop where
  attempted : attempt target.toSwdTarget request data tries before = (value, after)
  range : value.toNat < 8 ∨ value = dapTransferOk ||| dapTransferError
  write : value = dapTransferOk → ¬ IsRead request →
    target.state after =
      target.registers.write (registerOf request) (data.getD 0#32) (target.state before)
  read : value = dapTransferOk → IsRead request →
    target.state after = (target.registers.read (registerOf request) (target.state before)).2 ∧
      ((registerOf request).onAp = true → target.posted after)
  dp : value = dapTransferOk → IsRead request → (registerOf request).onAp = false →
    out = data.map fun _ =>
      (target.registers.read (registerOf request) (target.state before)).1
  ap : value = dapTransferOk → IsRead request → (registerOf request).onAp = true →
    target.posted before →
      out = data.map fun _ => (target.registers.read rdbuffRegister (target.state before)).1

namespace Transferred

variable {σ τ : Type*} {target : AdiTarget σ τ} {tries : ℕ} {request : Word32}
  {data : Option Word32}

/-- One more transfer that was acknowledged. -/
theorem leadsTo {origin t after : τ} {value : Word32} {out : Option Word32}
    (h : Transferred target tries request data t after value out) (hok : value = dapTransferOk)
    (hreached : LeadsTo target.toSwdTarget tries origin t) :
    LeadsTo target.toSwdTarget tries origin after :=
  hreached.tail ⟨request, data, by rw [h.attempted, hok]⟩

end Transferred

/-! ## Slow registers -/

/-- Registers of which those of the access port count up when they are read, with the word
that RDBUFF can hand out once. -/
structure RegisterFile where
  values : AdiRegister → Word32
  posted : Option Word32

namespace RegisterFile

def read (register : AdiRegister) (file : RegisterFile) : Word32 × RegisterFile :=
  if register.onAp then
    (file.values register,
      { values := Function.update file.values register (file.values register + 1#32)
        posted := some (file.values register) })
  else if register = rdbuffRegister then (file.posted.getD 0#32, { file with posted := none })
  else (file.values register, file)

def write (register : AdiRegister) (word : Word32) (file : RegisterFile) : RegisterFile :=
  { file with values := Function.update file.values register word }

end RegisterFile

/-- A target that answers every other request with WAIT, and one with FAULT. -/
structure SlowFile where
  ticks : ℕ
  fault : ℕ
  file : RegisterFile
  posted : Bool

namespace SlowFile

def ack (t : SlowFile) : Word32 :=
  if t.ticks % 2 = 0 then dapTransferWait
  else if t.ticks = t.fault then dapTransferFault
  else dapTransferOk

theorem ack_lt (t : SlowFile) : t.ack.toNat < 8 := by
  rw [ack]
  split_ifs <;> decide

/-- The word of an acknowledged read: that of the read before for an access port. -/
def word (request : Word32) (t : SlowFile) : Word32 :=
  if (registerOf request).onAp then (t.file.read rdbuffRegister).1
  else (t.file.read (registerOf request)).1

end SlowFile

end ExLink.Swd
