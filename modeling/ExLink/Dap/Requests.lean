/-
# What a list of transfer requests asks for

The plain meaning of a `DAP_Transfer` packet: its requests one after the other, each an
access to a register of the target that is over before the next begins. Nothing is posted
here and no word is held back.
-/

import ExLink.Dap.Transfer
import ExLink.Swd.AdiTarget

namespace ExLink.Dap

open ExLink.Swd (AdiRegister AdiRegisters IsRead registerOf)

/-! ## Requests -/

/-- A request of a packet. -/
inductive TransferRequest where
  | read (register : AdiRegister)
  | readUntil (register : AdiRegister) (value : Word32)
  | write (register : AdiRegister) (word : Word32)
  | matchMask (mask : Word32)
  deriving DecidableEq

/-- The transfers over the wire that a request is made by. -/
def TransferRequest.MadeBy (wire : Word32) (data : Option Word32) : TransferRequest → Prop
  | .read register | .readUntil register _ => IsRead wire ∧ registerOf wire = register
  | .write register word => ¬ IsRead wire ∧ registerOf wire = register ∧ data = some word
  | .matchMask _ => False

/-- The registers of the target, and the mask of the comparisons. -/
structure RequestState (σ : Type*) where
  registers : σ
  matchMask : Word32

section Meaning

variable {σ : Type*} (registers : AdiRegisters σ) (matchRetry : ℕ)

/-- The words that a request returns, and what it leaves. A read until a value matches
returns none, and fails if no read in the retries matched; an access port is read once more
than is compared. -/
def carryOut : TransferRequest → RequestState σ → Option (List Word32) × RequestState σ
  | .read register, s =>
      let (word, after) := registers.readWord register s.registers
      (some [word], { s with registers := after })
  | .readUntil register value, s =>
      let (matched, after) := registers.poll register
        (fun word => word &&& s.matchMask = value) matchRetry s.registers
      let after := if register.onAp then (registers.read register after).2 else after
      (if matched then some [] else none, { s with registers := after })
  | .write register word, s =>
      (some [], { s with registers := registers.write register word s.registers })
  | .matchMask mask, s => (some [], { s with matchMask := mask })

/-- All of them in order; nothing if one fails. -/
def carryOutAll : List TransferRequest → RequestState σ → Option (List Word32 × RequestState σ)
  | [], s => some ([], s)
  | request :: rest, s =>
      let run := carryOut registers matchRetry request s
      run.1.bind fun words =>
        (carryOutAll rest run.2).map fun result => (words ++ result.1, result.2)

variable {registers matchRetry}

/-- One request more. -/
theorem carryOutAll_concat {requests : List TransferRequest} {request : TransferRequest}
    {s middle after : RequestState σ} {words more : List Word32}
    (hfirst : carryOutAll registers matchRetry requests s = some (words, middle))
    (hlast : carryOut registers matchRetry request middle = (some more, after)) :
    carryOutAll registers matchRetry (requests ++ [request]) s = some (words ++ more, after) := by
  induction requests generalizing s words with
  | nil =>
      obtain ⟨rfl, rfl⟩ := Prod.mk.inj (Option.some.inj hfirst)
      simp [carryOutAll, hlast]
  | cons first rest ih =>
      rw [carryOutAll, Option.bind_eq_some_iff] at hfirst
      obtain ⟨head, hhead, htail⟩ := hfirst
      obtain ⟨result, hrest, hresult⟩ := Option.map_eq_some_iff.mp htail
      obtain ⟨rfl, rfl⟩ := Prod.mk.inj hresult
      rw [List.cons_append, carryOutAll, hhead, Option.bind_some, ih hrest, Option.map_some,
        List.append_assoc]

end Meaning

end ExLink.Dap
