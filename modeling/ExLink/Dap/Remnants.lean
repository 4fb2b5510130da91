/-
# What earlier requests leave in a slot

A request is copied to the start of its slot, and the bytes behind it stay what they
were. The length of the request is stored beside it but not passed to
`DAP_ExecuteCommand`. Two slots that accepted the same request therefore behave the same
exactly if every byte that makes a difference is one of the request.
-/

import ExLink.Dap.PacketNeeds
import ExLink.Dap.Responses

namespace ExLink.Dap

open ExLink.Automata ExLink.Automata.Prog

/-! ## Executions -/

/-- The questions that are put to the SWD line. -/
def DapOp.onLine : DapOp → Bool
  | .swdTransfer _ _ | .swdReadBits _ | .swdWriteBits _ _ | .swdWriteBytes _ => true
  | _ => false

/-- The response buffer after a store. -/
def storeInto (resp : Buf) : Event DapOp.Answer → Buf
  | ⟨.store offset byte, _⟩ => Function.update resp offset byte
  | _ => resp

section Executions

variable {ε : Type} (slot : DapReqSlot) (data : DapData) (polls : ℕ)
  (target : Environment DapOp DapOp.Answer ε) (e : ε)

/-- The stores into the response and the SWD transactions of an execution, in order. -/
def courseOf : List (Event DapOp.Answer) :=
  ((dapExecuteCommand slot.buf polls).run data).events DapOp.seen target e

/-- The SWD transactions, each with what the target answered. -/
def transactionsOf : List (Event DapOp.Answer) :=
  (courseOf slot data polls target e).filter fun event => event.1.onLine

/-- `resp_len`, unless a wait for the pins has no end. -/
def respLenOf : Option Word16 :=
  (((dapExecuteCommand slot.buf polls).run data).respond target e).map fun result =>
    hostObserver.view result.1

/-- The response, unless a wait for the pins has no end. -/
def executed (resp : Buf) : Option (List Byte) :=
  (((dapExecuteCommand slot.buf polls).run data).respond target e).map fun result =>
    responseOf ((courseOf slot data polls target e).foldl storeInto resp) result.1.1

end Executions

/-- Whatever the target answers, two slots lead to the same stores and SWD transactions in
the same order, and to the same response. -/
def BehavesAs (first second : DapReqSlot) (data : DapData) (polls : ℕ) : Prop :=
  ∀ (ε : Type) (target : Environment DapOp DapOp.Answer ε), hostObserver.Admits target →
    ∀ e resp,
      courseOf first data polls target e = courseOf second data polls target e ∧
        transactionsOf first data polls target e = transactionsOf second data polls target e ∧
          executed first data polls target e resp = executed second data polls target e resp

section Behaviour

variable {first second : DapReqSlot} {data : DapData} {polls : ℕ}

/-- The stores and the length decide the response. -/
theorem executed_eq {ε : Type} (slot : DapReqSlot) (target : Environment DapOp DapOp.Answer ε)
    (e : ε) (resp : Buf) :
    executed slot data polls target e resp =
      (respLenOf slot data polls target e).map fun size =>
        ((courseOf slot data polls target e).foldl storeInto resp).prefixBytes size.toNat := by
  rw [executed, respLenOf, Option.map_map]
  congr 1
  funext result
  rw [responseOf, toNat_and_lowHalf]
  rfl

theorem length_executed {ε : Type} (slot : DapReqSlot) (target : Environment DapOp DapOp.Answer ε)
    (e : ε) (resp : Buf) :
    (executed slot data polls target e resp).map List.length =
      (respLenOf slot data polls target e).map BitVec.toNat := by
  rw [executed_eq, Option.map_map]
  congr 1
  funext size
  exact Buf.length_prefixBytes _ _

theorem behavesAs_iff_same :
    BehavesAs first second data polls ↔
      Same (dapExecuteCommand first.buf polls) (dapExecuteCommand second.buf polls) data data := by
  constructor
  · intro h ε target admits e
    obtain ⟨hcourse, -, hexecuted⟩ := h ε target admits e fun _ => 0#8
    have hlength := congrArg (Option.map List.length) hexecuted
    rw [length_executed, length_executed] at hlength
    exact ⟨hcourse, Option.map_injective (fun _ _ => BitVec.eq_of_toNat_eq) hlength⟩
  · intro h ε target admits e resp
    obtain ⟨hcourse, hview⟩ := h ε target admits e
    refine ⟨hcourse, congrArg (List.filter _) hcourse, ?_⟩
    have hlength : respLenOf first data polls target e = respLenOf second data polls target e :=
      hview
    have hstores : courseOf first data polls target e = courseOf second data polls target e :=
      hcourse
    rw [executed_eq, executed_eq, hlength, hstores]

end Behaviour

/-! ## Slots -/

/-- The slot that a submission fills. -/
def submitted (packet : List Byte) (queue : DapQueue) : DapReqSlot :=
  (dapEngineSubmit packet queue).2.ring.cells queue.ring.head

/-- A ring whose slots hold this. -/
def ringOf (buf : Buf) : DapQueue :=
  ⟨⟨fun _ => ⟨0, buf⟩, ⟨0, Nat.succ_pos _⟩, ⟨0, Nat.succ_pos _⟩⟩, 0#32, 0⟩

section Slots

variable {packet : List Byte} {queue : DapQueue}

theorem submitted_of_accepted (haccepted : (dapEngineSubmit packet queue).1 = 0) :
    submitted packet queue =
      ⟨(packet.take dapPacketSize).length,
        (queue.ring.cells queue.ring.head).buf.write (packet.take dapPacketSize)⟩ := by
  have room : ¬ queue.ring.Full := by
    intro hfull
    rw [dapEngineSubmit_of_full hfull] at haccepted
    exact absurd haccepted (show (-1 : ℤ) ≠ 0 by decide)
  rw [submitted, dapEngineSubmit, if_neg room, truncated_eq_take]
  exact Function.update_self _ _ _

/-- An accepted request stands at the start of its slot. -/
theorem holds_submitted (haccepted : (dapEngineSubmit packet queue).1 = 0) :
    Holds (Buf.ofList (packet.take dapPacketSize)) (packet.take dapPacketSize).length
      (submitted packet queue).buf := by
  intro offset hoffset
  rw [submitted_of_accepted haccepted]
  simp only [Buf.write, Buf.ofList, List.getD_eq_getElem _ _ hoffset]

/-- A slot that held a buffer with these bytes at its start still does. -/
theorem exists_submitted {buf : Buf}
    (holds : Holds (Buf.ofList (packet.take dapPacketSize)) (packet.take dapPacketSize).length
      buf) :
    ∃ queue, (dapEngineSubmit packet queue).1 = 0 ∧ (submitted packet queue).buf = buf := by
  refine ⟨ringOf buf, rfl, ?_⟩
  rw [submitted_of_accepted rfl]
  funext offset
  by_cases hoffset : offset < (packet.take dapPacketSize).length
  · rw [holds offset hoffset]
    simp only [Buf.write, Buf.ofList, List.getD_eq_getElem _ _ hoffset]
  · exact List.getD_eq_default _ _ (Nat.le_of_not_lt hoffset)

end Slots

/-- An accepted request is executed in the same way whatever earlier requests left behind it,
exactly if every byte that makes a difference is one of the request. -/
theorem dapExecuteCommand_determined_iff (packet : List Byte) (data : DapData) (polls : ℕ) :
    (∀ queue₁ queue₂, (dapEngineSubmit packet queue₁).1 = 0 →
      (dapEngineSubmit packet queue₂).1 = 0 →
        BehavesAs (submitted packet queue₁) (submitted packet queue₂) data polls) ↔
      PacketWithin (Buf.ofList (packet.take dapPacketSize)) (packet.take dapPacketSize).length
        data.link := by
  rw [← @determined_dapExecuteCommand _ _ polls]
  constructor
  · intro h b₁ b₂ hfirst hsecond
    obtain ⟨queue₁, haccepted, rfl⟩ := exists_submitted hfirst
    obtain ⟨queue₂, haccepted', rfl⟩ := exists_submitted hsecond
    exact behavesAs_iff_same.mp (h queue₁ queue₂ haccepted haccepted')
  · intro h queue₁ queue₂ haccepted haccepted'
    exact behavesAs_iff_same.mpr
      (h _ _ (holds_submitted haccepted) (holds_submitted haccepted'))

/-! ## A truncated request -/

/-- A target that acknowledges every transfer with OK, and whose pins read high. -/
def acknowledgingTarget : Environment DapOp DapOp.Answer Unit := fun _ op =>
  match op with
  | .garbage => some (0#32, ())
  | .swdTransfer _ _ => some (answering 0#32, ())
  | .swdReadBits nbits => some (BitVec.ofNat nbits 0, ())
  | .pinIn _ => some (true, ())
  | .load _ | .store _ _ | .swdWriteBits _ _ | .swdWriteBytes _ | .pinOut _ _ | .pinDirection _ _
  | .portSetup | .portOff | .setClock _ | .delaySlow _ | .delayMs _ => some ((), ())
  | .spin => none

theorem admits_acknowledgingTarget : hostObserver.Admits acknowledgingTarget where
  unheard e op hop := by
    cases op with
    | load offset => exact ⟨(), rfl⟩
    | _ => exact absurd hop.symm Bool.false_ne_true
  answers e op hop := by
    cases op with
    | spin => exact hop.some.elim
    | _ => rfl

/-- `DAP_TransferBlock` of one word to the DP register `ABORT`, without the word. -/
def truncatedBlock : List Byte := [0x06#8, 0x00#8, 0x01#8, 0x00#8, 0x00#8]

/-- A probe that is connected to an SWD port. -/
def connected : DapData := { unconnected with debugPort := dapPortSwd }

/-- A truncated request is completed by what an earlier one left in the slot: acknowledged
with OK, the word goes over the SWD line in the data phase of the write. -/
theorem dapExecuteCommand_remnants :
    ¬ ∀ (packet : List Byte) (queue₁ queue₂ : DapQueue) (data : DapData) (polls : ℕ),
      (dapEngineSubmit packet queue₁).1 = 0 → (dapEngineSubmit packet queue₂).1 = 0 →
        ∀ (ε : Type) (target : Environment DapOp DapOp.Answer ε), hostObserver.Admits target →
          ∀ e resp,
            transactionsOf (submitted packet queue₁) data polls target e =
                transactionsOf (submitted packet queue₂) data polls target e ∧
              executed (submitted packet queue₁) data polls target e resp =
                executed (submitted packet queue₂) data polls target e resp := by
  intro h
  have hsame := (h truncatedBlock (ringOf fun _ => 0x00#8) (ringOf fun _ => 0x1E#8) connected 0 rfl
    rfl Unit acknowledgingTarget admits_acknowledgingTarget () fun _ => 0#8).1
  have hfirst : (transactionsOf (submitted truncatedBlock (ringOf fun _ => 0x00#8)) connected 0
      acknowledgingTarget ()).map Sigma.fst =
        [.swdTransfer 0#32 (some 0#32), .swdTransfer readRdbuff none] := rfl
  have hsecond : (transactionsOf (submitted truncatedBlock (ringOf fun _ => 0x1E#8)) connected 0
      acknowledgingTarget ()).map Sigma.fst =
        [.swdTransfer 0#32 (some 0x1E1E1E1E#32), .swdTransfer readRdbuff none] := rfl
  rw [hsame, hsecond] at hfirst
  have hword := Option.some.inj (DapOp.swdTransfer.inj (List.cons.inj hfirst).1).2
  exact absurd hword (by decide)

end ExLink.Dap
