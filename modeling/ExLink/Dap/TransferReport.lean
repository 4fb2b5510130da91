/-
# What DAP_Transfer reports

The request loop over a whole packet, the read that closes the command and the response
that the host reads: a count of requests, a response value, and the words of the requests
that were carried out, as the plain accesses to the registers return them.
-/

import ExLink.Dap.PostedReads

namespace ExLink.Dap

open ExLink.Automata ExLink.Automata.Prog
open ExLink.Swd (AdiTarget Transferred dapTransferOk rdbuffRegister)

/-! ## The packet -/

section Packet

variable {σ τ : Type} {target : AdiTarget σ τ} {start : Beginning τ} {garbage : Word32}
  {buf : Buf} {requests done : List TransferRequest}
  {stored : List Word32} {s : DapData} {w : TransferWorld τ} {v : TransferVars}

/-- Requests that stopped before the end of the packet. -/
def StoppedShort (target : AdiTarget σ τ) (start : Beginning τ)
    (requests done : List TransferRequest) (stored : List Word32) (value mask : Word32)
    (w : TransferWorld τ) : Prop :=
  ∃ request rest, requests = done ++ request :: rest ∧
    Stopped target start done request stored value mask w

/-- What a command reports: the requests it carried out, the words it stored and the
response value. All words are there if it went well, and the target is where the requests
leave it; else the last word may be missing. It stops only at a read whose value did not match
or at a transfer that was not acknowledged within the retries. -/
structure Reported (target : AdiTarget σ τ) (start : Beginning τ)
    (requests done : List TransferRequest) (stored : List Word32) (value mask : Word32)
    (w : TransferWorld τ) : Prop where
  first : done <+: requests
  kept : wordsAt w.response start.base stored.length = stored
  fits : value.toNat < 256
  carried : ∃ words final,
    carryOutAll target.registers start.matchRetry done (start.requests target) =
      some (words, final) ∧
    final.matchMask = mask ∧ (stored = words ∨ value ≠ dapTransferOk ∧ stored = words.dropLast) ∧
      (value = dapTransferOk → done = requests ∧
        target.registers.UpToBuffer final.registers (target.state w.target)) ∧
        (value = okMismatch → ∃ request rest, requests = done ++ request :: rest ∧
          carryOut target.registers start.matchRetry request final =
            (none, ⟨target.state w.target, mask⟩))
  failed : value ≠ dapTransferOk → value ≠ okMismatch →
    (requests = [] ∧ value = 0#32) ∨ Failed target start requests[done.length]? value w.target

theorem StoppedShort.reported {value mask : Word32}
    (h : StoppedShort target start requests done stored value mask w) :
    Reported target start requests done stored value mask w := by
  obtain ⟨request, rest, rfl, stopped⟩ := h
  obtain ⟨words, final, hall, hmask, hstored, hmismatch⟩ := stopped.carried
  have hnext : (done ++ request :: rest)[done.length]? = some request := by simp
  refine ⟨List.prefix_append _ _, stopped.kept, stopped.fits,
    ⟨words, final, hall, hmask, ?_, ?_, ?_⟩, fun _ hvalue => Or.inr ?_⟩
  · exact hstored.imp_right fun hlast => ⟨stopped.refused, hlast⟩
  · exact fun hok => absurd hok stopped.refused
  · exact fun hvalue => ⟨request, rest, rfl, (hmismatch hvalue).2⟩
  · rw [hnext]
    exact stopped.failed hvalue

/-- All requests were carried out, and RDBUFF may have been read since. -/
theorem reported_of_all {value mask : Word32}
    (hall : carryOutAll target.registers start.matchRetry requests (start.requests target) =
      some (stored, ⟨target.state w.target, mask⟩))
    (hkept : wordsAt w.response start.base stored.length = stored)
    (hvalue : value = if requests = [] then 0#32 else dapTransferOk) {t : τ}
    (hbuffer : target.registers.UpToBuffer (target.state w.target) (target.state t)) :
    Reported target start requests requests stored value mask { w with target := t } := by
  refine ⟨List.prefix_refl _, hkept, ?_, ⟨stored, _, hall, rfl, Or.inl rfl, fun _ => ⟨rfl, hbuffer⟩,
    fun hmismatch => ?_⟩, fun hrefused _ => ?_⟩
  · rw [hvalue]
    split_ifs <;> decide
  · rw [hvalue] at hmismatch
    split_ifs at hmismatch <;> exact absurd hmismatch (by decide)
  · by_cases hnone : requests = []
    · exact Or.inl ⟨hnone, hvalue.trans (if_pos hnone)⟩
    · exact absurd (hvalue.trans (if_neg hnone)) hrefused

theorem Carried.reported {value mask : Word32}
    (h : Carried target start requests false stored mask w)
    (hvalue : value = if requests = [] then 0#32 else dapTransferOk) :
    Reported target start requests requests stored value mask w :=
  reported_of_all h.all h.kept hvalue (PostedRegisters.UpToBuffer.refl _ _)

/-- The bytes before the words are not looked at. -/
theorem Reported.store {value mask : Word32}
    (h : Reported target start requests done stored value mask w) {offset : ℕ}
    (hbefore : offset < start.base) (byte : Byte) :
    Reported target start requests done stored value mask
      { w with response := Function.update w.response offset byte } := by
  refine ⟨h.first, ?_, h.fits, h.carried, h.failed⟩
  rw [← h.kept, length_wordsAt]
  apply wordsAt_congr
  intro position hlow _
  exact Function.update_of_ne (by omega) _ _

end Packet

/-! ## DAP_Transfer -/

end ExLink.Dap
