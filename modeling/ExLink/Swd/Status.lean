/-
# SPI statuses and the outcome of a transfer

The port calls `spi_transfer` and drops every status. What a transfer returns is
decided by the receive buffers alone, and a buffer that nothing was stored in
reads as zeros: that fails the ACK test, but it is a word with a good parity.
-/

import ExLink.Swd.Transport

namespace ExLink.Swd

/-- A record of the calls made so far and of their outcomes. -/
abbrev SpiCalls := List (SpiFrame × SpiOutcome)

/-- Transfers that record each call. -/
def recorded {σ : Type*} (transfer : SpiTransfer σ) : SpiTransfer (σ × SpiCalls) :=
  fun frame s =>
    ((transfer frame s.1).1,
      (transfer frame s.1).2, s.2 ++ [(frame, (transfer frame s.1).1)])

/-- The word that call number `index` left to a phase of `nbits`. -/
def callWord (calls : SpiCalls) (index nbits : ℕ) : Word32 :=
  (calls[index]?.map fun call => received nbits call.2).getD 0#32

/-- The answer in a record: calls 2, 3 and 4 are the ACK, data and parity phases. -/
def callsAnswer (calls : SpiCalls) : SwdAnswer :=
  ⟨callWord calls 2 3, callWord calls 3 32, callWord calls 4 1⟩

section Recorded

variable {σ : Type*} (wiring : Wiring) (transfer : SpiTransfer σ)

/-- Every recorded call is a call of the transfer. -/
theorem recorded_apply (frame : SpiFrame) (s : σ) (calls : SpiCalls) :
    recorded transfer frame (s, calls) =
      ((transfer frame s).1, (transfer frame s).2, calls ++ [(frame, (transfer frame s).1)]) :=
  rfl

/-- The third call is the ACK phase, and what the record says about the words of the
read phases decides the result. -/
theorem swdPhases_recorded (request : Word32) (data : Option Word32) (port : SwdPort) (s : σ) :
    let run := swdPhases wiring (recorded transfer) request data (port, s, [])
    swdResult request data run.1 = swdResult request data (callsAnswer run.2.2.2) ∧
      ∃ frame t, run.2.2.2[2]? = some (frame, (transfer frame t).1) ∧
        run.1.ack = received 3 (transfer frame t).1 := by
  intro run
  simp only [run, swdPhases, swdWriteBits_eq, swdTurnaround_eq, swdReadBits_eq, recorded_apply,
    Nat.reduceLT, Nat.reduceLeDiff, List.nil_append, List.cons_append]
  split_ifs with hok hread
  · -- a read: the fourth and fifth calls are its data and parity phases
    exact ⟨rfl, _, _, rfl, rfl⟩
  · -- a write looks at the acknowledge alone
    refine ⟨?_, _, _, rfl, rfl⟩
    rw [swdResult_write hread, swdResult_write hread]
    rfl
  · refine ⟨?_, _, _, rfl, rfl⟩
    rw [swdResult_refused hok, swdResult_refused hok]
    rfl

end Recorded

/-- The statuses decide nothing. What `SWD_Transfer` returns is a function of the
request, the data and the words in the receive buffers, and it returns
`DAP_TRANSFER_OK` only if its ACK phase stored a unit, so that at most the closing
wait of that call failed. -/
theorem swdTransfer_buffers {σ : Type*} (wiring : Wiring) (bus : SpiBus σ) (request : Word32)
    (data : Option Word32) (port : SwdPort) (s : σ) :
    let run := swdTransfer wiring (recorded (spiTransfer bus)) request data (port, s, [])
    let calls := run.2.2.2
    run.1 = swdResult request data (callsAnswer calls) ∧
      (run.1.1 = dapTransferOk.setWidth 8 → ∃ call, calls[2]? = some call ∧
        call.2.rx.isSome ∧ (call.2.status = .success ∨ call.2.status = .timeout)) := by
  intro run calls
  obtain ⟨hresult, frame, t, hcall, hack⟩ :=
    swdPhases_recorded wiring (spiTransfer bus) request data port s
  simp only [run, calls, swdTransfer_eq]
  refine ⟨hresult, fun hok => ⟨_, hcall, ?_⟩⟩
  have hstored : (spiTransfer bus frame t).1.rx.isSome := by
    by_contra hnone
    -- nothing stored reads as an acknowledge of zero
    have hzero : received 3 (spiTransfer bus frame t).1 = 0#32 := by
      rw [received, Option.not_isSome_iff_eq_none.mp hnone]
      rfl
    have hrefused : (swdPhases wiring (recorded (spiTransfer bus)) request data
        (port, s, [])).1.ack ≠ dapTransferOk := by
      rw [hack, hzero]
      decide
    simp only [swdResult_refused hrefused, hack, hzero] at hok
    exact absurd hok (by decide)
  exact ⟨hstored, spiTransfer_rx.2 hstored⟩

/-- A bus that is found busy once, at the data phase of a write, and that receives
an OK acknowledge. Its state counts the calls. -/
def busyOnce : SpiBus ℕ where
  active calls := (decide (calls = 4), calls + 1)
  reset calls := (true, calls)
  shift _ calls := (some dapTransferOk, calls)
  idle calls := (true, calls)

/-- A write whose data phase never reached the wire still returns `DAP_TRANSFER_OK`. -/
theorem swdTransfer_ok_despite_busy :
    ¬ ∀ (σ : Type) (wiring : Wiring) (bus : SpiBus σ) (request : Word32)
        (data : Option Word32) (port : SwdPort) (s : σ),
      let run := swdTransfer wiring (recorded (spiTransfer bus)) request data (port, s, [])
      run.1.1 = dapTransferOk.setWidth 8 →
        ∀ call ∈ run.2.2.2, call.2.status = .success := by
  intro hclaim
  have hrun := hclaim ℕ .singleWire busyOnce 0#32 (some 0x12345678#32)
    ⟨true, false, 1#8, 8, false, .writeOnly⟩ 0 (by decide +kernel)
  exact absurd hrun (by decide +kernel)

end ExLink.Swd
