/-
# The SPI transport and the bit-banged reference agree on the line

Both sides are brought to the same form first: which clocks a phase makes, and what
it reads from the levels in them. A transfer with an acknowledge that both sides
know then makes the same clocks and returns the same.
-/

import ExLink.Swd.Reference

namespace ExLink.Swd

/-! ## Phases of the SPI transport on the line -/

section SpiPhases

variable (wiring : Wiring) (line : SwdLine) {nbits : ℕ} (port : SwdPort)
  (history : List SwdClock)

/-- The line as the reference sees it, where a released clock is only released. -/
def referenceLine : SwdLine := fun clocks => line (clocks.map (onWire wiring))

/-- Driven clocks are the same in both builds. -/
theorem map_onWire_unitClocks (unit : Word32) :
    (unitClocks nbits unit).map (onWire wiring) = unitClocks nbits unit := by
  rw [unitClocks, List.map_map]
  rfl

theorem swdWriteBits_line (hpos : 0 < nbits) (hle : nbits ≤ 32) (val : Word32) :
    swdWriteBits wiring (lineTransfer line) val nbits (port, history.map (onWire wiring)) =
      (afterPhase wiring true nbits port,
        (history ++ unitClocks nbits val).map (onWire wiring)) := by
  rw [swdWriteBits_eq, lineTransfer, frameClocks_writeFrame wiring port hpos hle,
    List.map_append, map_onWire_unitClocks]

/-- A word of at most `nbits` bits is received whole. -/
theorem received_wordOfBits {bits : List Bool} (hlen : bits.length = nbits) (status : HpmStat) :
    received nbits ⟨status, some (wordOfBits 32 bits)⟩ = wordOfBits 32 bits := by
  apply BitVec.eq_of_getLsbD_eq
  intro i hi
  rw [received, Option.getD_some, BitVec.getLsbD_setWidth, BitVec.getLsbD_setWidth]
  by_cases hin : i < nbits
  · simp [hi, hin]
  · have hout : (wordOfBits 32 bits).getLsbD i = false := by
      rw [getLsbD_wordOfBits, List.getD_eq_default _ _ (by omega), Bool.and_false]
    simp [hin, hout]

theorem swdReadBits_line (hpos : 0 < nbits) (hle : nbits ≤ 32) :
    swdReadBits wiring (lineTransfer line) nbits (port, history.map (onWire wiring)) =
      (wordOfBits 32 (levels (referenceLine wiring line) history (List.replicate nbits none)),
        afterPhase wiring false nbits port,
        (history ++ List.replicate nbits none).map (onWire wiring)) := by
  rw [swdReadBits_eq wiring _ hpos hle, lineTransfer, frameClocks_readFrame wiring port hpos hle,
    levels_map, received_wordOfBits (by simp), List.map_append]
  rfl

theorem swdTurnaround_line (hturn : turnaroundClocks port = 1) :
    swdTurnaround wiring (lineTransfer line) (port, history.map (onWire wiring)) =
      (afterPhase wiring false 1 port, (history ++ [none]).map (onWire wiring)) := by
  rw [swdTurnaround, hturn, swdReadBits_line wiring line port history (by decide) (by decide)]
  rfl

@[simp]
theorem turnaroundClocks_afterPhase (drive : Bool) (port : SwdPort) :
    turnaroundClocks (afterPhase wiring drive nbits port) = turnaroundClocks port := by
  rw [turnaroundClocks, turnaroundClocks, trn_afterPhase]

theorem unitClocks_succ (count : ℕ) (unit : Word32) :
    unitClocks (count + 1) unit = some (unit.getLsbD 0) :: unitClocks count (unit >>> 1) := by
  rw [unitClocks, List.range_succ_eq_map, List.map_cons, List.map_map, unitClocks]
  congr 1
  apply List.map_congr_left
  intro i _
  simp only [Function.comp_apply, BitVec.getLsbD_ushiftRight, Nat.succ_eq_add_one,
    Nat.add_comm 1 i]

end SpiPhases

/-! ## Phases of the reference -/

section ReferencePhases

variable (line : SwdLine) (level : Bool) (history : List SwdClock)

@[simp]
theorem swWriteBit_enabled (bit : Word32) :
    swWriteBit bit ⟨true, level, history⟩ =
      ⟨true, bit.getLsbD 0, history ++ [some (bit.getLsbD 0)]⟩ := rfl

@[simp]
theorem swReadBit_released :
    swReadBit line ⟨false, level, history⟩ =
      (if line (history ++ [none]) then 1#32 else 0#32,
        ⟨false, level, history ++ [none]⟩) := rfl

@[simp]
theorem clockCycles_one_released :
    SwdPins.clockCycles 1 ⟨false, level, history⟩ = ⟨false, level, history ++ [none]⟩ := rfl

/-- Bit 0 of a sum. -/
theorem getLsbD_zero_add (first second : Word32) :
    (first + second).getLsbD 0 = (first.getLsbD 0 ^^ second.getLsbD 0) := by
  rw [BitVec.getLsbD_add (by decide)]
  simp

/-- The request byte, bit by bit. -/
theorem unitClocks_requestByte (request : Word32) :
    unitClocks 8 ((requestByte request).setWidth 32) =
      [some true, some (request.getLsbD 0), some (request.getLsbD 1), some (request.getLsbD 2),
        some (request.getLsbD 3),
        some (request.getLsbD 0 ^^ request.getLsbD 1 ^^ request.getLsbD 2 ^^ request.getLsbD 3),
        some false, some true] := by
  simp [unitClocks, requestByte, List.range_succ]

/-- The reference sends the request byte, with its parity summed up instead of
folded. -/
theorem refRequest_eq (request : Word32) :
    refRequest request ⟨true, level, history⟩ =
      ⟨true, true, history ++ unitClocks 8 ((requestByte request).setWidth 32)⟩ := by
  rw [unitClocks_requestByte, refRequest]
  simp only [swWriteBit_enabled, getLsbD_zero_add, List.append_assoc, List.cons_append,
    List.nil_append]
  simp

/-- Three bits, each or-ed into its place. -/
theorem or_shiftLeft_bits (bit0 bit1 bit2 : Bool) :
    (((if bit0 then 1#32 else 0#32) <<< 0) ||| ((if bit1 then 1#32 else 0#32) <<< 1) |||
      ((if bit2 then 1#32 else 0#32) <<< 2) : Word32) = wordOfBits 32 [bit0, bit1, bit2] := by
  revert bit0 bit1 bit2
  decide

theorem refAck_eq :
    refAck line ⟨false, level, history⟩ =
      (wordOfBits 32 (levels line history (List.replicate 3 none)),
        ⟨false, level, history ++ List.replicate 3 none⟩) := by
  simp only [refAck, swReadBit_released, or_shiftLeft_bits, List.replicate_succ,
    List.replicate_zero, levels_cons, levels_nil, List.append_assoc, List.cons_append,
    List.nil_append]

/-- The sum of the bits that the data loop reads. -/
def bitSum (parity : Word32) (bits : List Bool) : Word32 :=
  bits.foldl (fun sum bit => sum + if bit then 1#32 else 0#32) parity

theorem getLsbD_zero_bitSum (bits : List Bool) (parity : Word32) :
    (bitSum parity bits).getLsbD 0 = bits.foldl Bool.xor (parity.getLsbD 0) := by
  induction bits generalizing parity with
  | nil => rfl
  | cons bit rest ih =>
      rw [bitSum, List.foldl_cons, List.foldl_cons, ← bitSum, ih, getLsbD_zero_add]
      cases bit <;> rfl

/-- The data loop shifts in the levels of its clocks and sums them up. -/
theorem refReadData_eq (count : ℕ) (val parity : Word32) :
    let bits := levels line history (List.replicate count none)
    refReadData line count val parity ⟨false, level, history⟩ =
      ((bits.foldl shiftIn val, bitSum parity bits),
        ⟨false, level, history ++ List.replicate count none⟩) := by
  induction count generalizing val parity history with
  | zero => simp [refReadData, bitSum]
  | succ count ih =>
      have hshift : ∀ bit : Bool,
          (val >>> 1) ||| ((if bit then 1#32 else 0#32) <<< 31) = shiftIn val bit := by
        intro bit
        cases bit <;> rfl
      simp only [refReadData, swReadBit_released, hshift, ih, List.replicate_succ, levels_cons,
        List.foldl_cons, bitSum, List.append_assoc, List.cons_append, List.nil_append]

/-- The write loop drives the bits of the word and sums up their parity. -/
theorem refWriteData_eq (count : ℕ) (val parity : Word32) :
    ∃ sum last, refWriteData count val parity ⟨true, level, history⟩ =
        (sum, ⟨true, last, history ++ unitClocks count val⟩) ∧
      sum.getLsbD 0 = (parity.getLsbD 0 ^^ xorBits val count) := by
  induction count generalizing val parity level history with
  | zero => exact ⟨parity, level, by simp [refWriteData, unitClocks]⟩
  | succ count ih =>
      have hparity : xorBits val (count + 1) = (val.getLsbD 0 ^^ xorBits (val >>> 1) count) := by
        rw [Nat.add_comm, xorBits_add, xorBits_succ, xorBits_zero, Bool.false_xor]
      obtain ⟨sum, last, hrun, hsum⟩ :=
        ih (val.getLsbD 0) (history ++ [some (val.getLsbD 0)]) (val >>> 1) (parity + val)
      refine ⟨sum, last, ?_, ?_⟩
      · rw [refWriteData, swWriteBit_enabled, hrun, unitClocks_succ, List.append_assoc]
        rfl
      · rw [hsum, getLsbD_zero_add, hparity, Bool.xor_assoc]

end ReferencePhases

/-! ## Whole transfers -/

/-- One turnaround clock, no data phase after WAIT or FAULT, no idle cycles. -/
def plainConf : SwdConf := ⟨1, false, 0⟩

section Reference

variable {request : Word32} (line : SwdLine) (level : Bool) (history : List SwdClock)

/-- The reference reads a word and its parity bit. -/
theorem refDataTransfer_read (hread : IsRead request) (data ack : Word32) :
    let bits := levels line history (List.replicate 32 none)
    let bit := line (history ++ List.replicate 32 none ++ [none])
    refDataTransfer plainConf line request data ack ⟨false, level, history⟩ =
      ((if xorBits (wordOfBits 32 bits) 32 ≠ bit then dapTransferError else ack,
          wordOfBits 32 bits),
        ⟨true, level, history ++ List.replicate 32 none ++ [none] ++ [none]⟩) := by
  intro bits bit
  have hlen : bits.length = 32 := by simp [bits]
  have hval : bits.foldl shiftIn 0#32 = wordOfBits 32 bits :=
    foldl_shiftIn_eq_wordOfBits hlen 0#32
  have hparity : (bitSum 0#32 bits).getLsbD 0 = xorBits (wordOfBits 32 bits) 32 := by
    have hxor := xorBits_wordOfBits (w := 32) hlen.le
    rw [hlen] at hxor
    rw [getLsbD_zero_bitSum, hxor]
    rfl
  have hbad : ((bitSum 0#32 bits ^^^ if bit then 1#32 else 0#32) &&& 1#32 ≠ 0#32) =
      (xorBits (wordOfBits 32 bits) 32 ≠ bit) := by
    rw [and_one_eq, BitVec.getLsbD_xor, hparity]
    cases bit <;> cases xorBits (wordOfBits 32 bits) 32 <;> simp
  have hbit : request &&& dapTransferRnW ≠ 0#32 := hread
  rw [refDataTransfer, if_pos hbit]
  simp only [refReadData_eq, swReadBit_released, plainConf, clockCycles_one_released,
    SwdPins.outEnable]
  simp only [bits, bit] at hbad hval ⊢
  simp only [hbad, hval]

/-- The reference writes a word and its parity bit. -/
theorem refDataTransfer_write (hwrite : ¬ IsRead request) (data ack : Word32) :
    ∃ last, refDataTransfer plainConf line request data ack ⟨false, level, history⟩ =
      ((ack, data), ⟨true, last, history ++ [none] ++ unitClocks 32 data ++
        unitClocks 1 (parity32 data)⟩) := by
  have hbit : ¬ request &&& dapTransferRnW ≠ 0#32 := hwrite
  obtain ⟨sum, last, hrun, hsum⟩ := refWriteData_eq level (history ++ [none]) 32 data 0#32
  have hparity : [some (sum.getLsbD 0)] = unitClocks 1 (parity32 data) := by
    rw [hsum, parity32_eq]
    cases xorBits data 32 <;> rfl
  refine ⟨sum.getLsbD 0, ?_⟩
  rw [refDataTransfer, if_neg hbit]
  simp only [plainConf, clockCycles_one_released, SwdPins.outEnable, hrun, swWriteBit_enabled,
    hparity]

theorem refRefused_plain (request : Word32) :
    refRefused plainConf request ⟨false, level, history⟩ = ⟨true, level, history ++ [none]⟩ := by
  simp only [refRefused, plainConf, Bool.false_eq_true, false_and, if_false,
    clockCycles_one_released, SwdPins.outEnable]

/-- The clocks before the acknowledge. -/
def requestClocks (request : Word32) : List SwdClock :=
  unitClocks 8 ((requestByte request).setWidth 32) ++ [none]

/-- The acknowledge that the line answers. -/
def lineAck (request : Word32) : Word32 :=
  wordOfBits 32 (levels line (history ++ requestClocks request) (List.replicate 3 none))

/-- The clocks up to the acknowledge. -/
def ackedHistory (request : Word32) : List SwdClock :=
  history ++ requestClocks request ++ List.replicate 3 none

theorem refTransfer_ok (hack : lineAck line history request = dapTransferOk) (data : Word32) :
    refTransfer plainConf line request data ⟨true, level, history⟩ =
      let run := refDataTransfer plainConf line request data dapTransferOk
        ⟨false, true, ackedHistory history request⟩
      ((run.1.1.setWidth 8, run.1.2), run.2.out 1#32) := by
  simp only [lineAck, requestClocks, ← List.append_assoc] at hack
  simp only [refTransfer, refRequest_eq, SwdPins.outEnable, plainConf, clockCycles_one_released,
    refAck_eq, hack, if_true, ne_eq, not_true_eq_false, if_false, ackedHistory, requestClocks,
    ← List.append_assoc]

theorem refTransfer_refused
    (hack : lineAck line history request = dapTransferWait ∨
      lineAck line history request = dapTransferFault) (data : Word32) :
    refTransfer plainConf line request data ⟨true, level, history⟩ =
      (((lineAck line history request).setWidth 8, data),
        ⟨true, true, ackedHistory history request ++ [none]⟩) := by
  have hnot : lineAck line history request ≠ dapTransferOk := by
    rcases hack with h | h <;> rw [h] <;> decide
  have hplain := refRefused_plain true (ackedHistory history request) request
  simp only [lineAck, requestClocks, ackedHistory, ← List.append_assoc] at hack hnot hplain ⊢
  simp only [refTransfer, refRequest_eq, SwdPins.outEnable, plainConf, clockCycles_one_released,
    refAck_eq, hnot, hack, if_true, if_false]
  simp only [plainConf] at hplain
  rw [hplain]
  rfl

/-- Any other acknowledge is returned as it is. -/
theorem refTransfer_protocol (hok : lineAck line history request ≠ dapTransferOk)
    (hwait : ¬ (lineAck line history request = dapTransferWait ∨
      lineAck line history request = dapTransferFault)) (data : Word32) :
    (refTransfer plainConf line request data ⟨true, level, history⟩).1.1 =
      (lineAck line history request).setWidth 8 := by
  simp only [lineAck, requestClocks, ← List.append_assoc] at hok hwait ⊢
  simp only [refTransfer, refRequest_eq, SwdPins.outEnable, plainConf, clockCycles_one_released,
    refAck_eq, hok, hwait, if_false]

/-- The acknowledge has three bits, so the returned byte tells it. -/
theorem lineAck_of_setWidth {value : Word32} (hvalue : value ∈ [0x1#32, 0x2#32, 0x4#32])
    (hbyte : (lineAck line history request).setWidth 8 = value.setWidth 8) :
    lineAck line history request = value := by
  rw [lineAck] at hbyte ⊢
  obtain ⟨bit0, bit1, bit2, hbits⟩ : ∃ bit0 bit1 bit2,
      levels line (history ++ requestClocks request) (List.replicate 3 none) =
        [bit0, bit1, bit2] := ⟨_, _, _, rfl⟩
  rw [hbits] at hbyte ⊢
  simp only [List.mem_cons, List.not_mem_nil, or_false] at hvalue
  rcases hvalue with rfl | rfl | rfl <;> revert hbyte <;> cases bit0 <;> cases bit1 <;>
    cases bit2 <;> decide

end Reference

section Spi

variable (wiring : Wiring) (line : SwdLine) {port : SwdPort}
  (history : List SwdClock)

/-- The request and acknowledge phases of the SPI transport. -/
theorem spiAck (request : Word32) (hturn : turnaroundClocks port = 1) :
    ∃ port', turnaroundClocks port' = 1 ∧
      swdReadBits wiring (lineTransfer line) 3
          (swdTurnaround wiring (lineTransfer line)
            (swdWriteBits wiring (lineTransfer line) ((requestByte request).setWidth 32) 8
              (port, history.map (onWire wiring)))) =
        (lineAck (referenceLine wiring line) history request, port',
          (ackedHistory history request).map (onWire wiring)) := by
  refine ⟨afterPhase wiring false 3 (afterPhase wiring false 1 (afterPhase wiring true 8 port)),
    by simp only [turnaroundClocks_afterPhase, hturn], ?_⟩
  rw [swdWriteBits_line _ _ _ _ (by decide) (by decide),
    swdTurnaround_line _ _ _ _ (by rw [turnaroundClocks_afterPhase, hturn]),
    swdReadBits_line _ _ _ _ (by decide) (by decide), List.append_assoc]
  rfl

/-- The received parity bit against the folded parity. -/
theorem parity32_eq_wordOfBits_iff {val : Word32} {bit : Bool} :
    parity32 val = wordOfBits 32 [bit] &&& 1#32 ↔ xorBits val 32 = bit := by
  rw [parity32_eq, and_one_eq]
  cases bit <;> cases xorBits val 32 <;> decide

end Spi

/-- With an acknowledge of OK, WAIT or FAULT, and on an OK read a matching parity, the
SPI transport makes the clocks of the reference, with the same bits driven and the
line released in the same ones, and returns the same acknowledge and data, whatever
the levels of the line. -/
theorem swdTransfer_eq_refTransfer (wiring : Wiring) (line : SwdLine) (request data : Word32)
    (port : SwdPort) (hturn : turnaroundClocks port = 1) (pins : SwdPins)
    (hout : pins.enabled = true)
    (hack : (refTransfer plainConf (referenceLine wiring line) request data pins).1.1 ∈
      [0x1#8, 0x2#8, 0x4#8]) :
    let reference := refTransfer plainConf (referenceLine wiring line) request data pins
    let spi := swdTransfer wiring (lineTransfer line) request (some data)
      (port, pins.history.map (onWire wiring))
    spi.1 = (reference.1.1, some reference.1.2) ∧
      spi.2.2 = reference.2.history.map (onWire wiring) ∧ reference.2.enabled = true := by
  obtain ⟨enabled, level, history⟩ := pins
  obtain rfl : enabled = true := hout
  obtain ⟨port', hturn', hphase⟩ := spiAck wiring line history request hturn
  intro reference spi
  by_cases hok : lineAck (referenceLine wiring line) history request = dapTransferOk
  · have hreference := refTransfer_ok (referenceLine wiring line) level history hok data
    by_cases hread : IsRead request
    · have hbit : request &&& dapTransferRnW ≠ 0#32 := hread
      rw [refDataTransfer_read _ _ _ hread] at hreference
      -- a wrong parity is answered with the error code alone
      have hmatch : xorBits (wordOfBits 32 (levels (referenceLine wiring line)
          (ackedHistory history request) (List.replicate 32 none))) 32 =
            referenceLine wiring line
              (ackedHistory history request ++ List.replicate 32 none ++ [none]) := by
        by_contra hbad
        rw [hreference] at hack
        simp only [ne_eq, hbad, not_false_eq_true, if_true] at hack
        exact absurd hack (by decide)
      have hparity := parity32_eq_wordOfBits_iff.mpr hmatch
      simp only [ne_eq, hmatch, not_true_eq_false, if_false] at hreference
      simp only [reference, spi, hreference, swdTransfer, hphase, hok, if_true, if_pos hbit]
      simp only [swdReadBits_line _ _ _ _ (show 0 < 32 by decide) (show 32 ≤ 32 by decide),
        swdReadBits_line _ _ _ _ (show 0 < 1 by decide) (show 1 ≤ 32 by decide)]
      rw [swdTurnaround_line _ _ _ _ (by simp only [turnaroundClocks_afterPhase, hturn'])]
      refine ⟨?_, rfl, rfl⟩
      simp only [List.replicate_one, levels_cons, levels_nil, ne_eq, hparity, not_true_eq_false,
        if_false, Option.map_some]
    · have hbit : ¬ request &&& dapTransferRnW ≠ 0#32 := hread
      obtain ⟨last, hwrite⟩ := refDataTransfer_write (referenceLine wiring line) true
        (ackedHistory history request) hread data dapTransferOk
      rw [hwrite] at hreference
      simp only [reference, spi, hreference, swdTransfer, hphase, hok, if_true, if_neg hbit,
        Option.getD_some]
      rw [swdTurnaround_line _ _ _ _ hturn', swdWriteBits_line _ _ _ _ (by decide) (by decide),
        swdWriteBits_line _ _ _ _ (by decide) (by decide)]
      exact ⟨trivial, rfl, rfl⟩
  · by_cases hwait : lineAck (referenceLine wiring line) history request = dapTransferWait ∨
        lineAck (referenceLine wiring line) history request = dapTransferFault
    · have hreference := refTransfer_refused (referenceLine wiring line) level history hwait data
      simp only [reference, spi, hreference, swdTransfer, hphase, hok, if_false,
        swdTurnaround_line _ _ _ _ hturn', and_self]
    · -- another acknowledge is not in the list
      rw [refTransfer_protocol (referenceLine wiring line) level history hok hwait] at hack
      have hvalues : ∀ value ∈ [0x1#32, 0x2#32, 0x4#32],
          lineAck (referenceLine wiring line) history request ≠ value := by
        intro value hvalue heq
        simp only [List.mem_cons, List.not_mem_nil, or_false] at hvalue
        rcases hvalue with rfl | rfl | rfl
        · exact hok heq
        · exact hwait (Or.inl heq)
        · exact hwait (Or.inr heq)
      simp only [List.mem_cons, List.not_mem_nil, or_false] at hack
      rcases hack with h | h | h
      · exact absurd (lineAck_of_setWidth _ _ (by decide) h) (hvalues 0x1#32 (by decide))
      · exact absurd (lineAck_of_setWidth _ _ (by decide) h) (hvalues 0x2#32 (by decide))
      · exact absurd (lineAck_of_setWidth _ _ (by decide) h) (hvalues 0x4#32 (by decide))

/-- A read of register 0 that is acknowledged and answered with zeros. -/
theorem swdTransfer_eq_refTransfer_zeros :
    ∃ line port pins,
      (swdTransfer .singleWire (lineTransfer line) dapTransferRnW (some 0xFFFFFFFF#32)
        (port, pins.history.map (onWire .singleWire))).1 = (0x1#8, some 0x0#32) ∧
      (refTransfer plainConf (referenceLine .singleWire line) dapTransferRnW 0xFFFFFFFF#32
        pins).1 = (0x1#8, 0x0#32) := by
  -- the line is high in the tenth clock only, the first bit of the acknowledge
  have hspi := swdTransfer_eq_refTransfer .singleWire (fun clocks => clocks.length == 10)
    dapTransferRnW 0xFFFFFFFF#32 ⟨true, false, 1#8, 8, false, .writeOnly⟩ (by decide)
    ⟨true, true, []⟩ rfl (by decide +kernel)
  have hreference : (refTransfer plainConf
      (referenceLine .singleWire fun clocks => clocks.length == 10) dapTransferRnW 0xFFFFFFFF#32
      ⟨true, true, []⟩).1 = (0x1#8, 0x0#32) := by decide +kernel
  exact ⟨_, _, _, hspi.1.trans (by rw [hreference]), hreference⟩

end ExLink.Swd
