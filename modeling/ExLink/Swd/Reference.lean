/-
# The bit-banged reference

`SWD_TransferFunction` of `SW_DP.c`, pin by pin. Its two instances differ in the
delays only. The pins keep the history of the line: one entry for each rising edge
of SWCLK, with what SWDIO was driven to, if it was driven.
-/

import ExLink.Swd.Line

namespace ExLink.Swd

/-- `DAP_Data.swd_conf` and `DAP_Data.transfer.idle_cycles`. -/
structure SwdConf where
  turnaround : ℕ
  dataPhase : Bool
  idleCycles : ℕ

/-- SWDIO as an output, and the clocks so far. -/
structure SwdPins where
  enabled : Bool
  level : Bool
  history : List SwdClock

/-- `PIN_SWDIO_OUT_ENABLE` and `PIN_SWDIO_OUT_DISABLE`. -/
def SwdPins.outEnable (enabled : Bool) (pins : SwdPins) : SwdPins :=
  { pins with enabled := enabled }

/-- `PIN_SWDIO_OUT`. -/
def SwdPins.out (bit : Word32) (pins : SwdPins) : SwdPins :=
  { pins with level := bit.getLsbD 0 }

/-- `SW_CLOCK_CYCLE`. -/
def SwdPins.clockCycle (pins : SwdPins) : SwdPins :=
  { pins with history := pins.history ++ [if pins.enabled then some pins.level else none] }

/-- A loop of `SW_CLOCK_CYCLE`. -/
def SwdPins.clockCycles : ℕ → SwdPins → SwdPins
  | 0, pins => pins
  | n + 1, pins => clockCycles n pins.clockCycle

/-- `SW_WRITE_BIT`. -/
def swWriteBit (bit : Word32) (pins : SwdPins) : SwdPins := (pins.out bit).clockCycle

/-- `SW_READ_BIT`: the level in the clock about to rise. -/
def swReadBit (line : SwdLine) (pins : SwdPins) : Word32 × SwdPins :=
  let pins := pins.clockCycle
  (if line pins.history then 1#32 else 0#32, pins)

/-- The loop that reads `RDATA[0:31]`. -/
def refReadData (line : SwdLine) : ℕ → Word32 → Word32 → SwdPins → (Word32 × Word32) × SwdPins
  | 0, val, parity, pins => ((val, parity), pins)
  | n + 1, val, parity, pins =>
      let (bit, pins) := swReadBit line pins
      refReadData line n ((val >>> 1) ||| (bit <<< 31)) (parity + bit) pins

/-- The loop that writes `WDATA[0:31]`. -/
def refWriteData : ℕ → Word32 → Word32 → SwdPins → Word32 × SwdPins
  | 0, _, parity, pins => (parity, pins)
  | n + 1, val, parity, pins => refWriteData n (val >>> 1) (parity + val) (swWriteBit val pins)

/-- The packet request. -/
def refRequest (request : Word32) (pins : SwdPins) : SwdPins :=
  let pins := swWriteBit 1#32 pins
  let parity := 0#32
  let bit := request >>> 0
  let pins := swWriteBit bit pins
  let parity := parity + bit
  let bit := request >>> 1
  let pins := swWriteBit bit pins
  let parity := parity + bit
  let bit := request >>> 2
  let pins := swWriteBit bit pins
  let parity := parity + bit
  let bit := request >>> 3
  let pins := swWriteBit bit pins
  let parity := parity + bit
  let pins := swWriteBit parity pins
  let pins := swWriteBit 0#32 pins
  swWriteBit 1#32 pins

/-- The acknowledge response. -/
def refAck (line : SwdLine) (pins : SwdPins) : Word32 × SwdPins :=
  let (bit0, pins) := swReadBit line pins
  let (bit1, pins) := swReadBit line pins
  let (bit2, pins) := swReadBit line pins
  ((bit0 <<< 0) ||| (bit1 <<< 1) ||| (bit2 <<< 2), pins)

/-- The data transfer after an OK response, with its turnaround. -/
def refDataTransfer (conf : SwdConf) (line : SwdLine) (request data ack : Word32)
    (pins : SwdPins) : (Word32 × Word32) × SwdPins :=
  if request &&& dapTransferRnW ≠ 0#32 then
    let ((val, parity), pins) := refReadData line 32 0#32 0#32 pins
    let (bit, pins) := swReadBit line pins
    let ack := if (parity ^^^ bit) &&& 1#32 ≠ 0#32 then dapTransferError else ack
    let pins := pins.clockCycles conf.turnaround
    ((ack, val), pins.outEnable true)
  else
    let pins := pins.clockCycles conf.turnaround
    let pins := pins.outEnable true
    let (parity, pins) := refWriteData 32 data 0#32 pins
    ((ack, data), swWriteBit parity pins)

/-- The clocks after a WAIT or FAULT response. -/
def refRefused (conf : SwdConf) (request : Word32) (pins : SwdPins) : SwdPins :=
  let reads := request &&& dapTransferRnW ≠ 0#32
  let pins := if conf.dataPhase ∧ reads then pins.clockCycles 33 else pins
  let pins := pins.clockCycles conf.turnaround
  let pins := pins.outEnable true
  if conf.dataPhase ∧ ¬ reads then (pins.out 0#32).clockCycles 33 else pins

/-- `SWD_Transfer` of `SW_DP.c`, but for the timestamp it may take after an OK. -/
def refTransfer (conf : SwdConf) (line : SwdLine) (request data : Word32) (pins : SwdPins) :
    (Byte × Word32) × SwdPins :=
  let pins := refRequest request pins
  let pins := pins.outEnable false
  let pins := pins.clockCycles conf.turnaround
  let (ack, pins) := refAck line pins
  if ack = dapTransferOk then
    let ((ack, data), pins) := refDataTransfer conf line request data ack pins
    let pins :=
      if conf.idleCycles ≠ 0 then (pins.out 0#32).clockCycles conf.idleCycles else pins
    ((ack.setWidth 8, data), pins.out 1#32)
  else if ack = dapTransferWait ∨ ack = dapTransferFault then
    ((ack.setWidth 8, data), (refRefused conf request pins).out 1#32)
  else
    -- protocol error
    let pins := pins.clockCycles (conf.turnaround + 32 + 1)
    ((ack.setWidth 8, data), (pins.outEnable true).out 1#32)

end ExLink.Swd
