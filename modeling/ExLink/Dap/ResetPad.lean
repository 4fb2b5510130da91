/-
# The reset pad

The target's reset line is PA26. Its pad is multiplexed between the chip select of SPI1 and
a GPIO with an output latch and an output enable. What the port and the pin macros write to
these registers is a list of writes, and a command writes what its questions ask for.
-/

import ExLink.Automata.Emission
import ExLink.Dap.PinWait
import ExLink.Dap.Transfer

namespace ExLink.Dap

open ExLink.Automata ExLink.Automata.Prog
open ExLink.Swd (swdResult)

/-! ## The pad -/

/-- FUNC_CTL of the pad: `IOC_PA26_FUNC_CTL_…`. -/
inductive PadFunc where
  | gpioA26
  | spi1Cs0
  deriving DecidableEq

/-- The fields of PAD_CTL in use. No write sets OD, so a high level is driven high. -/
structure PadCtl where
  ds : ℕ
  spd : ℕ
  sr : Bool
  pe : Bool
  ps : Bool
  deriving DecidableEq

/-- The registers of the pad: its function, the output latch and the output enable. -/
structure ResetPad where
  func : PadFunc
  ctl : PadCtl
  latch : Bool
  output : Bool
  deriving DecidableEq

/-- What the pad drives the line to, if it does. The chip select of an idle SPI is high. -/
def ResetPad.driven (pad : ResetPad) : Option Bool :=
  match pad.func with
  | .spi1Cs0 => some true
  | .gpioA26 => if pad.output then some pad.latch else none

/-- One register write. -/
inductive PadWrite where
  | funcCtl (func : PadFunc)
  | padCtl (ctl : PadCtl)
  -- `gpio_write_pin`
  | level (high : Bool)
  -- `gpio_set_pin_output` and `gpio_set_pin_input`
  | direction (output : Bool)
  deriving DecidableEq

/-- The registers after a write. -/
def ResetPad.write (pad : ResetPad) : PadWrite → ResetPad
  | .funcCtl func => { pad with func := func }
  | .padCtl ctl => { pad with ctl := ctl }
  | .level high => { pad with latch := high }
  | .direction output => { pad with output := output }

/-- The registers after each of a list of writes. -/
def ResetPad.states : ResetPad → List PadWrite → List ResetPad
  | _, [] => []
  | pad, write :: rest => pad.write write :: (pad.write write).states rest

/-- The registers after all of them. -/
def ResetPad.after (pad : ResetPad) (writes : List PadWrite) : ResetPad :=
  writes.foldl ResetPad.write pad

section States

variable (pad : ResetPad) (first second : List PadWrite)

theorem states_append :
    pad.states (first ++ second) = pad.states first ++ (pad.after first).states second := by
  induction first generalizing pad with
  | nil => rfl
  | cons write rest ih => exact congrArg (pad.write write :: ·) (ih _)

theorem after_append : pad.after (first ++ second) = (pad.after first).after second :=
  List.foldl_append

end States

/-! ## The port and the pin macros -/

/-- `init_spi_pins`, on this pad. -/
def initSpiPins : List PadWrite :=
  [.funcCtl .spi1Cs0, .padCtl ⟨0, 3, true, false, false⟩]

/-- `swd_nreset_init`. -/
def swdNresetInit : List PadWrite :=
  [.funcCtl .gpioA26, .padCtl ⟨6, 0, false, true, true⟩, .direction false]

/-- `dap_swd_spi_init`. The other pads and the SPI registers are left out. -/
def dapSwdSpiInit : List PadWrite := initSpiPins ++ swdNresetInit

/-- `dap_swd_spi_port_setup`. -/
def spiPortSetup : List PadWrite := initSpiPins ++ swdNresetInit

/-- `dap_swd_spi_port_off`: the direction of the SPI is all that it changes. -/
def spiPortOff : List PadWrite := []

/-- `PIN_nRESET_OUT`. -/
def pinNresetOut (bit : Word32) : List PadWrite :=
  if bit &&& 1#32 ≠ 0#32 then [.direction false] else [.level false, .direction true]

/-- `RESET_TARGET`. -/
def resetTarget : List PadWrite := pinNresetOut 0#32 ++ pinNresetOut 1#32

/-- `dap_swd_nreset_pulse`. How long the line is low is not a matter of writes. -/
def dapSwdNresetPulse : List PadWrite :=
  swdNresetInit ++ [.level false, .direction true, .direction false]

/-! ## The writes of a command -/

/-- What a question of the command layer writes to the pad. -/
def DapOp.padWrites : DapOp → List PadWrite
  | .portSetup => spiPortSetup
  | .portOff => spiPortOff
  | .pinOut .nReset level => [.level level]
  | .pinDirection .nReset output => [.direction output]
  | _ => []

/-- Nothing is written to the pad. -/
abbrev Silent {α : Type} (program : DapM α) : Prop :=
  Asks (fun op : DapOp => op.padWrites = []) program

/-- This is written to the pad. -/
abbrev WritesPad {α : Type} (program : DapM α) (writes : List PadWrite) : Prop :=
  Emits DapOp.padWrites program writes

section Primitives

variable {buf : Buf}

theorem silent_ask {op : DapOp} (hop : op.padWrites = []) : Silent (ask op) := asks_perform hop

theorem silent_loadByte (offset : ℕ) : Silent (loadByte buf offset) :=
  asks_bind (silent_ask rfl) fun _ => asks_pure _

theorem silent_loadHalf (offset : ℕ) : Silent (loadHalf buf offset) :=
  asks_bind (silent_loadByte _) fun _ => asks_bind (silent_loadByte _) fun _ => asks_pure _

theorem silent_loadWord (offset : ℕ) : Silent (loadWord buf offset) :=
  asks_bind (silent_ask rfl) fun _ => asks_bind (silent_ask rfl) fun _ =>
    asks_bind (silent_ask rfl) fun _ => asks_bind (silent_ask rfl) fun _ => asks_pure _

theorem silent_loadBytes (offset count : ℕ) : Silent (loadBytes buf offset count) := by
  induction count generalizing offset with
  | zero => exact asks_pure _
  | succ count ih =>
      exact asks_bind (silent_loadByte _) fun _ => asks_bind (ih _) fun _ => asks_pure _

theorem silent_storeByte (offset : ℕ) (byte : Byte) : Silent (storeByte offset byte) :=
  silent_ask rfl

theorem silent_storeBytes (offset : ℕ) (bytes : List Byte) : Silent (storeBytes offset bytes) := by
  induction bytes generalizing offset with
  | nil => exact asks_pure _
  | cons byte rest ih => exact asks_bind (silent_storeByte _ _) fun _ => ih _

theorem silent_storeWord (offset : ℕ) (data : Word32) : Silent (storeWord offset data) :=
  asks_bind (silent_storeByte _ _) fun _ => asks_bind (silent_storeByte _ _) fun _ =>
    asks_bind (silent_storeByte _ _) fun _ => silent_storeByte _ _

/-- A question first. -/
theorem writesPad_ask {α : Type} (op : DapOp) (hop : Nonempty op.Answer) {f : op.Answer → DapM α}
    {writes : List PadWrite} (h : ∀ answer, WritesPad (f answer) writes) :
    WritesPad (ask op >>= f) (op.padWrites ++ writes) := emits_perform_bind op hop h

/-- Bytes loaded and stored first. -/
theorem writesPad_loadByte {α : Type} {f : Byte → DapM α} {offset : ℕ} {writes : List PadWrite}
    (h : WritesPad (f (buf offset)) writes) : WritesPad (loadByte buf offset >>= f) writes :=
  writesPad_ask (.load offset) ⟨()⟩ fun _ => h

theorem writesPad_loadWord {α : Type} {f : Word32 → DapM α} {offset : ℕ} {writes : List PadWrite}
    (h : WritesPad (f (wordAt buf offset)) writes) :
    WritesPad (loadWord buf offset >>= f) writes :=
  writesPad_ask (.load offset) ⟨()⟩ fun _ => writesPad_ask (.load (offset + 1)) ⟨()⟩ fun _ =>
    writesPad_ask (.load (offset + 2)) ⟨()⟩ fun _ =>
      writesPad_ask (.load (offset + 3)) ⟨()⟩ fun _ => h

theorem writesPad_storeByte {α : Type} {f : Unit → DapM α} {offset : ℕ} {byte : Byte}
    {writes : List PadWrite} (h : WritesPad (f ()) writes) :
    WritesPad (storeByte offset byte >>= f) writes :=
  writesPad_ask (.store offset byte) ⟨()⟩ fun _ => h

end Primitives

/-! ### Commands that leave the pad alone -/

section Transfers

variable {buf : Buf} {request response : ℕ}

theorem silent_swdTransferOnce (value : Word32) (data : Option Word32) :
    Silent (swdTransferOnce value data) :=
  asks_bind (silent_ask rfl) fun _ => asks_pure _

theorem silent_transferTries (value : Word32) (retry : ℕ) (data : Option Word32) :
    Silent (transferTries value retry data) := by
  induction retry generalizing data with
  | zero => exact silent_swdTransferOnce value data
  | succ retry ih =>
      exact asks_bind (silent_swdTransferOnce value data) fun _ => asks_bind asks_get fun _ =>
        asks_ite (ih _) (asks_pure _)

theorem silent_transferData (value data : Word32) : Silent (transferData value data) :=
  asks_bind asks_get fun _ => asks_bind (silent_transferTries _ _ _) fun _ => asks_pure _

theorem silent_transferNull (value : Word32) : Silent (transferNull value) :=
  asks_bind asks_get fun _ => asks_bind (silent_transferTries _ _ _) fun _ => asks_pure _

theorem silent_readStore (value : Word32) (v : TransferVars)
    {next : TransferVars → DapM (Bool × TransferVars)} (hnext : ∀ v, Silent (next v)) :
    Silent (readStore value v next) :=
  asks_bind (silent_transferData _ _) fun _ => asks_ite (asks_pure _)
    (asks_bind (silent_storeWord _ _) fun _ => hnext _)

theorem silent_matchTries (value matchValue : Word32) (matchRetry : ℕ) (data : Word32) :
    Silent (matchTries value matchValue matchRetry data) := by
  induction matchRetry generalizing data with
  | zero => exact silent_transferData value data
  | succ matchRetry ih =>
      exact asks_bind (silent_transferData _ _) fun _ => asks_bind asks_get fun _ =>
        asks_ite (ih _) (asks_pure _)

theorem silent_matchLoop (value matchValue : Word32) (v : TransferVars) :
    Silent (matchLoop value matchValue v) :=
  asks_bind asks_get fun _ => asks_bind (silent_matchTries _ _ _ _) fun _ =>
    asks_bind asks_get fun _ => asks_pure _

theorem silent_readMatch (value : Word32) (v : TransferVars) : Silent (readMatch buf value v) :=
  asks_bind (silent_loadWord _) fun _ => asks_ite
    (asks_bind (silent_transferNull _) fun _ => asks_ite (asks_pure _) (silent_matchLoop _ _ _))
    (silent_matchLoop _ _ _)

theorem silent_readNormal (value : Word32) (v : TransferVars) : Silent (readNormal value v) :=
  asks_ite
    (asks_ite (asks_pure _) (asks_bind (silent_transferNull _) fun _ =>
      asks_ite (asks_pure _) (asks_pure _)))
    (silent_readStore _ _ fun _ => asks_pure _)

theorem silent_transferRead (value : Word32) (v : TransferVars) :
    Silent (transferRead buf value v) := by
  have hrest (v : TransferVars) :
      Silent (if MatchValue value then readMatch buf value v else readNormal value v) :=
    asks_ite (silent_readMatch _ _) (silent_readNormal _ _)
  exact asks_ite (asks_ite (silent_readStore _ _ hrest) (silent_readStore _ _ hrest)) (hrest v)

theorem silent_writeRegister (value : Word32) (v : TransferVars) :
    Silent (writeRegister buf value v) :=
  asks_bind (silent_loadWord _) fun _ => asks_ite
    (asks_bind (asks_modify _) fun _ => asks_pure _)
    (asks_bind (silent_transferData _ _) fun _ => asks_ite (asks_pure _) (asks_pure _))

theorem silent_transferWrite (value : Word32) (v : TransferVars) :
    Silent (transferWrite buf value v) :=
  asks_ite (silent_readStore _ _ fun _ => silent_writeRegister _ _) (silent_writeRegister _ _)

theorem silent_transferRequest (v : TransferVars) : Silent (transferRequest buf v) :=
  asks_bind (silent_loadByte _) fun _ =>
    asks_ite (silent_transferRead _ _) (silent_transferWrite _ _)

theorem silent_transferLoop (count : ℕ) (v : TransferVars) : Silent (transferLoop buf count v) := by
  induction count generalizing v with
  | zero => exact asks_pure _
  | succ count ih =>
      exact asks_bind (silent_transferRequest _) fun _ => asks_ite (asks_pure _)
        (asks_bind asks_get fun _ => asks_ite (asks_pure _) (ih _))

theorem silent_skipRequests (count position : ℕ) : Silent (skipRequests buf count position) := by
  induction count generalizing position with
  | zero => exact asks_pure _
  | succ count ih => exact asks_bind (silent_loadByte _) fun _ => ih _

theorem silent_closingRead (v : TransferVars) : Silent (closingRead v) :=
  asks_ite
    (asks_ite
      (asks_bind (silent_readStore _ _ fun _ => asks_pure _) fun _ => asks_pure _)
      (asks_ite (asks_bind (silent_transferNull _) fun _ => asks_pure _) (asks_pure _)))
    (asks_pure _)

theorem silent_dapTransfer : Silent (dapTransfer buf request response) :=
  asks_bind asks_get fun _ => asks_ite
    (asks_bind (silent_ask rfl) fun _ => asks_bind (asks_modify _) fun _ =>
      asks_bind (silent_loadByte _) fun _ => asks_bind (silent_transferLoop _ _) fun _ =>
        asks_bind (silent_skipRequests _ _) fun _ => asks_bind (silent_closingRead _) fun _ =>
          asks_bind (silent_storeByte _ _) fun _ => asks_bind (silent_storeByte _ _) fun _ =>
            asks_pure _)
    (asks_bind (silent_loadByte _) fun _ => asks_bind (silent_skipRequests _ _) fun _ =>
      asks_bind (silent_storeByte _ _) fun _ => asks_bind (silent_storeByte _ _) fun _ =>
        asks_pure _)

theorem silent_blockReads (value : Word32) (count : ℕ) (v : BlockVars) :
    Silent (blockReads value count v) := by
  induction count generalizing value v with
  | zero => exact asks_pure _
  | succ count ih =>
      exact asks_bind (silent_transferData _ _) fun _ => asks_ite (asks_pure _)
        (asks_bind (silent_storeWord _ _) fun _ => ih _ _)

theorem silent_blockWrites (value : Word32) (count position : ℕ) (v : BlockVars) :
    Silent (blockWrites buf value count position v) := by
  induction count generalizing position v with
  | zero => exact asks_bind (silent_transferNull _) fun _ => asks_pure _
  | succ count ih =>
      exact asks_bind (silent_loadWord _) fun _ => asks_bind (silent_transferData _ _) fun _ =>
        asks_ite (asks_pure _) (ih _ _)

theorem silent_blockTransfers (count : ℕ) (v : BlockVars) :
    Silent (blockTransfers buf request count v) :=
  asks_bind (silent_loadByte _) fun _ => asks_ite
    (asks_ite
      (asks_bind (silent_transferNull _) fun _ => asks_ite (asks_pure _) (silent_blockReads _ _ _))
      (silent_blockReads _ _ _))
    (silent_blockWrites _ _ _ _)

theorem silent_dapSwdTransferBlock : Silent (dapSwdTransferBlock buf request response) :=
  asks_bind (silent_ask rfl) fun _ => asks_bind (asks_modify _) fun _ =>
    asks_bind (silent_loadHalf _) fun _ =>
      asks_ite
        (asks_bind (asks_pure _) fun _ => asks_bind (silent_storeByte _ _) fun _ =>
          asks_bind (silent_storeByte _ _) fun _ => asks_bind (silent_storeByte _ _) fun _ =>
            asks_pure _)
        (asks_bind (silent_blockTransfers _ _) fun _ => asks_bind (silent_storeByte _ _) fun _ =>
          asks_bind (silent_storeByte _ _) fun _ => asks_bind (silent_storeByte _ _) fun _ =>
            asks_pure _)

theorem silent_dapTransferBlock : Silent (dapTransferBlock buf request response) := by
  have hsize (num : Word32) : Silent (do
      let header ← loadByte buf (request + 3)
      if ExLink.Swd.IsRead (header.setWidth 32) then pure (num ||| (4#32 <<< 16))
      else do
        let count ← loadHalf buf (request + 1)
        pure (num ||| ((4#32 + count.setWidth 32 * 4#32) <<< 16))) :=
    asks_bind (silent_loadByte _) fun _ => asks_ite (asks_pure _)
      (asks_bind (silent_loadHalf _) fun _ => asks_pure _)
  exact asks_bind asks_get fun _ => asks_ite
    (asks_bind silent_dapSwdTransferBlock hsize)
    (asks_bind (silent_storeByte _ _) fun _ => asks_bind (silent_storeByte _ _) fun _ =>
      asks_bind (silent_storeByte _ _) fun _ => asks_bind (asks_pure _) hsize)

theorem silent_dapWriteAbort : Silent (dapWriteAbort buf request response) :=
  asks_bind asks_get fun _ => asks_ite
    (asks_bind (silent_loadWord _) fun _ => asks_bind (silent_swdTransferOnce _ _) fun _ =>
      asks_bind (silent_storeByte _ _) fun _ => asks_pure _)
    (asks_bind (silent_storeByte _ _) fun _ => asks_pure _)

end Transfers

section Sequences

variable {buf : Buf} {request response : ℕ}

theorem silent_swjSequence (count data : ℕ) : Silent (swjSequence buf count data) := by
  have hlast : Silent (if count % 8 ≠ 0 then do
      let last ← loadByte buf (data + count / 8)
      ask (.swdWriteBits (last.setWidth 32) (count % 8))
    else pure ()) :=
    asks_ite (asks_bind (silent_loadByte _) fun _ => silent_ask rfl) (asks_pure _)
  exact asks_ite
    (asks_bind (silent_loadBytes _ _) fun _ => asks_bind (silent_ask rfl) fun _ => hlast) hlast

theorem silent_swdSequenceIn (swdi : ℕ) (units : List ℕ) : Silent (swdSequenceIn swdi units) := by
  induction units generalizing swdi with
  | nil => exact asks_pure _
  | cons nbits rest ih =>
      exact asks_bind (silent_ask rfl) fun _ => asks_bind (silent_storeBytes _ _) fun _ => ih _

theorem silent_swdSequenceOut (swdo : ℕ) (units : List ℕ) :
    Silent (swdSequenceOut buf swdo units) := by
  induction units generalizing swdo with
  | nil => exact asks_pure _
  | cons nbits rest ih =>
      exact asks_bind (silent_loadBytes _ _) fun _ => asks_bind (silent_ask rfl) fun _ => ih _

/-- The direction that a sequence sets is that of SWDIO. -/
theorem silent_swdSequences (count requestCount responseCount : ℕ) :
    Silent (swdSequences buf request response count requestCount responseCount) := by
  induction count generalizing requestCount responseCount with
  | zero => exact asks_pure _
  | succ count ih =>
      exact asks_bind (silent_loadByte _) fun _ => asks_ite
        (asks_bind (silent_ask rfl) fun _ => asks_bind (silent_swdSequenceIn _ _) fun _ =>
          asks_ite (asks_bind (silent_ask rfl) fun _ => ih _ _) (ih _ _))
        (asks_bind (silent_ask rfl) fun _ => asks_bind (silent_swdSequenceOut _ _) fun _ =>
          asks_ite (asks_bind (silent_ask rfl) fun _ => ih _ _) (ih _ _))

theorem silent_jtagSequences (count requestCount : ℕ) :
    Silent (jtagSequences buf request count requestCount) := by
  induction count generalizing requestCount with
  | zero => exact asks_pure _
  | succ count ih => exact asks_bind (silent_loadByte _) fun _ => ih _

theorem silent_pinIn (pin : Pin) : Silent (pinIn pin) := asks_pinIn rfl

theorem silent_swjPinsWait (value select wait timestamp : Word32) (polls : ℕ) :
    Silent (swjPinsWait value select wait timestamp polls) :=
  asks_swjPinsWait (fun op => op.padWrites = []) (fun _ => rfl) rfl wait timestamp polls

end Sequences

/-! ### Commands that reach it -/

/-- The port byte of a Connect selects SWD. -/
def SelectsSwd (port : Byte) : Prop := port = 0x00#8 ∨ port = dapPortSwd

instance (port : Byte) : Decidable (SelectsSwd port) := inferInstanceAs (Decidable (_ ∨ _))

section Handlers

variable {buf : Buf} {request response : ℕ}

theorem writesPad_pinNResetOut {α : Type} {f : Unit → DapM α} (bit : Word32)
    {writes : List PadWrite} (h : WritesPad (f ()) writes) :
    WritesPad (pinNResetOut bit >>= f) (pinNresetOut bit ++ writes) := by
  rw [pinNResetOut, pinNresetOut]
  split_ifs
  · exact writesPad_ask (.pinDirection .nReset false) ⟨()⟩ fun _ => h
  · exact writesPad_ask (.pinOut .nReset false) ⟨()⟩ fun _ =>
      writesPad_ask (.pinDirection .nReset true) ⟨()⟩ fun _ => h

theorem writesPad_dapConnect :
    WritesPad (dapConnect buf request response)
      (if SelectsSwd (buf request) then spiPortSetup else []) := by
  have hport : (if buf request = 0x00#8 then dapPortSwd else buf request) = dapPortSwd ↔
      SelectsSwd (buf request) := by
    rw [SelectsSwd]
    split_ifs with hzero
    · exact iff_of_true rfl (Or.inl hzero)
    · exact (or_iff_right hzero).symm
  refine writesPad_loadByte ?_
  simp only [hport]
  by_cases hswd : SelectsSwd (buf request)
  · rw [if_pos hswd, if_pos hswd, ← List.append_nil spiPortSetup]
    exact emits_modify_bind _ (writesPad_ask .portSetup ⟨()⟩ fun _ =>
      writesPad_storeByte (emits_of_silent (asks_pure _)))
  · rw [if_neg hswd, if_neg hswd]
    exact writesPad_storeByte (emits_of_silent (asks_pure _))

theorem writesPad_dapResetTarget : WritesPad (dapResetTarget response) resetTarget := by
  rw [resetTarget, ← List.append_nil (pinNresetOut 0#32 ++ pinNresetOut 1#32), List.append_assoc]
  exact writesPad_pinNResetOut 0#32 (writesPad_ask (.delayMs 1) ⟨()⟩ fun _ =>
    writesPad_pinNResetOut 1#32 (writesPad_ask (.delayMs 10) ⟨()⟩ fun _ =>
      writesPad_storeByte (writesPad_storeByte (emits_of_silent (asks_pure _)))))

/-- The clock and data pins of `DAP_SWJ_Pins` are other pads. -/
theorem writesPad_pinOut {α : Type} {f : Unit → DapM α} {value select : Word32} {bit : ℕ} {pin : Pin}
    (hpin : pin ≠ .nReset) {writes : List PadWrite} (h : WritesPad (f ()) writes) :
    WritesPad (pinOut value select bit pin >>= f) writes := by
  rw [pinOut]
  split_ifs
  · cases pin with
    | nReset => exact absurd rfl hpin
    | swclkTck => exact writesPad_ask (.pinOut .swclkTck _) ⟨()⟩ fun _ => h
    | swdioTms => exact writesPad_ask (.pinOut .swdioTms _) ⟨()⟩ fun _ => h
  · exact h

/-- The value and the select byte decide; the wait and what comes after it write nothing. -/
theorem writesPad_dapSwjPins (polls : ℕ) :
    WritesPad (dapSwjPins buf request response polls)
      (if BitSelected ((buf (request + 1)).setWidth 32) 7 then
        pinNresetOut ((buf request).setWidth 32 >>> 7) else []) := by
  have hlevels : Silent (do
      let swclkTck ← pinIn .swclkTck
      let swdioTms ← pinIn .swdioTms
      let nReset ← pinIn .nReset
      let value := swclkTck ||| (swdioTms <<< 1) ||| (nReset <<< 7)
      storeByte response (value.setWidth 8)
      pure (sizes 6#32 1#32)) :=
    asks_bind (silent_pinIn _) fun _ => asks_bind (silent_pinIn _) fun _ =>
      asks_bind (silent_pinIn _) fun _ => asks_bind (silent_storeByte _ _) fun _ => asks_pure _
  refine writesPad_loadByte (writesPad_loadByte (writesPad_loadWord ?_))
  refine writesPad_pinOut (by decide) (writesPad_pinOut (by decide) ?_)
  have hrest : Silent (do
      if wordAt buf (request + 2) ≠ 0#32 then
        swjPinsWait ((buf request).setWidth 32) ((buf (request + 1)).setWidth 32) 1#32 timestampGet
          polls
      else pure ()
      let swclkTck ← pinIn .swclkTck
      let swdioTms ← pinIn .swdioTms
      let nReset ← pinIn .nReset
      let value := swclkTck ||| (swdioTms <<< 1) ||| (nReset <<< 7)
      storeByte response (value.setWidth 8)
      pure (sizes 6#32 1#32)) :=
    asks_ite (asks_bind (silent_swjPinsWait _ _ _ _ _) fun _ => hlevels) hlevels
  by_cases hselected : BitSelected ((buf (request + 1)).setWidth 32) 7
  · rw [if_pos hselected, if_pos hselected, ← List.append_nil (pinNresetOut _)]
    exact writesPad_pinNResetOut _ (emits_of_silent hrest)
  · rw [if_neg hselected, if_neg hselected]
    exact emits_of_silent hrest

/-- What the handler of an identifier writes to the pad. -/
def handlerWrites (buf : Buf) (id request : ℕ) : List PadWrite :=
  match id with
  | 0x02 => if SelectsSwd (buf request) then spiPortSetup else []
  | 0x0A => resetTarget
  | 0x10 =>
      if BitSelected ((buf (request + 1)).setWidth 32) 7 then
        pinNresetOut ((buf request).setWidth 32 >>> 7)
      else []
  | _ => []

theorem writesPad_handler {id polls : ℕ} {run : DapM Word32}
    (hrun : handler buf polls id request response = some run) :
    WritesPad run (handlerWrites buf id request) := by
  have hsize {size : Word32} : Silent (pure size : DapM Word32) := asks_pure size
  have hstored {byte : Byte} {size : Word32} :
      Silent (storeByte response byte >>= fun _ => (pure size : DapM Word32)) :=
    asks_bind (silent_storeByte _ _) fun _ => hsize
  unfold handler at hrun
  split at hrun <;> first | obtain rfl := Option.some.inj hrun | cases hrun
  · -- DAP_HostStatus
    exact emits_of_silent (asks_bind (silent_loadByte _) fun _ => asks_ite
      (asks_bind (silent_loadByte _) fun _ => hstored) hstored)
  · exact writesPad_dapConnect
  · -- DAP_Disconnect
    exact emits_of_silent (asks_bind (asks_modify _) fun _ => asks_bind (silent_ask rfl) fun _ =>
      hstored)
  · -- DAP_TransferConfigure
    exact emits_of_silent (asks_bind (silent_loadByte _) fun _ => asks_bind (silent_loadHalf _)
      fun _ => asks_bind (silent_loadHalf _) fun _ => asks_bind (asks_modify _) fun _ => hstored)
  · exact emits_of_silent silent_dapTransfer
  · exact emits_of_silent silent_dapTransferBlock
  · exact emits_of_silent silent_dapWriteAbort
  · -- DAP_Delay
    exact emits_of_silent (asks_bind (silent_loadHalf _) fun _ => asks_bind (silent_ask rfl) fun _ =>
      hstored)
  · exact writesPad_dapResetTarget
  · exact writesPad_dapSwjPins polls
  · -- DAP_SWJ_Clock
    exact emits_of_silent (asks_bind (silent_loadWord _) fun _ => asks_ite hstored
      (asks_bind (asks_modify _) fun _ => asks_bind (silent_ask rfl) fun _ => hstored))
  · -- DAP_SWJ_Sequence
    exact emits_of_silent (asks_bind (silent_loadByte _) fun _ => asks_bind
      (silent_swjSequence _ _) fun _ => hstored)
  · -- DAP_SWD_Configure
    exact emits_of_silent (asks_bind (silent_loadByte _) fun _ => asks_bind (asks_modify _) fun _ =>
      hstored)
  · -- DAP_JTAG_Sequence
    exact emits_of_silent (asks_bind (silent_storeByte _ _) fun _ => asks_bind (silent_loadByte _)
      fun _ => asks_bind (silent_jtagSequences _ _) fun _ => hsize)
  · -- DAP_JTAG_Configure
    exact emits_of_silent (asks_bind (silent_loadByte _) fun _ => hstored)
  · -- DAP_JTAG_IDCode
    exact emits_of_silent hstored
  · -- DAP_SWD_Sequence
    exact emits_of_silent (asks_bind (silent_storeByte _ _) fun _ => asks_bind (silent_loadByte _)
      fun _ => asks_bind (silent_swdSequences _ _ _) fun _ => hsize)

/-- What a command writes to the pad: its identifier selects the handler. -/
def commandWrites (buf : Buf) (request : ℕ) : List PadWrite :=
  handlerWrites buf (buf request).toNat (request + 1)

/-- Identifiers that no handler is reached with write nothing. -/
theorem handlerWrites_eq_nil {id : ℕ} (hconnect : id ≠ 0x02) (hreset : id ≠ 0x0A)
    (hpins : id ≠ 0x10) : handlerWrites buf id request = [] := by
  unfold handlerWrites
  split <;> first | contradiction | rfl

theorem handlerWrites_of_none {id polls : ℕ}
    (hnone : handler buf polls id request response = none) :
    handlerWrites buf id request = [] := by
  apply handlerWrites_eq_nil <;> rintro rfl <;> exact Option.some_ne_none _ hnone

/-- A command writes what its bytes say, from whatever state and in every world. -/
theorem writesPad_dapProcessCommand (polls : ℕ) :
    WritesPad (dapProcessCommand buf polls request response) (commandWrites buf request) := by
  rw [commandWrites]
  refine writesPad_loadByte ?_
  by_cases hvendor : 0x80#8 ≤ buf request ∧ buf request ≤ 0x9F#8
  · have hlarge : 0x80 ≤ (buf request).toNat := BitVec.le_def.mp hvendor.1
    rw [if_pos hvendor, handlerWrites_eq_nil (by omega) (by omega) (by omega)]
    exact emits_of_silent (asks_bind (silent_loadByte _) fun _ => asks_bind (silent_storeByte _ _)
      fun _ => asks_pure _)
  · rw [if_neg hvendor]
    refine writesPad_storeByte ?_
    by_cases hinfo : buf request = 0x00#8
    · rw [if_pos hinfo, hinfo]
      exact emits_of_silent (asks_bind (silent_loadByte _) fun _ => asks_bind
        (asks_bind (silent_storeBytes _ _) fun _ => asks_pure _) fun _ =>
          asks_bind (silent_storeByte _ _) fun _ => asks_pure _)
    · rw [if_neg hinfo]
      cases hrun : handler buf polls (buf request).toNat (request + 1) (response + 1) with
      | none =>
          rw [handlerWrites_of_none hrun]
          exact emits_of_silent (asks_bind (silent_storeByte _ _) fun _ => asks_pure _)
      | some run => exact emits_bind_silent (writesPad_handler hrun) fun _ => asks_pure _

end Handlers

end ExLink.Dap
