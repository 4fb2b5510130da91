/-
# The command layer of CMSIS-DAP

What the handlers of `DAP.c` ask of the world around them: bytes of the request, stores
into the response, SWD transfers and sequences, pins. Pointers are offsets into the
request slot and the response buffer, and no access is bounded, as in the source. The
build has SWD and neither JTAG, SWO, UART nor timestamps.
-/

import ExLink.Automata.Interaction
import ExLink.Dap.Engine
import ExLink.Swd.Access
import ExLink.Swd.Clock

namespace ExLink.Dap

open ExLink.Automata ExLink.Automata.Prog
open ExLink.Swd (SwdAnswer swdResult IsRead dapTransferOk dapTransferWait dapTransferAPnDP
  dapTransferRnW dapOk dapError)

/-! ## Questions -/

/-- The pins that a GPIO access reaches. -/
inductive Pin where
  | swclkTck
  | swdioTms
  | nReset
  deriving DecidableEq

/-- What a handler asks for. -/
inductive DapOp where
  -- a byte of the request, a byte into the response
  | load (offset : ℕ)
  | store (offset : ℕ) (byte : Byte)
  -- an uninitialised local
  | garbage
  -- `SWD_Transfer` and the phases of the sequences
  | swdTransfer (request : Word32) (data : Option Word32)
  | swdReadBits (nbits : ℕ)
  | swdWriteBits (val : Word32) (nbits : ℕ)
  | swdWriteBytes (data : List Byte)
  -- GPIO, port and clock set-up, delays
  | pinIn (pin : Pin)
  | pinOut (pin : Pin) (level : Bool)
  | pinDirection (pin : Pin) (output : Bool)
  | portSetup
  | portOff
  | setClock (hz : Word32)
  | delaySlow (count : Word32)
  | delayMs (count : ℕ)
  -- a loop that was given up on
  | spin

/-- The answers to a question: those of a target are any that three ACK bits allow. -/
abbrev DapOp.Answer : DapOp → Type
  | .garbage => Word32
  | .swdTransfer _ _ => { answer : SwdAnswer // answer.ack.toNat < 8 }
  | .swdReadBits nbits => BitVec nbits
  | .pinIn _ => Bool
  | .spin => Empty
  | _ => Unit

/-- `DAP_Data` without its timestamp, and `DAP_TransferAbort`. -/
structure DapData where
  debugPort : Byte
  fastClock : Byte
  clockDelay : Word32
  idleCycles : Byte
  retryCount : Word16
  matchRetry : Word16
  matchMask : Word32
  turnaround : Byte
  dataPhase : Byte
  transferAbort : Byte

/-- A handler. -/
abbrev DapM := Stateful DapOp DapOp.Answer DapData

/-- Ask one question. -/
def ask (op : DapOp) : DapM op.Answer := perform op

section Primitives

variable (buf : Buf)

/-- `request[offset]`, where `buf` is the memory of the slot. -/
def loadByte (offset : ℕ) : DapM Byte := do
  ask (.load offset)
  pure (buf offset)

/-- Two bytes, low one first. -/
def loadHalf (offset : ℕ) : DapM Word16 := do
  let low ← loadByte buf offset
  let high ← loadByte buf (offset + 1)
  pure (Word16.ofBytes low high)

/-- The word in the four bytes at an offset, low one first. -/
def wordAt (offset : ℕ) : Word32 := Word32.ofBuf fun index => buf (offset + index)

/-- Four bytes, low one first. -/
def loadWord (offset : ℕ) : DapM Word32 := do
  ask (.load offset)
  ask (.load (offset + 1))
  ask (.load (offset + 2))
  ask (.load (offset + 3))
  pure (wordAt buf offset)

/-- Consecutive bytes of the request. -/
def loadBytes : ℕ → ℕ → DapM (List Byte)
  | _, 0 => pure []
  | offset, count + 1 => do
      let byte ← loadByte buf offset
      let rest ← loadBytes (offset + 1) count
      pure (byte :: rest)

/-- `response[offset] = byte`. -/
def storeByte (offset : ℕ) (byte : Byte) : DapM Unit := ask (.store offset byte)

/-- Consecutive bytes into the response. -/
def storeBytes : ℕ → List Byte → DapM Unit
  | _, [] => pure ()
  | offset, byte :: rest => do
      storeByte offset byte
      storeBytes (offset + 1) rest

/-- Four bytes, low one first. -/
def storeWord (offset : ℕ) (data : Word32) : DapM Unit := do
  storeByte offset (data.setWidth 8)
  storeByte (offset + 1) ((data >>> 8).setWidth 8)
  storeByte (offset + 2) ((data >>> 16).setWidth 8)
  storeByte (offset + 3) ((data >>> 24).setWidth 8)

/-- The result of a handler: request bytes in the upper half, response bytes in the
lower. -/
def sizes (request response : Word32) : Word32 := (request <<< 16) ||| response

end Primitives

/-! ## General commands -/

/-- A string with its terminator, as `exlink_dap_copy_str` copies it. -/
def cString (text : String) : List Byte :=
  text.toList.map (fun char => BitVec.ofNat 8 char.toNat) ++ [0]

/-- What `DAP_Info` stores for an identifier. -/
def infoBytes (id : Byte) : List Byte :=
  match id.toNat with
  | 0x01 => cString "LabForge"
  | 0x02 => cString "ExLink CMSIS-DAP"
  | 0x03 => cString "EXLINK-F1-0001"
  | 0x04 => cString "2.1.1"
  -- DAP_ID_CAPABILITIES: SWD and atomic commands
  | 0xF0 => [0x11, 0x00]
  | 0xFE => [BitVec.ofNat 8 dapPacketCount]
  | 0xFF => [BitVec.ofNat 8 dapPacketSize, BitVec.ofNat 8 (dapPacketSize / 256)]
  -- the target and board getters return 0, the other sizes are compiled out
  | _ => []

/-- `DAP_Info`. -/
def dapInfo (id : Byte) (info : ℕ) : DapM Byte := do
  storeBytes info (infoBytes id)
  pure (BitVec.ofNat 8 (infoBytes id).length)

section General

variable (buf : Buf) (request response : ℕ)

/-- `DAP_Delay`. -/
def dapDelay : DapM Word32 := do
  let delay ← loadHalf buf request
  ask (.delaySlow (delay.setWidth 32 * 160#32))
  storeByte response dapOk
  pure (sizes 2#32 1#32)

/-- `DAP_HostStatus`: the LED macros only read their argument. -/
def dapHostStatus : DapM Word32 := do
  let status ← loadByte buf request
  if status = 0x00#8 ∨ status = 0x01#8 then do
    let _ ← loadByte buf (request + 1)
    storeByte response dapOk
    pure (sizes 2#32 1#32)
  else do
    storeByte response dapError
    pure (sizes 2#32 1#32)

/-- `DAP_PORT_SWD`, which is also `DAP_DEFAULT_PORT`. -/
def dapPortSwd : Byte := 0x01#8

/-- `DAP_Connect`. -/
def dapConnect : DapM Word32 := do
  let requested ← loadByte buf request
  let port := if requested = 0x00#8 then dapPortSwd else requested
  if port = dapPortSwd then do
    modify fun data => { data with debugPort := dapPortSwd }
    ask .portSetup
    storeByte response port
    pure (sizes 1#32 1#32)
  else do
    storeByte response 0x00#8
    pure (sizes 1#32 1#32)

/-- `DAP_Disconnect`. -/
def dapDisconnect : DapM Word32 := do
  modify fun data => { data with debugPort := 0x00#8 }
  ask .portOff
  storeByte response dapOk
  pure 1#32

/-- `PIN_nRESET_OUT`: released to high impedance, or driven low. -/
def pinNResetOut (bit : Word32) : DapM Unit :=
  if bit &&& 1#32 ≠ 0#32 then ask (.pinDirection .nReset false)
  else do
    ask (.pinOut .nReset false)
    ask (.pinDirection .nReset true)

/-- `DAP_ResetTarget` with `RESET_TARGET`. -/
def dapResetTarget : DapM Word32 := do
  pinNResetOut 0#32
  ask (.delayMs 1)
  pinNResetOut 1#32
  ask (.delayMs 10)
  storeByte (response + 1) 0x01#8
  storeByte response dapOk
  pure 2#32

end General

/-! ## SWJ commands -/

/-- `1U << DAP_SWJ_…` is set. -/
def BitSelected (select : Word32) (bit : ℕ) : Prop := select &&& (1#32 <<< bit) ≠ 0#32

instance (select : Word32) (bit : ℕ) : Decidable (BitSelected select bit) :=
  inferInstanceAs (Decidable (_ ≠ _))

/-- `PIN_…_IN`. -/
def pinIn (pin : Pin) : DapM Word32 := do
  let level ← ask (.pinIn pin)
  pure (if level then 1#32 else 0#32)

/-- `PIN_…_SET` or `PIN_…_CLR`, if the pin is selected. -/
def pinOut (value select : Word32) (bit : ℕ) (pin : Pin) : DapM Unit :=
  if BitSelected select bit then ask (.pinOut pin (BitSelected value bit)) else pure ()

/-- One comparison of the wait loop of `DAP_SWJ_Pins`, and those after it. The value is
shifted but not masked. -/
def pinMatches (value select : Word32) (bit : ℕ) (level : DapM Word32) (rest : DapM Bool) :
    DapM Bool :=
  if BitSelected select bit then do
    let level ← level
    if (value >>> bit) ^^^ level ≠ 0#32 then pure false else rest
  else rest

/-- The comparisons of one turn; TDI and nTRST read as 0. -/
def pinsMatch (value select : Word32) : DapM Bool :=
  pinMatches value select 0 (pinIn .swclkTck) <|
    pinMatches value select 1 (pinIn .swdioTms) <|
      pinMatches value select 2 (pure 0#32) <|
        pinMatches value select 5 (pure 0#32) <|
          pinMatches value select 7 (pinIn .nReset) <| pure true

/-- `TIMESTAMP_GET`. -/
def timestampGet : Word32 := 0#32

/-- The wait loop, for at most `polls` turns after the first. -/
def swjPinsWait (value select wait timestamp : Word32) : ℕ → DapM Unit
  | 0 => do
      let matched ← pinsMatch value select
      if matched = true ∨ ¬ timestampGet - timestamp < wait then pure ()
      else do
        let never ← ask .spin
        never.elim
  | polls + 1 => do
      let matched ← pinsMatch value select
      if matched = true ∨ ¬ timestampGet - timestamp < wait then pure ()
      else swjPinsWait value select wait timestamp polls

section Swj

variable (buf : Buf) (request response : ℕ)

/-- `DAP_SWJ_Pins`. -/
def dapSwjPins (polls : ℕ) : DapM Word32 := do
  let value ← loadByte buf request
  let select ← loadByte buf (request + 1)
  let wait ← loadWord buf (request + 2)
  let value := value.setWidth 32
  let select := select.setWidth 32
  pinOut value select 0 .swclkTck
  pinOut value select 1 .swdioTms
  if BitSelected select 7 then pinNResetOut (value >>> 7) else pure ()
  -- without a timestamp clock every wait counts as 1
  if wait ≠ 0#32 then swjPinsWait value select 1#32 timestampGet polls else pure ()
  let swclkTck ← pinIn .swclkTck
  let swdioTms ← pinIn .swdioTms
  let nReset ← pinIn .nReset
  let value := swclkTck ||| (swdioTms <<< 1) ||| (nReset <<< 7)
  storeByte response (value.setWidth 8)
  pure (sizes 6#32 1#32)

/-- `Set_Clock_Delay`. -/
def setClockDelay (clock : Word32) (data : DapData) : DapData :=
  if 120000000#32 ≤ clock then { data with fastClock := 1#8, clockDelay := 1#32 }
  else
    let delay := (240000000#32 + (clock - 1#32)) / clock
    { data with
      fastClock := 0#8
      clockDelay := if 2#32 < delay then (delay - 2#32 + 2#32) / 3#32 else 1#32 }

/-- `DAP_SWJ_Clock`. -/
def dapSwjClock : DapM Word32 := do
  let clock ← loadWord buf request
  if clock = 0#32 then do
    storeByte response dapError
    pure (sizes 4#32 1#32)
  else do
    modify (setClockDelay clock)
    ask (.setClock clock)
    storeByte response dapOk
    pure (sizes 4#32 1#32)

/-- `SWJ_Sequence`: whole bytes, then the bits that are left. -/
def swjSequence (count data : ℕ) : DapM Unit := do
  if count / 8 ≠ 0 then do
    let bytes ← loadBytes buf data (count / 8)
    ask (.swdWriteBytes bytes)
  else pure ()
  if count % 8 ≠ 0 then do
    let last ← loadByte buf (data + count / 8)
    ask (.swdWriteBits (last.setWidth 32) (count % 8))
  else pure ()

/-- A count byte of a sequence, where 0 stands for the number after the largest. -/
def countOr (count default : ℕ) : ℕ := if count = 0 then default else count

/-- `DAP_SWJ_Sequence`. -/
def dapSwjSequence : DapM Word32 := do
  let count ← loadByte buf request
  let count := countOr count.toNat 256
  swjSequence buf count (request + 1)
  storeByte response dapOk
  pure (sizes (BitVec.ofNat 32 ((count + 7) / 8 + 1)) 1#32)

end Swj

/-! ## SWD and JTAG commands -/

/-- The units in which `SWD_Sequence` shifts its clocks. -/
def sequenceUnits (clocks : ℕ) : List ℕ :=
  List.replicate (clocks / 32) 32 ++ if clocks % 32 = 0 then [] else [clocks % 32]

/-- A clock count in bytes, rounded up. -/
def bytesFor (clocks : ℕ) : ℕ := (clocks + 7) / 8

/-- The bytes of a captured unit. -/
def unitBytes (nbits : ℕ) (got : Word32) : List Byte :=
  (List.range (bytesFor nbits)).map fun index => (got >>> (8 * index)).setWidth 8

/-- The unit that bytes make up, low one first. -/
def unitWord : List Byte → Word32
  | [] => 0#32
  | byte :: rest => byte.setWidth 32 ||| (unitWord rest <<< 8)

/-- `SWD_Sequence` with the input flag. -/
def swdSequenceIn : ℕ → List ℕ → DapM Unit
  | _, [] => pure ()
  | swdi, nbits :: rest => do
      let got ← ask (.swdReadBits nbits)
      storeBytes swdi (unitBytes nbits (got.setWidth 32))
      swdSequenceIn (swdi + bytesFor nbits) rest

section Swd

variable (buf : Buf)

/-- `SWD_Sequence` without it. -/
def swdSequenceOut : ℕ → List ℕ → DapM Unit
  | _, [] => pure ()
  | swdo, nbits :: rest => do
      let bytes ← loadBytes buf swdo (bytesFor nbits)
      ask (.swdWriteBits (unitWord bytes) nbits)
      swdSequenceOut (swdo + bytesFor nbits) rest

variable (request response : ℕ)

/-- `DAP_SWD_Configure`. -/
def dapSwdConfigure : DapM Word32 := do
  let value ← loadByte buf request
  modify fun data =>
    { data with
      turnaround := (value &&& 0x03#8) + 1#8
      dataPhase := if value &&& 0x04#8 ≠ 0#8 then 1#8 else 0#8 }
  storeByte response dapOk
  pure (sizes 1#32 1#32)

/-- The clocks of a sequence: 0 stands for 64. -/
def sequenceClocks (info : Byte) : ℕ := countOr (info &&& 0x3F#8).toNat 64

/-- `SWD_SEQUENCE_DIN`. -/
def CapturesInput (info : Byte) : Prop := info &&& 0x80#8 ≠ 0#8

instance (info : Byte) : Decidable (CapturesInput info) := inferInstanceAs (Decidable (_ ≠ _))

/-- The loop of `DAP_SWD_Sequence`, with the bytes counted so far. -/
def swdSequences : ℕ → ℕ → ℕ → DapM (ℕ × ℕ)
  | 0, requestCount, responseCount => pure (requestCount, responseCount)
  | sequenceCount + 1, requestCount, responseCount => do
      let info ← loadByte buf (request + requestCount)
      let clocks := sequenceClocks info
      if CapturesInput info then do
        ask (.pinDirection .swdioTms false)
        swdSequenceIn (response + responseCount) (sequenceUnits clocks)
        if sequenceCount = 0 then ask (.pinDirection .swdioTms true) else pure ()
        swdSequences sequenceCount (requestCount + 1) (responseCount + bytesFor clocks)
      else do
        ask (.pinDirection .swdioTms true)
        swdSequenceOut buf (request + requestCount + 1) (sequenceUnits clocks)
        if sequenceCount = 0 then ask (.pinDirection .swdioTms true) else pure ()
        swdSequences sequenceCount (requestCount + (bytesFor clocks + 1)) responseCount

/-- `DAP_SWD_Sequence`. -/
def dapSwdSequence : DapM Word32 := do
  storeByte response dapOk
  let sequenceCount ← loadByte buf request
  let (requestCount, responseCount) ← swdSequences buf request response sequenceCount.toNat 1 1
  pure (sizes (BitVec.ofNat 32 requestCount) (BitVec.ofNat 32 responseCount))

/-- The loop of `DAP_JTAG_Sequence`, which only skips the data. -/
def jtagSequences : ℕ → ℕ → DapM ℕ
  | 0, requestCount => pure requestCount
  | sequenceCount + 1, requestCount => do
      let info ← loadByte buf (request + requestCount)
      jtagSequences sequenceCount (requestCount + (bytesFor (sequenceClocks info) + 1))

/-- `DAP_JTAG_Sequence`, compiled without JTAG. -/
def dapJtagSequence : DapM Word32 := do
  storeByte response dapError
  let sequenceCount ← loadByte buf request
  let requestCount ← jtagSequences buf request sequenceCount.toNat 1
  pure (sizes (BitVec.ofNat 32 requestCount) 1#32)

/-- `DAP_JTAG_Configure`, compiled without JTAG. -/
def dapJtagConfigure : DapM Word32 := do
  let count ← loadByte buf request
  storeByte response dapError
  pure (sizes (count.setWidth 32 + 1#32) 1#32)

/-- `DAP_JTAG_IDCode`, compiled without JTAG. -/
def dapJtagIdCode : DapM Word32 := do
  storeByte response dapError
  pure (sizes 1#32 1#32)

/-- `DAP_TransferConfigure`. -/
def dapTransferConfigure : DapM Word32 := do
  let idleCycles ← loadByte buf request
  let retryCount ← loadHalf buf (request + 1)
  let matchRetry ← loadHalf buf (request + 3)
  modify fun data =>
    { data with idleCycles := idleCycles, retryCount := retryCount, matchRetry := matchRetry }
  storeByte response dapOk
  pure (sizes 5#32 1#32)

end Swd

end ExLink.Dap
