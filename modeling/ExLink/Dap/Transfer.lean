/-
# The transfer commands

`DAP_Transfer`, `DAP_TransferBlock` and `DAP_WriteAbort`. A request loop that breaks
leaves the request in hand in its count, so that the loop over the cancelled requests
skips one more than there are.
-/

import ExLink.Dap.Command

namespace ExLink.Dap

open ExLink.Automata ExLink.Automata.Prog
open ExLink.Swd (SwdAnswer swdResult IsRead dapTransferOk dapTransferWait dapTransferAPnDP
  dapTransferRnW dapOk dapError)

/-! ## Requests -/

def dapTransferMatchValue : Word32 := 0x10#32
def dapTransferMatchMask : Word32 := 0x20#32
def dapTransferMismatch : Word32 := 0x10#32

/-- `DP_RDBUFF | DAP_TRANSFER_RnW`. -/
def readRdbuff : Word32 := 0x0C#32 ||| dapTransferRnW

/-- A request to the access port. -/
def OnAp (request : Word32) : Prop := request &&& dapTransferAPnDP ≠ 0#32

/-- A read until a value matches. -/
def MatchValue (request : Word32) : Prop := request &&& dapTransferMatchValue ≠ 0#32

/-- A write of the match mask. -/
def MatchMask (request : Word32) : Prop := request &&& dapTransferMatchMask ≠ 0#32

/-- A read that can fetch what the last one posted and post in turn. -/
def PostsNext (request : Word32) : Prop :=
  request &&& (dapTransferAPnDP ||| dapTransferMatchValue) = dapTransferAPnDP

instance (request : Word32) : Decidable (OnAp request) := inferInstanceAs (Decidable (_ ≠ _))
instance (request : Word32) : Decidable (MatchValue request) :=
  inferInstanceAs (Decidable (_ ≠ _))
instance (request : Word32) : Decidable (MatchMask request) :=
  inferInstanceAs (Decidable (_ ≠ _))
instance (request : Word32) : Decidable (PostsNext request) :=
  inferInstanceAs (Decidable (_ = _))

/-- `SWD_Transfer`, with what `data` points to. -/
def swdTransferOnce (request : Word32) (data : Option Word32) : DapM (Word32 × Option Word32) := do
  let answer ← ask (.swdTransfer request data)
  let (ack, data) := swdResult request data answer.1
  pure (ack.setWidth 32, data)

/-- The loop around every transfer: again while the target answers WAIT. -/
def transferTries (request : Word32) : ℕ → Option Word32 → DapM (Word32 × Option Word32)
  | 0, data => swdTransferOnce request data
  | retry + 1, data => do
      let (value, data) ← swdTransferOnce request data
      let s ← get
      if value = dapTransferWait ∧ s.transferAbort = 0#8 then transferTries request retry data
      else pure (value, data)

/-- A transfer with `&data`. -/
def transferData (request data : Word32) : DapM (Word32 × Word32) := do
  let s ← get
  let (value, after) ← transferTries request s.retryCount.toNat (some data)
  pure (value, after.getD data)

/-- A transfer with NULL. -/
def transferNull (request : Word32) : DapM Word32 := do
  let s ← get
  let (value, _) ← transferTries request s.retryCount.toNat none
  pure value

/-! ## DAP_Transfer -/

/-- The locals of `DAP_SWD_Transfer`, without the request count. -/
structure TransferVars where
  request : ℕ
  response : ℕ
  responseCount : ℕ
  responseValue : Word32
  postRead : Bool
  checkWrite : Bool
  data : Word32

section Transfer

variable (buf : Buf)

/-- A transfer whose data is stored in the response; a failure breaks. -/
def readStore (request : Word32) (v : TransferVars)
    (next : TransferVars → DapM (Bool × TransferVars)) : DapM (Bool × TransferVars) := do
  let (value, data) ← transferData request v.data
  let v := { v with responseValue := value, data := data }
  if value ≠ dapTransferOk then pure (true, v)
  else do
    storeWord v.response data
    next { v with response := v.response + 4 }

/-- The do-while over the value, with the last data read. -/
def matchTries (request matchValue : Word32) : ℕ → Word32 → DapM (Word32 × Word32)
  | 0, data => transferData request data
  | matchRetry + 1, data => do
      let (value, data) ← transferData request data
      let s ← get
      if value = dapTransferOk ∧ data &&& s.matchMask ≠ matchValue ∧ s.transferAbort = 0#8 then
        matchTries request matchValue matchRetry data
      else pure (value, data)

/-- The response value after the comparison of the last word. -/
def compared (matchMask matchValue value data : Word32) : Word32 :=
  if data &&& matchMask ≠ matchValue then value ||| dapTransferMismatch else value

/-- A turn that ends with a response value. -/
def endRead (value : Word32) (v : TransferVars) : Bool × TransferVars :=
  let v := { v with responseValue := value }
  if value ≠ dapTransferOk then (true, v) else (false, { v with checkWrite := false })

/-- Read until the value matches; what was read last decides. -/
def matchLoop (request matchValue : Word32) (v : TransferVars) : DapM (Bool × TransferVars) := do
  let s ← get
  let (value, data) ← matchTries request matchValue s.matchRetry.toNat v.data
  let s ← get
  pure (endRead (compared s.matchMask matchValue value data) { v with data := data })

/-- Read with value match. An AP read is posted first. -/
def readMatch (request : Word32) (v : TransferVars) : DapM (Bool × TransferVars) := do
  let matchValue ← loadWord buf v.request
  let v := { v with request := v.request + 4 }
  if OnAp request then do
    let value ← transferNull request
    let v := { v with responseValue := value }
    if value ≠ dapTransferOk then pure (true, v) else matchLoop request matchValue v
  else matchLoop request matchValue v

/-- Normal read: an AP read is posted unless one is, a DP read is stored. -/
def readNormal (request : Word32) (v : TransferVars) : DapM (Bool × TransferVars) :=
  if OnAp request then
    if v.postRead then pure (false, { v with checkWrite := false })
    else do
      let value ← transferNull request
      let v := { v with responseValue := value }
      if value ≠ dapTransferOk then pure (true, v)
      else pure (false, { v with postRead := true, checkWrite := false })
  else
    readStore request v fun v => pure (false, { v with checkWrite := false })

/-- The read branch of the loop. -/
def transferRead (request : Word32) (v : TransferVars) : DapM (Bool × TransferVars) :=
  let rest (v : TransferVars) : DapM (Bool × TransferVars) :=
    if MatchValue request then readMatch buf request v else readNormal request v
  if v.postRead then
    if PostsNext request then readStore request v rest
    else readStore readRdbuff { v with postRead := false } rest
  else rest v

/-- The write branch, posted data stored. -/
def writeRegister (request : Word32) (v : TransferVars) : DapM (Bool × TransferVars) := do
  let data ← loadWord buf v.request
  let v := { v with request := v.request + 4, data := data }
  if MatchMask request then do
    modify fun s => { s with matchMask := data }
    pure (false, { v with responseValue := dapTransferOk })
  else do
    let (value, data) ← transferData request data
    let v := { v with responseValue := value, data := data }
    if value ≠ dapTransferOk then pure (true, v) else pure (false, { v with checkWrite := true })

/-- The write branch of the loop. -/
def transferWrite (request : Word32) (v : TransferVars) : DapM (Bool × TransferVars) :=
  if v.postRead then
    readStore readRdbuff v fun v => writeRegister buf request { v with postRead := false }
  else writeRegister buf request v

/-- One turn of the request loop, and whether it breaks. -/
def transferRequest (v : TransferVars) : DapM (Bool × TransferVars) := do
  let header ← loadByte buf v.request
  let request := header.setWidth 32
  let v := { v with request := v.request + 1 }
  if IsRead request then transferRead buf request v else transferWrite buf request v

/-- The request loop, and what it leaves of the count. -/
def transferLoop : ℕ → TransferVars → DapM (ℕ × TransferVars)
  | 0, v => pure (0, v)
  | count + 1, v => do
      let (broke, v) ← transferRequest buf v
      if broke then pure (count + 1, v)
      else do
        let v := { v with responseCount := v.responseCount + 1 }
        let s ← get
        if s.transferAbort ≠ 0#8 then pure (count + 1, v) else transferLoop count v

/-- The data bytes of a request that is not carried out. -/
def skippedData (header : Byte) : ℕ :=
  if IsRead (header.setWidth 32) then
    if MatchValue (header.setWidth 32) then 4 else 0
  else 4

/-- The loop over cancelled and dummy requests. -/
def skipRequests : ℕ → ℕ → DapM ℕ
  | 0, request => pure request
  | count + 1, request => do
      let header ← loadByte buf request
      skipRequests count (request + 1 + skippedData header)

/-- The read that closes a command which went well: of posted data, or of a write. -/
def closingRead (v : TransferVars) : DapM TransferVars :=
  if v.responseValue = dapTransferOk then
    if v.postRead then do
      let (_, v) ← readStore readRdbuff v fun v => pure (false, v)
      pure v
    else if v.checkWrite then do
      let value ← transferNull readRdbuff
      pure { v with responseValue := value }
    else pure v
  else pure v

variable (request response : ℕ)

/-- `DAP_SWD_Transfer`. -/
def dapSwdTransfer : DapM Word32 := do
  let data ← ask .garbage
  modify fun s => { s with transferAbort := 0#8 }
  let requestCount ← loadByte buf (request + 1)
  let (left, v) ← transferLoop buf requestCount.toNat
    ⟨request + 2, response + 2, 0, 0#32, false, false, data⟩
  let last ← skipRequests buf left v.request
  let v ← closingRead v
  storeByte response (BitVec.ofNat 8 v.responseCount)
  storeByte (response + 1) (v.responseValue.setWidth 8)
  pure (sizes (BitVec.ofNat 32 (last - request)) (BitVec.ofNat 32 (v.response - response)))

/-- `DAP_Dummy_Transfer`. -/
def dapDummyTransfer : DapM Word32 := do
  let requestCount ← loadByte buf (request + 1)
  let last ← skipRequests buf requestCount.toNat (request + 2)
  storeByte response 0#8
  storeByte (response + 1) 0#8
  pure (sizes (BitVec.ofNat 32 (last - request)) 2#32)

/-- `DAP_Transfer`. -/
def dapTransfer : DapM Word32 := do
  let s ← get
  if s.debugPort = dapPortSwd then dapSwdTransfer buf request response
  else dapDummyTransfer buf request response

end Transfer

/-! ## DAP_TransferBlock -/

/-- The locals of `DAP_SWD_TransferBlock` that its loops change. -/
structure BlockVars where
  response : ℕ
  responseCount : ℕ
  responseValue : Word32
  data : Word32

/-- The read loop: the last AP read fetches from RDBUFF. -/
def blockReads (request : Word32) : ℕ → BlockVars → DapM BlockVars
  | 0, v => pure v
  | count + 1, v => do
      let request := if count = 0 ∧ OnAp request then readRdbuff else request
      let (value, data) ← transferData request v.data
      let v := { v with responseValue := value, data := data }
      if value ≠ dapTransferOk then pure v
      else do
        storeWord v.response data
        blockReads request count
          { v with response := v.response + 4, responseCount := v.responseCount + 1 }

section TransferBlock

variable (buf : Buf)

/-- The write loop and the read that checks the last write. -/
def blockWrites (request : Word32) : ℕ → ℕ → BlockVars → DapM BlockVars
  | 0, _, v => do
      let value ← transferNull readRdbuff
      pure { v with responseValue := value }
  | count + 1, position, v => do
      let data ← loadWord buf position
      let (value, data) ← transferData request data
      let v := { v with responseValue := value, data := data }
      if value ≠ dapTransferOk then pure v
      else blockWrites request count (position + 4) { v with responseCount := v.responseCount + 1 }

variable (request response : ℕ)

/-- What `DAP_SWD_TransferBlock` transfers, if its count is not zero. -/
def blockTransfers (count : ℕ) (v : BlockVars) : DapM BlockVars := do
  let header ← loadByte buf (request + 3)
  let value := header.setWidth 32
  if IsRead value then
    if OnAp value then do
      let posted ← transferNull value
      let v := { v with responseValue := posted }
      if posted ≠ dapTransferOk then pure v else blockReads value count v
    else blockReads value count v
  else blockWrites buf value count (request + 4) v

/-- `DAP_SWD_TransferBlock`. -/
def dapSwdTransferBlock : DapM Word32 := do
  let data ← ask .garbage
  modify fun s => { s with transferAbort := 0#8 }
  let count ← loadHalf buf (request + 1)
  let start : BlockVars := ⟨response + 3, 0, 0#32, data⟩
  let v ← if count = 0#16 then pure start else blockTransfers buf request count.toNat start
  storeByte response (BitVec.ofNat 8 v.responseCount)
  storeByte (response + 1) (BitVec.ofNat 8 (v.responseCount / 256))
  storeByte (response + 2) (v.responseValue.setWidth 8)
  pure (BitVec.ofNat 32 (v.response - response))

/-- `DAP_TransferBlock`: the request size goes by its header, whatever was done. -/
def dapTransferBlock : DapM Word32 := do
  let s ← get
  let num ←
    if s.debugPort = dapPortSwd then dapSwdTransferBlock buf request response
    else do
      storeByte response 0#8
      storeByte (response + 1) 0#8
      storeByte (response + 2) 0#8
      pure 3#32
  let header ← loadByte buf (request + 3)
  if IsRead (header.setWidth 32) then pure (num ||| (4#32 <<< 16))
  else do
    let count ← loadHalf buf (request + 1)
    pure (num ||| ((4#32 + count.setWidth 32 * 4#32) <<< 16))

/-- `DAP_WriteAbort` with `DAP_SWD_WriteAbort`. -/
def dapWriteAbort : DapM Word32 := do
  let s ← get
  if s.debugPort = dapPortSwd then do
    let data ← loadWord buf (request + 1)
    let _ ← swdTransferOnce 0#32 (some data)
    storeByte response dapOk
    pure (sizes 5#32 1#32)
  else do
    storeByte response dapError
    pure (sizes 5#32 1#32)

end TransferBlock

/-! ## Dispatch -/

section Execute

variable (buf : Buf)

/-- `DAP_ProcessVendorCommand` of `DAP_vendor.c`: no vendor command does anything. -/
def dapProcessVendorCommand (request response : ℕ) : DapM Word32 := do
  let id ← loadByte buf request
  storeByte response id
  pure (sizes 1#32 1#32)

/-- The handler of a command identifier; `none` for `default:`, and for `DAP_Info`,
which has its own return. -/
def handler (polls : ℕ) (id : ℕ) (request response : ℕ) : Option (DapM Word32) :=
  match id with
  | 0x01 => some (dapHostStatus buf request response)
  | 0x02 => some (dapConnect buf request response)
  | 0x03 => some (dapDisconnect response)
  | 0x04 => some (dapTransferConfigure buf request response)
  | 0x05 => some (dapTransfer buf request response)
  | 0x06 => some (dapTransferBlock buf request response)
  | 0x08 => some (dapWriteAbort buf request response)
  | 0x09 => some (dapDelay buf request response)
  | 0x0A => some (dapResetTarget response)
  | 0x10 => some (dapSwjPins buf request response polls)
  | 0x11 => some (dapSwjClock buf request response)
  | 0x12 => some (dapSwjSequence buf request response)
  | 0x13 => some (dapSwdConfigure buf request response)
  | 0x14 => some (dapJtagSequence buf request response)
  | 0x15 => some (dapJtagConfigure buf request response)
  | 0x16 => some (dapJtagIdCode response)
  | 0x1D => some (dapSwdSequence buf request response)
  | _ => none

/-- `DAP_ProcessCommand`. -/
def dapProcessCommand (polls request response : ℕ) : DapM Word32 := do
  let id ← loadByte buf request
  if 0x80#8 ≤ id ∧ id ≤ 0x9F#8 then dapProcessVendorCommand buf request response
  else do
    storeByte response id
    if id = 0x00#8 then do
      let info ← loadByte buf (request + 1)
      let num ← dapInfo info (response + 2)
      storeByte (response + 1) num
      pure ((2#32 <<< 16) + 2#32 + num.setWidth 32)
    else
      match handler buf polls id.toNat (request + 1) (response + 1) with
      | some run => do
          let num ← run
          pure ((1#32 <<< 16) + 1#32 + num)
      | none => do
          storeByte response 0xFF#8
          pure (sizes 1#32 1#32)

/-- The loop of `DAP_ExecuteCommand`. -/
def executeCommands (polls : ℕ) : ℕ → ℕ → ℕ → Word32 → DapM Word32
  | 0, _, _, num => pure num
  | cnt + 1, request, response, num => do
      let n ← dapProcessCommand buf polls request response
      executeCommands polls cnt (request + ((n >>> 16).setWidth 16).toNat)
        (response + (n.setWidth 16).toNat) (num + n)

/-- `DAP_ExecuteCommand` on the slot and the response buffer. -/
def dapExecuteCommand (polls : ℕ) : DapM Word32 := do
  let id ← loadByte buf 0
  if id = 0x7F#8 then do
    storeByte 0 id
    let cnt ← loadByte buf 1
    storeByte 1 cnt
    executeCommands buf polls cnt.toNat 2 2 (sizes 2#32 2#32)
  else dapProcessCommand buf polls 0 0

end Execute

end ExLink.Dap
