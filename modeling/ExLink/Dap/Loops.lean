/-
# The loops of the transfer commands, with checkpoints

`DAP_Transfer` and `DAP_TransferBlock` once more, with a checkpoint where a request
iteration starts, before a transfer outside of the request loop, and behind the last
loop. Without the checkpoints they are the commands of the model. A checkpoint says how
many iterations and retries can follow it at most in its command: a transfer is tried
again `retry_count` times, a read that compares `match_retry` times on top, and what
comes behind a value outside the match mask is never reached.
-/

import ExLink.Automata.Checkpoint
import ExLink.Dap.Transfer

namespace ExLink.Dap

open ExLink.Automata ExLink.Automata.Prog
open ExLink.Swd (IsRead dapTransferOk)

/-! ## What can follow -/

/-- The retries of a transfer. -/
def DapData.retries (s : DapData) : ℕ := s.retryCount.toNat

/-- The retries of a read until the value matches. Any word does if there is nothing to
compare. -/
def matchAhead (s : DapData) (mask value : Word32) : ℕ :=
  if mask = 0#32 ∧ value = 0#32 then s.retries
  else s.retries + s.matchRetry.toNat * (s.retries + 1)

section Ahead

variable (buf : Buf) (s : DapData) (next : ℕ → Bool → Bool → Word32 → ℕ)

/-- Behind the header of a read: its retries, and what follows from the next offset, with
what is posted, what is to be checked and the match mask. -/
def readAhead (request : Word32) (offset : ℕ) (posted : Bool) (mask : Word32) : ℕ :=
  if MatchValue request then
    (if OnAp request then s.retries else 0) + matchAhead s mask (wordAt buf offset) +
      if wordAt buf offset &&& mask = wordAt buf offset then next (offset + 4) posted false mask
      else 0
  else if OnAp request then
    if posted then next offset posted false mask
    else s.retries + next offset true false mask
  else s.retries + next offset posted false mask

/-- Behind the header of a write. -/
def writeAhead (request : Word32) (offset : ℕ) (check : Bool) (mask : Word32) : ℕ :=
  if MatchMask request then next (offset + 4) false check (wordAt buf offset)
  else s.retries + next (offset + 4) false true mask

/-- From the header of a request on. What is posted is fetched first. -/
def requestAhead (offset : ℕ) (posted check : Bool) (mask : Word32) : ℕ :=
  let request := (buf offset).setWidth 32
  if IsRead request then
    if posted then
      s.retries + readAhead buf s next request (offset + 1) (decide (PostsNext request)) mask
    else readAhead buf s next request (offset + 1) false mask
  else (if posted then s.retries else 0) + writeAhead buf s next request (offset + 1) check mask

end Ahead

/-- From the head of the request loop on: an iteration for every request that is left,
then the retries of the closing read. -/
def turnsAhead (buf : Buf) (s : DapData) : ℕ → ℕ → Bool → Bool → Word32 → ℕ
  | 0, _, posted, check, _ => if posted ∨ check then s.retries else 0
  | count + 1, offset, posted, check, mask =>
      requestAhead buf s (turnsAhead buf s count) offset posted check mask + 1

/-- The closing read of what the request loop left. -/
def closingAhead (s : DapData) (v : TransferVars) : ℕ :=
  if v.responseValue = dapTransferOk ∧ (v.postRead ∨ v.checkWrite) then s.retries else 0

/-- The iterations of `DAP_TransferBlock` that are left, with their retries. -/
def blockAhead (s : DapData) (count : ℕ) : ℕ := count * (s.retries + 1)

/-! ## Checkpoints -/

/-- The start of a request iteration, a transfer outside of the loop, each with the
retries of a transfer and with what can follow at most, and the end of the loops. -/
inductive Checkpoint where
  | turn (retries ahead : ℕ)
  | outside (retries ahead : ℕ)
  | leave

/-- A handler with checkpoints. -/
abbrev MarkedDapM := MarkedM DapOp DapOp.Answer Checkpoint DapData

/-! ## DAP_Transfer -/

section Transfer

variable (buf : Buf)

/-- The request loop. -/
def markedTransferLoop : ℕ → TransferVars → MarkedDapM (ℕ × TransferVars)
  | 0, v => pure (0, v)
  | count + 1, v => do
      let s ← get
      checkpoint (.turn s.retries
        (requestAhead buf s (turnsAhead buf s count) v.request v.postRead v.checkWrite
          s.matchMask))
      let (broke, v) ← plain (transferRequest buf v)
      if broke then pure (count + 1, v)
      else do
        let v := { v with responseCount := v.responseCount + 1 }
        let s ← get
        if s.transferAbort ≠ 0#8 then pure (count + 1, v) else markedTransferLoop count v

variable (request response : ℕ)

/-- `DAP_SWD_Transfer`. -/
def markedSwdTransfer : MarkedDapM Word32 := do
  let data ← plain (ask .garbage)
  modify fun s => { s with transferAbort := 0#8 }
  let requestCount ← plain (loadByte buf (request + 1))
  let (left, v) ← markedTransferLoop buf requestCount.toNat
    ⟨request + 2, response + 2, 0, 0#32, false, false, data⟩
  let s ← get
  checkpoint (.outside s.retries (closingAhead s v))
  let last ← plain (skipRequests buf left v.request)
  let v ← plain (closingRead v)
  checkpoint .leave
  plain do
    storeByte response (BitVec.ofNat 8 v.responseCount)
    storeByte (response + 1) (v.responseValue.setWidth 8)
    pure (sizes (BitVec.ofNat 32 (last - request)) (BitVec.ofNat 32 (v.response - response)))

/-- `DAP_Transfer`. -/
def markedTransfer : MarkedDapM Word32 := do
  let s ← get
  if s.debugPort = dapPortSwd then markedSwdTransfer buf request response
  else plain (dapDummyTransfer buf request response)

end Transfer

/-! ## DAP_TransferBlock -/

/-- The read loop. -/
def markedBlockReads (request : Word32) : ℕ → BlockVars → MarkedDapM BlockVars
  | 0, v => pure v
  | count + 1, v => do
      let s ← get
      checkpoint (.turn s.retries (s.retries + blockAhead s count))
      let request := if count = 0 ∧ OnAp request then readRdbuff else request
      let (value, data) ← plain (transferData request v.data)
      let v := { v with responseValue := value, data := data }
      if value ≠ dapTransferOk then pure v
      else do
        plain (storeWord v.response data)
        markedBlockReads request count
          { v with response := v.response + 4, responseCount := v.responseCount + 1 }

section TransferBlock

variable (buf : Buf)

/-- The write loop and the read that checks the last write. -/
def markedBlockWrites (request : Word32) : ℕ → ℕ → BlockVars → MarkedDapM BlockVars
  | 0, _, v => do
      let s ← get
      checkpoint (.outside s.retries s.retries)
      let value ← plain (transferNull readRdbuff)
      pure { v with responseValue := value }
  | count + 1, position, v => do
      let s ← get
      checkpoint (.turn s.retries (s.retries + blockAhead s count + s.retries))
      let data ← plain (loadWord buf position)
      let (value, data) ← plain (transferData request data)
      let v := { v with responseValue := value, data := data }
      if value ≠ dapTransferOk then pure v
      else
        markedBlockWrites request count (position + 4)
          { v with responseCount := v.responseCount + 1 }

variable (request response : ℕ)

/-- What `DAP_SWD_TransferBlock` transfers, if its count is not zero. -/
def markedBlockTransfers (count : ℕ) (v : BlockVars) : MarkedDapM BlockVars := do
  let header ← plain (loadByte buf (request + 3))
  let value := header.setWidth 32
  if IsRead value then
    if OnAp value then do
      let s ← get
      checkpoint (.outside s.retries (s.retries + blockAhead s count))
      let posted ← plain (transferNull value)
      let v := { v with responseValue := posted }
      if posted ≠ dapTransferOk then pure v else markedBlockReads value count v
    else markedBlockReads value count v
  else markedBlockWrites buf value count (request + 4) v

/-- `DAP_SWD_TransferBlock`. -/
def markedSwdTransferBlock : MarkedDapM Word32 := do
  let data ← plain (ask .garbage)
  modify fun s => { s with transferAbort := 0#8 }
  let count ← plain (loadHalf buf (request + 1))
  let start : BlockVars := ⟨response + 3, 0, 0#32, data⟩
  let v ← if count = 0#16 then pure start else markedBlockTransfers buf request count.toNat start
  checkpoint .leave
  plain do
    storeByte response (BitVec.ofNat 8 v.responseCount)
    storeByte (response + 1) (BitVec.ofNat 8 (v.responseCount / 256))
    storeByte (response + 2) (v.responseValue.setWidth 8)
    pure (BitVec.ofNat 32 (v.response - response))

/-- `DAP_TransferBlock`. -/
def markedTransferBlock : MarkedDapM Word32 := do
  let s ← get
  let num ←
    if s.debugPort = dapPortSwd then markedSwdTransferBlock buf request response
    else plain do
      storeByte response 0#8
      storeByte (response + 1) 0#8
      storeByte (response + 2) 0#8
      pure 3#32
  plain do
    let header ← loadByte buf (request + 3)
    if IsRead (header.setWidth 32) then pure (num ||| (4#32 <<< 16))
    else do
      let count ← loadHalf buf (request + 1)
      pure (num ||| ((4#32 + count.setWidth 32 * 4#32) <<< 16))

end TransferBlock

/-! ## Dispatch -/

section Execute

variable (buf : Buf)

/-- The handler of a command identifier. -/
def markedHandler (polls : ℕ) (id : ℕ) (request response : ℕ) : Option (MarkedDapM Word32) :=
  if id = 0x05 then some (markedTransfer buf request response)
  else if id = 0x06 then some (markedTransferBlock buf request response)
  else (handler buf polls id request response).map plain

/-- `DAP_ProcessCommand`. -/
def markedProcessCommand (polls request response : ℕ) : MarkedDapM Word32 := do
  let id ← plain (loadByte buf request)
  if 0x80#8 ≤ id ∧ id ≤ 0x9F#8 then plain (dapProcessVendorCommand buf request response)
  else do
    plain (storeByte response id)
    if id = 0x00#8 then plain do
      let info ← loadByte buf (request + 1)
      let num ← dapInfo info (response + 2)
      storeByte (response + 1) num
      pure ((2#32 <<< 16) + 2#32 + num.setWidth 32)
    else
      match markedHandler buf polls id.toNat (request + 1) (response + 1) with
      | some run => do
          let num ← run
          pure ((1#32 <<< 16) + 1#32 + num)
      | none => plain do
          storeByte response 0xFF#8
          pure (sizes 1#32 1#32)

/-- The loop of `DAP_ExecuteCommand`. -/
def markedExecuteCommands (polls : ℕ) : ℕ → ℕ → ℕ → Word32 → MarkedDapM Word32
  | 0, _, _, num => pure num
  | cnt + 1, request, response, num => do
      let n ← markedProcessCommand buf polls request response
      markedExecuteCommands polls cnt (request + ((n >>> 16).setWidth 16).toNat)
        (response + (n.setWidth 16).toNat) (num + n)

/-- `DAP_ExecuteCommand` on the slot and the response buffer. -/
def markedExecuteCommand (polls : ℕ) : MarkedDapM Word32 := do
  let id ← plain (loadByte buf 0)
  if id = 0x7F#8 then do
    plain (storeByte 0 id)
    let cnt ← plain (loadByte buf 1)
    plain (storeByte 1 cnt)
    markedExecuteCommands buf polls cnt.toNat 2 2 (sizes 2#32 2#32)
  else markedProcessCommand buf polls 0 0

end Execute

/-! ## The commands that are marked -/

section StandsFor

variable (buf : Buf)

theorem standsFor_transferLoop (count : ℕ) (v : TransferVars) :
    StandsFor (markedTransferLoop buf count v) (transferLoop buf count v) := by
  induction count generalizing v with
  | zero => exact standsFor_pure _
  | succ count ih =>
      refine standsFor_get_only fun s => standsFor_checkpoint_bind _ ?_
      refine standsFor_plain_bind _ fun result => standsFor_ite (standsFor_pure _) ?_
      exact standsFor_get_bind fun s => standsFor_ite (standsFor_pure _) (ih _)

theorem standsFor_swdTransfer (request response : ℕ) :
    StandsFor (markedSwdTransfer buf request response) (dapSwdTransfer buf request response) := by
  refine standsFor_plain_bind _ fun data => standsFor_modify_bind _ ?_
  refine standsFor_plain_bind _ fun requestCount => ?_
  refine standsFor_bind (standsFor_transferLoop buf _ _) fun result => ?_
  refine standsFor_get_only fun s => standsFor_checkpoint_bind _ ?_
  refine standsFor_plain_bind _ fun last => standsFor_plain_bind _ fun v => ?_
  exact standsFor_checkpoint_bind _ (standsFor_plain _)

theorem standsFor_transfer (request response : ℕ) :
    StandsFor (markedTransfer buf request response) (dapTransfer buf request response) :=
  standsFor_get_bind fun _ =>
    standsFor_ite (standsFor_swdTransfer buf request response) (standsFor_plain _)

theorem standsFor_blockReads (request : Word32) (count : ℕ) (v : BlockVars) :
    StandsFor (markedBlockReads request count v) (blockReads request count v) := by
  induction count generalizing request v with
  | zero => exact standsFor_pure _
  | succ count ih =>
      refine standsFor_get_only fun s => standsFor_checkpoint_bind _ ?_
      refine standsFor_plain_bind _ fun result => standsFor_ite (standsFor_pure _) ?_
      exact standsFor_plain_bind _ fun _ => ih _ _

theorem standsFor_blockWrites (request : Word32) (count position : ℕ) (v : BlockVars) :
    StandsFor (markedBlockWrites buf request count position v)
      (blockWrites buf request count position v) := by
  induction count generalizing position v with
  | zero =>
      refine standsFor_get_only fun s => standsFor_checkpoint_bind _ ?_
      exact standsFor_plain_bind _ fun _ => standsFor_pure _
  | succ count ih =>
      refine standsFor_get_only fun s => standsFor_checkpoint_bind _ ?_
      refine standsFor_plain_bind _ fun data => standsFor_plain_bind _ fun result => ?_
      exact standsFor_ite (standsFor_pure _) (ih _ _)

theorem standsFor_blockTransfers (request count : ℕ) (v : BlockVars) :
    StandsFor (markedBlockTransfers buf request count v) (blockTransfers buf request count v) := by
  refine standsFor_plain_bind _ fun header => standsFor_ite (standsFor_ite ?_ ?_) ?_
  · refine standsFor_get_only fun s => standsFor_checkpoint_bind _ ?_
    refine standsFor_plain_bind _ fun posted => standsFor_ite (standsFor_pure _) ?_
    exact standsFor_blockReads _ _ _
  · exact standsFor_blockReads _ _ _
  · exact standsFor_blockWrites buf _ _ _ _

theorem standsFor_swdTransferBlock (request response : ℕ) :
    StandsFor (markedSwdTransferBlock buf request response)
      (dapSwdTransferBlock buf request response) := by
  refine standsFor_plain_bind _ fun data => standsFor_modify_bind _ ?_
  refine standsFor_plain_bind _ fun count => standsFor_ite ?_ ?_
  · refine standsFor_bind (standsFor_pure _) fun v => ?_
    exact standsFor_checkpoint_bind _ (standsFor_plain _)
  · refine standsFor_bind (standsFor_blockTransfers buf _ _ _) fun v => ?_
    exact standsFor_checkpoint_bind _ (standsFor_plain _)

theorem standsFor_transferBlock (request response : ℕ) :
    StandsFor (markedTransferBlock buf request response)
      (dapTransferBlock buf request response) := by
  refine standsFor_get_bind fun s => standsFor_ite ?_ ?_
  · exact standsFor_bind (standsFor_swdTransferBlock buf request response) fun _ =>
      standsFor_plain _
  · exact standsFor_plain_bind _ fun _ => standsFor_plain _

/-- A command is handled if it is handled without checkpoints, alike. -/
theorem standsFor_handler (polls id request response : ℕ) :
    Option.Rel StandsFor (markedHandler buf polls id request response)
      (handler buf polls id request response) := by
  rw [markedHandler]
  split_ifs with htransfer hblock
  · rw [htransfer]
    exact .some (standsFor_transfer buf request response)
  · rw [hblock]
    exact .some (standsFor_transferBlock buf request response)
  · cases handler buf polls id request response with
    | none => exact .none
    | some run => exact .some (standsFor_plain run)

theorem standsFor_processCommand (polls request response : ℕ) :
    StandsFor (markedProcessCommand buf polls request response)
      (dapProcessCommand buf polls request response) := by
  refine standsFor_plain_bind _ fun id => standsFor_ite (standsFor_plain _) ?_
  refine standsFor_plain_bind _ fun _ => standsFor_ite (standsFor_plain _) ?_
  have hhandler := standsFor_handler buf polls id.toNat (request + 1) (response + 1)
  revert hhandler
  generalize markedHandler buf polls id.toNat (request + 1) (response + 1) = marked
  generalize handler buf polls id.toNat (request + 1) (response + 1) = run
  rintro (hrun | -)
  · exact standsFor_bind hrun fun num => standsFor_pure _
  · exact standsFor_plain _

theorem standsFor_executeCommands (polls cnt request response : ℕ) (num : Word32) :
    StandsFor (markedExecuteCommands buf polls cnt request response num)
      (executeCommands buf polls cnt request response num) := by
  induction cnt generalizing request response num with
  | zero => exact standsFor_pure _
  | succ cnt ih =>
      exact standsFor_bind (standsFor_processCommand buf polls _ _) fun n => ih _ _ _

/-- The checkpoints apart, this is `DAP_ExecuteCommand`. -/
theorem standsFor_executeCommand (polls : ℕ) :
    StandsFor (markedExecuteCommand buf polls) (dapExecuteCommand buf polls) := by
  refine standsFor_plain_bind _ fun id => standsFor_ite ?_ (standsFor_processCommand buf polls 0 0)
  refine standsFor_plain_bind _ fun _ => standsFor_plain_bind _ fun cnt => ?_
  exact standsFor_plain_bind _ fun _ => standsFor_executeCommands buf polls _ _ _ _

end StandsFor

end ExLink.Dap
