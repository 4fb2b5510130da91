/-
# How far a packet reaches

A packet decides by its own bytes how far its commands reach into the request and into
the response, up to how its SWD transfers end. A transfer can fail or succeed; a read
that waits for a value can succeed only if the value lies inside the match mask. The
conditions below run through the commands of a packet and ask that it stays inside
`DAP_PACKET_SIZE` in every case. Apart from the packet they depend on whether the SWD
port is connected and on the match mask.
-/

import ExLink.Dap.Transfer

namespace ExLink.Dap

open ExLink.Swd (IsRead)

/-- What the reach of a packet depends on besides its bytes. -/
structure Link where
  swd : Bool
  mask : Word32

/-- The link of a probe. -/
def DapData.link (data : DapData) : Link := ⟨decide (data.debugPort = dapPortSwd), data.matchMask⟩

/-! ## DAP_Transfer -/

/-- Requests that are skipped. -/
def SkipFits (buf : Buf) (done : ℕ → Prop) : ℕ → ℕ → Prop
  | 0, request => done request
  | count + 1, request =>
      request < dapPacketSize ∧
        SkipFits buf done count (request + 1 + skippedData (buf request))

section Requests

variable (buf : Buf) (broken : ℕ → ℕ → Word32 → Prop) (next : ℕ → ℕ → Bool → Word32 → Prop)

/-- A read, from behind its header. -/
def ReadFits (header : Word32) (request response : ℕ) (posted : Bool) (mask : Word32) : Prop :=
  if MatchValue header then
    request + 4 ≤ dapPacketSize ∧ broken (request + 4) response mask ∧
      (wordAt buf request &&& mask = wordAt buf request →
        next (request + 4) response posted mask)
  else if OnAp header then
    if posted then next request response true mask
    else broken request response mask ∧ next request response true mask
  else
    broken request response mask ∧ response + 4 ≤ dapPacketSize ∧
      next request (response + 4) posted mask

/-- A write, from behind its header. -/
def WriteFits (header : Word32) (request response : ℕ) (mask : Word32) : Prop :=
  request + 4 ≤ dapPacketSize ∧
    if MatchMask header then next (request + 4) response false (wordAt buf request)
    else broken (request + 4) response mask ∧ next (request + 4) response false mask

/-- One request. A posted read is fetched first, by the next AP read or from RDBUFF. -/
def RequestFits (request response : ℕ) (posted : Bool) (mask : Word32) : Prop :=
  let header := (buf request).setWidth 32
  request < dapPacketSize ∧
    if IsRead header then
      if posted then
        broken (request + 1) response mask ∧ response + 4 ≤ dapPacketSize ∧
          ReadFits buf broken next header (request + 1) (response + 4) (decide (PostsNext header))
            mask
      else ReadFits buf broken next header (request + 1) response false mask
    else if posted then
      broken (request + 1) response mask ∧ response + 4 ≤ dapPacketSize ∧
        WriteFits buf broken next header (request + 1) (response + 4) mask
    else WriteFits buf broken next header (request + 1) response mask

end Requests

/-- The request loop. `done` is told the requests to be skipped, where the request and
the response stand, and whether a posted read is still to be fetched. -/
def TransferLoopFits (buf : Buf) (done : ℕ → ℕ → ℕ → Bool → Word32 → Prop) :
    ℕ → ℕ → ℕ → Bool → Word32 → Prop
  | 0, request, response, posted, mask => done 0 request response posted mask
  | count + 1, request, response, posted, mask =>
      RequestFits buf
        (fun request response mask => done (count + 1) request response false mask)
        (fun request response posted mask =>
          TransferLoopFits buf done count request response posted mask)
        request response posted mask

/-- The read that closes the command. -/
def ClosingFits (done : ℕ → Prop) (response : ℕ) (posted : Bool) : Prop :=
  if posted then done response ∧ response + 4 ≤ dapPacketSize ∧ done (response + 4)
  else done response

/-- `DAP_Transfer` on a connected port; `done` is told the bytes of both sides. -/
def SwdTransferFits (buf : Buf) (done : ℕ → ℕ → Word32 → Prop) (request response : ℕ)
    (mask : Word32) : Prop :=
  request + 2 ≤ dapPacketSize ∧
    TransferLoopFits buf
      (fun left last filled posted mask =>
        SkipFits buf
          (fun last =>
            ClosingFits
              (fun filled =>
                response + 2 ≤ dapPacketSize ∧ done (last - request) (filled - response) mask)
              filled posted)
          left last)
      (buf (request + 1)).toNat (request + 2) (response + 2) false mask

/-- `DAP_Transfer` on a port that is not connected. -/
def DummyTransferFits (buf : Buf) (done : ℕ → ℕ → Prop) (request response : ℕ) : Prop :=
  request + 2 ≤ dapPacketSize ∧
    SkipFits buf
      (fun last => response + 2 ≤ dapPacketSize ∧ done (last - request) 2)
      (buf (request + 1)).toNat (request + 2)

/-! ## DAP_TransferBlock -/

/-- The count of a block. -/
def blockCount (buf : Buf) (request : ℕ) : ℕ :=
  (Word16.ofBytes (buf (request + 1)) (buf (request + 2))).toNat

/-- The request bytes of a block, by its header and modulo 2^16. -/
def blockSize (buf : Buf) (request : ℕ) : ℕ :=
  if IsRead ((buf (request + 3)).setWidth 32) then 4
  else (4 + 4 * blockCount buf request) % 65536

/-- `DAP_TransferBlock`: a read can end after any number of words, a write reads its data
as far as it gets. -/
def TransferBlockFits (buf : Buf) (done : ℕ → ℕ → Prop) (request response : ℕ) (swd : Bool) :
    Prop :=
  request + 4 ≤ dapPacketSize ∧ response + 3 ≤ dapPacketSize ∧
    if swd ∧ blockCount buf request ≠ 0 then
      if IsRead ((buf (request + 3)).setWidth 32) then
        response + 3 + 4 * blockCount buf request ≤ dapPacketSize ∧
          ∀ words ≤ blockCount buf request, done (blockSize buf request) (3 + 4 * words)
      else
        request + 4 + 4 * blockCount buf request ≤ dapPacketSize ∧
          done (blockSize buf request) 3
    else done (blockSize buf request) 3

/-! ## Sequences and pins -/

/-- The sequences of `DAP_SWD_Sequence`, from the bytes counted so far. -/
def SequencesFit (buf : Buf) (done : ℕ → ℕ → Prop) (request response : ℕ) : ℕ → ℕ → ℕ → Prop
  | 0, requestCount, responseCount => done requestCount responseCount
  | count + 1, requestCount, responseCount =>
      let info := buf (request + requestCount)
      let bytes := bytesFor (sequenceClocks info)
      request + requestCount < dapPacketSize ∧
        if CapturesInput info then
          response + responseCount + bytes ≤ dapPacketSize ∧
            SequencesFit buf done request response count (requestCount + 1) (responseCount + bytes)
        else
          request + requestCount + 1 + bytes ≤ dapPacketSize ∧
            SequencesFit buf done request response count (requestCount + (bytes + 1)) responseCount

/-- The sequences of `DAP_JTAG_Sequence`. -/
def JtagSequencesFit (buf : Buf) (done : ℕ → Prop) (request : ℕ) : ℕ → ℕ → Prop
  | 0, requestCount => done requestCount
  | count + 1, requestCount =>
      request + requestCount < dapPacketSize ∧
        JtagSequencesFit buf done request count
          (requestCount + (bytesFor (sequenceClocks (buf (request + requestCount))) + 1))

/-- The pins can take the levels that `DAP_SWJ_Pins` waits for: those of SWCLK, SWDIO
and nRESET are read, the others read as 0. -/
def PinsReachable (value select : Word32) : Prop :=
  (BitSelected select 0 → value < 2#32) ∧ (BitSelected select 1 → value >>> 1 < 2#32) ∧
    (BitSelected select 2 → value >>> 2 = 0#32) ∧ (BitSelected select 5 → value >>> 5 = 0#32) ∧
      (BitSelected select 7 → value >>> 7 < 2#32)

/-! ## Packets -/

section Commands

variable (buf : Buf) (done : ℕ → ℕ → Link → Prop)

/-- A command that reads and stores a fixed number of bytes. -/
def Reaches (request loads response stores : ℕ) (rest : Prop) : Prop :=
  request + loads ≤ dapPacketSize ∧ response + stores ≤ dapPacketSize ∧ rest

/-- A handler; `done` is told the bytes of both sides and the link after it. -/
def HandlerFits (id request response : ℕ) (link : Link) : Prop :=
  match id with
  -- DAP_HostStatus reads its second byte for a known status only
  | 0x01 =>
      Reaches request (if buf request = 0x00#8 ∨ buf request = 0x01#8 then 2 else 1) response 1
        (done 2 1 link)
  | 0x02 =>
      Reaches request 1 response 1
        (done 1 1 ⟨decide (buf request = 0x00#8 ∨ buf request = dapPortSwd) || link.swd,
          link.mask⟩)
  | 0x03 => Reaches request 0 response 1 (done 0 1 ⟨false, link.mask⟩)
  | 0x04 => Reaches request 5 response 1 (done 5 1 link)
  | 0x05 =>
      if link.swd then
        SwdTransferFits buf (fun consumed stored mask => done consumed stored ⟨true, mask⟩) request
          response link.mask
      else DummyTransferFits buf (fun consumed stored => done consumed stored link) request response
  | 0x06 =>
      TransferBlockFits buf (fun consumed stored => done consumed stored link) request response
        link.swd
  | 0x08 => Reaches request (if link.swd then 5 else 0) response 1 (done 5 1 link)
  | 0x09 => Reaches request 2 response 1 (done 2 1 link)
  | 0x0A => Reaches request 0 response 2 (done 0 2 link)
  -- DAP_SWJ_Pins stores nothing until the pins are as they should be
  | 0x10 =>
      request + 6 ≤ dapPacketSize ∧
        (wordAt buf (request + 2) = 0#32 ∨
            PinsReachable ((buf request).setWidth 32) ((buf (request + 1)).setWidth 32) →
          response + 1 ≤ dapPacketSize ∧ done 6 1 link)
  | 0x11 => Reaches request 4 response 1 (done 4 1 link)
  | 0x12 =>
      let bytes := bytesFor (countOr (buf request).toNat 256)
      Reaches request (1 + bytes) response 1 (done (1 + bytes) 1 link)
  | 0x13 => Reaches request 1 response 1 (done 1 1 link)
  | 0x14 =>
      Reaches request 1 response 1
        (JtagSequencesFit buf (fun consumed => done consumed 1 link) request (buf request).toNat 1)
  | 0x15 => Reaches request 1 response 1 (done ((buf request).toNat + 1) 1 link)
  | 0x16 => Reaches request 0 response 1 (done 1 1 link)
  | 0x1D =>
      Reaches request 1 response 1
        (SequencesFit buf (fun consumed stored => done consumed stored link) request response
          (buf request).toNat 1 1)
  -- not a handler
  | _ => done 0 0 link

/-- A command with its identifier. Vendor commands and unknown ones are one byte. -/
def CommandFits (request response : ℕ) (link : Link) : Prop :=
  let id := buf request
  request + 1 ≤ dapPacketSize ∧ response + 1 ≤ dapPacketSize ∧
    if 0x80#8 ≤ id ∧ id ≤ 0x9F#8 then done 1 1 link
    else if id = 0x00#8 then
      request + 2 ≤ dapPacketSize ∧
        response + 2 + (infoBytes (buf (request + 1))).length ≤ dapPacketSize ∧
          done 2 (2 + (infoBytes (buf (request + 1))).length) link
    else if (handler buf 0 id.toNat request response).isSome then
      HandlerFits buf (fun consumed stored link => done (consumed + 1) (stored + 1) link) id.toNat
        (request + 1) (response + 1) link
    else done 1 1 link

end Commands

/-- The commands of `DAP_ExecuteCommands`, each from where the last one ended. -/
def CommandsFit (buf : Buf) : ℕ → ℕ → ℕ → Link → Prop
  | 0, _, _, _ => True
  | cnt + 1, request, response, link =>
      CommandFits buf
        (fun consumed stored link =>
          CommandsFit buf cnt (request + consumed) (response + stored) link)
        request response link

/-- A packet in a slot. -/
def PacketFits (buf : Buf) (link : Link) : Prop :=
  if buf 0 = 0x7F#8 then CommandsFit buf (buf 1).toNat 2 2 link
  else CommandFits buf (fun _ _ _ => True) 0 0 link

end ExLink.Dap
