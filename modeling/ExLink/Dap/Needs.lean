/-
# Which bytes of a packet matter

A request slot keeps the bytes of earlier requests behind those of the packet in it, and
a command reads as many bytes as its counts say, whatever the length of the packet. The
conditions below run through the commands of a packet and ask that every byte that makes
a difference is one of the packet. In the last command a byte makes none if it only says
where another command would stand or what state it would find.
-/

import ExLink.Dap.Fits

namespace ExLink.Dap

open ExLink.Swd (IsRead)

/-! ## Packets in a slot -/

section Slot

variable (data : Buf) (len : ℕ)

/-- A slot that holds the packet, with one value in all its other bytes. -/
def filled (fill : Byte) : Buf := fun offset => if offset < len then data offset else fill

/-- The word at an offset, as far as the packet goes. -/
def knownWord (offset : ℕ) : Word32 := wordAt (filled data len 0#8) offset

/-- A walk from header to header, whose steps go by the headers. -/
def WalkWithin (step : Byte → ℕ) (ended : ℕ → Prop) : ℕ → ℕ → Prop
  | 0, position => ended position
  | count + 1, position =>
      position < len ∧ WalkWithin step ended count (position + step (data position))

end Slot

/-! ## DAP_Transfer -/

/-- Requests that are skipped before another command. -/
def SkipWithin (data : Buf) (len : ℕ) (done : ℕ → Prop) (count request : ℕ) : Prop :=
  WalkWithin data len (fun header => 1 + skippedData header) done count request

section Requests

variable (data : Buf) (len : ℕ) (broken : ℕ → ℕ → Word32 → Prop)
  (next : ℕ → ℕ → Bool → Word32 → Prop)

/-- A read, from behind its header. A value of which a known bit lies outside the mask is
never read. -/
def ReadWithin (header : Word32) (request response : ℕ) (posted : Bool) (mask : Word32) : Prop :=
  if MatchValue header then
    broken (request + 4) response mask ∧
      (knownWord data len request &&& mask = knownWord data len request →
        request + 4 ≤ len ∧ next (request + 4) response posted mask)
  else if OnAp header then
    if posted then next request response true mask
    else broken request response mask ∧ next request response true mask
  else broken request response mask ∧ next request (response + 4) posted mask

/-- A write, from behind its header. A mask that nothing comes after is not used. -/
def WriteWithin (follows : Prop) (header : Word32) (request response : ℕ) (mask : Word32) : Prop :=
  if MatchMask header then
    follows → request + 4 ≤ len ∧ next (request + 4) response false (wordAt data request)
  else
    request + 4 ≤ len ∧ broken (request + 4) response mask ∧ next (request + 4) response false mask

/-- One request. A posted read is fetched first, by the next AP read or from RDBUFF. -/
def RequestWithin (follows : Prop) (request response : ℕ) (posted : Bool) (mask : Word32) : Prop :=
  let header := (data request).setWidth 32
  request < len ∧
    if IsRead header then
      if posted then
        broken (request + 1) response mask ∧
          ReadWithin data len broken next header (request + 1) (response + 4)
            (decide (PostsNext header)) mask
      else ReadWithin data len broken next header (request + 1) response false mask
    else if posted then
      broken (request + 1) response mask ∧
        WriteWithin data len broken next follows header (request + 1) (response + 4) mask
    else WriteWithin data len broken next follows header (request + 1) response mask

end Requests

/-- The request loop. `done` is told the requests to be skipped, where the request and
the response stand, and whether a posted read is still to be fetched. -/
def TransferLoopWithin (data : Buf) (len : ℕ) (last : Bool)
    (done : ℕ → ℕ → ℕ → Bool → Word32 → Prop) : ℕ → ℕ → ℕ → Bool → Word32 → Prop
  | 0, request, response, posted, mask => done 0 request response posted mask
  | count + 1, request, response, posted, mask =>
      RequestWithin data len
        (fun request response mask => done (count + 1) request response false mask)
        (fun request response posted mask =>
          TransferLoopWithin data len last done count request response posted mask)
        (count ≠ 0 ∨ last = false) request response posted mask

/-- The read that closes the command. -/
def ClosingWithin (done : ℕ → Prop) (response : ℕ) (posted : Bool) : Prop :=
  done response ∧ (posted = true → done (response + 4))

/-- `DAP_Transfer` on a connected port; `done` is told its result. -/
def SwdTransferWithin (data : Buf) (len : ℕ) (last : Bool) (done : Word32 → Word32 → Prop)
    (request response : ℕ) (mask : Word32) : Prop :=
  request + 2 ≤ len ∧
    TransferLoopWithin data len last
      (fun left ended filled posted mask =>
        last = false →
          SkipWithin data len
            (fun ended =>
              ClosingWithin
                (fun filled =>
                  done (sizes (BitVec.ofNat 32 (ended - request))
                    (BitVec.ofNat 32 (filled - response))) mask)
                filled posted)
            left ended)
      (data (request + 1)).toNat (request + 2) (response + 2) false mask

/-- `DAP_Transfer` on a port that is not connected. -/
def DummyTransferWithin (data : Buf) (len : ℕ) (last : Bool) (done : Word32 → Prop)
    (request : ℕ) : Prop :=
  last = false →
    request + 2 ≤ len ∧
      SkipWithin data len (fun ended => done (sizes (BitVec.ofNat 32 (ended - request)) 2#32))
        (data (request + 1)).toNat (request + 2)

/-! ## DAP_TransferBlock -/

/-- The result of `DAP_TransferBlock`, from that of its transfers. -/
def blockResult (data : Buf) (request : ℕ) (num : Word32) : Word32 :=
  if IsRead ((data (request + 3)).setWidth 32) then num ||| (4#32 <<< 16)
  else
    num |||
      ((4#32 + (Word16.ofBytes (data (request + 1)) (data (request + 2))).setWidth 32 * 4#32) <<< 16)

/-- `DAP_TransferBlock`: a read can end after any number of words, a write uses its data as
far as it gets. -/
def TransferBlockWithin (data : Buf) (len : ℕ) (last : Bool) (done : Word32 → Prop)
    (request : ℕ) (swd : Bool) : Prop :=
  if swd = true then
    request + 3 ≤ len ∧
      if blockCount data request = 0 then
        last = false → request + 4 ≤ len ∧ done (blockResult data request 3#32)
      else
        request + 4 ≤ len ∧
          if IsRead ((data (request + 3)).setWidth 32) then
            ∀ words ≤ blockCount data request,
              done (blockResult data request (BitVec.ofNat 32 (3 + 4 * words)))
          else
            request + 4 + 4 * blockCount data request ≤ len ∧ done (blockResult data request 3#32)
  else last = false → request + 4 ≤ len ∧ done (blockResult data request 3#32)

/-! ## Sequences and pins -/

/-- The sequences of `DAP_SWD_Sequence`, from the bytes counted so far. -/
def SequencesWithin (data : Buf) (len : ℕ) (done : ℕ → ℕ → Prop) (request : ℕ) :
    ℕ → ℕ → ℕ → Prop
  | 0, requestCount, responseCount => done requestCount responseCount
  | count + 1, requestCount, responseCount =>
      let info := data (request + requestCount)
      let bytes := bytesFor (sequenceClocks info)
      request + requestCount < len ∧
        if CapturesInput info then
          SequencesWithin data len done request count (requestCount + 1) (responseCount + bytes)
        else
          request + requestCount + 1 + bytes ≤ len ∧
            SequencesWithin data len done request count (requestCount + (bytes + 1)) responseCount

/-- The sequences of `DAP_JTAG_Sequence`. -/
def JtagSequencesWithin (data : Buf) (len : ℕ) (done : ℕ → Prop) (request count : ℕ) : Prop :=
  WalkWithin data len (fun info => bytesFor (sequenceClocks info) + 1)
    (fun ended => done (ended - request)) count (request + 1)

/-- The comparisons of `DAP_SWJ_Pins` read no pin, and none of them fails. -/
def PinsUnread (value select : Word32) : Prop :=
  ¬ BitSelected select 0 ∧ ¬ BitSelected select 1 ∧ (BitSelected select 2 → value >>> 2 = 0#32) ∧
    (BitSelected select 5 → value >>> 5 = 0#32) ∧ ¬ BitSelected select 7

/-- `DAP_SWJ_Pins` only asks whether its wait is zero. -/
def SwjPinsWithin (data : Buf) (len : ℕ) (done : Prop) (request : ℕ) : Prop :=
  let value := (data request).setWidth 32
  let select := (data (request + 1)).setWidth 32
  let wait := knownWord data len (request + 2)
  request + 2 ≤ len ∧ (request + 6 ≤ len ∨ wait ≠ 0#32 ∨ PinsUnread value select) ∧
    (wait = 0#32 ∨ PinsReachable value select → done)

/-! ## Packets -/

section Commands

variable (data : Buf) (len : ℕ) (last : Bool) (done : Word32 → Link → Prop)

/-- A handler; `done` is told its result and the link after it. -/
def HandlerWithin (id request response : ℕ) (link : Link) : Prop :=
  match id with
  | 0x01 => request < len ∧ done (sizes 2#32 1#32) link
  | 0x02 =>
      request < len ∧
        done (sizes 1#32 1#32)
          ⟨decide (data request = 0x00#8 ∨ data request = dapPortSwd) || link.swd, link.mask⟩
  | 0x03 => done 1#32 ⟨false, link.mask⟩
  | 0x04 => (last = false → request + 5 ≤ len) ∧ done (sizes 5#32 1#32) link
  | 0x05 =>
      if link.swd = true then
        SwdTransferWithin data len last (fun num mask => done num ⟨true, mask⟩) request response
          link.mask
      else DummyTransferWithin data len last (fun num => done num link) request
  | 0x06 => TransferBlockWithin data len last (fun num => done num link) request link.swd
  | 0x08 => (link.swd = true → request + 5 ≤ len) ∧ done (sizes 5#32 1#32) link
  | 0x09 => (last = false → request + 2 ≤ len) ∧ done (sizes 2#32 1#32) link
  | 0x0A => done 2#32 link
  | 0x10 => SwjPinsWithin data len (done (sizes 6#32 1#32) link) request
  -- DAP_SWJ_Clock answers whether its clock is zero
  | 0x11 =>
      (request + 4 ≤ len ∨ last = true ∧ knownWord data len request ≠ 0#32) ∧
        done (sizes 4#32 1#32) link
  | 0x12 =>
      let count := countOr (data request).toNat 256
      request < len ∧ request + 1 + bytesFor count ≤ len ∧
        done (sizes (BitVec.ofNat 32 (bytesFor count + 1)) 1#32) link
  | 0x13 => (last = false → request + 1 ≤ len) ∧ done (sizes 1#32 1#32) link
  | 0x14 =>
      last = false →
        request < len ∧
          JtagSequencesWithin data len
            (fun consumed => done (sizes (BitVec.ofNat 32 consumed) 1#32) link) request
            (data request).toNat
  | 0x15 =>
      last = false →
        request < len ∧ done (sizes ((data request).setWidth 32 + 1#32) 1#32) link
  | 0x16 => done (sizes 1#32 1#32) link
  | 0x1D =>
      request < len ∧
        SequencesWithin data len
          (fun consumed stored =>
            done (sizes (BitVec.ofNat 32 consumed) (BitVec.ofNat 32 stored)) link)
          request (data request).toNat 1 1
  -- not a handler
  | _ => done 0#32 link

/-- A command with its identifier. -/
def CommandWithin (request response : ℕ) (link : Link) : Prop :=
  let id := data request
  request < len ∧
    if 0x80#8 ≤ id ∧ id ≤ 0x9F#8 then done (sizes 1#32 1#32) link
    else if id = 0x00#8 then
      request + 1 < len ∧
        done ((2#32 <<< 16) + 2#32 +
          (BitVec.ofNat 8 (infoBytes (data (request + 1))).length).setWidth 32) link
    else if (handler data 0 id.toNat request response).isSome then
      HandlerWithin data len last (fun num link => done ((1#32 <<< 16) + 1#32 + num) link) id.toNat
        (request + 1) (response + 1) link
    else done (sizes 1#32 1#32) link

end Commands

/-- The commands of a packet, each from where the last one ended. -/
def CommandsWithin (data : Buf) (len : ℕ) : ℕ → ℕ → ℕ → Link → Prop
  | 0, _, _, _ => True
  | cnt + 1, request, response, link =>
      CommandWithin data len (decide (cnt = 0))
        (fun num link =>
          CommandsWithin data len cnt (request + ((num >>> 16).setWidth 16).toNat)
            (response + (num.setWidth 16).toNat) link)
        request response link

/-- Every byte that makes a difference is one of the packet. -/
def PacketWithin (data : Buf) (len : ℕ) (link : Link) : Prop :=
  0 < len ∧
    if data 0 = 0x7F#8 then 1 < len ∧ CommandsWithin data len (data 1).toNat 2 2 link
    else CommandsWithin data len 1 0 0 link

end ExLink.Dap
