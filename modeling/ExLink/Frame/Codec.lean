/-
# Command frame codec: constants, CRC and frame building

The frame layout of `frame_proto.h` and the encoder half of `frame_parser.c`.
A frame is `MAGIC0 MAGIC1 OP LEN_LO LEN_HI PAYLOAD CRC_LO CRC_HI`; the CRC is
CRC-16/CCITT-FALSE over everything before it.
-/

import ExLink.Data.Bytes

namespace ExLink.Frame

/-! ## Frame constants (`frame_proto.h`) -/

def exlinkMagic0 : Byte := 0x4C#8
def exlinkMagic1 : Byte := 0x4B#8
def exlinkMaxPayload : ℕ := 4096
def exlinkHeaderLen : ℕ := 5
def exlinkCrcLen : ℕ := 2
def exlinkFrameOverhead : ℕ := exlinkHeaderLen + exlinkCrcLen
def exlinkMaxFrame : ℕ := exlinkFrameOverhead + exlinkMaxPayload

def exlinkCrc16Poly : Word16 := 0x1021#16
def exlinkCrc16Init : Word16 := 0xFFFF#16

/-! ## CRC-16/CCITT-FALSE -/

/-- One turn of the inner loop: shift out the top bit and divide. -/
def crc16Bit (crc : Word16) : Word16 :=
  if crc &&& 0x8000#16 ≠ 0#16 then (crc <<< 1) ^^^ exlinkCrc16Poly else crc <<< 1

/-- One turn of the outer loop: fold in a byte, then eight bit steps. -/
def crc16Byte (crc : Word16) (byte : Byte) : Word16 :=
  Nat.repeat crc16Bit 8 (crc ^^^ (byte.setWidth 16 <<< 8))

/-- `exlink_crc16_update`. A NULL buffer leaves the CRC alone, as the empty one. -/
def exlinkCrc16Update (crc : Word16) (buf : List Byte) : Word16 :=
  buf.foldl crc16Byte crc

/-- `exlink_crc16`. -/
def exlinkCrc16 (buf : List Byte) : Word16 := exlinkCrc16Update exlinkCrc16Init buf

@[simp]
theorem exlinkCrc16Update_nil (crc : Word16) : exlinkCrc16Update crc [] = crc := rfl

/-- The CRC of a concatenation continues from the CRC of its first part. -/
theorem exlinkCrc16Update_append (crc : Word16) (first second : List Byte) :
    exlinkCrc16Update crc (first ++ second) =
      exlinkCrc16Update (exlinkCrc16Update crc first) second :=
  List.foldl_append

/-- The byte-wise step of a receiver extends the whole-buffer CRC. -/
theorem exlinkCrc16Update_exlinkCrc16 (buf : List Byte) (byte : Byte) :
    exlinkCrc16Update (exlinkCrc16 buf) [byte] = exlinkCrc16 (buf ++ [byte]) :=
  (exlinkCrc16Update_append exlinkCrc16Init buf [byte]).symm

/-- The check value of CRC-16/CCITT-FALSE over the ASCII digits `123456789`. -/
example : exlinkCrc16 [0x31, 0x32, 0x33, 0x34, 0x35, 0x36, 0x37, 0x38, 0x39] = 0x29B1#16 := by
  decide +kernel

/-! ## Frame building -/

/-- `MAGIC0 MAGIC1 OP LEN_LO LEN_HI`. -/
def frameHeader (op : Byte) (payloadLen : Word16) : List Byte :=
  [exlinkMagic0, exlinkMagic1, op, payloadLen.lowByte, payloadLen.highByte]

@[simp]
theorem length_frameHeader (op : Byte) (payloadLen : Word16) :
    (frameHeader op payloadLen).length = exlinkHeaderLen := rfl

/-- The bytes the CRC covers: `out[0 .. HEADER_LEN + payload_len)`. -/
def frameBody (op : Byte) (payload : List Byte) (payloadLen : Word16) : List Byte :=
  frameHeader op payloadLen ++ payload

/-- A body closed by its CRC, low byte first. -/
def closeFrame (body : List Byte) : List Byte :=
  body ++ [(exlinkCrc16 body).lowByte, (exlinkCrc16 body).highByte]

/-- The two bytes after a body close it exactly if they hold its CRC. -/
theorem eq_closeFrame_iff (body : List Byte) (low high : Byte) :
    body ++ [low, high] = closeFrame body ↔ Word16.ofBytes low high = exlinkCrc16 body := by
  rw [closeFrame, List.append_cancel_left_eq]
  constructor
  · intro h
    obtain ⟨rfl, rfl⟩ : low = _ ∧ high = _ := by simpa using h
    exact Word16.ofBytes_low_high _
  · intro h
    rw [← h, Word16.lowByte_ofBytes, Word16.highByte_ofBytes]

/-- `exlink_frame_build`: the bytes written to `out`. Their number is the return
value, so the refusals (`out == NULL`, a payload over the limit, a buffer too
small) write nothing and return 0. A NULL payload is sent as zeros. -/
def exlinkFrameBuild (op : Byte) (payload : Option Buf) (payloadLen : Word16)
    (outCap : Option ℕ) : List Byte :=
  match outCap with
  | none => []
  | some cap =>
      if exlinkMaxPayload < payloadLen.toNat then []
      else if cap < exlinkFrameOverhead + payloadLen.toNat then []
      else closeFrame (frameBody op
        ((payload.getD fun _ => 0#8).prefixBytes payloadLen.toNat) payloadLen)

/-- The frame of a payload within the limit, in a buffer that holds any frame. -/
def frameOf (op : Byte) (payload : List Byte) : List Byte :=
  closeFrame (frameBody op payload (BitVec.ofNat 16 payload.length))

theorem length_closeFrame (body : List Byte) :
    (closeFrame body).length = body.length + exlinkCrcLen := by
  simp [closeFrame, exlinkCrcLen]

theorem length_frameOf (op : Byte) (payload : List Byte) :
    (frameOf op payload).length = exlinkFrameOverhead + payload.length := by
  rw [frameOf, length_closeFrame, frameBody, List.length_append, length_frameHeader,
    exlinkFrameOverhead]
  omega

/-- A length within the payload limit survives the 16-bit length field. -/
theorem toNat_payloadLen {payload : List Byte} (fits : payload.length ≤ exlinkMaxPayload) :
    (BitVec.ofNat 16 payload.length).toNat = payload.length := by
  rw [BitVec.toNat_ofNat]
  exact Nat.mod_eq_of_lt (by simp only [exlinkMaxPayload] at fits; omega)

/-- Building a frame from a payload pointer. -/
theorem exlinkFrameBuild_eq_frameOf (op : Byte) (payload : Buf) (payloadLen : Word16) (cap : ℕ)
    (fits : payloadLen.toNat ≤ exlinkMaxPayload)
    (room : exlinkFrameOverhead + payloadLen.toNat ≤ cap) :
    exlinkFrameBuild op (some payload) payloadLen (some cap) =
      frameOf op (payload.prefixBytes payloadLen.toNat) := by
  rw [exlinkFrameBuild, if_neg (by omega), if_neg (by omega), frameOf, Buf.length_prefixBytes,
    BitVec.ofNat_toNat, BitVec.setWidth_eq]
  rfl

/-- The encoder writes a whole frame when the payload is within the limit. -/
theorem length_exlinkFrameBuild (op : Byte) (payload : Buf) (payloadLen : Word16)
    (fits : payloadLen.toNat ≤ exlinkMaxPayload) :
    (exlinkFrameBuild op (some payload) payloadLen (some exlinkMaxFrame)).length =
      exlinkFrameOverhead + payloadLen.toNat := by
  rw [exlinkFrameBuild_eq_frameOf op payload payloadLen exlinkMaxFrame fits
    (by simp only [exlinkMaxFrame]; omega), length_frameOf, Buf.length_prefixBytes]

/-- Building the frame of a byte list. -/
theorem exlinkFrameBuild_ofList (op : Byte) {payload : List Byte} (cap : ℕ)
    (fits : payload.length ≤ exlinkMaxPayload)
    (room : exlinkFrameOverhead + payload.length ≤ cap) :
    exlinkFrameBuild op (some (Buf.ofList payload)) (BitVec.ofNat 16 payload.length) (some cap) =
      frameOf op payload := by
  have hlen := toNat_payloadLen fits
  rw [exlinkFrameBuild_eq_frameOf op _ _ cap (by omega) (by omega), hlen,
    Buf.prefixBytes_ofList]

/-- What the encoder writes when it does not refuse. -/
theorem exlinkFrameBuild_cases (op : Byte) (payload : Option Buf) (payloadLen : Word16)
    (outCap : Option ℕ) :
    exlinkFrameBuild op payload payloadLen outCap = [] ∨
      ∃ cap, outCap = some cap ∧ payloadLen.toNat ≤ exlinkMaxPayload ∧
        exlinkFrameOverhead + payloadLen.toNat ≤ cap ∧
        exlinkFrameBuild op payload payloadLen outCap = closeFrame (frameBody op
          ((payload.getD fun _ => 0#8).prefixBytes payloadLen.toNat) payloadLen) := by
  cases outCap with
  | none => exact Or.inl rfl
  | some cap =>
      by_cases hlong : exlinkMaxPayload < payloadLen.toNat
      · exact Or.inl (by rw [exlinkFrameBuild, if_pos hlong])
      · by_cases hroom : cap < exlinkFrameOverhead + payloadLen.toNat
        · exact Or.inl (by rw [exlinkFrameBuild, if_neg hlong, if_pos hroom])
        · refine Or.inr ⟨cap, rfl, by omega, by omega, ?_⟩
          rw [exlinkFrameBuild, if_neg hlong, if_neg hroom]

/-- The encoder either refuses and writes nothing, or writes a whole frame that
fits its output buffer and the frame limit. -/
theorem exlinkFrameBuild_eq_nil_or (op : Byte) (payload : Option Buf) (payloadLen : Word16)
    (outCap : Option ℕ) :
    exlinkFrameBuild op payload payloadLen outCap = [] ∨
      ∃ cap, outCap = some cap ∧ payloadLen.toNat ≤ exlinkMaxPayload ∧
        (exlinkFrameBuild op payload payloadLen outCap).length =
          exlinkFrameOverhead + payloadLen.toNat ∧
        exlinkFrameOverhead + payloadLen.toNat ≤ cap := by
  rcases exlinkFrameBuild_cases op payload payloadLen outCap with
    hnil | ⟨cap, hcap, fits, room, hbuild⟩
  · exact Or.inl hnil
  · refine Or.inr ⟨cap, hcap, fits, ?_, room⟩
    rw [hbuild, length_closeFrame, frameBody, List.length_append, length_frameHeader,
      Buf.length_prefixBytes, exlinkFrameOverhead]
    omega

end ExLink.Frame
