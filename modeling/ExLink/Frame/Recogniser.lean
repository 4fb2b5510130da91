/-
# The frame recogniser

What the byte-fed parser is for, said without its registers: the only state is
the part of a candidate frame read so far. A candidate opens with the two magic
bytes, is dropped when its declared length is over the limit, and is reported
when its last CRC byte arrives, as a frame exactly when the bytes read are a
body closed by its own CRC.
-/

import ExLink.Frame.Parser

namespace ExLink.Frame

open ExLink.Automata

/-- The op byte of a candidate. -/
def readOp (read : List Byte) : Byte := read.getD 2 0#8

/-- The declared payload length of a candidate. -/
def readLen (read : List Byte) : Word16 := Word16.ofBytes (read.getD 3 0#8) (read.getD 4 0#8)

/-- The payload bytes of a candidate. -/
def readPayload (read : List Byte) : List Byte :=
  (read.drop exlinkHeaderLen).take (readLen read).toNat

/-- The number of bytes the declared length makes the candidate take. -/
def readTotal (read : List Byte) : ℕ := exlinkFrameOverhead + (readLen read).toNat

/-- One byte of the recogniser. -/
def recogniserStep (read : List Byte) (byte : Byte) : Option FrameReport × List Byte :=
  if read.length = 0 then (none, if byte = exlinkMagic0 then [exlinkMagic0] else [])
  else if read.length = 1 then
    (none,
      if byte = exlinkMagic1 then [exlinkMagic0, exlinkMagic1]
      else if byte = exlinkMagic0 then [exlinkMagic0]
      else [])
  else if read.length < 4 then (none, read ++ [byte])
  else if read.length = 4 then
    if exlinkMaxPayload < (readLen (read ++ [byte])).toNat then (some ⟨.badLen, 0#8, []⟩, [])
    else (none, read ++ [byte])
  else if read.length + 1 < readTotal read then (none, read ++ [byte])
  else
    (some ⟨if read ++ [byte] = closeFrame (read.take (exlinkHeaderLen + (readLen read).toNat))
        then .ok else .badCrc, readOp read, readPayload read⟩, [])

/-- The candidate left over after a stream. -/
def recogniserRun (read stream : List Byte) : List Byte := runMealy recogniserStep read stream

/-- The reports of a stream, one entry a byte. -/
def recogniserReports (read stream : List Byte) : List (Option FrameReport) :=
  (traceMealy recogniserStep read stream).map Prod.fst

@[simp]
theorem recogniserReports_nil (read : List Byte) : recogniserReports read [] = [] := rfl

@[simp]
theorem recogniserReports_cons (read : List Byte) (byte : Byte) (rest : List Byte) :
    recogniserReports read (byte :: rest) =
      (recogniserStep read byte).1 :: recogniserReports (recogniserStep read byte).2 rest := rfl

@[simp]
theorem recogniserRun_nil (read : List Byte) : recogniserRun read [] = read := rfl

@[simp]
theorem recogniserRun_cons (read : List Byte) (byte : Byte) (rest : List Byte) :
    recogniserRun read (byte :: rest) = recogniserRun (recogniserStep read byte).2 rest := rfl

theorem recogniserRun_append (read first second : List Byte) :
    recogniserRun read (first ++ second) = recogniserRun (recogniserRun read first) second :=
  runMealy_append recogniserStep read first second

theorem recogniserReports_append (read first second : List Byte) :
    recogniserReports read (first ++ second) =
      recogniserReports read first ++ recogniserReports (recogniserRun read first) second := by
  simp only [recogniserReports, recogniserRun, traceMealy_append, List.map_append]

/-! ## Equations, one for each phase of a candidate -/

section Steps

variable {read : List Byte} {byte : Byte}

@[simp]
theorem recogniserStep_nil :
    recogniserStep [] byte = (none, if byte = exlinkMagic0 then [exlinkMagic0] else []) := rfl

@[simp]
theorem recogniserStep_magic0 :
    recogniserStep [exlinkMagic0] byte =
      (none,
        if byte = exlinkMagic1 then [exlinkMagic0, exlinkMagic1]
        else if byte = exlinkMagic0 then [exlinkMagic0]
        else []) := rfl

theorem recogniserStep_header (opened : 2 ≤ read.length) (inside : read.length < 4) :
    recogniserStep read byte = (none, read ++ [byte]) := by
  rw [recogniserStep, if_neg (by omega), if_neg (by omega), if_pos inside]

theorem recogniserStep_badLen (hlen : read.length = 4)
    (hover : exlinkMaxPayload < (readLen (read ++ [byte])).toNat) :
    recogniserStep read byte = (some ⟨.badLen, 0#8, []⟩, []) := by
  rw [recogniserStep, if_neg (by omega), if_neg (by omega), if_neg (by omega), if_pos hlen,
    if_pos hover]

theorem recogniserStep_lenHi (hlen : read.length = 4)
    (hwithin : (readLen (read ++ [byte])).toNat ≤ exlinkMaxPayload) :
    recogniserStep read byte = (none, read ++ [byte]) := by
  rw [recogniserStep, if_neg (by omega), if_neg (by omega), if_neg (by omega), if_pos hlen,
    if_neg (by omega)]

theorem recogniserStep_body (hlen : exlinkHeaderLen ≤ read.length)
    (inside : read.length + 1 < readTotal read) :
    recogniserStep read byte = (none, read ++ [byte]) := by
  simp only [exlinkHeaderLen] at hlen
  rw [recogniserStep, if_neg (by omega), if_neg (by omega), if_neg (by omega),
    if_neg (by omega), if_pos inside]

theorem recogniserStep_last (hlen : exlinkHeaderLen ≤ read.length)
    (hlast : readTotal read ≤ read.length + 1) :
    recogniserStep read byte =
      (some ⟨if read ++ [byte] = closeFrame (read.take (exlinkHeaderLen + (readLen read).toNat))
          then .ok else .badCrc, readOp read, readPayload read⟩, []) := by
  simp only [exlinkHeaderLen] at hlen
  rw [recogniserStep, if_neg (by omega), if_neg (by omega), if_neg (by omega),
    if_neg (by omega), if_neg (by omega)]

end Steps

/-! ## Reading a frame body -/

section Body

variable (op : Byte) (payload : List Byte) (payloadLen : Word16) (rest : List Byte)

@[simp]
theorem length_frameBody : (frameBody op payload payloadLen).length =
    exlinkHeaderLen + payload.length := by
  simp [frameBody]

@[simp]
theorem readOp_frameBody_append :
    readOp (frameBody op payload payloadLen ++ rest) = op := rfl

@[simp]
theorem readLen_frameBody_append :
    readLen (frameBody op payload payloadLen ++ rest) = payloadLen :=
  Word16.ofBytes_low_high payloadLen

@[simp]
theorem readLen_frameBody : readLen (frameBody op payload payloadLen) = payloadLen :=
  Word16.ofBytes_low_high payloadLen

theorem readPayload_frameBody_append (hlen : payload.length = payloadLen.toNat) :
    readPayload (frameBody op payload payloadLen ++ rest) = payload := by
  rw [readPayload, readLen_frameBody_append, ← hlen, frameBody, List.append_assoc,
    List.drop_left' (length_frameHeader op payloadLen), List.take_left]

theorem take_frameBody_append (hlen : payload.length = payloadLen.toNat) :
    (frameBody op payload payloadLen ++ rest).take (exlinkHeaderLen + payloadLen.toNat) =
      frameBody op payload payloadLen :=
  List.take_left' (by rw [length_frameBody, hlen])

end Body

end ExLink.Frame
