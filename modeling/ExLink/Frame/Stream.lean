/-
# Byte streams of frames and noise

Two results about whole streams. Frames separated by noise that never contains
the magic pair are all recognised, each at its last byte and with its own
payload, and nothing else is reported. Conversely, whatever the stream, an
accepted frame is the encoding of what the parser hands out, and the byte
ranges of two accepted frames are disjoint.
-/

import ExLink.Frame.Refinement
import Mathlib.Data.List.Infix

namespace ExLink.Frame

open ExLink.Automata

/-! ## Noise -/

/-- The byte pair that opens a frame does not occur. The last byte may be the
first magic byte. -/
def NoMagicPair (noise : List Byte) : Prop :=
  ¬ [exlinkMagic0, exlinkMagic1] <:+: noise

instance (noise : List Byte) : Decidable (NoMagicPair noise) := by
  unfold NoMagicPair
  infer_instance

theorem NoMagicPair.tail {byte : Byte} {noise : List Byte}
    (quiet : NoMagicPair (byte :: noise)) : NoMagicPair noise :=
  fun inside => quiet (inside.trans (List.suffix_cons byte noise).isInfix)

theorem NoMagicPair.head_ne {noise : List Byte}
    (quiet : NoMagicPair (exlinkMagic0 :: noise)) : noise.head? ≠ some exlinkMagic1 := by
  intro hhead
  cases noise with
  | nil => simp at hhead
  | cons byte rest =>
      obtain rfl : byte = exlinkMagic1 := by simpa using hhead
      exact quiet (List.prefix_append [exlinkMagic0, exlinkMagic1] rest).isInfix

/-- Nothing of a frame read, or one pending first magic byte. -/
def Idle (read : List Byte) : Prop := read = [] ∨ read = [exlinkMagic0]

/-- Noise is never reported and leaves at most a pending first magic byte. -/
theorem recogniser_noise {read noise : List Byte} (idle : Idle read)
    (quiet : NoMagicPair noise)
    (pending : read = [exlinkMagic0] → noise.head? ≠ some exlinkMagic1) :
    recogniserReports read noise = List.replicate noise.length none ∧
      Idle (recogniserRun read noise) := by
  induction noise generalizing read with
  | nil => exact ⟨rfl, idle⟩
  | cons byte rest ih =>
      have hstep : (recogniserStep read byte).1 = none ∧
          Idle (recogniserStep read byte).2 ∧
          ((recogniserStep read byte).2 = [exlinkMagic0] →
            rest.head? ≠ some exlinkMagic1) := by
        by_cases hfirst : byte = exlinkMagic0
        · subst hfirst
          have hnext : recogniserStep read exlinkMagic0 = (none, [exlinkMagic0]) := by
            rcases idle with rfl | rfl
            · rfl
            · rw [recogniserStep_magic0, if_neg (by decide), if_pos rfl]
          rw [hnext]
          exact ⟨rfl, Or.inr rfl, fun _ => quiet.head_ne⟩
        · have hnext : recogniserStep read byte = (none, []) := by
            rcases idle with rfl | rfl
            · rw [recogniserStep_nil, if_neg hfirst]
            · have hsecond : byte ≠ exlinkMagic1 := by simpa using pending rfl
              rw [recogniserStep_magic0, if_neg hsecond, if_neg hfirst]
          rw [hnext]
          exact ⟨rfl, Or.inl rfl, fun h => by simp at h⟩
      obtain ⟨hreport, hidle, hpending⟩ := hstep
      obtain ⟨hrest, hend⟩ := ih hidle quiet.tail hpending
      refine ⟨?_, hend⟩
      rw [recogniserReports_cons, hreport, hrest]
      rfl

/-! ## One frame -/

section OneFrame

variable (op : Byte) {payload : List Byte} (payloadLen : Word16)

/-- An idle recogniser waits one byte after the first magic byte, whether or not
it had already seen one. -/
theorem recogniserStep_idle_magic0 {read : List Byte} (idle : Idle read) :
    recogniserStep read exlinkMagic0 = (none, [exlinkMagic0]) := by
  rcases idle with rfl | rfl
  · rfl
  · rw [recogniserStep_magic0, if_neg (by decide), if_pos rfl]

/-- The five header bytes are taken in silence and leave an empty body of the
declared length. -/
theorem recogniser_header {read : List Byte} (idle : Idle read)
    (within : payloadLen.toNat ≤ exlinkMaxPayload) :
    recogniserReports read (frameHeader op payloadLen) = List.replicate exlinkHeaderLen none ∧
      recogniserRun read (frameHeader op payloadLen) = frameBody op [] payloadLen := by
  have hsecond : recogniserStep [exlinkMagic0] exlinkMagic1 =
      (none, [exlinkMagic0, exlinkMagic1]) := rfl
  have hop : recogniserStep [exlinkMagic0, exlinkMagic1] op =
      (none, [exlinkMagic0, exlinkMagic1, op]) := rfl
  have hlow : recogniserStep [exlinkMagic0, exlinkMagic1, op] payloadLen.lowByte =
      (none, [exlinkMagic0, exlinkMagic1, op, payloadLen.lowByte]) := rfl
  have hlen : readLen ([exlinkMagic0, exlinkMagic1, op, payloadLen.lowByte] ++
      [payloadLen.highByte]) = payloadLen := Word16.ofBytes_low_high payloadLen
  have hhigh : recogniserStep [exlinkMagic0, exlinkMagic1, op, payloadLen.lowByte]
      payloadLen.highByte = (none, frameBody op [] payloadLen) := by
    rw [recogniserStep_lenHi rfl (by rwa [hlen])]
    simp only [frameBody, frameHeader, List.append_nil, List.cons_append, List.nil_append]
  constructor
  · simp only [frameHeader, recogniserReports_cons, recogniserReports_nil,
      recogniserStep_idle_magic0 idle, hsecond, hop, hlow, hhigh]
    rfl
  · simp only [frameHeader, recogniserRun_cons, recogniserRun_nil,
      recogniserStep_idle_magic0 idle, hsecond, hop, hlow, hhigh]

/-- The payload bytes of a frame are taken in silence. -/
theorem recogniser_payload (before rest : List Byte)
    (inside : before.length + rest.length ≤ payloadLen.toNat) :
    recogniserReports (frameBody op before payloadLen) rest =
        List.replicate rest.length none ∧
      recogniserRun (frameBody op before payloadLen) rest =
        frameBody op (before ++ rest) payloadLen := by
  induction rest generalizing before with
  | nil => simp
  | cons byte rest ih =>
      simp only [List.length_cons] at inside
      have hstep : recogniserStep (frameBody op before payloadLen) byte =
          (none, frameBody op (before ++ [byte]) payloadLen) := by
        rw [recogniserStep_body (by simp)
          (by simp [readTotal, exlinkFrameOverhead, exlinkCrcLen]; omega)]
        simp [frameBody]
      have htail := ih (before ++ [byte]) (by simp; omega)
      rw [recogniserReports_cons, recogniserRun_cons, hstep]
      simpa [List.replicate_succ] using htail

/-- The two bytes after a complete body: the first is taken in silence, the second
reports the op and the payload of the body, as a frame if they are its CRC. -/
theorem recogniser_crc (hlen : payload.length = payloadLen.toNat) (low high : Byte) :
    let body := frameBody op payload payloadLen
    recogniserReports body [low, high] =
        [none, some ⟨if Word16.ofBytes low high = exlinkCrc16 body then .ok else .badCrc,
          op, payload⟩] ∧
      recogniserRun body [low, high] = [] := by
  intro body
  have hlow : recogniserStep body low = (none, body ++ [low]) :=
    recogniserStep_body (by simp [body])
      (by simp [body, readTotal, exlinkFrameOverhead, exlinkCrcLen, hlen]; omega)
  have hhigh : recogniserStep (body ++ [low]) high =
      (some ⟨if Word16.ofBytes low high = exlinkCrc16 body then .ok else .badCrc, op, payload⟩,
        []) := by
    have hbody : (body ++ [low]).take (exlinkHeaderLen + (readLen (body ++ [low])).toNat) =
        body := by
      rw [readLen_frameBody_append]
      exact take_frameBody_append _ _ _ _ hlen
    have hpayload : readPayload (body ++ [low]) = payload :=
      readPayload_frameBody_append _ _ _ _ hlen
    rw [recogniserStep_last (by simp [body]; omega)
      (by simp [body, readTotal, exlinkFrameOverhead, exlinkCrcLen, hlen]; omega), hbody, hpayload,
      List.append_assoc]
    change (some (FrameReport.mk (if body ++ [low, high] = closeFrame body then _ else _) op
      payload), _) = _
    rw [if_congr (eq_closeFrame_iff body low high) rfl rfl]
  simp only [recogniserReports_cons, recogniserReports_nil, recogniserRun_cons,
    recogniserRun_nil, hlow, hhigh, and_self]

/-- A complete candidate with any two bytes in place of its CRC, whatever idle state it
meets: silence up to the last byte. -/
theorem recogniser_candidate {read : List Byte} (idle : Idle read)
    (within : payloadLen.toNat ≤ exlinkMaxPayload) (hlen : payload.length = payloadLen.toNat)
    (low high : Byte) :
    let body := frameBody op payload payloadLen
    recogniserReports read (body ++ [low, high]) =
        List.replicate (body.length + 1) none ++
          [some ⟨if Word16.ofBytes low high = exlinkCrc16 body then .ok else .badCrc,
            op, payload⟩] ∧
      recogniserRun read (body ++ [low, high]) = [] := by
  intro body
  obtain ⟨hheader, hheaderRun⟩ := recogniser_header op payloadLen idle within
  obtain ⟨hbody, hbodyRun⟩ := recogniser_payload op payloadLen [] payload (by simp [hlen])
  obtain ⟨hcrc, hcrcRun⟩ := recogniser_crc op payloadLen hlen low high
  have hsplit : body ++ [low, high] = frameHeader op payloadLen ++ (payload ++ [low, high]) :=
    List.append_assoc _ _ _
  rw [hsplit, recogniserReports_append, recogniserRun_append, hheader, hheaderRun,
    recogniserReports_append, recogniserRun_append, hbody, hbodyRun, List.nil_append, hcrc,
    hcrcRun, length_frameBody, List.replicate_add, List.replicate_add, List.append_assoc,
    List.append_assoc]
  exact ⟨rfl, rfl⟩

/-- A complete frame, whatever idle state it meets: silence up to the last byte,
which reports the frame's own op and payload. -/
theorem recogniser_frame {read : List Byte} (idle : Idle read)
    (fits : payload.length ≤ exlinkMaxPayload) :
    recogniserReports read (frameOf op payload) =
        List.replicate ((frameOf op payload).length - 1) none ++ [some ⟨.ok, op, payload⟩] ∧
      recogniserRun read (frameOf op payload) = [] := by
  have hlen := toNat_payloadLen fits
  have hcount : (frameOf op payload).length - 1 =
      (frameBody op payload (BitVec.ofNat 16 payload.length)).length + 1 := by
    rw [frameOf, length_closeFrame, exlinkCrcLen]
    omega
  obtain ⟨hreports, hrun⟩ := recogniser_candidate op (BitVec.ofNat 16 payload.length) idle
    (hlen.le.trans fits) hlen.symm
    (exlinkCrc16 (frameBody op payload (BitVec.ofNat 16 payload.length))).lowByte
    (exlinkCrc16 (frameBody op payload (BitVec.ofNat 16 payload.length))).highByte
  rw [Word16.ofBytes_low_high, if_pos rfl] at hreports
  rw [hcount]
  exact ⟨hreports, hrun⟩

end OneFrame

/-! ## Streams of frames and noise -/

/-- A frame with the noise in front of it. -/
structure NoisyFrame where
  noise : List Byte
  op : Byte
  payload : List Byte
  quiet : NoMagicPair noise
  fits : payload.length ≤ exlinkMaxPayload

/-- What such a frame puts on the wire. -/
def NoisyFrame.bytes (frame : NoisyFrame) : List Byte :=
  frame.noise ++
    exlinkFrameBuild frame.op (some (Buf.ofList frame.payload))
      (BitVec.ofNat 16 frame.payload.length) (some exlinkMaxFrame)

/-- What a parser owes for it: one report, at the last byte. -/
def NoisyFrame.reports (frame : NoisyFrame) : List (Option FrameReport) :=
  List.replicate (frame.bytes.length - 1) none ++ [some ⟨.ok, frame.op, frame.payload⟩]

theorem NoisyFrame.bytes_eq (frame : NoisyFrame) :
    frame.bytes = frame.noise ++ frameOf frame.op frame.payload := by
  have hfits := frame.fits
  rw [NoisyFrame.bytes,
    exlinkFrameBuild_ofList frame.op exlinkMaxFrame hfits
      (by simp only [exlinkMaxFrame]; omega)]

/-- One noisy frame, whatever idle state it meets. -/
theorem recogniser_noisyFrame {read : List Byte} (idle : read = []) (frame : NoisyFrame) :
    recogniserReports read frame.bytes = frame.reports ∧
      recogniserRun read frame.bytes = [] := by
  subst idle
  obtain ⟨hnoise, hidle⟩ :=
    recogniser_noise (Or.inl rfl) frame.quiet (fun h => by simp at h)
  obtain ⟨hframe, hrun⟩ := recogniser_frame frame.op hidle frame.fits
  have hpos : 1 ≤ (frameOf frame.op frame.payload).length := by
    rw [length_frameOf, exlinkFrameOverhead, exlinkCrcLen]
    omega
  have hcount : frame.bytes.length - 1 =
      frame.noise.length + ((frameOf frame.op frame.payload).length - 1) := by
    rw [frame.bytes_eq, List.length_append]
    omega
  constructor
  · rw [NoisyFrame.reports, hcount, frame.bytes_eq, recogniserReports_append, hnoise, hframe,
      List.replicate_add, List.append_assoc]
  · rw [frame.bytes_eq, recogniserRun_append, hrun]

/-- Any number of noisy frames, one after the other. -/
theorem recogniser_noisyFrames (frames : List NoisyFrame) :
    recogniserReports [] (frames.flatMap NoisyFrame.bytes) =
        frames.flatMap NoisyFrame.reports ∧
      recogniserRun [] (frames.flatMap NoisyFrame.bytes) = [] := by
  induction frames with
  | nil => exact ⟨rfl, rfl⟩
  | cons frame rest ih =>
      obtain ⟨hframe, hrun⟩ := recogniser_noisyFrame rfl frame
      simp only [List.flatMap_cons, recogniserReports_append, recogniserRun_append, hframe, hrun,
        ih.1, ih.2, and_self]

/-- A stream of frames with noise before, between and after them is decoded
completely: each frame is reported at its last byte, with its own op and
payload, and no other byte reports anything. -/
theorem parserReports_noisyFrames (p : ExlinkParser) (frames : List NoisyFrame)
    (noise : List Byte) (quiet : NoMagicPair noise) :
    parserReports (exlinkParserInit p) (frames.flatMap NoisyFrame.bytes ++ noise) =
      frames.flatMap NoisyFrame.reports ++ List.replicate noise.length none := by
  obtain ⟨hframes, hrun⟩ := recogniser_noisyFrames frames
  rw [parserReports_eq (Reading.init p), recogniserReports_append, hframes, hrun,
    (recogniser_noise (Or.inl rfl) quiet fun h => by simp at h).1]

/-- Two frames with repeated first magic bytes before, between and after them. -/
theorem parserReports_noisyFrames_pingEcho :
    parserReports (exlinkParserInit ⟨.magic0, 0#8, 0#16, 0#16, 0#16, 0#16, fun _ => 0#8⟩)
        (([⟨[0x4C#8], 0x01#8, [], by decide, by decide⟩,
          ⟨[0x4B#8, 0x4C#8, 0x4C#8], 0x02#8, [0xAA#8], by decide, by decide⟩] :
            List NoisyFrame).flatMap NoisyFrame.bytes ++ [0x4C#8]) =
      ([⟨[0x4C#8], 0x01#8, [], by decide, by decide⟩,
          ⟨[0x4B#8, 0x4C#8, 0x4C#8], 0x02#8, [0xAA#8], by decide, by decide⟩] :
            List NoisyFrame).flatMap NoisyFrame.reports ++ [none] :=
  parserReports_noisyFrames _ _ [0x4C#8] (by decide)

/-! ## Accepted frames -/

/-- The candidate never holds more than the stream ends in, and a lone byte of
it is the first magic byte. -/
def EndsIn (stream read : List Byte) : Prop :=
  read <:+ stream ∧ (read.length = 1 → read = [exlinkMagic0])

theorem EndsIn.step {stream read : List Byte} (ends : EndsIn stream read) (byte : Byte) :
    EndsIn (stream ++ [byte]) (recogniserStep read byte).2 := by
  obtain ⟨hsuffix, hone⟩ := ends
  have hnil : EndsIn (stream ++ [byte]) [] := ⟨List.nil_suffix, fun h => by simp at h⟩
  have happend : 1 ≤ read.length → EndsIn (stream ++ [byte]) (read ++ [byte]) := by
    intro hpos
    obtain ⟨before, rfl⟩ := hsuffix
    refine ⟨⟨before, by rw [List.append_assoc]⟩, fun h => ?_⟩
    rw [List.length_append, List.length_singleton] at h
    omega
  have hfirst : byte = exlinkMagic0 → EndsIn (stream ++ [byte]) [exlinkMagic0] := by
    rintro rfl
    exact ⟨List.suffix_append stream _, fun _ => rfl⟩
  by_cases hempty : read.length = 0
  · obtain rfl := List.length_eq_zero_iff.mp hempty
    rw [recogniserStep_nil]
    by_cases hbyte : byte = exlinkMagic0
    · rw [if_pos hbyte]
      exact hfirst hbyte
    · rw [if_neg hbyte]
      exact hnil
  · by_cases hlone : read.length = 1
    · obtain rfl := hone hlone
      rw [recogniserStep_magic0]
      by_cases hsecond : byte = exlinkMagic1
      · rw [if_pos hsecond]
        subst hsecond
        exact happend le_rfl
      · rw [if_neg hsecond]
        by_cases hbyte : byte = exlinkMagic0
        · rw [if_pos hbyte]
          exact hfirst hbyte
        · rw [if_neg hbyte]
          exact hnil
    · -- from the third byte on, a candidate grows or ends
      have hgrows : (recogniserStep read byte).2 = read ++ [byte] ∨
          (recogniserStep read byte).2 = [] := by
        rw [recogniserStep, if_neg hempty, if_neg hlone]
        split_ifs <;> simp
      rcases hgrows with hgrown | hended
      · rw [hgrown]
        exact happend (by omega)
      · rw [hended]
        exact hnil

theorem endsIn_recogniserRun (stream : List Byte) : EndsIn stream (recogniserRun [] stream) :=
  runMealy_history EndsIn ⟨List.nil_suffix, fun h => by simp at h⟩
    (fun _ _ byte ends => ends.step byte) stream

/-- From a parser that waits for a frame: if the last byte of a stream is
accepted, the stream ends in the encoding of what the parser hands out. -/
theorem accepted_suffix {p q : ExlinkParser} {stream : List Byte} {byte : Byte}
    (hstate : p.state = .magic0)
    (hok : exlinkParserFeed (parserRun p stream) byte = (.ok, q)) :
    q.len.toNat ≤ exlinkMaxPayload ∧
      exlinkFrameBuild q.op (some q.payload) q.len (some exlinkMaxFrame) <:+
        stream ++ [byte] := by
  have hreading := reading_run (Reading.of_magic0 hstate) stream
  obtain ⟨hlast, hcrc, hop, hlen, hpayload⟩ := feed_ok hok
  obtain ⟨⟨before, hbefore⟩, -⟩ := endsIn_recogniserRun stream
  simp only [Reading, hlast] at hreading
  obtain ⟨low, hread, -, hmax, hrx, hcalc⟩ := hreading
  have hcrcBytes : Word16.ofBytes low byte = exlinkCrc16 (frameBody q.op
      (q.payload.prefixBytes q.len.toNat) q.len) := by
    rw [hop, hlen, hpayload, ← hcalc, ← hcrc, hrx]
    rfl
  have hframe : exlinkFrameBuild q.op (some q.payload) q.len (some exlinkMaxFrame) =
      recogniserRun [] stream ++ [byte] := by
    rw [exlinkFrameBuild_eq_frameOf q.op q.payload q.len exlinkMaxFrame (by rwa [hlen])
      (by rw [hlen, exlinkMaxFrame]; omega), frameOf, Buf.length_prefixBytes,
      BitVec.ofNat_toNat, BitVec.setWidth_eq, closeFrame, ← hcrcBytes,
      Word16.lowByte_ofBytes, Word16.highByte_ofBytes, hread, hop, hlen, hpayload,
      List.append_assoc]
    rfl
  refine ⟨by rwa [hlen], before, ?_⟩
  rw [hframe, ← List.append_assoc, hbefore]

/-- One accepted entry of a trace: the byte before it and the step it comes from. -/
theorem parserTrace_ok_step {p q : ExlinkParser} {stream : List Byte} {i : ℕ}
    (hok : (parserTrace p stream)[i]? = some (.ok, q)) :
    ∃ byte, stream.take (i + 1) = stream.take i ++ [byte] ∧
      exlinkParserFeed (parserRun p (stream.take i)) byte = (.ok, q) := by
  rw [getElem?_traceMealy, Option.map_eq_some_iff] at hok
  obtain ⟨byte, hbyte, hfeed⟩ := hok
  refine ⟨byte, ?_, hfeed⟩
  rw [List.take_add_one, hbyte]
  rfl

/-- An accepted payload is within the limit. -/
theorem parserReports_ok_length {p : ExlinkParser} {stream : List Byte} {report : FrameReport}
    (hreport : some report ∈ parserReports (exlinkParserInit p) stream)
    (hok : report.result = .ok) : report.payload.length ≤ exlinkMaxPayload := by
  obtain ⟨⟨result, q⟩, hentry, hvalue⟩ := List.mem_map.mp hreport
  obtain ⟨i, hi⟩ := List.mem_iff_getElem?.mp hentry
  have hresult : result = .ok := by
    cases result <;> simp only [reportOf, Option.some.injEq, reduceCtorEq] at hvalue <;>
      rw [← hok, ← hvalue]
  subst hresult
  obtain rfl := Option.some.inj hvalue
  obtain ⟨byte, -, hfeed⟩ := parserTrace_ok_step hi
  rw [Buf.length_prefixBytes]
  exact (accepted_suffix rfl hfeed).1

/-- The bytes of an accepted frame lie after those of every frame accepted earlier. -/
theorem parserTrace_ok_after {p q r : ExlinkParser} {stream : List Byte} {i j : ℕ}
    (hok : (parserTrace p stream)[i]? = some (.ok, q)) (hlt : j < i)
    (hearlier : (parserTrace p stream)[j]? = some (.ok, r)) :
    exlinkFrameOverhead + q.len.toNat ≤ i + 1 - (j + 1) := by
  obtain ⟨byte, -, hfeed⟩ := parserTrace_ok_step hok
  obtain ⟨last, htake, hfirst⟩ := parserTrace_ok_step hearlier
  have hstate : r.state = .magic0 := by
    have := feed_reported_magic0 (parserRun p (stream.take j)) last (by simp [hfirst])
    rwa [hfirst] at this
  -- the parser starts afresh after byte `j`
  have hsplit : stream.take i = stream.take j ++ [last] ++ (stream.take i).drop (j + 1) := by
    have hbytes : (stream.take i).take (j + 1) = stream.take j ++ [last] := by
      rw [List.take_take, min_eq_left (by omega), htake]
    rw [← hbytes, List.take_append_drop]
  have hrestart : parserRun p (stream.take i) =
      parserRun r ((stream.take i).drop (j + 1)) :=
    calc
      parserRun p (stream.take i) =
          parserRun p (stream.take j ++ [last] ++ (stream.take i).drop (j + 1)) := by
        rw [← hsplit]
      _ = parserRun (exlinkParserFeed (parserRun p (stream.take j)) last).2
          ((stream.take i).drop (j + 1)) := by
        rw [parserRun_append, parserRun_append]
        rfl
      _ = parserRun r ((stream.take i).drop (j + 1)) := by rw [hfirst]
  rw [hrestart] at hfeed
  obtain ⟨hmax, hsuffix⟩ := accepted_suffix hstate hfeed
  have hlen := hsuffix.length_le
  rw [length_exlinkFrameBuild q.op q.payload q.len hmax, List.length_append, List.length_drop,
    List.length_take, List.length_singleton] at hlen
  omega

/-- Whatever the stream, an accepted frame is exactly the bytes it was read from,
and they lie after those of every frame accepted earlier. -/
theorem parserTrace_ok (p q : ExlinkParser) (stream : List Byte) (i : ℕ)
    (hok : (parserTrace (exlinkParserInit p) stream)[i]? = some (.ok, q)) :
    q.len.toNat ≤ exlinkMaxPayload ∧
      exlinkFrameOverhead + q.len.toNat ≤ i + 1 ∧
      (stream.take (i + 1)).drop (i + 1 - (exlinkFrameOverhead + q.len.toNat)) =
        exlinkFrameBuild q.op (some q.payload) q.len (some exlinkMaxFrame) ∧
      ∀ j r, j < i → (parserTrace (exlinkParserInit p) stream)[j]? = some (.ok, r) →
        j + 1 ≤ i + 1 - (exlinkFrameOverhead + q.len.toNat) := by
  obtain ⟨byte, htake, hfeed⟩ := parserTrace_ok_step hok
  obtain ⟨hmax, hsuffix⟩ := accepted_suffix rfl hfeed
  have hlen := length_exlinkFrameBuild q.op q.payload q.len hmax
  have hcount : (stream.take (i + 1)).length = i + 1 := by
    rw [List.length_take, min_eq_left]
    have hbound : i < (parserTrace (exlinkParserInit p) stream).length :=
      (List.getElem?_eq_some_iff.mp hok).1
    rw [length_traceMealy] at hbound
    omega
  rw [← htake] at hsuffix
  have hroom := hsuffix.length_le
  rw [hlen, hcount] at hroom
  refine ⟨hmax, hroom, ?_, fun j r hlt hearlier => ?_⟩
  · have hdrop := List.suffix_iff_eq_drop.mp hsuffix
    rw [hcount, hlen] at hdrop
    exact hdrop.symm
  · have := parserTrace_ok_after hok hlt hearlier
    omega

/-- A frame with two bytes of payload, behind one whose last byte is wrong. -/
def behindBadFrame : List Byte :=
  (frameOf 0x02#8 [0x12#8, 0x34#8]).dropLast ++ [0x00#8] ++ frameOf 0x02#8 [0x12#8, 0x34#8]

/-- It is accepted at its ninth byte, and is the last nine bytes. -/
theorem parserTrace_ok_behindBadFrame :
    ∃ p q r : ExlinkParser,
      (parserTrace (exlinkParserInit p) behindBadFrame)[8]? = some (.badCrc, r) ∧
      (parserTrace (exlinkParserInit p) behindBadFrame)[17]? = some (.ok, q) ∧
      q.op = 0x02#8 ∧ q.payload.prefixBytes q.len.toNat = [0x12#8, 0x34#8] ∧
      behindBadFrame.drop 9 = exlinkFrameBuild q.op (some q.payload) q.len (some exlinkMaxFrame) := by
  set p : ExlinkParser := ⟨.magic0, 0#8, 0#16, 0#16, 0#16, 0#16, fun _ => 0#8⟩
  have hbad : ((parserTrace (exlinkParserInit p) behindBadFrame)[8]?).map Prod.fst =
      some .badCrc := by decide +kernel
  have hgood : ((parserTrace (exlinkParserInit p) behindBadFrame)[17]?).map
      (fun entry => (entry.1, entry.2.op, entry.2.len,
        entry.2.payload.prefixBytes entry.2.len.toNat)) =
        some (.ok, 0x02#8, 2#16, [0x12#8, 0x34#8]) := by decide +kernel
  obtain ⟨⟨-, r⟩, hr, rfl⟩ := Option.map_eq_some_iff.mp hbad
  obtain ⟨⟨result, q⟩, hq, hshown⟩ := Option.map_eq_some_iff.mp hgood
  simp only [Prod.mk.injEq] at hshown
  obtain ⟨rfl, hop, hlen, hpayload⟩ := hshown
  refine ⟨p, q, r, hr, hq, hop, hpayload, ?_⟩
  have hbytes := (parserTrace_ok p q behindBadFrame 17 hq).2.2.1
  rw [show exlinkFrameOverhead + q.len.toNat = 9 by rw [hlen]; rfl] at hbytes
  rw [← hbytes]
  rfl

end ExLink.Frame
