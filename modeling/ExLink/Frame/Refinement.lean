/-
# The parser refines the recogniser

`Reading read p` says that the parser registers are exactly those of a parser
that has read `read` of a candidate frame: which state it is in, what is in
`op`, `len`, `idx`, the payload memory and both CRC registers. One byte keeps
the relation and reports the same on both sides, so every stream does.
-/

import ExLink.Frame.Recogniser

namespace ExLink.Frame

open ExLink.Automata

/-- The parser registers agree with the candidate read so far. -/
def Reading (read : List Byte) (p : ExlinkParser) : Prop :=
  match p.state with
  | .magic0 => read = []
  | .magic1 => read = [exlinkMagic0] ∧ p.crcCalc = exlinkCrc16 read
  | .op => read = [exlinkMagic0, exlinkMagic1] ∧ p.crcCalc = exlinkCrc16 read
  | .lenLo => read = [exlinkMagic0, exlinkMagic1, p.op] ∧ p.crcCalc = exlinkCrc16 read
  | .lenHi =>
      ∃ low, read = [exlinkMagic0, exlinkMagic1, p.op, low] ∧ p.len = low.setWidth 16 ∧
        p.crcCalc = exlinkCrc16 read
  | .payload =>
      read = frameBody p.op (p.payload.prefixBytes p.idx.toNat) p.len ∧
        p.idx.toNat < p.len.toNat ∧ p.len.toNat ≤ exlinkMaxPayload ∧
        p.crcCalc = exlinkCrc16 read
  | .crcLo =>
      read = frameBody p.op (p.payload.prefixBytes p.len.toNat) p.len ∧
        p.idx = p.len ∧ p.len.toNat ≤ exlinkMaxPayload ∧ p.crcCalc = exlinkCrc16 read
  | .crcHi =>
      ∃ low, read = frameBody p.op (p.payload.prefixBytes p.len.toNat) p.len ++ [low] ∧
        p.idx = p.len ∧ p.len.toNat ≤ exlinkMaxPayload ∧ p.crcRx = low.setWidth 16 ∧
        p.crcCalc = exlinkCrc16 (frameBody p.op (p.payload.prefixBytes p.len.toNat) p.len)
  | .outside _ => False

/-- Only a parser that waits for a frame has read nothing of one. -/
theorem Reading.of_magic0 {p : ExlinkParser} (hstate : p.state = .magic0) : Reading [] p := by
  simp [Reading, hstate]

theorem Reading.init (p : ExlinkParser) : Reading [] (exlinkParserInit p) :=
  Reading.of_magic0 rfl

/-- What one byte owes: the same report, and registers that still agree. -/
def StepAgrees (read : List Byte) (p : ExlinkParser) (byte : Byte) : Prop :=
  reportOf (exlinkParserFeed p byte) = (recogniserStep read byte).1 ∧
    Reading (recogniserStep read byte).2 (exlinkParserFeed p byte).2

section Steps

variable {read : List Byte} {p : ExlinkParser} {byte : Byte}

theorem stepAgrees_magic0 (hstate : p.state = .magic0) (reading : Reading read p) :
    StepAgrees read p byte := by
  simp only [Reading, hstate] at reading
  subst reading
  by_cases hbyte : byte = exlinkMagic0
  · subst hbyte
    rw [StepAgrees, feed_magic0_hit hstate, recogniserStep_nil, if_pos rfl]
    refine ⟨rfl, ?_⟩
    simp [Reading]
  · rw [StepAgrees, feed_magic0_miss hstate hbyte, recogniserStep_nil, if_neg hbyte]
    exact ⟨rfl, Reading.of_magic0 hstate⟩

theorem stepAgrees_magic1 (hstate : p.state = .magic1) (reading : Reading read p) :
    StepAgrees read p byte := by
  simp only [Reading, hstate] at reading
  obtain ⟨rfl, hcrc⟩ := reading
  rw [StepAgrees, recogniserStep_magic0]
  by_cases hsecond : byte = exlinkMagic1
  · subst hsecond
    rw [feed_magic1_hit hstate, if_pos rfl, hcrc, exlinkCrc16Update_exlinkCrc16]
    refine ⟨rfl, ?_⟩
    simp [Reading]
  · by_cases hfirst : byte = exlinkMagic0
    · subst hfirst
      rw [feed_magic1_again hstate, if_neg hsecond, if_pos rfl]
      refine ⟨rfl, ?_⟩
      simp [Reading, hstate]
    · rw [feed_magic1_miss hstate hsecond hfirst, if_neg hsecond, if_neg hfirst]
      exact ⟨rfl, rfl⟩

theorem stepAgrees_op (hstate : p.state = .op) (reading : Reading read p) :
    StepAgrees read p byte := by
  simp only [Reading, hstate] at reading
  obtain ⟨rfl, hcrc⟩ := reading
  rw [StepAgrees, feed_op hstate, recogniserStep_header (by simp) (by simp), hcrc,
    exlinkCrc16Update_exlinkCrc16]
  exact ⟨rfl, rfl, rfl⟩

theorem stepAgrees_lenLo (hstate : p.state = .lenLo) (reading : Reading read p) :
    StepAgrees read p byte := by
  simp only [Reading, hstate] at reading
  obtain ⟨rfl, hcrc⟩ := reading
  rw [StepAgrees, feed_lenLo hstate, recogniserStep_header (by simp) (by simp), hcrc,
    exlinkCrc16Update_exlinkCrc16]
  exact ⟨rfl, byte, rfl, rfl, rfl⟩

theorem stepAgrees_lenHi (hstate : p.state = .lenHi) (reading : Reading read p) :
    StepAgrees read p byte := by
  simp only [Reading, hstate] at reading
  obtain ⟨low, rfl, hlow, hcrc⟩ := reading
  have hlen : p.len ||| (byte.setWidth 16 <<< 8) = Word16.ofBytes low byte := by
    rw [hlow, Word16.ofBytes]
  have hread : readLen ([exlinkMagic0, exlinkMagic1, p.op, low] ++ [byte]) =
      Word16.ofBytes low byte := rfl
  by_cases hover : exlinkMaxPayload < (Word16.ofBytes low byte).toNat
  · rw [StepAgrees, feed_lenHi_over hstate (by rwa [hlen]),
      recogniserStep_badLen rfl (by rwa [hread])]
    exact ⟨rfl, Reading.init p⟩
  · rw [StepAgrees, feed_lenHi_within hstate (by rw [hlen]; omega),
      recogniserStep_lenHi rfl (by rw [hread]; omega), hlen, hcrc,
      exlinkCrc16Update_exlinkCrc16]
    -- the header read so far is that of the length just completed
    have hheader : [exlinkMagic0, exlinkMagic1, p.op, low] ++ [byte] =
        frameBody p.op [] (Word16.ofBytes low byte) := by
      simp [frameBody, frameHeader]
    refine ⟨rfl, ?_⟩
    by_cases hzero : Word16.ofBytes low byte = 0#16
    · simp only [Reading, hzero, if_true, and_true]
      rw [hheader, hzero]
      exact ⟨rfl, by simp⟩
    · have hpos : (Word16.ofBytes low byte).toNat ≠ 0 := by
        intro h
        exact hzero (BitVec.eq_of_toNat_eq h)
      simp only [Reading, hzero, if_false, and_true]
      rw [hheader]
      refine ⟨rfl, ?_, by omega⟩
      simp only [BitVec.toNat_ofNat, Nat.zero_mod]
      omega

theorem stepAgrees_payload (hstate : p.state = .payload) (reading : Reading read p) :
    StepAgrees read p byte := by
  simp only [Reading, hstate] at reading
  obtain ⟨rfl, hidx, hmax, hcrc⟩ := reading
  have hmax' : p.len.toNat ≤ 4096 := hmax
  have hnext : (p.idx + 1#16).toNat = p.idx.toNat + 1 := by
    rw [BitVec.toNat_add]
    simp only [BitVec.toNat_ofNat]
    omega
  have hbody : frameBody p.op (p.payload.prefixBytes p.idx.toNat) p.len ++ [byte] =
      frameBody p.op (Buf.prefixBytes (Function.update p.payload p.idx.toNat byte)
        (p.idx.toNat + 1)) p.len := by
    rw [Buf.prefixBytes_update_succ, frameBody, frameBody, List.append_assoc]
  rw [StepAgrees, feed_payload hstate, recogniserStep_body (by simp)
    (by simp [readTotal, exlinkFrameOverhead, exlinkCrcLen]; omega), hcrc,
    exlinkCrc16Update_exlinkCrc16]
  refine ⟨rfl, ?_⟩
  by_cases hlast : p.len ≤ p.idx + 1#16
  · have hend : p.idx + 1#16 = p.len := by
      apply BitVec.eq_of_toNat_eq
      have := BitVec.le_def.mp hlast
      omega
    have hcount : p.idx.toNat + 1 = p.len.toNat := by rw [← hnext, hend]
    simp only [Reading, hlast, if_true, and_true]
    rw [hbody, hcount]
    exact ⟨rfl, hend, hmax⟩
  · have hbefore : (p.idx + 1#16).toNat < p.len.toNat := by
      have := mt BitVec.le_def.mpr hlast
      omega
    simp only [Reading, hlast, if_false, and_true]
    rw [hbody, hnext]
    exact ⟨rfl, by omega, hmax⟩

theorem stepAgrees_crcLo (hstate : p.state = .crcLo) (reading : Reading read p) :
    StepAgrees read p byte := by
  simp only [Reading, hstate] at reading
  obtain ⟨rfl, hidx, hmax, hcrc⟩ := reading
  rw [StepAgrees, feed_crcLo hstate, recogniserStep_body (by simp)
    (by simp [readTotal, exlinkFrameOverhead, exlinkCrcLen]; omega)]
  exact ⟨rfl, byte, rfl, hidx, hmax, rfl, hcrc⟩

theorem stepAgrees_crcHi (hstate : p.state = .crcHi) (reading : Reading read p) :
    StepAgrees read p byte := by
  simp only [Reading, hstate] at reading
  obtain ⟨low, rfl, hidx, hmax, hrx, hcrc⟩ := reading
  have hpayload : (p.payload.prefixBytes p.len.toNat).length = p.len.toNat := by simp
  rw [StepAgrees, feed_crcHi hstate, recogniserStep_last (by simp; omega)
    (by simp [readTotal, exlinkFrameOverhead, exlinkCrcLen]; omega)]
  refine ⟨?_, Reading.of_magic0 rfl⟩
  rw [readOp_frameBody_append, readPayload_frameBody_append _ _ _ _ hpayload,
    readLen_frameBody_append, take_frameBody_append _ _ _ _ hpayload, hrx, hcrc]
  -- both sides compare the received CRC word with that of the body
  have hsame : low.setWidth 16 ||| (byte.setWidth 16 <<< 8) =
        exlinkCrc16 (frameBody p.op (p.payload.prefixBytes p.len.toNat) p.len) ↔
      frameBody p.op (p.payload.prefixBytes p.len.toNat) p.len ++ [low] ++ [byte] =
        closeFrame (frameBody p.op (p.payload.prefixBytes p.len.toNat) p.len) := by
    rw [List.append_assoc]
    exact (eq_closeFrame_iff _ low byte).symm
  by_cases hok : low.setWidth 16 ||| (byte.setWidth 16 <<< 8) =
      exlinkCrc16 (frameBody p.op (p.payload.prefixBytes p.len.toNat) p.len)
  · rw [if_pos hok, if_pos (hsame.mp hok)]
    rfl
  · rw [if_neg hok, if_neg (mt hsame.mpr hok)]
    rfl

end Steps

/-- One byte: the parser reports what the recogniser reports and stays related. -/
theorem stepAgrees {read : List Byte} {p : ExlinkParser} (reading : Reading read p)
    (byte : Byte) : StepAgrees read p byte := by
  cases hstate : p.state with
  | magic0 => exact stepAgrees_magic0 hstate reading
  | magic1 => exact stepAgrees_magic1 hstate reading
  | op => exact stepAgrees_op hstate reading
  | lenLo => exact stepAgrees_lenLo hstate reading
  | lenHi => exact stepAgrees_lenHi hstate reading
  | payload => exact stepAgrees_payload hstate reading
  | crcLo => exact stepAgrees_crcLo hstate reading
  | crcHi => exact stepAgrees_crcHi hstate reading
  | outside raw => simp [Reading, hstate] at reading

/-- Whole streams: the relation is kept. -/
theorem reading_run {read : List Byte} {p : ExlinkParser} (reading : Reading read p)
    (stream : List Byte) : Reading (recogniserRun read stream) (parserRun p stream) := by
  induction stream generalizing read p with
  | nil => exact reading
  | cons byte rest ih => exact ih (stepAgrees reading byte).2

/-- Whole streams: the parser and the recogniser report the same. -/
theorem parserReports_eq {read : List Byte} {p : ExlinkParser} (reading : Reading read p)
    (stream : List Byte) : parserReports p stream = recogniserReports read stream := by
  induction stream generalizing read p with
  | nil => rfl
  | cons byte rest ih =>
      obtain ⟨hreport, hnext⟩ := stepAgrees reading byte
      rw [recogniserReports_cons, ← hreport, ← ih hnext]
      rfl

end ExLink.Frame
