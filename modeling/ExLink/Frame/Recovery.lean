/-
# Indices and recovery of the parser

Two facts about every state that a byte stream leads to. The payload index stays
below the declared length, which stays below the size of the payload memory; the
length check comes two bytes before the first payload write. And a candidate
frame past its second magic byte uses up a fixed number of bytes: whatever they
are, the parser reports something and waits for a frame again.
-/

import ExLink.Frame.Stream

namespace ExLink.Frame

open ExLink.Automata

/-! ## Indices -/

/-- The index of the write `p->payload[p->idx++] = byte`, when the next byte makes it. -/
def payloadWrite (p : ExlinkParser) : Option ℕ :=
  match p.state with
  | .payload => some p.idx.toNat
  | _ => none

/-- The payload memory changes at that index only. -/
theorem payload_exlinkParserFeed (p : ExlinkParser) (byte : Byte) :
    (exlinkParserFeed p byte).2.payload =
      (payloadWrite p).elim p.payload fun index => Function.update p.payload index byte := by
  cases hstate : p.state with
  | magic0 =>
      by_cases hbyte : byte = exlinkMagic0 <;>
        simp [exlinkParserFeed, payloadWrite, hstate, hbyte]
  | magic1 =>
      simp only [exlinkParserFeed, payloadWrite, hstate, Option.elim_none]
      split_ifs <;> rfl
  | op => simp [feed_op hstate, payloadWrite, hstate]
  | lenLo => simp [feed_lenLo hstate, payloadWrite, hstate]
  | lenHi =>
      simp only [exlinkParserFeed, payloadWrite, hstate, Option.elim_none]
      split_ifs <;> rfl
  | payload => simp [feed_payload hstate, payloadWrite, hstate]
  | crcLo => simp [feed_crcLo hstate, payloadWrite, hstate]
  | crcHi => simp [feed_crcHi hstate, payloadWrite, hstate]
  | outside raw => simp [exlinkParserFeed, payloadWrite, hstate, exlinkParserInit]

/-- What links the state, `idx` and `len`. The fields keep what earlier frames
left in them, so nothing is said about them before the length is complete. -/
def IndexInvariant (p : ExlinkParser) : Prop :=
  match p.state with
  | .payload => p.idx.toNat < p.len.toNat ∧ p.len.toNat ≤ exlinkMaxPayload
  | .crcLo | .crcHi => p.idx = p.len
  | .outside _ => False
  | _ => True

/-- A parser that has read part of a candidate has its indices in order. -/
theorem Reading.indexInvariant {read : List Byte} {p : ExlinkParser} (reading : Reading read p) :
    IndexInvariant p := by
  cases hstate : p.state with
  | payload =>
      simp only [Reading, hstate] at reading
      obtain ⟨-, hidx, hmax, -⟩ := reading
      simp only [IndexInvariant, hstate]
      exact ⟨hidx, hmax⟩
  | crcLo =>
      simp only [Reading, hstate] at reading
      obtain ⟨-, hidx, -⟩ := reading
      simpa only [IndexInvariant, hstate] using hidx
  | crcHi =>
      simp only [Reading, hstate] at reading
      obtain ⟨low, -, hidx, -⟩ := reading
      simpa only [IndexInvariant, hstate] using hidx
  | outside raw => simp only [Reading, hstate] at reading
  | _ => simp only [IndexInvariant, hstate]

theorem indexInvariant_parserRun (p : ExlinkParser) (history : List Byte) :
    IndexInvariant (parserRun (exlinkParserInit p) history) :=
  (reading_run (Reading.init p) history).indexInvariant

/-- After every history, a payload write lies below the declared length, which lies
within the payload memory; the CRC bytes find the index at the length; and the
`default` branch of the state switch is not taken. -/
theorem exlinkParser_indices (p : ExlinkParser) (history : List Byte) :
    let q := parserRun (exlinkParserInit p) history
    (∀ byte, (exlinkParserFeed q byte).2.payload =
        (payloadWrite q).elim q.payload fun index => Function.update q.payload index byte) ∧
      (∀ index, payloadWrite q = some index →
        index < q.len.toNat ∧ q.len.toNat ≤ exlinkMaxPayload) ∧
      (q.state = .crcLo ∨ q.state = .crcHi → q.idx = q.len) ∧
      ∀ raw, q.state ≠ .outside raw := by
  intro q
  have hindex : IndexInvariant q := indexInvariant_parserRun p history
  refine ⟨payload_exlinkParserFeed q, ?_, ?_, ?_⟩
  · intro index hwrite
    cases hstate : q.state with
    | payload =>
        simp only [IndexInvariant, hstate] at hindex
        simp only [payloadWrite, hstate, Option.some.injEq] at hwrite
        rwa [hwrite] at hindex
    | _ => simp [payloadWrite, hstate] at hwrite
  · intro hcrc
    rcases hcrc with hstate | hstate
    · simpa only [IndexInvariant, hstate] using hindex
    · simpa only [IndexInvariant, hstate] using hindex
  · intro raw hstate
    simp only [IndexInvariant, hstate] at hindex

/-- The second payload byte of a three-byte frame, after an earlier complete frame. -/
theorem exlinkParser_indices_secondFrame :
    let q := parserRun (exlinkParserInit ⟨.crcHi, 7#8, 9#16, 9#16, 0#16, 0#16, fun _ => 0#8⟩)
      (frameOf 0x01#8 [] ++ [0x4C#8, 0x4B#8, 0x02#8, 0x03#8, 0x00#8, 0xAA#8])
    1 < q.len.toNat ∧ q.len.toNat ≤ exlinkMaxPayload :=
  (exlinkParser_indices _ _).2.1 1 (by decide +kernel)

/-! ## Recovery -/

/-- The states past `EXLINK_PS_MAGIC1`. -/
def PastMagic1 : ParseState → Prop
  | .magic0 | .magic1 | .outside _ => False
  | _ => True

instance (state : ParseState) : Decidable (PastMagic1 state) := by
  cases state <;> unfold PastMagic1 <;> infer_instance

/-- The most bytes a candidate past its second magic byte can still take: the limit
as long as its length is open, then what the length says. -/
def bytesLeft (p : ExlinkParser) : ℕ :=
  match p.state with
  | .op => exlinkMaxFrame - 2
  | .lenLo => exlinkMaxFrame - 3
  | .lenHi => exlinkMaxFrame - 4
  | .payload => p.len.toNat - p.idx.toNat + exlinkCrcLen
  | .crcLo => exlinkCrcLen
  | .crcHi => 1
  | .magic0 | .magic1 | .outside _ => 0

theorem bytesLeft_pos {p : ExlinkParser} (past : PastMagic1 p.state) : 0 < bytesLeft p := by
  cases hstate : p.state with
  | magic0 => simp only [hstate, PastMagic1] at past
  | magic1 => simp only [hstate, PastMagic1] at past
  | payload =>
      simp only [bytesLeft, hstate, exlinkCrcLen]
      omega
  | outside raw => simp only [hstate, PastMagic1] at past
  | _ =>
      simp only [bytesLeft, hstate]
      decide

theorem bytesLeft_le {p : ExlinkParser} (index : IndexInvariant p) :
    bytesLeft p ≤ exlinkMaxFrame - 2 := by
  cases hstate : p.state with
  | payload =>
      simp only [IndexInvariant, hstate, exlinkMaxPayload] at index
      simp only [bytesLeft, hstate, exlinkMaxFrame, exlinkFrameOverhead, exlinkHeaderLen,
        exlinkCrcLen, exlinkMaxPayload]
      omega
  | _ =>
      simp only [bytesLeft, hstate]
      decide

/-- A silent byte takes a candidate past its magic bytes closer to its end. -/
theorem bytesLeft_feed {read : List Byte} {p : ExlinkParser} {byte : Byte}
    (reading : Reading read p) (past : PastMagic1 p.state)
    (silent : (exlinkParserFeed p byte).1 = .none) :
    PastMagic1 (exlinkParserFeed p byte).2.state ∧
      bytesLeft (exlinkParserFeed p byte).2 < bytesLeft p := by
  have hindex := reading.indexInvariant
  cases hstate : p.state with
  | magic0 => simp only [hstate, PastMagic1] at past
  | magic1 => simp only [hstate, PastMagic1] at past
  | op =>
      rw [feed_op hstate]
      simp only [PastMagic1, bytesLeft, hstate, true_and]
      decide
  | lenLo =>
      rw [feed_lenLo hstate]
      simp only [PastMagic1, bytesLeft, hstate, true_and]
      decide
  | lenHi =>
      by_cases hover : exlinkMaxPayload < (p.len ||| (byte.setWidth 16 <<< 8)).toNat
      · rw [feed_lenHi_over hstate hover] at silent
        simp at silent
      · rw [feed_lenHi_within hstate (Nat.not_lt.mp hover)]
        simp only [exlinkMaxPayload] at hover
        by_cases hzero : p.len ||| (byte.setWidth 16 <<< 8) = 0#16
        · simp only [hzero, if_true, PastMagic1, bytesLeft, hstate, true_and]
          decide
        · simp only [hzero, if_false, PastMagic1, bytesLeft, hstate, true_and, exlinkMaxFrame,
            exlinkFrameOverhead, exlinkHeaderLen, exlinkCrcLen, exlinkMaxPayload]
          omega
  | payload =>
      simp only [IndexInvariant, hstate, exlinkMaxPayload] at hindex
      have hnext : (p.idx + 1#16).toNat = p.idx.toNat + 1 := by
        rw [BitVec.toNat_add]
        simp only [BitVec.toNat_ofNat]
        omega
      rw [feed_payload hstate]
      by_cases hlast : p.len ≤ p.idx + 1#16
      · simp only [hlast, if_true, PastMagic1, bytesLeft, hstate, true_and]
        omega
      · simp only [hlast, if_false, PastMagic1, bytesLeft, hstate, true_and, hnext]
        omega
  | crcLo =>
      rw [feed_crcLo hstate]
      simp only [PastMagic1, bytesLeft, hstate, true_and]
      decide
  | crcHi =>
      rw [feed_crcHi hstate] at silent
      split_ifs at silent
  | outside raw => simp only [hstate, PastMagic1] at past

/-- A candidate past its magic bytes is reported within the bytes it has left, and
the parser then waits for a frame. -/
theorem reported_within_bytesLeft {read : List Byte} {p : ExlinkParser}
    (reading : Reading read p) (past : PastMagic1 p.state) {next : List Byte}
    (long : bytesLeft p ≤ next.length) :
    ∃ before byte after, next = before ++ byte :: after ∧ before.length < bytesLeft p ∧
      (exlinkParserFeed (parserRun p before) byte).1 ≠ .none ∧
      (exlinkParserFeed (parserRun p before) byte).2.state = .magic0 := by
  obtain ⟨before, byte, after, hnext, hcount, hloud⟩ :=
    exists_loud_of_decreasing exlinkParserFeed (fun result => result = .none)
      (fun q => PastMagic1 q.state ∧ ∃ read, Reading read q) bytesLeft
      (fun q hq => bytesLeft_pos hq.1)
      (fun q symbol hq hsilent => by
        obtain ⟨hpast, held, hreading⟩ := hq
        obtain ⟨hkept, hless⟩ := bytesLeft_feed hreading hpast hsilent
        exact ⟨⟨hkept, _, (stepAgrees hreading symbol).2⟩, hless⟩)
      ⟨past, read, reading⟩ long
  exact ⟨before, byte, after, hnext, hcount, hloud, feed_reported_magic0 _ _ hloud⟩

/-- A parser that waits for a frame lets other bytes pass. -/
theorem parserRun_of_no_magic0 {p : ExlinkParser} (hstate : p.state = .magic0)
    {noise : List Byte} (quiet : ∀ byte ∈ noise, byte ≠ exlinkMagic0) : parserRun p noise = p := by
  induction noise with
  | nil => rfl
  | cons byte rest ih =>
      have hbyte : byte ≠ exlinkMagic0 := quiet byte List.mem_cons_self
      have hrest := ih fun other hother => quiet other (List.mem_cons_of_mem byte hother)
      rw [parserRun_cons, feed_magic0_miss hstate hbyte]
      exact hrest

/-- A candidate past its magic bytes is given up within its bytes left, if none of
them can open another one. -/
theorem magic0_of_bytesLeft {read : List Byte} {p : ExlinkParser} (reading : Reading read p)
    (past : PastMagic1 p.state) {noise : List Byte} (long : bytesLeft p ≤ noise.length)
    (quiet : ∀ byte ∈ noise, byte ≠ exlinkMagic0) : (parserRun p noise).state = .magic0 := by
  obtain ⟨before, byte, after, rfl, -, -, hstate⟩ := reported_within_bytesLeft reading past long
  have hafter : ∀ other ∈ after, other ≠ exlinkMagic0 :=
    fun other hother => quiet other (List.mem_append_right before (List.mem_cons_of_mem byte hother))
  rw [parserRun_append, parserRun_cons, parserRun_of_no_magic0 hstate hafter]
  exact hstate

/-- Whatever was read before, a whole frame's worth of bytes that cannot open a frame
leaves the parser waiting for one. -/
theorem magic0_of_noise {read : List Byte} {p : ExlinkParser} (reading : Reading read p)
    {noise : List Byte} (long : noise.length = exlinkMaxFrame - 1)
    (quiet : ∀ byte ∈ noise, byte ≠ exlinkMagic0) : (parserRun p noise).state = .magic0 := by
  have hmax : exlinkMaxFrame - 2 + 1 = exlinkMaxFrame - 1 := rfl
  by_cases hpast : PastMagic1 p.state
  · have hleft := bytesLeft_le reading.indexInvariant
    exact magic0_of_bytesLeft reading hpast (by omega) quiet
  · cases hstate : p.state with
    | magic0 => rw [parserRun_of_no_magic0 hstate quiet, hstate]
    | magic1 =>
        -- the pending first magic byte is completed or dropped by the first byte
        cases noise with
        | nil => exact absurd long (by decide)
        | cons byte rest =>
            have hbyte : byte ≠ exlinkMagic0 := quiet byte List.mem_cons_self
            have hrest : ∀ other ∈ rest, other ≠ exlinkMagic0 :=
              fun other hother => quiet other (List.mem_cons_of_mem byte hother)
            have hnext := (stepAgrees reading byte).2
            rw [List.length_cons] at long
            rw [parserRun_cons]
            by_cases hsecond : byte = exlinkMagic1
            · subst hsecond
              rw [feed_magic1_hit hstate] at hnext ⊢
              have hleft := bytesLeft_le hnext.indexInvariant
              exact magic0_of_bytesLeft hnext trivial (by omega) hrest
            · rw [feed_magic1_miss hstate hsecond hbyte]
              have hidle : ({ p with state := .magic0 } : ExlinkParser).state = .magic0 := rfl
              rw [parserRun_of_no_magic0 hidle hrest]
    | outside raw => simp only [Reading, hstate] at reading
    | _ => simp only [hstate, PastMagic1, not_true_eq_false] at hpast

/-- The parser recovers from every history. A candidate past its second magic byte is
reported within 4101 bytes, whatever they are; and after 4102 bytes without the first
magic byte every frame that is built is recognised, at its last byte and with its own
op and payload. -/
theorem exlinkParser_recovers (p : ExlinkParser) (history : List Byte) :
    let q := parserRun (exlinkParserInit p) history
    (PastMagic1 q.state → ∀ next : List Byte, next.length = 4101 →
        ∃ entry ∈ parserTrace q next, entry.1 ≠ .none ∧ entry.2.state = .magic0) ∧
      ∀ noise : List Byte, noise.length = exlinkMaxFrame - 1 →
        (∀ byte ∈ noise, byte ≠ exlinkMagic0) →
        ∀ op payload payloadLen outCap,
          let frame := exlinkFrameBuild op payload payloadLen outCap
          frame ≠ [] →
            parserReports (parserRun q noise) frame =
              List.replicate (frame.length - 1) none ++
                [some ⟨.ok, op, (payload.getD fun _ => 0#8).prefixBytes payloadLen.toNat⟩] := by
  intro q
  have hreading := reading_run (Reading.init p) history
  constructor
  · intro past next hcount
    have hleft : bytesLeft q ≤ next.length :=
      hcount ▸ bytesLeft_le hreading.indexInvariant
    obtain ⟨before, byte, after, rfl, -, hloud, hstate⟩ :=
      reported_within_bytesLeft hreading past hleft
    refine ⟨exlinkParserFeed (parserRun q before) byte, ?_, hloud, hstate⟩
    rw [parserTrace, traceMealy_append, traceMealy_cons]
    exact List.mem_append_right _ List.mem_cons_self
  · intro noise hcount quiet op payload payloadLen outCap frame hbuilt
    have hstate := magic0_of_noise hreading hcount quiet
    rw [parserReports_eq (Reading.of_magic0 hstate)]
    obtain hnil | ⟨cap, hcap, hfits, -, hroom⟩ :=
      exlinkFrameBuild_eq_nil_or op payload payloadLen outCap
    · exact absurd hnil hbuilt
    · have hframe : frame =
          frameOf op ((payload.getD fun _ => 0#8).prefixBytes payloadLen.toNat) := by
        rw [← exlinkFrameBuild_eq_frameOf op _ payloadLen cap hfits hroom, ← hcap]
        simp only [frame, hcap, exlinkFrameBuild, Option.getD_some]
      rw [hframe]
      exact (recogniser_frame op (Or.inl rfl) (by rwa [Buf.length_prefixBytes])).1

/-- A header that declares the longest payload, cut off there. -/
theorem exlinkParser_recovers_cutHeader :
    let p : ExlinkParser := ⟨.magic0, 0#8, 0#16, 0#16, 0#16, 0#16, fun _ => 0#8⟩
    let q := parserRun (exlinkParserInit p) [0x4C#8, 0x4B#8, 0x01#8, 0x00#8, 0x10#8]
    q.len = 4096#16 ∧
    (∃ entry ∈ parserTrace q (List.replicate 4101 0x00#8),
      entry.1 ≠ .none ∧ entry.2.state = .magic0) ∧
    parserReports (parserRun q (List.replicate (exlinkMaxFrame - 1) 0x00#8))
      (exlinkFrameBuild 0x01#8 none 0#16 (some 7)) =
        List.replicate 6 none ++ [some ⟨.ok, 0x01#8, []⟩] := by
  intro p q
  have hstate : q.state = .payload := by decide +kernel
  obtain ⟨hreported, hrecognised⟩ :=
    exlinkParser_recovers p [0x4C#8, 0x4B#8, 0x01#8, 0x00#8, 0x10#8]
  refine ⟨by decide +kernel, hreported ?_ _ List.length_replicate, hrecognised _ List.length_replicate
    (fun byte hbyte => ?_) 0x01#8 none 0#16 (some 7) (by decide)⟩
  · rw [hstate]
    trivial
  · rw [List.eq_of_mem_replicate hbyte]
    decide

/-! ## A frame behind a candidate that was cut off -/

/-- The parser waits for a frame, or for its second magic byte. -/
def Waits (p : ExlinkParser) : Prop := p.state = .magic0 ∨ p.state = .magic1

instance (p : ExlinkParser) : Decidable (Waits p) := inferInstanceAs (Decidable (_ ∨ _))

/-- A parser that does not wait is past the second magic byte. -/
theorem Reading.two_le_length {read : List Byte} {p : ExlinkParser} (reading : Reading read p)
    (busy : ¬ Waits p) : 2 ≤ read.length := by
  rw [Waits, not_or] at busy
  cases hstate : p.state with
  | magic0 => exact absurd hstate busy.1
  | magic1 => exact absurd hstate busy.2
  | op =>
      simp only [Reading, hstate] at reading
      simp [reading.1]
  | lenLo =>
      simp only [Reading, hstate] at reading
      simp [reading.1]
  | lenHi =>
      simp only [Reading, hstate] at reading
      obtain ⟨low, rfl, -⟩ := reading
      simp
  | payload =>
      simp only [Reading, hstate] at reading
      rw [reading.1, length_frameBody, exlinkHeaderLen]
      omega
  | crcLo =>
      simp only [Reading, hstate] at reading
      rw [reading.1, length_frameBody, exlinkHeaderLen]
      omega
  | crcHi =>
      simp only [Reading, hstate] at reading
      obtain ⟨low, rfl, -⟩ := reading
      rw [List.length_append, length_frameBody, exlinkHeaderLen]
      omega
  | outside raw => simp [Reading, hstate] at reading

/-- A parser that waits has read nothing of a frame but a first magic byte. -/
theorem Reading.idle_of_waits {read : List Byte} {p : ExlinkParser} (reading : Reading read p)
    (waits : Waits p) : Idle read := by
  rcases waits with hstate | hstate
  · simp only [Reading, hstate] at reading
    exact Or.inl reading
  · simp only [Reading, hstate] at reading
    exact Or.inr reading.1

section CutOff

variable {read : List Byte} {byte : Byte}

/-- A candidate past its second magic byte grows by the byte, or is given up. -/
theorem recogniserStep_open (opened : 2 ≤ read.length) (byte : Byte) :
    (recogniserStep read byte).2 = read ++ [byte] ∨ (recogniserStep read byte).2 = [] := by
  rw [recogniserStep, if_neg (by omega), if_neg (by omega)]
  split_ifs
  · exact Or.inl rfl
  · exact Or.inr rfl
  · exact Or.inl rfl
  · exact Or.inl rfl
  · exact Or.inr rfl
  · exact Or.inr rfl

theorem length_recogniserStep_le (read : List Byte) (byte : Byte) :
    (recogniserStep read byte).2.length ≤ read.length + 1 := by
  by_cases hopen : 2 ≤ read.length
  · rcases recogniserStep_open hopen byte with hnext | hnext <;> rw [hnext] <;> simp
  · rw [recogniserStep]
    split_ifs <;> simp_all

theorem length_recogniserRun_le (read stream : List Byte) :
    (recogniserRun read stream).length ≤ read.length + stream.length := by
  induction stream generalizing read with
  | nil => exact le_refl _
  | cons byte rest ih =>
      have hstep := length_recogniserStep_le read byte
      have hrest := ih (recogniserStep read byte).2
      rw [recogniserRun_cons, List.length_cons]
      omega

/-- Whatever follows an open candidate either belongs to it, or began inside. -/
theorem recogniserRun_open (opened : 2 ≤ read.length) (stream : List Byte) :
    recogniserRun read stream = read ++ stream ∨
      (recogniserRun read stream).length < stream.length := by
  induction stream generalizing read with
  | nil => exact Or.inl (List.append_nil read).symm
  | cons byte rest ih =>
      rw [recogniserRun_cons]
      rcases recogniserStep_open opened byte with hnext | hnext
      · rw [hnext]
        have hlonger : 2 ≤ (read ++ [byte]).length := by
          rw [List.length_append]
          omega
        rcases ih hlonger with hgrown | hbegan
        · exact Or.inl (by rw [hgrown, List.append_assoc, List.singleton_append])
        · exact Or.inr (hbegan.trans (Nat.lt_succ_self _))
      · rw [hnext]
        have hle := length_recogniserRun_le [] rest
        rw [List.length_nil, Nat.zero_add] at hle
        exact Or.inr (Nat.lt_succ_of_le hle)

/-- An accepted candidate has the length of the frame that it is. -/
theorem length_of_accepted {op : Byte} {payload : List Byte}
    (accepted : (recogniserStep read byte).1 = some ⟨.ok, op, payload⟩) :
    read.length + 1 = exlinkFrameOverhead + payload.length := by
  rw [recogniserStep] at accepted
  split_ifs at accepted with hnone hone hheader hlen hover hinside hclosed
  · simp at accepted
  · simp only [Option.some.injEq, FrameReport.mk.injEq] at accepted
    obtain ⟨-, -, rfl⟩ := accepted
    have hlength := congrArg List.length hclosed
    rw [length_closeFrame, List.length_append, List.length_singleton, List.length_take]
      at hlength
    rw [readPayload, List.length_take, List.length_drop]
    simp only [exlinkFrameOverhead, exlinkHeaderLen, exlinkCrcLen] at hlength ⊢
    omega
  · simp at accepted

/-- A frame is recognised exactly by a parser that waits for one. What a cut-off candidate
takes of it is not handed out as this frame. -/
theorem parserReports_frame_iff {p : ExlinkParser} (reading : Reading read p) (op : Byte)
    {payload : List Byte} (fits : payload.length ≤ exlinkMaxPayload) :
    (parserReports p (frameOf op payload)).getLast? = some (some ⟨.ok, op, payload⟩) ↔
      Waits p := by
  rw [parserReports_eq reading]
  constructor
  · intro haccepted
    by_contra hbusy
    have hnonempty : frameOf op payload ≠ [] := List.append_ne_nil_of_right_ne_nil _ (by simp)
    obtain ⟨before, byte, hframe⟩ : ∃ before byte, frameOf op payload = before ++ [byte] :=
      ⟨_, _, (List.dropLast_concat_getLast hnonempty).symm⟩
    rw [hframe, recogniserReports_append, recogniserReports_cons, recogniserReports_nil,
      List.getLast?_concat] at haccepted
    have hlength := length_of_accepted (Option.some.inj haccepted)
    have htotal := congrArg List.length hframe
    rw [length_frameOf, List.length_append, List.length_singleton] at htotal
    rcases recogniserRun_open (reading.two_le_length hbusy) before with hgrown | hbegan
    · rw [hgrown, List.length_append] at hlength
      have := reading.two_le_length hbusy
      omega
    · omega
  · intro hwaits
    rw [(recogniser_frame op (reading.idle_of_waits hwaits) fits).1, List.getLast?_concat]

end CutOff

end ExLink.Frame
