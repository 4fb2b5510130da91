/-
# The byte-fed frame parser

The state machine of `frame_parser.c`. Every field of `exlink_parser_t` is
kept, with what earlier frames left in it: only the paths of the source that
assign a field change it. What one byte does is stated once for each state; the
theorems about whole streams are derived from these equations.
-/

import ExLink.Automata.Mealy
import ExLink.Frame.Codec

namespace ExLink.Frame

open ExLink.Automata

/-- `exlink_parse_state_t`. The storage of the C enumeration can hold other
values; `outside` stands for these, which only the `default` branch handles. -/
inductive ParseState where
  | magic0
  | magic1
  | op
  | lenLo
  | lenHi
  | payload
  | crcLo
  | crcHi
  | outside (raw : ℕ)
  deriving DecidableEq

/-- `exlink_parser_t`. -/
structure ExlinkParser where
  state : ParseState
  op : Byte
  len : Word16
  idx : Word16
  crcCalc : Word16
  crcRx : Word16
  payload : Buf

/-- `exlink_frame_result_t`. -/
inductive FrameResult where
  | none
  | ok
  | badCrc
  | badLen
  deriving DecidableEq

/-- `exlink_parser_init`: everything but the payload memory is reset. -/
def exlinkParserInit (p : ExlinkParser) : ExlinkParser :=
  { p with
    state := .magic0
    op := 0#8
    len := 0#16
    idx := 0#16
    crcCalc := exlinkCrc16Init
    crcRx := 0#16 }

/-- `exlink_parser_feed`. -/
def exlinkParserFeed (p : ExlinkParser) (byte : Byte) : FrameResult × ExlinkParser :=
  match p.state with
  | .magic0 =>
      if byte = exlinkMagic0 then
        (.none, { p with crcCalc := exlinkCrc16Update exlinkCrc16Init [byte], state := .magic1 })
      else (.none, p)
  | .magic1 =>
      if byte = exlinkMagic1 then
        (.none, { p with crcCalc := exlinkCrc16Update p.crcCalc [byte], state := .op })
      else if byte = exlinkMagic0 then
        -- repeated 0x4C: still expecting MAGIC1, the CRC restarts here
        (.none, { p with crcCalc := exlinkCrc16Update exlinkCrc16Init [byte] })
      else (.none, { p with state := .magic0 })
  | .op =>
      (.none, { p with
        op := byte
        crcCalc := exlinkCrc16Update p.crcCalc [byte]
        state := .lenLo })
  | .lenLo =>
      (.none, { p with
        len := byte.setWidth 16
        crcCalc := exlinkCrc16Update p.crcCalc [byte]
        state := .lenHi })
  | .lenHi =>
      let p := { p with
        len := p.len ||| (byte.setWidth 16 <<< 8)
        crcCalc := exlinkCrc16Update p.crcCalc [byte] }
      if exlinkMaxPayload < p.len.toNat then (.badLen, exlinkParserInit p)
      else
        (.none, { p with
          idx := 0#16
          state := if p.len = 0#16 then .crcLo else .payload })
  | .payload =>
      let p := { p with
        payload := Function.update p.payload p.idx.toNat byte
        idx := p.idx + 1#16
        crcCalc := exlinkCrc16Update p.crcCalc [byte] }
      (.none, if p.len ≤ p.idx then { p with state := .crcLo } else p)
  | .crcLo => (.none, { p with crcRx := byte.setWidth 16, state := .crcHi })
  | .crcHi =>
      let p := { p with crcRx := p.crcRx ||| (byte.setWidth 16 <<< 8) }
      -- op, len and payload stay for the caller to read
      (if p.crcRx = p.crcCalc then .ok else .badCrc,
        { p with state := .magic0, crcCalc := exlinkCrc16Init })
  | .outside _ => (.none, exlinkParserInit p)

/-- The parser after a whole byte stream. -/
abbrev parserRun : ExlinkParser → List Byte → ExlinkParser := runMealy exlinkParserFeed

/-- Every result, byte by byte, with the parser as the caller then finds it. -/
abbrev parserTrace : ExlinkParser → List Byte → List (FrameResult × ExlinkParser) :=
  traceMealy exlinkParserFeed

/-- What a caller reads out of the parser when a frame is reported. -/
structure FrameReport where
  result : FrameResult
  op : Byte
  payload : List Byte
  deriving DecidableEq

/-- The report of one step: nothing for `EXLINK_FR_NONE`, else the result with
`p->op` and `p->payload[0 .. p->len)`. -/
def reportOf (step : FrameResult × ExlinkParser) : Option FrameReport :=
  match step.1 with
  | .none => none
  | result => some ⟨result, step.2.op, step.2.payload.prefixBytes step.2.len.toNat⟩

/-- The reports of a stream, one entry a byte. -/
def parserReports (p : ExlinkParser) (stream : List Byte) : List (Option FrameReport) :=
  (parserTrace p stream).map reportOf

/-- The results of a stream, one a byte. -/
def parserResults (p : ExlinkParser) (stream : List Byte) : List FrameResult :=
  (parserTrace p stream).map Prod.fst

/-- The results are those of the reports. -/
theorem parserResults_eq (p : ExlinkParser) (stream : List Byte) :
    parserResults p stream =
      (parserReports p stream).map fun report => report.elim .none FrameReport.result := by
  rw [parserResults, parserReports, List.map_map]
  apply List.map_congr_left
  rintro ⟨result, q⟩ _
  cases result <;> rfl

theorem parserRun_cons (p : ExlinkParser) (byte : Byte) (rest : List Byte) :
    parserRun p (byte :: rest) = parserRun (exlinkParserFeed p byte).2 rest := rfl

theorem parserRun_append (p : ExlinkParser) (first second : List Byte) :
    parserRun p (first ++ second) = parserRun (parserRun p first) second :=
  runMealy_append exlinkParserFeed p first second

theorem parserReports_append (p : ExlinkParser) (first second : List Byte) :
    parserReports p (first ++ second) =
      parserReports p first ++ parserReports (parserRun p first) second := by
  simp only [parserReports, traceMealy_append, List.map_append]

/-! ## What one byte does in each state -/

section Steps

variable {p : ExlinkParser} {byte : Byte}

theorem feed_magic0_hit (hstate : p.state = .magic0) :
    exlinkParserFeed p exlinkMagic0 =
      (.none, { p with crcCalc := exlinkCrc16 [exlinkMagic0], state := .magic1 }) := by
  simp [exlinkParserFeed, hstate, exlinkCrc16]

theorem feed_magic0_miss (hstate : p.state = .magic0) (hbyte : byte ≠ exlinkMagic0) :
    exlinkParserFeed p byte = (.none, p) := by
  simp [exlinkParserFeed, hstate, hbyte]

theorem feed_magic1_hit (hstate : p.state = .magic1) :
    exlinkParserFeed p exlinkMagic1 =
      (.none, { p with
        crcCalc := exlinkCrc16Update p.crcCalc [exlinkMagic1], state := .op }) := by
  simp [exlinkParserFeed, hstate]

theorem feed_magic1_again (hstate : p.state = .magic1) :
    exlinkParserFeed p exlinkMagic0 =
      (.none, { p with crcCalc := exlinkCrc16 [exlinkMagic0] }) := by
  have hne : exlinkMagic0 ≠ exlinkMagic1 := by decide
  simp [exlinkParserFeed, hstate, hne, exlinkCrc16]

theorem feed_magic1_miss (hstate : p.state = .magic1) (hsecond : byte ≠ exlinkMagic1)
    (hfirst : byte ≠ exlinkMagic0) :
    exlinkParserFeed p byte = (.none, { p with state := .magic0 }) := by
  simp [exlinkParserFeed, hstate, hsecond, hfirst]

theorem feed_op (hstate : p.state = .op) :
    exlinkParserFeed p byte =
      (.none, { p with
        op := byte, crcCalc := exlinkCrc16Update p.crcCalc [byte], state := .lenLo }) := by
  simp [exlinkParserFeed, hstate]

theorem feed_lenLo (hstate : p.state = .lenLo) :
    exlinkParserFeed p byte =
      (.none, { p with
        len := byte.setWidth 16
        crcCalc := exlinkCrc16Update p.crcCalc [byte]
        state := .lenHi }) := by
  simp [exlinkParserFeed, hstate]

theorem feed_lenHi_over (hstate : p.state = .lenHi)
    (hover : exlinkMaxPayload < (p.len ||| (byte.setWidth 16 <<< 8)).toNat) :
    exlinkParserFeed p byte = (.badLen, exlinkParserInit p) := by
  simp only [exlinkParserFeed, hstate]
  rw [if_pos hover]
  rfl

theorem feed_lenHi_within (hstate : p.state = .lenHi)
    (hwithin : (p.len ||| (byte.setWidth 16 <<< 8)).toNat ≤ exlinkMaxPayload) :
    exlinkParserFeed p byte =
      (.none, { p with
        len := p.len ||| (byte.setWidth 16 <<< 8)
        idx := 0#16
        crcCalc := exlinkCrc16Update p.crcCalc [byte]
        state := if p.len ||| (byte.setWidth 16 <<< 8) = 0#16 then .crcLo else .payload }) := by
  simp only [exlinkParserFeed, hstate]
  rw [if_neg (Nat.not_lt.mpr hwithin)]

theorem feed_payload (hstate : p.state = .payload) :
    exlinkParserFeed p byte =
      (.none, { p with
        payload := Function.update p.payload p.idx.toNat byte
        idx := p.idx + 1#16
        crcCalc := exlinkCrc16Update p.crcCalc [byte]
        state := if p.len ≤ p.idx + 1#16 then .crcLo else .payload }) := by
  by_cases hlast : p.len ≤ p.idx + 1#16 <;> simp [exlinkParserFeed, hstate, hlast]

theorem feed_crcLo (hstate : p.state = .crcLo) :
    exlinkParserFeed p byte = (.none, { p with crcRx := byte.setWidth 16, state := .crcHi }) := by
  simp [exlinkParserFeed, hstate]

theorem feed_crcHi (hstate : p.state = .crcHi) :
    exlinkParserFeed p byte =
      (if p.crcRx ||| (byte.setWidth 16 <<< 8) = p.crcCalc then .ok else .badCrc,
        { p with
          crcRx := p.crcRx ||| (byte.setWidth 16 <<< 8)
          crcCalc := exlinkCrc16Init
          state := .magic0 }) := by
  simp [exlinkParserFeed, hstate]

end Steps

/-- A byte is reported only as a length over the limit or as the last CRC byte. -/
theorem feed_cases (p : ExlinkParser) (byte : Byte) :
    (exlinkParserFeed p byte).1 = .none ∨
      (p.state = .lenHi ∧ exlinkParserFeed p byte = (.badLen, exlinkParserInit p)) ∨
      (p.state = .crcHi ∧ exlinkParserFeed p byte =
        (if p.crcRx ||| (byte.setWidth 16 <<< 8) = p.crcCalc then .ok else .badCrc,
          { p with
            crcRx := p.crcRx ||| (byte.setWidth 16 <<< 8)
            crcCalc := exlinkCrc16Init
            state := .magic0 })) := by
  cases hstate : p.state with
  | magic0 =>
      by_cases hbyte : byte = exlinkMagic0 <;> simp [exlinkParserFeed, hstate, hbyte]
  | magic1 =>
      by_cases hsecond : byte = exlinkMagic1
      · simp [exlinkParserFeed, hstate, hsecond]
      · by_cases hfirst : byte = exlinkMagic0
        · subst hfirst
          exact Or.inl (by rw [feed_magic1_again hstate])
        · exact Or.inl (by rw [feed_magic1_miss hstate hsecond hfirst])
  | op => exact Or.inl (by rw [feed_op hstate])
  | lenLo => exact Or.inl (by rw [feed_lenLo hstate])
  | lenHi =>
      by_cases hover : exlinkMaxPayload < (p.len ||| (byte.setWidth 16 <<< 8)).toNat
      · exact Or.inr (Or.inl ⟨rfl, feed_lenHi_over hstate hover⟩)
      · exact Or.inl (by rw [feed_lenHi_within hstate (Nat.not_lt.mp hover)])
  | payload => exact Or.inl (by rw [feed_payload hstate])
  | crcLo => exact Or.inl (by rw [feed_crcLo hstate])
  | crcHi => exact Or.inr (Or.inr ⟨rfl, feed_crcHi hstate⟩)
  | outside raw => exact Or.inl (by simp [exlinkParserFeed, hstate])

/-- A result other than `EXLINK_FR_NONE` leaves the parser waiting for a frame. -/
theorem feed_reported_magic0 (p : ExlinkParser) (byte : Byte)
    (reported : (exlinkParserFeed p byte).1 ≠ .none) :
    (exlinkParserFeed p byte).2.state = .magic0 := by
  rcases feed_cases p byte with hsilent | ⟨-, hbad⟩ | ⟨-, hlast⟩
  · exact absurd hsilent reported
  · rw [hbad]
    rfl
  · rw [hlast]

/-- An accepted frame ends in the state of the last CRC byte, with a matching CRC. -/
theorem feed_ok {p q : ExlinkParser} {byte : Byte} (hok : exlinkParserFeed p byte = (.ok, q)) :
    p.state = .crcHi ∧ p.crcRx ||| (byte.setWidth 16 <<< 8) = p.crcCalc ∧
      q.op = p.op ∧ q.len = p.len ∧ q.payload = p.payload := by
  rcases feed_cases p byte with hsilent | ⟨-, hbad⟩ | ⟨hstate, hlast⟩
  · simp [hok] at hsilent
  · simp [hok] at hbad
  · by_cases hcrc : p.crcRx ||| (byte.setWidth 16 <<< 8) = p.crcCalc
    · rw [if_pos hcrc, hok] at hlast
      obtain ⟨-, rfl⟩ := Prod.mk.inj hlast
      exact ⟨hstate, hcrc, rfl, rfl, rfl⟩
    · rw [if_neg hcrc, hok] at hlast
      simp at hlast

end ExLink.Frame
