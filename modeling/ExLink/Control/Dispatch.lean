/-
# Dispatching command frames

The op handlers of `frame_dispatch.c`. Every handler ends in one call of the
encoder on the static response buffer, so a response is the list of bytes it
wrote there and an encoder refusal is the empty response.
-/

import ExLink.Frame.Stream
import Mathlib.Data.List.ReduceOption

namespace ExLink.Control

open ExLink.Frame

/-! ## Op codes, error codes and identity (`frame_proto.h`, `board.h`) -/

def exlinkOpPing : Byte := 0x01#8
def exlinkOpEcho : Byte := 0x02#8
def exlinkOpUartOpen : Byte := 0x10#8
def exlinkOpUartWrite : Byte := 0x11#8
def exlinkOpSpiXfer : Byte := 0x20#8
def exlinkOpSpiSlaveTable : Byte := 0x21#8
def exlinkOpI2cXfer : Byte := 0x30#8
def exlinkOpI2cSlaveTable : Byte := 0x31#8
def exlinkOpCanSend : Byte := 0x40#8
def exlinkOpDapPassthrough : Byte := 0x80#8
def exlinkOpError : Byte := 0xFF#8

/-- `exlink_err_t`, the codes that the dispatcher answers. -/
inductive ExlinkErr where
  | badCrc
  | badLen
  | unknownOp
  | notImplemented
  deriving DecidableEq

/-- The payload byte of an error code. -/
def ExlinkErr.code : ExlinkErr → Byte
  | .badCrc => 0x01#8
  | .badLen => 0x03#8
  | .unknownOp => 0x04#8
  | .notImplemented => 0x05#8

def exlinkProtoVersion : Word16 := 0x0100#16
def exlinkFwVersionMajor : Byte := 0x00#8
def exlinkFwVersionMinor : Byte := 0x01#8

/-- `BOARD_NAME`, the characters before the terminator: `hpm5300evk`. -/
def boardName : List Byte :=
  [0x68#8, 0x70#8, 0x6D#8, 0x35#8, 0x33#8, 0x30#8, 0x30#8, 0x65#8, 0x76#8, 0x6B#8]

/-! ## Handlers -/

/-- `build_error`. -/
def buildError (err : ExlinkErr) (respCap : Option ℕ) : List Byte :=
  exlinkFrameBuild exlinkOpError (some (Buf.ofList [err.code])) 1#16 respCap

/-- The payload array of `handle_ping`: 36 bytes, one of them kept for the
terminator of the name. -/
def pongPayload : List Byte :=
  let head := [exlinkProtoVersion.lowByte, exlinkProtoVersion.highByte,
    exlinkFwVersionMajor, exlinkFwVersionMinor]
  head ++ boardName.take (36 - head.length - 1) ++ [0#8]

/-- `handle_ping`. -/
def handlePing (respCap : Option ℕ) : List Byte :=
  exlinkFrameBuild exlinkOpPing (some (Buf.ofList pongPayload))
    (BitVec.ofNat 16 pongPayload.length) respCap

/-- `handle_echo`. -/
def handleEcho (payload : Option Buf) (len : Word16) (respCap : Option ℕ) : List Byte :=
  exlinkFrameBuild exlinkOpEcho payload len respCap

/-- The ops of the protocol that this firmware only refuses. -/
def refusedOps : List Byte :=
  [exlinkOpUartOpen, exlinkOpUartWrite, exlinkOpSpiXfer, exlinkOpSpiSlaveTable,
    exlinkOpI2cXfer, exlinkOpI2cSlaveTable, exlinkOpCanSend, exlinkOpDapPassthrough]

/-- `exlink_dispatch`. -/
def exlinkDispatch (op : Byte) (payload : Option Buf) (len : Word16) (respCap : Option ℕ) :
    List Byte :=
  if op = exlinkOpPing then handlePing respCap
  else if op = exlinkOpEcho then handleEcho payload len respCap
  else if op ∈ refusedOps then buildError .notImplemented respCap
  else buildError .unknownOp respCap

/-- The `switch` of the dispatch thread on one parser result, with `s_resp` of
`EXLINK_MAX_FRAME` bytes. The empty list is `resp_len == 0`: nothing is sent. -/
def threadResponse (step : FrameResult × ExlinkParser) : List Byte :=
  match step.1 with
  | .ok => exlinkDispatch step.2.op (some step.2.payload) step.2.len (some exlinkMaxFrame)
  | .badCrc => buildError .badCrc (some exlinkMaxFrame)
  | .badLen => buildError .badLen (some exlinkMaxFrame)
  | .none => []

/-! ## What a response is for -/

/-- The error frame of a code, as its receiver reports it. -/
def errorReply (err : ExlinkErr) : FrameReport := ⟨.ok, exlinkOpError, [err.code]⟩

/-- The frame that answers a report. -/
def expectedReply (report : FrameReport) : FrameReport :=
  match report.result with
  | .ok =>
      if report.op = exlinkOpPing then
        ⟨.ok, exlinkOpPing, [0x00#8, 0x01#8, 0x00#8, 0x01#8] ++ boardName ++ [0#8]⟩
      else if report.op = exlinkOpEcho then ⟨.ok, exlinkOpEcho, report.payload⟩
      else if report.op ∈ refusedOps then errorReply .notImplemented
      else errorReply .unknownOp
  | .badCrc => errorReply .badCrc
  | .badLen | .none => errorReply .badLen

/-- The encoding of a reply. -/
def replyBytes (reply : FrameReport) : List Byte := frameOf reply.op reply.payload

@[simp]
theorem result_expectedReply (report : FrameReport) : (expectedReply report).result = .ok := by
  cases hresult : report.result with
  | ok =>
      simp only [expectedReply, hresult, errorReply]
      split_ifs <;> rfl
  | badCrc => simp only [expectedReply, hresult, errorReply]
  | badLen => simp only [expectedReply, hresult, errorReply]
  | none => simp only [expectedReply, hresult, errorReply]

/-- A reply is no longer than what it answers, or than the longest fixed one. -/
theorem length_expectedReply {report : FrameReport}
    (fits : report.result = .ok → report.payload.length ≤ exlinkMaxPayload) :
    (expectedReply report).payload.length ≤ exlinkMaxPayload := by
  have herror : ∀ err, (errorReply err).payload.length ≤ exlinkMaxPayload := by
    intro err
    simp [errorReply, exlinkMaxPayload]
  cases hresult : report.result with
  | ok =>
      simp only [expectedReply, hresult]
      split_ifs
      · decide
      · exact fits hresult
      · exact herror _
      · exact herror _
  | badCrc => simpa only [expectedReply, hresult] using herror _
  | badLen => simpa only [expectedReply, hresult] using herror _
  | none => simpa only [expectedReply, hresult] using herror _

/-! ## The handlers answer as expected -/

theorem buildError_eq (err : ExlinkErr) :
    buildError err (some exlinkMaxFrame) = replyBytes (errorReply err) := by
  have hfits : [err.code].length ≤ exlinkMaxPayload := by simp [exlinkMaxPayload]
  exact exlinkFrameBuild_ofList exlinkOpError exlinkMaxFrame hfits
    (by simp only [exlinkMaxFrame]; omega)

theorem handlePing_eq :
    handlePing (some exlinkMaxFrame) = frameOf exlinkOpPing pongPayload :=
  exlinkFrameBuild_ofList exlinkOpPing exlinkMaxFrame (by decide) (by decide)

theorem handleEcho_eq {payload : Buf} {len : Word16} (fits : len.toNat ≤ exlinkMaxPayload) :
    handleEcho (some payload) len (some exlinkMaxFrame) =
      frameOf exlinkOpEcho (payload.prefixBytes len.toNat) :=
  exlinkFrameBuild_eq_frameOf exlinkOpEcho payload len exlinkMaxFrame fits
    (by simp only [exlinkMaxFrame]; omega)

/-- The dispatcher on an accepted frame. The length limit is what keeps the
encoder from refusing an echo. -/
theorem exlinkDispatch_eq {op : Byte} {payload : Buf} {len : Word16}
    (fits : len.toNat ≤ exlinkMaxPayload) :
    exlinkDispatch op (some payload) len (some exlinkMaxFrame) =
      replyBytes (expectedReply ⟨.ok, op, payload.prefixBytes len.toNat⟩) := by
  simp only [exlinkDispatch, expectedReply]
  split_ifs
  · exact handlePing_eq
  · exact handleEcho_eq fits
  · exact buildError_eq .notImplemented
  · exact buildError_eq .unknownOp

/-- One parser result: silence for `EXLINK_FR_NONE`, else the reply to its report. -/
theorem threadResponse_eq {step : FrameResult × ExlinkParser}
    (fits : step.1 = .ok → step.2.len.toNat ≤ exlinkMaxPayload) :
    threadResponse step =
      ((reportOf step).map fun report => replyBytes (expectedReply report)).getD [] := by
  cases hresult : step.1 with
  | none => simp only [threadResponse, reportOf, hresult, Option.map_none, Option.getD_none]
  | ok =>
      simp only [threadResponse, reportOf, hresult, Option.map_some, Option.getD_some]
      exact exlinkDispatch_eq (fits hresult)
  | badCrc =>
      simp only [threadResponse, reportOf, hresult, Option.map_some, Option.getD_some]
      exact buildError_eq .badCrc
  | badLen =>
      simp only [threadResponse, reportOf, hresult, Option.map_some, Option.getD_some]
      exact buildError_eq .badLen

/-! ## What the host decodes -/

theorem length_replyBytes (reply : FrameReport) :
    (replyBytes reply).length = exlinkFrameOverhead + reply.payload.length :=
  length_frameOf reply.op reply.payload

theorem replyBytes_ne_nil (reply : FrameReport) : replyBytes reply ≠ [] := by
  have hlen := length_replyBytes reply
  intro hnil
  rw [hnil, List.length_nil, exlinkFrameOverhead, exlinkCrcLen] at hlen
  omega

/-- A parser fed the encodings of some replies, one after the other, reports
exactly these replies. -/
theorem reduceOption_parserReports_replies (p : ExlinkParser) {replies : List FrameReport}
    (wellFormed : ∀ reply ∈ replies,
      reply.result = .ok ∧ reply.payload.length ≤ exlinkMaxPayload) :
    (parserReports (exlinkParserInit p) (replies.flatMap replyBytes)).reduceOption =
      replies := by
  rw [parserReports_eq (Reading.init p)]
  induction replies with
  | nil => rfl
  | cons reply rest ih =>
      obtain ⟨hok, hfits⟩ := wellFormed reply List.mem_cons_self
      obtain ⟨hframe, hrun⟩ := recogniser_frame reply.op (Or.inl rfl) hfits
      have hrest := ih fun other hother => wellFormed other (List.mem_cons_of_mem _ hother)
      have hreply : (⟨.ok, reply.op, reply.payload⟩ : FrameReport) = reply := by
        rw [← hok]
      rw [List.flatMap_cons, replyBytes, recogniserReports_append, hframe, hrun,
        List.reduceOption_append, List.reduceOption_append,
        List.reduceOption_replicate_none, hrest, hreply]
      rfl

end ExLink.Control
