/-
# A host that waits for its responses

The whole control channel: a host that sends a frame only after the last byte of the
response to the one before has arrived, in packets of any size; the OUT callback and the
ring; the dispatch thread, down to the accesses of `usb_if_ctrl_send`; and the IN endpoint,
whose packets reach the host before the completion callback runs. The ring has room for
twice the bytes that can be under way.
-/

import ExLink.Control.Session
import ExLink.Usb.Ports

namespace ExLink.Control

open ExLink.Automata ExLink.Bulk ExLink.Frame ExLink.Usb

/-! ## The system -/

/-- A well-formed frame of the host. -/
structure HostFrame where
  op : Byte
  payload : List Byte
  fits : payload.length ≤ exlinkMaxPayload

/-- What the frame puts on the wire. -/
def HostFrame.bytes (frame : HostFrame) : List Byte :=
  exlinkFrameBuild frame.op (some (Buf.ofList frame.payload))
    (BitVec.ofNat 16 frame.payload.length) (some exlinkMaxFrame)

/-- The frames that a parser reads in a stream. -/
def decoded (fresh : ExlinkParser) (stream : List Byte) : List FrameReport :=
  (parserReports (exlinkParserInit fresh) stream).reduceOption

/-- The channel and its IN port; how many packets of the transfer in the controller the
host took; the bytes that the host has yet to send, and the frames that it sent. -/
structure WaitState where
  ctrl : CtrlState
  session : InSession
  taken : ℕ
  outgoing : List Byte
  frames : List HostFrame

/-- The host sends a frame, an OUT read completes, the thread makes an access, the host
takes a packet, or a transfer completes. -/
inductive WaitAction where
  | frame (frame : HostFrame)
  | out (packet : OutPacket)
  | thread
  | take
  | complete

/-- The packets of the transfer in the controller. -/
def armedPackets (conf : InPortConf) (port : InPort) : List (List Byte) :=
  port.armed.elim [] fun len => transferPackets conf.mps (port.buf.prefixBytes len)

/-- What the host received. -/
def inbox (conf : InPortConf) (s : WaitState) : List Byte :=
  (s.session.port.wire ++ (armedPackets conf s.session.port).take s.taken).flatten

/-- The thread goes on once its call returns. Its result is not looked at. -/
def goOn (s : WaitState) : Option WaitState :=
  match s.session.call with
  | some _ => some s
  | none =>
      (sendReturn (s.session.results.getLastD 0) s.ctrl).map fun ctrl => { s with ctrl := ctrl }

/-- One access of the thread. A response is handed to `usb_if_ctrl_send`, and the thread is
in that call until it returns. -/
def waitThread (conf : InPortConf) (s : WaitState) : Option WaitState :=
  match s.ctrl.pc with
  | .send _ =>
      (inStep conf s.session .thread).bind fun session => goOn { s with session := session }
  | _ =>
      (threadStep s.ctrl).bind fun ctrl =>
        match ctrl.pc with
        | .send resp =>
            (inStep conf s.session (.send resp)).bind fun session =>
              goOn { s with ctrl := ctrl, session := session }
        | _ => some { s with ctrl := ctrl }

/-- One action. The host takes packets while there are any, and the transfer completes when
all are taken. -/
def waitStep (conf : InPortConf) (fresh : ExlinkParser) (s : WaitState) :
    WaitAction → Option WaitState
  | .frame frame =>
      if s.frames.length ≤ (decoded fresh (inbox conf s)).length then
        some { s with outgoing := s.outgoing ++ frame.bytes, frames := s.frames ++ [frame] }
      else none
  | .out packet =>
      if packet.bytes.isPrefixOf s.outgoing then
        some
          { s with
            ctrl := exlinkCtrlOutCb packet s.ctrl
            outgoing := s.outgoing.drop packet.bytes.length }
      else none
  | .thread => waitThread conf s
  | .take =>
      if s.taken < (armedPackets conf s.session.port).length then
        some { s with taken := s.taken + 1 }
      else none
  | .complete =>
      if s.taken = (armedPackets conf s.session.port).length then
        (inStep conf s.session .complete).map fun session =>
          { s with session := session, taken := 0 }
      else none

/-- `usb_if_ctrl_add`, the entry of the thread, and the start of the session. -/
def waitInit (cells : Fin exlinkRxRingSize → Byte) (p : ExlinkParser) (buf : Buf) : WaitState :=
  ⟨ctrlInit cells p, inInit buf, 0, [], []⟩

/-! ## Frames and prefixes of frames -/

/-- The frame as its receiver reports it. -/
def HostFrame.report (frame : HostFrame) : FrameReport := ⟨.ok, frame.op, frame.payload⟩

theorem HostFrame.bytes_eq (frame : HostFrame) : frame.bytes = frameOf frame.op frame.payload :=
  exlinkFrameBuild_ofList frame.op exlinkMaxFrame frame.fits
    (by have := frame.fits; rw [exlinkMaxFrame]; omega)

theorem HostFrame.length_bytes_le (frame : HostFrame) : frame.bytes.length ≤ exlinkMaxFrame := by
  have := frame.fits
  rw [frame.bytes_eq, length_frameOf, exlinkMaxFrame]
  omega

/-- A stream of frames, read from its start. -/
theorem recogniser_frames (frames : List HostFrame) :
    (recogniserReports [] (frames.flatMap HostFrame.bytes)).reduceOption =
        frames.map HostFrame.report ∧
      recogniserRun [] (frames.flatMap HostFrame.bytes) = [] := by
  induction frames with
  | nil => exact ⟨rfl, rfl⟩
  | cons frame rest ih =>
      obtain ⟨hframe, hrun⟩ := recogniser_frame frame.op (Or.inl rfl) frame.fits
      rw [List.flatMap_cons, frame.bytes_eq, recogniserReports_append, recogniserRun_append, hrun,
        hframe, List.reduceOption_append, List.reduceOption_append, ih.1, ih.2,
        List.reduceOption_replicate_none]
      exact ⟨rfl, rfl⟩

/-- Before its last byte a stream of frames has not been read to the last frame. -/
theorem length_reduceOption_lt {p : ExlinkParser} {frames : List HostFrame}
    {fed rest : List Byte} (hsplit : fed ++ rest = frames.flatMap HostFrame.bytes)
    (hrest : rest ≠ []) :
    (decoded p fed).length < frames.length := by
  induction frames using List.reverseRecOn with
  | nil =>
      have hnone := (List.append_eq_nil_iff.mp hsplit).2
      exact absurd hnone hrest
  | append_singleton before frame _ =>
      obtain ⟨-, hrun⟩ := recogniser_frames before
      obtain ⟨hframe, -⟩ := recogniser_frame frame.op (Or.inl rfl) frame.fits
      have hwhole := (recogniser_frames (before ++ [frame])).1
      have hends : recogniserReports [] fed ++ recogniserReports (recogniserRun [] fed) rest =
          (recogniserReports [] (before.flatMap HostFrame.bytes) ++
            List.replicate (frame.bytes.length - 1) none) ++ [some frame.report] := by
        rw [← recogniserReports_append, hsplit, List.flatMap_append, List.flatMap_singleton,
          recogniserReports_append, hrun, frame.bytes_eq, hframe, List.append_assoc]
        rfl
      -- the last byte of the stream is in the rest, and reports the last frame
      rcases List.eq_nil_or_concat (recogniserReports (recogniserRun [] fed) rest) with
        hnone | ⟨silent, last, hlast⟩
      · have hlength := congrArg List.length hnone
        rw [recogniserReports, List.length_map, length_traceMealy, List.length_nil] at hlength
        exact absurd (List.length_eq_zero_iff.mp hlength) hrest
      · rw [hlast, List.concat_eq_append, ← List.append_assoc] at hends
        have hreport := List.singleton_inj.mp (List.append_inj_right' hends rfl)
        rw [← hsplit, recogniserReports_append, hlast, List.concat_eq_append, hreport,
          List.reduceOption_append, List.reduceOption_append] at hwhole
        have hcount := congrArg List.length hwhole
        rw [decoded, parserReports_eq (Reading.init p)]
        simp only [List.length_append, List.reduceOption_singleton, Option.toList_some,
          List.length_singleton, List.length_map] at hcount ⊢
        omega

/-- A longer stream has at least the frames of its beginning. -/
theorem length_decoded_le {fresh : ExlinkParser} {first stream : List Byte}
    (hstarts : first <+: stream) : (decoded fresh first).length ≤ (decoded fresh stream).length := by
  obtain ⟨rest, rfl⟩ := hstarts
  rw [decoded, decoded, parserReports_append, List.reduceOption_append, List.length_append]
  exact Nat.le_add_right _ _

/-! ## The invariant -/

/-- The thread is in a call exactly while it sends, and the call is about its response. -/
def InCall (pc : DispatchPc) (session : InSession) : Prop :=
  match pc with
  | .send resp => session.call.isSome ∧ session.response = resp
  | _ => session.call = none

/-- The response of a call that started its transfer. -/
def startedReply (session : InSession) : List (List Byte) :=
  if draining session.call then [session.response] else []

/-- What the thread took out of the ring is what it answered, up to the byte in hand, and
the transfers that were started are among the answers. -/
def Answers (p : ExlinkParser) (received : List Byte) (ctrl : CtrlState)
    (started pending : List (List Byte)) : Prop :=
  ∃ answers, CtrlInvariant p received { ctrl with sent := answers } ∧
    started.Sublist (answers ++ pending)

/-- What is under way fits a frame, and the frames so far are what the channel received and
the host has yet to send. -/
structure WaitInvariant (conf : InPortConf) (p : ExlinkParser) (s : WaitState) : Prop where
  room : s.ctrl.rx.ring.contents.length + s.outgoing.length ≤ exlinkMaxFrame
  kept : s.ctrl.rx.dropped = 0
  port : InInvariant conf s.session
  calls : InCall s.ctrl.pc s.session
  stream : ∃ received, received ++ s.outgoing = s.frames.flatMap HostFrame.bytes ∧
    Answers p received s.ctrl s.session.started (startedReply s.session)

theorem waitInvariant_init (conf : InPortConf) (cells : Fin exlinkRxRingSize → Byte)
    (p : ExlinkParser) (buf : Buf) :
    WaitInvariant conf (exlinkParserInit p) (waitInit cells p buf) where
  room := by
    have hempty : (waitInit cells p buf).ctrl.rx.ring.contents = [] :=
      (Ring.empty_iff_contents _).mp rfl
    rw [hempty]
    exact Nat.zero_le _
  kept := rfl
  port := inInvariant_init conf buf
  calls := rfl
  stream := ⟨[], rfl, [], ctrlInvariant_init cells p, List.nil_sublist _⟩

/-! ## What the host received -/

section Inbox

variable {conf : InPortConf} {s : WaitState}

theorem flatten_sentPackets (hmps : 0 < conf.mps) {response : List Byte} (hne : response ≠ []) :
    (sentPackets conf response).flatten = response := by
  rw [sentPackets, transferPackets_of_ne hne, List.flatten_append,
    (flatten_dataPackets hmps response).1]
  split_ifs
  · exact List.append_nil response
  · exact List.append_nil response

theorem flatten_flatMap_sentPackets (hmps : 0 < conf.mps) {started : List (List Byte)}
    (hne : ∀ response ∈ started, response ≠ []) :
    (started.flatMap (sentPackets conf)).flatten = started.flatten := by
  induction started with
  | nil => rfl
  | cons response rest ih =>
      have hrest := ih fun other hother => hne other (List.mem_cons_of_mem _ hother)
      rw [List.flatMap_cons, List.flatten_append, hrest, List.flatten_cons,
        flatten_sentPackets hmps (hne response List.mem_cons_self)]

/-- The packets in the controller are the first of those that are owed. -/
theorem armedPackets_isPrefix (conf : InPortConf) (port : InPort) :
    armedPackets conf port <+: owed conf port := by
  rw [armedPackets, owed]
  cases port.armed with
  | none => exact List.prefix_refl _
  | some len =>
      rw [Option.elim_some, Option.elim_some, owedPackets]
      split_ifs with hzero
      · rw [hzero]
        exact List.prefix_refl _
      · exact List.prefix_append _ _

/-- The host received the beginning of the responses that were started. -/
theorem inbox_isPrefix (hmps : 0 < conf.mps) (inv : InInvariant conf s.session) :
    inbox conf s <+: s.session.started.flatten := by
  have hne : ∀ response ∈ s.session.started, response ≠ [] :=
    fun response hresponse => (inv.bounded response hresponse).1
  have htaken := (List.take_prefix s.taken _).trans (armedPackets_isPrefix conf s.session.port)
  rw [← flatten_flatMap_sentPackets hmps hne, (inv.sound hmps).packets, inbox]
  exact ((List.prefix_append_right_inj _).mpr htaken).flatten

end Inbox

/-! ## An answered host -/

section Answered

variable {p fresh : ExlinkParser} {received : List Byte} {ctrl : CtrlState}
  {started : List (List Byte)} {session : InSession}

theorem InCall.call_eq_none {pc : DispatchPc} (calls : InCall pc session)
    (hnot : ∀ resp, pc ≠ .send resp) : session.call = none := by
  cases pc with
  | send resp => exact absurd rfl (hnot resp)
  | take | check | read | advance _ | feed _ => exact calls

/-- The transfers started are among the replies to what the thread took from the ring. -/
theorem Answers.replies (answers : Answers p received ctrl started (startedReply session))
    (calls : InCall ctrl.pc session) :
    ∃ fed held, ∃ replies : List FrameReport, received = fed ++ held ++ ctrl.rx.ring.contents ∧
      replies.Sublist (owedReplies p fed) ∧ started = replies.map replyBytes := by
  obtain ⟨sent, ⟨answered, flight, hreceived, hsent, hflight⟩, hstarted⟩ := answers
  have hfed : ∃ fed held, received = fed ++ held ++ ctrl.rx.ring.contents ∧
      sent ++ startedReply session = (owedReplies p fed).map replyBytes := by
    by_cases hdraining : draining session.call = true
    · -- the call in progress is for the byte in hand
      cases hpc : ctrl.pc with
      | send resp =>
          rw [hpc, InCall] at calls
          simp only [InFlight, hpc] at hflight
          obtain ⟨byte, report, rfl, -, hreport, hresp⟩ := hflight
          refine ⟨answered ++ [byte], [], by rw [List.append_nil]; exact hreceived, ?_⟩
          rw [startedReply, if_pos hdraining, calls.2, hresp, owedReplies_append, hreport,
            List.map_append, ← hsent]
          rfl
      | take | check | read | advance _ | feed _ =>
          rw [calls.call_eq_none (by simp [hpc])] at hdraining
          exact absurd hdraining Bool.false_ne_true
    · rw [startedReply, if_neg hdraining, List.append_nil]
      exact ⟨answered, flight, hreceived, hsent⟩
  obtain ⟨fed, held, hsplit, howed⟩ := hfed
  rw [howed] at hstarted
  obtain ⟨replies, hreplies, rfl⟩ := List.sublist_map_iff.mp hstarted
  exact ⟨fed, held, replies, hsplit, hreplies, rfl⟩

/-- A host that has all its responses has nothing left on the way. -/
theorem WaitInvariant.settled {conf : InPortConf} {s : WaitState} (hmps : 0 < conf.mps)
    (inv : WaitInvariant conf (exlinkParserInit p) s)
    (hanswered : s.frames.length ≤ (decoded fresh (inbox conf s)).length) :
    s.ctrl.rx.ring.contents = [] ∧ s.outgoing = [] := by
  obtain ⟨received, hstream, hanswers⟩ := inv.stream
  obtain ⟨fed, held, replies, hreceived, hreplies, hstarted⟩ := hanswers.replies inv.calls
  have hfits : ∀ reply ∈ replies,
      reply.result = .ok ∧ reply.payload.length ≤ exlinkMaxPayload := fun reply hreply =>
    owedReplies_wellFormed p fed reply (hreplies.subset hreply)
  have hinbox := @length_decoded_le fresh _ _ (inbox_isPrefix hmps inv.port)
  rw [hstarted, ← List.flatMap_def, decoded, decoded,
    reduceOption_parserReports_replies fresh hfits, ← decoded] at hinbox
  have hcount : replies.length ≤ (decoded p fed).length := by
    have hlength := hreplies.length_le
    rwa [owedReplies, List.length_map] at hlength
  rw [hreceived, List.append_assoc, List.append_assoc] at hstream
  by_contra hleft
  have hrest : held ++ (s.ctrl.rx.ring.contents ++ s.outgoing) ≠ [] := by
    simp only [ne_eq, List.append_eq_nil_iff, not_and]
    exact fun _ hcontents houtgoing => hleft ⟨hcontents, houtgoing⟩
  have hlt := @length_reduceOption_lt p _ _ _ hstream hrest
  omega

end Answered

/-! ## Steps -/

section Steps

variable {conf : InPortConf} {p fresh : ExlinkParser} {s next : WaitState}

theorem waitInvariant_frame (hmps : 0 < conf.mps) {frame : HostFrame}
    (inv : WaitInvariant conf (exlinkParserInit p) s)
    (hstep : waitStep conf fresh s (.frame frame) = some next) :
    WaitInvariant conf (exlinkParserInit p) next := by
  simp only [waitStep] at hstep
  split_ifs at hstep with hanswered
  obtain ⟨hcontents, houtgoing⟩ := inv.settled hmps hanswered
  obtain ⟨-, hkept, hport, hcalls, received, hstream, hanswers⟩ := inv
  obtain rfl := Option.some.inj hstep
  refine ⟨?_, hkept, hport, hcalls, received, ?_, hanswers⟩
  · simpa [hcontents, houtgoing] using frame.length_bytes_le
  · rw [← List.append_assoc, hstream, List.flatMap_append, List.flatMap_singleton]

theorem exlinkMaxFrame_lt : exlinkMaxFrame < exlinkRxRingSize := by decide

theorem waitInvariant_out {packet : OutPacket} (inv : WaitInvariant conf (exlinkParserInit p) s)
    (hstep : waitStep conf fresh s (.out packet) = some next) :
    WaitInvariant conf (exlinkParserInit p) next ∧
      next.ctrl.rx.dropped = s.ctrl.rx.dropped ∧
        next.ctrl.rx.ring.contents = s.ctrl.rx.ring.contents ++ packet.bytes := by
  obtain ⟨hroom, hkept, hport, hcalls, received, hstream, answers, hctrl, hstarted⟩ := inv
  simp only [waitStep] at hstep
  split_ifs at hstep with hstarts
  obtain ⟨rest, hrest⟩ := List.isPrefixOf_iff_prefix.mp hstarts
  obtain rfl := Option.some.inj hstep
  rw [← hrest, List.length_append] at hroom
  have hdropped : (rxRingPut packet.bytes s.ctrl.rx).dropped = s.ctrl.rx.dropped :=
    dropped_rxRingPut (by have := exlinkMaxFrame_lt; omega)
  have hcontents := contents_rxRingPut hdropped
  refine ⟨⟨?_, ?_, hport, hcalls, received ++ packet.bytes, ?_, answers, ?_, hstarted⟩, hdropped,
    hcontents⟩
  · simp only [exlinkCtrlOutCb, hcontents, List.length_append, ← hrest, List.drop_left]
    omega
  · exact hdropped.trans hkept
  · rw [← hrest, List.drop_left, List.append_assoc, hrest, hstream]
  · exact ctrlInvariant_out hctrl hdropped

/-- The frames that went out do not matter to the thread. -/
theorem threadStep_sent (ctrl : CtrlState) (sent : List (List Byte)) :
    threadStep { ctrl with sent := sent } =
      (threadStep ctrl).map fun after => { after with sent := sent } := by
  cases hpc : ctrl.pc with
  | take | check | read | advance _ | feed _ | send _ =>
      simp only [threadStep, hpc, Option.map_some, Option.map_none]

/-- What the thread holds of the ring is there. -/
theorem CtrlInvariant.knows {ctrl : CtrlState} {received : List Byte}
    (inv : CtrlInvariant p received ctrl) : ctrl.pc.Knows ctrl.rx.ring.contents := by
  obtain ⟨answered, flight, -, -, hflight⟩ := inv
  cases hpc : ctrl.pc with
  | read =>
      simp only [InFlight, hpc] at hflight
      exact hflight.2.2
  | advance byte =>
      simp only [InFlight, hpc] at hflight
      obtain ⟨-, -, rest, hhead⟩ := hflight
      rw [DispatchPc.Knows, hhead]
      rfl
  | take | check | feed _ | send _ => trivial

/-- One access outside `usb_if_ctrl_send`. -/
theorem answers_thread {received : List Byte} {ctrl after : CtrlState}
    {started pending : List (List Byte)} (hinit : p.state = .magic0)
    (hanswers : Answers p received ctrl started pending) (hstep : threadStep ctrl = some after) :
    Answers p received after started pending ∧
      after.rx.ring.contents.length ≤ ctrl.rx.ring.contents.length ∧
        after.rx.dropped = ctrl.rx.dropped := by
  obtain ⟨answers, hctrl, hstarted⟩ := hanswers
  have hghost : threadStep { ctrl with sent := answers } = some { after with sent := answers } := by
    rw [threadStep_sent, hstep, Option.map_some]
  refine ⟨⟨answers, ctrlInvariant_thread hinit hctrl hghost, hstarted⟩,
    length_contents_threadStep hctrl.knows hstep, ?_⟩
  cases hpc : ctrl.pc with
  | send resp => simp only [threadStep, hpc, reduceCtorEq] at hstep
  | take | check | read | advance _ | feed _ =>
      simp only [threadStep, hpc, Option.some.injEq] at hstep
      rw [← hstep]

/-- The response of a call that started its transfer, or returned. -/
def settledReply (session : InSession) : List (List Byte) :=
  if draining session.call ∨ session.call = none then [session.response] else []

/-- After an access of the thread or a new call: the thread is in the call, or goes on. -/
theorem waitInvariant_goOn {resp : List Byte} (hpc : s.ctrl.pc = .send resp)
    (hroom : s.ctrl.rx.ring.contents.length + s.outgoing.length ≤ exlinkMaxFrame)
    (hkept : s.ctrl.rx.dropped = 0) (hport : InInvariant conf s.session)
    (hresponse : s.session.response = resp) {received : List Byte}
    (hstream : received ++ s.outgoing = s.frames.flatMap HostFrame.bytes)
    (hanswers : Answers p received s.ctrl s.session.started (settledReply s.session))
    (hstep : goOn s = some next) : WaitInvariant conf p next := by
  cases hcall : s.session.call with
  | some pc =>
      simp only [goOn, hcall, Option.some.injEq] at hstep
      subst hstep
      have hsame : settledReply s.session = startedReply s.session := by
        simp [settledReply, startedReply, hcall]
      rw [hsame] at hanswers
      refine ⟨hroom, hkept, hport, ?_, received, hstream, hanswers⟩
      rw [hpc, InCall, hcall]
      exact ⟨rfl, hresponse⟩
  | none =>
      obtain ⟨answers, hctrl, hstarted⟩ := hanswers
      simp only [goOn, hcall, sendReturn, hpc, Option.map_some, Option.some.injEq] at hstep
      subst hstep
      have hreturn : sendReturn 0 { s.ctrl with sent := answers } =
          some { s.ctrl with pc := .check, sent := answers ++ [resp] } := by
        simp only [sendReturn, hpc, if_true]
      refine ⟨hroom, hkept, hport, hcall, received, hstream, answers ++ [resp],
        ctrlInvariant_sent hctrl hreturn, ?_⟩
      rw [settledReply, if_pos (.inr hcall), hresponse] at hstarted
      exact hstarted.trans (List.sublist_append_left _ _)

/-- One access of a call: starting the transfer adds the response of the call. -/
theorem started_thread {session after : InSession} {answers : List (List Byte)}
    (hstarted : session.started.Sublist (answers ++ startedReply session))
    (hstep : inStep conf session .thread = some after) :
    after.response = session.response ∧
      after.started.Sublist (answers ++ settledReply after) := by
  cases hcall : session.call with
  | none => simp only [inStep, hcall, Option.map_none, reduceCtorEq] at hstep
  | some pc =>
      simp only [inStep, hcall, Option.map_some, Option.some.injEq] at hstep
      rw [startedReply, hcall] at hstarted
      cases pc with
      | start len =>
          subst hstep
          refine ⟨rfl, ?_⟩
          simp only [draining, Bool.false_eq_true, if_false, List.append_nil] at hstarted
          exact hstarted.append (List.Sublist.refl _)
      | drain waited =>
          simp only [draining, if_true] at hstarted
          subst hstep
          refine ⟨rfl, ?_⟩
          rw [settledReply, if_pos ?_]
          · exact hstarted
          · simp only [sendStep]
            split_ifs
            · exact .inr rfl
            · exact .inl rfl
            · exact .inr rfl
      | wait _ _ | copy _ | mark _ =>
          subst hstep
          simp only [draining, Bool.false_eq_true, if_false, List.append_nil] at hstarted
          exact ⟨rfl, hstarted.trans (List.sublist_append_left _ _)⟩

/-- The entry of a call. -/
theorem waitInvariant_enter {resp : List Byte} {session : InSession}
    (hpc : s.ctrl.pc = .send resp)
    (hroom : s.ctrl.rx.ring.contents.length + s.outgoing.length ≤ exlinkMaxFrame)
    (hkept : s.ctrl.rx.dropped = 0) (hport : InInvariant conf s.session)
    (hcall : s.session.call = none) {received : List Byte}
    (hstream : received ++ s.outgoing = s.frames.flatMap HostFrame.bytes)
    (hanswers : Answers p received s.ctrl s.session.started (startedReply s.session))
    (henter : inStep conf s.session (.send resp) = some session)
    (hstep : goOn { s with session := session } = some next) : WaitInvariant conf p next := by
  have hafter := inInvariant_send hport henter
  simp only [inStep, hcall, Option.some.injEq] at henter
  have hresponse : session.response = resp ∧ session.started = s.session.started := by
    rw [← henter]
    exact ⟨rfl, rfl⟩
  obtain ⟨answers, hctrl, hstarted⟩ := hanswers
  simp only [startedReply, hcall, draining, Bool.false_eq_true, if_false,
    List.append_nil] at hstarted
  refine @waitInvariant_goOn conf p { s with session := session } next resp hpc hroom hkept hafter
    hresponse.1 received hstream ⟨answers, hctrl, ?_⟩ hstep
  rw [hresponse.2]
  exact hstarted.trans (List.sublist_append_left _ _)

/-- One access of the thread. -/
theorem waitInvariant_thread (hinit : p.state = .magic0) (inv : WaitInvariant conf p s)
    (hstep : waitThread conf s = some next) : WaitInvariant conf p next := by
  obtain ⟨hroom, hkept, hport, hcalls, received, hstream, hanswers⟩ := inv
  by_cases hsend : ∃ resp, s.ctrl.pc = .send resp
  · obtain ⟨resp, hpc⟩ := hsend
    simp only [waitThread, hpc] at hstep
    obtain ⟨session, haccess, hgoOn⟩ := Option.bind_eq_some_iff.mp hstep
    rw [hpc, InCall] at hcalls
    obtain ⟨answers, hctrl, hstarted⟩ := hanswers
    obtain ⟨hresponse, hafter⟩ := started_thread hstarted haccess
    exact @waitInvariant_goOn conf p { s with session := session } next resp hpc hroom hkept
      (inInvariant_thread hport haccess) (hresponse.trans hcalls.2) received hstream
      ⟨answers, hctrl, hafter⟩ hgoOn
  · have hnot : ∀ resp, s.ctrl.pc ≠ .send resp := fun resp hpc => hsend ⟨resp, hpc⟩
    have hcall := hcalls.call_eq_none hnot
    have houtside : waitThread conf s =
        (threadStep s.ctrl).bind fun ctrl =>
          match ctrl.pc with
          | .send resp =>
              (inStep conf s.session (.send resp)).bind fun session =>
                goOn { s with ctrl := ctrl, session := session }
          | _ => some { s with ctrl := ctrl } := by
      cases hpc : s.ctrl.pc with
      | send resp => exact absurd hpc (hnot resp)
      | take | check | read | advance _ | feed _ => simp only [waitThread, hpc]
    rw [houtside] at hstep
    obtain ⟨ctrl, haccess, hnext⟩ := Option.bind_eq_some_iff.mp hstep
    obtain ⟨hlater, hless, hdropped⟩ := answers_thread hinit hanswers haccess
    have hroomLater : ctrl.rx.ring.contents.length + s.outgoing.length ≤ exlinkMaxFrame := by omega
    cases hpc : ctrl.pc with
    | send resp =>
        simp only [hpc] at hnext
        obtain ⟨session, henter, hgoOn⟩ := Option.bind_eq_some_iff.mp hnext
        exact @waitInvariant_enter _ _ { s with ctrl := ctrl } _ resp session hpc hroomLater
          (hdropped.trans hkept) hport hcall received hstream hlater henter hgoOn
    | take | check | read | advance _ | feed _ =>
        simp only [hpc, Option.some.injEq] at hnext
        subst hnext
        refine ⟨hroomLater, hdropped.trans hkept, hport, ?_, received, hstream, hlater⟩
        rw [hpc]
        exact hcall

theorem waitInvariant_step (hmps : 0 < conf.mps) (s : WaitState) (action : WaitAction)
    (next : WaitState) (inv : WaitInvariant conf (exlinkParserInit p) s)
    (hstep : waitStep conf fresh s action = some next) :
    WaitInvariant conf (exlinkParserInit p) next := by
  cases action with
  | frame frame => exact waitInvariant_frame hmps inv hstep
  | out packet => exact (waitInvariant_out inv hstep).1
  | thread => exact waitInvariant_thread rfl inv hstep
  | take =>
      simp only [waitStep] at hstep
      split_ifs at hstep
      obtain rfl := Option.some.inj hstep
      exact ⟨inv.room, inv.kept, inv.port, inv.calls, inv.stream⟩
  | complete =>
      obtain ⟨hroom, hkept, hport, hcalls, hstream⟩ := inv
      simp only [waitStep] at hstep
      split_ifs at hstep
      obtain ⟨session, hcomplete, rfl⟩ := Option.map_eq_some_iff.mp hstep
      have hafter := inInvariant_complete hport hcomplete
      obtain ⟨port, -, rfl⟩ := Option.map_eq_some_iff.mp hcomplete
      exact ⟨hroom, hkept, hafter, hcalls, hstream⟩

end Steps

/-- Under every packetisation and every order of callbacks, accesses and packets, a host that
waits for its responses never meets a full ring. -/
theorem stopAndWait_kept (speed : UsbSpeed) (cells : Fin exlinkRxRingSize → Byte)
    (p fresh : ExlinkParser) (buf : Buf) (actions : List WaitAction) (s : WaitState)
    (hrun : runActions (waitStep (ctrlInPort speed) fresh) (waitInit cells p buf) actions =
      some s) :
    s.ctrl.rx.dropped = 0 ∧
      ∀ packet next, waitStep (ctrlInPort speed) fresh s (.out packet) = some next →
        next.ctrl.rx.dropped = s.ctrl.rx.dropped ∧
          next.ctrl.rx.ring.contents = s.ctrl.rx.ring.contents ++ packet.bytes := by
  have inv := runActions_invariant (waitInvariant_step speed.mps_pos)
    (waitInvariant_init (ctrlInPort speed) cells p buf) hrun
  exact ⟨inv.kept, fun _ _ hstep => (waitInvariant_out inv hstep).2⟩

/-- A PING frame. -/
def pingFrame : HostFrame := ⟨exlinkOpPing, [], by decide⟩

/-- Two PING frames. The second one arrives after the last byte of the first response, and
before the completion callback and the return of the call. -/
def twoPings : List WaitAction :=
  [.frame pingFrame, .out pingPacket] ++ List.replicate 33 .thread ++
    [.take, .frame pingFrame, .out pingPacket, .complete, .thread]

theorem stopAndWait_kept_twoPings :
    ∃ s, runActions (waitStep (ctrlInPort .full) unusedParser)
        (waitInit (fun _ => 0#8) unusedParser fun _ => 0#8) twoPings = some s ∧
      s.frames.length = 2 ∧ s.ctrl.rx.dropped = 0 := by
  have hframes : (runActions (waitStep (ctrlInPort .full) unusedParser)
      (waitInit (fun _ => 0#8) unusedParser fun _ => 0#8) twoPings).map
        (fun s => s.frames.length) = some 2 := by decide +kernel
  obtain ⟨s, hrun, htwo⟩ := Option.map_eq_some_iff.mp hframes
  exact ⟨s, hrun, htwo, (stopAndWait_kept .full _ _ _ _ twoPings s hrun).1⟩

end ExLink.Control
