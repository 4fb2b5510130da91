/-
# The control channel: OUT callback and dispatch thread

The callback runs in interrupt context and is atomic; the thread can be
preempted between any two accesses to the shared ring, and while it waits in
`usb_if_ctrl_send`. One action is one callback or one thread access, so a list
of actions is an interleaving.
-/

import ExLink.Automata.Transition
import ExLink.Control.Dispatch
import ExLink.Control.RxRing
import ExLink.Usb.Endpoint

namespace ExLink.Control

open ExLink.Automata ExLink.Frame ExLink.Usb

/-! ## The system -/

/-- Where the dispatch thread stands. The middle three are the accesses of
`usb_if_ctrl_rx_getchar`. -/
inductive DispatchPc where
  | take
  | check
  | read
  | advance (byte : Byte)
  | feed (byte : Byte)
  | send (resp : List Byte)

/-- The shared ring, the thread, and the frames that went out so far. -/
structure CtrlState where
  rx : RxRing
  pc : DispatchPc
  parser : ExlinkParser
  sent : List (List Byte)

/-- One callback, one thread access, or the return of `usb_if_ctrl_send`. -/
inductive CtrlAction where
  | out (packet : OutPacket)
  | thread
  | sent (ret : ℤ)

/-- `exlink_ctrl_out_cb`: an empty packet leaves the ring alone. -/
def exlinkCtrlOutCb (packet : OutPacket) (s : CtrlState) : CtrlState :=
  { s with rx := rxRingPut packet.bytes s.rx }

/-- One access of `exlink_frame_thread_entry`. -/
def threadStep (s : CtrlState) : Option CtrlState :=
  match s.pc with
  -- the take has a timeout and its result is ignored, so it never blocks for good
  | .take => some { s with pc := .check }
  | .check => some { s with pc := if s.rx.ring.Empty then .take else .read }
  | .read => some { s with pc := .advance s.rx.ring.front }
  | .advance byte =>
      some { s with rx := { s.rx with ring := s.rx.ring.pop }, pc := .feed byte }
  | .feed byte =>
      let step := exlinkParserFeed s.parser byte
      let resp := threadResponse step
      some { s with parser := step.2, pc := if resp.length = 0 then .check else .send resp }
  | .send _ => none

/-- The return of `usb_if_ctrl_send`. Only 0 means that the frame went out. -/
def sendReturn (ret : ℤ) (s : CtrlState) : Option CtrlState :=
  match s.pc with
  | .send resp =>
      some { s with pc := .check, sent := if ret = 0 then s.sent ++ [resp] else s.sent }
  | _ => none

/-- One action of the control channel. -/
def ctrlStep (s : CtrlState) : CtrlAction → Option CtrlState
  | .out packet => some (exlinkCtrlOutCb packet s)
  | .thread => threadStep s
  | .sent ret => sendReturn ret s

/-- `usb_if_ctrl_add` and the entry of the dispatch thread. The ring memory and
the parser memory are whatever they were. -/
def ctrlInit (cells : Fin exlinkRxRingSize → Byte) (p : ExlinkParser) : CtrlState where
  rx := ⟨⟨cells, ⟨0, by decide⟩, ⟨0, by decide⟩⟩, 0#32⟩
  pc := .take
  parser := exlinkParserInit p
  sent := []

/-- The bytes an action receives on the OUT endpoint. -/
def CtrlAction.received : CtrlAction → List Byte
  | .out packet => packet.bytes
  | .thread | .sent _ => []

/-- The steps of a channel in which the ring never fills and no send fails. -/
def Undisturbed (s : CtrlState) : CtrlAction → Prop
  | .out packet => (rxRingPut packet.bytes s.rx).dropped = s.rx.dropped
  | .thread => True
  | .sent ret => ret = 0

instance (s : CtrlState) (action : CtrlAction) : Decidable (Undisturbed s action) :=
  match action with
  | .out _ => inferInstanceAs (Decidable (_ = _))
  | .thread => inferInstanceAs (Decidable True)
  | .sent _ => inferInstanceAs (Decidable (_ = _))

/-- Runs of an undisturbed channel. -/
abbrev ctrlRun : CtrlState → List CtrlAction → Option CtrlState :=
  runActions (restrict ctrlStep Undisturbed)

/-- Nothing left to answer: the ring is empty and the thread holds no byte. -/
def Drained (s : CtrlState) : Prop :=
  s.rx.ring.Empty ∧ (s.pc = .take ∨ s.pc = .check)

instance (s : CtrlState) : Decidable (Drained s) :=
  have : Decidable (s.pc = .take ∨ s.pc = .check) :=
    match h : s.pc with
    | .take => isTrue (Or.inl rfl)
    | .check => isTrue (Or.inr rfl)
    | .read | .advance _ | .feed _ | .send _ => isFalse (by simp)
  inferInstanceAs (Decidable (_ ∧ _))

/-! ## The invariant -/

/-- The replies that a stream is owed, in order. -/
def owedReplies (p : ExlinkParser) (stream : List Byte) : List FrameReport :=
  (parserReports p stream).reduceOption.map expectedReply

/-- The bytes the thread took out of the ring and did not account for yet, and
what it knows about the ring, at each of its accesses. -/
def InFlight (s : CtrlState) (answered flight : List Byte) (p : ExlinkParser) : Prop :=
  match s.pc with
  | .take | .check => flight = [] ∧ s.parser = parserRun p answered
  | .read => flight = [] ∧ s.parser = parserRun p answered ∧ s.rx.ring.contents ≠ []
  | .advance byte =>
      flight = [] ∧ s.parser = parserRun p answered ∧ ∃ rest, s.rx.ring.contents = byte :: rest
  | .feed byte => flight = [byte] ∧ s.parser = parserRun p answered
  | .send resp =>
      ∃ byte report, flight = [byte] ∧ s.parser = parserRun p (answered ++ [byte]) ∧
        reportOf (exlinkParserFeed (parserRun p answered) byte) = some report ∧
        resp = replyBytes (expectedReply report)

/-- Everything received is answered, in flight or in the ring, and the frames
sent are the replies owed to the answered part. -/
def CtrlInvariant (p : ExlinkParser) (received : List Byte) (s : CtrlState) : Prop :=
  ∃ answered flight, received = answered ++ flight ++ s.rx.ring.contents ∧
    s.sent = (owedReplies p answered).map replyBytes ∧ InFlight s answered flight p

theorem owedReplies_append (p : ExlinkParser) (stream : List Byte) (byte : Byte) :
    owedReplies p (stream ++ [byte]) =
      owedReplies p stream ++
        (reportOf (exlinkParserFeed (parserRun p stream) byte)).toList.map expectedReply := by
  rw [owedReplies, parserReports_append, List.reduceOption_append, List.map_append, owedReplies]
  cases hreport : reportOf (exlinkParserFeed (parserRun p stream) byte) <;>
    simp [parserReports, List.reduceOption, hreport]

theorem ctrlInvariant_init (cells : Fin exlinkRxRingSize → Byte) (p : ExlinkParser) :
    CtrlInvariant (exlinkParserInit p) [] (ctrlInit cells p) := by
  have hempty : (ctrlInit cells p).rx.ring.contents = [] :=
    (Ring.empty_iff_contents _).mp rfl
  exact ⟨[], [], by rw [hempty]; rfl, rfl, rfl, rfl⟩

section Steps

variable {p : ExlinkParser} {received : List Byte} {s next : CtrlState}

/-- A packet joins the unread end of the stream. -/
theorem ctrlInvariant_out {packet : OutPacket} (inv : CtrlInvariant p received s)
    (kept : (rxRingPut packet.bytes s.rx).dropped = s.rx.dropped) :
    CtrlInvariant p (received ++ packet.bytes) (exlinkCtrlOutCb packet s) := by
  obtain ⟨answered, flight, hreceived, hsent, hflight⟩ := inv
  have hcontents := contents_rxRingPut kept
  refine ⟨answered, flight, ?_, hsent, ?_⟩
  · simp only [exlinkCtrlOutCb, hcontents, hreceived, List.append_assoc]
  · cases hpc : s.pc with
    | take => simpa only [InFlight, exlinkCtrlOutCb, hpc] using hflight
    | check => simpa only [InFlight, exlinkCtrlOutCb, hpc] using hflight
    | feed byte => simpa only [InFlight, exlinkCtrlOutCb, hpc] using hflight
    | send resp => simpa only [InFlight, exlinkCtrlOutCb, hpc] using hflight
    | read =>
        simp only [InFlight, hpc] at hflight
        obtain ⟨hnone, hparser, hsome⟩ := hflight
        simp only [InFlight, exlinkCtrlOutCb, hpc, hcontents]
        exact ⟨hnone, hparser, List.append_ne_nil_of_left_ne_nil hsome _⟩
    | advance byte =>
        simp only [InFlight, hpc] at hflight
        obtain ⟨hnone, hparser, rest, hhead⟩ := hflight
        simp only [InFlight, exlinkCtrlOutCb, hpc, hcontents, hhead]
        exact ⟨hnone, hparser, rest ++ packet.bytes, rfl⟩

/-- A byte fed to the parser is answered at once, or leaves its reply pending. -/
theorem ctrlInvariant_feed {byte : Byte} {answered : List Byte}
    (hinit : p.state = .magic0) (hpc : s.pc = .feed byte)
    (hreceived : received = answered ++ [byte] ++ s.rx.ring.contents)
    (hsent : s.sent = (owedReplies p answered).map replyBytes)
    (hparser : s.parser = parserRun p answered) (hstep : threadStep s = some next) :
    CtrlInvariant p received next := by
  have hfits : (exlinkParserFeed s.parser byte).1 = .ok →
      (exlinkParserFeed s.parser byte).2.len.toNat ≤ exlinkMaxPayload := by
    intro hok
    rw [hparser] at hok ⊢
    exact (accepted_suffix hinit (Prod.ext hok rfl)).1
  have hresp := threadResponse_eq hfits
  have hrun : (exlinkParserFeed s.parser byte).2 = parserRun p (answered ++ [byte]) := by
    rw [parserRun_append, hparser]
    rfl
  simp only [threadStep, hpc, Option.some.injEq] at hstep
  cases hreport : reportOf (exlinkParserFeed s.parser byte) with
  | none =>
      have hsilent : (threadResponse (exlinkParserFeed s.parser byte)).length = 0 := by
        rw [hresp, hreport]
        rfl
      rw [if_pos hsilent] at hstep
      subst hstep
      refine ⟨answered ++ [byte], [], by simpa using hreceived, ?_, rfl, hrun⟩
      rw [owedReplies_append, ← hparser, hreport]
      simpa using hsent
  | some report =>
      rw [hreport] at hresp
      have hsome : ¬ (threadResponse (exlinkParserFeed s.parser byte)).length = 0 := by
        rw [hresp, List.length_eq_zero_iff]
        exact replyBytes_ne_nil _
      rw [if_neg hsome] at hstep
      subst hstep
      rw [hparser] at hreport
      exact ⟨answered, [byte], hreceived, hsent, byte, report, rfl, hrun, hreport, hresp⟩

/-- One access of the dispatch thread. -/
theorem ctrlInvariant_thread (hinit : p.state = .magic0) (inv : CtrlInvariant p received s)
    (hstep : threadStep s = some next) : CtrlInvariant p received next := by
  obtain ⟨answered, flight, hreceived, hsent, hflight⟩ := inv
  cases hpc : s.pc with
  | take =>
      simp only [InFlight, hpc] at hflight
      simp only [threadStep, hpc, Option.some.injEq] at hstep
      subst hstep
      exact ⟨answered, flight, hreceived, hsent, hflight⟩
  | check =>
      simp only [InFlight, hpc] at hflight
      obtain ⟨hnone, hparser⟩ := hflight
      simp only [threadStep, hpc, Option.some.injEq] at hstep
      subst hstep
      refine ⟨answered, flight, hreceived, hsent, ?_⟩
      by_cases hempty : s.rx.ring.Empty
      · simpa only [InFlight, if_pos hempty] using ⟨hnone, hparser⟩
      · have hsome := mt (Ring.empty_iff_contents s.rx.ring).mpr hempty
        simpa only [InFlight, if_neg hempty] using ⟨hnone, hparser, hsome⟩
  | read =>
      simp only [InFlight, hpc] at hflight
      obtain ⟨hnone, hparser, hsome⟩ := hflight
      simp only [threadStep, hpc, Option.some.injEq] at hstep
      subst hstep
      have hcontents := Ring.contents_pop (mt (Ring.empty_iff_contents s.rx.ring).mp hsome)
      exact ⟨answered, flight, hreceived, hsent, hnone, hparser, _, hcontents⟩
  | advance byte =>
      simp only [InFlight, hpc] at hflight
      obtain ⟨rfl, hparser, rest, hhead⟩ := hflight
      simp only [threadStep, hpc, Option.some.injEq] at hstep
      subst hstep
      have hsome : ¬ s.rx.ring.Empty := by
        rw [Ring.empty_iff_contents, hhead]
        exact List.cons_ne_nil _ _
      have hcontents := Ring.contents_pop hsome
      rw [hhead] at hcontents
      obtain ⟨-, hrest⟩ := List.cons.inj hcontents
      refine ⟨answered, [byte], ?_, hsent, rfl, hparser⟩
      simpa [hhead, ← hrest] using hreceived
  | feed byte =>
      simp only [InFlight, hpc] at hflight
      obtain ⟨rfl, hparser⟩ := hflight
      exact ctrlInvariant_feed hinit hpc hreceived hsent hparser hstep
  | send resp => simp only [threadStep, hpc, reduceCtorEq] at hstep

/-- The return of a successful send settles the pending reply. -/
theorem ctrlInvariant_sent (inv : CtrlInvariant p received s) (hstep : sendReturn 0 s = some next) :
    CtrlInvariant p received next := by
  obtain ⟨answered, flight, hreceived, hsent, hflight⟩ := inv
  cases hpc : s.pc with
  | send resp =>
      simp only [InFlight, hpc] at hflight
      obtain ⟨byte, report, rfl, hparser, hreport, rfl⟩ := hflight
      simp only [sendReturn, hpc, if_true, Option.some.injEq] at hstep
      subst hstep
      refine ⟨answered ++ [byte], [], by simpa using hreceived, ?_, rfl, hparser⟩
      simp only [owedReplies_append, hreport, hsent, Option.toList_some, List.map_append,
        List.map_singleton]
  | take => simp only [sendReturn, hpc, reduceCtorEq] at hstep
  | check => simp only [sendReturn, hpc, reduceCtorEq] at hstep
  | read => simp only [sendReturn, hpc, reduceCtorEq] at hstep
  | advance byte => simp only [sendReturn, hpc, reduceCtorEq] at hstep
  | feed byte => simp only [sendReturn, hpc, reduceCtorEq] at hstep

/-- One undisturbed step, whoever takes it. -/
theorem ctrlInvariant_step (hinit : p.state = .magic0) {action : CtrlAction}
    (inv : CtrlInvariant p received s)
    (hstep : restrict ctrlStep Undisturbed s action = some next) :
    CtrlInvariant p (received ++ action.received) next := by
  obtain ⟨hadmits, htaken⟩ := restrict_eq_some.mp hstep
  cases action with
  | out packet =>
      obtain rfl := Option.some.inj htaken
      exact ctrlInvariant_out inv hadmits
  | thread =>
      rw [CtrlAction.received, List.append_nil]
      exact ctrlInvariant_thread hinit inv htaken
  | sent ret =>
      obtain rfl : ret = 0 := hadmits
      rw [CtrlAction.received, List.append_nil]
      exact ctrlInvariant_sent inv htaken

end Steps

/-- Every undisturbed run. -/
theorem ctrlInvariant_run {cells : Fin exlinkRxRingSize → Byte} {p : ExlinkParser}
    {actions : List CtrlAction} {s : CtrlState}
    (hrun : ctrlRun (ctrlInit cells p) actions = some s) :
    CtrlInvariant (exlinkParserInit p) (actions.flatMap CtrlAction.received) s :=
  runActions_history (fun history s => CtrlInvariant (exlinkParserInit p)
      (history.flatMap CtrlAction.received) s)
    (ctrlInvariant_init cells p)
    (fun history _ action _ inv hstep => by
      simpa using ctrlInvariant_step rfl inv hstep)
    hrun

/-! ## The thread drains the ring -/

/-- The thread alone, with its sends succeeding, can reach a drained state. -/
def Drains (s : CtrlState) : Prop :=
  ∃ rest final, (∀ action ∈ rest, action = .thread ∨ action = .sent 0) ∧
    ctrlRun s rest = some final ∧ Drained final

section Drains

variable {s next : CtrlState}

theorem Drains.of_thread (hstep : threadStep s = some next) (drains : Drains next) :
    Drains s := by
  obtain ⟨rest, final, hown, hrun, hdrained⟩ := drains
  refine ⟨.thread :: rest, final, ?_, ?_, hdrained⟩
  · rintro action (_ | ⟨_, hmem⟩)
    · exact Or.inl rfl
    · exact hown action hmem
  · exact runActions_cons_eq_some.mpr ⟨next, restrict_eq_some.mpr ⟨trivial, hstep⟩, hrun⟩

theorem Drains.of_sent (hstep : sendReturn 0 s = some next) (drains : Drains next) :
    Drains s := by
  obtain ⟨rest, final, hown, hrun, hdrained⟩ := drains
  refine ⟨.sent 0 :: rest, final, ?_, ?_, hdrained⟩
  · rintro action (_ | ⟨_, hmem⟩)
    · exact Or.inr rfl
    · exact hown action hmem
  · exact runActions_cons_eq_some.mpr ⟨next, restrict_eq_some.mpr ⟨rfl, hstep⟩, hrun⟩

/-- A pending send returns to the loop with the ring as it is. -/
theorem Drains.of_send {resp : List Byte} (hpc : s.pc = .send resp)
    (after : ∀ t : CtrlState, t.pc = .check → t.rx = s.rx → Drains t) : Drains s := by
  have hstep : sendReturn 0 s = some { s with pc := .check, sent := s.sent ++ [resp] } := by
    simp only [sendReturn, hpc, if_true]
  exact Drains.of_sent hstep (after _ rfl rfl)

/-- A byte in hand is parsed, answered if need be, and leaves the ring as it is. -/
theorem Drains.of_feed {byte : Byte} (hpc : s.pc = .feed byte)
    (after : ∀ t : CtrlState, t.pc = .check → t.rx = s.rx → Drains t) : Drains s := by
  refine Drains.of_thread (by rw [threadStep, hpc]) ?_
  by_cases hsilent : (threadResponse (exlinkParserFeed s.parser byte)).length = 0
  · exact after _ (if_pos hsilent) rfl
  · exact Drains.of_send (if_neg hsilent) after

/-- From the loop condition, by the number of bytes left in the ring. -/
theorem drains_of_check {count : ℕ} :
    ∀ {s : CtrlState}, s.pc = .check → s.rx.ring.size = count → Drains s := by
  induction count with
  | zero =>
      intro s hpc hsize
      refine ⟨[], s, by simp, rfl, ?_, Or.inr hpc⟩
      exact (Ring.empty_iff_size s.rx.ring).mpr hsize
  | succ count ih =>
      intro s hpc hsize
      have hsome : ¬ s.rx.ring.Empty := by
        rw [Ring.empty_iff_size]
        omega
      have hpop : s.rx.ring.pop.size = count := by
        have := Ring.size_pop hsome
        omega
      refine Drains.of_thread (by rw [threadStep, hpc]) ?_
      rw [if_neg hsome]
      refine Drains.of_thread (by rw [threadStep]) ?_
      refine Drains.of_thread (by rw [threadStep]) ?_
      refine Drains.of_feed rfl fun t hcheck hrx => ih hcheck ?_
      rw [hrx]
      exact hpop

/-- From wherever the thread stands. -/
theorem drains_all (s : CtrlState) : Drains s := by
  cases hpc : s.pc with
  | take => exact Drains.of_thread (by rw [threadStep, hpc]) (drains_of_check rfl rfl)
  | check => exact drains_of_check hpc rfl
  | read =>
      refine Drains.of_thread (by rw [threadStep, hpc]) ?_
      refine Drains.of_thread (by rw [threadStep]) ?_
      exact Drains.of_feed rfl fun t hcheck _ => drains_of_check hcheck rfl
  | advance byte =>
      refine Drains.of_thread (by rw [threadStep, hpc]) ?_
      exact Drains.of_feed rfl fun t hcheck _ => drains_of_check hcheck rfl
  | feed byte => exact Drains.of_feed hpc fun t hcheck _ => drains_of_check hcheck rfl
  | send resp => exact Drains.of_send hpc fun t hcheck _ => drains_of_check hcheck rfl

end Drains

/-! ## Responses -/

/-- The replies owed to any stream fit a frame. -/
theorem owedReplies_wellFormed (p : ExlinkParser) (stream : List Byte) :
    ∀ reply ∈ owedReplies (exlinkParserInit p) stream,
      reply.result = .ok ∧ reply.payload.length ≤ exlinkMaxPayload := by
  intro reply hreply
  obtain ⟨report, hreport, rfl⟩ := List.mem_map.mp hreply
  have hmem := List.reduceOption_mem_iff.mp hreport
  exact ⟨result_expectedReply report, length_expectedReply (parserReports_ok_length hmem)⟩

/-- Whatever the packets and the interleaving, what the thread sent decodes to one
reply for each report of the answered part of the stream, in order. Once the ring
is drained, which the thread can always achieve, that part is the whole stream. -/
theorem ctrlRun_replies (cells : Fin exlinkRxRingSize → Byte) (p fresh : ExlinkParser)
    (actions : List CtrlAction) (s : CtrlState)
    (hrun : ctrlRun (ctrlInit cells p) actions = some s) :
    (∃ answered, answered <+: actions.flatMap CtrlAction.received ∧
      (Drained s → answered = actions.flatMap CtrlAction.received) ∧
      (parserReports (exlinkParserInit fresh) s.sent.flatten).reduceOption =
        (parserReports (exlinkParserInit p) answered).reduceOption.map expectedReply) ∧
    Drains s ∧
    ∀ frame ∈ s.sent, frame ≠ [] ∧ frame.length ≤ exlinkMaxFrame ∧
      ∃ op payload, payload.length ≤ exlinkMaxPayload ∧
        frame = exlinkFrameBuild op (some (Buf.ofList payload))
          (BitVec.ofNat 16 payload.length) (some exlinkMaxFrame) := by
  obtain ⟨answered, flight, hreceived, hsent, hflight⟩ := ctrlInvariant_run hrun
  have hfits := owedReplies_wellFormed p answered
  refine ⟨⟨answered, ?_, ?_, ?_⟩, drains_all s, ?_⟩
  · rw [hreceived, List.append_assoc]
    exact List.prefix_append _ _
  · rintro ⟨hempty, hpc⟩
    have hnone : flight = [] := by
      rcases hpc with hpc | hpc <;>
      · simp only [InFlight, hpc] at hflight
        exact hflight.1
    rw [hreceived, hnone, (Ring.empty_iff_contents _).mp hempty, List.append_nil,
      List.append_nil]
  · rw [hsent, ← List.flatMap_def]
    exact reduceOption_parserReports_replies fresh hfits
  · rw [hsent]
    intro frame hframe
    obtain ⟨reply, hreply, rfl⟩ := List.mem_map.mp hframe
    obtain ⟨-, hpayload⟩ := hfits reply hreply
    have hlen := length_replyBytes reply
    refine ⟨replyBytes_ne_nil reply, ?_, reply.op, reply.payload, hpayload, ?_⟩
    · rw [hlen, exlinkMaxFrame]
      omega
    · exact (exlinkFrameBuild_ofList reply.op exlinkMaxFrame hpayload
        (by rw [exlinkMaxFrame]; omega)).symm

/-- A header that declares 65535 bytes, in two packets: the thread drains the ring
and the host decodes one `ERROR(BAD_LEN)` frame. -/
theorem ctrlRun_replies_badLen :
    ∃ p actions s, ctrlRun (ctrlInit (fun _ => 0#8) p) actions = some s ∧ Drained s ∧
      (parserReports (exlinkParserInit p) s.sent.flatten).reduceOption =
        [⟨.ok, 0xFF#8, [0x03#8]⟩] := by
  set p : ExlinkParser := ⟨.magic0, 0#8, 0#16, 0#16, 0#16, 0#16, fun _ => 0#8⟩
  set actions : List CtrlAction :=
    [.out ⟨[0x4C#8, 0x4B#8], by decide⟩, .thread,
      .out ⟨[0x01#8, 0xFF#8, 0xFF#8], by decide⟩] ++ List.replicate 20 .thread ++ [.sent 0]
  have hfinal : (ctrlRun (ctrlInit (fun _ => 0#8) p) actions).map
      (fun s => decide (Drained s)) = some true := by decide +kernel
  obtain ⟨s, hrun, hdrained⟩ := Option.map_eq_some_iff.mp hfinal
  refine ⟨p, actions, s, hrun, of_decide_eq_true hdrained, ?_⟩
  obtain ⟨⟨answered, -, hwhole, hreplies⟩, -⟩ :=
    ctrlRun_replies (fun _ => 0#8) p p actions s hrun
  rw [hreplies, hwhole (of_decide_eq_true hdrained)]
  decide +kernel

end ExLink.Control
