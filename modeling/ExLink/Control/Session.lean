/-
# Sessions of the control channel

The USB events around the channel. The hooks of `usb_if_ctrl.c` reset the two flags of
the sender, and the ring and the parser go on where the last session left them: a new
session is read from whatever candidate the old one ended in.
-/

import ExLink.Control.Thread
import ExLink.Frame.Recovery

namespace ExLink.Control

open ExLink.Automata ExLink.Frame ExLink.Usb

/-! ## USB events -/

/-- The channel with `s_configured` and `s_tx_busy`. What the sender makes of the two shows
in the results of its calls only. -/
structure CtrlSession where
  channel : CtrlState
  configured : Bool
  txBusy : Bool

/-- A step of the channel, or an event of `exlink_usbd_event_handler`; RESET and
DISCONNECTED have one case. -/
inductive SessionAction where
  | channel (action : CtrlAction)
  | reset
  | configured

/-- `usb_if_ctrl_on_reset`. -/
def usbIfCtrlOnReset (s : CtrlSession) : CtrlSession :=
  { s with configured := false, txBusy := false }

/-- `usb_if_ctrl_on_configured`, without the OUT read that it arms. -/
def usbIfCtrlOnConfigured (s : CtrlSession) : CtrlSession :=
  { s with configured := true, txBusy := false }

/-- One step of the channel or one event. -/
def sessionStep (s : CtrlSession) : SessionAction → Option CtrlSession
  | .channel action => (ctrlStep s.channel action).map fun channel => { s with channel := channel }
  | .reset => some (usbIfCtrlOnReset s)
  | .configured => some (usbIfCtrlOnConfigured s)

/-- `usb_if_ctrl_add` and the entry of the dispatch thread. -/
def sessionInit (cells : Fin exlinkRxRingSize → Byte) (p : ExlinkParser) : CtrlSession :=
  ⟨ctrlInit cells p, false, false⟩

/-- The bytes that an action brings into the ring. -/
def keptBytes (s : CtrlSession) : SessionAction → List Byte
  | .channel (.out packet) =>
      packet.bytes.take (exlinkRxRingSize - 1 - s.channel.rx.ring.contents.length)
  | _ => []

/-- The bytes that an action receives. -/
def SessionAction.received : SessionAction → List Byte
  | .channel action => action.received
  | .reset | .configured => []

/-- What the parser makes of the byte that an action feeds to it. -/
def parserResults (s : CtrlSession) : SessionAction → List (Option FrameReport)
  | .channel .thread =>
      match s.channel.pc with
      | .feed byte => [reportOf (exlinkParserFeed s.channel.parser byte)]
      | _ => []
  | _ => []

/-! ## Every byte that was kept is fed -/

/-- The byte that the thread took out of the ring and did not feed yet. -/
def DispatchPc.held : DispatchPc → List Byte
  | .feed byte => [byte]
  | _ => []

/-- What the thread knows about the ring. -/
def DispatchPc.Knows (contents : List Byte) : DispatchPc → Prop
  | .read => contents ≠ []
  | .advance byte => contents.head? = some byte
  | _ => True

/-- The parser was fed the bytes kept so far, but for the one in hand and those in the
ring. -/
structure Feeds (p : ExlinkParser) (kept : List Byte) (reports : List (Option FrameReport))
    (s : CtrlSession) : Prop where
  fed : ∃ fed, kept = fed ++ s.channel.pc.held ++ s.channel.rx.ring.contents ∧
    s.channel.parser = parserRun p fed ∧ reports = parserReports p fed
  knows : s.channel.pc.Knows s.channel.rx.ring.contents

section Steps

variable {p : ExlinkParser} {kept : List Byte} {reports : List (Option FrameReport)}
  {s : CtrlSession}

theorem feeds_init (cells : Fin exlinkRxRingSize → Byte) (p : ExlinkParser) :
    Feeds (exlinkParserInit p) [] [] (sessionInit cells p) where
  fed := by
    have hempty : (sessionInit cells p).channel.rx.ring.contents = [] :=
      (Ring.empty_iff_contents _).mp rfl
    exact ⟨[], by rw [hempty]; rfl, rfl, rfl⟩
  knows := trivial

theorem feeds_out (feeds : Feeds p kept reports s) (packet : OutPacket) :
    Feeds p (kept ++ keptBytes s (.channel (.out packet))) reports
      { s with channel := exlinkCtrlOutCb packet s.channel } := by
  obtain ⟨⟨fed, hkept, hparser, hreports⟩, hknows⟩ := feeds
  have hcontents := contents_rxRingPut_take packet.bytes s.channel.rx
  refine ⟨⟨fed, ?_, hparser, hreports⟩, ?_⟩
  · simp only [exlinkCtrlOutCb, hcontents, keptBytes, hkept, List.append_assoc]
  · change s.channel.pc.Knows (rxRingPut packet.bytes s.channel.rx).ring.contents
    rw [hcontents]
    cases hpc : s.channel.pc with
    | read =>
        rw [hpc] at hknows
        exact List.append_ne_nil_of_left_ne_nil hknows _
    | advance byte =>
        rw [hpc, DispatchPc.Knows] at hknows
        rw [DispatchPc.Knows, List.head?_append, hknows]
        rfl
    | _ => trivial

theorem feeds_thread (feeds : Feeds p kept reports s) {next : CtrlState}
    (hstep : threadStep s.channel = some next) :
    Feeds p kept (reports ++ parserResults s (.channel .thread)) { s with channel := next } := by
  obtain ⟨⟨fed, hkept, hparser, hreports⟩, hknows⟩ := feeds
  cases hpc : s.channel.pc with
  | take =>
      rw [hpc] at hkept
      simp only [threadStep, hpc, Option.some.injEq] at hstep
      subst hstep
      simp only [parserResults, hpc, List.append_nil]
      exact ⟨⟨fed, hkept, hparser, hreports⟩, trivial⟩
  | check =>
      rw [hpc] at hkept
      simp only [threadStep, hpc, Option.some.injEq] at hstep
      subst hstep
      simp only [parserResults, hpc, List.append_nil]
      by_cases hempty : s.channel.rx.ring.Empty
      · simp only [if_pos hempty]
        exact ⟨⟨fed, hkept, hparser, hreports⟩, trivial⟩
      · simp only [if_neg hempty]
        exact ⟨⟨fed, hkept, hparser, hreports⟩,
          mt (Ring.empty_iff_contents s.channel.rx.ring).mpr hempty⟩
  | read =>
      rw [hpc] at hkept hknows
      simp only [threadStep, hpc, Option.some.injEq] at hstep
      subst hstep
      have hcontents :=
        Ring.contents_pop (mt (Ring.empty_iff_contents s.channel.rx.ring).mp hknows)
      simp only [parserResults, hpc, List.append_nil]
      refine ⟨⟨fed, hkept, hparser, hreports⟩, ?_⟩
      simp only [DispatchPc.Knows, hcontents, List.head?_cons]
  | advance byte =>
      rw [hpc] at hkept hknows
      simp only [threadStep, hpc, Option.some.injEq] at hstep
      subst hstep
      have hcontents : s.channel.rx.ring.contents = byte :: s.channel.rx.ring.pop.contents := by
        have hsome : ¬ s.channel.rx.ring.Empty := by
          intro hempty
          simp [DispatchPc.Knows, (Ring.empty_iff_contents _).mp hempty] at hknows
        have hfront := Ring.contents_pop hsome
        rw [DispatchPc.Knows, hfront, List.head?_cons, Option.some.injEq] at hknows
        rwa [hknows] at hfront
      simp only [parserResults, hpc, List.append_nil]
      refine ⟨⟨fed, ?_, hparser, hreports⟩, trivial⟩
      simp only [hkept, hcontents, DispatchPc.held, List.append_nil, List.append_assoc,
        List.singleton_append]
  | feed byte =>
      rw [hpc] at hkept
      simp only [threadStep, hpc, Option.some.injEq] at hstep
      subst hstep
      simp only [parserResults, hpc]
      have hfed : (exlinkParserFeed s.channel.parser byte).2 = parserRun p (fed ++ [byte]) := by
        rw [parserRun_append, hparser]
        rfl
      have hresults : reports ++ [reportOf (exlinkParserFeed s.channel.parser byte)] =
          parserReports p (fed ++ [byte]) := by
        rw [parserReports_append, hreports, hparser]
        rfl
      by_cases hsilent : (threadResponse (exlinkParserFeed s.channel.parser byte)).length = 0
      · simp only [if_pos hsilent]
        exact ⟨⟨fed ++ [byte], by simpa [DispatchPc.held] using hkept, hfed, hresults⟩, trivial⟩
      · simp only [if_neg hsilent]
        exact ⟨⟨fed ++ [byte], by simpa [DispatchPc.held] using hkept, hfed, hresults⟩, trivial⟩
  | send resp => simp only [threadStep, hpc, reduceCtorEq] at hstep

theorem feeds_sent (feeds : Feeds p kept reports s) {ret : ℤ} {next : CtrlState}
    (hstep : sendReturn ret s.channel = some next) :
    Feeds p kept reports { s with channel := next } := by
  obtain ⟨⟨fed, hkept, hparser, hreports⟩, -⟩ := feeds
  rw [sendReturn] at hstep
  split at hstep
  · rename_i resp hpc
    rw [hpc] at hkept
    obtain rfl := Option.some.inj hstep
    exact ⟨⟨fed, hkept, hparser, hreports⟩, trivial⟩
  · simp at hstep

/-- One step of the channel, or an event of the bus. -/
theorem feeds_step (kept : List Byte) (reports : List (Option FrameReport)) (s : CtrlSession)
    (action : SessionAction) (next : CtrlSession) (feeds : Feeds p kept reports s)
    (hstep : sessionStep s action = some next) :
    Feeds p (kept ++ keptBytes s action) (reports ++ parserResults s action) next := by
  cases action with
  | reset =>
      obtain rfl := Option.some.inj hstep
      simpa only [keptBytes, parserResults, List.append_nil] using ⟨feeds.fed, feeds.knows⟩
  | configured =>
      obtain rfl := Option.some.inj hstep
      simpa only [keptBytes, parserResults, List.append_nil] using ⟨feeds.fed, feeds.knows⟩
  | channel action =>
      rw [sessionStep, Option.map_eq_some_iff] at hstep
      obtain ⟨channel, hchannel, rfl⟩ := hstep
      cases action with
      | out packet =>
          obtain rfl := Option.some.inj hchannel
          simpa only [parserResults, List.append_nil] using feeds_out feeds packet
      | thread =>
          simpa only [keptBytes, List.append_nil] using feeds_thread feeds hchannel
      | sent ret =>
          simpa only [keptBytes, parserResults, List.append_nil] using feeds_sent feeds hchannel

end Steps

/-- Every run, across any events. -/
theorem feeds_run {cells : Fin exlinkRxRingSize → Byte} {p : ExlinkParser}
    {actions : List SessionAction} {s : CtrlSession}
    (hrun : runActions sessionStep (sessionInit cells p) actions = some s) :
    Feeds (exlinkParserInit p) (runLabels sessionStep keptBytes (sessionInit cells p) actions)
      (runLabels sessionStep parserResults (sessionInit cells p) actions) s :=
  runLabels_history (Feeds (exlinkParserInit p)) feeds_step (feeds_init cells p) hrun

/-! ## The first frame of a session -/

/-- The room in the ring. -/
def CtrlSession.room (s : CtrlSession) : ℕ :=
  exlinkRxRingSize - 1 - s.channel.rx.ring.contents.length

/-- An action keeps what it receives, as far as there is room. -/
theorem keptBytes_eq (s : CtrlSession) (action : SessionAction) :
    keptBytes s action = action.received.take s.room := by
  cases action with
  | channel action =>
      cases action with
      | out packet => rfl
      | thread => exact List.take_nil.symm
      | sent ret => exact List.take_nil.symm
  | reset => exact List.take_nil.symm
  | configured => exact List.take_nil.symm

/-- The thread takes bytes out of the ring and puts none in. -/
theorem length_contents_threadStep {s next : CtrlState} (hknows : s.pc.Knows s.rx.ring.contents)
    (hstep : threadStep s = some next) :
    next.rx.ring.contents.length ≤ s.rx.ring.contents.length := by
  cases hpc : s.pc with
  | advance byte =>
      rw [hpc, DispatchPc.Knows] at hknows
      simp only [threadStep, hpc, Option.some.injEq] at hstep
      subst hstep
      have hsome : ¬ s.rx.ring.Empty := by
        intro hempty
        simp [(Ring.empty_iff_contents _).mp hempty] at hknows
      rw [Ring.contents_pop hsome, List.length_cons]
      exact Nat.le_succ _
  | send resp => simp only [threadStep, hpc, reduceCtorEq] at hstep
  | _ =>
      simp only [threadStep, hpc, Option.some.injEq] at hstep
      subst hstep
      exact le_refl _

/-- A step uses up no more room than the bytes that it keeps. -/
theorem room_le_step {s next : CtrlSession} {action : SessionAction}
    (hknows : s.channel.pc.Knows s.channel.rx.ring.contents)
    (hstep : sessionStep s action = some next) :
    s.room ≤ next.room + (keptBytes s action).length := by
  cases action with
  | reset =>
      obtain rfl := Option.some.inj hstep
      exact Nat.le_add_right _ _
  | configured =>
      obtain rfl := Option.some.inj hstep
      exact Nat.le_add_right _ _
  | channel action =>
      rw [sessionStep, Option.map_eq_some_iff] at hstep
      obtain ⟨channel, hchannel, rfl⟩ := hstep
      cases action with
      | out packet =>
          obtain rfl := Option.some.inj hchannel
          have hcontents := contents_rxRingPut_take packet.bytes s.channel.rx
          simp only [CtrlSession.room, exlinkCtrlOutCb, hcontents, List.length_append, keptBytes]
          omega
      | thread =>
          have hle := length_contents_threadStep hknows hchannel
          simp only [CtrlSession.room]
          omega
      | sent ret =>
          rw [ctrlStep, sendReturn] at hchannel
          split at hchannel
          · obtain rfl := Option.some.inj hchannel
            exact Nat.le_add_right _ _
          · simp at hchannel

/-- What is received is kept as far as there was room at the start. -/
theorem take_received_isPrefix {p : ExlinkParser} {kept : List Byte}
    {reports : List (Option FrameReport)} {start final : CtrlSession}
    {actions : List SessionAction} (feeds : Feeds p kept reports start)
    (hrun : runActions sessionStep start actions = some final) {count : ℕ}
    (hroom : count ≤ start.room) :
    (actions.flatMap SessionAction.received).take count <+:
      runLabels sessionStep keptBytes start actions := by
  induction actions generalizing start kept reports count with
  | nil => simp
  | cons action rest ih =>
      obtain ⟨next, hstep, hrest⟩ := runActions_cons_eq_some.mp hrun
      have hnext := feeds_step kept reports start action next feeds hstep
      have hleft := room_le_step feeds.knows hstep
      rw [keptBytes_eq] at hleft
      rw [List.flatMap_cons, runLabels_cons hstep, List.take_append, keptBytes_eq]
      by_cases hinside : action.received.length ≤ count
      · have hwhole := List.take_of_length_le (hinside.trans hroom)
        rw [hwhole] at hleft ⊢
        rw [List.take_of_length_le hinside, List.prefix_append_right_inj]
        exact ih hnext hrest (by omega)
      · have hnone : count - action.received.length = 0 := by omega
        rw [hnone, List.take_zero, List.append_nil]
        exact (List.take_prefix_take_left hroom).trans (List.prefix_append _ _)

/-- The report at the last byte of what follows a history. -/
theorem getElem?_parserReports {p : ExlinkParser} {history frame rest : List Byte}
    (hframe : frame ≠ []) :
    (parserReports p (history ++ frame ++ rest))[history.length + frame.length - 1]? =
      (parserReports (parserRun p history) frame).getLast? := by
  have hlength (q : ExlinkParser) (stream : List Byte) :
      (parserReports q stream).length = stream.length := by
    rw [parserReports, List.length_map, length_traceMealy]
  have hpos := List.length_pos_iff.mpr hframe
  rw [parserReports_append, parserReports_append,
    List.getElem?_append_left (by simp only [List.length_append, hlength]; omega),
    List.getElem?_append_right (by rw [hlength]; omega), List.getLast?_eq_getElem?, hlength,
    hlength]
  congr 1
  omega

/-- The first frame of a session whose bytes are all put into the ring is recognised, with its
own op and payload, exactly if the parser waits for a frame after all bytes kept before the
session. The bytes are put there if they reach the OUT callback and the ring, which keeps what
the last session left in it, has room for them when the session begins. The thread alone gets
to the end of the frame. -/
theorem ctrlSession_frame_iff (cells : Fin exlinkRxRingSize → Byte) (p : ExlinkParser)
    {before session : List SessionAction} {middle final : CtrlSession}
    (hbefore : runActions sessionStep (sessionInit cells p) before = some middle)
    (hsession : runActions sessionStep middle (.configured :: session) = some final)
    (op : Byte) {payload : List Byte} (fits : payload.length ≤ exlinkMaxPayload) :
    let frame := exlinkFrameBuild op (some (Buf.ofList payload))
      (BitVec.ofNat 16 payload.length) (some exlinkMaxFrame)
    let history := runLabels sessionStep keptBytes (sessionInit cells p) before
    let kept := runLabels sessionStep keptBytes middle (.configured :: session)
    let results := runLabels sessionStep parserResults (sessionInit cells p)
      (before ++ .configured :: session)
    (frame <+: session.flatMap SessionAction.received → frame.length ≤ middle.room →
      frame <+: kept) ∧
    (frame <+: kept →
      (history.length + frame.length ≤ results.length →
        (results[history.length + frame.length - 1]? = some (some ⟨.ok, op, payload⟩) ↔
          Waits (parserRun (exlinkParserInit p) history))) ∧
      (Drained final.channel → history.length + frame.length ≤ results.length) ∧
      Drains final.channel) := by
  intro frame history kept results
  have hframe : frame = frameOf op payload :=
    exlinkFrameBuild_ofList op exlinkMaxFrame fits (by rw [exlinkMaxFrame]; omega)
  have hrun : runActions sessionStep (sessionInit cells p) (before ++ .configured :: session) =
      some final := by
    rw [runActions_append, hbefore]
    exact hsession
  obtain ⟨⟨fed, hkept, hparser, hresults⟩, -⟩ := feeds_run hrun
  rw [runLabels_append _ hbefore] at hkept
  have hcount : results.length = fed.length := by
    rw [show results = parserReports (exlinkParserInit p) fed from hresults, parserReports,
      List.length_map, length_traceMealy]
  constructor
  · intro hreceived hroom
    refine List.IsPrefix.trans ?_ (take_received_isPrefix (feeds_run hbefore) hsession hroom)
    rw [List.prefix_take_iff]
    exact ⟨hreceived, le_refl _⟩
  intro hfresh
  refine ⟨?_, ?_, drains_all final.channel⟩
  · intro hfed
    have hprefix : history ++ frame <+: fed := by
      refine List.prefix_of_prefix_length_le ((List.prefix_append_right_inj history).mpr hfresh)
        ?_ (by rw [List.length_append]; omega)
      rw [hkept, List.append_assoc]
      exact List.prefix_append _ _
    obtain ⟨rest, rfl⟩ := hprefix
    have hnonempty : frame ≠ [] := by
      rw [hframe]
      exact List.append_ne_nil_of_right_ne_nil _ (by simp)
    rw [show results = parserReports (exlinkParserInit p) (history ++ frame ++ rest) from hresults,
      getElem?_parserReports hnonempty, hframe]
    exact parserReports_frame_iff (reading_run (Reading.init p) history) op fits
  · rintro ⟨hempty, hpc⟩
    have hheld : final.channel.pc.held = [] := by
      rcases hpc with hpc | hpc <;> rw [hpc] <;> rfl
    rw [hheld, (Ring.empty_iff_contents _).mp hempty, List.append_nil, List.append_nil] at hkept
    rw [hcount, ← hkept, List.length_append]
    exact Nat.add_le_add_left hfresh.length_le _

/-! ## A session that ends inside a frame -/

/-- A parser that was never used. -/
def unusedParser : ExlinkParser := ⟨.magic0, 0#8, 0#16, 0#16, 0#16, 0#16, fun _ => 0#8⟩

/-- The channel at power-up. -/
def freshSession : CtrlSession := sessionInit (fun _ => 0#8) unusedParser

/-- A packet, and the thread until it has fed all of it. -/
def packetFed (packet : OutPacket) : List SessionAction :=
  .channel (.out packet) :: List.replicate (4 * packet.bytes.length + 1) (.channel .thread)

/-- A PING. -/
def pingPacket : OutPacket :=
  ⟨exlinkFrameBuild exlinkOpPing (some (Buf.ofList [])) 0#16 (some exlinkMaxFrame),
    by decide +kernel⟩

/-- The first two bytes of a frame. -/
def cutOffPacket : OutPacket := ⟨[exlinkMagic0, exlinkMagic1], by decide⟩

/-- The results of a session with a PING, after the given one. -/
def resultsOfPing (before : List SessionAction) : List (Option FrameReport) :=
  runLabels sessionStep parserResults freshSession
    (before ++ .configured :: packetFed pingPacket)

/-- A session with a PING that is answered, and with the first byte of a second frame. -/
def pingThenByte : List SessionAction :=
  .configured :: packetFed pingPacket ++ .channel (.sent 0) :: packetFed ⟨[exlinkMagic0], by decide⟩

/-- A PING after a session that ended in one byte of a frame. -/
theorem ctrlSession_frame_iff_ping :
    runLabels sessionStep keptBytes freshSession (pingThenByte ++ [.reset]) =
      pingPacket.bytes ++ [exlinkMagic0] ∧
    (resultsOfPing (pingThenByte ++ [.reset]))[14]? = some (some ⟨.ok, exlinkOpPing, []⟩) := by
  have hhistory : runLabels sessionStep keptBytes freshSession (pingThenByte ++ [.reset]) =
      pingPacket.bytes ++ [exlinkMagic0] := by decide +kernel
  have hbefore : (runActions sessionStep freshSession (pingThenByte ++ [.reset])).map
      CtrlSession.room = some (exlinkRxRingSize - 1) := by decide +kernel
  obtain ⟨middle, hmiddle, hroom⟩ := Option.map_eq_some_iff.mp hbefore
  have hwhole : (runActions sessionStep freshSession
      (pingThenByte ++ [.reset] ++ .configured :: packetFed pingPacket)).isSome := by
    decide +kernel
  rw [runActions_append, hmiddle, Option.bind_some] at hwhole
  obtain ⟨final, hfinal⟩ := Option.isSome_iff_exists.mp hwhole
  obtain ⟨hkept, hframe⟩ := ctrlSession_frame_iff (fun _ => 0#8) unusedParser hmiddle hfinal
    exlinkOpPing (show ([] : List Byte).length ≤ exlinkMaxPayload by decide)
  have hrecognised := (hframe (hkept (by decide +kernel) (by rw [hroom]; decide +kernel))).1
  have hlength : (pingPacket.bytes ++ [exlinkMagic0]).length + pingPacket.bytes.length - 1 = 14 := by
    decide +kernel
  rw [show sessionInit (fun _ => 0#8) unusedParser = freshSession from rfl, hhistory] at hrecognised
  refine ⟨hhistory, ?_⟩
  rw [← hlength]
  exact (hrecognised (by decide +kernel)).mpr (by decide +kernel)

/-- After a session that ended in two bytes of a frame, a PING is not recognised. -/
theorem ctrlSession_swallows_frame :
    ¬ ∀ (cells : Fin exlinkRxRingSize → Byte) (p : ExlinkParser)
        (before between session : List SessionAction) (middle final : CtrlSession) (op : Byte)
        (payload : List Byte),
      let frame := exlinkFrameBuild op (some (Buf.ofList payload))
        (BitVec.ofNat 16 payload.length) (some exlinkMaxFrame)
      let history := runLabels sessionStep keptBytes (sessionInit cells p)
        (before ++ .reset :: between)
      let results := runLabels sessionStep parserResults (sessionInit cells p)
        (before ++ .reset :: between ++ .configured :: session)
      payload.length ≤ exlinkMaxPayload →
      runActions sessionStep (sessionInit cells p) (before ++ .reset :: between) = some middle →
      runActions sessionStep middle (.configured :: session) = some final →
      frame <+: session.flatMap SessionAction.received → frame.length ≤ middle.room →
      history.length + frame.length ≤ results.length →
        results[history.length + frame.length - 1]? = some (some ⟨.ok, op, payload⟩) := by
  intro hclaim
  have hbefore : (runActions sessionStep freshSession
      (.configured :: packetFed cutOffPacket ++ .reset :: [])).map CtrlSession.room =
        some (exlinkRxRingSize - 1) := by decide +kernel
  obtain ⟨middle, hmiddle, hroom⟩ := Option.map_eq_some_iff.mp hbefore
  have hwhole : (runActions sessionStep freshSession
      (.configured :: packetFed cutOffPacket ++ .reset :: [] ++
        .configured :: packetFed pingPacket)).isSome := by decide +kernel
  rw [runActions_append, hmiddle, Option.bind_some] at hwhole
  obtain ⟨final, hfinal⟩ := Option.isSome_iff_exists.mp hwhole
  have hrecognised := hclaim (fun _ => 0#8) unusedParser (.configured :: packetFed cutOffPacket) []
    (packetFed pingPacket) middle final exlinkOpPing [] (by decide) hmiddle hfinal
    (by decide +kernel) (by rw [hroom]; decide +kernel) (by decide +kernel)
  exact absurd hrecognised (by decide +kernel)

end ExLink.Control
