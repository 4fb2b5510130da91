/-
# The probe as a server

Packets arrive and responses leave while the engine thread is anywhere in a command, and
the command asks its questions one by one. What the host gets is still what a server gives
that takes one packet at a time: the messages are those of the accepted packets, in order,
each made of what the packet before it left, and some of them are given up.
-/

import ExLink.Dap.Batch
import ExLink.Dap.Probe
import ExLink.Dap.Responses

namespace ExLink.Dap

open ExLink.Automata ExLink.Automata.Prog ExLink.Usb

/-! ## One packet at a time -/

/-- What one packet leaves for the next one. -/
structure Standing (ε : Type) where
  resp : Buf
  data : DapData
  world : ε

/-- A packet, in its slot, and the message that answers it. -/
structure Exchange where
  slot : DapReqSlot
  message : List Byte

/-- The bytes that the host sent and those that it is owed. -/
def Exchange.bytes (exchange : Exchange) : List Byte × List Byte :=
  (exchange.slot.request, exchange.message)

section Server

variable {ε : Type} (world : Environment DapOp DapOp.Answer ε)

/-- One packet after another, with nothing in between. -/
inductive Serves (start : Standing ε) : List Exchange → Standing ε → Prop
  | start : Serves start [] start
  | packet {exchanges : List Exchange} {before : Standing ε} {slot : DapReqSlot} {polls : ℕ}
      {result : (Word32 × DapData) × (Buf × ε)} (earlier : Serves start exchanges before)
      (hresult : Outcome (responseEnv world) (dapExecuteCommand slot.buf polls) before.data
        (before.resp, before.world) = some result) :
      Serves start (exchanges ++ [⟨slot, (replyOf result).message⟩])
        ⟨result.2.1, result.1.2, result.2.2⟩

/-- One packet after another, each over a response buffer of its own. -/
inductive ServesAlone (blank : Buf) (start : DapData × ε) : List Exchange → DapData × ε → Prop
  | start : ServesAlone blank start [] start
  | packet {exchanges : List Exchange} {before : DapData × ε} {slot : DapReqSlot} {polls : ℕ}
      {reply : Reply ε} (earlier : ServesAlone blank start exchanges before)
      (hreply : packetAlone world polls blank slot.buf before.1 before.2 = some reply) :
      ServesAlone blank start (exchanges ++ [⟨slot, reply.message⟩]) (reply.data, reply.world)

variable {world} in
/-- Packets that fit, at the settings that those before them left, find nothing in the
response buffer. -/
theorem Serves.alone (blank : Buf) {start after : Standing ε} {exchanges : List Exchange}
    (hserves : Serves world start exchanges after)
    (hfits : ∀ earlier exchange before, earlier ++ [exchange] <+: exchanges →
      Serves world start earlier before → PacketFits exchange.slot.buf before.data.link) :
    ServesAlone world blank (start.data, start.world) exchanges (after.data, after.world) := by
  induction hserves with
  | start => exact .start
  | @packet exchanges before slot polls result earlier hresult ih =>
      have hslot : PacketFits slot.buf before.data.link :=
        hfits exchanges ⟨slot, (replyOf result).message⟩ before (List.prefix_refl _) earlier
      have hreply : packetReply world polls before.resp slot.buf before.data before.world =
          some (replyOf result) := congrArg (Option.map replyOf) hresult
      rw [packetReply_alone polls before.resp blank before.world hslot] at hreply
      have hbefore := ih fun earlier exchange before hearlier =>
        hfits earlier exchange before (hearlier.trans (List.prefix_append _ _))
      exact hbefore.packet hreply

/-! ## The probe and the world -/

/-- An OUT callback, one access of the thread, one step of `DAP_ExecuteCommand`, or a
completed IN transfer. -/
inductive ServiceAction where
  | out (packet : OutPacket)
  | thread
  | execute (polls : ℕ)
  | complete

/-- The action of the probe, with the answers that the world gives. -/
def ServiceAction.onProbe (s : Probe × ε) : ServiceAction → ProbeAction
  | .out packet => .out packet
  | .thread => .thread
  | .complete => .complete
  | .execute polls =>
      .execute polls fun op => (responseEnv world (s.1.engine.resp, s.2) op).map Prod.fst

/-- The world changes where it answers. -/
def worldAfter (s : Probe × ε) : ServiceAction → ε
  | .out _ | .thread | .complete => s.2
  | .execute _ =>
      match s.1.execution with
      | .during op _ =>
          (responseEnv world (s.1.engine.resp, s.2) op).elim s.2 fun answered => answered.2.2
      | .idle | .between _ => s.2

/-- One action. -/
def serviceStep (speed : UsbSpeed) (s : Probe × ε) (action : ServiceAction) : Option (Probe × ε) :=
  (probeStep speed s.1 (action.onProbe world s)).map fun probe => (probe, worldAfter world s action)

/-- The packets that arrive and are accepted. -/
def acceptedPackets (s : Probe × ε) : ServiceAction → List (List Byte)
  | .out packet => acceptedOut s.1.engine (.out packet)
  | .thread | .execute _ | .complete => []

/-- The packet whose `DAP_ExecuteCommand` returns, with the bytes that are to be sent. -/
def exchangedPackets (s : Probe × ε) : ServiceAction → List Exchange
  | .execute _ =>
      match s.1.execution with
      | .between (.ret (num, _)) =>
          [⟨s.1.engine.queue.ring.front, responseOf s.1.engine.resp num⟩]
      | _ => []
  | .out _ | .thread | .complete => []

/-! ## The invariant -/

/-- The command in hand, from where it stands. -/
def inHand : Execution → Option MarkedCommand
  | .idle => none
  | .between program => some program
  | .during op next => some (.ask (.inl op) next)

theorem inHand_eq_none {execution : Execution} : inHand execution = none ↔ execution = .idle := by
  cases execution <;> simp [inHand]

/-- The server has got to where the thread is, or to the packet that the thread has in hand:
what is left of its command ends as the server will. -/
def KeepsUp (start : Standing ε) (exchanges : List Exchange) (s : Probe × ε) : Prop :=
  match inHand s.1.execution with
  | none => Serves world start exchanges ⟨s.1.engine.resp, s.1.data, s.2⟩
  | some program =>
      s.1.engine.pc = .execute ∧
        ∃ before polls, Serves world start exchanges before ∧
          program.erase.respond (responseEnv world) (s.1.engine.resp, s.2) =
            Outcome (responseEnv world)
              (dapExecuteCommand s.1.engine.queue.ring.front.buf polls) before.data
              (before.resp, before.world)

/-- What was accepted was executed or waits, what was executed is settled or being sent, and
the server keeps up. -/
structure Serving (speed : UsbSpeed) (start : Standing ε) (accepted : List (List Byte))
    (exchanges : List Exchange) (s : Probe × ε) : Prop where
  delivers : Delivers accepted ((exchanges.map Exchange.bytes).map Prod.fst) s.1.engine
  settles : ∃ settled,
    Settles speed ((exchanges.map Exchange.bytes).map Prod.snd) settled s.1.engine
  keepsUp : KeepsUp world start exchanges s

variable {world}

section Steps

variable {start : Standing ε} {accepted : List (List Byte)} {exchanges : List Exchange}
  {s next : Probe × ε} {speed : UsbSpeed}

theorem keepsUp_idle {s : Probe × ε} (hidle : s.1.execution = .idle) :
    KeepsUp world start exchanges s ↔
      Serves world start exchanges ⟨s.1.engine.resp, s.1.data, s.2⟩ := by
  rw [KeepsUp, hidle]
  rfl

theorem keepsUp_inHand {s : Probe × ε} {program : MarkedCommand}
    (hprogram : inHand s.1.execution = some program) :
    KeepsUp world start exchanges s ↔
      s.1.engine.pc = .execute ∧
        ∃ before polls, Serves world start exchanges before ∧
          program.erase.respond (responseEnv world) (s.1.engine.resp, s.2) =
            Outcome (responseEnv world)
              (dapExecuteCommand s.1.engine.queue.ring.front.buf polls) before.data
              (before.resp, before.world) := by
  rw [KeepsUp, hprogram]

/-- A step that leaves the execution, the settings and the world alone, and the slot in
hand. -/
theorem KeepsUp.frame (h : KeepsUp world start exchanges s)
    (hexecution : next.1.execution = s.1.execution) (hdata : next.1.data = s.1.data)
    (hworld : next.2 = s.2) (hresp : next.1.engine.resp = s.1.engine.resp)
    (hheld : s.1.engine.pc = .execute → next.1.engine.pc = .execute ∧
      next.1.engine.queue.ring.front = s.1.engine.queue.ring.front) :
    KeepsUp world start exchanges next := by
  cases hprogram : inHand s.1.execution with
  | none =>
      rw [KeepsUp, hprogram] at h
      rw [KeepsUp, hexecution, hprogram, hdata, hworld, hresp]
      exact h
  | some program =>
      rw [keepsUp_inHand hprogram] at h
      obtain ⟨hpc, hserver⟩ := h
      obtain ⟨hpcNext, hfront⟩ := hheld hpc
      rw [← hexecution] at hprogram
      rw [keepsUp_inHand hprogram, hworld, hresp, hfront]
      exact ⟨hpcNext, hserver⟩

theorem dapOutCb_kept (packet : OutPacket) {s : DapState} {accepted executed : List (List Byte)}
    (inv : Delivers accepted executed s) :
    (dapOutCb packet s).resp = s.resp ∧ (dapOutCb packet s).pc = s.pc ∧
      (HoldsSlot s.pc → (dapOutCb packet s).queue.ring.front = s.queue.ring.front) := by
  rw [dapOutCb]
  split_ifs with hempty
  · exact ⟨rfl, rfl, fun _ => rfl⟩
  · refine ⟨rfl, rfl, fun holds => ?_⟩
    obtain ⟨htail, hcell, -⟩ := inv.tail_kept holds packet.bytes
    change (dapEngineSubmit packet.bytes s.queue).2.ring.cells
      (dapEngineSubmit packet.bytes s.queue).2.ring.tail = _
    rw [htail, hcell]
    rfl

/-- What the engine does, with the packets that it executes. -/
theorem Serving.of_dapStep (inv : Serving world speed start accepted exchanges s)
    (action : DapAction) {more : List Exchange}
    (hstep : dapStep speed s.1.engine action = some next.1.engine)
    (hmore : exchangedBy s.1.engine action = more.map Exchange.bytes)
    (hkeepsUp : KeepsUp world start (exchanges ++ more) next) :
    Serving world speed start (accepted ++ acceptedOut s.1.engine action) (exchanges ++ more)
      next := by
  obtain ⟨settled, hsettles⟩ := inv.settles
  have hdelivered := delivers_dapStep _ _ _ action _ inv.delivers hstep
  have hsettled := settles_step _ _ _ action _ hsettles hstep
  rw [hmore, ← List.map_append] at hdelivered hsettled
  exact ⟨hdelivered, ⟨_, hsettled⟩, hkeepsUp⟩

/-- A step inside `DAP_ExecuteCommand`, which only stores into the response. -/
theorem Serving.of_resp (inv : Serving world speed start accepted exchanges s) (resp : Buf)
    (hengine : next.1.engine = { s.1.engine with resp := resp })
    (hkeepsUp : KeepsUp world start exchanges next) :
    Serving world speed start accepted exchanges next := by
  obtain ⟨settled, hsettles⟩ := inv.settles
  refine ⟨?_, ⟨settled, ?_⟩, hkeepsUp⟩
  · rw [hengine]
    exact ⟨inv.delivers.ordered, inv.delivers.holds, inv.delivers.awake⟩
  · rw [hengine]
    exact ⟨hsettles.session, hsettles.ordered⟩

theorem serving_out (packet : OutPacket) (inv : Serving world speed start accepted exchanges s) :
    Serving world speed start (accepted ++ acceptedPackets s (.out packet)) exchanges
      (probeOut packet s.1, s.2) := by
  obtain ⟨hresp, hpc, hfront⟩ := dapOutCb_kept packet inv.delivers
  rw [← List.append_nil exchanges]
  refine inv.of_dapStep (.out packet) rfl rfl ?_
  rw [List.append_nil]
  refine inv.keepsUp.frame rfl rfl rfl hresp fun hexecute => ?_
  rw [hexecute] at hfront
  exact ⟨hpc.trans hexecute, hfront trivial⟩

theorem engineStep_kept {s next : DapState} (hstep : engineStep s = some next) :
    next.resp = s.resp ∧ s.pc ≠ .execute := by
  cases hpc : s.pc with
  | take =>
      simp only [engineStep, hpc] at hstep
      split_ifs at hstep
      obtain rfl := Option.some.inj hstep
      exact ⟨rfl, by simp⟩
  | execute => simp only [engineStep, hpc, reduceCtorEq] at hstep
  | check | send _ | advance | print =>
      simp only [engineStep, hpc, Option.some.injEq] at hstep
      subst hstep
      exact ⟨rfl, by simp⟩

theorem serving_thread (inv : Serving world speed start accepted exchanges s) {probe : Probe}
    (hstep : probeThread s.1 = some probe) :
    Serving world speed start accepted exchanges (probe, s.2) := by
  obtain ⟨engine, hengine, hprobe⟩ := Option.map_eq_some_iff.mp hstep
  obtain ⟨hresp, hnot⟩ := engineStep_kept hengine
  subst hprobe
  rw [← List.append_nil accepted, ← List.append_nil exchanges]
  refine inv.of_dapStep .thread hengine rfl ?_
  rw [List.append_nil]
  exact inv.keepsUp.frame rfl rfl rfl hresp fun hexecute => absurd hexecute hnot

theorem serving_complete (inv : Serving world speed start accepted exchanges s) {engine : DapState}
    (hstep : dapStep speed s.1.engine .complete = some engine) :
    Serving world speed start accepted exchanges ({ s.1 with engine := engine }, s.2) := by
  rw [← List.append_nil accepted, ← List.append_nil exchanges]
  refine inv.of_dapStep .complete hstep rfl ?_
  rw [List.append_nil]
  obtain ⟨port, -, rfl⟩ := Option.map_eq_some_iff.mp hstep
  exact inv.keepsUp.frame rfl rfl rfl rfl fun hexecute => ⟨hexecute, rfl⟩

/-- The response buffer answers a store by storing. -/
theorem storedBy_answered {op : DapOp} {resp : Buf} {e : ε} {answered : op.Answer × (Buf × ε)}
    (hanswered : responseEnv world (resp, e) op = some answered) :
    storedBy op resp = answered.2.1 := by
  cases op with
  | load offset | store offset byte =>
      obtain rfl := Option.some.inj hanswered
      rfl
  | _ =>
      obtain ⟨answer, -, rfl⟩ := Option.map_eq_some_iff.mp hanswered
      rfl

/-- A step of `DAP_ExecuteCommand`. -/
theorem serving_execute (inv : Serving world speed start accepted exchanges s) {polls : ℕ}
    {probe : Probe}
    (hstep : probeStep speed s.1 ((ServiceAction.execute polls).onProbe world s) = some probe) :
    Serving world speed start accepted (exchanges ++ exchangedPackets s (.execute polls))
      (probe, worldAfter world s (.execute polls)) := by
  have hkeepsUp := inv.keepsUp
  cases executes_of_step hstep with
  | begins hidle hpc =>
      rw [keepsUp_idle hidle] at hkeepsUp
      simp only [exchangedPackets, worldAfter, hidle, List.append_nil]
      refine inv.of_resp s.1.engine.resp rfl ?_
      rw [keepsUp_inHand rfl]
      refine ⟨hpc, _, polls, hkeepsUp, ?_⟩
      rw [standsFor_executeCommand _ polls s.1.data]
      rfl
  | @returns num data engine hret hengine =>
      rw [keepsUp_inHand (congrArg inHand hret)] at hkeepsUp
      obtain ⟨hpc, before, polls, hserves, hresult⟩ := hkeepsUp
      have hmessage : responseOf s.1.engine.resp num =
          (replyOf ((num, data), (s.1.engine.resp, s.2))).message := by
        rw [responseOf, toNat_and_lowHalf]
        rfl
      simp only [exchangedPackets, worldAfter, hret, hmessage]
      rw [← List.append_nil accepted]
      refine inv.of_dapStep (.execute s.1.engine.resp num) hengine ?_ ?_
      · rw [exchangedBy, hmessage]
        rfl
      · rw [engineExecute_eq hpc] at hengine
        obtain rfl := Option.some.inj hengine
        rw [keepsUp_idle rfl]
        exact hserves.packet hresult.symm
  | asks hask =>
      rw [keepsUp_inHand (congrArg inHand hask)] at hkeepsUp
      simp only [exchangedPackets, worldAfter, hask, List.append_nil]
      exact inv.of_resp s.1.engine.resp rfl hkeepsUp
  | passes hask =>
      rw [keepsUp_inHand (congrArg inHand hask)] at hkeepsUp
      simp only [exchangedPackets, worldAfter, hask, List.append_nil]
      exact inv.of_resp s.1.engine.resp rfl hkeepsUp
  | @hears op rest answer hduring hgiven =>
      rw [keepsUp_inHand (congrArg inHand hduring)] at hkeepsUp
      obtain ⟨hpc, before, polls, hserves, hresult⟩ := hkeepsUp
      obtain ⟨answered, hanswered, rfl⟩ := Option.map_eq_some_iff.mp hgiven
      simp only [exchangedPackets, worldAfter, hduring, hanswered, List.append_nil,
        Option.elim_some]
      have hrest : (responseEnv world (s.1.engine.resp, s.2) op).bind (fun answered =>
          (rest answered.1).erase.respond (responseEnv world) answered.2) = _ := hresult
      rw [hanswered, Option.bind_some] at hrest
      refine inv.of_resp _ rfl ?_
      rw [keepsUp_inHand rfl]
      refine ⟨hpc, before, polls, hserves, ?_⟩
      dsimp only
      rw [storedBy_answered hanswered]
      exact hrest

/-- One action, whoever takes it. -/
theorem serving_step (accepted : List (List Byte)) (exchanges : List Exchange) (s : Probe × ε)
    (action : ServiceAction) (next : Probe × ε)
    (inv : Serving world speed start accepted exchanges s)
    (hstep : serviceStep world speed s action = some next) :
    Serving world speed start (accepted ++ acceptedPackets s action)
      (exchanges ++ exchangedPackets s action) next := by
  obtain ⟨probe, hprobe, rfl⟩ := Option.map_eq_some_iff.mp hstep
  cases action with
  | out packet =>
      obtain rfl := Option.some.inj hprobe
      rw [exchangedPackets, List.append_nil]
      exact serving_out packet inv
  | thread =>
      rw [acceptedPackets, exchangedPackets, List.append_nil, List.append_nil]
      exact serving_thread inv hprobe
  | execute polls =>
      rw [acceptedPackets, List.append_nil]
      exact serving_execute inv hprobe
  | complete =>
      obtain ⟨engine, hengine, rfl⟩ := Option.map_eq_some_iff.mp hprobe
      rw [acceptedPackets, exchangedPackets, List.append_nil, List.append_nil]
      exact serving_complete inv hengine

end Steps

theorem serving_init (speed : UsbSpeed) (cells : Fin dapReqSlots → DapReqSlot)
    (resp buf : Buf) (data : DapData) (e : ε) :
    Serving world speed ⟨resp, data, e⟩ [] [] (probeInit cells resp buf data, e) where
  delivers := delivers_init cells resp buf
  settles := ⟨[], settles_init speed cells resp buf⟩
  keepsUp := Serves.start

/-! ## Runs -/

/-- In every run. -/
theorem serving_run {speed : UsbSpeed} {cells : Fin dapReqSlots → DapReqSlot} {resp buf : Buf}
    {data : DapData} {e : ε} {actions : List ServiceAction} {s : Probe × ε}
    (hrun : runActions (serviceStep world speed) (probeInit cells resp buf data, e) actions =
      some s) :
    Serving world speed ⟨resp, data, e⟩
      (runLabels (serviceStep world speed) acceptedPackets (probeInit cells resp buf data, e)
        actions)
      (runLabels (serviceStep world speed) exchangedPackets (probeInit cells resp buf data, e)
        actions)
      s :=
  runLabels_history (Serving world speed ⟨resp, data, e⟩) serving_step
    (serving_init speed cells resp buf data e) hrun

/-- The server that a run keeps up with: between two packets it is where the probe is. -/
theorem Serving.server {speed : UsbSpeed} {start : Standing ε} {accepted : List (List Byte)}
    {exchanges : List Exchange} {s : Probe × ε}
    (inv : Serving world speed start accepted exchanges s) :
    ∃ after, Serves world start exchanges after ∧
      (s.1.execution = .idle → after = ⟨s.1.engine.resp, s.1.data, s.2⟩) := by
  have hkeepsUp := inv.keepsUp
  cases hexecution : s.1.execution with
  | idle =>
      rw [keepsUp_idle hexecution] at hkeepsUp
      exact ⟨_, hkeepsUp, fun _ => rfl⟩
  | between _ | during _ _ =>
      rw [keepsUp_inHand (congrArg inHand hexecution)] at hkeepsUp
      obtain ⟨-, before, -, hserves, -⟩ := hkeepsUp
      exact ⟨before, hserves, fun hidle => by cases hidle⟩

variable (world) in
/-- Whatever the interleaving and whatever the world answers: the packets that
`DAP_ExecuteCommand` returned from are the accepted ones, in order, up to those that wait;
their messages are those of a server that takes one packet after the other; and the host
takes some of these messages, in order. Between two packets the probe is where the server
is. -/
theorem probe_serves (speed : UsbSpeed) (cells : Fin dapReqSlots → DapReqSlot)
    (resp buf : Buf) (data : DapData) (e : ε) (actions : List ServiceAction) (s : Probe × ε)
    (hrun : runActions (serviceStep world speed) (probeInit cells resp buf data, e) actions =
      some s) :
    let start : Probe × ε := (probeInit cells resp buf data, e)
    let accepted := runLabels (serviceStep world speed) acceptedPackets start actions
    let exchanges := runLabels (serviceStep world speed) exchangedPackets start actions
    ∃ after, Serves world ⟨resp, data, e⟩ exchanges after ∧
      exchanges.map (fun exchange => exchange.slot.request) ++ waiting s.1.engine = accepted ∧
      (transmitted speed s.1.engine).Sublist (exchanges.map Exchange.message) ∧
      (s.1.execution = .idle → after = ⟨s.1.engine.resp, s.1.data, s.2⟩) := by
  intro start accepted exchanges
  have inv : Serving world speed ⟨resp, data, e⟩ accepted exchanges s := serving_run hrun
  obtain ⟨after, hserves, hafter⟩ := inv.server
  have hordered : exchanges.map (fun exchange => exchange.slot.request) ++ waiting s.1.engine =
      accepted := by
    have hwaiting := inv.delivers.ordered
    rwa [List.map_map] at hwaiting
  have htransmitted : (transmitted speed s.1.engine).Sublist (exchanges.map Exchange.message) := by
    obtain ⟨settled, ⟨t, hinv, hport, -, hstarted⟩, hsettled⟩ := inv.settles
    have htaken := filter_hostReads_started hinv
    rw [hport, hstarted] at htaken
    have hmessages : settled.map Prod.fst ++ inProgress s.1.engine =
        exchanges.map Exchange.message := by
      rwa [List.map_map] at hsettled
    rw [← hmessages]
    refine htaken.sublist.trans ((List.filter_sublist.map Prod.fst).trans ?_)
    exact List.sublist_append_left _ _
  exact ⟨after, hserves, hordered, htransmitted, hafter⟩

variable (world) in
/-- If every packet fits at the settings that it is executed with, the response buffer is no
part of the server: what goes from one packet to the next are the settings and the world, and
no byte of a message is older than the packet that it answers. -/
theorem probe_serves_alone (speed : UsbSpeed) (cells : Fin dapReqSlots → DapReqSlot)
    (resp buf : Buf) (data : DapData) (e : ε) (blank : Buf) (actions : List ServiceAction)
    (s : Probe × ε)
    (hrun : runActions (serviceStep world speed) (probeInit cells resp buf data, e) actions =
      some s)
    (hfits : ∀ earlier exchange before,
      earlier ++ [exchange] <+: runLabels (serviceStep world speed) exchangedPackets
        (probeInit cells resp buf data, e) actions →
      Serves world ⟨resp, data, e⟩ earlier before →
        PacketFits exchange.slot.buf before.data.link) :
    ∃ after, ServesAlone world blank (data, e)
        (runLabels (serviceStep world speed) exchangedPackets (probeInit cells resp buf data, e)
          actions)
        after ∧
      (s.1.execution = .idle → after = (s.1.data, s.2)) := by
  obtain ⟨after, hserves, hafter⟩ := (serving_run hrun).server
  refine ⟨_, hserves.alone blank hfits, fun hidle => ?_⟩
  rw [hafter hidle]

end Server

/-- Connect to SWD; in the middle of it a question for the packet count arrives, and then the
host takes the message. -/
def connectRun : List ServiceAction :=
  [.out ⟨[0x02#8, 0x01#8], by decide⟩, .thread, .thread] ++ List.replicate 5 (.execute 0) ++
    [.out ⟨[0x00#8, 0xFE#8], by decide⟩] ++ List.replicate 9 (.execute 0) ++
    [.thread, .thread, .thread, .thread, .complete]

/-- A probe whose memory is all zero, with ports that were not set up yet. -/
def zeroProbe : Probe × ℕ :=
  (probeInit (fun _ => ⟨0, fun _ => 0#8⟩) (fun _ => 0#8) (fun _ => 0#8) unconnected, 0)

theorem probe_serves_connect :
    ∃ s, runActions (serviceStep portEnv .high) zeroProbe connectRun = some s ∧
      transmitted .high s.1.engine = [[0x02#8, 0x01#8]] ∧ waiting s.1.engine = [[0x00#8, 0xFE#8]] ∧
      Serves portEnv ⟨fun _ => 0#8, unconnected, 0⟩
        (runLabels (serviceStep portEnv .high) exchangedPackets zeroProbe connectRun)
        ⟨s.1.engine.resp, s.1.data, s.2⟩ := by
  have hrun : (runActions (serviceStep portEnv .high) zeroProbe connectRun).map (fun s =>
      (transmitted .high s.1.engine, waiting s.1.engine, (inHand s.1.execution).isNone)) =
        some ([[0x02#8, 0x01#8]], [[0x00#8, 0xFE#8]], true) := by
    decide +kernel
  obtain ⟨s, hs, hend⟩ := Option.map_eq_some_iff.mp hrun
  obtain ⟨htransmitted, hrest⟩ := Prod.ext_iff.mp hend
  obtain ⟨hwaiting, hnone⟩ := Prod.ext_iff.mp hrest
  have hidle : s.1.execution = .idle := inHand_eq_none.mp (Option.isNone_iff_eq_none.mp hnone)
  obtain ⟨after, hserves, -, -, hafter⟩ :=
    probe_serves portEnv .high _ _ _ unconnected 0 connectRun s hs
  rw [hafter hidle] at hserves
  exact ⟨s, hs, htransmitted, hwaiting, hserves⟩

/-- A block read of 200 words before the probe is connected to a port; the host takes the
message. -/
def blockRun : List ServiceAction :=
  [.out ⟨[0x06#8, 0x00#8, 0xC8#8, 0x00#8, 0x02#8], by decide⟩, .thread, .thread] ++
    List.replicate 16 (.execute 0) ++ [.thread, .thread, .thread, .thread, .complete]

/-- The words of the block would not fit, but no word is read. -/
theorem probe_serves_alone_unconnected :
    ∃ s, runActions (serviceStep portEnv .high) zeroProbe blockRun = some s ∧
      transmitted .high s.1.engine = [[0x06#8, 0x00#8, 0x00#8, 0x00#8]] ∧
      ServesAlone portEnv (fun _ => 0xAA#8) (unconnected, 0)
        (runLabels (serviceStep portEnv .high) exchangedPackets zeroProbe blockRun)
        (s.1.data, s.2) := by
  have hrun : (runActions (serviceStep portEnv .high) zeroProbe blockRun).map (fun s =>
      (transmitted .high s.1.engine, (inHand s.1.execution).isNone)) =
        some ([[0x06#8, 0x00#8, 0x00#8, 0x00#8]], true) := by
    decide +kernel
  have hbytes : (runLabels (serviceStep portEnv .high) exchangedPackets zeroProbe blockRun).map
      (fun exchange => exchange.slot.buf 0) = [0x06#8] := by
    decide +kernel
  obtain ⟨s, hs, hend⟩ := Option.map_eq_some_iff.mp hrun
  obtain ⟨htransmitted, hnone⟩ := Prod.ext_iff.mp hend
  have hidle : s.1.execution = .idle := inHand_eq_none.mp (Option.isNone_iff_eq_none.mp hnone)
  have hfits : ∀ earlier exchange before,
      earlier ++ [exchange] <+: runLabels (serviceStep portEnv .high) exchangedPackets zeroProbe
        blockRun →
      Serves portEnv ⟨fun _ => 0#8, unconnected, 0⟩ earlier before →
        PacketFits exchange.slot.buf before.data.link := by
    intro earlier exchange before hearlier hserves
    have hslot := hearlier.map fun exchange : Exchange => exchange.slot.buf 0
    rw [hbytes, List.map_append, List.map_singleton] at hslot
    have hnil : earlier = [] := by
      have hlength := hslot.length_le
      simp only [List.length_append, List.length_map, List.length_singleton] at hlength
      exact List.eq_nil_of_length_eq_zero (by omega)
    subst hnil
    obtain rfl : before = ⟨fun _ => 0#8, unconnected, 0⟩ := by
      generalize hnone : ([] : List Exchange) = exchanges at hserves
      cases hserves with
      | start => rfl
      | packet earlier hresult => simp at hnone
    have hblock : exchange.slot.buf 0 = 0x06#8 := by
      simpa using hslot
    have hlink : unconnected.link.swd = false := rfl
    simp [PacketFits, CommandFits, HandlerFits, TransferBlockFits, handler, hblock, hlink,
      dapPacketSize]
  obtain ⟨after, hserves, hafter⟩ :=
    probe_serves_alone portEnv .high _ _ _ unconnected 0 (fun _ => 0xAA#8) blockRun s hs hfits
  rw [hafter hidle] at hserves
  exact ⟨s, hs, htransmitted, hserves⟩

end ExLink.Dap
