/-
# What a host reads from the DAP port

Every response that was started reaches the wire whole, in order, and a response of
whole packets is followed by an empty packet. To a host that reads `DAP_PACKET_SIZE` bytes
at a time this packet is a read of its own after a response of that length, and ends the
read of a shorter one.
-/

import ExLink.Automata.Transition
import ExLink.Usb.Endpoint

namespace ExLink.Usb

open ExLink.Automata ExLink.Bulk

/-- A port that nothing was sent through yet. -/
def inInit (buf : Buf) : InSession := ⟨⟨buf, false, none, []⟩, none, [], [], [], []⟩

/-- The call holds this response, and got past the checks on entry with it. -/
def CallHolds (conf : InPortConf) (buf : Buf) (response : List Byte) : SendPc → Prop
  | .wait data _ | .copy data =>
      data = response ∧ data ≠ [] ∧ data.length ≤ conf.capacity
  | .mark len | .start len =>
      buf.prefixBytes len = response ∧ response ≠ [] ∧ len ≤ conf.capacity
  | .drain _ => True

/-- The calls that do not touch the port while a transfer is under way. -/
def Waiting : SendPc → Prop
  | .wait _ _ | .drain _ => True
  | .copy _ | .mark _ | .start _ => False

/-- Between marking the port busy and starting the transfer. -/
def starting : Option SendPc → Bool
  | some (.start _) => true
  | _ => false

/-- The response that a call has yet to start. -/
def unstarted (response : List Byte) : Option SendPc → List (List Byte)
  | none | some (.drain _) => []
  | some _ => [response]

/-- The packets still owed while the controller holds a transfer of `len`. -/
def owedPackets (conf : InPortConf) (buf : Buf) (len : ℕ) : List (List Byte) :=
  if len = 0 then [[]] else sentPackets conf (buf.prefixBytes len)

/-- Busy and armed go together but for the two accesses in between, and the wire
carries what was started, up to what the controller still holds. -/
def PortInvariant (conf : InPortConf) (port : InPort) (call : Option SendPc)
    (started : List (List Byte)) : Prop :=
  match port.armed with
  | some len =>
      port.busy = true ∧ (∀ pc ∈ call, Waiting pc) ∧
        started.flatMap (sentPackets conf) = port.wire ++ owedPackets conf port.buf len
  | none =>
      port.busy = starting call ∧ started.flatMap (sentPackets conf) = port.wire

/-- What holds between the call, the port and the responses so far. -/
structure InInvariant (conf : InPortConf) (s : InSession) : Prop where
  holds : ∀ pc ∈ s.call, CallHolds conf s.port.buf s.response pc
  port : PortInvariant conf s.port s.call s.started
  bounded : ∀ response ∈ s.started, response ≠ [] ∧ response.length ≤ conf.capacity
  accepted : (∀ result ∈ s.results, result = 0) →
    s.sent = s.started ++ unstarted s.response s.call

theorem inInvariant_init (conf : InPortConf) (buf : Buf) : InInvariant conf (inInit buf) where
  holds := by simp [inInit]
  port := ⟨rfl, rfl⟩
  bounded := by simp [inInit]
  accepted := fun _ => rfl

/-- The packets of a response and of the empty transfer after it. -/
theorem sentPackets_eq (conf : InPortConf) {len : ℕ} (buf : Buf) :
    sentPackets conf (buf.prefixBytes len) =
      transferPackets conf.mps (buf.prefixBytes len) ++
        if len % conf.mps = 0 then [[]] else [] := by
  rw [sentPackets, Buf.length_prefixBytes]

section Port

variable {conf : InPortConf} {port : InPort} {started : List (List Byte)}

theorem starting_of_waiting {call : Option SendPc} (hcall : ∀ pc ∈ call, Waiting pc) :
    starting call = false := by
  cases call with
  | none => rfl
  | some pc =>
      have hwaiting := hcall pc rfl
      cases pc <;> first | rfl | exact hwaiting.elim

/-- Between its waits a call is free to move. -/
theorem portInvariant_waiting {call call' : Option SendPc} (hnot : starting call = false)
    (hcall : ∀ pc ∈ call', Waiting pc) (inv : PortInvariant conf port call started) :
    PortInvariant conf port call' started := by
  cases harmed : port.armed with
  | some len =>
      simp only [PortInvariant, harmed] at inv ⊢
      exact ⟨inv.1, hcall, inv.2.2⟩
  | none =>
      simp only [PortInvariant, harmed] at inv ⊢
      exact ⟨inv.1.trans (hnot.trans (starting_of_waiting hcall).symm), inv.2⟩

theorem portInvariant_of_none {call : Option SendPc} (hnone : port.armed = none) :
    PortInvariant conf port call started ↔
      port.busy = starting call ∧ started.flatMap (sentPackets conf) = port.wire := by
  rw [PortInvariant, hnone]

/-- Past its first wait a call owns the port. -/
theorem armed_of_owner {pc : SendPc} (howner : ¬ Waiting pc)
    (inv : PortInvariant conf port (some pc) started) : port.armed = none := by
  cases harmed : port.armed with
  | none => rfl
  | some len =>
      simp only [PortInvariant, harmed] at inv
      exact absurd (inv.2.1 pc rfl) howner

/-- An idle port has no transfer under way. -/
theorem armed_of_idle {call : Option SendPc} (hidle : port.busy = false)
    (inv : PortInvariant conf port call started) : port.armed = none := by
  cases harmed : port.armed with
  | none => rfl
  | some len =>
      simp only [PortInvariant, harmed, hidle] at inv
      exact absurd inv.1 (by decide)

end Port

section Steps

variable {conf : InPortConf} {s next : InSession}

/-- A call that gets past the checks on entry is a wait. -/
theorem sendEntry_cases (conf : InPortConf) (data : List Byte) :
    (∃ result, sendEntry conf data = .inl result ∧ result ≠ 0) ∨
      (sendEntry conf data = .inr (.wait data 0) ∧ data ≠ [] ∧
        data.length ≤ conf.capacity) := by
  rw [sendEntry]
  split_ifs with hempty hlong
  · exact .inl ⟨-1, rfl, by decide⟩
  · exact .inl ⟨-3, rfl, by decide⟩
  · refine .inr ⟨rfl, ?_, Nat.le_of_not_lt hlong⟩
    rintro rfl
    exact hempty rfl

theorem inInvariant_send {data : List Byte} (inv : InInvariant conf s)
    (hstep : inStep conf s (.send data) = some next) : InInvariant conf next := by
  cases hcall : s.call with
  | some pc => simp only [inStep, hcall, reduceCtorEq] at hstep
  | none =>
      simp only [inStep, hcall, Option.some.injEq] at hstep
      subst hstep
      have hport := inv.port
      have haccepted := inv.accepted
      simp only [hcall, unstarted, List.append_nil] at hport haccepted
      rcases sendEntry_cases conf data with ⟨result, hentry, hfailed⟩ | ⟨hentry, hnonempty, hfits⟩
      · -- refused on entry: no call, and a result that is not zero
        simp only [hentry, returnValue]
        refine ⟨by simp, hport, inv.bounded, fun hzero => ?_⟩
        exact absurd (hzero result (by simp)) hfailed
      · simp only [hentry, returnValue, List.append_nil]
        refine ⟨?_, ?_, inv.bounded, fun hzero => ?_⟩
        · simpa [CallHolds] using ⟨hnonempty, hfits⟩
        · exact portInvariant_waiting rfl (by simp [Waiting]) hport
        · rw [haccepted hzero]
          rfl

theorem inInvariant_complete (inv : InInvariant conf s)
    (hstep : inStep conf s .complete = some next) : InInvariant conf next := by
  obtain ⟨hholds, hport, hbounded, haccepted⟩ := inv
  simp only [inStep, inComplete] at hstep
  cases harmed : s.port.armed with
  | none => simp only [harmed, Option.map_none, reduceCtorEq] at hstep
  | some len =>
      simp only [PortInvariant, harmed] at hport
      obtain ⟨hbusy, hwaiting, howed⟩ := hport
      have hstarting := starting_of_waiting hwaiting
      simp only [harmed, Option.map_some, Option.some.injEq] at hstep
      subst hstep
      rw [inCb]
      split_ifs with hwhole
      · -- whole packets: the empty transfer is still owed
        refine ⟨hholds, ?_, hbounded, haccepted⟩
        have hne : len ≠ 0 := Nat.ne_of_gt hwhole.1
        rw [owedPackets, if_neg hne, sentPackets_eq, if_pos hwhole.2] at howed
        exact ⟨hbusy, hwaiting, by simpa [owedPackets] using howed⟩
      · refine ⟨hholds, ⟨hstarting.symm, ?_⟩, hbounded, haccepted⟩
        rw [howed, owedPackets]
        split_ifs with hzero
        · rw [hzero]
          rfl
        · have hpart : ¬ len % conf.mps = 0 := fun hmod =>
            hwhole ⟨Nat.pos_of_ne_zero hzero, hmod⟩
          rw [sentPackets_eq, if_neg hpart, List.append_nil]

/-- One access of a call in progress. -/
theorem inInvariant_thread (inv : InInvariant conf s)
    (hstep : inStep conf s .thread = some next) : InInvariant conf next := by
  obtain ⟨hholds, hport, hbounded, haccepted⟩ := inv
  cases hcall : s.call with
  | none => simp only [inStep, hcall, Option.map_none, reduceCtorEq] at hstep
  | some pc =>
      simp only [inStep, hcall, Option.map_some, Option.some.injEq] at hstep
      simp only [hcall, Option.mem_def, Option.some.injEq, forall_eq'] at hholds hport haccepted
      subst hstep
      cases pc with
      | wait data waited =>
          simp only [sendStep]
          split_ifs with hbusy htimeout
          · refine ⟨by simp, portInvariant_waiting rfl (by simp) hport, hbounded, fun hzero => ?_⟩
            exact absurd (hzero (-4) (by simp [returnValue])) (by decide)
          · simp only [returnValue, List.append_nil]
            refine ⟨?_, portInvariant_waiting rfl (by simp [Waiting]) hport, hbounded, haccepted⟩
            rintro _ ⟨rfl⟩
            exact hholds
          · have hnone := armed_of_idle (Bool.not_eq_true _ ▸ hbusy) hport
            have hidle := (portInvariant_of_none hnone).mp hport
            simp only [returnValue, List.append_nil]
            refine ⟨?_, (portInvariant_of_none hnone).mpr hidle, hbounded, haccepted⟩
            rintro _ ⟨rfl⟩
            exact hholds
      | copy data =>
          obtain ⟨rfl, hnonempty, hfits⟩ := hholds
          have hnone := armed_of_owner id hport
          have hidle := (portInvariant_of_none hnone).mp hport
          simp only [sendStep, returnValue, List.append_nil]
          refine ⟨?_, (portInvariant_of_none ?_).mpr hidle, hbounded, haccepted⟩
          · rintro _ ⟨rfl⟩
            exact ⟨Buf.prefixBytes_write _ _, hnonempty, hfits⟩
          · exact hnone
      | mark len =>
          have hnone := armed_of_owner id hport
          have hidle := (portInvariant_of_none hnone).mp hport
          simp only [sendStep, returnValue, List.append_nil]
          refine ⟨?_, (portInvariant_of_none ?_).mpr ⟨rfl, hidle.2⟩, hbounded, haccepted⟩
          · rintro _ ⟨rfl⟩
            exact hholds
          · exact hnone
      | start len =>
          obtain ⟨hbuf, hnonempty, hfits⟩ := hholds
          have hnone := armed_of_owner id hport
          have hlen : s.response.length = len := by rw [← hbuf, Buf.length_prefixBytes]
          have hne : len ≠ 0 := by
            rw [← hlen]
            exact fun hzero => hnonempty (List.length_eq_zero_iff.mp hzero)
          obtain ⟨hbusy, hwire⟩ := (portInvariant_of_none hnone).mp hport
          simp only [sendStep, returnValue, List.append_nil, startedAfter]
          refine ⟨by rintro _ ⟨rfl⟩; trivial, ⟨hbusy, by rintro _ ⟨rfl⟩; trivial, ?_⟩, ?_, ?_⟩
          · simp only [List.flatMap_append, List.flatMap_singleton, hwire, owedPackets,
              if_neg hne, hbuf]
          · intro response hresponse
            rcases List.mem_append.mp hresponse with hold | hnew
            · exact hbounded response hold
            · rw [List.mem_singleton.mp hnew, hlen]
              exact ⟨hnonempty, hfits⟩
          · intro hzero
            rw [haccepted hzero]
            simp [unstarted]
      | drain waited =>
          simp only [sendStep]
          split_ifs with hbusy htimeout
          · refine ⟨by simp, portInvariant_waiting rfl (by simp) hport, hbounded, fun hzero => ?_⟩
            exact absurd (hzero (-6) (by simp [returnValue])) (by decide)
          · simp only [returnValue, List.append_nil]
            refine ⟨by rintro _ ⟨rfl⟩; trivial, portInvariant_waiting rfl (by simp [Waiting]) hport,
              hbounded, haccepted⟩
          · refine ⟨by simp, portInvariant_waiting rfl (by simp) hport, hbounded, fun hzero => ?_⟩
            exact haccepted fun result hresult => hzero result (List.mem_append_left _ hresult)

theorem inInvariant_step (s : InSession) (action : InAction) (next : InSession)
    (inv : InInvariant conf s) (hstep : inStep conf s action = some next) :
    InInvariant conf next := by
  cases action with
  | send data => exact inInvariant_send inv hstep
  | thread => exact inInvariant_thread inv hstep
  | complete => exact inInvariant_complete inv hstep

end Steps

/-! ## Reads of a response -/

/-- What a response is to a host that reads `DAP_PACKET_SIZE` bytes at a time. -/
def dapPackets (response : List Byte) : List (List Byte) :=
  if response.length = 512 then [response, []] else [response]

/-- A response and its empty packet are a read each, or one read together. -/
theorem hostReads_sentPackets (speed : UsbSpeed) {response : List Byte} (hne : response ≠ [])
    (hle : response.length ≤ 512) :
    hostReads speed.mps 512 (sentPackets (dapInPortAt speed) response) = dapPackets response ∧
      unreadFrom speed.mps 512 [] (sentPackets (dapInPortAt speed) response) = [] := by
  rw [hostReads, sentPackets, transferPackets_of_ne hne]
  exact readsFrom_transfer speed.mps_pos speed.mps_dvd hne hle

/-- The same of a stream of responses. -/
theorem hostReads_responses (speed : UsbSpeed) {responses : List (List Byte)}
    (hbounded : ∀ response ∈ responses, response ≠ [] ∧ response.length ≤ 512) :
    hostReads speed.mps 512 (responses.flatMap (sentPackets (dapInPortAt speed))) =
      responses.flatMap dapPackets := by
  induction responses with
  | nil => rfl
  | cons response rest ih =>
      have hfirst := hbounded response List.mem_cons_self
      obtain ⟨hreads, hunread⟩ := hostReads_sentPackets speed hfirst.1 hfirst.2
      have hrest := ih fun later hlater => hbounded later (List.mem_cons_of_mem _ hlater)
      rw [hostReads] at hreads hrest ⊢
      rw [List.flatMap_cons, (readsFrom_append [] _ _).1, hunread, hreads, hrest,
        List.flatMap_cons]

/-- Without its empty reads a stream of responses is the responses. -/
theorem filter_dapPackets {responses : List (List Byte)}
    (hne : ∀ response ∈ responses, response ≠ []) :
    (responses.flatMap dapPackets).filter (· ≠ []) = responses := by
  induction responses with
  | nil => rfl
  | cons response rest ih =>
      have hrest := ih fun later hlater => hne later (List.mem_cons_of_mem _ hlater)
      have hfirst : (dapPackets response).filter (· ≠ []) = [response] := by
        have hresponse := hne response List.mem_cons_self
        rw [dapPackets]
        split_ifs <;> simp [hresponse]
      rw [List.flatMap_cons, List.filter_append, hfirst, hrest, List.singleton_append]

/-- The host reads the started responses, in order. -/
theorem hostReads_started {speed : UsbSpeed} {s : InSession}
    (inv : InInvariant (dapInPortAt speed) s) :
    hostReads speed.mps 512 s.port.wire <+: s.started.flatMap dapPackets := by
  rw [← hostReads_responses speed inv.bounded]
  apply hostReads_prefix
  have hport := inv.port
  cases harmed : s.port.armed with
  | some len =>
      simp only [PortInvariant, harmed] at hport
      exact ⟨_, hport.2.2.symm⟩
  | none => exact ⟨[], by rw [((portInvariant_of_none harmed).mp hport).2, List.append_nil]⟩

/-- Apart from empty reads it reads the started responses, in order. -/
theorem filter_hostReads_started {speed : UsbSpeed} {s : InSession}
    (inv : InInvariant (dapInPortAt speed) s) :
    (hostReads speed.mps 512 s.port.wire).filter (· ≠ []) <+: s.started := by
  have hfilter := (hostReads_started inv).filter (· ≠ [])
  rwa [filter_dapPackets fun response hresponse => (inv.bounded response hresponse).1] at hfilter

/-- A call in progress holds one response at most. -/
theorem length_unstarted (response : List Byte) (call : Option SendPc) :
    (unstarted response call).length ≤ 1 := by
  cases call with
  | none => exact Nat.zero_le 1
  | some pc => cases pc <;> simp [unstarted]

theorem unstarted_eq_nil {response : List Byte} {call : Option SendPc} (hcall : call = none) :
    unstarted response call = [] := by
  rw [hcall]
  rfl

/-- What reads of `DAP_PACKET_SIZE` return, at either speed: in order the started responses,
each of exactly 512 bytes followed by an empty read; all of them once the port is idle. The
k-th read that is not empty is the k-th response. While every call returned 0, the started
responses are the sent ones, but for one that a call still in progress holds. -/
theorem dapReads_responses {speed : UsbSpeed} {buf : Buf} {actions : List InAction}
    {final : InSession}
    (hrun : runActions (inStep (dapInPortAt speed)) (inInit buf) actions = some final) :
    hostReads speed.mps 512 final.port.wire <+: final.started.flatMap dapPackets ∧
      (final.port.busy = false →
        hostReads speed.mps 512 final.port.wire = final.started.flatMap dapPackets) ∧
      (∀ (k : ℕ) (read : List Byte),
        ((hostReads speed.mps 512 final.port.wire).filter (· ≠ []))[k]? = some read →
          final.started[k]? = some read) ∧
      ((∀ result ∈ final.results, result = 0) →
        ∃ missing, final.sent = final.started ++ missing ∧ missing.length ≤ 1 ∧
          (final.call = none → missing = [])) := by
  have inv := runActions_invariant inInvariant_step (inInvariant_init (dapInPortAt speed) buf) hrun
  refine ⟨hostReads_started inv, ?_, ?_, ?_⟩
  · intro hidle
    have hnone := armed_of_idle hidle inv.port
    rw [← ((portInvariant_of_none hnone).mp inv.port).2, hostReads_responses speed inv.bounded]
  · intro k read hread
    obtain ⟨rest, hrest⟩ := filter_hostReads_started inv
    obtain ⟨hlt, -⟩ := List.getElem?_eq_some_iff.mp hread
    rw [← hrest, List.getElem?_append_left hlt, hread]
  · intro hzero
    exact ⟨unstarted final.response final.call, inv.accepted hzero,
      length_unstarted final.response final.call, unstarted_eq_nil⟩

/-- A response of 512 bytes and one of a single byte, each sent and taken by the host. -/
def fullThenShort : List InAction :=
  [.send (List.replicate 512 0), .thread, .thread, .thread, .thread, .complete, .complete,
    .thread, .send [1], .thread, .thread, .thread, .thread, .complete, .thread]

theorem dapReads_responses_fullThenShort :
    ((runActions (inStep (dapInPortAt .high)) (inInit fun _ => 0) fullThenShort).any fun final =>
        final.results = [0, 0] ∧ final.call.isNone ∧
          final.sent = [List.replicate 512 0, [1]]) = true ∧
      ∀ final, runActions (inStep (dapInPortAt .high)) (inInit fun _ => 0) fullThenShort = some final →
        hostReads UsbSpeed.high.mps 512 final.port.wire <+: final.started.flatMap dapPackets ∧
        ((∀ result ∈ final.results, result = 0) →
          ∃ missing, final.sent = final.started ++ missing ∧ missing.length ≤ 1 ∧
            (final.call = none → missing = [])) :=
  ⟨by decide +kernel, fun _ hrun =>
    ⟨(dapReads_responses hrun).1, (dapReads_responses hrun).2.2.2⟩⟩

/-- The second read is the empty packet, not the second response. -/
theorem dapReads_shifted :
    ¬ ∀ (buf : Buf) (actions : List InAction) (final : InSession),
        runActions (inStep (dapInPortAt .high)) (inInit buf) actions = some final →
        (∀ response ∈ final.sent, 1 ≤ response.length ∧ response.length ≤ 512) →
        ∀ (k : ℕ) (read : List Byte),
          (hostReads UsbSpeed.high.mps 512 final.port.wire)[k]? = some read →
          final.sent[k]? = some read := by
  intro hclaim
  have hrun : ((runActions (inStep (dapInPortAt .high)) (inInit fun _ => 0) fullThenShort).map
      fun final => (final.sent, (hostReads UsbSpeed.high.mps 512 final.port.wire)[1]?)) =
        some ([List.replicate 512 0, [1]], some []) := by
    decide +kernel
  obtain ⟨final, hfinal, hshown⟩ := Option.map_eq_some_iff.mp hrun
  obtain ⟨hsent, hread⟩ := Prod.mk.inj hshown
  have hbounds : ∀ response ∈ final.sent, 1 ≤ response.length ∧ response.length ≤ 512 := by
    simp only [hsent, List.mem_cons, List.not_mem_nil, or_false]
    rintro response (rfl | rfl)
    · rw [List.length_replicate]
      decide
    · decide
  have hsecond := hclaim _ _ final hfinal hbounds 1 [] hread
  rw [hsent] at hsecond
  exact absurd hsecond (by decide)

end ExLink.Usb
