/-
# Which responses reach the host

The engine sends one response after the other through the IN port, and goes on whatever
became of it. A response whose transfer was started reaches the host before any later
one. A response can also be given up before that: it is empty or does not fit the port,
or the host leaves an earlier transfer alone until the send times out.
-/

import ExLink.Dap.Delivery
import ExLink.Usb.DapResponses

namespace ExLink.Dap

open ExLink.Automata ExLink.Bulk ExLink.Usb

/-! ## What a run is judged by -/

/-- The requests that arrive and are accepted. -/
def acceptedOut (s : DapState) : DapAction → List (List Byte)
  | .out packet =>
      if packet.bytes.length = 0 then [] else acceptedBy s (.submit packet.bytes)
  | .thread | .execute _ _ | .complete => []

/-- The response that `DAP_ExecuteCommand` left, as long as it says. -/
def responseOf (resp : Buf) (result : Word32) : List Byte :=
  resp.prefixBytes (result &&& 0xFFFF#32).toNat

/-- The executed requests, each with its response. -/
def exchangedBy (s : DapState) : DapAction → List (List Byte × List Byte)
  | .execute resp result => [(s.queue.ring.front.request, responseOf resp result)]
  | .out _ | .thread | .complete => []

/-- What became of a response, once that is decided: `true` when its transfer is started;
`false` when it is empty or too long to be sent, or when an earlier transfer was still
pending at the end of the wait. -/
def settledBy (s : DapState) : DapAction → List (List Byte × Bool)
  | .execute resp result =>
      match sendEntry dapInPort (responseOf resp result) with
      | .inl _ => [(responseOf resp result, false)]
      | .inr _ => []
  | .thread =>
      match s.pc with
      | .send (.wait data waited) =>
          if s.port.busy ∧ dapInPort.timeoutMs ≤ waited then [(data, false)] else []
      | .send (.start len) => [(s.port.buf.prefixBytes len, true)]
      | _ => []
  | .out _ | .complete => []

/-- The responses whose transfer was started. -/
def startedOf (settled : List (List Byte × Bool)) : List (List Byte) :=
  (settled.filter Prod.snd).map Prod.fst

/-- The response whose send has not started its transfer yet. -/
def inProgress (s : DapState) : List (List Byte) :=
  match s.pc with
  | .send (.wait data _) | .send (.copy data) => [data]
  | .send (.mark len) | .send (.start len) => [s.port.buf.prefixBytes len]
  | _ => []

/-- The responses that the host took: its reads of `DAP_PACKET_SIZE`, but for empty ones. -/
def transmitted (speed : UsbSpeed) (s : DapState) : List (List Byte) :=
  (hostReads speed.mps dapPacketSize s.port.wire).filter (· ≠ [])

/-! ## The invariant -/

/-- The send that the thread is in. -/
def callOf : EnginePc → Option SendPc
  | .send pc => some pc
  | .take | .check | .execute | .advance | .print => none

/-- The port is used as by a caller that sends the responses one after the other, and
every response was settled, in order, or is in progress. -/
structure Settles (speed : UsbSpeed) (responses : List (List Byte))
    (settled : List (List Byte × Bool)) (s : DapState) : Prop where
  session : ∃ t : InSession, InInvariant (dapInPortAt speed) t ∧ t.port = s.port ∧
    t.call = callOf s.pc ∧ t.started = startedOf settled
  ordered : settled.map Prod.fst ++ inProgress s = responses

theorem settles_init (speed : UsbSpeed) (cells : Fin dapReqSlots → DapReqSlot) (resp buf : Buf) :
    Settles speed [] [] (dapInit cells resp buf) where
  session := ⟨inInit buf, inInvariant_init (dapInPortAt speed) buf, rfl, rfl, rfl⟩
  ordered := rfl

theorem callOf_sendNext (result : ℤ ⊕ SendPc) : callOf (sendNext result) = result.getRight? := by
  cases result <;> rfl

theorem inProgress_of_call {speed : UsbSpeed} {s : DapState} {t : InSession}
    (inv : InInvariant (dapInPortAt speed) t) (hport : t.port = s.port) (hcall : t.call = callOf s.pc) :
    inProgress s = unstarted t.response t.call := by
  have hholds := inv.holds
  rw [hcall] at hholds ⊢
  cases hpc : s.pc with
  | send pc =>
      have hpcHolds := hholds pc (by rw [hpc]; rfl)
      rw [hport] at hpcHolds
      cases pc with
      | wait data waited => simp only [inProgress, hpc, callOf, unstarted, hpcHolds.1]
      | copy data => simp only [inProgress, hpc, callOf, unstarted, hpcHolds.1]
      | mark len => simp only [inProgress, hpc, callOf, unstarted, hpcHolds.1]
      | start len => simp only [inProgress, hpc, callOf, unstarted, hpcHolds.1]
      | drain waited => simp only [inProgress, hpc, callOf, unstarted]
  | take | check | execute | advance | print => simp only [inProgress, hpc, callOf, unstarted]

@[simp]
theorem startedOf_append (first second : List (List Byte × Bool)) :
    startedOf (first ++ second) = startedOf first ++ startedOf second := by
  rw [startedOf, List.filter_append, List.map_append]
  rfl

section Steps

variable {speed : UsbSpeed} {responses : List (List Byte)}
  {settled : List (List Byte × Bool)} {s next : DapState}

/-- One access of a send settles its response or keeps it in progress. -/
theorem settledBy_send {pc : SendPc} (hpc : s.pc = .send pc) (hstep : engineStep s = some next) :
    (settledBy s .thread).map Prod.fst ++ inProgress next = inProgress s := by
  simp only [engineStep, hpc, Option.some.injEq] at hstep
  subst hstep
  cases pc with
  | wait data waited =>
      by_cases hbusy : s.port.busy = true
      · by_cases htimeout : dapInPort.timeoutMs ≤ waited
        · simp [settledBy, inProgress, hpc, sendStep, sendNext, hbusy, htimeout]
        · simp [settledBy, inProgress, hpc, sendStep, sendNext, hbusy, htimeout]
      · simp [settledBy, inProgress, hpc, sendStep, sendNext, hbusy]
  | copy data => simp [settledBy, inProgress, hpc, sendStep, sendNext]
  | mark len => simp [settledBy, inProgress, hpc, sendStep, sendNext]
  | start len => simp [settledBy, inProgress, hpc, sendStep, sendNext]
  | drain waited =>
      simp only [settledBy, inProgress, hpc, sendStep, List.map_nil, List.nil_append]
      split_ifs <;> rfl

theorem startedAfter_eq (settled : List (List Byte × Bool)) {pc : SendPc} {t : InSession}
    (hpc : s.pc = .send pc) (inv : InInvariant (dapInPortAt speed) t) (hport : t.port = s.port)
    (hcall : t.call = callOf s.pc) :
    startedAfter pc t.response (startedOf settled) =
      startedOf (settled ++ settledBy s .thread) := by
  have hholds := inv.holds pc (by rw [hcall, hpc]; rfl)
  rw [startedOf_append]
  cases pc with
  | wait data waited =>
      simp only [startedAfter, settledBy, hpc]
      split_ifs <;> simp [startedOf]
  | copy data => simp [startedAfter, settledBy, hpc, startedOf]
  | mark len => simp [startedAfter, settledBy, hpc, startedOf]
  | start len =>
      have hresponse : s.port.buf.prefixBytes len = t.response := hport ▸ hholds.1
      simp [startedAfter, settledBy, hpc, startedOf, hresponse]
  | drain waited => simp [startedAfter, settledBy, hpc, startedOf]

/-- One access of the thread. -/
theorem settles_thread (inv : Settles speed responses settled s)
    (hstep : engineStep s = some next) :
    Settles speed responses (settled ++ settledBy s .thread) next := by
  obtain ⟨⟨t, hinv, hport, hcall, hstarted⟩, hordered⟩ := inv
  cases hpc : s.pc with
  | send pc =>
      have hmoved := settledBy_send hpc hstep
      have hstartedNext := startedAfter_eq settled hpc hinv hport hcall
      have hsame := sendStep_dapInPortAt speed pc s.port
      rw [hpc, callOf] at hcall
      simp only [engineStep, hpc, Option.some.injEq] at hstep
      subst hstep
      refine ⟨⟨_, inInvariant_thread hinv (by rw [inStep, hcall]; rfl), ?_, ?_, ?_⟩, ?_⟩
      · rw [hport]
        exact congrArg Prod.snd hsame
      · rw [hport, callOf_sendNext]
        exact congrArg (fun result => result.1.getRight?) hsame
      · change startedAfter pc t.response t.started = _
        rw [hstarted, hstartedNext]
      · rw [List.map_append, List.append_assoc, hmoved, hordered]
  | execute => simp only [engineStep, hpc, reduceCtorEq] at hstep
  | take =>
      simp only [engineStep, hpc] at hstep
      split_ifs at hstep
      obtain rfl := Option.some.inj hstep
      simp only [settledBy, hpc, List.append_nil]
      rw [hpc] at hcall
      simp only [inProgress, hpc] at hordered
      exact ⟨⟨t, hinv, hport, hcall, hstarted⟩, hordered⟩
  | check =>
      simp only [engineStep, hpc, Option.some.injEq] at hstep
      subst hstep
      simp only [settledBy, hpc, List.append_nil]
      rw [hpc] at hcall
      simp only [inProgress, hpc] at hordered
      by_cases hempty : s.queue.ring.Empty
      · simp only [if_pos hempty]
        exact ⟨⟨t, hinv, hport, hcall, hstarted⟩, hordered⟩
      · simp only [if_neg hempty]
        exact ⟨⟨t, hinv, hport, hcall, hstarted⟩, hordered⟩
  | advance | print =>
      simp only [engineStep, hpc, Option.some.injEq] at hstep
      subst hstep
      simp only [settledBy, hpc, List.append_nil]
      rw [hpc] at hcall
      simp only [inProgress, hpc] at hordered
      exact ⟨⟨t, hinv, hport, hcall, hstarted⟩, hordered⟩

/-- An empty response is one of those that a send refuses on entry. -/
theorem engineExecute_eq {resp : Buf} {result : Word32} (hpc : s.pc = .execute) :
    engineExecute resp result s =
      some { s with
        resp := resp
        pc := sendNext (sendEntry dapInPort (responseOf resp result)) } := by
  have hentry : (if (result &&& 0xFFFF#32).toNat = 0 then EnginePc.advance
      else sendNext (sendEntry dapInPort (responseOf resp result))) =
      sendNext (sendEntry dapInPort (responseOf resp result)) := by
    by_cases hempty : (result &&& 0xFFFF#32).toNat = 0
    · rw [if_pos hempty, responseOf, hempty]
      rfl
    · rw [if_neg hempty]
  rw [← hentry, engineExecute, hpc]
  rfl

/-- An execution hands its response to the send, or gives it up at once. -/
theorem settles_execute {resp : Buf} {result : Word32} (inv : Settles speed responses settled s)
    (hstep : engineExecute resp result s = some next) :
    Settles speed (responses ++ [responseOf resp result])
      (settled ++ settledBy s (.execute resp result)) next := by
  obtain ⟨⟨t, hinv, hport, hcall, hstarted⟩, hordered⟩ := inv
  cases hpc : s.pc with
  | execute =>
      rw [hpc, callOf] at hcall
      simp only [inProgress, hpc, List.append_nil] at hordered
      rw [engineExecute_eq hpc] at hstep
      obtain rfl := Option.some.inj hstep
      have hsent : inStep (dapInPortAt speed) t (.send (responseOf resp result)) = some
          { t with
            call := (sendEntry dapInPort (responseOf resp result)).getRight?
            response := responseOf resp result
            sent := t.sent ++ [responseOf resp result]
            results := t.results ++ returnValue (sendEntry dapInPort (responseOf resp result)) } := by
        simp only [inStep, hcall, sendEntry_dapInPortAt]
      refine ⟨⟨_, inInvariant_send hinv hsent, hport, (callOf_sendNext _).symm, ?_⟩, ?_⟩
      · rw [startedOf_append, hstarted, settledBy]
        cases sendEntry dapInPort (responseOf resp result) <;> simp [startedOf]
      · rw [List.map_append, List.append_assoc, hordered, settledBy]
        rcases sendEntry_cases dapInPort (responseOf resp result) with
          ⟨ret, hentry, -⟩ | ⟨hentry, -⟩
        · simp [hentry, sendNext, inProgress]
        · simp [hentry, sendNext, inProgress]
  | take | check | send _ | advance | print =>
      simp only [engineExecute, hpc, reduceCtorEq] at hstep

/-- The host takes a transfer. -/
theorem settles_complete (inv : Settles speed responses settled s)
    (hstep : dapStep speed s .complete = some next) : Settles speed responses settled next := by
  obtain ⟨⟨t, hinv, hport, hcall, hstarted⟩, hordered⟩ := inv
  have hprogress := inProgress_of_call hinv hport hcall
  obtain ⟨port, hcomplete, rfl⟩ := Option.map_eq_some_iff.mp hstep
  have htaken : inStep (dapInPortAt speed) t .complete = some { t with port := port } := by
    rw [inStep, hport, hcomplete]
    rfl
  have hnext := inInvariant_complete hinv htaken
  have hafter := @inProgress_of_call speed
    { s with port := port, answered := s.answered + pendingData s.port }
    { t with port := port } hnext rfl hcall
  refine ⟨⟨_, hnext, rfl, hcall, hstarted⟩, ?_⟩
  rw [hafter, ← hprogress, hordered]

/-- One action, whoever takes it. -/
theorem settles_step (exchanged : List (List Byte × List Byte))
    (settled : List (List Byte × Bool)) (s : DapState) (action : DapAction) (next : DapState)
    (inv : Settles speed (exchanged.map Prod.snd) settled s)
    (hstep : dapStep speed s action = some next) :
    Settles speed ((exchanged ++ exchangedBy s action).map Prod.snd)
      (settled ++ settledBy s action) next := by
  cases action with
  | out packet =>
      obtain rfl := Option.some.inj hstep
      obtain ⟨⟨t, hinv, hport, hcall, hstarted⟩, hordered⟩ := inv
      simp only [exchangedBy, settledBy, List.append_nil]
      rw [dapOutCb]
      split_ifs
      · exact ⟨⟨t, hinv, hport, hcall, hstarted⟩, hordered⟩
      · exact ⟨⟨t, hinv, hport, hcall, hstarted⟩, hordered⟩
  | thread => simpa only [exchangedBy, List.append_nil] using settles_thread inv hstep
  | execute resp result =>
      simpa only [exchangedBy, List.map_append, List.map_singleton] using
        settles_execute inv hstep
  | complete =>
      simpa only [exchangedBy, settledBy, List.append_nil] using settles_complete inv hstep

/-- The callback is a submission, whatever it counts. -/
theorem delivers_dapStep (accepted : List (List Byte)) (exchanged : List (List Byte × List Byte))
    (s : DapState) (action : DapAction) (next : DapState)
    (inv : Delivers accepted (exchanged.map Prod.fst) s)
    (hstep : dapStep speed s action = some next) :
    Delivers (accepted ++ acceptedOut s action)
      ((exchanged ++ exchangedBy s action).map Prod.fst) next := by
  cases action with
  | out packet =>
      obtain rfl := Option.some.inj hstep
      simp only [exchangedBy, acceptedOut, List.append_nil]
      rw [dapOutCb]
      split_ifs with hdata
      · rwa [List.append_nil]
      · have hsubmit := delivers_submit inv packet.bytes
        exact ⟨hsubmit.ordered, hsubmit.holds, hsubmit.awake⟩
  | thread =>
      simpa only [exchangedBy, acceptedOut, List.append_nil] using delivers_thread inv hstep
  | execute resp result =>
      have hexecuted := delivers_execute inv hstep
      simpa only [exchangedBy, executedBy, acceptedOut, List.append_nil, List.map_append,
        List.map_singleton] using hexecuted
  | complete =>
      obtain ⟨port, -, rfl⟩ := Option.map_eq_some_iff.mp hstep
      simp only [exchangedBy, acceptedOut, List.append_nil]
      exact ⟨inv.ordered, inv.holds, inv.awake⟩

end Steps

/-! ## Runs -/

/-- The responses of the accepted requests are settled in order, and the host takes those
whose transfer was started, in that order: the response to a request does not reach the
host unless each earlier one did or was given up before its transfer was started. If
none was given up, the host takes a prefix of the responses. -/
theorem dapEngine_transmits (speed : UsbSpeed) (cells : Fin dapReqSlots → DapReqSlot)
    (resp buf : Buf) (actions : List DapAction) (s : DapState)
    (hrun : runActions (dapStep speed) (dapInit cells resp buf) actions = some s) :
    let accepted := runLabels (dapStep speed) acceptedOut (dapInit cells resp buf) actions
    let exchanged := runLabels (dapStep speed) exchangedBy (dapInit cells resp buf) actions
    let settled := runLabels (dapStep speed) settledBy (dapInit cells resp buf) actions
    exchanged.map Prod.fst <+: accepted ∧
      settled.map Prod.fst ++ inProgress s = exchanged.map Prod.snd ∧
      transmitted speed s <+: startedOf settled ∧
      ((∀ entry ∈ settled, entry.2 = true) → transmitted speed s <+: exchanged.map Prod.snd) := by
  intro accepted exchanged settled
  have delivers : Delivers accepted (exchanged.map Prod.fst) s :=
    runLabels_history (fun accepted exchanged s => Delivers accepted (exchanged.map Prod.fst) s)
      delivers_dapStep (delivers_init cells resp buf) hrun
  have settles : Settles speed (exchanged.map Prod.snd) settled s :=
    runLabels_history (fun exchanged settled s => Settles speed (exchanged.map Prod.snd) settled s)
      settles_step (settles_init speed cells resp buf) hrun
  obtain ⟨⟨t, hinv, hport, -, hstarted⟩, hordered⟩ := settles
  have hwire : transmitted speed s <+: startedOf settled := by
    have htaken := filter_hostReads_started hinv
    rwa [hport, hstarted] at htaken
  refine ⟨⟨waiting s, delivers.ordered⟩, hordered, hwire, fun hall => ?_⟩
  have hstartedAll : startedOf settled = settled.map Prod.fst := by
    rw [startedOf, List.filter_eq_self.mpr hall]
  rw [hstartedAll] at hwire
  exact hwire.trans ⟨inProgress s, hordered⟩

/-! ## Two runs -/

/-- The execution of a request with a response of one byte. -/
def executedWith (byte : Byte) : DapAction := .execute (Buf.ofList [byte]) 1#32

/-- A request is sent, executed and its response handed to the send. -/
def requestAnswered (byte : Byte) : List DapAction :=
  [infoRequest, .thread, .thread, executedWith byte]

/-- The host leaves the first response alone for two seconds: the first send times out
after its transfer was started, the second one before, and the third response is what
the host takes next. -/
def secondSkipped : List DapAction :=
  requestAnswered 1#8 ++ List.replicate 1005 .thread ++ [.thread, .thread] ++
    [infoRequest, .thread, executedWith 2#8] ++ List.replicate 1001 .thread ++
    [.thread, .thread, .complete] ++
    [infoRequest, .thread, executedWith 3#8, .thread, .thread, .thread, .thread, .complete]

/-- The wire has the responses whose transfers were started. -/
theorem dapEngine_transmits_secondSkipped :
    ∃ s, runActions (dapStep .high) zeroInit secondSkipped = some s ∧
      transmitted .high s = [[1#8], [3#8]] ∧
      runLabels (dapStep .high) settledBy zeroInit secondSkipped =
        [([1#8], true), ([2#8], false), ([3#8], true)] ∧
      transmitted .high s <+: startedOf [([1#8], true), ([2#8], false), ([3#8], true)] := by
  have hsettled : runLabels (dapStep .high) settledBy zeroInit secondSkipped =
      [([1#8], true), ([2#8], false), ([3#8], true)] := by
    decide +kernel
  have hwire : (runActions (dapStep .high) zeroInit secondSkipped).map (transmitted .high) =
      some [[1#8], [3#8]] := by
    decide +kernel
  obtain ⟨s, hrun, htransmitted⟩ := Option.map_eq_some_iff.mp hwire
  have hearlier := (dapEngine_transmits .high _ _ _ secondSkipped s hrun).2.2.1
  rw [← zeroInit, hsettled] at hearlier
  exact ⟨s, hrun, htransmitted, hsettled, hearlier⟩

theorem dapEngine_skips_response :
    ¬ ∀ (cells : Fin dapReqSlots → DapReqSlot) (resp buf : Buf) (actions : List DapAction)
        (s : DapState), runActions (dapStep .high) (dapInit cells resp buf) actions = some s →
        transmitted .high s <+:
          (runLabels (dapStep .high) exchangedBy (dapInit cells resp buf) actions).map Prod.snd := by
  intro hclaim
  have hrun : (runActions (dapStep .high) zeroInit secondSkipped).map (transmitted .high) =
      some [[1#8], [3#8]] := by
    decide +kernel
  have hresponses : (runLabels (dapStep .high) exchangedBy zeroInit secondSkipped).map Prod.snd =
      [[1#8], [2#8], [3#8]] := by
    decide +kernel
  obtain ⟨s, hfinal, htransmitted⟩ := Option.map_eq_some_iff.mp hrun
  have hskipped := hclaim _ _ _ secondSkipped s hfinal
  rw [htransmitted, ← zeroInit, hresponses] at hskipped
  exact absurd hskipped (by decide)

end ExLink.Dap
