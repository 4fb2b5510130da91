/-
# When the request ring refuses a request

The ring has room for `DAP_PACKET_COUNT` requests, but the request at the tail keeps its
slot until its send returns. From the moment the host takes the response until the tail
moves, the ring therefore counts a request that the host no longer counts. That window
is the only place where a host that keeps its bound finds the ring full.
-/

import ExLink.Dap.Engine

namespace ExLink.Dap

open ExLink.Automata ExLink.Usb

/-! ## The host's bound and the window -/

/-- A host that never has more than `DAP_PACKET_COUNT` requests unanswered. -/
def WithinCount (s : DapState) : DapAction → Prop
  | .out packet => packet.bytes.length = 0 ∨ s.received + 1 ≤ s.answered + dapPacketCount
  | .thread | .execute _ _ | .complete => True

instance (s : DapState) (action : DapAction) : Decidable (WithinCount s action) :=
  match action with
  | .out _ => inferInstanceAs (Decidable (_ ∨ _))
  | .thread | .execute _ _ | .complete => inferInstanceAs (Decidable True)

/-- The host took the response to the request at the tail, whose slot is still held. -/
def TailAnswered (s : DapState) : Prop := s.tailStarted = true ∧ pendingData s.port = 0

/-- No request arrives in the window while another one waits behind the tail. -/
def OutsideWindow (s : DapState) : DapAction → Prop
  | .out packet => packet.bytes.length = 0 ∨ ¬ (TailAnswered s ∧ 1 < s.queue.ring.size)
  | .thread | .execute _ _ | .complete => True

instance (s : DapState) (action : DapAction) : Decidable (OutsideWindow s action) :=
  match action with
  | .out _ => inferInstanceAs (Decidable (_ ∨ ¬ ((_ ∧ _) ∧ _)))
  | .thread | .execute _ _ | .complete => inferInstanceAs (Decidable True)

/-- The engine with a host that keeps its bound. -/
abbrev hostStep (speed : UsbSpeed) : DapState → DapAction → Option DapState :=
  restrict (dapStep speed) WithinCount

/-! ## The invariant -/

/-- The thread uses the slot at the tail. -/
def HoldsSlot : EnginePc → Prop
  | .execute | .send _ | .advance => True
  | .take | .check | .print => False

/-- The transfer of the response was started. -/
def AfterStart : EnginePc → Prop
  | .send (.drain _) | .advance => True
  | _ => False

/-- While nothing was refused: every request that arrived was released or is in the
ring, and the host took at most the responses of the released requests and the one to
the request at the tail. -/
structure EngineInvariant (s : DapState) : Prop where
  refused : s.refused = 0
  dropped : s.queue.dropped = 0
  counted : s.received = s.released + s.queue.ring.size
  holds : HoldsSlot s.pc → ¬ s.queue.ring.Empty
  started : s.tailStarted = true → AfterStart s.pc
  answered : s.answered + pendingData s.port ≤ s.released + s.tailStarted.toNat

theorem engineInvariant_init (cells : Fin dapReqSlots → DapReqSlot) (resp buf : Buf) :
    EngineInvariant (dapInit cells resp buf) where
  refused := rfl
  dropped := rfl
  counted := by simp [dapInit, Ring.size, dapReqSlots]
  holds := False.elim
  started := fun hstarted => nomatch hstarted
  answered := Nat.le_refl 0

theorem pendingData_le_one (port : InPort) : pendingData port ≤ 1 := by
  rw [pendingData]
  split <;> decide

theorem pendingData_of_armed {first second : InPort} (harmed : first.armed = second.armed) :
    pendingData first = pendingData second := by
  rw [pendingData, pendingData, harmed]

/-- After a completion at most an empty transfer is left. -/
theorem pendingData_inComplete {conf : InPortConf} {port next : InPort}
    (hnext : inComplete conf port = some next) : pendingData next = 0 := by
  obtain ⟨len, -, rfl⟩ := Option.map_eq_some_iff.mp hnext
  rw [inCb]
  split_ifs <;> rfl

/-- Only the start of a transfer arms the endpoint. -/
theorem armed_sendStep (conf : InPortConf) {pc : SendPc} (port : InPort)
    (hpc : ∀ len, pc ≠ .start len) : (sendStep conf pc port).2.armed = port.armed := by
  cases pc with
  | start len => exact absurd rfl (hpc len)
  | wait data waited => rfl
  | copy data => rfl
  | mark len => rfl
  | drain waited => rfl

section Steps

variable {speed : UsbSpeed} {s next : DapState}

/-- A full ring means that the host holds the response of the request at the tail. -/
theorem tailAnswered_of_full (inv : EngineInvariant s) (hfull : s.queue.ring.Full)
    (hbound : s.received + 1 ≤ s.answered + dapPacketCount) :
    TailAnswered s ∧ 1 < s.queue.ring.size := by
  have hsize : s.queue.ring.size + 1 = 3 := s.queue.ring.full_iff_size.mp hfull
  have hcounted := inv.counted
  have hanswered := inv.answered
  simp only [dapPacketCount] at hbound
  cases hstarted : s.tailStarted with
  | false =>
      rw [hstarted, Bool.toNat_false] at hanswered
      omega
  | true =>
      rw [hstarted, Bool.toNat_true] at hanswered
      refine ⟨⟨hstarted, ?_⟩, ?_⟩ <;> omega

/-- A request that finds room. -/
theorem dapOutCb_of_room {packet : OutPacket} (hdata : packet.bytes.length ≠ 0)
    (room : ¬ s.queue.ring.Full) :
    ∃ slot, dapOutCb packet s =
      { s with
        queue :=
          { s.queue with ring := s.queue.ring.push slot, sem := rtSemRelease s.queue.sem }
        received := s.received + 1 } := by
  rw [dapOutCb, if_neg hdata, dapEngineSubmit, if_neg room]
  exact ⟨_, rfl⟩

theorem dapOutCb_of_full {packet : OutPacket} (hdata : packet.bytes.length ≠ 0)
    (hfull : s.queue.ring.Full) : (dapOutCb packet s).refused = s.refused + 1 := by
  simp only [dapOutCb, if_neg hdata, dapEngineSubmit, if_pos hfull]
  rfl

theorem engineInvariant_out {packet : OutPacket} (inv : EngineInvariant s)
    (hroom : packet.bytes.length = 0 ∨ ¬ s.queue.ring.Full) :
    EngineInvariant (dapOutCb packet s) := by
  by_cases hdata : packet.bytes.length = 0
  · rw [dapOutCb, if_pos hdata]
    exact inv
  · have room := hroom.resolve_left hdata
    obtain ⟨slot, hout⟩ := dapOutCb_of_room hdata room
    have hsize : (s.queue.ring.push slot).size = s.queue.ring.size + 1 := Ring.size_push room
    rw [hout]
    refine ⟨inv.refused, inv.dropped, ?_, ?_, inv.started, inv.answered⟩
    · simp only [hsize, inv.counted, Nat.add_assoc]
    · intro _ hempty
      rw [Ring.empty_iff_size, hsize] at hempty
      exact absurd hempty (Nat.succ_ne_zero _)

theorem engineInvariant_send {pc : SendPc} (inv : EngineInvariant s) (hpc : s.pc = .send pc)
    (hstep : engineStep s = some next) : EngineInvariant next := by
  have hholds : ¬ s.queue.ring.Empty := inv.holds (by rw [hpc]; trivial)
  have hnot : (∀ waited, pc ≠ .drain waited) → s.tailStarted = false := by
    intro hbefore
    by_contra hstarted
    have hafter := inv.started (Bool.not_eq_false _ ▸ hstarted)
    rw [hpc] at hafter
    cases pc with
    | drain waited => exact hbefore waited rfl
    | wait data waited => exact hafter
    | copy data => exact hafter
    | mark len => exact hafter
    | start len => exact hafter
  simp only [engineStep, hpc, Option.some.injEq] at hstep
  subst hstep
  refine ⟨inv.refused, inv.dropped, inv.counted, fun _ => hholds, ?_, ?_⟩
  · -- only the start of the transfer sets the mark, and a drain keeps it
    intro hstarted
    cases pc with
    | start len => trivial
    | drain waited =>
        simp only [sendStep]
        split_ifs <;> trivial
    | wait data waited => exact absurd hstarted (by simp [hnot])
    | copy data => exact absurd hstarted (by simp [hnot])
    | mark len => exact absurd hstarted (by simp [hnot])
  · have hanswered := inv.answered
    by_cases hstart : ∃ len, pc = .start len
    · obtain ⟨len, rfl⟩ := hstart
      have hone := pendingData_le_one (sendStep dapInPort (.start len) s.port).2
      rw [hnot (by simp), Bool.toNat_false] at hanswered
      simp only [Bool.toNat_true]
      omega
    · have hother : ∀ len, pc ≠ .start len := fun len heq => hstart ⟨len, heq⟩
      have hsame := pendingData_of_armed (armed_sendStep dapInPort s.port hother)
      cases pc with
      | start len => exact absurd rfl (hother len)
      | wait data waited => simpa only [hsame] using hanswered
      | copy data => simpa only [hsame] using hanswered
      | mark len => simpa only [hsame] using hanswered
      | drain waited => simpa only [hsame] using hanswered

theorem engineInvariant_thread (inv : EngineInvariant s) (hstep : engineStep s = some next) :
    EngineInvariant next := by
  cases hpc : s.pc with
  | take =>
      simp only [engineStep, hpc] at hstep
      split_ifs at hstep
      obtain rfl := Option.some.inj hstep
      refine ⟨inv.refused, inv.dropped, inv.counted, False.elim, fun hstarted => ?_, inv.answered⟩
      exact (hpc ▸ inv.started hstarted : AfterStart .take).elim
  | check =>
      simp only [engineStep, hpc, Option.some.injEq] at hstep
      subst hstep
      refine ⟨inv.refused, inv.dropped, inv.counted, ?_, fun hstarted => ?_, inv.answered⟩
      · intro hholds hempty
        simp only [if_pos hempty] at hholds
        exact hholds
      · exact (hpc ▸ inv.started hstarted : AfterStart .check).elim
  | execute => simp only [engineStep, hpc, reduceCtorEq] at hstep
  | send pc => exact engineInvariant_send inv hpc hstep
  | advance =>
      simp only [engineStep, hpc, Option.some.injEq] at hstep
      subst hstep
      have hholds : ¬ s.queue.ring.Empty := inv.holds (by rw [hpc]; trivial)
      have hsize := Ring.size_pop hholds
      have hcounted := inv.counted
      have hanswered := inv.answered
      have hone := s.tailStarted.toNat_le
      refine ⟨inv.refused, inv.dropped, ?_, False.elim, (fun hstarted => nomatch hstarted), ?_⟩
      · simp only
        omega
      · simp only [Bool.toNat_false]
        omega
  | print =>
      simp only [engineStep, hpc, Option.some.injEq] at hstep
      subst hstep
      refine ⟨inv.refused, inv.dropped, inv.counted, False.elim, fun hstarted => ?_, inv.answered⟩
      exact (hpc ▸ inv.started hstarted : AfterStart .print).elim

theorem engineInvariant_execute {resp : Buf} {result : Word32} (inv : EngineInvariant s)
    (hstep : engineExecute resp result s = some next) : EngineInvariant next := by
  cases hpc : s.pc with
  | execute =>
      have hholds : ¬ s.queue.ring.Empty := inv.holds (by rw [hpc]; trivial)
      simp only [engineExecute, hpc, Option.some.injEq] at hstep
      subst hstep
      refine ⟨inv.refused, inv.dropped, inv.counted, fun _ => hholds, ?_, inv.answered⟩
      intro hstarted
      exact (hpc ▸ inv.started hstarted : AfterStart .execute).elim
  | take => simp only [engineExecute, hpc, reduceCtorEq] at hstep
  | check => simp only [engineExecute, hpc, reduceCtorEq] at hstep
  | send pc => simp only [engineExecute, hpc, reduceCtorEq] at hstep
  | advance => simp only [engineExecute, hpc, reduceCtorEq] at hstep
  | print => simp only [engineExecute, hpc, reduceCtorEq] at hstep

theorem engineInvariant_complete (inv : EngineInvariant s)
    (hstep : dapStep speed s .complete = some next) : EngineInvariant next := by
  obtain ⟨port, hport, rfl⟩ := Option.map_eq_some_iff.mp hstep
  refine ⟨inv.refused, inv.dropped, inv.counted, inv.holds, inv.started, ?_⟩
  simp only [pendingData_inComplete hport, Nat.add_zero]
  exact inv.answered

/-- Every action keeps the invariant, a request that arrives if the ring has room. -/
theorem engineInvariant_step {action : DapAction} (inv : EngineInvariant s)
    (hroom : ∀ packet, action = .out packet →
      packet.bytes.length = 0 ∨ ¬ s.queue.ring.Full)
    (hstep : dapStep speed s action = some next) : EngineInvariant next := by
  cases action with
  | out packet =>
      obtain rfl := Option.some.inj hstep
      exact engineInvariant_out inv (hroom packet rfl)
  | thread => exact engineInvariant_thread inv hstep
  | execute resp result => exact engineInvariant_execute inv hstep
  | complete => exact engineInvariant_complete inv hstep

/-- What was refused stays counted. -/
theorem refused_le_step {action : DapAction} (hstep : dapStep speed s action = some next) :
    s.refused ≤ next.refused := by
  cases action with
  | out packet =>
      obtain rfl := Option.some.inj hstep
      rw [dapOutCb]
      split_ifs with hdata
      · exact le_refl _
      · simp only
        split_ifs
        · exact le_refl _
        · exact Nat.le_succ _
  | thread =>
      cases hpc : s.pc with
      | take =>
          simp only [dapStep, engineStep, hpc] at hstep
          split_ifs at hstep
          obtain rfl := Option.some.inj hstep
          exact le_refl _
      | execute => simp only [dapStep, engineStep, hpc, reduceCtorEq] at hstep
      | check | send _ | advance | print =>
          simp only [dapStep, engineStep, hpc, Option.some.injEq] at hstep
          subst hstep
          exact le_refl _
  | execute resp result =>
      cases hpc : s.pc with
      | execute =>
          simp only [dapStep, engineExecute, hpc, Option.some.injEq] at hstep
          subst hstep
          exact le_refl _
      | take | check | send _ | advance | print =>
          simp only [dapStep, engineExecute, hpc, reduceCtorEq] at hstep
  | complete =>
      obtain ⟨port, -, rfl⟩ := Option.map_eq_some_iff.mp hstep
      exact le_refl _

end Steps

/-! ## Runs -/

/-- A host that keeps its bound finds the ring full in the window only. -/
theorem engineInvariant_outside {speed : UsbSpeed} (s : DapState) (action : DapAction)
    (next : DapState) (inv : EngineInvariant s) (hstep : hostStep speed s action = some next)
    (houtside : OutsideWindow s action) : EngineInvariant next := by
  obtain ⟨hbound, hdap⟩ := restrict_eq_some.mp hstep
  apply engineInvariant_step inv _ hdap
  rintro packet rfl
  by_cases hdata : packet.bytes.length = 0
  · exact .inl hdata
  · refine .inr fun hfull => ?_
    have hwindow := tailAnswered_of_full inv hfull (hbound.resolve_left hdata)
    exact houtside.resolve_left hdata hwindow

/-- A request that arrives in the window, with another one waiting, is refused. -/
theorem refused_in_window {speed : UsbSpeed} {s next : DapState} {action : DapAction}
    (hstep : hostStep speed s action = some next) (hwindow : ¬ OutsideWindow s action) :
    0 < next.refused := by
  obtain ⟨-, hdap⟩ := restrict_eq_some.mp hstep
  cases action with
  | out packet =>
      obtain ⟨hdata, hinside⟩ := not_or.mp hwindow
      obtain ⟨-, hwaits⟩ := not_not.mp hinside
      have hlt : s.queue.ring.size < 3 := s.queue.ring.size_lt
      have hfull : s.queue.ring.Full := by
        rw [Ring.full_iff_size]
        change s.queue.ring.size + 1 = 3
        omega
      obtain rfl := Option.some.inj hdap
      rw [dapOutCb_of_full hdata hfull]
      exact Nat.succ_pos _
  | thread => exact absurd trivial hwindow
  | execute resp result => exact absurd trivial hwindow
  | complete => exact absurd trivial hwindow

/-- In a run with a host that keeps its bound, no request is refused and `s_req_dropped`
stays 0 exactly if no request arrives, with another one waiting, between the host
taking the response to the request at the tail and the tail moving on. -/
theorem refused_zero_iff_outside {speed : UsbSpeed} {cells : Fin dapReqSlots → DapReqSlot}
    {resp buf : Buf} {actions : List DapAction} {final : DapState}
    (hrun : runActions (hostStep speed) (dapInit cells resp buf) actions = some final) :
    (final.refused = 0 ∧ final.queue.dropped = 0) ↔
      runActions (restrict (hostStep speed) OutsideWindow) (dapInit cells resp buf) actions =
        some final := by
  have hinit := engineInvariant_init cells resp buf
  have hrefused :
      runActions (restrict (hostStep speed) OutsideWindow) (dapInit cells resp buf) actions =
        some final ↔ ¬ 0 < final.refused := by
    have hdisjoint : ∀ state, EngineInvariant state → ¬ 0 < state.refused :=
      fun state inv => Nat.not_lt.mpr (le_of_eq inv.refused)
    have hbroken : ∀ state action next, EngineInvariant state →
        hostStep speed state action = some next → ¬ OutsideWindow state action → 0 < next.refused :=
      fun _ _ _ _ hstep hwindow => refused_in_window hstep hwindow
    have hstays : ∀ state action next, 0 < state.refused →
        hostStep speed state action = some next → 0 < next.refused :=
      fun _ _ _ hlost hstep =>
        lt_of_lt_of_le hlost (refused_le_step (restrict_eq_some.mp hstep).2)
    exact runActions_restrict_iff hdisjoint engineInvariant_outside hbroken hstays hinit hrun
  constructor
  · rintro ⟨hzero, -⟩
    exact hrefused.mpr (Nat.not_lt.mpr (le_of_eq hzero))
  · intro houtside
    have kept : ∀ state action next, EngineInvariant state →
        restrict (hostStep speed) OutsideWindow state action = some next →
          EngineInvariant next := by
      intro state action next inv hstep
      obtain ⟨hadmits, hhost⟩ := restrict_eq_some.mp hstep
      exact engineInvariant_outside state action next inv hhost hadmits
    have inv := runActions_invariant kept hinit houtside
    exact ⟨inv.refused, inv.dropped⟩

/-! ## Two runs -/

/-- A `DAP_Info` request for the packet size. -/
def infoRequest : DapAction := .out ⟨[0x00, 0xFF], by decide⟩

/-- Its execution. -/
def infoExecuted : DapAction := .execute (Buf.ofList [0x00, 0x02, 0x00, 0x02]) 0x00020004#32

/-- Two requests; the response to the first is on its way, and the host takes it. -/
def firstTaken : List DapAction :=
  [infoRequest, infoRequest, .thread, .thread, infoExecuted, .thread, .thread, .thread, .thread,
    .complete]

/-- An engine whose memory is all zero. -/
def zeroInit : DapState := dapInit (fun _ => ⟨0, fun _ => 0⟩) (fun _ => 0) fun _ => 0

/-- The third request waits until the engine moved its tail. -/
theorem refused_zero_iff_outside_firstTaken :
    ((runActions (hostStep .high) zeroInit (firstTaken ++ [.thread, .thread, infoRequest])).any
        fun final => final.received = 3) = true ∧
      ∀ final, runActions (hostStep .high) zeroInit (firstTaken ++ [.thread, .thread, infoRequest]) =
          some final →
        ((final.refused = 0 ∧ final.queue.dropped = 0) ↔
          runActions (restrict (hostStep .high) OutsideWindow) zeroInit
              (firstTaken ++ [.thread, .thread, infoRequest]) = some final) :=
  ⟨by decide +kernel, fun _ hrun => refused_zero_iff_outside hrun⟩

/-- The third request comes as soon as the first is answered, and is refused. -/
theorem refused_third_request :
    ¬ ∀ (cells : Fin dapReqSlots → DapReqSlot) (resp buf : Buf) (actions : List DapAction)
        (final : DapState),
        runActions (hostStep .high) (dapInit cells resp buf) actions = some final →
        final.refused = 0 ∧ final.queue.dropped = 0 := by
  intro hclaim
  have hrun : ((runActions (hostStep .high) zeroInit (firstTaken ++ [infoRequest])).map fun final =>
      final.refused) = some 1 := by
    decide +kernel
  obtain ⟨final, hfinal, hrefused⟩ := Option.map_eq_some_iff.mp hrun
  have hzero := (hclaim _ _ _ _ final hfinal).1
  exact absurd (hrefused.symm.trans hzero) (by decide)

end ExLink.Dap
