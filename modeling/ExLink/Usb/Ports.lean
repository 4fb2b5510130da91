/-
# The IN ports of a session

EP1 and EP2 side by side, at either speed. Until the bus is reset, whatever the calls and
the completions are and whether calls time out, a port that is not busy holds no transfer,
what the controller holds is not written to, and the host takes the bytes of every started
call and one empty packet after whole packets.
-/

import ExLink.Frame.Codec
import ExLink.Usb.DapResponses

namespace ExLink.Usb

open ExLink.Automata ExLink.Bulk ExLink.Frame

/-- The control port: `s_ep_in_buf` and `TX_TIMEOUT_MS` of `usb_if_ctrl.c`. -/
def ctrlInPort (speed : UsbSpeed) : InPortConf := ⟨exlinkMaxFrame, 500, speed.mps⟩

/-- The last wait of a send. -/
def draining : Option SendPc → Bool
  | some (.drain _) => true
  | _ => false

/-- A send or a completion on EP1 or on EP2. -/
abbrev inPortsStep (speed : UsbSpeed) :
    InSession × InSession → InAction ⊕ InAction → Option (InSession × InSession) :=
  interleave (inStep (ctrlInPort speed)) (inStep (dapInPortAt speed))

/-- What the controller still owes for the transfer that it holds. -/
def owed (conf : InPortConf) (port : InPort) : List (List Byte) :=
  port.armed.elim [] (owedPackets conf port.buf)

/-- What holds of the port and the calls whose transfers were started. -/
structure PortSound (conf : InPortConf) (s : InSession) : Prop where
  idle : s.port.busy = false → s.port.armed = none
  packets : s.started.flatMap (sentPackets conf) = s.port.wire ++ owed conf s.port
  whole : ∀ response ∈ s.started, ∃ packets,
    sentPackets conf response = packets ++ (if response.length % conf.mps = 0 then [[]] else []) ∧
      packets.flatten = response ∧ [] ∉ packets

section Session

variable {conf : InPortConf} {s next : InSession}

/-- Only a call that owns the port writes to the buffer. -/
theorem InInvariant.buf_eq (inv : InInvariant conf s) (harmed : s.port.armed.isSome)
    {action : InAction} (hstep : inStep conf s action = some next) :
    next.port.buf = s.port.buf := by
  cases action with
  | send data =>
      cases hcall : s.call with
      | some pc => simp only [inStep, hcall, reduceCtorEq] at hstep
      | none =>
          simp only [inStep, hcall, Option.some.injEq] at hstep
          rw [← hstep]
  | thread =>
      cases hcall : s.call with
      | none => simp only [inStep, hcall, Option.map_none, reduceCtorEq] at hstep
      | some pc =>
          simp only [inStep, hcall, Option.map_some, Option.some.injEq] at hstep
          rw [← hstep]
          cases pc with
          | copy data =>
              have hport := inv.port
              rw [hcall] at hport
              rw [armed_of_owner id hport] at harmed
              exact absurd harmed Bool.false_ne_true
          | wait _ _ | mark _ | start _ | drain _ => rfl
  | complete =>
      obtain ⟨port, hport, rfl⟩ := Option.map_eq_some_iff.mp hstep
      obtain ⟨len, -, rfl⟩ := Option.map_eq_some_iff.mp hport
      simp only [inCb]
      split_ifs <;> rfl

theorem InInvariant.sound (hmps : 0 < conf.mps) (inv : InInvariant conf s) : PortSound conf s where
  idle hidle := armed_of_idle hidle inv.port
  packets := by
    have hport := inv.port
    cases harmed : s.port.armed with
    | some len =>
        simp only [PortInvariant, harmed] at hport
        rw [owed, harmed]
        exact hport.2.2
    | none =>
        rw [owed, harmed, Option.elim_none, List.append_nil]
        exact ((portInvariant_of_none harmed).mp hport).2
  whole response hresponse := by
    have hne := (inv.bounded response hresponse).1
    refine ⟨dataPackets conf.mps response, ?_, flatten_dataPackets hmps response⟩
    rw [sentPackets, transferPackets_of_ne hne]

end Session

/-- At either speed and in every order of calls, time-outs and completions on both ports. -/
theorem inPorts_sound (speed : UsbSpeed) (ctrlBuf dapBuf : Buf)
    (actions : List (InAction ⊕ InAction)) (final : InSession × InSession)
    (hrun : runActions (inPortsStep speed) (inInit ctrlBuf, inInit dapBuf) actions = some final) :
    PortSound (ctrlInPort speed) final.1 ∧ PortSound (dapInPortAt speed) final.2 ∧
      ∀ action next, inPortsStep speed final action = some next →
        (final.1.port.armed.isSome → next.1.port.buf = final.1.port.buf) ∧
          (final.2.port.armed.isSome → next.2.port.buf = final.2.port.buf) := by
  obtain ⟨hctrl, hdap⟩ := runActions_interleave hrun
  have ctrlInv := runActions_invariant inInvariant_step (inInvariant_init _ ctrlBuf) hctrl
  have dapInv := runActions_invariant inInvariant_step (inInvariant_init _ dapBuf) hdap
  refine ⟨ctrlInv.sound speed.mps_pos, dapInv.sound speed.mps_pos, ?_⟩
  intro action next hstep
  cases action with
  | inl action =>
      obtain ⟨after, hafter, rfl⟩ := Option.map_eq_some_iff.mp hstep
      exact ⟨fun harmed => ctrlInv.buf_eq harmed hafter, fun _ => rfl⟩
  | inr action =>
      obtain ⟨after, hafter, rfl⟩ := Option.map_eq_some_iff.mp hstep
      exact ⟨fun _ => rfl, fun harmed => dapInv.buf_eq harmed hafter⟩

/-- At full speed: one packet and its empty packet on EP1, a short one on EP2 in between. -/
def interleavedSends : List (InAction ⊕ InAction) :=
  [.inl (.send (List.replicate 64 0)), .inl .thread, .inr (.send [1]), .inl .thread, .inr .thread,
    .inl .thread, .inl .thread, .inr .thread, .inl .complete, .inr .thread, .inr .thread,
    .inr .complete, .inl .complete, .inl .thread]

theorem inPorts_sound_interleaved :
    ∃ final, runActions (inPortsStep .full) (inInit fun _ => 0, inInit fun _ => 0)
        interleavedSends = some final ∧
      PortSound (ctrlInPort .full) final.1 ∧ PortSound (dapInPortAt .full) final.2 := by
  have hsome : (runActions (inPortsStep .full) (inInit fun _ => 0, inInit fun _ => 0)
      interleavedSends).isSome = true := by decide +kernel
  obtain ⟨final, hfinal⟩ := Option.isSome_iff_exists.mp hsome
  obtain ⟨hctrl, hdap, -⟩ := inPorts_sound .full _ _ interleavedSends final hfinal
  exact ⟨final, hfinal, hctrl, hdap⟩

end ExLink.Usb
