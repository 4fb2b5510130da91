/-
# Aborting a transfer

`ID_DAP_TransferAbort` on its way from the OUT callback. The callback queues it like any
other packet, and nothing sets the flag that the transfer loops poll. So a command in its
loops goes on as the target makes it, and the abort request is answered when its turn
comes, unless the ring has no room for it.
-/

import ExLink.Dap.LoopPace
import ExLink.Dap.Probe

namespace ExLink.Dap

open ExLink.Automata ExLink.Automata.Prog ExLink.Usb

/-! ## What an abort owes -/

/-- A packet with the command `ID_DAP_TransferAbort`. -/
def TransferAbort (packet : OutPacket) : Prop := packet.bytes.head? = some 0x07#8

/-- The engine is in the loops of a transfer command. -/
def Probe.InLoops (s : Probe) : Prop := s.pace ≠ none

/-- Once the packet arrived the command in hand starts at most one more iteration or
retry, and the packet is not answered. -/
def AbortKept (speed : UsbSpeed) (s : Probe) (packet : OutPacket) : Prop :=
  ∀ later final, runActions (probeStep speed) s (.out packet :: later) = some final →
    (final.entered = s.entered → final.starts ≤ s.starts + 1) ∧
      s.engine.received ∉ final.answered

/-- There is no room for the packet, and in the loops at most one iteration or retry is
left. -/
def AtLast (s : Probe) : Prop :=
  s.engine.queue.ring.Full ∧ ∃ pace, s.pace = some pace ∧ pace.left ≤ 1

/-! ## The invariant -/

/-- What an execution does later keeps to its checkpoints. -/
def Complying : Execution → Option Pace → Prop
  | .idle, pace => pace = none
  | .between program, pace => program.Complies commandMonitor (fun _ ghost => ghost = none) pace
  | .during op next, pace =>
      ∀ answer, (next answer).Complies commandMonitor (fun _ ghost => ghost = none)
        (commandMonitor.heard pace (.inl op) answer)

/-- What is left in the loops. -/
def leftIn (pace : Option Pace) : ℕ := pace.elim 0 Pace.left

/-- What one action can do. Only a packet that arrives joins those that wait, and only what
waited is answered. -/
structure Advances (s next : Probe) : Prop where
  complying : Complying next.execution next.pace
  entered : s.entered ≤ next.entered
  starts : next.entered = s.entered →
    next.starts + leftIn next.pace ≤ s.starts + leftIn s.pace
  received : s.engine.received ≤ next.engine.received
  waiting : ∀ number ∈ next.waiting,
    number ∈ s.waiting ∨ s.engine.received ≤ number ∧ number < next.engine.received
  answered : ∀ number ∈ next.answered, number ∈ s.answered ∨ number ∈ s.waiting

/-- A reachable state: the execution keeps to its checkpoints, and the packets that wait
or were answered have arrived. -/
structure Sound (s : Probe) : Prop where
  complying : Complying s.execution s.pace
  waiting : ∀ number ∈ s.waiting, number < s.engine.received
  answered : ∀ number ∈ s.answered, number < s.engine.received

/-- What holds after a packet arrived in `start` and was refused. -/
structure SinceAbort (start s : Probe) : Prop where
  complying : Complying s.execution s.pace
  entered : start.entered ≤ s.entered
  starts : s.entered = start.entered → s.starts + leftIn s.pace ≤ start.starts + 1
  received : start.engine.received < s.engine.received
  waiting : start.engine.received ∉ s.waiting
  answered : start.engine.received ∉ s.answered

/-- What is started inside the loops was left. -/
theorem starts_add_left {ghost : Option Pace} {op : DapOp ⊕ Checkpoint}
    (hallowed : commandMonitor.allowed ghost op) (hsame : entersBy ghost op = 0) :
    startsBy ghost op + leftIn (commandMonitor.asked ghost op) ≤ leftIn ghost := by
  cases ghost with
  | none =>
      cases op with
      | inl op => exact le_refl 0
      | inr mark =>
          cases mark with
          | turn _ _ | outside _ _ => exact absurd hsame Nat.one_ne_zero
          | leave => exact le_refl 0
  | some pace =>
      cases op with
      | inl op =>
          by_cases hagain : pace.Again op
          · have hroom : 0 < pace.left := hallowed hagain
            have hstart : startsBy (some pace) (.inl op) = 1 := if_pos hagain
            have hleft : (pace.asked op).left = pace.left - 1 := by
              rw [Pace.asked, if_pos hagain]
            change startsBy (some pace) (.inl op) + (pace.asked op).left ≤ pace.left
            omega
          · have hstart : startsBy (some pace) (.inl op) = 0 := if_neg hagain
            have hleft : (pace.asked op).left = pace.left := by
              rw [Pace.asked, if_neg hagain]
            change startsBy (some pace) (.inl op) + (pace.asked op).left ≤ pace.left
            omega
      | inr mark =>
          cases mark with
          | turn retries ahead => exact (Nat.add_comm 1 ahead).trans_le hallowed
          | outside retries ahead => exact (Nat.zero_add ahead).trans_le hallowed
          | leave => exact Nat.zero_le _

/-- An answer leaves no more than there was. -/
theorem leftIn_heard_le (ghost : Option Pace) (op : DapOp) (answer : op.Answer) :
    leftIn (commandMonitor.heard ghost (.inl op) answer) ≤ leftIn ghost := by
  cases ghost with
  | none => exact le_refl 0
  | some pace =>
      change (pace.heard op answer).left ≤ pace.left
      cases op with
      | swdTransfer request data =>
          rw [Pace.heard, Pace.ended]
          split_ifs
          · exact Nat.sub_le _ _
          · exact le_refl _
          · exact Nat.zero_le _
      | load _ | store _ _ | garbage | swdReadBits _ | swdWriteBits _ _ | swdWriteBytes _
      | pinIn _ | pinOut _ _ | pinDirection _ _ | portSetup | portOff | setClock _ | delaySlow _
      | delayMs _ | spin => exact le_refl _

section Steps

variable {speed : UsbSpeed} {s next : Probe}

theorem received_engineStep {s next : DapState} (hstep : engineStep s = some next) :
    next.received = s.received := by
  cases hpc : s.pc with
  | take =>
      simp only [engineStep, hpc] at hstep
      split_ifs at hstep
      obtain rfl := Option.some.inj hstep
      rfl
  | execute => simp only [engineStep, hpc, reduceCtorEq] at hstep
  | check | send _ | advance | print =>
      simp only [engineStep, hpc, Option.some.injEq] at hstep
      subst hstep
      rfl

theorem received_engineExecute {s next : DapState} {resp : Buf} {result : Word32}
    (hstep : engineExecute resp result s = some next) : next.received = s.received := by
  cases hpc : s.pc with
  | execute =>
      simp only [engineExecute, hpc, Option.some.injEq] at hstep
      subst hstep
      rfl
  | take | check | send _ | advance | print =>
      simp only [engineExecute, hpc, reduceCtorEq] at hstep

/-- A question asked or a checkpoint passed. -/
theorem advances_passing {op : DapOp ⊕ Checkpoint} {execution : Execution}
    (hallowed : commandMonitor.allowed s.pace op)
    (hcomplying : Complying execution (commandMonitor.asked s.pace op)) :
    Advances s (passing op execution s) where
  complying := hcomplying
  entered := Nat.le_add_right _ _
  starts := by
    intro hsame
    have hleft := starts_add_left hallowed (Nat.add_eq_left.mp hsame)
    exact (Nat.add_assoc _ _ _).trans_le (Nat.add_le_add_left hleft s.starts)
  received := le_refl _
  waiting := fun _ => .inl
  answered := fun _ => .inl

/-- Nothing happens in the loops. -/
theorem advances_engine {engine : DapState} {execution : Execution} {data : DapData}
    (hcomplying : Complying execution s.pace) (hreceived : engine.received = s.engine.received) :
    Advances s { s with engine := engine, execution := execution, data := data } where
  complying := hcomplying
  entered := le_refl _
  starts := fun _ => le_refl _
  received := hreceived.ge
  waiting := fun _ => .inl
  answered := fun _ => .inl

/-- A question answered. -/
theorem advances_hears {op : DapOp} {rest : op.Answer → MarkedCommand} {answer : op.Answer}
    {resp : Buf} (hcomplying : Complying (.during op rest) s.pace) :
    Advances s
      { s with
        engine := { s.engine with resp := resp }
        execution := .between (rest answer)
        pace := commandMonitor.heard s.pace (.inl op) answer } where
  complying := hcomplying answer
  entered := le_refl _
  starts := fun _ => Nat.add_le_add_left (leftIn_heard_le s.pace op answer) s.starts
  received := le_refl _
  waiting := fun _ => .inl
  answered := fun _ => .inl

theorem advances_execute {polls : ℕ} {given : (op : DapOp) → Option op.Answer}
    (hcomplying : Complying s.execution s.pace) (hstep : probeExecute polls given s = some next) :
    Advances s next := by
  cases executes_of_step hstep with
  | begins hidle hpc =>
      rw [hidle] at hcomplying
      have hpace : s.pace = none := hcomplying
      refine advances_engine ?_ rfl
      rw [hpace]
      exact commands_executeCommand polls
  | returns hret hengine =>
      rw [hret] at hcomplying
      exact advances_engine hcomplying (received_engineExecute hengine)
  | asks hask =>
      rw [hask] at hcomplying
      exact advances_passing hcomplying.1 hcomplying.2
  | passes hask =>
      rw [hask] at hcomplying
      exact advances_passing hcomplying.1 (hcomplying.2 ())
  | hears hduring hgiven =>
      rw [hduring] at hcomplying
      exact advances_hears hcomplying

theorem received_dapOutCb (packet : OutPacket) (s : DapState) :
    (dapOutCb packet s).received =
      if packet.bytes.length = 0 then s.received else s.received + 1 := by
  rw [dapOutCb]
  split_ifs <;> rfl

theorem advances_out (hcomplying : Complying s.execution s.pace) (packet : OutPacket) :
    Advances s (probeOut packet s) where
  complying := hcomplying
  entered := le_refl _
  starts := fun _ => le_refl _
  received := by
    change s.engine.received ≤ (dapOutCb packet s.engine).received
    rw [received_dapOutCb]
    split_ifs <;> omega
  waiting := by
    intro number hnumber
    change number ∈ (if _ then _ else _) at hnumber
    change _ ∨ s.engine.received ≤ number ∧ number < (dapOutCb packet s.engine).received
    split_ifs at hnumber with hstays
    · exact .inl hnumber
    · rw [received_dapOutCb, if_neg fun hempty => hstays (.inl hempty)]
      rcases List.mem_append.mp hnumber with hold | hnew
      · exact .inl hold
      · obtain rfl := List.mem_singleton.mp hnew
        exact .inr ⟨le_refl _, Nat.lt_succ_self _⟩
  answered := fun _ => .inl

theorem advances_thread (hcomplying : Complying s.execution s.pace)
    (hstep : probeThread s = some next) : Advances s next := by
  obtain ⟨engine, hengine, rfl⟩ := Option.map_eq_some_iff.mp hstep
  refine ⟨hcomplying, le_refl _, fun _ => le_refl _, (received_engineStep hengine).ge, ?_, ?_⟩
  · intro number hnumber
    refine .inl ?_
    dsimp only at hnumber
    split at hnumber
    · exact List.mem_of_mem_tail hnumber
    · exact hnumber
  · intro number hnumber
    dsimp only at hnumber
    split at hnumber
    · rcases List.mem_append.mp hnumber with hold | hnew
      · exact .inl hold
      · exact .inr (List.mem_of_mem_take hnew)
    · exact .inl hnumber

/-- One action, whatever it is. -/
theorem advances_step {action : ProbeAction} (hcomplying : Complying s.execution s.pace)
    (hstep : probeStep speed s action = some next) : Advances s next := by
  cases action with
  | out packet =>
      obtain rfl := Option.some.inj hstep
      exact advances_out hcomplying packet
  | thread => exact advances_thread hcomplying hstep
  | execute polls given => exact advances_execute hcomplying hstep
  | complete =>
      obtain ⟨engine, hengine, rfl⟩ := Option.map_eq_some_iff.mp hstep
      obtain ⟨port, -, rfl⟩ := Option.map_eq_some_iff.mp hengine
      exact advances_engine hcomplying rfl

theorem sound_step (s : Probe) (action : ProbeAction) (next : Probe) (inv : Sound s)
    (hstep : probeStep speed s action = some next) : Sound next := by
  have hnext := advances_step inv.complying hstep
  refine ⟨hnext.complying, fun number hnumber => ?_, fun number hnumber => ?_⟩
  · rcases hnext.waiting number hnumber with hold | ⟨-, hnew⟩
    · exact (inv.waiting number hold).trans_le hnext.received
    · exact hnew
  · rcases hnext.answered number hnumber with hold | hwaited
    · exact (inv.answered number hold).trans_le hnext.received
    · exact (inv.waiting number hwaited).trans_le hnext.received

theorem sinceAbort_step {start : Probe} (s : Probe) (action : ProbeAction) (next : Probe)
    (inv : SinceAbort start s) (hstep : probeStep speed s action = some next) :
    SinceAbort start next := by
  have hnext := advances_step inv.complying hstep
  refine ⟨hnext.complying, inv.entered.trans hnext.entered, fun hsame => ?_,
    inv.received.trans_le hnext.received, fun hwaits => ?_, fun hanswered => ?_⟩
  · have hbefore : s.entered = start.entered :=
      le_antisymm (hnext.entered.trans_eq hsame) inv.entered
    exact (hnext.starts (hsame.trans hbefore.symm)).trans (inv.starts hbefore)
  · rcases hnext.waiting _ hwaits with hold | ⟨hlate, -⟩
    · exact inv.waiting hold
    · exact absurd inv.received (Nat.not_lt.mpr hlate)
  · rcases hnext.answered _ hanswered with hold | hwaited
    · exact inv.answered hold
    · exact inv.waiting hwaited

/-- A packet that is refused when little is left. -/
theorem sinceAbort_out (inv : Sound s) {packet : OutPacket} (hsome : packet.bytes.length ≠ 0)
    (hlast : AtLast s) : SinceAbort s (probeOut packet s) := by
  obtain ⟨pace, hpace, hle⟩ := hlast.2
  have hleft : leftIn s.pace ≤ 1 := by
    rw [hpace]
    exact hle
  refine ⟨inv.complying, le_refl _, fun _ => Nat.add_le_add_left hleft s.starts, ?_, ?_, ?_⟩
  · change s.engine.received < (dapOutCb packet s.engine).received
    rw [received_dapOutCb, if_neg hsome]
    exact Nat.lt_succ_self _
  · change s.engine.received ∉ (if _ then _ else _)
    rw [if_pos (.inr hlast.1)]
    exact fun hwaits => lt_irrefl _ (inv.waiting _ hwaits)
  · exact fun hanswered => lt_irrefl _ (inv.answered _ hanswered)

end Steps

theorem sound_init (cells : Fin dapReqSlots → DapReqSlot) (resp buf : Buf) (data : DapData) :
    Sound (probeInit cells resp buf data) where
  complying := rfl
  waiting := by simp [probeInit]
  answered := by simp [probeInit]

/-- In every run, an abort request that arrives when the ring is full and at most one
iteration or retry is left in the loops is kept. -/
theorem transferAbort_kept {speed : UsbSpeed} {cells : Fin dapReqSlots → DapReqSlot}
    {resp buf : Buf} {data : DapData} {actions : List ProbeAction} {s : Probe} {packet : OutPacket}
    (hrun : runActions (probeStep speed) (probeInit cells resp buf data) actions = some s)
    (habort : TransferAbort packet) (hlast : AtLast s) :
    AbortKept speed s packet := by
  have hsound : Sound s :=
    runActions_invariant sound_step (sound_init cells resp buf data) hrun
  have hsome : packet.bytes.length ≠ 0 := by
    intro hempty
    rw [TransferAbort, List.length_eq_zero_iff.mp hempty] at habort
    exact absurd habort (by simp)
  intro later final hlater
  obtain ⟨arrived, harrived, hrest⟩ := runActions_cons_eq_some.mp hlater
  obtain rfl := Option.some.inj harrived
  have hsince : SinceAbort s final :=
    runActions_invariant sinceAbort_step (sinceAbort_out hsound hsome hlast) hrest
  refine ⟨fun hsame => ?_, hsince.answered⟩
  exact (Nat.le_add_right _ _).trans (hsince.starts hsame)

/-! ## A target that keeps the probe waiting -/

/-- Every transfer is answered WAIT. -/
def waits (op : DapOp) : Option op.Answer :=
  match op with
  | .swdTransfer _ _ => some ⟨⟨0x2#32, 0#32, 0#32⟩, by decide⟩
  | .garbage => some 0#32
  | .swdReadBits nbits => some (BitVec.ofNat nbits 0)
  | .pinIn _ => some false
  | .spin => none
  | .load _ | .store _ _ | .swdWriteBits _ _ | .swdWriteBytes _ | .pinOut _ _
  | .pinDirection _ _ | .portSetup | .portOff | .setClock _ | .delaySlow _ | .delayMs _ => some ()

/-- The settings of a connected probe with so many retries. -/
def retrying (retryCount : Word16) : DapData where
  debugPort := dapPortSwd
  fastClock := 0#8
  clockDelay := 1#32
  idleCycles := 0#8
  retryCount := retryCount
  matchRetry := 0#16
  matchMask := 0#32
  turnaround := 1#8
  dataPhase := 0#8
  transferAbort := 0#8

/-- The engine with nothing in its buffers. -/
def blank (retryCount : Word16) : Probe :=
  probeInit (fun _ => ⟨0, fun _ => 0#8⟩) (fun _ => 0#8) (fun _ => 0#8) (retrying retryCount)

/-- `DAP_Transfer` with a read of the debug port identification. -/
def readIdcode : OutPacket := ⟨[0x05#8, 0x00#8, 0x01#8, 0x02#8], by decide⟩

/-- `DAP_TransferAbort`. -/
def abortPacket : OutPacket := ⟨[0x07#8], by decide⟩

/-- The read arrives, then other packets, and the thread gets into its first SWD transfer. -/
def untilTransfer (packets : List OutPacket) : List ProbeAction :=
  (readIdcode :: packets).map .out ++ List.replicate 2 .thread ++
    List.replicate 15 (.execute 0 waits)

/-- With one retry and another packet in the ring, the abort request is kept. -/
theorem transferAbort_kept_one_retry :
    ∃ s, runActions (probeStep .high) (blank 1#16) (untilTransfer [abortPacket]) = some s ∧ s.InLoops ∧
      AtLast s ∧ AbortKept .high s abortPacket := by
  have hrun : (runActions (probeStep .high) (blank 1#16) (untilTransfer [abortPacket])).map
      (fun s => (s.pace, decide s.engine.queue.ring.Full)) =
        some (some ⟨1, 1, 1, some true⟩, true) := rfl
  obtain ⟨s, hs, hstate⟩ := Option.map_eq_some_iff.mp hrun
  simp only [Prod.mk.injEq, decide_eq_true_eq] at hstate
  have hlast : AtLast s := ⟨hstate.2, _, hstate.1, le_refl 1⟩
  have hloops : s.InLoops := by
    rw [Probe.InLoops, hstate.1]
    exact Option.some_ne_none _
  exact ⟨s, hs, hloops, hlast, transferAbort_kept hs rfl hlast⟩

/-- The target answers WAIT until the tries are used up, and the response is sent; then
the next packet is executed and answered. -/
def untilAnswered : List ProbeAction :=
  List.replicate 16 (.execute 0 waits) ++ List.replicate 4 .thread ++ [.complete] ++
    List.replicate 4 .thread ++ List.replicate 10 (.execute 0 waits) ++ List.replicate 4 .thread

/-- With three retries, all of them are made after the abort request arrived in the first
try, and it is answered with 0xFF. -/
theorem transferAbort_ignored :
    ∃ s final, runActions (probeStep .high) (blank 3#16) (untilTransfer []) = some s ∧ s.InLoops ∧
      TransferAbort abortPacket ∧
        runActions (probeStep .high) s (.out abortPacket :: untilAnswered) = some final ∧
          final.entered = s.entered ∧ final.starts = s.starts + 3 ∧
            s.engine.received ∈ final.answered ∧ final.engine.resp 0 = 0xFF#8 ∧
              ¬ AbortKept .high s abortPacket := by
  have hfirst : (runActions (probeStep .high) (blank 3#16) (untilTransfer [])).map
      (fun s => (s.pace, s.entered, s.starts, s.engine.received)) =
        some (some ⟨3, 3, 3, some true⟩, 1, 1, 1) := rfl
  have hsecond : (runActions (probeStep .high) (blank 3#16)
      (untilTransfer [] ++ .out abortPacket :: untilAnswered)).map
        (fun s => (s.entered, s.starts, s.answered, s.engine.resp 0)) =
          some (1, 4, [0, 1], 0xFF#8) := rfl
  obtain ⟨s, hs, hstate⟩ := Option.map_eq_some_iff.mp hfirst
  simp only [Prod.mk.injEq] at hstate
  obtain ⟨hpace, hentered, hstarts, hreceived⟩ := hstate
  rw [runActions_append, hs, Option.bind_some] at hsecond
  obtain ⟨final, hfinal, hend⟩ := Option.map_eq_some_iff.mp hsecond
  simp only [Prod.mk.injEq] at hend
  obtain ⟨hentered', hstarts', hanswered, hresp⟩ := hend
  have hloops : s.InLoops := by
    rw [Probe.InLoops, hpace]
    exact Option.some_ne_none _
  have hmember : s.engine.received ∈ final.answered := by
    rw [hreceived, hanswered]
    decide
  exact ⟨s, final, hs, hloops, rfl, hfinal, hentered'.trans hentered.symm, by omega, hmember, hresp,
    fun hkept => (hkept untilAnswered final hfinal).2 hmember⟩

end ExLink.Dap
