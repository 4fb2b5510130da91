/-
# The engine question by question

The engine thread carries out its command one question after the other here, so that
packets arrive between and during the SWD transfers of a command. It counts how often
the loops of the transfer commands are entered, and the iterations and retries that are
started in them; and it knows which packets wait and which were answered. A run of it is
a run of the engine that says what its commands store and return.
-/

import ExLink.Dap.Delivery
import ExLink.Dap.Pace

namespace ExLink.Dap

open ExLink.Automata ExLink.Automata.Prog ExLink.Usb

/-! ## The probe -/

/-- A packet in execution, with checkpoints. -/
abbrev MarkedCommand := Marked DapOp DapOp.Answer Checkpoint (Word32 × DapData)

/-- Where the thread stands in `DAP_ExecuteCommand`: between two questions, or at one. -/
inductive Execution where
  | idle
  | between (program : MarkedCommand)
  | during (op : DapOp) (next : op.Answer → MarkedCommand)

/-- The engine with the settings of the commands and the execution in progress; then what
a run is judged by: the pace in the transfer loops, how often loops were entered, the
iterations and retries that were started in them, the numbers of the packets in the ring,
oldest first, and of those whose response went to the IN endpoint. -/
structure Probe where
  engine : DapState
  data : DapData
  execution : Execution
  pace : Option Pace
  entered : ℕ
  starts : ℕ
  waiting : List ℕ
  answered : List ℕ

/-- An OUT callback, one access of the thread, one step of `DAP_ExecuteCommand` with what
the environment answers if it is asked, or a completed IN transfer. -/
inductive ProbeAction where
  | out (packet : OutPacket)
  | thread
  | execute (polls : ℕ) (given : (op : DapOp) → Option op.Answer)
  | complete

/-- An iteration or a retry starts. -/
def startsBy : Option Pace → DapOp ⊕ Checkpoint → ℕ
  | some pace, .inl op => if pace.Again op then 1 else 0
  | none, .inl _ => 0
  | _, .inr (.turn _ _) => 1
  | _, .inr (.outside _ _) => 0
  | _, .inr .leave => 0

/-- The loops of a command are entered. -/
def entersBy : Option Pace → DapOp ⊕ Checkpoint → ℕ
  | none, .inr (.turn _ _) => 1
  | none, .inr (.outside _ _) => 1
  | _, _ => 0

/-- A question is asked or a checkpoint passed. -/
def passing (op : DapOp ⊕ Checkpoint) (execution : Execution) (s : Probe) : Probe :=
  { s with
    execution := execution
    pace := commandMonitor.asked s.pace op
    entered := s.entered + entersBy s.pace op
    starts := s.starts + startsBy s.pace op }

/-- What a question leaves in the response buffer. -/
def storedBy (op : DapOp) (resp : Buf) : Buf :=
  match op with
  | .store offset byte => Function.update resp offset byte
  | _ => resp

/-- One step of `DAP_ExecuteCommand`. The thread gets there with a request in the ring. -/
def probeExecute (polls : ℕ) (given : (op : DapOp) → Option op.Answer) (s : Probe) :
    Option Probe :=
  match s.execution with
  | .idle =>
      match s.engine.pc with
      | .execute =>
          some
            { s with
              execution :=
                .between ((markedExecuteCommand s.engine.queue.ring.front.buf polls).run s.data) }
      | _ => none
  | .between (.ret (num, data)) =>
      (engineExecute s.engine.resp num s.engine).map fun engine =>
        { s with engine := engine, data := data, execution := .idle }
  | .between (.ask (.inl op) next) => some (passing (.inl op) (.during op next) s)
  | .between (.ask (.inr mark) next) => some (passing (.inr mark) (.between (next ())) s)
  | .during op next =>
      (given op).map fun answer =>
        { s with
          engine := { s.engine with resp := storedBy op s.engine.resp }
          execution := .between (next answer)
          pace := commandMonitor.heard s.pace (.inl op) answer }

/-- `dap_out_cb`: a packet that finds room waits. -/
def probeOut (packet : OutPacket) (s : Probe) : Probe :=
  { s with
    engine := dapOutCb packet s.engine
    waiting :=
      if packet.bytes.length = 0 ∨ s.engine.queue.ring.Full then s.waiting
      else s.waiting ++ [s.engine.received] }

/-- One access of the thread outside of `DAP_ExecuteCommand`. -/
def probeThread (s : Probe) : Option Probe :=
  (engineStep s.engine).map fun engine =>
    { s with
      engine := engine
      waiting :=
        match s.engine.pc with
        | .advance => s.waiting.tail
        | _ => s.waiting
      answered :=
        match s.engine.pc with
        | .send (.start _) => s.answered ++ s.waiting.take 1
        | _ => s.answered }

/-- One action. -/
def probeStep (speed : UsbSpeed) (s : Probe) : ProbeAction → Option Probe
  | .out packet => some (probeOut packet s)
  | .thread => probeThread s
  | .execute polls given => probeExecute polls given s
  | .complete => (dapStep speed s.engine .complete).map fun engine => { s with engine := engine }

/-- `dap_engine_thread_start`, with whatever settings. -/
def probeInit (cells : Fin dapReqSlots → DapReqSlot) (resp buf : Buf) (data : DapData) : Probe where
  engine := dapInit cells resp buf
  data := data
  execution := .idle
  pace := none
  entered := 0
  starts := 0
  waiting := []
  answered := []

/-- What a step of `DAP_ExecuteCommand` can be. -/
inductive Executes (polls : ℕ) (given : (op : DapOp) → Option op.Answer) (s : Probe) :
    Probe → Prop
  | begins (hidle : s.execution = .idle) (hpc : s.engine.pc = .execute) :
      Executes polls given s
        { s with
          execution :=
            .between ((markedExecuteCommand s.engine.queue.ring.front.buf polls).run s.data) }
  | returns {num : Word32} {data : DapData} {engine : DapState}
      (hret : s.execution = .between (.ret (num, data)))
      (hengine : engineExecute s.engine.resp num s.engine = some engine) :
      Executes polls given s { s with engine := engine, data := data, execution := .idle }
  | asks {op : DapOp} {next : op.Answer → MarkedCommand}
      (hask : s.execution = .between (.ask (.inl op) next)) :
      Executes polls given s (passing (.inl op) (.during op next) s)
  | passes {mark : Checkpoint} {next : Unit → MarkedCommand}
      (hask : s.execution = .between (.ask (.inr mark) next)) :
      Executes polls given s (passing (.inr mark) (.between (next ())) s)
  | hears {op : DapOp} {next : op.Answer → MarkedCommand} {answer : op.Answer}
      (hduring : s.execution = .during op next) (hgiven : given op = some answer) :
      Executes polls given s
        { s with
          engine := { s.engine with resp := storedBy op s.engine.resp }
          execution := .between (next answer)
          pace := commandMonitor.heard s.pace (.inl op) answer }

theorem executes_of_step {polls : ℕ} {given : (op : DapOp) → Option op.Answer} {s next : Probe}
    (hstep : probeExecute polls given s = some next) : Executes polls given s next := by
  cases hexecution : s.execution with
  | idle =>
      cases hpc : s.engine.pc with
      | execute =>
          simp only [probeExecute, hexecution, hpc, Option.some.injEq] at hstep
          exact hstep ▸ .begins hexecution hpc
      | take | check | send _ | advance | print =>
          simp only [probeExecute, hexecution, hpc, reduceCtorEq] at hstep
  | between program =>
      cases program with
      | ret result =>
          simp only [probeExecute, hexecution, Option.map_eq_some_iff] at hstep
          obtain ⟨engine, hengine, rfl⟩ := hstep
          exact .returns hexecution hengine
      | ask op rest =>
          cases op with
          | inl op =>
              simp only [probeExecute, hexecution, Option.some.injEq] at hstep
              exact hstep ▸ .asks hexecution
          | inr mark =>
              simp only [probeExecute, hexecution, Option.some.injEq] at hstep
              exact hstep ▸ .passes hexecution
  | during op rest =>
      simp only [probeExecute, hexecution, Option.map_eq_some_iff] at hstep
      obtain ⟨answer, hgiven, rfl⟩ := hstep
      exact .hears hexecution hgiven

/-! ## The probe is the engine -/

/-- The actions of the engine that an action is. What a command stores and returns is all
that the engine sees of it. -/
def engineActions (s : Probe) : ProbeAction → List DapAction
  | .out packet => [.out packet]
  | .thread => [.thread]
  | .complete => [.complete]
  | .execute _ _ =>
      match s.execution with
      | .between (.ret (num, _)) => [.execute s.engine.resp num]
      | _ => []

/-- The engine up to the response in the making. -/
def SameEngine (s : Probe) (engine : DapState) : Prop :=
  ∃ resp, engine = { s.engine with resp := resp }

theorem engineStep_resp (s : DapState) (resp : Buf) :
    engineStep { s with resp := resp } =
      (engineStep s).map fun next => { next with resp := resp } := by
  cases hpc : s.pc with
  | take =>
      simp only [engineStep, hpc]
      split_ifs <;> rfl
  | check | execute | send _ | advance | print =>
      simp only [engineStep, hpc]
      rfl

theorem engineExecute_resp (s : DapState) (resp stored : Buf) (result : Word32) :
    engineExecute stored result { s with resp := resp } = engineExecute stored result s := by
  cases hpc : s.pc <;> simp only [engineExecute, hpc]

theorem dapOutCb_resp (packet : OutPacket) (s : DapState) (resp : Buf) :
    dapOutCb packet { s with resp := resp } = { dapOutCb packet s with resp := resp } := by
  simp only [dapOutCb]
  split_ifs <;> rfl

/-- Between two actions of the engine a command leaves it where it is. -/
theorem probeStep_simulates {speed : UsbSpeed} (s : Probe) (engine : DapState)
    (action : ProbeAction) (next : Probe) (hsame : SameEngine s engine)
    (hstep : probeStep speed s action = some next) :
    ∃ after, runActions (dapStep speed) engine (engineActions s action) = some after ∧
      SameEngine next after := by
  obtain ⟨resp, rfl⟩ := hsame
  cases action with
  | out packet =>
      obtain rfl := Option.some.inj hstep
      exact ⟨_, rfl, resp, dapOutCb_resp packet s.engine resp⟩
  | thread =>
      obtain ⟨after, hafter, rfl⟩ := Option.map_eq_some_iff.mp hstep
      refine ⟨{ after with resp := resp }, ?_, resp, rfl⟩
      simp only [engineActions, runActions, dapStep, engineStep_resp, hafter, Option.map_some,
        Option.bind_some]
  | complete =>
      obtain ⟨after, hafter, rfl⟩ := Option.map_eq_some_iff.mp hstep
      obtain ⟨port, hport, rfl⟩ := Option.map_eq_some_iff.mp hafter
      refine ⟨_, ?_, resp, rfl⟩
      simp only [engineActions, runActions, dapStep, hport, Option.map_some, Option.bind_some]
  | execute polls given =>
      rw [engineActions]
      cases executes_of_step hstep with
      | begins hidle hpc =>
          rw [hidle]
          exact ⟨_, rfl, resp, rfl⟩
      | @returns num data after hret hengine =>
          rw [hret]
          refine ⟨after, ?_, after.resp, rfl⟩
          simp only [runActions, dapStep, engineExecute_resp, hengine, Option.bind_some]
      | asks hask | passes hask =>
          rw [hask]
          exact ⟨_, rfl, resp, rfl⟩
      | hears hduring hgiven =>
          rw [hduring]
          exact ⟨_, rfl, resp, rfl⟩

/-- A run of the probe is a run of the engine whose commands store and return what they
do. -/
theorem probeRun_simulates {cells : Fin dapReqSlots → DapReqSlot} {resp buf : Buf}
    {data : DapData} {actions : List ProbeAction} {final : Probe}
    (hrun : runActions (probeStep speed) (probeInit cells resp buf data) actions = some final) :
    ∃ engine, runActions (dapStep speed) (dapInit cells resp buf)
        (runLabels (probeStep speed) engineActions (probeInit cells resp buf data) actions) =
          some engine ∧ SameEngine final engine :=
  runActions_simulates probeStep_simulates ⟨resp, rfl⟩ hrun

end ExLink.Dap
