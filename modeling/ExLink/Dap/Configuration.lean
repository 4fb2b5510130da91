/-
# The acknowledged configuration and the line

`DAP_SWD_Configure` and `DAP_TransferConfigure` store into `DAP_Data`, and the port
behind `SWD_Transfer` has settings of its own. A run of commands on the port keeps what
was acknowledged last beside every transfer that it makes.
-/

import ExLink.Automata.Transition
import ExLink.Dap.Transfer
import ExLink.Swd.Phases

namespace ExLink.Dap

open ExLink.Automata ExLink.Automata.Prog ExLink.Swd

/-! ## Commands on the port -/

/-- What the probe does not decide: the build, the line, and by the number of questions
asked before, pins and uninitialised locals. -/
structure LineWorld where
  wiring : Wiring
  line : ℕ → SwdLine
  level : ℕ → Pin → Bool
  garbage : ℕ → Word32

/-- A transfer, with the configuration acknowledged before it and the clocks it made. -/
structure LineTransfer where
  acknowledged : SwdConf
  request : Word32
  word : Word32
  ack : Word32
  clocks : List SwdClock

/-- The port and the line, the response buffer, what was acknowledged last, and the
transfers and questions so far. -/
structure LineState where
  port : SwdPort
  history : List SwdClock
  response : Buf
  acknowledged : SwdConf
  transfers : List LineTransfer
  asked : ℕ

/-- The answers of the port. GPIO and the clock divider leave the line alone. -/
def lineAnswer (world : LineWorld) : Environment DapOp DapOp.Answer LineState := fun before op =>
  let transfer := lineTransfer (world.line before.asked)
  let s := { before with asked := before.asked + 1 }
  match op with
  | .load _ => some ((), s)
  | .store offset byte => some ((), { s with response := Function.update s.response offset byte })
  | .garbage => some (world.garbage before.asked, s)
  | .swdTransfer request data =>
      let run := swdPhases world.wiring transfer request data (s.port, s.history)
      let made : LineTransfer :=
        ⟨s.acknowledged, request, data.getD 0#32, run.1.ack, run.2.2.drop s.history.length⟩
      some (⟨run.1, ack_swdPhases_lt world.wiring transfer request data _⟩,
        { s with port := run.2.1, history := run.2.2, transfers := s.transfers ++ [made] })
  | .swdReadBits nbits =>
      let run := swdReadBits world.wiring transfer nbits (s.port, s.history)
      some (run.1.setWidth nbits, { s with port := run.2.1, history := run.2.2 })
  | .swdWriteBits val nbits =>
      let run := swdWriteBits world.wiring transfer val nbits (s.port, s.history)
      some ((), { s with port := run.1, history := run.2 })
  | .swdWriteBytes data =>
      let run := swdWriteBytes world.wiring transfer data (s.port, s.history)
      some ((), { s with port := run.1, history := run.2 })
  | .pinIn pin => some (world.level before.asked pin, s)
  | .portSetup => some ((), { s with port := dapSwdSpiPortSetup world.wiring s.port })
  | .portOff => some ((), { s with port := dapSwdSpiPortOff world.wiring s.port })
  | .pinOut _ _ | .pinDirection _ _ | .setClock _ | .delaySlow _ | .delayMs _ => some ((), s)
  | .spin => none

/-- A call of `DAP_ProcessCommand`: `DAP_ExecuteCommand` makes one for each command of a
packet. -/
structure DapCommand where
  buf : Buf
  request : ℕ
  response : ℕ

/-- What a command that was answered with `DAP_OK` selected. -/
def DapCommand.acknowledge (command : DapCommand) (response : Buf) (conf : SwdConf) : SwdConf :=
  let value := command.buf (command.request + 1)
  if response (command.response + 1) = dapOk then
    match (command.buf command.request).toNat with
    | 0x13 =>
        { conf with
          turnaround := (value &&& 0x03#8).toNat + 1
          dataPhase := decide (value &&& 0x04#8 ≠ 0#8) }
    | 0x04 => { conf with idleCycles := value.toNat }
    | _ => conf
  else conf

/-- `DAP_Data` in front of the port. -/
structure CommandState where
  data : DapData
  line : LineState

/-- One command, unless it never returns. -/
def commandStep (world : LineWorld) (polls : ℕ) (s : CommandState) (command : DapCommand) :
    Option CommandState :=
  let program := dapProcessCommand command.buf polls command.request command.response
  (Outcome (lineAnswer world) program s.data s.line).map fun result =>
    let line := result.2
    ⟨result.1.2,
      { line with acknowledged := command.acknowledge line.response line.acknowledged }⟩

/-- The transfer made the clocks of the configuration that was acknowledged before it. -/
def LineTransfer.Honoured (wiring : Wiring) (made : LineTransfer) : Prop :=
  made.clocks = transferClocks wiring made.acknowledged made.request made.word made.ack

instance (wiring : Wiring) (made : LineTransfer) : Decidable (made.Honoured wiring) :=
  inferInstanceAs (Decidable (_ = _))

/-! ## Transfers of a run -/

section Runs

variable {world : LineWorld} {port : SwdPort}

/-- The turnaround length is that of the given port, and so are the clocks of all
transfers. -/
def LineState.OnPort (world : LineWorld) (port : SwdPort) (s : LineState) : Prop :=
  s.port.trn = port.trn ∧ ∀ made ∈ s.transfers,
    made.clocks = transferClocks world.wiring port.conf made.request made.word made.ack

/-- A question that is no transfer, if it leaves the turnaround length alone. -/
theorem LineState.OnPort.of_same {s next : LineState} (hport : s.OnPort world port)
    (htrn : next.port.trn = s.port.trn) (hsame : next.transfers = s.transfers) :
    next.OnPort world port := by
  refine ⟨htrn.trans hport.1, ?_⟩
  rw [hsame]
  exact hport.2

theorem onPort_lineAnswer (hle : turnaroundClocks port ≤ 32) (s : LineState) (op : DapOp)
    (answer : op.Answer × LineState) (hport : s.OnPort world port)
    (hanswer : lineAnswer world s op = some answer) : answer.2.OnPort world port := by
  cases op with
  | spin => cases hanswer
  | swdTransfer request data =>
      obtain ⟨htrn, hmade⟩ := hport
      obtain rfl := Option.some.inj hanswer
      have hconf : turnaroundClocks s.port = turnaroundClocks port := by
        rw [turnaroundClocks, turnaroundClocks, htrn]
      obtain ⟨hkept, hclocks⟩ := makes_swdPhases (p := (s.port, s.history)) world.wiring
        (world.line s.asked) request data (hconf.trans_le hle)
      refine ⟨hkept.trans htrn, ?_⟩
      intro made hmem
      rcases List.mem_append.mp hmem with hbefore | hlast
      · exact hmade made hbefore
      · obtain rfl := List.mem_singleton.mp hlast
        change List.drop s.history.length _ = _
        rw [hclocks, List.drop_left]
        change transferClocks _ (SwdPort.conf s.port) _ _ _ = _
        rw [SwdPort.conf, hconf]
        rfl
  | swdReadBits nbits =>
      obtain rfl := Option.some.inj hanswer
      exact hport.of_same (trn_swdReadBits _ _ nbits _) rfl
  | swdWriteBits val nbits =>
      obtain rfl := Option.some.inj hanswer
      exact hport.of_same (trn_swdWriteBits _ _ val nbits _) rfl
  | swdWriteBytes data =>
      obtain rfl := Option.some.inj hanswer
      exact hport.of_same (trn_swdWriteBytes _ _ data _) rfl
  | portSetup =>
      obtain rfl := Option.some.inj hanswer
      exact hport.of_same (trn_dapSwdSpiPortSetup _ _) rfl
  | portOff =>
      obtain rfl := Option.some.inj hanswer
      exact hport.of_same (trn_dapSwdSpiPortOff _ _) rfl
  | _ =>
      obtain rfl := Option.some.inj hanswer
      exact hport.of_same rfl rfl

/-- No command reaches the turnaround length of the port. -/
theorem onPort_commandStep (hle : turnaroundClocks port ≤ 32) (polls : ℕ) (s : CommandState)
    (command : DapCommand) (next : CommandState) (hport : s.line.OnPort world port)
    (hstep : commandStep world polls s command = some next) : next.line.OnPort world port := by
  rw [commandStep, Option.map_eq_some_iff] at hstep
  obtain ⟨result, hresult, rfl⟩ := hstep
  exact (respond_invariant (onPort_lineAnswer hle) hport hresult).of_same rfl rfl

end Runs

/-- Over every sequence of commands: a transfer makes the turnaround of the port, no data
phase after a refusal and no idle cycles, so that it honours what was acknowledged before
it exactly if the configuration asks for no more. -/
theorem swdTransfer_configuration (world : LineWorld) (polls : ℕ) {start final : CommandState}
    {commands : List DapCommand} (htrn : start.line.port.trn.toNat ≤ 4)
    (hstart : start.line.transfers = [])
    (hrun : runActions (commandStep world polls) start commands = some final) :
    ∀ made ∈ final.line.transfers,
      made.clocks = transferClocks world.wiring start.line.port.conf made.request made.word
          made.ack ∧
        (made.Honoured world.wiring ↔
          Agrees start.line.port made.acknowledged made.ack) := by
  have hle : turnaroundClocks start.line.port ≤ 32 := by
    rw [turnaroundClocks]
    split_ifs <;> omega
  have hinitially : start.line.OnPort world start.line.port := by
    refine ⟨rfl, ?_⟩
    rw [hstart]
    intro made hmem
    cases hmem
  have hfinal := runActions_invariant (onPort_commandStep hle polls) hinitially hrun
  intro made hmem
  have hclocks := hfinal.2 made hmem
  refine ⟨hclocks, ?_⟩
  rw [LineTransfer.Honoured, hclocks]
  exact transferClocks_eq_iff _ _ _ _ _ _

/-! ## A turnaround of two clocks -/

/-- A line that is high in the tenth clock only, the first of the acknowledge. -/
def acknowledgingWorld : LineWorld where
  wiring := .singleWire
  line _ clocks := clocks.length == 10
  level _ _ := false
  garbage _ := 0#32

/-- A connected probe after `DAP_Setup`, with the port as it was initialised. -/
def connectedProbe : CommandState where
  data := ⟨dapPortSwd, 0#8, 0#32, 0#8, 100#16, 0#16, 0#32, 1#8, 0#8, 0#8⟩
  line := ⟨⟨true, false, 1#8, 8, false, .writeOnly⟩, [], fun _ => 0#8, plainConf, [], 0⟩

/-- `DAP_SWD_Configure` for a turnaround of two clocks, and a read of DPIDR. -/
def twoTurnarounds : List DapCommand :=
  [⟨Buf.ofList [0x13#8, 0x01#8], 0, 0⟩, ⟨Buf.ofList [0x05#8, 0x00#8, 0x01#8, 0x02#8], 0, 0⟩]

/-- The turnaround that was acknowledged before each transfer, its acknowledge, and whether
it was honoured. -/
theorem transfers_twoTurnarounds :
    (runActions (commandStep acknowledgingWorld 0) connectedProbe twoTurnarounds).map
        (fun final => final.line.transfers.map fun made =>
          (made.acknowledged.turnaround, made.ack, decide (made.Honoured .singleWire))) =
      some [(2, dapTransferOk, false)] := by
  decide +kernel

theorem mem_twoTurnarounds : ∃ final made,
    runActions (commandStep acknowledgingWorld 0) connectedProbe twoTurnarounds = some final ∧
      made ∈ final.line.transfers ∧ made.acknowledged.turnaround = 2 ∧
        ¬ made.Honoured .singleWire := by
  obtain ⟨final, hrun, hmap⟩ := Option.map_eq_some_iff.mp transfers_twoTurnarounds
  obtain ⟨made, hmem, hmade⟩ :=
    List.mem_map.mp (hmap ▸ List.mem_singleton_self (2, dapTransferOk, false))
  obtain ⟨hturnaround, hrest⟩ := Prod.mk.inj hmade
  exact ⟨final, made, hrun, hmem, hturnaround, of_decide_eq_false (Prod.mk.inj hrest).2⟩

/-- The read makes one turnaround clock each way. -/
theorem swdTransfer_configuration_twoTurnarounds : ∃ made : LineTransfer,
    made.acknowledged.turnaround = 2 ∧
      made.clocks = transferClocks .singleWire ⟨1, false, 0⟩ made.request made.word made.ack := by
  obtain ⟨final, made, hrun, hmem, hturnaround, -⟩ := mem_twoTurnarounds
  have hmade := swdTransfer_configuration acknowledgingWorld 0
    (show connectedProbe.line.port.trn.toNat ≤ 4 by decide) rfl hrun made hmem
  exact ⟨made, hturnaround, hmade.1⟩

/-- What was acknowledged is not always honoured. -/
theorem swdTransfer_ignores_configuration :
    ¬ ∀ (world : LineWorld) (polls : ℕ) (start final : CommandState)
        (commands : List DapCommand), start.line.port.trn = 1#8 →
      start.line.acknowledged = plainConf → start.line.transfers = [] →
      runActions (commandStep world polls) start commands = some final →
        ∀ made ∈ final.line.transfers, made.Honoured world.wiring := by
  intro hclaim
  obtain ⟨final, made, hrun, hmem, -, hignored⟩ := mem_twoTurnarounds
  exact hignored (hclaim acknowledgingWorld 0 connectedProbe final twoTurnarounds rfl rfl rfl
    hrun made hmem)

end ExLink.Dap
