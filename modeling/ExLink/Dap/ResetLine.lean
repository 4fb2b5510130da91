/-
# The reset line over sequences of operations

The line is meant to be open drain: released, or driven low. Everything that acts on it but
parking keeps this through every register write, except that setting up the port passes
through the chip select function. Disconnecting acts on it not at all.
-/

import ExLink.Dap.Configuration
import ExLink.Dap.ResetPad

namespace ExLink.Dap

open ExLink.Automata ExLink.Automata.Prog

/-! ## Sequences -/

/-- A command of the host, with how long it polls, and with what it finds: `DAP_Data` and
the state of the world, whatever came before. -/
structure DapCall (ε : Type) where
  command : DapCommand
  polls : ℕ
  data : DapData
  world : ε

/-- What acts on the line: the operations of the port, but for parking, and commands. -/
inductive ResetAction (ε : Type) where
  | spiInit
  | portSetup
  | portOff
  | nResetOut (bit : Word32)
  | resetTarget
  | nResetPulse
  | command (call : DapCall ε)

section Writes

variable {ε : Type} (world : World DapOp DapOp.Answer ε)

/-- The register writes of a command. -/
def DapCall.writes (call : DapCall ε) : List PadWrite :=
  let command := call.command
  emitted DapOp.padWrites world.answer
    ((dapProcessCommand command.buf call.polls command.request command.response).run call.data)
    call.world

/-- The register writes of an action. -/
def ResetAction.writes : ResetAction ε → List PadWrite
  | .spiInit => dapSwdSpiInit
  | .portSetup => spiPortSetup
  | .portOff => spiPortOff
  | .nResetOut bit => pinNresetOut bit
  | .resetTarget => Dap.resetTarget
  | .nResetPulse => dapSwdNresetPulse
  | .command call => call.writes world

theorem DapCall.writes_eq (call : DapCall ε) :
    call.writes world = commandWrites call.command.buf call.command.request :=
  writesPad_dapProcessCommand call.polls call.data ε world call.world

end Writes

/-- The port on a line is such a world. -/
def portWorld (world : LineWorld) : World DapOp DapOp.Answer LineState where
  answer := lineAnswer world
  answers s op hop := by
    cases op with
    | spin => exact hop.some.elim
    | _ => rfl

/-! ## Never driven high -/

/-- The line is released or driven low. -/
def ResetPad.OpenDrain (pad : ResetPad) : Prop := pad.driven ≠ some true

instance (pad : ResetPad) : Decidable pad.OpenDrain := inferInstanceAs (Decidable (_ ≠ _))

/-- Writes that keep it so, each of them. -/
def KeepsOpenDrain (writes : List PadWrite) : Prop :=
  ∀ pad : ResetPad, pad.OpenDrain → ∀ state ∈ pad.states writes, state.OpenDrain

theorem after_mem (pad : ResetPad) (writes : List PadWrite) :
    pad.after writes = pad ∨ pad.after writes ∈ pad.states writes := by
  induction writes generalizing pad with
  | nil => exact Or.inl rfl
  | cons write rest ih =>
      refine Or.inr ?_
      rcases ih (pad.write write) with hsame | hlater
      · exact List.mem_cons.mpr (Or.inl hsame)
      · exact List.mem_cons_of_mem _ hlater

section OpenDrain

variable {first second : List PadWrite}

theorem KeepsOpenDrain.after (h : KeepsOpenDrain first) {pad : ResetPad} (hpad : pad.OpenDrain) :
    (pad.after first).OpenDrain := by
  rcases after_mem pad first with hsame | hmem
  · rwa [hsame]
  · exact h pad hpad _ hmem

theorem keepsOpenDrain_nil : KeepsOpenDrain [] := fun _ _ _ hmem => absurd hmem List.not_mem_nil

theorem KeepsOpenDrain.append (hfirst : KeepsOpenDrain first) (hsecond : KeepsOpenDrain second) :
    KeepsOpenDrain (first ++ second) := by
  intro pad hpad state hmem
  rw [states_append] at hmem
  rcases List.mem_append.mp hmem with hmem | hmem
  · exact hfirst pad hpad state hmem
  · exact hsecond _ (hfirst.after hpad) state hmem

/-- Open drain in terms of the registers: a GPIO that is driven low if at all. -/
theorem openDrain_iff (pad : ResetPad) :
    pad.OpenDrain ↔ pad.func = .gpioA26 ∧ (pad.output = true → pad.latch = false) := by
  obtain ⟨func, ctl, latch, output⟩ := pad
  rw [ResetPad.OpenDrain, ResetPad.driven]
  cases func <;> cases output <;> simp

theorem keepsOpenDrain_direction : KeepsOpenDrain [.direction false] := by
  intro pad hpad state hmem
  obtain rfl := List.mem_singleton.mp hmem
  rw [openDrain_iff] at hpad ⊢
  exact ⟨hpad.1, fun hout => absurd hout Bool.false_ne_true⟩

/-- The latch is cleared before the output is enabled. -/
theorem keepsOpenDrain_assert : KeepsOpenDrain [.level false, .direction true] := by
  intro pad hpad state hmem
  rw [openDrain_iff] at hpad ⊢
  simp only [ResetPad.states, List.mem_cons, List.not_mem_nil, or_false] at hmem
  rcases hmem with rfl | rfl <;> exact ⟨hpad.1, fun _ => rfl⟩

theorem keepsOpenDrain_swdNresetInit : KeepsOpenDrain swdNresetInit := by
  intro pad hpad state hmem
  rw [openDrain_iff] at hpad ⊢
  simp only [swdNresetInit, ResetPad.states, List.mem_cons, List.not_mem_nil, or_false] at hmem
  rcases hmem with rfl | rfl | rfl
  · exact ⟨rfl, hpad.2⟩
  · exact ⟨rfl, hpad.2⟩
  · exact ⟨rfl, fun hout => absurd hout Bool.false_ne_true⟩

theorem keepsOpenDrain_pinNresetOut (bit : Word32) : KeepsOpenDrain (pinNresetOut bit) := by
  rw [pinNresetOut]
  split_ifs
  · exact keepsOpenDrain_direction
  · exact keepsOpenDrain_assert

theorem keepsOpenDrain_resetTarget : KeepsOpenDrain resetTarget :=
  (keepsOpenDrain_pinNresetOut 0#32).append (keepsOpenDrain_pinNresetOut 1#32)

theorem keepsOpenDrain_dapSwdNresetPulse : KeepsOpenDrain dapSwdNresetPulse :=
  keepsOpenDrain_swdNresetInit.append (keepsOpenDrain_assert.append keepsOpenDrain_direction)

/-- Whoever hands the pad to the SPI drives the line high. -/
theorem exists_high {pad : ResetPad} {writes : List PadWrite}
    (h : PadWrite.funcCtl .spi1Cs0 ∈ writes) : ∃ state ∈ pad.states writes, ¬ state.OpenDrain := by
  induction writes generalizing pad with
  | nil => exact absurd h List.not_mem_nil
  | cons write rest ih =>
      rcases List.mem_cons.mp h with rfl | hrest
      · exact ⟨_, List.mem_cons_self, fun hopen => hopen rfl⟩
      · obtain ⟨state, hmem, hhigh⟩ := @ih (pad.write write) hrest
        exact ⟨state, List.mem_cons_of_mem _ hmem, hhigh⟩

end OpenDrain

/-- `DAP_Connect` to SWD. -/
def DapCommand.ConnectsSwd (command : DapCommand) : Prop :=
  command.buf command.request = 0x02#8 ∧ SelectsSwd (command.buf (command.request + 1))

instance (command : DapCommand) : Decidable command.ConnectsSwd :=
  inferInstanceAs (Decidable (_ ∧ _))

/-- The action sets up the pads of the SPI. -/
def ResetAction.SetsUpSpi {ε : Type} : ResetAction ε → Prop
  | .spiInit | .portSetup => True
  | .command call => call.command.ConnectsSwd
  | _ => False

section Actions

variable {ε : Type} {world : World DapOp DapOp.Answer ε}

theorem handlerWrites_setsUp {buf : Buf} {id request : ℕ}
    (h : ¬ (id = 0x02 ∧ SelectsSwd (buf request))) :
    KeepsOpenDrain (handlerWrites buf id request) := by
  unfold handlerWrites
  split
  · rw [if_neg fun hswd => h ⟨rfl, hswd⟩]
    exact keepsOpenDrain_nil
  · exact keepsOpenDrain_resetTarget
  · split_ifs
    · exact keepsOpenDrain_pinNresetOut _
    · exact keepsOpenDrain_nil
  · exact keepsOpenDrain_nil

theorem keepsOpenDrain_writes {action : ResetAction ε} (h : ¬ action.SetsUpSpi) :
    KeepsOpenDrain (action.writes world) := by
  cases action with
  | spiInit => exact absurd trivial h
  | portSetup => exact absurd trivial h
  | portOff => exact keepsOpenDrain_nil
  | nResetOut bit => exact keepsOpenDrain_pinNresetOut bit
  | resetTarget => exact keepsOpenDrain_resetTarget
  | nResetPulse => exact keepsOpenDrain_dapSwdNresetPulse
  | command call =>
      rw [ResetAction.writes, DapCall.writes_eq]
      refine handlerWrites_setsUp fun hconnect => h ⟨?_, hconnect.2⟩
      exact BitVec.eq_of_toNat_eq hconnect.1

theorem funcCtl_mem_writes {action : ResetAction ε} (h : action.SetsUpSpi) :
    PadWrite.funcCtl .spi1Cs0 ∈ action.writes world := by
  cases action with
  | spiInit => exact List.mem_cons_self
  | portSetup => exact List.mem_cons_self
  | command call =>
      obtain ⟨hid, hswd⟩ := h
      rw [ResetAction.writes, DapCall.writes_eq, commandWrites, hid]
      change _ ∈ if SelectsSwd _ then spiPortSetup else []
      rw [if_pos hswd]
      exact List.mem_cons_self
  | _ => exact absurd h id

end Actions

/-- From any state in which the line is not driven high, and for every sequence of commands
and port operations but parking: it is not driven high at any register write exactly if no
operation sets up the pads of the SPI and no command connects to SWD. -/
theorem resetLine_openDrain_iff {ε : Type} (world : World DapOp DapOp.Answer ε) {start : ResetPad}
    (hstart : start.OpenDrain) (actions : List (ResetAction ε)) :
    (∀ pad ∈ start.states (actions.flatMap (ResetAction.writes world)), pad.OpenDrain) ↔
      ∀ action ∈ actions, ¬ action.SetsUpSpi := by
  constructor
  · intro hopen action hmem hsets
    obtain ⟨state, hstate, hhigh⟩ := @exists_high start _
      (List.mem_flatMap.mpr ⟨action, hmem, @funcCtl_mem_writes _ world _ hsets⟩)
    exact hhigh (hopen state hstate)
  · intro hnone
    have hkeeps : KeepsOpenDrain (actions.flatMap (ResetAction.writes world)) := by
      induction actions with
      | nil => exact keepsOpenDrain_nil
      | cons action rest ih =>
          rw [List.flatMap_cons]
          exact (keepsOpenDrain_writes (hnone action List.mem_cons_self)).append
            (ih fun later hmem => hnone later (List.mem_cons_of_mem _ hmem))
    exact hkeeps start hstart

/-- The pad out of a power-up: a GPIO input. -/
def resetPadPowerUp : ResetPad := ⟨.gpioA26, ⟨0, 0, false, false, false⟩, false, false⟩

/-- A command on the connected probe. -/
def onConnectedProbe (bytes : List Byte) : DapCall LineState where
  command := ⟨Buf.ofList bytes, 0, 0⟩
  polls := 0
  data := connectedProbe.data
  world := connectedProbe.line

/-- Reset asserted by the macro and released by a pulse, with a port that is only closed. -/
theorem resetLine_openDrain_iff_pulse :
    resetPadPowerUp.OpenDrain ∧
      ∀ pad ∈ resetPadPowerUp.states
          ([ResetAction.nResetOut 0#32, .portOff, .nResetPulse].flatMap
            (ResetAction.writes (portWorld acknowledgingWorld))),
        pad.OpenDrain := by
  have hstart : resetPadPowerUp.OpenDrain := by decide
  refine ⟨hstart, ?_⟩
  exact (resetLine_openDrain_iff (portWorld acknowledgingWorld) hstart
    [ResetAction.nResetOut 0#32, .portOff, .nResetPulse]).mpr (by simp [ResetAction.SetsUpSpi])

/-- Reset is asserted over `DAP_SWJ_Pins`, and the host connects to SWD. -/
theorem resetLine_driven_high :
    ¬ ∀ (ε : Type) (world : World DapOp DapOp.Answer ε) (start : ResetPad), start.OpenDrain →
      ∀ actions : List (ResetAction ε),
        ∀ pad ∈ start.states (actions.flatMap (ResetAction.writes world)), pad.OpenDrain := by
  intro hclaim
  have hpads := hclaim LineState (portWorld acknowledgingWorld) resetPadPowerUp (by decide)
    [.command (onConnectedProbe [0x10#8, 0x00#8, 0x80#8, 0#8, 0#8, 0#8, 0#8]),
      .command (onConnectedProbe [0x02#8, 0x01#8])]
  simp only [List.flatMap_cons, List.flatMap_nil, ResetAction.writes, DapCall.writes_eq] at hpads
  -- the third write hands the pad to the SPI
  exact hpads ⟨.spi1Cs0, ⟨0, 0, false, false, false⟩, false, true⟩ (by decide) rfl

/-! ## Released by a Disconnect -/

/-- What the handler of an identifier leaves of the line: held in reset, released, or as it
was. -/
def handlerEffect (buf : Buf) (id request : ℕ) : Option Bool :=
  match id with
  | 0x02 => if SelectsSwd (buf request) then some false else none
  | 0x0A => some false
  | 0x10 =>
      if BitSelected ((buf (request + 1)).setWidth 32) 7 then
        some (decide (((buf request).setWidth 32 >>> 7) &&& 1#32 = 0#32))
      else none
  | _ => none

/-- What a command leaves of it. -/
def DapCommand.resetEffect (command : DapCommand) : Option Bool :=
  handlerEffect command.buf (command.buf command.request).toNat (command.request + 1)

/-- The line is held in reset, or released. -/
def ResetPad.Holds (pad : ResetPad) (held : Bool) : Prop :=
  pad.driven = if held = true then some false else none

/-- How a sequence of commands leaves the line: the last one that acts on it decides. -/
def leftHeld {ε : Type} (held : Bool) (calls : List (DapCall ε)) : Bool :=
  (calls.filterMap fun call => call.command.resetEffect).getLast?.getD held

section Held

variable {ε : Type} {world : World DapOp DapOp.Answer ε} {pad : ResetPad} {held : Bool}

theorem leftHeld_cons (call : DapCall ε) (rest : List (DapCall ε)) :
    leftHeld held (call :: rest) = leftHeld (call.command.resetEffect.getD held) rest := by
  rw [leftHeld, leftHeld]
  rw [List.filterMap_cons]
  cases call.command.resetEffect with
  | none => rfl
  | some left => exact congrArg (Option.getD · held) (List.getLast?_cons)

/-- Held or released in terms of the registers. -/
theorem holds_iff :
    pad.Holds held ↔
      pad.func = .gpioA26 ∧ pad.output = held ∧ (held = true → pad.latch = false) := by
  obtain ⟨func, ctl, latch, output⟩ := pad
  rw [ResetPad.Holds, ResetPad.driven]
  cases func <;> cases output <;> cases held <;> simp

theorem holds_swdNresetInit : (pad.after swdNresetInit).Holds false :=
  holds_iff.mpr ⟨rfl, rfl, fun h => absurd h Bool.false_ne_true⟩

/-- Released by an odd bit, held by an even one, from either. -/
theorem ResetPad.Holds.pinNresetOut (h : pad.Holds held) (bit : Word32) :
    (pad.after (pinNresetOut bit)).Holds (decide (bit &&& 1#32 = 0#32)) := by
  have hfunc := (holds_iff.mp h).1
  rw [Dap.pinNresetOut]
  by_cases hbit : bit &&& 1#32 = 0#32
  · rw [if_neg (not_not_intro hbit), decide_eq_true hbit]
    exact holds_iff.mpr ⟨hfunc, rfl, fun _ => rfl⟩
  · rw [if_pos hbit, decide_eq_false hbit]
    exact holds_iff.mpr ⟨hfunc, rfl, fun h => absurd h Bool.false_ne_true⟩

/-- Identifiers that no handler is reached with have no effect. -/
theorem handlerEffect_eq_none {buf : Buf} {id request : ℕ} (hconnect : id ≠ 0x02)
    (hreset : id ≠ 0x0A) (hpins : id ≠ 0x10) : handlerEffect buf id request = none := by
  unfold handlerEffect
  split <;> first | contradiction | rfl

/-- A command leaves the line as its bytes say. -/
theorem ResetPad.Holds.handlerWrites (h : pad.Holds held) (buf : Buf) (id request : ℕ) :
    (pad.after (handlerWrites buf id request)).Holds
      ((handlerEffect buf id request).getD held) := by
  by_cases hconnect : id = 0x02
  · subst hconnect
    unfold Dap.handlerWrites handlerEffect
    by_cases hswd : SelectsSwd (buf request)
    · simp only [if_pos hswd]
      exact holds_swdNresetInit
    · simp only [if_neg hswd]
      exact h
  by_cases hreset : id = 0x0A
  · subst hreset
    change (pad.after resetTarget).Holds false
    rw [resetTarget, after_append]
    exact (h.pinNresetOut 0#32).pinNresetOut 1#32
  by_cases hpins : id = 0x10
  · subst hpins
    unfold Dap.handlerWrites handlerEffect
    by_cases hselected : BitSelected ((buf (request + 1)).setWidth 32) 7
    · simp only [if_pos hselected]
      exact h.pinNresetOut _
    · simp only [if_neg hselected]
      exact h
  · rw [handlerWrites_eq_nil hconnect hreset hpins, handlerEffect_eq_none hconnect hreset hpins]
    exact h

theorem ResetPad.Holds.calls (h : pad.Holds held) (calls : List (DapCall ε)) :
    (pad.after (calls.flatMap (DapCall.writes world))).Holds (leftHeld held calls) := by
  induction calls generalizing pad held with
  | nil => exact h
  | cons call rest ih =>
      rw [List.flatMap_cons, after_append, leftHeld_cons, DapCall.writes_eq]
      exact ih (h.handlerWrites _ _ _)

end Held

/-- From either state of the line, and for every sequence of commands that ends with
`DAP_Disconnect`: the line is released after it exactly if the last command before it that
acts on the line does not leave it held. -/
theorem disconnect_releases_iff {ε : Type} (world : World DapOp DapOp.Answer ε) {start : ResetPad}
    {held : Bool} (hstart : start.Holds held) (calls : List (DapCall ε)) (last : DapCall ε)
    (hlast : last.command.buf last.command.request = 0x03#8) :
    (start.after ((calls ++ [last]).flatMap (DapCall.writes world))).driven = none ↔
      leftHeld held calls = false := by
  have hnothing : last.writes world = [] := by
    rw [DapCall.writes_eq, commandWrites, hlast]
    rfl
  have hcalls := @ResetPad.Holds.calls ε world start held hstart calls
  rw [List.flatMap_append, List.flatMap_singleton, hnothing, List.append_nil, hcalls]
  cases leftHeld held calls <;> simp

/-- A ResetTarget after an assertion that was never taken back, and a Disconnect. -/
theorem disconnect_releases_iff_resetTarget :
    (resetPadPowerUp.after
      (([onConnectedProbe [0x10#8, 0x00#8, 0x80#8, 0#8, 0#8, 0#8, 0#8], onConnectedProbe [0x0A#8]] ++
        [onConnectedProbe [0x03#8]]).flatMap
          (DapCall.writes (portWorld acknowledgingWorld)))).driven = none :=
  (disconnect_releases_iff (portWorld acknowledgingWorld) (show resetPadPowerUp.Holds false from rfl)
    [onConnectedProbe [0x10#8, 0x00#8, 0x80#8, 0#8, 0#8, 0#8, 0#8], onConnectedProbe [0x0A#8]]
    (onConnectedProbe [0x03#8]) rfl).mpr (by decide)

/-- Reset is asserted over `DAP_SWJ_Pins`, and the host disconnects: the target stays in
reset. -/
theorem disconnect_leaves_reset :
    ¬ ∀ (ε : Type) (world : World DapOp DapOp.Answer ε) (start : ResetPad), start.Holds false →
      ∀ (calls : List (DapCall ε)) (last : DapCall ε),
        last.command.buf last.command.request = 0x03#8 →
          (start.after ((calls ++ [last]).flatMap (DapCall.writes world))).driven = none := by
  intro hclaim
  have hreleased := hclaim LineState (portWorld acknowledgingWorld) resetPadPowerUp rfl
    [onConnectedProbe [0x10#8, 0x00#8, 0x80#8, 0#8, 0#8, 0#8, 0#8]] (onConnectedProbe [0x03#8]) rfl
  simp only [List.flatMap_append, List.flatMap_singleton, DapCall.writes_eq] at hreleased
  exact absurd hreleased (by decide)

end ExLink.Dap
