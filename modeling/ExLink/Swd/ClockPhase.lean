/-
# The clock phase of the SPI

In the single-wire build `s_drive` remembers the direction that TRANSFMT was last set up for,
and `spi_set_drive` skips the registers where it stays. `dap_swd_spi_init`, the port functions
and `swd_cfg` each change only some of what has to go together.
-/

import ExLink.Automata.Mealy
import ExLink.Swd.Transport

namespace ExLink.Swd

open ExLink.Automata

/-! ## Calls -/

/-- `dap_swd_spi_init`, as far as the port's variables and the registers go. -/
def dapSwdSpiInit (wiring : Wiring) (port : SwdPort) : SwdPort :=
  let port := { port with dataBits := 8, cpha := port.readEven }
  match wiring with
  | .twoWire => port
  | .singleWire => { port with drive := true, transMode := .writeOnly }

/-- The calls that set up or use the port. `swd_cfg` is given its first argument. -/
inductive SpiPortCall where
  | dapSwdSpiInit
  | dapSwdSpiPortSetup
  | dapSwdSpiPortOff
  | swdCfg (readEven : Bool)
  | swdWriteBits (val : Word32) (nbits : ℕ)
  | swdReadBits (nbits : ℕ)
  | swdWriteBytes (data : List Byte)
  deriving DecidableEq

section Calls

variable {σ : Type*}

/-- Transfers, with the frames that were shifted. -/
def observed (transfer : SpiTransfer σ) : SpiTransfer (σ × List SpiFrame) := fun frame s =>
  let (outcome, next) := transfer frame s.1
  (outcome, next, s.2 ++ [frame])

/-- The frames that a call shifts, and what it leaves. -/
def spiPortStep (transfer : SpiTransfer σ) (p : PortState σ) :
    SpiPortCall → List SpiFrame × PortState σ
  | .dapSwdSpiInit => ([], dapSwdSpiInit .singleWire p.1, p.2)
  | .dapSwdSpiPortSetup => ([], dapSwdSpiPortSetup .singleWire p.1, p.2)
  | .dapSwdSpiPortOff => ([], dapSwdSpiPortOff .singleWire p.1, p.2)
  | .swdCfg readEven => ([], { p.1 with readEven := readEven }, p.2)
  | .swdWriteBits val nbits =>
      let (port, s, frames) := swdWriteBits .singleWire (observed transfer) val nbits (p.1, p.2, [])
      (frames, port, s)
  | .swdReadBits nbits =>
      let (_, port, s, frames) := swdReadBits .singleWire (observed transfer) nbits (p.1, p.2, [])
      (frames, port, s)
  | .swdWriteBytes data =>
      let (port, s, frames) := swdWriteBytes .singleWire (observed transfer) data (p.1, p.2, [])
      (frames, port, s)

end Calls

/-! ## Coherence -/

/-- A write phase has CPHA 0, a read phase what `s_read_even` selects. -/
def ShiftsRight (port : SwdPort) (frame : SpiFrame) : Prop :=
  frame.cpha = if frame.mode = .readOnly then port.readEven else false

/-- TRANSFMT is set up for the direction that `s_drive` remembers. -/
def SwdPort.Coherent (port : SwdPort) : Prop :=
  port.cpha = if port.drive then false else port.readEven

/-- What a call must not find. -/
def KeepsPhase (port : SwdPort) : SpiPortCall → Prop
  | .dapSwdSpiInit => port.readEven = false
  | .dapSwdSpiPortSetup => port.drive = true ∨ port.readEven = false
  | .dapSwdSpiPortOff => port.drive = false ∨ port.readEven = false
  | .swdCfg readEven => port.drive = true ∨ readEven = port.readEven
  | .swdWriteBits _ _ | .swdReadBits _ | .swdWriteBytes _ => True

instance (port : SwdPort) (frame : SpiFrame) : Decidable (ShiftsRight port frame) :=
  inferInstanceAs (Decidable (_ = _))

section Phases

variable {σ : Type*} (transfer : SpiTransfer σ) {port : SwdPort} (s : σ)

/-- The direction is changed together with the phase. -/
theorem coherent_spiSetDrive (hcoherent : port.Coherent) (drive : Bool) :
    (spiSetDrive drive port).Coherent ∧ (spiSetDrive drive port).drive = drive ∧
      (spiSetDrive drive port).readEven = port.readEven := by
  by_cases hsame : drive = port.drive
  · rw [spiSetDrive, if_pos hsame]
    exact ⟨hcoherent, hsame.symm, rfl⟩
  · rw [spiSetDrive, if_neg hsame]
    exact ⟨rfl, rfl, rfl⟩

/-- The width of a phase does not matter. -/
theorem coherent_phasePort (drive : Bool) (nbits : ℕ) (hcoherent : port.Coherent) :
    (phasePort .singleWire drive nbits port).Coherent ∧
      (phasePort .singleWire drive nbits port).cpha =
        if drive then false else port.readEven := by
  obtain ⟨hkept, hdrive, heven⟩ := coherent_spiSetDrive hcoherent drive
  have hcpha : (spiSetDrive drive port).cpha = if drive then false else port.readEven := by
    rw [hkept, hdrive, heven]
  by_cases hwide : 32 < nbits
  · rw [phasePort, spiSetDataBits, if_pos hwide]
    exact ⟨hkept, hcpha⟩
  · rw [phasePort, spiSetDataBits, if_neg hwide]
    exact ⟨hkept, hcpha⟩

theorem spiPortStep_swdWriteBits (val : Word32) (nbits : ℕ) (p : PortState σ) :
    (spiPortStep transfer p (.swdWriteBits val nbits)).1 = [writeFrame .singleWire val nbits p.1] ∧
      (spiPortStep transfer p (.swdWriteBits val nbits)).2.1 =
        afterPhase .singleWire true nbits p.1 := ⟨rfl, rfl⟩

theorem spiPortStep_swdReadBits (nbits : ℕ) (p : PortState σ) :
    (spiPortStep transfer p (.swdReadBits nbits)).1 = [readFrame .singleWire nbits p.1] ∧
      (spiPortStep transfer p (.swdReadBits nbits)).2.1 =
        afterPhase .singleWire false nbits p.1 := ⟨rfl, rfl⟩

/-- All chunks are shifted with the registers as the first one finds them. -/
theorem spiPortStep_swdWriteBytes (data : List Byte) (p : PortState σ) :
    (∀ frame ∈ (spiPortStep transfer p (.swdWriteBytes data)).1,
        frame.mode = .writeOnly ∧ frame.cpha = (phasePort .singleWire true 8 p.1).cpha) ∧
      ∃ transMode, (spiPortStep transfer p (.swdWriteBytes data)).2.1 =
        { phasePort .singleWire true 8 p.1 with transMode := transMode } := by
  have hchunks (chunks : List (List Byte)) (q : PortState (σ × List SpiFrame))
      (hport : ∃ transMode, q.1 = { phasePort .singleWire true 8 p.1 with transMode := transMode })
      (hframes : ∀ frame ∈ q.2.2,
        frame.mode = .writeOnly ∧ frame.cpha = (phasePort .singleWire true 8 p.1).cpha) :
      let last := chunks.foldl (fun p chunk =>
        (spiCall (observed transfer) .writeOnly (chunk.map (BitVec.setWidth 32)) p).2) q
      (∀ frame ∈ last.2.2,
          frame.mode = .writeOnly ∧ frame.cpha = (phasePort .singleWire true 8 p.1).cpha) ∧
        ∃ transMode, last.1 = { phasePort .singleWire true 8 p.1 with transMode := transMode } := by
    induction chunks generalizing q with
    | nil => exact ⟨hframes, hport⟩
    | cons chunk rest ih =>
        obtain ⟨transMode, hport⟩ := hport
        apply ih
        · exact ⟨.writeOnly, by simp only [spiCall, hport]⟩
        · intro frame hmem
          rcases List.mem_append.mp hmem with hbefore | hlast
          · exact hframes frame hbefore
          · obtain rfl := List.mem_singleton.mp hlast
            exact ⟨rfl, by rw [hport]⟩
  exact hchunks (data.toChunks 256) (phasePort .singleWire true 8 p.1, p.2, []) ⟨_, rfl⟩
    fun _ hmem => absurd hmem List.not_mem_nil

/-- From a coherent port whatever comes next is shifted right. -/
theorem shiftsRight_of_coherent {p : PortState σ} (hcoherent : p.1.Coherent) (call : SpiPortCall) :
    ∀ frame ∈ (spiPortStep transfer p call).1, ShiftsRight p.1 frame := by
  intro frame hmem
  cases call with
  | dapSwdSpiInit | dapSwdSpiPortSetup | dapSwdSpiPortOff | swdCfg _ =>
      exact absurd hmem List.not_mem_nil
  | swdWriteBits val nbits =>
      rw [(spiPortStep_swdWriteBits transfer val nbits p).1, List.mem_singleton] at hmem
      subst hmem
      exact (coherent_phasePort true nbits hcoherent).2
  | swdReadBits nbits =>
      rw [(spiPortStep_swdReadBits transfer nbits p).1, List.mem_singleton] at hmem
      subst hmem
      exact (coherent_phasePort false nbits hcoherent).2
  | swdWriteBytes data =>
      obtain ⟨hmode, hcpha⟩ := (spiPortStep_swdWriteBytes transfer data p).1 frame hmem
      rw [ShiftsRight, hmode, hcpha, (coherent_phasePort true 8 hcoherent).2]
      rfl

/-- Only from a coherent port: a phase in the remembered direction leaves TRANSFMT as it is. -/
theorem coherent_of_shiftsRight {p : PortState σ}
    (hright : ∀ call, ∀ frame ∈ (spiPortStep transfer p call).1, ShiftsRight p.1 frame) :
    p.1.Coherent := by
  cases hdrive : p.1.drive with
  | true =>
      have hwrite := hright (.swdWriteBits 0#32 1) _
        ((spiPortStep_swdWriteBits transfer 0#32 1 p).1 ▸ List.mem_singleton_self _)
      have hsame : spiSetDrive true p.1 = p.1 := if_pos hdrive.symm
      rw [SwdPort.Coherent, hdrive]
      simpa [ShiftsRight, writeFrame, phasePort, phaseMode, spiSetDataBits, hsame] using hwrite
  | false =>
      have hread := hright (.swdReadBits 1) _
        ((spiPortStep_swdReadBits transfer 1 p).1 ▸ List.mem_singleton_self _)
      have hsame : spiSetDrive false p.1 = p.1 := if_pos hdrive.symm
      rw [SwdPort.Coherent, hdrive]
      simpa [ShiftsRight, readFrame, phasePort, phaseMode, spiSetDataBits, hsame] using hread

/-- What a call makes of coherence. -/
theorem coherent_spiPortStep (p : PortState σ) (call : SpiPortCall) (hcoherent : p.1.Coherent) :
    (spiPortStep transfer p call).2.1.Coherent ↔ KeepsPhase p.1 call := by
  have hcpha : p.1.cpha = if p.1.drive then false else p.1.readEven := hcoherent
  cases call with
  | dapSwdSpiInit => exact Iff.rfl
  | dapSwdSpiPortSetup =>
      change p.1.cpha = false ↔ p.1.drive = true ∨ p.1.readEven = false
      rw [hcpha]
      cases p.1.drive <;> simp
  | dapSwdSpiPortOff =>
      change p.1.cpha = p.1.readEven ↔ p.1.drive = false ∨ p.1.readEven = false
      rw [hcpha]
      cases p.1.drive <;> cases p.1.readEven <;> simp
  | swdCfg readEven =>
      change p.1.cpha = (if p.1.drive then false else readEven) ↔
        p.1.drive = true ∨ readEven = p.1.readEven
      rw [hcpha]
      cases p.1.drive <;> cases p.1.readEven <;> cases readEven <;> simp
  | swdWriteBits val nbits =>
      exact iff_of_true (coherent_phasePort true nbits hcoherent).1 trivial
  | swdReadBits nbits =>
      exact iff_of_true (coherent_phasePort false nbits hcoherent).1 trivial
  | swdWriteBytes data =>
      obtain ⟨transMode, hport⟩ := (spiPortStep_swdWriteBytes transfer data _).2
      rw [hport]
      exact iff_of_true (coherent_phasePort true 8 hcoherent).1 trivial

end Phases

/-! ## Runs -/

section Runs

variable {σ : Type*}

/-- In every state of a run, whatever phase comes next is shifted with the CPHA of its
direction, exactly if the port is coherent at the start and no step changes one of `s_drive`,
`s_read_even` and TRANSFMT without the others: `dap_swd_spi_init` finds `s_read_even` clear,
`dap_swd_spi_port_setup` finds the port driven or `s_read_even` clear,
`dap_swd_spi_port_off` finds it released or `s_read_even` clear, and `swd_cfg` finds it driven
or leaves `s_read_even` as it is. -/
theorem shiftsRight_iff_keepsPhase (transfer : SpiTransfer σ) (start : PortState σ)
    (calls : List SpiPortCall) :
    (∀ before after, calls = before ++ after → ∀ call,
      ∀ frame ∈ (spiPortStep transfer (runMealy (spiPortStep transfer) start before) call).1,
        ShiftsRight (runMealy (spiPortStep transfer) start before).1 frame) ↔
      start.1.Coherent ∧ ∀ before call after, calls = before ++ call :: after →
        KeepsPhase (runMealy (spiPortStep transfer) start before).1 call := by
  have hruns := @runMealy_invariant_iff _ _ _ _ (fun p => p.1.Coherent) _
    (coherent_spiPortStep transfer) start calls
  rw [← hruns]
  apply forall₃_congr
  intro before after _
  exact ⟨coherent_of_shiftsRight transfer, shiftsRight_of_coherent transfer⟩

/-- The port after power-on: the static initialisers, and registers that read as zero. -/
def swdPortPowerOn : SwdPort := ⟨true, false, 1#8, 1, false, .writeReadTogether⟩

example : swdPortPowerOn.Coherent := rfl

/-- `swd_cfg 1` and then `swd_id`, which sets up the SPI first: its first write phase is
shifted with CPHA 1. -/
theorem swdWriteBits_cpha_after_init :
    let transfer : SpiTransfer Unit := fun _ s => (⟨.success, some 0#32⟩, s)
    let p := runMealy (spiPortStep transfer) (swdPortPowerOn, ())
      [.dapSwdSpiInit, .swdCfg true, .dapSwdSpiInit]
    (spiPortStep transfer p (.swdWriteBits 0xA5#32 8)).1 = [⟨.writeOnly, 8, true, [0xA5#32]⟩] ∧
      ¬ ShiftsRight p.1 ⟨.writeOnly, 8, true, [0xA5#32]⟩ := by
  decide

end Runs

end ExLink.Swd
