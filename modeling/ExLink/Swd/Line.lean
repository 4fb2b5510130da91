/-
# The SWD line, clock by clock

Every clock the probe either drives SWDIO or releases it. The line has a level in
every clock, which may depend on all the probe did so far; this is the target and
the pull resistor. An SPI peripheral that shifts units of DATALEN bits, least
significant bit first, is one way to produce clocks.
-/

import ExLink.Swd.Transport

namespace ExLink.Swd

/-- What the probe does to SWDIO in one clock: drive a bit, or release it. -/
abbrev SwdClock := Option Bool

/-- The level of SWDIO in the last of the given clocks. -/
abbrev SwdLine := List SwdClock → Bool

/-- The levels in the clocks `next` that follow `history`. -/
def levels (line : SwdLine) (history : List SwdClock) : List SwdClock → List Bool
  | [] => []
  | clock :: rest => line (history ++ [clock]) :: levels line (history ++ [clock]) rest

section Levels

variable (line : SwdLine) (history : List SwdClock)

@[simp]
theorem levels_nil : levels line history [] = [] := rfl

@[simp]
theorem levels_cons (clock : SwdClock) (rest : List SwdClock) :
    levels line history (clock :: rest) =
      line (history ++ [clock]) :: levels line (history ++ [clock]) rest := rfl

@[simp]
theorem length_levels (next : List SwdClock) : (levels line history next).length = next.length := by
  induction next generalizing history with
  | nil => rfl
  | cons clock rest ih => rw [levels_cons, List.length_cons, List.length_cons, ih]

theorem levels_append (first second : List SwdClock) :
    levels line history (first ++ second) =
      levels line history first ++ levels line (history ++ first) second := by
  induction first generalizing history with
  | nil => rw [List.nil_append, levels_nil, List.nil_append, List.append_nil]
  | cons clock rest ih =>
      rw [List.cons_append, levels_cons, levels_cons, ih, List.cons_append, List.append_assoc,
        List.singleton_append]

/-- Renaming the clocks renames the line. -/
theorem levels_map (rename : SwdClock → SwdClock) (next : List SwdClock) :
    levels line (history.map rename) (next.map rename) =
      levels (fun clocks => line (clocks.map rename)) history next := by
  induction next generalizing history with
  | nil => rfl
  | cons clock rest ih =>
      rw [List.map_cons, levels_cons, levels_cons, ← ih, List.map_append]
      rfl

end Levels

/-- The bits of a unit of `nbits`, least significant first. -/
def unitClocks (nbits : ℕ) (unit : Word32) : List SwdClock :=
  (List.range nbits).map fun i => some (unit.getLsbD i)

/-- What MOSI does during a transfer: it drives the TX units, and in a read-only
transfer it is released. -/
def frameClocks (frame : SpiFrame) : List SwdClock :=
  match frame.mode with
  | .readOnly => List.replicate frame.dataBits none
  | .writeOnly | .writeReadTogether => frame.tx.flatMap (unitClocks frame.dataBits)

/-- A peripheral that completes every transfer and shifts least significant bit
first. Its state is the history of the line. -/
def lineTransfer (line : SwdLine) : SpiTransfer (List SwdClock) := fun frame history =>
  (⟨.success, some (wordOfBits 32 (levels line history (frameClocks frame)))⟩,
    history ++ frameClocks frame)

/-- A released clock as the two builds put it on the wire: the two-wire build lets
MOSI pull the line up through its series resistor. -/
def onWire (wiring : Wiring) : SwdClock → SwdClock
  | some bit => some bit
  | none =>
      match wiring with
      | .singleWire => none
      | .twoWire => some true

section Phases

variable (wiring : Wiring) {nbits : ℕ} (port : SwdPort)

/-- Truncating a unit to whole bytes keeps the bits that are shifted. -/
theorem unitClocks_lowBytes (hle : nbits ≤ 32) (unit : Word32) :
    unitClocks nbits (lowBytes (dataLengthInBytes nbits) unit) = unitClocks nbits unit := by
  apply List.map_congr_left
  intro i hi
  have hlt := List.mem_range.mp hi
  have hbyte : i < 8 * dataLengthInBytes nbits := by
    rw [dataLengthInBytes]
    omega
  have hword : i < 32 := by omega
  rw [lowBytes, BitVec.getLsbD_setWidth, BitVec.getLsbD_setWidth]
  simp only [hbyte, hword, decide_true, Bool.true_and]

theorem frameClocks_writeFrame (hpos : 0 < nbits) (hle : nbits ≤ 32) (val : Word32) :
    frameClocks (writeFrame wiring val nbits port) = unitClocks nbits val := by
  have hbits := dataBits_phasePort hpos hle wiring true port
  cases wiring <;>
    simp only [writeFrame, frameClocks, phaseMode, hbits, List.flatMap_cons, List.flatMap_nil,
      List.append_nil, unitClocks_lowBytes hle]

theorem unitClocks_allOnes (hle : nbits ≤ 32) :
    unitClocks nbits 0xFFFFFFFF#32 = List.replicate nbits (some true) := by
  rw [unitClocks, List.map_eq_replicate_iff.mpr, List.length_range]
  intro i hi
  have hlt : i < 32 := by
    have := List.mem_range.mp hi
    omega
  have hones : (0xFFFFFFFF#32 : Word32) = BitVec.allOnes 32 := rfl
  rw [hones, BitVec.getLsbD_allOnes, decide_eq_true hlt]

theorem frameClocks_readFrame (hpos : 0 < nbits) (hle : nbits ≤ 32) :
    frameClocks (readFrame wiring nbits port) =
      (List.replicate nbits none).map (onWire wiring) := by
  have hbits := dataBits_phasePort hpos hle wiring false port
  cases wiring with
  | singleWire =>
      simp only [readFrame, frameClocks, phaseMode, hbits, List.map_replicate, onWire]
  | twoWire =>
      simp only [readFrame, frameClocks, phaseMode, hbits, List.flatMap_cons, List.flatMap_nil,
        List.append_nil, unitClocks_lowBytes hle, unitClocks_allOnes hle, List.map_replicate,
        onWire]

end Phases

end ExLink.Swd
