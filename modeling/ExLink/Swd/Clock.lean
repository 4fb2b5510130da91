/-
# Setting the SWD clock

`DAP_SWJ_Clock` down to the divider field of the SPI timing register. The divider
routine takes exact even ratios only and otherwise leaves the register as it is;
the caller does not look at its status.
-/

import ExLink.Automata.Mealy
import ExLink.Swd.Spi
import Mathlib.Algebra.Group.Even
import Mathlib.Data.Nat.Basic

namespace ExLink.Swd

open ExLink.Automata

/-- The fields of the TIMING register. -/
structure SpiTiming where
  cs2sclk : Byte
  csht : Byte
  sclkDiv : Byte
  deriving DecidableEq

/-- `spi_master_timing_init`, for a configuration with the other fields zero. -/
def spiMasterTimingInit (src hz : Word32) (timing : SpiTiming) : HpmStat × SpiTiming :=
  if hz = 0#32 then (.invalidArgument, timing)
  else if hz < src then
    let divRemainder := src % hz
    let divInteger := src / hz
    if divRemainder ≠ 0#32 ∨ divInteger % 2#32 ≠ 0#32 ∨ 510#32 < divInteger then
      (.invalidArgument, timing)
    else (.success, ⟨0#8, 0#8, (divInteger / 2#32 - 1#32).setWidth 8⟩)
  else (.success, ⟨0#8, 0#8, 0xFF#8⟩)

/-- `dap_swd_spi_set_clock`, where `src` is what `board_init_spi_clock` returns. -/
def dapSwdSpiSetClock (src hz : Word32) (timing : SpiTiming) : SpiTiming :=
  let hz := if hz = 0#32 ∨ src < hz then src else hz
  (spiMasterTimingInit src hz timing).2

def dapOk : Byte := 0x00#8
def dapError : Byte := 0xFF#8

/-- `DAP_SWJ_Clock`, as far as the SPI clock goes: the answer and the register. -/
def dapSwjClock (src : Word32) (request : Buf) (timing : SpiTiming) : Byte × SpiTiming :=
  let clock := Word32.ofBuf request
  if clock = 0#32 then (dapError, timing)
  else (dapOk, dapSwdSpiSetClock src clock timing)

/-! ## The programmed frequency -/

/-- What the source clock is divided by. -/
def sclkDivisor (timing : SpiTiming) : ℕ :=
  if timing.sclkDiv = 0xFF#8 then 1 else 2 * (timing.sclkDiv.toNat + 1)

/-- The programmed frequency is at most `hz`, as exact quotients. -/
def SclkAtMost (src hz : Word32) (timing : SpiTiming) : Prop :=
  src.toNat ≤ hz.toNat * sclkDivisor timing

instance (src hz : Word32) (timing : SpiTiming) : Decidable (SclkAtMost src hz timing) :=
  inferInstanceAs (Decidable (_ ≤ _))

/-- A ratio that the divider field can hold. -/
def DivisibleBy (src hz : Word32) : Prop :=
  hz.toNat ∣ src.toNat ∧ 2 ∣ src.toNat / hz.toNat ∧ src.toNat / hz.toNat ≤ 510

instance (src hz : Word32) : Decidable (DivisibleBy src hz) :=
  inferInstanceAs (Decidable (_ ∧ _))

section Divider

variable {src hz : Word32} {timing : SpiTiming}

/-- The driver's test is the divisibility test. -/
theorem refused_iff :
    (src % hz ≠ 0#32 ∨ src / hz % 2#32 ≠ 0#32 ∨ 510#32 < src / hz) ↔ ¬ DivisibleBy src hz := by
  have hremainder : src % hz ≠ 0#32 ↔ ¬ hz.toNat ∣ src.toNat := by
    rw [Ne, ← BitVec.toNat_inj, BitVec.toNat_umod, Nat.dvd_iff_mod_eq_zero]
    rfl
  have hodd : src / hz % 2#32 ≠ 0#32 ↔ ¬ 2 ∣ src.toNat / hz.toNat := by
    rw [Ne, ← BitVec.toNat_inj, BitVec.toNat_umod, BitVec.toNat_udiv, Nat.dvd_iff_mod_eq_zero]
    rfl
  have hlarge : 510#32 < src / hz ↔ ¬ src.toNat / hz.toNat ≤ 510 := by
    rw [BitVec.lt_def, BitVec.toNat_udiv, Nat.not_le]
    rfl
  rw [hremainder, hodd, hlarge, DivisibleBy]
  tauto

/-- A ratio within the field is programmed exactly. -/
theorem spiMasterTimingInit_divisible (hpos : 0 < hz.toNat) (hlt : hz.toNat < src.toNat)
    (hdiv : DivisibleBy src hz) :
    hz.toNat * sclkDivisor (spiMasterTimingInit src hz timing).2 = src.toNat := by
  have hzero : hz ≠ 0#32 := by
    rintro rfl
    exact absurd hpos (by decide)
  rw [spiMasterTimingInit, if_neg hzero, if_pos (BitVec.lt_def.mpr hlt),
    if_neg (mt refused_iff.mp (not_not.mpr hdiv))]
  obtain ⟨hdvd, htwo, hmax⟩ := hdiv
  have hquotient : (src / hz).toNat = src.toNat / hz.toNat := BitVec.toNat_udiv
  obtain ⟨half, hhalf⟩ := htwo
  have hpositive : 0 < half := by
    have := Nat.div_pos hlt.le hpos
    omega
  -- the quotient is even, at least 2 and at most 510, so the field holds half of it less one
  have hfield : ((src / hz / 2#32 - 1#32).setWidth 8).toNat = half - 1 := by
    rw [BitVec.toNat_setWidth, BitVec.toNat_sub, BitVec.toNat_udiv, hquotient, hhalf]
    simp only [BitVec.toNat_ofNat, Nat.reducePow, Nat.reduceMod]
    omega
  have hsmall : (src / hz / 2#32 - 1#32).setWidth 8 ≠ 0xFF#8 := by
    intro heq
    rw [heq] at hfield
    simp only [BitVec.toNat_ofNat, Nat.reducePow, Nat.reduceMod] at hfield
    omega
  rw [sclkDivisor, if_neg hsmall, hfield]
  calc
    hz.toNat * (2 * (half - 1 + 1)) = hz.toNat * (src.toNat / hz.toNat) := by
      rw [hhalf, Nat.sub_add_cancel hpositive]
    _ = src.toNat := Nat.mul_div_cancel' hdvd

/-- Any other ratio leaves the register alone. -/
theorem spiMasterTimingInit_not_divisible (hpos : 0 < hz.toNat) (hlt : hz.toNat < src.toNat)
    (hdiv : ¬ DivisibleBy src hz) : (spiMasterTimingInit src hz timing).2 = timing := by
  have hzero : hz ≠ 0#32 := by
    rintro rfl
    exact absurd hpos (by decide)
  rw [spiMasterTimingInit, if_neg hzero, if_pos (BitVec.lt_def.mpr hlt),
    if_pos (refused_iff.mpr hdiv)]

/-- A request of at least the source frequency ends up at the source frequency, or
leaves the register alone when there is no source clock. -/
theorem sclkAtMost_of_le (hle : src.toNat ≤ hz.toNat) :
    SclkAtMost src hz (dapSwdSpiSetClock src hz timing) := by
  have hclamp : ∀ hz' : Word32, hz'.toNat = src.toNat →
      SclkAtMost src hz (spiMasterTimingInit src hz' timing).2 := by
    intro hz' heq
    obtain rfl := BitVec.eq_of_toNat_eq heq
    by_cases hzero : hz' = 0#32
    · subst hzero
      exact Nat.zero_le _
    · rw [spiMasterTimingInit, if_neg hzero, if_neg (by simp)]
      simpa [SclkAtMost, sclkDivisor] using hle
  rw [dapSwdSpiSetClock]
  split_ifs with hover
  · exact hclamp src rfl
  · refine hclamp hz ?_
    have hle' : ¬ src.toNat < hz.toNat := fun h => hover (Or.inr (BitVec.lt_def.mpr h))
    omega

end Divider

/-! ## Runs of requests -/

/-- One request: the register before it, the frequency, the answer and the register
after it. -/
structure ClockStep where
  before : SpiTiming
  hz : Word32
  answer : Byte
  after : SpiTiming
  deriving DecidableEq

/-- One request as a step of the register. -/
def clockStep (src : Word32) (timing : SpiTiming) (request : Buf) : ClockStep × SpiTiming :=
  let (answer, after) := dapSwjClock src request timing
  (⟨timing, Word32.ofBuf request, answer, after⟩, after)

/-- The steps of a sequence of requests. -/
def clockTrace (src : Word32) (timing : SpiTiming) (requests : List Buf) : List ClockStep :=
  (traceMealy (clockStep src) timing requests).map Prod.fst

/-- An answer of OK promises a clock of at most the requested frequency. -/
def ClockStep.Kept (src : Word32) (step : ClockStep) : Prop :=
  step.answer = dapOk → SclkAtMost src step.hz step.after

/-- The request is refused, is not below the source frequency, divides it in the
field's range, or asks for no less than what is programmed already. -/
def ClockStep.Programmable (src : Word32) (step : ClockStep) : Prop :=
  step.hz = 0#32 ∨ src.toNat ≤ step.hz.toNat ∨ DivisibleBy src step.hz ∨
    SclkAtMost src step.hz step.before

/-- One request keeps the promise exactly when it is programmable. -/
theorem kept_clockStep_iff (src : Word32) (timing : SpiTiming) (request : Buf) :
    (clockStep src timing request).1.Kept src ↔
      (clockStep src timing request).1.Programmable src := by
  simp only [ClockStep.Kept, ClockStep.Programmable, clockStep, dapSwjClock]
  set hz := Word32.ofBuf request
  by_cases hzero : hz = 0#32
  · simp [hzero, dapOk, dapError]
  · have hpos : 0 < hz.toNat := by
      rw [Nat.pos_iff_ne_zero]
      exact fun h => hzero (BitVec.eq_of_toNat_eq h)
    simp only [hzero, if_false, true_imp_iff, false_or]
    by_cases hle : src.toNat ≤ hz.toNat
    · exact iff_of_true (sclkAtMost_of_le hle) (Or.inl hle)
    · have hlt : hz.toNat < src.toNat := Nat.lt_of_not_le hle
      have hset : dapSwdSpiSetClock src hz timing = (spiMasterTimingInit src hz timing).2 := by
        rw [dapSwdSpiSetClock, if_neg]
        rintro (h | h)
        · exact hzero h
        · exact absurd (BitVec.lt_def.mp h) (by omega)
      rw [hset]
      by_cases hdiv : DivisibleBy src hz
      · refine iff_of_true ?_ (Or.inr (Or.inl hdiv))
        exact (spiMasterTimingInit_divisible hpos hlt hdiv).ge
      · rw [spiMasterTimingInit_not_divisible hpos hlt hdiv]
        simp only [hle, hdiv, false_or]

/-- Over every sequence of requests: the promise is kept throughout exactly when
every request is programmable where it arrives. -/
theorem clockTrace_kept_iff (src : Word32) (timing : SpiTiming) (requests : List Buf) :
    (∀ step ∈ clockTrace src timing requests, step.Kept src) ↔
      ∀ step ∈ clockTrace src timing requests, step.Programmable src := by
  have hstep : ∀ step ∈ clockTrace src timing requests,
      (step.Kept src ↔ step.Programmable src) := by
    intro step hmem
    obtain ⟨entry, hentry, rfl⟩ := List.mem_map.mp hmem
    obtain ⟨before, request, rfl⟩ := mem_traceMealy hentry
    exact kept_clockStep_iff src before request
  exact forall₂_congr hstep

/-- At an 80 MHz source, a request for 3 MHz after one for 40 MHz is answered with OK
and leaves the clock at 40 MHz. -/
theorem clockTrace_keeps_old_divider :
    ¬ ∀ (src : Word32) (timing : SpiTiming) (requests : List Buf),
      ∀ step ∈ clockTrace src timing requests, step.Kept src := by
  intro hclaim
  have hsecond := hclaim 80000000#32 ⟨0#8, 0#8, 0x03#8⟩
    [Buf.ofList [0x00#8, 0x5A#8, 0x62#8, 0x02#8], Buf.ofList [0xC0#8, 0xC6#8, 0x2D#8, 0x00#8]]
    ⟨⟨0#8, 0#8, 0x00#8⟩, 3000000#32, dapOk, ⟨0#8, 0#8, 0x00#8⟩⟩ (by decide)
  exact absurd (hsecond rfl) (by decide)

end ExLink.Swd
