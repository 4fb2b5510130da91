/-
# One SPI transfer

`spi_transfer` of `hpm_spi_drv.c` in master mode, as the SWD port calls it. Each
polling loop of the driver either sees what it waits for within its retry budget
or runs out of it, and which of the two is the hardware's choice.
-/

import ExLink.Data.Bytes

namespace ExLink.Swd

/-- The statuses of `hpm_stat_t` that these driver calls return. -/
inductive HpmStat where
  | success
  | timeout
  | masterBusy
  | invalidArgument
  deriving DecidableEq

/-- The values of `trans_mode` in use. -/
inductive SpiTransMode where
  | writeReadTogether
  | writeOnly
  | readOnly
  deriving DecidableEq

/-- What the registers and the TX units of one transfer ask the peripheral to do:
shift units of `dataBits` bits, sampling on the even clock edges if `cpha`. -/
structure SpiFrame where
  mode : SpiTransMode
  dataBits : ℕ
  cpha : Bool
  tx : List Word32
  deriving DecidableEq

/-- The hardware side of a transfer, each answer with the state it leaves. -/
structure SpiBus (σ : Type*) where
  /-- `SPIACTIVE` on entry. -/
  active : σ → Bool × σ
  /-- The FIFO and control resets complete in time. -/
  reset : σ → Bool × σ
  /-- The data phase: the received unit, or nothing when the retries run out. What
  a write-only transfer receives is never read. -/
  shift : SpiFrame → σ → Option Word32 × σ
  /-- The bus falls idle in time after the data phase. -/
  idle : σ → Bool × σ

/-- What a transfer leaves: its status, and the unit stored in the receive buffer
if there was one. -/
structure SpiOutcome where
  status : HpmStat
  rx : Option Word32
  deriving DecidableEq

/-- A way to carry out transfers. -/
abbrev SpiTransfer (σ : Type*) := SpiFrame → σ → SpiOutcome × σ

/-- `spi_transfer`. -/
def spiTransfer {σ : Type*} (bus : SpiBus σ) : SpiTransfer σ := fun frame s =>
  let (active, s) := bus.active s
  if active then (⟨.masterBusy, none⟩, s)
  else
    let (ready, s) := bus.reset s
    if ready then
      let (rx, s) := bus.shift frame s
      match rx with
      | none => (⟨.timeout, none⟩, s)
      | some unit =>
          -- the unit is in the buffer before the driver waits for the bus
          let (idle, s) := bus.idle s
          (⟨if idle then .success else .timeout, some unit⟩, s)
    else (⟨.timeout, none⟩, s)

section Outcome

variable {σ : Type*} {bus : SpiBus σ} {frame : SpiFrame} {s : σ}

/-- A unit is in the buffer on success, and otherwise only when what failed was the
closing wait. -/
theorem spiTransfer_rx :
    ((spiTransfer bus frame s).1.status = .success → (spiTransfer bus frame s).1.rx.isSome) ∧
      ((spiTransfer bus frame s).1.rx.isSome →
        (spiTransfer bus frame s).1.status = .success ∨
          (spiTransfer bus frame s).1.status = .timeout) := by
  rw [spiTransfer]
  by_cases hactive : (bus.active s).1
  · simp [hactive]
  · by_cases hready : (bus.reset (bus.active s).2).1
    · cases hshift : (bus.shift frame (bus.reset (bus.active s).2).2).1 with
      | none => simp [hactive, hready, hshift]
      | some unit =>
          by_cases hidle :
              (bus.idle (bus.shift frame (bus.reset (bus.active s).2).2).2).1 <;>
            simp [hactive, hready, hshift, hidle]
    · simp [hactive, hready]

end Outcome

end ExLink.Swd
