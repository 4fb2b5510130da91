/-
# The SWD transport over SPI

`dap_swd_spi.c` from the bit phases up to `SWD_Transfer`. The port's own
variables and the SPI registers that a phase rewrites are passed along with the
state of the bus. The two wiring builds differ in how a phase is shifted.
-/

import ExLink.Data.Bits
import ExLink.Swd.Spi

namespace ExLink.Swd

/-! ## Transfer constants (`dap_swd_spi_priv.h`) -/

def dapTransferOk : Word32 := 0x1#32
def dapTransferWait : Word32 := 0x2#32
def dapTransferFault : Word32 := 0x4#32
def dapTransferError : Word32 := 0x8#32
def dapTransferAPnDP : Word32 := 0x1#32
def dapTransferRnW : Word32 := 0x2#32

/-- `EXLINK_DAP_SWD_TWO_WIRE`. -/
inductive Wiring where
  | singleWire
  | twoWire
  deriving DecidableEq

/-- `s_drive`, `s_read_even`, `s_trn`, and the fields of TRANSFMT and TRANSCTRL
that the phases rewrite. -/
structure SwdPort where
  drive : Bool
  readEven : Bool
  trn : Byte
  dataBits : ℕ
  cpha : Bool
  transMode : SpiTransMode
  deriving DecidableEq

/-- The port with the bus behind it. -/
abbrev PortState (σ : Type*) := SwdPort × σ

/-! ## Register helpers -/

/-- `spi_set_data_bits`: over 32 bits are refused; the five-bit field stores
`nbits - 1`. -/
def spiSetDataBits (nbits : ℕ) (port : SwdPort) : SwdPort :=
  if 32 < nbits then port else { port with dataBits := (nbits + 31) % 32 + 1 }

/-- `spi_set_drive`. -/
def spiSetDrive (drive : Bool) (port : SwdPort) : SwdPort :=
  if drive = port.drive then port
  else
    { port with
      transMode := if drive then .writeOnly else .readOnly
      cpha := if drive then false else port.readEven
      drive := drive }

/-- `spi_get_data_length_in_bytes`. -/
def dataLengthInBytes (dataBits : ℕ) : ℕ := (dataBits + 7) / 8

/-- The low `count` bytes of a word, the others zero: what the driver moves
between a four-byte buffer and the data register. -/
def lowBytes (count : ℕ) (word : Word32) : Word32 := (word.setWidth (8 * count)).setWidth 32

/-- The receive buffer read back as a word and masked to `nbits`. A buffer that no
unit was stored in still holds zeros. -/
def rxWord (dataBits nbits : ℕ) (rx : Option Word32) : Word32 :=
  let v := lowBytes (dataLengthInBytes dataBits) (rx.getD 0#32)
  if nbits < 32 then v &&& ((1#32 <<< nbits) - 1#32) else v

section Phases

variable {σ : Type*} (wiring : Wiring) (transfer : SpiTransfer σ)

/-- One call of `spi_transfer` with the registers as they stand. -/
def spiCall (mode : SpiTransMode) (tx : List Word32) (p : PortState σ) :
    SpiOutcome × PortState σ :=
  let frame : SpiFrame := ⟨mode, p.1.dataBits, p.1.cpha, tx⟩
  let (outcome, s) := transfer frame p.2
  (outcome, { p.1 with transMode := mode }, s)

/-- `swd_xfer_bits`, the full-duplex phase of the two-wire build. -/
def swdXferBits (mosiVal : Word32) (nbits : ℕ) (p : PortState σ) : Word32 × PortState σ :=
  let port := spiSetDataBits nbits p.1
  let unit := lowBytes (dataLengthInBytes port.dataBits) mosiVal
  let (outcome, p) := spiCall transfer .writeReadTogether [unit] (port, p.2)
  (rxWord port.dataBits nbits outcome.rx, p)

/-- `swd_write_bits`. -/
def swdWriteBits (val : Word32) (nbits : ℕ) (p : PortState σ) : PortState σ :=
  match wiring with
  | .twoWire => (swdXferBits transfer val nbits p).2
  | .singleWire =>
      let port := spiSetDataBits nbits (spiSetDrive true p.1)
      let unit := lowBytes (dataLengthInBytes port.dataBits) val
      (spiCall transfer .writeOnly [unit] (port, p.2)).2

/-- `swd_read_bits`. -/
def swdReadBits (nbits : ℕ) (p : PortState σ) : Word32 × PortState σ :=
  match wiring with
  | .twoWire => swdXferBits transfer 0xFFFFFFFF#32 nbits p
  | .singleWire =>
      let port := spiSetDataBits nbits (spiSetDrive false p.1)
      let (outcome, p) := spiCall transfer .readOnly [] (port, p.2)
      (rxWord port.dataBits nbits outcome.rx, p)

/-- The turnaround length in use, `s_trn ? s_trn : 1u`. -/
def turnaroundClocks (port : SwdPort) : ℕ := if port.trn = 0#8 then 1 else port.trn.toNat

/-- `swd_turnaround`: clocks whose sample is thrown away. -/
def swdTurnaround (p : PortState σ) : PortState σ :=
  (swdReadBits wiring transfer (turnaroundClocks p.1) p).2

/-- `swd_write_bytes`: whole bytes in chunks of at most 256 units. Both builds only write
here. -/
def swdWriteBytes (data : List Byte) (p : PortState σ) : PortState σ :=
  let port :=
    match wiring with
    | .twoWire => p.1
    | .singleWire => spiSetDrive true p.1
  (data.toChunks 256).foldl
    (fun p chunk => (spiCall transfer .writeOnly (chunk.map (BitVec.setWidth 32)) p).2)
    (spiSetDataBits 8 port, p.2)

end Phases

/-- `dap_swd_spi_port_setup`, as far as the port's variables and the registers go. -/
def dapSwdSpiPortSetup (wiring : Wiring) (port : SwdPort) : SwdPort :=
  match wiring with
  | .twoWire => port
  | .singleWire => { port with drive := true, transMode := .writeOnly }

/-- `dap_swd_spi_port_off`. -/
def dapSwdSpiPortOff (wiring : Wiring) (port : SwdPort) : SwdPort :=
  match wiring with
  | .twoWire => port
  | .singleWire => { port with drive := false, transMode := .readOnly }

/-! ## `SWD_Transfer` -/

/-- `parity32`. -/
def parity32 (v : Word32) : Word32 :=
  let v := v ^^^ (v >>> 16)
  let v := v ^^^ (v >>> 8)
  let v := v ^^^ (v >>> 4)
  let v := v ^^^ (v >>> 2)
  let v := v ^^^ (v >>> 1)
  v &&& 1#32

/-- The folded parity is the exclusive or of all bits. -/
theorem parity32_eq (v : Word32) : parity32 v = if xorBits v 32 then 1#32 else 0#32 := by
  have hlast : ∀ x : Word32, x.getLsbD 0 = xorBits x 1 := fun x => (Bool.false_xor _).symm
  simp only [parity32, and_one_eq, hlast]
  rw [xorBits_fold, xorBits_fold, xorBits_fold, xorBits_fold, xorBits_fold]

/-- The request byte: Start, APnDP, RnW, A2, A3, Parity, Stop, Park. -/
def requestByte (request : Word32) : Byte :=
  let parity := ((request >>> 0) ^^^ (request >>> 1) ^^^ (request >>> 2) ^^^ (request >>> 3)) &&& 1#32
  (0x81#32 ||| ((request &&& 0x0F#32) <<< 1) ||| (parity <<< 5)).setWidth 8

/-- `SWD_Transfer`: the returned acknowledge and the word left behind `data`. A
missing word is a NULL pointer. -/
def swdTransfer {σ : Type*} (wiring : Wiring) (transfer : SpiTransfer σ) (request : Word32)
    (data : Option Word32) (p : PortState σ) : (Byte × Option Word32) × PortState σ :=
  let p := swdWriteBits wiring transfer ((requestByte request).setWidth 32) 8 p
  let p := swdTurnaround wiring transfer p
  let (ack, p) := swdReadBits wiring transfer 3 p
  if ack = dapTransferOk then
    if request &&& dapTransferRnW ≠ 0#32 then
      let (val, p) := swdReadBits wiring transfer 32 p
      let (par, p) := swdReadBits wiring transfer 1 p
      let p := swdTurnaround wiring transfer p
      let ack := if parity32 val ≠ par &&& 1#32 then ack ||| dapTransferError else ack
      ((ack.setWidth 8, data.map fun _ => val), p)
    else
      let p := swdTurnaround wiring transfer p
      let val := data.getD 0#32
      let p := swdWriteBits wiring transfer val 32 p
      let p := swdWriteBits wiring transfer (parity32 val) 1 p
      ((ack.setWidth 8, data), p)
  else
    let p := swdTurnaround wiring transfer p
    ((ack.setWidth 8, data), p)

/-! ## What a phase is made of -/

/-- The word that a read phase of `nbits` makes of an outcome. -/
def received (nbits : ℕ) (outcome : SpiOutcome) : Word32 :=
  ((outcome.rx.getD 0#32).setWidth nbits).setWidth 32

/-- The registers during a phase of `nbits`. -/
def phasePort (wiring : Wiring) (drive : Bool) (nbits : ℕ) (port : SwdPort) : SwdPort :=
  match wiring with
  | .twoWire => spiSetDataBits nbits port
  | .singleWire => spiSetDataBits nbits (spiSetDrive drive port)

/-- The mode of a phase. -/
def phaseMode (wiring : Wiring) (drive : Bool) : SpiTransMode :=
  match wiring, drive with
  | .twoWire, _ => .writeReadTogether
  | .singleWire, true => .writeOnly
  | .singleWire, false => .readOnly

/-- The frame of a phase that writes `val`. -/
def writeFrame (wiring : Wiring) (val : Word32) (nbits : ℕ) (port : SwdPort) : SpiFrame :=
  let port := phasePort wiring true nbits port
  ⟨phaseMode wiring true, port.dataBits, port.cpha,
    [lowBytes (dataLengthInBytes port.dataBits) val]⟩

/-- The frame of a phase that reads. -/
def readFrame (wiring : Wiring) (nbits : ℕ) (port : SwdPort) : SpiFrame :=
  let port := phasePort wiring false nbits port
  ⟨phaseMode wiring false, port.dataBits, port.cpha,
    match wiring with
    | .twoWire => [lowBytes (dataLengthInBytes port.dataBits) 0xFFFFFFFF#32]
    | .singleWire => []⟩

/-- The port after a phase. -/
def afterPhase (wiring : Wiring) (drive : Bool) (nbits : ℕ) (port : SwdPort) : SwdPort :=
  { phasePort wiring drive nbits port with transMode := phaseMode wiring drive }

theorem dataBits_spiSetDataBits {nbits : ℕ} (hpos : 0 < nbits) (hle : nbits ≤ 32)
    (port : SwdPort) : (spiSetDataBits nbits port).dataBits = nbits := by
  rw [spiSetDataBits, if_neg (by omega)]
  change (nbits + 31) % 32 + 1 = nbits
  omega

theorem dataBits_phasePort {nbits : ℕ} (hpos : 0 < nbits) (hle : nbits ≤ 32) (wiring : Wiring)
    (drive : Bool) (port : SwdPort) : (phasePort wiring drive nbits port).dataBits = nbits := by
  cases wiring <;> exact dataBits_spiSetDataBits hpos hle _

@[simp]
theorem trn_phasePort (wiring : Wiring) (drive : Bool) (nbits : ℕ) (port : SwdPort) :
    (phasePort wiring drive nbits port).trn = port.trn := by
  cases wiring <;> simp only [phasePort, spiSetDataBits, spiSetDrive] <;> split_ifs <;> rfl

@[simp]
theorem trn_afterPhase (wiring : Wiring) (drive : Bool) (nbits : ℕ) (port : SwdPort) :
    (afterPhase wiring drive nbits port).trn = port.trn :=
  trn_phasePort wiring drive nbits port

/-- The mask of the low `nbits` bits. -/
theorem and_lowMask {nbits : ℕ} (hlt : nbits < 32) (word : Word32) :
    word &&& ((1#32 <<< nbits) - 1#32) = (word.setWidth nbits).setWidth 32 := by
  have hpow : 2 ^ nbits < 2 ^ 32 := Nat.pow_lt_pow_right (by omega) hlt
  have hpos : 0 < 2 ^ nbits := Nat.two_pow_pos nbits
  have hmask : ((1#32 <<< nbits) - 1#32).toNat = 2 ^ nbits - 1 := by
    rw [BitVec.toNat_sub, BitVec.toNat_shiftLeft]
    simp only [BitVec.toNat_ofNat, Nat.shiftLeft_eq, Nat.reducePow, Nat.reduceMod, Nat.one_mul]
    omega
  apply BitVec.eq_of_toNat_eq
  rw [BitVec.toNat_and, hmask, Nat.and_two_pow_sub_one_eq_mod, BitVec.toNat_setWidth,
    BitVec.toNat_setWidth]
  exact (Nat.mod_eq_of_lt ((Nat.mod_lt _ hpos).trans hpow)).symm

/-- Reading back through the buffer and masking keeps the low `nbits` bits. -/
theorem rxWord_eq {nbits : ℕ} (hle : nbits ≤ 32) (outcome : SpiOutcome) :
    rxWord nbits nbits outcome.rx = received nbits outcome := by
  have hbytes : nbits ≤ 8 * dataLengthInBytes nbits := by
    rw [dataLengthInBytes]
    omega
  have hlow : ∀ word : Word32, ((lowBytes (dataLengthInBytes nbits) word).setWidth nbits) =
      word.setWidth nbits := by
    intro word
    rw [lowBytes, BitVec.setWidth_setWidth_of_le _ hle, BitVec.setWidth_setWidth_of_le _ hbytes]
  rw [rxWord, received, ← hlow]
  split_ifs with hlt
  · exact and_lowMask hlt _
  · obtain rfl : nbits = 32 := by omega
    rw [BitVec.setWidth_eq, BitVec.setWidth_eq]

section Specs

variable {σ : Type*} (wiring : Wiring) (transfer : SpiTransfer σ)

theorem swdWriteBits_eq (val : Word32) (nbits : ℕ) (p : PortState σ) :
    swdWriteBits wiring transfer val nbits p =
      (afterPhase wiring true nbits p.1,
        (transfer (writeFrame wiring val nbits p.1) p.2).2) := by
  cases wiring <;> rfl

theorem swdReadBits_eq {nbits : ℕ} (hpos : 0 < nbits) (hle : nbits ≤ 32) (p : PortState σ) :
    swdReadBits wiring transfer nbits p =
      (received nbits (transfer (readFrame wiring nbits p.1) p.2).1,
        afterPhase wiring false nbits p.1,
        (transfer (readFrame wiring nbits p.1) p.2).2) := by
  have hbits := dataBits_phasePort hpos hle wiring false p.1
  cases wiring with
  | twoWire =>
      simp only [phasePort] at hbits
      rw [← rxWord_eq hle]
      simp only [swdReadBits, swdXferBits, spiCall, readFrame, afterPhase, phasePort, phaseMode,
        hbits]
  | singleWire =>
      simp only [phasePort] at hbits
      rw [← rxWord_eq hle]
      simp only [swdReadBits, spiCall, readFrame, afterPhase, phasePort, phaseMode, hbits]

/-- The turnaround leaves the registers and the bus as a read phase does. -/
theorem swdTurnaround_eq (p : PortState σ) :
    swdTurnaround wiring transfer p =
      (afterPhase wiring false (turnaroundClocks p.1) p.1,
        (transfer (readFrame wiring (turnaroundClocks p.1) p.1) p.2).2) := by
  cases wiring <;> rfl

end Specs

/-! ## A transfer as one answer

All that a transfer learns from the line are the words of its ACK, data and parity
phases. What it returns is a function of these three, the request and the data. -/

/-- The words of the three read phases; those of phases that were not reached are
never looked at. -/
structure SwdAnswer where
  ack : Word32
  data : Word32
  parity : Word32
  deriving DecidableEq

/-- The word and its parity bit do not match. -/
def SwdAnswer.BadParity (answer : SwdAnswer) : Prop :=
  parity32 answer.data ≠ answer.parity &&& 1#32

instance (answer : SwdAnswer) : Decidable answer.BadParity :=
  inferInstanceAs (Decidable (_ ≠ _))

/-- A request that reads. -/
def IsRead (request : Word32) : Prop := request &&& dapTransferRnW ≠ 0#32

instance (request : Word32) : Decidable (IsRead request) := inferInstanceAs (Decidable (_ ≠ _))

/-- What `SWD_Transfer` returns for an answer. -/
def swdResult (request : Word32) (data : Option Word32) (answer : SwdAnswer) :
    Byte × Option Word32 :=
  if answer.ack = dapTransferOk ∧ IsRead request then
    ((if answer.BadParity then answer.ack ||| dapTransferError else answer.ack).setWidth 8,
      data.map fun _ => answer.data)
  else (answer.ack.setWidth 8, data)

section Results

variable {request : Word32} {data : Option Word32}

theorem swdResult_read (hread : IsRead request) (val par : Word32) :
    swdResult request data ⟨dapTransferOk, val, par⟩ =
      ((if parity32 val ≠ par &&& 1#32 then dapTransferOk ||| dapTransferError
        else dapTransferOk).setWidth 8, data.map fun _ => val) := by
  rw [swdResult, if_pos ⟨rfl, hread⟩]
  rfl

theorem swdResult_write (hwrite : ¬ IsRead request) (answer : SwdAnswer) :
    swdResult request data answer = (answer.ack.setWidth 8, data) := by
  rw [swdResult, if_neg fun h => hwrite h.2]

theorem swdResult_refused {answer : SwdAnswer} (hack : answer.ack ≠ dapTransferOk) :
    swdResult request data answer = (answer.ack.setWidth 8, data) := by
  rw [swdResult, if_neg fun h => hack h.1]

end Results

section Answers

variable {σ : Type*} (wiring : Wiring) (transfer : SpiTransfer σ)

/-- The phases of a transfer, and the answer they read. -/
def swdPhases (request : Word32) (data : Option Word32) (p : PortState σ) :
    SwdAnswer × PortState σ :=
  let p := swdWriteBits wiring transfer ((requestByte request).setWidth 32) 8 p
  let p := swdTurnaround wiring transfer p
  let (ack, p) := swdReadBits wiring transfer 3 p
  if ack = dapTransferOk then
    if IsRead request then
      let (val, p) := swdReadBits wiring transfer 32 p
      let (par, p) := swdReadBits wiring transfer 1 p
      (⟨ack, val, par⟩, swdTurnaround wiring transfer p)
    else
      let p := swdTurnaround wiring transfer p
      let p := swdWriteBits wiring transfer (data.getD 0#32) 32 p
      (⟨ack, 0#32, 0#32⟩, swdWriteBits wiring transfer (parity32 (data.getD 0#32)) 1 p)
  else (⟨ack, 0#32, 0#32⟩, swdTurnaround wiring transfer p)

/-- `SWD_Transfer` is its phases followed by the decision on their answer. -/
theorem swdTransfer_eq (request : Word32) (data : Option Word32) (p : PortState σ) :
    swdTransfer wiring transfer request data p =
      (swdResult request data (swdPhases wiring transfer request data p).1,
        (swdPhases wiring transfer request data p).2) := by
  rw [swdTransfer, swdPhases]
  by_cases hok : (swdReadBits wiring transfer 3 (swdTurnaround wiring transfer
      (swdWriteBits wiring transfer ((requestByte request).setWidth 32) 8 p))).1 = dapTransferOk
  · by_cases hread : IsRead request
    · have hbit : request &&& dapTransferRnW ≠ 0#32 := hread
      simp only [hok, if_true, if_pos hread, if_pos hbit, swdResult_read hread]
    · have hbit : ¬ request &&& dapTransferRnW ≠ 0#32 := hread
      simp only [hok, if_true, if_neg hread, if_neg hbit, swdResult_write hread]
  · simp only [hok, if_false]
    rw [swdResult_refused hok]

end Answers

end ExLink.Swd
