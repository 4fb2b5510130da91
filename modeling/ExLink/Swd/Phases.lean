/-
# The clocks of a transfer

What a transfer does on the line under a configuration of the command layer, and what
`SWD_Transfer` does. The port has a turnaround length of its own, no data phase after a
refusal and no idle cycles.
-/

import ExLink.Swd.Equivalence

namespace ExLink.Swd

/-! ## Clocks under a configuration -/

/-- Clocks in which the probe does not drive SWDIO. -/
def released (wiring : Wiring) (count : ℕ) : List SwdClock :=
  List.replicate count (onWire wiring none)

/-- Clocks in which it drives SWDIO low. -/
def drivenLow (count : ℕ) : List SwdClock := List.replicate count (some false)

/-- The 33 clocks of a data phase that carries nothing, if it is configured. -/
def emptyPhase (conf : SwdConf) (clocks : ℕ → List SwdClock) : List SwdClock :=
  if conf.dataPhase then clocks 33 else []

/-- The clocks of a transfer with a given acknowledge. After an acknowledge that is none
of the three, only the turnaround is configured. -/
def transferClocks (wiring : Wiring) (conf : SwdConf) (request word ack : Word32) :
    List SwdClock :=
  let turnaround := released wiring conf.turnaround
  unitClocks 8 ((requestByte request).setWidth 32) ++ turnaround ++ released wiring 3 ++
    if ack = dapTransferOk then
      (if IsRead request then released wiring 32 ++ released wiring 1 ++ turnaround
        else turnaround ++ unitClocks 32 word ++ unitClocks 1 (parity32 word)) ++
        drivenLow conf.idleCycles
    else if ack = dapTransferWait ∨ ack = dapTransferFault then
      if IsRead request then emptyPhase conf (released wiring) ++ turnaround
      else turnaround ++ emptyPhase conf drivenLow
    else turnaround

/-- What the port makes of every configuration. -/
def SwdPort.conf (port : SwdPort) : SwdConf := ⟨turnaroundClocks port, false, 0⟩

/-! ## Clocks of the port -/

/-- A step that adds clocks to the line and leaves the turnaround length alone. -/
def Makes (p : PortState (List SwdClock)) (clocks : List SwdClock)
    (q : PortState (List SwdClock)) : Prop :=
  q.1.trn = p.1.trn ∧ q.2 = p.2 ++ clocks

section Port

variable {p q r : PortState (List SwdClock)} {first second : List SwdClock}

theorem Makes.trans (hfirst : Makes p first q) (hsecond : Makes q second r) :
    Makes p (first ++ second) r := by
  obtain ⟨htrn, hhistory⟩ := hfirst
  refine ⟨hsecond.1.trans htrn, ?_⟩
  rw [hsecond.2, hhistory, List.append_assoc]

theorem Makes.turnaroundClocks (h : Makes p first q) :
    turnaroundClocks q.1 = turnaroundClocks p.1 := by
  rw [Swd.turnaroundClocks, Swd.turnaroundClocks, h.1]

theorem turnaroundClocks_pos (port : SwdPort) : 0 < turnaroundClocks port := by
  rw [turnaroundClocks]
  split_ifs with hzero
  · exact Nat.one_pos
  · exact Nat.pos_of_ne_zero fun h => hzero (BitVec.eq_of_toNat_eq h)

variable (wiring : Wiring) (line : SwdLine) {nbits : ℕ}

theorem makes_swdWriteBits (hpos : 0 < nbits) (hle : nbits ≤ 32) (val : Word32)
    (p : PortState (List SwdClock)) :
    Makes p (unitClocks nbits val) (swdWriteBits wiring (lineTransfer line) val nbits p) := by
  rw [swdWriteBits_eq, lineTransfer, frameClocks_writeFrame wiring p.1 hpos hle]
  exact ⟨trn_afterPhase wiring true nbits p.1, rfl⟩

theorem makes_swdReadBits (hpos : 0 < nbits) (hle : nbits ≤ 32)
    (p : PortState (List SwdClock)) :
    Makes p (released wiring nbits) (swdReadBits wiring (lineTransfer line) nbits p).2 := by
  rw [swdReadBits_eq wiring _ hpos hle, lineTransfer, frameClocks_readFrame wiring p.1 hpos hle,
    List.map_replicate]
  exact ⟨trn_afterPhase wiring false nbits p.1, rfl⟩

theorem makes_swdTurnaround (hle : turnaroundClocks p.1 ≤ 32) :
    Makes p (released wiring (turnaroundClocks p.1))
      (swdTurnaround wiring (lineTransfer line) p) :=
  makes_swdReadBits wiring line (turnaroundClocks_pos p.1) hle p

/-- Which words come back is the line's matter; which clocks are made depends on the
acknowledge alone. -/
theorem makes_swdPhases (request : Word32) (data : Option Word32)
    (hle : turnaroundClocks p.1 ≤ 32) :
    let run := swdPhases wiring (lineTransfer line) request data p
    Makes p (transferClocks wiring p.1.conf request (data.getD 0#32) run.1.ack) run.2 := by
  have hturn {clocks : List SwdClock} {q : PortState (List SwdClock)} (hq : Makes p clocks q) :
      Makes p (clocks ++ released wiring (turnaroundClocks p.1))
        (swdTurnaround wiring (lineTransfer line) q) := by
    rw [← hq.turnaroundClocks]
    exact hq.trans (makes_swdTurnaround wiring line (hq.turnaroundClocks.trans_le hle))
  have hread {clocks : List SwdClock} {q : PortState (List SwdClock)} (hq : Makes p clocks q)
      {count : ℕ} (hpos : 0 < count) (hcount : count ≤ 32) :=
    hq.trans (makes_swdReadBits wiring line hpos hcount q)
  have hwrite {clocks : List SwdClock} {q : PortState (List SwdClock)} (hq : Makes p clocks q)
      {count : ℕ} (hpos : 0 < count) (hcount : count ≤ 32) (val : Word32) :=
    hq.trans (makes_swdWriteBits wiring line hpos hcount val q)
  -- the request and the acknowledge
  have hack := hread (hturn (makes_swdWriteBits wiring line (show 0 < 8 by decide) (by decide)
    ((requestByte request).setWidth 32) p)) (show 0 < 3 by decide) (by decide)
  simp only [swdPhases, transferClocks, SwdPort.conf, emptyPhase, drivenLow, List.replicate_zero,
    List.append_nil, List.nil_append, Bool.false_eq_true, if_false]
  by_cases hok : (swdReadBits wiring (lineTransfer line) 3 (swdTurnaround wiring
      (lineTransfer line) (swdWriteBits wiring (lineTransfer line)
        ((requestByte request).setWidth 32) 8 p))).1 = dapTransferOk
  · by_cases hreads : IsRead request
    · simp only [hok, if_true, if_pos hreads, ← List.append_assoc]
      exact hturn (hread (hread hack (by decide) (by decide)) (by decide) (by decide))
    · simp only [hok, if_true, if_neg hreads, ← List.append_assoc]
      exact hwrite (hwrite (hturn hack) (by decide) (by decide) _) (by decide) (by decide) _
  · -- after a refusal the turnaround follows at once, in both directions
    simp only [hok, if_false, ite_self]
    exact hturn hack

/-- No phase and no set-up of the port changes the turnaround length. -/
theorem trn_swdReadBits (nbits : ℕ) (p : PortState (List SwdClock)) :
    (swdReadBits wiring (lineTransfer line) nbits p).2.1.trn = p.1.trn := by
  cases wiring with
  | singleWire => exact trn_phasePort .singleWire false nbits p.1
  | twoWire => exact trn_phasePort .twoWire false nbits p.1

theorem trn_swdWriteBits (val : Word32) (nbits : ℕ) (p : PortState (List SwdClock)) :
    (swdWriteBits wiring (lineTransfer line) val nbits p).1.trn = p.1.trn := by
  rw [swdWriteBits_eq]
  exact trn_afterPhase wiring true nbits p.1

theorem trn_swdWriteBytes (data : List Byte) (p : PortState (List SwdClock)) :
    (swdWriteBytes wiring (lineTransfer line) data p).1.trn = p.1.trn := by
  have hchunks (chunks : List (List Byte)) (q : PortState (List SwdClock)) :
      (chunks.foldl (fun p chunk =>
        (spiCall (lineTransfer line) .writeOnly (chunk.map (BitVec.setWidth 32)) p).2) q).1.trn =
        q.1.trn := by
    induction chunks generalizing q with
    | nil => rfl
    | cons chunk rest ih => exact ih _
  refine (hchunks _ _).trans ?_
  cases wiring with
  | singleWire => exact trn_phasePort .singleWire true 8 p.1
  | twoWire => exact trn_phasePort .twoWire true 8 p.1

@[simp]
theorem trn_dapSwdSpiPortSetup (port : SwdPort) :
    (dapSwdSpiPortSetup wiring port).trn = port.trn := by
  cases wiring <;> rfl

@[simp]
theorem trn_dapSwdSpiPortOff (port : SwdPort) :
    (dapSwdSpiPortOff wiring port).trn = port.trn := by
  cases wiring <;> rfl

end Port

/-! ## Configurations that the port agrees with -/

section Counts

variable (wiring : Wiring) (count : ℕ)

@[simp]
theorem length_released : (released wiring count).length = count := List.length_replicate

@[simp]
theorem length_drivenLow : (drivenLow count).length = count := List.length_replicate

@[simp]
theorem count_released : (released wiring count).count (onWire wiring none) = count :=
  List.count_replicate_self

@[simp]
theorem count_drivenLow : (drivenLow count).count (onWire wiring none) = 0 := by
  rw [drivenLow, List.count_replicate, if_neg]
  cases wiring <;> decide

end Counts

/-- What a configuration and the acknowledge of a transfer must be for the port to make the
clocks of that configuration. -/
def Agrees (port : SwdPort) (conf : SwdConf) (ack : Word32) : Prop :=
  conf.turnaround = turnaroundClocks port ∧ (ack = dapTransferOk → conf.idleCycles = 0) ∧
    (ack = dapTransferWait ∨ ack = dapTransferFault → conf.dataPhase = false)

/-- The clocks tell the configuration, as far as the acknowledge brings it out. A clock that
is not driven is told from one that is driven low. -/
theorem transferClocks_eq_iff (wiring : Wiring) (port : SwdPort) (conf : SwdConf)
    (request word ack : Word32) :
    transferClocks wiring port.conf request word ack =
        transferClocks wiring conf request word ack ↔
      Agrees port conf ack := by
  obtain ⟨turnaround, dataPhase, idleCycles⟩ := conf
  have hnotOk : ack = dapTransferWait ∨ ack = dapTransferFault → ack ≠ dapTransferOk := by
    rintro (rfl | rfl) <;> decide
  constructor
  · intro heq
    have hcount := congrArg (List.count (onWire wiring none)) heq
    have hlength := congrArg List.length heq
    simp only [transferClocks, SwdPort.conf, emptyPhase, List.count_append, List.length_append,
      apply_ite (List.count (onWire wiring none)), apply_ite List.length, count_released,
      count_drivenLow, length_released, length_drivenLow, List.count_nil, List.length_nil,
      Bool.false_eq_true, if_false] at hcount hlength
    rw [Agrees]
    by_cases hok : ack = dapTransferOk
    · have hnot : ¬ (ack = dapTransferWait ∨ ack = dapTransferFault) := fun h => hnotOk h hok
      simp only [hok, if_true] at hcount hlength
      refine ⟨?_, fun _ => ?_, fun h => absurd h hnot⟩
      · split_ifs at hcount <;> simp only <;> omega
      · split_ifs at hcount hlength <;> simp only <;> omega
    · by_cases hrefused : ack = dapTransferWait ∨ ack = dapTransferFault
      · simp only [if_neg hok, if_pos hrefused] at hcount hlength
        -- 33 clocks that are not driven do not make up for an even number of others
        cases dataPhase with
        | true =>
            exfalso
            simp only [if_true] at hcount hlength
            split_ifs at hcount hlength <;> omega
        | false =>
            refine ⟨?_, fun h => absurd h hok, fun _ => rfl⟩
            simp only [Bool.false_eq_true, if_false] at hcount ⊢
            split_ifs at hcount <;> omega
      · simp only [if_neg hok, if_neg hrefused] at hcount
        exact ⟨by simp only; omega, fun h => absurd h hok, fun h => absurd h hrefused⟩
  · rintro ⟨hturnaround, hidle, hphase⟩
    simp only at hturnaround hidle hphase
    simp only [transferClocks, SwdPort.conf, emptyPhase, hturnaround]
    split_ifs <;> simp_all [drivenLow]

end ExLink.Swd
