/-
# Backing off after a protocol error

An acknowledge that is none of the three may be a corrupted one, of a target that has
accepted the request. A target that accepted a read drives 32 data bits and their parity
in the clocks that follow. The reference leaves it these clocks; the port turns the line
around and is done.
-/

import ExLink.Swd.Phases

namespace ExLink.Swd

/-! ## Runs of transfers -/

/-- One call of `SWD_Transfer`. -/
structure SwdCall where
  request : Word32
  data : Option Word32

section Runs

variable {σ : Type*} (wiring : Wiring) (transfer : SpiTransfer σ)

/-- The port after a sequence of transfers. -/
def swdRun (calls : List SwdCall) (p : PortState σ) : PortState σ :=
  calls.foldl (fun p call => (swdTransfer wiring transfer call.request call.data p).2) p

/-- `SWD_Transfer` up to its acknowledge. -/
def swdUntilAck (request : Word32) (p : PortState σ) : Word32 × PortState σ :=
  swdReadBits wiring transfer 3 (swdTurnaround wiring transfer
    (swdWriteBits wiring transfer ((requestByte request).setWidth 32) 8 p))

theorem swdRun_append (first second : List SwdCall) (p : PortState σ) :
    swdRun wiring transfer (first ++ second) p =
      swdRun wiring transfer second (swdRun wiring transfer first p) :=
  List.foldl_append

/-- The acknowledge of a transfer is the one it decides on. -/
theorem ack_swdPhases (request : Word32) (data : Option Word32) (p : PortState σ) :
    (swdPhases wiring transfer request data p).1.ack =
      (swdUntilAck wiring transfer request p).1 := by
  simp only [swdPhases, swdUntilAck]
  split_ifs <;> rfl

end Runs

section Clocks

variable (wiring : Wiring) (line : SwdLine) {p : PortState (List SwdClock)}

/-- A transfer makes the clocks of its acknowledge. -/
theorem makes_swdTransfer (request : Word32) (data : Option Word32)
    (hle : turnaroundClocks p.1 ≤ 32) :
    Makes p (transferClocks wiring p.1.conf request (data.getD 0#32)
        (swdUntilAck wiring (lineTransfer line) request p).1)
      (swdTransfer wiring (lineTransfer line) request data p).2 := by
  rw [swdTransfer_eq, ← ack_swdPhases wiring (lineTransfer line) request data]
  exact makes_swdPhases wiring line request data hle

theorem makes_swdUntilAck (request : Word32) (hle : turnaroundClocks p.1 ≤ 32) :
    Makes p (unitClocks 8 ((requestByte request).setWidth 32) ++
        released wiring (turnaroundClocks p.1) ++ released wiring 3)
      (swdUntilAck wiring (lineTransfer line) request p).2 := by
  have hrequest := makes_swdWriteBits wiring line (show 0 < 8 by decide) (by decide)
    ((requestByte request).setWidth 32) p
  have hturn := makes_swdTurnaround wiring line (hrequest.turnaroundClocks.trans_le hle)
  rw [hrequest.turnaroundClocks] at hturn
  exact (hrequest.trans hturn).trans (makes_swdReadBits wiring line (by decide) (by decide) _)

/-- No run changes the turnaround length. -/
theorem turnaroundClocks_swdRun (calls : List SwdCall) (hle : turnaroundClocks p.1 ≤ 32) :
    turnaroundClocks (swdRun wiring (lineTransfer line) calls p).1 = turnaroundClocks p.1 := by
  induction calls generalizing p with
  | nil => rfl
  | cons call rest ih =>
      have hcall := (makes_swdTransfer wiring line call.request call.data hle).turnaroundClocks
      exact (ih (hcall.trans_le hle)).trans hcall

end Clocks

/-! ## Backing off -/

/-- What the probe does to the line once it has sampled the acknowledge: it begins by leaving
it alone for the turnaround and a data phase. -/
def BacksOff (wiring : Wiring) (turnaround : ℕ) (clocks : List SwdClock) : Prop :=
  released wiring (turnaround + 33) <+: clocks

/-- It drives the line in one of the 33 clocks that belong to a target that has accepted a
read. -/
def Contends (wiring : Wiring) (clocks : List SwdClock) : Prop :=
  ∃ clock ∈ clocks.take 33, clock ≠ onWire wiring none

instance (wiring : Wiring) (turnaround : ℕ) (clocks : List SwdClock) :
    Decidable (BacksOff wiring turnaround clocks) :=
  inferInstanceAs (Decidable (_ <+: _))

instance (wiring : Wiring) (clocks : List SwdClock) : Decidable (Contends wiring clocks) :=
  inferInstanceAs (Decidable (∃ clock ∈ _, _))

/-- Who backs off does not contend. -/
theorem BacksOff.not_contends {wiring : Wiring} {turnaround : ℕ} {clocks : List SwdClock}
    (h : BacksOff wiring turnaround clocks) : ¬ Contends wiring clocks := by
  obtain ⟨rest, rfl⟩ := h
  rintro ⟨clock, hmem, hne⟩
  rw [List.take_append_of_le_length (by rw [length_released]; omega)] at hmem
  exact hne (List.eq_of_mem_replicate (List.mem_of_mem_take hmem))

/-! ## The reference -/

section Reference

variable (line : SwdLine) (level : Bool) (history : List SwdClock)

theorem clockCycles_released (count : ℕ) :
    SwdPins.clockCycles count ⟨false, level, history⟩ =
      ⟨false, level, history ++ released .singleWire count⟩ := by
  induction count generalizing history with
  | zero => rw [SwdPins.clockCycles, released, List.replicate_zero, List.append_nil]
  | succ count ih =>
      rw [SwdPins.clockCycles]
      refine (ih (history ++ [none])).trans ?_
      rw [List.append_assoc]
      rfl

/-- After an acknowledge that is none of the three, the reference makes the clocks of a
turnaround and a data phase with the line released, and then drives it again. -/
theorem refTransfer_backsOff (conf : SwdConf) (request data : Word32) :
    let asked := history ++ unitClocks 8 ((requestByte request).setWidth 32) ++
      released .singleWire conf.turnaround
    let acked := refAck line ⟨false, true, asked⟩
    acked.1 ∉ [dapTransferOk, dapTransferWait, dapTransferFault] →
      (refTransfer conf line request data ⟨true, level, history⟩).2 =
        ⟨true, true, acked.2.history ++ released .singleWire (conf.turnaround + 33)⟩ := by
  intro asked acked hack
  simp only [List.mem_cons, List.not_mem_nil, or_false, not_or] at hack
  obtain ⟨hok, hwait, hfault⟩ := hack
  simp only [acked, refAck_eq] at hok hwait hfault ⊢
  simp only [asked] at hok hwait hfault ⊢
  simp only [refTransfer, refRequest_eq, SwdPins.outEnable, clockCycles_released, refAck_eq, hok,
    hwait, hfault, if_false, or_self]
  rfl

end Reference

/-! ## The port -/

section Port

variable (wiring : Wiring) (line : SwdLine) {p : PortState (List SwdClock)}

/-- Whatever is acknowledged, the request comes first. -/
theorem transferClocks_request (conf : SwdConf) (request word ack : Word32) :
    ∃ rest, transferClocks wiring conf request word ack =
      unitClocks 8 ((requestByte request).setWidth 32) ++ rest := by
  simp only [transferClocks, List.append_assoc]
  exact ⟨_, rfl⟩

/-- After such an acknowledge, the port turns the line around, and the next request follows. -/
theorem swdTransfer_turns_around (call next : SwdCall) (hle : turnaroundClocks p.1 ≤ 32)
    (hack : (swdUntilAck wiring (lineTransfer line) call.request p).1 ∉
      [dapTransferOk, dapTransferWait, dapTransferFault]) :
    ∃ rest, (swdRun wiring (lineTransfer line) [call, next] p).2 =
      (swdUntilAck wiring (lineTransfer line) call.request p).2.2 ++
        (released wiring (turnaroundClocks p.1) ++
          unitClocks 8 ((requestByte next.request).setWidth 32) ++ rest) := by
  simp only [List.mem_cons, List.not_mem_nil, or_false, not_or] at hack
  obtain ⟨hok, hwait, hfault⟩ := hack
  have hacked := makes_swdUntilAck wiring line call.request hle
  have hcall := makes_swdTransfer wiring line call.request call.data hle
  have hnext := makes_swdTransfer wiring line next.request next.data
    (hcall.turnaroundClocks.trans_le hle)
  -- the call ends with the clocks after its acknowledge
  have hends : (swdTransfer wiring (lineTransfer line) call.request call.data p).2.2 =
      (swdUntilAck wiring (lineTransfer line) call.request p).2.2 ++
        released wiring (turnaroundClocks p.1) := by
    rw [hcall.2, hacked.2, transferClocks, if_neg hok, if_neg (not_or.mpr ⟨hwait, hfault⟩)]
    simp only [SwdPort.conf, List.append_assoc]
  obtain ⟨rest, hrest⟩ := transferClocks_request wiring
    (swdTransfer wiring (lineTransfer line) call.request call.data p).2.1.conf next.request
    (next.data.getD 0#32) (swdUntilAck wiring (lineTransfer line) next.request
      (swdTransfer wiring (lineTransfer line) call.request call.data p).2).1
  refine ⟨rest, hnext.2.trans ?_⟩
  rw [hends, hrest]
  simp only [List.append_assoc]

/-- The stop bit of a request that follows a short turnaround is driven. -/
theorem contends_request {turnaround : ℕ} (hturn : turnaround ≤ 25) (request : Word32)
    (rest : List SwdClock) :
    Contends wiring (released wiring turnaround ++
      unitClocks 8 ((requestByte request).setWidth 32) ++ rest) := by
  refine ⟨some false, ?_, by cases wiring <;> decide⟩
  rw [List.append_assoc, List.take_append, length_released, unitClocks_requestByte]
  refine List.mem_append_right _ (List.mem_take_iff_getElem.mpr ⟨6, ?_, rfl⟩)
  rw [List.length_append, Nat.lt_min]
  exact ⟨by omega, Nat.lt_of_lt_of_le (by decide : 6 < 8) (Nat.le_add_right 8 rest.length)⟩

end Port

/-- After an acknowledge that is none of the three the port never backs off, whatever it
transferred before and whichever transfer follows: the next request meets the data phase of
a target that has accepted a read. -/
theorem swdTransfer_never_backsOff (wiring : Wiring) (line : SwdLine)
    (start : PortState (List SwdClock)) (htrn : start.1.trn.toNat ≤ 4)
    (earlier : List SwdCall) (call next : SwdCall)
    (hack : (swdUntilAck wiring (lineTransfer line) call.request
        (swdRun wiring (lineTransfer line) earlier start)).1 ∉
      [dapTransferOk, dapTransferWait, dapTransferFault]) :
    let acked := (swdUntilAck wiring (lineTransfer line) call.request
      (swdRun wiring (lineTransfer line) earlier start)).2
    let after := swdRun wiring (lineTransfer line) (earlier ++ [call, next]) start
    ∃ clocks, after.2 = acked.2 ++ clocks ∧
      ¬ BacksOff wiring (turnaroundClocks start.1) clocks ∧ Contends wiring clocks := by
  have hturn : turnaroundClocks start.1 ≤ 4 := by
    rw [turnaroundClocks]
    split_ifs <;> omega
  have hbefore := turnaroundClocks_swdRun wiring line earlier (hturn.trans (by decide))
  obtain ⟨rest, hrest⟩ := swdTransfer_turns_around wiring line call next
    (hbefore.trans_le (hturn.trans (by decide))) hack
  have hcontends := contends_request wiring (hbefore.trans_le (hturn.trans (by decide)))
    next.request rest
  refine ⟨_, (congrArg Prod.snd (swdRun_append _ _ _ _ _)).trans hrest, fun hbacks => ?_,
    hcontends⟩
  exact hbacks.not_contends hcontends

/-- A read that is answered with all bits high, on a line that nothing pulls down. -/
theorem swdTransfer_never_backsOff_linesHigh :
    let start : PortState (List SwdClock) := (⟨true, false, 1#8, 8, false, .writeOnly⟩, [])
    let read : SwdCall := ⟨dapTransferRnW, some 0#32⟩
    ∃ clocks, (swdRun .singleWire (lineTransfer fun _ => true) ([] ++ [read, read]) start).2 =
        (swdUntilAck .singleWire (lineTransfer fun _ => true) dapTransferRnW start).2.2 ++ clocks ∧
      ¬ BacksOff .singleWire 1 clocks ∧ Contends .singleWire clocks :=
  swdTransfer_never_backsOff .singleWire (fun _ => true) (⟨true, false, 1#8, 8, false, .writeOnly⟩, [])
    (by decide) [] ⟨dapTransferRnW, some 0#32⟩ ⟨dapTransferRnW, some 0#32⟩ (by decide +kernel)

/-- After the same acknowledge in the same two reads, the port does not back off. -/
theorem swdTransfer_not_backsOff :
    ¬ ∀ (wiring : Wiring) (line : SwdLine) (start : PortState (List SwdClock)),
      start.1.trn.toNat ≤ 4 → ∀ (earlier : List SwdCall) (call next : SwdCall),
        (swdUntilAck wiring (lineTransfer line) call.request
            (swdRun wiring (lineTransfer line) earlier start)).1 ∉
          [dapTransferOk, dapTransferWait, dapTransferFault] →
        let acked := (swdUntilAck wiring (lineTransfer line) call.request
          (swdRun wiring (lineTransfer line) earlier start)).2
        let after := swdRun wiring (lineTransfer line) (earlier ++ [call, next]) start
        ∀ clocks, after.2 = acked.2 ++ clocks →
          BacksOff wiring (turnaroundClocks start.1) clocks ∧ ¬ Contends wiring clocks := by
  intro hclaim
  have hreads := hclaim .singleWire (fun _ => true)
    (⟨true, false, 1#8, 8, false, .writeOnly⟩, []) (by decide) []
    ⟨dapTransferRnW, some 0#32⟩ ⟨dapTransferRnW, some 0#32⟩ (by decide +kernel)
  -- one clock of turnaround, and the second request
  exact absurd (hreads (none :: (unitClocks 8 0xA5#32 ++ List.replicate 5 none))
    (by decide +kernel)).1 (by decide +kernel)

end ExLink.Swd
