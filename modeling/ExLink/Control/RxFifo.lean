/-
# The receive ring is a bounded queue

`rx_ring_put` and `usb_if_ctrl_rx_getchar` on the registers as they are stored:
16-bit indices, masked after every increment, and every access of the consumer
to a shared variable a step of its own. The callback preempts the consumer
between any two of them. Over the ring library this is a queue of 8191 bytes.
-/

import ExLink.Control.RxRing
import ExLink.Data.Fifo

namespace ExLink.Control

open ExLink.Automata

/-! ## The registers -/

/-- `EXLINK_RX_RING_MASK`. -/
def exlinkRxRingMask : Word32 := 8191#32

/-- `s_rx_ring`, `s_rx_head`, `s_rx_tail` and `s_rx_dropped`, as stored. -/
structure RxRegs where
  ring : Buf
  head : Word16
  tail : Word16
  dropped : Word32

/-- `(uint16_t)((index + 1u) & EXLINK_RX_RING_MASK)`. -/
def rxNext (index : Word16) : Word16 :=
  ((index.setWidth 32 + 1#32) &&& exlinkRxRingMask).setWidth 16

/-- `rx_ring_put`. -/
def rxRegsPut : List Byte → RxRegs → RxRegs
  | [], regs => regs
  | byte :: rest, regs =>
      if rxNext regs.head = regs.tail then { regs with dropped := regs.dropped + 1#32 }
      else
        rxRegsPut rest { regs with
          ring := Function.update regs.ring regs.head.toNat byte
          head := rxNext regs.head }

/-- Where a call of `usb_if_ctrl_rx_getchar` stands. The operands of the comparison
may be loaded in either order, and `compare` holds those loaded so far. -/
inductive GetcharPc where
  | idle
  | compare (tail head : Option Word16)
  | index
  | cell (tail : Word16)
  | reload (byte : Byte)
  | store (byte : Byte) (tail : Word16)

/-- The registers, the consumer, and what its calls returned: `none` for 0, the
byte for 1. -/
structure RxState where
  regs : RxRegs
  pc : GetcharPc
  returned : List (Option Byte)

/-- A callback with its packet, the start of a call, or one access of a call. -/
inductive RxAction where
  | put (data : List Byte)
  | call
  | loadTail
  | loadHead
  | access

/-- The comparison `s_rx_tail == s_rx_head`, once both operands are loaded. -/
def rxCompare (tail head : Option Word16) (s : RxState) : RxState :=
  match tail, head with
  | some t, some h =>
      if t = h then { s with pc := .idle, returned := s.returned ++ [none] }
      else { s with pc := .index }
  | tail, head => { s with pc := .compare tail head }

/-- One callback or one access of the consumer. -/
def rxStep (s : RxState) : RxAction → Option RxState
  | .put data => some { s with regs := rxRegsPut data s.regs }
  | .call =>
      match s.pc with
      | .idle => some { s with pc := .compare none none }
      | _ => none
  | .loadTail =>
      match s.pc with
      | .compare none head => some (rxCompare (some s.regs.tail) head s)
      | _ => none
  | .loadHead =>
      match s.pc with
      | .compare tail none => some (rxCompare tail (some s.regs.head) s)
      | _ => none
  | .access =>
      match s.pc with
      | .index => some { s with pc := .cell s.regs.tail }
      | .cell tail => some { s with pc := .reload (s.regs.ring tail.toNat) }
      | .reload byte => some { s with pc := .store byte s.regs.tail }
      | .store byte tail =>
          some { regs := { s.regs with tail := rxNext tail }, pc := .idle,
                 returned := s.returned ++ [some byte] }
      | _ => none

/-- `usb_if_ctrl_add`: the ring memory is whatever it was. -/
def rxInit (memory : Buf) : RxState := ⟨⟨memory, 0#16, 0#16, 0#32⟩, .idle, []⟩

/-- Where the queue changes: a packet joins at its callback; an empty queue is seen
at the load of the head; a byte leaves at the store of the tail. -/
def rxEvents (s : RxState) : RxAction → List (FifoEvent Byte)
  | .put data => [.put data]
  | .loadHead => if s.regs.tail = s.regs.head then [.get none] else []
  | .access =>
      match s.pc with
      | .store byte _ => [.get (some byte)]
      | _ => []
  | .call | .loadTail => []

/-- The result of a call that has already seen the queue empty but did not load the
tail yet. -/
def pendingResult (s : RxState) : List (Option Byte) :=
  match s.pc with
  | .compare _ (some head) => if s.regs.tail = head then [none] else []
  | _ => []

/-! ## The registers hold a ring -/

/-- The stored registers are those of a ring: indices below its size, and the same
cells. -/
structure RxRegs.Holds (regs : RxRegs) (rx : RxRing) : Prop where
  head : regs.head.toNat = rx.ring.head
  tail : regs.tail.toNat = rx.ring.tail
  cells : ∀ index : Fin exlinkRxRingSize, regs.ring index = rx.ring.cells index
  dropped : regs.dropped = rx.dropped

/-- The mask is the wrapped successor. -/
theorem toNat_rxNext {index : Word16} {wrapped : Fin exlinkRxRingSize}
    (hindex : index.toNat = wrapped) : (rxNext index).toNat = Ring.next wrapped := by
  have hlt : (wrapped : ℕ) < 8192 := wrapped.2
  have hsum : (index.setWidth 32 + 1#32).toNat = wrapped + 1 := by
    rw [BitVec.toNat_add, BitVec.toNat_setWidth, hindex]
    simp only [BitVec.toNat_ofNat]
    omega
  have hmask : ((wrapped : ℕ) + 1) &&& 8191 = (wrapped + 1) % 8192 :=
    Nat.and_two_pow_sub_one_eq_mod (wrapped + 1) 13
  have hnext : (rxNext index).toNat = ((wrapped + 1) &&& 8191) % 65536 := by
    rw [rxNext, BitVec.toNat_setWidth, BitVec.toNat_and, hsum]
    rfl
  rw [hnext, hmask]
  simp only [Ring.next, Ring.offset, exlinkRxRingSize]
  omega

section Holds

variable {regs : RxRegs} {rx : RxRing}

theorem RxRegs.Holds.full_iff (holds : regs.Holds rx) :
    rxNext regs.head = regs.tail ↔ rx.ring.Full := by
  have hnext := toNat_rxNext holds.head
  constructor
  · intro heq
    apply Fin.ext
    rw [← hnext, heq, holds.tail]
  · intro hfull
    apply BitVec.eq_of_toNat_eq
    rw [hnext, holds.tail, hfull]

theorem RxRegs.Holds.empty_iff (holds : regs.Holds rx) :
    regs.tail = regs.head ↔ rx.ring.Empty := by
  constructor
  · intro heq
    apply Fin.ext
    rw [← holds.tail, heq, holds.head]
  · intro hempty
    apply BitVec.eq_of_toNat_eq
    rw [holds.tail, holds.head, hempty]

theorem RxRegs.Holds.push (holds : regs.Holds rx) (byte : Byte) :
    RxRegs.Holds { regs with
        ring := Function.update regs.ring regs.head.toNat byte, head := rxNext regs.head }
      { rx with ring := rx.ring.push byte } where
  head := toNat_rxNext holds.head
  tail := holds.tail
  cells := by
    intro index
    rw [holds.head]
    by_cases hindex : index = rx.ring.head
    · rw [hindex]
      simp [Ring.push]
    · have hother : (index : ℕ) ≠ rx.ring.head := fun h => hindex (Fin.ext h)
      simp only [Ring.push, Function.update_of_ne hother, Function.update_of_ne hindex,
        holds.cells]
  dropped := holds.dropped

/-- `rx_ring_put` keeps the ring, whatever the packet. -/
theorem RxRegs.Holds.put (holds : regs.Holds rx) (data : List Byte) :
    (rxRegsPut data regs).Holds (rxRingPut data rx) := by
  induction data generalizing regs rx with
  | nil => exact holds
  | cons byte rest ih =>
      rw [rxRegsPut, rxRingPut]
      by_cases hfull : rx.ring.Full
      · rw [if_pos (holds.full_iff.mpr hfull), if_pos hfull]
        exact ⟨holds.head, holds.tail, holds.cells, by rw [holds.dropped]⟩
      · rw [if_neg (mt holds.full_iff.mp hfull), if_neg hfull]
        exact ih (holds.push byte)

/-- Moving the tail removes the oldest byte. -/
theorem RxRegs.Holds.pop (holds : regs.Holds rx) :
    RxRegs.Holds { regs with tail := rxNext regs.tail } { rx with ring := rx.ring.pop } where
  head := holds.head
  tail := toNat_rxNext holds.tail
  cells := holds.cells
  dropped := holds.dropped

/-- The cell at the tail holds the oldest byte. -/
theorem RxRegs.Holds.front (holds : regs.Holds rx) (nonempty : rx.ring.contents ≠ []) :
    rx.ring.contents = regs.ring regs.tail.toNat :: rx.ring.pop.contents := by
  have hsome := mt (Ring.empty_iff_contents rx.ring).mp nonempty
  rw [holds.tail, holds.cells, Ring.contents_pop hsome, Ring.front]

end Holds

/-! ## The simulation -/

/-- What a call knows about the registers and the queue at each of its accesses. -/
def CallKnows (regs : RxRegs) (contents : List Byte) : GetcharPc → Prop
  | .idle => True
  | .compare tail head =>
      (∀ loaded, tail = some loaded → loaded = regs.tail) ∧
        ∀ loaded, head = some loaded → regs.tail ≠ loaded → contents ≠ []
  | .index => contents ≠ []
  | .cell tail => tail = regs.tail ∧ contents ≠ []
  | .reload byte => contents.head? = some byte
  | .store byte tail => tail = regs.tail ∧ contents.head? = some byte

/-- The registers hold the queue, and the results of its takes are those that the
calls returned or are about to return. -/
structure Simulates (s : RxState) (q : Fifo Byte) : Prop where
  holds : ∃ rx, s.regs.Holds rx ∧ q.contents = rx.ring.contents
  results : q.results = s.returned ++ pendingResult s
  knows : CallKnows s.regs q.contents s.pc

theorem simulates_init (memory : Buf) : Simulates (rxInit memory) Fifo.init where
  holds := by
    have hempty : (⟨fun index => memory index, ⟨0, by decide⟩, ⟨0, by decide⟩⟩ :
        Ring Byte exlinkRxRingSize).contents = [] := (Ring.empty_iff_contents _).mp rfl
    exact ⟨⟨_, 0#32⟩, ⟨rfl, rfl, fun _ => rfl, rfl⟩, hempty.symm⟩
  results := rfl
  knows := trivial

theorem tail_rxRegsPut (data : List Byte) (regs : RxRegs) :
    (rxRegsPut data regs).tail = regs.tail := by
  induction data generalizing regs with
  | nil => rfl
  | cons byte rest ih =>
      rw [rxRegsPut]
      split_ifs
      · rfl
      · exact ih _

section Steps

variable {s next : RxState} {q : Fifo Byte}

/-- A callback, at whichever access of a call it comes. -/
theorem simulates_put (sim : Simulates s q) (data : List Byte) :
    Simulates { s with regs := rxRegsPut data s.regs }
      { q with
        contents := q.contents ++ q.fitting (exlinkRxRingSize - 1) data
        appended := q.appended ++ q.fitting (exlinkRxRingSize - 1) data } where
  holds := by
    obtain ⟨rx, hholds, hcontents⟩ := sim.holds
    have hput := contents_rxRingPut_take data rx
    rw [← hcontents] at hput
    exact ⟨rxRingPut data rx, hholds.put data, hput.symm⟩
  results := by
    have hpending : pendingResult { s with regs := rxRegsPut data s.regs } = pendingResult s := by
      cases hpc : s.pc <;> simp only [pendingResult, hpc, tail_rxRegsPut]
    rw [hpending]
    exact sim.results
  knows := by
    have hknows := sim.knows
    cases hpc : s.pc with
    | idle => trivial
    | compare tail head =>
        rw [hpc] at hknows
        simp only [CallKnows, tail_rxRegsPut]
        exact ⟨hknows.1, fun loaded hhead hne =>
          List.append_ne_nil_of_left_ne_nil (hknows.2 loaded hhead hne) _⟩
    | index =>
        rw [hpc] at hknows
        exact List.append_ne_nil_of_left_ne_nil hknows _
    | cell tail =>
        rw [hpc] at hknows
        simp only [CallKnows, tail_rxRegsPut]
        exact ⟨hknows.1, List.append_ne_nil_of_left_ne_nil hknows.2 _⟩
    | reload byte =>
        rw [hpc] at hknows
        simp only [CallKnows] at hknows ⊢
        rw [List.head?_append, hknows]
        rfl
    | store byte tail =>
        rw [hpc] at hknows
        simp only [CallKnows, tail_rxRegsPut] at hknows ⊢
        rw [List.head?_append, hknows.2]
        exact ⟨hknows.1, rfl⟩

/-- The registers say whether the queue is empty. -/
theorem Simulates.empty_iff (sim : Simulates s q) :
    s.regs.tail = s.regs.head ↔ q.contents = [] := by
  obtain ⟨rx, hholds, hcontents⟩ := sim.holds
  rw [hcontents, hholds.empty_iff, Ring.empty_iff_contents]

/-- A take that finds the queue empty. -/
theorem fifo_get_none (hempty : q.contents = []) :
    q.step (exlinkRxRingSize - 1) (.get none) =
      some { q with results := q.results ++ [none] } := by
  simp only [Fifo.step, hempty, List.head?_nil, List.tail_nil, if_true]

/-- A take that finds a byte. -/
theorem fifo_get_some {byte : Byte} (hfront : q.contents.head? = some byte) :
    q.step (exlinkRxRingSize - 1) (.get (some byte)) =
      some { q with contents := q.contents.tail, results := q.results ++ [some byte] } := by
  simp only [Fifo.step, hfront, if_true]

/-- The tail is loaded: it is the stored one, so nothing is decided before the head
is loaded as well. -/
theorem simulates_loadTail {head : Option Word16} (sim : Simulates s q)
    (hpc : s.pc = .compare none head) :
    Simulates (rxCompare (some s.regs.tail) head s) q := by
  have hresults := sim.results
  have hknows := sim.knows
  rw [hpc] at hknows
  cases head with
  | none =>
      rw [pendingResult, hpc] at hresults
      exact ⟨sim.holds, hresults, fun loaded h => (Option.some.inj h).symm,
        fun loaded h => absurd h (by simp)⟩
  | some loaded =>
      rw [pendingResult, hpc] at hresults
      by_cases hempty : s.regs.tail = loaded
      · simp only [rxCompare, if_pos hempty]
        simp only [if_pos hempty] at hresults
        exact ⟨sim.holds, by simpa only [pendingResult, List.append_nil] using hresults, trivial⟩
      · simp only [rxCompare, if_neg hempty]
        simp only [if_neg hempty] at hresults
        exact ⟨sim.holds, hresults, hknows.2 loaded rfl hempty⟩

/-- The head is loaded: here an empty queue is seen. -/
theorem simulates_loadHead {tail : Option Word16} (sim : Simulates s q)
    (hpc : s.pc = .compare tail none) :
    ∃ after, runActions (Fifo.step (exlinkRxRingSize - 1)) q
        (if s.regs.tail = s.regs.head then [.get none] else []) = some after ∧
      Simulates (rxCompare tail (some s.regs.head) s) after := by
  have hresults := sim.results
  have hknows := sim.knows
  rw [pendingResult, hpc] at hresults
  rw [hpc] at hknows
  simp only [List.append_nil] at hresults
  have hwaits : rxCompare none (some s.regs.head) s =
      { s with pc := .compare none (some s.regs.head) } := rfl
  by_cases hempty : s.regs.tail = s.regs.head
  · have hget := fifo_get_none (sim.empty_iff.mp hempty)
    rw [if_pos hempty]
    cases tail with
    | none =>
        rw [hwaits]
        refine ⟨_, runActions_cons_eq_some.mpr ⟨_, hget, rfl⟩, sim.holds, ?_, ?_, ?_⟩
        · simp only [pendingResult, if_pos hempty, hresults]
        · exact fun loaded h => absurd h (by simp)
        · intro loaded h hne
          exact absurd (hempty.trans (Option.some.inj h)) hne
    | some loaded =>
        obtain rfl := hknows.1 loaded rfl
        refine ⟨_, runActions_cons_eq_some.mpr ⟨_, hget, rfl⟩, ?_⟩
        simp only [rxCompare, if_pos hempty]
        exact ⟨sim.holds, by simp only [pendingResult, List.append_nil, hresults], trivial⟩
  · have hsome := mt sim.empty_iff.mpr hempty
    rw [if_neg hempty]
    cases tail with
    | none =>
        rw [hwaits]
        refine ⟨q, rfl, sim.holds, ?_, ?_, ?_⟩
        · simp only [pendingResult, if_neg hempty, List.append_nil, hresults]
        · exact fun loaded h => absurd h (by simp)
        · exact fun _ _ _ => hsome
    | some loaded =>
        obtain rfl := hknows.1 loaded rfl
        refine ⟨q, rfl, ?_⟩
        simp only [rxCompare, if_neg hempty]
        exact ⟨sim.holds, by simpa only [pendingResult, List.append_nil] using hresults, hsome⟩

/-- The accesses after the comparison: the byte is taken when the tail is stored. -/
theorem simulates_access (sim : Simulates s q) (hstep : rxStep s .access = some next) :
    ∃ after, runActions (Fifo.step (exlinkRxRingSize - 1)) q (rxEvents s .access) = some after ∧
      Simulates next after := by
  have hresults := sim.results
  have hknows := sim.knows
  rw [pendingResult] at hresults
  cases hpc : s.pc with
  | idle => simp only [rxStep, hpc, reduceCtorEq] at hstep
  | compare tail head => simp only [rxStep, hpc, reduceCtorEq] at hstep
  | index =>
      simp only [hpc] at hresults hknows
      simp only [rxStep, hpc, Option.some.injEq] at hstep
      subst hstep
      simp only [rxEvents, hpc]
      exact ⟨q, rfl, sim.holds, hresults, rfl, hknows⟩
  | cell tail =>
      simp only [hpc] at hresults hknows
      obtain ⟨rfl, hsome⟩ := hknows
      simp only [rxStep, hpc, Option.some.injEq] at hstep
      subst hstep
      obtain ⟨rx, hholds, hcontents⟩ := sim.holds
      have hfront := hholds.front (hcontents ▸ hsome)
      simp only [rxEvents, hpc]
      refine ⟨q, rfl, ⟨rx, hholds, hcontents⟩, hresults, ?_⟩
      simp only [CallKnows, hcontents, hfront, List.head?_cons]
  | reload byte =>
      simp only [hpc] at hresults hknows
      simp only [rxStep, hpc, Option.some.injEq] at hstep
      subst hstep
      simp only [rxEvents, hpc]
      exact ⟨q, rfl, sim.holds, hresults, rfl, hknows⟩
  | store byte tail =>
      simp only [hpc, List.append_nil] at hresults hknows
      obtain ⟨rfl, hfront⟩ := hknows
      simp only [rxStep, hpc, Option.some.injEq] at hstep
      subst hstep
      obtain ⟨rx, hholds, hcontents⟩ := sim.holds
      have hsome : rx.ring.contents ≠ [] := by
        intro hnil
        simp [hcontents, hnil] at hfront
      have htail : q.contents.tail = rx.ring.pop.contents := by
        rw [hcontents, hholds.front hsome, List.tail_cons]
      simp only [rxEvents, hpc]
      refine ⟨_, runActions_cons_eq_some.mpr ⟨_, fifo_get_some hfront, rfl⟩,
        ⟨_, hholds.pop, htail⟩, ?_, trivial⟩
      simp only [pendingResult, List.append_nil, hresults]

end Steps

/-- One action of the ring is what the queue does at the events of the action. -/
theorem simulates_step (s : RxState) (q : Fifo Byte) (action : RxAction) (next : RxState)
    (sim : Simulates s q) (hstep : rxStep s action = some next) :
    ∃ after, runActions (Fifo.step (exlinkRxRingSize - 1)) q (rxEvents s action) = some after ∧
      Simulates next after := by
  cases action with
  | put data =>
      obtain rfl := Option.some.inj hstep
      exact ⟨_, runActions_cons_eq_some.mpr ⟨_, rfl, rfl⟩, simulates_put sim data⟩
  | call =>
      have hresults := sim.results
      cases hpc : s.pc with
      | idle =>
          rw [pendingResult, hpc] at hresults
          simp only [rxStep, hpc, Option.some.injEq] at hstep
          subst hstep
          exact ⟨q, rfl, sim.holds, hresults, fun loaded h => absurd h (by simp),
            fun loaded h => absurd h (by simp)⟩
      | _ => simp only [rxStep, hpc, reduceCtorEq] at hstep
  | loadTail =>
      rw [rxStep] at hstep
      split at hstep
      · obtain rfl := Option.some.inj hstep
        exact ⟨q, rfl, simulates_loadTail sim ‹_›⟩
      · simp at hstep
  | loadHead =>
      rw [rxStep] at hstep
      split at hstep
      · obtain rfl := Option.some.inj hstep
        exact simulates_loadHead sim ‹_›
      · simp at hstep
  | access => exact simulates_access sim hstep

/-- Whatever the packets and wherever the callback preempts a call, the ring is a
queue of `EXLINK_RX_RING_SIZE - 1` bytes: each packet appends its first bytes as far
as there is room, each call takes the oldest byte or finds the queue empty, and the
bytes returned and the bytes held are the bytes appended. -/
theorem rxRing_fifo (memory : Buf) (actions : List RxAction) (s : RxState)
    (hrun : runActions rxStep (rxInit memory) actions = some s) :
    s.regs.head.toNat < exlinkRxRingSize ∧ s.regs.tail.toNat < exlinkRxRingSize ∧
      ∃ q rx, runActions (Fifo.step (exlinkRxRingSize - 1)) Fifo.init
          (runLabels rxStep rxEvents (rxInit memory) actions) = some q ∧
        s.regs.Holds rx ∧ q.contents = rx.ring.contents ∧
        q.contents.length ≤ exlinkRxRingSize - 1 ∧
        q.results = s.returned ++ pendingResult s ∧
        q.appended = s.returned.reduceOption ++ q.contents := by
  obtain ⟨q, hspec, sim⟩ := runActions_simulates simulates_step (simulates_init memory) hrun
  obtain ⟨hhistory, hroom⟩ := Fifo.sound_run hspec
  obtain ⟨rx, hholds, hcontents⟩ := sim.holds
  have hpending : (pendingResult s).reduceOption = [] := by
    rw [pendingResult]
    split
    · split_ifs <;> rfl
    · rfl
  have hresults := sim.results
  refine ⟨?_, ?_, q, rx, hspec, hholds, hcontents, hroom, hresults, ?_⟩
  · rw [hholds.head]
    exact rx.ring.head.2
  · rw [hholds.tail]
    exact rx.ring.tail.2
  · rw [hhistory, hresults, List.reduceOption_append, hpending, List.append_nil]

/-- A packet that arrives between the read of a cell and the store of the tail. -/
theorem rxRing_fifo_preempted :
    ∃ (s : RxState) (q : Fifo Byte), runActions rxStep (rxInit fun _ => 0#8)
        [.put [0x4C#8], .call, .loadHead, .loadTail, .access, .access, .put [0x4B#8],
          .access, .access] = some s ∧
      q.appended = s.returned.reduceOption ++ q.contents ∧ s.returned = [some 0x4C#8] ∧
      q.contents = [0x4B#8] := by
  have hsome : (runActions rxStep (rxInit fun _ => 0#8)
      [.put [0x4C#8], .call, .loadHead, .loadTail, .access, .access, .put [0x4B#8],
        .access, .access]).isSome := by decide +kernel
  obtain ⟨s, hrun⟩ := Option.isSome_iff_exists.mp hsome
  obtain ⟨-, -, q, rx, hspec, -, -, -, -, happended⟩ := rxRing_fifo _ _ s hrun
  have hreturned : (runActions rxStep (rxInit fun _ => 0#8)
      [.put [0x4C#8], .call, .loadHead, .loadTail, .access, .access, .put [0x4B#8],
        .access, .access]).map (fun final => final.returned) = some [some 0x4C#8] := by
    decide +kernel
  rw [hrun] at hreturned
  have hqueue : (some q).map (fun final => final.contents) = some [0x4B#8] := by
    rw [← hspec]
    decide +kernel
  exact ⟨s, q, hrun, happended, Option.some.inj hreturned, Option.some.inj hqueue⟩

end ExLink.Control
