/-
# Wake-ups of the engine

`dap_engine_submit` access by access, between the accesses of the engine thread and the
events of the bus. A submission releases the semaphore after it moved the head, and the
thread tests the ring after it took the semaphore, so that a thread that blocks has
nothing to execute. One take may stand for several requests, and leaves counts behind.
-/

import ExLink.Dap.Reset

namespace ExLink.Dap

open ExLink.Automata ExLink.Usb

/-! ## A submission, access by access -/

/-- Where a submission stands. -/
inductive SubmitPc where
  | test (data : List Byte)
  | refuse
  | copy (data : List Byte)
  | length (len : ℕ)
  | advance
  | release

/-- The cell at the head is overwritten. -/
def storeHead (ring : Ring DapReqSlot dapReqSlots) (slot : DapReqSlot) :
    Ring DapReqSlot dapReqSlots :=
  { ring with cells := Function.update ring.cells ring.head slot }

/-- One access: the next place, or `none` on return, and the queue. -/
def submitAccess (pc : SubmitPc) (queue : DapQueue) : Option SubmitPc × DapQueue :=
  match pc with
  | .test data =>
      (some
        (if queue.ring.Full then .refuse
        else .copy (if dapPacketSize < data.length then data.take dapPacketSize else data)), queue)
  | .refuse => (none, { queue with dropped := queue.dropped + 1 })
  | .copy data =>
      let slot := queue.ring.cells queue.ring.head
      (some (.length data.length),
        { queue with ring := storeHead queue.ring { slot with buf := slot.buf.write data } })
  | .length len =>
      let slot := queue.ring.cells queue.ring.head
      (some .advance, { queue with ring := storeHead queue.ring { slot with len := len } })
  | .advance => (some .release, { queue with ring.head := Ring.next queue.ring.head })
  | .release => (none, { queue with sem := rtSemRelease queue.sem })

/-- The engine at its bus, and the submission in progress. -/
structure WakeState where
  bus : BusState
  submit : Option SubmitPc

/-- A call of `dap_engine_submit`, one access of it, or anything else. -/
inductive WakeAction where
  | submit (data : List Byte)
  | isr
  | other (action : BusAction)

/-- One action. Submissions do not nest, and are only made access by access. -/
def wakeStep (speed : UsbSpeed) (s : WakeState) : WakeAction → Option WakeState
  | .submit data =>
      match s.submit with
      | some _ => none
      | none => some { s with submit := some (.test data) }
  | .isr =>
      s.submit.map fun pc =>
        let (next, queue) := submitAccess pc s.bus.engine.queue
        ⟨{ s.bus with engine.queue := queue }, next⟩
  | .other (.engine (.out _)) => none
  | .other action => (busStep speed s.bus action).map fun bus => { s with bus := bus }

/-- `dap_engine_thread_start`, before or after the host configured the device. -/
def wakeInit (cells : Fin dapReqSlots → DapReqSlot) (resp buf : Buf) (enabled : Bool) :
    WakeState :=
  ⟨⟨dapInit cells resp buf, enabled⟩, none⟩

/-- Undisturbed, the accesses are the submission. -/
theorem wakeStep_submit (speed : UsbSpeed) (bus : BusState) (data : List Byte) :
    ∃ accesses,
      runActions (wakeStep speed) ⟨bus, none⟩ (.submit data :: List.replicate accesses .isr) =
        some ⟨{ bus with engine.queue := (dapEngineSubmit data bus.engine.queue).2 }, none⟩ := by
  by_cases hfull : bus.engine.queue.ring.Full
  · refine ⟨2, ?_⟩
    simp [runActions, wakeStep, submitAccess, dapEngineSubmit, hfull]
  · refine ⟨5, ?_⟩
    simp [runActions, wakeStep, submitAccess, dapEngineSubmit, hfull, storeHead, Ring.push]

/-! ## The invariant -/

/-- A thread at its take with something in the ring will be woken: the semaphore was
released, or is about to be. -/
def Awake (s : WakeState) : Prop :=
  s.bus.engine.pc = .take → ¬ s.bus.engine.queue.ring.Empty →
    0 < s.bus.engine.queue.sem ∨ s.submit = some .release

section Steps

variable {speed : UsbSpeed} {s next : WakeState}

theorem awake_isr (inv : Awake s) (hstep : wakeStep speed s .isr = some next) : Awake next := by
  obtain ⟨pc, hpc, rfl⟩ := Option.map_eq_some_iff.mp hstep
  cases pc with
  | advance => exact fun _ _ => .inr rfl
  | release => exact fun _ _ => .inl (rtSemRelease_pos _)
  | test _ | refuse | copy _ | length _ =>
      -- head, tail and semaphore stay
      intro htake hsome
      refine .inl ((inv htake hsome).resolve_right fun hrelease => ?_)
      rw [hpc] at hrelease
      exact absurd hrelease (by simp)

theorem sendNext_ne_take (next : ℤ ⊕ SendPc) : sendNext next ≠ .take := by
  cases next <;> simp [sendNext]

/-- The thread comes to its take from an empty ring only. -/
theorem engineStep_take {s next : DapState} (hstep : engineStep s = some next)
    (htake : next.pc = .take) : next.queue.ring.Empty := by
  cases hpc : s.pc with
  | check =>
      simp only [engineStep, hpc, Option.some.injEq] at hstep
      subst hstep
      by_contra hsome
      rw [if_neg hsome] at htake
      exact absurd htake (by simp)
  | take =>
      simp only [engineStep, hpc] at hstep
      split_ifs at hstep
      obtain rfl := Option.some.inj hstep
      exact absurd htake (by simp)
  | execute => simp only [engineStep, hpc, reduceCtorEq] at hstep
  | send pc =>
      simp only [engineStep, hpc, Option.some.injEq] at hstep
      subst hstep
      exact absurd htake (sendNext_ne_take _)
  | advance | print =>
      simp only [engineStep, hpc, Option.some.injEq] at hstep
      subst hstep
      exact absurd htake (by simp)

/-- The bus and the engine keep the thread where it is with its queue, take it away from its
take, or bring it there with the ring empty. -/
theorem busStep_take {bus after : BusState} {action : BusAction}
    (hnot : ∀ packet, action ≠ .engine (.out packet))
    (hstep : busStep speed bus action = some after) (htake : after.engine.pc = .take) :
    (bus.engine.pc = .take ∧ after.engine.queue = bus.engine.queue) ∨
      after.engine.queue.ring.Empty := by
  rcases busStep_cases hstep with ⟨act, rfl, hact⟩ | ⟨-, -, -, hqueue, -, hpc⟩
  · cases act with
    | out packet => exact absurd rfl (hnot packet)
    | thread => exact .inr (engineStep_take hact htake)
    | execute resp result =>
        cases hpc : bus.engine.pc with
        | execute =>
            simp only [dapStep, engineExecute_eq hpc, Option.some.injEq] at hact
            rw [← hact] at htake
            exact absurd htake (sendNext_ne_take _)
        | take | check | send _ | advance | print =>
            simp only [dapStep, engineExecute, hpc, reduceCtorEq] at hact
    | complete =>
        obtain ⟨port, -, hport⟩ := Option.map_eq_some_iff.mp hact
        rw [← hport] at htake ⊢
        exact .inl ⟨htake, rfl⟩
  · rcases hpc with hpc | ⟨len, -, hadvance⟩
    · exact .inl ⟨hpc ▸ htake, hqueue⟩
    · rw [hadvance] at htake
      exact absurd htake (by simp)

theorem awake_step (s : WakeState) (action : WakeAction) (next : WakeState) (inv : Awake s)
    (hstep : wakeStep speed s action = some next) : Awake next := by
  cases action with
  | submit data =>
      cases hsubmit : s.submit with
      | some pc => simp only [wakeStep, hsubmit, reduceCtorEq] at hstep
      | none =>
          simp only [wakeStep, hsubmit, Option.some.injEq] at hstep
          subst hstep
          intro htake hsome
          refine .inl ((inv htake hsome).resolve_right fun hrelease => ?_)
          rw [hsubmit] at hrelease
          exact absurd hrelease (by simp)
  | isr => exact awake_isr inv hstep
  | other action =>
      have hnot : ∀ packet, action ≠ .engine (.out packet) := by
        rintro packet rfl
        simp only [wakeStep, reduceCtorEq] at hstep
      have hbus : (busStep speed s.bus action).map (fun bus => { s with bus := bus }) =
          some next := by
        rw [← hstep, wakeStep]
        exact hnot
      obtain ⟨bus, hafter, rfl⟩ := Option.map_eq_some_iff.mp hbus
      intro htake hsome
      rcases busStep_take hnot hafter htake with ⟨hbefore, hqueue⟩ | hempty
      · dsimp only at hsome ⊢
        rw [hqueue] at hsome ⊢
        exact inv hbefore hsome
      · exact absurd hempty hsome

end Steps

/-- A thread that is blocked, with no submission in progress, has nothing to execute. -/
theorem blocked_ring_empty (speed : UsbSpeed) (cells : Fin dapReqSlots → DapReqSlot)
    (resp buf : Buf) (enabled : Bool) (actions : List WakeAction) (s : WakeState)
    (hrun : runActions (wakeStep speed) (wakeInit cells resp buf enabled) actions = some s)
    (hblocked : s.bus.engine.pc = .take ∧ s.bus.engine.queue.sem = 0) (hnone : s.submit = none) :
    s.bus.engine.queue.ring.Empty := by
  have hinit : Awake (wakeInit cells resp buf enabled) := fun _ hsome => absurd rfl hsome
  have inv := runActions_invariant awake_step hinit hrun
  by_contra hsome
  rcases inv hblocked.1 hsome with hpos | hrelease
  · exact Nat.ne_of_gt hpos hblocked.2
  · rw [hnone] at hrelease
    exact absurd hrelease (by simp)

/-- A request comes access by access while the thread wakes, and is executed without a
response; the thread blocks again. -/
def wokenOnce : List WakeAction :=
  [.submit [0], .isr, .isr, .isr, .isr, .isr, .other (.engine .thread), .other (.engine .thread),
    .other (.engine (.execute (fun _ => 0) 0)), .other (.engine .thread), .other (.engine .thread),
    .other (.engine .thread)]

theorem blocked_ring_empty_wokenOnce :
    ∃ s, runActions (wakeStep .high)
        (wakeInit (fun _ => ⟨0, fun _ => 0⟩) (fun _ => 0) (fun _ => 0) true) wokenOnce = some s ∧ s.bus.engine.pc = .take ∧ s.bus.engine.queue.ring.Empty := by
  have hshown : (runActions (wakeStep .high)
      (wakeInit (fun _ => ⟨0, fun _ => 0⟩) (fun _ => 0) (fun _ => 0) true) wokenOnce).map (fun s =>
        ((match s.bus.engine.pc with | .take => true | _ => false), s.bus.engine.queue.sem,
          s.submit.isNone)) = some (true, 0, true) := by decide +kernel
  obtain ⟨s, hrun, hs⟩ := Option.map_eq_some_iff.mp hshown
  simp only [Prod.mk.injEq, Option.isNone_iff_eq_none] at hs
  obtain ⟨hpc, hsem, hnone⟩ := hs
  have htake : s.bus.engine.pc = .take := by
    split at hpc
    · assumption
    · exact absurd hpc (by decide)
  exact ⟨s, hrun, htake, blocked_ring_empty .high _ _ _ _ wokenOnce s hrun ⟨htake, hsem⟩ hnone⟩

end ExLink.Dap
