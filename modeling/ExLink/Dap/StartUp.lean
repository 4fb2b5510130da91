/-
# Start-up

`main` brings the USB device up before it starts the engine: `exlink_usb_init` ends with
the controller running, and only then `dap_engine_thread_start` clears the ring and
initialises the semaphore. An interrupt may come between any two steps. The control port,
by contrast, initialises its ring and its semaphore before the controller runs.
-/

import ExLink.Dap.Reset

namespace ExLink.Dap

open ExLink.Automata ExLink.Usb

/-- The next step of `main`. -/
inductive MainPc where
  | add
  | usbdInit
  | frameThread
  | clearHead
  | clearTail
  | clearDropped
  | semInit
  | threadStart
  | done

/-- `usbd_initialize` was called: events and callbacks may come. -/
def MainPc.live : MainPc → Bool
  | .add | .usbdInit => false
  | .frameThread | .clearHead | .clearTail | .clearDropped | .semInit | .threadStart | .done => true

/-- `rt_sem_init` was called on `s_dap_sem`. -/
def MainPc.semReady : MainPc → Bool
  | .threadStart | .done => true
  | .add | .usbdInit | .frameThread | .clearHead | .clearTail | .clearDropped | .semInit => false

/-- The engine thread runs. -/
def MainPc.started : MainPc → Bool
  | .done => true
  | .add | .usbdInit | .frameThread | .clearHead | .clearTail | .clearDropped | .semInit
  | .threadStart => false

/-- `main` and the engine at its bus; whether the semaphore was released before it was
initialised, and the number of requests that clearing the indices took out of the ring. -/
structure StartState where
  main : MainPc
  bus : BusState
  releasedEarly : Bool
  discarded : ℕ

/-- A step of `main`, or an action of the engine and its bus. -/
inductive StartAction where
  | main
  | bus (action : BusAction)

/-- A ring with other indices, and what it lost. -/
def setRing (s : StartState) (main : MainPc) (ring : Ring DapReqSlot dapReqSlots) : StartState :=
  { s with
    main := main
    bus.engine.queue.ring := ring
    discarded := s.discarded + (s.bus.engine.queue.ring.size - ring.size) }

theorem dapReqSlots_pos : 0 < dapReqSlots := by decide

/-- One step of `main`. -/
def mainStep (s : StartState) : Option StartState :=
  let ring := s.bus.engine.queue.ring
  match s.main with
  -- `usb_if_dap_add`
  | .add => some { s with main := .usbdInit, bus.engine.port.busy := false }
  | .usbdInit => some { s with main := .frameThread }
  | .frameThread => some { s with main := .clearHead }
  | .clearHead => some (setRing s .clearTail { ring with head := ⟨0, dapReqSlots_pos⟩ })
  | .clearTail => some (setRing s .clearDropped { ring with tail := ⟨0, dapReqSlots_pos⟩ })
  | .clearDropped => some { s with main := .semInit, bus.engine.queue.dropped := 0 }
  | .semInit => some { s with main := .threadStart, bus.engine.queue.sem := 0 }
  | .threadStart => some { s with main := .done }
  | .done => none

/-- Interrupts need the controller, and the thread its start. -/
def enabledAt (main : MainPc) : BusAction → Bool
  | .reset | .disconnected | .configured | .engine (.out _) | .engine .complete => main.live
  | .engine .thread | .engine (.execute _ _) => main.started

/-- The action releases the semaphore: its request is accepted. -/
def Releases (bus : BusState) : BusAction → Prop
  | .engine (.out packet) => packet.bytes.length ≠ 0 ∧ ¬ bus.engine.queue.ring.Full
  | _ => False

instance (bus : BusState) (action : BusAction) : Decidable (Releases bus action) :=
  match action with
  | .engine (.out _) => inferInstanceAs (Decidable (_ ∧ _))
  | .engine .thread | .engine (.execute _ _) | .engine .complete | .reset | .disconnected
  | .configured => .isFalse id

/-- One action. -/
def startStep (speed : UsbSpeed) (s : StartState) : StartAction → Option StartState
  | .main => mainStep s
  | .bus action =>
      if enabledAt s.main action then
        (busStep speed s.bus action).map fun bus =>
          { s with
            bus := bus
            releasedEarly :=
              s.releasedEarly || decide (Releases s.bus action ∧ ¬ s.main.semReady) }
      else none

/-- Power-up: static memory is zero. -/
def startInit (cells : Fin dapReqSlots → DapReqSlot) (resp buf : Buf) : StartState :=
  ⟨.add, busInit cells resp buf, false, 0⟩

/-- What start-up owes to the engine. -/
def StartSound (s : StartState) : Prop := s.releasedEarly = false ∧ s.discarded = 0

/-- No request arrives before the semaphore is initialised. -/
def StartSafe (s : StartState) : StartAction → Prop
  | .bus (.engine (.out packet)) => packet.bytes.length ≠ 0 → s.main.semReady = true
  | .main | .bus _ => True

instance (s : StartState) (action : StartAction) : Decidable (StartSafe s action) :=
  match action with
  | .bus (.engine (.out _)) => inferInstanceAs (Decidable (_ → _))
  | .main | .bus (.engine .thread) | .bus (.engine (.execute _ _)) | .bus (.engine .complete)
  | .bus .reset | .bus .disconnected | .bus .configured => .isTrue trivial

/-! ## The invariant -/

/-- Nothing went wrong, and until the semaphore is initialised the ring was not used. -/
structure StartInvariant (s : StartState) : Prop where
  sound : StartSound s
  unused : s.main.semReady = false →
    s.bus.engine.queue.ring.head = ⟨0, dapReqSlots_pos⟩ ∧ s.bus.engine.queue.ring.tail = ⟨0, dapReqSlots_pos⟩

theorem startInvariant_init (cells : Fin dapReqSlots → DapReqSlot) (resp buf : Buf) :
    StartInvariant (startInit cells resp buf) where
  sound := ⟨rfl, rfl⟩
  unused := fun _ => ⟨rfl, rfl⟩

section Steps

variable {speed : UsbSpeed} {s next : StartState}

/-- A ring with the indices it has loses nothing. -/
theorem setRing_eq {main : MainPc} {ring : Ring DapReqSlot dapReqSlots}
    (hring : ring = s.bus.engine.queue.ring) : setRing s main ring = { s with main := main } := by
  rw [setRing, hring, Nat.sub_self, Nat.add_zero]

theorem startInvariant_main (inv : StartInvariant s) (hstep : mainStep s = some next) :
    StartInvariant next := by
  obtain ⟨hsound, hunused⟩ := inv
  cases hmain : s.main with
  | add | usbdInit | frameThread | clearDropped =>
      simp only [mainStep, hmain, Option.some.injEq] at hstep
      subst hstep
      exact ⟨hsound, fun _ => hunused (by rw [hmain]; rfl)⟩
  | clearHead =>
      have hzero := hunused (by rw [hmain]; rfl)
      simp only [mainStep, hmain, Option.some.injEq] at hstep
      rw [setRing_eq (by rw [← hzero.1])] at hstep
      subst hstep
      exact ⟨hsound, fun _ => hzero⟩
  | clearTail =>
      have hzero := hunused (by rw [hmain]; rfl)
      simp only [mainStep, hmain, Option.some.injEq] at hstep
      rw [setRing_eq (by rw [← hzero.2])] at hstep
      subst hstep
      exact ⟨hsound, fun _ => hzero⟩
  | semInit | threadStart =>
      simp only [mainStep, hmain, Option.some.injEq] at hstep
      subst hstep
      exact ⟨hsound, fun hready => absurd hready Bool.noConfusion⟩
  | done => simp only [mainStep, hmain, reduceCtorEq] at hstep

/-- What an action of the engine and its bus comes to. -/
theorem startStep_bus {action : BusAction} (hstep : startStep speed s (.bus action) = some next) :
    enabledAt s.main action = true ∧ busStep speed s.bus action = some next.bus ∧
      next.main = s.main ∧ next.discarded = s.discarded ∧
        next.releasedEarly =
          (s.releasedEarly || decide (Releases s.bus action ∧ ¬ s.main.semReady)) := by
  simp only [startStep] at hstep
  split_ifs at hstep with henabled
  obtain ⟨bus, hbus, rfl⟩ := Option.map_eq_some_iff.mp hstep
  exact ⟨henabled, hbus, rfl, rfl, rfl⟩

/-- Before the thread runs only an accepted request moves an index. -/
theorem busStep_ring {bus after : BusState} {action : BusAction} {main : MainPc}
    (henabled : enabledAt main action = true) (hearly : main.semReady = false)
    (hrefused : ¬ Releases bus action) (hstep : busStep speed bus action = some after) :
    after.engine.queue.ring = bus.engine.queue.ring := by
  have hstopped : main.started = false := by
    cases main with
    | done => exact absurd hearly Bool.noConfusion
    | add | usbdInit | frameThread | clearHead | clearTail | clearDropped | semInit
    | threadStart => rfl
  rcases busStep_cases hstep with ⟨act, rfl, hact⟩ | ⟨-, -, -, hqueue, -, -⟩
  · cases act with
    | out packet =>
        obtain hout := Option.some.inj hact
        rw [← hout, dapOutCb]
        split_ifs with hempty
        · rfl
        · have hfull : bus.engine.queue.ring.Full := by
            by_contra hroom
            exact hrefused ⟨hempty, hroom⟩
          rw [dapEngineSubmit_of_full hfull]
    | thread | execute _ _ => exact absurd (henabled.symm.trans hstopped) (by decide)
    | complete =>
        obtain ⟨port, -, hport⟩ := Option.map_eq_some_iff.mp hact
        rw [← hport]
  · rw [hqueue]

theorem releases_of_safe {action : BusAction} (hsafe : StartSafe s (.bus action))
    (hearly : s.main.semReady = false) : ¬ Releases s.bus action := by
  cases action with
  | engine act =>
      cases act with
      | out packet =>
          rintro ⟨hsome, -⟩
          exact absurd (hearly.symm.trans (hsafe hsome)) (by decide)
      | thread | execute _ _ | complete => exact id
  | reset | disconnected | configured => exact id

/-- A safe action. -/
theorem startInvariant_step (s : StartState) (action : StartAction) (next : StartState)
    (inv : StartInvariant s) (hstep : startStep speed s action = some next)
    (hsafe : StartSafe s action) : StartInvariant next := by
  cases action with
  | main => exact startInvariant_main inv hstep
  | bus action =>
      obtain ⟨henabled, hbus, hmain, hdiscarded, hreleased⟩ := startStep_bus hstep
      refine ⟨⟨?_, hdiscarded.trans inv.sound.2⟩, fun hearly => ?_⟩
      · rw [hreleased, inv.sound.1, Bool.false_or, decide_eq_false_iff_not]
        rintro ⟨hreleases, hearly⟩
        exact releases_of_safe hsafe (by simpa using hearly) hreleases
      · rw [hmain] at hearly
        rw [busStep_ring henabled hearly (releases_of_safe hsafe hearly) hbus]
        exact inv.unused hearly

/-- A request that comes too soon is accepted, as the ring is empty. -/
theorem releasedEarly_step (s : StartState) (action : StartAction) (next : StartState)
    (inv : StartInvariant s) (hstep : startStep speed s action = some next)
    (hsoon : ¬ StartSafe s action) : ¬ StartSound next := by
  cases action with
  | main => exact absurd trivial hsoon
  | bus action =>
      cases action with
      | engine act =>
          cases act with
          | out packet =>
              obtain ⟨hsome, hearly⟩ := Classical.not_imp.mp hsoon
              obtain ⟨hhead, htail⟩ := inv.unused (by simpa using hearly)
              have hroom : ¬ s.bus.engine.queue.ring.Full := by
                rw [Ring.Full, hhead, htail]
                decide
              obtain ⟨-, -, -, -, hreleased⟩ := startStep_bus hstep
              intro hsound
              have hboth : Releases s.bus (.engine (.out packet)) ∧ ¬ s.main.semReady = true :=
                ⟨⟨hsome, hroom⟩, hearly⟩
              rw [StartSound, hreleased, decide_eq_true hboth, Bool.or_true] at hsound
              exact absurd hsound.1 (by decide)
          | thread | execute _ _ | complete => exact absurd trivial hsoon
      | reset | disconnected | configured => exact absurd trivial hsoon

/-- What went wrong stays. -/
theorem startUnsound_step (s : StartState) (action : StartAction) (next : StartState)
    (hlost : ¬ StartSound s) (hstep : startStep speed s action = some next) :
    ¬ StartSound next := by
  refine fun hsound => hlost ?_
  obtain ⟨hreleased, hdiscarded⟩ := hsound
  cases action with
  | main =>
      have hkept : next.releasedEarly = s.releasedEarly ∧ s.discarded ≤ next.discarded := by
        cases hmain : s.main with
        | add | usbdInit | frameThread | clearDropped | semInit | threadStart =>
            simp only [startStep, mainStep, hmain, Option.some.injEq] at hstep
            subst hstep
            exact ⟨rfl, Nat.le_refl _⟩
        | clearHead | clearTail =>
            simp only [startStep, mainStep, hmain, Option.some.injEq] at hstep
            subst hstep
            exact ⟨rfl, Nat.le_add_right _ _⟩
        | done => simp only [startStep, mainStep, hmain, reduceCtorEq] at hstep
      exact ⟨hkept.1 ▸ hreleased, by omega⟩
  | bus action =>
      obtain ⟨-, -, -, hsame, hearly⟩ := startStep_bus hstep
      rw [hearly, Bool.or_eq_false_iff] at hreleased
      exact ⟨hreleased.1, hsame ▸ hdiscarded⟩

end Steps

/-- Whatever interrupts whatever step of start-up: the semaphore is not released before it
is initialised and no accepted request is discarded, exactly if no request arrived before the
semaphore was initialised. -/
theorem startUp_iff (speed : UsbSpeed) (cells : Fin dapReqSlots → DapReqSlot) (resp buf : Buf)
    (actions : List StartAction) (final : StartState)
    (hrun : runActions (startStep speed) (startInit cells resp buf) actions = some final) :
    (final.releasedEarly = false ∧ final.discarded = 0) ↔
      runActions (restrict (startStep speed) StartSafe) (startInit cells resp buf) actions =
        some final := by
  have hiff := runActions_restrict_iff (fun _ inv hlost => hlost (StartInvariant.sound inv))
    startInvariant_step releasedEarly_step startUnsound_step (startInvariant_init cells resp buf)
    hrun
  rw [hiff, not_not]
  rfl

/-- Start-up with zero memory. -/
def zeroStart : StartState := startInit (fun _ => ⟨0, fun _ => 0⟩) (fun _ => 0) fun _ => 0

/-- The request comes when `main` is done. -/
def requestAfterStart : List StartAction :=
  List.replicate 8 .main ++ [.bus .configured, .bus (.engine infoRequest)]

theorem startUp_iff_requestAfterStart :
    ∃ final, runActions (startStep .high) zeroStart requestAfterStart = some final ∧
      final.releasedEarly = false ∧ final.discarded = 0 := by
  have hsome : (runActions (restrict (startStep .high) StartSafe) zeroStart requestAfterStart).isSome =
      true := by decide +kernel
  obtain ⟨final, hadmitted⟩ := Option.isSome_iff_exists.mp hsome
  have hrun := runActions_of_restrict hadmitted
  exact ⟨final, hrun, (startUp_iff .high _ _ _ requestAfterStart final hrun).mpr hadmitted⟩

/-- The host is fast: its request comes before the engine is started. -/
theorem startUp_releases_early :
    ¬ ∀ (cells : Fin dapReqSlots → DapReqSlot) (resp buf : Buf) (actions : List StartAction)
        (final : StartState),
      runActions (startStep .high) (startInit cells resp buf) actions = some final →
        final.releasedEarly = false ∧ final.discarded = 0 := by
  intro hclaim
  let actions : List StartAction :=
    [.main, .main, .bus .configured, .bus (.engine infoRequest), .main, .main]
  have hshown : (runActions (startStep .high) zeroStart actions).map
      (fun s => (s.releasedEarly, s.discarded)) = some (true, 1) := by decide +kernel
  obtain ⟨final, hrun, hfinal⟩ := Option.map_eq_some_iff.mp hshown
  obtain ⟨hreleased, -⟩ := Prod.mk.inj hfinal
  have hsound := hclaim _ _ _ actions final hrun
  exact absurd (hreleased.symm.trans hsound.1) (by decide)

end ExLink.Dap
