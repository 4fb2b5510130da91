/-
# Resets of the bus

The USB events around the engine. The hooks of `usb_if_dap.c` clear `s_tx_busy`, and the
request ring and the thread go on where the last session left them: what was accepted in
one session is executed and answered in the next one.
-/

import ExLink.Dap.Responses

namespace ExLink.Dap

open ExLink.Automata ExLink.Usb

/-! ## USB events -/

/-- The engine, and whether the endpoints EP2 are enabled. -/
structure BusState where
  engine : DapState
  enabled : Bool

/-- An action of the engine, or an event of `exlink_usbd_event_handler`. -/
inductive BusAction where
  | engine (action : DapAction)
  | reset
  | disconnected
  | configured

/-- `usb_if_dap_on_reset`. -/
def usbIfDapOnReset (s : DapState) : DapState := { s with port := { s.port with busy := false } }

/-- `usb_if_dap_on_configured`, without the OUT read that it arms. -/
def usbIfDapOnConfigured (s : DapState) : DapState :=
  { s with port := { s.port with busy := false } }

/-- The controller forgets the transfer that it holds: a bus reset clears every queue
head, and opening an endpoint the one of the endpoint. -/
def clearQueueHead (s : DapState) : DapState := { s with port := { s.port with armed := none } }

/-- One access of the thread. On a disabled endpoint `usbd_ep_start_write` fails, and so
does the send. -/
def threadOn (enabled : Bool) (s : DapState) : Option DapState :=
  match enabled, s.pc with
  | false, .send (.start _) =>
      some { s with port := { s.port with busy := false }, pc := sendNext (.inl (-5)) }
  | _, _ => engineStep s

/-- One action. The host sends to an enabled endpoint only. A reset disables the endpoints
before its hook runs, and they are enabled before the hook of the configuration does. -/
def busStep (speed : UsbSpeed) (s : BusState) : BusAction → Option BusState
  | .engine (.out packet) =>
      if s.enabled then some { s with engine := dapOutCb packet s.engine } else none
  | .engine .thread => (threadOn s.enabled s.engine).map fun engine => { s with engine := engine }
  | .engine action => (dapStep speed s.engine action).map fun engine => { s with engine := engine }
  | .reset => some ⟨usbIfDapOnReset (clearQueueHead s.engine), false⟩
  | .disconnected => some { s with engine := usbIfDapOnReset s.engine }
  | .configured => some ⟨usbIfDapOnConfigured (clearQueueHead s.engine), true⟩

/-- `usb_if_dap_add` and `dap_engine_thread_start`. -/
def busInit (cells : Fin dapReqSlots → DapReqSlot) (resp buf : Buf) : BusState :=
  ⟨dapInit cells resp buf, false⟩

/-- The requests that arrive and are accepted. -/
def acceptedOn (s : BusState) : BusAction → List (List Byte)
  | .engine action => acceptedOut s.engine action
  | .reset | .disconnected | .configured => []

/-- The executed requests, each with its response. -/
def exchangedOn (s : BusState) : BusAction → List (List Byte × List Byte)
  | .engine action => exchangedBy s.engine action
  | .reset | .disconnected | .configured => []

/-- The number, among the accepted requests, of the one whose response is written to EP2 IN:
as many slots were released before its own. -/
def writtenOn (s : BusState) : BusAction → List ℕ
  | .engine .thread =>
      match s.enabled, s.engine.pc with
      | true, .send (.start _) => [s.engine.released]
      | _, _ => []
  | .engine _ | .reset | .disconnected | .configured => []

instance : DecidablePred AfterStart
  | .send (.drain _) | .advance => .isTrue trivial
  | .take | .check | .execute | .print | .send (.wait _ _) | .send (.copy _) | .send (.mark _)
  | .send (.start _) => .isFalse id

/-- The accepted requests whose responses may still be written: those in the ring, but for
the one at the tail once its transfer was started or given up. -/
def unwritten (s : DapState) : List (List Byte) :=
  (if AfterStart s.pc then s.queue.ring.contents.tail else s.queue.ring.contents).map
    DapReqSlot.request

/-! ## What an action does to the ring -/

/-- One access of the thread releases the slot at the tail, or leaves the ring alone and a
response that was settled settled. -/
theorem engineStep_cases {s next : DapState} (hstep : engineStep s = some next) :
    (s.pc = .advance ∧ next.queue.ring = s.queue.ring.pop ∧ next.released = s.released + 1) ∨
      (s.pc ≠ .advance ∧ next.queue.ring = s.queue.ring ∧ next.released = s.released ∧
        (AfterStart s.pc → AfterStart next.pc)) := by
  cases hpc : s.pc with
  | take =>
      simp only [engineStep, hpc] at hstep
      split_ifs at hstep
      obtain rfl := Option.some.inj hstep
      exact .inr ⟨by simp, rfl, rfl, False.elim⟩
  | execute => simp only [engineStep, hpc, reduceCtorEq] at hstep
  | send pc =>
      simp only [engineStep, hpc, Option.some.injEq] at hstep
      subst hstep
      refine .inr ⟨by simp, rfl, rfl, fun hafter => ?_⟩
      cases pc with
      | drain waited =>
          simp only [sendStep]
          split_ifs <;> trivial
      | wait _ _ | copy _ | mark _ | start _ => exact hafter.elim
  | advance =>
      simp only [engineStep, hpc, Option.some.injEq] at hstep
      subst hstep
      exact .inl ⟨rfl, rfl, rfl⟩
  | check | print =>
      simp only [engineStep, hpc, Option.some.injEq] at hstep
      subst hstep
      exact .inr ⟨by simp, rfl, rfl, False.elim⟩

/-- An action is one of the engine, or one that writes nothing and leaves the engine where
it is, but for a send that fails on a disabled endpoint. -/
theorem busStep_cases {speed : UsbSpeed} {s next : BusState} {action : BusAction}
    (hstep : busStep speed s action = some next) :
    (∃ act, action = .engine act ∧ dapStep speed s.engine act = some next.engine) ∨
      (acceptedOn s action = [] ∧ exchangedOn s action = [] ∧ writtenOn s action = [] ∧
        next.engine.queue = s.engine.queue ∧ next.engine.released = s.engine.released ∧
        (next.engine.pc = s.engine.pc ∨
          ∃ len, s.engine.pc = .send (.start len) ∧ next.engine.pc = .advance)) := by
  cases action with
  | engine act =>
      cases act with
      | out packet =>
          simp only [busStep] at hstep
          split_ifs at hstep
          obtain rfl := Option.some.inj hstep
          exact .inl ⟨_, rfl, rfl⟩
      | thread =>
          obtain ⟨engine, hengine, rfl⟩ := Option.map_eq_some_iff.mp hstep
          unfold threadOn at hengine
          split at hengine
          · rename_i len henabled hpc
            obtain rfl := Option.some.inj hengine
            refine .inr ⟨rfl, rfl, ?_, rfl, rfl, .inr ⟨len, hpc, rfl⟩⟩
            simp only [writtenOn, henabled]
          · exact .inl ⟨_, rfl, hengine⟩
      | execute resp result =>
          obtain ⟨engine, hengine, rfl⟩ := Option.map_eq_some_iff.mp hstep
          exact .inl ⟨_, rfl, hengine⟩
      | complete =>
          obtain ⟨engine, hengine, rfl⟩ := Option.map_eq_some_iff.mp hstep
          exact .inl ⟨_, rfl, hengine⟩
  | reset | disconnected | configured =>
      obtain rfl := Option.some.inj hstep
      exact .inr ⟨rfl, rfl, rfl, rfl, rfl, .inl rfl⟩

/-- A transfer is written by the thread, for the slot at the tail. -/
theorem of_mem_writtenOn {s : BusState} {action : BusAction} {number : ℕ}
    (hnumber : number ∈ writtenOn s action) :
    number = s.engine.released ∧ ∃ len, s.engine.pc = .send (.start len) := by
  unfold writtenOn at hnumber
  split at hnumber
  · split at hnumber
    · rename_i len henabled hpc
      exact ⟨List.mem_singleton.mp hnumber, len, hpc⟩
    · exact absurd hnumber List.not_mem_nil
  all_goals exact absurd hnumber List.not_mem_nil

/-! ## The invariant -/

/-- Across resets every accepted request is executed once, and the ring holds all but the
ones whose slots were released. -/
structure Tracks (accepted : List (List Byte)) (exchanged : List (List Byte × List Byte))
    (s : DapState) : Prop where
  delivers : Delivers accepted (exchanged.map Prod.fst) s
  numbered : ∃ finished, finished.length = s.released ∧
    finished ++ s.queue.ring.contents.map DapReqSlot.request = accepted

section Steps

variable {speed : UsbSpeed} {accepted : List (List Byte)} {exchanged : List (List Byte × List Byte)}
  {s next : DapState}

theorem tracks_init (cells : Fin dapReqSlots → DapReqSlot) (resp buf : Buf) :
    Tracks [] [] (busInit cells resp buf).engine where
  delivers := delivers_init cells resp buf
  numbered := by
    have hempty : (busInit cells resp buf).engine.queue.ring.contents = [] :=
      (Ring.empty_iff_contents _).mp rfl
    exact ⟨[], rfl, by rw [hempty]; rfl⟩

/-- One action of the engine. -/
theorem tracks_dapStep (tracks : Tracks accepted exchanged s) {action : DapAction}
    (hstep : dapStep speed s action = some next) :
    Tracks (accepted ++ acceptedOut s action) (exchanged ++ exchangedBy s action) next := by
  refine ⟨delivers_dapStep accepted exchanged s action next tracks.delivers hstep, ?_⟩
  obtain ⟨finished, hfinished, hnumbered⟩ := tracks.numbered
  cases action with
  | out packet =>
      obtain rfl := Option.some.inj hstep
      rw [acceptedOut, dapOutCb]
      split_ifs with hdata
      · exact ⟨finished, hfinished, by rw [hnumbered, List.append_nil]⟩
      · refine ⟨finished, hfinished, ?_⟩
        by_cases hfull : s.queue.ring.Full
        · have hrefused : ¬ (-1 : ℤ) = 0 := by decide
          rw [acceptedBy, dapEngineSubmit_of_full hfull, if_neg hrefused, List.append_nil]
          exact hnumbered
        · obtain ⟨slot, hrequest, hsubmit⟩ := dapEngineSubmit_of_room packet.bytes hfull
          simp only [acceptedBy, hsubmit, Ring.contents_push hfull, List.map_append,
            List.map_singleton, hrequest, if_true]
          rw [← List.append_assoc, hnumbered]
  | thread =>
      rw [acceptedOut, List.append_nil]
      rcases engineStep_cases hstep with ⟨hpc, hring, hreleased⟩ | ⟨-, hring, hreleased, -⟩
      · have hholds := tracks.delivers.holds (by rw [hpc]; trivial)
        rw [Ring.contents_pop hholds, List.map_cons] at hnumbered
        refine ⟨finished ++ [s.queue.ring.front.request], ?_, ?_⟩
        · rw [List.length_append, hfinished, hreleased, List.length_singleton]
        · rw [hring, List.append_assoc]
          exact hnumbered
      · exact ⟨finished, by rw [hfinished, hreleased], by rw [hring]; exact hnumbered⟩
  | execute resp result =>
      rw [acceptedOut, List.append_nil]
      cases hpc : s.pc with
      | execute =>
          simp only [dapStep, engineExecute_eq hpc, Option.some.injEq] at hstep
          subst hstep
          exact ⟨finished, hfinished, hnumbered⟩
      | take | check | send _ | advance | print =>
          simp only [dapStep, engineExecute, hpc, reduceCtorEq] at hstep
  | complete =>
      rw [acceptedOut, List.append_nil]
      obtain ⟨port, -, rfl⟩ := Option.map_eq_some_iff.mp hstep
      exact ⟨finished, hfinished, hnumbered⟩

/-- What the USB events keep. -/
theorem Tracks.of_kept (tracks : Tracks accepted exchanged s) (hqueue : next.queue = s.queue)
    (hreleased : next.released = s.released)
    (hpc : next.pc = s.pc ∨ ∃ len, s.pc = .send (.start len) ∧ next.pc = .advance) :
    Tracks accepted exchanged next := by
  obtain ⟨⟨hordered, hholds, hawake⟩, hnumbered⟩ := tracks
  refine ⟨?_, by rw [hqueue, hreleased]; exact hnumbered⟩
  rw [waiting] at hordered
  rcases hpc with hpc | ⟨len, hstart, hadvance⟩
  · refine ⟨?_, ?_, ?_⟩
    · rw [waiting, hpc, hqueue, hordered]
    · rw [hpc, hqueue]
      exact hholds
    · rw [hpc, hqueue]
      exact hawake
  · rw [hstart] at hordered hholds
    refine ⟨?_, ?_, ?_⟩
    · rw [waiting, hadvance, hqueue]
      exact hordered
    · intro _
      rw [hqueue]
      exact hholds trivial
    · intro htake
      rw [hadvance] at htake
      exact absurd htake (by simp)

end Steps

/-- One action, whoever takes it. -/
theorem tracks_step (accepted : List (List Byte)) (exchanged : List (List Byte × List Byte))
    (s : BusState) (action : BusAction) (next : BusState)
    (tracks : Tracks accepted exchanged s.engine) (hstep : busStep speed s action = some next) :
    Tracks (accepted ++ acceptedOn s action) (exchanged ++ exchangedOn s action) next.engine := by
  rcases busStep_cases hstep with
    ⟨act, rfl, hact⟩ | ⟨haccepted, hexchanged, -, hqueue, hreleased, hpc⟩
  · exact tracks_dapStep tracks hact
  · rw [haccepted, hexchanged, List.append_nil, List.append_nil]
    exact tracks.of_kept hqueue hreleased hpc

/-- Whole runs. -/
theorem tracks_run {cells : Fin dapReqSlots → DapReqSlot} {resp buf : Buf}
    {actions : List BusAction} {s : BusState}
    (hrun : runActions (busStep speed) (busInit cells resp buf) actions = some s) :
    Tracks (runLabels (busStep speed) acceptedOn (busInit cells resp buf) actions)
      (runLabels (busStep speed) exchangedOn (busInit cells resp buf) actions) s.engine :=
  runLabels_history (fun accepted exchanged s => Tracks accepted exchanged s.engine)
    tracks_step (tracks_init cells resp buf) hrun

/-- A response that is written is that of the request in its slot. -/
theorem Tracks.getElem?_written {accepted : List (List Byte)}
    {exchanged : List (List Byte × List Byte)} {s : BusState} {action : BusAction} {number : ℕ}
    (tracks : Tracks accepted exchanged s.engine) (hnumber : number ∈ writtenOn s action) :
    accepted[number]? = some s.engine.queue.ring.front.request := by
  obtain ⟨rfl, len, hpc⟩ := of_mem_writtenOn hnumber
  have hholds := tracks.delivers.holds (by rw [hpc]; trivial)
  obtain ⟨finished, hfinished, rfl⟩ := tracks.numbered
  rw [List.getElem?_append_right (Nat.le_of_eq hfinished), hfinished, Nat.sub_self,
    Ring.contents_pop hholds]
  rfl

theorem Tracks.length_accepted {accepted : List (List Byte)}
    {exchanged : List (List Byte × List Byte)} {s : DapState}
    (tracks : Tracks accepted exchanged s) :
    accepted.length = s.released + s.queue.ring.size := by
  obtain ⟨finished, hfinished, rfl⟩ := tracks.numbered
  rw [List.length_append, hfinished, List.length_map, Ring.length_contents]

/-! ## Nothing unwritten is left -/

theorem length_unwritten (s : DapState) :
    (unwritten s).length =
      if AfterStart s.pc then s.queue.ring.size - 1 else s.queue.ring.size := by
  rw [unwritten, List.length_map]
  split_ifs
  · rw [List.length_tail, Ring.length_contents]
  · rw [Ring.length_contents]

/-- The thread is past the responses of the first `base` requests. -/
def WrittenPast (base : ℕ) (s : DapState) : Prop :=
  base ≤ s.released ∨ base ≤ s.released + 1 ∧ AfterStart s.pc

/-- It stays past them. -/
theorem writtenPast_step {speed : UsbSpeed} {base : ℕ} {s next : BusState} {action : BusAction}
    (past : WrittenPast base s.engine) (hstep : busStep speed s action = some next) :
    WrittenPast base next.engine := by
  rcases busStep_cases hstep with ⟨act, rfl, hact⟩ | ⟨-, -, -, -, hreleased, hpc⟩
  · cases act with
    | out packet =>
        rw [← Option.some.inj hact, dapOutCb]
        split_ifs <;> exact past
    | thread =>
        rw [WrittenPast] at past ⊢
        rcases engineStep_cases hact with ⟨-, -, hreleased⟩ | ⟨-, -, hreleased, hafter⟩
        · omega
        · rw [hreleased]
          exact past.imp_right (And.imp_right hafter)
    | execute resp result =>
        cases hpc : s.engine.pc with
        | execute =>
            have hreleased : base ≤ s.engine.released := by
              refine past.resolve_right fun hpast => ?_
              rw [hpc] at hpast
              exact hpast.2
            simp only [dapStep, engineExecute_eq hpc, Option.some.injEq] at hact
            rw [← hact]
            exact .inl hreleased
        | take | check | send _ | advance | print =>
            simp only [dapStep, engineExecute, hpc, reduceCtorEq] at hact
    | complete =>
        obtain ⟨port, -, hport⟩ := Option.map_eq_some_iff.mp hact
        rw [← hport]
        exact past
  · rw [WrittenPast, hreleased]
    rcases hpc with hpc | ⟨len, -, hadvance⟩
    · rw [hpc]
      exact past
    · rw [hadvance]
      exact past.imp_right fun hpast => ⟨hpast.1, trivial⟩

/-- A response that is written then is none of theirs. -/
theorem le_of_written {base number : ℕ} {s : BusState} {action : BusAction}
    (past : WrittenPast base s.engine) (hnumber : number ∈ writtenOn s action) :
    base ≤ number := by
  obtain ⟨rfl, len, hpc⟩ := of_mem_writtenOn hnumber
  refine past.resolve_right fun hpast => ?_
  rw [hpc] at hpast
  exact hpast.2

theorem le_of_written_run {speed : UsbSpeed} {base number : ℕ} {s final : BusState}
    {actions : List BusAction}
    (past : WrittenPast base s.engine) (hrun : runActions (busStep speed) s actions = some final)
    (hnumber : number ∈ runLabels (busStep speed) writtenOn s actions) : base ≤ number := by
  induction actions generalizing s with
  | nil => simp [runLabels] at hnumber
  | cons action rest ih =>
      obtain ⟨next, hstep, hrest⟩ := runActions_cons_eq_some.mp hrun
      rw [runLabels_cons hstep, List.mem_append] at hnumber
      rcases hnumber with hnow | hlater
      · exact le_of_written past hnow
      · exact ih (writtenPast_step past hstep) hrest hlater

/-! ## Something unwritten is left -/

/-- Some run writes the response to one of the first `base` requests. -/
def WritesStale (speed : UsbSpeed) (base : ℕ) (s : BusState) : Prop :=
  ∃ actions final, runActions (busStep speed) s actions = some final ∧
    ∃ number ∈ runLabels (busStep speed) writtenOn s actions, number < base

theorem WritesStale.of_step {speed : UsbSpeed} {base : ℕ} {s next : BusState} {action : BusAction}
    (hstep : busStep speed s action = some next) (after : WritesStale speed base next) :
    WritesStale speed base s := by
  obtain ⟨actions, final, hrun, number, hnumber, hstale⟩ := after
  refine ⟨action :: actions, final, runActions_cons_eq_some.mpr ⟨next, hstep, hrun⟩, number, ?_,
    hstale⟩
  rw [runLabels_cons hstep]
  exact List.mem_append_right _ hnumber

section WritesStale

variable {speed : UsbSpeed} {base : ℕ} {s next : DapState}

theorem WritesStale.of_thread (hstep : engineStep s = some next)
    (after : WritesStale speed base ⟨next, true⟩) : WritesStale speed base ⟨s, true⟩ := by
  refine WritesStale.of_step
    (show busStep speed ⟨s, true⟩ (.engine .thread) = some ⟨next, true⟩ from ?_) after
  change (engineStep s).map _ = _
  rw [hstep]
  rfl

theorem WritesStale.of_start {len : ℕ} (hpc : s.pc = .send (.start len))
    (hreleased : s.released < base) : WritesStale speed base ⟨s, true⟩ := by
  have hwritten : writtenOn ⟨s, true⟩ (.engine .thread) = [s.released] := by
    simp only [writtenOn, hpc]
  have hstep : ∃ next, busStep speed ⟨s, true⟩ (.engine .thread) = some next := by
    change ∃ next, (engineStep s).map _ = some next
    rw [engineStep, hpc]
    exact ⟨_, rfl⟩
  obtain ⟨next, hstep⟩ := hstep
  refine ⟨[.engine .thread], next, ?_, s.released, ?_, hreleased⟩
  · rw [runActions_cons, hstep]
    rfl
  · rw [runLabels_cons hstep, hwritten]
    exact List.mem_append_left _ (List.mem_singleton_self _)

theorem WritesStale.of_mark {len : ℕ} (hpc : s.pc = .send (.mark len))
    (hreleased : s.released < base) : WritesStale speed base ⟨s, true⟩ := by
  refine WritesStale.of_thread (by rw [engineStep, hpc]) ?_
  exact WritesStale.of_start rfl hreleased

theorem WritesStale.of_copy {data : List Byte} (hpc : s.pc = .send (.copy data))
    (hreleased : s.released < base) : WritesStale speed base ⟨s, true⟩ := by
  refine WritesStale.of_thread (by rw [engineStep, hpc]) ?_
  exact WritesStale.of_mark rfl hreleased

/-- The hook cleared the flag that a send waits for. -/
theorem WritesStale.of_wait {data : List Byte} {waited : ℕ} (hpc : s.pc = .send (.wait data waited))
    (hfree : s.port.busy = false) (hreleased : s.released < base) :
    WritesStale speed base ⟨s, true⟩ := by
  refine WritesStale.of_thread (by rw [engineStep, hpc]) ?_
  apply @WritesStale.of_copy _ _ _ data
  · simp [sendStep, hfree, sendNext]
  · exact hreleased

/-- A request that is executed may be answered with one byte. -/
theorem WritesStale.of_execute (hpc : s.pc = .execute) (hfree : s.port.busy = false)
    (hreleased : s.released < base) : WritesStale speed base ⟨s, true⟩ := by
  have hsent : sendEntry dapInPort (responseOf (Buf.ofList [0#8]) 1#32) =
      .inr (.wait [0#8] 0) := rfl
  have hstep := @engineExecute_eq s (Buf.ofList [0#8]) 1#32 hpc
  rw [hsent] at hstep
  have hbus : busStep speed ⟨s, true⟩ (.engine (.execute (Buf.ofList [0#8]) 1#32)) =
      some ⟨{ s with resp := Buf.ofList [0#8], pc := .send (.wait [0#8] 0) }, true⟩ := by
    change (engineExecute _ _ s).map _ = _
    rw [hstep]
    rfl
  exact WritesStale.of_step hbus (WritesStale.of_wait rfl hfree hreleased)

theorem WritesStale.of_check (hpc : s.pc = .check) (hsome : ¬ s.queue.ring.Empty)
    (hfree : s.port.busy = false) (hreleased : s.released < base) :
    WritesStale speed base ⟨s, true⟩ := by
  refine WritesStale.of_thread (by rw [engineStep, hpc]) ?_
  exact WritesStale.of_execute (if_neg hsome) hfree hreleased

theorem WritesStale.of_advance (hpc : s.pc = .advance) (hsome : ¬ s.queue.ring.pop.Empty)
    (hfree : s.port.busy = false) (hreleased : s.released + 1 < base) :
    WritesStale speed base ⟨s, true⟩ := by
  refine WritesStale.of_thread (by rw [engineStep, hpc]) ?_
  refine WritesStale.of_thread (by rw [engineStep]) ?_
  exact WritesStale.of_check rfl hsome hfree hreleased

/-- From wherever the thread stands. -/
theorem writesStale_of_unwritten {accepted : List (List Byte)}
    {exchanged : List (List Byte × List Byte)} (tracks : Tracks accepted exchanged s)
    (hfree : s.port.busy = false) (hleft : unwritten s ≠ []) :
    WritesStale speed accepted.length ⟨s, true⟩ := by
  have hlength := tracks.length_accepted
  have hleft := List.length_pos_iff.mpr hleft
  rw [length_unwritten] at hleft
  have hadvance : ∀ t : DapState, t.pc = .advance → t.queue = s.queue → t.port.busy = false →
      t.released = s.released → 0 < s.queue.ring.size - 1 →
        WritesStale speed accepted.length ⟨t, true⟩ := by
    intro t hpc hqueue hbusy hreleased hmore
    have hsome : ¬ t.queue.ring.Empty := by
      rw [hqueue, Ring.empty_iff_size]
      omega
    have hpop := Ring.size_pop hsome
    refine WritesStale.of_advance hpc ?_ hbusy (by omega)
    rw [Ring.empty_iff_size]
    rw [hqueue] at hpop ⊢
    omega
  cases hpc : s.pc with
  | take =>
      rw [hpc, if_neg (show ¬ AfterStart .take from id)] at hleft
      have hsome : ¬ s.queue.ring.Empty := by
        rw [Ring.empty_iff_size]
        omega
      have hawake := tracks.delivers.awake hpc hsome
      refine WritesStale.of_thread
        (by rw [engineStep, hpc]; exact if_neg (Nat.ne_of_gt hawake)) ?_
      exact WritesStale.of_check rfl hsome hfree (show s.released < _ by omega)
  | check =>
      rw [hpc, if_neg (show ¬ AfterStart .check from id)] at hleft
      exact WritesStale.of_check hpc (by rw [Ring.empty_iff_size]; omega) hfree (by omega)
  | execute =>
      rw [hpc, if_neg (show ¬ AfterStart .execute from id)] at hleft
      exact WritesStale.of_execute hpc hfree (by omega)
  | send pc =>
      rw [hpc] at hleft
      cases pc with
      | wait data waited =>
          rw [if_neg (show ¬ AfterStart (.send (.wait data waited)) from id)] at hleft
          exact WritesStale.of_wait hpc hfree (by omega)
      | copy data =>
          rw [if_neg (show ¬ AfterStart (.send (.copy data)) from id)] at hleft
          exact WritesStale.of_copy hpc (by omega)
      | mark len =>
          rw [if_neg (show ¬ AfterStart (.send (.mark len)) from id)] at hleft
          exact WritesStale.of_mark hpc (by omega)
      | start len =>
          rw [if_neg (show ¬ AfterStart (.send (.start len)) from id)] at hleft
          exact WritesStale.of_start hpc (by omega)
      | drain waited =>
          rw [if_pos (show AfterStart (.send (.drain waited)) from trivial)] at hleft
          refine WritesStale.of_thread (by rw [engineStep, hpc]) ?_
          apply hadvance
          · simp [sendStep, hfree, sendNext]
          · rfl
          · exact hfree
          · rfl
          · exact hleft
  | advance =>
      rw [hpc, if_pos (show AfterStart .advance from trivial)] at hleft
      exact hadvance s hpc rfl hfree rfl hleft
  | print =>
      rw [hpc, if_neg (show ¬ AfterStart .print from id)] at hleft
      refine WritesStale.of_thread (by rw [engineStep, hpc]) ?_
      exact WritesStale.of_check rfl (by rw [Ring.empty_iff_size]; exact Nat.ne_of_gt hleft) hfree
        (show s.released < _ by omega)

end WritesStale

/-! ## Sessions -/

/-- A response that is written answers the request of its number. What is written after a
CONFIGURED event answers requests that came after it, whatever the engine and the host do,
exactly if no response was left to write when the event came. -/
theorem dapEngine_session_iff (speed : UsbSpeed) (cells : Fin dapReqSlots → DapReqSlot)
    (resp buf : Buf) (before : List BusAction) (middle : BusState)
    (hbefore : runActions (busStep speed) (busInit cells resp buf) before = some middle) :
    let accepted := runLabels (busStep speed) acceptedOn (busInit cells resp buf) before
    (∀ action, ∀ number ∈ writtenOn middle action,
        accepted[number]? = some middle.engine.queue.ring.front.request) ∧
      ((∀ after final, runActions (busStep speed) middle (.configured :: after) = some final →
          ∀ number ∈ runLabels (busStep speed) writtenOn middle (.configured :: after),
            accepted.length ≤ number) ↔
        unwritten middle.engine = []) := by
  intro accepted
  have tracks := tracks_run hbefore
  have hlength : accepted.length = middle.engine.released + middle.engine.queue.ring.size :=
    tracks.length_accepted
  refine ⟨fun action number hnumber => tracks.getElem?_written hnumber, ?_, ?_⟩
  · intro hfresh
    by_contra hleft
    have hconfigured := @tracks_step speed _ _ middle .configured _ tracks rfl
    rw [acceptedOn, exchangedOn, List.append_nil, List.append_nil] at hconfigured
    obtain ⟨after, final, hrun, number, hnumber, hstale⟩ :=
      writesStale_of_unwritten hconfigured rfl hleft
    have hcome := hfresh after final hrun number hnumber
    exact absurd hstale (Nat.not_lt.mpr hcome)
  · intro hleft after final hrun number hnumber
    refine le_of_written_run ?_ hrun hnumber
    have hnone := congrArg List.length hleft
    rw [length_unwritten, List.length_nil] at hnone
    rw [WrittenPast]
    split_ifs at hnone with hafter
    · exact .inr ⟨by omega, hafter⟩
    · exact .inl (by omega)

/-- An engine whose memory is all zero, at a bus without a session. -/
def zeroBus : BusState := busInit (fun _ => ⟨0, fun _ => 0⟩) (fun _ => 0) fun _ => 0

/-- A session whose only request is answered, and a reset. -/
def answeredSession : List BusAction :=
  let answered : List DapAction :=
    requestAnswered 1#8 ++ [.thread, .thread, .thread, .thread, .complete, .thread, .thread]
  .configured :: answered.map .engine ++ [.reset]

theorem dapEngine_session_iff_answered :
    ∃ middle, runActions (busStep .high) zeroBus answeredSession = some middle ∧
      ∀ after final, runActions (busStep .high) middle (.configured :: after) = some final →
        ∀ number ∈ runLabels (busStep .high) writtenOn middle (.configured :: after), 1 ≤ number := by
  have hleft : (runActions (busStep .high) zeroBus answeredSession).map
      (fun middle => unwritten middle.engine) = some [] := by decide +kernel
  have haccepted :
      runLabels (busStep .high) acceptedOn zeroBus answeredSession = [[0x00#8, 0xFF#8]] := by
    decide +kernel
  obtain ⟨middle, hmiddle, hnone⟩ := Option.map_eq_some_iff.mp hleft
  have hfresh := (dapEngine_session_iff .high _ _ _ answeredSession middle hmiddle).2.mpr hnone
  rw [← zeroBus, haccepted] at hfresh
  exact ⟨middle, hmiddle, hfresh⟩

/-- The reset comes while a request is executed, and its response is written in the next
session. -/
theorem dapEngine_writes_stale :
    ¬ ∀ (cells : Fin dapReqSlots → DapReqSlot) (resp buf : Buf)
        (before between after : List BusAction) (middle final : BusState),
      runActions (busStep .high) (busInit cells resp buf) (before ++ .reset :: between) = some middle →
      runActions (busStep .high) middle (.configured :: after) = some final →
      ∀ number ∈ runLabels (busStep .high) writtenOn middle (.configured :: after),
        (runLabels (busStep .high) acceptedOn (busInit cells resp buf)
          (before ++ .reset :: between)).length ≤ number := by
  intro hclaim
  let before : List BusAction :=
    [.configured, .engine infoRequest, .engine .thread, .engine .thread]
  let after : List BusAction :=
    .engine (executedWith 1#8) :: List.replicate 4 (.engine .thread)
  have hwritten : (runActions (busStep .high) zeroBus (before ++ [.reset])).map (fun middle =>
      runLabels (busStep .high) writtenOn middle (.configured :: after)) = some [0] := by
    decide +kernel
  obtain ⟨middle, hmiddle, hnumber⟩ := Option.map_eq_some_iff.mp hwritten
  have hwhole :
      (runActions (busStep .high) zeroBus (before ++ [.reset] ++ .configured :: after)).isSome := by
    decide +kernel
  rw [runActions_append, hmiddle, Option.bind_some] at hwhole
  obtain ⟨final, hfinal⟩ := Option.isSome_iff_exists.mp hwhole
  have hfresh := hclaim _ _ _ before [] after middle final hmiddle hfinal 0
    (by rw [hnumber]; exact List.mem_singleton_self 0)
  exact absurd hfresh (by decide +kernel)

end ExLink.Dap
