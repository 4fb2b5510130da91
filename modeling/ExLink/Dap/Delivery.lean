/-
# Every accepted request is executed once

Requests are submitted at any point of the engine thread, which keeps using the slot at
the tail while it executes and sends. What was accepted is what was executed, in order,
and what still waits in the ring; and what waits is executed by the thread alone.
-/

import ExLink.Dap.Window

namespace ExLink.Dap

open ExLink.Automata ExLink.Usb

/-! ## Submissions at any point of the thread -/

/-- A call of `dap_engine_submit` with any data, one access of the thread, the end of
`DAP_ExecuteCommand` with what it stored and returned, or a completed IN transfer. -/
inductive SubmitAction where
  | submit (data : List Byte)
  | thread
  | execute (resp : Buf) (result : Word32)
  | complete

/-- One action. -/
def submitStep (speed : UsbSpeed) (s : DapState) : SubmitAction → Option DapState
  | .submit data => some { s with queue := (dapEngineSubmit data s.queue).2 }
  | .thread => engineStep s
  | .execute resp result => engineExecute resp result s
  | .complete => dapStep speed s .complete

/-- The request in a slot, `buf[0..len)`. -/
def DapReqSlot.request (slot : DapReqSlot) : List Byte := slot.buf.prefixBytes slot.len

/-- The submissions that return 0, cut to the packet size. -/
def acceptedBy (s : DapState) : SubmitAction → List (List Byte)
  | .submit data =>
      if (dapEngineSubmit data s.queue).1 = 0 then [data.take dapPacketSize] else []
  | .thread | .execute _ _ | .complete => []

/-- The requests passed to `DAP_ExecuteCommand`, as their slot holds them when the call
ends. -/
def executedBy (s : DapState) : SubmitAction → List (List Byte)
  | .execute _ _ => [s.queue.ring.front.request]
  | .submit _ | .thread | .complete => []

/-- The thread is past the execution of the request at the tail. -/
def PastExecution : EnginePc → Prop
  | .send _ | .advance => True
  | .take | .check | .execute | .print => False

instance (pc : EnginePc) : Decidable (PastExecution pc) := by
  cases pc <;> unfold PastExecution <;> infer_instance

/-- The accepted requests that were not executed yet. -/
def waiting (s : DapState) : List (List Byte) :=
  (if PastExecution s.pc then s.queue.ring.contents.tail else s.queue.ring.contents).map
    DapReqSlot.request

/-! ## The invariant -/

/-- Everything accepted was executed or waits, in order; a slot in use is in the ring;
and a thread that waits for the semaphore with something in the ring will be woken. -/
structure Delivers (accepted executed : List (List Byte)) (s : DapState) : Prop where
  ordered : executed ++ waiting s = accepted
  holds : HoldsSlot s.pc → ¬ s.queue.ring.Empty
  awake : s.pc = .take → ¬ s.queue.ring.Empty → 0 < s.queue.sem

theorem delivers_init (cells : Fin dapReqSlots → DapReqSlot) (resp buf : Buf) :
    Delivers [] [] (dapInit cells resp buf) where
  ordered := by
    have hempty : (dapInit cells resp buf).queue.ring.contents = [] :=
      (Ring.empty_iff_contents _).mp rfl
    have hpast : ¬ PastExecution (dapInit cells resp buf).pc := id
    rw [waiting, if_neg hpast, hempty]
    rfl
  holds := False.elim
  awake := fun _ hsome => absurd rfl hsome

/-- The slot that a submission fills holds its data up to the packet size. -/
theorem request_submitted (slot : DapReqSlot) (data : List Byte) :
    DapReqSlot.request ⟨data.length, slot.buf.write data⟩ = data :=
  Buf.prefixBytes_write slot.buf data

/-- The truncation. -/
theorem truncated_eq_take (data : List Byte) :
    (if dapPacketSize < data.length then data.take dapPacketSize else data) =
      data.take dapPacketSize := by
  split_ifs with hlong
  · rfl
  · rw [List.take_of_length_le (Nat.not_lt.mp hlong)]

theorem dapEngineSubmit_of_full {data : List Byte} {queue : DapQueue} (hfull : queue.ring.Full) :
    dapEngineSubmit data queue = (-1, { queue with dropped := queue.dropped + 1 }) := by
  rw [dapEngineSubmit, if_pos hfull]

/-- A submission that finds room fills the slot at the head and no other. -/
theorem dapEngineSubmit_of_room (data : List Byte) {queue : DapQueue}
    (room : ¬ queue.ring.Full) :
    ∃ slot : DapReqSlot, slot.request = data.take dapPacketSize ∧
      dapEngineSubmit data queue =
        (0, { queue with ring := queue.ring.push slot, sem := rtSemRelease queue.sem }) := by
  rw [dapEngineSubmit, if_neg room, truncated_eq_take]
  exact ⟨_, request_submitted _ _, rfl⟩

theorem rtSemRelease_pos (value : ℕ) : 0 < rtSemRelease value := by
  rw [rtSemRelease]
  split_ifs with hmax
  · exact Nat.succ_pos value
  · exact lt_of_lt_of_le (by decide) (Nat.not_lt.mp hmax)

section Steps

variable {speed : UsbSpeed} {accepted executed : List (List Byte)} {s next : DapState}

/-- A submission, wherever the thread stands. -/
theorem delivers_submit (inv : Delivers accepted executed s) (data : List Byte) :
    Delivers (accepted ++ acceptedBy s (.submit data)) executed
      { s with queue := (dapEngineSubmit data s.queue).2 } := by
  by_cases hfull : s.queue.ring.Full
  · have hrefused : ¬ (-1 : ℤ) = 0 := by decide
    rw [acceptedBy, dapEngineSubmit_of_full hfull, if_neg hrefused, List.append_nil]
    exact ⟨inv.ordered, inv.holds, inv.awake⟩
  · obtain ⟨slot, hrequest, hsubmit⟩ := dapEngineSubmit_of_room data hfull
    rw [acceptedBy, hsubmit, if_pos rfl]
    have hcontents : (s.queue.ring.push slot).contents = s.queue.ring.contents ++ [slot] :=
      Ring.contents_push hfull
    have hsome : ¬ (s.queue.ring.push slot).Empty := by
      rw [Ring.empty_iff_contents, hcontents]
      exact List.append_ne_nil_of_right_ne_nil _ (List.cons_ne_nil _ _)
    refine ⟨?_, fun _ => hsome, fun _ _ => rtSemRelease_pos _⟩
    have hordered := inv.ordered
    rw [waiting] at hordered ⊢
    simp only [hcontents]
    by_cases hpast : PastExecution s.pc
    · have hheld : s.queue.ring.contents ≠ [] := by
        apply mt (Ring.empty_iff_contents _).mpr
        apply inv.holds
        cases hpc : s.pc <;> simp only [hpc, PastExecution, HoldsSlot] at hpast ⊢
      rw [if_pos hpast] at hordered ⊢
      rw [List.tail_append_of_ne_nil hheld, List.map_append, ← List.append_assoc, hordered,
        List.map_singleton, hrequest]
    · rw [if_neg hpast] at hordered ⊢
      rw [List.map_append, ← List.append_assoc, hordered, List.map_singleton, hrequest]

/-- One access of the thread executes nothing. -/
theorem delivers_thread (inv : Delivers accepted executed s) (hstep : engineStep s = some next) :
    Delivers accepted executed next := by
  have hordered := inv.ordered
  rw [waiting] at hordered
  cases hpc : s.pc with
  | take =>
      rw [hpc] at hordered
      simp only [engineStep, hpc] at hstep
      split_ifs at hstep
      obtain rfl := Option.some.inj hstep
      exact ⟨hordered, False.elim, fun h => absurd h (by simp)⟩
  | check =>
      rw [hpc] at hordered
      simp only [engineStep, hpc, Option.some.injEq] at hstep
      subst hstep
      by_cases hempty : s.queue.ring.Empty
      · simp only [if_pos hempty]
        exact ⟨hordered, False.elim, fun _ hsome => absurd hempty hsome⟩
      · simp only [if_neg hempty]
        exact ⟨hordered, fun _ => hempty, fun h => absurd h (by simp)⟩
  | execute => simp only [engineStep, hpc, reduceCtorEq] at hstep
  | send pc =>
      have hholds := inv.holds (by rw [hpc]; trivial)
      rw [hpc, if_pos (show PastExecution (.send pc) from trivial)] at hordered
      simp only [engineStep, hpc, Option.some.injEq] at hstep
      subst hstep
      have hpast : ∀ result, PastExecution (sendNext result) ∧ sendNext result ≠ .take := by
        intro result
        cases result <;> exact ⟨trivial, by simp [sendNext]⟩
      exact ⟨by rw [waiting, if_pos (hpast _).1]; exact hordered, fun _ => hholds,
        fun h => absurd h (hpast _).2⟩
  | advance =>
      have hholds := inv.holds (by rw [hpc]; trivial)
      rw [hpc, if_pos (show PastExecution .advance from trivial), Ring.contents_pop hholds,
        List.tail_cons] at hordered
      simp only [engineStep, hpc, Option.some.injEq] at hstep
      subst hstep
      exact ⟨hordered, False.elim, fun h => absurd h (by simp)⟩
  | print =>
      rw [hpc] at hordered
      simp only [engineStep, hpc, Option.some.injEq] at hstep
      subst hstep
      exact ⟨hordered, False.elim, fun h => absurd h (by simp)⟩

/-- An execution takes the request that waits longest. -/
theorem delivers_execute {resp : Buf} {result : Word32} (inv : Delivers accepted executed s)
    (hstep : engineExecute resp result s = some next) :
    Delivers accepted (executed ++ executedBy s (.execute resp result)) next := by
  cases hpc : s.pc with
  | execute =>
      have hholds := inv.holds (by rw [hpc]; trivial)
      have hordered := inv.ordered
      rw [waiting, hpc, if_neg (show ¬ PastExecution .execute from id),
        Ring.contents_pop hholds] at hordered
      simp only [engineExecute, hpc, Option.some.injEq] at hstep
      subst hstep
      have hpast : ∀ respLen data, PastExecution (if respLen = 0 then EnginePc.advance
          else sendNext (sendEntry dapInPort data)) ∧
          (if respLen = 0 then EnginePc.advance
            else sendNext (sendEntry dapInPort data)) ≠ .take := by
        intro respLen data
        split_ifs
        · exact ⟨trivial, by simp⟩
        · cases sendEntry dapInPort data <;> exact ⟨trivial, by simp [sendNext]⟩
      refine ⟨?_, fun _ => hholds, fun h => absurd h (hpast _ _).2⟩
      rw [waiting, if_pos (hpast _ _).1, executedBy, Ring.contents_pop hholds, List.tail_cons,
        List.append_assoc]
      exact hordered
  | take | check | send _ | advance | print =>
      simp only [engineExecute, hpc, reduceCtorEq] at hstep

/-- One action, whoever takes it. -/
theorem delivers_step (accepted executed : List (List Byte)) (s : DapState)
    (action : SubmitAction) (next : DapState) (inv : Delivers accepted executed s)
    (hstep : submitStep speed s action = some next) :
    Delivers (accepted ++ acceptedBy s action) (executed ++ executedBy s action) next := by
  cases action with
  | submit data =>
      obtain rfl := Option.some.inj hstep
      simpa only [executedBy, List.append_nil] using delivers_submit inv data
  | thread =>
      simpa only [acceptedBy, executedBy, List.append_nil] using delivers_thread inv hstep
  | execute resp result =>
      simpa only [acceptedBy, List.append_nil] using delivers_execute inv hstep
  | complete =>
      obtain ⟨port, -, rfl⟩ := Option.map_eq_some_iff.mp hstep
      simpa only [acceptedBy, executedBy, List.append_nil] using
        (⟨inv.ordered, inv.holds, inv.awake⟩ : Delivers accepted executed { s with
          port := port, answered := s.answered + pendingData s.port })

/-- The slot under execution is not the one that a submission fills. -/
theorem Delivers.tail_kept (inv : Delivers accepted executed s) (holds : HoldsSlot s.pc)
    (data : List Byte) :
    (dapEngineSubmit data s.queue).2.ring.tail = s.queue.ring.tail ∧
      (dapEngineSubmit data s.queue).2.ring.cells s.queue.ring.tail =
        s.queue.ring.cells s.queue.ring.tail ∧
      s.queue.ring.head ≠ s.queue.ring.tail := by
  have hhead : s.queue.ring.head ≠ s.queue.ring.tail := fun h => inv.holds holds h.symm
  by_cases hfull : s.queue.ring.Full
  · rw [dapEngineSubmit_of_full hfull]
    exact ⟨rfl, rfl, hhead⟩
  · obtain ⟨slot, -, hsubmit⟩ := dapEngineSubmit_of_room data hfull
    rw [hsubmit]
    exact ⟨rfl, Function.update_of_ne hhead.symm _ _, hhead⟩

end Steps

/-! ## The thread catches up -/

/-- The thread's own next action, with given answers of `DAP_ExecuteCommand`. -/
def ownAction (answer : List Byte → Buf × Word32) (s : DapState) : SubmitAction :=
  match s.pc with
  | .execute =>
      .execute (answer s.queue.ring.front.request).1 (answer s.queue.ring.front.request).2
  | _ => .thread

/-- Its next actions, as long as none of them blocks. -/
def ownActions (speed : UsbSpeed) (answer : List Byte → Buf × Word32) :
    ℕ → DapState → List SubmitAction
  | 0, _ => []
  | count + 1, s =>
      ownAction answer s ::
        (submitStep speed s (ownAction answer s)).elim [] (ownActions speed answer count)

/-- The thread alone executes everything that waits. -/
def CatchesUp (speed : UsbSpeed) (answer : List Byte → Buf × Word32) (s : DapState) : Prop :=
  ∃ count final, runActions (submitStep speed) s (ownActions speed answer count s) = some final ∧
    waiting final = []

section CatchesUp

variable {speed : UsbSpeed} {answer : List Byte → Buf × Word32} {s next : DapState}

theorem CatchesUp.of_thread (hpc : s.pc ≠ .execute) (hstep : engineStep s = some next)
    (after : CatchesUp speed answer next) : CatchesUp speed answer s := by
  obtain ⟨count, final, hrun, hwaiting⟩ := after
  have hown : ownAction answer s = .thread := by
    rw [ownAction]
    split
    · exact absurd ‹_› hpc
    · rfl
  have htaken : submitStep speed s (ownAction answer s) = some next := by
    rw [hown]
    exact hstep
  refine ⟨count + 1, final, ?_, hwaiting⟩
  rw [ownActions, htaken]
  exact runActions_cons_eq_some.mpr ⟨next, htaken, hrun⟩

theorem CatchesUp.of_executed (hpc : s.pc = .execute)
    (hstep : engineExecute (answer s.queue.ring.front.request).1
      (answer s.queue.ring.front.request).2 s = some next)
    (after : CatchesUp speed answer next) : CatchesUp speed answer s := by
  obtain ⟨count, final, hrun, hwaiting⟩ := after
  have htaken : submitStep speed s (ownAction answer s) = some next := by
    rw [ownAction, hpc]
    exact hstep
  refine ⟨count + 1, final, ?_, hwaiting⟩
  rw [ownActions, htaken]
  exact runActions_cons_eq_some.mpr ⟨next, htaken, hrun⟩

/-- A wait for the host ends at its time-out, if not before. -/
theorem CatchesUp.of_drain {waited : ℕ} (hpc : s.pc = .send (.drain waited))
    (after : ∀ t : DapState, t.pc = .advance → t.queue = s.queue → CatchesUp speed answer t) :
    CatchesUp speed answer s := by
  induction hleft : dapInPort.timeoutMs - waited generalizing s waited with
  | zero =>
      refine CatchesUp.of_thread (by simp [hpc]) (by rw [engineStep, hpc]) ?_
      apply after
      · simp only [sendStep]
        have htimeout : dapInPort.timeoutMs ≤ waited := Nat.sub_eq_zero_iff_le.mp hleft
        split_ifs <;> rfl
      · rfl
  | succ left ih =>
      have hgoesOn : ¬ dapInPort.timeoutMs ≤ waited := by omega
      refine CatchesUp.of_thread (by simp [hpc]) (by rw [engineStep, hpc]) ?_
      by_cases hbusy : s.port.busy
      · refine @ih _ (waited + 1) ?_ ?_ (by omega)
        · simp only [sendStep, if_pos hbusy, if_neg hgoesOn, sendNext]
        · exact fun t ht hqueue => after t ht hqueue
      · apply after
        · simp only [sendStep, if_neg hbusy, sendNext]
        · rfl

/-- A response that is ready to be copied is sent or given up. -/
theorem CatchesUp.of_copy {data : List Byte} (hpc : s.pc = .send (.copy data))
    (after : ∀ t : DapState, t.pc = .advance → t.queue = s.queue → CatchesUp speed answer t) :
    CatchesUp speed answer s := by
  refine CatchesUp.of_thread (by simp [hpc]) (by rw [engineStep, hpc]) ?_
  refine CatchesUp.of_thread (by simp [sendStep, sendNext]) (by rw [engineStep]; rfl) ?_
  refine CatchesUp.of_thread (by simp [sendNext]) (by rw [engineStep]; rfl) ?_
  exact CatchesUp.of_drain rfl after

/-- A response that waits for the port is copied once the port is free, or given up. -/
theorem CatchesUp.of_wait {data : List Byte} {waited : ℕ} (hpc : s.pc = .send (.wait data waited))
    (after : ∀ t : DapState, t.pc = .advance → t.queue = s.queue → CatchesUp speed answer t) :
    CatchesUp speed answer s := by
  induction hleft : dapInPort.timeoutMs - waited generalizing s waited with
  | zero =>
      have htimeout : dapInPort.timeoutMs ≤ waited := Nat.sub_eq_zero_iff_le.mp hleft
      refine CatchesUp.of_thread (by simp [hpc]) (by rw [engineStep, hpc]) ?_
      by_cases hbusy : s.port.busy
      · apply after
        · simp only [sendStep, if_pos hbusy, if_pos htimeout, sendNext]
        · rfl
      · refine @CatchesUp.of_copy _ _ _ data ?_ fun t ht hqueue => after t ht hqueue
        simp only [sendStep, if_neg hbusy, sendNext]
  | succ left ih =>
      have hgoesOn : ¬ dapInPort.timeoutMs ≤ waited := by omega
      refine CatchesUp.of_thread (by simp [hpc]) (by rw [engineStep, hpc]) ?_
      by_cases hbusy : s.port.busy
      · refine @ih _ (waited + 1) ?_ ?_ (by omega)
        · simp only [sendStep, if_pos hbusy, if_neg hgoesOn, sendNext]
        · exact fun t ht hqueue => after t ht hqueue
      · refine @CatchesUp.of_copy _ _ _ data ?_ fun t ht hqueue => after t ht hqueue
        simp only [sendStep, if_neg hbusy, sendNext]

/-- A send ends with the queue as it is. -/
theorem CatchesUp.of_send {pc : SendPc} (hpc : s.pc = .send pc)
    (after : ∀ t : DapState, t.pc = .advance → t.queue = s.queue → CatchesUp speed answer t) :
    CatchesUp speed answer s := by
  cases pc with
  | wait data waited => exact CatchesUp.of_wait hpc after
  | copy data => exact CatchesUp.of_copy hpc after
  | mark len =>
      refine CatchesUp.of_thread (by simp [hpc]) (by rw [engineStep, hpc]) ?_
      refine CatchesUp.of_thread (by simp [sendStep, sendNext]) (by rw [engineStep]; rfl) ?_
      exact CatchesUp.of_drain rfl after
  | start len =>
      refine CatchesUp.of_thread (by simp [hpc]) (by rw [engineStep, hpc]) ?_
      exact CatchesUp.of_drain rfl after
  | drain waited => exact CatchesUp.of_drain hpc after

/-- A released slot leaves the rest of the ring. -/
theorem CatchesUp.of_advance (hpc : s.pc = .advance)
    (after : ∀ t : DapState, t.pc = .check → t.queue.ring = s.queue.ring.pop →
      CatchesUp speed answer t) : CatchesUp speed answer s := by
  refine CatchesUp.of_thread (by simp [hpc]) (by rw [engineStep, hpc]) ?_
  refine CatchesUp.of_thread (by simp) (by rw [engineStep]) ?_
  exact after _ rfl rfl

/-- An execution is followed by its send, if there is something to send. -/
theorem CatchesUp.of_execute (hpc : s.pc = .execute)
    (after : ∀ t : DapState, t.pc = .check → t.queue.ring = s.queue.ring.pop →
      CatchesUp speed answer t) : CatchesUp speed answer s := by
  have hsent : ∀ t : DapState, t.pc = .advance → t.queue = s.queue → CatchesUp speed answer t := by
    intro t hadvance hqueue
    refine CatchesUp.of_advance hadvance fun u hcheck hring => after u hcheck ?_
    rw [hring, hqueue]
  refine CatchesUp.of_executed hpc (by rw [engineExecute, hpc]) ?_
  set given := answer s.queue.ring.front.request
  by_cases hempty : (given.2 &&& 0xFFFF#32).toNat = 0
  · exact hsent _ (if_pos hempty) rfl
  · cases hentry : sendEntry dapInPort (given.1.prefixBytes (given.2 &&& 0xFFFF#32).toNat) with
    | inl ret => exact hsent _ (by simp only [if_neg hempty, sendNext]) rfl
    | inr pc =>
        exact @CatchesUp.of_send _ _ _ pc (by simp only [if_neg hempty, sendNext]) hsent

/-- From the loop condition, by the number of requests in the ring. -/
theorem catchesUp_of_check {count : ℕ} :
    ∀ {s : DapState}, s.pc = .check → s.queue.ring.size = count → CatchesUp speed answer s := by
  induction count with
  | zero =>
      intro s hpc hsize
      have hempty := (Ring.empty_iff_size _).mpr hsize
      refine ⟨0, s, rfl, ?_⟩
      rw [waiting, hpc, if_neg (show ¬ PastExecution .check from id),
        (Ring.empty_iff_contents _).mp hempty]
      rfl
  | succ count ih =>
      intro s hpc hsize
      have hsome : ¬ s.queue.ring.Empty := by
        rw [Ring.empty_iff_size, hsize]
        exact Nat.succ_ne_zero count
      have hpop : s.queue.ring.pop.size = count := by
        have := Ring.size_pop hsome
        omega
      refine CatchesUp.of_thread (by simp [hpc]) (by rw [engineStep, hpc]) ?_
      rw [if_neg hsome]
      exact CatchesUp.of_execute rfl fun t hcheck hring => ih hcheck (by rw [hring, hpop])

/-- From wherever the thread stands. -/
theorem catchesUp_of_delivers {accepted executed : List (List Byte)}
    (inv : Delivers accepted executed s) : CatchesUp speed answer s := by
  cases hpc : s.pc with
  | take =>
      by_cases hempty : s.queue.ring.Empty
      · refine ⟨0, s, rfl, ?_⟩
        rw [waiting, hpc, if_neg (show ¬ PastExecution .take from id),
          (Ring.empty_iff_contents _).mp hempty]
        rfl
      · have hawake := inv.awake hpc hempty
        refine CatchesUp.of_thread (by simp [hpc])
          (by rw [engineStep, hpc]; exact if_neg (Nat.ne_of_gt hawake)) ?_
        exact catchesUp_of_check rfl rfl
  | check => exact catchesUp_of_check hpc rfl
  | execute => exact CatchesUp.of_execute hpc fun t hcheck _ => catchesUp_of_check hcheck rfl
  | send pc =>
      exact CatchesUp.of_send hpc fun t hadvance _ =>
        CatchesUp.of_advance hadvance fun u hcheck _ => catchesUp_of_check hcheck rfl
  | advance => exact CatchesUp.of_advance hpc fun t hcheck _ => catchesUp_of_check hcheck rfl
  | print =>
      refine CatchesUp.of_thread (by simp [hpc]) (by rw [engineStep, hpc]) ?_
      exact catchesUp_of_check rfl rfl

/-- The thread submits nothing. -/
theorem acceptedBy_ownActions (answer : List Byte → Buf × Word32) (count : ℕ) (s : DapState) :
    runLabels (submitStep speed) acceptedBy s (ownActions speed answer count s) = [] := by
  induction count generalizing s with
  | zero => rfl
  | succ count ih =>
      have hown : acceptedBy s (ownAction answer s) = [] := by
        rw [ownAction]
        split <;> rfl
      rw [ownActions, runLabels, hown, List.nil_append]
      cases submitStep speed s (ownAction answer s) with
      | none => rfl
      | some next => exact ih next

end CatchesUp

/-- At whichever points of the thread requests are submitted: those passed to
`DAP_ExecuteCommand` are the accepted ones, in order and once each, up to what still
waits, and the thread alone executes the rest. The slot in use is not the one that a
submission fills, and a refused submission leaves the ring as it is. -/
theorem dapEngine_delivers (speed : UsbSpeed) (cells : Fin dapReqSlots → DapReqSlot)
    (resp buf : Buf) (actions : List SubmitAction) (s : DapState)
    (hrun : runActions (submitStep speed) (dapInit cells resp buf) actions = some s) :
    let accepted := runLabels (submitStep speed) acceptedBy (dapInit cells resp buf) actions
    let executed := runLabels (submitStep speed) executedBy (dapInit cells resp buf) actions
    executed ++ waiting s = accepted ∧
      (∀ answer, ∃ count final,
        runActions (submitStep speed) s (ownActions speed answer count s) = some final ∧
          executed ++ runLabels (submitStep speed) executedBy s (ownActions speed answer count s) =
            accepted) ∧
      ∀ data, (HoldsSlot s.pc →
          (dapEngineSubmit data s.queue).2.ring.tail = s.queue.ring.tail ∧
            (dapEngineSubmit data s.queue).2.ring.cells s.queue.ring.tail =
              s.queue.ring.cells s.queue.ring.tail ∧
            s.queue.ring.head ≠ s.queue.ring.tail) ∧
        ((dapEngineSubmit data s.queue).1 ≠ 0 →
          (dapEngineSubmit data s.queue).2.ring = s.queue.ring) := by
  intro accepted executed
  have inv : Delivers accepted executed s :=
    runLabels_history Delivers delivers_step (delivers_init cells resp buf) hrun
  refine ⟨inv.ordered, ?_, fun data => ⟨fun holds => inv.tail_kept holds data, ?_⟩⟩
  · intro answer
    obtain ⟨count, final, hfinal, hwaiting⟩ := catchesUp_of_delivers inv
    have hend := runLabels_invariant delivers_step inv hfinal
    have hordered := hend.ordered
    rw [hwaiting, acceptedBy_ownActions, List.append_nil, List.append_nil] at hordered
    exact ⟨count, final, hfinal, hordered⟩
  · intro hrefused
    by_cases hfull : s.queue.ring.Full
    · rw [dapEngineSubmit_of_full hfull]
    · obtain ⟨slot, -, hsubmit⟩ := dapEngineSubmit_of_room data hfull
      rw [hsubmit] at hrefused
      exact absurd rfl hrefused

/-- A second request arrives while the first is executed, a third one is refused. -/
theorem dapEngine_delivers_whileExecuting :
    ∃ s, runActions (submitStep .high) zeroInit [.submit [0x00#8, 0xFF#8], .thread, .thread,
        .submit [0x01#8], .submit [0x02#8]] = some s ∧
      waiting s = [[0x00#8, 0xFF#8], [0x01#8]] := by
  have hlabels : runLabels (submitStep .high) acceptedBy zeroInit [.submit [0x00#8, 0xFF#8], .thread,
      .thread, .submit [0x01#8], .submit [0x02#8]] = [[0x00#8, 0xFF#8], [0x01#8]] := by
    decide +kernel
  have hnone : runLabels (submitStep .high) executedBy zeroInit [.submit [0x00#8, 0xFF#8], .thread,
      .thread, .submit [0x01#8], .submit [0x02#8]] = [] := by
    decide +kernel
  have hsome : (runActions (submitStep .high) zeroInit [.submit [0x00#8, 0xFF#8], .thread, .thread,
      .submit [0x01#8], .submit [0x02#8]]).isSome := by
    decide +kernel
  obtain ⟨s, hrun⟩ := Option.isSome_iff_exists.mp hsome
  have hordered := (dapEngine_delivers .high _ _ _ _ s hrun).1
  rw [← zeroInit, hlabels, hnone, List.nil_append] at hordered
  exact ⟨s, hrun, hordered⟩

end ExLink.Dap
