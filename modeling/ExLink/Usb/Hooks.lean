/-
# Sends and the hooks of the bus

RESET, DISCONNECTED and CONFIGURED may come at any point of a send. Their hooks clear
`s_tx_busy`, the flag that a send waits for, as the completion of its transfer does. A
send that returns 0 had its transfer completed unless a hook cleared the flag for a
transfer that the controller still held, or was about to be given.
-/

import ExLink.Usb.Ports

namespace ExLink.Usb

open ExLink.Automata ExLink.Bulk

/-- `usb_if_ctrl_send` or `usb_if_dap_send`. -/
inductive SendPort where
  | ctrl
  | dap

/-- Buffer, wait limit and packet size. -/
def SendPort.conf : SendPort → UsbSpeed → InPortConf
  | .ctrl => ctrlInPort
  | .dap => dapInPortAt

/-- Whether `s_configured` is asked for on entry. -/
def SendPort.guarded : SendPort → Bool
  | .ctrl => true
  | .dap => false

/-- The port, the call in progress and the state of the bus; then the number of calls, the
call whose transfer was started last, the calls whose transfers completed with the empty
packet that may follow, and what the calls returned. -/
structure HookState where
  port : InPort
  call : Option SendPc
  speed : UsbSpeed
  enabled : Bool
  configured : Bool
  calls : ℕ
  owner : ℕ
  completed : List ℕ
  results : List (ℕ × ℤ)

/-- A call, one access of the call in progress, a completed transfer, or an event. -/
inductive HookAction where
  | send (data : List Byte)
  | thread
  | complete
  | reset
  | disconnected
  | configured (speed : UsbSpeed)

/-- The checks on entry, with the one for `s_configured` between the other two. -/
def sendEntryOn (port : SendPort) (s : HookState) (data : List Byte) : ℤ ⊕ SendPc :=
  if data.length = 0 then .inl (-1)
  else if port.guarded ∧ ¬ s.configured then .inl (-2)
  else sendEntry (port.conf s.speed) data

/-- One access of a send. `usbd_ep_start_write` fails on a disabled endpoint. -/
def sendStepOn (conf : InPortConf) (enabled : Bool) (pc : SendPc) (port : InPort) :
    (ℤ ⊕ SendPc) × InPort :=
  match enabled, pc with
  | false, .start _ => (.inl (-5), { port with busy := false })
  | _, _ => sendStep conf pc port

/-- `usb_if_ctrl_on_reset` and `usb_if_dap_on_reset`. -/
def onReset (s : HookState) : HookState :=
  { s with port := { s.port with busy := false }, configured := false }

/-- `usb_if_ctrl_on_configured` and `usb_if_dap_on_configured`. -/
def onConfigured (s : HookState) : HookState :=
  { s with port := { s.port with busy := false }, configured := true }

/-- The controller forgets the transfer that it holds. -/
def dropTransfer (s : HookState) : HookState := { s with port := { s.port with armed := none } }

/-- One action. A reset disables the endpoints and a configuration opens them anew, both
before the hook; a disconnection only runs the hook. -/
def hookStep (port : SendPort) (s : HookState) : HookAction → Option HookState
  | .send data =>
      match s.call with
      | some _ => none
      | none =>
          some
            { s with
              calls := s.calls + 1
              call := (sendEntryOn port s data).getRight?
              results := s.results ++ (returnValue (sendEntryOn port s data)).map (s.calls + 1, ·) }
  | .thread =>
      s.call.map fun pc =>
        let (next, after) := sendStepOn (port.conf s.speed) s.enabled pc s.port
        { s with
          port := after
          call := next.getRight?
          owner := if starting (some pc) then s.calls else s.owner
          results := s.results ++ (returnValue next).map (s.calls, ·) }
  | .complete =>
      (inComplete (port.conf s.speed) s.port).map fun after =>
        { s with
          port := after
          completed := if after.armed = none then s.completed ++ [s.owner] else s.completed }
  | .reset => some (onReset { dropTransfer s with enabled := false })
  | .disconnected => some (onReset s)
  | .configured speed => some (onConfigured { dropTransfer s with enabled := true, speed := speed })

/-- A hook does not come while a send waits for its own transfer. No hook after which the
endpoint can still be written to comes between setting the flag and starting the transfer.
A disconnection, which leaves the transfers of the controller alone, does not come while it
holds one that a call timed out on; without a call in progress the control port may, as it
takes no call before the next configuration. -/
def HookSafe (port : SendPort) (s : HookState) : HookAction → Prop
  | .send _ | .thread | .complete => True
  | .reset => draining s.call → s.port.armed = none
  | .configured _ => (draining s.call → s.port.armed = none) ∧ ¬ starting s.call
  | .disconnected =>
      (s.port.armed = none ∨ port.guarded ∧ s.call.isNone) ∧ (starting s.call → s.enabled = false)

instance (port : SendPort) (s : HookState) (action : HookAction) :
    Decidable (HookSafe port s action) :=
  match action with
  | .send _ | .thread | .complete => .isTrue trivial
  | .reset => inferInstanceAs (Decidable (_ → _))
  | .configured _ => inferInstanceAs (Decidable (_ ∧ _))
  | .disconnected => inferInstanceAs (Decidable (_ ∧ _))

/-- Every call that returned 0 had its transfer completed. -/
def ReturnsSound (s : HookState) : Prop := ∀ number, (number, 0) ∈ s.results → number ∈ s.completed

/-! ## The invariant -/

/-- Where the transfer of the call in progress is. -/
def CallTracks (s : HookState) : Prop :=
  match s.call with
  | none => True
  | some (.wait _ _) => s.calls ∉ s.completed ∧ (s.port.armed.isSome → s.owner < s.calls)
  | some (.copy _) | some (.mark _) => s.calls ∉ s.completed ∧ s.port.armed = none
  | some (.start _) =>
      s.calls ∉ s.completed ∧ s.port.armed = none ∧ (s.enabled = true → s.port.busy = true)
  | some (.drain _) =>
      (s.port.armed = none ∧ s.calls ∈ s.completed) ∨
        (s.port.armed.isSome ∧ s.port.busy = true ∧ s.owner = s.calls ∧ s.calls ∉ s.completed)

/-- What holds as long as every hook comes at a safe point. -/
structure HookInvariant (port : SendPort) (s : HookState) : Prop where
  disabled : s.enabled = false → s.port.armed = none
  idle : s.port.busy = false →
    s.port.armed = none ∨ port.guarded = true ∧ s.configured = false ∧ s.call = none
  numbered : s.owner ≤ s.calls ∧ ∀ number ∈ s.completed, number ≤ s.calls
  tracks : CallTracks s
  sound : ReturnsSound s

section Steps

variable {port : SendPort} {s next : HookState}

/-- One more return value. -/
theorem ReturnsSound.append {number : ℕ} {result : ℤ} (sound : ReturnsSound s)
    (hzero : result = 0 → number ∈ s.completed)
    (hcompleted : next.completed = s.completed)
    (hresults : next.results = s.results ++ [(number, result)]) : ReturnsSound next := by
  intro returned hmem
  rw [hresults, List.mem_append, List.mem_singleton] at hmem
  rw [hcompleted]
  rcases hmem with hold | hnew
  · exact sound returned hold
  · obtain ⟨rfl, rfl⟩ := Prod.mk.inj hnew
    exact hzero rfl

/-- An access other than the start of the transfer is that of a session. -/
theorem hookStep_thread {pc : SendPc} (hcall : s.call = some pc)
    (hnot : starting (some pc) = false) :
    hookStep port s .thread =
      some
        { s with
          port := (sendStep (port.conf s.speed) pc s.port).2
          call := (sendStep (port.conf s.speed) pc s.port).1.getRight?
          results :=
            s.results ++
              (returnValue (sendStep (port.conf s.speed) pc s.port).1).map (s.calls, ·) } := by
  have hstep : sendStepOn (port.conf s.speed) s.enabled pc s.port =
      sendStep (port.conf s.speed) pc s.port := by
    cases pc with
    | start len => exact absurd hnot (by simp [starting])
    | wait _ _ | copy _ | mark _ | drain _ => cases s.enabled <;> rfl
  rw [hookStep, hcall, Option.map_some, hstep, hnot]
  rfl

end Steps

/-! ## Hooks at other points -/

/-- Some run goes on to return 0 for a transfer that did not complete. -/
def ReturnsEarly (port : SendPort) (s : HookState) : Prop :=
  ∃ rest final, runActions (hookStep port) s rest = some final ∧ ¬ ReturnsSound final

section ReturnsEarly

variable {port : SendPort} {s next : HookState}

theorem ReturnsEarly.of_step {action : HookAction} (hstep : hookStep port s action = some next)
    (early : ReturnsEarly port next) : ReturnsEarly port s := by
  obtain ⟨rest, final, hrun, hunsound⟩ := early
  exact ⟨action :: rest, final, runActions_cons_eq_some.mpr ⟨next, hstep, hrun⟩, hunsound⟩

/-- The last wait finds the flag cleared. -/
theorem ReturnsEarly.of_drain {waited : ℕ} (hcall : s.call = some (.drain waited))
    (hfree : s.port.busy = false) (hopen : s.calls ∉ s.completed) : ReturnsEarly port s := by
  have hstep := @hookStep_thread port _ _ hcall rfl
  refine ⟨[.thread], _, runActions_cons_eq_some.mpr ⟨_, hstep, rfl⟩, fun hsound => hopen ?_⟩
  apply hsound
  simp [sendStep, hfree, returnValue]

theorem ReturnsEarly.of_start {len : ℕ} (hcall : s.call = some (.start len))
    (henabled : s.enabled = true) (hfree : s.port.busy = false) (hopen : s.calls ∉ s.completed) :
    ReturnsEarly port s := by
  have hstep : hookStep port s .thread =
      some
        { s with
          port := { s.port with armed := some len }
          call := some (.drain 0)
          owner := s.calls } := by
    simp [hookStep, hcall, henabled, sendStepOn, sendStep, starting, returnValue]
  exact ReturnsEarly.of_step hstep (ReturnsEarly.of_drain rfl hfree hopen)

theorem hookStep_complete {after : InPort}
    (hcomplete : inComplete (port.conf s.speed) s.port = some after) :
    hookStep port s .complete =
      some
        { s with
          port := after
          completed := if after.armed = none then s.completed ++ [s.owner] else s.completed } := by
  rw [hookStep, hcomplete, Option.map_some]

/-- The transfer of an earlier call completes before the one of this call starts, ... -/
theorem ReturnsEarly.of_short {len held : ℕ} (hcall : s.call = some (.start len))
    (henabled : s.enabled = true) (harmed : s.port.armed = some held)
    (hshort : ¬ (0 < held ∧ held % (port.conf s.speed).mps = 0))
    (howner : s.owner < s.calls) (hopen : s.calls ∉ s.completed) : ReturnsEarly port s := by
  have hcomplete : inComplete (port.conf s.speed) s.port =
      some
        { s.port with
          busy := false
          armed := none
          wire := s.port.wire ++
            transferPackets (port.conf s.speed).mps (s.port.buf.prefixBytes held) } := by
    rw [inComplete, harmed, Option.map_some, inCb, if_neg hshort]
  refine ReturnsEarly.of_step (hookStep_complete hcomplete) ?_
  refine ReturnsEarly.of_start hcall henabled rfl ?_
  simp only [if_true, List.mem_append, List.mem_singleton, not_or]
  exact ⟨hopen, Nat.ne_of_gt howner⟩

/-- ... after the empty packet that may be due. -/
theorem ReturnsEarly.of_held {len held : ℕ} (hcall : s.call = some (.start len))
    (henabled : s.enabled = true) (harmed : s.port.armed = some held)
    (howner : s.owner < s.calls) (hopen : s.calls ∉ s.completed) : ReturnsEarly port s := by
  by_cases hwhole : 0 < held ∧ held % (port.conf s.speed).mps = 0
  · have hcomplete : inComplete (port.conf s.speed) s.port =
        some
          { s.port with
            armed := some 0
            wire := s.port.wire ++
              transferPackets (port.conf s.speed).mps (s.port.buf.prefixBytes held) } := by
      rw [inComplete, harmed, Option.map_some, inCb, if_pos hwhole]
    refine ReturnsEarly.of_step (hookStep_complete hcomplete) ?_
    exact ReturnsEarly.of_short hcall henabled rfl (by simp) howner hopen
  · exact ReturnsEarly.of_short hcall henabled harmed hwhole howner hopen

theorem ReturnsEarly.of_mark {len held : ℕ} (hcall : s.call = some (.mark len))
    (henabled : s.enabled = true) (harmed : s.port.armed = some held)
    (howner : s.owner < s.calls) (hopen : s.calls ∉ s.completed) : ReturnsEarly port s :=
  ReturnsEarly.of_step (hookStep_thread hcall rfl)
    (@ReturnsEarly.of_held _ _ len held rfl henabled harmed howner hopen)

theorem ReturnsEarly.of_copy {data : List Byte} {held : ℕ} (hcall : s.call = some (.copy data))
    (henabled : s.enabled = true) (harmed : s.port.armed = some held)
    (howner : s.owner < s.calls) (hopen : s.calls ∉ s.completed) : ReturnsEarly port s :=
  ReturnsEarly.of_step (hookStep_thread hcall rfl)
    (@ReturnsEarly.of_mark _ _ data.length held rfl henabled harmed howner hopen)

/-- A wait is let through while the controller holds the transfer of an earlier call. -/
theorem ReturnsEarly.of_wait {data : List Byte} {waited held : ℕ}
    (hcall : s.call = some (.wait data waited)) (hfree : s.port.busy = false)
    (henabled : s.enabled = true) (harmed : s.port.armed = some held)
    (howner : s.owner < s.calls) (hopen : s.calls ∉ s.completed) : ReturnsEarly port s := by
  have hpassed : sendStep (port.conf s.speed) (.wait data waited) s.port =
      (.inr (.copy data), s.port) := by
    simp [sendStep, hfree]
  have hstep := @hookStep_thread port _ _ hcall rfl
  rw [hpassed] at hstep
  exact ReturnsEarly.of_step hstep
    (@ReturnsEarly.of_copy _ _ data held rfl henabled harmed howner hopen)

theorem SendPort.capacity_pos (port : SendPort) (speed : UsbSpeed) :
    1 ≤ (port.conf speed).capacity := by
  cases port <;> cases speed <;> decide

/-- A send of one byte, with no call in progress. -/
theorem ReturnsEarly.of_none {held : ℕ} (hcall : s.call = none)
    (hguard : port.guarded = true → s.configured = true) (hfree : s.port.busy = false)
    (henabled : s.enabled = true) (harmed : s.port.armed = some held)
    (howner : s.owner ≤ s.calls) (hnumbered : ∀ number ∈ s.completed, number ≤ s.calls) :
    ReturnsEarly port s := by
  have hentry : sendEntryOn port s [0] = .inr (.wait [0] 0) := by
    have hguard : ¬ (port.guarded = true ∧ ¬ s.configured = true) := fun h => h.2 (hguard h.1)
    have hfits : ¬ (port.conf s.speed).capacity < [(0 : Byte)].length :=
      Nat.not_lt.mpr (port.capacity_pos s.speed)
    rw [sendEntryOn, if_neg (by simp), if_neg hguard, sendEntry, if_neg (by simp), if_neg hfits]
  have hstep : hookStep port s (.send [0]) =
      some { s with calls := s.calls + 1, call := some (.wait [0] 0) } := by
    simp only [hookStep, hcall, hentry, returnValue, List.map_nil, List.append_nil,
      Sum.getRight?_inr]
  refine ReturnsEarly.of_step hstep
    (ReturnsEarly.of_wait rfl hfree henabled harmed (Nat.lt_succ_of_le howner) ?_)
  exact fun hmem => absurd (hnumbered _ hmem) (by simp)

/-- A send that waits for its own transfer. -/
theorem HookInvariant.early_of_draining (inv : HookInvariant port s)
    (hdrain : draining s.call = true) (harmed : s.port.armed ≠ none) (hcall : next.call = s.call)
    (hcalls : next.calls = s.calls) (hcompleted : next.completed = s.completed)
    (hfree : next.port.busy = false) : ReturnsEarly port next := by
  have htracks := inv.tracks
  unfold CallTracks at htracks
  cases hpc : s.call with
  | none => simp [hpc, draining] at hdrain
  | some pc =>
      cases pc with
      | drain waited =>
          rw [hpc] at htracks
          rcases htracks with hdone | hpending
          · exact absurd hdone.1 harmed
          · exact ReturnsEarly.of_drain (hcall.trans hpc) hfree
              (by rw [hcalls, hcompleted]; exact hpending.2.2.2)
      | wait _ _ | copy _ | mark _ | start _ => simp [hpc, draining] at hdrain

/-- A send that is about to start its transfer. -/
theorem HookInvariant.early_of_starting (inv : HookInvariant port s)
    (hstart : starting s.call = true) (hcall : next.call = s.call)
    (hcalls : next.calls = s.calls) (hcompleted : next.completed = s.completed)
    (henabled : next.enabled = true) (hfree : next.port.busy = false) :
    ReturnsEarly port next := by
  have htracks := inv.tracks
  unfold CallTracks at htracks
  cases hpc : s.call with
  | none => simp [hpc, starting] at hstart
  | some pc =>
      cases pc with
      | start len =>
          rw [hpc] at htracks
          exact ReturnsEarly.of_start (hcall.trans hpc) henabled hfree
            (by rw [hcalls, hcompleted]; exact htracks.1)
      | wait _ _ | copy _ | mark _ | drain _ => simp [hpc, starting] at hstart

/-- The controller holds the transfer of an earlier call, and keeps it. -/
theorem HookInvariant.early_of_held (inv : HookInvariant port s) {held : ℕ}
    (harmed : s.port.armed = some held) (hexposed : ¬ (port.guarded = true ∧ s.call.isNone = true)) :
    ReturnsEarly port (onReset s) := by
  obtain ⟨hdisabled, -, ⟨howner, hnumbered⟩, htracks, -⟩ := id inv
  have henabled : s.enabled = true := by
    by_contra hnot
    rw [hdisabled (by simpa using hnot)] at harmed
    exact absurd harmed (by simp)
  unfold CallTracks at htracks
  cases hpc : s.call with
  | none =>
      have hguard : ¬ port.guarded = true := fun hguard => hexposed ⟨hguard, by rw [hpc]; rfl⟩
      exact ReturnsEarly.of_none hpc (fun h => absurd h hguard) rfl henabled harmed howner hnumbered
  | some pc =>
      rw [hpc, harmed] at htracks
      cases pc with
      | wait data waited =>
          exact ReturnsEarly.of_wait hpc rfl henabled harmed (htracks.2 rfl) htracks.1
      | copy data | mark len => exact absurd htracks.2 (by simp)
      | start len => exact absurd htracks.2.1 (by simp)
      | drain waited =>
          exact inv.early_of_draining (by rw [hpc]; rfl) (by rw [harmed]; simp) rfl rfl rfl rfl

/-- Where a hook is not safe, some run goes wrong after it. -/
theorem HookInvariant.early {action : HookAction} (inv : HookInvariant port s)
    (hexposed : ¬ HookSafe port s action) :
    ∃ next, hookStep port s action = some next ∧ ReturnsEarly port next := by
  cases action with
  | send _ | thread | complete => exact absurd trivial hexposed
  | reset =>
      obtain ⟨hdrain, harmed⟩ := Classical.not_imp.mp hexposed
      exact ⟨_, rfl, inv.early_of_draining hdrain harmed rfl rfl rfl rfl⟩
  | configured speed =>
      refine ⟨_, rfl, ?_⟩
      by_cases hstart : starting s.call = true
      · exact inv.early_of_starting hstart rfl rfl rfl rfl rfl
      · obtain ⟨hdrain, harmed⟩ := Classical.not_imp.mp fun hall => hexposed ⟨hall, hstart⟩
        exact inv.early_of_draining hdrain harmed rfl rfl rfl rfl
  | disconnected =>
      refine ⟨_, rfl, ?_⟩
      cases harmed : s.port.armed with
      | some held =>
          by_cases hguarded : port.guarded = true ∧ s.call.isNone = true
          · -- no call in progress, so it is none that starts
            refine absurd ⟨.inr hguarded, fun hstart => ?_⟩ hexposed
            rw [Option.isNone_iff_eq_none.mp hguarded.2] at hstart
            exact absurd hstart Bool.false_ne_true
          · exact inv.early_of_held harmed hguarded
      | none =>
          obtain ⟨hstart, hopen⟩ := Classical.not_imp.mp fun hall => hexposed ⟨.inl harmed, hall⟩
          exact inv.early_of_starting hstart rfl rfl rfl (by simpa [onReset] using hopen) rfl

end ReturnsEarly

end ExLink.Usb
