/-
# Requests in the runs of the bus

What the requests are about changes with the requests that are handed to the handler, with
the end of a transfer, and with a reset. A request without data from the host is handed over
with its SETUP packet, any other one with the last packet of its data; what the host gives up
before that is never seen.
-/

import ExLink.Usb.ControlTransfers

namespace ExLink.Usb

open ExLink.Automata

/-- What reaches the request layer. -/
inductive BusEvent where
  | request (setup : UsbSetupPacket)
  | reset

section Runs

variable {κ : Type} {layer : RequestLayer κ} {s next : ControlBus κ} {action : ControlAction}

/-- The request that an action hands over. -/
def handedBy (s : ControlBus κ) : ControlAction → Option UsbSetupPacket
  | .start request =>
      if request.setup.wLength = 0#16 ∨ request.setup.DirIn then some request.setup else none
  | .proceed =>
      s.transfer.bind fun run =>
        match run.stage with
        | .dataOut left => if left.drop usbCtrlEpMps = [] then some run.request.setup else none
        | .dataIn _ | .statusOut _ | .statusIn | .done _ | .refused => none
  | .reset => none

/-- What an action brings to the request layer. -/
def busEvents (s : ControlBus κ) (action : ControlAction) : List BusEvent :=
  match action with
  | .start _ | .proceed => (handedBy s action).toList.map .request
  | .reset => [.reset]

/-- What an action does to what the requests are about. -/
inductive CoreStep (layer : RequestLayer κ) (core : κ) : List BusEvent → κ → Prop where
  | silent : CoreStep layer core [] core
  | finishes (setup : UsbSetupPacket) : CoreStep layer core [] (layer.finish setup core)
  | handles (setup : UsbSetupPacket) (data : RequestData) :
      CoreStep layer core [.request setup] (layer.handle setup data core).2
  | resets : CoreStep layer core [.reset] (layer.reset core)

/-! ## Packets -/

variable {device : Ep0 κ}

theorem reply_core (data : RequestData) : (device.reply data).core = device.core := by
  by_cases hlong : usbdevRequestBufferLen < min data.len device.setup.wLength.toNat
  · rw [reply_of_lt hlong]
  · rw [reply_of_le rfl (Nat.not_lt.mp hlong)]

/-- A SETUP packet. -/
theorem coreStep_setupToken (setup : UsbSetupPacket) :
    CoreStep layer device.core
      ((if setup.wLength = 0#16 ∨ setup.DirIn then some setup else none).toList.map .request)
      (setupToken layer setup device).core := by
  by_cases hdata : setup.wLength = 0#16 ∨ setup.DirIn
  · rw [if_pos hdata, setupToken_answers hdata]
    have hcore : (if ((prepared setup device).request layer).1.1 then
        ((prepared setup device).after ((prepared setup device).request layer)).reply
          ((prepared setup device).request layer).1.2
      else ((prepared setup device).after ((prepared setup device).request layer)).refuse).core =
        ((prepared setup device).request layer).2 := by
      split_ifs
      · exact reply_core _
      · rfl
    dsimp only
    rw [hcore]
    exact .handles setup _
  · rw [if_neg hdata]
    rw [not_or] at hdata
    rw [setupToken_collects hdata.1 hdata.2]
    split_ifs
    · exact .silent
    · exact .silent

theorem coreStep_ep0InComplete (nbytes : ℕ) :
    CoreStep layer device.core [] (ep0InComplete layer nbytes device).core := by
  rw [ep0InComplete]
  dsimp only
  by_cases hmore : device.residue - nbytes ≠ 0
  · rw [if_pos hmore]
    exact .silent
  rw [if_neg hmore]
  by_cases hzlp : device.zlpFlag = true
  · rw [if_pos hzlp]
    exact .silent
  rw [if_neg hzlp]
  by_cases hreads : device.setup.wLength ≠ 0#16 ∧ device.setup.DirIn
  · rw [if_pos hreads]
    exact .silent
  · rw [if_neg hreads]
    exact .finishes device.setup

/-- A packet to the host. -/
theorem coreStep_inToken {taken : List Byte × Ep0 κ} (htaken : inToken layer device = some taken) :
    CoreStep layer device.core [] taken.2.core := by
  rw [inToken] at htaken
  split_ifs at htaken
  obtain ⟨transfer, -, rfl⟩ := Option.map_eq_some_iff.mp htaken
  dsimp only
  split_ifs
  · exact @coreStep_ep0InComplete κ layer { device with inArmed := none } transfer.length
  · exact .silent

/-- An empty packet of the host. -/
theorem outToken_nil_core {after : Ep0 κ} (hafter : outToken layer [] device = some after)
    (harmed : ∀ transfer ∈ device.outArmed, transfer.done = 0) : after.core = device.core := by
  obtain ⟨transfer, htransfer, hnext⟩ := Option.bind_eq_some_iff.mp hafter
  dsimp only at hnext
  rw [harmed transfer htransfer] at hnext
  split_ifs at hnext
  · obtain rfl := Option.some.inj hnext
    rfl
  · obtain rfl := Option.some.inj hnext
    rfl

/-- The last packet of the host hands the request over. -/
theorem coreStep_ep0OutComplete {nbytes : ℕ} (hpos : 0 < nbytes)
    (hresidue : device.residue = nbytes) :
    CoreStep layer device.core [.request device.setup]
      (ep0OutComplete layer nbytes device).core := by
  rw [ep0OutComplete_of_all hpos hresidue]
  dsimp only
  split_ifs
  · exact .handles device.setup _
  · exact .handles device.setup _

/-! ## Steps -/

/-- One action, between a host and a device that are in step. -/
theorem coreStep_controlStep (inv : BusInStep layer s)
    (hstep : controlStep layer s action = some next) :
    CoreStep layer s.device.core (busEvents s action) next.device.core := by
  cases action with
  | start request =>
      obtain rfl := Option.some.inj hstep
      exact coreStep_setupToken request.setup
  | reset =>
      obtain rfl := Option.some.inj hstep
      exact .resets
  | proceed =>
      obtain ⟨run, htransfer, hnext⟩ := Option.bind_eq_some_iff.mp hstep
      obtain ⟨after, hafter, rfl⟩ := Option.map_eq_some_iff.mp hnext
      have h := inv run htransfer
      rw [InStep] at h
      rw [busEvents, handedBy, htransfer, Option.bind_some]
      cases hstage : run.stage with
      | dataIn got =>
          rw [hstage] at hafter
          by_cases hstalled : s.device.inStalled = true
          · rw [hostStep, if_pos hstalled] at hafter
            obtain rfl := Option.some.inj hafter
            exact .silent
          · rw [hostStep, if_neg hstalled] at hafter
            obtain ⟨taken, htaken, rfl⟩ := Option.map_eq_some_iff.mp hafter
            exact coreStep_inToken htaken
      | statusOut got =>
          rw [hstage] at hafter h
          obtain ⟨token, htoken, rfl⟩ := Option.map_eq_some_iff.mp hafter
          have hcore := outToken_nil_core htoken (by
            rw [h.2.2.2]
            split_ifs
            · rintro _ hnone
              cases hnone
            · rintro _ hsome
              cases hsome
              rfl)
          dsimp only
          rw [hcore]
          exact .silent
      | dataOut left =>
          rw [hstage] at hafter h
          obtain ⟨hsetup, hreads, hsome, ⟨hnone, -, -⟩ | ⟨hstalled, hcollecting⟩⟩ := h
          · rw [hostStep, outToken, hnone] at hafter
            cases hafter
          · obtain ⟨token, htoken, rfl⟩ := Option.map_eq_some_iff.mp hafter
            have hout : ¬ run.request.setup.DirIn := fun hin => hreads ⟨hsome, hin⟩
            obtain ⟨hlast, hall⟩ | ⟨hmore, after, hmiddle, -, -, hkept⟩ :=
              @outToken_collecting κ layer run s.device left hout hcollecting
            · rw [hall] at htoken
              obtain rfl := Option.some.inj htoken
              have hpos : 0 < run.request.setup.wLength.toNat := by
                rw [Nat.pos_iff_ne_zero]
                exact fun hzero => hsome (BitVec.eq_of_toNat_eq hzero)
              dsimp only
              rw [if_pos hlast, ← hsetup]
              rw [← hsetup] at hpos
              have hresidue := hcollecting.residue
              rw [← hsetup] at hresidue
              exact @coreStep_ep0OutComplete κ layer
                { s.device with
                  reqData := run.reqData.write run.request.data
                  outArmed := none } _ hpos hresidue
            · rw [hmiddle] at htoken
              obtain rfl := Option.some.inj htoken
              dsimp only
              rw [if_neg hmore, hkept.core, ← hcollecting.core]
              exact .silent
      | statusIn =>
          rw [hstage] at hafter
          by_cases hstalled : s.device.inStalled = true
          · rw [hostStep, if_pos hstalled] at hafter
            obtain rfl := Option.some.inj hafter
            exact .silent
          · rw [hostStep, if_neg hstalled] at hafter
            obtain ⟨taken, htaken, hend⟩ := Option.bind_eq_some_iff.mp hafter
            split_ifs at hend
            obtain rfl := Option.some.inj hend
            exact coreStep_inToken htaken
      | done got | refused =>
          rw [hstage] at hafter
          cases hafter

/-! ## Runs -/

/-- What follows every event that reaches the request layer, and survives the end of a
transfer, follows them over a run of the bus. -/
theorem core_follows {ν : Type} {follow : ν → BusEvent → ν} {related : ν → κ → Prop}
    (finishes : ∀ view core setup, related view core → related view (layer.finish setup core))
    (handles : ∀ view core setup data, related view core →
      related (follow view (.request setup)) (layer.handle setup data core).2)
    (resets : ∀ view core, related view core →
      related (follow view .reset) (layer.reset core))
    {view : ν} {actions : List ControlAction} (initially : related view device.core)
    (hrun : runActions (controlStep layer) ⟨device, none⟩ actions = some s) :
    related ((runLabels (controlStep layer) busEvents ⟨device, none⟩ actions).foldl follow view)
      s.device.core := by
  have hstart : BusInStep layer ⟨device, none⟩ := fun _ hnone => by cases hnone
  have hfollows := @runLabels_history _ _ _ Unit (controlStep layer) busEvents (fun _ _ => [])
    (fun events _ s => BusInStep layer s ∧ related (events.foldl follow view) s.device.core)
    (by
      rintro events - state action next ⟨hinStep, hrelated⟩ hstep
      refine ⟨busInStep_step state action next hinStep hstep, ?_⟩
      rw [List.foldl_append]
      have hcore := coreStep_controlStep hinStep hstep
      generalize busEvents state action = now, next.device.core = core at hcore ⊢
      cases hcore with
      | silent => exact hrelated
      | finishes setup => exact finishes _ _ setup hrelated
      | handles setup data => exact handles _ _ setup data hrelated
      | resets => exact resets _ _ hrelated)
    ⟨device, none⟩ s actions ⟨hstart, initially⟩ hrun
  exact hfollows.2

end Runs

end ExLink.Usb
