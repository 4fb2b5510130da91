/-
# The configuration that a host has asked for

What the endpoints of the device are open for is a matter of the requests since the last bus
reset: whether the device descriptor was read, which is when the device learns the speed of
the port; the configuration; and the interfaces chosen since. Requests that leave an array
are told apart by the host's side alone, and as long as there is none the device is where
the requests have brought it.
-/

import Mathlib.Data.List.Nodup
import ExLink.Usb.RequestEffects
import ExLink.Usb.RequestRuns

namespace ExLink.Usb

open ExLink.Automata

/-! ## Choosing an interface -/

section Endpoints

variable {core : UsbdCore} {endpoints : List OwnedEndpoint} {number setting : Byte}

/-- Choosing an interface touches nothing but endpoints. -/
theorem foldl_chooseEndpoint (core : UsbdCore) (endpoints : List OwnedEndpoint)
    (number setting : Byte) :
    endpoints.foldl (chooseEndpoint number setting) core =
      { core with
        epMps := (endpoints.foldl (chooseEndpoint number setting) core).epMps
        epEnable := (endpoints.foldl (chooseEndpoint number setting) core).epEnable
        stalled := (endpoints.foldl (chooseEndpoint number setting) core).stalled } := by
  induction endpoints generalizing core with
  | nil => rfl
  | cons owned rest ih =>
      rw [List.foldl_cons, ih]
      have hone : chooseEndpoint number setting core owned =
          { core with
            epMps := (chooseEndpoint number setting core owned).epMps
            epEnable := (chooseEndpoint number setting core owned).epEnable
            stalled := (chooseEndpoint number setting core owned).stalled } := by
        rw [chooseEndpoint]
        split_ifs
        all_goals rfl
      rw [hone]

/-- No endpoint has another setting. -/
theorem foldl_chooseEndpoint_of_ne (hsetting : setting ≠ 0#8)
    (hendpoints : ∀ owned ∈ endpoints, owned.setting = 0#8) :
    endpoints.foldl (chooseEndpoint number setting) core = core := by
  induction endpoints with
  | nil => rfl
  | cons owned rest ih =>
      have hsame : chooseEndpoint number setting core owned = core := by
        rw [chooseEndpoint, if_neg hsetting, hendpoints owned List.mem_cons_self,
          if_neg hsetting.symm, ite_self]
      rw [List.foldl_cons, hsame]
      exact ih fun next hnext => hendpoints next (List.mem_cons_of_mem owned hnext)

/-- The packet sizes stay when an interface is closed. -/
theorem epMps_foldl_close (core : UsbdCore) (endpoints : List OwnedEndpoint) (number : Byte) :
    (endpoints.foldl (chooseEndpoint number 0#8) core).epMps = core.epMps := by
  induction endpoints generalizing core with
  | nil => rfl
  | cons owned rest ih =>
      rw [List.foldl_cons, ih, chooseEndpoint, if_pos rfl]
      split_ifs
      · rfl
      · rfl

/-- The endpoints of the interface are closed, and no others. -/
theorem epEnable_foldl_close (hnodup : (endpoints.map (·.endpoint.bEndpointAddress)).Nodup)
    {owned : OwnedEndpoint} (hmem : owned ∈ endpoints) :
    (endpoints.foldl (chooseEndpoint number 0#8) core).epEnable owned.endpoint.bEndpointAddress =
      if owned.number = number then false
      else core.epEnable owned.endpoint.bEndpointAddress := by
  rw [epEnable_foldl_close_any]
  by_cases hnumber : owned.number = number
  · rw [if_pos hnumber, List.any_eq_true.mpr ⟨owned, hmem, decide_eq_true ⟨hnumber, rfl⟩⟩,
      Bool.not_true, Bool.and_false]
  · have hnone : (endpoints.any fun other => decide (other.number = number ∧
        owned.endpoint.bEndpointAddress = other.endpoint.bEndpointAddress)) = false := by
      rw [List.any_eq_false]
      intro other hother hcloses
      obtain ⟨hcloses, hsame⟩ := of_decide_eq_true hcloses
      -- no two endpoints share an address
      obtain rfl := List.inj_on_of_nodup_map hnodup hmem hother hsame
      exact hnumber hcloses
    rw [if_neg hnumber, hnone, Bool.not_false, Bool.and_true]

end Endpoints

/-! ## The arrays -/

section Lost

variable {setup : UsbSetupPacket} {core core' : UsbdCore}

theorem opened_eq (core : UsbdCore) :
    opened core = { core with epMps := (opened core).epMps, epEnable := (opened core).epEnable } :=
  foldl_usbdSetEndpoint core _

theorem Effect.lost {request : Asked} (h : Effect core request core') : core'.lost = core.lost := by
  cases h with
  | learns same => exact same.lost
  | closes => rfl
  | opens => rw [opened_eq]
  | ignores => rfl
  | chooses => rw [foldl_chooseEndpoint]
  | other same => exact same.lost

/-- A request leaves an array exactly if it is one that strays. -/
theorem lost_request (setup : UsbSetupPacket) (data : RequestData) (core : UsbdCore) :
    (usbdSetupRequestHandler setup data core).2.lost = true ↔
      core.lost = true ∨ Strays setup core := by
  cases outcome_request setup data core with
  | loses strays lost => exact iff_of_true lost (.inr strays)
  | within inside effect =>
      rw [effect.lost]
      exact (or_iff_left inside).symm

end Lost

/-- The requests that an action hands over stay within the arrays. -/
def StaysInside (s : ControlBus UsbdCore) (action : ControlAction) : Prop :=
  ∀ setup ∈ handedBy s action, ¬ Strays setup s.device.core

instance (s : ControlBus UsbdCore) (action : ControlAction) : Decidable (StaysInside s action) := by
  unfold StaysInside
  infer_instance

section Inside

variable {κ : Type} {s : ControlBus κ} {action : ControlAction} {setup : UsbSetupPacket}

theorem busEvents_of_handedBy (h : handedBy s action = some setup) :
    busEvents s action = [.request setup] := by
  cases action with
  | start request => rw [busEvents, h]; rfl
  | proceed => rw [busEvents, h]; rfl
  | reset => cases h

theorem handedBy_of_busEvents (h : busEvents s action = [.request setup]) :
    handedBy s action = some setup := by
  cases action with
  | start request =>
      rw [busEvents] at h
      cases hhanded : handedBy s (.start request) with
      | none =>
          rw [hhanded] at h
          cases h
      | some other =>
          rw [hhanded] at h
          cases h
          rfl
  | proceed =>
      rw [busEvents] at h
      cases hhanded : handedBy s .proceed with
      | none =>
          rw [hhanded] at h
          cases h
      | some other =>
          rw [hhanded] at h
          cases h
          rfl
  | reset => cases h

end Inside

section Bus

variable (pspds : ℕ → BitVec 2)

theorem executeTestMode_lost (setup : UsbSetupPacket) (core : UsbdCore) :
    (executeTestMode setup core).lost = core.lost := by
  rw [executeTestMode]
  split_ifs
  · rfl
  · rfl

/-- What one action means for the arrays. -/
theorem lost_controlStep {s next : ControlBus UsbdCore} {action : ControlAction}
    (inv : BusInStep (exlinkRequests pspds) s)
    (hstep : controlStep (exlinkRequests pspds) s action = some next) :
    next.device.core.lost = true ↔ s.device.core.lost = true ∨ ¬ StaysInside s action := by
  have hcore := coreStep_controlStep inv hstep
  generalize hevents : busEvents s action = events, next.device.core = core' at hcore ⊢
  have hidle : (∀ setup, events ≠ [.request setup]) → StaysInside s action := by
    intro hnone setup hsetup
    exact absurd (hevents.symm.trans (busEvents_of_handedBy hsetup)) (hnone setup)
  cases hcore with
  | silent =>
      have hinside := hidle fun _ h => by cases h
      exact (or_iff_left (not_not_intro hinside)).symm
  | finishes setup =>
      have hinside := hidle fun _ h => by cases h
      change (executeTestMode setup s.device.core).lost = true ↔ _
      rw [executeTestMode_lost]
      exact (or_iff_left (not_not_intro hinside)).symm
  | resets =>
      have hinside := hidle fun _ h => by cases h
      exact (or_iff_left (not_not_intro hinside)).symm
  | handles setup data =>
      have hhanded := handedBy_of_busEvents hevents
      have hinside : StaysInside s action ↔ ¬ Strays setup s.device.core := by
        constructor
        · intro h
          exact h setup hhanded
        · intro h other hother
          rw [hhanded] at hother
          obtain rfl := Option.some.inj hother
          exact h
      rw [hinside, not_not]
      exact lost_request setup data s.device.core

/-- In every run of the bus, whatever transfers were given up before: the device never leaves an
array exactly if every request that was handed over stays within them. -/
theorem requests_stay_inside (device : Ep0 UsbdCore) (hinside : device.core.lost = false)
    (actions : List ControlAction) (s : ControlBus UsbdCore)
    (hrun : runActions (controlStep (exlinkRequests pspds)) ⟨device, none⟩ actions = some s) :
    s.device.core.lost = false ↔
      runActions (restrict (controlStep (exlinkRequests pspds)) StaysInside) ⟨device, none⟩
        actions = some s := by
  have hiff := @runActions_restrict_iff _ _ (controlStep (exlinkRequests pspds)) StaysInside _
    (fun s => BusInStep (exlinkRequests pspds) s ∧ s.device.core.lost = false)
    (fun s => BusInStep (exlinkRequests pspds) s ∧ s.device.core.lost = true)
    (by
      rintro s ⟨-, hfine⟩ ⟨-, hlost⟩
      rw [hfine] at hlost
      cases hlost)
    (by
      rintro s action next ⟨inv, hfine⟩ hstep hstays
      refine ⟨busInStep_step s action next inv hstep, Bool.eq_false_iff.mpr fun hlost => ?_⟩
      rcases (lost_controlStep pspds inv hstep).mp hlost with hbefore | hstrays
      · rw [hfine] at hbefore
        cases hbefore
      · exact hstrays hstays)
    (by
      rintro s action next ⟨inv, -⟩ hstep hstrays
      exact ⟨busInStep_step s action next inv hstep,
        (lost_controlStep pspds inv hstep).mpr (.inr hstrays)⟩)
    (by
      rintro s action next ⟨inv, hlost⟩ hstep
      exact ⟨busInStep_step s action next inv hstep,
        (lost_controlStep pspds inv hstep).mpr (.inl hlost)⟩)
    ⟨device, none⟩ s actions ⟨fun _ hnone => (by cases hnone), hinside⟩ hrun
  rw [hiff, not_and]
  constructor
  · intro hfine _ hlost
    rw [hfine] at hlost
    cases hlost
  · intro h
    exact Bool.eq_false_iff.mpr (h (busInStep_run hrun))

/-- After power-up. -/
def coldCore : UsbdCore :=
  ⟨0#8, 0#8, 0#8, false, false, false, false, fun _ => 0#8, fun _ => 0#16, fun _ => false,
    fun _ => false, 0#2, none, [], 0, false⟩

def coldDevice : Ep0 UsbdCore :=
  ⟨⟨0#8, 0#8, 0#16, 0#16, 0#16⟩, fun _ => 0#8, 0, 0, 0, false, .setup, none, none, false,
    coldCore⟩

/-- The device descriptor is read, and the configuration set. -/
def enumerationRun : List ControlAction :=
  [.reset, .start ⟨⟨0x80#8, 6#8, 0x0100#16, 0#16, 18#16⟩, [], by decide⟩, .proceed, .proceed,
    .start ⟨⟨0x00#8, 9#8, 1#16, 0#16, 0#16⟩, [], by decide⟩, .proceed]

theorem requests_stay_inside_enumeration :
    ∃ s, runActions (controlStep (exlinkRequests fun _ => 2#2)) ⟨coldDevice, none⟩
        enumerationRun = some s ∧ s.device.core.configuration = 1#8 ∧
      (s.device.core.lost = false ↔
        runActions (restrict (controlStep (exlinkRequests fun _ => 2#2)) StaysInside)
          ⟨coldDevice, none⟩ enumerationRun = some s) := by
  have hrun : (runActions (controlStep (exlinkRequests fun _ => 2#2)) ⟨coldDevice, none⟩
      enumerationRun).map (fun s => s.device.core.configuration) = some 1#8 := by
    decide +kernel
  obtain ⟨s, hs, hconfiguration⟩ := Option.map_eq_some_iff.mp hrun
  exact ⟨s, hs, hconfiguration,
    requests_stay_inside (fun _ => 2#2) coldDevice rfl enumerationRun s hs⟩

end Bus

/-! ## The requests since a reset -/

/-- What the requests since the last reset come to: whether the device descriptor was read,
whether there is a configuration, and for every interface whether it is open and whether the
device descriptor had been read by then. -/
structure EnumerationView where
  learnt : Bool
  configured : Bool
  openFor : Byte → Option Bool

/-- After a reset. -/
def EnumerationView.unconfigured : EnumerationView := ⟨false, false, fun _ => none⟩

/-- What an event makes of it. -/
def enumerationStep (view : EnumerationView) : BusEvent → EnumerationView
  | .reset => .unconfigured
  | .request setup =>
      match asked setup with
      | .learns => { view with learnt := true }
      | .closes => { view with configured := false }
      | .opens => { view with configured := true, openFor := fun _ => some view.learnt }
      | .chooses number setting =>
          if view.configured ∧ setting = 0#8 then
            { view with openFor := Function.update view.openFor number none }
          else view
      | .other => view

/-- The speed that the device goes by: the speed of the port, once it has been learnt. -/
def speedFor (learnt : Bool) (pspd : BitVec 2) : Byte :=
  if learnt then usbdGetPortSpeed pspd else usbSpeedUnknown

/-- The device is where the requests have brought it. An endpoint is enabled if its interface
is open, and its packets have the size for the speed that the device went by then. -/
structure FollowsRequests (view : EnumerationView) (core : UsbdCore) : Prop where
  configuration : core.configuration = if view.configured then 1#8 else 0#8
  speed : core.speed = speedFor view.learnt core.pspd
  enabled : ∀ bulkMps, ∀ owned ∈ exlinkEndpoints bulkMps,
    core.epEnable owned.endpoint.bEndpointAddress = (view.openFor owned.number).isSome
  sized : ∀ learnt, ∀ owned ∈ exlinkEndpoints (bulkMpsAt (speedFor learnt core.pspd)),
    view.openFor owned.number = some learnt →
      core.epMps owned.endpoint.bEndpointAddress = owned.endpoint.wMaxPacketSize

section Requests

variable {view : EnumerationView} {core core' : UsbdCore}

/-- The interface and the address of every endpoint, at any speed. -/
def endpointPlaces : List (Byte × Byte) :=
  [(0#8, 0x01#8), (0#8, 0x81#8), (1#8, 0x02#8), (1#8, 0x82#8), (2#8, 0x83#8), (2#8, 0x03#8),
    (3#8, 0x84#8), (4#8, 0x05#8), (4#8, 0x85#8), (5#8, 0x86#8), (6#8, 0x07#8), (6#8, 0x87#8)]

theorem map_exlinkEndpoints (bulkMps : Word16) :
    (exlinkEndpoints bulkMps).map
      (fun owned => (owned.number, owned.endpoint.bEndpointAddress)) = endpointPlaces := rfl

/-- Where the endpoints are does not depend on their packet sizes. -/
theorem exists_at_size {bulkMps : Word16} {owned : OwnedEndpoint}
    (hmem : owned ∈ exlinkEndpoints bulkMps) (other : Word16) :
    ∃ same ∈ exlinkEndpoints other, same.number = owned.number ∧
      same.endpoint.bEndpointAddress = owned.endpoint.bEndpointAddress := by
  have hplace := List.mem_map_of_mem
    (f := fun owned : OwnedEndpoint => (owned.number, owned.endpoint.bEndpointAddress)) hmem
  rw [map_exlinkEndpoints, ← map_exlinkEndpoints other] at hplace
  obtain ⟨same, hsame, hboth⟩ := List.mem_map.mp hplace
  exact ⟨same, hsame, congrArg Prod.fst hboth, congrArg Prod.snd hboth⟩

theorem nodup_addresses (bulkMps : Word16) :
    ((exlinkEndpoints bulkMps).map (·.endpoint.bEndpointAddress)).Nodup := by
  have hplaces : (exlinkEndpoints bulkMps).map (·.endpoint.bEndpointAddress) =
      endpointPlaces.map Prod.snd := rfl
  rw [hplaces]
  decide

theorem setting_exlinkEndpoints (bulkMps : Word16) :
    ∀ owned ∈ exlinkEndpoints bulkMps, owned.setting = 0#8 := by
  simp [exlinkEndpoints]

/-- A reset closes everything. -/
theorem followsRequests_reset (pspd : BitVec 2) (core : UsbdCore) :
    FollowsRequests .unconfigured (usbdEventResetHandler pspd core) where
  configuration := rfl
  speed := rfl
  enabled := by
    intro bulkMps owned howned
    have hplace := List.mem_map_of_mem (f := fun owned : OwnedEndpoint =>
      (owned.number, owned.endpoint.bEndpointAddress)) howned
    rw [map_exlinkEndpoints] at hplace
    have hcontrol : ∀ place ∈ endpointPlaces, ¬ (place.2 = 0x00#8 ∨ place.2 = 0x80#8) := by
      simp [endpointPlaces]
    exact decide_eq_false (hcontrol _ hplace)
  sized := by
    intro learnt owned _ hopen
    cases hopen

/-- The configuration opens every interface. -/
theorem FollowsRequests.opens (h : FollowsRequests view core) :
    FollowsRequests { view with configured := true, openFor := fun _ => some view.learnt }
      { opened core with
        configuration := 1#8
        events := (opened core).events ++ [.configured] } where
  configuration := rfl
  speed := by
    rw [opened_eq]
    exact h.speed
  enabled := by
    intro bulkMps owned howned
    obtain ⟨same, hsame, -, haddress⟩ := exists_at_size howned (bulkMpsAt core.speed)
    have henabled := (openAt_opened core same hsame).1
    rw [haddress] at henabled
    exact henabled
  sized := by
    intro learnt owned howned hlearnt
    obtain rfl := Option.some.inj hlearnt
    rw [opened_eq] at howned
    have hspeed := h.speed
    change owned ∈ exlinkEndpoints (bulkMpsAt (speedFor view.learnt core.pspd)) at howned
    rw [← hspeed] at howned
    exact (openAt_opened core owned howned).2

/-- Setting 0 of an interface closes its endpoints. -/
theorem FollowsRequests.chooses (h : FollowsRequests view core) (number setting : Byte)
    (intfAltsetting : Byte → Byte) :
    FollowsRequests
      (if setting = 0#8 then { view with openFor := Function.update view.openFor number none }
        else view)
      ((exlinkEndpoints (bulkMpsAt core.speed)).foldl (chooseEndpoint number setting)
        { core with intfAltsetting := intfAltsetting }) := by
  by_cases hsetting : setting = 0#8
  · subst hsetting
    rw [if_pos rfl, foldl_chooseEndpoint, epMps_foldl_close]
    exact
      { configuration := h.configuration
        speed := h.speed
        enabled := by
          intro bulkMps owned howned
          obtain ⟨same, hsame, hnumber, haddress⟩ :=
            exists_at_size howned (bulkMpsAt core.speed)
          have henabled := @epEnable_foldl_close { core with intfAltsetting := intfAltsetting } _
            number (nodup_addresses (bulkMpsAt core.speed)) same hsame
          rw [haddress, hnumber] at henabled
          dsimp only
          rw [henabled, Function.update_apply]
          split_ifs
          · rfl
          · exact h.enabled bulkMps owned howned
        sized := by
          intro learnt owned howned hopen
          dsimp only at hopen
          rw [Function.update_apply] at hopen
          split_ifs at hopen
          exact h.sized learnt owned howned hopen }
  · rw [if_neg hsetting, foldl_chooseEndpoint_of_ne hsetting (setting_exlinkEndpoints _)]
    exact ⟨h.configuration, h.speed, h.enabled, h.sized⟩

/-- What a request does is what it asks for. -/
theorem FollowsRequests.request {setup : UsbSetupPacket} (h : FollowsRequests view core)
    (effect : Effect core (asked setup) core') :
    FollowsRequests (enumerationStep view (.request setup)) core' := by
  rw [enumerationStep]
  generalize asked setup = request at effect ⊢
  cases effect with
  | learns same speed =>
      exact
        { configuration := same.configuration.trans h.configuration
          speed := by
            rw [speed, same.pspd]
            rfl
          enabled := by
            rw [same.epEnable]
            exact h.enabled
          sized := by
            rw [same.epMps, same.pspd]
            exact h.sized }
  | closes => exact ⟨rfl, h.speed, h.enabled, h.sized⟩
  | opens => exact h.opens
  | ignores number setting unconfigured =>
      have hclosed : view.configured = false := by
        rw [Bool.eq_false_iff]
        intro hconfigured
        have hone := h.configuration
        rw [if_pos hconfigured, unconfigured] at hone
        cases hone
      dsimp only
      rw [if_neg fun hboth => Bool.eq_false_iff.mp hclosed hboth.1]
      exact h
  | chooses number setting configured intfAltsetting =>
      have hopen : view.configured = true := by
        by_contra hclosed
        exact configured (h.configuration.trans (if_neg hclosed))
      have hchooses := h.chooses number setting intfAltsetting
      have hboth : (view.configured = true ∧ setting = 0#8) ↔ setting = 0#8 :=
        and_iff_right hopen
      simp only [hboth]
      exact hchooses
  | other same speed =>
      exact
        { configuration := same.configuration.trans h.configuration
          speed := by
            rw [speed, same.pspd]
            exact h.speed
          enabled := by
            rw [same.epEnable]
            exact h.enabled
          sized := by
            rw [same.epMps, same.pspd]
            exact h.sized }

end Requests

section Runs

variable (pspds : ℕ → BitVec 2)

/-- In every run of the bus from a reset on, as long as the device stays within its arrays: it
has the configuration that the requests have brought about, an endpoint is enabled exactly if
its interface was opened by the configuration and not chosen anew since, and it takes packets
of the high-speed size exactly if the device descriptor was read, on a port at high speed,
before the configuration. -/
theorem enumeration_follows (device : Ep0 UsbdCore) (actions : List ControlAction)
    (s : ControlBus UsbdCore)
    (hrun : runActions (controlStep (exlinkRequests pspds))
      ⟨busReset (exlinkRequests pspds) device, none⟩ actions = some s)
    (hinside : s.device.core.lost = false) :
    FollowsRequests
      ((runLabels (controlStep (exlinkRequests pspds)) busEvents
        ⟨busReset (exlinkRequests pspds) device, none⟩ actions).foldl enumerationStep
          .unconfigured)
      s.device.core := by
  have hfollows := @core_follows _ (exlinkRequests pspds) s
    (busReset (exlinkRequests pspds) device) _ enumerationStep
    (fun view core => core.lost = true ∨ FollowsRequests view core)
    (by
      intro view core setup h
      change (executeTestMode setup core).lost = true ∨
        FollowsRequests view (executeTestMode setup core)
      rw [executeTestMode]
      split_ifs
      · exact h.imp_right fun h => ⟨h.configuration, h.speed, h.enabled, h.sized⟩
      · exact h)
    (by
      intro view core setup data h
      cases outcome_request setup data core with
      | loses strays lost => exact .inl lost
      | within inside effect =>
          exact h.imp (fun hlost => effect.lost.trans hlost) fun h => h.request effect)
    (fun view core h => h.imp_right fun _ => followsRequests_reset _ core)
    .unconfigured actions (.inr (followsRequests_reset _ _)) hrun
  refine hfollows.resolve_left fun hlost => ?_
  rw [hinside] at hlost
  cases hlost

theorem enumeration_follows_highSpeed :
    ∃ s, runActions (controlStep (exlinkRequests fun _ => 2#2))
        ⟨busReset (exlinkRequests fun _ => 2#2) coldDevice, none⟩ enumerationRun = some s ∧
      s.device.core.epMps 0x81#8 = 512#16 ∧
      FollowsRequests
        ((runLabels (controlStep (exlinkRequests fun _ => 2#2)) busEvents
          ⟨busReset (exlinkRequests fun _ => 2#2) coldDevice, none⟩ enumerationRun).foldl
            enumerationStep .unconfigured)
        s.device.core := by
  have hrun : (runActions (controlStep (exlinkRequests fun _ => 2#2))
      ⟨busReset (exlinkRequests fun _ => 2#2) coldDevice, none⟩ enumerationRun).map (fun s =>
        (s.device.core.epMps 0x81#8, s.device.core.lost)) = some (512#16, false) := by
    decide +kernel
  obtain ⟨s, hs, hboth⟩ := Option.map_eq_some_iff.mp hrun
  exact ⟨s, hs, congrArg Prod.fst hboth,
    enumeration_follows (fun _ => 2#2) coldDevice enumerationRun s hs (congrArg Prod.snd hboth)⟩

end Runs

end ExLink.Usb
