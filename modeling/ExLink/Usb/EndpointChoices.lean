/-
# The endpoints of any configuration

What the loops of `usbd_core.c` make of the endpoints does not depend on the descriptors of
this device. For whatever configuration, and in whatever order it is set and its interfaces
are chosen, the loops stay within the array, and the choices decide what is enabled. Only
setting 0 of an interface closes endpoints: another setting opens its own, and leaves open
those of the setting before it.
-/

import ExLink.Automata.Transition
import ExLink.Usb.DescriptorWalks

namespace ExLink.Usb

open ExLink.Automata

/-- A setting for the whole configuration, or for one interface. -/
inductive EndpointChoice where
  | configure (setting : Byte)
  | choose (iface setting : Byte)

/-- The loop that a choice runs. -/
def endpointChoice (config : ConfigDescriptor) (core : UsbdCore) :
    EndpointChoice → Option UsbdCore
  | .configure setting =>
      (setConfigurationWalk config.bytes config.value setting core).map Prod.snd
  | .choose iface setting => setInterfaceWalk config.bytes iface setting core

/-- Whether the endpoint at an address is enabled after a choice. -/
def enabledAfter (config : ConfigDescriptor) (address : Byte) (enabled : Bool) :
    EndpointChoice → Bool
  | .configure setting =>
      enabled || config.endpoints.any fun owned =>
        decide (owned.setting = setting ∧ address = owned.endpoint.bEndpointAddress)
  | .choose iface setting =>
      if setting = 0#8 then
        enabled && !config.endpoints.any fun owned =>
          decide (owned.number = iface ∧ address = owned.endpoint.bEndpointAddress)
      else
        enabled || config.endpoints.any fun owned =>
          decide (owned.number = iface ∧ owned.setting = setting ∧
            address = owned.endpoint.bEndpointAddress)

/-! ## Endpoint by endpoint -/

section Endpoints

variable (core : UsbdCore) (iface setting address : Byte)

theorem epEnable_usbdSetEndpoint (ep : UsbEndpointDescriptor) :
    (usbdSetEndpoint core ep).epEnable address =
      (core.epEnable address || decide (address = ep.bEndpointAddress)) := by
  by_cases hsame : address = ep.bEndpointAddress
  · rw [decide_eq_true hsame, Bool.or_true, hsame]
    exact Function.update_self ..
  · rw [decide_eq_false hsame, Bool.or_false]
    exact Function.update_of_ne hsame ..

theorem epEnable_foldl_usbdSetEndpoint (endpoints : List UsbEndpointDescriptor) :
    (endpoints.foldl usbdSetEndpoint core).epEnable address =
      (core.epEnable address ||
        endpoints.any fun ep => decide (address = ep.bEndpointAddress)) := by
  induction endpoints generalizing core with
  | nil => rw [List.any_nil, Bool.or_false, List.foldl_nil]
  | cons ep rest ih =>
      rw [List.foldl_cons, ih, epEnable_usbdSetEndpoint, List.any_cons, Bool.or_assoc]

theorem epEnable_close (owned : OwnedEndpoint) :
    (chooseEndpoint iface 0#8 core owned).epEnable address =
      if owned.number = iface ∧ address = owned.endpoint.bEndpointAddress then false
      else core.epEnable address := by
  rw [chooseEndpoint, if_pos rfl]
  by_cases hnumber : owned.number = iface
  · rw [if_pos hnumber]
    by_cases hsame : address = owned.endpoint.bEndpointAddress
    · rw [if_pos ⟨hnumber, hsame⟩, hsame]
      exact Function.update_self ..
    · rw [if_neg fun h => hsame h.2]
      exact Function.update_of_ne hsame ..
  · rw [if_neg hnumber, if_neg fun h => hnumber h.1]

/-- The endpoints of the interface are closed, whatever setting they belong to. -/
theorem epEnable_foldl_close_any (endpoints : List OwnedEndpoint) :
    (endpoints.foldl (chooseEndpoint iface 0#8) core).epEnable address =
      (core.epEnable address && !endpoints.any fun owned =>
        decide (owned.number = iface ∧ address = owned.endpoint.bEndpointAddress)) := by
  induction endpoints generalizing core with
  | nil => rw [List.any_nil, Bool.not_false, Bool.and_true, List.foldl_nil]
  | cons owned rest ih =>
      rw [List.foldl_cons, ih, epEnable_close, List.any_cons, Bool.not_or, ← Bool.and_assoc]
      by_cases hclosed : owned.number = iface ∧ address = owned.endpoint.bEndpointAddress
      · rw [if_pos hclosed, decide_eq_true hclosed, Bool.not_true, Bool.and_false]
      · rw [if_neg hclosed, decide_eq_false hclosed, Bool.not_false, Bool.and_true]

variable {setting} in
theorem epEnable_open (hsetting : setting ≠ 0#8) (owned : OwnedEndpoint) :
    (chooseEndpoint iface setting core owned).epEnable address =
      (core.epEnable address || decide (owned.number = iface ∧ owned.setting = setting ∧
        address = owned.endpoint.bEndpointAddress)) := by
  rw [chooseEndpoint, if_neg hsetting]
  by_cases hnumber : owned.number = iface
  · rw [if_pos hnumber]
    by_cases hopens : owned.setting = setting
    · rw [if_pos hopens, epEnable_usbdSetEndpoint]
      simp only [hnumber, hopens, true_and]
    · rw [if_neg hopens, decide_eq_false fun h => hopens h.2.1, Bool.or_false]
  · rw [if_neg hnumber, decide_eq_false fun h => hnumber h.1, Bool.or_false]

variable {setting} in
/-- The endpoints of the setting are opened, and none is closed. -/
theorem epEnable_foldl_open (hsetting : setting ≠ 0#8) (endpoints : List OwnedEndpoint) :
    (endpoints.foldl (chooseEndpoint iface setting) core).epEnable address =
      (core.epEnable address || endpoints.any fun owned =>
        decide (owned.number = iface ∧ owned.setting = setting ∧
          address = owned.endpoint.bEndpointAddress)) := by
  induction endpoints generalizing core with
  | nil => rw [List.any_nil, Bool.or_false, List.foldl_nil]
  | cons owned rest ih =>
      rw [List.foldl_cons, ih, epEnable_open core iface address hsetting, List.any_cons,
        Bool.or_assoc]

end Endpoints

/-! ## Choice by choice -/

section Choices

variable (config : ConfigDescriptor) (core : UsbdCore)

/-- One loop. -/
theorem endpointChoice_enabled (choice : EndpointChoice) :
    ∃ next, endpointChoice config core choice = some next ∧
      ∀ address, next.epEnable address =
        enabledAfter config address (core.epEnable address) choice := by
  cases choice with
  | configure setting =>
      rw [endpointChoice, setConfigurationWalk_eq, if_pos rfl]
      refine ⟨_, rfl, fun address => ?_⟩
      rw [epEnable_foldl_usbdSetEndpoint, enabledAfter, List.any_map, List.any_filter]
      simp only [Function.comp_def, Bool.decide_and]
  | choose iface setting =>
      rw [endpointChoice, setInterfaceWalk_eq]
      refine ⟨_, rfl, fun address => ?_⟩
      rw [enabledAfter]
      by_cases hzero : setting = 0#8
      · rw [if_pos hzero, hzero, epEnable_foldl_close_any]
      · rw [if_neg hzero, epEnable_foldl_open core iface address hzero]

/-- For every configuration descriptor and every sequence of choices, from whatever endpoints
are enabled: every loop ends within the array, and the choices alone decide which endpoints
are enabled in the end. -/
theorem endpointChoices_enabled (choices : List EndpointChoice) :
    ∃ final, runActions (endpointChoice config) core choices = some final ∧
      ∀ address, final.epEnable address =
        choices.foldl (enabledAfter config address) (core.epEnable address) := by
  induction choices generalizing core with
  | nil => exact ⟨core, rfl, fun _ => rfl⟩
  | cons choice rest ih =>
      obtain ⟨next, hnext, henabled⟩ := endpointChoice_enabled config core choice
      obtain ⟨final, hfinal, hrest⟩ := ih next
      refine ⟨final, runActions_cons_eq_some.mpr ⟨next, hnext, hfinal⟩, fun address => ?_⟩
      rw [hrest, henabled, List.foldl_cons]

end Choices

end ExLink.Usb
