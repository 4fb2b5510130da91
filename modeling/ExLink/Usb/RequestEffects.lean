/-
# What a request does to the device

The loops over the device's own descriptors, and from them all that a request can do:
nothing to the endpoints; close the configuration; open it, with the packet sizes for the
speed that the device has learnt; choose an interface; or leave an array.
-/

import ExLink.Usb.EndpointChoices

namespace ExLink.Usb

/-! ## The configuration of the device -/

/-- `config_descriptor_hs` or `config_descriptor_fs`. -/
def exlinkConfiguration (bulkMps : Word16) : ConfigDescriptor where
  header := exlinkConfigHeader usbDescriptorTypeConfiguration
  records := exlinkConfigRecords bulkMps
  headed := ⟨List.cons_ne_nil _ _, rfl⟩
  long := Nat.le_add_left 6 3
  typed := rfl
  total := by
    rw [length_flatten_exlinkConfigRecords]
    rfl
  inside := insideConfig_exlinkConfigRecords bulkMps

/-- The endpoints of the device. -/
def exlinkEndpoints (bulkMps : Word16) : List OwnedEndpoint :=
  [⟨0#8, 0#8, 0x01#8, bulkMps⟩, ⟨0#8, 0#8, 0x81#8, bulkMps⟩,
    ⟨1#8, 0#8, 0x02#8, bulkMps⟩, ⟨1#8, 0#8, 0x82#8, bulkMps⟩,
    ⟨2#8, 0#8, 0x83#8, exlinkHidMps⟩, ⟨2#8, 0#8, 0x03#8, exlinkHidMps⟩,
    ⟨3#8, 0#8, 0x84#8, 8#16⟩, ⟨4#8, 0#8, 0x05#8, bulkMps⟩, ⟨4#8, 0#8, 0x85#8, bulkMps⟩,
    ⟨5#8, 0#8, 0x86#8, 8#16⟩, ⟨6#8, 0#8, 0x07#8, bulkMps⟩, ⟨6#8, 0#8, 0x87#8, bulkMps⟩]

theorem ownedEndpoints_interface (number setting first alternate endpoints interfaceClass subClass
    protocol text : Byte) (rest : List (List Byte)) :
    ownedEndpoints number setting
        (usbInterfaceDescriptorInit first alternate endpoints interfaceClass subClass protocol
          text :: rest) =
      ownedEndpoints first alternate rest := rfl

theorem ownedEndpoints_endpoint (number setting address attributes : Byte) (mps : Word16)
    (interval : Byte) (rest : List (List Byte)) :
    ownedEndpoints number setting
        (usbEndpointDescriptorInit address attributes mps interval :: rest) =
      ⟨number, setting, address, mps⟩ :: ownedEndpoints number setting rest := by
  conv_rhs => rw [← Word16.ofBytes_low_high mps]
  rfl

theorem ownedEndpoints_other (number setting size : Byte) {type : Byte} (fields : List Byte)
    (rest : List (List Byte))
    (htype : type ∉ [usbDescriptorTypeInterface, usbDescriptorTypeEndpoint]) :
    ownedEndpoints number setting ((size :: type :: fields) :: rest) =
      ownedEndpoints number setting rest := by
  rw [List.mem_cons, List.mem_singleton, not_or] at htype
  rw [ownedEndpoints]
  exact (if_neg htype.1).trans (if_neg htype.2)

theorem endpoints_exlinkConfiguration (bulkMps : Word16) :
    (exlinkConfiguration bulkMps).endpoints = exlinkEndpoints bulkMps := by
  change ownedEndpoints 0xFF#8 0xFF#8 (exlinkConfigRecords bulkMps) = _
  rw [exlinkConfigRecords]
  simp only [cdcAcmDescriptorInit, List.cons_append, List.nil_append, ownedEndpoints_interface,
    ownedEndpoints_endpoint]
  rw [ownedEndpoints_other _ _ _ _ _ (by decide)]
  simp only [ownedEndpoints_endpoint]
  rw [ownedEndpoints_other _ _ _ _ _ (by decide)]
  simp only [ownedEndpoints_interface]
  rw [ownedEndpoints_other _ _ _ _ _ (by decide), ownedEndpoints_other _ _ _ _ _ (by decide),
    ownedEndpoints_other _ _ _ _ _ (by decide), ownedEndpoints_other _ _ _ _ _ (by decide)]
  simp only [ownedEndpoints_interface, ownedEndpoints_endpoint]
  rw [ownedEndpoints_other _ _ _ _ _ (by decide)]
  simp only [ownedEndpoints_interface]
  rw [ownedEndpoints_other _ _ _ _ _ (by decide), ownedEndpoints_other _ _ _ _ _ (by decide),
    ownedEndpoints_other _ _ _ _ _ (by decide), ownedEndpoints_other _ _ _ _ _ (by decide)]
  simp only [ownedEndpoints_interface, ownedEndpoints_endpoint]
  rfl

/-- The callback gives the configuration for the speed that the device has learnt. -/
theorem configDescriptorCallback_bytes (speed : Byte) :
    configDescriptorCallback speed = (exlinkConfiguration (bulkMpsAt speed)).bytes :=
  configDescriptorCallback_eq speed

/-- The device with all its endpoints open, for the speed that it has learnt. -/
def opened (core : UsbdCore) : UsbdCore :=
  ((exlinkEndpoints (bulkMpsAt core.speed)).map OwnedEndpoint.endpoint).foldl usbdSetEndpoint core

/-- `usbd_set_configuration` knows one configuration. -/
theorem usbdSetConfiguration_eq (value : Byte) (core : UsbdCore) :
    usbdSetConfiguration value 0#8 core =
      if value = 1#8 then some (true, opened core) else none := by
  have hvalue : (exlinkConfiguration (bulkMpsAt core.speed)).value = 1#8 := rfl
  have hall : (exlinkEndpoints (bulkMpsAt core.speed)).filter (·.setting = 0#8) =
      exlinkEndpoints (bulkMpsAt core.speed) := by
    apply List.filter_eq_self.mpr
    simp only [exlinkEndpoints, List.forall_mem_cons]
    simp
  rw [usbdSetConfiguration, configDescriptorCallback_bytes, setConfigurationWalk_eq,
    endpoints_exlinkConfiguration, hvalue, hall]
  by_cases h : value = 1#8
  · rw [if_pos h, if_pos h.symm, opened]
  · rw [if_neg h, if_neg fun h' => h h'.symm]

/-- `usbd_set_interface` goes through all the endpoints. -/
theorem usbdSetInterface_eq (iface setting : Byte) (core : UsbdCore) :
    usbdSetInterface iface setting core =
      some ((exlinkEndpoints (bulkMpsAt core.speed)).foldl (chooseEndpoint iface setting)
        core) := by
  rw [usbdSetInterface, configDescriptorCallback_bytes, setInterfaceWalk_eq,
    endpoints_exlinkConfiguration]

/-! ## Endpoints that are open -/

section Endpoints

variable (core : UsbdCore) (endpoints : List UsbEndpointDescriptor)

/-- Opening endpoints touches nothing but their packet sizes and enables. -/
theorem foldl_usbdSetEndpoint :
    endpoints.foldl usbdSetEndpoint core =
      { core with
        epMps := (endpoints.foldl usbdSetEndpoint core).epMps
        epEnable := (endpoints.foldl usbdSetEndpoint core).epEnable } := by
  induction endpoints generalizing core with
  | nil => rfl
  | cons ep rest ih => exact ih (usbdSetEndpoint core ep)

variable {core endpoints}

theorem epMps_foldl_usbdSetEndpoint_of_notMem {address : Byte}
    (h : address ∉ endpoints.map (·.bEndpointAddress)) :
    (endpoints.foldl usbdSetEndpoint core).epMps address = core.epMps address := by
  induction endpoints generalizing core with
  | nil => rfl
  | cons ep rest ih =>
      rw [List.map_cons, List.mem_cons, not_or] at h
      exact (ih h.2).trans (Function.update_of_ne h.1 ..)

theorem epMps_foldl_usbdSetEndpoint (hnodup : (endpoints.map (·.bEndpointAddress)).Nodup)
    {ep : UsbEndpointDescriptor} (hmem : ep ∈ endpoints) :
    (endpoints.foldl usbdSetEndpoint core).epMps ep.bEndpointAddress =
      ep.wMaxPacketSize &&& 0x7FF#16 := by
  induction endpoints generalizing core with
  | nil => exact absurd hmem List.not_mem_nil
  | cons first rest ih =>
      rw [List.map_cons, List.nodup_cons] at hnodup
      rcases List.mem_cons.mp hmem with rfl | hrest
      · exact (epMps_foldl_usbdSetEndpoint_of_notMem hnodup.1).trans (Function.update_self ..)
      · exact ih hnodup.2 hrest

end Endpoints

/-- All endpoints are open, with packets of the size that a speed stands for. -/
def OpenAt (speed : Byte) (core : UsbdCore) : Prop :=
  ∀ owned ∈ exlinkEndpoints (bulkMpsAt speed),
    core.epEnable owned.endpoint.bEndpointAddress = true ∧
      core.epMps owned.endpoint.bEndpointAddress = owned.endpoint.wMaxPacketSize

theorem bulkMpsAt_size (speed : Byte) : bulkMpsAt speed &&& 0x7FF#16 = bulkMpsAt speed := by
  rw [bulkMpsAt]
  split_ifs
  · rfl
  · rfl

/-- No packet size has other bits set. -/
theorem wMaxPacketSize_exlinkEndpoints {bulkMps : Word16}
    (hbulk : bulkMps &&& 0x7FF#16 = bulkMps) :
    ∀ owned ∈ exlinkEndpoints bulkMps,
      owned.endpoint.wMaxPacketSize &&& 0x7FF#16 = owned.endpoint.wMaxPacketSize := by
  simp only [exlinkEndpoints, List.forall_mem_cons]
  exact ⟨hbulk, hbulk, hbulk, hbulk, rfl, rfl, rfl, hbulk, hbulk, rfl, hbulk, hbulk,
    fun _ hnone => absurd hnone List.not_mem_nil⟩

theorem openAt_opened (core : UsbdCore) : OpenAt core.speed (opened core) := by
  intro owned howned
  have hmem := List.mem_map_of_mem (f := OwnedEndpoint.endpoint) howned
  have hnodup : (((exlinkEndpoints (bulkMpsAt core.speed)).map OwnedEndpoint.endpoint).map
      (·.bEndpointAddress)).Nodup := by
    change [0x01#8, 0x81#8, 0x02#8, 0x82#8, 0x83#8, 0x03#8, 0x84#8, 0x05#8, 0x85#8, 0x86#8,
      0x07#8, 0x87#8].Nodup
    decide
  have hsize := wMaxPacketSize_exlinkEndpoints (bulkMpsAt_size core.speed) owned howned
  constructor
  · rw [opened, epEnable_foldl_usbdSetEndpoint, Bool.or_eq_true, List.any_eq_true]
    exact .inr ⟨owned.endpoint, hmem, decide_eq_true rfl⟩
  · exact (epMps_foldl_usbdSetEndpoint hnodup hmem).trans hsize

/-! ## Requests -/

/-- The type and the recipient of a request. -/
def UsbSetupPacket.To (setup : UsbSetupPacket) (kind recipient : Byte) : Prop :=
  setup.kind = kind ∧ setup.recipient = recipient

instance (setup : UsbSetupPacket) (kind recipient : Byte) :
    Decidable (setup.To kind recipient) := by
  unfold UsbSetupPacket.To
  infer_instance

/-- The requests that make the device leave an array: a configuration that it does not have,
an interface number past `intf_altsetting`, a line coding that is longer than
`struct cdc_line_coding`. A halt of endpoint 0 itself is counted with them. -/
def Strays (setup : UsbSetupPacket) (core : UsbdCore) : Prop :=
  setup.To 0x00#8 0#8 ∧ setup.bRequest = usbRequestSetConfiguration ∧
      setup.wValue.lowByte ≠ 0#8 ∧ setup.wValue.lowByte ≠ 1#8 ∨
    setup.To 0x00#8 1#8 ∧ core.configuration ≠ 0#8 ∧
      (setup.bRequest = usbRequestGetInterface ∨ setup.bRequest = usbRequestSetInterface) ∧
      16 ≤ setup.wIndex.lowByte.toNat ∨
    setup.To 0x00#8 2#8 ∧ core.configuration ≠ 0#8 ∧ setup.bRequest = usbRequestSetFeature ∧
      setup.wValue = 0#16 ∧ setup.wIndex.lowByte &&& 0x0F#8 = 0#8 ∨
    setup.To 0x20#8 1#8 ∧ CdcInterface setup.wIndex.lowByte ∧
      setup.bRequest = cdcRequestSetLineCoding ∧ lineCodingSize < setup.wLength.toNat

instance (setup : UsbSetupPacket) (core : UsbdCore) : Decidable (Strays setup core) := by
  unfold Strays
  infer_instance

/-- What a request is to the configuration of the device. -/
inductive Asked where
  | learns
  | closes
  | opens
  | chooses (number setting : Byte)
  | other
  deriving DecidableEq

/-- The device descriptor, a configuration, an interface, or something else. -/
def asked (setup : UsbSetupPacket) : Asked :=
  if setup.To 0x00#8 0#8 then
    if setup.bRequest = usbRequestGetDescriptor then
      if setup.wValue.highByte = usbDescriptorTypeDevice then .learns else .other
    else if setup.bRequest = usbRequestSetConfiguration then
      if setup.wValue.lowByte = 0#8 then .closes else .opens
    else .other
  else if setup.To 0x00#8 1#8 ∧ setup.bRequest = usbRequestSetInterface then
    .chooses setup.wIndex.lowByte setup.wValue.lowByte
  else .other

/-- The configuration, the endpoints and the bus stay as they are. -/
structure Keeps (core core' : UsbdCore) : Prop where
  configuration : core'.configuration = core.configuration
  epMps : core'.epMps = core.epMps
  epEnable : core'.epEnable = core.epEnable
  pspd : core'.pspd = core.pspd
  lost : core'.lost = core.lost

/-- All that a request does to a device that stays within its arrays. -/
inductive Effect (core : UsbdCore) : Asked → UsbdCore → Prop where
  | learns {core' : UsbdCore} (same : Keeps core core')
      (speed : core'.speed = usbdGetPortSpeed core.pspd) : Effect core .learns core'
  | closes : Effect core .closes { core with configuration := 0#8 }
  | opens :
      Effect core .opens
        { opened core with
          configuration := 1#8
          events := (opened core).events ++ [.configured] }
  | ignores (number setting : Byte) (unconfigured : core.configuration = 0#8) :
      Effect core (.chooses number setting) core
  | chooses (number setting : Byte) (configured : core.configuration ≠ 0#8)
      (intfAltsetting : Byte → Byte) :
      Effect core (.chooses number setting)
        ((exlinkEndpoints (bulkMpsAt core.speed)).foldl (chooseEndpoint number setting)
          { core with intfAltsetting := intfAltsetting })
  | other {core' : UsbdCore} (same : Keeps core core') (speed : core'.speed = core.speed) :
      Effect core .other core'

/-- What became of a request. -/
inductive Outcome (setup : UsbSetupPacket) (core : UsbdCore) : UsbdCore → Prop where
  | loses (strays : Strays setup core) {core' : UsbdCore} (lost : core'.lost = true) :
      Outcome setup core core'
  | within (inside : ¬ Strays setup core) {core' : UsbdCore}
      (effect : Effect core (asked setup) core') : Outcome setup core core'

section Effects

variable {setup : UsbSetupPacket} (data : RequestData) {core : UsbdCore}

theorem Keeps.refl (core : UsbdCore) : Keeps core core := ⟨rfl, rfl, rfl, rfl, rfl⟩

theorem Outcome.same (inside : ¬ Strays setup core) (hasked : asked setup = .other) :
    Outcome setup core core := by
  refine .within inside ?_
  rw [hasked]
  exact .other (.refl core) rfl

theorem Outcome.kept {core' : UsbdCore} (inside : ¬ Strays setup core)
    (hasked : asked setup = .other) (same : Keeps core core') (speed : core'.speed = core.speed) :
    Outcome setup core core' := by
  refine .within inside ?_
  rw [hasked]
  exact .other same speed

theorem asked_other (hdevice : ¬ setup.To 0x00#8 0#8)
    (hinterface : ¬ (setup.To 0x00#8 1#8 ∧ setup.bRequest = usbRequestSetInterface)) :
    asked setup = .other := by
  rw [asked, if_neg hdevice, if_neg hinterface]

variable (core) in
theorem strays_device (h : setup.To 0x00#8 0#8) :
    Strays setup core ↔
      setup.bRequest = usbRequestSetConfiguration ∧ setup.wValue.lowByte ≠ 0#8 ∧
        setup.wValue.lowByte ≠ 1#8 := by
  simp [Strays, UsbSetupPacket.To, h.1, h.2]

variable (core) in
theorem strays_interface (h : setup.To 0x00#8 1#8) :
    Strays setup core ↔
      core.configuration ≠ 0#8 ∧
        (setup.bRequest = usbRequestGetInterface ∨ setup.bRequest = usbRequestSetInterface) ∧
        16 ≤ setup.wIndex.lowByte.toNat := by
  simp [Strays, UsbSetupPacket.To, h.1, h.2]

variable (core) in
theorem strays_endpoint (h : setup.To 0x00#8 2#8) :
    Strays setup core ↔
      core.configuration ≠ 0#8 ∧ setup.bRequest = usbRequestSetFeature ∧
        setup.wValue = 0#16 ∧ setup.wIndex.lowByte &&& 0x0F#8 = 0#8 := by
  simp [Strays, UsbSetupPacket.To, h.1, h.2]

variable (core) in
theorem strays_class (h : setup.To 0x20#8 1#8) :
    Strays setup core ↔
      CdcInterface setup.wIndex.lowByte ∧ setup.bRequest = cdcRequestSetLineCoding ∧
        lineCodingSize < setup.wLength.toNat := by
  simp [Strays, UsbSetupPacket.To, h.1, h.2]

/-- A request of another kind stays within the arrays. -/
theorem not_strays_of_other
    (h : ∀ place ∈ [(0x00#8, 0#8), (0x00#8, 1#8), (0x00#8, 2#8), (0x20#8, 1#8)],
      ¬ setup.To place.1 place.2) : ¬ Strays setup core := by
  simp only [List.forall_mem_cons] at h
  rintro (hplace | hplace | hplace | hplace)
  · exact h.1 hplace.1
  · exact h.2.1 hplace.1
  · exact h.2.2.1 hplace.1
  · exact h.2.2.2.1 hplace.1

theorem usbdGetDescriptor_core (typeIndex : Word16) :
    Keeps core (usbdGetDescriptor typeIndex data core).2 ∧
      (usbdGetDescriptor typeIndex data core).2.speed =
        if typeIndex.highByte = usbDescriptorTypeDevice then usbdGetPortSpeed core.pspd
        else core.speed := by
  rw [usbdGetDescriptor]
  dsimp only
  by_cases hdevice : typeIndex.highByte = usbDescriptorTypeDevice
  · rw [if_pos hdevice, if_pos hdevice]
    exact ⟨⟨rfl, rfl, rfl, rfl, rfl⟩, rfl⟩
  · rw [if_neg hdevice, if_neg hdevice]
    split_ifs
    · exact ⟨⟨rfl, rfl, rfl, rfl, rfl⟩, rfl⟩
    · exact ⟨.refl core, rfl⟩
    · cases (stringDescriptorCallback typeIndex.lowByte).bind (stringBytes typeIndex.lowByte)
      · exact ⟨.refl core, rfl⟩
      · exact ⟨.refl core, rfl⟩
    · exact ⟨.refl core, rfl⟩
    · exact ⟨.refl core, rfl⟩
    · exact ⟨.refl core, rfl⟩
    · exact ⟨.refl core, rfl⟩

theorem deviceFeature_core :
    Keeps core (deviceFeature setup core) ∧ (deviceFeature setup core).speed = core.speed := by
  rw [deviceFeature]
  split_ifs
  all_goals exact ⟨⟨rfl, rfl, rfl, rfl, rfl⟩, rfl⟩

theorem outcome_getDescriptor (h : setup.To 0x00#8 0#8)
    (hrequest : setup.bRequest = usbRequestGetDescriptor) :
    Outcome setup core (usbdGetDescriptor setup.wValue data core).2 := by
  obtain ⟨hkeeps, hspeed⟩ := @usbdGetDescriptor_core data core setup.wValue
  have hinside : ¬ Strays setup core := by
    rw [strays_device core h, hrequest]
    rintro ⟨hother, -⟩
    cases hother
  refine .within hinside ?_
  rw [asked, if_pos h, if_pos hrequest]
  by_cases hdevice : setup.wValue.highByte = usbDescriptorTypeDevice
  · rw [if_pos hdevice] at hspeed ⊢
    exact .learns hkeeps hspeed
  · rw [if_neg hdevice] at hspeed ⊢
    exact .other hkeeps hspeed

theorem outcome_setConfiguration (h : setup.To 0x00#8 0#8)
    (hrequest : setup.bRequest = usbRequestSetConfiguration) :
    Outcome setup core (setConfiguration setup.wValue.lowByte data core).2 := by
  have hstrays := strays_device core h
  have hasked : asked setup = if setup.wValue.lowByte = 0#8 then .closes else .opens := by
    rw [asked, if_pos h, hrequest]
    rfl
  rw [setConfiguration]
  by_cases hzero : setup.wValue.lowByte = 0#8
  · rw [if_pos hzero] at hasked ⊢
    refine .within (fun hs => (hstrays.mp hs).2.1 hzero) ?_
    rw [hasked]
    exact .closes
  · rw [if_neg hzero] at hasked ⊢
    rw [usbdSetConfiguration_eq]
    by_cases hone : setup.wValue.lowByte = 1#8
    · rw [if_pos hone, hone]
      refine .within (fun hs => (hstrays.mp hs).2.2 hone) ?_
      rw [hasked]
      exact .opens
    · rw [if_neg hone]
      exact .loses (hstrays.mpr ⟨hrequest, hzero, hone⟩) rfl

theorem outcome_device (h : setup.To 0x00#8 0#8) :
    Outcome setup core (usbdStdDeviceReqHandler setup data core).2 := by
  rw [usbdStdDeviceReqHandler]
  by_cases hset : setup.bRequest = usbRequestSetConfiguration
  · rw [hset]
    exact outcome_setConfiguration data h hset
  by_cases hget : setup.bRequest = usbRequestGetDescriptor
  · rw [hget]
    exact outcome_getDescriptor data h hget
  have hinside : ¬ Strays setup core := fun hs => hset ((strays_device core h).mp hs).1
  have hasked : asked setup = .other := by
    rw [asked, if_pos h, if_neg hget, if_neg hset]
  split_ifs
  · exact .same hinside hasked
  · exact .kept hinside hasked deviceFeature_core.1 deviceFeature_core.2
  · exact .kept hinside hasked ⟨rfl, rfl, rfl, rfl, rfl⟩ rfl
  · exact .same hinside hasked
  · exact .same hinside hasked

/-- The search for a descriptor does nothing to the device. -/
theorem interfaceDescriptor_core (type intfNum : Byte) :
    (interfaceDescriptor type intfNum data core).2 = core := by
  rw [interfaceDescriptor, configDescriptorCallback_bytes, hidDescriptorWalk_eq]
  split_ifs
  · cases hidDescriptorOf intfNum 0xFF#8 (exlinkConfiguration (bulkMpsAt core.speed)).records
    · rfl
    · rfl
  · rfl
  · rfl
  · rfl
  · rfl

theorem not_to_device (h : setup.To 0x00#8 1#8) : ¬ setup.To 0x00#8 0#8 := by
  rintro ⟨-, hdevice⟩
  cases h.2.symm.trans hdevice

/-- Choosing an interface. -/
theorem outcome_setInterface (h : setup.To 0x00#8 1#8)
    (hrequest : setup.bRequest = usbRequestSetInterface) :
    Outcome setup core (usbdStdInterfaceReqHandler setup data core).2 := by
  have hstrays := strays_interface core h
  have hasked : asked setup = .chooses setup.wIndex.lowByte setup.wValue.lowByte := by
    rw [asked, if_neg (not_to_device h), if_pos ⟨h, hrequest⟩]
  rw [usbdStdInterfaceReqHandler]
  dsimp only
  by_cases hconfigured : core.configuration = 0#8
  · rw [if_pos hconfigured]
    refine .within (fun hs => (hstrays.mp hs).1 hconfigured) ?_
    rw [hasked]
    exact .ignores _ _ hconfigured
  · rw [if_neg hconfigured, hrequest]
    by_cases hinside : setup.wIndex.lowByte.toNat < 16
    · rw [usbdSetInterface_eq, if_pos hinside, if_pos hinside]
      refine .within (fun hs => Nat.not_le.mpr hinside (hstrays.mp hs).2.2) ?_
      rw [hasked]
      exact .chooses _ _ hconfigured _
    · rw [if_neg hinside, if_neg hinside]
      exact .loses (hstrays.mpr ⟨hconfigured, .inr hrequest, Nat.not_lt.mp hinside⟩) rfl

theorem outcome_interface (h : setup.To 0x00#8 1#8) :
    Outcome setup core (usbdStdInterfaceReqHandler setup data core).2 := by
  by_cases hset : setup.bRequest = usbRequestSetInterface
  · exact outcome_setInterface data h hset
  have hstrays := strays_interface core h
  have hasked := asked_other (not_to_device h) fun hother => hset hother.2
  have hother : ∀ code, ¬ (code = usbRequestGetInterface ∨ code = usbRequestSetInterface) →
      setup.bRequest = code → ¬ Strays setup core := by
    rintro code hcode rfl hs
    exact hcode (hstrays.mp hs).2.1
  rw [usbdStdInterfaceReqHandler]
  dsimp only
  rw [if_neg hset]
  split_ifs with hconfigured hstatus hdescriptor hget hinside
  · exact .same (fun hs => (hstrays.mp hs).1 hconfigured) hasked
  · exact .same (hother _ (by decide) hstatus) hasked
  · rw [interfaceDescriptor_core]
    exact .same (hother _ (by decide) hdescriptor) hasked
  · exact .same (fun hs => Nat.not_le.mpr hinside (hstrays.mp hs).2.2) hasked
  · exact .loses (hstrays.mpr ⟨hconfigured, .inl hget, Nat.not_lt.mp hinside⟩) rfl
  · exact .same (fun hs => (hstrays.mp hs).2.1.elim hget hset) hasked

theorem outcome_endpoint (h : setup.To 0x00#8 2#8) :
    Outcome setup core (usbdStdEndpointReqHandler setup data core).2 := by
  have hstrays := strays_endpoint core h
  have hasked : asked setup = .other := by
    apply asked_other
    · rintro ⟨-, hdevice⟩
      cases h.2.symm.trans hdevice
    · rintro ⟨⟨-, hinterface⟩, -⟩
      cases h.2.symm.trans hinterface
  rw [usbdStdEndpointReqHandler]
  by_cases hlost : Strays setup core
  · obtain ⟨hconfigured, hrequest, hvalue, hzero⟩ := hstrays.mp hlost
    rw [if_neg hconfigured, hrequest, hvalue, if_pos hzero]
    exact .loses hlost rfl
  · split_ifs with hconfigured hstatus hclear hvalue hset hhalt hzero
    · exact .same hlost hasked
    · exact .same hlost hasked
    · exact .kept hlost hasked ⟨rfl, rfl, rfl, rfl, rfl⟩ rfl
    · exact .same hlost hasked
    · exact absurd (hstrays.mpr ⟨hconfigured, hset, hhalt, hzero⟩) hlost
    · exact .kept hlost hasked ⟨rfl, rfl, rfl, rfl, rfl⟩ rfl
    · exact .same hlost hasked
    · exact .same hlost hasked

/-- Neither class nor vendor requests are about the configuration. -/
theorem asked_of_kind (h : setup.kind ≠ 0x00#8) : asked setup = .other :=
  asked_other (fun hdevice => h hdevice.1) fun hinterface => h hinterface.1.1

theorem outcome_class (h : setup.kind = 0x20#8) :
    Outcome setup core (usbdClassRequestHandler setup data core).2 := by
  have hasked : asked setup = .other := by
    apply asked_of_kind
    rw [h]
    decide
  rw [usbdClassRequestHandler]
  by_cases hrecipient : setup.recipient = 1#8
  · have hstrays := strays_class core ⟨h, hrecipient⟩
    rw [if_pos hrecipient]
    by_cases hlost : Strays setup core
    · obtain ⟨hnumber, hrequest, hlong⟩ := hstrays.mp hlost
      have hhid : setup.wIndex.lowByte ≠ 2#8 := by
        intro htwo
        rw [htwo] at hnumber
        revert hnumber
        decide
      rw [if_neg hhid, if_pos hnumber, cdcAcmClassInterfaceRequestHandler, if_pos hrequest,
        if_neg (Nat.not_le.mpr hlong)]
      exact .loses hlost rfl
    · rw [hidClassInterfaceRequestHandler, cdcAcmClassInterfaceRequestHandler]
      split_ifs with _ _ _ hnumber hrequest hshort
      · exact .same hlost hasked
      · exact .same hlost hasked
      · exact .same hlost hasked
      · exact .same hlost hasked
      · exact absurd (hstrays.mpr ⟨hnumber, hrequest, Nat.not_le.mp hshort⟩) hlost
      · exact .same hlost hasked
      · exact .same hlost hasked
      · exact .same hlost hasked
      · exact .same hlost hasked
  · rw [if_neg hrecipient]
    refine .same (not_strays_of_other ?_) hasked
    simp [UsbSetupPacket.To, h, hrecipient]

/-- Whatever the host asks for. -/
theorem outcome_request (setup : UsbSetupPacket) (data : RequestData) (core : UsbdCore) :
    Outcome setup core (usbdSetupRequestHandler setup data core).2 := by
  rw [usbdSetupRequestHandler]
  by_cases hstandard : setup.kind = 0x00#8
  · rw [if_pos hstandard, usbdStandardRequestHandler]
    split_ifs with hdevice hinterface hendpoint
    · exact outcome_device data ⟨hstandard, hdevice⟩
    · exact outcome_interface data ⟨hstandard, hinterface⟩
    · exact outcome_endpoint data ⟨hstandard, hendpoint⟩
    · refine .same (not_strays_of_other ?_) (asked_other (fun h => hdevice h.2) fun h =>
        hinterface h.1.2)
      simp [UsbSetupPacket.To, hstandard, hdevice, hinterface, hendpoint]
  · rw [if_neg hstandard]
    split_ifs with hclass hvendor
    · exact outcome_class data hclass
    · have hsame : (usbdVendorRequestHandler setup data core).2 = core := by
        rw [usbdVendorRequestHandler]
        split_ifs
        · rfl
        · rfl
      rw [hsame]
      refine .same (not_strays_of_other ?_) (asked_of_kind hstandard)
      simp [UsbSetupPacket.To, hvendor]
    · refine .same (not_strays_of_other ?_) (asked_of_kind hstandard)
      simp [UsbSetupPacket.To, hstandard, hclass]

end Effects

end ExLink.Usb
