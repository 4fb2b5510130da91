/-
# Loops over a configuration descriptor

The loops of `usbd_core.c` over a configuration descriptor, whatever it describes: a header
that gives the length of the whole, and descriptors behind it. They see every descriptor once
and end with the last one, unless the header was not the one looked for: then the length is
never learnt, and the loop runs on past the array.
-/

import ExLink.Usb.DeviceRequests

namespace ExLink.Usb

/-! ## Configurations -/

/-- A configuration descriptor: its header is a record that gives the length of the whole. -/
structure ConfigDescriptor where
  header : List Byte
  records : List (List Byte)
  headed : IsRecord header
  long : 6 ≤ header.length
  typed : header.getD 1 0#8 = usbDescriptorTypeConfiguration
  total : (Word16.ofBytes (header.getD 2 0#8) (header.getD 3 0#8)).toNat =
    header.length + records.flatten.length
  inside : ∀ record ∈ records, InsideConfig record

/-- The array. -/
def ConfigDescriptor.bytes (config : ConfigDescriptor) : List Byte :=
  config.header ++ config.records.flatten

/-- `bConfigurationValue`. -/
def ConfigDescriptor.value (config : ConfigDescriptor) : Byte := config.header.getD 5 0#8

/-- An endpoint with the interface and the alternate setting that it belongs to. -/
structure OwnedEndpoint where
  number : Byte
  setting : Byte
  endpoint : UsbEndpointDescriptor

/-- The endpoints of some descriptors, behind an interface with a number and a setting. -/
def ownedEndpoints : Byte → Byte → List (List Byte) → List OwnedEndpoint
  | _, _, [] => []
  | number, setting, record :: rest =>
      if record.getD 1 0#8 = usbDescriptorTypeInterface then
        ownedEndpoints (record.getD 2 0#8) (record.getD 3 0#8) rest
      else if record.getD 1 0#8 = usbDescriptorTypeEndpoint then
        ⟨number, setting, record.getD 2 0#8,
            Word16.ofBytes (record.getD 4 0#8) (record.getD 5 0#8)⟩ ::
          ownedEndpoints number setting rest
      else ownedEndpoints number setting rest

/-- The endpoints of a configuration. -/
def ConfigDescriptor.endpoints (config : ConfigDescriptor) : List OwnedEndpoint :=
  ownedEndpoints 0xFF#8 0xFF#8 config.records

/-- The HID descriptor of an interface, behind an interface with a number. -/
def hidDescriptorOf (intfNum : Byte) : Byte → List (List Byte) → Option (List Byte)
  | _, [] => none
  | number, record :: rest =>
      if record.getD 1 0#8 = usbDescriptorTypeInterface then
        hidDescriptorOf intfNum (record.getD 2 0#8) rest
      else if record.getD 1 0#8 = hidDescriptorTypeHid ∧ number = intfNum then some record
      else hidDescriptorOf intfNum number rest

/-! ## Descriptors one by one -/

section Records

variable {record : List Byte}

theorem getElem?_own {index : ℕ} (hindex : index < record.length) (behind : List Byte) :
    (record ++ behind)[index]? = some (record.getD index 0#8) := by
  rw [List.getElem?_append_left hindex, List.getElem?_eq_getElem hindex,
    List.getD_eq_getElem _ _ hindex]

theorem wTotalLength_own (hlength : 4 ≤ record.length) (behind : List Byte) :
    wTotalLength (record ++ behind) =
      some (Word16.ofBytes (record.getD 2 0#8) (record.getD 3 0#8)).toNat := by
  rw [wTotalLength, getElem?_own (Nat.lt_of_lt_of_le (by decide) hlength),
    getElem?_own (Nat.lt_of_lt_of_le (by decide) hlength)]
  rfl

theorem usbEndpointDescriptorAt_own (hlength : 6 ≤ record.length) (behind : List Byte) :
    usbEndpointDescriptorAt (record ++ behind) =
      some ⟨record.getD 2 0#8, Word16.ofBytes (record.getD 4 0#8) (record.getD 5 0#8)⟩ := by
  rw [usbEndpointDescriptorAt, getElem?_own (Nat.lt_of_lt_of_le (by decide) hlength),
    getElem?_own (Nat.lt_of_lt_of_le (by decide) hlength),
    getElem?_own (Nat.lt_of_lt_of_le (by decide) hlength)]
  rfl

/-- A body that makes one step of every descriptor, with what is behind it out of sight. -/
theorem plain_of_step {σ ρ : Type} {visit : List Byte → σ → Option (Visit σ ρ)}
    {step : σ → σ}
    (hvisit : ∀ behind state, visit (record ++ behind) state = some (.next (step state) none)) :
    Plain visit record ∧ ∀ state, visit record state = some (.next (step state) none) := by
  have halone : ∀ state, visit record state = some (.next (step state) none) := by
    intro state
    have h := hvisit [] state
    rwa [List.append_nil] at h
  refine ⟨⟨fun behind state => (hvisit behind state).trans (halone state).symm, ?_⟩, halone⟩
  intro state state' total hnext
  cases (halone state).symm.trans hnext
  rfl

/-- A loop that learns the length from the header sees the descriptors one by one. -/
theorem walkRecords_config {σ ρ : Type} {visit : List Byte → σ → Option (Visit σ ρ)}
    (config : ConfigDescriptor) {state state' : σ}
    (hheader : ∀ behind, visit (config.header ++ behind) state =
      some (.next state' (some (config.header.length + config.records.flatten.length))))
    (hplain : ∀ record ∈ config.records, Plain visit record) :
    walkRecords visit 0 0 state config.bytes = visitRecords visit config.records state' := by
  have hwalk := walkRecords_header config.headed
    (fun record hrecord => ⟨(config.inside record hrecord).isRecord, hplain record hrecord⟩)
    hheader [] 0 0
  rwa [List.append_nil] at hwalk

end Records

/-! ## Opening a configuration -/

section SetConfiguration

variable {index setting : Byte} {record : List Byte}

/-- What `usbd_set_configuration` makes of a descriptor. -/
def configWalkStep (index setting : Byte) (record : List Byte) (s : ConfigWalk) : ConfigWalk :=
  if record.getD 1 0#8 = usbDescriptorTypeInterface then
    { s with curAltSetting := record.getD 3 0#8 }
  else if record.getD 1 0#8 = usbDescriptorTypeEndpoint ∧
      ¬ (s.curConfig ≠ index ∨ s.curAltSetting ≠ setting) then
    { s with
      found := true
      core := usbdSetEndpoint s.core
        ⟨record.getD 2 0#8, Word16.ofBytes (record.getD 4 0#8) (record.getD 5 0#8)⟩ }
  else s

variable (index setting) in
theorem setConfigurationVisit_inside (h : InsideConfig record) (behind : List Byte)
    (s : ConfigWalk) :
    setConfigurationVisit index setting (record ++ behind) s =
      some (.next (configWalkStep index setting record s) none) := by
  rw [setConfigurationVisit, getElem?_own h.typed, Option.bind_eq_bind, Option.bind_some,
    if_neg h.notHeader, configWalkStep]
  by_cases hinterface : record.getD 1 0#8 = usbDescriptorTypeInterface
  · rw [if_pos hinterface, if_pos hinterface, getElem?_own (h.interface hinterface)]
    rfl
  · rw [if_neg hinterface, if_neg hinterface]
    by_cases hendpoint : record.getD 1 0#8 = usbDescriptorTypeEndpoint
    · rw [if_pos hendpoint, usbEndpointDescriptorAt_own (h.endpoint hendpoint)]
      by_cases hother : s.curConfig ≠ index ∨ s.curAltSetting ≠ setting
      · rw [if_pos hother, if_neg fun hopens => hopens.2 hother]
        rfl
      · rw [if_neg hother, if_pos ⟨hendpoint, hother⟩]
        rfl
    · rw [if_neg hendpoint, if_neg fun hopens => hendpoint hopens.1]
      rfl

/-- Behind the header of the configuration looked for, the endpoints of a setting are opened
in turn. -/
theorem visitRecords_setConfiguration {records : List (List Byte)}
    (hinside : ∀ record ∈ records, InsideConfig record) (number current : Byte)
    (core : UsbdCore) :
    (visitRecords (setConfigurationVisit index setting) records ⟨current, index, true, core⟩).map
        (Sum.elim (fun s => (s.found, s.core)) Empty.elim) =
      some (true,
        (((ownedEndpoints number current records).filter (·.setting = setting)).map
          OwnedEndpoint.endpoint).foldl usbdSetEndpoint core) := by
  induction records generalizing number current core with
  | nil => rfl
  | cons record rest ih =>
      have hrecord := hinside record List.mem_cons_self
      have hrest := fun next hnext => hinside next (List.mem_cons_of_mem record hnext)
      have hvisit := (plain_of_step
        (setConfigurationVisit_inside index setting hrecord)).2
      rw [visitRecords, hvisit, configWalkStep, ownedEndpoints]
      by_cases hinterface : record.getD 1 0#8 = usbDescriptorTypeInterface
      · rw [if_pos hinterface, if_pos hinterface]
        exact ih hrest (record.getD 2 0#8) (record.getD 3 0#8) core
      · rw [if_neg hinterface, if_neg hinterface]
        by_cases hendpoint : record.getD 1 0#8 = usbDescriptorTypeEndpoint
        · rw [if_pos hendpoint]
          by_cases hsetting : current = setting
          · rw [if_pos ⟨hendpoint, by simp [hsetting]⟩,
              List.filter_cons_of_pos (by simp [hsetting])]
            exact ih hrest number current _
          · rw [if_neg fun hopens => hopens.2 (.inr hsetting),
              List.filter_cons_of_neg (by simp [hsetting])]
            exact ih hrest number current core
        · rw [if_neg hendpoint, if_neg fun hopens => hendpoint hopens.1]
          exact ih hrest number current core

variable (index setting) in
/-- What `usbd_set_configuration` makes of the header. -/
theorem setConfigurationVisit_header (config : ConfigDescriptor) (behind : List Byte)
    (s : ConfigWalk) :
    setConfigurationVisit index setting (config.header ++ behind) s =
      some
        (if config.value = index then
          .next { s with curConfig := config.value, found := true }
            (some (config.header.length + config.records.flatten.length))
        else .next { s with curConfig := config.value } none) := by
  have hlong := config.long
  rw [setConfigurationVisit, getElem?_own (Nat.lt_of_lt_of_le (by decide) hlong),
    Option.bind_eq_bind, Option.bind_some, if_pos config.typed, getElem?_own hlong,
    wTotalLength_own (Nat.le_trans (by decide) hlong), config.total]
  simp only [Option.bind_eq_bind, Option.bind_some]
  by_cases hvalue : config.value = index
  · rw [if_pos hvalue]
    exact if_pos hvalue
  · rw [if_neg hvalue]
    exact if_neg hvalue

/-- `usbd_set_configuration` on a configuration descriptor with nothing behind it: the
configuration looked for opens the endpoints of its setting, and any other value makes the
loop leave the array. -/
theorem setConfigurationWalk_eq (config : ConfigDescriptor) (index setting : Byte)
    (core : UsbdCore) :
    setConfigurationWalk config.bytes index setting core =
      if config.value = index then
        some (true, ((config.endpoints.filter (·.setting = setting)).map
          OwnedEndpoint.endpoint).foldl usbdSetEndpoint core)
      else none := by
  have hplain : ∀ record ∈ config.records, Plain (setConfigurationVisit index setting) record :=
    fun record hrecord =>
      (plain_of_step (setConfigurationVisit_inside index setting (config.inside record hrecord))).1
  have hheader := setConfigurationVisit_header index setting config
  rw [setConfigurationWalk]
  by_cases hvalue : config.value = index
  · simp only [if_pos hvalue] at hheader
    rw [if_pos hvalue, walkRecords_config config (fun behind => hheader behind _) hplain, hvalue]
    exact visitRecords_setConfiguration config.inside 0xFF#8 0xFF#8 core
  · simp only [if_neg hvalue] at hheader
    have hfirst := (plain_of_step hheader).1
    have hwalk := @walkRecords_endless _ _ _ (config.header :: config.records)
      (List.forall_mem_cons.mpr ⟨⟨config.headed, hfirst⟩, fun record hrecord =>
        ⟨(config.inside record hrecord).isRecord, hplain record hrecord⟩⟩)
      (fun _ _ _ result => result.elim) 0 ⟨0xFF#8, 0xFF#8, false, core⟩
    rw [if_neg hvalue, ConfigDescriptor.bytes, ← List.flatten_cons, hwalk]
    rfl

end SetConfiguration

/-! ## Choosing an interface -/

section SetInterface

variable {iface setting : Byte} {record : List Byte}

/-- What `usbd_set_interface` does to an endpoint. -/
def chooseEndpoint (iface setting : Byte) (core : UsbdCore) (owned : OwnedEndpoint) : UsbdCore :=
  if owned.number = iface then
    if setting = 0#8 then usbdResetEndpoint core owned.endpoint
    else if owned.setting = setting then usbdSetEndpoint core owned.endpoint
    else core
  else core

/-- What `usbd_set_interface` makes of a descriptor. -/
def interfaceWalkStep (iface setting : Byte) (record : List Byte) (s : InterfaceWalk) :
    InterfaceWalk :=
  if record.getD 1 0#8 = usbDescriptorTypeInterface then
    { s with curAltSetting := record.getD 3 0#8, curIface := record.getD 2 0#8 }
  else if record.getD 1 0#8 = usbDescriptorTypeEndpoint then
    { s with
      core := chooseEndpoint iface setting s.core
        ⟨s.curIface, s.curAltSetting, record.getD 2 0#8,
          Word16.ofBytes (record.getD 4 0#8) (record.getD 5 0#8)⟩ }
  else s

variable (iface setting) in
theorem setInterfaceVisit_inside (h : InsideConfig record) (behind : List Byte)
    (s : InterfaceWalk) :
    setInterfaceVisit iface setting (record ++ behind) s =
      some (.next (interfaceWalkStep iface setting record s) none) := by
  rw [setInterfaceVisit, getElem?_own h.typed, Option.bind_eq_bind, Option.bind_some,
    if_neg h.notHeader, interfaceWalkStep]
  by_cases hinterface : record.getD 1 0#8 = usbDescriptorTypeInterface
  · have hlength := h.interface hinterface
    rw [if_pos hinterface, if_pos hinterface, getElem?_own hlength,
      getElem?_own (Nat.lt_of_lt_of_le (by decide) hlength)]
    rfl
  · rw [if_neg hinterface, if_neg hinterface]
    by_cases hendpoint : record.getD 1 0#8 = usbDescriptorTypeEndpoint
    · rw [if_pos hendpoint, if_pos hendpoint, usbEndpointDescriptorAt_own (h.endpoint hendpoint),
        chooseEndpoint]
      simp only [Option.bind_eq_bind, Option.bind_some]
      split_ifs
      all_goals rfl
    · rw [if_neg hendpoint, if_neg hendpoint]
      rfl

theorem visitRecords_setInterface {records : List (List Byte)}
    (hinside : ∀ record ∈ records, InsideConfig record) (s : InterfaceWalk) :
    (visitRecords (setInterfaceVisit iface setting) records s).map
        (Sum.elim InterfaceWalk.core Empty.elim) =
      some ((ownedEndpoints s.curIface s.curAltSetting records).foldl
        (chooseEndpoint iface setting) s.core) := by
  induction records generalizing s with
  | nil => rfl
  | cons record rest ih =>
      have hrecord := hinside record List.mem_cons_self
      have hrest := fun next hnext => hinside next (List.mem_cons_of_mem record hnext)
      have hvisit := (plain_of_step
        (setInterfaceVisit_inside iface setting hrecord)).2
      rw [visitRecords, hvisit]
      dsimp only
      rw [ih hrest, interfaceWalkStep, ownedEndpoints]
      split_ifs
      · rfl
      · rfl
      · rfl

/-- `usbd_set_interface` sees every endpoint of the configuration, and goes no further. -/
theorem setInterfaceWalk_eq (config : ConfigDescriptor) (iface setting : Byte)
    (core : UsbdCore) :
    setInterfaceWalk config.bytes iface setting core =
      some (config.endpoints.foldl (chooseEndpoint iface setting) core) := by
  have hlong := config.long
  have hplain : ∀ record ∈ config.records, Plain (setInterfaceVisit iface setting) record :=
    fun record hrecord =>
      (plain_of_step (setInterfaceVisit_inside iface setting (config.inside record hrecord))).1
  have hheader : ∀ behind s, setInterfaceVisit iface setting (config.header ++ behind) s =
      some (.next s (some (config.header.length + config.records.flatten.length))) := by
    intro behind s
    rw [setInterfaceVisit, getElem?_own (Nat.lt_of_lt_of_le (by decide) hlong),
      Option.bind_eq_bind, Option.bind_some, if_pos config.typed,
      wTotalLength_own (Nat.le_trans (by decide) hlong), config.total]
    rfl
  rw [setInterfaceWalk, walkRecords_config config (fun behind => hheader behind _) hplain]
  exact visitRecords_setInterface config.inside ⟨0xFF#8, 0xFF#8, core⟩

end SetInterface

/-! ## The HID descriptor of an interface -/

section Hid

variable {intfNum : Byte} {record : List Byte}

variable (intfNum) in
/-- What the search makes of a descriptor. -/
theorem hidDescriptorVisit_inside (h : InsideConfig record) (behind : List Byte)
    (number : Byte) :
    hidDescriptorVisit intfNum (record ++ behind) number =
      some
        (if record.getD 1 0#8 = usbDescriptorTypeInterface then .next (record.getD 2 0#8) none
        else if record.getD 1 0#8 = hidDescriptorTypeHid ∧ number = intfNum then .leave record
        else .next number none) := by
  obtain ⟨hsome, hsize⟩ := h.isRecord
  have hpos : 0 < record.length := List.length_pos_iff.mpr hsome
  have hhead : record.getD 0 0#8 = record.headD 0#8 := by
    obtain ⟨size, rest, rfl⟩ := List.exists_cons_of_ne_nil hsome
    rfl
  rw [hidDescriptorVisit, getElem?_own h.typed, Option.bind_eq_bind, Option.bind_some,
    if_neg h.notHeader]
  by_cases hinterface : record.getD 1 0#8 = usbDescriptorTypeInterface
  · rw [if_pos hinterface, if_pos hinterface,
      getElem?_own (Nat.lt_of_lt_of_le (by decide) (h.interface hinterface))]
    rfl
  · rw [if_neg hinterface, if_neg hinterface]
    by_cases hhid : record.getD 1 0#8 = hidDescriptorTypeHid
    · rw [if_pos hhid]
      by_cases hnumber : number = intfNum
      · rw [if_pos hnumber, if_pos ⟨hhid, hnumber⟩, getElem?_own hpos, hhead,
          Option.bind_some, hsize, List.take_left]
        rfl
      · rw [if_neg hnumber, if_neg fun hfound => hnumber hfound.2]
        rfl
    · rw [if_neg hhid, if_neg fun hfound => hhid hfound.1]
      rfl

theorem plain_hidDescriptorVisit (h : InsideConfig record) :
    Plain (hidDescriptorVisit intfNum) record := by
  have halone := fun number => hidDescriptorVisit_inside intfNum h [] number
  simp only [List.append_nil] at halone
  refine ⟨fun behind number => ?_, ?_⟩
  · rw [halone, hidDescriptorVisit_inside]
    exact h
  · intro number number' total hnext
    rw [halone] at hnext
    split_ifs at hnext
    · cases hnext
      rfl
    · cases hnext
    · cases hnext
      rfl

theorem visitRecords_hidDescriptor {records : List (List Byte)}
    (hinside : ∀ record ∈ records, InsideConfig record) (number : Byte) :
    (visitRecords (hidDescriptorVisit intfNum) records number).map
        (Sum.elim (fun _ => none) some) =
      some (hidDescriptorOf intfNum number records) := by
  induction records generalizing number with
  | nil => rfl
  | cons record rest ih =>
      have hrecord := hinside record List.mem_cons_self
      have hrest := fun next hnext => hinside next (List.mem_cons_of_mem record hnext)
      have hvisit := hidDescriptorVisit_inside intfNum hrecord [] number
      rw [List.append_nil] at hvisit
      rw [visitRecords, hvisit, hidDescriptorOf]
      split_ifs
      · exact ih hrest (record.getD 2 0#8)
      · rfl
      · exact ih hrest number

/-- The search finds the first HID descriptor of the interface, and goes no further than the
configuration. -/
theorem hidDescriptorWalk_eq (config : ConfigDescriptor) (intfNum : Byte) :
    hidDescriptorWalk config.bytes intfNum =
      some (hidDescriptorOf intfNum 0xFF#8 config.records) := by
  have hlong := config.long
  have hheader : ∀ behind number,
      hidDescriptorVisit intfNum (config.header ++ behind) number =
        some (.next number (some (config.header.length + config.records.flatten.length))) := by
    intro behind number
    rw [hidDescriptorVisit, getElem?_own (Nat.lt_of_lt_of_le (by decide) hlong),
      Option.bind_eq_bind, Option.bind_some, if_pos config.typed,
      wTotalLength_own (Nat.le_trans (by decide) hlong), config.total]
    rfl
  rw [hidDescriptorWalk, walkRecords_config config (fun behind => hheader behind _)
    fun record hrecord => plain_hidDescriptorVisit (config.inside record hrecord)]
  exact visitRecords_hidDescriptor config.inside 0xFF#8

end Hid

end ExLink.Usb
