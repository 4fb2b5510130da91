/-
# Reading descriptors

What a host reads with a request for a descriptor is the descriptor, as much of it as was
asked for: the configuration for the speed that the device goes by, or for the other one; a
string in UTF-16; the descriptors of the HID interface; the set for Windows. A read of it
ends, unless it is of the report descriptor of an interface that is not HID: that one is
there, and empty.
-/

import ExLink.Usb.Enumeration

namespace ExLink.Usb

open ExLink.Automata

/-! ## Descriptors -/

/-- A text as a string descriptor has it: its length, its type, and UTF-16. -/
def stringDescriptor (text : List Byte) : List Byte :=
  BitVec.ofNat 8 (2 * text.length + 2) :: usbDescriptorTypeString ::
    text.flatMap fun char => [char, 0#8]

/-- The string descriptors: the language, and the texts without the byte that ends them. -/
def stringDescriptorAt (index : Byte) : Option (List Byte) :=
  (stringDescriptorCallback index).map fun text =>
    if index = 0#8 then 4#8 :: usbDescriptorTypeString :: text else stringDescriptor text.dropLast

/-- The packet size of the bulk endpoints at the other speed. -/
def otherBulkMpsAt (speed : Byte) : Word16 :=
  if speed = usbSpeedHigh then exlinkBulkMpsFs else exlinkBulkMpsHs

/-- The descriptors of the device, by type and index. -/
def deviceDescriptorFor (speed type index : Byte) : Option (List Byte) :=
  if type = usbDescriptorTypeDevice then some deviceDescriptor
  else if type = usbDescriptorTypeConfiguration then
    some (exlinkConfigBlob usbDescriptorTypeConfiguration (bulkMpsAt speed))
  else if type = usbDescriptorTypeString then stringDescriptorAt index
  else if type = usbDescriptorTypeDeviceQualifier then some deviceQualityDescriptor
  else if type = usbDescriptorTypeOtherSpeed then
    some (exlinkConfigBlob usbDescriptorTypeOtherSpeed (otherBulkMpsAt speed))
  else if type = usbDescriptorTypeBinaryObjectStore then some usbdBinaryObjectStoreDescriptor
  else none

/-- The HID descriptor of interface 2. -/
def exlinkHidDescriptor : List Byte :=
  [0x09#8, hidDescriptorTypeHid, 0x11#8, 0x01#8, 0x00#8, 0x01#8, 0x22#8,
    exlinkHidReportDescSize.lowByte, exlinkHidReportDescSize.highByte]

/-- The descriptors of an interface, by type. -/
def interfaceDescriptorFor (type number : Byte) : Option (List Byte) :=
  if type = hidDescriptorTypeHid then
    if number = 2#8 then some exlinkHidDescriptor else none
  else if type = hidDescriptorTypeHidReport then
    if number = 2#8 then some sDapv1HidReportDesc
    else if number.toNat < exlinkIfnumTotal then some [] else none
  else none

/-- A request for a descriptor: of the device, of an interface, or the set for Windows. -/
def AsksDescriptor (setup : UsbSetupPacket) : Prop :=
  (setup.To 0x00#8 0#8 ∨ setup.To 0x00#8 1#8) ∧ setup.bRequest = usbRequestGetDescriptor ∨
    setup.kind = 0x40#8 ∧ setup.bRequest = exlinkWinusbVendorCode ∧ setup.wIndex = 0x07#16

instance (setup : UsbSetupPacket) : Decidable (AsksDescriptor setup) :=
  inferInstanceAs (Decidable (_ ∨ _))

/-- The descriptor that a request asks for. -/
def descriptorFor (core : UsbdCore) (setup : UsbSetupPacket) : Option (List Byte) :=
  if setup.To 0x00#8 0#8 then
    deviceDescriptorFor core.speed setup.wValue.highByte setup.wValue.lowByte
  else if setup.To 0x00#8 1#8 then
    if core.configuration = 0#8 then none
    else interfaceDescriptorFor setup.wValue.highByte setup.wIndex.lowByte
  else some usbdWinUsbDescriptorSetDescriptor

/-! ## Replies -/

/-- A handler accepts and leaves some bytes to be fetched, or refuses. -/
def Leaves {κ : Type} (handled : (Bool × RequestData) × κ) : Option (List Byte) → Prop
  | none => handled.1.1 = false
  | some bytes =>
      handled.1.1 = true ∧ handled.1.2.len = bytes.length ∧
        bytes.length ≤ usbdevRequestBufferLen ∧
        ∀ count ≤ bytes.length, (fetched handled.1.2 count).prefixBytes count = bytes.take count

section Replies

variable {κ : Type} {data : RequestData} {core : κ} {bytes : List Byte}
  {layer : RequestLayer κ} {request : ControlRequest} {reqData : Buf}

/-- The first bytes of a prefix. -/
theorem take_prefixBytes (buf : Buf) {count length : ℕ} (hcount : count ≤ length) :
    buf.prefixBytes count = (buf.prefixBytes length).take count := by
  rw [Buf.prefixBytes, Buf.prefixBytes, ← List.map_take, List.take_range, Nat.min_eq_left hcount]

/-- `*data` points to the bytes. -/
theorem leaves_offer {len : ℕ} (hlen : len = bytes.length)
    (hroom : bytes.length ≤ usbdevRequestBufferLen) :
    Leaves ((true, data.offer bytes len), core) (some bytes) := by
  refine ⟨rfl, hlen, hroom, fun count hcount => ?_⟩
  change (data.reqData.write ((Buf.ofList bytes).prefixBytes count)).prefixBytes count = _
  have hwritten := Buf.prefixBytes_write data.reqData ((Buf.ofList bytes).prefixBytes count)
  rw [Buf.length_prefixBytes] at hwritten
  rw [hwritten, take_prefixBytes _ hcount, Buf.prefixBytes_ofList]

/-- The bytes are in `req_data`. -/
theorem leaves_store (hhere : data.elsewhere = none)
    (hroom : bytes.length ≤ usbdevRequestBufferLen) :
    Leaves ((true, data.store bytes), core) (some bytes) := by
  refine ⟨rfl, rfl, hroom, fun count hcount => ?_⟩
  have hfetched : fetched (data.store bytes) count = data.reqData.write bytes := by
    rw [fetched, RequestData.store, hhere]
  rw [hfetched, take_prefixBytes _ hcount, Buf.prefixBytes_write]

/-- What a read gets of them. -/
theorem controlTransfer_of_leaves {reply : Option (List Byte)} (hreads : request.Reads)
    (h : Leaves (requestCall layer request reqData core) reply) :
    (controlTransfer layer request reqData core).1 =
      reply.map (·.take request.setup.wLength.toNat) := by
  rw [controlTransfer]
  cases reply with
  | none =>
      rw [if_neg fun haccepts => Bool.false_ne_true (h.symm.trans haccepts.1)]
      rfl
  | some bytes =>
      obtain ⟨haccepts, hlen, hroom, hfetched⟩ := h
      have hcount : min bytes.length request.setup.wLength.toNat ≤ bytes.length :=
        Nat.min_le_left _ _
      rw [hlen, if_pos ⟨haccepts, hcount.trans hroom⟩, if_pos hreads, hfetched _ hcount,
        Nat.min_comm, ← List.take_take, List.take_length]
      rfl

end Replies

/-! ## Strings -/

/-- A text without zero bytes, and one at its end. -/
theorem stringBytes_terminated {index : Byte} (hindex : index ≠ 0#8) {text : List Byte}
    (hchars : ∀ char ∈ text, char ≠ 0#8) (hshort : text.length < 127) :
    stringBytes index (text ++ [0#8]) = some (stringDescriptor text) := by
  have hlength : strlen (text ++ [0#8]) = text.length := by
    rw [strlen, List.takeWhile_append_of_pos fun char hchar => decide_eq_true (hchars char hchar)]
    exact congrArg List.length (List.append_nil text)
  have hsize : (BitVec.ofNat 16 (2 * text.length + 2)).toNat = 2 * text.length + 2 := by
    rw [BitVec.toNat_ofNat]
    omega
  have hroom : ¬ usbdevRequestBufferLen < 2 * text.length + 2 := by
    rw [usbdevRequestBufferLen]
    omega
  rw [stringBytes, if_neg hindex, hlength, List.take_left]
  dsimp only
  rw [hsize, if_neg hroom, Word16.lowByte, BitVec.setWidth_ofNat_of_le (by decide)]
  rfl

/-- The texts of the device. -/
theorem stringDescriptors_terminated :
    ∀ text ∈ stringDescriptors.tail, text = text.dropLast ++ [0#8] ∧
      (∀ char ∈ text.dropLast, char ≠ 0#8) ∧ text.dropLast.length < 127 := by
  simp [stringDescriptors, Dap.cString]

theorem stringDescriptorCallback_mem {index : Byte} (hindex : index ≠ 0#8) {text : List Byte}
    (htext : stringDescriptorCallback index = some text) : text ∈ stringDescriptors.tail := by
  obtain ⟨before, hbefore⟩ := Nat.exists_eq_succ_of_ne_zero fun hzero =>
    hindex (BitVec.eq_of_toNat_eq hzero)
  rw [stringDescriptorCallback, hbefore] at htext
  split_ifs at htext
  exact List.mem_of_getElem? (i := before) htext

theorem stringBytes_device (index : Byte) :
    (stringDescriptorCallback index).bind (stringBytes index) = stringDescriptorAt index := by
  rw [stringDescriptorAt]
  cases htext : stringDescriptorCallback index with
  | none => rfl
  | some text =>
      rw [Option.bind_some, Option.map_some]
      by_cases hindex : index = 0#8
      · subst hindex
        cases htext
        rfl
      · obtain ⟨hends, hchars, hshort⟩ :=
          stringDescriptors_terminated text (stringDescriptorCallback_mem hindex htext)
        have hbytes := stringBytes_terminated hindex hchars hshort
        rw [← hends] at hbytes
        rw [hbytes, if_neg hindex]

theorem length_stringDescriptor (text : List Byte) :
    (stringDescriptor text).length = 2 * text.length + 2 := by
  simp [stringDescriptor, List.length_flatMap, Nat.mul_comm]

theorem length_stringDescriptorAt_le {index : Byte} {bytes : List Byte}
    (hbytes : stringDescriptorAt index = some bytes) :
    bytes.length ≤ usbdevRequestBufferLen := by
  obtain ⟨text, htext, rfl⟩ := Option.map_eq_some_iff.mp hbytes
  by_cases hindex : index = 0#8
  · subst hindex
    cases htext
    decide
  · obtain ⟨-, -, hshort⟩ :=
      stringDescriptors_terminated text (stringDescriptorCallback_mem hindex htext)
    rw [if_neg hindex, length_stringDescriptor, usbdevRequestBufferLen]
    omega

/-! ## Handlers -/

/-- `wTotalLength` is the length of the whole. -/
theorem wTotalLength_exlinkConfigBlob (cfgType : Byte) (bulkMps : Word16) :
    wTotalLength (exlinkConfigBlob cfgType bulkMps) =
      some (exlinkConfigBlob cfgType bulkMps).length := by
  rw [length_exlinkConfigBlob, exlinkConfigBlob,
    @wTotalLength_own (exlinkConfigHeader cfgType) (Nat.le_add_left 4 5)]
  exact congrArg (fun size : Word16 => some size.toNat) (Word16.ofBytes_low_high usbConfigSize)

theorem leaves_exlinkConfigBlob {κ : Type} {core : κ} {data : RequestData} (cfgType : Byte)
    (bulkMps : Word16) :
    Leaves
      ((true, data.offer (exlinkConfigBlob cfgType bulkMps)
        ((wTotalLength (exlinkConfigBlob cfgType bulkMps)).getD 0)), core)
      (some (exlinkConfigBlob cfgType bulkMps)) := by
  apply leaves_offer
  · rw [wTotalLength_exlinkConfigBlob, Option.getD_some]
  · rw [length_exlinkConfigBlob]
    decide

theorem otherSpeedDescriptorCallback_eq (speed : Byte) :
    otherSpeedDescriptorCallback speed =
      exlinkConfigBlob usbDescriptorTypeOtherSpeed (otherBulkMpsAt speed) := by
  rw [otherSpeedDescriptorCallback, otherBulkMpsAt]
  split_ifs
  · rfl
  · rfl

theorem hidDescriptorOf_interface (intfNum number first alternate endpoints interfaceClass
    subClass protocol text : Byte) (rest : List (List Byte)) :
    hidDescriptorOf intfNum number
        (usbInterfaceDescriptorInit first alternate endpoints interfaceClass subClass protocol
          text :: rest) =
      hidDescriptorOf intfNum first rest := rfl

theorem hidDescriptorOf_endpoint (intfNum number address attributes : Byte) (mps : Word16)
    (interval : Byte) (rest : List (List Byte)) :
    hidDescriptorOf intfNum number
        (usbEndpointDescriptorInit address attributes mps interval :: rest) =
      hidDescriptorOf intfNum number rest := rfl

theorem hidDescriptorOf_other (intfNum number size : Byte) {type : Byte} (fields : List Byte)
    (rest : List (List Byte)) (hinterface : type ≠ usbDescriptorTypeInterface)
    (hhid : type ≠ hidDescriptorTypeHid) :
    hidDescriptorOf intfNum number ((size :: type :: fields) :: rest) =
      hidDescriptorOf intfNum number rest := by
  rw [hidDescriptorOf]
  exact (if_neg hinterface).trans (if_neg fun hfound => hhid hfound.1)

/-- The HID descriptor is that of interface 2. -/
theorem hidDescriptorOf_exlink (intfNum : Byte) (bulkMps : Word16) :
    hidDescriptorOf intfNum 0xFF#8 (exlinkConfiguration bulkMps).records =
      if intfNum = 2#8 then some exlinkHidDescriptor else none := by
  change hidDescriptorOf intfNum 0xFF#8 (exlinkConfigRecords bulkMps) = _
  rw [exlinkConfigRecords]
  simp only [cdcAcmDescriptorInit, List.cons_append, List.nil_append, hidDescriptorOf_interface,
    hidDescriptorOf_endpoint]
  by_cases hnumber : intfNum = 2#8
  · rw [if_pos hnumber, hnumber]
    rfl
  · rw [if_neg hnumber, hidDescriptorOf]
    have hother : ¬ (hidDescriptorTypeHid = hidDescriptorTypeHid ∧ 2#8 = intfNum) :=
      fun hfound => hnumber hfound.2.symm
    refine (if_neg hother).trans ?_
    simp (disch := decide) only [hidDescriptorOf_interface, hidDescriptorOf_endpoint,
      hidDescriptorOf_other]
    rfl

/-- A descriptor gives its type and its length, or the length of the whole if others follow. -/
def Described (type : Byte) (bytes : List Byte) : Prop :=
  bytes.getD 1 0#8 = type ∧
    if type = usbDescriptorTypeConfiguration ∨ type = usbDescriptorTypeOtherSpeed ∨
        type = usbDescriptorTypeBinaryObjectStore then
      wTotalLength bytes = some bytes.length
    else IsRecord bytes

theorem described_stringDescriptorAt {index : Byte} {bytes : List Byte}
    (hbytes : stringDescriptorAt index = some bytes) :
    Described usbDescriptorTypeString bytes := by
  obtain ⟨text, htext, rfl⟩ := Option.map_eq_some_iff.mp hbytes
  by_cases hindex : index = 0#8
  · subst hindex
    cases htext
    exact ⟨rfl, List.cons_ne_nil _ _, rfl⟩
  · obtain ⟨-, -, hshort⟩ :=
      stringDescriptors_terminated text (stringDescriptorCallback_mem hindex htext)
    rw [if_neg hindex]
    refine ⟨rfl, List.cons_ne_nil _ _, ?_⟩
    rw [length_stringDescriptor]
    change (BitVec.ofNat 8 (2 * text.dropLast.length + 2)).toNat = _
    rw [BitVec.toNat_ofNat]
    omega

/-- Whatever descriptor the device has, it is of the type asked for and as long as it says. -/
theorem described_deviceDescriptorFor {speed type index : Byte} {bytes : List Byte}
    (hbytes : deviceDescriptorFor speed type index = some bytes) : Described type bytes := by
  rw [deviceDescriptorFor] at hbytes
  split_ifs at hbytes with hdevice hconfig hstring hqualifier hother hbos
  · cases hbytes
    rw [hdevice]
    exact ⟨rfl, List.cons_ne_nil _ _, rfl⟩
  · cases hbytes
    rw [hconfig]
    exact ⟨rfl, wTotalLength_exlinkConfigBlob _ _⟩
  · rw [hstring]
    exact described_stringDescriptorAt hbytes
  · cases hbytes
    rw [hqualifier]
    exact ⟨rfl, List.cons_ne_nil _ _, rfl⟩
  · cases hbytes
    rw [hother]
    exact ⟨rfl, wTotalLength_exlinkConfigBlob _ _⟩
  · cases hbytes
    rw [hbos]
    exact ⟨rfl, rfl⟩

section Handlers

variable {setup : UsbSetupPacket} {data : RequestData} {core : UsbdCore}

theorem leaves_usbdGetDescriptor (hhere : data.elsewhere = none) (typeIndex : Word16) :
    Leaves (usbdGetDescriptor typeIndex data core)
      (deviceDescriptorFor core.speed typeIndex.highByte typeIndex.lowByte) := by
  rw [usbdGetDescriptor, deviceDescriptorFor]
  dsimp only
  by_cases hdevice : typeIndex.highByte = usbDescriptorTypeDevice
  · rw [if_pos hdevice, if_pos hdevice]
    exact leaves_offer rfl (by decide)
  rw [if_neg hdevice, if_neg hdevice]
  by_cases hconfig : typeIndex.highByte = usbDescriptorTypeConfiguration
  · rw [if_pos hconfig, if_pos hconfig, configDescriptorCallback_eq]
    exact leaves_exlinkConfigBlob _ _
  rw [if_neg hconfig, if_neg hconfig]
  by_cases hstring : typeIndex.highByte = usbDescriptorTypeString
  · rw [if_pos hstring, if_pos hstring]
    by_cases hosdesc : typeIndex.lowByte = usbOsdescStringDescIndex
    · rw [if_pos hosdesc, hosdesc]
      rfl
    · rw [if_neg hosdesc, stringBytes_device]
      cases hbytes : stringDescriptorAt typeIndex.lowByte with
      | none => rfl
      | some bytes => exact leaves_store hhere (length_stringDescriptorAt_le hbytes)
  rw [if_neg hstring, if_neg hstring]
  by_cases hqualifier : typeIndex.highByte = usbDescriptorTypeDeviceQualifier
  · rw [if_pos hqualifier, if_pos hqualifier]
    exact leaves_offer rfl (by decide)
  rw [if_neg hqualifier, if_neg hqualifier]
  by_cases hother : typeIndex.highByte = usbDescriptorTypeOtherSpeed
  · rw [if_pos hother, if_pos hother, otherSpeedDescriptorCallback_eq]
    exact leaves_exlinkConfigBlob _ _
  rw [if_neg hother, if_neg hother]
  by_cases hbos : typeIndex.highByte = usbDescriptorTypeBinaryObjectStore
  · rw [if_pos hbos, if_pos hbos]
    exact leaves_offer rfl (by decide)
  · rw [if_neg hbos, if_neg hbos]
    rfl

theorem leaves_interfaceDescriptor (type number : Byte) :
    Leaves (interfaceDescriptor type number data core) (interfaceDescriptorFor type number) := by
  rw [interfaceDescriptor, interfaceDescriptorFor]
  by_cases hhid : type = hidDescriptorTypeHid
  · rw [if_pos hhid, if_pos hhid, configDescriptorCallback_bytes, hidDescriptorWalk_eq,
      hidDescriptorOf_exlink]
    by_cases hnumber : number = 2#8
    · rw [if_pos hnumber]
      exact leaves_offer rfl (by decide)
    · rw [if_neg hnumber]
      rfl
  rw [if_neg hhid, if_neg hhid]
  by_cases hreport : type = hidDescriptorTypeHidReport
  · rw [if_pos hreport, if_pos hreport]
    split_ifs
    · exact leaves_offer rfl (by decide)
    · exact leaves_offer rfl (by decide)
    · rfl
  · rw [if_neg hreport, if_neg hreport]
    rfl

/-- A request for a descriptor leaves the descriptor. -/
theorem leaves_descriptorFor (hasks : AsksDescriptor setup) (hhere : data.elsewhere = none) :
    Leaves (usbdSetupRequestHandler setup data core) (descriptorFor core setup) := by
  rw [usbdSetupRequestHandler, descriptorFor]
  rcases hasks with ⟨hdevice | hinterface, hrequest⟩ | ⟨hkind, hrequest, hindex⟩
  · rw [if_pos hdevice.1, if_pos hdevice, usbdStandardRequestHandler, if_pos hdevice.2,
      usbdStdDeviceReqHandler, hrequest]
    exact leaves_usbdGetDescriptor hhere setup.wValue
  · have hother : setup.recipient ≠ 0#8 := fun hzero => by cases hinterface.2.symm.trans hzero
    rw [if_pos hinterface.1, if_neg (not_to_device hinterface), if_pos hinterface,
      usbdStandardRequestHandler, if_neg hother, if_pos hinterface.2, usbdStdInterfaceReqHandler]
    dsimp only
    by_cases hconfigured : core.configuration = 0#8
    · rw [if_pos hconfigured, if_pos hconfigured]
      rfl
    · rw [if_neg hconfigured, if_neg hconfigured, hrequest]
      exact leaves_interfaceDescriptor _ _
  · have hstandard (recipient : Byte) : ¬ setup.To 0x00#8 recipient := by
      rintro ⟨hzero, -⟩
      cases hkind.symm.trans hzero
    rw [if_neg (hstandard _), if_neg (hstandard _), hkind]
    change Leaves (usbdVendorRequestHandler setup data core) _
    rw [usbdVendorRequestHandler, if_pos ⟨hrequest, hindex⟩]
    exact leaves_offer rfl (by decide +kernel)

end Handlers

/-! ## Reads -/

/-- How a read ends. -/
def readStage : Option (List Byte) → ControlStage
  | none => .refused
  | some got => .done got

section Reads

variable (pspds : ℕ → BitVec 2)

/-- From any state of the device, whatever transfer was given up for it: a read of a descriptor
comes to an end, packet by packet, with the bytes of the descriptor that were asked for, or
refused if there is none, exactly if the descriptor is not empty. -/
theorem descriptor_read_iff (s : ControlBus UsbdCore) (request : ControlRequest)
    (hreads : request.Reads) (hasks : AsksDescriptor request.setup) :
    (∃ packets after,
      runActions (controlStep (exlinkRequests pspds)) s
          (.start request :: List.replicate packets .proceed) =
        some ⟨after, some ⟨request, s.device.reqData, s.device.core,
          readStage ((descriptorFor s.device.core request.setup).map
            (·.take request.setup.wLength.toNat))⟩⟩) ↔
      descriptorFor s.device.core request.setup ≠ some [] := by
  have hresult := @controlTransfer_of_leaves _ s.device.core (exlinkRequests pspds) request
    s.device.reqData _ hreads (leaves_descriptorFor hasks rfl)
  constructor
  · rintro ⟨packets, after, hrun⟩ hempty
    have hfrom : runActions (controlStep (exlinkRequests pspds)) ⟨s.device, none⟩
        (.start request :: List.replicate packets .proceed) = _ := hrun
    have h := busInStep_run hfrom _ rfl
    rw [InStep, hempty] at h
    apply h.2.1.2 hreads
    rw [hresult, hempty, Option.map_some, List.take_nil]
  · intro hsome
    have hanswerable : Answerable (exlinkRequests pspds) request s.device.reqData
        s.device.core := by
      refine ⟨fun hout => absurd hreads.2 hout, fun _ hempty => ?_⟩
      rw [hresult] at hempty
      obtain ⟨bytes, hbytes, htake⟩ := Option.map_eq_some_iff.mp hempty
      rcases List.take_eq_nil_iff.mp htake with hzero | hnil
      · exact hreads.1 (BitVec.eq_of_toNat_eq hzero)
      · rw [hbytes, hnil] at hsome
        exact hsome rfl
    obtain ⟨packets, stage, after, hrest, hover, h⟩ :=
      proceeds_over (inStep_start request s.device) hanswerable le_rfl
    have hstage : stage = readStage ((descriptorFor s.device.core request.setup).map
        (·.take request.setup.wLength.toNat)) := by
      rw [InStep] at h
      rw [← hresult]
      cases stage with
      | done got =>
          have hgot := h.2.2
          dsimp only at hgot
          rw [hgot]
          rfl
      | refused =>
          have hnone := h.2.2
          dsimp only at hnone
          rw [hnone]
          rfl
      | dataIn _ | statusOut _ | dataOut _ | statusIn => exact hover.elim
    subst hstage
    exact ⟨packets, after, runActions_cons_eq_some.mpr ⟨_, rfl, hrest⟩⟩

/-- 255 bytes of the string 2 are asked for. -/
def productRead : ControlRequest :=
  ⟨⟨0x80#8, 6#8, 0x0302#16, 0x0409#16, 255#16⟩, [], by decide⟩

theorem descriptor_read_iff_product :
    descriptorFor coldCore productRead.setup =
        some [14#8, 3#8, 0x45#8, 0#8, 0x78#8, 0#8, 0x4C#8, 0#8, 0x69#8, 0#8, 0x6E#8, 0#8,
          0x6B#8, 0#8] ∧
      ((∃ packets after,
        runActions (controlStep (exlinkRequests fun _ => 2#2)) ⟨coldDevice, none⟩
            (.start productRead :: List.replicate packets .proceed) =
          some ⟨after, some ⟨productRead, coldDevice.reqData, coldCore,
            readStage ((descriptorFor coldCore productRead.setup).map
              (·.take productRead.setup.wLength.toNat))⟩⟩) ↔
        descriptorFor coldCore productRead.setup ≠ some []) :=
  ⟨by decide +kernel,
    descriptor_read_iff (fun _ => 2#2) ⟨coldDevice, none⟩ productRead (by decide) (by decide)⟩

end Reads

end ExLink.Usb
