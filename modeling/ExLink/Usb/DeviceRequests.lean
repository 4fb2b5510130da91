/-
# The requests of the device

The request handlers of `usbd_core.c`, with the descriptors and the interfaces that
`exlink_usb_init` registers, and the handlers of the HID and CDC classes. A descriptor is
searched by a loop over its records. Where a read or a write leaves its array nothing is
said about the device any more: it is lost.
-/

import ExLink.Usb.Descriptors
import ExLink.Usb.Ep0

namespace ExLink.Usb

/-! ## The device -/

/-- The events that `event_handler` is called with. -/
inductive UsbdEvent where
  | reset
  | configured
  | setRemoteWakeup
  | clrRemoteWakeup
  deriving DecidableEq

/-- `g_usbd_core` apart from endpoint 0, with `ep_mps` and `ep_enable` of an endpoint by its
address; the stall bits and the speed in the registers; the test mode entered; the calls of
`event_handler`; the bus resets; and whether an array was left. -/
structure UsbdCore where
  configuration : Byte
  deviceAddress : Byte
  speed : Byte
  selfPowered : Bool
  remoteWakeupSupport : Bool
  remoteWakeupEnabled : Bool
  testReq : Bool
  intfAltsetting : Byte → Byte
  epMps : Byte → Word16
  epEnable : Byte → Bool
  stalled : Byte → Bool
  pspd : BitVec 2
  testMode : Option Byte
  events : List UsbdEvent
  resets : ℕ
  lost : Bool

/-- What a handler returns, `*data` and `*len`, and what it did. -/
abbrev Handled := (Bool × RequestData) × UsbdCore

/-- A read or a write leaves its array. -/
def UsbdCore.lose (core : UsbdCore) : UsbdCore := { core with lost := true }

/-- `(*data)[0] = …; *len = …`. -/
def RequestData.store (data : RequestData) (bytes : List Byte) : RequestData :=
  { data with reqData := data.reqData.write bytes, len := bytes.length }

/-- `*data = …; *len = …`. -/
def RequestData.offer (data : RequestData) (memory : List Byte) (len : ℕ) : RequestData :=
  { data with elsewhere := some (Buf.ofList memory), len := len }

/-- `*len = 0`. -/
def RequestData.empty (data : RequestData) : RequestData := { data with len := 0 }

/-! ## Descriptors -/

/-- `wTotalLength` of a configuration descriptor. -/
def wTotalLength (p : List Byte) : Option ℕ := do
  let low ← p[2]?
  let high ← p[3]?
  return (Word16.ofBytes low high).toNat

/-- `struct usb_endpoint_descriptor`, as far as it is used. -/
structure UsbEndpointDescriptor where
  bEndpointAddress : Byte
  wMaxPacketSize : Word16

/-- The fields of an endpoint descriptor. -/
def usbEndpointDescriptorAt (p : List Byte) : Option UsbEndpointDescriptor := do
  let bEndpointAddress ← p[2]?
  let low ← p[4]?
  let high ← p[5]?
  return ⟨bEndpointAddress, Word16.ofBytes low high⟩

/-- `usbd_set_endpoint`, with `usbd_ep_open`. -/
def usbdSetEndpoint (core : UsbdCore) (ep : UsbEndpointDescriptor) : UsbdCore :=
  { core with
    epMps := Function.update core.epMps ep.bEndpointAddress (ep.wMaxPacketSize &&& 0x7FF#16)
    epEnable := Function.update core.epEnable ep.bEndpointAddress true }

/-- `usbd_reset_endpoint`, with `usbd_ep_close`. -/
def usbdResetEndpoint (core : UsbdCore) (ep : UsbEndpointDescriptor) : UsbdCore :=
  { core with
    epEnable := Function.update core.epEnable ep.bEndpointAddress false
    stalled := Function.update core.stalled (ep.bEndpointAddress &&& 0x8F#8) false }

/-- The locals of `usbd_set_configuration`. -/
structure ConfigWalk where
  curAltSetting : Byte
  curConfig : Byte
  found : Bool
  core : UsbdCore

/-- The body of the loop in `usbd_set_configuration`. -/
def setConfigurationVisit (configIndex altSetting : Byte) (p : List Byte) (s : ConfigWalk) :
    Option (Visit ConfigWalk Empty) := do
  let type ← p[1]?
  if type = usbDescriptorTypeConfiguration then
    let value ← p[5]?
    if value = configIndex then
      let total ← wTotalLength p
      return .next { s with curConfig := value, found := true } (some total)
    else return .next { s with curConfig := value } none
  else if type = usbDescriptorTypeInterface then
    let setting ← p[3]?
    return .next { s with curAltSetting := setting } none
  else if type = usbDescriptorTypeEndpoint then
    if s.curConfig ≠ configIndex ∨ s.curAltSetting ≠ altSetting then return .next s none
    else
      let ep ← usbEndpointDescriptorAt p
      return .next { s with found := true, core := usbdSetEndpoint s.core ep } none
  else return .next s none

/-- The loop in `usbd_set_configuration`. -/
def setConfigurationWalk (p : List Byte) (configIndex altSetting : Byte) (core : UsbdCore) :
    Option (Bool × UsbdCore) :=
  (walkRecords (setConfigurationVisit configIndex altSetting) 0 0
    ⟨0xFF#8, 0xFF#8, false, core⟩ p).map (Sum.elim (fun s => (s.found, s.core)) Empty.elim)

/-- `usbd_set_configuration`. -/
def usbdSetConfiguration (configIndex altSetting : Byte) (core : UsbdCore) :
    Option (Bool × UsbdCore) :=
  setConfigurationWalk (configDescriptorCallback core.speed) configIndex altSetting core

/-- The locals of `usbd_set_interface`. -/
structure InterfaceWalk where
  curAltSetting : Byte
  curIface : Byte
  core : UsbdCore

/-- The body of the loop in `usbd_set_interface`. -/
def setInterfaceVisit (iface altSetting : Byte) (p : List Byte) (s : InterfaceWalk) :
    Option (Visit InterfaceWalk Empty) := do
  let type ← p[1]?
  if type = usbDescriptorTypeConfiguration then
    let total ← wTotalLength p
    return .next s (some total)
  else if type = usbDescriptorTypeInterface then
    let setting ← p[3]?
    let number ← p[2]?
    return .next { s with curAltSetting := setting, curIface := number } none
  else if type = usbDescriptorTypeEndpoint then
    if s.curIface = iface then
      let ep ← usbEndpointDescriptorAt p
      if altSetting = 0#8 then return .next { s with core := usbdResetEndpoint s.core ep } none
      else if s.curAltSetting = altSetting then
        return .next { s with core := usbdSetEndpoint s.core ep } none
      else return .next s none
    else return .next s none
  else return .next s none

/-- The loop in `usbd_set_interface`. -/
def setInterfaceWalk (p : List Byte) (iface altSetting : Byte) (core : UsbdCore) :
    Option UsbdCore :=
  (walkRecords (setInterfaceVisit iface altSetting) 0 0 ⟨0xFF#8, 0xFF#8, core⟩ p).map
    (Sum.elim InterfaceWalk.core Empty.elim)

/-- `usbd_set_interface`. Its result is not used, and no interface has a `notify_handler`. -/
def usbdSetInterface (iface altSetting : Byte) (core : UsbdCore) : Option UsbdCore :=
  setInterfaceWalk (configDescriptorCallback core.speed) iface altSetting core

/-- The body of the loop that searches the HID descriptor of an interface; `cur_iface` is the
interface last seen. -/
def hidDescriptorVisit (intfNum : Byte) (p : List Byte) (curIface : Byte) :
    Option (Visit Byte (List Byte)) := do
  let type ← p[1]?
  if type = usbDescriptorTypeConfiguration then
    let total ← wTotalLength p
    return .next curIface (some total)
  else if type = usbDescriptorTypeInterface then
    let number ← p[2]?
    return .next number none
  else if type = hidDescriptorTypeHid then
    if curIface = intfNum then
      let size ← p[0]?
      return .leave (p.take size.toNat)
    else return .next curIface none
  else return .next curIface none

/-- The loop that searches the HID descriptor of an interface. -/
def hidDescriptorWalk (p : List Byte) (intfNum : Byte) : Option (Option (List Byte)) :=
  (walkRecords (hidDescriptorVisit intfNum) 0 0 0xFF#8 p).map
    (Sum.elim (fun _ => none) some)

/-- The first byte of a descriptor. -/
def bLength (desc : List Byte) : ℕ := (desc.getD 0 0#8).toNat

/-- `USB_OSDESC_STRING_DESC_INDEX`. -/
def usbOsdescStringDescIndex : Byte := 0xEE#8

/-- `strlen`. -/
def strlen (text : List Byte) : ℕ := (text.takeWhile (· ≠ 0#8)).length

/-- The string descriptor that `usbd_get_descriptor` builds. -/
def stringBytes (index : Byte) (text : List Byte) : Option (List Byte) :=
  if index = 0#8 then
    some [4#8, usbDescriptorTypeString, text.getD 0 0#8, text.getD 1 0#8]
  else
    let totalSize : Word16 := BitVec.ofNat 16 (2 * strlen text + 2)
    if usbdevRequestBufferLen < totalSize.toNat then none
    else
      some (totalSize.lowByte :: usbDescriptorTypeString ::
        (text.take (strlen text)).flatMap fun char => [char, 0#8])

/-- `usbd_get_descriptor`. -/
def usbdGetDescriptor (typeIndex : Word16) (data : RequestData) (core : UsbdCore) : Handled :=
  let type := typeIndex.highByte
  let index := typeIndex.lowByte
  if type = usbDescriptorTypeDevice then
    ((true, data.offer deviceDescriptor (bLength deviceDescriptor)),
      { core with speed := usbdGetPortSpeed core.pspd })
  else if type = usbDescriptorTypeConfiguration then
    let desc := configDescriptorCallback core.speed
    ((true, data.offer desc ((wTotalLength desc).getD 0)),
      { core with
        selfPowered := decide (desc.getD 7 0#8 &&& 0x40#8 ≠ 0#8)
        remoteWakeupSupport := decide (desc.getD 7 0#8 &&& 0x20#8 ≠ 0#8) })
  else if type = usbDescriptorTypeString then
    if index = usbOsdescStringDescIndex then ((false, data), core)
    else
      match (stringDescriptorCallback index).bind (stringBytes index) with
      | some bytes => ((true, data.store bytes), core)
      | none => ((false, data), core)
  else if type = usbDescriptorTypeDeviceQualifier then
    ((true, data.offer deviceQualityDescriptor (bLength deviceQualityDescriptor)), core)
  else if type = usbDescriptorTypeOtherSpeed then
    let desc := otherSpeedDescriptorCallback core.speed
    ((true, data.offer desc ((wTotalLength desc).getD 0)), core)
  else if type = usbDescriptorTypeBinaryObjectStore then
    ((true, data.offer usbdBinaryObjectStoreDescriptor usbdBinaryObjectStoreDescriptor.length),
      core)
  else ((false, data), core)

/-! ## Standard requests -/

/-- `USB_REQUEST_GET_STATUS`. -/
def usbRequestGetStatus : Byte := 0x00#8

/-- `USB_REQUEST_CLEAR_FEATURE`. -/
def usbRequestClearFeature : Byte := 0x01#8

/-- `USB_REQUEST_SET_FEATURE`. -/
def usbRequestSetFeature : Byte := 0x03#8

/-- `USB_REQUEST_SET_ADDRESS`. -/
def usbRequestSetAddress : Byte := 0x05#8

/-- `USB_REQUEST_GET_DESCRIPTOR`. -/
def usbRequestGetDescriptor : Byte := 0x06#8

/-- `USB_REQUEST_GET_CONFIGURATION`. -/
def usbRequestGetConfiguration : Byte := 0x08#8

/-- `USB_REQUEST_SET_CONFIGURATION`. -/
def usbRequestSetConfiguration : Byte := 0x09#8

/-- `USB_REQUEST_GET_INTERFACE`. -/
def usbRequestGetInterface : Byte := 0x0A#8

/-- `USB_REQUEST_SET_INTERFACE`. -/
def usbRequestSetInterface : Byte := 0x0B#8

/-- `SET_FEATURE` or `CLEAR_FEATURE` of the device. -/
def deviceFeature (setup : UsbSetupPacket) (core : UsbdCore) : UsbdCore :=
  if setup.wValue = 1#16 then
    if setup.bRequest = usbRequestSetFeature then
      { core with remoteWakeupEnabled := true, events := core.events ++ [.setRemoteWakeup] }
    else { core with remoteWakeupEnabled := false, events := core.events ++ [.clrRemoteWakeup] }
  else if setup.wValue = 2#16 then { core with testReq := true }
  else core

/-- `SET_CONFIGURATION`. -/
def setConfiguration (value : Byte) (data : RequestData) (core : UsbdCore) : Handled :=
  if value = 0#8 then ((true, data.empty), { core with configuration := 0#8 })
  else
    match usbdSetConfiguration value 0#8 core with
    | none => ((false, data), core.lose)
    | some (false, core) => ((false, data.empty), core)
    | some (true, core) =>
        ((true, data.empty),
          { core with configuration := value, events := core.events ++ [.configured] })

/-- The status of the device: self-powered, remote wakeup. -/
def UsbdCore.status (core : UsbdCore) : Byte :=
  (if core.selfPowered then 0x01#8 else 0x00#8) |||
    (if core.remoteWakeupEnabled then 0x02#8 else 0x00#8)

/-- `usbd_std_device_req_handler`. -/
def usbdStdDeviceReqHandler (setup : UsbSetupPacket) (data : RequestData) (core : UsbdCore) :
    Handled :=
  if setup.bRequest = usbRequestGetStatus then
    ((true, data.store [core.status, 0x00#8]), core)
  else if setup.bRequest = usbRequestClearFeature ∨ setup.bRequest = usbRequestSetFeature then
    ((true, data.empty), deviceFeature setup core)
  else if setup.bRequest = usbRequestSetAddress then
    ((true, data.empty), { core with deviceAddress := setup.wValue.lowByte })
  else if setup.bRequest = usbRequestGetDescriptor then usbdGetDescriptor setup.wValue data core
  else if setup.bRequest = usbRequestGetConfiguration then
    ((true, data.store [core.configuration]), core)
  else if setup.bRequest = usbRequestSetConfiguration then
    setConfiguration setup.wValue.lowByte data core
  else ((false, data), core)

/-- What `usbd_std_interface_req_handler` offers: the HID descriptor of an interface, or
`hid_report_descriptor`, which is `NULL` and empty for an interface of another class. -/
def interfaceDescriptor (type intfNum : Byte) (data : RequestData) (core : UsbdCore) : Handled :=
  if type = hidDescriptorTypeHid then
    match hidDescriptorWalk (configDescriptorCallback core.speed) intfNum with
    | none => ((false, data), core.lose)
    | some none => ((false, data), core)
    | some (some desc) => ((true, data.offer desc desc.length), core)
  else if type = hidDescriptorTypeHidReport then
    if intfNum = 2#8 then
      ((true, data.offer sDapv1HidReportDesc sDapv1HidReportDesc.length), core)
    else if intfNum.toNat < exlinkIfnumTotal then ((true, data.offer [] 0), core)
    else ((false, data), core)
  else ((false, data), core)

/-- `usbd_std_interface_req_handler`. -/
def usbdStdInterfaceReqHandler (setup : UsbSetupPacket) (data : RequestData) (core : UsbdCore) :
    Handled :=
  let intfNum := setup.wIndex.lowByte
  if core.configuration = 0#8 then ((false, data), core)
  else if setup.bRequest = usbRequestGetStatus then ((true, data.store [0x00#8, 0x00#8]), core)
  else if setup.bRequest = usbRequestGetDescriptor then
    interfaceDescriptor setup.wValue.highByte intfNum data core
  else if setup.bRequest = usbRequestGetInterface then
    if intfNum.toNat < 16 then ((true, data.store [core.intfAltsetting intfNum]), core)
    else ((false, data), core.lose)
  else if setup.bRequest = usbRequestSetInterface then
    if intfNum.toNat < 16 then
      let core :=
        { core with
          intfAltsetting :=
            Function.update core.intfAltsetting intfNum setup.wValue.lowByte }
      match usbdSetInterface intfNum setup.wValue.lowByte core with
      | none => ((false, data), core.lose)
      | some core => ((true, data.empty), core)
    else ((false, data), core.lose)
  else ((false, data), core)

/-- The bits of an address that the stall registers go by. -/
def stallIndex (ep : Byte) : Byte := ep &&& 0x8F#8

/-- `usbd_ep_is_stalled`. -/
def UsbdCore.haltStatus (core : UsbdCore) (ep : Byte) : Byte :=
  if core.stalled (stallIndex ep) then 0x01#8 else 0x00#8

/-- `usbd_std_endpoint_req_handler`. A halt of endpoint 0 itself is not followed up. -/
def usbdStdEndpointReqHandler (setup : UsbSetupPacket) (data : RequestData) (core : UsbdCore) :
    Handled :=
  let ep := setup.wIndex.lowByte
  if core.configuration = 0#8 then ((false, data), core)
  else if setup.bRequest = usbRequestGetStatus then
    ((true, data.store [core.haltStatus ep, 0x00#8]), core)
  else if setup.bRequest = usbRequestClearFeature then
    if setup.wValue = 0#16 then
      ((true, data),
        { core with stalled := Function.update core.stalled (stallIndex ep) false })
    else ((false, data.empty), core)
  else if setup.bRequest = usbRequestSetFeature then
    if setup.wValue = 0#16 then
      if ep &&& 0x0F#8 = 0#8 then ((true, data.empty), core.lose)
      else
        ((true, data.empty),
          { core with stalled := Function.update core.stalled (stallIndex ep) true })
    else ((false, data.empty), core)
  else ((false, data), core)

/-- The recipient of a request, `bmRequestType & USB_REQUEST_RECIPIENT_MASK`. -/
def UsbSetupPacket.recipient (setup : UsbSetupPacket) : Byte := setup.bmRequestType &&& 0x03#8

/-- `usbd_standard_request_handler`. -/
def usbdStandardRequestHandler (setup : UsbSetupPacket) (data : RequestData) (core : UsbdCore) :
    Handled :=
  if setup.recipient = 0#8 then usbdStdDeviceReqHandler setup data core
  else if setup.recipient = 1#8 then usbdStdInterfaceReqHandler setup data core
  else if setup.recipient = 2#8 then usbdStdEndpointReqHandler setup data core
  else ((false, data), core)

/-! ## Class and vendor requests -/

/-- `hid_class_interface_request_handler`, with the weak functions that it calls. -/
def hidClassInterfaceRequestHandler (setup : UsbSetupPacket) (data : RequestData)
    (core : UsbdCore) : Handled :=
  if setup.bRequest = 0x01#8 ∨ setup.bRequest = 0x02#8 ∨ setup.bRequest = 0x03#8 then
    ((true, data.store [0#8]), core)
  else if setup.bRequest = 0x09#8 ∨ setup.bRequest = 0x0A#8 ∨ setup.bRequest = 0x0B#8 then
    ((true, data), core)
  else ((false, data), core)

/-- `CDC_REQUEST_SET_LINE_CODING`. -/
def cdcRequestSetLineCoding : Byte := 0x20#8

/-- `sizeof(struct cdc_line_coding)`. -/
def lineCodingSize : ℕ := 7

/-- The line coding of the weak `usbd_cdc_acm_get_line_coding`: 2000000 baud, 8N1. -/
def cdcLineCoding : List Byte := [0x80#8, 0x84#8, 0x1E#8, 0x00#8, 0x00#8, 0x00#8, 0x08#8]

/-- `cdc_acm_class_interface_request_handler`, with the weak functions that it calls. The
line coding of the host is copied into a local by the length that the host gives. -/
def cdcAcmClassInterfaceRequestHandler (setup : UsbSetupPacket) (data : RequestData)
    (core : UsbdCore) : Handled :=
  if setup.bRequest = cdcRequestSetLineCoding then
    if setup.wLength.toNat ≤ lineCodingSize then ((true, data), core)
    else ((true, data), core.lose)
  else if setup.bRequest = 0x21#8 then ((true, data.store cdcLineCoding), core)
  else if setup.bRequest = 0x22#8 ∨ setup.bRequest = 0x23#8 then ((true, data), core)
  else ((false, data), core)

/-- The interfaces that are registered with the handler of CDC. -/
def CdcInterface (number : Byte) : Prop :=
  number = 3#8 ∨ number = 4#8 ∨ number = 5#8 ∨ number = 6#8

instance (number : Byte) : Decidable (CdcInterface number) :=
  inferInstanceAs (Decidable (_ ∨ _))

/-- `usbd_class_request_handler`: interface 2 is HID and the four behind it are CDC. -/
def usbdClassRequestHandler (setup : UsbSetupPacket) (data : RequestData) (core : UsbdCore) :
    Handled :=
  if setup.recipient = 1#8 then
    if setup.wIndex.lowByte = 2#8 then hidClassInterfaceRequestHandler setup data core
    else if CdcInterface setup.wIndex.lowByte then
      cdcAcmClassInterfaceRequestHandler setup data core
    else ((false, data), core)
  else ((false, data), core)

/-- `usbd_vendor_request_handler`. -/
def usbdVendorRequestHandler (setup : UsbSetupPacket) (data : RequestData) (core : UsbdCore) :
    Handled :=
  if setup.bRequest = exlinkWinusbVendorCode ∧ setup.wIndex = 0x07#16 then
    ((true, data.offer usbdWinUsbDescriptorSetDescriptor usbdWinUsbDescriptorSetDescriptor.length),
      core)
  else ((false, data), core)

/-- The type of a request, `bmRequestType & USB_REQUEST_TYPE_MASK`. -/
def UsbSetupPacket.kind (setup : UsbSetupPacket) : Byte := setup.bmRequestType &&& 0x60#8

/-- `usbd_setup_request_handler`. -/
def usbdSetupRequestHandler (setup : UsbSetupPacket) (data : RequestData) (core : UsbdCore) :
    Handled :=
  if setup.kind = 0x00#8 then usbdStandardRequestHandler setup data core
  else if setup.kind = 0x20#8 then usbdClassRequestHandler setup data core
  else if setup.kind = 0x40#8 then usbdVendorRequestHandler setup data core
  else ((false, data), core)

/-! ## The layer -/

/-- `usbd_execute_test_mode`, once a request for it is through. -/
def executeTestMode (setup : UsbSetupPacket) (core : UsbdCore) : UsbdCore :=
  if core.testReq then { core with testMode := some setup.wIndex.highByte, testReq := false }
  else core

/-- `usbd_event_reset_handler`, and what the controller does on a reset; the port comes up at
some speed. -/
def usbdEventResetHandler (pspd : BitVec 2) (core : UsbdCore) : UsbdCore :=
  { core with
    configuration := 0#8
    deviceAddress := 0#8
    speed := usbSpeedUnknown
    epEnable := fun ep => decide (ep = 0x00#8 ∨ ep = 0x80#8)
    stalled := fun _ => false
    pspd := pspd
    events := core.events ++ [.reset]
    resets := core.resets + 1 }

/-- The requests of the device, on a bus that comes up at the given speeds. -/
def exlinkRequests (pspds : ℕ → BitVec 2) : RequestLayer UsbdCore where
  handle := usbdSetupRequestHandler
  finish := executeTestMode
  reset core := usbdEventResetHandler (pspds (core.resets + 1)) core

end ExLink.Usb
