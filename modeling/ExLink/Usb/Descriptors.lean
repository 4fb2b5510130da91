/-
# The descriptors of the device

The arrays of `usb_device.c`. A configuration descriptor is a header, which gives the length
of the whole, and the descriptors of the seven interfaces behind it: records, one after the
other. The descriptors for the two speeds differ in the packet size of the bulk endpoints.
-/

import ExLink.Dap.Command
import ExLink.Data.Records

namespace ExLink.Usb

open ExLink.Dap (cString)

/-! ## Types -/

/-- `USB_DESCRIPTOR_TYPE_DEVICE`. -/
def usbDescriptorTypeDevice : Byte := 0x01#8

/-- `USB_DESCRIPTOR_TYPE_CONFIGURATION`. -/
def usbDescriptorTypeConfiguration : Byte := 0x02#8

/-- `USB_DESCRIPTOR_TYPE_STRING`. -/
def usbDescriptorTypeString : Byte := 0x03#8

/-- `USB_DESCRIPTOR_TYPE_INTERFACE`. -/
def usbDescriptorTypeInterface : Byte := 0x04#8

/-- `USB_DESCRIPTOR_TYPE_ENDPOINT`. -/
def usbDescriptorTypeEndpoint : Byte := 0x05#8

/-- `USB_DESCRIPTOR_TYPE_DEVICE_QUALIFIER`. -/
def usbDescriptorTypeDeviceQualifier : Byte := 0x06#8

/-- `USB_DESCRIPTOR_TYPE_OTHER_SPEED`. -/
def usbDescriptorTypeOtherSpeed : Byte := 0x07#8

/-- `USB_DESCRIPTOR_TYPE_INTERFACE_ASSOCIATION`. -/
def usbDescriptorTypeInterfaceAssociation : Byte := 0x0B#8

/-- `USB_DESCRIPTOR_TYPE_BINARY_OBJECT_STORE`. -/
def usbDescriptorTypeBinaryObjectStore : Byte := 0x0F#8

/-- `HID_DESCRIPTOR_TYPE_HID`. -/
def hidDescriptorTypeHid : Byte := 0x21#8

/-- `HID_DESCRIPTOR_TYPE_HID_REPORT`. -/
def hidDescriptorTypeHidReport : Byte := 0x22#8

/-- `CDC_CS_INTERFACE`. -/
def cdcCsInterface : Byte := 0x24#8

/-- `WBVAL`. -/
def wbval (word : Word16) : List Byte := [word.lowByte, word.highByte]

/-! ## Interfaces and endpoints -/

/-- `USB_INTERFACE_DESCRIPTOR_INIT`. -/
def usbInterfaceDescriptorInit (bInterfaceNumber bAlternateSetting bNumEndpoints
    bInterfaceClass bInterfaceSubClass bInterfaceProtocol iInterface : Byte) : List Byte :=
  [0x09#8, usbDescriptorTypeInterface, bInterfaceNumber, bAlternateSetting, bNumEndpoints,
    bInterfaceClass, bInterfaceSubClass, bInterfaceProtocol, iInterface]

/-- `USB_ENDPOINT_DESCRIPTOR_INIT`. -/
def usbEndpointDescriptorInit (bEndpointAddress bmAttributes : Byte) (wMaxPacketSize : Word16)
    (bInterval : Byte) : List Byte :=
  [0x07#8, usbDescriptorTypeEndpoint, bEndpointAddress, bmAttributes,
    wMaxPacketSize.lowByte, wMaxPacketSize.highByte, bInterval]

/-- `USB_ENDPOINT_TYPE_BULK`. -/
def usbEndpointTypeBulk : Byte := 0x02#8

/-- `USB_ENDPOINT_TYPE_INTERRUPT`. -/
def usbEndpointTypeInterrupt : Byte := 0x03#8

/-- `CDC_ACM_DESCRIPTOR_INIT`. -/
def cdcAcmDescriptorInit (bFirstInterface intEp outEp inEp : Byte) (wMaxPacketSize : Word16)
    (strIdx : Byte) : List (List Byte) :=
  [[0x08#8, usbDescriptorTypeInterfaceAssociation, bFirstInterface, 0x02#8, 0x02#8, 0x02#8,
      0x00#8, 0x00#8],
    usbInterfaceDescriptorInit bFirstInterface 0x00#8 0x01#8 0x02#8 0x02#8 0x00#8 strIdx,
    [0x05#8, cdcCsInterface, 0x00#8, 0x10#8, 0x01#8],
    [0x05#8, cdcCsInterface, 0x01#8, 0x00#8, bFirstInterface + 1#8],
    [0x04#8, cdcCsInterface, 0x02#8, 0x02#8],
    [0x05#8, cdcCsInterface, 0x06#8, bFirstInterface, bFirstInterface + 1#8],
    usbEndpointDescriptorInit intEp usbEndpointTypeInterrupt 8#16 0x0A#8,
    usbInterfaceDescriptorInit (bFirstInterface + 1#8) 0x00#8 0x02#8 0x0A#8 0x00#8 0x00#8 0x00#8,
    usbEndpointDescriptorInit outEp usbEndpointTypeBulk wMaxPacketSize 0x00#8,
    usbEndpointDescriptorInit inEp usbEndpointTypeBulk wMaxPacketSize 0x00#8]

/-- `EXLINK_IFNUM_TOTAL`. -/
def exlinkIfnumTotal : ℕ := 7

/-- `EXLINK_HID_REPORT_DESC_SIZE`. -/
def exlinkHidReportDescSize : Word16 := 33#16

/-- `EXLINK_HID_MPS`. -/
def exlinkHidMps : Word16 := 64#16

/-- `EXLINK_BULK_MPS_HS`. -/
def exlinkBulkMpsHs : Word16 := 512#16

/-- `EXLINK_BULK_MPS_FS`. -/
def exlinkBulkMpsFs : Word16 := 64#16

/-- `USB_CONFIG_SIZE`. -/
def usbConfigSize : Word16 := 219#16

/-- The header of `EXLINK_CONFIG_BLOB`: bus powered, 200 mA. -/
def exlinkConfigHeader (cfgType : Byte) : List Byte :=
  [0x09#8, cfgType, usbConfigSize.lowByte, usbConfigSize.highByte,
    BitVec.ofNat 8 exlinkIfnumTotal, 0x01#8, 0x00#8, 0x80#8, 100#8]

/-- What follows the header of `EXLINK_CONFIG_BLOB`. -/
def exlinkConfigRecords (bulkMps : Word16) : List (List Byte) :=
  [usbInterfaceDescriptorInit 0#8 0x00#8 0x02#8 0xFF#8 0x00#8 0x00#8 4#8,
    usbEndpointDescriptorInit 0x01#8 usbEndpointTypeBulk bulkMps 0x00#8,
    usbEndpointDescriptorInit 0x81#8 usbEndpointTypeBulk bulkMps 0x00#8,
    usbInterfaceDescriptorInit 1#8 0x00#8 0x02#8 0xFF#8 0x00#8 0x00#8 5#8,
    usbEndpointDescriptorInit 0x02#8 usbEndpointTypeBulk bulkMps 0x00#8,
    usbEndpointDescriptorInit 0x82#8 usbEndpointTypeBulk bulkMps 0x00#8,
    usbInterfaceDescriptorInit 2#8 0x00#8 0x02#8 0x03#8 0x00#8 0x00#8 6#8,
    [0x09#8, hidDescriptorTypeHid, 0x11#8, 0x01#8, 0x00#8, 0x01#8, 0x22#8,
      exlinkHidReportDescSize.lowByte, exlinkHidReportDescSize.highByte],
    usbEndpointDescriptorInit 0x83#8 usbEndpointTypeInterrupt exlinkHidMps 0x01#8,
    usbEndpointDescriptorInit 0x03#8 usbEndpointTypeInterrupt exlinkHidMps 0x01#8] ++
  cdcAcmDescriptorInit 3#8 0x84#8 0x05#8 0x85#8 bulkMps 0x00#8 ++
  cdcAcmDescriptorInit 5#8 0x86#8 0x07#8 0x87#8 bulkMps 0x00#8

/-- `EXLINK_CONFIG_BLOB`. -/
def exlinkConfigBlob (cfgType : Byte) (bulkMps : Word16) : List Byte :=
  exlinkConfigHeader cfgType ++ (exlinkConfigRecords bulkMps).flatten

/-- `config_descriptor_hs`. -/
def configDescriptorHs : List Byte :=
  exlinkConfigBlob usbDescriptorTypeConfiguration exlinkBulkMpsHs

/-- `config_descriptor_fs`. -/
def configDescriptorFs : List Byte :=
  exlinkConfigBlob usbDescriptorTypeConfiguration exlinkBulkMpsFs

/-- `other_speed_descriptor_hs`. -/
def otherSpeedDescriptorHs : List Byte :=
  exlinkConfigBlob usbDescriptorTypeOtherSpeed exlinkBulkMpsHs

/-- `other_speed_descriptor_fs`. -/
def otherSpeedDescriptorFs : List Byte :=
  exlinkConfigBlob usbDescriptorTypeOtherSpeed exlinkBulkMpsFs

/-! ## The device -/

/-- `device_descriptor`. -/
def deviceDescriptor : List Byte :=
  [0x12#8, usbDescriptorTypeDevice] ++ wbval 0x0210#16 ++ [0xEF#8, 0x02#8, 0x01#8, 0x40#8] ++
    wbval 0x34B7#16 ++ wbval 0x0E11#16 ++ wbval 0x0102#16 ++ [0x01#8, 0x02#8, 0x03#8, 0x01#8]

/-- `device_quality_descriptor`. -/
def deviceQualityDescriptor : List Byte :=
  [0x0A#8, usbDescriptorTypeDeviceQualifier, 0x10#8, 0x02#8, 0xEF#8, 0x02#8, 0x01#8, 0x40#8,
    0x01#8, 0x00#8]

/-- A text in UTF-16 as the property lists of Windows have it. -/
def wideText (text : String) : List Byte :=
  text.toList.flatMap fun char => [BitVec.ofNat 8 char.toNat, 0#8]

/-- `EXLINK_WINUSB_FUNC_SUBSET`. -/
def exlinkWinusbFuncSubset (ifnum : Byte) (last : Char) : List Byte :=
  wbval 8#16 ++ wbval 2#16 ++ [ifnum, 0x00#8] ++ wbval 160#16 ++
    wbval 20#16 ++ wbval 3#16 ++ [0x57#8, 0x49#8, 0x4E#8, 0x55#8, 0x53#8, 0x42#8, 0#8, 0#8] ++
    List.replicate 8 0#8 ++
    wbval 132#16 ++ wbval 4#16 ++ wbval 7#16 ++
    wbval 42#16 ++ wideText "DeviceInterfaceGUIDs" ++ [0#8, 0#8] ++
    wbval 80#16 ++ wideText "\x7b7D9A0E11-4C4B-4E6C-9B3A-7D4C4B4E6C0" ++
    [BitVec.ofNat 8 last.toNat, 0#8] ++ wideText "\x7d" ++ [0#8, 0#8, 0#8, 0#8]

/-- `USBD_WinUSBDescriptorSetDescriptor`. -/
def usbdWinUsbDescriptorSetDescriptor : List Byte :=
  wbval 10#16 ++ wbval 0#16 ++ [0x00#8, 0x00#8, 0x03#8, 0x06#8] ++ wbval 330#16 ++
    exlinkWinusbFuncSubset 0#8 '1' ++ exlinkWinusbFuncSubset 1#8 '2'

/-- `EXLINK_WINUSB_VENDOR_CODE`. -/
def exlinkWinusbVendorCode : Byte := 0x20#8

/-- `USBD_BinaryObjectStoreDescriptor`. -/
def usbdBinaryObjectStoreDescriptor : List Byte :=
  [0x05#8, usbDescriptorTypeBinaryObjectStore] ++ wbval 33#16 ++ [0x01#8] ++
    [28#8, 0x10#8, 0x05#8, 0x00#8,
      0xDF#8, 0x60#8, 0xDD#8, 0xD8#8, 0x89#8, 0x45#8, 0xC7#8, 0x4C#8,
      0x9C#8, 0xD2#8, 0x65#8, 0x9D#8, 0x9E#8, 0x64#8, 0x8A#8, 0x9F#8,
      0x00#8, 0x00#8, 0x03#8, 0x06#8] ++ wbval 330#16 ++ [exlinkWinusbVendorCode, 0#8]

/-- `string_descriptors`. -/
def stringDescriptors : List (List Byte) :=
  [[0x09#8, 0x04#8], cString "LabForge", cString "ExLink", cString "EXLINK-F1-0001",
    cString "ExLink Command", cString "ExLink CMSIS-DAP v2", cString "ExLink CMSIS-DAP v1"]

/-- `string_descriptor_callback`. -/
def stringDescriptorCallback (index : Byte) : Option (List Byte) :=
  if 6 < index.toNat then none else stringDescriptors[index.toNat]?

/-- `s_dapv1_hid_report_desc`. -/
def sDapv1HidReportDesc : List Byte :=
  [0x06#8, 0x00#8, 0xFF#8, 0x09#8, 0x01#8, 0xA1#8, 0x01#8, 0x15#8, 0x00#8, 0x26#8, 0xFF#8,
    0x00#8, 0x75#8, 0x08#8, 0x95#8, 0x40#8, 0x09#8, 0x01#8, 0x81#8, 0x02#8, 0x95#8, 0x40#8,
    0x09#8, 0x01#8, 0x91#8, 0x02#8, 0x95#8, 0x01#8, 0x09#8, 0x01#8, 0xB1#8, 0x02#8, 0xC0#8]

/-! ## Speeds -/

/-- `USB_SPEED_UNKNOWN`. -/
def usbSpeedUnknown : Byte := 0#8

/-- `USB_SPEED_HIGH`. -/
def usbSpeedHigh : Byte := 3#8

/-- `usbd_get_port_speed`, from the speed in `PORTSC1`. -/
def usbdGetPortSpeed (pspd : BitVec 2) : Byte :=
  if pspd = 0#2 then 2#8
  else if pspd = 1#2 then 1#8
  else if pspd = 2#2 then usbSpeedHigh
  else 0#8

/-- `config_descriptor_callback`. -/
def configDescriptorCallback (speed : Byte) : List Byte :=
  if speed = usbSpeedHigh then configDescriptorHs else configDescriptorFs

/-- `other_speed_descriptor_callback`. -/
def otherSpeedDescriptorCallback (speed : Byte) : List Byte :=
  if speed = usbSpeedHigh then otherSpeedDescriptorFs else otherSpeedDescriptorHs

/-- The packet size of the bulk endpoints that a speed stands for. -/
def bulkMpsAt (speed : Byte) : Word16 :=
  if speed = usbSpeedHigh then exlinkBulkMpsHs else exlinkBulkMpsFs

theorem configDescriptorCallback_eq (speed : Byte) :
    configDescriptorCallback speed =
      exlinkConfigBlob usbDescriptorTypeConfiguration (bulkMpsAt speed) := by
  rw [configDescriptorCallback, bulkMpsAt]
  split_ifs
  · rfl
  · rfl

/-! ## What the arrays are -/

/-- A descriptor inside a configuration: a record that is no header itself, with the fields of
an interface or an endpoint if it is one. -/
structure InsideConfig (record : List Byte) : Prop where
  isRecord : IsRecord record
  typed : 2 ≤ record.length
  notHeader : record.getD 1 0#8 ≠ usbDescriptorTypeConfiguration
  interface : record.getD 1 0#8 = usbDescriptorTypeInterface → 4 ≤ record.length
  endpoint : record.getD 1 0#8 = usbDescriptorTypeEndpoint → 6 ≤ record.length

theorem insideConfig_cons {size type : Byte} {rest : List Byte}
    (hsize : size.toNat = rest.length + 2) (hheader : type ≠ usbDescriptorTypeConfiguration)
    (hinterface : type = usbDescriptorTypeInterface → 2 ≤ rest.length)
    (hendpoint : type = usbDescriptorTypeEndpoint → 4 ≤ rest.length) :
    InsideConfig (size :: type :: rest) where
  isRecord := ⟨List.cons_ne_nil _ _, hsize⟩
  typed := Nat.le_add_left _ _
  notHeader := hheader
  interface htype := Nat.add_le_add_right (hinterface htype) 2
  endpoint htype := Nat.add_le_add_right (hendpoint htype) 2

/-- A descriptor that is neither an interface nor an endpoint. -/
theorem insideConfig_other {size type : Byte} {rest : List Byte}
    (hsize : size.toNat = rest.length + 2)
    (htype : type ∉ [usbDescriptorTypeConfiguration, usbDescriptorTypeInterface,
      usbDescriptorTypeEndpoint]) :
    InsideConfig (size :: type :: rest) := by
  rw [List.mem_cons, List.mem_cons, List.mem_singleton, not_or, not_or] at htype
  exact insideConfig_cons hsize htype.1 (fun h => absurd h htype.2.1)
    (fun h => absurd h htype.2.2)

theorem insideConfig_usbInterfaceDescriptorInit (number setting endpoints interfaceClass
    subClass protocol text : Byte) :
    InsideConfig (usbInterfaceDescriptorInit number setting endpoints interfaceClass subClass
      protocol text) :=
  insideConfig_cons rfl (by decide) (fun _ => Nat.le_add_left 2 5) (fun h => nomatch h)

theorem insideConfig_usbEndpointDescriptorInit (address attributes : Byte) (mps : Word16)
    (interval : Byte) :
    InsideConfig (usbEndpointDescriptorInit address attributes mps interval) :=
  insideConfig_cons rfl (by decide) (fun h => nomatch h) (fun _ => Nat.le_add_left 4 1)

theorem insideConfig_cdcAcmDescriptorInit (first intEp outEp inEp : Byte) (mps : Word16)
    (text : Byte) :
    ∀ record ∈ cdcAcmDescriptorInit first intEp outEp inEp mps text, InsideConfig record := by
  simp only [cdcAcmDescriptorInit, List.forall_mem_cons]
  exact ⟨insideConfig_other rfl (by decide), insideConfig_usbInterfaceDescriptorInit ..,
    insideConfig_other rfl (by decide), insideConfig_other rfl (by decide),
    insideConfig_other rfl (by decide), insideConfig_other rfl (by decide),
    insideConfig_usbEndpointDescriptorInit .., insideConfig_usbInterfaceDescriptorInit ..,
    insideConfig_usbEndpointDescriptorInit .., insideConfig_usbEndpointDescriptorInit ..,
    fun _ hnone => absurd hnone List.not_mem_nil⟩

/-- What follows the header of the device's configuration are descriptors. -/
theorem insideConfig_exlinkConfigRecords (bulkMps : Word16) :
    ∀ record ∈ exlinkConfigRecords bulkMps, InsideConfig record := by
  rw [exlinkConfigRecords, List.forall_mem_append, List.forall_mem_append]
  refine ⟨⟨?_, insideConfig_cdcAcmDescriptorInit _ _ _ _ _ _⟩,
    insideConfig_cdcAcmDescriptorInit _ _ _ _ _ _⟩
  simp only [List.forall_mem_cons]
  exact ⟨insideConfig_usbInterfaceDescriptorInit .., insideConfig_usbEndpointDescriptorInit ..,
    insideConfig_usbEndpointDescriptorInit .., insideConfig_usbInterfaceDescriptorInit ..,
    insideConfig_usbEndpointDescriptorInit .., insideConfig_usbEndpointDescriptorInit ..,
    insideConfig_usbInterfaceDescriptorInit .., insideConfig_other rfl (by decide),
    insideConfig_usbEndpointDescriptorInit .., insideConfig_usbEndpointDescriptorInit ..,
    fun _ hnone => absurd hnone List.not_mem_nil⟩

theorem length_flatten_exlinkConfigRecords (bulkMps : Word16) :
    (exlinkConfigRecords bulkMps).flatten.length = 210 := by
  simp only [exlinkConfigRecords, cdcAcmDescriptorInit, usbInterfaceDescriptorInit,
    usbEndpointDescriptorInit, List.flatten_append, List.flatten_cons, List.flatten_nil,
    List.length_append, List.length_cons, List.length_nil]

/-- `wTotalLength` is the length of the whole. -/
theorem length_exlinkConfigBlob (cfgType : Byte) (bulkMps : Word16) :
    (exlinkConfigBlob cfgType bulkMps).length = usbConfigSize.toNat := by
  rw [exlinkConfigBlob, List.length_append, length_flatten_exlinkConfigRecords]
  rfl

end ExLink.Usb
