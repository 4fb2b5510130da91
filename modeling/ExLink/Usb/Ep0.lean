/-
# Control transfers of the device

The handlers of `usbd_core.c` for endpoint 0: a SETUP packet is answered at once, or the
data that the host sends after it is collected first; the reply goes out in one transfer,
with an empty packet after it where the host asked for more; and the status goes the other
way. What a request does is left open. The controller holds a transfer in either direction,
moves its packets one by one, and drops both on a SETUP packet, which also ends a stall.
-/

import ExLink.Data.Bytes

namespace ExLink.Usb

/-! ## Requests -/

/-- `struct usb_setup_packet`. -/
structure UsbSetupPacket where
  bmRequestType : Byte
  bRequest : Byte
  wValue : Word16
  wIndex : Word16
  wLength : Word16

/-- `USB_REQUEST_DIR_IN`. -/
def UsbSetupPacket.DirIn (setup : UsbSetupPacket) : Prop :=
  setup.bmRequestType &&& 0x80#8 = 0x80#8

instance (setup : UsbSetupPacket) : Decidable setup.DirIn := by
  unfold UsbSetupPacket.DirIn
  infer_instance

/-- What a request works on: `req_data`, the memory that `*data` points to when it is set to
point elsewhere, and `*len`. -/
structure RequestData where
  reqData : Buf
  elsewhere : Option Buf
  len : ℕ

/-- `usbd_setup_request_handler`; what a finished request leaves to be done,
`usbd_execute_test_mode`; and `usbd_event_reset_handler`. -/
structure RequestLayer (κ : Type) where
  handle : UsbSetupPacket → RequestData → κ → (Bool × RequestData) × κ
  finish : UsbSetupPacket → κ → κ
  reset : κ → κ

/-! ## Endpoint 0 -/

/-- `CONFIG_USBDEV_REQUEST_BUFFER_LEN`. -/
def usbdevRequestBufferLen : ℕ := 512

/-- `USB_CTRL_EP_MPS`. -/
def usbCtrlEpMps : ℕ := 64

/-- `ep0_next_state`. -/
inductive Ep0NextState where
  | setup
  | inData
  | outData
  | inStatus
  | outStatus
  deriving DecidableEq

/-- A transfer that the controller holds: where it starts in `req_data`, its length, and how
much of it is done. -/
structure Ep0Transfer where
  offset : ℕ
  length : ℕ
  done : ℕ

/-- `g_usbd_core` as far as endpoint 0 goes, with `ep0_data_buf` as an offset into
`req_data`; the controller; and what the requests are about. -/
structure Ep0 (κ : Type) where
  setup : UsbSetupPacket
  reqData : Buf
  dataBuf : ℕ
  residue : ℕ
  len : ℕ
  zlpFlag : Bool
  nextState : Ep0NextState
  inArmed : Option Ep0Transfer
  outArmed : Option Ep0Transfer
  inStalled : Bool
  core : κ

section Device

variable {κ : Type} (layer : RequestLayer κ)

/-- `usbd_ep_start_write` on endpoint 0. -/
def Ep0.startWrite (s : Ep0 κ) (offset length : ℕ) : Ep0 κ :=
  { s with inArmed := some ⟨offset, length, 0⟩ }

/-- `usbd_ep_start_read` on endpoint 0. -/
def Ep0.startRead (s : Ep0 κ) (offset length : ℕ) : Ep0 κ :=
  { s with outArmed := some ⟨offset, length, 0⟩ }

/-- `usbd_ep_set_stall` for IN, and back to SETUP. -/
def Ep0.refuse (s : Ep0 κ) : Ep0 κ := { s with nextState := .setup, inStalled := true }

/-- The transfer that the SETUP packet asks for. -/
def Ep0.prepare (s : Ep0 κ) : Ep0 κ :=
  { s with
    dataBuf := 0
    residue := s.setup.wLength.toNat
    len := s.setup.wLength.toNat
    zlpFlag := false }

/-- The request handler, on `req_data`. -/
def Ep0.request (s : Ep0 κ) : (Bool × RequestData) × κ :=
  layer.handle s.setup ⟨s.reqData, none, s.len⟩ s.core

/-- What a handler did to `req_data`, to `ep0_data_buf_len` and to the rest. -/
def Ep0.after (s : Ep0 κ) (handled : (Bool × RequestData) × κ) : Ep0 κ :=
  { s with reqData := handled.1.2.reqData, len := handled.1.2.len, core := handled.2 }

/-- `usb_memcpy` into `req_data` of what `*data` points to, if that is elsewhere. -/
def fetched (data : RequestData) (count : ℕ) : Buf :=
  match data.elsewhere with
  | some memory => data.reqData.write (memory.prefixBytes count)
  | none => data.reqData

/-- The reply to a request that was handled: at most what the host asked for. -/
def Ep0.reply (s : Ep0 κ) (data : RequestData) : Ep0 κ :=
  let residue := min data.len s.setup.wLength.toNat
  let s := { s with residue := residue }
  if usbdevRequestBufferLen < residue then s.refuse
  else
    let s :=
      { s with
        reqData := fetched data residue
        nextState := if 0 < residue then .inData else .inStatus }
    { s.startWrite s.dataBuf residue with
      zlpFlag := decide (s.len < s.setup.wLength.toNat ∧ s.len % usbCtrlEpMps = 0) }

/-- `__usbd_event_ep0_setup_complete_handler`. -/
def ep0SetupComplete (setup : UsbSetupPacket) (s : Ep0 κ) : Ep0 κ :=
  let s := { s with setup := setup }
  if usbdevRequestBufferLen < setup.wLength.toNat ∧ ¬ setup.DirIn then
    { s with inStalled := true }
  else
    let s := s.prepare
    if setup.wLength ≠ 0#16 ∧ ¬ setup.DirIn then
      { s.startRead s.dataBuf setup.wLength.toNat with nextState := .outData }
    else
      let handled := s.request layer
      let s := s.after handled
      if handled.1.1 then s.reply handled.1.2 else s.refuse

/-- `usbd_event_ep0_in_complete_handler`. -/
def ep0InComplete (nbytes : ℕ) (s : Ep0 κ) : Ep0 κ :=
  let s := { s with dataBuf := s.dataBuf + nbytes, residue := s.residue - nbytes }
  if s.residue ≠ 0 then s.startWrite s.dataBuf s.residue
  else if s.zlpFlag then { s.startWrite 0 0 with zlpFlag := false }
  else if s.setup.wLength ≠ 0#16 ∧ s.setup.DirIn then
    { s.startRead 0 0 with nextState := .outStatus }
  else
    { s with
      nextState := if s.nextState = .inStatus then .setup else s.nextState
      core := layer.finish s.setup s.core }

/-- `usbd_event_ep0_out_complete_handler`. -/
def ep0OutComplete (nbytes : ℕ) (s : Ep0 κ) : Ep0 κ :=
  if 0 < nbytes then
    let s := { s with dataBuf := s.dataBuf + nbytes, residue := s.residue - nbytes }
    if s.residue = 0 then
      let s := { s with dataBuf := 0 }
      let handled := s.request layer
      let s := s.after handled
      if handled.1.1 then { s.startWrite 0 0 with nextState := .inStatus } else s.refuse
    else s.startRead s.dataBuf s.residue
  else { s with nextState := .setup }

/-! ## The bus -/

/-- `memcpy` into the middle of a buffer. -/
def storedAt (buf : Buf) (offset : ℕ) (bytes : List Byte) : Buf := fun position =>
  if position < offset then buf position else bytes.getD (position - offset) (buf position)

/-- The next packet of a transfer to the host. -/
def Ep0Transfer.packet (transfer : Ep0Transfer) (buf : Buf) : List Byte :=
  Buf.prefixBytes (fun index => buf (transfer.offset + transfer.done + index))
    (min usbCtrlEpMps (transfer.length - transfer.done))

/-- A SETUP packet arrives. -/
def setupToken (setup : UsbSetupPacket) (s : Ep0 κ) : Ep0 κ :=
  ep0SetupComplete layer setup { s with inArmed := none, outArmed := none, inStalled := false }

/-- A bus reset, which opens endpoint 0 anew. -/
def busReset (s : Ep0 κ) : Ep0 κ :=
  { s with
    nextState := .setup
    inArmed := none
    outArmed := none
    inStalled := false
    core := layer.reset s.core }

/-- The host takes a packet, if there is one; the transfer is complete with its last packet. -/
def inToken (s : Ep0 κ) : Option (List Byte × Ep0 κ) :=
  if s.inStalled then none
  else
    s.inArmed.map fun transfer =>
      let packet := transfer.packet s.reqData
      let done := transfer.done + packet.length
      (packet,
        if done = transfer.length then
          ep0InComplete layer transfer.length { s with inArmed := none }
        else { s with inArmed := some { transfer with done := done } })

/-- The host sends a packet, if one is expected; the transfer is complete when it is full, or
on a short packet. -/
def outToken (packet : List Byte) (s : Ep0 κ) : Option (Ep0 κ) :=
  s.outArmed.bind fun transfer =>
    let done := transfer.done + packet.length
    if packet.length ≤ usbCtrlEpMps ∧ done ≤ transfer.length then
      let s := { s with reqData := storedAt s.reqData (transfer.offset + transfer.done) packet }
      some
        (if packet.length < usbCtrlEpMps ∨ done = transfer.length then
          ep0OutComplete layer done { s with outArmed := none }
        else { s with outArmed := some { transfer with done := done } })
    else none

end Device

end ExLink.Usb
