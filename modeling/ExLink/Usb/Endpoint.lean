/-
# Bulk endpoints

What an OUT callback receives, and sending through an IN endpoint:
`usb_if_dap_send` and `dap_in_cb` of `usb_if_dap.c`, access by access: the caller
waits until the last transfer is over, copies its data, marks the port busy, starts
the transfer and waits again. The completion callback adds an empty packet after a
transfer of whole packets. In a configured session the endpoint stays enabled, and
starting a transfer fails on a disabled endpoint only.
-/

import ExLink.Data.Bytes
import ExLink.Usb.Bulk

namespace ExLink.Usb

open ExLink.Bulk

/-- `EXLINK_BULK_MPS` at high speed. -/
def exlinkBulkMps : ℕ := 512

/-- The speeds that `config_descriptor_callback` offers. -/
inductive UsbSpeed where
  | full
  | high
  deriving DecidableEq

/-- The maximum packet size of the bulk endpoints, `usbd_get_ep_mps`. -/
def UsbSpeed.mps : UsbSpeed → ℕ
  | .full => 64
  | .high => 512

theorem UsbSpeed.mps_pos (speed : UsbSpeed) : 0 < speed.mps := by cases speed <;> decide

theorem UsbSpeed.mps_dvd (speed : UsbSpeed) : speed.mps ∣ exlinkBulkMps := by
  cases speed <;> decide

/-- What an OUT buffer can hold when the OUT callback runs. -/
structure OutPacket where
  bytes : List Byte
  fits : bytes.length ≤ exlinkBulkMps

/-- The IN buffer, `s_tx_busy`, the length of the transfer that the controller holds,
and the packets that the host took. -/
structure InPort where
  buf : Buf
  busy : Bool
  armed : Option ℕ
  wire : List (List Byte)

/-- What differs between the ports: the buffer size, the wait limit in milliseconds,
the maximum packet size. -/
structure InPortConf where
  capacity : ℕ
  timeoutMs : ℕ
  mps : ℕ

/-- The DAP port at high speed. -/
def dapInPort : InPortConf := ⟨exlinkBulkMps, 1000, exlinkBulkMps⟩

/-- The DAP port, whose buffer does not follow the speed. -/
def dapInPortAt (speed : UsbSpeed) : InPortConf := { dapInPort with mps := speed.mps }

/-- Where a send stands. -/
inductive SendPc where
  | wait (data : List Byte) (waited : ℕ)
  | copy (data : List Byte)
  | mark (len : ℕ)
  | start (len : ℕ)
  | drain (waited : ℕ)

/-- The checks on entry: a return value, or the first wait. -/
def sendEntry (conf : InPortConf) (data : List Byte) : ℤ ⊕ SendPc :=
  if data.length = 0 then .inl (-1)
  else if conf.capacity < data.length then .inl (-3)
  else .inr (.wait data 0)

/-- One access of a send: a return value or the next place, and the port. A turn of a
wait loop is a millisecond. -/
def sendStep (conf : InPortConf) (pc : SendPc) (port : InPort) : (ℤ ⊕ SendPc) × InPort :=
  match pc with
  | .wait data waited =>
      (if port.busy then
        if conf.timeoutMs ≤ waited then .inl (-4) else .inr (.wait data (waited + 1))
      else .inr (.copy data), port)
  | .copy data => (.inr (.mark data.length), { port with buf := port.buf.write data })
  | .mark len => (.inr (.start len), { port with busy := true })
  | .start len => (.inr (.drain 0), { port with armed := some len })
  | .drain waited =>
      (if port.busy then
        if conf.timeoutMs ≤ waited then .inl (-6) else .inr (.drain (waited + 1))
      else .inl 0, port)

/-- A send does not ask for the packet size, only its completion callback does. -/
theorem sendStep_dapInPortAt (speed : UsbSpeed) (pc : SendPc) (port : InPort) :
    sendStep (dapInPortAt speed) pc port = sendStep dapInPort pc port := by
  cases pc <;> rfl

theorem sendEntry_dapInPortAt (speed : UsbSpeed) (data : List Byte) :
    sendEntry (dapInPortAt speed) data = sendEntry dapInPort data := rfl

/-- `dap_in_cb`, for a transfer of `nbytes`: an empty packet after whole packets. -/
def inCb (conf : InPortConf) (nbytes : ℕ) (port : InPort) : InPort :=
  if 0 < nbytes ∧ nbytes % conf.mps = 0 then { port with armed := some 0 }
  else { port with busy := false }

/-- The host takes the transfer that is armed, and the callback runs. -/
def inComplete (conf : InPortConf) (port : InPort) : Option InPort :=
  port.armed.map fun len =>
    inCb conf len
      { port with
        armed := none
        wire := port.wire ++ transferPackets conf.mps (port.buf.prefixBytes len) }

/-- The packets that a sent response is worth: its own, and an empty one after whole
packets. -/
def sentPackets (conf : InPortConf) (data : List Byte) : List (List Byte) :=
  transferPackets conf.mps data ++ if data.length % conf.mps = 0 then [[]] else []

/-! ## A caller that sends one response after the other -/

/-- The port and the call in progress; what the call sends, the responses of all calls,
those whose transfer was started, and what the calls returned. -/
structure InSession where
  port : InPort
  call : Option SendPc
  response : List Byte
  sent : List (List Byte)
  started : List (List Byte)
  results : List ℤ

/-- A call, one access of the call in progress, or a completed transfer. -/
inductive InAction where
  | send (data : List Byte)
  | thread
  | complete

/-- The return value, if a step of a call ends it. -/
def returnValue : ℤ ⊕ SendPc → List ℤ
  | .inl result => [result]
  | .inr _ => []

/-- The responses after one access: starting the transfer adds the call's. -/
def startedAfter (pc : SendPc) (response : List Byte) (started : List (List Byte)) :
    List (List Byte) :=
  match pc with
  | .start _ => started ++ [response]
  | _ => started

/-- One action. A call that fails at once or returns leaves no call in progress. -/
def inStep (conf : InPortConf) (s : InSession) : InAction → Option InSession
  | .send data =>
      match s.call with
      | some _ => none
      | none =>
          some
            { s with
              call := (sendEntry conf data).getRight?
              response := data
              sent := s.sent ++ [data]
              results := s.results ++ returnValue (sendEntry conf data) }
  | .thread =>
      s.call.map fun pc =>
        let (next, port) := sendStep conf pc s.port
        { s with
          port := port
          call := next.getRight?
          started := startedAfter pc s.response s.started
          results := s.results ++ returnValue next }
  | .complete => (inComplete conf s.port).map fun port => { s with port := port }

end ExLink.Usb
