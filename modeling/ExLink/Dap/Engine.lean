/-
# The DAP engine: OUT callback, request ring and engine thread

The OUT callback stores a request in the ring and releases the semaphore, in interrupt
context and thus atomically. The engine thread executes the request at the tail in
place, sends its response and only then advances the tail. What `DAP_ExecuteCommand`
answers is left open: a run says for every request which response it got.
-/

import ExLink.Automata.Transition
import ExLink.Data.Ring
import ExLink.Usb.Endpoint

namespace ExLink.Dap

open ExLink.Automata ExLink.Usb

/-! ## The request ring -/

/-- `DAP_PACKET_SIZE` at high speed. -/
def dapPacketSize : ℕ := 512

/-- `DAP_PACKET_COUNT`. -/
def dapPacketCount : ℕ := 2

/-- `DAP_REQ_SLOTS`: one cell more than requests, as a ring keeps one empty. -/
def dapReqSlots : ℕ := dapPacketCount + 1

/-- `RT_SEM_VALUE_MAX`. -/
def rtSemValueMax : ℕ := 65535

/-- `dap_req_slot_t`. What a request leaves of the buffer keeps its old bytes. -/
structure DapReqSlot where
  len : ℕ
  buf : Buf

/-- The ring `s_req`, `s_req_dropped` and the value of `s_dap_sem`. -/
structure DapQueue where
  ring : Ring DapReqSlot dapReqSlots
  dropped : Word32
  sem : ℕ

/-- `rt_sem_release`: the value saturates. -/
def rtSemRelease (value : ℕ) : ℕ := if value < rtSemValueMax then value + 1 else value

/-- `dap_engine_submit`. -/
def dapEngineSubmit (data : List Byte) (queue : DapQueue) : ℤ × DapQueue :=
  if queue.ring.Full then (-1, { queue with dropped := queue.dropped + 1 })
  else
    let data := if dapPacketSize < data.length then data.take dapPacketSize else data
    let slot := queue.ring.cells queue.ring.head
    (0,
      { queue with
        ring := queue.ring.push ⟨data.length, slot.buf.write data⟩
        sem := rtSemRelease queue.sem })

/-! ## The system -/

/-- Where the engine thread stands. -/
inductive EnginePc where
  | take
  | check
  | execute
  | send (pc : SendPc)
  | advance
  | print

/-- The shared ring and IN port, the thread with `s_resp`; then what a run is judged by:
the requests that arrived, those that the ring refused, the responses that the host
took, the slots that were released, and whether the transfer with the response to the
request at the tail was started. -/
structure DapState where
  queue : DapQueue
  port : InPort
  resp : Buf
  pc : EnginePc
  received : ℕ
  refused : ℕ
  answered : ℕ
  released : ℕ
  tailStarted : Bool

/-- An OUT callback, one access of the thread, the execution of the request at the tail
with the response and the result it gave, or a completed IN transfer. -/
inductive DapAction where
  | out (packet : OutPacket)
  | thread
  | execute (resp : Buf) (result : Word32)
  | complete

/-- `dap_out_cb`. -/
def dapOutCb (packet : OutPacket) (s : DapState) : DapState :=
  if packet.bytes.length = 0 then s
  else
    let (ret, queue) := dapEngineSubmit packet.bytes s.queue
    { s with
      queue := queue
      received := s.received + 1
      refused := if ret = 0 then s.refused else s.refused + 1 }

/-- The thread goes on in `usb_if_dap_send`, or after it. -/
def sendNext : ℤ ⊕ SendPc → EnginePc
  | .inl _ => .advance
  | .inr pc => .send pc

/-- One access of `dap_engine_entry` outside `DAP_ExecuteCommand`. The result of
`usb_if_dap_send` is only printed. Its accesses are the same at either speed, by
`sendStep_dapInPortAt`. -/
def engineStep (s : DapState) : Option DapState :=
  match s.pc with
  | .take =>
      if s.queue.sem = 0 then none
      else some { s with queue := { s.queue with sem := s.queue.sem - 1 }, pc := .check }
  | .check => some { s with pc := if s.queue.ring.Empty then .take else .execute }
  | .execute => none
  | .send pc =>
      let (next, port) := sendStep dapInPort pc s.port
      some
        { s with
          port := port
          pc := sendNext next
          tailStarted :=
            match pc with
            | .start _ => true
            | _ => s.tailStarted }
  | .advance =>
      some
        { s with
          queue := { s.queue with ring := s.queue.ring.pop }
          pc := .print
          released := s.released + 1
          tailStarted := false }
  | .print => some { s with pc := .check }

/-- `DAP_ExecuteCommand` and the entry of `usb_if_dap_send`: an empty response is not
sent. -/
def engineExecute (resp : Buf) (result : Word32) (s : DapState) : Option DapState :=
  match s.pc with
  | .execute =>
      let respLen := (result &&& 0xFFFF#32).toNat
      some
        { s with
          resp := resp
          pc :=
            if respLen = 0 then .advance
            else sendNext (sendEntry dapInPort (resp.prefixBytes respLen)) }
  | _ => none

/-- The transfers of a response that the controller holds: a response is answered
when its bytes are taken, whether or not an empty transfer follows. -/
def pendingData (port : InPort) : ℕ :=
  match port.armed with
  | some (_ + 1) => 1
  | some 0 | none => 0

/-- One action of the engine. Only the completion callback asks for the packet size. -/
def dapStep (speed : UsbSpeed) (s : DapState) : DapAction → Option DapState
  | .out packet => some (dapOutCb packet s)
  | .thread => engineStep s
  | .execute resp result => engineExecute resp result s
  | .complete =>
      (inComplete (dapInPortAt speed) s.port).map fun port =>
        { s with port := port, answered := s.answered + pendingData s.port }

/-- `dap_engine_thread_start`. The slots, the response and the IN buffer hold what they
held. -/
def dapInit (cells : Fin dapReqSlots → DapReqSlot) (resp buf : Buf) : DapState where
  queue := ⟨⟨cells, ⟨0, by decide⟩, ⟨0, by decide⟩⟩, 0, 0⟩
  port := ⟨buf, false, none, []⟩
  resp := resp
  pc := .take
  received := 0
  refused := 0
  answered := 0
  released := 0
  tailStarted := false

end ExLink.Dap
