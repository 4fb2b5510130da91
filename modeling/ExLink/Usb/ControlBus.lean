/-
# A host on the control endpoint

A host that keeps to the rules of a control transfer asks for packets until it has what it
asked for or a packet is short, and then sends an empty packet; or it sends its data and
takes an empty packet. It may give up a transfer at any point and start another one. What
a stage of the host says about the device holds from the SETUP packet on.
-/

import ExLink.Automata.Transition
import ExLink.Usb.Ep0

namespace ExLink.Usb

open ExLink.Automata

/-! ## Transfers -/

/-- A request of the host with the data that it sends. -/
structure ControlRequest where
  setup : UsbSetupPacket
  data : List Byte
  sends : data.length = if setup.DirIn then 0 else setup.wLength.toNat

/-- The host reads data. -/
def ControlRequest.Reads (request : ControlRequest) : Prop :=
  request.setup.wLength ≠ 0#16 ∧ request.setup.DirIn

instance (request : ControlRequest) : Decidable request.Reads := by
  unfold ControlRequest.Reads
  infer_instance

section Host

variable {κ : Type} (layer : RequestLayer κ)

/-- The call of the request handler that a transfer is. -/
def requestCall (request : ControlRequest) (reqData : Buf) (core : κ) :
    (Bool × RequestData) × κ :=
  layer.handle request.setup
    ⟨reqData.write request.data, none, request.setup.wLength.toNat⟩ core

/-- What the host gets, if the request is not refused, and what is left behind. -/
def controlTransfer (request : ControlRequest) (reqData : Buf) (core : κ) :
    Option (List Byte) × κ :=
  let handled := requestCall layer request reqData core
  let count := min handled.1.2.len request.setup.wLength.toNat
  if handled.1.1 ∧ count ≤ usbdevRequestBufferLen then
    if request.Reads then (some ((fetched handled.1.2 count).prefixBytes count), handled.2)
    else (some [], layer.finish request.setup handled.2)
  else (none, handled.2)

/-- Where the host stands: it collects a reply, ends with an empty packet, sends data, waits
for an empty packet, or is through. -/
inductive ControlStage where
  | dataIn (got : List Byte)
  | statusOut (got : List Byte)
  | dataOut (left : List Byte)
  | statusIn
  | done (got : List Byte)
  | refused
  deriving DecidableEq

/-- A transfer, with `req_data` and the rest as they were at its SETUP packet. -/
structure ControlRun (κ : Type) where
  request : ControlRequest
  reqData : Buf
  core : κ
  stage : ControlStage

/-- The device and the transfer that the host started last. -/
structure ControlBus (κ : Type) where
  device : Ep0 κ
  transfer : Option (ControlRun κ)

/-- The stage after the SETUP packet. -/
def ControlRequest.stage (request : ControlRequest) : ControlStage :=
  if request.setup.wLength = 0#16 then .statusIn
  else if request.setup.DirIn then .dataIn []
  else .dataOut request.data

/-- A read goes on until it is full or a packet is short. -/
def ControlRequest.afterPacket (request : ControlRequest) (got packet : List Byte) :
    ControlStage :=
  if packet.length < usbCtrlEpMps ∨ request.setup.wLength.toNat ≤ (got ++ packet).length then
    .statusOut (got ++ packet)
  else .dataIn (got ++ packet)

/-- The next packet of a transfer. A stall ends it. -/
def hostStep (request : ControlRequest) (stage : ControlStage) (device : Ep0 κ) :
    Option (ControlStage × Ep0 κ) :=
  match stage with
  | .dataIn got =>
      if device.inStalled then some (.refused, device)
      else
        (inToken layer device).map fun taken => (request.afterPacket got taken.1, taken.2)
  | .statusOut got => (outToken layer [] device).map fun device => (.done got, device)
  | .dataOut left =>
      (outToken layer (left.take usbCtrlEpMps) device).map fun device =>
        (if left.drop usbCtrlEpMps = [] then .statusIn else .dataOut (left.drop usbCtrlEpMps),
          device)
  | .statusIn =>
      if device.inStalled then some (.refused, device)
      else
        (inToken layer device).bind fun taken =>
          if taken.1 = [] then some (.done [], taken.2) else none
  | .done _ | .refused => none

/-- The host starts a transfer, whatever became of the last one, goes on with one, or resets
the bus. -/
inductive ControlAction where
  | start (request : ControlRequest)
  | proceed
  | reset

/-- One action. -/
def controlStep (s : ControlBus κ) : ControlAction → Option (ControlBus κ)
  | .start request =>
      some
        { device := setupToken layer request.setup s.device
          transfer := some ⟨request, s.device.reqData, s.device.core, request.stage⟩ }
  | .proceed =>
      s.transfer.bind fun run =>
        (hostStep layer run.request run.stage s.device).map fun next =>
          { device := next.2, transfer := some { run with stage := next.1 } }
  | .reset => some { device := busReset layer s.device, transfer := none }

end Host

/-! ## Host and device in step -/

section Agreement

variable {κ : Type} (layer : RequestLayer κ)

/-- A reply of which the host has got a whole number of packets. -/
structure Replying (request : ControlRequest) (reply got : List Byte) (device : Ep0 κ) : Prop where
  armed : device.inArmed = some ⟨0, reply.length, got.length⟩
  out : device.outArmed = none
  asked : reply.length ≤ request.setup.wLength.toNat
  held : device.reqData.prefixBytes reply.length = reply
  taken : got = reply.take got.length
  whole : usbCtrlEpMps ∣ got.length
  more : got.length < reply.length ∨ reply = []
  residue : device.residue = reply.length
  zlp : device.zlpFlag = decide
    (reply.length < request.setup.wLength.toNat ∧ reply.length % usbCtrlEpMps = 0)

/-- A status packet, or the packet that ends a reply, is on its way to the host. -/
structure Ending (device : Ep0 κ) : Prop where
  armed : device.inArmed = some ⟨0, 0, 0⟩
  residue : device.residue = 0
  zlp : device.zlpFlag = false

/-- The device collects the data of the host. -/
structure Collecting (request : ControlRequest) (reqData : Buf) (core : κ) (left : List Byte)
    (device : Ep0 κ) : Prop where
  count : ∃ count, request.data.drop count = left ∧ count < request.data.length ∧
    usbCtrlEpMps ∣ count ∧ device.outArmed = some ⟨0, request.setup.wLength.toNat, count⟩ ∧
    device.reqData = reqData.write (request.data.take count)
  fits : request.setup.wLength.toNat ≤ usbdevRequestBufferLen
  residue : device.residue = request.setup.wLength.toNat
  len : device.len = request.setup.wLength.toNat
  core : device.core = core
  zlp : device.zlpFlag = false

/-- The transfers that come to an end: data of the host that `req_data` has room for, and a
reply that is not empty. -/
def Answerable (request : ControlRequest) (reqData : Buf) (core : κ) : Prop :=
  (¬ request.setup.DirIn → request.setup.wLength.toNat ≤ usbdevRequestBufferLen) ∧
    (request.Reads → (controlTransfer layer request reqData core).1 ≠ some [])

/-- What a stage of the host says about the device. After an empty reply the device has an
empty packet to send where the host waits to send one. -/
def InStep (run : ControlRun κ) (device : Ep0 κ) : Prop :=
  let result := controlTransfer layer run.request run.reqData run.core
  device.setup = run.request.setup ∧
    match run.stage with
    | .dataIn got =>
        run.request.Reads ∧
          (device.inStalled = true ∧ got = [] ∧ result = (none, device.core) ∨
            device.inStalled = false ∧ ∃ reply, result = (some reply, device.core) ∧
              (Replying run.request reply got device ∨
                Ending device ∧ got = reply ∧ reply ≠ []))
    | .statusOut got =>
        run.request.Reads ∧ result = (some got, device.core) ∧
          device.outArmed = if got = [] then none else some ⟨0, 0, 0⟩
    | .dataOut left =>
        ¬ run.request.Reads ∧ run.request.setup.wLength ≠ 0#16 ∧
          (device.outArmed = none ∧ device.core = run.core ∧
              usbdevRequestBufferLen < run.request.setup.wLength.toNat ∨
            device.inStalled = false ∧ Collecting run.request run.reqData run.core left device)
    | .statusIn =>
        ¬ run.request.Reads ∧ run.request.setup.wLength.toNat ≤ usbdevRequestBufferLen ∧
          (device.inStalled = true ∧ result = (none, device.core) ∨
            device.inStalled = false ∧ Ending device ∧
              result = (some [], layer.finish run.request.setup device.core))
    | .done got =>
        Answerable layer run.request run.reqData run.core ∧ result = (some got, device.core)
    | .refused =>
        Answerable layer run.request run.reqData run.core ∧ result = (none, device.core)

variable {layer} {request : ControlRequest} {run : ControlRun κ} {device : Ep0 κ}

theorem ControlRequest.data_of_dirIn (request : ControlRequest) (hin : request.setup.DirIn) :
    request.data = [] := by
  have hsends := request.sends
  rw [if_pos hin] at hsends
  exact List.length_eq_zero_iff.mp hsends

/-- The handler is called with what the transfer is about. -/
theorem request_eq {reqData : Buf} {core : κ} (hsetup : device.setup = request.setup)
    (hreqData : device.reqData = reqData.write request.data)
    (hlen : device.len = request.setup.wLength.toNat) (hcore : device.core = core) :
    device.request layer = requestCall layer request reqData core := by
  rw [Ep0.request, requestCall, hsetup, hreqData, hlen, hcore]

/-- The device when a SETUP packet is to be answered. -/
def prepared (setup : UsbSetupPacket) (device : Ep0 κ) : Ep0 κ :=
  Ep0.prepare
    { device with setup := setup, inArmed := none, outArmed := none, inStalled := false }

/-- A request without data from the host is handled at once. -/
theorem setupToken_answers {setup : UsbSetupPacket} (hdata : setup.wLength = 0#16 ∨ setup.DirIn) :
    setupToken layer setup device =
      let handled := (prepared setup device).request layer
      let s := (prepared setup device).after handled
      if handled.1.1 then s.reply handled.1.2 else s.refuse := by
  have hshort : ¬ (usbdevRequestBufferLen < setup.wLength.toNat ∧ ¬ setup.DirIn) := by
    rintro ⟨hlong, hout⟩
    rcases hdata with hzero | hin
    · simp [hzero] at hlong
    · exact hout hin
  have hnone : ¬ (setup.wLength ≠ 0#16 ∧ ¬ setup.DirIn) := by
    rintro ⟨hsome, hout⟩
    rcases hdata with hzero | hin
    · exact hsome hzero
    · exact hout hin
  rw [setupToken, ep0SetupComplete, if_neg hshort]
  exact if_neg hnone

/-- The data of the host is collected first. -/
theorem setupToken_collects {setup : UsbSetupPacket} (hsome : setup.wLength ≠ 0#16)
    (hout : ¬ setup.DirIn) :
    setupToken layer setup device =
      if usbdevRequestBufferLen < setup.wLength.toNat then
        { device with setup := setup, inArmed := none, outArmed := none, inStalled := true }
      else
        { (prepared setup device).startRead 0 setup.wLength.toNat with nextState := .outData } := by
  rw [setupToken, ep0SetupComplete]
  by_cases hlong : usbdevRequestBufferLen < setup.wLength.toNat
  · rw [if_pos ⟨hlong, hout⟩, if_pos hlong]
  · rw [if_neg fun h => hlong h.1, if_neg hlong]
    exact if_pos ⟨hsome, hout⟩

theorem reply_of_le {data : RequestData} {count : ℕ}
    (hcount : min data.len device.setup.wLength.toNat = count)
    (hfits : count ≤ usbdevRequestBufferLen) :
    device.reply data =
      { device with
        residue := count
        reqData := fetched data count
        nextState := if 0 < count then .inData else .inStatus
        inArmed := some ⟨device.dataBuf, count, 0⟩
        zlpFlag :=
          decide (device.len < device.setup.wLength.toNat ∧ device.len % usbCtrlEpMps = 0) } := by
  subst hcount
  exact if_neg (Nat.not_lt.mpr hfits)

theorem reply_of_lt {data : RequestData}
    (hlong : usbdevRequestBufferLen < min data.len device.setup.wLength.toNat) :
    device.reply data =
      { device with
        residue := min data.len device.setup.wLength.toNat
        nextState := .setup
        inStalled := true } :=
  if_pos hlong

/-- What a request that is answered at once gets. -/
theorem requestCall_prepared (hdata : request.data = []) :
    requestCall layer request device.reqData device.core =
      (prepared request.setup device).request layer := by
  rw [requestCall, hdata]
  rfl

/-- What a refused request comes to. -/
theorem controlTransfer_of_refused {reqData : Buf} {core : κ} {handled : (Bool × RequestData) × κ}
    (hcall : requestCall layer request reqData core = handled)
    (hrefused : ¬ (handled.1.1 = true ∧
      min handled.1.2.len request.setup.wLength.toNat ≤ usbdevRequestBufferLen)) :
    controlTransfer layer request reqData core = (none, handled.2) := by
  rw [controlTransfer, hcall]
  exact if_neg hrefused

/-- What the host gets from a read. -/
theorem controlTransfer_of_read {reqData : Buf} {core : κ} {handled : (Bool × RequestData) × κ}
    {count : ℕ} (hcall : requestCall layer request reqData core = handled)
    (haccepted : handled.1.1 = true)
    (hcount : min handled.1.2.len request.setup.wLength.toNat = count)
    (hfits : count ≤ usbdevRequestBufferLen) (hreads : request.Reads) :
    controlTransfer layer request reqData core =
      (some ((fetched handled.1.2 count).prefixBytes count), handled.2) := by
  subst hcount
  rw [controlTransfer, hcall]
  exact (if_pos ⟨haccepted, hfits⟩).trans (if_pos hreads)

/-- What a request without a reply comes to. -/
theorem controlTransfer_of_write {reqData : Buf} {core : κ} {handled : (Bool × RequestData) × κ}
    (hcall : requestCall layer request reqData core = handled)
    (haccepted : handled.1.1 = true)
    (hfits : min handled.1.2.len request.setup.wLength.toNat ≤ usbdevRequestBufferLen)
    (hreads : ¬ request.Reads) :
    controlTransfer layer request reqData core =
      (some [], layer.finish request.setup handled.2) := by
  rw [controlTransfer, hcall]
  exact (if_pos ⟨haccepted, hfits⟩).trans (if_neg hreads)

/-- The SETUP packet of a read. -/
theorem inStep_start_read (hreads : request.Reads) :
    InStep layer ⟨request, device.reqData, device.core, request.stage⟩
      (setupToken layer request.setup device) := by
  have hstage : request.stage = .dataIn [] := by
    rw [ControlRequest.stage, if_neg hreads.1, if_pos hreads.2]
  have hcall := @requestCall_prepared κ layer request device (request.data_of_dirIn hreads.2)
  rw [setupToken_answers (.inr hreads.2), InStep, hstage]
  generalize (prepared request.setup device).request layer = handled at hcall ⊢
  obtain ⟨count, hcount⟩ :
      ∃ count, min handled.1.2.len request.setup.wLength.toNat = count := ⟨_, rfl⟩
  by_cases haccepted : handled.1.1 = true
  · by_cases hfits : count ≤ usbdevRequestBufferLen
    · have hresult := controlTransfer_of_read hcall haccepted hcount hfits hreads
      have hlength := Buf.length_prefixBytes (fetched handled.1.2 count) count
      rw [if_pos haccepted, reply_of_le hcount hfits]
      refine ⟨rfl, hreads, .inr ⟨rfl, _, hresult, .inl ?_⟩⟩
      constructor
      case armed => rw [hlength]; rfl
      case out => rfl
      case asked => exact hlength.trans_le (hcount.ge.trans (Nat.min_le_right _ _))
      case held => rw [hlength]
      case taken => rfl
      case whole => exact Nat.dvd_zero _
      case more => exact (Nat.eq_zero_or_pos _).symm.imp_right List.length_eq_zero_iff.mp
      case residue => rw [hlength]
      case zlp =>
        have hasked : handled.1.2.len < request.setup.wLength.toNat ∧
              handled.1.2.len % usbCtrlEpMps = 0 ↔
            count < request.setup.wLength.toNat ∧ count % usbCtrlEpMps = 0 := by
          rw [usbCtrlEpMps]
          omega
        rw [hlength]
        exact decide_eq_decide.mpr hasked
    · have hresult := controlTransfer_of_refused hcall fun h => hfits (hcount.ge.trans h.2)
      rw [if_pos haccepted, reply_of_lt (hcount.symm ▸ Nat.not_le.mp hfits)]
      exact ⟨rfl, hreads, .inl ⟨rfl, rfl, hresult⟩⟩
  · have hresult := controlTransfer_of_refused hcall fun h => haccepted h.1
    rw [if_neg haccepted]
    exact ⟨rfl, hreads, .inl ⟨rfl, rfl, hresult⟩⟩

/-- The SETUP packet of a request without data. -/
theorem inStep_start_none (hzero : request.setup.wLength = 0#16) :
    InStep layer ⟨request, device.reqData, device.core, request.stage⟩
      (setupToken layer request.setup device) := by
  have hstage : request.stage = .statusIn := by
    rw [ControlRequest.stage, if_pos hzero]
  have hnot : ¬ request.Reads := fun hreads => hreads.1 hzero
  have hnone : request.data = [] := by
    have hsends := request.sends
    rw [hzero] at hsends
    exact List.length_eq_zero_iff.mp (hsends.trans (ite_self 0))
  have hcall := @requestCall_prepared κ layer request device hnone
  rw [setupToken_answers (.inl hzero), InStep, hstage]
  generalize (prepared request.setup device).request layer = handled at hcall ⊢
  have hcount : min handled.1.2.len request.setup.wLength.toNat = 0 := by
    rw [hzero]
    exact Nat.min_zero _
  have hfits : request.setup.wLength.toNat ≤ usbdevRequestBufferLen := by
    rw [hzero]
    exact Nat.zero_le _
  by_cases haccepted : handled.1.1 = true
  · have hresult := controlTransfer_of_write hcall haccepted (hcount.trans_le (Nat.zero_le _)) hnot
    rw [if_pos haccepted, reply_of_le hcount (Nat.zero_le _)]
    refine ⟨rfl, hnot, hfits, .inr ⟨rfl, ⟨rfl, rfl, ?_⟩, hresult⟩⟩
    rw [decide_eq_false_iff_not]
    rintro ⟨hlt, -⟩
    change handled.1.2.len < request.setup.wLength.toNat at hlt
    rw [hzero] at hlt
    exact Nat.not_lt_zero _ hlt
  · have hresult := controlTransfer_of_refused hcall fun h => haccepted h.1
    rw [if_neg haccepted]
    exact ⟨rfl, hnot, hfits, .inl ⟨rfl, hresult⟩⟩

/-- The SETUP packet before the data of the host. -/
theorem inStep_start_write (hsome : request.setup.wLength ≠ 0#16) (hout : ¬ request.setup.DirIn) :
    InStep layer ⟨request, device.reqData, device.core, request.stage⟩
      (setupToken layer request.setup device) := by
  have hstage : request.stage = .dataOut request.data := by
    rw [ControlRequest.stage, if_neg hsome, if_neg hout]
  have hnot : ¬ request.Reads := fun hreads => hout hreads.2
  have hlength := request.sends
  rw [if_neg hout] at hlength
  have hpos : 0 < request.setup.wLength.toNat := by
    rw [Nat.pos_iff_ne_zero]
    exact fun h => hsome (BitVec.eq_of_toNat_eq h)
  rw [setupToken_collects hsome hout, InStep, hstage]
  by_cases hlong : usbdevRequestBufferLen < request.setup.wLength.toNat
  · rw [if_pos hlong]
    exact ⟨rfl, hnot, hsome, .inl ⟨rfl, rfl, hlong⟩⟩
  · rw [if_neg hlong]
    refine ⟨rfl, hnot, hsome, .inr ⟨rfl, ⟨0, rfl, hlength.symm ▸ hpos, Nat.dvd_zero _, rfl, rfl⟩,
      Nat.not_lt.mp hlong, rfl, rfl, rfl, rfl⟩⟩

theorem inStep_start (request : ControlRequest) (device : Ep0 κ) :
    InStep layer ⟨request, device.reqData, device.core, request.stage⟩
      (setupToken layer request.setup device) := by
  by_cases hzero : request.setup.wLength = 0#16
  · exact inStep_start_none hzero
  · by_cases hin : request.setup.DirIn
    · exact inStep_start_read ⟨hzero, hin⟩
    · exact inStep_start_write hzero hin

end Agreement

end ExLink.Usb
