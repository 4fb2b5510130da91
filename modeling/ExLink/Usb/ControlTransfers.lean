/-
# Control transfers as the host sees them

A transfer that ends is one call of the request handler, with the data of the host, and what
the host has got is the start of its reply. Packet by packet host and device stay in step,
and the next packet is there unless the reply is empty.
-/

import ExLink.Usb.ControlBus
import Mathlib.Data.List.GetD

namespace ExLink.Usb

open ExLink.Automata

section Agreement

variable {κ : Type} {layer : RequestLayer κ} {request : ControlRequest} {run : ControlRun κ}
  {device : Ep0 κ}

/-! ## Packets -/

theorem packet_eq {buf : Buf} {bytes : List Byte} {done : ℕ}
    (hheld : buf.prefixBytes bytes.length = bytes) :
    (⟨0, bytes.length, done⟩ : Ep0Transfer).packet buf =
      (bytes.drop done).take usbCtrlEpMps := by
  apply List.ext_getElem
  · simp [Ep0Transfer.packet]
  · intro index hleft hright
    have hindex : done + index < bytes.length := by
      simp only [List.length_take, List.length_drop] at hright
      omega
    rw [List.getElem_take, List.getElem_drop]
    simp only [Ep0Transfer.packet, Buf.prefixBytes, List.getElem_map, List.getElem_range,
      Nat.zero_add]
    have hbyte := List.getElem_of_eq hheld.symm hindex
    rw [hbyte]
    simp [Buf.prefixBytes]

/-- Bytes that are stored behind others. -/
theorem storedAt_write (buf : Buf) (first second : List Byte) :
    storedAt (buf.write first) first.length second = buf.write (first ++ second) := by
  funext position
  rw [storedAt, Buf.write, Buf.write]
  split_ifs with hbefore
  · rw [List.getD_append _ _ _ _ hbefore]
  · rw [List.getD_append_right _ _ _ _ (Nat.not_lt.mp hbefore),
      List.getD_eq_default _ _ (Nat.not_lt.mp hbefore)]

/-- The empty packet of a transfer without bytes. -/
theorem inToken_of_ending (hstalled : device.inStalled = false) (hending : Ending device) :
    inToken layer device = some ([], ep0InComplete layer 0 { device with inArmed := none }) := by
  rw [inToken, hstalled, hending.armed]
  rfl

/-- Everything was sent, and an empty packet is to follow. -/
theorem ep0InComplete_of_zlp {nbytes : ℕ} (hresidue : device.residue = nbytes)
    (hzlp : device.zlpFlag = true) :
    ep0InComplete layer nbytes device =
      { device with
        dataBuf := device.dataBuf + nbytes
        residue := 0
        inArmed := some ⟨0, 0, 0⟩
        zlpFlag := false } := by
  subst hresidue
  rw [ep0InComplete, Nat.sub_self]
  exact (if_neg (not_not_intro rfl)).trans (if_pos hzlp)

/-- A reply was sent: the status of the host comes next. -/
theorem ep0InComplete_of_reads {nbytes : ℕ} (hresidue : device.residue = nbytes)
    (hzlp : ¬ device.zlpFlag = true) (hsetup : device.setup = request.setup)
    (hreads : request.Reads) :
    ep0InComplete layer nbytes device =
      { device with
        dataBuf := device.dataBuf + nbytes
        residue := 0
        outArmed := some ⟨0, 0, 0⟩
        nextState := .outStatus } := by
  subst hresidue
  rw [ControlRequest.Reads, ← hsetup] at hreads
  rw [ep0InComplete, Nat.sub_self]
  exact (if_neg (not_not_intro rfl)).trans ((if_neg hzlp).trans (if_pos hreads))

/-- The status of the device was sent. -/
theorem ep0InComplete_of_not_reads {nbytes : ℕ} (hresidue : device.residue = nbytes)
    (hzlp : ¬ device.zlpFlag = true) (hsetup : device.setup = request.setup)
    (hreads : ¬ request.Reads) :
    ep0InComplete layer nbytes device =
      { device with
        dataBuf := device.dataBuf + nbytes
        residue := 0
        nextState := if device.nextState = .inStatus then .setup else device.nextState
        core := layer.finish device.setup device.core } := by
  subst hresidue
  rw [ControlRequest.Reads, ← hsetup] at hreads
  rw [ep0InComplete, Nat.sub_self]
  exact (if_neg (not_not_intro rfl)).trans ((if_neg hzlp).trans (if_neg hreads))

/-- The last packet of a reply. The host knows it for the last one by its length, or by the
length of all, or waits for the empty packet that the device sends next. -/
theorem inStep_dataIn_last {reply got packet : List Byte} (hreads : run.request.Reads)
    (hsetup : device.setup = run.request.setup)
    (hresult : controlTransfer layer run.request run.reqData run.core = (some reply, device.core))
    (hstalled : device.inStalled = false) (h : Replying run.request reply got device)
    (hpacket : packet.length ≤ usbCtrlEpMps) (hall : got ++ packet = reply) :
    InStep layer { run with stage := run.request.afterPacket got packet }
      (ep0InComplete layer reply.length { device with inArmed := none }) := by
  have hlength : got.length + packet.length = reply.length := by
    rw [← hall, List.length_append]
  have hwhole := h.whole
  have hasked := h.asked
  rw [usbCtrlEpMps] at hpacket hwhole
  rw [ControlRequest.afterPacket, hall, usbCtrlEpMps]
  by_cases hzlp : device.zlpFlag = true
  · rw [@ep0InComplete_of_zlp κ layer { device with inArmed := none } _ h.residue hzlp]
    rw [h.zlp, decide_eq_true_iff, usbCtrlEpMps] at hzlp
    by_cases hempty : reply = []
    · have hshort : packet.length < 64 := by
        rw [hempty, List.length_nil] at hlength
        omega
      rw [if_pos (.inl hshort)]
      exact ⟨hsetup, hreads, hresult, h.out.trans (if_pos hempty).symm⟩
    · have hpos := List.length_pos_iff.mpr hempty
      have hmore := h.more.resolve_right hempty
      rw [if_neg (by omega)]
      exact ⟨hsetup, hreads, .inr ⟨hstalled, reply, hresult, .inr ⟨⟨rfl, rfl, rfl⟩, rfl, hempty⟩⟩⟩
  · rw [@ep0InComplete_of_reads κ layer run.request { device with inArmed := none } _ h.residue
      hzlp hsetup hreads]
    rw [h.zlp, decide_eq_true_iff, usbCtrlEpMps] at hzlp
    have hempty : reply ≠ [] := by
      intro hnil
      rw [hnil, List.length_nil] at hzlp
      have hasks : run.request.setup.wLength.toNat ≠ 0 :=
        fun h => hreads.1 (BitVec.eq_of_toNat_eq h)
      omega
    rw [if_pos (by omega)]
    exact ⟨hsetup, hreads, hresult, (if_neg hempty).symm⟩

/-- Where the host has not got everything yet, the next packet is a whole one or the last. -/
theorem inStep_dataIn_replying {reply got : List Byte} (hreads : run.request.Reads)
    (hsetup : device.setup = run.request.setup)
    (hresult : controlTransfer layer run.request run.reqData run.core = (some reply, device.core))
    (hstalled : device.inStalled = false) (h : Replying run.request reply got device)
    {taken : List Byte × Ep0 κ} (htaken : inToken layer device = some taken) :
    InStep layer { run with stage := run.request.afterPacket got taken.1 } taken.2 := by
  have hpacket : (⟨0, reply.length, got.length⟩ : Ep0Transfer).packet device.reqData =
      (reply.drop got.length).take usbCtrlEpMps := packet_eq h.held
  have hgot : got ++ (reply.drop got.length).take usbCtrlEpMps =
      reply.take (got.length + usbCtrlEpMps) := by
    rw [List.take_add, ← h.taken]
  have hlength : ((reply.drop got.length).take usbCtrlEpMps).length =
      min usbCtrlEpMps (reply.length - got.length) := by
    rw [List.length_take, List.length_drop]
  have hwithin : got.length ≤ reply.length := by
    rw [h.taken, List.length_take]
    exact Nat.min_le_right _ _
  rw [inToken, if_neg (Bool.eq_false_iff.mp hstalled), h.armed] at htaken
  simp only [Option.map_some, Option.some.injEq, hpacket] at htaken
  subst htaken
  generalize (reply.drop got.length).take usbCtrlEpMps = packet at hgot hlength ⊢
  dsimp only
  by_cases hlast : got.length + packet.length = reply.length
  · rw [if_pos hlast]
    refine inStep_dataIn_last hreads hsetup hresult hstalled h (by omega) ?_
    rw [hgot]
    apply List.take_of_length_le
    omega
  · rw [if_neg hlast]
    have hfull : packet.length = usbCtrlEpMps := by omega
    have hasked := h.asked
    have hgotLength : (got ++ packet).length = got.length + packet.length :=
      List.length_append
    rw [ControlRequest.afterPacket, if_neg (by omega)]
    refine ⟨hsetup, hreads, .inr ⟨hstalled, reply, hresult, .inl ?_⟩⟩
    exact
      { armed := by rw [hgotLength]
        out := h.out
        asked := h.asked
        held := h.held
        taken := by rw [hgotLength, hfull, ← hgot]
        whole := by
          rw [hgotLength, hfull]
          exact Nat.dvd_add h.whole (Nat.dvd_refl _)
        more := .inl (by omega)
        residue := h.residue
        zlp := h.zlp }

/-- The empty packet after a reply of whole packets. -/
theorem inStep_dataIn_ending {got : List Byte} (hreads : run.request.Reads)
    (hsetup : device.setup = run.request.setup)
    (hresult : controlTransfer layer run.request run.reqData run.core = (some got, device.core))
    (hsome : got ≠ []) (h : Ending device) :
    InStep layer { run with stage := run.request.afterPacket got [] }
      (ep0InComplete layer 0 { device with inArmed := none }) := by
  rw [@ep0InComplete_of_reads κ layer run.request { device with inArmed := none } _ h.residue
    (Bool.eq_false_iff.mp h.zlp) hsetup hreads, ControlRequest.afterPacket,
    if_pos (.inl (Nat.zero_lt_succ 63)), List.append_nil]
  exact ⟨hsetup, hreads, hresult, (if_neg hsome).symm⟩

/-- The status of the device. -/
theorem inStep_statusIn_ending (hreads : ¬ run.request.Reads)
    (hfits : run.request.setup.wLength.toNat ≤ usbdevRequestBufferLen)
    (hsetup : device.setup = run.request.setup)
    (hresult : controlTransfer layer run.request run.reqData run.core =
      (some [], layer.finish run.request.setup device.core))
    (h : Ending device) :
    InStep layer { run with stage := .done [] }
      (ep0InComplete layer 0 { device with inArmed := none }) := by
  rw [@ep0InComplete_of_not_reads κ layer run.request { device with inArmed := none } _ h.residue
    (Bool.eq_false_iff.mp h.zlp) hsetup hreads]
  refine ⟨hsetup, ⟨fun _ => hfits, fun h => absurd h hreads⟩, ?_⟩
  dsimp only
  rw [hsetup]
  exact hresult

/-- The status of the host. -/
theorem inStep_statusOut {got : List Byte} (hreads : run.request.Reads)
    (hsetup : device.setup = run.request.setup)
    (hresult : controlTransfer layer run.request run.reqData run.core = (some got, device.core))
    (harmed : device.outArmed = if got = [] then none else some ⟨0, 0, 0⟩)
    {next : Ep0 κ} (hnext : outToken layer [] device = some next) :
    InStep layer { run with stage := .done got } next := by
  rw [outToken, harmed] at hnext
  by_cases hempty : got = []
  · rw [if_pos hempty] at hnext
    cases hnext
  · rw [if_neg hempty] at hnext
    obtain rfl := Option.some.inj hnext
    have hanswerable : Answerable layer run.request run.reqData run.core := by
      refine ⟨fun hout => absurd hreads.2 hout, fun _ => ?_⟩
      rw [hresult]
      exact fun h => hempty (Option.some.inj h)
    exact ⟨hsetup, hanswerable, hresult⟩

/-- All data of the host is there, and the handler is called. -/
theorem ep0OutComplete_of_all {nbytes : ℕ} (hpos : 0 < nbytes)
    (hresidue : device.residue = nbytes) :
    ep0OutComplete layer nbytes device =
      let s := { device with dataBuf := 0, residue := 0 }
      let handled := s.request layer
      if handled.1.1 then { (s.after handled).startWrite 0 0 with nextState := .inStatus }
      else (s.after handled).refuse := by
  subst hresidue
  rw [ep0OutComplete, if_pos hpos, Nat.sub_self]
  exact if_pos rfl

/-- The packet of the host that completes its data. -/
theorem inStep_dataOut_last (hreads : ¬ run.request.Reads)
    (hsome : run.request.setup.wLength ≠ 0#16) (hsetup : device.setup = run.request.setup)
    (hreqData : device.reqData = run.reqData.write run.request.data)
    (hfits : run.request.setup.wLength.toNat ≤ usbdevRequestBufferLen)
    (hresidue : device.residue = run.request.setup.wLength.toNat)
    (hlen : device.len = run.request.setup.wLength.toNat) (hcore : device.core = run.core)
    (hzlp : device.zlpFlag = false) (hstalled : device.inStalled = false) :
    InStep layer { run with stage := .statusIn }
      (ep0OutComplete layer run.request.setup.wLength.toNat { device with outArmed := none }) := by
  have hpos : 0 < run.request.setup.wLength.toNat := by
    rw [Nat.pos_iff_ne_zero]
    exact fun h => hsome (BitVec.eq_of_toNat_eq h)
  have hcall : requestCall layer run.request run.reqData run.core =
      Ep0.request layer { device with outArmed := none, dataBuf := 0, residue := 0 } :=
    (@request_eq κ layer run.request { device with outArmed := none, dataBuf := 0, residue := 0 }
      run.reqData run.core hsetup hreqData hlen hcore).symm
  rw [@ep0OutComplete_of_all κ layer { device with outArmed := none } _ hpos hresidue]
  dsimp only
  generalize Ep0.request layer { device with outArmed := none, dataBuf := 0, residue := 0 } =
    handled at hcall ⊢
  by_cases haccepted : handled.1.1 = true
  · have hcount : min handled.1.2.len run.request.setup.wLength.toNat ≤ usbdevRequestBufferLen :=
      (Nat.min_le_right _ _).trans hfits
    have hresult := controlTransfer_of_write hcall haccepted hcount hreads
    rw [if_pos haccepted]
    exact ⟨hsetup, hreads, hfits, .inr ⟨hstalled, ⟨rfl, rfl, hzlp⟩, hresult⟩⟩
  · have hresult := controlTransfer_of_refused hcall fun h => haccepted h.1
    rw [if_neg haccepted]
    exact ⟨hsetup, hreads, hfits, .inl ⟨rfl, hresult⟩⟩

/-- A packet of the host completes its data, or there are more to come. -/
theorem outToken_collecting {left : List Byte} (hout : ¬ run.request.setup.DirIn)
    (h : Collecting run.request run.reqData run.core left device) :
    left.drop usbCtrlEpMps = [] ∧
        outToken layer (left.take usbCtrlEpMps) device =
          some
            (ep0OutComplete layer run.request.setup.wLength.toNat
              { device with
                reqData := run.reqData.write run.request.data
                outArmed := none }) ∨
      left.drop usbCtrlEpMps ≠ [] ∧
        ∃ next, outToken layer (left.take usbCtrlEpMps) device = some next ∧
          next.setup = device.setup ∧ next.inStalled = device.inStalled ∧
          Collecting run.request run.reqData run.core (left.drop usbCtrlEpMps) next := by
  obtain ⟨count, rfl, hcount, hwhole, harmed, hreqData⟩ := h.count
  have hlength := run.request.sends
  rw [if_neg hout] at hlength
  have htaken : (run.request.data.take count).length = count :=
    List.length_take_of_le (Nat.le_of_lt hcount)
  have hstored := storedAt_write run.reqData (run.request.data.take count)
    ((run.request.data.drop count).take usbCtrlEpMps)
  rw [htaken, ← hreqData, ← List.take_add] at hstored
  have hpacket : ((run.request.data.drop count).take usbCtrlEpMps).length =
      min usbCtrlEpMps (run.request.data.length - count) := by
    rw [List.length_take, List.length_drop]
  rw [outToken, harmed, Option.bind_some]
  generalize (run.request.data.drop count).take usbCtrlEpMps = packet at hstored hpacket ⊢
  dsimp only
  rw [Nat.zero_add, hstored, if_pos (by omega)]
  have hdrop : (run.request.data.drop count).drop usbCtrlEpMps =
      run.request.data.drop (count + usbCtrlEpMps) := List.drop_drop
  by_cases hlast : run.request.data.length ≤ count + usbCtrlEpMps
  · have hdone : count + packet.length = run.request.setup.wLength.toNat := by omega
    rw [hdrop, List.drop_of_length_le hlast, List.take_of_length_le hlast, hdone,
      if_pos (.inr rfl)]
    exact .inl ⟨rfl, rfl⟩
  · have hfull : packet.length = usbCtrlEpMps := by omega
    have hmore : run.request.data.drop (count + usbCtrlEpMps) ≠ [] := by
      rw [Ne, List.drop_eq_nil_iff]
      exact hlast
    rw [hdrop, hfull, if_neg (by omega)]
    refine .inr ⟨hmore, _, rfl, rfl, rfl, ?_⟩
    exact
      { count := ⟨count + usbCtrlEpMps, rfl, Nat.not_le.mp hlast,
          Nat.dvd_add hwhole (Nat.dvd_refl _), rfl, rfl⟩
        fits := h.fits
        residue := h.residue
        len := h.len
        core := h.core
        zlp := h.zlp }

/-- A packet of the host. -/
theorem inStep_dataOut {left : List Byte} (hreads : ¬ run.request.Reads)
    (hsome : run.request.setup.wLength ≠ 0#16) (hsetup : device.setup = run.request.setup)
    (hstalled : device.inStalled = false)
    (h : Collecting run.request run.reqData run.core left device) {next : Ep0 κ}
    (hnext : outToken layer (left.take usbCtrlEpMps) device = some next) :
    InStep layer
      { run with
        stage :=
          if left.drop usbCtrlEpMps = [] then .statusIn else .dataOut (left.drop usbCtrlEpMps) }
      next := by
  have hout : ¬ run.request.setup.DirIn := fun hin => hreads ⟨hsome, hin⟩
  obtain ⟨hlast, htoken⟩ | ⟨hmore, after, htoken, hsetup', hstalled', hafter⟩ :=
    @outToken_collecting κ layer run device left hout h
  · rw [htoken] at hnext
    obtain rfl := Option.some.inj hnext
    rw [if_pos hlast]
    exact @inStep_dataOut_last κ layer run
      { device with reqData := run.reqData.write run.request.data } hreads hsome hsetup rfl h.fits
      h.residue h.len h.core h.zlp hstalled
  · rw [htoken] at hnext
    obtain rfl := Option.some.inj hnext
    rw [if_neg hmore]
    exact ⟨hsetup'.trans hsetup, hreads, hsome, .inr ⟨hstalled'.trans hstalled, hafter⟩⟩

theorem answerable_of_refused
    (hfits : ¬ run.request.setup.DirIn →
      run.request.setup.wLength.toNat ≤ usbdevRequestBufferLen)
    (hresult : controlTransfer layer run.request run.reqData run.core = (none, device.core)) :
    Answerable layer run.request run.reqData run.core := by
  refine ⟨hfits, fun _ => ?_⟩
  rw [hresult]
  exact Option.some_ne_none [] |>.symm

/-- The next packet, whatever the stage. -/
theorem inStep_proceed (h : InStep layer run device) {next : ControlStage × Ep0 κ}
    (hnext : hostStep layer run.request run.stage device = some next) :
    InStep layer { run with stage := next.1 } next.2 := by
  rw [InStep] at h
  cases hstage : run.stage with
  | dataIn got =>
      rw [hstage] at h hnext
      obtain ⟨hsetup, hreads, ⟨hstalled, -, hresult⟩ | ⟨hstalled, reply, hresult, hsends⟩⟩ := h
      · rw [hostStep, if_pos hstalled] at hnext
        obtain rfl := Option.some.inj hnext
        exact ⟨hsetup, answerable_of_refused (fun hout => absurd hreads.2 hout) hresult, hresult⟩
      · rw [hostStep, if_neg (Bool.eq_false_iff.mp hstalled)] at hnext
        obtain ⟨taken, htaken, rfl⟩ := Option.map_eq_some_iff.mp hnext
        rcases hsends with hreplying | ⟨hending, rfl, hsome⟩
        · exact inStep_dataIn_replying hreads hsetup hresult hstalled hreplying htaken
        · rw [inToken_of_ending hstalled hending] at htaken
          obtain rfl := Option.some.inj htaken
          exact inStep_dataIn_ending hreads hsetup hresult hsome hending
  | statusOut got =>
      rw [hstage] at h hnext
      obtain ⟨hsetup, hreads, hresult, harmed⟩ := h
      obtain ⟨after, hafter, rfl⟩ := Option.map_eq_some_iff.mp hnext
      exact inStep_statusOut hreads hsetup hresult harmed hafter
  | dataOut left =>
      rw [hstage] at h hnext
      obtain ⟨hsetup, hreads, hsome, ⟨hnone, -, -⟩ | ⟨hstalled, hcollecting⟩⟩ := h
      · rw [hostStep, outToken, hnone] at hnext
        cases hnext
      · obtain ⟨after, hafter, rfl⟩ := Option.map_eq_some_iff.mp hnext
        exact inStep_dataOut hreads hsome hsetup hstalled hcollecting hafter
  | statusIn =>
      rw [hstage] at h hnext
      obtain ⟨hsetup, hreads, hfits, ⟨hstalled, hresult⟩ | ⟨hstalled, hending, hresult⟩⟩ := h
      · rw [hostStep, if_pos hstalled] at hnext
        obtain rfl := Option.some.inj hnext
        exact ⟨hsetup, answerable_of_refused (fun _ => hfits) hresult, hresult⟩
      · rw [hostStep, if_neg (Bool.eq_false_iff.mp hstalled), inToken_of_ending hstalled hending,
          Option.bind_some, if_pos rfl] at hnext
        obtain rfl := Option.some.inj hnext
        exact inStep_statusIn_ending hreads hfits hsetup hresult hending
  | done got | refused =>
      rw [hstage] at hnext
      cases hnext

/-! ## The next packet is there -/

/-- The transfer is at its end. -/
def ControlStage.Over : ControlStage → Prop
  | .done _ | .refused => True
  | .dataIn _ | .statusOut _ | .dataOut _ | .statusIn => False

/-- How many packets there are still to come, at most. -/
def remaining (stage : ControlStage) (device : Ep0 κ) : ℕ :=
  match stage with
  | .dataIn _ =>
      (device.inArmed.elim 0 fun transfer => transfer.length - transfer.done) +
        (if device.zlpFlag then 1 else 0) + 2
  | .statusOut _ | .statusIn => 1
  | .dataOut left => left.length + 2
  | .done _ | .refused => 0

theorem remaining_ending (got : List Byte) (h : Ending device) :
    remaining (.dataIn got) device = 2 := by
  simp only [remaining, h.armed, h.zlp]
  rfl

theorem remaining_replying {reply got : List Byte} (h : Replying request reply got device) :
    remaining (.dataIn got) device =
      reply.length - got.length +
        (if reply.length < request.setup.wLength.toNat ∧ reply.length % usbCtrlEpMps = 0 then 1
          else 0) + 2 := by
  simp only [remaining, h.armed, h.zlp, decide_eq_true_eq]
  rfl

/-- While there is something to collect, a packet comes. -/
theorem proceeds_dataIn {reply got : List Byte} (hreads : run.request.Reads)
    (hsetup : device.setup = run.request.setup)
    (hresult : controlTransfer layer run.request run.reqData run.core = (some reply, device.core))
    (hstalled : device.inStalled = false) (h : Replying run.request reply got device)
    (hsome : reply ≠ []) :
    ∃ taken, inToken layer device = some taken ∧
      remaining (run.request.afterPacket got taken.1) taken.2 < remaining (.dataIn got) device := by
  have hmore := h.more.resolve_right hsome
  have htoken : ∃ taken, inToken layer device = some taken := by
    rw [inToken, if_neg (Bool.eq_false_iff.mp hstalled), h.armed]
    exact ⟨_, rfl⟩
  obtain ⟨taken, htaken⟩ := htoken
  refine ⟨taken, htaken, ?_⟩
  have hnext := inStep_dataIn_replying hreads hsetup hresult hstalled h htaken
  rw [ControlRequest.afterPacket] at hnext ⊢
  split_ifs at hnext ⊢ with hends
  · rw [remaining_replying h]
    exact Nat.lt_of_lt_of_le Nat.one_lt_two (Nat.le_add_left _ _)
  · rw [not_or, Nat.not_lt, usbCtrlEpMps] at hends
    obtain ⟨-, -, ⟨-, hnil, -⟩ | ⟨-, reply', hresult', hreplying | ⟨hending, -, -⟩⟩⟩ := hnext
    · rw [List.append_eq_nil_iff.mp hnil |>.2] at hends
      exact absurd hends.1 (by decide)
    · have hsame : reply' = reply :=
        Option.some.inj (congrArg Prod.fst (hresult'.symm.trans hresult))
      subst hsame
      have hfurther : Replying run.request reply' (got ++ taken.1) taken.2 := hreplying
      have hgrown : (got ++ taken.1).length = got.length + taken.1.length := List.length_append
      rw [remaining_replying h, remaining_replying hfurther, hgrown]
      omega
    · rw [remaining_ending _ hending, remaining_replying h]
      omega

/-- A transfer that can come to an end goes on until it does. -/
theorem hostStep_proceeds (h : InStep layer run device)
    (hanswerable : Answerable layer run.request run.reqData run.core)
    (hopen : ¬ run.stage.Over) :
    ∃ next, hostStep layer run.request run.stage device = some next ∧
      remaining next.1 next.2 < remaining run.stage device := by
  rw [InStep] at h
  cases hstage : run.stage with
  | dataIn got =>
      rw [hstage] at h
      obtain ⟨hsetup, hreads, ⟨hstalled, -, -⟩ | ⟨hstalled, reply, hresult, hsends⟩⟩ := h
      · rw [hostStep, if_pos hstalled]
        exact ⟨_, rfl, Nat.succ_pos _⟩
      · rw [hostStep, if_neg (Bool.eq_false_iff.mp hstalled)]
        rcases hsends with hreplying | ⟨hending, rfl, -⟩
        · have hsome : reply ≠ [] := by
            intro hempty
            apply hanswerable.2 hreads
            rw [hresult, hempty]
          obtain ⟨taken, htaken, hless⟩ :=
            proceeds_dataIn hreads hsetup hresult hstalled hreplying hsome
          rw [htaken]
          exact ⟨_, rfl, hless⟩
        · rw [inToken_of_ending hstalled hending, remaining_ending got hending]
          have hafter : run.request.afterPacket got [] = .statusOut (got ++ []) :=
            if_pos (.inl (Nat.zero_lt_succ 63))
          refine ⟨_, rfl, ?_⟩
          dsimp only
          rw [hafter]
          exact Nat.one_lt_two
  | statusOut got =>
      rw [hstage] at h
      obtain ⟨-, hreads, hresult, harmed⟩ := h
      have hsome : got ≠ [] := by
        intro hempty
        apply hanswerable.2 hreads
        rw [hresult, hempty]
      rw [if_neg hsome] at harmed
      rw [hostStep, outToken, harmed]
      exact ⟨_, rfl, Nat.zero_lt_one⟩
  | dataOut left =>
      rw [hstage] at h
      obtain ⟨-, hreads, hsome, ⟨-, -, hlong⟩ | ⟨-, hcollecting⟩⟩ := h
      · have hfits := hanswerable.1 fun hin => hreads ⟨hsome, hin⟩
        exact absurd hfits (Nat.not_le.mpr hlong)
      · obtain ⟨next, hnext⟩ : ∃ next,
            outToken layer (left.take usbCtrlEpMps) device = some next := by
          obtain ⟨-, htoken⟩ | ⟨-, next, htoken, -⟩ := @outToken_collecting κ layer run device left
            (fun hin => hreads ⟨hsome, hin⟩) hcollecting
          · exact ⟨_, htoken⟩
          · exact ⟨next, htoken⟩
        rw [hostStep, hnext]
        refine ⟨_, rfl, ?_⟩
        dsimp only
        split_ifs with hlast
        · exact Nat.lt_of_lt_of_le Nat.one_lt_two (Nat.le_add_left _ _)
        · have hdropped : (left.drop usbCtrlEpMps).length = left.length - 64 := List.length_drop
          have hpos := List.length_pos_iff.mpr hlast
          rw [remaining, remaining]
          omega
  | statusIn =>
      rw [hstage] at h
      obtain ⟨-, -, -, ⟨hstalled, -⟩ | ⟨hstalled, hending, -⟩⟩ := h
      · rw [hostStep, if_pos hstalled]
        exact ⟨_, rfl, Nat.zero_lt_one⟩
      · rw [hostStep, if_neg (Bool.eq_false_iff.mp hstalled), inToken_of_ending hstalled hending]
        exact ⟨_, rfl, Nat.zero_lt_one⟩
  | done got | refused =>
      rw [hstage] at hopen
      exact absurd trivial hopen

/-! ## Runs -/

/-- Host and device are in step about the last transfer, if there is one. -/
def BusInStep (layer : RequestLayer κ) (s : ControlBus κ) : Prop :=
  ∀ run ∈ s.transfer, InStep layer run s.device

/-- One action, whatever the host does. -/
theorem busInStep_step (s : ControlBus κ) (action : ControlAction) (next : ControlBus κ)
    (inv : BusInStep layer s) (hstep : controlStep layer s action = some next) :
    BusInStep layer next := by
  intro run htransfer
  cases action with
  | start request =>
      obtain rfl := Option.some.inj hstep
      obtain rfl := Option.some.inj htransfer
      exact inStep_start request s.device
  | proceed =>
      obtain ⟨before, hbefore, hnext⟩ := Option.bind_eq_some_iff.mp hstep
      obtain ⟨after, hafter, rfl⟩ := Option.map_eq_some_iff.mp hnext
      obtain rfl := Option.some.inj htransfer
      exact inStep_proceed (inv before hbefore) hafter
  | reset =>
      obtain rfl := Option.some.inj hstep
      cases htransfer

theorem busInStep_run {device : Ep0 κ} {actions : List ControlAction} {s : ControlBus κ}
    (hrun : runActions (controlStep layer) ⟨device, none⟩ actions = some s) :
    BusInStep layer s :=
  runActions_invariant busInStep_step (fun _ hnone => by cases hnone) hrun

/-- What the host may conclude from where it stands. -/
def StageMeans (layer : RequestLayer κ) (run : ControlRun κ) (core : κ) : Prop :=
  let result := controlTransfer layer run.request run.reqData run.core
  match run.stage with
  | .dataIn got => result.2 = core ∧ got <+: result.1.getD []
  | .statusOut got | .done got => result = (some got, core)
  | .dataOut _ => core = run.core
  | .statusIn =>
      result = (none, core) ∨ result = (some [], layer.finish run.request.setup core)
  | .refused => result = (none, core)

theorem InStep.means (h : InStep layer run device) : StageMeans layer run device.core := by
  rw [InStep] at h
  rw [StageMeans]
  cases hstage : run.stage with
  | dataIn got =>
      rw [hstage] at h
      obtain ⟨-, -, ⟨-, rfl, hresult⟩ | ⟨-, reply, hresult, hsends⟩⟩ := h
      · rw [hresult]
        exact ⟨rfl, List.nil_prefix⟩
      · rw [hresult]
        refine ⟨rfl, ?_⟩
        rcases hsends with hreplying | ⟨-, rfl, -⟩
        · change got <+: reply
          rw [hreplying.taken]
          exact List.take_prefix _ _
        · exact List.prefix_refl _
  | statusOut got =>
      rw [hstage] at h
      exact h.2.2.1
  | dataOut left =>
      rw [hstage] at h
      obtain ⟨-, -, -, ⟨-, hcore, -⟩ | ⟨-, hcollecting⟩⟩ := h
      · exact hcore
      · exact hcollecting.core
  | statusIn =>
      rw [hstage] at h
      obtain ⟨-, -, -, ⟨-, hresult⟩ | ⟨-, -, hresult⟩⟩ := h
      · exact .inl hresult
      · exact .inr hresult
  | done got | refused =>
      rw [hstage] at h
      exact h.2.2

variable (layer) in
/-- In every run of the bus, whatever transfers were given up before: a transfer at its end was
one call of the request handler, with the data of the host and from the state that the SETUP
packet found, and the host has got the reply to it or is refused as it is; before that the
host has got no more than the start of the reply, and a handler that is yet to get data of
the host was not called. -/
theorem controlBus_agrees (device : Ep0 κ) (actions : List ControlAction) (s : ControlBus κ)
    (hrun : runActions (controlStep layer) ⟨device, none⟩ actions = some s) :
    ∀ run ∈ s.transfer, StageMeans layer run s.device.core := by
  intro run htransfer
  exact (busInStep_run hrun run htransfer).means

/-- A device that keeps what it is sent, and gives it back. -/
def keepingLayer : RequestLayer (List Byte) where
  handle setup data kept :=
    if setup.DirIn then
      ((true, { data with elsewhere := some (Buf.ofList kept), len := kept.length }), kept)
    else ((true, data), data.reqData.prefixBytes data.len)
  finish _ kept := kept
  reset _ := []

/-- A device that was just reset. -/
def freshEp0 : Ep0 (List Byte) :=
  ⟨⟨0#8, 0#8, 0#16, 0#16, 0#16⟩, fun _ => 0#8, 0, 0, 0, false, .setup, none, none, false, []⟩

/-- 70 bytes are sent, a read is given up after its first packet, and another one gets them
all. -/
def keptRun : List ControlAction :=
  [.start ⟨⟨0x40#8, 1#8, 0#16, 0#16, 70#16⟩, List.replicate 70 0x5A#8, by decide⟩, .proceed,
    .proceed, .proceed, .start ⟨⟨0xC0#8, 1#8, 0#16, 0#16, 128#16⟩, [], by decide⟩, .proceed,
    .start ⟨⟨0xC0#8, 1#8, 0#16, 0#16, 128#16⟩, [], by decide⟩, .proceed, .proceed, .proceed]

theorem controlBus_agrees_kept :
    ∃ s run, runActions (controlStep keepingLayer) ⟨freshEp0, none⟩ keptRun = some s ∧
      s.transfer = some run ∧ run.stage = .done (List.replicate 70 0x5A#8) ∧
      StageMeans keepingLayer run s.device.core := by
  have hrun : (runActions (controlStep keepingLayer) ⟨freshEp0, none⟩ keptRun).map (fun s =>
      s.transfer.map ControlRun.stage) =
        some (some (.done (List.replicate 70 0x5A#8))) := by
    decide +kernel
  obtain ⟨s, hs, htransfer⟩ := Option.map_eq_some_iff.mp hrun
  obtain ⟨run, hrun, hstage⟩ := Option.map_eq_some_iff.mp htransfer
  exact ⟨s, run, hs, hrun, hstage, controlBus_agrees keepingLayer freshEp0 keptRun s hs run hrun⟩

/-- Packet by packet to the end. -/
theorem proceeds_over {count : ℕ} :
    ∀ {run : ControlRun κ} {device : Ep0 κ}, InStep layer run device →
      Answerable layer run.request run.reqData run.core → remaining run.stage device ≤ count →
      ∃ packets stage after,
        runActions (controlStep layer) ⟨device, some run⟩ (List.replicate packets .proceed) =
            some ⟨after, some { run with stage := stage }⟩ ∧
          stage.Over ∧ InStep layer { run with stage := stage } after := by
  induction count with
  | zero =>
      intro run device h hanswerable hleft
      by_cases hover : run.stage.Over
      · exact ⟨0, run.stage, device, rfl, hover, h⟩
      · obtain ⟨_, _, hless⟩ := hostStep_proceeds h hanswerable hover
        exact absurd (hless.trans_le hleft) (Nat.not_lt_zero _)
  | succ count ih =>
      intro run device h hanswerable hleft
      by_cases hover : run.stage.Over
      · exact ⟨0, run.stage, device, rfl, hover, h⟩
      · obtain ⟨next, hnext, hless⟩ := hostStep_proceeds h hanswerable hover
        have hstep : controlStep layer ⟨device, some run⟩ .proceed =
            some ⟨next.2, some { run with stage := next.1 }⟩ := by
          rw [controlStep, Option.bind_some, hnext]
          rfl
        have hleft' : remaining next.1 next.2 ≤ count := by omega
        obtain ⟨packets, stage, after, hrest, hend, hinStep⟩ :=
          ih (inStep_proceed h hnext) hanswerable hleft'
        refine ⟨packets + 1, stage, after, ?_, hend, hinStep⟩
        rw [List.replicate_succ]
        exact runActions_cons_eq_some.mpr ⟨_, hstep, hrest⟩

variable (layer) in
/-- Whatever state the device is in, a transfer comes to an end, packet by packet, exactly if
`req_data` has room for the data of the host and the reply is not empty. After an empty reply
host and device wait for each other. -/
theorem controlTransfer_ends_iff (s : ControlBus κ) (request : ControlRequest) :
    (∃ packets stage after,
      runActions (controlStep layer) s (.start request :: List.replicate packets .proceed) =
          some ⟨after, some ⟨request, s.device.reqData, s.device.core, stage⟩⟩ ∧
        stage.Over) ↔
      Answerable layer request s.device.reqData s.device.core := by
  have hstart := @inStep_start κ layer request s.device
  constructor
  · rintro ⟨packets, stage, after, hrun, hover⟩
    have hfrom : runActions (controlStep layer) ⟨s.device, none⟩
        (.start request :: List.replicate packets .proceed) =
          some ⟨after, some ⟨request, s.device.reqData, s.device.core, stage⟩⟩ := hrun
    have h := busInStep_run hfrom _ rfl
    rw [InStep] at h
    cases stage with
    | done got | refused => exact h.2.1
    | dataIn _ | statusOut _ | dataOut _ | statusIn => exact hover.elim
  · intro hanswerable
    obtain ⟨packets, stage, after, hrest, hover, -⟩ := proceeds_over hstart hanswerable le_rfl
    exact ⟨packets, stage, after, runActions_cons_eq_some.mpr ⟨_, rfl, hrest⟩, hover⟩

end Agreement

end ExLink.Usb
