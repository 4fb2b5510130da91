/-
# The CDC ports

The echo of `usb_if_uart.c` on both ports, callback by callback. Both share the controller:
endpoints by address, buffers by name, and whatever completes finds its port through the
table of endpoints. A port sees nothing of what happens on the other.
-/

import ExLink.Automata.Transition
import ExLink.Usb.Endpoint

namespace ExLink.Usb

open ExLink.Automata

/-! ## Ports and controller -/

/-- `s_cdc1_rx` to `s_cdc2_tx`. -/
inductive CdcMem where
  | cdc1Rx
  | cdc1Tx
  | cdc2Rx
  | cdc2Tx
  deriving DecidableEq

/-- The entries of `s_cdc`. -/
inductive CdcIndex where
  | cdc1
  | cdc2
  deriving DecidableEq

/-- `cdc_port_t`, but for its flag. -/
structure CdcPort where
  outEp : Byte
  inEp : Byte
  rx : CdcMem
  tx : CdcMem

/-- `s_cdc`. -/
def sCdc : CdcIndex → CdcPort
  | .cdc1 => ⟨0x05#8, 0x85#8, .cdc1Rx, .cdc1Tx⟩
  | .cdc2 => ⟨0x07#8, 0x87#8, .cdc2Rx, .cdc2Tx⟩

/-- The port whose callback is registered for an OUT endpoint. -/
def cdcOutCb (ep : Byte) : Option CdcIndex :=
  if ep = 0x05#8 then some .cdc1 else if ep = 0x07#8 then some .cdc2 else none

/-- The port whose callback is registered for an IN endpoint. -/
def cdcInCb (ep : Byte) : Option CdcIndex :=
  if ep = 0x85#8 then some .cdc1 else if ep = 0x87#8 then some .cdc2 else none

/-- The buffers, the `tx_busy` flags, the transfers that the controller holds for each
endpoint address, and those that the host took. A write without data has no buffer. -/
structure CdcBus where
  mem : CdcMem → Buf
  txBusy : CdcIndex → Bool
  reads : Byte → Option (CdcMem × ℕ)
  writes : Byte → Option (Option CdcMem × ℕ)
  taken : Byte → List (List Byte)

/-- `usbd_ep_start_read`. -/
def usbdEpStartRead (ep : Byte) (mem : CdcMem) (len : ℕ) (s : CdcBus) : CdcBus :=
  { s with reads := Function.update s.reads ep (some (mem, len)) }

/-- `usbd_ep_start_write` on an enabled endpoint. -/
def usbdEpStartWrite (ep : Byte) (mem : Option CdcMem) (len : ℕ) (s : CdcBus) : CdcBus :=
  { s with writes := Function.update s.writes ep (some (mem, len)) }

/-- The bytes of a transfer. -/
def transferBytes (mem : CdcMem → Buf) : Option CdcMem × ℕ → List Byte
  | (some buffer, len) => (mem buffer).prefixBytes len
  | (none, _) => []

/-- `cdc_port_out`. -/
def cdcPortOut (i : CdcIndex) (nbytes : ℕ) (s : CdcBus) : CdcBus :=
  let p := sCdc i
  let s :=
    if 0 < nbytes ∧ s.txBusy i = false then
      let copied := (s.mem p.tx).write ((s.mem p.rx).prefixBytes nbytes)
      usbdEpStartWrite p.inEp (some p.tx) nbytes
        { s with
          mem := Function.update s.mem p.tx copied
          txBusy := Function.update s.txBusy i true }
    else s
  usbdEpStartRead p.outEp p.rx exlinkBulkMps s

/-- `cdc_port_in`. -/
def cdcPortIn (speed : UsbSpeed) (i : CdcIndex) (nbytes : ℕ) (s : CdcBus) : CdcBus :=
  if 0 < nbytes ∧ nbytes % speed.mps = 0 then usbdEpStartWrite (sCdc i).inEp none 0 s
  else { s with txBusy := Function.update s.txBusy i false }

/-- A body of the loop of `usb_if_uart_on_configured`. -/
def cdcConfigure (i : CdcIndex) (s : CdcBus) : CdcBus :=
  usbdEpStartRead (sCdc i).outEp (sCdc i).rx exlinkBulkMps
    { s with txBusy := Function.update s.txBusy i false }

/-- `usb_if_uart_on_configured`. -/
def usbIfUartOnConfigured (s : CdcBus) : CdcBus := cdcConfigure .cdc2 (cdcConfigure .cdc1 s)

/-- The controller before the configuration: it holds nothing. -/
def cdcIdle (mem : CdcMem → Buf) (txBusy : CdcIndex → Bool) : CdcBus :=
  ⟨mem, txBusy, fun _ => none, fun _ => none, fun _ => []⟩

/-- The completions, by endpoint address. -/
inductive CdcAction where
  | out (ep : Byte) (bytes : List Byte)
  | taken (ep : Byte)

/-- A completion on an endpoint that has a transfer and a callback. -/
def cdcStep (speed : UsbSpeed) (s : CdcBus) : CdcAction → Option CdcBus
  | .out ep bytes =>
      match cdcOutCb ep, s.reads ep with
      | some i, some (buffer, len) =>
          if bytes.length ≤ len then
            some (cdcPortOut i bytes.length
              { s with
                mem := Function.update s.mem buffer ((s.mem buffer).write bytes)
                reads := Function.update s.reads ep none })
          else none
      | _, _ => none
  | .taken ep =>
      match cdcInCb ep, s.writes ep with
      | some i, some transfer =>
          some (cdcPortIn speed i transfer.2
            { s with
              writes := Function.update s.writes ep none
              taken := Function.update s.taken ep (s.taken ep ++ [transferBytes s.mem transfer]) })
      | _, _ => none

/-! ## One port -/

/-- What a port has of the controller. -/
structure CdcView where
  rx : Buf
  tx : Buf
  txBusy : Bool
  write : Option (Option CdcMem × ℕ)
  taken : List (List Byte)

/-- The part of a port. -/
def CdcBus.view (s : CdcBus) (i : CdcIndex) : CdcView :=
  ⟨s.mem (sCdc i).rx, s.mem (sCdc i).tx, s.txBusy i, s.writes (sCdc i).inEp,
    s.taken (sCdc i).inEp⟩

/-- Every port has its read armed. -/
def CdcBus.Listening (s : CdcBus) : Prop :=
  ∀ i, s.reads (sCdc i).outEp = some ((sCdc i).rx, exlinkBulkMps)

/-- A port that is not busy echoes what it received; an empty packet changes nothing else. -/
def CdcView.received (i : CdcIndex) (bytes : List Byte) (v : CdcView) : CdcView :=
  if bytes ≠ [] ∧ v.txBusy = false then
    { v with
      rx := v.rx.write bytes
      tx := v.tx.write bytes
      txBusy := true
      write := some (some (sCdc i).tx, bytes.length) }
  else { v with rx := v.rx.write bytes }

/-- A transfer of whole packets is followed by an empty one; otherwise the port is idle. -/
def CdcView.sent (speed : UsbSpeed) (bytes : List Byte) (len : ℕ) (v : CdcView) : CdcView :=
  if 0 < len ∧ len % speed.mps = 0 then
    { v with write := some (none, 0), taken := v.taken ++ [bytes] }
  else { v with write := none, txBusy := false, taken := v.taken ++ [bytes] }

section Ports

variable {i j : CdcIndex} {ep : Byte}

/-- No two ports share an endpoint or a buffer. -/
theorem sCdc_separate (hne : i ≠ j) :
    (sCdc i).outEp ≠ (sCdc j).outEp ∧ (sCdc i).inEp ≠ (sCdc j).inEp ∧
      (sCdc i).rx ≠ (sCdc j).rx ∧ (sCdc i).rx ≠ (sCdc j).tx ∧ (sCdc i).tx ≠ (sCdc j).rx ∧
        (sCdc i).tx ≠ (sCdc j).tx := by
  cases i <;> cases j
  · exact absurd rfl hne
  · decide
  · decide
  · exact absurd rfl hne

theorem rx_ne_tx (i : CdcIndex) : (sCdc i).rx ≠ (sCdc i).tx := by cases i <;> decide

theorem cdcOutCb_eq_some : cdcOutCb ep = some i ↔ ep = (sCdc i).outEp := by
  unfold cdcOutCb
  cases i <;> split_ifs <;> simp_all [sCdc]

theorem cdcInCb_eq_some : cdcInCb ep = some i ↔ ep = (sCdc i).inEp := by
  unfold cdcInCb
  cases i <;> split_ifs <;> simp_all [sCdc]

end Ports

section Steps

variable {speed : UsbSpeed} {s next : CdcBus} {action : CdcAction} {i j : CdcIndex}

@[simp]
theorem reads_cdcPortOut (i : CdcIndex) (nbytes : ℕ) (s : CdcBus) :
    (cdcPortOut i nbytes s).reads =
      Function.update s.reads (sCdc i).outEp (some ((sCdc i).rx, exlinkBulkMps)) := by
  unfold cdcPortOut
  dsimp only
  split_ifs <;> rfl

@[simp]
theorem reads_cdcPortIn (i : CdcIndex) (nbytes : ℕ) (s : CdcBus) :
    (cdcPortIn speed i nbytes s).reads = s.reads := by
  unfold cdcPortIn
  split_ifs <;> rfl

/-- What a step is: the callback of one port, after the transfer that completed. -/
theorem cdcStep_cases (hlisten : s.Listening) (hstep : cdcStep speed s action = some next) :
    ∃ j,
      (∃ bytes, action = .out (sCdc j).outEp bytes ∧ bytes.length ≤ exlinkBulkMps ∧
        next = cdcPortOut j bytes.length
          { s with
            mem := Function.update s.mem (sCdc j).rx ((s.mem (sCdc j).rx).write bytes)
            reads := Function.update s.reads (sCdc j).outEp none }) ∨
      ∃ transfer, action = .taken (sCdc j).inEp ∧ s.writes (sCdc j).inEp = some transfer ∧
        next = cdcPortIn speed j transfer.2
          { s with
            writes := Function.update s.writes (sCdc j).inEp none
            taken := Function.update s.taken (sCdc j).inEp
              (s.taken (sCdc j).inEp ++ [transferBytes s.mem transfer]) } := by
  cases action with
  | out ep bytes =>
      cases hport : cdcOutCb ep with
      | none => simp only [cdcStep, hport, reduceCtorEq] at hstep
      | some j =>
          obtain rfl := cdcOutCb_eq_some.mp hport
          simp only [cdcStep, hport, hlisten j] at hstep
          split_ifs at hstep with hle
          exact ⟨j, .inl ⟨bytes, rfl, hle, (Option.some.inj hstep).symm⟩⟩
  | taken ep =>
      cases hport : cdcInCb ep with
      | none => simp only [cdcStep, hport, reduceCtorEq] at hstep
      | some j =>
          obtain rfl := cdcInCb_eq_some.mp hport
          cases hwrite : s.writes (sCdc j).inEp with
          | none => simp only [cdcStep, hport, hwrite, reduceCtorEq] at hstep
          | some transfer =>
              simp only [cdcStep, hport, hwrite, Option.some.injEq] at hstep
              exact ⟨j, .inr ⟨transfer, rfl, hwrite, hstep.symm⟩⟩

/-- A callback arms the read again. -/
theorem listening_step (hlisten : s.Listening) (hstep : cdcStep speed s action = some next) :
    next.Listening := by
  obtain ⟨j, ⟨bytes, -, -, rfl⟩ | ⟨transfer, -, -, rfl⟩⟩ := cdcStep_cases hlisten hstep
  · intro i
    by_cases hport : i = j
    · rw [reads_cdcPortOut, hport, Function.update_self]
    · have hep := (sCdc_separate hport).1
      rw [reads_cdcPortOut, Function.update_of_ne hep]
      exact (Function.update_of_ne hep _ _).trans (hlisten i)
  · intro i
    rw [reads_cdcPortIn, hlisten i]

/-- An OUT completion as its port sees it. -/
theorem view_received (i : CdcIndex) (bytes : List Byte) (reads : Byte → Option (CdcMem × ℕ)) :
    (cdcPortOut i bytes.length
      { s with
        mem := Function.update s.mem (sCdc i).rx ((s.mem (sCdc i).rx).write bytes)
        reads := reads }).view i = (s.view i).received i bytes := by
  have hne := rx_ne_tx i
  have hpos : 0 < bytes.length ↔ bytes ≠ [] := List.length_pos_iff
  by_cases hecho : bytes ≠ [] ∧ s.txBusy i = false
  · simp only [cdcPortOut, CdcBus.view, hpos, if_pos hecho, usbdEpStartRead, usbdEpStartWrite,
      Function.update_self, Function.update_of_ne hne, Function.update_of_ne hne.symm,
      Buf.prefixBytes_write]
    exact (if_pos hecho).symm
  · simp only [cdcPortOut, CdcBus.view, hpos, if_neg hecho, usbdEpStartRead, Function.update_self,
      Function.update_of_ne hne.symm]
    exact (if_neg hecho).symm

/-- An IN completion as its port sees it. -/
theorem view_sent (i : CdcIndex) (bytes : List Byte) (len : ℕ) :
    (cdcPortIn speed i len
      { s with
        writes := Function.update s.writes (sCdc i).inEp none
        taken := Function.update s.taken (sCdc i).inEp
          (s.taken (sCdc i).inEp ++ [bytes]) }).view i =
      (s.view i).sent speed bytes len := by
  simp only [cdcPortIn, CdcView.sent]
  split_ifs <;> simp only [CdcBus.view, usbdEpStartWrite, Function.update_self]

/-- Neither callback reaches the other port. -/
theorem view_cdcPortOut_of_ne (hne : i ≠ j) (nbytes : ℕ) (s : CdcBus) :
    (cdcPortOut j nbytes s).view i = s.view i := by
  obtain ⟨-, hin, -, hrxTx, -, htx⟩ := sCdc_separate hne
  simp only [cdcPortOut]
  split_ifs <;> simp only [CdcBus.view, usbdEpStartRead, usbdEpStartWrite,
    Function.update_of_ne hne, Function.update_of_ne hin, Function.update_of_ne hrxTx,
    Function.update_of_ne htx]

theorem view_cdcPortIn_of_ne (hne : i ≠ j) (nbytes : ℕ) (s : CdcBus) :
    (cdcPortIn speed j nbytes s).view i = s.view i := by
  have hin := (sCdc_separate hne).2.1
  simp only [cdcPortIn]
  split_ifs <;> simp only [CdcBus.view, usbdEpStartWrite, Function.update_of_ne hne,
    Function.update_of_ne hin]

/-- What a step leaves of a port: all of it, or what a completion on it makes of it. -/
theorem view_step (hlisten : s.Listening) (hstep : cdcStep speed s action = some next)
    (i : CdcIndex) :
    ((∀ bytes, action ≠ .out (sCdc i).outEp bytes) ∧ next.view i = s.view i) ∨
      (∃ bytes, action = .out (sCdc i).outEp bytes ∧ bytes.length ≤ exlinkBulkMps ∧
        next.view i = (s.view i).received i bytes) ∨
      ∃ transfer, action = .taken (sCdc i).inEp ∧ (s.view i).write = some transfer ∧
        next.view i = (s.view i).sent speed (transferBytes s.mem transfer) transfer.2 := by
  obtain ⟨j, hj⟩ := cdcStep_cases hlisten hstep
  by_cases hport : i = j
  · subst hport
    obtain ⟨bytes, rfl, hle, rfl⟩ | ⟨transfer, rfl, hwrite, rfl⟩ := hj
    · exact .inr (.inl ⟨bytes, rfl, hle, view_received i bytes _⟩)
    · exact .inr (.inr ⟨transfer, rfl, hwrite, view_sent i _ _⟩)
  · obtain ⟨hout, hin, hrx, -, htxRx, -⟩ := sCdc_separate hport
    obtain ⟨bytes, rfl, -, rfl⟩ | ⟨transfer, rfl, -, rfl⟩ := hj
    · refine .inl ⟨fun other h => hout (CdcAction.out.inj h).1.symm, ?_⟩
      rw [view_cdcPortOut_of_ne hport]
      simp only [CdcBus.view, Function.update_of_ne hrx, Function.update_of_ne htxRx]
    · refine .inl ⟨fun _ => nofun, ?_⟩
      rw [view_cdcPortIn_of_ne hport]
      simp only [CdcBus.view, Function.update_of_ne hin]

end Steps

/-! ## The echo -/

/-- A data transfer and, after whole packets, the empty one. -/
def echoTransfers (speed : UsbSpeed) (bytes : List Byte) : List (List Byte) :=
  bytes :: if bytes.length % speed.mps = 0 then [[]] else []

/-- What the host has yet to take for a transfer that the controller holds. -/
def CdcView.owed (speed : UsbSpeed) (v : CdcView) : List (List Byte) :=
  match v.write with
  | none => []
  | some (none, _) => [[]]
  | some (some _, len) => echoTransfers speed (v.tx.prefixBytes len)

/-- The port is busy exactly while a transfer is armed, data only from its own buffer, and
the host takes what was accepted, in order. -/
structure CdcView.Echoes (speed : UsbSpeed) (i : CdcIndex) (accepted : List (List Byte))
    (v : CdcView) : Prop where
  busy : v.txBusy = v.write.isSome
  armed : ∀ transfer, v.write = some transfer →
    transfer = (none, 0) ∨ ∃ len, 0 < len ∧ transfer = (some (sCdc i).tx, len)
  transfers : v.taken ++ v.owed speed = accepted.flatMap (echoTransfers speed)

/-- The data that a port accepts in a step: what arrives for it, unless it is empty or the
port is busy. -/
def cdcAccepted (i : CdcIndex) (s : CdcBus) : CdcAction → List (List Byte)
  | .out ep bytes =>
      if ep = (sCdc i).outEp ∧ bytes ≠ [] ∧ s.txBusy i = false then [bytes] else []
  | .taken _ => []

/-- The data that arrives for a port. -/
def cdcArrivals (i : CdcIndex) : CdcAction → List (List Byte)
  | .out ep bytes => if ep = (sCdc i).outEp then [bytes] else []
  | .taken _ => []

section Echo

variable {speed : UsbSpeed} {i : CdcIndex} {accepted : List (List Byte)} {v : CdcView}

theorem echoes_received (hechoes : v.Echoes speed i accepted) (bytes : List Byte) :
    (v.received i bytes).Echoes speed i
      (accepted ++ if bytes ≠ [] ∧ v.txBusy = false then [bytes] else []) := by
  unfold CdcView.received
  split_ifs with hecho
  · -- a port that is not busy owes nothing
    have hnone : v.write = none := by
      apply Option.not_isSome_iff_eq_none.mp
      rw [← hechoes.busy, hecho.2]
      exact Bool.false_ne_true
    refine ⟨rfl, ?_, ?_⟩
    · rintro _ ⟨rfl⟩
      exact .inr ⟨bytes.length, List.length_pos_iff.mpr hecho.1, rfl⟩
    · have hbefore := hechoes.transfers
      simp only [CdcView.owed, hnone, List.append_nil] at hbefore
      simp only [CdcView.owed, Buf.prefixBytes_write, List.flatMap_append, List.flatMap_singleton,
        hbefore]
  · rw [List.append_nil]
    exact ⟨hechoes.busy, hechoes.armed, hechoes.transfers⟩

theorem echoes_sent (hechoes : v.Echoes speed i accepted) {s : CdcBus}
    {transfer : Option CdcMem × ℕ} (htx : s.mem (sCdc i).tx = v.tx)
    (hwrite : v.write = some transfer) :
    (v.sent speed (transferBytes s.mem transfer) transfer.2).Echoes speed i accepted := by
  have htransfers := hechoes.transfers
  rcases hechoes.armed transfer hwrite with rfl | ⟨len, hpos, rfl⟩
  · -- the empty packet was the last one owed
    have hidle : ¬ (0 < 0 ∧ 0 % speed.mps = 0) := fun h => Nat.lt_irrefl 0 h.1
    simp only [CdcView.owed, hwrite] at htransfers
    rw [CdcView.sent, if_neg hidle]
    refine ⟨rfl, nofun, ?_⟩
    simp only [CdcView.owed, List.append_nil]
    exact htransfers
  · simp only [CdcView.owed, hwrite, echoTransfers, Buf.length_prefixBytes] at htransfers
    rw [CdcView.sent]
    split_ifs with hwhole
    · -- whole packets: the empty one is armed
      refine ⟨hechoes.busy.trans (by rw [hwrite]; rfl), ?_, ?_⟩
      · rintro _ ⟨rfl⟩
        exact .inl rfl
      · rw [if_pos hwhole.2] at htransfers
        simp only [CdcView.owed, transferBytes, htx, List.append_assoc, List.singleton_append]
        exact htransfers
    · rw [if_neg fun hzero => hwhole ⟨hpos, hzero⟩] at htransfers
      refine ⟨rfl, nofun, ?_⟩
      simp only [CdcView.owed, transferBytes, htx, List.append_nil]
      exact htransfers

variable {s next : CdcBus} {action : CdcAction}

/-- A step of the bus keeps what holds of a port. -/
theorem echoes_step (hlisten : s.Listening) (hechoes : (s.view i).Echoes speed i accepted)
    (hstep : cdcStep speed s action = some next) :
    (next.view i).Echoes speed i (accepted ++ cdcAccepted i s action) := by
  obtain ⟨hout, hview⟩ | ⟨bytes, rfl, -, hview⟩ | ⟨transfer, rfl, hwrite, hview⟩ :=
    view_step hlisten hstep i
  · have hnone : cdcAccepted i s action = [] := by
      cases action with
      | out ep bytes =>
          apply if_neg
          rintro ⟨rfl, -⟩
          exact hout bytes rfl
      | taken ep => rfl
    rw [hview, hnone, List.append_nil]
    exact hechoes
  · have hsome : cdcAccepted i s (.out (sCdc i).outEp bytes) =
        if bytes ≠ [] ∧ (s.view i).txBusy = false then [bytes] else [] :=
      if_congr (and_iff_right rfl) rfl rfl
    rw [hview, hsome]
    exact echoes_received hechoes bytes
  · rw [hview, cdcAccepted, List.append_nil]
    exact echoes_sent hechoes rfl hwrite

/-- A transfer from the buffer of a port keeps its data. -/
theorem tx_step (hlisten : s.Listening) (hechoes : (s.view i).Echoes speed i accepted)
    (harmed : (s.writes (sCdc i).inEp).isSome) (hstep : cdcStep speed s action = some next) :
    next.mem (sCdc i).tx = s.mem (sCdc i).tx := by
  obtain ⟨-, hview⟩ | ⟨bytes, -, -, hview⟩ | ⟨transfer, -, -, hview⟩ :=
    view_step hlisten hstep i
  · exact congrArg CdcView.tx hview
  · have hbusy : ¬ (bytes ≠ [] ∧ (s.view i).txBusy = false) := by
      rw [hechoes.busy, CdcBus.view, harmed]
      exact fun h => Bool.false_ne_true h.2.symm
    rw [CdcView.received, if_neg hbusy] at hview
    exact congrArg CdcView.tx hview
  · refine (congrArg CdcView.tx hview).trans ?_
    unfold CdcView.sent
    split_ifs <;> rfl

/-- What a run keeps of both ports. -/
theorem cdcRun_keeps {start final : CdcBus} {actions : List CdcAction} (hlisten : start.Listening)
    (hstart : (start.view i).Echoes speed i [])
    (hrun : runActions (cdcStep speed) start actions = some final) :
    final.Listening ∧
      (final.view i).Echoes speed i (runLabels (cdcStep speed) (cdcAccepted i) start actions) := by
  let related (before : List (List Byte)) (_ : List Unit) (s : CdcBus) : Prop :=
    s.Listening ∧ (s.view i).Echoes speed i before
  apply @runLabels_history _ _ _ _ _ _ (fun _ _ => []) related _ _ _ _ ⟨hlisten, hstart⟩ hrun
  intro before _ s action next hs hstep
  exact ⟨listening_step hs.1 hstep, echoes_step hs.1 hs.2 hstep⟩

end Echo

/-- After the configuration both ports listen, and none echoes. -/
theorem configured_keeps (speed : UsbSpeed) (mem : CdcMem → Buf) (txBusy : CdcIndex → Bool)
    (i : CdcIndex) :
    (usbIfUartOnConfigured (cdcIdle mem txBusy)).Listening ∧
      ((usbIfUartOnConfigured (cdcIdle mem txBusy)).view i).Echoes speed i [] := by
  constructor
  · intro j
    cases j <;> rfl
  · cases i <;> exact ⟨rfl, nofun, rfl⟩

/-- At either speed, whatever completes in which order on the two ports: a port accepts what
arrives for it unless it is empty or the port is busy, and the host has taken, or is still
owed, exactly the data accepted, each once and in order, with an empty packet after whole
packets. The read of a port is armed again, the port is busy exactly while a transfer of its
own is armed, and the data of the transfer stays as it is. -/
theorem cdcPorts_echo (speed : UsbSpeed) (mem : CdcMem → Buf) (txBusy : CdcIndex → Bool)
    (actions : List CdcAction) (final : CdcBus)
    (hrun : runActions (cdcStep speed) (usbIfUartOnConfigured (cdcIdle mem txBusy)) actions =
      some final) (i : CdcIndex) :
    let accepted := runLabels (cdcStep speed) (cdcAccepted i)
      (usbIfUartOnConfigured (cdcIdle mem txBusy)) actions
    accepted.Sublist (actions.flatMap (cdcArrivals i)) ∧
      final.taken (sCdc i).inEp ++ (final.view i).owed speed =
        accepted.flatMap (echoTransfers speed) ∧
      final.reads (sCdc i).outEp = some ((sCdc i).rx, exlinkBulkMps) ∧
      final.txBusy i = (final.writes (sCdc i).inEp).isSome ∧
      (∀ buffer len, final.writes (sCdc i).inEp = some (some buffer, len) →
        buffer = (sCdc i).tx) ∧
      ((final.writes (sCdc i).inEp).isSome → ∀ action next,
        cdcStep speed final action = some next →
          next.mem (sCdc i).tx = final.mem (sCdc i).tx) := by
  obtain ⟨hlisten, hstart⟩ := configured_keeps speed mem txBusy i
  obtain ⟨hlistening, hechoes⟩ := cdcRun_keeps hlisten hstart hrun
  refine ⟨?_, hechoes.transfers, hlistening i, hechoes.busy, ?_, ?_⟩
  · apply runLabels_sublist
    intro s action
    cases action with
    | out ep bytes =>
        simp only [cdcAccepted, cdcArrivals]
        split_ifs with haccepted hport
        · exact List.Sublist.refl _
        · exact absurd haccepted.1 hport
        · exact List.nil_sublist _
        · exact List.Sublist.refl []
    | taken ep => exact List.Sublist.refl []
  · intro buffer len hwrite
    rcases hechoes.armed _ hwrite with h | ⟨len', -, h⟩
    · cases h
    · cases h
      rfl
  · intro harmed action next hstep
    exact tx_step hlistening hechoes harmed hstep

/-- At full speed: a whole packet and a byte that comes too early on one port, a byte on the
other in between. -/
def cdcTraffic : List CdcAction :=
  [.out 0x05#8 (List.replicate 64 1), .out 0x07#8 [2], .taken 0x85#8, .out 0x05#8 [3],
    .taken 0x87#8, .taken 0x85#8, .out 0x05#8 [4], .taken 0x85#8]

theorem cdcPorts_echo_traffic :
    ∃ final, runActions (cdcStep .full)
        (usbIfUartOnConfigured (cdcIdle (fun _ _ => 0) fun _ => true)) cdcTraffic = some final ∧
      final.taken 0x85#8 ++ (final.view .cdc1).owed .full = [List.replicate 64 1, [], [4]] ∧
      final.taken 0x87#8 ++ (final.view .cdc2).owed .full = [[2]] := by
  have hsome : (runActions (cdcStep .full)
      (usbIfUartOnConfigured (cdcIdle (fun _ _ => 0) fun _ => true)) cdcTraffic).isSome := by
    decide +kernel
  obtain ⟨final, hfinal⟩ := Option.isSome_iff_exists.mp hsome
  have hechoed := cdcPorts_echo .full (fun _ _ => 0) (fun _ => true) cdcTraffic final hfinal
  refine ⟨final, hfinal, (hechoed .cdc1).2.1.trans ?_, (hechoed .cdc2).2.1.trans ?_⟩
  · decide +kernel
  · decide +kernel

end ExLink.Usb
