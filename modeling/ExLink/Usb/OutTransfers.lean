/-
# Transfers of the host

The OUT reads of EP1 and EP2 are armed for `EXLINK_BULK_MPS` bytes, a constant of the
build, while the packet size follows the speed. A transfer of whole packets ends a read
only if the read is full.
-/

import ExLink.Dap.Engine

namespace ExLink.Usb

open ExLink.Bulk ExLink.Dap

/-- A transfer of the host. With no byte it would have no packet. -/
structure OutTransfer where
  bytes : List Byte
  nonempty : bytes ≠ []

/-- The packets of the transfers, without empty ones. -/
def outPackets (speed : UsbSpeed) (transfers : List OutTransfer) : List (List Byte) :=
  transfers.flatMap fun transfer => dataPackets speed.mps transfer.bytes

/-- What the calls of an OUT callback receive. `usbd_ep_start_read` arms every read, on
EP1 as on EP2, for `EXLINK_BULK_MPS` bytes. -/
def outCallbacks (speed : UsbSpeed) (transfers : List OutTransfer) : List (List Byte) :=
  hostReads speed.mps exlinkBulkMps (outPackets speed transfers)

/-- What `dap_out_cb` hands to `dap_engine_submit`, call by call. -/
def dapSubmits (callbacks : List (List Byte)) : List (List Byte) :=
  callbacks.filter fun bytes => bytes.length ≠ 0

/-- After each transfer all bytes so far were passed on. -/
def PassesOn (speed : UsbSpeed) (transfers : List OutTransfer) : Prop :=
  ∀ before after, transfers = before ++ after →
    (outCallbacks speed before).flatten = before.flatMap OutTransfer.bytes

/-- A transfer that fits a DAP packet is submitted once, as it is. -/
def SubmitsEach (speed : UsbSpeed) (transfers : List OutTransfer) : Prop :=
  ∀ before transfer after, transfers = before ++ transfer :: after →
    transfer.bytes.length ≤ dapPacketSize →
      dapSubmits (outCallbacks speed (before ++ [transfer])) =
        dapSubmits (outCallbacks speed before) ++ [transfer.bytes]

/-- A transfer of whole packets fills its last read. -/
def EndsRead (speed : UsbSpeed) (transfer : OutTransfer) : Prop :=
  speed.mps ∣ transfer.bytes.length → exlinkBulkMps ∣ transfer.bytes.length

/-- `dap_out_cb` on what a read received. -/
theorem dapOutCb_queue (packet : OutPacket) (s : DapState) :
    (dapOutCb packet s).queue =
      (dapSubmits [packet.bytes]).foldl (fun queue data => (dapEngineSubmit data queue).2)
        s.queue := by
  rw [dapOutCb]
  split_ifs with hzero
  · rw [dapSubmits, List.filter_cons_of_neg (by simp [hzero])]
    rfl
  · rw [dapSubmits, List.filter_cons_of_pos (by simpa using hzero)]
    rfl

section Transfers

variable {speed : UsbSpeed}

theorem outPackets_append (before after : List OutTransfer) :
    outPackets speed (before ++ after) = outPackets speed before ++ outPackets speed after :=
  List.flatMap_append

theorem flatten_outPackets (transfers : List OutTransfer) :
    (outPackets speed transfers).flatten = transfers.flatMap OutTransfer.bytes := by
  induction transfers with
  | nil => rfl
  | cons transfer rest ih =>
      rw [outPackets, List.flatMap_cons, List.flatten_append, ← outPackets, ih,
        (flatten_dataPackets speed.mps_pos transfer.bytes).1, List.flatMap_cons]

/-- What was read and not passed on after some transfers. -/
def heldBack (speed : UsbSpeed) (transfers : List OutTransfer) : List Byte :=
  unreadFrom speed.mps exlinkBulkMps [] (outPackets speed transfers)

theorem flatten_outCallbacks (transfers : List OutTransfer) :
    (outCallbacks speed transfers).flatten ++ heldBack speed transfers =
      transfers.flatMap OutTransfer.bytes := by
  rw [outCallbacks, hostReads, heldBack, flatten_readsFrom, List.nil_append, flatten_outPackets]

theorem passesOn_iff {transfers : List OutTransfer} :
    PassesOn speed transfers ↔
      ∀ before after, transfers = before ++ after → heldBack speed before = [] := by
  refine forall₃_congr fun before _ _ => ?_
  rw [← @flatten_outCallbacks speed before]
  exact List.self_eq_append_right

/-- One more transfer after reads that are all complete. -/
theorem heldBack_append {before : List OutTransfer} (transfer : OutTransfer)
    (hnone : heldBack speed before = []) :
    heldBack speed (before ++ [transfer]) = [] ↔ EndsRead speed transfer := by
  have hends := unreadFrom_dataPackets speed.mps_pos speed.mps_dvd (Nat.dvd_zero _)
    (show ([] : List Byte).length < exlinkBulkMps by decide) transfer.nonempty
  rw [List.length_nil, Nat.zero_add] at hends
  rw [EndsRead, ← hends]
  rw [heldBack] at hnone
  rw [heldBack, outPackets_append, (readsFrom_append _ _ _).2, hnone, outPackets,
    List.flatMap_singleton]

theorem heldBack_eq_nil {transfers : List OutTransfer}
    (hends : ∀ transfer ∈ transfers, EndsRead speed transfer) :
    heldBack speed transfers = [] := by
  induction transfers using List.reverseRecOn with
  | nil => rfl
  | append_singleton before transfer ih =>
      have hbefore := ih fun earlier hearlier => hends earlier (List.mem_append_left _ hearlier)
      exact (heldBack_append transfer hbefore).mpr
        (hends transfer (List.mem_append_right _ (List.mem_singleton_self _)))

theorem passesOn_iff_endsRead {transfers : List OutTransfer} :
    PassesOn speed transfers ↔ ∀ transfer ∈ transfers, EndsRead speed transfer := by
  rw [passesOn_iff]
  constructor
  · intro hnone transfer hmem
    obtain ⟨before, after, rfl⟩ := List.append_of_mem hmem
    have hbefore := hnone before (transfer :: after) rfl
    have hthrough := hnone (before ++ [transfer]) after (by simp)
    exact (heldBack_append transfer hbefore).mp hthrough
  · rintro hends before after rfl
    exact heldBack_eq_nil fun transfer hmem => hends transfer (List.mem_append_left _ hmem)

theorem submitsEach_of_endsRead {transfers : List OutTransfer}
    (hends : ∀ transfer ∈ transfers, EndsRead speed transfer) : SubmitsEach speed transfers := by
  rintro before transfer after rfl hfits
  have hbefore : unreadFrom speed.mps exlinkBulkMps [] (outPackets speed before) = [] :=
    heldBack_eq_nil fun earlier hearlier => hends earlier (List.mem_append_left _ hearlier)
  have hlast : unreadFrom speed.mps exlinkBulkMps [] (dataPackets speed.mps transfer.bytes) = [] := by
    have hone := (@heldBack_append speed [] transfer rfl).mpr
      (hends transfer (List.mem_append_right _ List.mem_cons_self))
    rwa [heldBack, List.nil_append, outPackets, List.flatMap_singleton] at hone
  have hread := readsFrom_dataPackets speed.mps_pos transfer.nonempty
    (by rw [List.length_nil, Nat.zero_add]; exact hfits) hlast
  rw [List.nil_append] at hread
  have hadded : outCallbacks speed (before ++ [transfer]) =
      outCallbacks speed before ++ [transfer.bytes] := by
    rw [outCallbacks, hostReads, outPackets_append, (readsFrom_append _ _ _).1, hbefore,
      outPackets, outPackets, List.flatMap_singleton, hread]
    rfl
  have hsome : transfer.bytes.length ≠ 0 := fun hzero =>
    transfer.nonempty (List.length_eq_zero_iff.mp hzero)
  rw [hadded, dapSubmits, List.filter_append, ← dapSubmits,
    List.filter_cons_of_pos (by simpa using hsome), List.filter_nil]

end Transfers

/-- On both endpoints, transfer after transfer. -/
theorem outTransfers_iff (speed : UsbSpeed) (ctrl dap : List OutTransfer) :
    (PassesOn speed ctrl ∧ PassesOn speed dap ∧ SubmitsEach speed dap) ↔
      ∀ transfer ∈ ctrl ++ dap, EndsRead speed transfer := by
  rw [List.forall_mem_append, ← passesOn_iff_endsRead, ← passesOn_iff_endsRead]
  refine and_congr_right fun _ => and_iff_left_of_imp fun hpasses => ?_
  exact submitsEach_of_endsRead (passesOn_iff_endsRead.mp hpasses)

/-- At high speed a packet is a read. -/
theorem outTransfers_high (ctrl dap : List OutTransfer) :
    PassesOn .high ctrl ∧ PassesOn .high dap ∧ SubmitsEach .high dap :=
  (outTransfers_iff .high ctrl dap).mpr fun _ _ => id

/-- At full speed a transfer of one whole packet stays in the buffer. -/
theorem outTransfers_full_packet :
    ¬ ∀ (speed : UsbSpeed) (ctrl dap : List OutTransfer),
        PassesOn speed ctrl ∧ PassesOn speed dap ∧ SubmitsEach speed dap := by
  intro hclaim
  let packet : OutTransfer := ⟨List.replicate 64 0#8, by decide⟩
  have hflatten := (hclaim .full [] [packet]).2.1 [packet] [] rfl
  exact absurd (congrArg List.length hflatten) (by decide)

end ExLink.Usb
