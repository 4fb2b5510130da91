/-
# Bounds of the handlers

The handlers of a fixed size, and with the others every handler: in bounds exactly if it
fits. A handler returns the bytes of both sides in the halves of a word.
-/

import ExLink.Dap.BlockBounds
import ExLink.Dap.SequenceBounds

namespace ExLink.Dap

open ExLink.Automata ExLink.Automata.Prog

/-! ## The result of a handler -/

/-- The response bytes in a result. -/
def lowHalf (result : Word32) : ℕ := (result.setWidth 16).toNat

/-- The request bytes in a result. -/
def highHalf (result : Word32) : ℕ := ((result >>> 16).setWidth 16).toNat

theorem lowHalf_eq (result : Word32) : lowHalf result = result.toNat % 65536 := by
  rw [lowHalf, BitVec.toNat_setWidth]

theorem toNat_sizes {consumed stored : ℕ} (hconsumed : consumed < 65536)
    (hstored : stored < 65536) :
    (sizes (BitVec.ofNat 32 consumed) (BitVec.ofNat 32 stored)).toNat =
      consumed * 65536 + stored := by
  have hlow : stored < 2 ^ 16 := hstored
  have hsum := Nat.shiftLeft_add_eq_or_of_lt hlow consumed
  rw [sizes, BitVec.toNat_or, BitVec.toNat_shiftLeft, BitVec.toNat_ofNat, BitVec.toNat_ofNat,
    Nat.mod_eq_of_lt (show consumed < 2 ^ 32 by omega),
    Nat.mod_eq_of_lt (show stored < 2 ^ 32 by omega), Nat.shiftLeft_eq,
    Nat.mod_eq_of_lt (show consumed * 2 ^ 16 < 2 ^ 32 by omega), ← Nat.shiftLeft_eq, ← hsum,
    Nat.shiftLeft_eq]

theorem highHalf_sizes {consumed stored : ℕ} (hconsumed : consumed < 65536)
    (hstored : stored < 65536) :
    highHalf (sizes (BitVec.ofNat 32 consumed) (BitVec.ofNat 32 stored)) = consumed := by
  rw [highHalf, BitVec.toNat_setWidth, BitVec.toNat_ushiftRight, toNat_sizes hconsumed hstored,
    Nat.shiftRight_eq_div_pow]
  omega

theorem lowHalf_sizes {consumed stored : ℕ} (hconsumed : consumed < 65536)
    (hstored : stored < 65536) :
    lowHalf (sizes (BitVec.ofNat 32 consumed) (BitVec.ofNat 32 stored)) = stored := by
  rw [lowHalf_eq, toNat_sizes hconsumed hstored]
  omega

/-- The identifier adds a byte on both sides. -/
theorem sizes_succ {consumed stored : ℕ} (hconsumed : consumed + 1 < 65536)
    (hstored : stored + 1 < 65536) :
    (1#32 <<< 16) + 1#32 + sizes (BitVec.ofNat 32 consumed) (BitVec.ofNat 32 stored) =
      sizes (BitVec.ofNat 32 (consumed + 1)) (BitVec.ofNat 32 (stored + 1)) := by
  apply BitVec.eq_of_toNat_eq
  rw [BitVec.toNat_add, toNat_sizes (by omega) (by omega), toNat_sizes hconsumed hstored]
  have hhead : ((1#32 <<< 16) + 1#32).toNat = 65537 := by decide
  omega

/-- The two bytes that `DAP_Info` adds. -/
theorem sizes_info {stored : ℕ} (hstored : stored < 256) :
    (2#32 <<< 16) + 2#32 + (BitVec.ofNat 8 stored).setWidth 32 =
      sizes 2#32 (BitVec.ofNat 32 (2 + stored)) := by
  have htotal := toNat_sizes (show 2 < 65536 by decide) (show 2 + stored < 65536 by omega)
  apply BitVec.eq_of_toNat_eq
  rw [BitVec.toNat_add, htotal, BitVec.toNat_setWidth, BitVec.toNat_ofNat]
  have hhead : ((2#32 <<< 16) + 2#32).toNat = 131074 := by decide
  omega

/-- What follows depends on the bytes of both sides and on the link, as long as fewer than
`limit` request bytes were consumed. -/
def Continues (limit response : ℕ) (post : Word32 → DapData → Finset ℕ → Prop)
    (done : ℕ → ℕ → Link → Prop) : Prop :=
  ∀ consumed stored s, consumed < limit → response + stored ≤ dapPacketSize →
    (post (sizes (BitVec.ofNat 32 consumed) (BitVec.ofNat 32 stored)) s
        (Finset.range (response + stored)) ↔ done consumed stored s.link)

/-- The most request bytes that a handler may consume, so that its identifier still fits. -/
def handlerLimit : ℕ := 65535

theorem lt_handlerLimit (request : ℕ) {consumed : ℕ}
    (hconsumed : request + consumed ≤ dapPacketSize + 9) : consumed < handlerLimit := by
  rw [dapPacketSize] at hconsumed
  rw [handlerLimit]
  omega

theorem blockSize_lt (buf : Buf) (request : ℕ) : blockSize buf request < handlerLimit := by
  rw [blockSize, handlerLimit]
  split_ifs
  · decide
  · omega

/-! ## Handlers of a fixed size -/

section Handlers

variable {buf : Buf} {request response : ℕ} {s : DapData}
  {post : Word32 → DapData → Finset ℕ → Prop} {done : ℕ → ℕ → Link → Prop}

/-- The end of a handler that reached a fixed number of bytes. -/
theorem Continues.reaches (continues : Continues handlerLimit response post done)
    (loads consumed stores : ℕ) (s : DapData) (hconsumed : consumed < handlerLimit) :
    (request + loads ≤ dapPacketSize ∧ response + stores ≤ dapPacketSize ∧
        post (sizes (BitVec.ofNat 32 consumed) (BitVec.ofNat 32 stores)) s
          (Finset.range (response + stores))) ↔
      Reaches request loads response stores (done consumed stores s.link) :=
  and_congr_right fun _ => and_congr_right fun hroom => continues consumed stores s hconsumed hroom

theorem inBounds_dapHostStatus (continues : Continues handlerLimit response post done) :
    InBounds (dapHostStatus buf request response) post s (Finset.range response) ↔
      Reaches request (if buf request = 0x00#8 ∨ buf request = 0x01#8 then 2 else 1) response 1
        (done 2 1 s.link) := by
  rw [← continues.reaches _ 2 1 s (by decide)]
  simp only [dapHostStatus, wp_bind, wp_ite, wp_pure, inBounds_loadByte, inBounds_storeByte,
    ← Finset.range_add_one]
  split_ifs
  · exact and_iff_right_of_imp fun h => Nat.lt_of_succ_lt h.1
  · exact Iff.rfl

theorem inBounds_dapConnect (continues : Continues handlerLimit response post done) :
    InBounds (dapConnect buf request response) post s (Finset.range response) ↔
      Reaches request 1 response 1
        (done 1 1
          ⟨decide (buf request = 0x00#8 ∨ buf request = dapPortSwd) || s.link.swd,
            s.link.mask⟩) := by
  have hsetup : Quiet (ask .portSetup) := quiet_ask trivial fun _ => rfl
  have hport : (if buf request = 0x00#8 then dapPortSwd else buf request) = dapPortSwd ↔
      buf request = 0x00#8 ∨ buf request = dapPortSwd := by
    split_ifs with hdefault
    · exact iff_of_true rfl (.inl hdefault)
    · exact (or_iff_right hdefault).symm
  simp only [dapConnect, wp_bind, wp_ite, wp_modify, wp_pure, hsetup, inBounds_loadByte,
    inBounds_storeByte, ← Finset.range_add_one, hport]
  split_ifs with hswd
  · rw [decide_eq_true hswd, Bool.true_or]
    exact continues.reaches 1 1 1 { s with debugPort := dapPortSwd } (by decide)
  · rw [decide_eq_false hswd, Bool.false_or]
    exact continues.reaches 1 1 1 s (by decide)

theorem inBounds_dapDisconnect (continues : Continues handlerLimit response post done)
    (hrequest : request ≤ dapPacketSize) :
    InBounds (dapDisconnect response) post s (Finset.range response) ↔
      Reaches request 0 response 1 (done 0 1 ⟨false, s.link.mask⟩) := by
  have hoff : Quiet (ask .portOff) := quiet_ask trivial fun _ => rfl
  rw [dapDisconnect, show 1#32 = sizes 0#32 1#32 by decide]
  simp only [InBounds, wp_bind, wp_modify, wp_pure, hoff, inBounds_storeByte,
    ← Finset.range_add_one]
  refine (and_iff_right hrequest).symm.trans ?_
  exact continues.reaches 0 0 1 { s with debugPort := 0x00#8 } (by decide)

theorem inBounds_dapTransferConfigure (continues : Continues handlerLimit response post done) :
    InBounds (dapTransferConfigure buf request response) post s (Finset.range response) ↔
      Reaches request 5 response 1 (done 5 1 s.link) := by
  simp only [dapTransferConfigure, wp_bind, wp_modify, wp_pure, inBounds_loadByte,
    inBounds_loadHalf, inBounds_storeByte, ← Finset.range_add_one]
  refine Iff.trans ?_ (continues.reaches 5 5 1
    { s with
      idleCycles := buf request
      retryCount := Word16.ofBytes (buf (request + 1)) (buf (request + 2))
      matchRetry := Word16.ofBytes (buf (request + 3)) (buf (request + 4)) }
    (by decide))
  constructor
  · rintro ⟨-, -, hrest⟩
    exact hrest
  · rintro ⟨hloads, hrest⟩
    exact ⟨by omega, by omega, hloads, hrest⟩

theorem inBounds_dapTransfer (continues : Continues handlerLimit response post done) :
    InBounds (dapTransfer buf request response) post s (Finset.range response) ↔
      if s.link.swd then
        SwdTransferFits buf (fun consumed stored mask => done consumed stored ⟨true, mask⟩) request
          response s.link.mask
      else
        DummyTransferFits buf (fun consumed stored => done consumed stored s.link) request
          response := by
  have hlimit {consumed : ℕ} (hconsumed : consumed ≤ dapPacketSize + 4) :
      consumed < handlerLimit := lt_handlerLimit 0 (by omega)
  simp only [dapTransfer, wp_bind, wp_get, wp_ite]
  by_cases hswd : s.debugPort = dapPortSwd
  · have hlink : s.link.swd = true := decide_eq_true hswd
    rw [if_pos hswd, if_pos hlink]
    apply inBounds_dapSwdTransfer
    intro consumed stored mask hconsumed hroom
    have hdone := continues consumed stored ({ s with transferAbort := 0#8 }.masked mask)
      (hlimit hconsumed) hroom
    have hmasked : ({ s with transferAbort := 0#8 }.masked mask).link = ⟨true, mask⟩ :=
      congrArg (Link.mk · mask) hlink
    rwa [hmasked] at hdone
  · have hlink : s.link.swd = false := decide_eq_false hswd
    rw [if_neg hswd, hlink, if_neg (by decide)]
    apply inBounds_dapDummyTransfer
    intro consumed hconsumed hroom
    exact continues consumed 2 s (hlimit hconsumed) hroom

theorem quiet_swdTransferOnce (request : Word32) (data : Option Word32) :
    Quiet (swdTransferOnce request data) := by
  intro post s stored
  have : Nonempty { answer : Swd.SwdAnswer // answer.ack.toNat < 8 } := ⟨faulting⟩
  rw [inBounds_swdTransferOnce, forall_const]

theorem inBounds_dapWriteAbort (continues : Continues handlerLimit response post done)
    (hrequest : request ≤ dapPacketSize) :
    InBounds (dapWriteAbort buf request response) post s (Finset.range response) ↔
      Reaches request (if s.link.swd then 5 else 0) response 1 (done 5 1 s.link) := by
  rw [← continues.reaches _ 5 1 s (by decide)]
  simp only [dapWriteAbort, wp_bind, wp_get, wp_ite, wp_pure, quiet_swdTransferOnce _ _,
    inBounds_loadWord, inBounds_storeByte, ← Finset.range_add_one]
  by_cases hswd : s.debugPort = dapPortSwd
  · have hlink : s.link.swd = true := decide_eq_true hswd
    rw [if_pos hswd, if_pos hlink]
    exact Iff.rfl
  · have hlink : s.link.swd = false := decide_eq_false hswd
    rw [if_neg hswd, hlink, if_neg (by decide)]
    exact (and_iff_right hrequest).symm

theorem inBounds_dapDelay (continues : Continues handlerLimit response post done) :
    InBounds (dapDelay buf request response) post s (Finset.range response) ↔
      Reaches request 2 response 1 (done 2 1 s.link) := by
  have hdelay : ∀ count, Quiet (ask (.delaySlow count)) := fun _ => quiet_ask trivial fun _ => rfl
  simp only [dapDelay, wp_bind, wp_pure, hdelay, inBounds_loadHalf, inBounds_storeByte,
    ← Finset.range_add_one]
  exact continues.reaches 2 2 1 s (by decide)

theorem inBounds_dapResetTarget (continues : Continues handlerLimit response post done)
    (hrequest : request ≤ dapPacketSize) :
    InBounds (dapResetTarget response) post s (Finset.range response) ↔
      Reaches request 0 response 2 (done 0 2 s.link) := by
  have hdelay : ∀ count, Quiet (ask (.delayMs count)) := fun _ => quiet_ask trivial fun _ => rfl
  rw [dapResetTarget, show 2#32 = sizes 0#32 2#32 by decide]
  simp only [InBounds, wp_bind, wp_pure, hdelay, quiet_pinNResetOut _, inBounds_storeByte,
    Finset.insert_comm response, ← Finset.range_add_one]
  refine Iff.trans ?_ (continues.reaches 0 0 2 s (by decide))
  constructor
  · rintro ⟨hroom, -, hpost⟩
    exact ⟨hrequest, hroom, hpost⟩
  · rintro ⟨-, hroom, hpost⟩
    exact ⟨hroom, Nat.lt_of_succ_lt hroom, hpost⟩

theorem link_setClockDelay (clock : Word32) (s : DapData) : (setClockDelay clock s).link = s.link := by
  rw [setClockDelay]
  split_ifs <;> rfl

theorem inBounds_dapSwjClock (continues : Continues handlerLimit response post done) :
    InBounds (dapSwjClock buf request response) post s (Finset.range response) ↔
      Reaches request 4 response 1 (done 4 1 s.link) := by
  have hclock : ∀ hz, Quiet (ask (.setClock hz)) := fun _ => quiet_ask trivial fun _ => rfl
  simp only [dapSwjClock, wp_bind, wp_ite, wp_modify, wp_pure, hclock, inBounds_loadWord,
    inBounds_storeByte, ← Finset.range_add_one]
  split_ifs
  · exact continues.reaches 4 4 1 s (by decide)
  · rw [← link_setClockDelay]
    exact continues.reaches 4 4 1 (setClockDelay _ s) (by decide)

theorem inBounds_dapSwjSequence (continues : Continues handlerLimit response post done) :
    InBounds (dapSwjSequence buf request response) post s (Finset.range response) ↔
      Reaches request (1 + bytesFor (countOr (buf request).toNat 256)) response 1
        (done (1 + bytesFor (countOr (buf request).toNat 256)) 1 s.link) := by
  set count := countOr (buf request).toNat 256 with hcount
  have hlimit : 1 + bytesFor count < handlerLimit := by
    have hbyte := (buf request).isLt
    rw [hcount, countOr, bytesFor, handlerLimit]
    split_ifs <;> omega
  have hloads : request + 1 + bytesFor count = request + (1 + bytesFor count) := Nat.add_assoc _ _ _
  simp only [dapSwjSequence, wp_bind, wp_pure, inBounds_loadByte, inBounds_storeByte, ← hcount]
  refine Iff.trans ?_ (continues.reaches _ _ 1 s hlimit)
  rw [← hloads, Finset.range_add_one, Nat.add_comm 1]
  constructor
  · rintro ⟨hrequest, hsequence⟩
    exact (inBounds_swjSequence hrequest).mp hsequence
  · rintro ⟨hbytes, hrest⟩
    have hrequest : request < dapPacketSize := by omega
    exact ⟨hrequest, (inBounds_swjSequence hrequest).mpr ⟨hbytes, hrest⟩⟩

theorem inBounds_dapSwdConfigure (continues : Continues handlerLimit response post done) :
    InBounds (dapSwdConfigure buf request response) post s (Finset.range response) ↔
      Reaches request 1 response 1 (done 1 1 s.link) := by
  simp only [dapSwdConfigure, wp_bind, wp_modify, wp_pure, inBounds_loadByte, inBounds_storeByte,
    ← Finset.range_add_one]
  exact continues.reaches 1 1 1
    { s with
      turnaround := (buf request &&& 0x03#8) + 1#8
      dataPhase := if buf request &&& 0x04#8 ≠ 0#8 then 1#8 else 0#8 }
    (by decide)

theorem inBounds_dapJtagConfigure (continues : Continues handlerLimit response post done) :
    InBounds (dapJtagConfigure buf request response) post s (Finset.range response) ↔
      Reaches request 1 response 1 (done ((buf request).toNat + 1) 1 s.link) := by
  have hsize : (buf request).setWidth 32 + 1#32 = BitVec.ofNat 32 ((buf request).toNat + 1) := by
    rw [BitVec.ofNat_add, BitVec.ofNat_toNat]
  have hlimit : (buf request).toNat + 1 < handlerLimit :=
    lt_of_le_of_lt (buf request).isLt (by decide)
  simp only [dapJtagConfigure, wp_bind, wp_pure, inBounds_loadByte, inBounds_storeByte, hsize,
    ← Finset.range_add_one]
  exact continues.reaches 1 _ 1 s hlimit

theorem inBounds_dapJtagIdCode (continues : Continues handlerLimit response post done)
    (hrequest : request ≤ dapPacketSize) :
    InBounds (dapJtagIdCode response) post s (Finset.range response) ↔
      Reaches request 0 response 1 (done 1 1 s.link) := by
  simp only [dapJtagIdCode, wp_bind, wp_pure, inBounds_storeByte, ← Finset.range_add_one]
  refine (and_iff_right hrequest).symm.trans ?_
  exact continues.reaches 0 1 1 s (by decide)

/-- Every handler is in bounds exactly if it fits. -/
theorem inBounds_handler (continues : Continues handlerLimit response post done)
    (hrequest : request ≤ dapPacketSize) {polls id : ℕ} {run : DapM Word32}
    (hrun : handler buf polls id request response = some run) :
    InBounds run post s (Finset.range response) ↔
      HandlerFits buf done id request response s.link := by
  unfold handler at hrun
  split at hrun
  all_goals cases hrun
  · exact inBounds_dapHostStatus continues
  · exact inBounds_dapConnect continues
  · exact inBounds_dapDisconnect continues hrequest
  · exact inBounds_dapTransferConfigure continues
  · exact inBounds_dapTransfer continues
  · change _ ↔ TransferBlockFits buf (fun consumed stored => done consumed stored s.link) _ _ _
    apply inBounds_dapTransferBlock
    intro stored s' hlink hroom
    rw [← hlink]
    exact continues _ stored s' (blockSize_lt buf request) hroom
  · exact inBounds_dapWriteAbort continues hrequest
  · exact inBounds_dapDelay continues
  · exact inBounds_dapResetTarget continues hrequest
  · exact inBounds_dapSwjPins (continues 6 1 s (by decide))
  · exact inBounds_dapSwjClock continues
  · exact inBounds_dapSwjSequence continues
  · exact inBounds_dapSwdConfigure continues
  · apply inBounds_dapJtagSequence
    intro consumed hconsumed hroom
    exact continues consumed 1 s (lt_handlerLimit request hconsumed) hroom
  · exact inBounds_dapJtagConfigure continues
  · exact inBounds_dapJtagIdCode continues hrequest
  · apply inBounds_dapSwdSequence
    intro consumed stored hconsumed hroom
    have hlimit := lt_handlerLimit request (Nat.le_add_right_of_le hconsumed)
    exact continues consumed stored s hlimit hroom

end Handlers

end ExLink.Dap
