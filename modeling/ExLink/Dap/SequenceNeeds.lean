/-
# What a packet determines of sequences

A sequence that is driven needs all of its data, one that is captured only its clocks.
Without JTAG the data of a sequence is skipped, and matters as far as another command
stands behind it.
-/

import ExLink.Dap.BlockNeeds

namespace ExLink.Dap

open ExLink.Automata ExLink.Automata.Prog

section Sequences

variable {data : Buf} {len : ℕ} {s : DapData}

/-! ## Bytes and units -/

/-- Two slots can differ in the bytes behind the packet. -/
theorem bytesAt_filled_ne {offset count : ℕ} (hcount : count ≠ 0) (hoffset : ¬ offset + count ≤ len)
    {first second : Byte} (hne : first ≠ second) :
    bytesAt (filled data len first) offset count ≠ bytesAt (filled data len second) offset count := by
  obtain ⟨count, rfl⟩ := Nat.exists_eq_succ_of_ne_zero hcount
  intro h
  simp only [bytesAt, Buf.prefixBytes_succ] at h
  have hlast := List.singleton_injective (List.append_inj' h rfl).2
  rw [filled_of_le first (by omega), filled_of_le second (by omega)] at hlast
  exact hne hlast

theorem getLsbD_unitWord {bytes : List Byte} {index bit : ℕ} (hindex : index < bytes.length)
    (hword : index < 4) (hbit : bit < 8) :
    (unitWord bytes).getLsbD (8 * index + bit) = bytes[index].getLsbD bit := by
  induction bytes generalizing index with
  | nil => exact absurd hindex (Nat.not_lt_zero _)
  | cons byte rest ih =>
      rw [unitWord, BitVec.getLsbD_or, BitVec.getLsbD_setWidth, BitVec.getLsbD_shiftLeft]
      cases index with
      | zero => simp [hbit, show bit < 32 by omega]
      | succ index =>
          have hlast := ih (Nat.lt_of_succ_lt_succ hindex) (Nat.lt_of_succ_lt hword)
          rw [BitVec.getLsbD_of_ge byte _ (by omega),
            show 8 * (index + 1) + bit - 8 = 8 * index + bit by omega, hlast]
          simp [show 8 * (index + 1) + bit < 32 by omega, show 8 ≤ 8 * (index + 1) + bit by omega]

/-- A unit is as good as its bytes. -/
theorem unitWord_injective {first second : List Byte} (hlength : first.length = second.length)
    (hword : first.length ≤ 4) (h : unitWord first = unitWord second) : first = second := by
  apply List.ext_getElem hlength
  intro index hfirst hsecond
  apply BitVec.eq_of_getLsbD_eq
  intro bit hbit
  rw [← getLsbD_unitWord hfirst (by omega) hbit, ← getLsbD_unitWord hsecond (by omega) hbit, h]

/-! ## Driven sequences -/

variable {after : Buf → DapM Word32}

theorem determined_quiet {α : Type} {program : DapM α} (hquiet : Quiet program)
    {f : Buf → α → DapM Word32} {within : DapData → Prop}
    (hf : ∀ value s, Determined data len (fun b => f b value) s ↔ within s) :
    Determined data len (fun b => program >>= f b) s ↔ within s := by
  refine (determined_bind_inBounds ((hquiet (fun _ _ => True) s ∅).mpr trivial)).trans ?_
  simp only [hf]
  exact hquiet (fun s _ => within s) s ∅

/-- A number of clocks that is driven from the slot at once. -/
theorem determined_swdWriteBits {offset nbits : ℕ} (hsome : nbits ≠ 0) (hword : nbits ≤ 32) :
    Determined data len
        (fun b =>
          loadBytes b offset (bytesFor nbits) >>= fun bytes =>
            ask (.swdWriteBits (unitWord bytes) nbits) >>= fun _ => after b)
        s ↔
      offset + bytesFor nbits ≤ len ∧ Determined data len after s := by
  by_cases hle : offset + bytesFor nbits ≤ len
  · refine (determined_loadBytes hle).trans (Iff.trans ?_ (and_iff_right hle).symm)
    exact determined_ask.trans (forall_const Unit)
  · refine iff_of_false ?_ fun h => hle h.1
    refine not_determined_of_opens 0#8 0xFF#8 (.fetch (fetches_loadBytes _ _) starts_ask.bind.opens)
      (.fetch (fetches_loadBytes _ _) starts_ask.bind.opens) rfl rfl fun heq => ?_
    refine bytesAt_filled_ne (by rw [bytesFor]; omega) hle (by decide)
      (unitWord_injective ?_ ?_ (DapOp.swdWriteBits.inj heq).1)
    · simp only [bytesAt, Buf.length_prefixBytes]
    · rw [bytesAt, Buf.length_prefixBytes, bytesFor]
      omega

theorem determined_swdSequenceOut {units : List ℕ} {offset : ℕ}
    (hunits : ∀ nbits ∈ units, nbits ≠ 0 ∧ nbits ≤ 32) (hoffset : units = [] → offset ≤ len) :
    Determined data len (fun b => swdSequenceOut b offset units >>= fun _ => after b) s ↔
      offset + (units.map bytesFor).sum ≤ len ∧ Determined data len after s := by
  induction units generalizing offset with
  | nil => exact (and_iff_right (hoffset rfl)).symm
  | cons nbits rest ih =>
      have hsum : offset + ((nbits :: rest).map bytesFor).sum =
          offset + bytesFor nbits + (rest.map bytesFor).sum := by
        rw [List.map_cons, List.sum_cons, Nat.add_assoc]
      obtain ⟨hsome, hword⟩ := hunits nbits (.head _)
      simp only [swdSequenceOut, bind_assoc]
      refine (determined_swdWriteBits hsome hword).trans ?_
      rw [hsum]
      constructor
      · rintro ⟨hle, hrest⟩
        exact (ih (fun nbits hmem => hunits nbits (.tail _ hmem)) fun _ => hle).mp hrest
      · rintro ⟨hle, hafter⟩
        have hfirst : offset + bytesFor nbits ≤ len := by omega
        exact ⟨hfirst, (ih (fun nbits hmem => hunits nbits (.tail _ hmem)) fun _ => hfirst).mpr
          ⟨hle, hafter⟩⟩

theorem determined_storeBytes {offset : ℕ} {bytes : List Byte} :
    Determined data len (fun b => storeBytes offset bytes >>= fun _ => after b) s ↔
      Determined data len after s := by
  induction bytes generalizing offset with
  | nil => exact Iff.rfl
  | cons byte rest ih =>
      simp only [storeBytes, bind_assoc]
      exact determined_storeByte.trans ih

/-- A sequence that is captured needs nothing. -/
theorem determined_swdSequenceIn {units : List ℕ} {offset : ℕ} :
    Determined data len (fun b => swdSequenceIn offset units >>= fun _ => after b) s ↔
      Determined data len after s := by
  induction units generalizing offset with
  | nil => exact Iff.rfl
  | cons nbits rest ih =>
      simp only [swdSequenceIn, bind_assoc]
      refine determined_ask.trans ?_
      exact (forall_congr' fun got => determined_storeBytes.trans ih).trans
        (forall_const (BitVec nbits))

/-! ## DAP_SWD_Sequence -/

theorem sequenceClocks_pos (info : Byte) : 0 < sequenceClocks info := by
  rw [sequenceClocks, countOr]
  split_ifs with hzero
  · decide
  · exact Nat.pos_of_ne_zero hzero

theorem mem_sequenceUnits {clocks nbits : ℕ} (h : nbits ∈ sequenceUnits clocks) :
    nbits ≠ 0 ∧ nbits ≤ 32 := by
  rw [sequenceUnits, List.mem_append] at h
  rcases h with hwhole | hrest
  · obtain rfl := List.eq_of_mem_replicate hwhole
    decide
  · split_ifs at hrest with hzero
    · exact absurd hrest List.not_mem_nil
    · obtain rfl := List.mem_singleton.mp hrest
      exact ⟨hzero, by omega⟩

theorem sequenceUnits_ne_nil {clocks : ℕ} (hclocks : 0 < clocks) : sequenceUnits clocks ≠ [] := by
  intro hnil
  have hsum := bytesFor_sequenceUnits clocks
  rw [hnil, List.map_nil, List.sum_nil, bytesFor] at hsum
  omega

variable {request response : ℕ}

/-- A sequence that captures 64 clocks begins with a unit of 32. -/
theorem opens_swdSequences_capture {b : Buf} {count requestCount responseCount : ℕ}
    {f : ℕ × ℕ → DapM Word32} (hinfo : b (request + requestCount) = 0x80#8) :
    OpensWith (.swdReadBits 32)
      (swdSequences b request response (count + 1) requestCount responseCount >>= f) s := by
  simp only [swdSequences, bind_assoc]
  refine .fetch (fetches_loadByte _) ?_
  rw [hinfo, if_pos (by decide)]
  refine OpensWith.unseen rfl ⟨()⟩ fun _ => ?_
  exact starts_ask.bind.bind.opens

/-- A sequence that drives three clocks. -/
theorem opens_swdSequences_drive {b : Buf} {count requestCount responseCount : ℕ}
    {f : ℕ × ℕ → DapM Word32} (hinfo : b (request + requestCount) = 0x03#8) :
    ∃ val,
      OpensWith (.swdWriteBits val 3)
        (swdSequences b request response (count + 1) requestCount responseCount >>= f) s := by
  refine ⟨unitWord (bytesAt b (request + requestCount + 1) (bytesFor 3)), ?_⟩
  simp only [swdSequences, bind_assoc]
  refine .fetch (fetches_loadByte _) ?_
  rw [hinfo, if_neg (by decide), show sequenceUnits (sequenceClocks 0x03#8) = [3] by decide]
  simp only [swdSequenceOut, bind_assoc]
  refine OpensWith.unseen rfl ⟨()⟩ fun _ => ?_
  exact .fetch (fetches_loadBytes _ _) starts_ask.bind.opens

/-- The loop of `DAP_SWD_Sequence`, from a sequence to the next. -/
theorem determined_swdSequences {after : Buf → ℕ × ℕ → DapM Word32} {within : ℕ → ℕ → Prop}
    (hafter : ∀ requestCount responseCount,
      Determined data len (fun b => after b (requestCount, responseCount)) s ↔
        within requestCount responseCount) {count requestCount responseCount : ℕ} :
    Determined data len
        (fun b =>
          swdSequences b request response count requestCount responseCount >>= after b)
        s ↔
      SequencesWithin data len within request count requestCount responseCount := by
  induction count generalizing requestCount responseCount with
  | zero => exact hafter requestCount responseCount
  | succ count ih =>
      rw [SequencesWithin]
      by_cases hle : request + requestCount < len
      · refine Iff.trans ?_ (and_iff_right hle).symm
        simp only [swdSequences, bind_assoc]
        refine (determined_loadByte hle).trans ?_
        have hturn : ∀ (program : Buf → DapM (ℕ × ℕ)),
            Determined data len
                (fun b =>
                  (if count = 0 then ask (.pinDirection .swdioTms true) >>= fun _ => program b
                    else program b) >>= after b)
                s ↔ Determined data len (fun b => program b >>= after b) s := by
          intro program
          split_ifs
          · simp only [bind_assoc]
            exact determined_ask.trans (forall_const Unit)
          · exact Iff.rfl
        have hclocks := sequenceClocks_pos (data (request + requestCount))
        by_cases hinput : CapturesInput (data (request + requestCount))
        · simp only [if_pos hinput, bind_assoc]
          refine determined_ask.trans ((forall_const Unit).trans ?_)
          exact determined_swdSequenceIn.trans ((hturn _).trans ih)
        · simp only [if_neg hinput, bind_assoc]
          refine determined_ask.trans ((forall_const Unit).trans ?_)
          refine (determined_swdSequenceOut (fun _ => mem_sequenceUnits)
            fun hnil => absurd hnil (sequenceUnits_ne_nil hclocks)).trans ?_
          rw [bytesFor_sequenceUnits]
          exact and_congr_right fun _ => (hturn _).trans ih
      · refine iff_of_false ?_ fun h => hle h.1
        have hstale (fill : Byte) : filled data len fill (request + requestCount) = fill :=
          filled_of_le fill (Nat.le_of_not_lt hle)
        have hcapture := @opens_swdSequences_capture s request response (filled data len 0x80#8)
          count requestCount responseCount (after (filled data len 0x80#8)) (hstale _)
        obtain ⟨val, hdrive⟩ := @opens_swdSequences_drive s request response
          (filled data len 0x03#8) count requestCount responseCount
          (after (filled data len 0x03#8)) (hstale _)
        exact not_determined_of_opens _ _ hcapture hdrive rfl rfl DapOp.noConfusion

variable {rest : Buf → Word32 → DapM Word32} {last : Bool} {done : Buf → ℕ → Word32 → Link → Prop}

theorem determined_dapSwdSequence (follows : Follows handlerLimit rest last request done) :
    Determined data len (fun b => dapSwdSequence b request response >>= rest b) s ↔
      request < len ∧
        SequencesWithin data len
          (fun consumed stored =>
            done data len (sizes (BitVec.ofNat 32 consumed) (BitVec.ofNat 32 stored)) s.link)
          request (data request).toNat 1 1 := by
  simp only [dapSwdSequence, bind_assoc, pure_bind]
  refine determined_storeByte.trans ?_
  by_cases hle : request < len
  · refine (determined_loadByte hle).trans (Iff.trans ?_ (and_iff_right hle).symm)
    exact determined_swdSequences fun _ _ => follows.same _ _ _ _
  · refine iff_of_false ?_ fun h => hle h.1
    have hstale (fill : Byte) {offset : ℕ} (hoffset : request ≤ offset) :
        filled data len fill offset = fill := filled_of_le fill (by omega)
    have hcapture := @opens_swdSequences_capture s request response (filled data len 0x80#8) 127 1 1
      (fun counts => rest (filled data len 0x80#8)
        (sizes (BitVec.ofNat 32 counts.1) (BitVec.ofNat 32 counts.2)))
      (hstale _ (Nat.le_succ _))
    obtain ⟨val, hdrive⟩ := @opens_swdSequences_drive s request response (filled data len 0x03#8) 2 1 1
      (fun counts => rest (filled data len 0x03#8)
        (sizes (BitVec.ofNat 32 counts.1) (BitVec.ofNat 32 counts.2)))
      (hstale _ (Nat.le_succ _))
    refine @not_determined_of_opens s data len _ 0x80#8 0x03#8 (.swdReadBits 32)
      (.swdWriteBits val 3) (.fetch (fetches_loadByte request) ?_)
      (.fetch (fetches_loadByte request) ?_) rfl rfl DapOp.noConfusion
    · rw [hstale _ (le_refl _)]
      exact hcapture
    · rw [hstale _ (le_refl _)]
      exact hdrive

/-! ## DAP_SWJ_Sequence -/

/-- Whole bytes. -/
theorem determined_swdWriteBytes {offset count : ℕ} :
    Determined data len
        (fun b =>
          (if count ≠ 0 then do
              let bytes ← loadBytes b offset count
              ask (.swdWriteBytes bytes)
            else pure ()) >>= fun _ => after b)
        s ↔
      (count ≠ 0 → offset + count ≤ len) ∧ Determined data len after s := by
  by_cases hcount : count = 0
  · simp only [if_neg (not_not_intro hcount), pure_bind]
    exact (and_iff_right fun h => absurd hcount h).symm
  · simp only [if_pos hcount, bind_assoc]
    by_cases hle : offset + count ≤ len
    · refine (determined_loadBytes hle).trans (Iff.trans ?_ (and_iff_right fun _ => hle).symm)
      exact determined_ask.trans (forall_const Unit)
    · refine iff_of_false ?_ fun h => hle (h.1 hcount)
      refine not_determined_of_opens 0#8 0xFF#8
        (.fetch (fetches_loadBytes _ _) starts_ask.bind.opens)
        (.fetch (fetches_loadBytes _ _) starts_ask.bind.opens) rfl rfl fun heq => ?_
      exact bytesAt_filled_ne hcount hle (by decide) (DapOp.swdWriteBytes.inj heq)

/-- The bits that are left. -/
theorem determined_swdWriteRest {offset count : ℕ} :
    Determined data len
        (fun b =>
          (if count ≠ 0 then do
              let last ← loadByte b offset
              ask (.swdWriteBits (last.setWidth 32) count)
            else pure ()) >>= fun _ => after b)
        s ↔
      (count ≠ 0 → offset < len) ∧ Determined data len after s := by
  by_cases hcount : count = 0
  · simp only [if_neg (not_not_intro hcount), pure_bind]
    exact (and_iff_right fun h => absurd hcount h).symm
  · simp only [if_pos hcount, bind_assoc]
    by_cases hle : offset < len
    · refine (determined_loadByte hle).trans (Iff.trans ?_ (and_iff_right fun _ => hle).symm)
      exact determined_ask.trans (forall_const Unit)
    · refine iff_of_false ?_ fun h => hle (h.1 hcount)
      have hstale (fill : Byte) : filled data len fill offset = fill :=
        filled_of_le fill (Nat.le_of_not_lt hle)
      refine not_determined_of_opens 0#8 0xFF#8
        (.fetch (fetches_loadByte _) starts_ask.bind.opens)
        (.fetch (fetches_loadByte _) starts_ask.bind.opens) rfl rfl fun heq => ?_
      have hbyte := (DapOp.swdWriteBits.inj heq).1
      rw [hstale, hstale] at hbyte
      exact absurd hbyte (by decide)

theorem swjSequence_eq (b : Buf) (count offset : ℕ) (f : DapM Word32) :
    (swjSequence b count offset >>= fun _ => f) =
      (if count / 8 ≠ 0 then do
          let bytes ← loadBytes b offset (count / 8)
          ask (.swdWriteBytes bytes)
        else pure ()) >>= fun _ =>
          (if count % 8 ≠ 0 then do
              let last ← loadByte b (offset + count / 8)
              ask (.swdWriteBits (last.setWidth 32) (count % 8))
            else pure ()) >>= fun _ => f := by
  rw [swjSequence]
  by_cases hwhole : count / 8 = 0
  · simp only [if_neg (not_not_intro hwhole), pure_bind]
  · simp only [if_pos hwhole, bind_assoc]

/-- Whole bytes, then the bits that are left. -/
theorem determined_swjSequence {count offset : ℕ} (hcount : count ≠ 0) :
    Determined data len (fun b => swjSequence b count offset >>= fun _ => after b) s ↔
      offset + bytesFor count ≤ len ∧ Determined data len after s := by
  have hbytes : ((count / 8 ≠ 0 → offset + count / 8 ≤ len) ∧
      (count % 8 ≠ 0 → offset + count / 8 < len)) ↔ offset + bytesFor count ≤ len := by
    rw [bytesFor]
    constructor
    · rintro ⟨hwhole, hrest⟩
      by_cases hbit : count % 8 = 0
      · have hle := hwhole (by omega)
        omega
      · have hlt := hrest hbit
        omega
    · intro hle
      exact ⟨fun _ => by omega, fun _ => by omega⟩
  rw [← hbytes, and_assoc]
  simp only [swjSequence_eq]
  exact determined_swdWriteBytes.trans (and_congr_right fun _ => determined_swdWriteRest)

variable {request response : ℕ} {rest : Buf → Word32 → DapM Word32} {last : Bool}
  {done : Buf → ℕ → Word32 → Link → Prop}

theorem countOr_ne_zero {count default : ℕ} (hdefault : default ≠ 0) : countOr count default ≠ 0 := by
  rw [countOr]
  split_ifs with hzero
  · exact hdefault
  · exact hzero

theorem determined_dapSwjSequence (follows : Follows handlerLimit rest last request done) :
    Determined data len (fun b => dapSwjSequence b request response >>= rest b) s ↔
      request < len ∧ request + 1 + bytesFor (countOr (data request).toNat 256) ≤ len ∧
        done data len
          (sizes (BitVec.ofNat 32 (bytesFor (countOr (data request).toNat 256) + 1)) 1#32)
          s.link := by
  simp only [dapSwjSequence, bind_assoc, pure_bind]
  by_cases hle : request < len
  · refine (determined_loadByte hle).trans (Iff.trans ?_ (and_iff_right hle).symm)
    refine (determined_swjSequence (countOr_ne_zero (by decide))).trans ?_
    exact and_congr_right fun _ => determined_storeByte.trans (follows.same _ _ _ _)
  · refine iff_of_false ?_ fun h => hle h.1
    have hstale (fill : Byte) : filled data len fill request = fill :=
      filled_of_le fill (Nat.le_of_not_lt hle)
    refine @not_determined_of_opens s data len _ 0x00#8 0x03#8
      (.swdWriteBytes (bytesAt (filled data len 0x00#8) (request + 1) 32))
      (.swdWriteBits ((filled data len 0x03#8 (request + 1)).setWidth 32) 3)
      (.fetch (fetches_loadByte request) ?_) (.fetch (fetches_loadByte request) ?_) rfl rfl DapOp.noConfusion
    · rw [hstale, show countOr (0x00#8).toNat 256 = 256 by decide, swjSequence_eq,
        if_pos (by decide)]
      simp only [bind_assoc]
      exact .fetch (fetches_loadBytes _ _) starts_ask.bind.opens
    · rw [hstale, show countOr (0x03#8).toNat 256 = 3 by decide, swjSequence_eq,
        if_neg (by decide), pure_bind, if_pos (by decide)]
      simp only [bind_assoc]
      exact .fetch (fetches_loadByte _) starts_ask.bind.opens

/-! ## DAP_JTAG_Sequence -/

theorem jtagSequences_eq (b : Buf) (count requestCount : ℕ) :
    jtagSequences b request count requestCount =
      walkBytes b (fun info => bytesFor (sequenceClocks info) + 1) count (request + requestCount) >>=
        fun ended => pure (ended - request) := by
  induction count generalizing requestCount with
  | zero => simp only [jtagSequences, walkBytes, pure_bind, Nat.add_sub_cancel_left]
  | succ count ih => simp only [jtagSequences, walkBytes, ih, bind_assoc, Nat.add_assoc]

theorem determined_dapJtagSequence (follows : Follows handlerLimit rest last request done) :
    Determined data len (fun b => dapJtagSequence b request response >>= rest b) s ↔
      (last = false →
        request < len ∧
          JtagSequencesWithin data len
            (fun consumed => done data len (sizes (BitVec.ofNat 32 consumed) 1#32) s.link) request
            (data request).toNat) := by
  simp only [dapJtagSequence, jtagSequences_eq, bind_assoc, pure_bind]
  refine determined_storeByte.trans ?_
  cases hlast : last with
  | true =>
      refine iff_of_true ?_ fun h => absurd h.symm Bool.false_ne_true
      obtain ⟨size, hends⟩ := follows.ends hlast
      refine (determined_fetch fun b => fetches_loadByte request).mpr ?_
      refine (determined_fetch fun b => fetches_walkBytes _ (request + 1)).mpr ?_
      refine @determined_of_concludes [] (size 1#16) s data len _ fun b => ?_
      have hrest (consumed : Word32) := hends b (sizes consumed 1#32) s
      simp only [setWidth_sizes] at hrest
      exact hrest _
  | false =>
      refine Iff.trans ?_ (forall_prop_of_true rfl).symm
      refine @determined_countedWalk data len 9 _ s
        (fun b ended => rest b (sizes (BitVec.ofNat 32 (ended - request)) 1#32))
        (fun data len ended =>
          done data len (sizes (BitVec.ofNat 32 (ended - request)) 1#32) s.link)
        request (fun _ => Nat.succ_pos _)
        (fun info => Nat.succ_le_succ (bytesFor_sequenceClocks info)) ?_ ?_
      · intro data len ended _ _
        exact follows.same _ _ _ _
      · intro data len ended hlow hhigh h
        have hlt := follows.reaches hlast data len (ended - request) 1 _
          (by rw [handlerLimit]; omega) (by decide) h
        omega

end Sequences

end ExLink.Dap
