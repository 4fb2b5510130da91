/-
# Bounds of DAP_TransferBlock

A block is in bounds, whatever the target answers, exactly if it fits: a read for any
number of words that can come back, a write with all of its data. What the command says
of its request goes by the header only, and modulo 2^16.
-/

import ExLink.Dap.TransferBounds

namespace ExLink.Dap

open ExLink.Automata ExLink.Automata.Prog
open ExLink.Swd (IsRead dapTransferOk)

/-! ## The loops -/

section Block

variable {buf : Buf} {s : DapData} {base : Finset ℕ} {lo : ℕ} {request : Word32}
  {post : BlockVars → DapData → Finset ℕ → Prop}

/-- A block of one word more: what holds before it, room for it, and the rest. -/
theorem wordsFit_succ {done : ℕ → Prop} {position count : ℕ} :
    ((count + 1 ≠ 0 → position + 4 * (count + 1) ≤ dapPacketSize) ∧
        ∀ words ≤ count + 1, done (position + 4 * words)) ↔
      done position ∧ position + 4 ≤ dapPacketSize ∧
        (count ≠ 0 → position + 4 + 4 * count ≤ dapPacketSize) ∧
          ∀ words ≤ count, done (position + 4 + 4 * words) := by
  have hword : ∀ words, position + 4 + 4 * words = position + 4 * (words + 1) := by
    intro words
    omega
  simp only [hword]
  constructor
  · rintro ⟨hlast, hall⟩
    have hend := hlast (Nat.succ_ne_zero count)
    refine ⟨hall 0 (Nat.zero_le _), by omega, fun _ => hend, fun words hwords => ?_⟩
    exact hall (words + 1) (Nat.succ_le_succ hwords)
  · rintro ⟨hfirst, hroom, hlast, hrest⟩
    constructor
    · intro _
      by_cases hzero : count = 0
      · rw [hzero]
        exact hroom
      · exact hlast hzero
    · intro words hwords
      cases words with
      | zero => exact hfirst
      | succ words => exact hrest words (Nat.le_of_succ_le_succ hwords)

/-- A block read can end after any number of words. -/
theorem inBounds_blockReads {done : ℕ → Prop}
    (hdone : ∀ v : BlockVars, lo ≤ v.response →
      (v.response = lo ∨ v.response ≤ dapPacketSize) →
        (post v s (base ∪ Finset.Ico lo v.response) ↔ done v.response)) {count : ℕ} {v : BlockVars}
    (hlower : lo ≤ v.response) (hupper : v.response = lo ∨ v.response ≤ dapPacketSize) :
    InBounds (blockReads request count v) post s (base ∪ Finset.Ico lo v.response) ↔
      (count ≠ 0 → v.response + 4 * count ≤ dapPacketSize) ∧
        ∀ words ≤ count, done (v.response + 4 * words) := by
  induction count generalizing v request with
  | zero =>
      refine (hdone v hlower hupper).trans ?_
      constructor
      · intro hfits
        refine ⟨fun hne => absurd rfl hne, fun words hwords => ?_⟩
        obtain rfl := Nat.le_zero.mp hwords
        exact hfits
      · intro h
        exact h.2 0 (le_refl 0)
  | succ count ih =>
      rw [wordsFit_succ]
      simp only [blockReads, InBounds, wp_bind]
      apply inBounds_transferData_any
      · intro value after hvalue
        rw [if_pos hvalue]
        exact hdone { v with responseValue := value, data := after } hlower hupper
      · intro after
        rw [if_neg (not_not_intro rfl)]
        simp only [wp_bind, inBounds_storeWord hlower]
        apply and_congr_right
        intro hroom
        have hnext : lo ≤ ({ v with
            responseValue := dapTransferOk, data := after, response := v.response + 4
            responseCount := v.responseCount + 1 } : BlockVars).response :=
          Nat.le_add_right_of_le hlower
        exact ih hnext (.inr hroom)

/-- A block write stores nothing and reads its data as far as it gets. -/
theorem inBounds_blockWrites {done : Prop} {stored : Finset ℕ} {response : ℕ}
    (hdone : ∀ v : BlockVars, v.response = response → (post v s stored ↔ done))
    {count position : ℕ} {v : BlockVars} (hresponse : v.response = response) :
    InBounds (blockWrites buf request count position v) post s stored ↔
      (count ≠ 0 → position + 4 * count ≤ dapPacketSize) ∧ done := by
  induction count generalizing position v with
  | zero =>
      simp only [blockWrites, wp_bind, wp_pure, ne_eq, not_true_eq_false, false_implies, true_and]
      refine Iff.trans ?_ (and_self_iff (a := done))
      apply inBounds_transferNull_any
      · intro value _
        exact hdone { v with responseValue := value } hresponse
      · exact hdone { v with responseValue := dapTransferOk } hresponse
  | succ count ih =>
      have hturn : InBounds (blockWrites buf request (count + 1) position v) post s stored ↔
          position + 4 ≤ dapPacketSize ∧ done ∧
            (count ≠ 0 → position + 4 + 4 * count ≤ dapPacketSize) ∧ done := by
        simp only [blockWrites, wp_bind, inBounds_loadWord]
        apply and_congr_right
        intro hroom
        apply inBounds_transferData_any
        · intro value after hvalue
          rw [if_pos hvalue]
          exact hdone { v with responseValue := value, data := after } hresponse
        · intro after
          rw [if_neg (not_not_intro rfl)]
          exact ih hresponse
      rw [hturn]
      constructor
      · rintro ⟨hroom, hfits, hlast, -⟩
        refine ⟨fun _ => ?_, hfits⟩
        by_cases hzero : count = 0
        · rw [hzero]
          exact hroom
        · have hend := hlast hzero
          omega
      · rintro ⟨hlast, hfits⟩
        have hend := hlast (Nat.succ_ne_zero count)
        exact ⟨by omega, hfits, fun _ => by omega, hfits⟩

/-- What is transferred if the count is not zero. -/
theorem inBounds_blockTransfers {request : ℕ} (done : ℕ → Prop)
    (hdone : ∀ v : BlockVars, lo ≤ v.response →
      (v.response = lo ∨ v.response ≤ dapPacketSize) →
        (post v s (base ∪ Finset.Ico lo v.response) ↔ done v.response)) {count : ℕ} {v : BlockVars}
    (hcount : count ≠ 0) (hresponse : v.response = lo) :
    InBounds (blockTransfers buf request count v) post s (base ∪ Finset.Ico lo v.response) ↔
      request + 4 ≤ dapPacketSize ∧
        if IsRead ((buf (request + 3)).setWidth 32) then
          lo + 4 * count ≤ dapPacketSize ∧ ∀ words ≤ count, done (lo + 4 * words)
        else request + 4 + 4 * count ≤ dapPacketSize ∧ done lo := by
  subst hresponse
  have hreads (header value : Word32) :
      InBounds (blockReads header count { v with responseValue := value }) post s
          (base ∪ Finset.Ico v.response v.response) ↔
        v.response + 4 * count ≤ dapPacketSize ∧
          ∀ words ≤ count, done (v.response + 4 * words) := by
    apply (inBounds_blockReads hdone (v := { v with responseValue := value }) (le_refl _)
      (.inl rfl)).trans
    exact and_congr_left fun _ => forall_prop_of_true hcount
  have hends (w : BlockVars) (hw : w.response = v.response) :
      post w s (base ∪ Finset.Ico v.response v.response) ↔ done v.response := by
    have hdone := hdone w (le_of_eq hw.symm) (.inl hw)
    rwa [hw] at hdone
  simp only [blockTransfers, wp_bind, inBounds_loadByte, wp_ite, wp_pure]
  apply and_congr_right
  intro _
  split_ifs with hread hap
  · -- the first AP read posts, and stores nothing
    refine Iff.trans ?_ (and_iff_right_of_imp fun hfits => hfits.2 0 (Nat.zero_le _))
    apply inBounds_transferNull_any
    · intro value hvalue
      rw [if_pos hvalue]
      exact hends { v with responseValue := value } rfl
    · rw [if_neg (not_not_intro rfl)]
      exact hreads _ _
  · exact hreads _ v.responseValue
  · apply (inBounds_blockWrites hends rfl).trans
    exact and_congr_left fun _ => forall_prop_of_true hcount

end Block

/-! ## The command -/

section TransferBlock

variable {buf : Buf} {s : DapData} {request response : ℕ}
  {post : Word32 → DapData → Finset ℕ → Prop}

/-- What `DAP_SWD_TransferBlock` needs, `done` told the response bytes. -/
def SwdBlockFits (buf : Buf) (done : ℕ → Prop) (request response : ℕ) : Prop :=
  request + 3 ≤ dapPacketSize ∧
    if blockCount buf request = 0 then response + 3 ≤ dapPacketSize ∧ done 3
    else
      request + 4 ≤ dapPacketSize ∧
        if IsRead ((buf (request + 3)).setWidth 32) then
          response + 3 + 4 * blockCount buf request ≤ dapPacketSize ∧
            ∀ words ≤ blockCount buf request, done (3 + 4 * words)
        else
          request + 4 + 4 * blockCount buf request ≤ dapPacketSize ∧
            response + 3 ≤ dapPacketSize ∧ done 3

/-- The three head bytes are stored last, below the words. -/
theorem blockHead_iff {done : ℕ → Prop}
    (hdone : ∀ stored, response + stored ≤ dapPacketSize →
      (post (BitVec.ofNat 32 stored) s (Finset.range (response + stored)) ↔ done stored))
    {filled : ℕ} (hlower : response + 3 ≤ filled)
    (hupper : filled = response + 3 ∨ filled ≤ dapPacketSize) :
    (response < dapPacketSize ∧ response + 1 < dapPacketSize ∧ response + 2 < dapPacketSize ∧
        post (BitVec.ofNat 32 (filled - response)) s
          (insert (response + 2) (insert (response + 1)
            (insert response (Finset.range response ∪ Finset.Ico (response + 3) filled))))) ↔
      response + 3 ≤ dapPacketSize ∧ done (filled - response) := by
  have hfilled : response + (filled - response) = filled := by omega
  have hstored (hhead : response + 3 ≤ dapPacketSize) := hdone (filled - response) (by omega)
  rw [hfilled] at hstored
  rw [insert_range_union, insert_range_union, insert_range_union, range_union_Ico hlower]
  constructor
  · rintro ⟨-, -, hhead, hpost⟩
    exact ⟨hhead, (hstored hhead).mp hpost⟩
  · rintro ⟨hhead, hfits⟩
    exact ⟨by omega, by omega, hhead, (hstored hhead).mpr hfits⟩

theorem inBounds_dapSwdTransferBlock (done : ℕ → Prop)
    (hdone : ∀ stored, response + stored ≤ dapPacketSize →
      (post (BitVec.ofNat 32 stored) { s with transferAbort := 0#8 }
          (Finset.range (response + stored)) ↔ done stored)) :
    InBounds (dapSwdTransferBlock buf request response) post s (Finset.range response) ↔
      SwdBlockFits buf done request response := by
  have hbase : Finset.range response =
      Finset.range response ∪ Finset.Ico (response + 3) (response + 3) := by
    rw [Finset.Ico_self, Finset.union_empty]
  simp only [dapSwdTransferBlock, wp_bind, wp_modify, wp_pure, wp_ite, inBounds_loadHalf,
    inBounds_storeByte]
  refine inBounds_garbage fun data => ?_
  apply and_congr_right
  intro hroom
  rw [show request + 1 + 1 = request + 2 from rfl]
  have hcount : Word16.ofBytes (buf (request + 1)) (buf (request + 2)) = 0#16 ↔
      blockCount buf request = 0 := by
    rw [blockCount, BitVec.toNat_eq]
    rfl
  by_cases hzero : blockCount buf request = 0
  · rw [if_pos hzero, if_pos (hcount.mpr hzero)]
    have hstart := blockHead_iff hdone (le_refl _) (.inl rfl)
    rw [← hbase, Nat.add_sub_cancel_left] at hstart
    rw [Nat.add_sub_cancel_left]
    exact hstart
  · rw [if_neg hzero, if_neg (mt hcount.mp hzero), hbase]
    apply (inBounds_blockTransfers
      (fun filled => response + 3 ≤ dapPacketSize ∧ done (filled - response))
      (fun _ => blockHead_iff hdone) hzero rfl).trans
    simp only [Nat.add_assoc, Nat.add_sub_cancel_left]
    apply and_congr_right
    intro _
    split_ifs
    · apply and_congr_right
      intro hfull
      exact forall₂_congr fun words _ => and_iff_right (by omega)
    · exact Iff.rfl

/-- The size of a block write, shifted into the upper half. -/
theorem blockSize_shift (count : Word16) :
    (4#32 + count.setWidth 32 * 4#32) <<< 16 =
      BitVec.ofNat 32 ((4 + 4 * count.toNat) % 65536) <<< 16 := by
  apply BitVec.eq_of_toNat_eq
  simp only [BitVec.toNat_shiftLeft, BitVec.toNat_add, BitVec.toNat_mul, BitVec.toNat_setWidth,
    BitVec.toNat_ofNat, Nat.shiftLeft_eq]
  omega

/-- The end of `DAP_TransferBlock`, which goes by the request only. -/
theorem inBounds_blockEnd {num : Word32} {stored : Finset ℕ} :
    InBounds
        (do
          let header ← loadByte buf (request + 3)
          if IsRead (header.setWidth 32) then pure (num ||| (4#32 <<< 16))
          else do
            let count ← loadHalf buf (request + 1)
            pure (num ||| ((4#32 + count.setWidth 32 * 4#32) <<< 16)))
        post s stored ↔
      request + 4 ≤ dapPacketSize ∧
        post (sizes (BitVec.ofNat 32 (blockSize buf request)) num) s stored := by
  simp only [InBounds, wp_bind, wp_pure, wp_ite, inBounds_loadByte, inBounds_loadHalf, blockSize,
    sizes, BitVec.or_comm num]
  apply and_congr_right
  intro hroom
  split_ifs with hread
  · exact Iff.rfl
  · rw [blockSize_shift]
    exact and_iff_right (by omega)

/-- The end of `DAP_TransferBlock` reads the header of a block without words, too. -/
theorem swdBlockFits_iff {done : ℕ → ℕ → Prop} :
    SwdBlockFits buf
        (fun stored => request + 4 ≤ dapPacketSize ∧ done (blockSize buf request) stored) request
        response ↔
      TransferBlockFits buf done request response true := by
  rw [SwdBlockFits, TransferBlockFits]
  by_cases hzero : blockCount buf request = 0
  · rw [if_pos hzero, if_neg (not_and_of_not_right _ (not_not_intro hzero))]
    constructor
    · rintro ⟨-, hhead, hheader, hfits⟩
      exact ⟨hheader, hhead, hfits⟩
    · rintro ⟨hheader, hhead, hfits⟩
      exact ⟨by omega, hhead, hheader, hfits⟩
  · have htransfers : true = true ∧ blockCount buf request ≠ 0 := ⟨rfl, hzero⟩
    rw [if_neg hzero, if_pos htransfers]
    split_ifs with hread
    · constructor
      · rintro ⟨-, hheader, hfull, hfits⟩
        exact ⟨hheader, by omega, hfull, fun words hwords => (hfits words hwords).2⟩
      · rintro ⟨hheader, -, hfull, hfits⟩
        exact ⟨by omega, hheader, hfull, fun words hwords => ⟨hheader, hfits words hwords⟩⟩
    · constructor
      · rintro ⟨-, hheader, hfull, hhead, -, hfits⟩
        exact ⟨hheader, hhead, hfull, hfits⟩
      · rintro ⟨hheader, hhead, hfull, hfits⟩
        exact ⟨by omega, hheader, hfull, hhead, hheader, hfits⟩

theorem inBounds_dapTransferBlock {done : ℕ → ℕ → Prop}
    (hdone : ∀ stored s', s'.link = s.link → response + stored ≤ dapPacketSize →
      (post (sizes (BitVec.ofNat 32 (blockSize buf request)) (BitVec.ofNat 32 stored)) s'
          (Finset.range (response + stored)) ↔ done (blockSize buf request) stored)) :
    InBounds (dapTransferBlock buf request response) post s (Finset.range response) ↔
      TransferBlockFits buf done request response s.link.swd := by
  have hstored : insert (response + 2) (insert (response + 1)
      (insert response (Finset.range response))) = Finset.range (response + 3) := by
    simp only [← Finset.range_add_one]
  rw [InBounds, dapTransferBlock, wp_bind, wp_get]
  by_cases hswd : s.debugPort = dapPortSwd
  · have hlink : s.link.swd = true := decide_eq_true hswd
    rw [if_pos hswd, wp_bind, hlink, ← swdBlockFits_iff]
    simp only [inBounds_blockEnd]
    apply inBounds_dapSwdTransferBlock
    intro stored hroom
    exact and_congr_right fun _ => hdone stored { s with transferAbort := 0#8 } rfl hroom
  · have hlink : s.link.swd = false := decide_eq_false hswd
    rw [if_neg hswd, hlink, TransferBlockFits,
      if_neg fun h => Bool.false_ne_true h.1]
    simp only [wp_bind (storeByte _ _), wp_bind (pure _), wp_pure, inBounds_storeByte, hstored,
      inBounds_blockEnd]
    constructor
    · rintro ⟨-, -, hhead, hheader, hpost⟩
      exact ⟨hheader, hhead, (hdone 3 s rfl hhead).mp hpost⟩
    · rintro ⟨hheader, hhead, hfits⟩
      exact ⟨by omega, by omega, hhead, hheader, (hdone 3 s rfl hhead).mpr hfits⟩

end TransferBlock

end ExLink.Dap
