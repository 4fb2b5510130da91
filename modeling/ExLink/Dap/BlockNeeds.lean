/-
# What a packet determines of DAP_TransferBlock

A block read needs its header only and can end after any number of words; a block write
needs all of its data, since the target may accept every word before the first that is
not in the packet. After the last command the size of the request does not matter.
-/

import ExLink.Dap.TransferNeeds

namespace ExLink.Dap

open ExLink.Automata ExLink.Automata.Prog
open ExLink.Swd (IsRead dapTransferOk)

/-! ## The loops -/

section Block

variable {data : Buf} {len : ℕ} {s : DapData} {header : Word32}
  {after : Buf → BlockVars → DapM Word32}

theorem wordsWithin_succ {within : ℕ → Prop} {response count : ℕ} :
    (∀ words ≤ count + 1, within (response + 4 * words)) ↔
      within response ∧ ∀ words ≤ count, within (response + 4 + 4 * words) := by
  have hword : ∀ words, response + 4 + 4 * words = response + 4 * (words + 1) := by
    intro words
    omega
  simp only [hword]
  constructor
  · intro h
    exact ⟨h 0 (Nat.zero_le _), fun words hwords => h (words + 1) (Nat.succ_le_succ hwords)⟩
  · rintro ⟨hfirst, hrest⟩ words hwords
    cases words with
    | zero => exact hfirst
    | succ words => exact hrest words (Nat.le_of_succ_le_succ hwords)

/-- A block read can end after any number of words. -/
theorem determined_blockReads {within : ℕ → Prop}
    (hafter : ∀ v, Determined data len (fun b => after b v) s ↔ within v.response) {count : ℕ}
    {v : BlockVars} :
    Determined data len (fun b => blockReads header count v >>= after b) s ↔
      ∀ words ≤ count, within (v.response + 4 * words) := by
  induction count generalizing v header with
  | zero =>
      refine (hafter v).trans ?_
      constructor
      · intro h words hwords
        obtain rfl := Nat.le_zero.mp hwords
        exact h
      · intro h
        exact h 0 (le_refl 0)
  | succ count ih =>
      rw [wordsWithin_succ]
      simp only [blockReads, bind_assoc]
      refine determined_transferData.trans ?_
      apply inBounds_transferData_any
      · intro value word hvalue
        simp only [if_pos hvalue, pure_bind]
        exact hafter { v with responseValue := value, data := word }
      · intro word
        simp only [if_neg (not_not_intro rfl), bind_assoc]
        exact determined_storeWord.trans ih

/-- A block write needs its data as far as it can get. -/
theorem determined_blockWrites {within : Prop} {response : ℕ}
    (hafter : ∀ v : BlockVars, v.response = response →
      (Determined data len (fun b => after b v) s ↔ within)) {count position : ℕ} {v : BlockVars}
    (hresponse : v.response = response) :
    Determined data len (fun b => blockWrites b header count position v >>= after b) s ↔
      (count ≠ 0 → position + 4 * count ≤ len) ∧ within := by
  induction count generalizing position v with
  | zero =>
      simp only [blockWrites, bind_assoc, pure_bind]
      refine Iff.trans ?_ (and_iff_right fun h => absurd rfl h).symm
      refine determined_transferNull.trans (Iff.trans ?_ (and_self_iff (a := within)))
      apply inBounds_transferNull_any
      · intro value _
        exact hafter { v with responseValue := value } hresponse
      · exact hafter { v with responseValue := dapTransferOk } hresponse
  | succ count ih =>
      simp only [blockWrites, bind_assoc]
      refine (determined_fetch fun b => fetches_loadWord position).trans ?_
      by_cases hle : position + 4 ≤ len
      · refine (determined_congr fun b holds => by rw [wordAt_holds holds hle]).trans ?_
        have hturn : Determined data len
            (fun b =>
              transferData header (wordAt data position) >>= fun result =>
                (if result.1 ≠ dapTransferOk then
                    pure { v with responseValue := result.1, data := result.2 }
                  else
                    blockWrites b header count (position + 4)
                      { v with
                        responseValue := result.1, data := result.2
                        responseCount := v.responseCount + 1 }) >>= after b)
            s ↔ within ∧ (count ≠ 0 → position + 4 + 4 * count ≤ len) ∧ within := by
          refine determined_transferData.trans ?_
          apply inBounds_transferData_any
          · intro value word hvalue
            simp only [if_pos hvalue, pure_bind]
            exact hafter { v with responseValue := value, data := word } hresponse
          · intro word
            simp only [if_neg (not_not_intro rfl)]
            exact ih hresponse
        refine hturn.trans ?_
        constructor
        · rintro ⟨hwithin, hrest, -⟩
          refine ⟨fun _ => ?_, hwithin⟩
          by_cases hzero : count = 0
          · rw [hzero]
            exact hle
          · have hend := hrest hzero
            omega
        · rintro ⟨hall, hwithin⟩
          have hend := hall (Nat.succ_ne_zero count)
          exact ⟨hwithin, fun _ => by omega, hwithin⟩
      · refine iff_of_false ?_ fun h => ?_
        · refine not_determined_of_opens 0#8 0xFF#8 starts_transferData.bind.opens
            starts_transferData.bind.opens rfl rfl fun heq => ?_
          exact wordAt_filled_ne hle (by decide) (Option.some.inj (DapOp.swdTransfer.inj heq).2)
        · have hend := h.1 (Nat.succ_ne_zero count)
          omega

/-- A block whose header is a DP write begins with one. -/
theorem opens_blockTransfers_write {b : Buf} {request count : ℕ} {v : BlockVars}
    {f : BlockVars → DapM Word32} (hheader : b (request + 3) = 0x00#8) (hcount : count ≠ 0) :
    OpensWith (.swdTransfer 0#32 (some (wordAt b (request + 4))))
      (blockTransfers b request count v >>= f) s := by
  obtain ⟨count, rfl⟩ := Nat.exists_eq_succ_of_ne_zero hcount
  simp only [blockTransfers, bind_assoc]
  refine .fetch (fetches_loadByte _) ?_
  rw [hheader, if_neg (by decide)]
  simp only [blockWrites, bind_assoc]
  exact .fetch (fetches_loadWord _) starts_transferData.bind.opens

/-- A block whose header is an AP read begins with one. -/
theorem opens_blockTransfers_read {b : Buf} {request : ℕ} (count : ℕ) {v : BlockVars}
    {f : BlockVars → DapM Word32} (hheader : b (request + 3) = 0x03#8) :
    OpensWith (.swdTransfer 3#32 none) (blockTransfers b request count v >>= f) s := by
  simp only [blockTransfers, bind_assoc]
  refine .fetch (fetches_loadByte _) ?_
  rw [hheader, if_pos (by decide), if_pos (by decide)]
  exact (starts_transferNull.bind.bind).opens

/-- What is transferred if the count is not zero. -/
theorem determined_blockTransfers {request : ℕ} {within : ℕ → Prop}
    (hafter : request + 4 ≤ len → ∀ v,
      Determined data len (fun b => after b v) s ↔ within v.response)
    {count : ℕ} {v : BlockVars} (hcount : count ≠ 0) :
    Determined data len (fun b => blockTransfers b request count v >>= after b) s ↔
      request + 4 ≤ len ∧
        if IsRead ((data (request + 3)).setWidth 32) then
          ∀ words ≤ count, within (v.response + 4 * words)
        else request + 4 + 4 * count ≤ len ∧ within v.response := by
  by_cases hle : request + 4 ≤ len
  · refine Iff.trans ?_ (and_iff_right hle).symm
    have hends := hafter hle
    simp only [blockTransfers, bind_assoc]
    refine (determined_loadByte hle).trans ?_
    by_cases hread : IsRead ((data (request + 3)).setWidth 32)
    · simp only [if_pos hread]
      by_cases hap : OnAp ((data (request + 3)).setWidth 32)
      · simp only [if_pos hap, bind_assoc]
        refine determined_transferNull.trans ?_
        -- the first AP read posts, and stores nothing
        refine Iff.trans ?_ (and_iff_right_of_imp fun h => h 0 (Nat.zero_le _))
        apply inBounds_transferNull_any
        · intro value hvalue
          simp only [if_pos hvalue, pure_bind]
          exact hends { v with responseValue := value }
        · simp only [if_neg (not_not_intro rfl)]
          exact determined_blockReads hends
      · simp only [if_neg hap]
        exact determined_blockReads hends
    · simp only [if_neg hread]
      refine (determined_blockWrites (fun w hw => hw ▸ hends w) rfl).trans ?_
      exact and_congr_left fun _ => forall_prop_of_true hcount
  · refine iff_of_false ?_ fun h => hle h.1
    have hstale (fill : Byte) : filled data len fill (request + 3) = fill :=
      filled_of_le fill (by omega)
    have hwrite := @opens_blockTransfers_write s _ request count v (after (filled data len 0x00#8))
      (hstale _) hcount
    have hread := @opens_blockTransfers_read s _ request count v (after (filled data len 0x03#8))
      (hstale _)
    refine not_determined_of_opens _ _ hwrite hread rfl rfl fun heq => ?_
    exact absurd (DapOp.swdTransfer.inj heq).1 (by decide)

end Block

/-! ## The command -/

section TransferBlock

variable {data : Buf} {len : ℕ} {s : DapData} {request response : ℕ}
  {rest : Buf → Word32 → DapM Word32} {last : Bool} {done : Buf → ℕ → Word32 → Link → Prop}

/-- What `DAP_SWD_TransferBlock` stores last. -/
def blockHead (response : ℕ) (v : BlockVars) : DapM Word32 := do
  storeByte response (BitVec.ofNat 8 v.responseCount)
  storeByte (response + 1) (BitVec.ofNat 8 (v.responseCount / 256))
  storeByte (response + 2) (v.responseValue.setWidth 8)
  pure (BitVec.ofNat 32 (v.response - response))

/-- The end of `DAP_TransferBlock`, which goes by the request only. -/
def blockEnd (buf : Buf) (request : ℕ) (num : Word32) : DapM Word32 := do
  let header ← loadByte buf (request + 3)
  if IsRead (header.setWidth 32) then pure (num ||| (4#32 <<< 16))
  else do
    let count ← loadHalf buf (request + 1)
    pure (num ||| ((4#32 + count.setWidth 32 * 4#32) <<< 16))

theorem fetches_blockEnd {b : Buf} (num : Word32) :
    Fetches (blockEnd b request num) (blockResult b request num) := by
  refine (fetches_loadByte (request + 3)).bind ?_
  rw [blockResult]
  split_ifs
  · exact fetches_pure _
  · exact (fetches_loadHalf (request + 1)).bind (fetches_pure _)

/-- The response bytes in the result. -/
theorem setWidth_blockResult (b : Buf) (num : Word32) :
    (blockResult b request num).setWidth 16 = num.setWidth 16 := by
  have hlow : ∀ consumed : Word32, (num ||| (consumed <<< 16)).setWidth 16 = num.setWidth 16 := by
    intro consumed
    rw [BitVec.or_comm]
    exact setWidth_sizes consumed num
  rw [blockResult]
  split_ifs
  · exact hlow _
  · exact hlow _

theorem determined_blockEnd (follows : Follows handlerLimit rest last request done) (hle : request + 4 ≤ len)
    (num : Word32) :
    Determined data len (fun b => blockEnd b request num >>= rest b) s ↔
      done data len (blockResult data request num) s.link := by
  refine (determined_fetch fun b => fetches_blockEnd num).trans ?_
  refine (determined_congr fun b holds => ?_).trans (follows.same data len _ s)
  rw [blockResult, blockResult, holds (request + 1) (by omega), holds (request + 2) (by omega),
    holds (request + 3) (by omega)]

/-- Where no word was transferred, what is left is the size of the request. -/
theorem determined_blockEnd_none (follows : Follows handlerLimit rest last request done) :
    Determined data len (fun b => blockEnd b request 3#32 >>= rest b) s ↔
      (last = false → request + 4 ≤ len ∧ done data len (blockResult data request 3#32) s.link) := by
  cases hlast : last with
  | true =>
      refine iff_of_true ?_ fun h => absurd h.symm Bool.false_ne_true
      obtain ⟨size, hends⟩ := follows.ends hlast
      refine (determined_fetch fun b => fetches_blockEnd 3#32).mpr ?_
      refine @determined_of_concludes [] (size 3#16) s data len _ fun b => ?_
      have hrest := hends b (blockResult b request 3#32) s
      rw [setWidth_blockResult] at hrest
      exact hrest
  | false =>
      refine Iff.trans ?_ (forall_prop_of_true rfl).symm
      by_cases hle : request + 4 ≤ len
      · exact (determined_blockEnd follows hle 3#32).trans (and_iff_right hle).symm
      · refine iff_of_false (fun h => ?_) fun h => hle h.1
        -- with a read for a header, the next command would have to lie before its end
        have hwider := h.extend (Nat.le_of_not_le hle) (holds_filled data len 0x02#8)
        rw [determined_blockEnd follows (le_refl _)] at hwider
        have hheader : filled data len 0x02#8 (request + 3) = 0x02#8 := filled_of_le _ (by omega)
        rw [blockResult, hheader, if_pos (by decide)] at hwider
        exact absurd (follows.reaches hlast _ _ 4 3 _ (by decide) (by decide) hwider)
          (lt_irrefl _)

theorem dapSwdTransferBlock_eq (b : Buf) (after : Word32 → DapM Word32) :
    dapSwdTransferBlock b request response >>= after =
      ask .garbage >>= fun word =>
        (modify fun s => { s with transferAbort := 0#8 }) >>= fun _ =>
          loadHalf b (request + 1) >>= fun count =>
            (if count = 0#16 then pure ⟨response + 3, 0, 0#32, word⟩
              else blockTransfers b request count.toNat ⟨response + 3, 0, 0#32, word⟩) >>= fun v =>
                blockHead response v >>= after := by
  simp only [dapSwdTransferBlock, blockHead, bind_assoc, pure_bind]
  apply bind_congr
  intro word
  apply bind_congr
  intro _
  apply bind_congr
  intro count
  split_ifs
  · simp only [bind_assoc, pure_bind]
  · simp only [bind_assoc, pure_bind]

theorem dapTransferBlock_eq (b : Buf) :
    dapTransferBlock b request response >>= rest b =
      get >>= fun s =>
        (if s.debugPort = dapPortSwd then
            dapSwdTransferBlock b request response >>= fun num =>
              blockEnd b request num >>= rest b
          else
            storeByte response 0#8 >>= fun _ =>
              storeByte (response + 1) 0#8 >>= fun _ =>
                storeByte (response + 2) 0#8 >>= fun _ => blockEnd b request 3#32 >>= rest b) := by
  simp only [dapTransferBlock, blockEnd, bind_assoc]
  apply bind_congr
  intro s
  split_ifs
  · simp only [bind_assoc]
  · simp only [bind_assoc, pure_bind]

theorem determined_blockHead {v : BlockVars} {after : Buf → Word32 → DapM Word32} :
    Determined data len (fun b => blockHead response v >>= after b) s ↔
      Determined data len (fun b => after b (BitVec.ofNat 32 (v.response - response))) s := by
  simp only [blockHead, bind_assoc, pure_bind]
  exact determined_storeByte.trans (determined_storeByte.trans determined_storeByte)

/-- The first thing that is seen is a transfer, if there is any. -/
theorem opens_dapSwdTransferBlock {b : Buf} {after : Word32 → DapM Word32} {op : DapOp}
    (h : ∀ word,
      OpensWith op
        ((if Word16.ofBytes (b (request + 1)) (b (request + 2)) = 0#16 then
              pure ⟨response + 3, 0, 0#32, word⟩
            else
              blockTransfers b request
                (Word16.ofBytes (b (request + 1)) (b (request + 2))).toNat
                ⟨response + 3, 0, 0#32, word⟩) >>= fun v => blockHead response v >>= after)
        { s with transferAbort := 0#8 }) :
    OpensWith op (dapSwdTransferBlock b request response >>= after) s := by
  rw [dapSwdTransferBlock_eq]
  refine .unseen rfl ⟨(0#32 : Word32)⟩ fun word => ?_
  exact .modify (.fetch (fetches_loadHalf (request + 1)) (h word))

theorem opens_dapSwdTransferBlock_read {b : Buf} {after : Word32 → DapM Word32}
    (hcount : b (request + 2) = 0x03#8) (hheader : b (request + 3) = 0x03#8) :
    OpensWith (.swdTransfer 3#32 none) (dapSwdTransferBlock b request response >>= after) s := by
  have hsome : Word16.ofBytes (b (request + 1)) (b (request + 2)) ≠ 0#16 := by
    intro hzero
    have hhigh := Word16.highByte_ofBytes (b (request + 1)) (b (request + 2))
    rw [hzero, hcount] at hhigh
    exact absurd hhigh (by decide)
  refine opens_dapSwdTransferBlock fun word => ?_
  rw [if_neg hsome]
  exact opens_blockTransfers_read _ hheader

theorem opens_dapSwdTransferBlock_write {b : Buf} {after : Word32 → DapM Word32}
    (hheader : b (request + 3) = 0x00#8) :
    ∃ op : DapOp, op.seen = true ∧ op ≠ .swdTransfer 3#32 none ∧
      OpensWith op (dapSwdTransferBlock b request response >>= after) s := by
  by_cases hzero : Word16.ofBytes (b (request + 1)) (b (request + 2)) = 0#16
  · refine ⟨.store response 0#8, rfl, DapOp.noConfusion, opens_dapSwdTransferBlock fun word => ?_⟩
    rw [if_pos hzero]
    exact (starts_storeByte.bind.bind).opens
  · have hsome : (Word16.ofBytes (b (request + 1)) (b (request + 2))).toNat ≠ 0 :=
      fun h => hzero (BitVec.eq_of_toNat_eq h)
    refine ⟨.swdTransfer 0#32 (some (wordAt b (request + 4))), rfl,
      fun heq => absurd (DapOp.swdTransfer.inj heq).1 (by decide),
      opens_dapSwdTransferBlock fun word => ?_⟩
    rw [if_neg hzero]
    exact opens_blockTransfers_write hheader hsome

theorem determined_dapSwdTransferBlock (follows : Follows handlerLimit rest last request done) :
    Determined data len
        (fun b =>
          dapSwdTransferBlock b request response >>= fun num => blockEnd b request num >>= rest b)
        s ↔
      TransferBlockWithin data len last (fun num => done data len num s.link) request true := by
  rw [TransferBlockWithin, if_pos rfl]
  by_cases hle : request + 3 ≤ len
  · refine Iff.trans ?_ (and_iff_right hle).symm
    simp only [dapSwdTransferBlock_eq]
    refine determined_ask.trans ?_
    refine Iff.trans (forall_congr' fun word => ?_) (forall_const Word32)
    refine determined_modify.trans ((determined_loadHalf hle).trans ?_)
    have hcount : Word16.ofBytes (data (request + 1)) (data (request + 1 + 1)) = 0#16 ↔
        blockCount data request = 0 := by
      rw [blockCount, BitVec.toNat_eq]
      rfl
    by_cases hzero : blockCount data request = 0
    · simp only [if_pos (hcount.mpr hzero), if_pos hzero, pure_bind]
      refine determined_blockHead.trans ?_
      rw [show response + 3 - response = 3 by omega]
      exact determined_blockEnd_none follows
    · simp only [if_neg (mt hcount.mp hzero), if_neg hzero]
      refine (@determined_blockTransfers data len { s with transferAbort := 0#8 } _ request
        (fun filled =>
          done data len (blockResult data request (BitVec.ofNat 32 (filled - response))) s.link)
        (fun hle v => determined_blockHead.trans (determined_blockEnd follows hle _)) _ _
        hzero).trans ?_
      simp only [Nat.add_assoc, Nat.add_sub_cancel_left]
  · -- without a count there may be no word at all, or an AP read
    refine iff_of_false ?_ fun h => hle h.1
    have hstale (fill : Byte) {offset : ℕ} (hoffset : request + 2 ≤ offset) :
        filled data len fill offset = fill := filled_of_le fill (by omega)
    have hread := @opens_dapSwdTransferBlock_read s request response (filled data len 0x03#8)
      (fun num => blockEnd (filled data len 0x03#8) request num >>= rest (filled data len 0x03#8))
      (hstale _ (le_refl _)) (hstale _ (Nat.le_succ _))
    obtain ⟨op, hseen, hne, hother⟩ := @opens_dapSwdTransferBlock_write s request response
      (filled data len 0x00#8)
      (fun num => blockEnd (filled data len 0x00#8) request num >>= rest (filled data len 0x00#8))
      (hstale _ (Nat.le_succ _))
    exact not_determined_of_opens _ _ hother hread hseen rfl hne

/-- `DAP_TransferBlock`. -/
theorem determined_dapTransferBlock (follows : Follows handlerLimit rest last request done) :
    Determined data len (fun b => dapTransferBlock b request response >>= rest b) s ↔
      TransferBlockWithin data len last (fun num => done data len num s.link) request
        s.link.swd := by
  simp only [dapTransferBlock_eq]
  refine determined_get.trans ?_
  by_cases hswd : s.debugPort = dapPortSwd
  · have hlink : s.link.swd = true := decide_eq_true hswd
    rw [hlink]
    simp only [if_pos hswd]
    exact determined_dapSwdTransferBlock follows
  · have hlink : s.link.swd = false := decide_eq_false hswd
    rw [hlink, TransferBlockWithin, if_neg Bool.false_ne_true]
    simp only [if_neg hswd]
    exact determined_storeByte.trans (determined_storeByte.trans
      (determined_storeByte.trans (determined_blockEnd_none follows)))

end TransferBlock

end ExLink.Dap
