/-
# What a packet determines

The commands of a packet, one after another, and then the whole packet. A command is
read behind the one before it, so an identifier outside the packet already tells two
slots apart: it is the first thing that a command answers.
-/

import ExLink.Dap.HandlerNeeds
import ExLink.Dap.PacketBounds

namespace ExLink.Dap

open ExLink.Automata ExLink.Automata.Prog

/-! ## Commands -/

section Commands

variable {data : Buf} {len polls : ℕ} {s : DapData} {request response : ℕ}
  {rest : Buf → Word32 → DapM Word32} {last : Bool} {done : Buf → ℕ → Word32 → Link → Prop}

/-- What follows a command, seen from its handler. -/
theorem Follows.handler (follows : Follows commandLimit rest last request done) :
    Follows handlerLimit (fun b num => rest b ((1#32 <<< 16) + 1#32 + num)) last (request + 1)
      (fun data len num link => done data len ((1#32 <<< 16) + 1#32 + num) link) where
  same data len num s := follows.same data len _ s
  ends hlast := by
    obtain ⟨size, hends⟩ := follows.ends hlast
    refine ⟨fun num => size (1#16 + num), fun b num s => ?_⟩
    have hconcludes := hends b ((1#32 <<< 16) + 1#32 + num) s
    rwa [BitVec.setWidth_add _ _ (by decide)] at hconcludes
  reaches hlast data len consumed stored link hconsumed hstored hdone := by
    rw [sizes_succ (Nat.succ_lt_succ hconsumed) (Nat.succ_lt_succ hstored)] at hdone
    have hlt := follows.reaches hlast data len (consumed + 1) (stored + 1) link
      (Nat.succ_lt_succ hconsumed) (Nat.succ_lt_succ hstored) hdone
    omega

/-- `DAP_Info` behind its identifier. -/
theorem determined_infoCommand (follows : Follows commandLimit rest last request done) :
    Determined data len
        (fun b =>
          loadByte b (request + 1) >>= fun info =>
            dapInfo info (response + 2) >>= fun num =>
              storeByte (response + 1) num >>= fun _ =>
                rest b ((2#32 <<< 16) + 2#32 + num.setWidth 32))
        s ↔
      request + 1 < len ∧
        done data len
          ((2#32 <<< 16) + 2#32 +
            (BitVec.ofNat 8 (infoBytes (data (request + 1))).length).setWidth 32)
          s.link := by
  simp only [dapInfo, bind_assoc, pure_bind]
  by_cases hle : request + 1 < len
  · refine (determined_loadByte hle).trans (Iff.trans ?_ (and_iff_right hle).symm)
    refine determined_storeBytes.trans (determined_storeByte.trans ?_)
    exact follows.same _ _ _ _
  · refine iff_of_false ?_ fun h => hle h.1
    have hstale (fill : Byte) : filled data len fill (request + 1) = fill :=
      filled_of_le fill (Nat.le_of_not_lt hle)
    -- no bytes for one identifier, the capabilities for another
    refine @not_determined_of_opens s data len _ 0x00#8 0xF0#8 (.store (response + 1) 0x00#8)
      (.store (response + 2) 0x11#8) (.fetch (fetches_loadByte _) ?_)
      (.fetch (fetches_loadByte _) ?_) rfl rfl fun heq => ?_
    · rw [hstale]
      exact starts_storeByte.bind.opens
    · rw [hstale]
      exact starts_storeByte.bind.opens
    · have hoffset := (DapOp.store.inj heq).1
      omega

/-- Any other command behind its identifier, which is one of the packet. -/
theorem determined_handledCommand (follows : Follows commandLimit rest last request done) {id : ℕ} :
    Determined data len
        (fun b =>
          (match handler b polls id (request + 1) (response + 1) with
            | some run => do
                let num ← run
                pure ((1#32 <<< 16) + 1#32 + num)
            | none => do
                storeByte response 0xFF#8
                pure (sizes 1#32 1#32)) >>= rest b)
        s ↔
      if (handler data 0 id request response).isSome then
        HandlerWithin data len last (fun num link => done data len ((1#32 <<< 16) + 1#32 + num) link)
          id (request + 1) (response + 1) s.link
      else done data len (sizes 1#32 1#32) s.link := by
  have hsome : ∀ b, (handler b polls id (request + 1) (response + 1)).isSome =
      (handler data 0 id request response).isSome :=
    fun b => isSome_handler_congr b data polls 0 id _ _ _ _
  by_cases hhandled : (handler data 0 id request response).isSome = true
  · rw [if_pos hhandled]
    have hrun (b : Buf) : handler b polls id (request + 1) (response + 1) =
        some ((handler b polls id (request + 1) (response + 1)).getD (pure 0#32)) :=
      (Option.some_get ((hsome b).trans hhandled)).symm.trans (congrArg some (Option.get_eq_getD _))
    refine Iff.trans (determined_congr fun b _ => ?_) (determined_handler follows.handler hrun)
    rw [hrun b]
    simp only [bind_assoc, pure_bind, Option.getD_some]
  · rw [if_neg hhandled]
    have hnone (b : Buf) : handler b polls id (request + 1) (response + 1) = none :=
      Option.not_isSome_iff_eq_none.mp fun h => hhandled ((hsome b).symm.trans h)
    simp only [hnone, bind_assoc, pure_bind]
    exact determined_answer follows

/-- A command answers its identifier first. -/
theorem opens_dapProcessCommand {buf : Buf} {id : Byte} (hid : buf request = id)
    (hvendor : ¬ (0x80#8 ≤ id ∧ id ≤ 0x9F#8)) {f : Word32 → DapM Word32} :
    OpensWith (.store response id) (dapProcessCommand buf polls request response >>= f) s := by
  simp only [dapProcessCommand, bind_assoc]
  refine .fetch (fetches_loadByte request) ?_
  rw [hid, if_neg hvendor, bind_assoc]
  exact starts_storeByte.bind.opens

theorem determined_dapProcessCommand (follows : Follows commandLimit rest last request done) :
    Determined data len (fun b => dapProcessCommand b polls request response >>= rest b) s ↔
      CommandWithin data len last (done data len) request response s.link := by
  by_cases hle : request < len
  · simp only [dapProcessCommand, bind_assoc, CommandWithin]
    refine (determined_loadByte hle).trans (Iff.trans ?_ (and_iff_right hle).symm)
    by_cases hvendor : 0x80#8 ≤ data request ∧ data request ≤ 0x9F#8
    · simp only [if_pos hvendor, dapProcessVendorCommand, bind_assoc, pure_bind]
      exact (determined_loadByte hle).trans (determined_answer follows)
    · simp only [if_neg hvendor, bind_assoc]
      refine determined_storeByte.trans ?_
      by_cases hinfo : data request = 0x00#8
      · simp only [if_pos hinfo, bind_assoc, pure_bind]
        exact determined_infoCommand follows
      · simp only [if_neg hinfo]
        exact determined_handledCommand follows
  · refine iff_of_false ?_ fun h => hle h.1
    have hstale (fill : Byte) : filled data len fill request = fill :=
      filled_of_le fill (Nat.le_of_not_lt hle)
    refine @not_determined_of_opens s data len _ 0x00#8 0x03#8 (.store response 0x00#8)
      (.store response 0x03#8) (opens_dapProcessCommand (hstale _) (by decide))
      (opens_dapProcessCommand (hstale _) (by decide)) rfl rfl (store_ne (by decide))

end Commands

/-! ## Packets -/

section Packets

variable {data : Buf} {len polls : ℕ} {s : DapData} {cnt request response : ℕ} {num : Word32}

theorem CommandsWithin.lt {link : Link} (h : CommandsWithin data len cnt request response link)
    (hcnt : cnt ≠ 0) : request < len := by
  cases cnt with
  | zero => exact absurd rfl hcnt
  | succ cnt => exact h.1

theorem determined_executeCommands :
    Determined data len (fun b => executeCommands b polls cnt request response num) s ↔
      CommandsWithin data len cnt request response s.link := by
  induction cnt generalizing data len request response num s with
  | zero => exact iff_of_true (determined_const (pure num)) trivial
  | succ cnt ih =>
      simp only [executeCommands, CommandsWithin]
      refine @determined_dapProcessCommand data len polls s request response
        (fun b n =>
          executeCommands b polls cnt (request + ((n >>> 16).setWidth 16).toNat)
            (response + (n.setWidth 16).toNat) (num + n))
        (decide (cnt = 0))
        (fun data len n link =>
          CommandsWithin data len cnt (request + ((n >>> 16).setWidth 16).toNat)
            (response + (n.setWidth 16).toNat) link)
        ⟨fun data len n s => ih, fun hlast => ?_, ?_⟩
      · obtain rfl := of_decide_eq_true hlast
        refine ⟨fun n => num.setWidth 16 + n, fun b n s => ?_⟩
        have hsize := BitVec.setWidth_add num n (show 16 ≤ 32 by decide)
        have hret := @concludes_ret _ _ _ _ hostObserver (num + n, s)
        rwa [show hostObserver.view (num + n, s) = _ from hsize] at hret
      · intro hlast data len consumed stored link hconsumed hstored hdone
        have hlt := hdone.lt (of_decide_eq_false hlast)
        change request + highHalf (sizes (BitVec.ofNat 32 consumed) (BitVec.ofNat 32 stored)) < len
          at hlt
        rwa [highHalf_sizes hconsumed hstored] at hlt

/-- The packet determines what is done with it exactly if every byte that makes a difference
is one of its bytes. -/
theorem determined_dapExecuteCommand :
    Determined data len (fun b => dapExecuteCommand b polls) s ↔ PacketWithin data len s.link := by
  simp only [dapExecuteCommand, PacketWithin]
  have hstale (fill : Byte) {offset : ℕ} (hoffset : ¬ offset < len) :
      filled data len fill offset = fill := filled_of_le fill (Nat.le_of_not_lt hoffset)
  by_cases hid : 0 < len
  · refine (determined_loadByte hid).trans (Iff.trans ?_ (and_iff_right hid).symm)
    by_cases hexecute : data 0 = 0x7F#8
    · simp only [if_pos hexecute]
      refine determined_storeByte.trans ?_
      by_cases hcnt : 1 < len
      · refine (determined_loadByte hcnt).trans (Iff.trans ?_ (and_iff_right hcnt).symm)
        exact determined_storeByte.trans determined_executeCommands
      · refine iff_of_false ?_ fun h => hcnt h.1
        refine @not_determined_of_opens s data len _ 0x00#8 0x01#8 (.store 1 0x00#8)
          (.store 1 0x01#8) (.fetch (fetches_loadByte 1) ?_) (.fetch (fetches_loadByte 1) ?_) rfl
          rfl (store_ne (by decide))
        · rw [hstale _ hcnt]
          exact starts_storeByte.bind.opens
        · rw [hstale _ hcnt]
          exact starts_storeByte.bind.opens
    · simp only [if_neg hexecute]
      have hone (b : Buf) : dapProcessCommand b polls 0 0 =
          executeCommands b polls 1 0 0 0#32 := by
        simp only [executeCommands, BitVec.zero_add, bind_pure]
      simp only [hone]
      exact determined_executeCommands
  · refine iff_of_false ?_ fun h => hid h.1
    refine @not_determined_of_opens s data len _ 0x00#8 0x03#8 (.store 0 0x00#8)
      (.store 0 0x03#8) (.fetch (fetches_loadByte 0) ?_)
      (.fetch (fetches_loadByte 0) ?_) rfl rfl (store_ne (by decide))
    · rw [hstale _ hid, if_neg (by decide), ← bind_pure (dapProcessCommand _ _ _ _)]
      exact opens_dapProcessCommand (hstale _ hid) (by decide)
    · rw [hstale _ hid, if_neg (by decide), ← bind_pure (dapProcessCommand _ _ _ _)]
      exact opens_dapProcessCommand (hstale _ hid) (by decide)

end Packets

end ExLink.Dap
