/-
# Every command keeps to its checkpoints

The loops of `DAP_Transfer` and `DAP_TransferBlock`, turn by turn, and from them the
commands and the packet: whatever the target answers, nothing is started that the last
checkpoint did not announce, and a command that is over has left its loops.
-/

import ExLink.Dap.Pace

namespace ExLink.Dap

open ExLink.Automata ExLink.Automata.Prog
open ExLink.Swd (IsRead dapTransferOk)

variable {α β : Type} {buf : Buf} {s : DapData} {mask : Word32} {pace : Pace}
  {ghost : Option Pace} {left : ℕ} {last : Option Bool}

/-! ## Inside and outside of the loops -/

/-- Outside of the loops, or inside with so much left. -/
def Ready (ahead : ℕ) (ghost : Option Pace) : Prop := ∀ pace, ghost = some pace → ahead ≤ pace.left

theorem Ready.mono {ahead more : ℕ} (hle : ahead ≤ more) (h : Ready more ghost) :
    Ready ahead ghost := fun pace hpace => hle.trans (h pace hpace)

theorem ready_some {ahead : ℕ} (hle : ahead ≤ pace.left) : Ready ahead (some pace) := by
  rintro _ ⟨rfl⟩
  exact hle

theorem ready_none (ahead : ℕ) : Ready ahead none := fun _ h => nomatch h

/-- The command is over, and so are its loops. -/
abbrev Left (_ : α) (_ : DapData) (ghost : Option Pace) : Prop := ghost = none

section Parts

variable {program : DapM β} {f : β → MarkedDapM α} {post : α → DapData → Option Pace → Prop}

theorem commands_turn {f : Unit → MarkedDapM α} {retries ahead : ℕ}
    (hready : Ready (ahead + 1) ghost) (h : Commands (f ()) post s (some ⟨ahead, 0, retries, none⟩)) :
    Commands (checkpoint (.turn retries ahead) >>= f) post s ghost := by
  refine monitored_checkpoint_bind ?_ h
  cases ghost with
  | none => trivial
  | some pace => exact hready pace rfl

theorem commands_transfer {f : Unit → MarkedDapM α} {retries ahead : ℕ}
    (hready : Ready ahead ghost) (h : Commands (f ()) post s (some ⟨ahead, 0, retries, none⟩)) :
    Commands (checkpoint (.outside retries ahead) >>= f) post s ghost := by
  refine monitored_checkpoint_bind ?_ h
  cases ghost with
  | none => trivial
  | some pace => exact hready pace rfl

theorem commands_leave {f : Unit → MarkedDapM α} (h : Commands (f ()) post s none) :
    Commands (checkpoint .leave >>= f) post s ghost := by
  refine monitored_checkpoint_bind ?_ h
  cases ghost <;> trivial

theorem follows_inside : commandMonitor.Follows loopMonitor some :=
  ⟨fun _ _ hallowed => hallowed, fun _ _ => rfl, fun _ _ _ => rfl⟩

theorem follows_outside : commandMonitor.Follows (freely DapOp DapOp.Answer) fun _ => none :=
  ⟨fun _ _ _ => trivial, fun _ _ => rfl, fun _ _ _ => rfl⟩

/-- A part inside the loops. -/
theorem commands_inside
    (h : Paces program (fun value s pace => Commands (f value) post s (some pace)) s pace) :
    Commands (plain program >>= f) post s (some pace) := monitored_plain_bind follows_inside h

/-- A part outside of the loops, whatever it does. -/
theorem commands_outside_bind (h : ∀ value s, Commands (f value) post s none) :
    Commands (plain program >>= f) post s none :=
  monitored_plain_bind follows_outside (monitored_freely h)

theorem commands_outside (program : DapM α) : Commands (plain program) Left s none :=
  monitored_plain follows_outside (monitored_freely fun _ _ => rfl)

theorem commands_loadByte {offset : ℕ} {f : Byte → MarkedDapM α}
    (h : Commands (f (buf offset)) post s none) :
    Commands (plain (loadByte buf offset) >>= f) post s none := ⟨trivial, fun _ => h⟩

theorem commands_garbage {f : Word32 → MarkedDapM α} (h : ∀ data, Commands (f data) post s none) :
    Commands (plain (ask .garbage) >>= f) post s none := ⟨trivial, h⟩

end Parts

/-! ## DAP_Transfer -/

theorem turnsAhead_masked (count : ℕ) :
    turnsAhead buf (s.masked mask) count = turnsAhead buf s count := by
  induction count with
  | zero => rfl
  | succ count ih =>
      funext offset posted check mask
      rw [turnsAhead, turnsAhead, ih]
      rfl

theorem closingAhead_of_failed {v : TransferVars} (hvalue : v.responseValue ≠ dapTransferOk) :
    closingAhead s v = 0 := if_neg fun h => hvalue h.1

theorem closingAhead_le (v : TransferVars) (offset : ℕ) (mask' : Word32) :
    closingAhead (s.masked mask) v ≤ turnsAhead buf s 0 offset v.postRead v.checkWrite mask' := by
  rw [closingAhead, turnsAhead]
  split_ifs with hclosing hreads hreads
  · exact le_refl _
  · exact absurd hclosing.2 hreads
  · exact Nat.zero_le _
  · exact Nat.zero_le _

/-- The request loop, from a turn to the next. -/
theorem commands_transferLoop (s : DapData) (mask : Word32) {count : ℕ} {v : TransferVars}
    {post : ℕ × TransferVars → DapData → Option Pace → Prop} (habort : s.transferAbort = 0#8)
    (hready : Ready (turnsAhead buf s count v.request v.postRead v.checkWrite mask) ghost)
    (hpost : ∀ left v mask ghost, Ready (closingAhead (s.masked mask) v) ghost →
      post (left, v) (s.masked mask) ghost) :
    Commands (markedTransferLoop buf count v) post (s.masked mask) ghost := by
  induction count generalizing v mask ghost with
  | zero => exact monitored_pure (hpost 0 v mask ghost (hready.mono (closingAhead_le v _ _)))
  | succ count ih =>
      refine monitored_get_bind (commands_turn ?_ (commands_inside ?_))
      · rw [turnsAhead_masked]
        exact hready
      rw [turnsAhead_masked]
      refine monitored_mono (paces_transferRequest habort (le_refl _)) ?_
      rintro ⟨broke, after⟩ _ _ ⟨mask, left, last, rfl, rfl, hleaves⟩
      refine monitored_ite (fun hbroke => ?_) fun hbroke => ?_
      · rw [if_pos hbroke] at hleaves
        refine monitored_pure (hpost _ _ _ _ ?_)
        rw [closingAhead_of_failed hleaves]
        exact ready_some (Nat.zero_le _)
      · rw [if_neg hbroke] at hleaves
        refine monitored_get_bind (monitored_if_neg (not_not_intro habort) ?_)
        exact ih mask (ready_some hleaves)

theorem paces_closingRead {v : TransferVars} (habort : s.transferAbort = 0#8)
    (hleft : closingAhead s v ≤ left) :
    Paces (closingRead v) (fun _ _ _ => True) s ⟨left, 0, s.retries, none⟩ := by
  rw [closingAhead] at hleft
  refine monitored_ite (fun hok => ?_) fun _ => monitored_pure trivial
  refine monitored_ite (fun hposted => ?_) fun _ => ?_
  · rw [if_pos ⟨hok, .inl hposted⟩] at hleft
    refine monitored_bind (monitored_bind
      (paces_transferData habort (begins_first (by simp) hleft) (fun data => ?_)
        fun value data hvalue => ?_))
    · refine monitored_if_neg (not_not_intro rfl) ?_
      exact monitored_bind (paces_storeWord (monitored_pure (monitored_pure trivial)))
    · exact monitored_if_pos hvalue (monitored_pure (monitored_pure trivial))
  · refine monitored_ite (fun hcheck => ?_) fun _ => monitored_pure trivial
    rw [if_pos ⟨hok, .inr hcheck⟩] at hleft
    exact monitored_bind (paces_transferNull habort (by simp) hleft (monitored_pure trivial)
      fun _ _ => monitored_pure trivial)

theorem commands_swdTransfer (request response : ℕ) :
    Commands (markedSwdTransfer buf request response) Left s none := by
  refine commands_garbage fun data => monitored_modify_bind _ (commands_loadByte ?_)
  refine monitored_bind
    (commands_transferLoop { s with transferAbort := 0#8 } s.matchMask rfl (ready_none _) ?_)
  intro left v mask ghost hready
  refine monitored_get_bind (commands_transfer hready (commands_inside ?_))
  refine paces_skipRequests fun last => commands_inside ?_
  refine monitored_mono (paces_closingRead rfl (le_refl _)) fun v s pace _ => ?_
  exact commands_leave (commands_outside _)

theorem commands_transferCommand (request response : ℕ) :
    Commands (markedTransfer buf request response) Left s none :=
  monitored_get_bind (monitored_ite (fun _ => commands_swdTransfer request response) fun _ =>
    commands_outside _)

/-! ## DAP_TransferBlock -/

/-- The block loops and what follows them in the command. -/
abbrev Whatever (_ : α) (_ : DapData) (_ : Option Pace) : Prop := True

theorem blockAhead_succ (count : ℕ) :
    blockAhead s (count + 1) = s.retries + blockAhead s count + 1 := by
  rw [blockAhead, Nat.succ_mul, blockAhead]
  omega

section Blocks

variable (habort : s.transferAbort = 0#8)

include habort

theorem commands_blockReads {request : Word32} {count : ℕ} {v : BlockVars}
    (hready : Ready (blockAhead s count) ghost) :
    Commands (markedBlockReads request count v) Whatever s ghost := by
  induction count generalizing request v ghost with
  | zero => exact monitored_pure trivial
  | succ count ih =>
      rw [blockAhead_succ] at hready
      have hbegins := begins_first (s := s) (show none ≠ some true by simp)
        (Nat.le_add_right s.retries (blockAhead s count))
      refine monitored_get_bind (commands_turn hready (commands_inside
        (paces_transferData habort hbegins (fun data => ?_) fun value data hvalue => ?_)))
      · refine monitored_if_neg (not_not_intro rfl) ?_
        refine commands_inside (paces_storeWord (ih (ready_some ?_)))
        exact (Nat.add_sub_cancel_left s.retries (blockAhead s count)).ge
      · exact monitored_if_pos hvalue (monitored_pure trivial)

theorem commands_blockWrites {request : Word32} {count position : ℕ} {v : BlockVars}
    (hready : Ready (blockAhead s count + s.retries) ghost) :
    Commands (markedBlockWrites buf request count position v) Whatever s ghost := by
  induction count generalizing position v ghost with
  | zero =>
      have hclose : Ready s.retries ghost := hready.mono (Nat.le_add_left _ _)
      refine monitored_get_bind (commands_transfer hclose (commands_inside ?_))
      exact paces_transferNull habort (by simp) (le_refl _) (monitored_pure trivial)
        fun value _ => monitored_pure trivial
  | succ count ih =>
      rw [blockAhead_succ, Nat.add_right_comm] at hready
      have hbegins := begins_first (s := s) (show none ≠ some true by simp)
        (show s.retries ≤ s.retries + blockAhead s count + s.retries by omega)
      refine monitored_get_bind (commands_turn hready (commands_inside (paces_loadWord ?_)))
      refine commands_inside (paces_transferData habort hbegins (fun data => ?_)
        fun value data hvalue => ?_)
      · have hrest : blockAhead s count + s.retries ≤
            s.retries + blockAhead s count + s.retries - s.retries := by omega
        exact monitored_if_neg (not_not_intro rfl) (ih (ready_some hrest))
      · exact monitored_if_pos hvalue (monitored_pure trivial)

theorem commands_blockTransfers {request count : ℕ} {v : BlockVars} :
    Commands (markedBlockTransfers buf request count v) Whatever s none := by
  refine commands_loadByte (monitored_ite (fun _ => monitored_ite (fun _ => ?_) fun _ => ?_)
    fun _ => ?_)
  · refine monitored_get_bind (commands_transfer (ready_none _) (commands_inside ?_))
    refine paces_transferNull habort (by simp) (Nat.le_add_right _ _) ?_ fun value hvalue => ?_
    · refine monitored_if_neg (not_not_intro rfl) ?_
      refine commands_blockReads habort (ready_some ?_)
      exact (Nat.add_sub_cancel_left s.retries (blockAhead s count)).ge
    · exact monitored_if_pos hvalue (monitored_pure trivial)
  · exact commands_blockReads habort (ready_none _)
  · exact commands_blockWrites habort (ready_none _)

end Blocks

theorem commands_loadHalf {offset : ℕ} {f : Word16 → MarkedDapM α}
    {post : α → DapData → Option Pace → Prop} (h : ∀ half, Commands (f half) post s none) :
    Commands (plain (loadHalf buf offset) >>= f) post s none :=
  ⟨trivial, fun _ => ⟨trivial, fun _ => h _⟩⟩

theorem commands_swdTransferBlock (request response : ℕ) :
    Commands (markedSwdTransferBlock buf request response) Left s none := by
  refine commands_garbage fun data => monitored_modify_bind _ (commands_loadHalf fun count => ?_)
  refine monitored_ite (fun _ => monitored_bind (monitored_pure ?_)) fun _ => ?_
  · exact commands_leave (commands_outside _)
  · refine monitored_bind (monitored_mono (commands_blockTransfers rfl) fun v s ghost _ => ?_)
    exact commands_leave (commands_outside _)

theorem commands_transferBlock (request response : ℕ) :
    Commands (markedTransferBlock buf request response) Left s none := by
  refine monitored_get_bind (monitored_ite (fun _ => ?_) fun _ => ?_)
  · refine monitored_bind (monitored_mono (commands_swdTransferBlock request response) ?_)
    rintro num s _ rfl
    exact commands_outside _
  · exact commands_outside_bind fun num s => commands_outside _

/-! ## Packets -/

/-- A handler, whichever it is. -/
theorem commands_handler {polls id request response : ℕ} {run : MarkedDapM Word32}
    (hrun : markedHandler buf polls id request response = some run) :
    Commands run Left s none := by
  rw [markedHandler] at hrun
  split_ifs at hrun with htransfer hblock
  · obtain rfl := Option.some.inj hrun
    exact commands_transferCommand request response
  · obtain rfl := Option.some.inj hrun
    exact commands_transferBlock request response
  · obtain ⟨program, -, rfl⟩ := Option.map_eq_some_iff.mp hrun
    exact commands_outside program

theorem commands_processCommand (polls request response : ℕ) :
    Commands (markedProcessCommand buf polls request response) Left s none := by
  refine commands_loadByte (monitored_ite (fun _ => commands_outside _) fun _ => ?_)
  refine commands_outside_bind fun _ s => monitored_ite (fun _ => commands_outside _) fun _ => ?_
  cases hrun : markedHandler buf polls (buf request).toNat (request + 1) (response + 1) with
  | none => exact commands_outside _
  | some run =>
      refine monitored_bind (monitored_mono (commands_handler hrun) ?_)
      rintro num s _ rfl
      exact monitored_pure rfl

theorem commands_executeCommands (polls cnt request response : ℕ) (num : Word32) :
    Commands (markedExecuteCommands buf polls cnt request response num) Left s none := by
  induction cnt generalizing s request response num with
  | zero => exact monitored_pure rfl
  | succ cnt ih =>
      refine monitored_bind (monitored_mono (commands_processCommand polls request response) ?_)
      rintro n s _ rfl
      exact ih _ _ _

/-- A packet keeps to its checkpoints and ends outside of the loops. -/
theorem commands_executeCommand (polls : ℕ) :
    Commands (markedExecuteCommand buf polls) Left s none := by
  refine commands_loadByte (monitored_ite (fun _ => ?_) fun _ => commands_processCommand polls 0 0)
  refine commands_outside_bind fun _ s => commands_outside_bind fun cnt s => ?_
  exact commands_outside_bind fun _ s => commands_executeCommands polls _ _ _ _

end ExLink.Dap
