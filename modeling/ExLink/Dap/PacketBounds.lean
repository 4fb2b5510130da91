/-
# Bounds of packets

The commands of a packet, one after another. A packet is executed inside the request
slot and the response buffer, whatever the target answers, exactly if it fits; its
result then counts the bytes that were stored.
-/

import ExLink.Dap.HandlerBounds

namespace ExLink.Dap

open ExLink.Automata ExLink.Automata.Prog

/-! ## Commands -/

section Commands

variable {buf : Buf} {polls request response : ℕ} {s : DapData}
  {post : Word32 → DapData → Finset ℕ → Prop} {done : ℕ → ℕ → Link → Prop}

/-- A command may consume whatever fits into the upper half of its result. -/
def commandLimit : ℕ := 65536

/-- What follows a command, seen from its handler. -/
theorem Continues.handler (continues : Continues commandLimit response post done) :
    Continues handlerLimit (response + 1)
      (fun num s stored => post ((1#32 <<< 16) + 1#32 + num) s stored)
      (fun consumed stored link => done (consumed + 1) (stored + 1) link) := by
  intro consumed stored s hconsumed hroom
  have hplace : response + 1 + stored = response + (stored + 1) := by omega
  rw [hplace] at hroom ⊢
  have hstored : stored + 1 < 65536 := by
    rw [dapPacketSize] at hroom
    omega
  have hdone := continues (consumed + 1) (stored + 1) s (Nat.succ_lt_succ hconsumed) hroom
  rw [← sizes_succ (Nat.succ_lt_succ hconsumed) hstored] at hdone
  exact hdone

theorem length_infoBytes (id : Byte) : (infoBytes id).length < 256 := by
  rw [infoBytes]
  split <;> decide

theorem inBounds_dapInfo {id : Byte} {post : Byte → DapData → Finset ℕ → Prop}
    (hpost : ∀ num s stored, post num s stored → response + 2 ≤ dapPacketSize) :
    InBounds (dapInfo id (response + 2)) post s (Finset.range (response + 1)) ↔
      response + 2 + (infoBytes id).length ≤ dapPacketSize ∧
        post (BitVec.ofNat 8 (infoBytes id).length) s
          (Finset.range (response + 1) ∪
            Finset.Ico (response + 2) (response + 2 + (infoBytes id).length)) := by
  have hbase : Finset.range (response + 1) =
      Finset.range (response + 1) ∪ Finset.Ico (response + 2) (response + 2) := by
    rw [Finset.Ico_self, Finset.union_empty]
  simp only [InBounds, dapInfo, wp_bind, wp_pure]
  nth_rewrite 1 [hbase]
  exact inBounds_storeBytes (le_refl _) (hpost _ _ _)

/-- Which commands there are does not depend on the slot and on where they stand. -/
theorem isSome_handler_congr (first second : Buf) (polls polls' id : ℕ)
    (request response request' response' : ℕ) :
    (handler first polls id request response).isSome =
      (handler second polls' id request' response').isSome := by
  unfold handler
  split
  all_goals simp only [Option.isSome_some, Option.isSome_none]

theorem isSome_handler (polls id request response : ℕ) :
    (handler buf polls id request response).isSome = (handler buf 0 id 0 0).isSome :=
  isSome_handler_congr buf buf polls 0 id request response 0 0

theorem inBounds_dapProcessVendorCommand (continues : Continues commandLimit response post done) :
    InBounds (dapProcessVendorCommand buf request response) post s (Finset.range response) ↔
      request + 1 ≤ dapPacketSize ∧ response + 1 ≤ dapPacketSize ∧ done 1 1 s.link := by
  simp only [dapProcessVendorCommand, wp_bind, wp_pure, inBounds_loadByte, inBounds_storeByte,
    ← Finset.range_add_one]
  exact and_congr_right fun _ => and_congr_right fun hroom => continues 1 1 s (by decide) hroom

/-- `DAP_Info` behind its identifier. -/
theorem inBounds_infoCommand (continues : Continues commandLimit response post done) :
    InBounds
        (do
          let info ← loadByte buf (request + 1)
          let num ← dapInfo info (response + 2)
          storeByte (response + 1) num
          pure ((2#32 <<< 16) + 2#32 + num.setWidth 32))
        post s (Finset.range (response + 1)) ↔
      request + 2 ≤ dapPacketSize ∧
        response + 2 + (infoBytes (buf (request + 1))).length ≤ dapPacketSize ∧
          done 2 (2 + (infoBytes (buf (request + 1))).length) s.link := by
  have hlength := length_infoBytes (buf (request + 1))
  simp only [wp_bind, wp_pure, inBounds_loadByte, inBounds_storeByte]
  apply and_congr_right
  intro _
  refine (inBounds_dapInfo fun num s stored hpost => hpost.1).trans ?_
  rw [sizes_info hlength, insert_range_union, range_union_Ico (Nat.le_add_right _ _),
    Nat.add_assoc response]
  apply and_congr_right
  intro hroom
  refine (and_iff_right (by omega)).trans ?_
  exact continues 2 _ s (by decide) hroom

theorem inBounds_dapProcessCommand (continues : Continues commandLimit response post done) :
    InBounds (dapProcessCommand buf polls request response) post s (Finset.range response) ↔
      CommandFits buf done request response s.link := by
  rw [InBounds, dapProcessCommand, wp_bind, CommandFits]
  refine inBounds_loadByte.trans (and_congr_right fun hid => ?_)
  by_cases hvendor : 0x80#8 ≤ buf request ∧ buf request ≤ 0x9F#8
  · rw [if_pos hvendor, if_pos hvendor]
    exact (inBounds_dapProcessVendorCommand continues).trans (and_iff_right hid)
  · rw [if_neg hvendor, if_neg hvendor, wp_bind]
    refine inBounds_storeByte.trans (and_congr_right fun hroom => ?_)
    rw [← Finset.range_add_one]
    by_cases hinfo : buf request = 0x00#8
    · rw [if_pos hinfo, if_pos hinfo]
      exact inBounds_infoCommand continues
    · rw [if_neg hinfo, if_neg hinfo, isSome_handler,
        ← isSome_handler polls (buf request).toNat (request + 1) (response + 1)]
      cases hrun : handler buf polls (buf request).toNat (request + 1) (response + 1) with
      | some run =>
          simp only [wp_bind, wp_pure]
          exact inBounds_handler continues.handler hid hrun
      | none =>
          -- the identifier is overwritten
          have hsame : insert response (Finset.range (response + 1)) =
              Finset.range (response + 1) :=
            Finset.insert_eq_of_mem (Finset.self_mem_range_succ response)
          simp only [wp_bind, wp_pure, inBounds_storeByte, hsame]
          exact (and_iff_right hroom).trans (continues 1 1 s (by decide) hroom)

end Commands

/-! ## Packets -/

section Packets

variable {buf : Buf} {polls : ℕ} {s : DapData}

/-- The result counts the response bytes that were stored. -/
abbrev CountsStored (result : Word32) (_ : DapData) (stored : Finset ℕ) : Prop :=
  stored.card = lowHalf result

theorem lowHalf_add {num : Word32} {response consumed stored : ℕ} (hnum : lowHalf num = response)
    (hconsumed : consumed < commandLimit) (hroom : response + stored ≤ dapPacketSize) :
    lowHalf (num + sizes (BitVec.ofNat 32 consumed) (BitVec.ofNat 32 stored)) =
      response + stored := by
  rw [dapPacketSize] at hroom
  rw [lowHalf_eq] at hnum
  rw [lowHalf_eq, BitVec.toNat_add, toNat_sizes hconsumed (by omega)]
  omega

theorem inBounds_executeCommands {cnt request response : ℕ} {num : Word32}
    (hnum : lowHalf num = response) :
    InBounds (executeCommands buf polls cnt request response num) CountsStored s
        (Finset.range response) ↔
      CommandsFit buf cnt request response s.link := by
  induction cnt generalizing request response num s with
  | zero => exact iff_of_true ((Finset.card_range response).trans hnum.symm) trivial
  | succ cnt ih =>
      simp only [InBounds, executeCommands, CommandsFit, wp_bind]
      apply inBounds_dapProcessCommand
      intro consumed stored s hconsumed hroom
      have hstored : stored < 65536 := by
        rw [dapPacketSize] at hroom
        omega
      change InBounds
        (executeCommands buf polls cnt
          (request + highHalf (sizes (BitVec.ofNat 32 consumed) (BitVec.ofNat 32 stored)))
          (response + lowHalf (sizes (BitVec.ofNat 32 consumed) (BitVec.ofNat 32 stored))) _)
        _ s _ ↔ _
      rw [highHalf_sizes hconsumed hstored, lowHalf_sizes hconsumed hstored]
      exact ih (lowHalf_add hnum hconsumed hroom)

theorem inBounds_dapExecuteCommand :
    InBounds (dapExecuteCommand buf polls) CountsStored s ∅ ↔ PacketFits buf s.link := by
  rw [InBounds, dapExecuteCommand, PacketFits, wp_bind]
  refine inBounds_loadByte.trans ((and_iff_right (by decide)).trans ?_)
  by_cases hexecute : buf 0 = 0x7F#8
  · rw [if_pos hexecute, if_pos hexecute]
    have hhead : insert 1 (insert 0 ∅) = Finset.range 2 := by decide
    simp only [wp_bind, inBounds_loadByte, inBounds_storeByte, hhead]
    have hinside : ∀ offset < 2, offset < dapPacketSize := fun _ h => Nat.lt_trans h (by decide)
    simp only [hinside 0 (by decide), hinside 1 (by decide), true_and]
    exact inBounds_executeCommands (by decide)
  · rw [if_neg hexecute, if_neg hexecute, ← Finset.range_zero]
    apply inBounds_dapProcessCommand
    intro consumed stored s hconsumed hroom
    rw [Nat.zero_add] at hroom ⊢
    have hstored : stored < 65536 := lt_of_le_of_lt hroom (by decide)
    refine iff_of_true ?_ trivial
    rw [CountsStored, Finset.card_range, lowHalf_sizes hconsumed hstored]

end Packets

/-! ## Runs of the command layer -/

/-- A run of `DAP_ExecuteCommand` on a slot stays inside both buffers, and its result counts
the bytes that it stored. -/
def ExecutesSafely (slot : DapReqSlot) (data : DapData) (polls : ℕ) : Prop :=
  ∀ trace rest, Runs ((dapExecuteCommand slot.buf polls).run data) trace rest →
    (∀ event ∈ trace, boundsWatch.allowed event.1) ∧
      ∀ result, rest = .ret result →
        (boundsWatch.recordAll ∅ trace).card = (result.1 &&& 0xFFFF#32).toNat

/-- `result & 0xFFFF`. -/
theorem toNat_and_lowHalf (result : Word32) : (result &&& 0xFFFF#32).toNat = lowHalf result := by
  rw [lowHalf_eq, BitVec.toNat_and]
  exact Nat.and_two_pow_sub_one_eq_mod _ 16

theorem executesSafely_iff_inBounds {slot : DapReqSlot} {data : DapData} {polls : ℕ} :
    ExecutesSafely slot data polls ↔
      InBounds (dapExecuteCommand slot.buf polls) CountsStored data ∅ := by
  rw [InBounds, Wp, guarantees_iff_runs]
  simp only [ExecutesSafely, toNat_and_lowHalf]

/-- The command layer is safe on a slot exactly if the packet in it fits. -/
theorem executesSafely_iff_packetFits (slot : DapReqSlot) (data : DapData) (polls : ℕ) :
    ExecutesSafely slot data polls ↔ PacketFits slot.buf data.link :=
  executesSafely_iff_inBounds.trans inBounds_dapExecuteCommand

/-- `DAP_Info` for the product name answers 19 bytes to 2. -/
theorem productNames_reach {buf : Buf} {cnt request response : ℕ} {link : Link}
    (hnames : ∀ index < cnt,
      buf (request + 2 * index) = 0x00#8 ∧ buf (request + 2 * index + 1) = 0x02#8)
    (hfits : CommandsFit buf cnt request response link) (hcnt : cnt ≠ 0) :
    response + 19 * cnt ≤ dapPacketSize := by
  induction cnt generalizing request response with
  | zero => exact absurd rfl hcnt
  | succ cnt ih =>
      obtain ⟨hid, hinfo⟩ := hnames 0 (Nat.succ_pos cnt)
      rw [Nat.mul_zero, Nat.add_zero] at hid hinfo
      rw [CommandsFit, CommandFits, hid, if_neg (by decide), if_pos rfl, hinfo,
        show (infoBytes 0x02#8).length = 17 by decide] at hfits
      obtain ⟨-, -, -, hroom, hrest⟩ := hfits
      by_cases hlast : cnt = 0
      · omega
      · have hnext := ih (fun index hindex => ?_) hrest hlast
        · omega
        · have hname := hnames (index + 1) (Nat.succ_lt_succ hindex)
          rwa [show request + 2 * (index + 1) = request + 2 + 2 * index by omega] at hname

/-- `DAP_ExecuteCommands` with 27 times `DAP_Info` for the product name. -/
def productNames : List Byte := [0x7F#8, 27#8] ++ (List.replicate 27 [0x00#8, 0x02#8]).flatten

/-- The ring after `dap_engine_thread_start`. -/
def emptyQueue : DapQueue :=
  ⟨⟨fun _ => ⟨0, fun _ => 0#8⟩, ⟨0, Nat.succ_pos _⟩, ⟨0, Nat.succ_pos _⟩⟩, 0#32, 0⟩

/-- A probe that was not connected yet. -/
def unconnected : DapData := ⟨0#8, 0#8, 0#32, 0#8, 0#16, 0#16, 0#32, 0#8, 0#8, 0#8⟩

/-- An accepted packet can overrun the response buffer. -/
theorem executesSafely_overrun :
    ¬ ∀ (packet : List Byte) (queue : DapQueue) (data : DapData) (polls : ℕ),
      packet.length ≤ dapPacketSize → (dapEngineSubmit packet queue).1 = 0 →
        ExecutesSafely ((dapEngineSubmit packet queue).2.ring.cells queue.ring.head) data
          polls := by
  intro hsafe
  have hfits := executesSafely_iff_inBounds.mp
    (hsafe productNames emptyQueue unconnected 0 (by decide) (by decide))
  rw [inBounds_dapExecuteCommand, PacketFits, if_pos (by decide)] at hfits
  have hreach := productNames_reach (by decide) hfits (by decide)
  exact absurd hreach (by decide)

end ExLink.Dap
