/-
# Bounds of single accesses

The weakest preconditions of the primitives under the watch that keeps loads and stores
inside `DAP_PACKET_SIZE` and remembers which response bytes were stored. For a transfer
the retries do not matter: what it can end with is what a single try can end with.
-/

import ExLink.Dap.Transfer
import Mathlib.Data.Finset.Lattice.Basic
import Mathlib.Order.Interval.Finset.Nat

namespace ExLink.Dap

open ExLink.Automata ExLink.Automata.Prog
open ExLink.Swd (SwdAnswer swdResult IsRead dapTransferOk dapTransferWait)

/-- Loads and stores stay inside the packet size; the stored offsets are remembered. -/
def boundsWatch : Watch DapOp (Finset ℕ) where
  allowed
    | .load offset | .store offset _ => offset < dapPacketSize
    | _ => True
  record stored
    | .store offset _ => insert offset stored
    | _ => stored

/-- Whatever is answered, the accesses are in bounds and the result is as required. -/
abbrev InBounds {α : Type} (program : DapM α) (post : α → DapData → Finset ℕ → Prop)
    (s : DapData) (stored : Finset ℕ) : Prop :=
  Wp boundsWatch program post s stored

section Primitives

variable {s : DapData} {stored : Finset ℕ}

/-- What neither loads nor stores is always in bounds. -/
theorem inBounds_ask {op : DapOp} {post : op.Answer → DapData → Finset ℕ → Prop}
    (hallowed : boundsWatch.allowed op) (hrecord : boundsWatch.record stored op = stored) :
    InBounds (ask op) post s stored ↔ ∀ answer, post answer s stored := by
  rw [InBounds, ask, wp_perform, hrecord]
  exact forall_congr' fun answer => and_iff_right hallowed

/-- What an uninitialised local holds does not matter. -/
theorem inBounds_garbage {post : Word32 → DapData → Finset ℕ → Prop} {rest : Prop}
    (hrest : ∀ data, post data s stored ↔ rest) :
    InBounds (ask .garbage) post s stored ↔ rest := by
  refine (inBounds_ask (show boundsWatch.allowed .garbage from trivial) rfl).trans ?_
  exact (forall_congr' hrest).trans (forall_const Word32)

theorem inBounds_loadByte {buf : Buf} {offset : ℕ} {post : Byte → DapData → Finset ℕ → Prop} :
    InBounds (loadByte buf offset) post s stored ↔
      offset < dapPacketSize ∧ post (buf offset) s stored :=
  ⟨fun h => h (), fun h _ => h⟩

theorem inBounds_storeByte {offset : ℕ} {byte : Byte} {post : Unit → DapData → Finset ℕ → Prop} :
    InBounds (storeByte offset byte) post s stored ↔
      offset < dapPacketSize ∧ post () s (insert offset stored) :=
  ⟨fun h => h (), fun h _ => h⟩

theorem inBounds_loadHalf {buf : Buf} {offset : ℕ} {post : Word16 → DapData → Finset ℕ → Prop} :
    InBounds (loadHalf buf offset) post s stored ↔
      offset + 2 ≤ dapPacketSize ∧
        post (Word16.ofBytes (buf offset) (buf (offset + 1))) s stored := by
  simp only [InBounds, loadHalf, wp_bind, wp_pure, inBounds_loadByte]
  constructor
  · rintro ⟨-, hlast, hpost⟩
    exact ⟨hlast, hpost⟩
  · rintro ⟨hlast, hpost⟩
    exact ⟨by omega, hlast, hpost⟩

theorem inBounds_loadWord {buf : Buf} {offset : ℕ} {post : Word32 → DapData → Finset ℕ → Prop} :
    InBounds (loadWord buf offset) post s stored ↔
      offset + 4 ≤ dapPacketSize ∧ post (wordAt buf offset) s stored := by
  constructor
  · intro h
    obtain ⟨-, h⟩ := h ()
    obtain ⟨-, h⟩ := h ()
    obtain ⟨-, h⟩ := h ()
    exact h ()
  · rintro ⟨hlast, hpost⟩
    have hbound : ∀ index < 4, offset + index < dapPacketSize := fun index hindex => by omega
    refine fun _ => ⟨hbound 0 (by decide), fun _ => ⟨hbound 1 (by decide), fun _ => ?_⟩⟩
    exact ⟨hbound 2 (by decide), fun _ => ⟨hbound 3 (by decide), hpost⟩⟩

theorem inBounds_loadBytes {buf : Buf} {offset count : ℕ}
    {post : List Byte → DapData → Finset ℕ → Prop} (hoffset : offset ≤ dapPacketSize) :
    InBounds (loadBytes buf offset count) post s stored ↔
      offset + count ≤ dapPacketSize ∧
        post (Buf.prefixBytes (fun index => buf (offset + index)) count) s stored := by
  induction count generalizing offset post with
  | zero => exact (and_iff_right hoffset).symm
  | succ count ih =>
      simp only [InBounds, loadBytes, wp_bind, wp_pure, inBounds_loadByte,
        Buf.prefixBytes_shift_succ]
      constructor
      · rintro ⟨hfirst, hrest⟩
        obtain ⟨hlast, hpost⟩ := (ih hfirst).mp hrest
        exact ⟨by omega, hpost⟩
      · rintro ⟨hlast, hpost⟩
        have hfirst : offset < dapPacketSize := by omega
        exact ⟨hfirst, (ih hfirst).mpr ⟨by omega, hpost⟩⟩

/-- Stores that go on where others ended. -/
theorem insert_Ico {lo mid : ℕ} (hle : lo ≤ mid) (base : Finset ℕ) :
    insert mid (base ∪ Finset.Ico lo mid) = base ∪ Finset.Ico lo (mid + 1) := by
  ext offset
  simp only [Finset.mem_insert, Finset.mem_union, Finset.mem_Ico]
  constructor
  · rintro (rfl | hbase | hold)
    · exact .inr ⟨hle, Nat.lt_succ_self _⟩
    · exact .inl hbase
    · exact .inr ⟨hold.1, Nat.lt_succ_of_lt hold.2⟩
  · rintro (hbase | ⟨hlo, hlt⟩)
    · exact .inr (.inl hbase)
    · rcases Nat.lt_succ_iff_lt_or_eq.mp hlt with hold | rfl
      · exact .inr (.inr ⟨hlo, hold⟩)
      · exact .inl rfl

/-- A byte below a gap, and the end of the gap. -/
theorem insert_range_union (offset : ℕ) (above : Finset ℕ) :
    insert offset (Finset.range offset ∪ above) = Finset.range (offset + 1) ∪ above := by
  rw [Finset.range_add_one, Finset.insert_union]

theorem range_union_Ico {mid filled : ℕ} (hle : mid ≤ filled) :
    Finset.range mid ∪ Finset.Ico mid filled = Finset.range filled := by
  rw [Finset.range_eq_Ico, Finset.range_eq_Ico,
    Finset.Ico_union_Ico_eq_Ico (Nat.zero_le mid) hle]

/-- What follows may be what keeps the offset inside. -/
theorem inBounds_storeBytes {lo offset : ℕ} {bytes : List Byte}
    {post : Unit → DapData → Finset ℕ → Prop} (hlo : lo ≤ offset)
    (hoffset : post () s (stored ∪ Finset.Ico lo offset) → offset ≤ dapPacketSize) :
    InBounds (storeBytes offset bytes) post s (stored ∪ Finset.Ico lo offset) ↔
      offset + bytes.length ≤ dapPacketSize ∧
        post () s (stored ∪ Finset.Ico lo (offset + bytes.length)) := by
  induction bytes generalizing offset with
  | nil => exact (and_iff_right_of_imp hoffset).symm
  | cons byte rest ih =>
      have hlength : offset + (byte :: rest).length = offset + 1 + rest.length := by
        rw [List.length_cons]
        omega
      simp only [InBounds, storeBytes, wp_bind, inBounds_storeByte, insert_Ico hlo, hlength]
      constructor
      · rintro ⟨hfirst, hrest⟩
        exact (ih (by omega) fun _ => hfirst).mp hrest
      · rintro ⟨hlast, hpost⟩
        have hfirst : offset < dapPacketSize := by omega
        exact ⟨hfirst, (ih (by omega) fun _ => hfirst).mpr ⟨hlast, hpost⟩⟩

theorem inBounds_storeWord {lo offset : ℕ} {data : Word32}
    {post : Unit → DapData → Finset ℕ → Prop} (hlo : lo ≤ offset) :
    InBounds (storeWord offset data) post s (stored ∪ Finset.Ico lo offset) ↔
      offset + 4 ≤ dapPacketSize ∧ post () s (stored ∪ Finset.Ico lo (offset + 4)) := by
  simp only [InBounds, storeWord, wp_bind, inBounds_storeByte, insert_Ico hlo,
    insert_Ico (show lo ≤ offset + 1 by omega), insert_Ico (show lo ≤ offset + 2 by omega),
    insert_Ico (show lo ≤ offset + 3 by omega)]
  constructor
  · rintro ⟨-, -, -, hlast, hpost⟩
    exact ⟨hlast, hpost⟩
  · rintro ⟨hlast, hpost⟩
    exact ⟨by omega, by omega, by omega, hlast, hpost⟩

end Primitives

/-! ## Quiet parts -/

section Quiet

variable {α β : Type}

/-- A part of a handler that neither loads nor stores nor changes the state, and goes on
whatever is answered. -/
abbrev Quiet (program : DapM α) : Prop :=
  ∀ (post : DapData → Finset ℕ → Prop) (s : DapData) (stored : Finset ℕ),
    InBounds program (fun _ s stored => post s stored) s stored ↔ post s stored

theorem quiet_ask {op : DapOp} [Nonempty op.Answer] (hallowed : boundsWatch.allowed op)
    (hrecord : ∀ stored, boundsWatch.record stored op = stored) : Quiet (ask op) := by
  intro post s stored
  rw [inBounds_ask hallowed (hrecord stored), forall_const]

theorem quiet_pure (value : α) : Quiet (pure value : DapM α) := fun _ _ _ => Iff.rfl

theorem quiet_bind {program : DapM β} {f : β → DapM α} (hprogram : Quiet program)
    (hf : ∀ value, Quiet (f value)) : Quiet (program >>= f) := by
  intro post s stored
  simp only [InBounds, wp_bind, hf]
  exact hprogram post s stored

theorem quiet_ite {c : Prop} [Decidable c] {first second : DapM α} (hfirst : Quiet first)
    (hsecond : Quiet second) : Quiet (if c then first else second) := by
  split_ifs
  · exact hfirst
  · exact hsecond

end Quiet

/-! ## Transfers -/

section Transfers

variable {request : Word32} {s : DapData} {stored : Finset ℕ}

theorem inBounds_swdTransferOnce {data : Option Word32}
    {post : Word32 × Option Word32 → DapData → Finset ℕ → Prop} :
    InBounds (swdTransferOnce request data) post s stored ↔
      ∀ answer : { answer : SwdAnswer // answer.ack.toNat < 8 },
        post ((swdResult request data answer.1).1.setWidth 32, (swdResult request data answer.1).2)
          s stored :=
  forall_congr' fun _ => and_iff_right trivial

/-- A transfer that ends in WAIT leaves the data alone. -/
theorem swdResult_wait {data : Option Word32} {answer : SwdAnswer}
    (hwait : (swdResult request data answer).1.setWidth 32 = dapTransferWait) :
    (swdResult request data answer).2 = data := by
  rw [swdResult] at hwait ⊢
  split_ifs at hwait ⊢ with hread hparity
  · rw [hread.1] at hwait
    exact absurd hwait (show ¬ ((dapTransferOk ||| Swd.dapTransferError).setWidth 8).setWidth 32 =
      dapTransferWait by decide)
  · rw [hread.1] at hwait
    exact absurd hwait (show ¬ (dapTransferOk.setWidth 8).setWidth 32 = dapTransferWait by decide)
  · rfl

theorem inBounds_transferTries {retry : ℕ} {data : Option Word32}
    {post : Word32 × Option Word32 → DapData → Finset ℕ → Prop} :
    InBounds (transferTries request retry data) post s stored ↔
      ∀ answer : { answer : SwdAnswer // answer.ack.toNat < 8 },
        post ((swdResult request data answer.1).1.setWidth 32, (swdResult request data answer.1).2)
          s stored := by
  induction retry generalizing data with
  | zero => exact inBounds_swdTransferOnce
  | succ retry ih =>
      simp only [InBounds, transferTries, wp_bind, inBounds_swdTransferOnce, wp_get, wp_ite, wp_pure,
        ih]
      constructor
      · intro h answer
        have hanswer := h answer
        split_ifs at hanswer with hagain
        · have hsame := hanswer answer
          rwa [swdResult_wait hagain.1] at hsame
        · exact hanswer
      · intro h answer
        split_ifs with hagain
        · rw [swdResult_wait hagain.1]
          exact h
        · exact h answer

theorem inBounds_transferData {data : Word32}
    {post : Word32 × Word32 → DapData → Finset ℕ → Prop} :
    InBounds (transferData request data) post s stored ↔
      ∀ answer : { answer : SwdAnswer // answer.ack.toNat < 8 },
        post ((swdResult request (some data) answer.1).1.setWidth 32,
          (swdResult request (some data) answer.1).2.getD data) s stored := by
  simp only [InBounds, transferData, wp_bind, wp_get, wp_pure, inBounds_transferTries]

theorem inBounds_transferNull {post : Word32 → DapData → Finset ℕ → Prop} :
    InBounds (transferNull request) post s stored ↔
      ∀ answer : { answer : SwdAnswer // answer.ack.toNat < 8 },
        post ((swdResult request none answer.1).1.setWidth 32) s stored := by
  simp only [InBounds, transferNull, wp_bind, wp_get, wp_pure, inBounds_transferTries]

/-- A target that faults. -/
def faulting : { answer : SwdAnswer // answer.ack.toNat < 8 } := ⟨⟨0x4#32, 0#32, 0#32⟩, by decide⟩

/-- A target that answers OK, a read with this word. -/
def answering (data : Word32) : { answer : SwdAnswer // answer.ack.toNat < 8 } :=
  ⟨⟨dapTransferOk, data, Swd.parity32 data⟩, show dapTransferOk.toNat < 8 by decide⟩

theorem swdResult_faulting (data : Option Word32) :
    swdResult request data faulting.1 = (0x4#8, data) := by
  rw [Swd.swdResult_refused (by decide)]
  rfl

theorem swdResult_answering_read (hread : IsRead request) (before after : Word32) :
    swdResult request (some before) (answering after).1 =
      (dapTransferOk.setWidth 8, some after) := by
  have hparity : Swd.parity32 after = Swd.parity32 after &&& 1#32 := by
    rw [Swd.parity32_eq]
    split_ifs <;> rfl
  rw [answering, Swd.swdResult_read hread, if_neg (not_not_intro hparity)]
  rfl

theorem swdResult_answering_write (hwrite : ¬ IsRead request) (data : Option Word32)
    (after : Word32) :
    swdResult request data (answering after).1 = (dapTransferOk.setWidth 8, data) := by
  rw [Swd.swdResult_write hwrite]
  rfl

theorem inBounds_transferData_cases {data : Word32}
    {post : Word32 × Word32 → DapData → Finset ℕ → Prop} {fails : Prop} {succeeds : Word32 → Prop}
    (hfails : ∀ value after, value ≠ dapTransferOk → (post (value, after) s stored ↔ fails))
    (hok : ∀ after, post (dapTransferOk, after) s stored ↔ succeeds after) :
    InBounds (transferData request data) post s stored ↔
      fails ∧ if IsRead request then ∀ after, succeeds after else succeeds data := by
  rw [inBounds_transferData]
  constructor
  · intro h
    constructor
    · have hfault := h faulting
      rw [swdResult_faulting] at hfault
      exact (hfails 0x4#32 _ (by decide)).mp hfault
    · split_ifs with hread
      · intro after
        have hafter := h (answering after)
        rw [swdResult_answering_read hread] at hafter
        exact (hok after).mp hafter
      · have hafter := h (answering 0#32)
        rw [swdResult_answering_write hread] at hafter
        exact (hok data).mp hafter
  · rintro ⟨hfail, hsucceed⟩ answer
    by_cases hvalue : (swdResult request (some data) answer.1).1.setWidth 32 = dapTransferOk
    · rw [hvalue]
      split_ifs at hsucceed with hread
      · exact (hok _).mpr (hsucceed _)
      · rw [Swd.swdResult_write hread]
        exact (hok data).mpr hsucceed
    · exact (hfails _ _ hvalue).mpr hfail

theorem inBounds_transferData_read (hread : IsRead request) {data : Word32}
    {post : Word32 × Word32 → DapData → Finset ℕ → Prop} {fails : Prop} {succeeds : Word32 → Prop}
    (hfails : ∀ value after, value ≠ dapTransferOk → (post (value, after) s stored ↔ fails))
    (hok : ∀ after, post (dapTransferOk, after) s stored ↔ succeeds after) :
    InBounds (transferData request data) post s stored ↔ fails ∧ ∀ after, succeeds after := by
  rw [inBounds_transferData_cases hfails hok, if_pos hread]

/-- When the data does not matter. -/
theorem inBounds_transferData_any {data : Word32}
    {post : Word32 × Word32 → DapData → Finset ℕ → Prop} {fails succeeds : Prop}
    (hfails : ∀ value after, value ≠ dapTransferOk → (post (value, after) s stored ↔ fails))
    (hok : ∀ after, post (dapTransferOk, after) s stored ↔ succeeds) :
    InBounds (transferData request data) post s stored ↔ fails ∧ succeeds := by
  rw [inBounds_transferData_cases hfails hok]
  split_ifs
  · rw [forall_const]
  · exact Iff.rfl

theorem inBounds_transferNull_any {post : Word32 → DapData → Finset ℕ → Prop}
    {fails succeeds : Prop}
    (hfails : ∀ value, value ≠ dapTransferOk → (post value s stored ↔ fails))
    (hok : post dapTransferOk s stored ↔ succeeds) :
    InBounds (transferNull request) post s stored ↔ fails ∧ succeeds := by
  rw [inBounds_transferNull]
  constructor
  · intro h
    have hfault := h faulting
    rw [swdResult_faulting] at hfault
    refine ⟨(hfails _ (by decide)).mp hfault, hok.mp ?_⟩
    have hanswer := h (answering 0#32)
    by_cases hread : IsRead request
    · rw [answering, Swd.swdResult_read hread, if_neg (by decide)] at hanswer
      exact hanswer
    · rw [swdResult_answering_write hread] at hanswer
      exact hanswer
  · rintro ⟨hfail, hsucceed⟩ answer
    by_cases hvalue : (swdResult request none answer.1).1.setWidth 32 = dapTransferOk
    · rw [hvalue]
      exact hok.mpr hsucceed
    · exact (hfails _ hvalue).mpr hfail

end Transfers

end ExLink.Dap
