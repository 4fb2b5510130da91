/-
# Sequences, bit by bit

`SWJ_Sequence` and `SWD_Sequence` of `SW_DP.c` on the pins, with the bytes that they fetch
and store: a byte is loaded or completed every eight clocks. Both come down to the bits of
the data behind a pointer and to the levels of released clocks, eight to a byte.
-/

import ExLink.Swd.Equivalence

namespace ExLink.Swd

/-! ## The bit-banged sequences -/

/-- The pins, the offsets of the bytes fetched so far, and the bytes stored. -/
structure SequencePins where
  pins : SwdPins
  loads : List ℕ
  stores : List (ℕ × Byte)

/-- The loop of `SWJ_Sequence`: `n` bits of `val` are left, and `data` is the next byte. -/
def refSwjBits (buf : Buf) : ℕ → Word32 → ℕ → ℕ → SequencePins → SequencePins
  | 0, _, _, _, s => s
  | count + 1, val, n, data, s =>
      let (val, n, data, s) :=
        if n = 0 then
          ((buf data).setWidth 32, 8, data + 1, { s with loads := s.loads ++ [data] })
        else (val, n, data, s)
      refSwjBits buf count (val >>> 1) (n - 1) data { s with pins := swWriteBit val s.pins }

/-- `SWJ_Sequence`. -/
def refSwjSequence (buf : Buf) (count data : ℕ) (s : SequencePins) : SequencePins :=
  refSwjBits buf count 0#32 0 data s

/-- The inner loop that writes: `k` bits at most, and no more than are left. -/
def refWriteByte : ℕ → ℕ → Word32 → SwdPins → ℕ × SwdPins
  | 0, n, _, pins => (n, pins)
  | _ + 1, 0, _, pins => (0, pins)
  | k + 1, n + 1, val, pins => refWriteByte k n (val >>> 1) (swWriteBit val pins)

/-- The inner loop that reads, with what it leaves of `k`, `n` and `val`. -/
def refReadByte (line : SwdLine) : ℕ → ℕ → Word32 → SwdPins → (ℕ × ℕ × Word32) × SwdPins
  | 0, n, val, pins => ((0, n, val), pins)
  | k + 1, 0, val, pins => ((k + 1, 0, val), pins)
  | k + 1, n + 1, val, pins =>
      let (bit, pins) := swReadBit line pins
      refReadByte line k n ((val >>> 1) ||| (bit <<< 7)) pins

@[simp]
theorem fst_refWriteByte (k n : ℕ) (val : Word32) (pins : SwdPins) :
    (refWriteByte k n val pins).1 = n - k := by
  induction k generalizing n val pins with
  | zero => rfl
  | succ k ih =>
      cases n with
      | zero => exact (Nat.zero_sub _).symm
      | succ n => rw [refWriteByte, ih, Nat.add_sub_add_right]

@[simp]
theorem left_refReadByte (line : SwdLine) (k n : ℕ) (val : Word32) (pins : SwdPins) :
    (refReadByte line k n val pins).1.2.1 = n - k := by
  induction k generalizing n val pins with
  | zero => rfl
  | succ k ih =>
      cases n with
      | zero => exact (Nat.zero_sub _).symm
      | succ n => rw [refReadByte, ih, Nat.add_sub_add_right]

/-- The outer loop that writes. -/
def refSequenceOut (buf : Buf) (n swdo : ℕ) (s : SequencePins) : SequencePins :=
  if n = 0 then s
  else
    let run := refWriteByte 8 n ((buf swdo).setWidth 32) s.pins
    refSequenceOut buf run.1 (swdo + 1) { s with pins := run.2, loads := s.loads ++ [swdo] }
termination_by n
decreasing_by
  rw [fst_refWriteByte]
  omega

/-- The outer loop that reads. -/
def refSequenceIn (line : SwdLine) (n swdi : ℕ) (s : SequencePins) : SequencePins :=
  if n = 0 then s
  else
    let run := refReadByte line 8 n 0#32 s.pins
    let byte : Byte := (run.1.2.2 >>> run.1.1).setWidth 8
    refSequenceIn line run.1.2.1 (swdi + 1)
      { s with pins := run.2, stores := s.stores ++ [(swdi, byte)] }
termination_by n
decreasing_by
  rw [left_refReadByte]
  omega

/-- The clocks of a sequence: `SWD_SEQUENCE_CLK`, where 0 stands for 64. -/
def refSequenceClocks (info : Byte) : ℕ :=
  let n := (info &&& 0x3F#8).toNat
  if n = 0 then 64 else n

/-- `SWD_Sequence`. -/
def refSwdSequence (line : SwdLine) (buf : Buf) (info : Byte) (swdo swdi : ℕ)
    (s : SequencePins) : SequencePins :=
  if info &&& 0x80#8 ≠ 0#8 then refSequenceIn line (refSequenceClocks info) swdi s
  else refSequenceOut buf (refSequenceClocks info) swdo s

/-! ## What they come down to -/

/-- A bit of the data behind a pointer. -/
def bufBit (buf : Buf) (data i : ℕ) : Bool := (buf (data + i / 8)).getLsbD (i % 8)

/-- The clocks that drive the first bits of the data. -/
def bufClocks (buf : Buf) (data count : ℕ) : List SwdClock :=
  (List.range count).map fun i => some (bufBit buf data i)

/-- Bytes stored one after the other. -/
def storesAt : ℕ → List Byte → List (ℕ × Byte)
  | _, [] => []
  | offset, byte :: rest => (offset, byte) :: storesAt (offset + 1) rest

theorem storesAt_append (offset : ℕ) (first second : List Byte) :
    storesAt offset (first ++ second) =
      storesAt offset first ++ storesAt (offset + first.length) second := by
  induction first generalizing offset with
  | nil => rfl
  | cons byte rest ih =>
      rw [List.cons_append, storesAt, storesAt, ih, List.length_cons, List.cons_append,
        Nat.add_assoc, Nat.add_comm 1]

section Bits

variable (buf : Buf)

/-- Whole bytes first. -/
theorem bufBit_add (data bytes i : ℕ) :
    bufBit buf data (8 * bytes + i) = bufBit buf (data + bytes) i := by
  rw [bufBit, bufBit, Nat.mul_add_div (by decide), Nat.mul_add_mod, Nat.add_assoc]

theorem bufClocks_add (data bytes count : ℕ) :
    bufClocks buf data (8 * bytes + count) =
      bufClocks buf data (8 * bytes) ++ bufClocks buf (data + bytes) count := by
  rw [bufClocks, bufClocks, bufClocks, List.range_add, List.map_append, List.map_map]
  congr 1
  apply List.map_congr_left
  intro i _
  rw [Function.comp_apply, bufBit_add]

/-- The bits of one byte. -/
theorem bufClocks_byte (data : ℕ) {count : ℕ} (hle : count ≤ 8) :
    bufClocks buf data count = unitClocks count ((buf data).setWidth 32) := by
  apply List.map_congr_left
  intro i hi
  have hlt := List.mem_range.mp hi
  rw [bufBit, Nat.div_eq_of_lt (by omega), Nat.mod_eq_of_lt (by omega), BitVec.getLsbD_setWidth,
    decide_eq_true (by omega), Bool.true_and]
  rfl

end Bits

section Loops

variable (buf : Buf) (line : SwdLine)

/-- One byte of an output sequence. -/
theorem refWriteByte_eq (k n : ℕ) (val : Word32) (level : Bool) (history : List SwdClock) :
    ∃ last, (refWriteByte k n val ⟨true, level, history⟩).2 =
      ⟨true, last, history ++ unitClocks (min k n) val⟩ := by
  induction k generalizing n val level history with
  | zero => exact ⟨level, by simp [refWriteByte, unitClocks]⟩
  | succ k ih =>
      cases n with
      | zero => exact ⟨level, by simp [refWriteByte, unitClocks]⟩
      | succ n =>
          obtain ⟨last, hrun⟩ :=
            ih n (val >>> 1) (val.getLsbD 0) (history ++ [some (val.getLsbD 0)])
          refine ⟨last, ?_⟩
          rw [refWriteByte, swWriteBit_enabled, hrun, Nat.add_min_add_right, unitClocks_succ,
            List.append_assoc]
          rfl

/-- An output sequence drives its bits and fetches the bytes that these are in. -/
theorem refSequenceOut_eq (n swdo : ℕ) (level : Bool) (history : List SwdClock) (loads : List ℕ)
    (stores : List (ℕ × Byte)) :
    ∃ last, refSequenceOut buf n swdo ⟨⟨true, level, history⟩, loads, stores⟩ =
      ⟨⟨true, last, history ++ bufClocks buf swdo n⟩,
        loads ++ List.range' swdo ((n + 7) / 8), stores⟩ := by
  induction n using Nat.strong_induction_on generalizing swdo level history loads with
  | _ n ih =>
      rw [refSequenceOut]
      by_cases hzero : n = 0
      · subst hzero
        exact ⟨level, by simp [bufClocks]⟩
      · obtain ⟨middle, hbyte⟩ := refWriteByte_eq 8 n ((buf swdo).setWidth 32) level history
        obtain ⟨last, hrest⟩ := ih (n - 8) (by omega) (swdo + 1) middle
          (history ++ unitClocks (min 8 n) ((buf swdo).setWidth 32)) (loads ++ [swdo])
        refine ⟨last, ?_⟩
        simp only [if_neg hzero, fst_refWriteByte, hbyte, hrest]
        have hcount : (n + 7) / 8 = (n - 8 + 7) / 8 + 1 := by omega
        rw [hcount, List.range'_succ, List.append_assoc, List.append_assoc, List.singleton_append]
        congr 3
        rw [← bufClocks_byte buf swdo (Nat.min_le_left 8 n)]
        rcases Nat.le_total 8 n with hlong | hshort
        · rw [Nat.min_eq_left hlong, ← bufClocks_add buf swdo 1, Nat.mul_one,
            Nat.add_sub_cancel' hlong]
        · rw [Nat.min_eq_right hshort, Nat.sub_eq_zero_of_le hshort]
          exact List.append_nil _

/-- A bit taken in below a byte's top and moved down. -/
def shiftByte (val : Word32) (bit : Bool) : Word32 :=
  (val >>> 1) ||| ((if bit then 1#32 else 0#32) <<< 7)

theorem shiftByte_setWidth (byte : Byte) (bit : Bool) :
    shiftByte (byte.setWidth 32) bit = (shiftIn byte bit).setWidth 32 := by
  revert byte bit
  decide +kernel

theorem foldl_shiftByte (bits : List Bool) (byte : Byte) :
    bits.foldl shiftByte (byte.setWidth 32) = (bits.foldl shiftIn byte).setWidth 32 := by
  induction bits generalizing byte with
  | nil => rfl
  | cons bit rest ih => rw [List.foldl_cons, List.foldl_cons, shiftByte_setWidth, ih]

/-- Moved down by what is missing of eight bits, they are a byte. -/
theorem shiftByte_byte {bits : List Bool} (hle : bits.length ≤ 8) :
    (bits.foldl shiftByte 0#32 >>> (8 - bits.length)).setWidth 8 = wordOfBits 8 bits := by
  have hbyte : bits.foldl shiftByte 0#32 = (bits.foldl shiftIn (0#8 : Byte)).setWidth 32 :=
    foldl_shiftByte bits 0#8
  rw [hbyte]
  apply BitVec.eq_of_getLsbD_eq
  intro i hi
  rw [BitVec.getLsbD_setWidth, BitVec.getLsbD_ushiftRight, BitVec.getLsbD_setWidth,
    getLsbD_wordOfBits, decide_eq_true hi, Bool.true_and, Bool.true_and,
    decide_eq_true (by omega), Bool.true_and]
  by_cases hin : i < bits.length
  · have hindex : 8 - bits.length + i + bits.length - 8 = i := by omega
    rw [foldl_shiftIn bits 0#8 (by omega), if_neg (by omega), hindex]
  · rw [BitVec.getLsbD_of_ge _ _ (by omega), List.getD_eq_default _ _ (by omega)]

/-- One byte of an input sequence. -/
theorem refReadByte_eq (k n : ℕ) (val : Word32) (level : Bool) (history : List SwdClock) :
    refReadByte line k n val ⟨false, level, history⟩ =
      ((k - min k n, n - min k n,
          (levels line history (List.replicate (min k n) none)).foldl shiftByte val),
        ⟨false, level, history ++ List.replicate (min k n) none⟩) := by
  induction k generalizing n val history with
  | zero => simp [refReadByte]
  | succ k ih =>
      cases n with
      | zero => simp [refReadByte]
      | succ n =>
          rw [refReadByte, swReadBit_released, Nat.add_min_add_right, List.replicate_succ,
            levels_cons, List.foldl_cons, Nat.add_sub_add_right, Nat.add_sub_add_right]
          dsimp only
          rw [ih, List.append_assoc, List.singleton_append]
          rfl

/-- An input sequence samples its clocks and stores the levels, eight to a byte. -/
theorem refSequenceIn_eq (n swdi : ℕ) (level : Bool) (history : List SwdClock) (loads : List ℕ)
    (stores : List (ℕ × Byte)) :
    refSequenceIn line n swdi ⟨⟨false, level, history⟩, loads, stores⟩ =
      ⟨⟨false, level, history ++ List.replicate n none⟩, loads,
        stores ++ storesAt swdi (bitsBytes (levels line history (List.replicate n none)))⟩ := by
  induction n using Nat.strong_induction_on generalizing swdi history stores with
  | _ n ih =>
      rw [refSequenceIn]
      by_cases hzero : n = 0
      · subst hzero
        simp [storesAt]
      · have hsplit : List.replicate n (none : SwdClock) =
            List.replicate (min 8 n) none ++ List.replicate (n - min 8 n) none := by
          rw [List.replicate_append_replicate, Nat.add_sub_cancel' (Nat.min_le_right 8 n)]
        set first := levels line history (List.replicate (min 8 n) none) with hfirst
        have hlen : first.length = min 8 n := by rw [hfirst, length_levels, List.length_replicate]
        have hbyte : (first.foldl shiftByte 0#32 >>> (8 - min 8 n)).setWidth 8 =
            wordOfBits 8 first := by
          rw [← hlen]
          exact shiftByte_byte (by omega)
        have hbytes (rest : List Bool) (hrest : rest.length = n - min 8 n) :
            bitsBytes (first ++ rest) = wordOfBits 8 first :: bitsBytes rest := by
          have hone : bitsBytes first = [wordOfBits 8 first] :=
            bitsBytes_of_le (List.length_pos_iff.mp (by omega)) (by omega)
          rcases Nat.le_total 8 n with hlong | hshort
          · rw [bitsBytes_append (by omega), hone, List.singleton_append]
          · rw [List.length_eq_zero_iff.mp (show rest.length = 0 by omega), List.append_nil, hone]
            rfl
        simp only [if_neg hzero, refReadByte_eq, ← hfirst, hbyte]
        rw [ih (n - min 8 n) (by omega), hsplit, levels_append, ← hfirst,
          hbytes _ (by rw [length_levels, List.length_replicate]), storesAt, List.append_assoc,
          List.append_assoc, List.singleton_append]

/-- A bit of what `n` bits of a word and the data behind a pointer make together. -/
def leftBit (val : Word32) (n data i : ℕ) : Bool :=
  if i < n then val.getLsbD i else bufBit buf data (i - n)

/-- After one of the bits of the word. -/
theorem leftBit_shift (val : Word32) (n data i : ℕ) :
    leftBit buf val (n + 1) data (i + 1) = leftBit buf (val >>> 1) n data i := by
  simp only [leftBit, Nat.add_lt_add_iff_right, Nat.add_sub_add_right, BitVec.getLsbD_ushiftRight,
    Nat.add_comm 1 i]

/-- A loaded byte stands for eight bits of the data. -/
theorem leftBit_load (val : Word32) (data i : ℕ) :
    leftBit buf val 0 data i = leftBit buf ((buf data).setWidth 32) 8 (data + 1) i := by
  rw [leftBit, leftBit, if_neg (Nat.not_lt_zero i), Nat.sub_zero]
  by_cases hbyte : i < 8
  · rw [if_pos hbyte, bufBit, Nat.div_eq_of_lt hbyte, Nat.mod_eq_of_lt hbyte,
      BitVec.getLsbD_setWidth, decide_eq_true (by omega), Bool.true_and]
    rfl
  · rw [if_neg hbyte, ← bufBit_add buf data 1]
    congr 1
    omega

/-- The loop of `SWJ_Sequence`, wherever it stands in a byte. -/
theorem refSwjBits_eq (count : ℕ) (val : Word32) (n data : ℕ) (level : Bool)
    (history : List SwdClock) (loads : List ℕ) (stores : List (ℕ × Byte)) :
    ∃ last, refSwjBits buf count val n data ⟨⟨true, level, history⟩, loads, stores⟩ =
      ⟨⟨true, last, history ++ (List.range count).map fun i => some (leftBit buf val n data i)⟩,
        loads ++ List.range' data ((count - n + 7) / 8), stores⟩ := by
  induction count generalizing val n data level history loads with
  | zero => exact ⟨level, by simp [refSwjBits]⟩
  | succ count ih =>
      -- one turn, once a byte with bits left is at hand
      have hturn (val : Word32) (n data : ℕ) (loads : List ℕ) :
          ∃ last, refSwjBits buf count (val >>> 1) n data
              ⟨⟨true, val.getLsbD 0, history ++ [some (val.getLsbD 0)]⟩, loads, stores⟩ =
            ⟨⟨true, last, history ++
                (List.range (count + 1)).map fun i => some (leftBit buf val (n + 1) data i)⟩,
              loads ++ List.range' data ((count - n + 7) / 8), stores⟩ := by
        obtain ⟨last, hrest⟩ := ih (val >>> 1) n data (val.getLsbD 0)
          (history ++ [some (val.getLsbD 0)]) loads
        refine ⟨last, ?_⟩
        rw [hrest, List.range_succ_eq_map, List.map_cons, List.map_map, List.append_assoc,
          List.singleton_append]
        congr 4
        apply List.map_congr_left
        intro i _
        exact congrArg some (leftBit_shift buf val n data i).symm
      cases n with
      | zero =>
          obtain ⟨last, hrun⟩ := hturn ((buf data).setWidth 32) 7 (data + 1) (loads ++ [data])
          refine ⟨last, ?_⟩
          have hcount : (count + 1 - 0 + 7) / 8 = (count - 7 + 7) / 8 + 1 := by omega
          rw [refSwjBits, if_pos rfl, hcount, List.range'_succ]
          refine hrun.trans ?_
          simp only [leftBit_load buf val data, List.append_assoc, List.singleton_append]
      | succ n =>
          obtain ⟨last, hrun⟩ := hturn val n data loads
          refine ⟨last, ?_⟩
          rw [refSwjBits, if_neg (Nat.succ_ne_zero n), Nat.add_sub_add_right]
          exact hrun

/-- `SWJ_Sequence` drives its bits and fetches the bytes that these are in. -/
theorem refSwjSequence_eq (count data : ℕ) (level : Bool) (history : List SwdClock)
    (loads : List ℕ) (stores : List (ℕ × Byte)) :
    ∃ last, refSwjSequence buf count data ⟨⟨true, level, history⟩, loads, stores⟩ =
      ⟨⟨true, last, history ++ bufClocks buf data count⟩,
        loads ++ List.range' data ((count + 7) / 8), stores⟩ :=
  refSwjBits_eq buf count 0#32 0 data level history loads stores

end Loops

/-! ## Bytes over the SPI -/

section Bytes

variable {α : Type*}

theorem flatten_toChunksGo (n : ℕ) (items : List α) (chunk : Array α) (chunks : Array (List α)) :
    (List.toChunks.go n items chunk chunks).flatten =
      chunks.toList.flatten ++ chunk.toList ++ items := by
  induction items generalizing chunk chunks with
  | nil => simp [List.toChunks.go]
  | cons item rest ih =>
      rw [List.toChunks.go]
      split_ifs <;> simp [ih]

/-- The chunks of a list are the list. -/
theorem flatten_toChunks (n : ℕ) (items : List α) : (items.toChunks n).flatten = items := by
  cases items with
  | nil => rfl
  | cons item rest =>
      cases n with
      | zero => simp [List.toChunks]
      | succ n =>
          rw [List.toChunks, flatten_toChunksGo]
          · rfl
          · exact Nat.succ_ne_zero n

variable (wiring : Wiring) (line : SwdLine)

/-- Whatever the chunks, `swd_write_bytes` drives the bits of its bytes. -/
theorem swdWriteBytes_line (data : List Byte) (port : SwdPort) (history : List SwdClock) :
    (swdWriteBytes wiring (lineTransfer line) data (port, history)).2 =
      history ++ data.flatMap fun byte => unitClocks 8 (byte.setWidth 32) := by
  have hchunks (chunks : List (List Byte)) (port : SwdPort) (hbits : port.dataBits = 8)
      (history : List SwdClock) :
      (chunks.foldl (fun p chunk =>
          (spiCall (lineTransfer line) .writeOnly (chunk.map (BitVec.setWidth 32)) p).2)
        (port, history)).2 =
        history ++ chunks.flatten.flatMap fun byte => unitClocks 8 (byte.setWidth 32) := by
    induction chunks generalizing port history with
    | nil => exact (List.append_nil _).symm
    | cons chunk rest ih =>
        rw [List.foldl_cons, List.flatten_cons, List.flatMap_append, ← List.append_assoc]
        refine (ih { port with transMode := .writeOnly } hbits _).trans ?_
        congr 2
        simp only [frameClocks, hbits, List.flatMap_map]
  have hbits (port : SwdPort) : (spiSetDataBits 8 port).dataBits = 8 :=
    dataBits_spiSetDataBits (by decide) (by decide) port
  have hall := hchunks (data.toChunks 256)
  rw [flatten_toChunks] at hall
  cases wiring with
  | singleWire => exact hall _ (hbits (spiSetDrive true port)) history
  | twoWire => exact hall _ (hbits port) history

end Bytes

end ExLink.Swd
