/-
# Sequences over the SPI

`SWJ_Sequence` and `SWD_Sequence` of `dap_swd_spi.c` against those of `SW_DP.c`. The first
two work in bytes and in units of up to 32 bits, the others bit by bit. The clocks on the
line, the bytes fetched and the bytes stored are the same.
-/

import ExLink.Dap.SequenceNeeds
import ExLink.Swd.Sequence

namespace ExLink.Dap

open ExLink.Automata ExLink.Automata.Prog
open ExLink.Swd

/-! ## Sequences on a line -/

/-- `SWD_Sequence`. -/
def swdSequence (buf : Buf) (info : Byte) (swdo swdi : ℕ) : DapM Unit :=
  if CapturesInput info then swdSequenceIn swdi (sequenceUnits (sequenceClocks info))
  else swdSequenceOut buf swdo (sequenceUnits (sequenceClocks info))

/-- The loop of `DAP_SWD_Sequence` sets the direction of SWDIO and calls `SWD_Sequence`. -/
theorem swdSequences_succ (buf : Buf) (request response sequenceCount requestCount
    responseCount : ℕ) :
    swdSequences buf request response (sequenceCount + 1) requestCount responseCount = (do
      let info ← loadByte buf (request + requestCount)
      if CapturesInput info then ask (.pinDirection .swdioTms false)
      else ask (.pinDirection .swdioTms true)
      swdSequence buf info (request + requestCount + 1) (response + responseCount)
      if sequenceCount = 0 then ask (.pinDirection .swdioTms true) else pure ()
      let bytes := bytesFor (sequenceClocks info)
      if CapturesInput info then
        swdSequences buf request response sequenceCount (requestCount + 1) (responseCount + bytes)
      else
        swdSequences buf request response sequenceCount (requestCount + (bytes + 1))
          responseCount) := by
  rw [swdSequences]
  apply bind_congr
  intro info
  by_cases hinput : CapturesInput info
  · simp only [swdSequence, if_pos hinput]
  · simp only [swdSequence, if_neg hinput]

/-- The SWD port and the line behind it, with the bytes fetched and stored so far and the
sizes of the bit phases. -/
structure SequenceLine where
  port : SwdPort
  history : List SwdClock
  loads : List ℕ
  stores : List (ℕ × Byte)
  phases : List ℕ

/-- The memory and the bit phases behind a sequence. -/
def sequenceAnswer (wiring : Wiring) (line : SwdLine) :
    Environment DapOp DapOp.Answer SequenceLine := fun e op =>
  match op with
  | .load offset => some ((), { e with loads := e.loads ++ [offset] })
  | .store offset byte => some ((), { e with stores := e.stores ++ [(offset, byte)] })
  | .swdReadBits nbits =>
      let (got, port, history) :=
        swdReadBits wiring (lineTransfer line) nbits (e.port, e.history)
      some (got.setWidth nbits,
        { e with port := port, history := history, phases := e.phases ++ [nbits] })
  | .swdWriteBits val nbits =>
      let (port, history) := swdWriteBits wiring (lineTransfer line) val nbits (e.port, e.history)
      some ((), { e with port := port, history := history, phases := e.phases ++ [nbits] })
  | .swdWriteBytes bytes =>
      let (port, history) := swdWriteBytes wiring (lineTransfer line) bytes (e.port, e.history)
      some ((), { e with port := port, history := history })
  -- a sequence asks nothing else
  | _ => none

/-! ## Units -/

/-- The loop over the units: 32 clocks, or all that remain. -/
theorem sequenceUnits_of_ne {remain : ℕ} (hne : remain ≠ 0) :
    sequenceUnits remain = min 32 remain :: sequenceUnits (remain - min 32 remain) := by
  rcases Nat.lt_or_ge remain 32 with hlt | hle
  · rw [Nat.min_eq_right hlt.le, Nat.sub_self, sequenceUnits, Nat.div_eq_of_lt hlt,
      Nat.mod_eq_of_lt hlt, if_neg hne]
    rfl
  · have hwhole : remain / 32 = (remain - 32) / 32 + 1 := by omega
    have hrest : remain % 32 = (remain - 32) % 32 := by omega
    rw [Nat.min_eq_left hle, sequenceUnits, sequenceUnits, hwhole, hrest, List.replicate_succ,
      List.cons_append]

@[simp]
theorem sequenceUnits_zero : sequenceUnits 0 = [] := rfl

/-- A unit has the bits of its bytes. -/
theorem unitClocks_unitWord (buf : Buf) (offset : ℕ) {nbits : ℕ} (hle : nbits ≤ 32) :
    unitClocks nbits (unitWord (bytesAt buf offset (bytesFor nbits))) =
      bufClocks buf offset nbits := by
  apply List.map_congr_left
  intro i hi
  have hlt := List.mem_range.mp hi
  have hlength : (bytesAt buf offset (bytesFor nbits)).length = bytesFor nbits := by
    rw [bytesAt, Buf.length_prefixBytes]
  have hindex : i / 8 < (bytesAt buf offset (bytesFor nbits)).length := by
    rw [hlength, bytesFor]
    omega
  have hbit := getLsbD_unitWord hindex (by omega) (Nat.mod_lt i (by decide))
  rw [Nat.div_add_mod] at hbit
  rw [hbit, bufBit]
  simp [bytesAt, Buf.prefixBytes]

/-- The bytes of a captured unit are its bits, eight to a byte. -/
theorem unitBytes_wordOfBits {bits : List Bool} (hle : bits.length ≤ 32) :
    unitBytes bits.length (wordOfBits 32 bits) = bitsBytes bits := by
  apply List.map_congr_left
  intro index hindex
  have hlt := List.mem_range.mp hindex
  rw [bytesFor] at hlt
  apply BitVec.eq_of_getLsbD_eq
  intro i hi
  have hword : 8 * index + i < 32 := by omega
  rw [BitVec.getLsbD_setWidth, BitVec.getLsbD_ushiftRight, getLsbD_wordOfBits,
    getLsbD_wordOfBits, decide_eq_true hword, Bool.true_and, List.getD_eq_getElem?_getD,
    List.getD_eq_getElem?_getD, List.getElem?_drop]

/-! ## Runs -/

section Runs

variable (wiring : Wiring) (line : SwdLine) (buf : Buf) {s : DapData}

theorem outcome_loadBytes (offset count : ℕ) (e : SequenceLine) :
    Outcome (sequenceAnswer wiring line) (loadBytes buf offset count) s e =
      some ((bytesAt buf offset count, s),
        { e with loads := e.loads ++ List.range' offset count }) := by
  induction count generalizing offset e with
  | zero =>
      rw [loadBytes, outcome_pure, List.range'_zero, List.append_nil]
      rfl
  | succ count ih =>
      have hbytes : bytesAt buf offset (count + 1) =
          buf offset :: bytesAt buf (offset + 1) count := bytesAt_succ buf offset count
      simp only [loadBytes, loadByte, ask, outcome_bind, outcome_perform, outcome_pure,
        sequenceAnswer, ih, hbytes, Option.map_some, Option.bind_some, List.range'_succ,
        List.append_assoc, List.singleton_append]

theorem outcome_storeBytes (offset : ℕ) (bytes : List Byte) (e : SequenceLine) :
    Outcome (sequenceAnswer wiring line) (storeBytes offset bytes) s e =
      some (((), s), { e with stores := e.stores ++ storesAt offset bytes }) := by
  induction bytes generalizing offset e with
  | nil => rw [storeBytes, outcome_pure, storesAt, List.append_nil]
  | cons byte rest ih =>
      simp only [storeBytes, storeByte, ask, outcome_bind, outcome_perform, sequenceAnswer, ih,
        storesAt, Option.map_some, Option.bind_some, List.append_assoc, List.singleton_append]

variable (port : SwdPort) (history : List SwdClock) (loads : List ℕ) (stores : List (ℕ × Byte))
  (phases : List ℕ) {nbits : ℕ}

theorem outcome_swdWriteBits (hpos : 0 < nbits) (hle : nbits ≤ 32) (val : Word32) :
    Outcome (sequenceAnswer wiring line) (ask (.swdWriteBits val nbits)) s
        ⟨port, history.map (onWire wiring), loads, stores, phases⟩ =
      some (((), s), ⟨afterPhase wiring true nbits port,
        (history ++ unitClocks nbits val).map (onWire wiring), loads, stores,
        phases ++ [nbits]⟩) := by
  rw [ask, outcome_perform, sequenceAnswer, swdWriteBits_line wiring line port history hpos hle]
  rfl

theorem outcome_swdReadBits (hpos : 0 < nbits) (hle : nbits ≤ 32) :
    let bits := levels (referenceLine wiring line) history (List.replicate nbits none)
    Outcome (sequenceAnswer wiring line) (ask (.swdReadBits nbits)) s
        ⟨port, history.map (onWire wiring), loads, stores, phases⟩ =
      some (((wordOfBits 32 bits).setWidth nbits, s), ⟨afterPhase wiring false nbits port,
        (history ++ List.replicate nbits none).map (onWire wiring), loads, stores,
        phases ++ [nbits]⟩) := by
  intro bits
  rw [ask, outcome_perform, sequenceAnswer, swdReadBits_line wiring line port history hpos hle]
  rfl

/-- `SWD_Sequence` drives the bits of the data, in units. -/
theorem outcome_swdSequenceOut (remain swdo : ℕ) :
    ∃ port', Outcome (sequenceAnswer wiring line)
        (swdSequenceOut buf swdo (sequenceUnits remain)) s
        ⟨port, history.map (onWire wiring), loads, stores, phases⟩ =
      some (((), s), ⟨port', (history ++ bufClocks buf swdo remain).map (onWire wiring),
        loads ++ List.range' swdo ((remain + 7) / 8), stores,
        phases ++ sequenceUnits remain⟩) := by
  induction remain using Nat.strong_induction_on
    generalizing swdo port history loads phases with
  | _ remain ih =>
      by_cases hzero : remain = 0
      · subst hzero
        exact ⟨port, by simp [swdSequenceOut, bufClocks]⟩
      · obtain ⟨port', hrest⟩ := ih (remain - min 32 remain) (by omega)
          (afterPhase wiring true (min 32 remain) port)
          (history ++ bufClocks buf swdo (min 32 remain))
          (loads ++ List.range' swdo (bytesFor (min 32 remain))) (phases ++ [min 32 remain])
          (swdo + bytesFor (min 32 remain))
        have hclocks : bufClocks buf swdo (min 32 remain) ++
            bufClocks buf (swdo + bytesFor (min 32 remain)) (remain - min 32 remain) =
              bufClocks buf swdo remain := by
          rcases Nat.le_total 32 remain with hlong | hshort
          · rw [Nat.min_eq_left hlong]
            exact (bufClocks_add buf swdo 4 (remain - 32)).symm.trans (by congr 1; omega)
          · rw [Nat.min_eq_right hshort, Nat.sub_self]
            exact List.append_nil _
        have hbytes : List.range' swdo (bytesFor (min 32 remain)) ++
            List.range' (swdo + bytesFor (min 32 remain)) ((remain - min 32 remain + 7) / 8) =
              List.range' swdo ((remain + 7) / 8) := by
          rw [List.range'_append_1, bytesFor]
          congr 1
          omega
        refine ⟨port', ?_⟩
        rw [sequenceUnits_of_ne hzero, swdSequenceOut,
          outcome_bind_of (outcome_loadBytes wiring line buf _ _ _),
          outcome_bind_of (outcome_swdWriteBits wiring line _ _ _ _ _ (by omega)
            (Nat.min_le_left 32 remain) _),
          unitClocks_unitWord buf swdo (Nat.min_le_left 32 remain), hrest]
        simp only [List.append_assoc, List.singleton_append, hclocks, hbytes]

/-- `SWD_Sequence` samples the clocks, in units, and stores what it sampled. -/
theorem outcome_swdSequenceIn (remain swdi : ℕ) :
    ∃ port', Outcome (sequenceAnswer wiring line)
        (swdSequenceIn swdi (sequenceUnits remain)) s
        ⟨port, history.map (onWire wiring), loads, stores, phases⟩ =
      some (((), s), ⟨port', (history ++ List.replicate remain none).map (onWire wiring), loads,
        stores ++ storesAt swdi (bitsBytes
          (levels (referenceLine wiring line) history (List.replicate remain none))),
        phases ++ sequenceUnits remain⟩) := by
  induction remain using Nat.strong_induction_on
    generalizing swdi port history stores phases with
  | _ remain ih =>
      by_cases hzero : remain = 0
      · subst hzero
        exact ⟨port, by simp [swdSequenceIn, storesAt]⟩
      · set first := levels (referenceLine wiring line) history
            (List.replicate (min 32 remain) none) with hfirst
        have hlen : first.length = min 32 remain := by
          rw [hfirst, length_levels, List.length_replicate]
        have hword : ((wordOfBits 32 first).setWidth (min 32 remain)).setWidth 32 =
            wordOfBits 32 first := received_wordOfBits hlen .success
        have hbytes : unitBytes (min 32 remain) (wordOfBits 32 first) = bitsBytes first := by
          rw [← hlen]
          exact unitBytes_wordOfBits (by omega)
        have hsplit : List.replicate remain (none : SwdClock) =
            List.replicate (min 32 remain) none ++
              List.replicate (remain - min 32 remain) none := by
          rw [List.replicate_append_replicate, Nat.add_sub_cancel' (Nat.min_le_right 32 remain)]
        have hstores (rest : List Bool) (hrest : rest.length = remain - min 32 remain) :
            storesAt swdi (bitsBytes (first ++ rest)) =
              storesAt swdi (bitsBytes first) ++
                storesAt (swdi + bytesFor (min 32 remain)) (bitsBytes rest) := by
          have hcount : bytesFor (min 32 remain) = (bitsBytes first).length := by
            rw [length_bitsBytes, hlen, bytesFor]
          rw [hcount, ← storesAt_append]
          rcases Nat.le_total 32 remain with hlong | hshort
          · rw [bitsBytes_append (by omega)]
          · rw [List.length_eq_zero_iff.mp (show rest.length = 0 by omega), List.append_nil,
              bitsBytes_nil, List.append_nil]
        obtain ⟨port', hrest⟩ := ih (remain - min 32 remain) (by omega)
          (afterPhase wiring false (min 32 remain) port)
          (history ++ List.replicate (min 32 remain) none)
          (stores ++ storesAt swdi (bitsBytes first)) (phases ++ [min 32 remain])
          (swdi + bytesFor (min 32 remain))
        refine ⟨port', ?_⟩
        rw [sequenceUnits_of_ne hzero, swdSequenceIn,
          outcome_bind_of (outcome_swdReadBits wiring line _ _ _ _ _ (by omega)
            (Nat.min_le_left 32 remain)), ← hfirst, hword, hbytes,
          outcome_bind_of (outcome_storeBytes wiring line _ _ _), hrest, hsplit, levels_append,
          ← hfirst, hstores _ (by rw [length_levels, List.length_replicate])]
        simp only [List.append_assoc, List.singleton_append]

/-- Whole bytes of the data, as they are shifted. -/
theorem flatMap_unitClocks_bytesAt (data count : ℕ) :
    ((bytesAt buf data count).flatMap fun byte => unitClocks 8 (byte.setWidth 32)) =
      bufClocks buf data (8 * count) := by
  induction count generalizing data with
  | zero => rfl
  | succ count ih =>
      rw [bytesAt_succ, List.flatMap_cons, ih, ← bufClocks_byte buf data (Nat.le_refl 8),
        Nat.mul_succ, Nat.add_comm _ 8]
      exact (bufClocks_add buf data 1 (8 * count)).symm

theorem outcome_swdWriteBytes (bytes : List Byte) :
    ∃ port', Outcome (sequenceAnswer wiring line) (ask (.swdWriteBytes bytes)) s
        ⟨port, history.map (onWire wiring), loads, stores, phases⟩ =
      some (((), s), ⟨port',
        (history ++ bytes.flatMap fun byte => unitClocks 8 (byte.setWidth 32)).map
          (onWire wiring), loads, stores, phases⟩) := by
  refine ⟨(swdWriteBytes wiring (lineTransfer line) bytes (port, history.map (onWire wiring))).1,
    ?_⟩
  have hdriven : (bytes.flatMap fun byte => unitClocks 8 (byte.setWidth 32)).map
      (onWire wiring) = bytes.flatMap fun byte => unitClocks 8 (byte.setWidth 32) := by
    simp only [List.map_flatMap, map_onWire_unitClocks]
  rw [ask, outcome_perform, List.map_append, hdriven,
    ← swdWriteBytes_line wiring line bytes port (history.map (onWire wiring))]
  rfl

/-- The whole bytes of `SWJ_Sequence`. -/
theorem outcome_wholeBytes (data full : ℕ) :
    ∃ port', Outcome (sequenceAnswer wiring line)
        (if full ≠ 0 then loadBytes buf data full >>= fun bytes => ask (.swdWriteBytes bytes)
          else pure ()) s ⟨port, history.map (onWire wiring), loads, stores, phases⟩ =
      some (((), s), ⟨port', (history ++ bufClocks buf data (8 * full)).map (onWire wiring),
        loads ++ List.range' data full, stores, phases⟩) := by
  by_cases hfull : full = 0
  · subst hfull
    exact ⟨port, by simp [bufClocks]⟩
  · obtain ⟨port', hbytes⟩ := outcome_swdWriteBytes wiring line port history
      (loads ++ List.range' data full) stores phases (bytesAt buf data full) (s := s)
    refine ⟨port', ?_⟩
    rw [if_pos hfull, outcome_bind_of (outcome_loadBytes wiring line buf _ _ _), hbytes,
      flatMap_unitClocks_bytesAt]

/-- The bits that are left. -/
theorem outcome_restBits (data : ℕ) {rem : ℕ} (hlt : rem < 8) :
    ∃ port' phases', Outcome (sequenceAnswer wiring line)
        (if rem ≠ 0 then loadByte buf data >>= fun last =>
            ask (.swdWriteBits (last.setWidth 32) rem)
          else pure ()) s ⟨port, history.map (onWire wiring), loads, stores, phases⟩ =
      some (((), s), ⟨port', (history ++ bufClocks buf data rem).map (onWire wiring),
        loads ++ List.range' data (bytesFor rem), stores, phases ++ phases'⟩) ∧
      ∀ nbits ∈ phases', 1 ≤ nbits ∧ nbits ≤ 32 := by
  by_cases hrem : rem = 0
  · subst hrem
    refine ⟨port, [], ?_, fun _ h => absurd h List.not_mem_nil⟩
    simp [bufClocks, bytesFor]
  · have hone : bytesFor rem = 1 := by
      rw [bytesFor]
      omega
    refine ⟨afterPhase wiring true rem port, [rem], ?_, ?_⟩
    · rw [if_pos hrem, loadByte, bind_assoc, ask, outcome_bind, outcome_perform, hone,
        bufClocks_byte buf data hlt.le]
      exact outcome_swdWriteBits wiring line port history _ stores phases (by omega) (by omega) _
    · intro nbits hmem
      obtain rfl := List.mem_singleton.mp hmem
      omega

theorem swjSequence_halves (count data : ℕ) :
    swjSequence buf count data =
      (if count / 8 ≠ 0 then loadBytes buf data (count / 8) >>= fun bytes =>
            ask (.swdWriteBytes bytes)
        else pure ()) >>= fun _ =>
      if count % 8 ≠ 0 then loadByte buf (data + count / 8) >>= fun last =>
          ask (.swdWriteBits (last.setWidth 32) (count % 8))
      else pure () := by
  by_cases hfull : count / 8 = 0
  · simp only [swjSequence, hfull, ne_eq, not_true_eq_false, if_false, pure_bind]
  · simp only [swjSequence, hfull, ne_eq, not_false_eq_true, if_true, bind_assoc]

/-- `SWJ_Sequence` drives the bits of the data, whole bytes first. -/
theorem outcome_swjSequence (count data : ℕ) :
    ∃ port' phases', Outcome (sequenceAnswer wiring line) (swjSequence buf count data) s
        ⟨port, history.map (onWire wiring), loads, stores, phases⟩ =
      some (((), s), ⟨port', (history ++ bufClocks buf data count).map (onWire wiring),
        loads ++ List.range' data ((count + 7) / 8), stores, phases ++ phases'⟩) ∧
      ∀ nbits ∈ phases', 1 ≤ nbits ∧ nbits ≤ 32 := by
  obtain ⟨middle, hwhole⟩ := outcome_wholeBytes wiring line buf port history loads stores phases
    data (count / 8) (s := s)
  obtain ⟨port', phases', hrest, hbounds⟩ := outcome_restBits wiring line buf middle
    (history ++ bufClocks buf data (8 * (count / 8))) (loads ++ List.range' data (count / 8))
    stores phases (data + count / 8) (Nat.mod_lt count (by decide)) (s := s)
  have hclocks : bufClocks buf data (8 * (count / 8)) ++
      bufClocks buf (data + count / 8) (count % 8) = bufClocks buf data count := by
    rw [← bufClocks_add, Nat.div_add_mod]
  have hbytes : List.range' data (count / 8) ++
      List.range' (data + count / 8) (bytesFor (count % 8)) =
        List.range' data ((count + 7) / 8) := by
    rw [List.range'_append_1, bytesFor]
    congr 1
    omega
  refine ⟨port', phases', ?_, hbounds⟩
  rw [List.append_assoc, hclocks, List.append_assoc, hbytes] at hrest
  rw [swjSequence_halves, outcome_bind_of hwhole]
  exact hrest

end Runs

/-! ## Against the bit-banged sequences -/

/-- A run has left on the wire, fetched and stored what the bit-banged sequence has, and its
bit phases had a width that the SPI can shift. -/
structure SequenceLine.Matches (wiring : Wiring) (e : SequenceLine)
    (reference : SequencePins) : Prop where
  clocks : e.history = reference.pins.history.map (onWire wiring)
  loads : e.loads = reference.loads
  stores : e.stores = reference.stores
  phases : ∀ nbits ∈ e.phases, 1 ≤ nbits ∧ nbits ≤ 32

/-- The line before a sequence. -/
def sequenceStart (wiring : Wiring) (port : SwdPort) (pins : SwdPins) : SequenceLine :=
  ⟨port, pins.history.map (onWire wiring), [], [], []⟩

/-- `SWJ_Sequence`, and `SWD_Sequence` in the direction that `DAP_SWD_Sequence` sets for it,
make the clocks of the bit-banged sequences with the same bits driven, whatever the levels of
the line, fetch and store the same bytes, and shift no bit phase outside 1 to 32. The bytes
fetched are those of the data, rounded up, and those stored the sampled levels, eight to a
byte from bit 0 on. -/
theorem sequences_match (wiring : Wiring) (line : SwdLine) (buf : Buf) (port : SwdPort)
    (pins : SwdPins) (s : DapData) :
    (∀ count data, ∃ e,
      Outcome (sequenceAnswer wiring line) (swjSequence buf count data) s
          (sequenceStart wiring port pins) = some (((), s), e) ∧
        e.Matches wiring (refSwjSequence buf count data ⟨pins.outEnable true, [], []⟩) ∧
        e.loads = List.range' data ((count + 7) / 8) ∧ e.stores = []) ∧
      ∀ info swdo swdi, ∃ e,
        Outcome (sequenceAnswer wiring line) (swdSequence buf info swdo swdi) s
            (sequenceStart wiring port pins) = some (((), s), e) ∧
          e.Matches wiring (refSwdSequence (referenceLine wiring line) buf info swdo swdi
            ⟨pins.outEnable (¬ CapturesInput info), [], []⟩) ∧
          if CapturesInput info then
            e.loads = [] ∧
              e.stores = storesAt swdi (bitsBytes (levels (referenceLine wiring line)
                pins.history (List.replicate (sequenceClocks info) none)))
          else
            e.loads = List.range' swdo ((sequenceClocks info + 7) / 8) ∧ e.stores = [] := by
  obtain ⟨enabled, level, history⟩ := pins
  constructor
  · intro count data
    obtain ⟨port', phases, hrun, hphases⟩ :=
      outcome_swjSequence wiring line buf port history [] [] [] count data (s := s)
    obtain ⟨last, hreference⟩ := refSwjSequence_eq buf count data level history [] []
    refine ⟨_, hrun, ?_, rfl, rfl⟩
    rw [SwdPins.outEnable, hreference]
    exact ⟨rfl, rfl, rfl, hphases⟩
  · intro info swdo swdi
    have hphases : ∀ nbits ∈ sequenceUnits (sequenceClocks info), 1 ≤ nbits ∧ nbits ≤ 32 := by
      intro nbits hmem
      obtain ⟨hne, hle⟩ := mem_sequenceUnits hmem
      exact ⟨Nat.pos_of_ne_zero hne, hle⟩
    by_cases hinput : CapturesInput info
    · obtain ⟨port', hrun⟩ := outcome_swdSequenceIn wiring line port history [] [] []
        (sequenceClocks info) swdi (s := s)
      have hsequence : swdSequence buf info swdo swdi =
          swdSequenceIn swdi (sequenceUnits (sequenceClocks info)) := if_pos hinput
      have hdirection : decide (¬ CapturesInput info) = false :=
        decide_eq_false (not_not.mpr hinput)
      have hreference : refSwdSequence (referenceLine wiring line) buf info swdo swdi
          ⟨⟨false, level, history⟩, [], []⟩ = _ :=
        (if_pos hinput).trans (refSequenceIn_eq _ (refSequenceClocks info) swdi level history [] [])
      rw [hsequence]
      refine ⟨_, hrun, ?_, ?_⟩
      · rw [hdirection, SwdPins.outEnable, hreference]
        exact ⟨rfl, rfl, rfl, hphases⟩
      · rw [if_pos hinput]
        exact ⟨rfl, rfl⟩
    · obtain ⟨port', hrun⟩ := outcome_swdSequenceOut wiring line buf port history [] [] []
        (sequenceClocks info) swdo (s := s)
      obtain ⟨last, hout⟩ := refSequenceOut_eq buf (refSequenceClocks info) swdo level history [] []
      have hsequence : swdSequence buf info swdo swdi =
          swdSequenceOut buf swdo (sequenceUnits (sequenceClocks info)) := if_neg hinput
      have hdirection : decide (¬ CapturesInput info) = true := decide_eq_true hinput
      have hreference : refSwdSequence (referenceLine wiring line) buf info swdo swdi
          ⟨⟨true, level, history⟩, [], []⟩ = _ := (if_neg hinput).trans hout
      rw [hsequence]
      refine ⟨_, hrun, ?_, ?_⟩
      · rw [hdirection, SwdPins.outEnable, hreference]
        exact ⟨rfl, rfl, rfl, hphases⟩
      · rw [if_neg hinput]
        exact ⟨rfl, rfl⟩

end ExLink.Dap
