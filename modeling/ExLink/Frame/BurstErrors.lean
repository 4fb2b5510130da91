/-
# Bursts in a frame

A burst of at most sixteen bits that stays in front of the CRC field or inside it is always
detected. The CRC bytes follow low byte first, so the exponents jump at the start of the
field: a burst across it is no burst of the register. One byte of the damage then determines
the rest, and going through the bytes leaves twelve patterns that pass the check.
-/

import ExLink.Frame.BitErrors

namespace ExLink.Frame

open Polynomial ExLink.Gf2

/-! ## Bursts on one side of the CRC field -/

section OneSide

variable {covered start : ℕ} {flips : Finset ℕ}

/-- A burst that ends in front of the CRC field. -/
theorem not_undetected_before (hne : flips.Nonempty)
    (hburst : ∀ bit ∈ flips, start ≤ bit ∧ bit < start + 16)
    (hbefore : ∀ bit ∈ flips, bit < 8 * covered) : ¬ Undetected covered flips := by
  rw [undetected_iff fun bit hbit => by have := hbefore bit hbit; omega]
  apply not_dvd_setPoly_of_burst isUnit_residueX_crc16 (hne.image _)
  · intro exponent hexponent
    obtain ⟨bit, hbit, rfl⟩ := Finset.mem_image.mp hexponent
    have hlt := hbefore bit hbit
    have := hburst bit hbit
    rw [wireExponent, if_pos (by omega)]
    show 8 * covered - start ≤ _ ∧ _
    omega

/-- A burst inside the CRC field. -/
theorem not_undetected_inside (hne : flips.Nonempty)
    (hinside : ∀ bit ∈ flips, 8 * covered ≤ bit ∧ bit < 8 * (covered + 2)) :
    ¬ Undetected covered flips := by
  rw [undetected_iff fun bit hbit => (hinside bit hbit).2]
  apply not_dvd_setPoly_of_burst isUnit_residueX_crc16 (hne.image _)
  · intro exponent hexponent
    obtain ⟨bit, hbit, rfl⟩ := Finset.mem_image.mp hexponent
    have := hinside bit hbit
    show 0 ≤ _ ∧ _
    rw [wireExponent, if_neg (by omega)]
    split_ifs <;> omega

end OneSide

/-! ## Bursts across the start of the CRC field -/

/-- A burst of sixteen bits, `count` of them in front of the CRC field, in the last two
covered bytes and the two CRC bytes: the words in the order of the wire. -/
def Straddles (count : ℕ) (first second low high : Byte) : Prop :=
  2 ^ count ∣ (Word16.ofBytes high low).toNat ∧ (Word16.ofBytes second first).toNat < 2 ^ count

instance (count : ℕ) (first second low high : Byte) :
    Decidable (Straddles count first second low high) := by
  unfold Straddles
  infer_instance

/-- What the bursts that go undetected do to these four bytes. -/
def undetectedBursts : List (List Byte) :=
  [[0x00, 0x01, 0x21, 0x10], [0x00, 0x02, 0x42, 0x20], [0x00, 0x03, 0x63, 0x30],
    [0x00, 0x04, 0x84, 0x40], [0x00, 0x05, 0xA5, 0x50], [0x00, 0x06, 0xC6, 0x60],
    [0x00, 0x07, 0xE7, 0x70], [0x00, 0x89, 0xA1, 0x00], [0x02, 0x35, 0x94, 0x00],
    [0x08, 0xC5, 0x40, 0x00], [0x11, 0x8A, 0x80, 0x00], [0x19, 0x4F, 0xC0, 0x00]]

/-- They lie on both sides of the start of the field and pass the check. -/
theorem undetectedBursts_pass : ∀ masks ∈ undetectedBursts,
    masks.take 2 ≠ [0#8, 0#8] ∧ masks.drop 2 ≠ [0#8, 0#8] ∧
      Word16.ofBytes (masks.getD 2 0#8) (masks.getD 3 0#8) =
        exlinkCrc16Update 0#16 (masks.take 2) := by
  decide +kernel

/-- With at most eight bits in front of the field, the second byte determines the CRC. -/
theorem straddles_short : ∀ second : Byte, second ≠ 0#8 → ∀ count ≤ 8,
    let crc := exlinkCrc16Update 0#16 [0#8, second]
    Straddles count 0#8 second crc.lowByte crc.highByte →
      [0#8, second, crc.lowByte, crc.highByte] ∈ undetectedBursts := by
  decide +kernel

/-- With more, the low CRC byte determines the two bytes in front of it. -/
theorem straddles_long : ∀ low : Byte, low ≠ 0#8 → ∀ more < 7,
    let last : Word16 := mulWord exlinkCrc16Poly 0x9D71#16 16 (Word16.ofBytes low 0#8)
    Straddles (9 + more) last.highByte last.lowByte low 0#8 →
      [last.highByte, last.lowByte, low, 0#8] ∈ undetectedBursts := by
  decide +kernel

/-- The last two covered bytes as the CRC determines them. -/
theorem ofBytes_eq_mulWord (first second : Byte) :
    Word16.ofBytes second first =
      mulWord exlinkCrc16Poly 0x9D71#16 16 (exlinkCrc16Update 0#16 [first, second]) := by
  have hmessage : messagePoly [first, second] = wordPoly (Word16.ofBytes second first) := by
    have hsplit : [first, second] = [] ++ [first] ++ [second] := rfl
    rw [hsplit, messagePoly_concat, messagePoly_concat, messagePoly_nil, wordPoly_ofBytes]
    ring
  have hinverse : powX exlinkCrc16Poly (List.replicate 4 true ++ false :: List.replicate 10 true) =
      0x9D71#16 := by decide +kernel
  have hexponent : bitsValue (List.replicate 4 true ++ false :: List.replicate 10 true) = 32751 :=
    rfl
  apply (residue_wordPoly_inj exlinkCrc16Poly).mp
  rw [residue_mulWord _ _ _ _ fun i hi => BitVec.getLsbD_of_ge _ i hi, ← hinverse,
    residue_powX _ (by decide), hexponent, residue_exlinkCrc16Update, wordPoly_zero, zero_mul,
    add_zero, hmessage, map_mul, map_pow, ← residueX]
  calc residue exlinkCrc16Poly (wordPoly (Word16.ofBytes second first))
      = residueX exlinkCrc16Poly ^ 32767 *
          residue exlinkCrc16Poly (wordPoly (Word16.ofBytes second first)) := by
        rw [residueX_pow_order, one_mul]
    _ = _ := by ring

section Straddle

variable {first second low high : Byte} {count : ℕ}

/-- Bits of the last two covered bytes lie within `count` of the field. -/
theorem Straddles.getLsbD_covered (hstraddles : Straddles count first second low high) {i : ℕ}
    (hi : count ≤ i) : (Word16.ofBytes second first).getLsbD i = false :=
  Nat.testBit_lt_two_pow (hstraddles.2.trans_le (Nat.pow_le_pow_right (by decide) hi))

/-- Bits of the CRC bytes lie within the rest of the burst. -/
theorem Straddles.getLsbD_crc (hstraddles : Straddles count first second low high) {i : ℕ}
    (hi : i < count) : (Word16.ofBytes high low).getLsbD i = false := by
  have hmod := Nat.testBit_mod_two_pow (Word16.ofBytes high low).toNat count i
  rwa [Nat.mod_eq_zero_of_dvd hstraddles.1, Nat.zero_testBit, decide_eq_true hi, Bool.true_and,
    eq_comm] at hmod

/-- Of the bursts across the start of the field, these pass the check. -/
theorem straddle_mem_iff (hcount : count < 16) (hstraddles : Straddles count first second low high)
    (hbefore : [first, second] ≠ [0#8, 0#8]) (hinside : [low, high] ≠ [0#8, 0#8]) :
    Word16.ofBytes low high = exlinkCrc16Update 0#16 [first, second] ↔
      [first, second, low, high] ∈ undetectedBursts := by
  constructor
  · intro hcrc
    rcases Nat.lt_or_ge 8 count with hlong | hshort
    · -- nothing of the burst reaches the high CRC byte
      have hhigh : high = 0#8 := by
        apply BitVec.eq_of_getLsbD_eq
        intro bit hbit
        have hclear := hstraddles.getLsbD_crc (show bit < count by omega)
        rw [Word16.getLsbD_ofBytes, if_pos hbit] at hclear
        rw [hclear, BitVec.getLsbD_zero]
      have hlow : low ≠ 0#8 := by
        rintro rfl
        exact hinside (by rw [hhigh])
      have hlast := ofBytes_eq_mulWord first second
      rw [← hcrc, hhigh] at hlast
      have hfirst := Word16.highByte_ofBytes second first
      have hsecond := Word16.lowByte_ofBytes second first
      rw [hlast] at hfirst hsecond
      obtain ⟨more, rfl⟩ : ∃ more, count = 9 + more := ⟨count - 9, by omega⟩
      rw [← hfirst, ← hsecond, hhigh] at hstraddles ⊢
      exact straddles_long low hlow more (by omega) hstraddles
    · -- nothing of the burst reaches the byte before the last
      have hfirst : first = 0#8 := by
        apply BitVec.eq_of_getLsbD_eq
        intro bit hbit
        have hclear := hstraddles.getLsbD_covered (show count ≤ bit + 8 by omega)
        rw [Word16.getLsbD_ofBytes, if_neg (by omega), Nat.add_sub_cancel] at hclear
        rw [hclear, BitVec.getLsbD_zero]
      have hsecond : second ≠ 0#8 := by
        rintro rfl
        exact hbefore (by rw [hfirst])
      have hlow : low = (exlinkCrc16Update 0#16 [0#8, second]).lowByte := by
        rw [← hfirst, ← hcrc, Word16.lowByte_ofBytes]
      have hhigh : high = (exlinkCrc16Update 0#16 [0#8, second]).highByte := by
        rw [← hfirst, ← hcrc, Word16.highByte_ofBytes]
      rw [hfirst, hlow, hhigh] at hstraddles ⊢
      exact straddles_short second hsecond count hshort hstraddles
  · intro hmem
    exact (undetectedBursts_pass _ hmem).2.2

end Straddle

/-! ## All bursts -/

/-- What flips do to the last four bytes of a frame. -/
def lastMasks (frameLen : ℕ) (flips : Finset ℕ) : List Byte :=
  [flipMask flips (frameLen - 4), flipMask flips (frameLen - 3), flipMask flips (frameLen - 2),
    flipMask flips (frameLen - 1)]

section Bursts

variable {count start : ℕ} {flips : Finset ℕ}

/-- Zeros in front of the damage leave the register at zero. -/
theorem exlinkCrc16Update_replicate_zero (count : ℕ) :
    exlinkCrc16Update 0#16 (List.replicate count 0#8) = 0#16 := by
  induction count with
  | zero => rfl
  | succ count ih =>
      rw [List.replicate_succ', exlinkCrc16Update_append, ih]
      decide

/-- No flips, no damage. -/
theorem flipBits_replicate_zero (hnone : ∀ bit ∈ flips, 8 * count ≤ bit) :
    flipBits flips (List.replicate count 0#8) = List.replicate count 0#8 := by
  induction count with
  | zero => rfl
  | succ count ih =>
      have hmask : flipMask flips count = 0#8 := by
        apply flipMask_eq_zero
        intro bit hbit hindex
        have := hnone bit hbit
        omega
      have hbefore := ih fun bit hbit => by have := hnone bit hbit; omega
      rw [List.replicate_succ', flipBits_concat, hbefore, List.length_replicate, hmask,
        BitVec.xor_zero]

/-- Damage that starts in the last two covered bytes. -/
theorem undetected_iff_last (hlast : ∀ bit ∈ flips, 8 * count ≤ bit) :
    Undetected (count + 2) flips ↔
      Word16.ofBytes (flipMask flips (count + 2)) (flipMask flips (count + 3)) =
        exlinkCrc16Update 0#16 [flipMask flips count, flipMask flips (count + 1)] := by
  have hsplit : flipBits flips (List.replicate (count + 2) 0#8) =
      List.replicate count 0#8 ++ [flipMask flips count, flipMask flips (count + 1)] := by
    rw [List.replicate_succ', List.replicate_succ', flipBits_concat, flipBits_concat,
      flipBits_replicate_zero hlast, List.length_append, List.length_replicate,
      List.length_singleton, BitVec.zero_xor, BitVec.zero_xor, List.append_assoc]
    rfl
  rw [Undetected, hsplit, exlinkCrc16Update_append, exlinkCrc16Update_replicate_zero]

/-- Two bytes in the order of the wire, bit by bit. -/
theorem getLsbD_ofBytes_flipMask (flips : Finset ℕ) (index : ℕ) {i : ℕ} (hi : i < 16) :
    (Word16.ofBytes (flipMask flips (index + 1)) (flipMask flips index)).getLsbD i =
      decide (8 * index + 15 - i ∈ flips) := by
  rw [Word16.getLsbD_ofBytes]
  split_ifs with hlow
  · have hplace : 8 * (index + 1) + (7 - i) = 8 * index + 15 - i := by omega
    rw [getLsbD_flipMask flips _ hlow, hplace]
  · have hplace : 8 * index + (7 - (i - 8)) = 8 * index + 15 - i := by omega
    rw [getLsbD_flipMask flips _ (by omega), hplace]

/-- Two bytes without a flip. -/
theorem masks_eq_zero_iff :
    [flipMask flips count, flipMask flips (count + 1)] = [0#8, 0#8] ↔
      ∀ bit ∈ flips, bit < 8 * count ∨ 8 * (count + 2) ≤ bit := by
  constructor
  · intro hzero bit hbit
    obtain ⟨hfirst, hsecond⟩ :
        flipMask flips count = 0#8 ∧ flipMask flips (count + 1) = 0#8 := by simpa using hzero
    by_contra hmiss
    rcases (by omega : bit / 8 = count ∨ bit / 8 = count + 1) with hindex | hindex
    · exact flipMask_ne_zero flips hbit hindex hfirst
    · exact flipMask_ne_zero flips hbit hindex hsecond
  · intro hnone
    have hfirst : flipMask flips count = 0#8 := by
      apply flipMask_eq_zero
      intro bit hbit hindex
      have := hnone bit hbit
      omega
    have hsecond : flipMask flips (count + 1) = 0#8 := by
      apply flipMask_eq_zero
      intro bit hbit hindex
      have := hnone bit hbit
      omega
    rw [hfirst, hsecond]

/-- A burst across the start of the CRC field, in the words of the wire. -/
theorem straddles_of_burst (hstart : start ≤ 8 * (count + 2)) (hlong : 8 * (count + 2) < start + 16)
    (hburst : ∀ bit ∈ flips, start ≤ bit ∧ bit < start + 16) :
    Straddles (8 * (count + 2) - start) (flipMask flips count) (flipMask flips (count + 1))
      (flipMask flips (count + 2)) (flipMask flips (count + 3)) := by
  constructor
  · apply Nat.dvd_of_mod_eq_zero
    apply Nat.eq_of_testBit_eq
    intro i
    rw [Nat.testBit_mod_two_pow, Nat.zero_testBit, Bool.and_eq_false_imp, decide_eq_true_iff]
    intro hi
    refine (getLsbD_ofBytes_flipMask flips (count + 2) (by omega)).trans (decide_eq_false ?_)
    intro hmem
    have := hburst _ hmem
    omega
  · apply Nat.lt_pow_two_of_testBit
    intro i hi
    by_cases hwidth : i < 16
    · refine (getLsbD_ofBytes_flipMask flips count hwidth).trans (decide_eq_false ?_)
      intro hmem
      have := hburst _ hmem
      omega
    · exact BitVec.getLsbD_of_ge _ _ (Nat.not_lt.mp hwidth)

/-- A burst passes the check exactly if the last four bytes show one of the twelve. -/
theorem lastMasks_mem_iff (hne : flips.Nonempty)
    (inside : ∀ bit ∈ flips, bit < 8 * (count + 4))
    (hburst : ∀ bit ∈ flips, start ≤ bit ∧ bit < start + 16) :
    Undetected (count + 2) flips ↔ lastMasks (count + 4) flips ∈ undetectedBursts := by
  by_cases hbefore : ∀ bit ∈ flips, bit < 8 * (count + 2)
  · have hcrc := masks_eq_zero_iff.mpr fun bit hbit => Or.inl (hbefore bit hbit)
    apply iff_of_false (not_undetected_before hne hburst hbefore)
    exact fun hmem => (undetectedBursts_pass _ hmem).2.1 hcrc
  by_cases hinside : ∀ bit ∈ flips, 8 * (count + 2) ≤ bit
  · have hcovered := masks_eq_zero_iff.mpr fun bit hbit => Or.inr (hinside bit hbit)
    apply iff_of_false
    · exact not_undetected_inside hne fun bit hbit => ⟨hinside bit hbit, inside bit hbit⟩
    · exact fun hmem => (undetectedBursts_pass _ hmem).1 hcovered
  -- a flip on each side of the start of the field
  · simp only [not_forall, Nat.not_lt, Nat.not_le] at hbefore hinside
    obtain ⟨after, hafter, hafterLe⟩ := hbefore
    obtain ⟨before, hmemBefore, hbeforeLt⟩ := hinside
    have hfirst := hburst before hmemBefore
    have hlast := hburst after hafter
    have hend := inside after hafter
    rw [undetected_iff_last fun bit hbit => by have := hburst bit hbit; omega]
    apply straddle_mem_iff (by omega) (straddles_of_burst (by omega) (by omega) hburst)
    · intro hzero
      have := masks_eq_zero_iff.mp hzero before hmemBefore
      omega
    · intro hzero
      have := masks_eq_zero_iff.mp hzero after hafter
      omega

end Bursts

/-- A burst of at most sixteen bits behind the LEN field is reported at the last byte of the
frame, unless it does one of twelve things to the last two payload bytes and the CRC bytes. -/
theorem parserResults_burst (p : ExlinkParser) {op : Byte} {payload : Option Buf}
    {payloadLen : Word16} {outCap : Option ℕ} {frame : List Byte} {flips : Finset ℕ} {start : ℕ}
    (hbuilt : exlinkFrameBuild op payload payloadLen outCap = frame) (hwritten : frame ≠ [])
    (hne : flips.Nonempty)
    (hinside : ∀ bit ∈ flips, 8 * exlinkHeaderLen ≤ bit ∧ bit < 8 * frame.length)
    (hburst : ∀ bit ∈ flips, start ≤ bit ∧ bit < start + 16) :
    parserResults (exlinkParserInit p) (flipBits flips frame) =
      List.replicate (frame.length - 1) .none ++
        [if lastMasks frame.length flips ∈ undetectedBursts then .ok else .badCrc] := by
  have damages : Damages frame flips := by
    constructor
    · exact fun bit hbit => (hinside bit hbit).2
    · intro bit hbit
      have hbehind := (hinside bit hbit).1
      simp only [exlinkHeaderLen] at hbehind
      simp only [List.mem_cons, List.not_mem_nil, or_false, not_or]
      omega
  obtain ⟨-, hcount, -⟩ := built_frame hbuilt hwritten
  obtain ⟨count, hlen⟩ : ∃ count, frame.length = count + 4 :=
    ⟨1 + payloadLen.toNat + exlinkCrcLen, by rw [hcount, exlinkHeaderLen]; omega⟩
  have hcovered : frame.length - exlinkCrcLen = count + 2 := by
    rw [hlen]
    rfl
  have hpasses : Undetected (frame.length - exlinkCrcLen) flips ↔
      lastMasks frame.length flips ∈ undetectedBursts := by
    rw [hcovered, hlen]
    apply lastMasks_mem_iff hne _ hburst
    rw [← hlen]
    exact damages.inside
  rw [parserResults_flipBits p hbuilt hwritten damages, if_congr hpasses rfl rfl]

/-- Five bits from the last payload byte into the CRC of a frame with three bytes. -/
theorem parserResults_burst_threeBytes :
    parserResults (exlinkParserInit ⟨.magic0, 0#8, 0#16, 0#16, 0#16, 0#16, fun _ => 0#8⟩)
        (flipBits {60, 61, 63, 66, 71} threeByteFrame) = List.replicate 9 .none ++ [.badCrc] := by
  have hreported := @parserResults_burst
    ⟨.magic0, 0#8, 0#16, 0#16, 0#16, 0#16, fun _ => 0#8⟩ _ _ _ _ threeByteFrame
    {60, 61, 63, 66, 71} 60 rfl (by decide +kernel) (by decide) (by decide +kernel) (by decide)
  rwa [length_threeByteFrame, if_neg (by decide)] at hreported

/-- The lowest bit of the only payload byte, two bits of the low CRC byte and one of the high
one, thirteen bits from the first to the last: the damaged frame is accepted. -/
theorem parserResults_burst_accepted :
    let frame := exlinkFrameBuild 0x02#8 (some fun _ => 0xAA#8) 1#16 (some exlinkMaxFrame)
    (∀ bit ∈ ({47, 50, 55, 59} : Finset ℕ),
        (8 * exlinkHeaderLen ≤ bit ∧ bit < 8 * frame.length) ∧ 47 ≤ bit ∧ bit < 47 + 16) ∧
      parserResults (exlinkParserInit ⟨.magic0, 0#8, 0#16, 0#16, 0#16, 0#16, fun _ => 0#8⟩)
          (flipBits {47, 50, 55, 59} frame) =
        [.none, .none, .none, .none, .none, .none, .none, .ok] := by
  decide +kernel

end ExLink.Frame
