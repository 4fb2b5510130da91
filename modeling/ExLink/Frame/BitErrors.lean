/-
# Flipped bits in a frame

A frame with flipped bits behind its header fields is accepted exactly if the flips are
themselves a multiple of the generator. The exponents are those that the register gives the
bits: the CRC bytes follow low byte first, so the bits of a frame do not descend to zero in
the order in which they are sent. Every odd number of flips is detected, and every two flips
whose exponents are not the order of `x` apart.
-/

import ExLink.Frame.Crc

namespace ExLink.Frame

open Polynomial ExLink.Gf2

/-! ## Damaged frames -/

/-- Flips inside a frame that leave its MAGIC and LEN bytes alone. -/
structure Damages (frame : List Byte) (flips : Finset ℕ) : Prop where
  inside : ∀ bit ∈ flips, bit < 8 * frame.length
  spared : ∀ bit ∈ flips, bit / 8 ∉ [0, 1, 3, 4]

/-- The flips pass the check: their CRC, from a register of zeros, is what they do to the
CRC bytes. -/
def Undetected (covered : ℕ) (flips : Finset ℕ) : Prop :=
  Word16.ofBytes (flipMask flips covered) (flipMask flips (covered + 1)) =
    exlinkCrc16Update 0#16 (flipBits flips (List.replicate covered 0#8))

instance (covered : ℕ) (flips : Finset ℕ) : Decidable (Undetected covered flips) := by
  unfold Undetected
  infer_instance

section Linear

variable (flips : Finset ℕ)

/-- The CRC of a damaged body differs by the CRC of the damage. -/
theorem exlinkCrc16_flipBits (body : List Byte) :
    exlinkCrc16 (flipBits flips body) = exlinkCrc16 body ^^^
      exlinkCrc16Update 0#16 (flipBits flips (List.replicate body.length 0#8)) := by
  apply (residue_wordPoly_inj exlinkCrc16Poly).mp
  rw [wordPoly_xor, map_add, exlinkCrc16, exlinkCrc16, residue_exlinkCrc16Update,
    residue_exlinkCrc16Update, residue_exlinkCrc16Update, ← map_add, messagePoly_flipBits,
    messagePoly_flipBits, messagePoly_replicate_zero, length_flipBits, length_flipBits,
    List.length_replicate, wordPoly_zero]
  congr 1
  ring

/-- The damaged CRC bytes fit the damaged body exactly if the damage is not detected. -/
theorem ofBytes_eq_exlinkCrc16_iff (body : List Byte) :
    Word16.ofBytes ((exlinkCrc16 body).lowByte ^^^ flipMask flips body.length)
        ((exlinkCrc16 body).highByte ^^^ flipMask flips (body.length + 1)) =
      exlinkCrc16 (flipBits flips body) ↔ Undetected body.length flips := by
  rw [Word16.ofBytes_xor, Word16.ofBytes_low_high, exlinkCrc16_flipBits, BitVec.xor_right_inj,
    Undetected]

theorem flipBits_closeFrame (body : List Byte) :
    flipBits flips (closeFrame body) = flipBits flips body ++
      [(exlinkCrc16 body).lowByte ^^^ flipMask flips body.length,
        (exlinkCrc16 body).highByte ^^^ flipMask flips (body.length + 1)] := by
  have hsplit : closeFrame body =
      body ++ [(exlinkCrc16 body).lowByte] ++ [(exlinkCrc16 body).highByte] :=
    List.append_cons body _ _
  rw [hsplit, flipBits_concat, flipBits_concat, List.length_append, List.length_singleton,
    List.append_assoc]
  rfl

end Linear

/-! ## What the parser reports -/

section Reports

variable {payload : List Byte} {payloadLen : Word16} {flips : Finset ℕ}

/-- With its fixed fields spared, a damaged body is the body of another frame. -/
theorem flipBits_frameBody (op : Byte) (payload : List Byte) (payloadLen : Word16)
    (spared : ∀ bit ∈ flips, bit / 8 ∉ [0, 1, 3, 4]) :
    ∃ op' payload', payload'.length = payload.length ∧
      flipBits flips (frameBody op payload payloadLen) = frameBody op' payload' payloadLen := by
  have hzero (index : ℕ) (hindex : index ∈ [0, 1, 3, 4]) : flipMask flips index = 0#8 := by
    apply flipMask_eq_zero
    rintro bit hbit rfl
    exact spared bit hbit hindex
  refine ⟨op ^^^ flipMask flips 2,
    payload.mapIdx fun index byte => byte ^^^ flipMask flips (index + 5), List.length_mapIdx, ?_⟩
  simp only [flipBits, frameBody, frameHeader, List.cons_append, List.nil_append,
    List.mapIdx_cons, Nat.zero_add, Nat.add_assoc, Nat.reduceAdd]
  simp only [hzero 0 (by simp), hzero 1 (by simp), hzero 3 (by simp), hzero 4 (by simp),
    BitVec.xor_zero]

/-- A damaged frame is taken in silence up to its last byte, which tells whether the damage
is detected. -/
theorem parserResults_closeFrame (p : ExlinkParser) (op : Byte)
    (within : payloadLen.toNat ≤ exlinkMaxPayload) (hlen : payload.length = payloadLen.toNat)
    (spared : ∀ bit ∈ flips, bit / 8 ∉ [0, 1, 3, 4]) :
    parserResults (exlinkParserInit p)
        (flipBits flips (closeFrame (frameBody op payload payloadLen))) =
      List.replicate (exlinkHeaderLen + payloadLen.toNat + 1) .none ++
        [if Undetected (exlinkHeaderLen + payloadLen.toNat) flips then .ok else .badCrc] := by
  set body := frameBody op payload payloadLen with hbody
  have hcount : body.length = exlinkHeaderLen + payloadLen.toNat := by
    rw [hbody, length_frameBody, hlen]
  obtain ⟨op', payload', hlen', hflipped⟩ := flipBits_frameBody op payload payloadLen spared
  have hcandidate := (recogniser_candidate op' payloadLen (Or.inl rfl) within
    (hlen'.trans hlen) ((exlinkCrc16 body).lowByte ^^^ flipMask flips body.length)
    ((exlinkCrc16 body).highByte ^^^ flipMask flips (body.length + 1))).1
  rw [← hflipped, length_flipBits] at hcandidate
  rw [parserResults_eq, parserReports_eq (Reading.init p), flipBits_closeFrame, hcandidate,
    if_congr (ofBytes_eq_exlinkCrc16_iff flips body) rfl rfl, List.map_append,
    List.map_replicate, hcount]
  rfl

/-- What the encoder writes has a body of the declared length. -/
theorem built_frame {op : Byte} {payload : Option Buf} {outCap : Option ℕ} {frame : List Byte}
    (hbuilt : exlinkFrameBuild op payload payloadLen outCap = frame) (hwritten : frame ≠ []) :
    payloadLen.toNat ≤ exlinkMaxPayload ∧
      frame.length = exlinkHeaderLen + payloadLen.toNat + exlinkCrcLen ∧
      ∃ bytes, bytes.length = payloadLen.toNat ∧
        frame = closeFrame (frameBody op bytes payloadLen) := by
  obtain hnil | ⟨cap, -, within, -, hframe⟩ := exlinkFrameBuild_cases op payload payloadLen outCap
  · exact absurd (hbuilt.symm.trans hnil) hwritten
  · rw [hbuilt] at hframe
    refine ⟨within, ?_, _, Buf.length_prefixBytes _ _, hframe⟩
    rw [hframe, length_closeFrame, length_frameBody, Buf.length_prefixBytes]

/-- Every frame of the encoder. -/
theorem parserResults_flipBits (p : ExlinkParser) {op : Byte} {payload : Option Buf}
    {outCap : Option ℕ} {frame : List Byte}
    (hbuilt : exlinkFrameBuild op payload payloadLen outCap = frame) (hwritten : frame ≠ [])
    (damages : Damages frame flips) :
    parserResults (exlinkParserInit p) (flipBits flips frame) =
      List.replicate (frame.length - 1) .none ++
        [if Undetected (frame.length - exlinkCrcLen) flips then .ok else .badCrc] := by
  obtain ⟨within, hcount, bytes, hlen, hframe⟩ := built_frame hbuilt hwritten
  have hresults := parserResults_closeFrame p op within hlen damages.spared
  rw [← hframe] at hresults
  rw [hcount, Nat.add_sub_cancel]
  exact hresults

/-- All the bits that can be flipped. -/
theorem inside_covered {op : Byte} {payload : Option Buf} {outCap : Option ℕ} {frame : List Byte}
    (hbuilt : exlinkFrameBuild op payload payloadLen outCap = frame) (hwritten : frame ≠ [])
    (damages : Damages frame flips) :
    ∀ bit ∈ flips, bit < 8 * (frame.length - exlinkCrcLen + 2) := by
  have hcount := (built_frame hbuilt hwritten).2.1
  rw [hcount, Nat.add_sub_cancel]
  intro bit hbit
  have hinside := damages.inside bit hbit
  rwa [hcount, exlinkCrcLen] at hinside

end Reports

/-! ## Flips as a polynomial -/

/-- The exponent that the register gives to a bit of a frame. The CRC bytes come low byte
first. -/
def wireExponent (covered bit : ℕ) : ℕ :=
  if bit / 8 < covered then 8 * covered + 15 - bit
  else if bit / 8 = covered then 8 * covered + 7 - bit
  else 8 * covered + 23 - bit

section Exponents

variable {covered : ℕ} {flips : Finset ℕ}

theorem wireExponent_le (covered bit : ℕ) : wireExponent covered bit ≤ 8 * covered + 15 := by
  rw [wireExponent]
  split_ifs <;> omega

/-- Behind the magic bytes, one exponent a bit of the covered bytes is left. -/
theorem wireExponent_lt {covered bit : ℕ} (hheader : exlinkHeaderLen ≤ covered)
    (hspared : bit / 8 ∉ [0, 1, 3, 4]) : wireExponent covered bit < 8 * covered := by
  simp only [exlinkHeaderLen] at hheader
  simp only [List.mem_cons, List.not_mem_nil, or_false, not_or] at hspared
  rw [wireExponent]
  split_ifs <;> omega

/-- Each bit has its own exponent. -/
theorem injOn_wireExponent (inside : ∀ bit ∈ flips, bit < 8 * (covered + 2)) :
    Set.InjOn (wireExponent covered) (flips : Set ℕ) := by
  intro first hfirst second hsecond h
  have := inside first hfirst
  have := inside second hsecond
  simp only [wireExponent] at h
  split_ifs at h <;> omega

theorem wordPoly_ofBytes (low high : Byte) :
    wordPoly (Word16.ofBytes low high) = wordPoly low + wordPoly high * X ^ 8 := by
  rw [Word16.ofBytes_eq_xor, wordPoly_xor, wordPoly_setWidth (by decide), wordPoly_shiftLeft,
    wordPoly_setWidth (by decide)]
  intro i hi
  rw [BitVec.getLsbD_setWidth, BitVec.getLsbD_of_ge high i (by omega), Bool.and_false]

/-- The flips of the covered bytes. -/
theorem messagePoly_covered (covered : ℕ) (flips : Finset ℕ) :
    messagePoly (flipBits flips (List.replicate covered 0#8)) * X ^ 16 =
      ∑ bit ∈ flips with bit / 8 < covered, X ^ wireExponent covered bit := by
  have hfilter : flips.filter (· < 8 * covered) = flips.filter (· / 8 < covered) := by
    apply Finset.filter_congr
    intro bit _
    omega
  rw [messagePoly_flipBits, messagePoly_replicate_zero, List.length_replicate, zero_add,
    Finset.sum_mul, hfilter]
  apply Finset.sum_congr rfl
  intro bit hbit
  have hlt := (Finset.mem_filter.mp hbit).2
  rw [← pow_add, wireExponent, if_pos hlt]
  congr 1
  omega

/-- The flips of the low CRC byte. -/
theorem wordPoly_lowMask (covered : ℕ) (flips : Finset ℕ) :
    wordPoly (flipMask flips covered) =
      ∑ bit ∈ flips with bit / 8 = covered, X ^ wireExponent covered bit := by
  rw [wordPoly_flipMask]
  apply Finset.sum_congr rfl
  intro bit hbit
  have heq := (Finset.mem_filter.mp hbit).2
  rw [wireExponent, if_neg (by omega), if_pos heq]

/-- The flips of the high CRC byte. -/
theorem wordPoly_highMask (covered : ℕ) (flips : Finset ℕ) :
    wordPoly (flipMask flips (covered + 1)) * X ^ 8 =
      ∑ bit ∈ flips with bit / 8 = covered + 1, X ^ wireExponent covered bit := by
  rw [wordPoly_flipMask, Finset.sum_mul]
  apply Finset.sum_congr rfl
  intro bit hbit
  have heq := (Finset.mem_filter.mp hbit).2
  rw [← pow_add, wireExponent, if_neg (by omega), if_neg (by omega)]
  congr 1
  omega

/-- All the flips of a frame. -/
theorem setPoly_wireExponent (inside : ∀ bit ∈ flips, bit < 8 * (covered + 2)) :
    setPoly (flips.image (wireExponent covered)) =
      wordPoly (flipMask flips covered) + wordPoly (flipMask flips (covered + 1)) * X ^ 8 +
        messagePoly (flipBits flips (List.replicate covered 0#8)) * X ^ 16 := by
  have hcrc : flips.filter (¬ · / 8 < covered) =
      flips.filter (· / 8 = covered) ∪ flips.filter (· / 8 = covered + 1) := by
    rw [← Finset.filter_or]
    apply Finset.filter_congr
    intro bit hbit
    have := inside bit hbit
    omega
  have hdisjoint : Disjoint (flips.filter (· / 8 = covered))
      (flips.filter (· / 8 = covered + 1)) := by
    apply Finset.disjoint_filter.mpr
    intro bit _ hbit hindex
    omega
  rw [setPoly, Finset.sum_image (injOn_wireExponent inside), messagePoly_covered,
    wordPoly_lowMask, wordPoly_highMask, ← Finset.sum_union hdisjoint, ← hcrc, add_comm]
  exact (Finset.sum_filter_add_sum_filter_not flips (· / 8 < covered) _).symm

/-- Flips go undetected exactly if the generator divides them. -/
theorem undetected_iff (inside : ∀ bit ∈ flips, bit < 8 * (covered + 2)) :
    Undetected covered flips ↔
      generator exlinkCrc16Poly ∣ setPoly (flips.image (wireExponent covered)) := by
  rw [Undetected, ← residue_wordPoly_inj exlinkCrc16Poly, residue_exlinkCrc16Update, residue_eq,
    wordPoly_ofBytes, wordPoly_zero, zero_mul, add_zero, setPoly_wireExponent inside]

end Exponents

/-! ## Odd numbers of flips -/

/-- Whatever odd number of bits is flipped, the last byte of the frame reports a bad CRC. -/
theorem parserResults_oddFlips (p : ExlinkParser) {op : Byte} {payload : Option Buf}
    {payloadLen : Word16} {outCap : Option ℕ} {frame : List Byte} {flips : Finset ℕ}
    (hbuilt : exlinkFrameBuild op payload payloadLen outCap = frame) (hwritten : frame ≠ [])
    (damages : Damages frame flips) (hodd : Odd flips.card) :
    parserResults (exlinkParserInit p) (flipBits flips frame) =
      List.replicate (frame.length - 1) .none ++ [.badCrc] := by
  have inside := inside_covered hbuilt hwritten damages
  have heven : (generator exlinkCrc16Poly).eval 1 = 0 := by
    rw [generator_exlinkCrc16Poly]
    simp only [eval_add, eval_pow, eval_X, one_pow, eval_one]
    decide
  have hdetected : ¬ Undetected (frame.length - exlinkCrcLen) flips := by
    rw [undetected_iff inside]
    apply not_dvd_setPoly_of_odd heven
    rwa [Finset.card_image_of_injOn (injOn_wireExponent inside)]
  rw [parserResults_flipBits p hbuilt hwritten damages, if_neg hdetected]

/-- A frame with three bytes of payload. -/
def threeByteFrame : List Byte :=
  exlinkFrameBuild 0x02#8 (some (Buf.ofList [0x12#8, 0x34#8, 0x56#8])) 3#16 (some exlinkMaxFrame)

theorem length_threeByteFrame : threeByteFrame.length = 10 := by decide +kernel

/-- Two bits of its payload and one of its CRC. -/
theorem parserResults_oddFlips_threeBytes :
    parserResults (exlinkParserInit ⟨.magic0, 0#8, 0#16, 0#16, 0#16, 0#16, fun _ => 0#8⟩)
        (flipBits {41, 62, 70} threeByteFrame) = List.replicate 9 .none ++ [.badCrc] := by
  have hreported := @parserResults_oddFlips
    ⟨.magic0, 0#8, 0#16, 0#16, 0#16, 0#16, fun _ => 0#8⟩ _ _ _ _ threeByteFrame {41, 62, 70} rfl
    (by decide +kernel) ⟨by decide +kernel, by decide⟩ (by decide)
  rwa [length_threeByteFrame] at hreported

/-! ## Two flips -/

/-- Two bits whose exponents are the order of `x` apart. -/
def Aliased (covered first second : ℕ) : Prop :=
  wireExponent covered first = wireExponent covered second + 32767 ∨
    wireExponent covered second = wireExponent covered first + 32767

instance (covered first second : ℕ) : Decidable (Aliased covered first second) := by
  unfold Aliased
  infer_instance

/-- A pair of flips goes undetected exactly if it is aliased. -/
theorem undetected_pair_iff {covered first second : ℕ}
    (hcovered : covered ≤ exlinkHeaderLen + exlinkMaxPayload) (hne : first ≠ second)
    (hfirst : first < 8 * (covered + 2)) (hsecond : second < 8 * (covered + 2)) :
    Undetected covered {first, second} ↔ Aliased covered first second := by
  have inside : ∀ bit ∈ ({first, second} : Finset ℕ), bit < 8 * (covered + 2) := by
    intro bit hbit
    rcases Finset.mem_insert.mp hbit with rfl | hbit
    · exact hfirst
    · rwa [Finset.mem_singleton.mp hbit]
  have hexponents : wireExponent covered first ≠ wireExponent covered second := by
    intro h
    exact hne (injOn_wireExponent inside (by simp) (by simp) h)
  have horder : Undetected covered {first, second} ↔
      wireExponent covered first ≡ wireExponent covered second [MOD 32767] := by
    rw [undetected_iff inside, Finset.image_insert, Finset.image_singleton,
      dvd_setPoly_pair isUnit_residueX_crc16 hexponents, orderOf_residueX]
  have hfirstLe := wireExponent_le covered first
  have hsecondLe := wireExponent_le covered second
  rw [horder, Aliased, Nat.ModEq]
  simp only [exlinkHeaderLen, exlinkMaxPayload] at hcovered
  omega

/-- Two flipped bits are reported at the last byte, unless their exponents are the order of
`x` apart; no payload under 4091 bytes is long enough for that. -/
theorem parserResults_twoFlips (p : ExlinkParser) {op : Byte} {payload : Option Buf}
    {payloadLen : Word16} {outCap : Option ℕ} {frame : List Byte} {first second : ℕ}
    (hbuilt : exlinkFrameBuild op payload payloadLen outCap = frame) (hwritten : frame ≠ [])
    (hne : first ≠ second) (damages : Damages frame {first, second}) :
    parserResults (exlinkParserInit p) (flipBits {first, second} frame) =
        List.replicate (frame.length - 1) .none ++
          [if Aliased (frame.length - exlinkCrcLen) first second then .ok else .badCrc] ∧
      (payloadLen.toNat < 4091 → ¬ Aliased (frame.length - exlinkCrcLen) first second) := by
  obtain ⟨within, hcount, -⟩ := built_frame hbuilt hwritten
  have inside := inside_covered hbuilt hwritten damages
  have hpair : Undetected (frame.length - exlinkCrcLen) {first, second} ↔
      Aliased (frame.length - exlinkCrcLen) first second := by
    apply undetected_pair_iff _ hne (inside first (by simp)) (inside second (by simp))
    rw [hcount, Nat.add_sub_cancel]
    exact Nat.add_le_add_left within _
  constructor
  · rw [parserResults_flipBits p hbuilt hwritten damages, if_congr hpair rfl rfl]
  · have hheader : exlinkHeaderLen ≤ frame.length - exlinkCrcLen := by
      rw [hcount, Nat.add_sub_cancel]
      exact Nat.le_add_right _ _
    have hfirst := wireExponent_lt hheader (damages.spared first (by simp))
    have hsecond := wireExponent_lt hheader (damages.spared second (by simp))
    intro hshort haliased
    rw [hcount, Nat.add_sub_cancel, exlinkHeaderLen] at hfirst hsecond haliased
    rw [Aliased] at haliased
    omega

/-- A bit of the payload and one of the CRC of a frame with three bytes. -/
theorem parserResults_twoFlips_threeBytes :
    parserResults (exlinkParserInit ⟨.magic0, 0#8, 0#16, 0#16, 0#16, 0#16, fun _ => 0#8⟩)
        (flipBits {45, 66} threeByteFrame) = List.replicate 9 .none ++ [.badCrc] := by
  obtain ⟨hreported, hunaliased⟩ := @parserResults_twoFlips
    ⟨.magic0, 0#8, 0#16, 0#16, 0#16, 0#16, fun _ => 0#8⟩ _ _ _ _ threeByteFrame 45 66 rfl
    (by decide +kernel) (by decide) ⟨by decide +kernel, by decide⟩
  rwa [if_neg (hunaliased (by decide)), length_threeByteFrame] at hreported

/-- The first bit of the op byte and the last bit of the first CRC byte of a frame with 4091
bytes of zeros: the damaged frame is accepted. -/
theorem parserResults_twoFlips_accepted :
    let frame := exlinkFrameBuild 0x02#8 (some fun _ => 0#8) 4091#16 (some exlinkMaxFrame)
    frame.length = 4098 ∧ Damages frame {16, 32775} ∧
      parserResults (exlinkParserInit ⟨.magic0, 0#8, 0#16, 0#16, 0#16, 0#16, fun _ => 0#8⟩)
          (flipBits {16, 32775} frame) =
        List.replicate 4097 .none ++ [.ok] := by
  intro frame
  have hcount : frame.length = 4098 :=
    length_exlinkFrameBuild 0x02#8 (fun _ => 0#8) 4091#16 (by decide)
  have hwritten : frame ≠ [] := by
    intro hnil
    rw [hnil] at hcount
    exact absurd hcount (by decide)
  have damages : Damages frame {16, 32775} := by
    constructor
    · rw [hcount]
      decide
    · decide
  have hundetected : Undetected 4096 {16, 32775} :=
    (undetected_pair_iff (by decide) (by decide) (by decide) (by decide)).mpr (by decide)
  have hresults := parserResults_flipBits
    ⟨.magic0, 0#8, 0#16, 0#16, 0#16, 0#16, fun _ => 0#8⟩ (rfl : _ = frame) hwritten damages
  rw [hcount, exlinkCrcLen, if_pos hundetected] at hresults
  exact ⟨hcount, damages, hresults⟩

end ExLink.Frame
