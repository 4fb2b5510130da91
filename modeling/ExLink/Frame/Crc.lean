/-
# The CRC as polynomial division

The bitwise CRC of `frame_parser.c` is the remainder of a polynomial division: the message,
shifted up by the width of the register, with the initial value added at its top. What
the encoder computes over the whole buffer and what the parser computes byte by byte are
this remainder.
-/

import ExLink.Coding.Messages
import ExLink.Frame.Stream
import Mathlib.Tactic.NormNum.Prime

namespace ExLink.Frame

open Polynomial ExLink.Gf2

/-! ## The register -/

/-- The turn of the inner loop is the register step of the generator. -/
theorem crc16Bit_eq_timesX : crc16Bit = timesX exlinkCrc16Poly := by
  funext crc
  have htop : crc &&& 0x8000#16 ≠ 0#16 ↔ crc.msb = true := by
    have hmask : (0x8000#16 : Word16) = BitVec.twoPow 16 15 := rfl
    rw [hmask, BitVec.and_twoPow, BitVec.msb_eq_getLsbD_last]
    cases crc.getLsbD 15 <;> decide
  rw [crc16Bit, timesX]
  exact if_congr htop rfl rfl

theorem generator_exlinkCrc16Poly :
    generator exlinkCrc16Poly = X ^ 16 + X ^ 12 + X ^ 5 + 1 := by
  have hbits : exlinkCrc16Poly =
      BitVec.twoPow 16 12 ^^^ BitVec.twoPow 16 5 ^^^ BitVec.twoPow 16 0 := rfl
  rw [generator, hbits, wordPoly_xor, wordPoly_xor, wordPoly_twoPow (by decide),
    wordPoly_twoPow (by decide), wordPoly_twoPow (by decide), pow_zero, ← add_assoc, ← add_assoc]

/-- One byte of the register. -/
theorem residue_crc16Byte (crc : Word16) (byte : Byte) :
    residue exlinkCrc16Poly (wordPoly (crc16Byte crc byte)) =
      residue exlinkCrc16Poly ((wordPoly crc + wordPoly byte * X ^ 8) * X ^ 8) := by
  have hbyte : wordPoly (byte.setWidth 16 <<< 8) = wordPoly byte * X ^ 8 := by
    rw [wordPoly_shiftLeft, wordPoly_setWidth (by decide)]
    intro i hi
    rw [BitVec.getLsbD_setWidth, BitVec.getLsbD_of_ge byte i (by omega), Bool.and_false]
  rw [crc16Byte, crc16Bit_eq_timesX, residue_iterate, wordPoly_xor, hbyte, mul_comm, residueX,
    ← map_pow, ← map_mul]

/-- The register after a whole buffer. -/
theorem residue_exlinkCrc16Update (crc : Word16) (buf : List Byte) :
    residue exlinkCrc16Poly (wordPoly (exlinkCrc16Update crc buf)) =
      residue exlinkCrc16Poly (messagePoly buf * X ^ 16 + wordPoly crc * X ^ (8 * buf.length)) := by
  induction buf using List.reverseRecOn with
  | nil => simp
  | append_singleton buf byte ih =>
      have hstep : exlinkCrc16Update (exlinkCrc16Update crc buf) [byte] =
          crc16Byte (exlinkCrc16Update crc buf) byte := rfl
      rw [exlinkCrc16Update_append, hstep, residue_crc16Byte, map_mul, map_add, ih, ← map_add,
        ← map_mul, messagePoly_concat, List.length_append, List.length_singleton, Nat.mul_add]
      congr 1
      ring

/-- The CRC of a buffer is the remainder of the message and the initial value. -/
theorem wordPoly_exlinkCrc16 (buf : List Byte) :
    wordPoly (exlinkCrc16 buf) =
      (messagePoly buf * X ^ 16 + wordPoly exlinkCrc16Init * X ^ (8 * buf.length)) %ₘ
        generator exlinkCrc16Poly := by
  have hmonic := monic_generator exlinkCrc16Poly
  have hself : wordPoly (exlinkCrc16 buf) %ₘ generator exlinkCrc16Poly =
      wordPoly (exlinkCrc16 buf) := by
    rw [modByMonic_eq_self_iff hmonic, degree_generator]
    exact degree_wordPoly_lt _
  have hresidue := residue_exlinkCrc16Update exlinkCrc16Init buf
  rw [residue_eq, ← CharTwo.sub_eq_add] at hresidue
  rw [← modByMonic_eq_of_dvd_sub hmonic hresidue]
  exact hself.symm

/-! ## The register of the parser -/

/-- A parser that has read a body holds its CRC. -/
theorem crcCalc_parserRun_frameBody (p : ExlinkParser) (op : Byte) {payload : List Byte}
    {payloadLen : Word16} (within : payloadLen.toNat ≤ exlinkMaxPayload)
    (hlen : payload.length = payloadLen.toNat) :
    (parserRun (exlinkParserInit p) (frameBody op payload payloadLen)).crcCalc =
      exlinkCrc16 (frameBody op payload payloadLen) := by
  have hread : recogniserRun [] (frameBody op payload payloadLen) =
      frameBody op payload payloadLen := by
    have hheader := (recogniser_header op payloadLen (Or.inl rfl) within).2
    have hpayload := (recogniser_payload op payloadLen [] payload (by simp [hlen])).2
    rw [frameBody, recogniserRun_append, hheader, hpayload, List.nil_append, frameBody]
  have reading := reading_run (Reading.init p) (frameBody op payload payloadLen)
  rw [hread] at reading
  generalize parserRun (exlinkParserInit p) (frameBody op payload payloadLen) = q at reading
  cases hstate : q.state with
  | magic0 => simp [Reading, hstate, frameBody, frameHeader] at reading
  | magic1 =>
      simp only [Reading, hstate] at reading
      exact reading.2
  | op =>
      simp only [Reading, hstate] at reading
      exact reading.2
  | lenLo =>
      simp only [Reading, hstate] at reading
      exact reading.2
  | lenHi =>
      simp only [Reading, hstate] at reading
      obtain ⟨low, -, -, hcrc⟩ := reading
      exact hcrc
  | payload =>
      simp only [Reading, hstate] at reading
      exact reading.2.2.2
  | crcLo =>
      simp only [Reading, hstate] at reading
      exact reading.2.2.2
  | crcHi =>
      -- one byte more than the body would have been read
      simp only [Reading, hstate] at reading
      obtain ⟨low, hbytes, -⟩ := reading
      have hlens := congrArg readLen hbytes
      rw [readLen_frameBody, readLen_frameBody_append] at hlens
      have hcount := congrArg List.length hbytes
      rw [List.length_append, length_frameBody, length_frameBody, Buf.length_prefixBytes, hlen,
        ← hlens, List.length_singleton] at hcount
      omega
  | outside raw => simp [Reading, hstate] at reading

/-- The CRC is the remainder of the message, shifted up by sixteen, and of the initial value
on top of it, by `x ^ 16 + x ^ 12 + x ^ 5 + 1`; it can be computed in parts; and at the end
of what the CRC of a frame covers the parser holds what the encoder computed. -/
theorem exlinkCrc16_remainder :
    (∀ buf : List Byte, wordPoly (exlinkCrc16 buf) =
      (messagePoly buf * X ^ 16 + wordPoly 0xFFFF#16 * X ^ (8 * buf.length)) %ₘ
        (X ^ 16 + X ^ 12 + X ^ 5 + 1)) ∧
    (∀ (crc : Word16) (first second : List Byte),
      exlinkCrc16Update (exlinkCrc16Update crc first) second =
        exlinkCrc16Update crc (first ++ second)) ∧
    ∀ (p : ExlinkParser) (op : Byte) (payload : Option Buf) (payloadLen : Word16)
      (outCap : Option ℕ),
      let frame := exlinkFrameBuild op payload payloadLen outCap
      let covered := frame.take (frame.length - exlinkCrcLen)
      (parserRun (exlinkParserInit p) covered).crcCalc = exlinkCrc16 covered := by
  refine ⟨fun buf => ?_, fun crc first second => ?_, fun p op payload payloadLen outCap => ?_⟩
  · rw [wordPoly_exlinkCrc16, generator_exlinkCrc16Poly, exlinkCrc16Init]
  · exact (exlinkCrc16Update_append crc first second).symm
  · intro frame covered
    rcases exlinkFrameBuild_cases op payload payloadLen outCap with
      hnil | ⟨cap, -, within, -, hbuild⟩
    · have hcovered : covered = [] := by simp [covered, frame, hnil]
      rw [hcovered]
      rfl
    · have hcovered : covered = frameBody op
          ((payload.getD fun _ => 0#8).prefixBytes payloadLen.toNat) payloadLen := by
        simp only [covered, frame]
        rw [hbuild, length_closeFrame, Nat.add_sub_cancel, closeFrame, List.take_left]
      rw [hcovered]
      exact crcCalc_parserRun_frameBody p op within (Buf.length_prefixBytes _ _)

/-! ## The order of `x` -/

/-- The powers of `x` repeat after 32767. -/
theorem orderOf_residueX : orderOf (residueX exlinkCrc16Poly) = 32767 := by
  have hpower (bits : List Bool) : residueX exlinkCrc16Poly ^ bitsValue bits = 1 ↔
      powX exlinkCrc16Poly bits = 1#16 := powX_eq_one_iff exlinkCrc16Poly (by decide) bits
  apply orderOf_eq_of_pow_and_pow_div_prime (by decide)
  · exact (hpower (List.replicate 15 true)).mpr (by decide +kernel)
  · -- 32767 is 7 * 31 * 151
    intro divisor hprime hdvd
    have hfactors : divisor ∣ 7 * (31 * 151) := hdvd
    rw [hprime.dvd_mul, hprime.dvd_mul, Nat.prime_dvd_prime_iff_eq hprime (by norm_num),
      Nat.prime_dvd_prime_iff_eq hprime (by norm_num),
      Nat.prime_dvd_prime_iff_eq hprime (by norm_num)] at hfactors
    rcases hfactors with rfl | rfl | rfl
    · exact mt (hpower [true, false, false, true, false, false, true, false, false, true, false,
        false, true]).mp (by decide +kernel)
    · exact mt (hpower [true, false, false, false, false, true, false, false, false, false,
        true]).mp (by decide +kernel)
    · exact mt (hpower [true, false, false, true, true, false, true, true]).mp (by decide +kernel)

theorem residueX_pow_order : residueX exlinkCrc16Poly ^ 32767 = 1 := by
  rw [← orderOf_residueX]
  exact pow_orderOf_eq_one _

theorem isUnit_residueX_crc16 : IsUnit (residueX exlinkCrc16Poly) :=
  isUnit_residueX (by decide) residueX_pow_order

end ExLink.Frame
