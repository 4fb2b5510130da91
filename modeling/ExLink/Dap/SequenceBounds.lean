/-
# Bounds of sequences and pins

A sequence is in bounds exactly if its bytes fit, captured ones in the response and
driven ones in the request. The pins matter in one place only: a wait for levels that
they cannot take never ends.
-/

import ExLink.Dap.Bounds
import ExLink.Dap.Fits

namespace ExLink.Dap

open ExLink.Automata ExLink.Automata.Prog

/-! ## Sequences -/

section Sequences

variable {buf : Buf} {s : DapData}

/-- The units of a sequence take as many bytes as its clocks. -/
theorem bytesFor_sequenceUnits (clocks : ℕ) :
    ((sequenceUnits clocks).map bytesFor).sum = bytesFor clocks := by
  have hwhole : ∀ count, ((List.replicate count 32).map bytesFor).sum = 4 * count := by
    intro count
    rw [List.map_replicate, List.sum_replicate_nat, Nat.mul_comm]
    rfl
  rw [sequenceUnits, List.map_append, List.sum_append, hwhole]
  split_ifs with hrest
  · simp only [List.map_nil, List.sum_nil, bytesFor]
    omega
  · simp only [List.map_cons, List.map_nil, List.sum_cons, List.sum_nil, bytesFor]
    omega

theorem unitBytes_length (nbits : ℕ) (got : Word32) :
    (unitBytes nbits got).length = bytesFor nbits := by
  rw [unitBytes, List.length_map, List.length_range]

theorem inBounds_swdSequenceIn {units : List ℕ} {swdi : ℕ}
    {post : Unit → DapData → Finset ℕ → Prop} (hswdi : swdi ≤ dapPacketSize) :
    InBounds (swdSequenceIn swdi units) post s (Finset.range swdi) ↔
      swdi + (units.map bytesFor).sum ≤ dapPacketSize ∧
        post () s (Finset.range (swdi + (units.map bytesFor).sum)) := by
  induction units generalizing swdi with
  | nil => exact (and_iff_right hswdi).symm
  | cons nbits rest ih =>
      have hsum : swdi + ((nbits :: rest).map bytesFor).sum =
          swdi + bytesFor nbits + (rest.map bytesFor).sum := by
        rw [List.map_cons, List.sum_cons, Nat.add_assoc]
      have hunit : ∀ got : BitVec nbits,
          InBounds (storeBytes swdi (unitBytes nbits (got.setWidth 32)))
              (fun _ s stored =>
                InBounds (swdSequenceIn (swdi + bytesFor nbits) rest) post s stored)
              s (Finset.range swdi) ↔
            swdi + bytesFor nbits ≤ dapPacketSize ∧
              swdi + ((nbits :: rest).map bytesFor).sum ≤ dapPacketSize ∧
                post () s (Finset.range (swdi + ((nbits :: rest).map bytesFor).sum)) := by
        intro got
        rw [hsum, ← Finset.empty_union (Finset.range swdi), Finset.range_eq_Ico,
          inBounds_storeBytes (Nat.zero_le _) fun _ => hswdi, unitBytes_length, Finset.empty_union,
          ← Finset.range_eq_Ico]
        exact and_congr_right ih
      simp only [InBounds, swdSequenceIn, wp_bind]
      refine (inBounds_ask (show boundsWatch.allowed (.swdReadBits nbits) from trivial) rfl).trans ?_
      refine (forall_congr' hunit).trans ((forall_const (BitVec nbits)).trans ?_)
      exact and_iff_right_of_imp fun h => by omega

theorem inBounds_swdSequenceOut {units : List ℕ} {swdo : ℕ} {stored : Finset ℕ}
    {post : Unit → DapData → Finset ℕ → Prop} (hswdo : swdo ≤ dapPacketSize) :
    InBounds (swdSequenceOut buf swdo units) post s stored ↔
      swdo + (units.map bytesFor).sum ≤ dapPacketSize ∧ post () s stored := by
  induction units generalizing swdo with
  | nil => exact (and_iff_right hswdo).symm
  | cons nbits rest ih =>
      have hsum : swdo + ((nbits :: rest).map bytesFor).sum =
          swdo + bytesFor nbits + (rest.map bytesFor).sum := by
        rw [List.map_cons, List.sum_cons, Nat.add_assoc]
      have hwrite : ∀ val, Quiet (ask (.swdWriteBits val nbits)) :=
        fun _ => quiet_ask trivial fun _ => rfl
      simp only [InBounds, swdSequenceOut, wp_bind, inBounds_loadBytes hswdo, hwrite, hsum]
      exact (and_congr_right ih).trans (and_iff_right_of_imp fun hfits => by omega)

variable {request response : ℕ}

/-- The loop of `DAP_SWD_Sequence`, from a sequence to the next. -/
theorem inBounds_swdSequences {post : ℕ × ℕ → DapData → Finset ℕ → Prop} {done : ℕ → ℕ → Prop}
    (hdone : ∀ requestCount responseCount, request + requestCount ≤ dapPacketSize →
      response + responseCount ≤ dapPacketSize →
        (post (requestCount, responseCount) s (Finset.range (response + responseCount)) ↔
          done requestCount responseCount)) {count requestCount responseCount : ℕ}
    (hrequest : request + requestCount ≤ dapPacketSize)
    (hresponse : response + responseCount ≤ dapPacketSize) :
    InBounds (swdSequences buf request response count requestCount responseCount) post s
        (Finset.range (response + responseCount)) ↔
      SequencesFit buf done request response count requestCount responseCount := by
  induction count generalizing requestCount responseCount with
  | zero => exact hdone requestCount responseCount hrequest hresponse
  | succ count ih =>
      have hdirection : ∀ output, Quiet (ask (.pinDirection .swdioTms output)) :=
        fun _ => quiet_ask trivial fun _ => rfl
      simp only [InBounds, swdSequences, SequencesFit, wp_bind, inBounds_loadByte]
      apply and_congr_right
      intro hinfo
      by_cases hinput : CapturesInput (buf (request + requestCount))
      · simp only [if_pos hinput, wp_bind, hdirection, wp_ite, ite_self,
          inBounds_swdSequenceIn hresponse, bytesFor_sequenceUnits]
        apply and_congr_right
        intro hroom
        rw [Nat.add_assoc] at hroom ⊢
        exact ih hinfo hroom
      · simp only [if_neg hinput, wp_bind, hdirection, wp_ite, ite_self,
          inBounds_swdSequenceOut (Nat.succ_le_of_lt hinfo), bytesFor_sequenceUnits]
        apply and_congr_right
        intro hroom
        exact ih (by omega) hresponse

theorem inBounds_dapSwdSequence {post : Word32 → DapData → Finset ℕ → Prop}
    {done : ℕ → ℕ → Prop}
    (hdone : ∀ consumed stored, request + consumed ≤ dapPacketSize →
      response + stored ≤ dapPacketSize →
        (post (sizes (BitVec.ofNat 32 consumed) (BitVec.ofNat 32 stored)) s
            (Finset.range (response + stored)) ↔ done consumed stored)) :
    InBounds (dapSwdSequence buf request response) post s (Finset.range response) ↔
      Reaches request 1 response 1
        (SequencesFit buf done request response (buf request).toNat 1 1) := by
  simp only [dapSwdSequence, Reaches, wp_bind, wp_pure, inBounds_loadByte, inBounds_storeByte,
    ← Finset.range_add_one]
  constructor
  · rintro ⟨hresponse, hrequest, hsequences⟩
    exact ⟨hrequest, hresponse, (inBounds_swdSequences hdone hrequest hresponse).mp hsequences⟩
  · rintro ⟨hrequest, hresponse, hsequences⟩
    exact ⟨hresponse, hrequest, (inBounds_swdSequences hdone hrequest hresponse).mpr hsequences⟩

/-- The largest sequence takes 8 bytes. -/
theorem bytesFor_sequenceClocks (info : Byte) : bytesFor (sequenceClocks info) ≤ 8 := by
  have hmasked : (info &&& 0x3F#8).toNat ≤ 0x3F := by
    rw [BitVec.toNat_and]
    exact Nat.and_le_right
  rw [sequenceClocks, countOr, bytesFor]
  split_ifs <;> omega

theorem inBounds_jtagSequences {post : ℕ → DapData → Finset ℕ → Prop} {done : ℕ → Prop}
    {stored : Finset ℕ}
    (hdone : ∀ requestCount, request + requestCount ≤ dapPacketSize + 9 →
      (post requestCount s stored ↔ done requestCount)) {count requestCount : ℕ}
    (hrequest : request + requestCount ≤ dapPacketSize + 9) :
    InBounds (jtagSequences buf request count requestCount) post s stored ↔
      JtagSequencesFit buf done request count requestCount := by
  induction count generalizing requestCount with
  | zero => exact hdone requestCount hrequest
  | succ count ih =>
      simp only [InBounds, jtagSequences, JtagSequencesFit, wp_bind, inBounds_loadByte]
      apply and_congr_right
      intro hinfo
      have hbytes := bytesFor_sequenceClocks (buf (request + requestCount))
      exact ih (by omega)

theorem inBounds_dapJtagSequence {post : Word32 → DapData → Finset ℕ → Prop} {done : ℕ → Prop}
    (hdone : ∀ consumed, request + consumed ≤ dapPacketSize + 9 → response + 1 ≤ dapPacketSize →
      (post (sizes (BitVec.ofNat 32 consumed) 1#32) s (Finset.range (response + 1)) ↔
        done consumed)) :
    InBounds (dapJtagSequence buf request response) post s (Finset.range response) ↔
      Reaches request 1 response 1
        (JtagSequencesFit buf done request (buf request).toNat 1) := by
  simp only [dapJtagSequence, Reaches, wp_bind, wp_pure, inBounds_loadByte, inBounds_storeByte,
    ← Finset.range_add_one]
  constructor
  · rintro ⟨hresponse, hrequest, hsequences⟩
    refine ⟨hrequest, hresponse, ?_⟩
    exact (inBounds_jtagSequences (fun _ h => hdone _ h hresponse) (by omega)).mp hsequences
  · rintro ⟨hrequest, hresponse, hsequences⟩
    refine ⟨hresponse, hrequest, ?_⟩
    exact (inBounds_jtagSequences (fun _ h => hdone _ h hresponse) (by omega)).mpr hsequences

/-- Whole bytes and the bits that are left are loaded one after another. -/
theorem inBounds_swjSequence {post : Unit → DapData → Finset ℕ → Prop} {stored : Finset ℕ}
    {count data : ℕ} (hdata : data ≤ dapPacketSize) :
    InBounds (swjSequence buf count data) post s stored ↔
      data + bytesFor count ≤ dapPacketSize ∧ post () s stored := by
  have hbytes : ∀ bytes, Quiet (ask (.swdWriteBytes bytes)) :=
    fun _ => quiet_ask trivial fun _ => rfl
  have hbits : ∀ val nbits, Quiet (ask (.swdWriteBits val nbits)) :=
    fun _ _ => quiet_ask trivial fun _ => rfl
  have hlast : ∀ val nbits,
      InBounds (ask (.swdWriteBits val nbits)) post s stored ↔ post () s stored :=
    fun val nbits => hbits val nbits (post ()) s stored
  simp only [InBounds, swjSequence, wp_bind, wp_ite, wp_pure, inBounds_loadBytes hdata,
    inBounds_loadByte, hbytes, hlast]
  have hwhole : count % 8 = 0 → bytesFor count = count / 8 := by
    rw [bytesFor]
    omega
  have hrest : count % 8 ≠ 0 → bytesFor count = count / 8 + 1 := by
    rw [bytesFor]
    omega
  by_cases hbit : count % 8 = 0
  · rw [hwhole hbit, if_neg (not_not_intro hbit)]
    split_ifs with hbytes
    · exact Iff.rfl
    · exact (and_iff_right (by omega)).symm
  · rw [hrest hbit, if_pos hbit]
    split_ifs
    · exact and_iff_right_of_imp fun hfits => Nat.le_of_succ_le hfits.1
    · exact Iff.rfl

end Sequences

/-! ## Pins -/

section Pins

variable {value select : Word32} {s : DapData} {stored : Finset ℕ}

theorem quiet_pinIn (pin : Pin) : Quiet (pinIn pin) := by
  have hlevel : Quiet (ask (.pinIn pin)) := quiet_ask trivial fun _ => rfl
  exact quiet_bind hlevel fun _ => quiet_pure _

theorem quiet_pinOut (bit : ℕ) (pin : Pin) : Quiet (pinOut value select bit pin) :=
  quiet_ite (quiet_ask trivial fun _ => rfl) (quiet_pure ())

theorem quiet_pinNResetOut (bit : Word32) : Quiet (pinNResetOut bit) := by
  have hdirection : ∀ output, Quiet (ask (.pinDirection .nReset output)) :=
    fun _ => quiet_ask trivial fun _ => rfl
  have hout : Quiet (ask (.pinOut .nReset false)) := quiet_ask trivial fun _ => rfl
  exact quiet_ite (hdirection false) (quiet_bind hout fun _ => hdirection true)

/-- The levels that a comparison can see. -/
def Levels (level : DapM Word32) (possible : Word32 → Prop) : Prop :=
  ∀ (post : Word32 → DapData → Finset ℕ → Prop) (s : DapData) (stored : Finset ℕ),
    InBounds level post s stored ↔ ∀ seen, possible seen → post seen s stored

theorem levels_pure (seen : Word32) : Levels (pure seen) (· = seen) := by
  intro post s stored
  constructor
  · rintro hpost _ rfl
    exact hpost
  · intro hpost
    exact hpost seen rfl

theorem levels_pinIn (pin : Pin) : Levels (pinIn pin) (· < 2#32) := by
  intro post s stored
  simp only [InBounds, pinIn, wp_bind, wp_pure]
  refine (inBounds_ask (show boundsWatch.allowed (.pinIn pin) from trivial) rfl).trans ?_
  constructor
  · intro hlevels seen hseen
    have hcases : seen = 0#32 ∨ seen = 1#32 := by
      simp only [← BitVec.toNat_inj]
      have hlt : seen.toNat < 2 := hseen
      simp
      omega
    rcases hcases with rfl | rfl
    · exact hlevels false
    · exact hlevels true
  · intro hseen level
    cases level with
    | false => exact hseen 0#32 (by decide)
    | true => exact hseen 1#32 (by decide)

variable {post : Bool → DapData → Finset ℕ → Prop}

theorem inBounds_pinMatches {bit : ℕ} {level : DapM Word32} {possible : Word32 → Prop}
    (hlevel : Levels level possible) (hfalse : post false s stored) {rest : DapM Bool} :
    InBounds (pinMatches value select bit level rest) post s stored ↔
      ((BitSelected select bit → possible (value >>> bit)) → InBounds rest post s stored) := by
  rw [pinMatches]
  by_cases hselected : BitSelected select bit
  · rw [if_pos hselected, forall_prop_of_true hselected, InBounds, wp_bind]
    simp only [wp_ite, wp_pure]
    apply (hlevel _ s stored).trans
    constructor
    · intro hall hpossible
      have hsame := hall (value >>> bit) hpossible
      rwa [if_neg (not_not_intro BitVec.xor_self)] at hsame
    · intro hrest seen hpossible
      split_ifs with hdiffers
      · exact hfalse
      · obtain rfl := BitVec.xor_eq_zero_iff.mp (not_not.mp hdiffers)
        exact hrest hpossible
  · rw [if_neg hselected, forall_prop_of_false hselected, true_implies]

/-- Once a mismatch is harmless, what counts is whether the levels can match. -/
theorem inBounds_pinsMatch_of_false (hfalse : post false s stored) :
    InBounds (pinsMatch value select) post s stored ↔
      (PinsReachable value select → post true s stored) := by
  simp only [pinsMatch, inBounds_pinMatches (levels_pinIn _) hfalse,
    inBounds_pinMatches (levels_pure _) hfalse, PinsReachable, and_imp, wp_pure,
    BitVec.ushiftRight_zero]

theorem inBounds_pinsMatch
    (hfalse : (PinsReachable value select → post true s stored) → post false s stored) :
    InBounds (pinsMatch value select) post s stored ↔
      (PinsReachable value select → post true s stored) := by
  constructor
  · intro hmatch
    -- forget what a mismatch owes
    have hmatched : InBounds (pinsMatch value select)
        (fun matched s stored => matched = true → post matched s stored) s stored :=
      wp_mono (fun _ _ _ hpost _ => hpost) hmatch
    intro hreachable
    exact (inBounds_pinsMatch_of_false fun h => absurd h Bool.false_ne_true).mp hmatched hreachable rfl
  · intro hreaches
    exact (inBounds_pinsMatch_of_false (hfalse hreaches)).mpr hreaches

/-- Every turn of the wait counts as the first, so that only a match ends it. -/
theorem inBounds_swjPinsWait {polls : ℕ} {post : Unit → DapData → Finset ℕ → Prop} :
    InBounds (swjPinsWait value select 1#32 timestampGet polls) post s stored ↔
      (PinsReachable value select → post () s stored) := by
  have hwaiting : ¬ ¬ timestampGet - timestampGet < 1#32 := not_not_intro (by decide)
  induction polls with
  | zero =>
      simp only [InBounds, swjPinsWait, wp_bind, wp_ite, wp_pure, or_iff_left hwaiting]
      refine (inBounds_pinsMatch fun _ => ?_).trans ?_
      · rw [if_neg (by decide)]
        refine (inBounds_ask (show boundsWatch.allowed .spin from trivial) rfl).mpr ?_
        intro never
        exact never.elim
      · rw [if_pos rfl]
  | succ polls ih =>
      simp only [InBounds, swjPinsWait, wp_bind, wp_ite, wp_pure, or_iff_left hwaiting]
      refine (inBounds_pinsMatch fun hreaches => ?_).trans ?_
      · rw [if_neg (by decide)]
        rw [if_pos rfl] at hreaches
        exact ih.mpr hreaches
      · rw [if_pos rfl]

theorem inBounds_dapSwjPins {buf : Buf} {request response polls : ℕ}
    {post : Word32 → DapData → Finset ℕ → Prop} {done : Prop}
    (hdone : response + 1 ≤ dapPacketSize →
      (post (sizes 6#32 1#32) s (Finset.range (response + 1)) ↔ done)) :
    InBounds (dapSwjPins buf request response polls) post s (Finset.range response) ↔
      request + 6 ≤ dapPacketSize ∧
        (wordAt buf (request + 2) = 0#32 ∨
            PinsReachable ((buf request).setWidth 32) ((buf (request + 1)).setWidth 32) →
          response + 1 ≤ dapPacketSize ∧ done) := by
  have hend : response < dapPacketSize ∧
      post (sizes 6#32 1#32) s (insert response (Finset.range response)) ↔
        response + 1 ≤ dapPacketSize ∧ done := by
    rw [← Finset.range_add_one]
    exact and_congr_right hdone
  simp only [dapSwjPins, wp_bind, wp_ite, wp_pure, inBounds_loadByte, inBounds_loadWord,
    inBounds_storeByte, quiet_pinOut _ _, quiet_pinNResetOut _, quiet_pinIn _,
    inBounds_swjPinsWait, ite_self, hend]
  constructor
  · rintro ⟨-, -, hword, hrest⟩
    refine ⟨hword, ?_⟩
    rintro (hzero | hreachable)
    · rwa [if_neg (not_not_intro hzero)] at hrest
    · split_ifs at hrest
      · exact hrest hreachable
      · exact hrest
  · rintro ⟨hword, hrest⟩
    refine ⟨by omega, by omega, hword, ?_⟩
    split_ifs with hzero
    · exact fun hreachable => hrest (.inr hreachable)
    · exact hrest (.inl (not_not.mp hzero))

end Pins

end ExLink.Dap
