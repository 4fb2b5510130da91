/-
# What a packet determines of a transfer request

The packet determines a turn of the request loop of `DAP_Transfer`, whatever the target
answers, exactly if the bytes that matter are bytes of the packet. Where one is not,
there are two slots of which the SWD line or the response shows the difference; or what
follows would have to lie inside the packet again, before bytes that do not.
-/

import ExLink.Dap.Determined

namespace ExLink.Dap

open ExLink.Automata ExLink.Automata.Prog
open ExLink.Swd (IsRead dapTransferOk)

/-- What a turn owes to what follows it. -/
structure TurnEnds (rest : Buf → Bool × TransferVars → DapM Word32) (s : DapData)
    (follows : Prop) (near : ℕ → ℕ → Prop) (head : ℕ) (broken : Buf → ℕ → ℕ → ℕ → Word32 → Prop)
    (next : Buf → ℕ → ℕ → ℕ → Bool → Word32 → Prop) : Prop where
  onBroken : ∀ data len v mask, near v.request v.response → v.responseValue ≠ dapTransferOk →
    (Determined data len (fun b => rest b (true, v)) (s.masked mask) ↔
      broken data len v.request v.response mask)
  onNext : ∀ data len v mask, near v.request v.response → v.responseValue = dapTransferOk →
    (Determined data len (fun b => rest b (false, v)) (s.masked mask) ↔
      next data len v.request v.response v.postRead mask)
  -- what comes after an unbroken turn lies behind it
  reaches : follows → ∀ data len request response posted mask, near request response →
    next data len request response posted mask → request < len
  -- the last mask is not used
  free : ¬ follows → ∀ b₁ b₂ (v : TransferVars) d₁ d₂ m₁ m₂, v.responseValue = dapTransferOk →
    v.postRead = false →
      Same (rest b₁ (false, { v with data := d₁ })) (rest b₂ (false, { v with data := d₂ }))
        (s.masked m₁) (s.masked m₂)
  -- the response shows how the last turn ended
  opensOk : ¬ follows → ∀ b (v : TransferVars) t, v.responseValue = dapTransferOk →
    v.postRead = false → v.checkWrite = false →
      OpensWith (.store head (BitVec.ofNat 8 (v.responseCount + 1))) (rest b (false, v)) t
  opensBroken : ∀ b (v : TransferVars) t, v.responseValue ≠ dapTransferOk →
    OpensWith (.store head (BitVec.ofNat 8 v.responseCount)) (rest b (true, v)) t

section Turn

variable {data : Buf} {len : ℕ} {s : DapData} {mask : Word32}
  {rest : Buf → Bool × TransferVars → DapM Word32} {follows : Prop} {near : ℕ → ℕ → Prop}
  {head : ℕ} {broken : Buf → ℕ → ℕ → ℕ → Word32 → Prop}
  {next : Buf → ℕ → ℕ → ℕ → Bool → Word32 → Prop} {request : Word32} {v : TransferVars}

theorem determined_storeWord {offset : ℕ} {word : Word32} {f : Buf → DapM Word32} :
    Determined data len (fun b => storeWord offset word >>= fun _ => f b) s ↔
      Determined data len f s := by
  simp only [storeWord, bind_assoc]
  exact determined_storeByte.trans
    (determined_storeByte.trans (determined_storeByte.trans determined_storeByte))

/-- A transfer, and what follows it. -/
theorem determined_transferData {word : Word32} {f : Buf → Word32 × Word32 → DapM Word32} :
    Determined data len (fun b => transferData request word >>= f b) s ↔
      InBounds (transferData request word)
        (fun result s _ => Determined data len (fun b => f b result) s) s ∅ :=
  determined_bind_inBounds (inBounds_transferData.mpr fun _ => trivial)

theorem determined_transferNull {f : Buf → Word32 → DapM Word32} :
    Determined data len (fun b => transferNull request >>= f b) s ↔
      InBounds (transferNull request)
        (fun result s _ => Determined data len (fun b => f b result) s) s ∅ :=
  determined_bind_inBounds (inBounds_transferNull.mpr fun _ => trivial)

/-- A transfer that stores what it read. -/
theorem determined_readStore (after : Buf → TransferVars → DapM (Bool × TransferVars))
    {fails within : Prop}
    (hbroken : ∀ value word, value ≠ dapTransferOk →
      (Determined data len (fun b => rest b (true, { v with responseValue := value, data := word }))
          s ↔ fails))
    (hafter : ∀ word,
      Determined data len
          (fun b =>
            after b
              { v with
                responseValue := dapTransferOk, data := word, response := v.response + 4 } >>=
                rest b)
          s ↔ within) :
    Determined data len (fun b => readStore request v (after b) >>= rest b) s ↔
      fails ∧ within := by
  simp only [readStore, bind_assoc]
  refine determined_transferData.trans ?_
  apply inBounds_transferData_any
  · intro value word hvalue
    simp only [if_pos hvalue, pure_bind]
    exact hbroken value word hvalue
  · intro word
    simp only [if_neg (not_not_intro rfl), bind_assoc]
    exact determined_storeWord.trans (hafter word)

/-! ### Reads that wait for a value -/

/-- A value inside the packet. -/
theorem determined_matchLoop (ends : TurnEnds rest s follows near head broken next)
    (hread : IsRead request) (hnear : near v.request v.response) (value : Word32) :
    Determined data len (fun b => matchLoop request value v >>= rest b) (s.masked mask) ↔
      broken data len v.request v.response mask ∧
        (value &&& mask = value → next data len v.request v.response v.postRead mask) := by
  have hquiet : InBounds (matchLoop request value v) (fun _ _ _ => True) (s.masked mask) ∅ := by
    simp only [matchLoop, wp_bind, wp_get, wp_pure]
    refine (@inBounds_matchTries s mask request hread value ∅ (fun _ _ _ => True) True True
      (fun _ _ _ => Iff.rfl) (fun _ => ?_) _ _).mpr ⟨trivial, fun _ => trivial⟩
    split_ifs <;> exact Iff.rfl
  refine (determined_bind_inBounds hquiet).trans ?_
  simp only [matchLoop, wp_bind, wp_get, wp_pure]
  apply inBounds_matchTries hread
  · intro read after hvalue
    rw [DapData.matchMask_masked, endRead_of_ne (compared_ne_ok (.inl hvalue))]
    exact ends.onBroken data len ⟨_, _, _, _, _, _, _⟩ mask hnear (compared_ne_ok (.inl hvalue))
  · intro after
    rw [DapData.matchMask_masked]
    split_ifs with hmatch
    · have hsame : compared mask value dapTransferOk after = dapTransferOk :=
        if_neg (not_not_intro hmatch)
      rw [hsame, endRead_ok]
      exact ends.onNext data len ⟨_, _, _, _, _, _, _⟩ mask hnear rfl
    · rw [endRead_of_ne (compared_ne_ok (.inr hmatch))]
      exact ends.onBroken data len ⟨_, _, _, _, _, _, _⟩ mask hnear (compared_ne_ok (.inr hmatch))

/-- A value that no word under the mask can be is waited for in vain. -/
theorem determined_matchTries_outside {value : Buf → Word32}
    (hout : ∀ b, Holds data len b → value b &&& mask ≠ value b)
    {f : Buf → Word32 × Word32 → DapM Word32} {within : Prop}
    (hf : ∀ result, Determined data len (fun b => f b result) (s.masked mask) ↔ within)
    (matchRetry : ℕ) (word : Word32) :
    Determined data len (fun b => matchTries request (value b) matchRetry word >>= f b)
        (s.masked mask) ↔ within := by
  have hmiss : ∀ b, Holds data len b → ∀ after, after &&& mask ≠ value b := by
    rintro b holds after hafter
    apply hout b holds
    rw [← hafter, BitVec.and_assoc, BitVec.and_self]
  induction matchRetry generalizing word with
  | zero =>
      refine determined_transferData.trans (inBounds_transferData.trans ?_)
      exact (forall_congr' fun _ => hf _).trans (forall_const _)
  | succ matchRetry ih =>
      simp only [matchTries, bind_assoc]
      refine determined_transferData.trans (inBounds_transferData.trans ?_)
      refine (forall_congr' fun answer => ?_).trans
        (forall_const { answer : Swd.SwdAnswer // answer.ack.toNat < 8 })
      refine determined_get.trans ?_
      by_cases hagain : (Swd.swdResult request (some word) answer.1).1.setWidth 32 =
          dapTransferOk ∧ s.transferAbort = 0#8
      · refine (determined_congr fun b holds => ?_).trans
          (ih ((Swd.swdResult request (some word) answer.1).2.getD word))
        rw [if_pos ⟨hagain.1, hmiss b holds _, hagain.2⟩]
      · refine (determined_congr fun b holds => ?_).trans
          (hf ((Swd.swdResult request (some word) answer.1).1.setWidth 32,
            (Swd.swdResult request (some word) answer.1).2.getD word))
        rw [if_neg fun h => hagain ⟨h.1, h.2.2⟩, pure_bind]

theorem determined_matchLoop_outside (ends : TurnEnds rest s follows near head broken next)
    (hnear : near v.request v.response) {value : Buf → Word32}
    (hout : ∀ b, Holds data len b → value b &&& mask ≠ value b) :
    Determined data len (fun b => matchLoop request (value b) v >>= rest b) (s.masked mask) ↔
      broken data len v.request v.response mask := by
  simp only [matchLoop, bind_assoc, pure_bind]
  refine determined_get.trans ?_
  apply determined_matchTries_outside hout
  rintro ⟨read, after⟩
  refine determined_get.trans ?_
  have hfailed : read ||| dapTransferMismatch ≠ dapTransferOk := by
    have hmiss : after &&& 0#32 ≠ 1#32 := by simp
    have hcompared := @compared_ne_ok 0#32 1#32 read after (.inr hmiss)
    rwa [compared, if_pos hmiss] at hcompared
  refine (determined_congr fun b holds => ?_).trans
    (ends.onBroken data len
      { v with data := after, responseValue := read ||| dapTransferMismatch } mask hnear hfailed)
  have hmiss : after &&& mask ≠ value b := by
    intro hafter
    apply hout b holds
    rw [← hafter, BitVec.and_assoc, BitVec.and_self]
  rw [DapData.matchMask_masked, compared, if_pos hmiss, endRead_of_ne hfailed]

theorem same_transferData {word : Word32} {f g : Word32 × Word32 → DapM Word32} :
    Same (transferData request word >>= f) (transferData request word >>= g) s s ↔
      ∀ answer : { answer : Swd.SwdAnswer // answer.ack.toNat < 8 },
        Same (f ((Swd.swdResult request (some word) answer.1).1.setWidth 32,
            (Swd.swdResult request (some word) answer.1).2.getD word))
          (g ((Swd.swdResult request (some word) answer.1).1.setWidth 32,
            (Swd.swdResult request (some word) answer.1).2.getD word)) s s := by
  have hquiet : InBounds (transferData request word) (fun _ _ _ => True) s ∅ :=
    inBounds_transferData.mpr fun _ => trivial
  refine (alike_bind ((transferData request word).run s)).trans ?_
  exact (@guarantees_everywhere _ _ _ _ boundsWatch ((transferData request word).run s)
    (fun result => Same (f result.1) (g result.1) result.2 result.2) ∅ hquiet).trans
      (@inBounds_transferData request s ∅ word fun result s _ => Same (f result) (g result) s s)

/-- Two slots can differ in the byte behind the packet, and so in a word that reaches it. -/
theorem wordAt_filled_ne {offset : ℕ} (hoffset : ¬ offset + 4 ≤ len) {first second : Byte}
    (hne : first ≠ second) :
    wordAt (filled data len first) offset ≠ wordAt (filled data len second) offset := by
  intro h
  have hlast : ∀ buf : Buf, (wordAt buf offset >>> 24).setWidth 8 = buf (offset + 3) := by
    intro buf
    apply BitVec.eq_of_getLsbD_eq
    intro bit hbit
    simp only [wordAt, Word32.ofBuf, BitVec.getLsbD_setWidth, BitVec.getLsbD_ushiftRight,
      BitVec.getLsbD_or, BitVec.getLsbD_shiftLeft]
    rw [BitVec.getLsbD_of_ge _ (24 + bit - 0) (by omega),
      BitVec.getLsbD_of_ge _ (24 + bit - 8) (by omega),
      BitVec.getLsbD_of_ge _ (24 + bit - 16) (by omega), Nat.add_sub_cancel_left]
    simp [hbit, show bit < 32 by omega, show 24 + bit < 32 by omega]
  have hbyte := congrArg (fun word : Word32 => (word >>> 24).setWidth 8) h
  simp only [hlast] at hbyte
  rw [filled_of_le first (by omega), filled_of_le second (by omega)] at hbyte
  exact hne hbyte

/-- A target that answers OK with a word. -/
theorem same_of_answering {word : Word32} {f g : Word32 × Word32 → DapM Word32}
    (h : Same (transferData request word >>= f) (transferData request word >>= g) s s)
    (hread : IsRead request) (read : Word32) :
    Same (f (dapTransferOk, read)) (g (dapTransferOk, read)) s s := by
  have hanswer := same_transferData.mp h (answering read)
  rw [swdResult_answering_read hread] at hanswer
  exact hanswer

theorem starts_matchTries {value word : Word32} {retry : ℕ} :
    Starts (.swdTransfer request (some word)) (matchTries request value retry word) s := by
  cases retry with
  | zero => exact starts_transferData
  | succ retry => exact starts_transferData.bind

/-- In the last turn of a packet the response shows whether the value was read. -/
theorem not_determined_matchLoop (ends : TurnEnds rest s follows near head broken next)
    (hfollows : ¬ follows) (hread : IsRead request) (habort : s.transferAbort = 0#8)
    (hposted : v.postRead = false) {offset : ℕ} (hoffset : ¬ offset + 4 ≤ len)
    (hvalue : knownWord data len offset &&& mask = knownWord data len offset) :
    ¬ Determined data len (fun b => matchLoop request (wordAt b offset) v >>= rest b)
      (s.masked mask) := by
  intro h
  have hne : knownWord data len offset ≠ wordAt (filled data len 0xFF#8) offset :=
    wordAt_filled_ne hoffset (by decide)
  have hsame := h _ _ (holds_filled data len 0#8) (holds_filled data len 0xFF#8)
  change Same (matchLoop request (knownWord data len offset) v >>= rest (filled data len 0#8))
    (matchLoop request (wordAt (filled data len 0xFF#8) offset) v >>= rest (filled data len 0xFF#8))
    _ _ at hsame
  generalize knownWord data len offset = read at hvalue hne hsame
  generalize wordAt (filled data len 0xFF#8) offset = missed at hne hsame
  generalize filled data len 0#8 = b₁ at hsame
  generalize filled data len 0xFF#8 = b₂ at hsame
  have hmissed : read &&& mask ≠ missed := fun h => hne (hvalue.symm.trans h)
  -- the target answers OK, with the value that one of the slots waits for
  have hfirst : ∀ t : DapData,
      OpensWith (.store head (BitVec.ofNat 8 (v.responseCount + 1)))
        (rest b₁ (endRead (compared mask read dapTransferOk read) { v with data := read })) t := by
    intro t
    rw [compared, if_neg (not_not_intro hvalue), endRead_ok]
    exact ends.opensOk hfollows b₁ ⟨_, _, _, _, _, _, _⟩ t rfl hposted rfl
  have hsecond : ∀ t : DapData,
      OpensWith (.store head (BitVec.ofNat 8 v.responseCount))
        (rest b₂ (endRead (compared mask missed dapTransferOk read) { v with data := read })) t := by
    intro t
    have hfailed := @compared_ne_ok mask missed dapTransferOk read (.inr hmissed)
    rw [endRead_of_ne hfailed]
    exact ends.opensBroken b₂ ⟨_, _, _, _, _, _, _⟩ t hfailed
  have hcounts : DapOp.store head (BitVec.ofNat 8 (v.responseCount + 1)) ≠
      .store head (BitVec.ofNat 8 v.responseCount) := by
    intro heq
    have hbyte := congrArg BitVec.toNat (DapOp.store.inj heq).2
    rw [BitVec.toNat_ofNat, BitVec.toNat_ofNat] at hbyte
    omega
  simp only [matchLoop, bind_assoc, pure_bind, same_get] at hsame
  cases hretry : (s.masked mask).matchRetry.toNat with
  | zero =>
      rw [hretry] at hsame
      have hends := same_of_answering hsame hread read
      exact hcounts (hends.eq_of_opens (hfirst _) (hsecond _) rfl rfl ⟨()⟩ ⟨()⟩)
  | succ retry =>
      rw [hretry] at hsame
      simp only [matchTries, bind_assoc] at hsame
      have hends := same_of_answering hsame hread read
      rw [same_get, if_neg fun h => h.2.1 hvalue, if_pos ⟨rfl, hmissed, habort⟩, pure_bind]
        at hends
      have hagain : Starts (.swdTransfer request (some read)) (matchTries request missed retry read)
          (s.masked mask) := starts_matchTries
      exact DapOp.noConfusion
        (hends.eq_of_opens (hfirst _) hagain.bind.opens rfl rfl ⟨()⟩ ⟨faulting⟩)

/-- Every bit that is known to be set is set. -/
theorem knownWord_and {b : Buf} (holds : Holds data len b) (offset : ℕ) :
    knownWord data len offset &&& wordAt b offset = knownWord data len offset := by
  have hbyte : ∀ index bit, (filled data len 0#8 (offset + index)).getLsbD bit = true →
      (b (offset + index)).getLsbD bit = true := by
    intro index bit hbit
    by_cases hindex : offset + index < len
    · rw [filled, if_pos hindex] at hbit
      rwa [holds _ hindex]
    · rw [filled_of_le 0#8 (Nat.le_of_not_lt hindex), BitVec.getLsbD_zero] at hbit
      exact absurd hbit Bool.false_ne_true
  apply BitVec.eq_of_getLsbD_eq
  intro bit hbit
  rw [BitVec.getLsbD_and, Bool.and_eq_left_iff_imp]
  simp only [knownWord, wordAt, Word32.ofBuf, BitVec.getLsbD_or, BitVec.getLsbD_shiftLeft,
    BitVec.getLsbD_setWidth, Bool.or_eq_true, Bool.and_eq_true]
  rintro (((h | h) | h) | h)
  · exact .inl (.inl (.inl ⟨h.1, h.2.1, hbyte 0 _ h.2.2⟩))
  · exact .inl (.inl (.inr ⟨h.1, h.2.1, hbyte 1 _ h.2.2⟩))
  · exact .inl (.inr ⟨h.1, h.2.1, hbyte 2 _ h.2.2⟩)
  · exact .inr ⟨h.1, h.2.1, hbyte 3 _ h.2.2⟩

/-- A value that is waited for, wherever it lies. -/
theorem determined_matchLoop_word (ends : TurnEnds rest s follows near head broken next)
    (hread : IsRead request) (habort : s.transferAbort = 0#8) (hposted : v.postRead = false)
    {offset : ℕ} (hoffset : v.request = offset + 4) (hnear : near v.request v.response) :
    Determined data len (fun b => matchLoop request (wordAt b offset) v >>= rest b)
        (s.masked mask) ↔
      broken data len v.request v.response mask ∧
        (knownWord data len offset &&& mask = knownWord data len offset →
          offset + 4 ≤ len ∧ next data len v.request v.response v.postRead mask) := by
  have hinside : ∀ data len, offset + 4 ≤ len →
      (Determined data len (fun b => matchLoop request (wordAt b offset) v >>= rest b)
          (s.masked mask) ↔
        broken data len v.request v.response mask ∧
          (wordAt data offset &&& mask = wordAt data offset →
            next data len v.request v.response v.postRead mask)) := by
    intro data len hle
    refine (determined_congr fun b holds => ?_).trans
      (determined_matchLoop ends hread hnear (wordAt data offset))
    rw [wordAt_holds holds hle]
  by_cases hle : offset + 4 ≤ len
  · rw [hinside data len hle, knownWord_of_le hle]
    exact and_congr_right fun _ => imp_congr_right fun _ => (and_iff_right hle).symm
  · by_cases hvalue : knownWord data len offset &&& mask = knownWord data len offset
    · refine iff_of_false (fun h => ?_) fun h => hle (h.2 hvalue).1
      by_cases hfollows : follows
      · -- with the value filled in, what follows would have to lie before it
        have hwider := h.extend (Nat.le_of_not_le hle) (holds_filled data len 0#8)
        have hnext := ((hinside _ _ (le_refl _)).mp hwider).2 hvalue
        have hlt := ends.reaches hfollows _ _ _ _ _ _ hnear hnext
        omega
      · exact not_determined_matchLoop ends hfollows hread habort hposted hle hvalue h
    · have hout : ∀ b, Holds data len b → wordAt b offset &&& mask ≠ wordAt b offset := by
        intro b holds hb
        apply hvalue
        rw [← knownWord_and holds offset, BitVec.and_assoc, hb]
      rw [determined_matchLoop_outside ends hnear hout]
      exact (and_iff_left fun h => absurd h hvalue).symm

theorem determined_readMatch (ends : TurnEnds rest s follows near head broken next)
    (hread : IsRead request) (habort : s.transferAbort = 0#8) (hposted : v.postRead = false)
    (hnear : near (v.request + 4) v.response) :
    Determined data len (fun b => readMatch b request v >>= rest b) (s.masked mask) ↔
      broken data len (v.request + 4) v.response mask ∧
        (knownWord data len v.request &&& mask = knownWord data len v.request →
          v.request + 4 ≤ len ∧
            next data len (v.request + 4) v.response v.postRead mask) := by
  simp only [readMatch, bind_assoc]
  refine (determined_fetch fun b => fetches_loadWord v.request).trans ?_
  by_cases hap : OnAp request
  · simp only [if_pos hap, bind_assoc]
    refine determined_transferNull.trans ?_
    -- posting the read can fail where the tries can
    refine Iff.trans ?_ and_self_left
    apply inBounds_transferNull_any
    · intro value hvalue
      simp only [if_pos hvalue, pure_bind]
      exact ends.onBroken data len { v with request := v.request + 4, responseValue := value } mask
        hnear hvalue
    · simp only [if_neg (not_not_intro rfl)]
      exact @determined_matchLoop_word data len s mask rest follows near head broken next request
        { v with request := v.request + 4, responseValue := dapTransferOk } ends hread habort
        hposted v.request rfl hnear
  · simp only [if_neg hap]
    exact @determined_matchLoop_word data len s mask rest follows near head broken next request
      { v with request := v.request + 4 } ends hread habort hposted v.request rfl hnear

/-! ### Requests -/

theorem determined_readNormal (ends : TurnEnds rest s follows near head broken next)
    (hok : v.postRead = true → v.responseValue = dapTransferOk)
    (hnear : ∀ response, v.response ≤ response → response ≤ v.response + 4 →
      near v.request response) :
    Determined data len (fun b => readNormal request v >>= rest b) (s.masked mask) ↔
      if OnAp request then
        if v.postRead then next data len v.request v.response true mask
        else
          broken data len v.request v.response mask ∧ next data len v.request v.response true mask
      else
        broken data len v.request v.response mask ∧
          next data len v.request (v.response + 4) v.postRead mask := by
  have hstay := hnear v.response (le_refl _) (Nat.le_add_right _ _)
  rw [readNormal]
  split_ifs with hap hposted
  · rw [← hposted]
    exact ends.onNext data len { v with checkWrite := false } mask hstay (hok hposted)
  · simp only [bind_assoc]
    refine determined_transferNull.trans ?_
    apply inBounds_transferNull_any
    · intro value hvalue
      simp only [if_pos hvalue, pure_bind]
      exact ends.onBroken data len { v with responseValue := value } mask hstay hvalue
    · simp only [if_neg (not_not_intro rfl), pure_bind]
      exact ends.onNext data len
        { v with responseValue := dapTransferOk, postRead := true, checkWrite := false } mask hstay
        rfl
  · refine determined_readStore (fun _ v => pure (false, { v with checkWrite := false }))
      (fun value word => ends.onBroken data len ⟨_, _, _, _, _, _, _⟩ mask hstay) fun word => ?_
    exact ends.onNext data len
      { v with
        responseValue := dapTransferOk, data := word, response := v.response + 4
        checkWrite := false } mask (hnear _ (Nat.le_add_right _ _) (le_refl _)) rfl

/-- A read, from behind its header. -/
theorem determined_read (ends : TurnEnds rest s follows near head broken next)
    (hread : IsRead request) (habort : s.transferAbort = 0#8)
    (hok : v.postRead = true → v.responseValue = dapTransferOk)
    (hposted : MatchValue request → v.postRead = false)
    (hnear : ∀ position response, v.request ≤ position → position ≤ v.request + 4 →
      v.response ≤ response → response ≤ v.response + 4 → near position response) :
    Determined data len
        (fun b =>
          (if MatchValue request then readMatch b request v else readNormal request v) >>= rest b)
        (s.masked mask) ↔
      ReadWithin data len (broken data len) (next data len) request v.request v.response v.postRead
        mask := by
  rw [ReadWithin]
  by_cases hmatch : MatchValue request
  · simp only [if_pos hmatch]
    exact determined_readMatch ends hread habort (hposted hmatch)
      (hnear _ _ (Nat.le_add_right _ _) (le_refl _) (le_refl _) (Nat.le_add_right _ _))
  · simp only [if_neg hmatch]
    exact determined_readNormal ends hok (hnear _ · (le_refl _) (Nat.le_add_right _ _))

theorem not_matchValue_of_postsNext (hnext : PostsNext request) : ¬ MatchValue request := by
  intro hmatch
  apply hmatch
  have hbits : dapTransferMatchValue =
      (Swd.dapTransferAPnDP ||| dapTransferMatchValue) &&& dapTransferMatchValue := by decide
  rw [hbits, ← BitVec.and_assoc, hnext]
  decide

theorem determined_transferRead (ends : TurnEnds rest s follows near head broken next)
    (hread : IsRead request) (habort : s.transferAbort = 0#8)
    (hok : v.postRead = true → v.responseValue = dapTransferOk)
    (hnear : ∀ position response, v.request ≤ position → position ≤ v.request + 4 →
      v.response ≤ response → response ≤ v.response + 8 → near position response) :
    Determined data len (fun b => transferRead b request v >>= rest b) (s.masked mask) ↔
      if v.postRead then
        broken data len v.request v.response mask ∧
          ReadWithin data len (broken data len) (next data len) request v.request (v.response + 4)
            (decide (PostsNext request)) mask
      else
        ReadWithin data len (broken data len) (next data len) request v.request v.response false
          mask := by
  simp only [transferRead]
  by_cases hposted : v.postRead = true
  · have hstay := hnear v.request v.response (le_refl _) (Nat.le_add_right _ _) (le_refl _)
      (Nat.le_add_right _ _)
    have hfetched : ∀ position response, v.request ≤ position → position ≤ v.request + 4 →
        v.response + 4 ≤ response → response ≤ v.response + 4 + 4 → near position response :=
      fun position response hlow hhigh hlower hupper => hnear _ _ hlow hhigh (by omega) hupper
    simp only [if_pos hposted]
    by_cases hnext : PostsNext request
    · simp only [if_pos hnext, decide_eq_true hnext]
      refine determined_readStore _
        (fun value word => ends.onBroken data len ⟨_, _, _, _, _, _, _⟩ mask hstay) fun word => ?_
      rw [← hposted]
      exact determined_read (v := { v with
          responseValue := dapTransferOk, data := word, response := v.response + 4 })
        ends hread habort (fun _ => rfl)
        (fun hmatch => absurd hmatch (not_matchValue_of_postsNext hnext)) hfetched
    · simp only [if_neg hnext, decide_eq_false hnext]
      refine determined_readStore (v := { v with postRead := false }) _
        (fun value word => ends.onBroken data len ⟨_, _, _, _, _, _, _⟩ mask hstay) fun word => ?_
      exact determined_read (v := { v with
          responseValue := dapTransferOk, data := word, response := v.response + 4
          postRead := false })
        ends hread habort (fun _ => rfl) (fun _ => rfl) hfetched
  · have hunposted := Bool.eq_false_of_not_eq_true hposted
    simp only [if_neg hposted]
    rw [← hunposted]
    exact determined_read ends hread habort hok (fun _ => hunposted)
      fun position response hlow hhigh hlower hupper => hnear _ _ hlow hhigh hlower (by omega)

/-- A mask is used by what follows it. -/
theorem determined_writeMask (ends : TurnEnds rest s follows near head broken next)
    (hok : v.responseValue = dapTransferOk) (hposted : v.postRead = false) {offset : ℕ}
    (hoffset : v.request = offset + 4) (hnear : near v.request v.response) :
    Determined data len
        (fun b =>
          (modify fun s => { s with matchMask := wordAt b offset }) >>= fun _ =>
            rest b (false, { v with data := wordAt b offset }))
        (s.masked mask) ↔
      (follows → offset + 4 ≤ len ∧
        next data len v.request v.response false (wordAt data offset)) := by
  have hinside : ∀ data len, offset + 4 ≤ len →
      (Determined data len
          (fun b =>
            (modify fun s => { s with matchMask := wordAt b offset }) >>= fun _ =>
              rest b (false, { v with data := wordAt b offset }))
          (s.masked mask) ↔
        next data len v.request v.response false (wordAt data offset)) := by
    intro data len hle
    obtain ⟨position, filled, counted, value, posted, check, word⟩ := v
    obtain rfl : posted = false := hposted
    refine (determined_congr fun b holds => by rw [wordAt_holds holds hle]).trans ?_
    exact determined_modify.trans (ends.onNext data len ⟨_, _, _, _, _, _, _⟩ _ hnear hok)
  by_cases hfollows : follows
  · by_cases hle : offset + 4 ≤ len
    · rw [hinside data len hle]
      exact ⟨fun h _ => ⟨hle, h⟩, fun h => (h hfollows).2⟩
    · refine iff_of_false (fun h => ?_) fun h => hle (h hfollows).1
      -- with the mask filled in, what follows would have to lie before it
      have hwider := h.extend (Nat.le_of_not_le hle) (holds_filled data len 0#8)
      have hnext := (hinside _ _ (le_refl _)).mp hwider
      have hlt := ends.reaches hfollows _ _ _ _ _ _ hnear hnext
      omega
  · refine iff_of_true (fun b₁ b₂ _ _ => ?_) fun h => absurd h hfollows
    exact ends.free hfollows b₁ b₂ v _ _ _ _ hok hposted

theorem determined_writeRegister (ends : TurnEnds rest s follows near head broken next)
    (hposted : v.postRead = false) (hnear : near (v.request + 4) v.response) :
    Determined data len (fun b => writeRegister b request v >>= rest b) (s.masked mask) ↔
      WriteWithin data len (broken data len) (next data len) follows request v.request v.response
        mask := by
  obtain ⟨position, filled, counted, value, posted, check, word⟩ := v
  obtain rfl : posted = false := hposted
  simp only [writeRegister, bind_assoc]
  refine (determined_fetch fun b => fetches_loadWord position).trans ?_
  rw [WriteWithin]
  by_cases hmask : MatchMask request
  · simp only [if_pos hmask, bind_assoc, pure_bind]
    exact determined_writeMask
      (v := ⟨position + 4, filled, counted, dapTransferOk, false, check, word⟩) ends rfl rfl rfl hnear
  · simp only [if_neg hmask, bind_assoc]
    by_cases hle : position + 4 ≤ len
    · refine (determined_congr fun b holds => by rw [wordAt_holds holds hle]).trans ?_
      refine determined_transferData.trans (Iff.trans ?_ (and_iff_right hle).symm)
      apply inBounds_transferData_any
      · intro value after hvalue
        simp only [if_pos hvalue, pure_bind]
        exact ends.onBroken data len ⟨_, _, _, _, _, _, _⟩ mask hnear hvalue
      · intro after
        simp only [if_neg (not_not_intro rfl), pure_bind]
        exact ends.onNext data len ⟨_, _, _, _, _, _, _⟩ mask hnear rfl
    · refine iff_of_false ?_ fun h => hle h.1
      refine not_determined_of_opens 0#8 0xFF#8 starts_transferData.bind.opens
        starts_transferData.bind.opens rfl rfl fun heq => ?_
      exact wordAt_filled_ne hle (by decide) (Option.some.inj (DapOp.swdTransfer.inj heq).2)

theorem determined_transferWrite (ends : TurnEnds rest s follows near head broken next)
    (hnear : ∀ position response, v.request ≤ position → position ≤ v.request + 4 →
      v.response ≤ response → response ≤ v.response + 4 → near position response) :
    Determined data len (fun b => transferWrite b request v >>= rest b) (s.masked mask) ↔
      if v.postRead then
        broken data len v.request v.response mask ∧
          WriteWithin data len (broken data len) (next data len) follows request v.request
            (v.response + 4) mask
      else
        WriteWithin data len (broken data len) (next data len) follows request v.request v.response
          mask := by
  simp only [transferWrite]
  by_cases hposted : v.postRead = true
  · have hstay := hnear v.request v.response (le_refl _) (Nat.le_add_right _ _) (le_refl _)
      (Nat.le_add_right _ _)
    simp only [if_pos hposted]
    refine determined_readStore _
      (fun value word => ends.onBroken data len ⟨_, _, _, _, _, _, _⟩ mask hstay) fun word => ?_
    exact determined_writeRegister (v := { v with
        responseValue := dapTransferOk, data := word, response := v.response + 4
        postRead := false })
      ends rfl (hnear _ _ (Nat.le_add_right _ _) (le_refl _) (Nat.le_add_right _ _) (le_refl _))
  · simp only [if_neg hposted]
    exact determined_writeRegister ends (Bool.eq_false_of_not_eq_true hposted)
      (hnear _ _ (Nat.le_add_right _ _) (le_refl _) (le_refl _) (Nat.le_add_right _ _))

/-- The first transfer of a DP write. -/
theorem opens_write {b : Buf} (hheader : b v.request = 0x00#8) :
    ∃ request word, request ≠ 3#32 ∧
      OpensWith (.swdTransfer request word) (transferRequest b v >>= rest b) s := by
  simp only [transferRequest, bind_assoc]
  cases v.postRead with
  | true =>
      refine ⟨readRdbuff, some v.data, by decide, .fetch (fetches_loadByte _) ?_⟩
      rw [hheader, if_neg (by decide), transferWrite, if_pos rfl]
      exact starts_transferData.bind.bind.opens
  | false =>
      refine ⟨0#32, some (wordAt b (v.request + 1)), by decide, .fetch (fetches_loadByte _) ?_⟩
      rw [hheader, if_neg (by decide), transferWrite, if_neg Bool.false_ne_true]
      simp only [writeRegister, bind_assoc]
      refine .fetch (fetches_loadWord _) ?_
      rw [if_neg (by decide)]
      exact starts_transferData.bind.bind.opens

/-- The first transfer of an AP read. -/
theorem opens_read {b : Buf} (hheader : b v.request = 0x03#8) :
    OpensWith (.swdTransfer 3#32 (if v.postRead then some v.data else none))
      (transferRequest b v >>= rest b) s := by
  simp only [transferRequest, bind_assoc]
  refine .fetch (fetches_loadByte _) ?_
  cases v.postRead with
  | true =>
      change OpensWith (.swdTransfer 3#32 (some v.data)) _ _
      rw [hheader, if_pos (by decide), transferRead, if_pos rfl, if_pos (by decide)]
      exact starts_transferData.bind.bind.opens
  | false =>
      change OpensWith (.swdTransfer 3#32 none) _ _
      rw [hheader, if_pos (by decide), transferRead, if_neg Bool.false_ne_true]
      simp only [if_neg (show ¬ MatchValue ((0x03#8).setWidth 32) by decide), readNormal,
        if_pos (show OnAp ((0x03#8).setWidth 32) by decide), if_neg Bool.false_ne_true]
      exact starts_transferNull.bind.bind.opens

/-- One turn of the request loop. -/
theorem determined_transferRequest (ends : TurnEnds rest s follows near head broken next)
    (habort : s.transferAbort = 0#8) (hok : v.postRead = true → v.responseValue = dapTransferOk)
    (hnear : ∀ position response, v.request ≤ position → position ≤ v.request + 5 →
      v.response ≤ response → response ≤ v.response + 8 → near position response) :
    Determined data len (fun b => transferRequest b v >>= rest b) (s.masked mask) ↔
      RequestWithin data len (broken data len) (next data len) follows v.request v.response
        v.postRead mask := by
  by_cases hle : v.request < len
  · rw [RequestWithin]
    refine Iff.trans ?_ (and_iff_right hle).symm
    simp only [transferRequest, bind_assoc]
    refine (determined_loadByte hle).trans ?_
    by_cases hread : IsRead ((data v.request).setWidth 32)
    · simp only [if_pos hread]
      exact determined_transferRead (v := { v with request := v.request + 1 }) ends hread habort hok
        fun position response hlow => hnear _ _ (Nat.le_of_succ_le hlow)
    · simp only [if_neg hread]
      exact determined_transferWrite (v := { v with request := v.request + 1 }) ends
        fun position response hlow hhigh hlower hupper =>
          hnear _ _ (Nat.le_of_succ_le hlow) hhigh hlower
            (Nat.le_trans hupper (Nat.add_le_add_left (by decide) _))
  · refine iff_of_false ?_ fun h => hle h.1
    have hstale := Nat.le_of_not_lt hle
    obtain ⟨header, word, hheader, hwrite⟩ :=
      @opens_write (s.masked mask) rest v (filled data len 0x00#8) (filled_of_le _ hstale)
    have hread :=
      @opens_read (s.masked mask) rest v (filled data len 0x03#8) (filled_of_le _ hstale)
    exact not_determined_of_opens _ _ hwrite hread rfl rfl fun heq =>
      hheader (DapOp.swdTransfer.inj heq).1

end Turn

end ExLink.Dap
