/-
# Bounds of DAP_Transfer

The request loop of `DAP_Transfer` is in bounds, whatever the target answers, exactly if
the packet fits. Its turns end in two ways, broken or not, and what follows depends on
the offsets that were reached, on the match mask and on whether a read is posted.
-/

import ExLink.Dap.Bounds
import ExLink.Dap.Fits

namespace ExLink.Dap

open ExLink.Automata ExLink.Automata.Prog
open ExLink.Swd (IsRead dapTransferOk)

/-- The state with another match mask, all that a transfer changes. -/
def DapData.masked (s : DapData) (mask : Word32) : DapData := { s with matchMask := mask }

@[simp]
theorem DapData.matchMask_masked (s : DapData) (mask : Word32) :
    (s.masked mask).matchMask = mask := rfl

/-- The offsets of a request loop that started to store at `lo`. -/
structure Placed (lo : ℕ) (v : TransferVars) : Prop where
  lower : lo ≤ v.response
  upper : v.response = lo ∨ v.response ≤ dapPacketSize
  request : v.request ≤ dapPacketSize

/-- What a turn owes to what follows it. -/
structure Ends (s : DapData) (base : Finset ℕ) (lo : ℕ)
    (post : Bool × TransferVars → DapData → Finset ℕ → Prop)
    (broken : ℕ → ℕ → Word32 → Prop) (next : ℕ → ℕ → Bool → Word32 → Prop) : Prop where
  broken : ∀ v mask, Placed lo v → v.responseValue ≠ dapTransferOk →
    (post (true, v) (s.masked mask) (base ∪ Finset.Ico lo v.response) ↔
      broken v.request v.response mask)
  next : ∀ v mask, Placed lo v → v.responseValue = dapTransferOk →
    (post (false, v) (s.masked mask) (base ∪ Finset.Ico lo v.response) ↔
      next v.request v.response v.postRead mask)

section Turn

variable {buf : Buf} {s : DapData} {mask : Word32} {base : Finset ℕ} {lo : ℕ}
  {post : Bool × TransferVars → DapData → Finset ℕ → Prop}
  {broken : ℕ → ℕ → Word32 → Prop} {next : ℕ → ℕ → Bool → Word32 → Prop}
  {request : Word32} {v : TransferVars}

theorem inBounds_readStore (ends : Ends s base lo post broken next) (placed : Placed lo v)
    {rest : TransferVars → DapM (Bool × TransferVars)} {fits : Prop}
    (hrest : ∀ after, v.response + 4 ≤ dapPacketSize →
      (InBounds
          (rest
            { v with
              responseValue := dapTransferOk, data := after, response := v.response + 4 })
          post (s.masked mask) (base ∪ Finset.Ico lo (v.response + 4)) ↔ fits)) :
    InBounds (readStore request v rest) post (s.masked mask) (base ∪ Finset.Ico lo v.response) ↔
      broken v.request v.response mask ∧ v.response + 4 ≤ dapPacketSize ∧ fits := by
  simp only [InBounds, readStore, wp_bind]
  apply inBounds_transferData_any
  · intro value after hvalue
    rw [if_pos hvalue]
    exact ends.broken { v with responseValue := value, data := after } mask
      ⟨placed.lower, placed.upper, placed.request⟩ hvalue
  · intro after
    rw [if_neg (not_not_intro rfl)]
    simp only [wp_bind, inBounds_storeWord placed.lower]
    exact and_congr_right fun hroom => hrest after hroom

/-- A comparison never makes a failure OK. -/
theorem compared_ne_ok {matchValue value after : Word32}
    (hvalue : value ≠ dapTransferOk ∨ after &&& mask ≠ matchValue) :
    compared mask matchValue value after ≠ dapTransferOk := by
  rw [compared]
  split_ifs with hmiss
  · intro heq
    have hbit := congrArg (fun word : Word32 => word.getLsbD 4) heq
    simp [dapTransferMismatch, dapTransferOk] at hbit
  · exact hvalue.resolve_right hmiss

theorem endRead_of_ne {value : Word32} (hvalue : value ≠ dapTransferOk) (v : TransferVars) :
    endRead value v = (true, { v with responseValue := value }) := if_pos hvalue

theorem endRead_ok (v : TransferVars) :
    endRead dapTransferOk v =
      (false, { v with responseValue := dapTransferOk, checkWrite := false }) := rfl

/-- A word under the mask can be the value only if the value lies inside the mask; a word
that is not may lead to another try. -/
theorem masked_value_iff {mask value : Word32} {fits fails : Prop} (again : Prop)
    [Decidable again] :
    (fails ∧ ∀ word : Word32,
        if word &&& mask ≠ value ∧ again then fails ∧ (value &&& mask = value → fits)
        else if word &&& mask = value then fits else fails) ↔
      fails ∧ (value &&& mask = value → fits) := by
  constructor
  · rintro ⟨hfails, hword⟩
    refine ⟨hfails, fun hinside => ?_⟩
    have hvalue := hword value
    rwa [if_neg fun h => h.1 hinside, if_pos hinside] at hvalue
  · rintro ⟨hfails, hfits⟩
    refine ⟨hfails, fun word => ?_⟩
    split_ifs with hagain hword
    · exact ⟨hfails, hfits⟩
    · apply hfits
      rw [← hword, BitVec.and_assoc, BitVec.and_self]
    · exact hfails

theorem inBounds_matchTries (hread : IsRead request) {matchValue : Word32} {stored : Finset ℕ}
    {post : Word32 × Word32 → DapData → Finset ℕ → Prop} {fits fails : Prop}
    (hfails : ∀ value after, value ≠ dapTransferOk →
      (post (value, after) (s.masked mask) stored ↔ fails))
    (hok : ∀ after, post (dapTransferOk, after) (s.masked mask) stored ↔
      if after &&& mask = matchValue then fits else fails) (matchRetry : ℕ) (data : Word32) :
    InBounds (matchTries request matchValue matchRetry data) post (s.masked mask) stored ↔
      fails ∧ (matchValue &&& mask = matchValue → fits) := by
  induction matchRetry generalizing data with
  | zero =>
      rw [← masked_value_iff False]
      simp only [matchTries, and_false, if_false]
      exact inBounds_transferData_read hread hfails hok
  | succ matchRetry ih =>
      simp only [matchTries, wp_bind, wp_get, wp_ite, wp_pure]
      rw [← masked_value_iff (s.transferAbort = 0#8)]
      apply inBounds_transferData_read hread
      · intro value after hvalue
        rw [if_neg fun h => hvalue h.1]
        exact hfails value after hvalue
      · intro after
        simp only [true_and, ih, hok after]
        rfl

/-- The comparison of the last word decides how the turn ends. -/
theorem inBounds_matchLoop (ends : Ends s base lo post broken next) (placed : Placed lo v)
    (hread : IsRead request) (matchValue : Word32) :
    InBounds (matchLoop request matchValue v) post (s.masked mask)
        (base ∪ Finset.Ico lo v.response) ↔
      broken v.request v.response mask ∧
        (matchValue &&& mask = matchValue → next v.request v.response v.postRead mask) := by
  simp only [matchLoop, wp_bind, wp_get, wp_pure]
  apply inBounds_matchTries hread
  · intro value after hvalue
    rw [DapData.matchMask_masked, endRead_of_ne (compared_ne_ok (.inl hvalue))]
    exact ends.broken ⟨_, _, _, _, _, _, _⟩ mask ⟨placed.lower, placed.upper, placed.request⟩
      (compared_ne_ok (.inl hvalue))
  · intro after
    rw [DapData.matchMask_masked]
    split_ifs with hmatch
    · have hsame : compared mask matchValue dapTransferOk after = dapTransferOk :=
        if_neg (not_not_intro hmatch)
      rw [hsame, endRead_ok]
      exact ends.next ⟨_, _, _, _, _, _, _⟩ mask ⟨placed.lower, placed.upper, placed.request⟩ rfl
    · rw [endRead_of_ne (compared_ne_ok (.inr hmatch))]
      exact ends.broken ⟨_, _, _, _, _, _, _⟩ mask ⟨placed.lower, placed.upper, placed.request⟩
        (compared_ne_ok (.inr hmatch))

theorem inBounds_readMatch (ends : Ends s base lo post broken next) (placed : Placed lo v)
    (hread : IsRead request) :
    InBounds (readMatch buf request v) post (s.masked mask) (base ∪ Finset.Ico lo v.response) ↔
      v.request + 4 ≤ dapPacketSize ∧ broken (v.request + 4) v.response mask ∧
        (wordAt buf v.request &&& mask = wordAt buf v.request →
          next (v.request + 4) v.response v.postRead mask) := by
  simp only [readMatch, wp_bind, inBounds_loadWord, wp_ite, wp_pure]
  apply and_congr_right
  intro hroom
  have hplaced (value : Word32) :
      Placed lo { v with request := v.request + 4, responseValue := value } :=
    ⟨placed.lower, placed.upper, hroom⟩
  split_ifs with hap
  · -- posting the read can fail where the tries can
    refine Iff.trans ?_ and_self_left
    apply inBounds_transferNull_any
    · intro value hvalue
      rw [if_pos hvalue]
      exact ends.broken _ mask (hplaced value) hvalue
    · rw [if_neg (not_not_intro rfl)]
      exact inBounds_matchLoop ends (hplaced dapTransferOk) hread _
  · exact inBounds_matchLoop ends (hplaced v.responseValue) hread _

theorem inBounds_readNormal (ends : Ends s base lo post broken next) (placed : Placed lo v)
    (hok : v.postRead = true → v.responseValue = dapTransferOk) :
    InBounds (readNormal request v) post (s.masked mask) (base ∪ Finset.Ico lo v.response) ↔
      if OnAp request then
        if v.postRead then next v.request v.response true mask
        else broken v.request v.response mask ∧ next v.request v.response true mask
      else
        broken v.request v.response mask ∧ v.response + 4 ≤ dapPacketSize ∧
          next v.request (v.response + 4) v.postRead mask := by
  simp only [readNormal, wp_bind, wp_ite, wp_pure]
  split_ifs with hap hposted
  · rw [← hposted]
    exact ends.next { v with checkWrite := false } mask
      ⟨placed.lower, placed.upper, placed.request⟩ (hok hposted)
  · apply inBounds_transferNull_any
    · intro value hvalue
      rw [if_pos hvalue]
      exact ends.broken { v with responseValue := value } mask
        ⟨placed.lower, placed.upper, placed.request⟩ hvalue
    · rw [if_neg (not_not_intro rfl)]
      exact ends.next
        { v with responseValue := dapTransferOk, postRead := true, checkWrite := false } mask
        ⟨placed.lower, placed.upper, placed.request⟩ rfl
  · apply inBounds_readStore ends placed
    intro after hroom
    exact ends.next
      { v with
        responseValue := dapTransferOk, data := after, response := v.response + 4
        checkWrite := false } mask
      ⟨Nat.le_add_right_of_le placed.lower, .inr hroom, placed.request⟩ rfl

/-- A read, from behind its header. -/
theorem inBounds_read (ends : Ends s base lo post broken next) (placed : Placed lo v)
    (hok : v.postRead = true → v.responseValue = dapTransferOk) (hread : IsRead request) :
    InBounds (if MatchValue request then readMatch buf request v else readNormal request v) post
        (s.masked mask) (base ∪ Finset.Ico lo v.response) ↔
      ReadFits buf broken next request v.request v.response v.postRead mask := by
  by_cases hmatch : MatchValue request
  · rw [ReadFits, if_pos hmatch, if_pos hmatch]
    exact inBounds_readMatch ends placed hread
  · rw [ReadFits, if_neg hmatch, if_neg hmatch]
    exact inBounds_readNormal ends placed hok

theorem inBounds_transferRead (ends : Ends s base lo post broken next) (placed : Placed lo v)
    (hok : v.postRead = true → v.responseValue = dapTransferOk) (hread : IsRead request) :
    InBounds (transferRead buf request v) post (s.masked mask) (base ∪ Finset.Ico lo v.response) ↔
      if v.postRead then
        broken v.request v.response mask ∧ v.response + 4 ≤ dapPacketSize ∧
          ReadFits buf broken next request v.request (v.response + 4) (decide (PostsNext request))
            mask
      else ReadFits buf broken next request v.request v.response false mask := by
  have hplaced (posted : Bool) (after : Word32) (hroom : v.response + 4 ≤ dapPacketSize) :
      Placed lo
        { v with
          responseValue := dapTransferOk, data := after, response := v.response + 4
          postRead := posted } :=
    ⟨Nat.le_add_right_of_le placed.lower, .inr hroom, placed.request⟩
  rw [transferRead]
  by_cases hposted : v.postRead = true
  · rw [if_pos hposted, if_pos hposted]
    by_cases hnext : PostsNext request
    · rw [if_pos hnext, decide_eq_true hnext, ← hposted]
      apply inBounds_readStore ends placed
      intro after hroom
      exact inBounds_read ends (hplaced v.postRead after hroom) (fun _ => rfl) hread
    · rw [if_neg hnext, decide_eq_false hnext]
      have hunposted : Placed lo { v with postRead := false } :=
        ⟨placed.lower, placed.upper, placed.request⟩
      apply inBounds_readStore ends hunposted
      intro after hroom
      exact inBounds_read ends (hplaced false after hroom) (fun _ => rfl) hread
  · rw [if_neg hposted, if_neg hposted, ← Bool.eq_false_of_not_eq_true hposted]
    exact inBounds_read ends placed hok hread

theorem inBounds_writeRegister (ends : Ends s base lo post broken next) (placed : Placed lo v)
    (hposted : v.postRead = false) :
    InBounds (writeRegister buf request v) post (s.masked mask)
        (base ∪ Finset.Ico lo v.response) ↔
      WriteFits buf broken next request v.request v.response mask := by
  obtain ⟨position, filled, counted, value, posted, check, data⟩ := v
  obtain rfl : posted = false := hposted
  simp only [writeRegister, WriteFits, wp_bind, inBounds_loadWord, wp_ite, wp_modify, wp_pure]
  apply and_congr_right
  intro hroom
  split_ifs with hmask
  · exact ends.next ⟨_, _, _, _, _, _, _⟩ (wordAt buf position)
      ⟨placed.lower, placed.upper, hroom⟩ rfl
  · apply inBounds_transferData_any
    · intro value after hvalue
      rw [if_pos hvalue]
      exact ends.broken ⟨_, _, _, _, _, _, _⟩ mask ⟨placed.lower, placed.upper, hroom⟩ hvalue
    · intro after
      rw [if_neg (not_not_intro rfl)]
      exact ends.next ⟨_, _, _, _, _, _, _⟩ mask ⟨placed.lower, placed.upper, hroom⟩ rfl

theorem inBounds_transferWrite (ends : Ends s base lo post broken next) (placed : Placed lo v) :
    InBounds (transferWrite buf request v) post (s.masked mask) (base ∪ Finset.Ico lo v.response) ↔
      if v.postRead then
        broken v.request v.response mask ∧ v.response + 4 ≤ dapPacketSize ∧
          WriteFits buf broken next request v.request (v.response + 4) mask
      else WriteFits buf broken next request v.request v.response mask := by
  rw [transferWrite]
  by_cases hposted : v.postRead = true
  · rw [if_pos hposted, if_pos hposted]
    apply inBounds_readStore ends placed
    intro after hroom
    have hplaced : Placed lo
        { v with
          responseValue := dapTransferOk, data := after, response := v.response + 4
          postRead := false } :=
      ⟨Nat.le_add_right_of_le placed.lower, .inr hroom, placed.request⟩
    exact inBounds_writeRegister ends hplaced rfl
  · rw [if_neg hposted, if_neg hposted]
    exact inBounds_writeRegister ends placed (Bool.eq_false_of_not_eq_true hposted)

theorem inBounds_transferRequest (ends : Ends s base lo post broken next) (placed : Placed lo v)
    (hok : v.postRead = true → v.responseValue = dapTransferOk) :
    InBounds (transferRequest buf v) post (s.masked mask) (base ∪ Finset.Ico lo v.response) ↔
      RequestFits buf broken next v.request v.response v.postRead mask := by
  simp only [transferRequest, RequestFits, wp_bind, inBounds_loadByte, wp_ite]
  apply and_congr_right
  intro hroom
  have hplaced : Placed lo { v with request := v.request + 1 } :=
    ⟨placed.lower, placed.upper, hroom⟩
  by_cases hread : IsRead ((buf v.request).setWidth 32)
  · rw [if_pos hread, if_pos hread]
    exact inBounds_transferRead ends hplaced hok hread
  · rw [if_neg hread, if_neg hread]
    exact inBounds_transferWrite ends hplaced

end Turn

/-! ## The whole command -/

section Command

variable {buf : Buf} {s : DapData} {mask : Word32} {base : Finset ℕ} {lo : ℕ}

/-- The request loop, from a turn to the next. -/
theorem inBounds_transferLoop {post : ℕ × TransferVars → DapData → Finset ℕ → Prop}
    {done : ℕ → ℕ → ℕ → Bool → Word32 → Prop}
    (hdone : ∀ left v mask, Placed lo v →
      (post (left, v) (s.masked mask) (base ∪ Finset.Ico lo v.response) ↔
        done left v.request v.response
          (decide (v.responseValue = dapTransferOk ∧ v.postRead = true)) mask))
    (habort : s.transferAbort = 0#8) {count : ℕ} {v : TransferVars} (placed : Placed lo v)
    (hok : v.postRead = true → v.responseValue = dapTransferOk) :
    InBounds (transferLoop buf count v) post (s.masked mask) (base ∪ Finset.Ico lo v.response) ↔
      TransferLoopFits buf done count v.request v.response v.postRead mask := by
  induction count generalizing v mask with
  | zero =>
      have hposted : decide (v.responseValue = dapTransferOk ∧ v.postRead = true) = v.postRead := by
        cases hcase : v.postRead with
        | true => exact decide_eq_true ⟨hok hcase, rfl⟩
        | false => exact decide_eq_false fun h => Bool.false_ne_true h.2
      have hlast := hdone 0 v mask placed
      rw [hposted] at hlast
      exact hlast
  | succ count ih =>
      simp only [transferLoop, wp_bind]
      refine inBounds_transferRequest ⟨?_, ?_⟩ placed hok
      · intro v mask placed hvalue
        have hbroken := hdone (count + 1) v mask placed
        rw [decide_eq_false fun h => hvalue h.1] at hbroken
        exact hbroken
      · intro v mask placed hvalue
        have hcontinue : ¬ (s.masked mask).transferAbort ≠ 0#8 := not_not_intro habort
        have hcounted : Placed lo { v with responseCount := v.responseCount + 1 } :=
          ⟨placed.lower, placed.upper, placed.request⟩
        simp only [if_neg (show ¬ false = true by decide), wp_bind, wp_get, wp_ite,
          if_neg hcontinue]
        exact ih hcounted fun _ => hvalue

theorem inBounds_skipRequests {post : ℕ → DapData → Finset ℕ → Prop} {done : ℕ → Prop}
    {stored : Finset ℕ}
    (hdone : ∀ last, last ≤ dapPacketSize + 4 → (post last s stored ↔ done last)) {count request : ℕ}
    (hrequest : request ≤ dapPacketSize + 4) :
    InBounds (skipRequests buf count request) post s stored ↔ SkipFits buf done count request := by
  induction count generalizing request with
  | zero => exact hdone request hrequest
  | succ count ih =>
      simp only [skipRequests, SkipFits, wp_bind, inBounds_loadByte]
      apply and_congr_right
      intro hroom
      have hskipped : skippedData (buf request) ≤ 4 := by
        rw [skippedData]
        split_ifs <;> decide
      exact ih (by omega)

theorem inBounds_closingRead {post : TransferVars → DapData → Finset ℕ → Prop}
    (done : ℕ → Word32 → Prop)
    (hdone : ∀ v mask, Placed lo v →
      (post v (s.masked mask) (base ∪ Finset.Ico lo v.response) ↔ done v.response mask))
    {v : TransferVars} (placed : Placed lo v) :
    InBounds (closingRead v) post (s.masked mask) (base ∪ Finset.Ico lo v.response) ↔
      ClosingFits (fun filled => done filled mask) v.response
        (decide (v.responseValue = dapTransferOk ∧ v.postRead = true)) := by
  have hlast := hdone v mask placed
  have hclosed (value : Word32) := hdone { v with responseValue := value } mask
    ⟨placed.lower, placed.upper, placed.request⟩
  rw [closingRead, ClosingFits]
  by_cases hok : v.responseValue = dapTransferOk
  · rw [if_pos hok]
    by_cases hposted : v.postRead = true
    · rw [if_pos hposted, if_pos (decide_eq_true ⟨hok, hposted⟩)]
      simp only [wp_bind, wp_pure]
      have ends : Ends s base lo (fun result s stored => post result.2 s stored)
          (fun _ filled mask => done filled mask) (fun _ filled _ mask => done filled mask) :=
        ⟨fun v mask placed _ => hdone v mask placed, fun v mask placed _ => hdone v mask placed⟩
      apply inBounds_readStore ends placed
      intro after hroom
      exact hdone
        { v with responseValue := dapTransferOk, data := after, response := v.response + 4 } mask
        ⟨Nat.le_add_right_of_le placed.lower, .inr hroom, placed.request⟩
    · have hopen : ¬ decide (v.responseValue = dapTransferOk ∧ v.postRead = true) = true := by
        rw [decide_eq_true_iff]
        exact fun h => hposted h.2
      rw [if_neg hposted, if_neg hopen]
      split_ifs with hcheck
      · -- the check of the last write stores nothing
        simp only [wp_bind, wp_pure]
        refine Iff.trans ?_ (and_self_iff (a := done v.response mask))
        apply inBounds_transferNull_any
        · intro value _
          exact hclosed value
        · exact hclosed dapTransferOk
      · exact hlast
  · have hopen : ¬ decide (v.responseValue = dapTransferOk ∧ v.postRead = true) = true := by
      rw [decide_eq_true_iff]
      exact fun h => hok h.1
    rw [if_neg hok, if_neg hopen]
    exact hlast

variable {request response : ℕ} {post : Word32 → DapData → Finset ℕ → Prop}

theorem inBounds_dapSwdTransfer {done : ℕ → ℕ → Word32 → Prop}
    (hdone : ∀ consumed stored mask, consumed ≤ dapPacketSize + 4 →
      response + stored ≤ dapPacketSize →
        (post (sizes (BitVec.ofNat 32 consumed) (BitVec.ofNat 32 stored))
            ({ s with transferAbort := 0#8 }.masked mask) (Finset.range (response + stored)) ↔
          done consumed stored mask)) :
    InBounds (dapSwdTransfer buf request response) post s (Finset.range response) ↔
      SwdTransferFits buf done request response s.matchMask := by
  have hbase : Finset.range response =
      Finset.range response ∪ Finset.Ico (response + 2) (response + 2) := by
    rw [Finset.Ico_self, Finset.union_empty]
  have hstate : ({ s with transferAbort := 0#8 } : DapData) =
      ({ s with transferAbort := 0#8 } : DapData).masked s.matchMask := rfl
  simp only [dapSwdTransfer, wp_bind, wp_modify, wp_pure, inBounds_loadByte, inBounds_storeByte]
  refine inBounds_garbage fun data => ?_
  apply and_congr_right
  intro hroom
  have hstart : Placed (response + 2) ⟨request + 2, response + 2, 0, 0#32, false, false, data⟩ :=
    ⟨le_refl _, .inl rfl, hroom⟩
  rw [hbase, hstate]
  refine inBounds_transferLoop (fun left v mask placed => ?_) rfl hstart fun h =>
    absurd h Bool.false_ne_true
  apply inBounds_skipRequests
  · intro last hlast
    refine inBounds_closingRead
      (fun filled mask =>
        response + 2 ≤ dapPacketSize ∧ done (last - request) (filled - response) mask)
      (fun v mask placed => ?_) placed
    simp only [insert_range_union, range_union_Ico placed.lower]
    have hfilled : response + (v.response - response) = v.response := by
      have hlower := placed.lower
      omega
    have hend (hhead : response + 2 ≤ dapPacketSize) := hdone (last - request)
      (v.response - response) mask (by omega) (by
        have hupper := placed.upper
        omega)
    rw [hfilled] at hend
    constructor
    · rintro ⟨-, hhead, hpost⟩
      exact ⟨hhead, (hend hhead).mp hpost⟩
    · rintro ⟨hhead, hfits⟩
      exact ⟨by omega, hhead, (hend hhead).mpr hfits⟩
  · exact Nat.le_add_right_of_le placed.request

theorem inBounds_dapDummyTransfer {done : ℕ → ℕ → Prop}
    (hdone : ∀ consumed, consumed ≤ dapPacketSize + 4 → response + 2 ≤ dapPacketSize →
      (post (sizes (BitVec.ofNat 32 consumed) 2#32) s (Finset.range (response + 2)) ↔
        done consumed 2)) :
    InBounds (dapDummyTransfer buf request response) post s (Finset.range response) ↔
      DummyTransferFits buf done request response := by
  simp only [dapDummyTransfer, DummyTransferFits, wp_bind, wp_pure, inBounds_loadByte,
    inBounds_storeByte]
  apply and_congr_right
  intro hroom
  apply inBounds_skipRequests
  · intro last hlast
    have hstored : insert (response + 1) (insert response (Finset.range response)) =
        Finset.range (response + 2) := by
      rw [← Finset.range_add_one, ← Finset.range_add_one]
    rw [hstored]
    constructor
    · rintro ⟨-, hhead, hpost⟩
      exact ⟨hhead, (hdone _ (by omega) hhead).mp hpost⟩
    · rintro ⟨hhead, hfits⟩
      exact ⟨Nat.lt_of_succ_lt hhead, hhead, (hdone _ (by omega) hhead).mpr hfits⟩
  · exact Nat.le_add_right_of_le hroom

end Command

end ExLink.Dap
