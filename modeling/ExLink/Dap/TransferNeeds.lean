/-
# What a packet determines of DAP_Transfer

The request loop turn by turn, the requests that are skipped and the read that closes the
command. What is skipped only says where the next command stands, so it matters if there
is one.
-/

import ExLink.Dap.TurnNeeds

namespace ExLink.Dap

open ExLink.Automata ExLink.Automata.Prog
open ExLink.Swd (IsRead dapTransferOk)

/-! ## The end of the command -/

/-- What `DAP_SWD_Transfer` does after its read. -/
def transferHead (request response ended : ℕ) (v : TransferVars) : DapM Word32 := do
  storeByte response (BitVec.ofNat 8 v.responseCount)
  storeByte (response + 1) (v.responseValue.setWidth 8)
  pure (sizes (BitVec.ofNat 32 (ended - request)) (BitVec.ofNat 32 (v.response - response)))

/-- What `DAP_SWD_Transfer` does after its loop. -/
def transferEnd (buf : Buf) (request response left : ℕ) (v : TransferVars) : DapM Word32 := do
  let ended ← skipRequests buf left v.request
  let v ← closingRead v
  transferHead request response ended v

theorem skipRequests_eq (b : Buf) (count request : ℕ) :
    skipRequests b count request =
      walkBytes b (fun header => 1 + skippedData header) count request := by
  induction count generalizing request with
  | zero => rfl
  | succ count ih => simp only [skipRequests, walkBytes, ih, Nat.add_assoc]

/-- The response bytes in a result. -/
theorem setWidth_sizes (consumed stored : Word32) :
    (sizes consumed stored).setWidth 16 = stored.setWidth 16 := by
  apply BitVec.eq_of_getLsbD_eq
  intro bit hbit
  simp [sizes, hbit]

section End

variable {data : Buf} {len : ℕ} {s : DapData} {mask : Word32} {request response : ℕ}
  {rest : Buf → Word32 → DapM Word32} {last : Bool} {done : Buf → ℕ → Word32 → Link → Prop}

theorem determined_transferHead (follows : Follows handlerLimit rest last request done) (ended : ℕ)
    (v : TransferVars) :
    Determined data len (fun b => transferHead request response ended v >>= rest b) s ↔
      done data len
        (sizes (BitVec.ofNat 32 (ended - request)) (BitVec.ofNat 32 (v.response - response)))
        s.link := by
  simp only [transferHead, bind_assoc, pure_bind]
  exact determined_storeByte.trans (determined_storeByte.trans (follows.same _ _ _ _))

/-- After the last command it does not matter where the skipped requests end. -/
theorem concludes_transferHead {size : Word16 → Word16}
    (hends : ∀ b num s, ConcludesWith [] (size (num.setWidth 16)) (rest b num) s) (b : Buf)
    (ended : ℕ) (v : TransferVars) :
    ConcludesWith
      [⟨.store response (BitVec.ofNat 8 v.responseCount), ()⟩,
        ⟨.store (response + 1) (v.responseValue.setWidth 8), ()⟩]
      (size ((BitVec.ofNat 32 (v.response - response)).setWidth 16))
      (transferHead request response ended v >>= rest b) s := by
  simp only [transferHead, bind_assoc, pure_bind]
  have hrest := hends b
    (sizes (BitVec.ofNat 32 (ended - request)) (BitVec.ofNat 32 (v.response - response))) s
  rw [setWidth_sizes] at hrest
  exact .store (.store hrest)

/-- The closing read can store a word more. -/
theorem determined_closingRead {after : Buf → TransferVars → DapM Word32} {within : ℕ → Prop}
    (hafter : ∀ v, Determined data len (fun b => after b v) s ↔ within v.response)
    (v : TransferVars) :
    Determined data len (fun b => closingRead v >>= after b) s ↔
      ClosingWithin within v.response
        (decide (v.responseValue = dapTransferOk ∧ v.postRead = true)) := by
  rw [closingRead, ClosingWithin]
  by_cases hok : v.responseValue = dapTransferOk
  · by_cases hposted : v.postRead = true
    · rw [if_pos hok, if_pos hposted, decide_eq_true ⟨hok, hposted⟩]
      simp only [bind_assoc, pure_bind, forall_true_left]
      exact @determined_readStore data len s (fun b result => after b result.2) _ v
        (fun _ v => pure (false, v)) _ _ (fun value word _ => hafter _) fun word => hafter _
    · have hopen : decide (v.responseValue = dapTransferOk ∧ v.postRead = true) = false :=
        decide_eq_false fun h => hposted h.2
      rw [if_pos hok, if_neg hposted, hopen]
      refine Iff.trans ?_ (and_iff_left fun h => absurd h Bool.false_ne_true).symm
      split_ifs with hcheck
      · simp only [bind_assoc, pure_bind]
        refine determined_transferNull.trans (Iff.trans ?_ (and_self_iff (a := within v.response)))
        apply inBounds_transferNull_any
        · intro value _
          exact hafter { v with responseValue := value }
        · exact hafter { v with responseValue := dapTransferOk }
      · exact hafter v
  · have hopen : decide (v.responseValue = dapTransferOk ∧ v.postRead = true) = false :=
      decide_eq_false fun h => hok h.1
    rw [if_neg hok, hopen]
    exact (hafter v).trans (and_iff_left fun h => absurd h Bool.false_ne_true).symm

theorem skippedData_le (header : Byte) : 1 + skippedData header ≤ 5 := by
  rw [skippedData]
  split_ifs <;> decide

/-- The end of the command. -/
theorem determined_transferEnd (follows : Follows handlerLimit rest last request done) {left : ℕ}
    {v : TransferVars} (hlow : request ≤ v.request)
    (hhigh : v.request + 5 * left ≤ request + 3000) (hroom : v.response ≤ response + 3000) :
    Determined data len (fun b => transferEnd b request response left v >>= rest b)
        (s.masked mask) ↔
      (last = false →
        SkipWithin data len
          (fun ended =>
            ClosingWithin
              (fun filled =>
                done data len
                  (sizes (BitVec.ofNat 32 (ended - request)) (BitVec.ofNat 32 (filled - response)))
                  (s.masked mask).link)
              v.response (decide (v.responseValue = dapTransferOk ∧ v.postRead = true)))
          left v.request) := by
  simp only [transferEnd, skipRequests_eq, bind_assoc]
  cases hlast : last with
  | true =>
      refine iff_of_true ?_ fun h => absurd h.symm Bool.false_ne_true
      obtain ⟨size, hends⟩ := follows.ends hlast
      refine (determined_fetch fun b => fetches_walkBytes left v.request).mpr ?_
      refine (@determined_closingRead data len _ _ (fun _ => True) (fun v => ?_) v).mpr
        ⟨trivial, fun _ => trivial⟩
      exact iff_of_true
        (determined_of_concludes fun b => concludes_transferHead hends b _ v) trivial
  | false =>
      refine Iff.trans ?_ (forall_prop_of_true rfl).symm
      refine @determined_walkBytes data len 5 _ (s.masked mask)
        (fun b ended => closingRead v >>= fun v => transferHead request response ended v >>= rest b)
        (fun data len ended => ClosingWithin
          (fun filled => done data len
            (sizes (BitVec.ofNat 32 (ended - request)) (BitVec.ofNat 32 (filled - response)))
            (s.masked mask).link)
          v.response (decide (v.responseValue = dapTransferOk ∧ v.postRead = true)))
        left v.request (fun _ => Nat.lt_add_right _ Nat.one_pos) skippedData_le ?_ ?_
      · intro data len ended _ _
        exact determined_closingRead (fun v => determined_transferHead follows ended v) v
      · intro data len ended hle hge h
        have hlt := follows.reaches hlast data len (ended - request) (v.response - response) _
          (by rw [handlerLimit]; omega) (by rw [handlerLimit]; omega) h.1
        omega

/-! ### The last request of a packet -/

/-- A transfer does not use the mask. -/
theorem same_transferTries_masked {header : Word32} {retry : ℕ} {word : Option Word32}
    {f g : Word32 × Option Word32 → DapM Word32} {first second : Word32}
    (h : ∀ result, Same (f result) (g result) (s.masked first) (s.masked second)) :
    Same (transferTries header retry word >>= f) (transferTries header retry word >>= g)
      (s.masked first) (s.masked second) := by
  induction retry generalizing word with
  | zero =>
      simp only [transferTries, swdTransferOnce, bind_assoc, pure_bind]
      exact alike_ask.mpr fun answer => h _
  | succ retry ih =>
      simp only [transferTries, swdTransferOnce, bind_assoc, pure_bind]
      refine alike_ask.mpr fun answer => same_get.mpr ?_
      by_cases hagain : (Swd.swdResult header word answer.1).1.setWidth 32 = Swd.dapTransferWait ∧
          s.transferAbort = 0#8
      · rw [if_pos (show _ ∧ (s.masked first).transferAbort = 0#8 from hagain),
          if_pos (show _ ∧ (s.masked second).transferAbort = 0#8 from hagain)]
        exact ih
      · rw [if_neg (show ¬ (_ ∧ (s.masked first).transferAbort = 0#8) from hagain),
          if_neg (show ¬ (_ ∧ (s.masked second).transferAbort = 0#8) from hagain)]
        exact h _

theorem same_transferNull_masked {header : Word32} {f g : Word32 → DapM Word32}
    {first second : Word32} (h : ∀ value, Same (f value) (g value) (s.masked first) (s.masked second)) :
    Same (transferNull header >>= f) (transferNull header >>= g) (s.masked first)
      (s.masked second) := by
  simp only [transferNull, bind_assoc, pure_bind]
  exact same_transferTries_masked fun result => h result.1

/-- After the last request it does not matter which word was written to the mask. -/
theorem same_transferEnd (follows : Follows handlerLimit rest last request done) (hlast : last = true)
    (b₁ b₂ : Buf) {v : TransferVars} (hok : v.responseValue = dapTransferOk)
    (hposted : v.postRead = false) (d₁ d₂ m₁ m₂ : Word32) :
    Same (transferEnd b₁ request response 0 { v with data := d₁ } >>= rest b₁)
      (transferEnd b₂ request response 0 { v with data := d₂ } >>= rest b₂) (s.masked m₁)
      (s.masked m₂) := by
  obtain ⟨size, hends⟩ := follows.ends hlast
  obtain ⟨position, filled, counted, value, posted, check, word⟩ := v
  obtain rfl : value = dapTransferOk := hok
  obtain rfl : posted = false := hposted
  simp only [transferEnd, skipRequests, closingRead, pure_bind, bind_assoc, if_pos,
    if_neg Bool.false_ne_true]
  cases check with
  | true =>
      simp only [if_pos, bind_assoc, pure_bind]
      exact same_transferNull_masked fun value =>
        (concludes_transferHead hends b₁ _ ⟨_, _, _, _, _, _, _⟩).alike
          (concludes_transferHead hends b₂ _ ⟨_, _, _, _, _, _, _⟩)
  | false =>
      simp only [if_neg Bool.false_ne_true, pure_bind]
      exact (concludes_transferHead hends b₁ _ ⟨_, _, _, _, _, _, _⟩).alike
        (concludes_transferHead hends b₂ _ ⟨_, _, _, _, _, _, _⟩)

/-- The count in the response is the first thing that is stored. -/
theorem opens_transferEnd {b : Buf} (left : ℕ) {v : TransferVars}
    (hclosed : closingRead v = pure v) :
    OpensWith (.store response (BitVec.ofNat 8 v.responseCount))
      (transferEnd b request response left v >>= rest b) s := by
  simp only [transferEnd, skipRequests_eq, bind_assoc]
  refine .fetch (fetches_walkBytes left v.request) ?_
  rw [hclosed]
  exact (starts_storeByte.bind.bind).opens

/-! ### The request loop -/

/-- A request loop, with `count` requests to go, that is still near its start. -/
structure Near (request response count position filled : ℕ) : Prop where
  consumed : request ≤ position
  requestRoom : position + 5 * count ≤ request + 2000
  responseRoom : filled + 8 * count ≤ response + 3000

/-- What the end of the command needs. -/
def EndWithin (last : Bool) (done : Buf → ℕ → Word32 → Link → Prop) (swd : Bool)
    (request response : ℕ) (data : Buf) (len left position filled : ℕ) (posted : Bool)
    (mask : Word32) : Prop :=
  last = false →
    SkipWithin data len
      (fun ended =>
        ClosingWithin
          (fun filled =>
            done data len
              (sizes (BitVec.ofNat 32 (ended - request)) (BitVec.ofNat 32 (filled - response)))
              ⟨swd, mask⟩)
          filled posted)
      left position

/-- What comes after a turn of the loop with `count` turns to go. -/
def afterTurn (rest : Buf → Word32 → DapM Word32) (request response count : ℕ) (b : Buf)
    (result : Bool × TransferVars) : DapM Word32 :=
  if result.1 then transferEnd b request response (count + 1) result.2 >>= rest b
  else do
    let v := { result.2 with responseCount := result.2.responseCount + 1 }
    let s ← get
    if s.transferAbort ≠ 0#8 then transferEnd b request response (count + 1) v >>= rest b
    else
      transferLoop b count v >>= fun result =>
        transferEnd b request response result.1 result.2 >>= rest b

theorem transferLoop_succ (count : ℕ) (b : Buf) (v : TransferVars) :
    (transferLoop b (count + 1) v >>= fun result =>
        transferEnd b request response result.1 result.2 >>= rest b) =
      transferRequest b v >>= afterTurn rest request response count b := by
  simp only [transferLoop, bind_assoc]
  apply bind_congr
  intro result
  obtain ⟨broke, v⟩ := result
  cases broke with
  | true => rfl
  | false =>
      simp only [afterTurn, if_neg Bool.false_ne_true, bind_assoc]
      apply bind_congr
      intro s
      split_ifs
      · rfl
      · rfl

/-- The loop goes on, unless an abort was requested. -/
theorem run_afterTurn_continues (count : ℕ) (b : Buf) (v : TransferVars) :
    (afterTurn rest request response count b (false, v)).run s =
      (if s.transferAbort ≠ 0#8 then
          transferEnd b request response (count + 1)
            { v with responseCount := v.responseCount + 1 } >>= rest b
        else
          transferLoop b count { v with responseCount := v.responseCount + 1 } >>= fun result =>
            transferEnd b request response result.1 result.2 >>= rest b).run s := rfl

theorem run_afterTurn (habort : s.transferAbort = 0#8) (count : ℕ) (b : Buf) (v : TransferVars) :
    (afterTurn rest request response count b (false, v)).run s =
      (transferLoop b count { v with responseCount := v.responseCount + 1 } >>= fun result =>
        transferEnd b request response result.1 result.2 >>= rest b).run s := by
  rw [run_afterTurn_continues, if_neg (not_not_intro habort)]

theorem determined_afterTurn (habort : s.transferAbort = 0#8) (count : ℕ) (v : TransferVars) :
    Determined data len (fun b => afterTurn rest request response count b (false, v)) s ↔
      Determined data len
        (fun b =>
          transferLoop b count { v with responseCount := v.responseCount + 1 } >>= fun result =>
            transferEnd b request response result.1 result.2 >>= rest b)
        s := by
  simp only [Determined, Same, run_afterTurn habort]

/-- An aborted loop ends as the last turn does. -/
theorem opens_afterTurn (b : Buf) {v : TransferVars} (t : DapData)
    (hok : v.responseValue = dapTransferOk) (hposted : v.postRead = false)
    (hcheck : v.checkWrite = false) :
    OpensWith (.store response (BitVec.ofNat 8 (v.responseCount + 1)))
      (afterTurn rest request response 0 b (false, v)) t := by
  have hclosed : closingRead { v with responseCount := v.responseCount + 1 } =
      pure { v with responseCount := v.responseCount + 1 } := by
    simp only [closingRead, hok, hposted, hcheck, if_pos, if_neg Bool.false_ne_true]
  have hopens (left : ℕ) := @opens_transferEnd t request response rest b left _ hclosed
  by_cases habort : t.transferAbort = 0#8
  · rw [OpensWith, run_afterTurn habort]
    exact hopens 0
  · rw [OpensWith, run_afterTurn_continues, if_pos habort]
    exact hopens 1

/-- What a turn owes to the rest of the loop. -/
theorem turnEnds_afterTurn (follows : Follows handlerLimit rest last request done)
    (habort : s.transferAbort = 0#8) (count : ℕ)
    (hloop : ∀ data len v mask, Near request response count v.request v.response →
      v.responseValue = dapTransferOk →
        (Determined data len
            (fun b =>
              transferLoop b count v >>= fun result =>
                transferEnd b request response result.1 result.2 >>= rest b)
            (s.masked mask) ↔
          TransferLoopWithin data len last
            (EndWithin last done s.link.swd request response data len) count v.request v.response
            v.postRead mask)) :
    TurnEnds (afterTurn rest request response count) s (count ≠ 0 ∨ last = false)
      (Near request response count) response
      (fun data len position filled mask =>
        EndWithin last done s.link.swd request response data len (count + 1) position filled false
          mask)
      (fun data len position filled posted mask =>
        TransferLoopWithin data len last (EndWithin last done s.link.swd request response data len)
          count position filled posted mask) where
  onBroken data len v mask near hvalue := by
    have hopen : decide (v.responseValue = dapTransferOk ∧ v.postRead = true) = false :=
      decide_eq_false fun h => hvalue h.1
    have hroom := near.requestRoom
    have hstored := near.responseRoom
    have hend := @determined_transferEnd data len s mask request response rest last done follows
      (count + 1) v near.consumed (by omega) (by omega)
    rw [hopen] at hend
    exact hend
  onNext data len v mask near hvalue :=
    (@determined_afterTurn data len (s.masked mask) request response rest habort count v).trans
      (hloop data len { v with responseCount := v.responseCount + 1 } mask near hvalue)
  reaches hfollows data len position filled posted mask near h := by
    cases count with
    | succ count => exact h.1
    | zero =>
        have hlast : last = false := hfollows.resolve_left (not_not_intro rfl)
        have hroom := near.requestRoom
        have hstored := near.responseRoom
        have hconsumed := near.consumed
        have hlt := follows.reaches hlast data len (position - request) (filled - response) _
          (by rw [handlerLimit]; omega) (by rw [handlerLimit]; omega) (h hlast).1
        omega
  free hfollows b₁ b₂ v d₁ d₂ m₁ m₂ hok hposted := by
    obtain ⟨hzero, hlast⟩ := not_or.mp hfollows
    obtain rfl := not_not.mp hzero
    rw [Same, run_afterTurn (s := s.masked m₁) habort, run_afterTurn (s := s.masked m₂) habort]
    exact same_transferEnd follows (Bool.eq_true_of_not_eq_false hlast) b₁ b₂
      (v := { v with responseCount := v.responseCount + 1 }) hok hposted d₁ d₂ m₁ m₂
  opensOk hfollows b v t hok hposted hcheck := by
    obtain ⟨hzero, -⟩ := not_or.mp hfollows
    obtain rfl := not_not.mp hzero
    exact opens_afterTurn b t hok hposted hcheck
  opensBroken b v t hvalue := by
    exact opens_transferEnd (count + 1) (if_neg hvalue)

/-- The request loop, from a turn to the next. -/
theorem determined_transferLoop (follows : Follows handlerLimit rest last request done)
    (habort : s.transferAbort = 0#8) {count : ℕ} {v : TransferVars}
    (hok : v.postRead = true → v.responseValue = dapTransferOk)
    (near : Near request response count v.request v.response) :
    Determined data len
        (fun b =>
          transferLoop b count v >>= fun result =>
            transferEnd b request response result.1 result.2 >>= rest b)
        (s.masked mask) ↔
      TransferLoopWithin data len last (EndWithin last done s.link.swd request response data len)
        count v.request v.response v.postRead mask := by
  have hroom := near.requestRoom
  have hstored := near.responseRoom
  have hconsumed := near.consumed
  induction count generalizing data len mask v with
  | zero =>
      have hposted : decide (v.responseValue = dapTransferOk ∧ v.postRead = true) = v.postRead := by
        cases hcase : v.postRead with
        | true => exact decide_eq_true ⟨hok hcase, rfl⟩
        | false => exact decide_eq_false fun h => Bool.false_ne_true h.2
      have hend := @determined_transferEnd data len s mask request response rest last done follows 0
        v hconsumed (by omega) (by omega)
      rw [hposted] at hend
      exact hend
  | succ count ih =>
      simp only [transferLoop_succ]
      refine determined_transferRequest
        (turnEnds_afterTurn follows habort count fun data len v mask near hvalue =>
          ih (fun _ => hvalue) near near.requestRoom near.responseRoom near.consumed)
        habort hok ?_
      intro position filled hlow hhigh hlower hupper
      exact ⟨by omega, by omega, by omega⟩

end End

/-! ## The commands -/

section Command

variable {data : Buf} {len : ℕ} {s : DapData} {request response : ℕ}
  {rest : Buf → Word32 → DapM Word32} {last : Bool} {done : Buf → ℕ → Word32 → Link → Prop}

theorem dapSwdTransfer_eq (b : Buf) :
    dapSwdTransfer b request response >>= rest b =
      ask .garbage >>= fun word =>
        (modify fun s => { s with transferAbort := 0#8 }) >>= fun _ =>
          loadByte b (request + 1) >>= fun count =>
            transferLoop b count.toNat ⟨request + 2, response + 2, 0, 0#32, false, false, word⟩ >>=
              fun result => transferEnd b request response result.1 result.2 >>= rest b := by
  simp only [dapSwdTransfer, transferEnd, transferHead, bind_assoc, pure_bind]

/-- The first thing that is seen comes from the loop. -/
theorem opens_dapSwdTransfer {b : Buf} {op : DapOp}
    (h : ∀ word,
      OpensWith op
        (transferLoop b (b (request + 1)).toNat
            ⟨request + 2, response + 2, 0, 0#32, false, false, word⟩ >>= fun result =>
          transferEnd b request response result.1 result.2 >>= rest b)
        { s with transferAbort := 0#8 }) :
    OpensWith op (dapSwdTransfer b request response >>= rest b) s := by
  rw [dapSwdTransfer_eq]
  refine .unseen rfl ⟨(0#32 : Word32)⟩ fun word => ?_
  exact .modify (.fetch (fetches_loadByte (request + 1)) (h word))

theorem opens_dapSwdTransfer_none {b : Buf} (hcount : b (request + 1) = 0x00#8) :
    OpensWith (.store response 0#8) (dapSwdTransfer b request response >>= rest b) s := by
  refine opens_dapSwdTransfer fun word => ?_
  rw [hcount]
  exact opens_transferEnd 0 (v := ⟨_, _, 0, 0#32, false, false, word⟩)
    (if_neg (show ¬ 0#32 = dapTransferOk by decide))

theorem opens_dapSwdTransfer_read {b : Buf} (hcount : b (request + 1) = 0x03#8)
    (hheader : b (request + 2) = 0x03#8) :
    OpensWith (.swdTransfer 3#32 none) (dapSwdTransfer b request response >>= rest b) s := by
  refine opens_dapSwdTransfer fun word => ?_
  rw [hcount, show (0x03#8).toNat = 2 + 1 from rfl, transferLoop_succ]
  exact opens_read (v := ⟨_, _, 0, 0#32, false, false, word⟩) hheader

theorem determined_dapSwdTransfer (follows : Follows handlerLimit rest last request done)
    (hswd : s.debugPort = dapPortSwd) :
    Determined data len (fun b => dapSwdTransfer b request response >>= rest b) s ↔
      SwdTransferWithin data len last (fun num mask => done data len num ⟨true, mask⟩) request
        response s.matchMask := by
  have hlink : ({ s with transferAbort := 0#8 } : DapData).link.swd = true := decide_eq_true hswd
  by_cases hle : request + 2 ≤ len
  · simp only [dapSwdTransfer_eq]
    refine determined_ask.trans ?_
    refine Iff.trans (forall_congr' fun word => ?_) (forall_const Word32)
    refine determined_modify.trans ((determined_loadByte hle).trans ?_)
    have hloop := @determined_transferLoop data len { s with transferAbort := 0#8 } s.matchMask
      request response rest last done follows rfl (data (request + 1)).toNat
      ⟨request + 2, response + 2, 0, 0#32, false, false, word⟩ (fun h => absurd h Bool.false_ne_true)
      ⟨Nat.le_add_right _ _, by have := (data (request + 1)).isLt; dsimp only; omega,
        by have := (data (request + 1)).isLt; dsimp only; omega⟩
    rw [hlink] at hloop
    exact hloop.trans (and_iff_right hle).symm
  · -- without a count there may be no request at all, or one that is an AP read
    refine iff_of_false ?_ fun h => hle h.1
    have hstale (fill : Byte) {offset : ℕ} (hoffset : request + 1 ≤ offset) :
        filled data len fill offset = fill := filled_of_le fill (by omega)
    have hread := @opens_dapSwdTransfer_read s request response rest
      (filled data len 0x03#8) (hstale _ (le_refl _)) (hstale _ (Nat.le_succ _))
    have hnone := @opens_dapSwdTransfer_none s request response rest
      (filled data len 0x00#8) (hstale _ (le_refl _))
    exact not_determined_of_opens _ _ hnone hread rfl rfl DapOp.noConfusion

/-- What `DAP_Dummy_Transfer` does after its requests. -/
def dummyHead (request response ended : ℕ) : DapM Word32 := do
  storeByte response 0#8
  storeByte (response + 1) 0#8
  pure (sizes (BitVec.ofNat 32 (ended - request)) 2#32)

theorem dapDummyTransfer_eq (b : Buf) :
    dapDummyTransfer b request response >>= rest b =
      loadByte b (request + 1) >>= fun count =>
        walkBytes b (fun header => 1 + skippedData header) count.toNat (request + 2) >>=
          fun ended => dummyHead request response ended >>= rest b := by
  simp only [dapDummyTransfer, dummyHead, skipRequests_eq, bind_assoc]

theorem determined_dummyHead (follows : Follows handlerLimit rest last request done) (ended : ℕ) :
    Determined data len (fun b => dummyHead request response ended >>= rest b) s ↔
      done data len (sizes (BitVec.ofNat 32 (ended - request)) 2#32) s.link := by
  simp only [dummyHead, bind_assoc, pure_bind]
  exact determined_storeByte.trans (determined_storeByte.trans (follows.same _ _ _ _))

theorem concludes_dummyHead {size : Word16 → Word16}
    (hends : ∀ b num s, ConcludesWith [] (size (num.setWidth 16)) (rest b num) s) (b : Buf)
    (ended : ℕ) :
    ConcludesWith [⟨.store response 0#8, ()⟩, ⟨.store (response + 1) 0#8, ()⟩] (size 2#16)
      (dummyHead request response ended >>= rest b) s := by
  simp only [dummyHead, bind_assoc, pure_bind]
  have hrest := hends b (sizes (BitVec.ofNat 32 (ended - request)) 2#32) s
  rw [setWidth_sizes] at hrest
  exact .store (.store hrest)

/-- The dummy transfer skips all of its requests. -/
theorem determined_dapDummyTransfer (follows : Follows handlerLimit rest last request done) :
    Determined data len (fun b => dapDummyTransfer b request response >>= rest b) s ↔
      DummyTransferWithin data len last (fun num => done data len num s.link) request := by
  simp only [dapDummyTransfer_eq, DummyTransferWithin]
  cases hlast : last with
  | true =>
      refine iff_of_true ?_ fun h => absurd h.symm Bool.false_ne_true
      obtain ⟨size, hends⟩ := follows.ends hlast
      refine (determined_fetch fun b => fetches_loadByte (request + 1)).mpr ?_
      refine (determined_fetch fun b => fetches_walkBytes _ (request + 2)).mpr ?_
      exact determined_of_concludes fun b => concludes_dummyHead hends b _
  | false =>
      refine Iff.trans ?_ (forall_prop_of_true rfl).symm
      refine @determined_countedWalk data len 5 _ s
        (fun b ended => dummyHead request response ended >>= rest b)
        (fun data len ended =>
          done data len (sizes (BitVec.ofNat 32 (ended - request)) 2#32) s.link)
        (request + 1) (fun _ => Nat.lt_add_right _ Nat.one_pos) skippedData_le ?_ ?_
      · intro data len ended _ _
        exact determined_dummyHead follows ended
      · intro data len ended hlow hhigh h
        have hlt := follows.reaches hlast data len (ended - request) 2 _
          (by rw [handlerLimit]; omega) (by decide) h
        omega

/-- `DAP_Transfer`. -/
theorem determined_dapTransfer (follows : Follows handlerLimit rest last request done) :
    Determined data len (fun b => dapTransfer b request response >>= rest b) s ↔
      if s.link.swd = true then
        SwdTransferWithin data len last (fun num mask => done data len num ⟨true, mask⟩) request
          response s.link.mask
      else DummyTransferWithin data len last (fun num => done data len num s.link) request := by
  simp only [dapTransfer, bind_assoc]
  refine determined_get.trans ?_
  by_cases hswd : s.debugPort = dapPortSwd
  · have hlink : s.link.swd = true := decide_eq_true hswd
    simp only [if_pos hswd, if_pos hlink]
    exact determined_dapSwdTransfer follows hswd
  · have hlink : ¬ s.link.swd = true := fun h => hswd (of_decide_eq_true h)
    simp only [if_neg hswd, if_neg hlink]
    exact determined_dapDummyTransfer follows

end Command

end ExLink.Dap
