/-
# What the transfer loops can still start

Between two checkpoints of the transfer loops only retries are started, and those are the
SWD transfers that follow another one of their kind at once. A transfer that succeeds
does not need the retries it has left, and one that fails for good ends the loops.
Whatever the target answers, a checkpoint announces no more than what is left then.
-/

import ExLink.Dap.Loops
import ExLink.Dap.TransferBounds

namespace ExLink.Dap

open ExLink.Automata ExLink.Automata.Prog
open ExLink.Swd (IsRead SwdAnswer swdResult dapTransferOk dapTransferWait)

/-! ## The monitor -/

/-- Whether an SWD transfer has a data argument; other questions have no kind. -/
def DapOp.kind : DapOp → Option Bool
  | .swdTransfer _ data => some data.isSome
  | _ => none

/-- The iterations and retries that can still start, those of them that are retries of
the transfer in hand, the retries that a transfer begins with, and the kind of the last
question. -/
structure Pace where
  left : ℕ
  tries : ℕ
  retries : ℕ
  last : Option Bool

/-- A transfer is tried again. -/
def Pace.Again (pace : Pace) (op : DapOp) : Prop := op.kind ≠ none ∧ pace.last = op.kind

instance (pace : Pace) (op : DapOp) : Decidable (pace.Again op) :=
  inferInstanceAs (Decidable (_ ∧ _))

/-- A question is asked. A try with no retries left to it is another read that compares. -/
def Pace.asked (pace : Pace) (op : DapOp) : Pace :=
  if pace.Again op then
    ⟨pace.left - 1, if pace.tries = 0 then pace.retries else pace.tries - 1, pace.retries, op.kind⟩
  else ⟨pace.left, if op.kind = none then 0 else pace.retries, pace.retries, op.kind⟩

/-- How a transfer ended. -/
def Pace.ended (pace : Pace) (value : Word32) : Pace :=
  if value = dapTransferOk then { pace with left := pace.left - pace.tries, tries := 0 }
  else if value = dapTransferWait ∧ pace.tries ≠ 0 then pace
  else { pace with left := 0, tries := 0 }

/-- A question is answered. -/
def Pace.heard (pace : Pace) : (op : DapOp) → op.Answer → Pace
  | .swdTransfer request data, answer =>
      pace.ended ((swdResult request data answer.1).1.setWidth 32)
  | .load _, _ | .store _ _, _ | .garbage, _ | .swdReadBits _, _ | .swdWriteBits _ _, _
  | .swdWriteBytes _, _ | .pinIn _, _ | .pinOut _ _, _ | .pinDirection _ _, _ | .portSetup, _
  | .portOff, _ | .setClock _, _ | .delaySlow _, _ | .delayMs _, _ | .spin, _ => pace

/-- Inside the loops a retry is one of those that were left. -/
def loopMonitor : Monitor DapOp DapOp.Answer Pace where
  allowed pace op := pace.Again op → 0 < pace.left
  asked := Pace.asked
  heard := Pace.heard

/-- A checkpoint inside the loops announces no more than what is left, where the start
of an iteration counts. Outside there is nothing to keep to. -/
def commandMonitor :
    Monitor (DapOp ⊕ Checkpoint) (MarkedAns DapOp.Answer Checkpoint) (Option Pace) where
  allowed
    | none, _ => True
    | some pace, .inl op => loopMonitor.allowed pace op
    | some pace, .inr (.turn _ ahead) => ahead + 1 ≤ pace.left
    | some pace, .inr (.outside _ ahead) => ahead ≤ pace.left
    | some _, .inr .leave => True
  asked
    | pace, .inl op => pace.map fun pace => pace.asked op
    | _, .inr (.turn retries ahead) => some ⟨ahead, 0, retries, none⟩
    | _, .inr (.outside retries ahead) => some ⟨ahead, 0, retries, none⟩
    | _, .inr .leave => none
  heard
    | pace, .inl op, answer => pace.map fun pace => pace.heard op answer
    | pace, .inr _, _ => pace

/-- A handler without checkpoints, inside the loops. -/
abbrev Paces {α : Type} (program : DapM α) (post : α → DapData → Pace → Prop) :
    DapData → Pace → Prop := Monitored loopMonitor program post

/-- A handler with checkpoints. -/
abbrev Commands {α : Type} (program : MarkedDapM α) (post : α → DapData → Option Pace → Prop) :
    DapData → Option Pace → Prop := Monitored commandMonitor program post

/-! ## Primitives -/

section Primitives

variable {s : DapData} {left tries retries : ℕ} {last : Option Bool}

/-- Anything but a transfer leaves what is left. -/
theorem Pace.asked_heard_quiet {op : DapOp} (hkind : op.kind = none) (pace : Pace)
    (answer : op.Answer) : (pace.asked op).heard op answer = ⟨pace.left, 0, pace.retries, none⟩ := by
  have hasked : pace.asked op = ⟨pace.left, 0, pace.retries, none⟩ := by
    rw [Pace.asked, if_neg fun hagain => hagain.1 hkind, if_pos hkind, hkind]
  rw [hasked]
  cases op with
  | swdTransfer request data => exact absurd hkind (Option.some_ne_none _)
  | load _ | store _ _ | garbage | swdReadBits _ | swdWriteBits _ _ | swdWriteBytes _ | pinIn _
  | pinOut _ _ | pinDirection _ _ | portSetup | portOff | setClock _ | delaySlow _ | delayMs _
  | spin => rfl

theorem paces_ask {op : DapOp} {post : op.Answer → DapData → Pace → Prop}
    (hkind : op.kind = none) (h : ∀ answer, post answer s ⟨left, 0, retries, none⟩) :
    Paces (ask op) post s ⟨left, tries, retries, last⟩ := by
  refine monitored_perform (fun hagain => absurd hkind hagain.1) fun answer => ?_
  have hheard : loopMonitor.heard (loopMonitor.asked ⟨left, tries, retries, last⟩ op) op answer =
      ⟨left, 0, retries, none⟩ := Pace.asked_heard_quiet hkind _ answer
  rw [hheard]
  exact h answer

theorem paces_loadByte {buf : Buf} {offset : ℕ} {post : Byte → DapData → Pace → Prop}
    (h : post (buf offset) s ⟨left, 0, retries, none⟩) :
    Paces (loadByte buf offset) post s ⟨left, tries, retries, last⟩ :=
  monitored_bind (paces_ask rfl fun _ => h)

theorem paces_loadWord {buf : Buf} {offset : ℕ} {post : Word32 → DapData → Pace → Prop}
    (h : post (wordAt buf offset) s ⟨left, 0, retries, none⟩) :
    Paces (loadWord buf offset) post s ⟨left, tries, retries, last⟩ := by
  refine monitored_bind (paces_ask rfl fun _ => ?_)
  refine monitored_bind (paces_ask rfl fun _ => ?_)
  refine monitored_bind (paces_ask rfl fun _ => ?_)
  exact monitored_bind (paces_ask rfl fun _ => h)

theorem paces_storeWord {offset : ℕ} {data : Word32} {post : Unit → DapData → Pace → Prop}
    (h : post () s ⟨left, 0, retries, none⟩) :
    Paces (storeWord offset data) post s ⟨left, tries, retries, last⟩ := by
  refine monitored_bind (paces_ask rfl fun _ => ?_)
  refine monitored_bind (paces_ask rfl fun _ => ?_)
  refine monitored_bind (paces_ask rfl fun _ => ?_)
  exact paces_ask rfl fun _ => h

theorem paces_skipRequests {buf : Buf} {count request : ℕ} {post : ℕ → DapData → Pace → Prop}
    (h : ∀ last, post last s ⟨left, 0, retries, none⟩) :
    Paces (skipRequests buf count request) post s ⟨left, 0, retries, none⟩ := by
  induction count generalizing request with
  | zero => exact h request
  | succ count ih => exact monitored_bind (paces_loadByte ih)

end Primitives

/-! ## Transfers -/

section Transfers

variable {request : Word32} {s : DapData} {pace : Pace} {left : ℕ} {last : Option Bool}

theorem isSome_swdResult (data : Option Word32) (answer : SwdAnswer) :
    (swdResult request data answer).2.isSome = data.isSome := by
  rw [swdResult]
  split_ifs
  · cases data <;> rfl
  · cases data <;> rfl
  · rfl

theorem paces_swdTransferOnce {data : Option Word32}
    {post : Word32 × Option Word32 → DapData → Pace → Prop}
    (hallowed : pace.last = some data.isSome → 0 < pace.left)
    (h : ∀ value after, Option.isSome after = data.isSome →
      post (value, after) s ((pace.asked (.swdTransfer request data)).ended value)) :
    Paces (swdTransferOnce request data) post s pace :=
  monitored_bind (monitored_perform (fun hagain => hallowed hagain.2) fun answer =>
    h _ _ (isSome_swdResult data answer.1))

/-- The loop around a transfer: what is left once it succeeded does not depend on how
often it was tried. -/
theorem paces_transferTries {retry retries : ℕ} {data : Option Word32}
    {post : Word32 × Option Word32 → DapData → Pace → Prop} (habort : s.transferAbort = 0#8)
    (hallowed : pace.last = some data.isSome → 0 < pace.left)
    (hasked : pace.asked (.swdTransfer request data) = ⟨left, retry, retries, some data.isSome⟩)
    (hleft : retry ≤ left)
    (hok : ∀ after,
      post (dapTransferOk, after) s ⟨left - retry, 0, retries, some data.isSome⟩)
    (hfails : ∀ value after, value ≠ dapTransferOk →
      post (value, after) s ⟨0, 0, retries, some data.isSome⟩) :
    Paces (transferTries request retry data) post s pace := by
  induction retry generalizing data pace left with
  | zero =>
      refine paces_swdTransferOnce hallowed fun value after _ => ?_
      rw [hasked, Pace.ended]
      by_cases hvalue : value = dapTransferOk
      · rw [if_pos hvalue, hvalue]
        exact hok after
      · rw [if_neg hvalue, if_neg fun h => h.2 rfl]
        exact hfails value after hvalue
  | succ retry ih =>
      refine monitored_bind (paces_swdTransferOnce hallowed fun value after hkind => ?_)
      rw [hasked, Pace.ended]
      refine monitored_get_bind (monitored_ite (fun hagain => ?_) fun hover => ?_)
      · have hvalue : ¬ value = dapTransferOk := by
          rw [hagain.1]
          decide
        rw [if_neg hvalue, if_pos ⟨hagain.1, Nat.succ_ne_zero retry⟩]
        have hnext : (⟨left, retry + 1, retries, some data.isSome⟩ : Pace).asked
            (.swdTransfer request after) = ⟨left - 1, retry, retries, some after.isSome⟩ := by
          rw [Pace.asked, if_pos ⟨Option.some_ne_none _, congrArg some hkind.symm⟩]
          rfl
        refine ih (fun _ => (Nat.succ_pos retry).trans_le hleft) hnext (by omega) ?_ ?_
        · intro last
          rw [hkind, Nat.sub_sub, Nat.add_comm 1 retry]
          exact hok last
        · intro value last hvalue
          rw [hkind]
          exact hfails value last hvalue
      · by_cases hvalue : value = dapTransferOk
        · rw [if_pos hvalue, hvalue]
          exact hok after
        · rw [if_neg hvalue, if_neg fun h => hover ⟨h.1, habort⟩]
          exact hfails value after hvalue

/-- The first try of a transfer. -/
theorem Pace.asked_first {data : Option Word32} {tries retries : ℕ}
    (hlast : last ≠ some data.isSome) :
    (⟨left, tries, retries, last⟩ : Pace).asked (.swdTransfer request data) =
      ⟨left, retries, retries, some data.isSome⟩ := by
  have hkind : (DapOp.swdTransfer request data).kind ≠ none := Option.some_ne_none _
  rw [Pace.asked, if_neg fun hagain => hlast hagain.2, if_neg hkind]
  rfl

/-- A transfer with data begins: the first, or another read that compares. What is left
once it succeeded comes second. -/
def Begins (s : DapData) (left rest : ℕ) (last : Option Bool) : Prop :=
  last ≠ some true ∧ left = rest + s.retries ∨ last = some true ∧ left = rest + s.retries + 1

theorem begins_first (hlast : last ≠ some true) (hleft : s.retries ≤ left) :
    Begins s left (left - s.retries) last := .inl ⟨hlast, by omega⟩

theorem begins_again (hleft : s.retries + 1 ≤ left) :
    Begins s left (left - s.retries - 1) (some true) := .inr ⟨rfl, by omega⟩

theorem paces_transferData {data : Word32} {rest : ℕ}
    {post : Word32 × Word32 → DapData → Pace → Prop} (habort : s.transferAbort = 0#8)
    (begins : Begins s left rest last)
    (hok : ∀ after, post (dapTransferOk, after) s ⟨rest, 0, s.retries, some true⟩)
    (hfails : ∀ value after, value ≠ dapTransferOk →
      post (value, after) s ⟨0, 0, s.retries, some true⟩) :
    Paces (transferData request data) post s ⟨left, 0, s.retries, last⟩ := by
  have hrest : rest + s.retries - s.retryCount.toNat = rest := Nat.add_sub_cancel _ _
  refine monitored_get_bind (monitored_bind ?_)
  rcases begins with ⟨hlast, rfl⟩ | ⟨rfl, rfl⟩
  · refine paces_transferTries habort (fun h => absurd h hlast) (Pace.asked_first hlast)
      (Nat.le_add_left _ _) (fun after => ?_) fun value after hvalue => hfails value _ hvalue
    rw [hrest]
    exact hok _
  · have hasked : (⟨rest + s.retries + 1, 0, s.retries, some true⟩ : Pace).asked
        (.swdTransfer request (some data)) = ⟨rest + s.retries, s.retries, s.retries, some true⟩ := by
      rw [Pace.asked, if_pos ⟨Option.some_ne_none _, rfl⟩, if_pos rfl]
      rfl
    refine paces_transferTries habort (fun _ => Nat.succ_pos _) hasked (Nat.le_add_left _ _)
      (fun after => ?_) fun value after hvalue => hfails value _ hvalue
    rw [hrest]
    exact hok _

theorem paces_transferNull {post : Word32 → DapData → Pace → Prop}
    (habort : s.transferAbort = 0#8) (hlast : last ≠ some false) (hleft : s.retries ≤ left)
    (hok : post dapTransferOk s ⟨left - s.retries, 0, s.retries, some false⟩)
    (hfails : ∀ value, value ≠ dapTransferOk → post value s ⟨0, 0, s.retries, some false⟩) :
    Paces (transferNull request) post s ⟨left, 0, s.retries, last⟩ := by
  refine monitored_get_bind (monitored_bind ?_)
  refine paces_transferTries habort (fun h => absurd h hlast) (Pace.asked_first hlast) hleft ?_ ?_
  · exact fun after => hok
  · exact fun value after hvalue => hfails value hvalue

end Transfers

/-! ## A turn of the request loop -/

/-- How a turn ends: it breaks with a failure, or leaves what can follow. -/
def TurnLeaves (s : DapData) (next : ℕ → Bool → Bool → Word32 → ℕ) (result : Bool × TransferVars)
    (after : DapData) (pace : Pace) : Prop :=
  ∃ mask left last, after = s.masked mask ∧ pace = ⟨left, 0, s.retries, last⟩ ∧
    if result.1 then result.2.responseValue ≠ dapTransferOk
    else next result.2.request result.2.postRead result.2.checkWrite mask ≤ left

section Turn

variable {buf : Buf} {s : DapData} {mask : Word32} {left : ℕ} {last : Option Bool}
  {next : ℕ → Bool → Bool → Word32 → ℕ} {request : Word32} {v : TransferVars}

/-- A turn that breaks has failed. -/
theorem turnLeaves_broken (hvalue : v.responseValue ≠ dapTransferOk) :
    TurnLeaves s next (true, v) (s.masked mask) ⟨left, 0, s.retries, last⟩ :=
  ⟨mask, left, last, rfl, rfl, hvalue⟩

theorem turnLeaves_next (hnext : next v.request v.postRead v.checkWrite mask ≤ left) :
    TurnLeaves s next (false, v) (s.masked mask) ⟨left, 0, s.retries, last⟩ :=
  ⟨mask, left, last, rfl, rfl, hnext⟩

section Branches

variable (habort : s.transferAbort = 0#8)

include habort

theorem paces_readStore (hlast : last ≠ some true) {ahead : ℕ} (hleft : s.retries + ahead ≤ left)
    {rest : TransferVars → DapM (Bool × TransferVars)}
    (hrest : ∀ data left, ahead ≤ left →
      Paces (rest { v with responseValue := dapTransferOk, data := data, response := v.response + 4 })
        (TurnLeaves s next) (s.masked mask) ⟨left, 0, s.retries, none⟩) :
    Paces (readStore request v rest) (TurnLeaves s next) (s.masked mask)
      ⟨left, 0, s.retries, last⟩ := by
  have hbegins := begins_first (s := s.masked mask) hlast (le_of_add_le_left hleft)
  refine monitored_bind (paces_transferData habort hbegins (fun data => ?_)
    fun value data hvalue => ?_)
  · refine monitored_if_neg (not_not_intro rfl) ?_
    exact monitored_bind (paces_storeWord (hrest data _ (Nat.le_sub_of_add_le' hleft)))
  · exact monitored_if_pos hvalue (monitored_pure (turnLeaves_broken hvalue))

/-- Every turn of the do-while after the first costs a try with its retries, if the first
can miss at all. -/
theorem paces_matchTries {matchValue : Word32} {matchRetry rest again : ℕ} {data : Word32}
    {post : Word32 × Word32 → DapData → Pace → Prop} (begins : Begins s left rest last)
    (hagain : again = if s.matchMask = 0#32 ∧ matchValue = 0#32 then 0
      else matchRetry * (s.retries + 1))
    (hleft : again ≤ rest)
    (hok : ∀ after left, rest ≤ left + again →
      post (dapTransferOk, after) s ⟨left, 0, s.retries, some true⟩)
    (hfails : ∀ value after, value ≠ dapTransferOk →
      post (value, after) s ⟨0, 0, s.retries, some true⟩) :
    Paces (matchTries request matchValue matchRetry data) post s ⟨left, 0, s.retries, last⟩ := by
  induction matchRetry generalizing data left last rest again with
  | zero =>
      exact paces_transferData habort begins (fun after => hok after rest (Nat.le_add_right _ _))
        hfails
  | succ matchRetry ih =>
      refine monitored_bind (paces_transferData habort begins (fun after => ?_)
        fun value after hvalue => ?_)
      · refine monitored_get_bind (monitored_ite (fun hmiss => ?_) fun _ => ?_)
        · -- nothing to compare with never misses
          have hmisses : ¬ (s.matchMask = 0#32 ∧ matchValue = 0#32) := by
            rintro ⟨hmask, hvalue⟩
            apply hmiss.2.1
            rw [hmask, hvalue, BitVec.and_zero]
          rw [if_neg hmisses, Nat.succ_mul] at hagain
          refine ih (begins_again (by omega)) (if_neg hmisses).symm (by omega) ?_
          exact fun after left hle => hok after left (by omega)
        · exact monitored_pure (hok after rest (Nat.le_add_right _ _))
      · refine monitored_get_bind (monitored_if_neg (fun hmiss => hvalue hmiss.1) ?_)
        exact monitored_pure (hfails value after hvalue)

theorem paces_matchLoop (hlast : last ≠ some true) {matchValue : Word32} {ahead : ℕ}
    (hahead : matchValue &&& mask = matchValue → next v.request v.postRead false mask ≤ ahead)
    (hleft : matchAhead s mask matchValue + ahead ≤ left) :
    Paces (matchLoop request matchValue v) (TurnLeaves s next) (s.masked mask)
      ⟨left, 0, s.retries, last⟩ := by
  obtain ⟨again, hagain⟩ : ∃ again, again = if mask = 0#32 ∧ matchValue = 0#32 then 0
      else s.matchRetry.toNat * (s.retries + 1) := ⟨_, rfl⟩
  have hmatch : matchAhead s mask matchValue = s.retries + again := by
    rw [matchAhead, hagain]
    split_ifs <;> rfl
  have hretries : (s.masked mask).retries = s.retries := rfl
  have hbegins := begins_first (s := s.masked mask) hlast (show s.retries ≤ left by omega)
  have hroom : again ≤ left - (s.masked mask).retries := by omega
  have hmasked : (s.masked mask).transferAbort = 0#8 := habort
  refine monitored_get_bind (monitored_bind
    (paces_matchTries hmasked hbegins hagain hroom (fun after rest hle => ?_) ?_))
  · refine monitored_get_bind (monitored_pure ?_)
    rw [DapData.matchMask_masked]
    by_cases hvalue : compared mask matchValue dapTransferOk after = dapTransferOk
    · have hword : after &&& mask = matchValue := by
        by_contra hmiss
        exact compared_ne_ok (.inr hmiss) hvalue
      have hinside : matchValue &&& mask = matchValue := by
        rw [← hword, BitVec.and_assoc, BitVec.and_self]
      have hahead := hahead hinside
      have hrest : next v.request v.postRead false mask ≤ rest := by omega
      rw [hvalue, endRead_ok]
      exact turnLeaves_next hrest
    · rw [endRead_of_ne hvalue]
      exact turnLeaves_broken hvalue
  · intro value after hvalue
    refine monitored_get_bind (monitored_pure ?_)
    rw [endRead_of_ne (compared_ne_ok (.inl hvalue))]
    exact turnLeaves_broken (compared_ne_ok (.inl hvalue))

theorem paces_readMatch
    (hleft : (if OnAp request then s.retries else 0) + matchAhead s mask (wordAt buf v.request) +
      (if wordAt buf v.request &&& mask = wordAt buf v.request then
        next (v.request + 4) v.postRead false mask else 0) ≤ left) :
    Paces (readMatch buf request v) (TurnLeaves s next) (s.masked mask)
      ⟨left, 0, s.retries, last⟩ := by
  obtain ⟨ahead, hahead⟩ : ∃ ahead, ahead =
      if wordAt buf v.request &&& mask = wordAt buf v.request then
        next (v.request + 4) v.postRead false mask else 0 := ⟨_, rfl⟩
  have hnext : wordAt buf v.request &&& mask = wordAt buf v.request →
      next (v.request + 4) v.postRead false mask ≤ ahead := by
    intro hinside
    rw [hahead, if_pos hinside]
  rw [← hahead] at hleft
  refine monitored_bind (paces_loadWord (monitored_ite (fun hap => ?_) fun hap => ?_))
  · -- the posting read, then the reads that compare
    rw [if_pos hap, Nat.add_assoc] at hleft
    refine monitored_bind (paces_transferNull habort (by simp)
      (le_of_add_le_left hleft) ?_ fun value hvalue => ?_)
    · refine monitored_if_neg (not_not_intro rfl) ?_
      exact paces_matchLoop habort (by simp) hnext (Nat.le_sub_of_add_le' hleft)
    · exact monitored_if_pos hvalue (monitored_pure (turnLeaves_broken hvalue))
  · rw [if_neg hap, Nat.zero_add] at hleft
    exact paces_matchLoop habort (by simp) hnext hleft

theorem paces_readNormal (hlast : last = none)
    (hleft : (if OnAp request then
        if v.postRead then next v.request v.postRead false mask
        else s.retries + next v.request true false mask
      else s.retries + next v.request v.postRead false mask) ≤ left) :
    Paces (readNormal request v) (TurnLeaves s next) (s.masked mask) ⟨left, 0, s.retries, last⟩ := by
  refine monitored_ite (fun hap => ?_) fun hap => ?_
  · rw [if_pos hap] at hleft
    refine monitored_ite (fun hposted => ?_) fun hposted => ?_
    · rw [if_pos hposted] at hleft
      exact monitored_pure (turnLeaves_next hleft)
    · rw [if_neg hposted] at hleft
      refine monitored_bind (paces_transferNull habort (by simp [hlast]) (le_of_add_le_left hleft)
        ?_ fun value hvalue => ?_)
      · refine monitored_if_neg (not_not_intro rfl) (monitored_pure ?_)
        exact turnLeaves_next (Nat.le_sub_of_add_le' hleft)
      · exact monitored_if_pos hvalue (monitored_pure (turnLeaves_broken hvalue))
  · rw [if_neg hap] at hleft
    refine paces_readStore habort (by simp [hlast]) hleft fun data left hle => ?_
    exact monitored_pure (turnLeaves_next hle)

/-- A read, from behind its header. -/
theorem paces_read (hlast : last = none)
    (hleft : readAhead buf s next request v.request v.postRead mask ≤ left) :
    Paces (if MatchValue request then readMatch buf request v else readNormal request v)
      (TurnLeaves s next) (s.masked mask) ⟨left, 0, s.retries, last⟩ := by
  rw [readAhead] at hleft
  refine monitored_ite (fun hmatch => ?_) fun hmatch => ?_
  · rw [if_pos hmatch] at hleft
    exact paces_readMatch habort hleft
  · rw [if_neg hmatch] at hleft
    exact paces_readNormal habort hlast hleft

theorem paces_transferRead (hlast : last = none)
    (hleft : (if v.postRead then
        s.retries + readAhead buf s next request v.request (decide (PostsNext request)) mask
      else readAhead buf s next request v.request false mask) ≤ left) :
    Paces (transferRead buf request v) (TurnLeaves s next) (s.masked mask)
      ⟨left, 0, s.retries, last⟩ := by
  refine monitored_ite (fun hposted => ?_) fun hposted => ?_
  · rw [if_pos hposted] at hleft
    refine monitored_ite (fun hnext => ?_) fun hnext => ?_
    · refine paces_readStore habort (by simp [hlast]) hleft fun data left hle => ?_
      rw [decide_eq_true hnext, ← hposted] at hle
      exact paces_read habort rfl hle
    · refine paces_readStore habort (by simp [hlast]) hleft fun data left hle => ?_
      rw [decide_eq_false hnext] at hle
      exact paces_read habort rfl hle
  · rw [if_neg hposted, ← Bool.eq_false_of_not_eq_true hposted] at hleft
    exact paces_read habort hlast hleft

theorem paces_writeRegister (hposted : v.postRead = false)
    (hleft : writeAhead buf s next request v.request v.checkWrite mask ≤ left) :
    Paces (writeRegister buf request v) (TurnLeaves s next) (s.masked mask)
      ⟨left, 0, s.retries, last⟩ := by
  rw [writeAhead, ← hposted] at hleft
  refine monitored_bind (paces_loadWord (monitored_ite (fun hmask => ?_) fun hmask => ?_))
  · rw [if_pos hmask] at hleft
    exact monitored_modify_bind _ (monitored_pure ⟨wordAt buf v.request, _, _, rfl, rfl, hleft⟩)
  · rw [if_neg hmask] at hleft
    have hbegins := begins_first (s := s.masked mask) (show none ≠ some true by simp)
      (le_of_add_le_left hleft)
    refine monitored_bind (paces_transferData habort hbegins (fun data => ?_)
      fun value data hvalue => ?_)
    · refine monitored_if_neg (not_not_intro rfl) (monitored_pure ?_)
      exact turnLeaves_next (Nat.le_sub_of_add_le' hleft)
    · exact monitored_if_pos hvalue (monitored_pure (turnLeaves_broken hvalue))

theorem paces_transferWrite (hlast : last = none)
    (hleft : (if v.postRead then s.retries else 0) +
      writeAhead buf s next request v.request v.checkWrite mask ≤ left) :
    Paces (transferWrite buf request v) (TurnLeaves s next) (s.masked mask)
      ⟨left, 0, s.retries, last⟩ := by
  refine monitored_ite (fun hposted => ?_) fun hposted => ?_
  · rw [if_pos hposted] at hleft
    refine paces_readStore habort (by simp [hlast]) hleft fun data left hle => ?_
    exact paces_writeRegister habort rfl hle
  · rw [if_neg hposted, Nat.zero_add] at hleft
    exact paces_writeRegister habort (Bool.eq_false_of_not_eq_true hposted) hleft

/-- A turn keeps to what its checkpoint announced. -/
theorem paces_transferRequest
    (hleft : requestAhead buf s next v.request v.postRead v.checkWrite mask ≤ left) :
    Paces (transferRequest buf v) (TurnLeaves s next) (s.masked mask)
      ⟨left, 0, s.retries, last⟩ := by
  rw [requestAhead] at hleft
  refine monitored_bind (paces_loadByte (monitored_ite (fun hread => ?_) fun hread => ?_))
  · rw [if_pos hread] at hleft
    exact paces_transferRead habort rfl hleft
  · rw [if_neg hread] at hleft
    exact paces_transferWrite habort rfl hleft

end Branches

end Turn

end ExLink.Dap
