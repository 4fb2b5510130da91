/-
# Posted reads and the requests of a packet

`DAP_Transfer` posts the reads of an access port and fetches each word with the next read,
or from RDBUFF. In front of every target this carries out the requests one after the other,
each once. The invariant of a turn is that the words of the requests done so far are in the
response, but for one that may still be in the latch.
-/

import ExLink.Dap.TargetRun

namespace ExLink.Dap

open ExLink.Automata ExLink.Automata.Prog
open ExLink.Swd (AdiRegister AdiRegisters AdiTarget IsRead LeadsTo Transferred attempt registerOf
  rdbuffRegister dapTransferError dapTransferOk)

/-! ## Requests -/

theorem onAp_iff (request : Word32) : OnAp request ↔ (registerOf request).onAp = true :=
  (decide_eq_true_iff).symm

theorem registerOf_readRdbuff : registerOf readRdbuff = rdbuffRegister := by decide

theorem isRead_readRdbuff : IsRead readRdbuff := by decide

/-- `DAP_TRANSFER_OK` with `DAP_TRANSFER_MISMATCH`. -/
def okMismatch : Word32 := dapTransferOk ||| dapTransferMismatch

/-- How a command begins: the retries that it is allowed, where its words go, the target and
the mask of the comparisons. -/
structure Beginning (τ : Type) where
  retryCount : ℕ
  matchRetry : ℕ
  base : ℕ
  target : τ
  matchMask : Word32

section Invariant

variable {σ τ : Type} (target : AdiTarget σ τ) (start : Beginning τ)

/-- Where the requests begin. -/
def Beginning.requests : RequestState σ := ⟨target.state start.target, start.matchMask⟩

/-- The word that is still to be fetched, if a read is pending, and the registers then. -/
def owed {σ : Type} (registers : AdiRegisters σ) (pending : Bool) (s : σ) : List Word32 × σ :=
  if pending then
    ([(registers.read rdbuffRegister s).1], (registers.read rdbuffRegister s).2)
  else ([], s)

/-- A transfer failed, from a target that only acknowledged transfers led to: one that a
request is made by, or the read of RDBUFF for the word before it or at the end. The value is
what the transfer returned; a read until a value matches may add the mismatch to it. -/
def Failed (next : Option TransferRequest) (value : Word32) (after : τ) : Prop :=
  ∃ ack wire data t, LeadsTo target.toSwdTarget start.retryCount start.target t ∧
    attempt target.toSwdTarget wire data start.retryCount t = (ack, after) ∧
    ack ≠ dapTransferOk ∧ (wire = readRdbuff ∨ ∃ request ∈ next, request.MadeBy wire data) ∧
    (value = ack ∨ value = ack ||| dapTransferMismatch ∧
      ∃ register matchValue, next = some (.readUntil register matchValue))

/-- Requests were carried out, by transfers that were all acknowledged. Their words are in the
response from `base` on, but for that of a pending read. -/
structure Carried (done : List TransferRequest) (pending : Bool) (stored : List Word32)
    (mask : Word32) (w : TransferWorld τ) : Prop where
  carried : carryOutAll target.registers start.matchRetry done (start.requests target) =
    some (stored ++ (owed target.registers pending (target.state w.target)).1,
      ⟨(owed target.registers pending (target.state w.target)).2, mask⟩)
  posted : pending = true → target.posted w.target
  kept : wordsAt w.response start.base stored.length = stored
  reached : LeadsTo target.toSwdTarget start.retryCount start.target w.target

/-- A request failed, or the word before it could not be fetched. All that was stored are
the words of the requests before it, but perhaps for the last. -/
structure Stopped (done : List TransferRequest) (request : TransferRequest) (stored : List Word32)
    (value mask : Word32) (w : TransferWorld τ) : Prop where
  carried : ∃ words final,
    carryOutAll target.registers start.matchRetry done (start.requests target) =
      some (words, final) ∧
    final.matchMask = mask ∧ (stored = words ∨ stored = words.dropLast) ∧
      (value = okMismatch → stored = words ∧
        carryOut target.registers start.matchRetry request final =
          (none, ⟨target.state w.target, mask⟩))
  refused : value ≠ dapTransferOk
  fits : value.toNat < 256
  kept : wordsAt w.response start.base stored.length = stored
  failed : value ≠ okMismatch → Failed target start (some request) value w.target

variable {target start}

/-- What a transfer returns fits in a byte. -/
theorem lt_of_range {value : Word32}
    (hrange : value.toNat < 8 ∨ value = dapTransferOk ||| dapTransferError) :
    value.toNat < 256 := by
  rcases hrange with hlt | rfl
  · omega
  · decide

/-- What a transfer returns is never a mismatch. -/
theorem ne_okMismatch {tries : ℕ} {request value : Word32} {data out : Option Word32} {t t' : τ}
    (transferred : Transferred target tries request data t t' value out) : value ≠ okMismatch := by
  rintro rfl
  exact absurd transferred.range (by decide)

namespace Carried

variable {done : List TransferRequest} {stored : List Word32} {mask data : Word32}
  {w : TransferWorld τ} {request : Word32} {null out : Option Word32} {t : τ}

/-- A transfer that fails. -/
theorem failed {pending : Bool}
    (h : Carried target start done pending stored mask w) {value : Word32}
    (transferred : Transferred target start.retryCount request null w.target t value out)
    (hrefused : value ≠ dapTransferOk) {next : Option TransferRequest}
    (hmade : request = readRdbuff ∨ ∃ failing ∈ next, failing.MadeBy request null) :
    Failed target start next value t :=
  ⟨value, request, null, w.target, h.reached, transferred.attempted, hrefused, hmade, Or.inl rfl⟩

theorem stopped {pending : Bool}
    (h : Carried target start done pending stored mask w) {value : Word32}
    (transferred : Transferred target start.retryCount request null w.target t value out)
    (hrefused : value ≠ dapTransferOk) {failing : TransferRequest}
    (hmade : request = readRdbuff ∨ failing.MadeBy request null) :
    Stopped target start done failing stored value mask { w with target := t } := by
  refine ⟨⟨_, _, h.carried, rfl, ?_, fun hvalue => absurd hvalue (ne_okMismatch transferred)⟩,
    hrefused, lt_of_range transferred.range, h.kept, fun _ => h.failed transferred hrefused ?_⟩
  · cases pending with
    | false => exact Or.inl (List.append_nil stored).symm
    | true => exact Or.inr List.dropLast_concat.symm
  · exact hmade.imp_right fun hfailing => ⟨failing, rfl, hfailing⟩

/-- With nothing pending all words are stored. -/
theorem all (h : Carried target start done false stored mask w) :
    carryOutAll target.registers start.matchRetry done (start.requests target) =
      some (stored, ⟨target.state w.target, mask⟩) := by
  have hcarried := h.carried
  rwa [owed, if_neg Bool.false_ne_true, List.append_nil] at hcarried

theorem of_all (hall : carryOutAll target.registers start.matchRetry done (start.requests target) =
      some (stored, ⟨target.state w.target, mask⟩))
    (hkept : wordsAt w.response start.base stored.length = stored)
    (hreached : LeadsTo target.toSwdTarget start.retryCount start.target w.target) :
    Carried target start done false stored mask w := by
  refine ⟨?_, fun hpending => absurd hpending Bool.false_ne_true, hkept, hreached⟩
  rwa [owed, if_neg Bool.false_ne_true, List.append_nil]

/-- With a read pending, all words but its own are stored. -/
theorem pending (h : Carried target start done true stored mask w) :
    carryOutAll target.registers start.matchRetry done (start.requests target) =
      some (stored ++ [(target.registers.read rdbuffRegister (target.state w.target)).1],
        ⟨(target.registers.read rdbuffRegister (target.state w.target)).2, mask⟩) :=
  h.carried

theorem of_pending
    (hall : carryOutAll target.registers start.matchRetry done (start.requests target) =
      some (stored ++ [(target.registers.read rdbuffRegister (target.state w.target)).1],
        ⟨(target.registers.read rdbuffRegister (target.state w.target)).2, mask⟩))
    (hposted : target.posted w.target)
    (hkept : wordsAt w.response start.base stored.length = stored)
    (hreached : LeadsTo target.toSwdTarget start.retryCount start.target w.target) :
    Carried target start done true stored mask w :=
  ⟨hall, fun _ => hposted, hkept, hreached⟩

/-- A word behind those that are stored. -/
theorem kept_putWord {pending : Bool}
    (h : Carried target start done pending stored mask w) (word : Word32) :
    wordsAt (putWord w.response (start.base + 4 * stored.length) word) start.base
        (stored ++ [word]).length = stored ++ [word] := by
  rw [List.length_append, List.length_singleton, wordsAt_putWord, h.kept]

/-- One request more, nothing stored. -/
theorem concat (h : Carried target start done false stored mask w)
    {next : TransferRequest} {mask' : Word32}
    (hnext : carryOut target.registers start.matchRetry next ⟨target.state w.target, mask⟩ =
      (some [], ⟨target.state t, mask'⟩))
    (hreached : LeadsTo target.toSwdTarget start.retryCount start.target t) :
    Carried target start (done ++ [next]) false stored mask' { w with target := t } := by
  apply of_all
  · simpa using carryOutAll_concat h.all hnext
  · exact h.kept
  · exact hreached

/-- The pending word is fetched from RDBUFF. -/
theorem fetch (h : Carried target start done true stored mask w)
    (transferred : Transferred target start.retryCount readRdbuff (some data) w.target t
      dapTransferOk out) :
    Carried target start done false (stored ++ [out.getD data]) mask
      ⟨t, putWord w.response (start.base + 4 * stored.length) (out.getD data)⟩ := by
  have hdp : (registerOf readRdbuff).onAp = false := by decide
  have hstate := (transferred.read rfl isRead_readRdbuff).1
  have hout := transferred.dp rfl isRead_readRdbuff hdp
  rw [registerOf_readRdbuff] at hstate hout
  apply of_all
  · rw [hout, hstate]
    exact h.pending
  · exact h.kept_putWord _
  · exact transferred.leadsTo rfl h.reached

/-- A read of an access port is posted. -/
theorem post (h : Carried target start done false stored mask w)
    (hread : IsRead request) (hap : OnAp request)
    (transferred : Transferred target start.retryCount request null w.target t dapTransferOk out) :
    Carried target start (done ++ [.read (registerOf request)]) true stored mask
      { w with target := t } := by
  have honAp := (onAp_iff request).mp hap
  obtain ⟨hstate, hposted⟩ := transferred.read rfl hread
  refine of_pending ?_ (hposted honAp) h.kept (transferred.leadsTo rfl h.reached)
  rw [hstate, ← target.registers.readWord_of_posts honAp]
  exact carryOutAll_concat h.all rfl

/-- A write. -/
theorem write (h : Carried target start done false stored mask w)
    (hwrite : ¬ IsRead request)
    (transferred : Transferred target start.retryCount request (some data) w.target t
      dapTransferOk out) :
    Carried target start (done ++ [.write (registerOf request) data]) false stored
      mask { w with target := t } := by
  apply h.concat
  · rw [carryOut, transferred.write rfl hwrite, Option.getD_some]
  · exact transferred.leadsTo rfl h.reached

end Carried

end Invariant

/-! ## Reads until a value matches -/

section Polls

variable {σ τ : Type} {target : AdiTarget σ τ} {start : Beginning τ} {garbage : Word32}
  {request : Word32} {s : DapData} {w : TransferWorld τ}

/-- Where a poll stands: the next transfer returns what the register reads as. An access
port was read for it already. -/
def Ahead (target : AdiTarget σ τ) (request : Word32) (before : σ) (t : τ) : Prop :=
  if OnAp request then
    target.posted t ∧
      target.state t = (target.registers.read (registerOf request) before).2
  else target.state t = before

/-- One read of a poll. -/
theorem Ahead.read {before : σ} {tries : ℕ} {t t' : τ} {data : Word32} {out : Option Word32}
    (hread : IsRead request) (h : Ahead target request before t)
    (transferred : Transferred target tries request (some data) t t' dapTransferOk out) :
    out.getD data = (target.registers.read (registerOf request) before).1 ∧
      Ahead target request (target.registers.read (registerOf request) before).2 t' := by
  obtain ⟨hstate, hposted⟩ := transferred.read rfl hread
  rw [Ahead] at h ⊢
  by_cases hap : OnAp request
  · have honAp := (onAp_iff request).mp hap
    rw [if_pos hap] at h ⊢
    obtain ⟨hbefore, hahead⟩ := h
    rw [transferred.ap rfl hread honAp hbefore, hahead]
    refine ⟨target.registers.read_buffer (registerOf request) before honAp, hposted honAp, ?_⟩
    rw [hstate, hahead]
  · have honDp : (registerOf request).onAp = false :=
      Bool.eq_false_iff.mpr (mt (onAp_iff request).mpr hap)
    rw [if_neg hap] at h ⊢
    rw [transferred.dp rfl hread honDp, h]
    exact ⟨rfl, by rw [hstate, h]⟩

end Polls

/-! ## One request -/

section Turn

variable {σ τ : Type} {target : AdiTarget σ τ} {start : Beginning τ} {garbage : Word32}
  {buf : Buf} {done : List TransferRequest} {stored : List Word32}
  {s : DapData} {w : TransferWorld τ} {v : TransferVars}

end Turn

end ExLink.Dap
