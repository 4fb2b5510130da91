/-
# Register access over SWD transfers

The ADIv5 layer of `dap_swd_spi.c`: the WAIT retry, the SELECT cache, and the reads
of DP and AP registers. A target is whatever answers transfers; the state keeps the
answers in the order in which they came.
-/

import ExLink.Swd.Transport
import Mathlib.Tactic.IntervalCases

namespace ExLink.Swd

/-! ## Targets -/

/-- A target: its answer to a request, which may depend on the word written and on
all that happened before. The acknowledge has three bits. -/
structure SwdTarget (σ : Type*) where
  answer : Word32 → Word32 → σ → SwdAnswer × σ
  ack_lt : ∀ request word s, (answer request word s).1.ack.toNat < 8

/-- The target, `s_sel_cache`, and the answers so far. -/
structure AccessState (σ : Type*) where
  target : σ
  selCache : Word32
  answers : List SwdAnswer

section Target

variable {σ : Type*} (wiring : Wiring) (transfer : SpiTransfer σ)

theorem ack_swdPhases_lt (request : Word32) (data : Option Word32) (p : PortState σ) :
    (swdPhases wiring transfer request data p).1.ack.toNat < 8 := by
  have hlt : ∀ outcome, (received 3 outcome).toNat < 8 := by
    intro outcome
    rw [received, BitVec.toNat_setWidth, BitVec.toNat_setWidth]
    omega
  have hread : ∀ q : PortState σ, (swdReadBits wiring transfer 3 q).1.toNat < 8 := by
    intro q
    rw [swdReadBits_eq wiring transfer (by decide) (by decide)]
    exact hlt _
  simp only [swdPhases]
  split_ifs <;> exact hread _

/-- Whatever carries out the SPI transfers, the port in front of it is a target. -/
def portTarget : SwdTarget (PortState σ) where
  answer request word p := swdPhases wiring transfer request (some word) p
  ack_lt request word p := ack_swdPhases_lt wiring transfer request (some word) p

end Target

/-- `SWD_Transfer`, as the answer of the target decides it. -/
def swdTransferOn {σ : Type*} (target : SwdTarget σ) (request : Word32) (data : Option Word32)
    (s : AccessState σ) : (Byte × Option Word32) × AccessState σ :=
  let (answer, t) := target.answer request (data.getD 0#32) s.target
  (swdResult request data answer, { s with target := t, answers := s.answers ++ [answer] })

/-- On the port's own target this is `SWD_Transfer` of the transport. -/
theorem swdTransferOn_portTarget {σ : Type*} (wiring : Wiring) (transfer : SpiTransfer σ)
    (request : Word32) (data : Option Word32) (s : AccessState (PortState σ)) :
    let run := swdTransferOn (portTarget wiring transfer) request data s
    (run.1, run.2.target) = swdTransfer wiring transfer request data s.target := by
  intro run
  have hphases : swdPhases wiring transfer request (some (data.getD 0#32)) s.target =
      swdPhases wiring transfer request data s.target := by
    cases data <;> rfl
  simp only [run, swdTransferOn, portTarget, hphases, swdTransfer_eq]

/-! ## Accessors -/

/-- `SWD_WAIT_RETRIES`. -/
def swdWaitRetries : ℕ := 64

def dpSelect : Byte := 0x08#8
def dpRdbuff : Byte := 0x0C#8

section Accessors

variable {σ : Type*} (target : SwdTarget σ)

/-- The loop of `swd_xfer_retry`, with `tries` more attempts after this one. -/
def swdXferTries (request : Word32) : ℕ → Option Word32 → AccessState σ →
    (Byte × Option Word32) × AccessState σ
  | 0, data, s => swdTransferOn target request data s
  | tries + 1, data, s =>
      let run := swdTransferOn target request data s
      if (run.1.1 &&& 7#8).setWidth 32 = dapTransferWait then
        swdXferTries request tries run.1.2 run.2
      else run

/-- `swd_xfer_retry`. -/
def swdXferRetry (request : Word32) (data : Option Word32) (s : AccessState σ) :
    (Byte × Option Word32) × AccessState σ :=
  swdXferTries target request (swdWaitRetries - 1) data s

/-- The test of the callers and of the layer itself. -/
def AckOk (ack : Byte) : Prop := (ack &&& 7#8).setWidth 32 = dapTransferOk

instance (ack : Byte) : Decidable (AckOk ack) := inferInstanceAs (Decidable (_ = _))

/-- The register offset bits of a request. -/
def offsetBits (register : Byte) : Word32 := (register &&& 0x0C#8).setWidth 32

/-- `swd_select_ap`. -/
def swdSelectAp (apreg : Byte) (s : AccessState σ) : Byte × AccessState σ :=
  let sel : Word32 := (apreg &&& 0xF0#8).setWidth 32
  if sel ≠ s.selCache then
    let ((ack, _), s) := swdXferRetry target (offsetBits dpSelect) (some sel) s
    (ack, if AckOk ack then { s with selCache := sel } else s)
  else (dapTransferOk.setWidth 8, s)

/-- `dp_read`, with what `out` points to. -/
def dpRead (r : Byte) (out : Option Word32) (s : AccessState σ) :
    (Byte × Option Word32) × AccessState σ :=
  swdXferRetry target (dapTransferRnW ||| offsetBits r) out s

/-- `ap_read` once the bank is selected: post the read, fetch its value from RDBUFF. -/
def apFetch (apreg : Byte) (out : Option Word32) (s : AccessState σ) :
    (Byte × Option Word32) × AccessState σ :=
  let ((ack, _), s) :=
    swdXferRetry target (dapTransferAPnDP ||| dapTransferRnW ||| offsetBits apreg) (some 0#32) s
  if ¬ AckOk ack then ((ack, out), s)
  else swdXferRetry target (dapTransferRnW ||| offsetBits dpRdbuff) out s

/-- `ap_read`. -/
def apRead (apreg : Byte) (out : Option Word32) (s : AccessState σ) :
    (Byte × Option Word32) × AccessState σ :=
  let (ack, s) := swdSelectAp target apreg s
  if ¬ AckOk ack then ((ack, out), s) else apFetch target apreg out s

end Accessors

/-! ## What decides an access -/

section Settle

variable {σ : Type*} (target : SwdTarget σ)

/-- The answer that ends a transaction: the first that is not WAIT, or the one to
the last attempt. -/
def settle (request word : Word32) : ℕ → σ → SwdAnswer × σ
  | 0, t => target.answer request word t
  | tries + 1, t =>
      let (answer, t) := target.answer request word t
      if answer.ack = dapTransferWait then settle request word tries t else (answer, t)

/-- The answer that ends a transaction of `swd_xfer_retry`. -/
def settled (request word : Word32) (t : σ) : SwdAnswer × σ :=
  settle target request word (swdWaitRetries - 1) t

theorem ack_settle_lt (request word : Word32) (tries : ℕ) (t : σ) :
    (settle target request word tries t).1.ack.toNat < 8 := by
  induction tries generalizing t with
  | zero => exact target.ack_lt request word t
  | succ tries ih =>
      simp only [settle]
      split_ifs
      · exact ih _
      · exact target.ack_lt request word t

/-- The low three bits of what a transfer returns are the acknowledge. -/
theorem and_seven_swdResult {answer : SwdAnswer} (hlt : answer.ack.toNat < 8)
    (request : Word32) (data : Option Word32) :
    ((swdResult request data answer).1 &&& 7#8).setWidth 32 = answer.ack := by
  have hplain : ((answer.ack.setWidth 8) &&& 7#8).setWidth 32 = answer.ack := by
    obtain ⟨k, hk⟩ : ∃ k, answer.ack = BitVec.ofNat 32 k ∧ k < 8 :=
      ⟨answer.ack.toNat, by rw [BitVec.ofNat_toNat, BitVec.setWidth_eq], hlt⟩
    obtain ⟨hk, hlt⟩ := hk
    rw [hk]
    interval_cases k <;> rfl
  rw [swdResult]
  split_ifs with hread hbad
  · rw [hread.1]
    change ((dapTransferOk ||| dapTransferError).setWidth 8 &&& 7#8).setWidth 32 = dapTransferOk
    decide
  · exact hplain
  · exact hplain

/-- The retry loop returns what its last answer decides, and that answer is the last
of the record. -/
theorem swdXferTries_eq (request : Word32) (tries : ℕ) (data : Option Word32)
    (s : AccessState σ) :
    ∃ earlier, swdXferTries target request tries data s =
      (swdResult request data (settle target request (data.getD 0#32) tries s.target).1,
        ⟨(settle target request (data.getD 0#32) tries s.target).2, s.selCache,
          earlier ++ [(settle target request (data.getD 0#32) tries s.target).1]⟩) := by
  induction tries generalizing s with
  | zero => exact ⟨s.answers, rfl⟩
  | succ tries ih =>
      have hlow := and_seven_swdResult
        (target.ack_lt request (data.getD 0#32) s.target) request data
      simp only [swdXferTries, swdTransferOn, settle, hlow]
      by_cases hwait : (target.answer request (data.getD 0#32) s.target).1.ack = dapTransferWait
      · have hrefused : (target.answer request (data.getD 0#32) s.target).1.ack ≠
            dapTransferOk := by
          rw [hwait]
          decide
        rw [if_pos hwait, if_pos hwait, swdResult_refused hrefused]
        exact ih _
      · rw [if_neg hwait, if_neg hwait]
        exact ⟨s.answers, rfl⟩

theorem swdXferRetry_eq (request : Word32) (data : Option Word32) (s : AccessState σ) :
    ∃ earlier, swdXferRetry target request data s =
      (swdResult request data (settled target request (data.getD 0#32) s.target).1,
        ⟨(settled target request (data.getD 0#32) s.target).2, s.selCache,
          earlier ++ [(settled target request (data.getD 0#32) s.target).1]⟩) :=
  swdXferTries_eq target request (swdWaitRetries - 1) data s

theorem ackOk_swdResult_settled (request : Word32) (data : Option Word32) (word : Word32)
    (t : σ) :
    AckOk (swdResult request data (settled target request word t).1).1 ↔
      (settled target request word t).1.ack = dapTransferOk := by
  rw [AckOk, settled, and_seven_swdResult (ack_settle_lt target request word _ t)]

end Settle

/-! ## Received words and their parity -/

/-- A call that ends with an OK stored the word of the last answer, and that word
came with a matching parity bit. -/
def ReadSound {σ : Type*} (run : (Byte × Option Word32) × AccessState σ) : Prop :=
  AckOk run.1.1 → ∃ answer, run.2.answers.getLast? = some answer ∧
    run.1.2 = some answer.data ∧ ¬ answer.BadParity

/-- The target acknowledges a read and gets its parity wrong. -/
def Corrupted (answer : SwdAnswer) : Prop := answer.ack = dapTransferOk ∧ answer.BadParity

/-- The answer that carries the word of `dp_read`. -/
def dpReadAnswer {σ : Type*} (target : SwdTarget σ) (r : Byte) (word : Word32)
    (s : AccessState σ) : SwdAnswer :=
  (settled target (dapTransferRnW ||| offsetBits r) word s.target).1

/-- The answer that carries the word of a posted read, if the read is acknowledged. -/
def apFetchAnswer {σ : Type*} (target : SwdTarget σ) (apreg : Byte) (word : Word32) (t : σ) :
    Option SwdAnswer :=
  let posted := settled target (dapTransferAPnDP ||| dapTransferRnW ||| offsetBits apreg) 0#32 t
  if posted.1.ack = dapTransferOk then
    some (settled target (dapTransferRnW ||| offsetBits dpRdbuff) word posted.2).1
  else none

/-- The value of SELECT that a register needs. -/
def bankSelect (apreg : Byte) : Word32 := (apreg &&& 0xF0#8).setWidth 32

/-- The answer that carries the word of `ap_read`, if the bank is selected and the
posted read is acknowledged. -/
def apReadAnswer {σ : Type*} (target : SwdTarget σ) (apreg : Byte) (word : Word32)
    (s : AccessState σ) : Option SwdAnswer :=
  if bankSelect apreg = s.selCache then apFetchAnswer target apreg word s.target
  else
    let select := settled target (offsetBits dpSelect) (bankSelect apreg) s.target
    if select.1.ack = dapTransferOk then apFetchAnswer target apreg word select.2 else none

section Soundness

variable {σ : Type*} (target : SwdTarget σ)

/-- A read transaction is sound exactly when its last answer is not corrupted. -/
theorem readSound_swdXferRetry {request : Word32} (hread : IsRead request) (word : Word32)
    (s : AccessState σ) :
    ReadSound (swdXferRetry target request (some word) s) ↔
      ¬ Corrupted (settled target request word s.target).1 := by
  obtain ⟨earlier, hrun⟩ := swdXferRetry_eq target request (some word) s
  have hack := ackOk_swdResult_settled target request (some word) word s.target
  rw [Option.getD_some] at hrun
  set answer := (settled target request word s.target).1
  have hlast : (earlier ++ [answer]).getLast? = some answer := List.getLast?_concat
  rw [ReadSound, hrun, hack, hlast]
  constructor
  · rintro hsound ⟨hok, hbad⟩
    obtain ⟨other, hother, -, hgood⟩ := hsound hok
    obtain rfl := Option.some.inj hother
    exact hgood hbad
  · intro hclean hok
    refine ⟨answer, rfl, ?_, fun hbad => hclean ⟨hok, hbad⟩⟩
    rw [swdResult, if_pos ⟨hok, hread⟩]
    rfl

theorem isRead_or (request : Word32) : IsRead (dapTransferRnW ||| request) := by
  have habsorb : (dapTransferRnW ||| request) &&& dapTransferRnW = dapTransferRnW := by
    apply BitVec.eq_of_getLsbD_eq
    intro i _
    rw [BitVec.getLsbD_and, BitVec.getLsbD_or]
    cases dapTransferRnW.getLsbD i <;> simp
  rw [IsRead, habsorb]
  decide

/-- A call that fails has nothing to be sound about. -/
theorem readSound_of_not_ackOk {run : (Byte × Option Word32) × AccessState σ}
    (hfail : ¬ AckOk run.1.1) : ReadSound run := fun hok => absurd hok hfail

theorem readSound_apFetch (apreg : Byte) (word : Word32) (s : AccessState σ) :
    ReadSound (apFetch target apreg (some word) s) ↔
      ∀ answer, apFetchAnswer target apreg word s.target = some answer → ¬ Corrupted answer := by
  obtain ⟨earlier, hposted⟩ := swdXferRetry_eq target
    (dapTransferAPnDP ||| dapTransferRnW ||| offsetBits apreg) (some 0#32) s
  have hack := ackOk_swdResult_settled target
    (dapTransferAPnDP ||| dapTransferRnW ||| offsetBits apreg) (some 0#32) 0#32 s.target
  rw [Option.getD_some] at hposted
  simp only [apFetch, apFetchAnswer, hposted, hack]
  by_cases hok : (settled target (dapTransferAPnDP ||| dapTransferRnW ||| offsetBits apreg)
      0#32 s.target).1.ack = dapTransferOk
  · rw [if_neg (not_not.mpr hok), if_pos hok]
    simp only [Option.some.injEq, forall_eq']
    exact readSound_swdXferRetry target (isRead_or _) word _
  · rw [if_pos hok, if_neg hok]
    refine iff_of_true (readSound_of_not_ackOk (mt hack.mp hok)) fun answer h => ?_
    simp at h

/-- With the bank in the cache, SELECT is not written. -/
theorem swdSelectAp_hit {apreg : Byte} {s : AccessState σ}
    (hhit : bankSelect apreg = s.selCache) :
    swdSelectAp target apreg s = (dapTransferOk.setWidth 8, s) :=
  if_neg (not_not.mpr hhit)

/-- Otherwise it is, and the target is where the write left it. -/
theorem swdSelectAp_miss {apreg : Byte} {s : AccessState σ}
    (hmiss : bankSelect apreg ≠ s.selCache) :
    let select := settled target (offsetBits dpSelect) (bankSelect apreg) s.target
    (AckOk (swdSelectAp target apreg s).1 ↔ select.1.ack = dapTransferOk) ∧
      (swdSelectAp target apreg s).2.target = select.2 := by
  intro select
  obtain ⟨earlier, hrun⟩ :=
    swdXferRetry_eq target (offsetBits dpSelect) (some (bankSelect apreg)) s
  have hack := ackOk_swdResult_settled target (offsetBits dpSelect) (some (bankSelect apreg))
    (bankSelect apreg) s.target
  rw [Option.getD_some] at hrun
  have hselect : swdSelectAp target apreg s =
      let ((ack, _), s) := swdXferRetry target (offsetBits dpSelect) (some (bankSelect apreg)) s
      (ack, if AckOk ack then { s with selCache := bankSelect apreg } else s) := if_pos hmiss
  rw [hselect, hrun]
  refine ⟨hack, ?_⟩
  simp only
  split_ifs <;> rfl

/-- A word stored by a read that ends with an OK matches its parity bit, exactly when
the target does not answer the transaction that carries the word with an OK and a
wrong parity bit. -/
theorem readSound_iff_not_corrupted (register : Byte) (word : Word32) (s : AccessState σ) :
    (ReadSound (dpRead target register (some word) s) ↔
        ¬ Corrupted (dpReadAnswer target register word s)) ∧
      (ReadSound (apRead target register (some word) s) ↔
        ∀ answer, apReadAnswer target register word s = some answer → ¬ Corrupted answer) := by
  refine ⟨readSound_swdXferRetry target (isRead_or _) word s, ?_⟩
  rw [apRead, apReadAnswer]
  by_cases hhit : bankSelect register = s.selCache
  · simp only [swdSelectAp_hit target hhit, if_pos hhit]
    rw [if_neg (by decide)]
    exact readSound_apFetch target register word s
  · obtain ⟨hselect, htarget⟩ := swdSelectAp_miss target hhit
    simp only [if_neg hhit, hselect]
    by_cases hok : (settled target (offsetBits dpSelect) (bankSelect register)
        s.target).1.ack = dapTransferOk
    · rw [if_neg (not_not.mpr hok), if_pos hok, ← htarget]
      exact readSound_apFetch target register word _
    · rw [if_pos hok, if_neg hok]
      refine iff_of_true (readSound_of_not_ackOk (mt hselect.mp hok)) fun answer h => ?_
      simp at h

end Soundness

/-- A target that acknowledges every request and gets every parity wrong. -/
def wrongParity : SwdTarget Unit where
  answer _ _ t := (⟨dapTransferOk, 0x1#32, 0x0#32⟩, t)
  ack_lt _ _ _ := by
    change dapTransferOk.toNat < 8
    decide

/-- `dp_read` returns 9 for it, which passes the test of the low three bits, with the
corrupted word in place. -/
theorem dpRead_accepts_wrong_parity :
    ¬ ∀ (σ : Type) (target : SwdTarget σ) (register : Byte) (word : Word32)
        (s : AccessState σ),
      ReadSound (dpRead target register (some word) s) := by
  intro hclaim
  obtain ⟨answer, hlast, -, hgood⟩ :=
    hclaim Unit wrongParity 0x0#8 0x0#32 ⟨(), 0x0#32, []⟩ (by decide)
  have hanswer : (dpRead wrongParity 0x0#8 (some 0x0#32) ⟨(), 0x0#32, []⟩).2.answers.getLast? =
      some ⟨dapTransferOk, 0x1#32, 0x0#32⟩ := by decide
  rw [hanswer] at hlast
  obtain rfl := Option.some.inj hlast
  exact hgood (by decide)

end ExLink.Swd
