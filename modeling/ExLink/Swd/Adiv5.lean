/-
# ADIv5 targets and posted reads

The register accessors of `dap_swd_spi.c` in front of what the architecture fixes of a
target: SELECT names the access port and the bank, and a read of an access port is
posted, so that its value is fetched from RDBUFF. Which acknowledges the target gives,
and what its registers hold, is up to the target.
-/

import ExLink.Swd.Access

namespace ExLink.Swd

/-! ## Accessors -/

section Writers

variable {σ : Type*} (target : SwdTarget σ)

/-- `dp_write`. -/
def dpWrite (r : Byte) (v : Word32) (s : AccessState σ) : Byte × AccessState σ :=
  let ((ack, _), s) := swdXferRetry target (offsetBits r) (some v) s
  (ack, s)

/-- `ap_write`. -/
def apWrite (apreg : Byte) (v : Word32) (s : AccessState σ) : Byte × AccessState σ :=
  let (ack, s) := swdSelectAp target apreg s
  if ¬ AckOk ack then (ack, s)
  else
    let ((ack, _), s) := swdXferRetry target (dapTransferAPnDP ||| offsetBits apreg) (some v) s
    (ack, s)

end Writers

/-- A call of an accessor; a missing word is a NULL pointer. -/
inductive AccessorCall where
  | dpRead (r : Byte) (out : Option Word32)
  | dpWrite (r : Byte) (v : Word32)
  | apRead (apreg : Byte) (out : Option Word32)
  | apWrite (apreg : Byte) (v : Word32)
  deriving DecidableEq

/-- The acknowledge that a call returns, and what it leaves. -/
def AccessorCall.run {σ : Type*} (target : SwdTarget σ) (s : AccessState σ) :
    AccessorCall → Byte × AccessState σ
  | .dpRead r out =>
      let ((ack, _), s) := Swd.dpRead target r out s
      (ack, s)
  | .dpWrite r v => Swd.dpWrite target r v s
  | .apRead apreg out =>
      let ((ack, _), s) := Swd.apRead target apreg out s
      (ack, s)
  | .apWrite apreg v => Swd.apWrite target apreg v s

/-! ## SELECT -/

/-- SELECT.APSEL. -/
def selectApSel (select : Word32) : Byte := (select >>> 24).setWidth 8

/-- SELECT.APBANKSEL, at the place it has in a register's offset. -/
def selectApBankSel (select : Word32) : Byte := select.setWidth 8 &&& 0xF0#8

/-- SELECT.DPBANKSEL. -/
def selectDpBankSel (select : Word32) : Byte := select.setWidth 8 &&& 0x0F#8

/-- The requests that write SELECT, read RDBUFF, and read an access port. -/
def WritesSelect (request : Word32) : Prop := request &&& 0xF#32 = 0x8#32
def ReadsRdbuff (request : Word32) : Prop := request &&& 0xF#32 = 0xE#32
def ReadsAp (request : Word32) : Prop := request &&& 0x3#32 = 0x3#32

instance (request : Word32) : Decidable (WritesSelect request) := inferInstanceAs (Decidable (_ = _))
instance (request : Word32) : Decidable (ReadsRdbuff request) :=
  inferInstanceAs (Decidable (_ = _))
instance (request : Word32) : Decidable (ReadsAp request) := inferInstanceAs (Decidable (_ = _))

/-- A target with a debug port: SELECT holds what the last acknowledged write of it
carried. Nothing is said of what the connect sequence does to the target. -/
structure DebugPort (σ : Type*) extends SwdTarget σ where
  select : σ → Word32
  select_answer : ∀ request word t,
    select (answer request word t).2 =
      if (answer request word t).1.ack = dapTransferOk ∧ WritesSelect request then word
      else select t
  lineReset : σ → σ

/-! ## Posted reads -/

/-- A register of an access port. -/
structure ApRegister where
  apsel : Byte
  offset : Byte
  deriving DecidableEq

/-- The register that a request addresses under a value of SELECT. -/
def addressed (select request : Word32) : ApRegister :=
  ⟨selectApSel select, selectApBankSel select ||| (request &&& 0x0C#32).setWidth 8⟩

/-- A target with posted reads: an acknowledged read of an access port reads the register
that is addressed, once, and the read of RDBUFF that follows it returns the value, unless the
word is garbled on the way. What RDBUFF returns at any other time is up to the target. A
request that is answered with WAIT has no effect on this. -/
structure PostingPort (σ : Type*) extends DebugPort σ where
  /-- What a register would be read as. -/
  register : ApRegister → σ → Word32
  /-- The reads performed so far, each with its value. -/
  reads : σ → List (ApRegister × Word32)
  /-- The transfer acknowledged last was a read of an access port. -/
  posted : σ → Prop
  reads_answer : ∀ request word t,
    reads (answer request word t).2 =
      if (answer request word t).1.ack = dapTransferOk ∧ ReadsAp request then
        reads t ++ [(addressed (select t) request, register (addressed (select t) request) t)]
      else reads t
  posted_answer : ∀ request word t, (answer request word t).1.ack = dapTransferOk →
    ReadsAp request → posted (answer request word t).2
  posted_wait : ∀ request word t, (answer request word t).1.ack = dapTransferWait → posted t →
    posted (answer request word t).2
  rdbuff_answer : ∀ request word t, (answer request word t).1.ack = dapTransferOk →
    ReadsRdbuff request → posted t → ¬ (answer request word t).1.BadParity →
      ∀ last ∈ (reads t).getLast?, (answer request word t).1.data = last.2

/-- The same with a line that garbles no word. -/
structure PostingTarget (σ : Type*) extends PostingPort σ where
  parity_answer : ∀ request word t, (answer request word t).1.ack = dapTransferOk →
    IsRead request → ¬ (answer request word t).1.BadParity

/-! ## What a call leaves -/

section Settled

variable {σ : Type*}

/-- The answer that ends a transaction is the answer in a state that only WAITs led to. -/
theorem settle_exists (target : SwdTarget σ) {request word : Word32} {kept : σ → Prop}
    (hwait : ∀ t, kept t → (target.answer request word t).1.ack = dapTransferWait →
      kept (target.answer request word t).2)
    (tries : ℕ) {t : σ} (hkept : kept t) :
    ∃ last, kept last ∧ settle target request word tries t = target.answer request word last := by
  induction tries generalizing t with
  | zero => exact ⟨t, hkept, rfl⟩
  | succ tries ih =>
      rw [settle]
      by_cases hack : (target.answer request word t).1.ack = dapTransferWait
      · simp only [if_pos hack]
        exact ih (hwait t hkept hack)
      · simp only [if_neg hack]
        exact ⟨t, hkept, rfl⟩

theorem dapTransferWait_ne_ok : dapTransferWait ≠ dapTransferOk := by decide

namespace PostingPort

variable (target : PostingPort σ) {request word : Word32} {t : σ}

/-- A state that looks like the given one, where what was posted still is. -/
def Alike (t later : σ) : Prop :=
  target.select later = target.select t ∧ target.reads later = target.reads t ∧
    (target.posted t → target.posted later)

/-- A transaction is answered in a state that looks like the one it started in. -/
theorem settled_exists (request word : Word32) (t : σ) :
    ∃ last, target.Alike t last ∧
      settled target.toSwdTarget request word t = target.answer request word last := by
  have hwait : ∀ later, target.Alike t later →
      (target.answer request word later).1.ack = dapTransferWait →
        target.Alike t (target.answer request word later).2 := by
    rintro later ⟨hselect, hreads, hposted⟩ hwaits
    have hrefused : (target.answer request word later).1.ack ≠ dapTransferOk := by
      rw [hwaits]
      exact dapTransferWait_ne_ok
    refine ⟨?_, ?_, fun h => target.posted_wait request word later hwaits (hposted h)⟩
    · rw [target.select_answer, if_neg fun h => hrefused h.1, hselect]
    · rw [target.reads_answer, if_neg fun h => hrefused h.1, hreads]
  exact settle_exists target.toSwdTarget hwait (swdWaitRetries - 1) ⟨rfl, rfl, id⟩

/-- An acknowledged read of an access port posts the value of the addressed register. -/
theorem settled_readsAp (hap : ReadsAp request) (hselect : ¬ WritesSelect request)
    (hok : (settled target.toSwdTarget request word t).1.ack = dapTransferOk) :
    target.select (settled target.toSwdTarget request word t).2 = target.select t ∧
      target.posted (settled target.toSwdTarget request word t).2 ∧
      ∃ value, target.reads (settled target.toSwdTarget request word t).2 =
        target.reads t ++ [(addressed (target.select t) request, value)] := by
  obtain ⟨last, ⟨hlastSelect, hlastReads, -⟩, hsettled⟩ := target.settled_exists request word t
  rw [hsettled] at hok ⊢
  refine ⟨?_, target.posted_answer request word last hok hap, ?_⟩
  · rw [target.select_answer, if_neg fun h => hselect h.2, hlastSelect]
  · rw [target.reads_answer, if_pos ⟨hok, hap⟩, hlastSelect, hlastReads]
    exact ⟨_, rfl⟩

/-- An acknowledged read of RDBUFF performs no read of an access port, and right after one it
fetches the value. -/
theorem settled_readsRdbuff (hrdbuff : ReadsRdbuff request) (hap : ¬ ReadsAp request)
    {earlier : List (ApRegister × Word32)} {last : ApRegister × Word32}
    (hreads : target.reads t = earlier ++ [last]) (hposted : target.posted t)
    (hok : (settled target.toSwdTarget request word t).1.ack = dapTransferOk) :
    (¬ (settled target.toSwdTarget request word t).1.BadParity →
        (settled target.toSwdTarget request word t).1.data = last.2) ∧
      target.reads (settled target.toSwdTarget request word t).2 = target.reads t := by
  obtain ⟨later, ⟨-, hlaterReads, hlaterPosted⟩, hsettled⟩ := target.settled_exists request word t
  rw [hsettled] at hok ⊢
  constructor
  · intro hparity
    apply target.rdbuff_answer request word later hok hrdbuff (hlaterPosted hposted) hparity last
    rw [hlaterReads, hreads]
    exact List.getLast?_concat
  · rw [target.reads_answer, if_neg fun h => hap h.2, hlaterReads]

/-- An acknowledged write of SELECT reads nothing. -/
theorem settled_writesSelect (hselect : WritesSelect request) (hap : ¬ ReadsAp request)
    (hok : (settled target.toSwdTarget request word t).1.ack = dapTransferOk) :
    target.select (settled target.toSwdTarget request word t).2 = word ∧
      target.reads (settled target.toSwdTarget request word t).2 = target.reads t := by
  obtain ⟨last, ⟨-, hlastReads, -⟩, hsettled⟩ := target.settled_exists request word t
  rw [hsettled] at hok ⊢
  rw [target.select_answer, target.reads_answer, if_pos ⟨hok, hselect⟩, if_neg fun h => hap h.2,
    hlastReads]
  exact ⟨rfl, rfl⟩

end PostingPort

/-- No word of a transaction is garbled. -/
theorem PostingTarget.parity_settled (target : PostingTarget σ) {request word : Word32} {t : σ}
    (hread : IsRead request)
    (hok : (settled target.toSwdTarget request word t).1.ack = dapTransferOk) :
    ¬ (settled target.toSwdTarget request word t).1.BadParity := by
  obtain ⟨last, -, hsettled⟩ := target.settled_exists request word t
  rw [hsettled] at hok ⊢
  exact target.parity_answer request word last hok hread

end Settled

/-! ## The requests of the accessors -/

section Requests

theorem bankSelect_ne_invalid (apreg : Byte) : bankSelect apreg ≠ 0xFFFFFFFF#32 := by
  revert apreg
  decide +kernel

theorem readsAp_apRead (apreg : Byte) :
    ReadsAp (dapTransferAPnDP ||| dapTransferRnW ||| offsetBits apreg) ∧
      ¬ WritesSelect (dapTransferAPnDP ||| dapTransferRnW ||| offsetBits apreg) := by
  revert apreg
  decide +kernel

theorem readsRdbuff_rdbuff :
    ReadsRdbuff (dapTransferRnW ||| offsetBits dpRdbuff) ∧
      ¬ ReadsAp (dapTransferRnW ||| offsetBits dpRdbuff) := by decide

theorem writesSelect_select :
    WritesSelect (offsetBits dpSelect) ∧ ¬ ReadsAp (offsetBits dpSelect) := by decide

/-- With the bank of a register selected, its read addresses it in access port 0. -/
theorem addressed_bankSelect (apreg : Byte) :
    addressed (bankSelect apreg) (dapTransferAPnDP ||| dapTransferRnW ||| offsetBits apreg) =
      ⟨0x00#8, apreg &&& 0xFC#8⟩ := by
  revert apreg
  decide +kernel

end Requests

/-! ## A read of an access port -/

section Posted

variable {σ : Type*} (target : PostingTarget σ)

/-- Once the bank is selected: the register is read once, and its value is what is stored. -/
theorem apFetch_posted (apreg : Byte) (word : Word32) (s : AccessState σ)
    (hselected : target.select s.target = bankSelect apreg)
    (hok : AckOk (apFetch target.toSwdTarget apreg (some word) s).1.1) :
    ∃ value, (apFetch target.toSwdTarget apreg (some word) s).1.2 = some value ∧
      target.reads (apFetch target.toSwdTarget apreg (some word) s).2.target =
        target.reads s.target ++ [(⟨0x00#8, apreg &&& 0xFC#8⟩, value)] := by
  obtain ⟨hap, hnotSelect⟩ := readsAp_apRead apreg
  obtain ⟨hrdbuff, hnotAp⟩ := readsRdbuff_rdbuff
  obtain ⟨earlier, hposting⟩ := swdXferRetry_eq target.toSwdTarget
    (dapTransferAPnDP ||| dapTransferRnW ||| offsetBits apreg) (some 0#32) s
  have hack := ackOk_swdResult_settled target.toSwdTarget
    (dapTransferAPnDP ||| dapTransferRnW ||| offsetBits apreg) (some 0#32) 0#32 s.target
  rw [Option.getD_some] at hposting
  simp only [apFetch, hposting, hack] at hok ⊢
  by_cases hposted : (settled target.toSwdTarget
      (dapTransferAPnDP ||| dapTransferRnW ||| offsetBits apreg) 0#32 s.target).1.ack =
        dapTransferOk
  · rw [if_neg (not_not_intro hposted)] at hok ⊢
    obtain ⟨-, hpending, value, hreads⟩ := target.settled_readsAp hap hnotSelect hposted
    rw [hselected, addressed_bankSelect] at hreads
    set t := (settled target.toSwdTarget
      (dapTransferAPnDP ||| dapTransferRnW ||| offsetBits apreg) 0#32 s.target).2
    obtain ⟨later, hfetch⟩ := swdXferRetry_eq target.toSwdTarget
      (dapTransferRnW ||| offsetBits dpRdbuff) (some word) ⟨t, s.selCache, earlier ++ [(settled
        target.toSwdTarget (dapTransferAPnDP ||| dapTransferRnW ||| offsetBits apreg) 0#32
          s.target).1]⟩
    rw [Option.getD_some] at hfetch
    rw [hfetch] at hok ⊢
    have hfetched := (ackOk_swdResult_settled target.toSwdTarget _ _ _ _).mp hok
    obtain ⟨hdata, hkept⟩ :=
      target.settled_readsRdbuff hrdbuff hnotAp hreads hpending hfetched
    refine ⟨value, ?_, hkept.trans hreads⟩
    rw [swdResult, if_pos ⟨hfetched, isRead_or _⟩,
      hdata (target.parity_settled (isRead_or _) hfetched)]
    rfl
  · rw [if_pos hposted] at hok
    exact absurd (hack.mp hok) hposted

/-- An access port read that is acknowledged, with a cache that is right or invalid. -/
theorem apRead_reads (apreg : Byte) (word : Word32) (s : AccessState σ)
    (hcache : s.selCache = target.select s.target ∨ s.selCache = 0xFFFFFFFF#32)
    (hok : AckOk (apRead target.toSwdTarget apreg (some word) s).1.1) :
    ∃ value, (apRead target.toSwdTarget apreg (some word) s).1.2 = some value ∧
      target.reads (apRead target.toSwdTarget apreg (some word) s).2.target =
        target.reads s.target ++ [(⟨0x00#8, apreg &&& 0xFC#8⟩, value)] := by
  rw [apRead] at hok ⊢
  by_cases hhit : bankSelect apreg = s.selCache
  · have hselected : target.select s.target = bankSelect apreg := by
      rcases hcache with hright | hinvalid
      · rw [hhit, hright]
      · exact absurd (hhit.trans hinvalid) (bankSelect_ne_invalid apreg)
    simp only [swdSelectAp_hit target.toSwdTarget hhit] at hok ⊢
    rw [if_neg (by decide)] at hok ⊢
    exact apFetch_posted target apreg word s hselected hok
  · obtain ⟨hselect, htarget⟩ := swdSelectAp_miss target.toSwdTarget hhit
    simp only at hok ⊢
    by_cases hack : AckOk (swdSelectAp target.toSwdTarget apreg s).1
    · obtain ⟨hselected, hreads⟩ :=
        target.settled_writesSelect writesSelect_select.1 writesSelect_select.2 (hselect.mp hack)
      rw [if_neg (not_not_intro hack)] at hok ⊢
      rw [← htarget] at hselected hreads
      rw [← hreads]
      exact apFetch_posted target apreg word _ hselected hok
    · rw [if_pos hack] at hok
      exact absurd hok hack

end Posted

/-! ## Attempts -/

/-- A target that also keeps the requests that were made of it. -/
def recordRequests {σ : Type*} (target : SwdTarget σ) : SwdTarget (σ × List Word32) where
  answer request word t :=
    ((target.answer request word t.1).1, (target.answer request word t.1).2, t.2 ++ [request])
  ack_lt request word t := target.ack_lt request word t.1

/-- The requests that a call makes. -/
def AccessorCall.requests {σ : Type*} (target : SwdTarget σ) (s : AccessState σ)
    (call : AccessorCall) : List Word32 :=
  (call.run (recordRequests target) ⟨(s.target, []), s.selCache, s.answers⟩).2.target.2

/-- A transaction: its request, and how often it is made. -/
structure Transaction where
  request : Word32
  attempts : ℕ

/-- The requests of one transaction after the other. -/
def transactionRequests (transactions : List Transaction) : List Word32 :=
  transactions.flatMap fun transaction =>
    List.replicate transaction.attempts transaction.request

/-- What was requested since `before`: the given transactions, each within the retries. One
that was not reached has no attempts. -/
def MakesTransactions (requests before after : List Word32) : Prop :=
  ∃ transactions : List Transaction, transactions.map Transaction.request = requests ∧
    (∀ transaction ∈ transactions, transaction.attempts ≤ swdWaitRetries) ∧
    after = before ++ transactionRequests transactions

/-- The transactions of a call. -/
def AccessorCall.transactions : AccessorCall → List Word32
  | .dpRead r _ => [dapTransferRnW ||| offsetBits r]
  | .dpWrite r _ => [offsetBits r]
  | .apRead apreg _ =>
      [offsetBits dpSelect, dapTransferAPnDP ||| dapTransferRnW ||| offsetBits apreg,
        dapTransferRnW ||| offsetBits dpRdbuff]
  | .apWrite apreg _ => [offsetBits dpSelect, dapTransferAPnDP ||| offsetBits apreg]

/-- They are told apart by their requests. -/
theorem AccessorCall.nodup_transactions (call : AccessorCall) : call.transactions.Nodup := by
  cases call with
  | dpRead _ _ | dpWrite _ _ => simp [AccessorCall.transactions]
  | apRead apreg _ =>
      rw [AccessorCall.transactions]
      revert apreg
      decide +kernel
  | apWrite apreg _ =>
      rw [AccessorCall.transactions]
      revert apreg
      decide +kernel

namespace MakesTransactions

variable {first second requests before middle after : List Word32}

theorem unreached (requests before : List Word32) : MakesTransactions requests before before := by
  refine ⟨requests.map fun request => ⟨request, 0⟩, ?_, ?_, ?_⟩
  · rw [List.map_map]
    exact List.map_id requests
  · intro transaction hmem
    obtain ⟨request, -, rfl⟩ := List.mem_map.mp hmem
    exact Nat.zero_le _
  · rw [transactionRequests, List.flatMap_map]
    simp

theorem append (hfirst : MakesTransactions first before middle)
    (hsecond : MakesTransactions second middle after) :
    MakesTransactions (first ++ second) before after := by
  obtain ⟨earlier, hearlier, hearlierLe, rfl⟩ := hfirst
  obtain ⟨later, hlater, hlaterLe, rfl⟩ := hsecond
  refine ⟨earlier ++ later, ?_, List.forall_mem_append.mpr ⟨hearlierLe, hlaterLe⟩, ?_⟩
  · rw [List.map_append, hearlier, hlater]
  · rw [transactionRequests, transactionRequests, transactionRequests, List.flatMap_append,
      List.append_assoc]

/-- Of transactions that are told apart by their requests, each has as many attempts as its
request was made. -/
theorem count_le (h : MakesTransactions requests [] after) (hnodup : requests.Nodup)
    (request : Word32) : after.count request ≤ swdWaitRetries := by
  obtain ⟨transactions, rfl, hle, rfl⟩ := h
  rw [List.nil_append]
  induction transactions with
  | nil => exact Nat.zero_le _
  | cons transaction rest ih =>
      obtain ⟨hnew, hrest⟩ := List.nodup_cons.mp hnodup
      obtain ⟨hhead, htail⟩ := List.forall_mem_cons.mp hle
      rw [transactionRequests, List.flatMap_cons, ← transactionRequests, List.count_append,
        List.count_replicate]
      by_cases hrequest : transaction.request = request
      · have hnone : (transactionRequests rest).count request = 0 := by
          rw [List.count_eq_zero, transactionRequests, List.mem_flatMap]
          rintro ⟨other, hother, hmade⟩
          rw [hrequest, List.eq_of_mem_replicate hmade] at hnew
          exact hnew (List.mem_map_of_mem hother)
        rw [if_pos (beq_iff_eq.mpr hrequest), hnone]
        exact hhead
      · rw [if_neg (mt beq_iff_eq.mp hrequest), Nat.zero_add]
        exact ih hrest htail

end MakesTransactions

section Attempts

variable {σ : Type*} (target : SwdTarget σ)

/-- A transaction is one request, made as often as the retries allow. -/
theorem requests_settle (request word : Word32) (tries : ℕ) (t : σ × List Word32) :
    ∃ attempts ≤ tries + 1, (settle (recordRequests target) request word tries t).2.2 =
      t.2 ++ List.replicate attempts request := by
  induction tries generalizing t with
  | zero => exact ⟨1, le_refl _, rfl⟩
  | succ tries ih =>
      rw [settle]
      by_cases hwait : ((recordRequests target).answer request word t).1.ack = dapTransferWait
      · simp only [if_pos hwait]
        obtain ⟨attempts, hle, hrequests⟩ := ih ((recordRequests target).answer request word t).2
        refine ⟨attempts + 1, by omega, ?_⟩
        rw [hrequests, List.replicate_succ]
        exact List.append_assoc _ _ _
      · simp only [if_neg hwait]
        exact ⟨1, by omega, rfl⟩

theorem makesTransactions_settled (request word : Word32) (t : σ × List Word32) :
    MakesTransactions [request] t.2 (settled (recordRequests target) request word t).2.2 := by
  obtain ⟨attempts, hle, hrequests⟩ :=
    requests_settle target request word (swdWaitRetries - 1) t
  refine ⟨[⟨request, attempts⟩], rfl, ?_, ?_⟩
  · intro transaction hmem
    rw [List.mem_singleton.mp hmem]
    exact hle
  · rw [settled, hrequests, transactionRequests, List.flatMap_singleton]

theorem makesTransactions_swdXferRetry (request : Word32) (data : Option Word32)
    (s : AccessState (σ × List Word32)) :
    MakesTransactions [request] s.target.2
      (swdXferRetry (recordRequests target) request data s).2.target.2 := by
  obtain ⟨earlier, hrun⟩ := swdXferRetry_eq (recordRequests target) request data s
  rw [hrun]
  exact makesTransactions_settled target request (data.getD 0#32) s.target

theorem makesTransactions_swdSelectAp (apreg : Byte) (s : AccessState (σ × List Word32)) :
    MakesTransactions [offsetBits dpSelect] s.target.2
      (swdSelectAp (recordRequests target) apreg s).2.target.2 := by
  by_cases hhit : bankSelect apreg = s.selCache
  · rw [swdSelectAp_hit (recordRequests target) hhit]
    exact .unreached _ _
  · rw [(swdSelectAp_miss (recordRequests target) hhit).2]
    exact makesTransactions_settled target _ _ s.target

theorem makesTransactions_apFetch (apreg : Byte) (out : Option Word32)
    (s : AccessState (σ × List Word32)) :
    MakesTransactions [dapTransferAPnDP ||| dapTransferRnW ||| offsetBits apreg,
      dapTransferRnW ||| offsetBits dpRdbuff] s.target.2
      (apFetch (recordRequests target) apreg out s).2.target.2 := by
  have hposted := makesTransactions_swdXferRetry target
    (dapTransferAPnDP ||| dapTransferRnW ||| offsetBits apreg) (some 0#32) s
  refine hposted.append ?_
  rw [apFetch]
  dsimp only
  split_ifs
  · exact makesTransactions_swdXferRetry target _ _ _
  · exact .unreached _ _

/-- Whatever the target answers, a call makes its own transactions, each within the
retries. -/
theorem makesTransactions_requests (s : AccessState σ) (call : AccessorCall) :
    MakesTransactions call.transactions [] (call.requests target s) := by
  have hselect (apreg : Byte) := makesTransactions_swdSelectAp target apreg
    ⟨(s.target, []), s.selCache, s.answers⟩
  cases call with
  | dpRead r out => exact makesTransactions_swdXferRetry target _ _ _
  | dpWrite r v => exact makesTransactions_swdXferRetry target _ _ _
  | apRead apreg out =>
      refine (hselect apreg).append ?_
      rw [AccessorCall.requests, AccessorCall.run, Swd.apRead]
      dsimp only
      split_ifs
      · exact makesTransactions_apFetch target _ _ _
      · exact .unreached _ _
  | apWrite apreg v =>
      refine (hselect apreg).append ?_
      rw [AccessorCall.requests, AccessorCall.run, Swd.apWrite]
      dsimp only
      split_ifs
      · exact makesTransactions_swdXferRetry target _ _ _
      · exact .unreached _ _

end Attempts

/-! ## Reads of an access port -/

/-- With a cache that is right or invalid, an `ap_read` that returns OK reads the addressed
register of the addressed bank once and stores its value, whatever was posted before; and
no call of an accessor makes a request more often than `SWD_WAIT_RETRIES`. -/
theorem apRead_posted {σ : Type*} (target : PostingTarget σ) :
    (∀ (apreg : Byte) (word : Word32) (s : AccessState σ),
      s.selCache = target.select s.target ∨ s.selCache = 0xFFFFFFFF#32 →
        let run := apRead target.toSwdTarget apreg (some word) s
        AckOk run.1.1 → ∃ value, run.1.2 = some value ∧
          target.reads run.2.target =
            target.reads s.target ++ [(⟨0x00#8, apreg &&& 0xFC#8⟩, value)]) ∧
      ∀ (s : AccessState σ) (call : AccessorCall) (request : Word32),
        (call.requests target.toSwdTarget s).count request ≤ swdWaitRetries := by
  constructor
  · intro apreg word s hcache run hok
    exact apRead_reads target apreg word s hcache hok
  · intro s call request
    have htransactions := makesTransactions_requests target.toSwdTarget s call
    exact htransactions.count_le call.nodup_transactions request

/-- An access port that answers two requests of three with WAIT, whose registers count the
reads, and whose RDBUFF has the value of a read until the next transfer. -/
structure SlowAp where
  ticks : ℕ
  select : Word32
  reads : List (ApRegister × Word32)
  pending : Bool

/-- What a register of it reads as. -/
def SlowAp.register (register : ApRegister) (t : SlowAp) : Word32 :=
  register.offset.setWidth 32 + BitVec.ofNat 32 t.reads.length

def SlowAp.ack (t : SlowAp) : Word32 := if t.ticks % 3 = 2 then dapTransferOk else dapTransferWait

theorem SlowAp.ack_lt (t : SlowAp) : t.ack.toNat < 8 := by
  rw [SlowAp.ack]
  split_ifs <;> decide

theorem parity32_and_one (word : Word32) : parity32 word &&& 1#32 = parity32 word := by
  rw [parity32_eq]
  split_ifs <;> rfl

/-- The value posted last, while it is there. -/
def SlowAp.posted (t : SlowAp) : Word32 :=
  if t.pending then (t.reads.getLast?.map Prod.snd).getD 0#32 else 0xFFFFFFFF#32

/-- Whether a value is posted after a request. -/
def SlowAp.pendingAfter (request : Word32) (t : SlowAp) : Bool :=
  if t.ack = dapTransferOk then decide (ReadsAp request) else t.pending

theorem SlowAp.posted_of_pending {t : SlowAp} (hpending : t.pending = true)
    {last : ApRegister × Word32} (hlast : last ∈ t.reads.getLast?) : t.posted = last.2 := by
  rw [SlowAp.posted, if_pos hpending, Option.mem_def.mp hlast]
  rfl

theorem SlowAp.pendingAfter_of_ok {t : SlowAp} (hok : t.ack = dapTransferOk) {request : Word32}
    (hap : ReadsAp request) : t.pendingAfter request = true := by
  rw [SlowAp.pendingAfter, if_pos hok, decide_eq_true hap]

theorem SlowAp.pendingAfter_of_wait {t : SlowAp} (hwait : t.ack = dapTransferWait)
    (request : Word32) : t.pendingAfter request = t.pending := by
  rw [SlowAp.pendingAfter, hwait, if_neg dapTransferWait_ne_ok]

def slowAp : PostingTarget SlowAp where
  answer request word t :=
    (⟨t.ack, t.posted, parity32 t.posted⟩,
      { ticks := t.ticks + 1
        select := if t.ack = dapTransferOk ∧ WritesSelect request then word else t.select
        reads :=
          if t.ack = dapTransferOk ∧ ReadsAp request then
            t.reads ++ [(addressed t.select request, t.register (addressed t.select request))]
          else t.reads
        pending := t.pendingAfter request })
  ack_lt _ _ t := t.ack_lt
  select := SlowAp.select
  select_answer _ _ _ := rfl
  lineReset := id
  register := SlowAp.register
  reads := SlowAp.reads
  posted t := t.pending = true
  reads_answer _ _ _ := rfl
  posted_answer _ _ _ hok hap := SlowAp.pendingAfter_of_ok hok hap
  posted_wait request _ _ hwait hpending := (SlowAp.pendingAfter_of_wait hwait request).trans hpending
  rdbuff_answer _ _ _ _ _ hpending _ _ hlast := SlowAp.posted_of_pending hpending hlast
  parity_answer _ _ t _ _ := not_not_intro (parity32_and_one t.posted).symm

/-- A read of DRW in bank 0 after a read that nobody fetched, with an invalid cache. -/
theorem apRead_posted_slowAp :
    ∃ value, (apRead slowAp.toSwdTarget 0x0C#8 (some 0#32)
        ⟨⟨0, 0x10000F0#32, [(⟨0x01#8, 0xFC#8⟩, 7#32)], true⟩, 0xFFFFFFFF#32, []⟩).1.2 =
          some value ∧
      slowAp.reads (apRead slowAp.toSwdTarget 0x0C#8 (some 0#32)
        ⟨⟨0, 0x10000F0#32, [(⟨0x01#8, 0xFC#8⟩, 7#32)], true⟩, 0xFFFFFFFF#32, []⟩).2.target =
          [(⟨0x01#8, 0xFC#8⟩, 7#32), (⟨0x00#8, 0x0C#8⟩, value)] :=
  (apRead_posted slowAp).1 0x0C#8 0#32
    ⟨⟨0, 0x10000F0#32, [(⟨0x01#8, 0xFC#8⟩, 7#32)], true⟩, 0xFFFFFFFF#32, []⟩ (Or.inr rfl)
    (by decide)

end ExLink.Swd
