/-
# Memory through the access port

`swd_pwr` and `swd_mem` of `dap_swd_diag.c` in front of a memory access port: CSW says how
wide its accesses are, TAR holds the address, and an access of DRW is an access of memory.
When the target acknowledges, and what memory holds, is up to the target.
-/

import ExLink.Swd.SelectCache

namespace ExLink.Swd

/-! ## The commands -/

def apCsw : Byte := 0x00#8
def apTar : Byte := 0x04#8
def apDrw : Byte := 0x0C#8
def apIdr : Byte := 0xFC#8

/-- `CSW_VALUE_32`: word accesses, TAR counts up. -/
def cswValue32 : Word32 := 0x23000052#32

/-- DBGMCU_IDCODE, the address that is read without an argument. -/
def dbgmcuIdcode : Word32 := 0xE0042000#32

/-- What `swd_pwr` prints. -/
inductive PowerReport where
  | failed
  | apIdr (ack : Byte) (idr : Word32) (ready : Bool)
  deriving DecidableEq

/-- What `swd_mem` prints. -/
inductive MemReport where
  | failed
  | csw (ack : Byte)
  | tar (ack : Byte)
  | drw (ack : Byte) (val : Word32) (devId : Option Word32)
  deriving DecidableEq

section Commands

variable {σ : Type*} (port : DebugPort σ)

/-- `swd_pwr`. -/
def swdPwr (s : AccessState σ) : PowerReport × AccessState σ :=
  let ((ack, _), s) := swdPowerupPrologue port none s
  if ¬ AckOk ack then (.failed, s)
  else
    let ((ack, out), s) := apRead port.toSwdTarget apIdr (some 0#32) s
    let idr := out.getD 0#32
    (.apIdr ack idr (decide (AckOk ack ∧ idr ≠ 0#32 ∧ idr ≠ 0xFFFFFFFF#32)), s)

/-- `swd_mem` once the debug domain has power. -/
def memRead (addr : Word32) (s : AccessState σ) : MemReport × AccessState σ :=
  let (ack, s) := apWrite port.toSwdTarget apCsw cswValue32 s
  if ¬ AckOk ack then (.csw ack, s)
  else
    let (ack, s) := apWrite port.toSwdTarget apTar addr s
    if ¬ AckOk ack then (.tar ack, s)
    else
      let ((ack, out), s) := apRead port.toSwdTarget apDrw (some 0#32) s
      let val := out.getD 0#32
      (.drw ack val (if AckOk ack ∧ addr = dbgmcuIdcode then some (val &&& 0xFFF#32) else none), s)

/-- `swd_mem`, with the number that its argument stands for if it has one. -/
def swdMem (arg : Option Word32) (s : AccessState σ) : MemReport × AccessState σ :=
  let addr := arg.getD dbgmcuIdcode
  let ((ack, _), s) := swdPowerupPrologue port none s
  if ¬ AckOk ack then (.failed, s) else memRead port addr s

end Commands

/-! ## A memory access port -/

/-- An access of memory: the address in TAR, and the word. -/
inductive BusAccess where
  | read (address value : Word32)
  | write (address value : Word32)
  deriving DecidableEq

/-- The requests to an access port. -/
def AccessesAp (request : Word32) : Prop := request &&& 0x1#32 = 0x1#32

instance (request : Word32) : Decidable (AccessesAp request) := inferInstanceAs (Decidable (_ = _))

/-- DRW and the banked data registers of access port 0. -/
def ApRegister.IsData (register : ApRegister) : Prop :=
  register.apsel = 0x00#8 ∧ (register.offset = apDrw ∨ register.offset &&& 0xF0#8 = 0x10#8)

instance (register : ApRegister) : Decidable register.IsData := inferInstanceAs (Decidable (_ ∧ _))

/-- An acknowledged access of a register of an access port. -/
def DebugPort.Accesses {σ : Type*} (port : DebugPort σ) (request word : Word32) (t : σ)
    (register : ApRegister) : Prop :=
  (port.answer request word t).1.ack = dapTransferOk ∧ AccessesAp request ∧
    addressed (port.select t) request = register

/-- A target whose access port 0 leads to memory. TAR may move with an access of memory,
nothing is said of what memory holds, and words may be garbled on the way. -/
structure MemApTarget (σ : Type*) extends PostingPort σ where
  /-- CSW.Size. -/
  size : σ → Word32
  tar : σ → Word32
  /-- The accesses of memory so far. -/
  bus : σ → List BusAccess
  size_kept : ∀ request word t, ¬ toDebugPort.Accesses request word t ⟨0x00#8, apCsw⟩ →
    size (answer request word t).2 = size t
  size_written : ∀ request word t, toDebugPort.Accesses request word t ⟨0x00#8, apCsw⟩ →
    ¬ IsRead request → word &&& 0x7#32 = 0x2#32 → size (answer request word t).2 = 0x2#32
  tar_kept : ∀ request word t,
    (∀ register, toDebugPort.Accesses request word t register →
      register ≠ ⟨0x00#8, apTar⟩ ∧ ¬ register.IsData) →
    tar (answer request word t).2 = tar t
  tar_written : ∀ request word t, toDebugPort.Accesses request word t ⟨0x00#8, apTar⟩ →
    ¬ IsRead request → tar (answer request word t).2 = word
  bus_kept : ∀ request word t,
    (∀ register, toDebugPort.Accesses request word t register → ¬ register.IsData) →
    bus (answer request word t).2 = bus t
  bus_read : ∀ request word t, toDebugPort.Accesses request word t ⟨0x00#8, apDrw⟩ →
    IsRead request → size t = 0x2#32 →
    bus (answer request word t).2 = bus t ++ [.read (tar t) (register ⟨0x00#8, apDrw⟩ t)]

/-! ## What a transaction leaves -/

section Kept

variable {σ : Type*} (target : MemApTarget σ)

/-- The access port as it was. -/
structure MemKept (t later : σ) : Prop where
  reads : target.reads later = target.reads t
  size : target.size later = target.size t
  tar : target.tar later = target.tar t
  bus : target.bus later = target.bus t

namespace MemKept

variable {target} {t middle later : σ}

theorem refl (t : σ) : MemKept target t t := ⟨rfl, rfl, rfl, rfl⟩

theorem trans (first : MemKept target t middle) (second : MemKept target middle later) :
    MemKept target t later where
  reads := second.reads.trans first.reads
  size := second.size.trans first.size
  tar := second.tar.trans first.tar
  bus := second.bus.trans first.bus

end MemKept

/-- An answer without an acknowledged access of an access port. -/
theorem memKept_answer {request word : Word32} {t : σ}
    (hquiet : ¬ ((target.answer request word t).1.ack = dapTransferOk ∧ AccessesAp request)) :
    MemKept target t (target.answer request word t).2 where
  reads := by
    rw [target.reads_answer, if_neg]
    rintro ⟨hok, hap⟩
    refine hquiet ⟨hok, ?_⟩
    rw [ReadsAp] at hap
    rw [AccessesAp, show (0x1#32 : Word32) = 0x3#32 &&& 0x1#32 from rfl, ← BitVec.and_assoc, hap]
  size := target.size_kept _ _ _ fun h => hquiet ⟨h.1, h.2.1⟩
  tar := target.tar_kept _ _ _ fun _ h => absurd ⟨h.1, h.2.1⟩ hquiet
  bus := target.bus_kept _ _ _ fun _ h => absurd ⟨h.1, h.2.1⟩ hquiet

/-- A transaction is answered in a state that only WAITs led to. -/
theorem settled_memKept (request word : Word32) (t : σ) :
    ∃ last, target.select last = target.select t ∧ MemKept target t last ∧
      settled target.toSwdTarget request word t = target.answer request word last := by
  have hwait : ∀ later, target.select later = target.select t ∧ MemKept target t later →
      (target.answer request word later).1.ack = dapTransferWait →
        target.select (target.answer request word later).2 = target.select t ∧
          MemKept target t (target.answer request word later).2 := by
    rintro later ⟨hselect, hkept⟩ hwaits
    have hrefused : (target.answer request word later).1.ack ≠ dapTransferOk := by
      rw [hwaits]
      exact dapTransferWait_ne_ok
    constructor
    · rw [target.select_answer, if_neg fun h => hrefused h.1]
      exact hselect
    · exact hkept.trans (memKept_answer target fun h => hrefused h.1)
  obtain ⟨last, ⟨hselect, hkept⟩, hsettle⟩ := @settle_exists σ target.toSwdTarget request word
    (fun later => target.select later = target.select t ∧ MemKept target t later)
    hwait (swdWaitRetries - 1) t ⟨rfl, .refl t⟩
  exact ⟨last, hselect, hkept, hsettle⟩

/-- A transaction with the debug port. -/
theorem memKept_settled {request : Word32} (hap : ¬ AccessesAp request) (word : Word32) (t : σ) :
    MemKept target t (settled target.toSwdTarget request word t).2 := by
  obtain ⟨last, -, hkept, hsettled⟩ := settled_memKept target request word t
  rw [hsettled]
  exact hkept.trans (memKept_answer target fun h => hap h.2)

theorem memKept_swdXferRetry {request : Word32} (hap : ¬ AccessesAp request)
    (data : Option Word32) (s : AccessState σ) :
    MemKept target s.target (swdXferRetry target.toSwdTarget request data s).2.target := by
  obtain ⟨-, htarget, -⟩ := swdXferRetry_leaves target.toDebugPort request data s
  rw [htarget]
  exact memKept_settled target hap _ _

theorem not_accessesAp (r : Byte) :
    ¬ AccessesAp (dapTransferRnW ||| offsetBits r) ∧ ¬ AccessesAp (offsetBits r) := by
  revert r
  decide +kernel

theorem memKept_dpRead (r : Byte) (out : Option Word32) (s : AccessState σ) :
    MemKept target s.target (dpRead target.toSwdTarget r out s).2.target :=
  memKept_swdXferRetry target (not_accessesAp r).1 out s

theorem memKept_dpWrite (r : Byte) (v : Word32) (s : AccessState σ) :
    MemKept target s.target (dpWrite target.toSwdTarget r v s).2.target :=
  memKept_swdXferRetry target (not_accessesAp r).2 (some v) s

theorem memKept_ctrlStatPolls (tries : ℕ) (v : Word32) (s : AccessState σ) :
    MemKept target s.target (ctrlStatPolls target.toSwdTarget tries v s).2.target := by
  induction tries generalizing v s with
  | zero => exact .refl s.target
  | succ tries ih =>
      have hpoll := memKept_dpRead target dpCtrlStat (some v) s
      rw [ctrlStatPolls]
      dsimp only
      split_ifs
      · exact hpoll
      · exact hpoll.trans (ih _ _)
      · exact hpoll

theorem memKept_powerUpRequest (v : Word32) (s : AccessState σ) :
    MemKept target s.target (powerUpRequest target.toSwdTarget v s).2.target := by
  have hrequest := memKept_dpWrite target dpCtrlStat ctrlPwrupReq s
  rw [powerUpRequest]
  dsimp only
  by_cases hok : AckOk (dpWrite target.toSwdTarget dpCtrlStat ctrlPwrupReq s).1
  · rw [if_neg (not_not_intro hok)]
    refine hrequest.trans ((memKept_ctrlStatPolls target swdPwrupRetries v _).trans ?_)
    split <;> exact .refl _
  · rw [if_pos hok]
    exact hrequest

/-- The prologue makes no access through the port, and where it succeeds bank 0 is selected,
in the target and in the cache. -/
theorem swdPowerupPrologue_memKept (dpidrOut : Option Word32) (s : AccessState σ) :
    let run := swdPowerupPrologue target.toDebugPort dpidrOut s
    MemKept target (target.lineReset s.target) run.2.target ∧
      (AckOk run.1.1 → target.select run.2.target = 0#32 ∧ run.2.selCache = 0#32) := by
  set reset : AccessState σ :=
    { s with target := target.lineReset s.target, selCache := 0xFFFFFFFF#32 }
  set dpidr := dpRead target.toSwdTarget dpIdcode (some 0#32) reset
  set abort := dpWrite target.toSwdTarget dpAbort abortClrAll dpidr.2
  set select := dpWrite target.toSwdTarget dpSelect 0#32 abort.2
  have hdpidr := memKept_dpRead target dpIdcode (some 0#32) reset
  have habort := hdpidr.trans (memKept_dpWrite target dpAbort abortClrAll dpidr.2)
  have hselect := habort.trans (memKept_dpWrite target dpSelect 0#32 abort.2)
  obtain ⟨hselectOk, hselectTarget, -⟩ := dpWrite_leaves target.toDebugPort dpSelect 0#32 abort.2
  rw [swdPowerupPrologue]
  dsimp only
  by_cases hdpidrOk : AckOk dpidr.1.1
  · by_cases habortOk : AckOk abort.1
    · by_cases hok : AckOk select.1
      · rw [if_neg (not_not_intro hdpidrOk), if_neg (not_not_intro habortOk),
          if_neg (not_not_intro hok)]
        have hrequest := sameSelect_powerUpRequest target.toDebugPort (dpidr.1.2.getD 0#32)
          { select.2 with selCache := 0#32 }
        refine ⟨hselect.trans (memKept_powerUpRequest target _ { select.2 with selCache := 0#32 }),
          fun _ => ⟨?_, hrequest.2⟩⟩
        rw [hrequest.1]
        change target.select select.2.target = 0#32
        rw [hselectTarget, select_settled, if_pos ⟨hselectOk.mp hok, writesSelect_select.1⟩]
      · rw [if_neg (not_not_intro hdpidrOk), if_neg (not_not_intro habortOk), if_pos hok]
        exact ⟨hselect, fun hack => absurd hack hok⟩
    · rw [if_neg (not_not_intro hdpidrOk), if_pos habortOk]
      exact ⟨habort, fun hack => absurd hack habortOk⟩
  · rw [if_pos hdpidrOk]
    exact ⟨hdpidr, fun hack => absurd hack hdpidrOk⟩

end Kept

/-! ## A word of memory -/

section Words

variable {σ : Type*} (target : MemApTarget σ)

/-- The requests to the registers of bank 0 that `swd_mem` writes and reads. -/
theorem addressed_bankZero :
    addressed 0#32 (dapTransferAPnDP ||| offsetBits apCsw) = ⟨0x00#8, apCsw⟩ ∧
      addressed 0#32 (dapTransferAPnDP ||| offsetBits apTar) = ⟨0x00#8, apTar⟩ ∧
      addressed 0#32 (dapTransferAPnDP ||| dapTransferRnW ||| offsetBits apDrw) =
        ⟨0x00#8, apDrw⟩ := by decide

/-- With the bank selected, `ap_write` is one transaction. -/
theorem apWrite_hit {apreg : Byte} {s : AccessState σ} (hhit : bankSelect apreg = s.selCache)
    (v : Word32) :
    let run := apWrite target.toSwdTarget apreg v s
    let settling := settled target.toSwdTarget (dapTransferAPnDP ||| offsetBits apreg) v s.target
    (AckOk run.1 ↔ settling.1.ack = dapTransferOk) ∧ run.2.target = settling.2 ∧
      run.2.selCache = s.selCache := by
  have hrun : apWrite target.toSwdTarget apreg v s =
      let ((ack, _), s) := swdXferRetry target.toSwdTarget
        (dapTransferAPnDP ||| offsetBits apreg) (some v) s
      (ack, s) := by
    rw [apWrite, swdSelectAp_hit target.toSwdTarget hhit]
    exact if_neg (by decide)
  rw [hrun]
  exact swdXferRetry_leaves target.toDebugPort (dapTransferAPnDP ||| offsetBits apreg) (some v) s

/-- Bank 0 of access port 0 is selected, in the target and in the cache. -/
def BankZero (s : AccessState σ) : Prop :=
  target.select s.target = 0#32 ∧ s.selCache = 0#32

/-- An acknowledged write of CSW makes word accesses; no write of CSW accesses memory. -/
theorem apWrite_apCsw {s : AccessState σ} (hbank : BankZero target s) :
    let run := apWrite target.toSwdTarget apCsw cswValue32 s
    BankZero target run.2 ∧ target.bus run.2.target = target.bus s.target ∧
      (AckOk run.1 → target.size run.2.target = 0x2#32) := by
  intro run
  obtain ⟨hack, htarget, hcache⟩ :=
    apWrite_hit target (show bankSelect apCsw = s.selCache from hbank.2.symm) cswValue32
  obtain ⟨last, hselect, hkept, hsettled⟩ := settled_memKept target
    (dapTransferAPnDP ||| offsetBits apCsw) cswValue32 s.target
  rw [hsettled] at hack htarget
  have haccess : ∀ register, target.Accesses (dapTransferAPnDP ||| offsetBits apCsw) cswValue32
      last register → register = ⟨0x00#8, apCsw⟩ := by
    rintro register ⟨-, -, rfl⟩
    rw [hselect, hbank.1]
    exact addressed_bankZero.1
  refine ⟨⟨?_, hcache.trans hbank.2⟩, ?_, fun hok => ?_⟩
  · rw [htarget, target.select_answer, if_neg (fun h => absurd h.2 (by decide)), hselect, hbank.1]
  · rw [htarget, target.bus_kept _ _ _ fun register h => ?_, hkept.bus]
    rw [haccess register h]
    decide
  · rw [htarget]
    refine target.size_written _ _ _ ⟨hack.mp hok, by decide, ?_⟩ (by decide) (by decide)
    rw [hselect, hbank.1]
    exact addressed_bankZero.1

/-- An acknowledged write of TAR puts the address there, and keeps the width. -/
theorem apWrite_apTar {s : AccessState σ} (hbank : BankZero target s) (addr : Word32) :
    let run := apWrite target.toSwdTarget apTar addr s
    BankZero target run.2 ∧ target.bus run.2.target = target.bus s.target ∧
      target.size run.2.target = target.size s.target ∧
      (AckOk run.1 → target.tar run.2.target = addr) := by
  intro run
  obtain ⟨hack, htarget, hcache⟩ :=
    apWrite_hit target (show bankSelect apTar = s.selCache from hbank.2.symm) addr
  obtain ⟨last, hselect, hkept, hsettled⟩ := settled_memKept target
    (dapTransferAPnDP ||| offsetBits apTar) addr s.target
  rw [hsettled] at hack htarget
  have haccess : ∀ register, target.Accesses (dapTransferAPnDP ||| offsetBits apTar) addr
      last register → register = ⟨0x00#8, apTar⟩ := by
    rintro register ⟨-, -, rfl⟩
    rw [hselect, hbank.1]
    exact addressed_bankZero.2.1
  refine ⟨⟨?_, hcache.trans hbank.2⟩, ?_, ?_, fun hok => ?_⟩
  · rw [htarget, target.select_answer, if_neg (fun h => absurd h.2 (by decide)), hselect, hbank.1]
  · rw [htarget, target.bus_kept _ _ _ fun register h => ?_, hkept.bus]
    rw [haccess register h]
    decide
  · rw [htarget, target.size_kept _ _ _ fun h => absurd (haccess _ h) (by decide), hkept.size]
  · rw [htarget]
    refine target.tar_written _ _ _ ⟨hack.mp hok, by decide, ?_⟩ (by decide)
    rw [hselect, hbank.1]
    exact addressed_bankZero.2.1

/-- A posted read of DRW: one access of memory if it is acknowledged, none if not. -/
theorem settled_apDrw {t : σ} (hselect : target.select t = 0#32) (hsize : target.size t = 0x2#32)
    (word : Word32) :
    let request := dapTransferAPnDP ||| dapTransferRnW ||| offsetBits apDrw
    let settling := settled target.toSwdTarget request word t
    if settling.1.ack = dapTransferOk then
      ∃ value, target.bus settling.2 = target.bus t ++ [.read (target.tar t) value] ∧
        target.reads settling.2 = target.reads t ++ [(⟨0x00#8, apDrw⟩, value)]
    else target.bus settling.2 = target.bus t := by
  intro request settling
  obtain ⟨last, hlastSelect, hkept, hsettled⟩ := settled_memKept target request word t
  have haddressed : addressed (target.select last) request = ⟨0x00#8, apDrw⟩ := by
    rw [hlastSelect, hselect]
    exact addressed_bankZero.2.2
  simp only [settling, hsettled]
  split_ifs with hok
  · refine ⟨target.register ⟨0x00#8, apDrw⟩ last, ?_, ?_⟩
    · rw [target.bus_read _ _ _ ⟨hok, by decide, haddressed⟩ (by decide)
        (hkept.size.trans hsize), hkept.bus, hkept.tar]
    · rw [target.reads_answer, if_pos ⟨hok, (readsAp_apRead apDrw).1⟩, haddressed, hkept.reads]
  · rw [target.bus_kept _ _ _ fun _ h => absurd h.1 hok, hkept.bus]

/-- What a posted read made, if this was printed for it. With acknowledge 1 it is one access,
and the word is its word. With the parity error, which is printed as OK as well, it is one
access of whatever word; and any other acknowledge may be that of the read or of the fetch. -/
def Fetched {α : Type*} (ack : Byte) (word : Word32) (access : Word32 → α) (made : List α) : Prop :=
  if ack = 0x01#8 then made = [access word]
  else if AckOk ack then ∃ value, made = [access value]
  else made = [] ∨ ∃ value, made = [access value]

theorem ackOk_of_one {ack : Byte} (hone : ack = 0x01#8) : AckOk ack := by
  rw [hone]
  decide

theorem Fetched.of_one {α : Type*} {ack : Byte} {word value : Word32} {access : Word32 → α}
    (hword : ack = 0x01#8 → word = value) : Fetched ack word access [access value] := by
  rw [Fetched]
  split_ifs with hone hok
  · rw [hword hone]
  · exact ⟨value, rfl⟩
  · exact Or.inr ⟨value, rfl⟩

theorem Fetched.of_none {α : Type*} {ack : Byte} {word : Word32} {access : Word32 → α}
    (hrefused : ¬ AckOk ack) : Fetched ack word access [] := by
  rw [Fetched, if_neg (mt ackOk_of_one hrefused), if_neg hrefused]
  exact Or.inl rfl

/-- A report that fits the accesses of memory that were made for it: none before DRW, and
those of the read of DRW. -/
def MemReport.Fits (addr : Word32) (accesses : List BusAccess) : MemReport → Prop
  | .failed | .csw _ | .tar _ => accesses = []
  | .drw ack val _ => Fetched ack val (BusAccess.read addr) accesses

/-- A transfer that returns acknowledge 1 came without a parity error. -/
theorem not_badParity_of_one {request : Word32} {data : Option Word32} {answer : SwdAnswer}
    (hok : answer.ack = dapTransferOk) (hread : IsRead request)
    (hone : (swdResult request data answer).1 = 0x01#8) : ¬ answer.BadParity := by
  intro hbad
  rw [swdResult, if_pos ⟨hok, hread⟩, hok] at hone
  simp only [if_pos hbad] at hone
  exact absurd hone (by decide)

/-- `ap_read` once the bank is selected: RDBUFF leaves the access port as the posted read
left it, and gives what was read last unless it is garbled. -/
theorem apFetch_memKept (apreg : Byte) (word : Word32) (s : AccessState σ) :
    let posting := settled target.toSwdTarget
      (dapTransferAPnDP ||| dapTransferRnW ||| offsetBits apreg) 0#32 s.target
    let run := apFetch target.toSwdTarget apreg (some word) s
    MemKept target posting.2 run.2.target ∧
      (AckOk run.1.1 → posting.1.ack = dapTransferOk) ∧
      (run.1.1 = 0x01#8 → ∀ earlier last,
        target.reads posting.2 = earlier ++ [last] → run.1.2 = some last.2) := by
  intro posting run
  obtain ⟨hack, htarget, -⟩ := swdXferRetry_leaves target.toDebugPort
    (dapTransferAPnDP ||| dapTransferRnW ||| offsetBits apreg) (some 0#32) s
  set first := swdXferRetry target.toSwdTarget
    (dapTransferAPnDP ||| dapTransferRnW ||| offsetBits apreg) (some 0#32) s
  rw [Option.getD_some] at hack htarget
  have hrun : run = if ¬ AckOk first.1.1 then ((first.1.1, some word), first.2)
      else swdXferRetry target.toSwdTarget (dapTransferRnW ||| offsetBits dpRdbuff) (some word)
        first.2 := rfl
  rw [hrun]
  by_cases hok : AckOk first.1.1
  · rw [if_neg (not_not_intro hok)]
    have hkept := memKept_swdXferRetry target (not_accessesAp dpRdbuff).1 (some word) first.2
    rw [htarget] at hkept
    refine ⟨hkept, fun _ => hack.mp hok, fun hone earlier last hreads => ?_⟩
    obtain ⟨answers, hfetch⟩ := swdXferRetry_eq target.toSwdTarget
      (dapTransferRnW ||| offsetBits dpRdbuff) (some word) first.2
    rw [Option.getD_some] at hfetch
    rw [hfetch] at hone ⊢
    have hanswered := (ackOk_swdResult_settled target.toSwdTarget _ _ _ _).mp (ackOk_of_one hone)
    have hparity := not_badParity_of_one hanswered (isRead_or _) hone
    obtain ⟨hap, hnotSelect⟩ := readsAp_apRead apreg
    obtain ⟨-, hposted, -⟩ := target.settled_readsAp hap hnotSelect (hack.mp hok)
    obtain ⟨hrdbuff, hnotAp⟩ := readsRdbuff_rdbuff
    rw [← htarget] at hreads hposted
    have hdata := (target.settled_readsRdbuff hrdbuff hnotAp hreads hposted hanswered).1 hparity
    rw [swdResult, if_pos ⟨hanswered, isRead_or _⟩, hdata]
    rfl
  · rw [if_pos hok]
    exact ⟨htarget ▸ .refl _, fun hack => absurd hack hok,
      fun hone => absurd (ackOk_of_one hone) hok⟩

/-- DRW with CSW and TAR set. -/
theorem apRead_apDrw {s : AccessState σ} (hbank : BankZero target s)
    (hsize : target.size s.target = 0x2#32) (devId : Option Word32) :
    let run := apRead target.toSwdTarget apDrw (some 0#32) s
    ∃ accesses, target.bus run.2.target = target.bus s.target ++ accesses ∧
      (MemReport.drw run.1.1 (run.1.2.getD 0#32) devId).Fits (target.tar s.target) accesses := by
  intro run
  have hrun : run = apFetch target.toSwdTarget apDrw (some 0#32) s := by
    have hhit : bankSelect apDrw = s.selCache := hbank.2.symm
    simp only [run, apRead, swdSelectAp_hit target.toSwdTarget hhit]
    exact if_neg (by decide)
  have hposted := settled_apDrw target hbank.1 hsize 0#32
  obtain ⟨hkept, hack, hvalue⟩ := apFetch_memKept target apDrw 0#32 s
  rw [← hrun] at hkept hack hvalue
  dsimp only at hposted
  split_ifs at hposted with hok
  · obtain ⟨value, hbus, hreads⟩ := hposted
    refine ⟨[.read (target.tar s.target) value], hkept.bus.trans hbus, Fetched.of_one fun hone => ?_⟩
    rw [hvalue hone _ _ hreads, Option.getD_some]
  · refine ⟨[], ?_, Fetched.of_none fun hfetched => hok (hack hfetched)⟩
    rw [List.append_nil, hkept.bus, hposted]

/-- With power and with bank 0 selected, the memory read fits what it prints. -/
theorem memRead_fits {s : AccessState σ} (hbank : BankZero target s) (addr : Word32) :
    let run := memRead target.toDebugPort addr s
    ∃ accesses, target.bus run.2.target = target.bus s.target ++ accesses ∧
      run.1.Fits addr accesses := by
  obtain ⟨hcswBank, hcswBus, hsize⟩ := apWrite_apCsw target hbank
  set csw := apWrite target.toSwdTarget apCsw cswValue32 s
  obtain ⟨htarBank, htarBus, htarSize, htar⟩ := apWrite_apTar target hcswBank addr
  set tar := apWrite target.toSwdTarget apTar addr csw.2
  have hrun : memRead target.toDebugPort addr s =
      if ¬ AckOk csw.1 then (.csw csw.1, csw.2)
      else if ¬ AckOk tar.1 then (.tar tar.1, tar.2)
      else
        let ((ack, out), s) := apRead target.toSwdTarget apDrw (some 0#32) tar.2
        let val := out.getD 0#32
        (.drw ack val
          (if AckOk ack ∧ addr = dbgmcuIdcode then some (val &&& 0xFFF#32) else none), s) := rfl
  rw [hrun]
  by_cases hcsw : AckOk csw.1
  · by_cases htarOk : AckOk tar.1
    · rw [if_neg (not_not_intro hcsw), if_neg (not_not_intro htarOk)]
      have hdrw := apRead_apDrw target htarBank (htarSize.trans (hsize hcsw))
      rw [htar htarOk, htarBus, hcswBus] at hdrw
      exact hdrw _
    · rw [if_neg (not_not_intro hcsw), if_pos htarOk]
      exact ⟨[], by rw [List.append_nil, htarBus, hcswBus], rfl⟩
  · rw [if_pos hcsw]
    exact ⟨[], by rw [List.append_nil, hcswBus], rfl⟩

end Words

/-! ## The commands before a memory access port -/

/-- A report that fits the reads of access ports that were made for it. -/
def PowerReport.Fits (reads : List (ApRegister × Word32)) : PowerReport → Prop
  | .failed => reads = []
  | .apIdr ack idr ready =>
      Fetched ack idr (fun value => (⟨0x00#8, Swd.apIdr⟩, value)) reads ∧
      (ready = true ↔ AckOk ack ∧ idr ≠ 0#32 ∧ idr ≠ 0xFFFFFFFF#32)

/-- A posted read of IDR accesses no memory. -/
theorem settled_apIdr {σ : Type*} (target : MemApTarget σ) {t : σ}
    (hselect : target.select t = bankSelect apIdr) (word : Word32) :
    let request := dapTransferAPnDP ||| dapTransferRnW ||| offsetBits apIdr
    let settling := settled target.toSwdTarget request word t
    target.bus settling.2 = target.bus t ∧
      if settling.1.ack = dapTransferOk then
        ∃ value, target.reads settling.2 = target.reads t ++ [(⟨0x00#8, apIdr⟩, value)]
      else target.reads settling.2 = target.reads t := by
  intro request settling
  obtain ⟨last, hlastSelect, hkept, hsettled⟩ := settled_memKept target request word t
  have haddressed : addressed (target.select last) request = ⟨0x00#8, apIdr⟩ := by
    rw [hlastSelect, hselect]
    exact addressed_bankSelect apIdr
  simp only [settling, hsettled]
  constructor
  · rw [target.bus_kept _ _ _ fun register h => ?_, hkept.bus]
    rw [← h.2.2, haddressed]
    decide
  · rw [target.reads_answer, hkept.reads, haddressed]
    split_ifs with hok hboth hboth
    · exact ⟨_, rfl⟩
    · exact absurd ⟨hok, (readsAp_apRead apIdr).1⟩ hboth
    · exact absurd hboth.1 hok
    · rfl

/-- `swd_pwr`, whatever the target acknowledges and in whatever state it was: memory is not
accessed, no register of an access port is read but IDR of access port 0, and that at most
once; a word printed with acknowledge 1 is what this read gave. The port is called ready for a
word printed as OK, which a garbled one may be, that is neither all zeros nor all ones. -/
theorem swdPwr_fits {σ : Type*} (target : MemApTarget σ) (s : AccessState σ) :
    let run := swdPwr target.toDebugPort s
    let before := target.lineReset s.target
    target.bus run.2.target = target.bus before ∧
      ∃ reads, target.reads run.2.target = target.reads before ++ reads ∧ run.1.Fits reads := by
  obtain ⟨hkept, hbank⟩ := swdPowerupPrologue_memKept target none s
  set prologue := swdPowerupPrologue target.toDebugPort none s
  set read := apRead target.toSwdTarget apIdr (some 0#32) prologue.2 with hread
  have hrun : swdPwr target.toDebugPort s =
      if ¬ AckOk prologue.1.1 then (.failed, prologue.2)
      else
        (.apIdr read.1.1 (read.1.2.getD 0#32) (decide (AckOk read.1.1 ∧
          read.1.2.getD 0#32 ≠ 0#32 ∧ read.1.2.getD 0#32 ≠ 0xFFFFFFFF#32)), read.2) := rfl
  rw [hrun]
  dsimp only
  rw [← hkept.bus, ← hkept.reads]
  by_cases hpower : AckOk prologue.1.1
  · rw [if_neg (not_not_intro hpower)]
    -- SELECT holds bank 0, so it is written
    have hmiss : bankSelect apIdr ≠ prologue.2.selCache := by
      rw [(hbank hpower).2]
      decide
    obtain ⟨hselectOk, hselectTarget⟩ := swdSelectAp_miss target.toSwdTarget hmiss
    set select := swdSelectAp target.toSwdTarget apIdr prologue.2
    have hselectKept : MemKept target prologue.2.target select.2.target := by
      rw [hselectTarget]
      exact memKept_settled target (not_accessesAp dpSelect).2 _ _
    by_cases hok : AckOk select.1
    · have hfetch : read = apFetch target.toSwdTarget apIdr (some 0#32) select.2 :=
        if_neg (not_not_intro hok)
      have hselected : target.select select.2.target = bankSelect apIdr := by
        rw [hselectTarget, select_settled, if_pos ⟨hselectOk.mp hok, writesSelect_select.1⟩]
      obtain ⟨hbus, hreads⟩ := settled_apIdr target hselected 0#32
      obtain ⟨hfetchKept, hack, hvalue⟩ := apFetch_memKept target apIdr 0#32 select.2
      rw [← hfetch] at hfetchKept hack hvalue
      refine ⟨hfetchKept.bus.trans (hbus.trans hselectKept.bus), ?_⟩
      split_ifs at hreads with hposted
      · obtain ⟨value, hreads⟩ := hreads
        have hfetched : Fetched read.1.1 (read.1.2.getD 0#32)
            (fun value => ((⟨0x00#8, apIdr⟩ : ApRegister), value)) [(⟨0x00#8, apIdr⟩, value)] := by
          apply Fetched.of_one
          intro hone
          rw [hvalue hone _ _ hreads, Option.getD_some]
        refine ⟨[(⟨0x00#8, apIdr⟩, value)], ?_, hfetched, decide_eq_true_iff⟩
        rw [hfetchKept.reads, hreads, hselectKept.reads]
      · refine ⟨[], ?_, Fetched.of_none fun hfetched => hposted (hack hfetched),
          decide_eq_true_iff⟩
        rw [List.append_nil, hfetchKept.reads, hreads, hselectKept.reads]
    · have hrefused : read = ((select.1, some 0#32), select.2) := if_pos hok
      rw [hrefused]
      refine ⟨hselectKept.bus, [], ?_, Fetched.of_none hok, decide_eq_true_iff⟩
      rw [List.append_nil]
      exact hselectKept.reads
  · rw [if_pos hpower]
    exact ⟨rfl, [], (List.append_nil _).symm, rfl⟩

/-- `swd_mem`, whatever the target acknowledges and in whatever state it was: memory is
accessed at most once, only after power-up and after CSW and TAR were taken, by a read at
the address that was asked for; and a word printed with acknowledge 1 is the word that this
read gave. -/
theorem swdMem_fits {σ : Type*} (target : MemApTarget σ) (arg : Option Word32)
    (s : AccessState σ) :
    let run := swdMem target.toDebugPort arg s
    ∃ accesses, target.bus run.2.target = target.bus (target.lineReset s.target) ++ accesses ∧
      run.1.Fits (arg.getD dbgmcuIdcode) accesses := by
  obtain ⟨hkept, hbank⟩ := swdPowerupPrologue_memKept target none s
  set prologue := swdPowerupPrologue target.toDebugPort none s
  have hrun : swdMem target.toDebugPort arg s =
      if ¬ AckOk prologue.1.1 then (.failed, prologue.2)
      else memRead target.toDebugPort (arg.getD dbgmcuIdcode) prologue.2 := rfl
  rw [hrun]
  by_cases hpower : AckOk prologue.1.1
  · rw [if_neg (not_not_intro hpower)]
    have hfits := memRead_fits target (hbank hpower) (arg.getD dbgmcuIdcode)
    rw [hkept.bus] at hfits
    exact hfits
  · rw [if_pos hpower]
    exact ⟨[], by rw [List.append_nil, hkept.bus], rfl⟩

/-- A port that answers two requests of three with WAIT, has power at once, and whose memory
holds at each address the address and the number of accesses so far. -/
structure SlowMemAp extends SlowAp where
  size : Word32
  tar : Word32
  bus : List BusAccess

namespace SlowMemAp

def register (register : ApRegister) (t : SlowMemAp) : Word32 :=
  if register = ⟨0x00#8, apDrw⟩ then t.tar + BitVec.ofNat 32 t.bus.length
  else register.offset.setWidth 32

/-- The word of an answer: what was posted, and ones in CTRL/STAT. -/
def word (request : Word32) (t : SlowMemAp) : Word32 :=
  if ReadsRdbuff request then t.posted else 0xFFFFFFFF#32

/-- The register of an access port that a request accesses. -/
def accessed (request : Word32) (t : SlowMemAp) : Option ApRegister :=
  if t.ack = dapTransferOk ∧ AccessesAp request then some (addressed t.select request) else none

/-- An access of memory, if a request makes one. -/
def busAccess (request word : Word32) (t : SlowMemAp) : List BusAccess :=
  ((accessed request t).filter fun register => decide register.IsData).toList.map fun register =>
    if IsRead request then .read t.tar (SlowMemAp.register register t) else .write t.tar word

def next (request word : Word32) (t : SlowMemAp) : SlowMemAp where
  ticks := t.ticks + 1
  select := if t.ack = dapTransferOk ∧ WritesSelect request then word else t.select
  reads :=
    if t.ack = dapTransferOk ∧ ReadsAp request then
      t.reads ++ [(addressed t.select request, register (addressed t.select request) t)]
    else t.reads
  pending := t.pendingAfter request
  size :=
    if accessed request t = some ⟨0x00#8, apCsw⟩ ∧ ¬ IsRead request then word &&& 0x7#32
    else t.size
  tar :=
    if accessed request t = some ⟨0x00#8, apTar⟩ ∧ ¬ IsRead request then word
    else t.tar + BitVec.ofNat 32 (4 * (busAccess request word t).length)
  bus := t.bus ++ busAccess request word t

theorem accessed_eq_some {request : Word32} {t : SlowMemAp} {register : ApRegister} :
    accessed request t = some register ↔
      t.ack = dapTransferOk ∧ AccessesAp request ∧ addressed t.select request = register := by
  rw [accessed, Option.ite_none_right_eq_some, Option.some_inj, and_assoc]

theorem busAccess_eq_nil {request word : Word32} {t : SlowMemAp}
    (hno : ∀ register, t.ack = dapTransferOk ∧ AccessesAp request ∧
      addressed t.select request = register → ¬ register.IsData) :
    busAccess request word t = [] := by
  rw [busAccess]
  cases haccessed : accessed request t with
  | none => rfl
  | some register =>
      have hdata := hno register (accessed_eq_some.mp haccessed)
      rw [Option.filter_some, if_neg (by simpa using hdata)]
      rfl

end SlowMemAp

def slowMemAp : MemApTarget SlowMemAp where
  answer request word t :=
    (⟨t.ack, t.word request, parity32 (t.word request)⟩, t.next request word)
  ack_lt _ _ t := t.ack_lt
  select t := t.select
  select_answer _ _ _ := rfl
  lineReset := id
  register := SlowMemAp.register
  reads t := t.reads
  posted t := t.pending = true
  reads_answer _ _ _ := rfl
  posted_answer _ _ _ hok hap := SlowAp.pendingAfter_of_ok hok hap
  posted_wait request _ _ hwait hpending := (SlowAp.pendingAfter_of_wait hwait request).trans hpending
  rdbuff_answer request _ t _ hrdbuff hpending _ last hlast := by
    change t.word request = last.2
    rw [SlowMemAp.word, if_pos hrdbuff, SlowAp.posted_of_pending hpending hlast]
  size := SlowMemAp.size
  tar := SlowMemAp.tar
  bus := SlowMemAp.bus
  size_kept _ _ _ hno := if_neg fun h => hno (SlowMemAp.accessed_eq_some.mp h.1)
  size_written _ _ _ haccess hwrite hword :=
    (if_pos ⟨SlowMemAp.accessed_eq_some.mpr haccess, hwrite⟩).trans hword
  tar_kept request word t hno := by
    have hbus : t.busAccess request word = [] :=
      SlowMemAp.busAccess_eq_nil fun register h => (hno register h).2
    refine (if_neg fun h => (hno _ (SlowMemAp.accessed_eq_some.mp h.1)).1 rfl).trans ?_
    rw [hbus]
    exact BitVec.add_zero t.tar
  tar_written _ _ _ haccess hwrite :=
    if_pos ⟨SlowMemAp.accessed_eq_some.mpr haccess, hwrite⟩
  bus_kept request word t hno := by
    change t.bus ++ t.busAccess request word = t.bus
    rw [SlowMemAp.busAccess_eq_nil hno, List.append_nil]
  bus_read request word t haccess hread _ := by
    change t.bus ++ t.busAccess request word = _
    rw [SlowMemAp.busAccess, SlowMemAp.accessed_eq_some.mpr haccess, Option.filter_some,
      if_pos (by decide), Option.toList_some, List.map_singleton, if_pos hread]

/-- The port before it was used, in another bank. -/
def slowMemApStart : AccessState SlowMemAp :=
  ⟨⟨⟨0, 0xF0#32, [], false⟩, 0#32, 0#32, []⟩, 0#32, []⟩

/-- The third answer to each request is an acknowledge. -/
theorem swdPwr_fits_slowMemAp :
    let run := swdPwr slowMemAp.toDebugPort slowMemApStart
    let before := slowMemAp.lineReset slowMemApStart.target
    run.1 = .apIdr 0x01#8 0xFC#32 true ∧
    slowMemAp.bus run.2.target = slowMemAp.bus before ∧
      ∃ reads, slowMemAp.reads run.2.target = slowMemAp.reads before ++ reads ∧
        run.1.Fits reads :=
  ⟨by decide +kernel, swdPwr_fits slowMemAp slowMemApStart⟩

theorem swdMem_fits_slowMemAp :
    let run := swdMem slowMemAp.toDebugPort (some 0x20000000#32) slowMemApStart
    run.1 = .drw 0x01#8 0x20000000#32 none ∧
    ∃ accesses, slowMemAp.bus run.2.target =
        slowMemAp.bus (slowMemAp.lineReset slowMemApStart.target) ++ accesses ∧
      run.1.Fits ((some 0x20000000#32).getD dbgmcuIdcode) accesses :=
  ⟨by decide +kernel, swdMem_fits slowMemAp _ _⟩

end ExLink.Swd
