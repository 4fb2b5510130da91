/-
# The SELECT cache

`s_sel_cache` against the SELECT register of the target, over every sequence of accessor
calls and of the power-up prologue of `dap_swd_diag.c`. The cache is also set without a
look at the acknowledge, and SELECT is also written without a look at the cache.
-/

import ExLink.Automata.Mealy
import ExLink.Swd.Adiv5

namespace ExLink.Swd

open ExLink.Automata

/-! ## The power-up prologue -/

def dpIdcode : Byte := 0x00#8
def dpAbort : Byte := 0x00#8
def dpCtrlStat : Byte := 0x04#8
def abortClrAll : Word32 := 0x1E#32
def ctrlPwrupReq : Word32 := 0x50000000#32
def ctrlPwrupAck : Word32 := 0xA0000000#32

/-- `SWD_PWRUP_RETRIES`. -/
def swdPwrupRetries : ℕ := 100

section Prologue

variable {σ : Type*}

/-- The polls of CTRL/STAT: the acknowledge that ends them early, if one does, and the word
read last. -/
def ctrlStatPolls (target : SwdTarget σ) : ℕ → Word32 → AccessState σ →
    (Option Byte × Word32) × AccessState σ
  | 0, v, s => ((none, v), s)
  | tries + 1, v, s =>
      let ((ack, out), s) := dpRead target dpCtrlStat (some v) s
      let v := out.getD v
      if ¬ AckOk ack then ((some ack, v), s)
      else if v &&& ctrlPwrupAck = ctrlPwrupAck then ((none, v), s)
      else ctrlStatPolls target tries v s

/-- Steps 5 and 6 of `swd_powerup_prologue`: ask for power and wait for it. -/
def powerUpRequest (target : SwdTarget σ) (v : Word32) (s : AccessState σ) :
    Byte × AccessState σ :=
  let (ack, s) := dpWrite target dpCtrlStat ctrlPwrupReq s
  if ¬ AckOk ack then (ack, s)
  else
    let ((stopped, v), s) := ctrlStatPolls target swdPwrupRetries v s
    match stopped with
    | some ack => (ack, s)
    | none =>
        ((if v &&& ctrlPwrupAck ≠ ctrlPwrupAck then dapTransferWait
          else dapTransferOk).setWidth 8, s)

/-- `swd_powerup_prologue`, with what is left behind `dpidr_out`. -/
def swdPowerupPrologue (port : DebugPort σ) (dpidrOut : Option Word32) (s : AccessState σ) :
    (Byte × Option Word32) × AccessState σ :=
  let s := { s with target := port.lineReset s.target, selCache := 0xFFFFFFFF#32 }
  let ((ack, out), s) := dpRead port.toSwdTarget dpIdcode (some 0#32) s
  let v := out.getD 0#32
  let dpidrOut := dpidrOut.map fun _ => v
  if ¬ AckOk ack then ((ack, dpidrOut), s)
  else
    let (ack, s) := dpWrite port.toSwdTarget dpAbort abortClrAll s
    if ¬ AckOk ack then ((ack, dpidrOut), s)
    else
      let (ack, s) := dpWrite port.toSwdTarget dpSelect 0#32 s
      -- the cache is set before the acknowledge is looked at
      let s := { s with selCache := 0#32 }
      if ¬ AckOk ack then ((ack, dpidrOut), s)
      else
        let (ack, s) := powerUpRequest port.toSwdTarget v s
        ((ack, dpidrOut), s)

end Prologue

/-! ## Sequences of calls -/

/-- A call of the register access layer. -/
inductive AdiCall where
  | accessor (call : AccessorCall)
  | swdPowerupPrologue (dpidrOut : Option Word32)
  deriving DecidableEq

section Calls

variable {σ : Type*} (port : DebugPort σ)

/-- The acknowledge that a call returns, and what it leaves. -/
def adiStep (s : AccessState σ) : AdiCall → Byte × AccessState σ
  | .accessor call => call.run port.toSwdTarget s
  | .swdPowerupPrologue dpidrOut =>
      let ((ack, _), s) := swdPowerupPrologue port dpidrOut s
      (ack, s)

/-- Power-up of the probe: static memory is zero. -/
def accessPowerUp (t : σ) : AccessState σ := ⟨t, 0#32, []⟩

/-- SELECT names access port 0, the bank of a register and bank 0 of the debug port. -/
def SelectsBank (select : Word32) (apreg : Byte) : Prop :=
  selectApSel select = 0x00#8 ∧ selectApBankSel select = apreg &&& 0xF0#8 ∧
    selectDpBankSel select = 0x00#8

instance (select : Word32) (apreg : Byte) : Decidable (SelectsBank select apreg) :=
  inferInstanceAs (Decidable (_ ∧ _ ∧ _))

/-- Wherever `swd_select_ap` would now skip the write of SELECT, SELECT is right. -/
def SkipsRight (s : AccessState σ) : Prop :=
  ∀ apreg : Byte, bankSelect apreg = s.selCache → SelectsBank (port.select s.target) apreg

/-- The prologue gets to its write of SELECT, and that is not acknowledged. -/
def SelectRefused (t : σ) : Prop :=
  let dpidr := settled port.toSwdTarget (dapTransferRnW ||| offsetBits dpIdcode) 0#32 t
  let abort := settled port.toSwdTarget (offsetBits dpAbort) abortClrAll dpidr.2
  let select := settled port.toSwdTarget (offsetBits dpSelect) 0#32 abort.2
  dpidr.1.ack = dapTransferOk ∧ abort.1.ack = dapTransferOk ∧ select.1.ack ≠ dapTransferOk

/-- What a call must not do: `dp_write` must not get a word into SELECT that selects
another bank than the one in the cache, and where the write of the prologue is refused, the
line reset must have left SELECT at bank 0. -/
def KeepsCache (s : AccessState σ) : AdiCall → Prop
  | .accessor (.dpWrite r v) =>
      r &&& 0x0C#8 = dpSelect →
        (settled port.toSwdTarget (offsetBits r) v s.target).1.ack = dapTransferOk →
          ∀ apreg : Byte, bankSelect apreg = s.selCache → SelectsBank v apreg
  | .accessor _ => True
  | .swdPowerupPrologue _ =>
      SelectRefused port (port.lineReset s.target) →
        SelectsBank (port.select (port.lineReset s.target)) 0x00#8

end Calls

/-! ## What the calls do to SELECT and to the cache -/

section Effects

variable {σ : Type*} (port : DebugPort σ)

/-- A transaction leaves SELECT alone, unless it is an acknowledged write of it. -/
theorem select_settled (request word : Word32) (t : σ) :
    port.select (settled port.toSwdTarget request word t).2 =
      if (settled port.toSwdTarget request word t).1.ack = dapTransferOk ∧ WritesSelect request
      then word else port.select t := by
  have hwait : ∀ later, port.select later = port.select t →
      (port.answer request word later).1.ack = dapTransferWait →
        port.select (port.answer request word later).2 = port.select t := by
    intro later hsame hwaits
    have hrefused : (port.answer request word later).1.ack ≠ dapTransferOk := by
      rw [hwaits]
      exact dapTransferWait_ne_ok
    rw [port.select_answer, if_neg fun h => hrefused h.1]
    exact hsame
  obtain ⟨last, hlast, hsettle⟩ := @settle_exists σ port.toSwdTarget request word
    (fun later => port.select later = port.select t) hwait (swdWaitRetries - 1) t rfl
  rw [settled, hsettle, port.select_answer, hlast]

/-- Two states with the same SELECT and the same cache. -/
def SameSelect (s next : AccessState σ) : Prop :=
  port.select next.target = port.select s.target ∧ next.selCache = s.selCache

variable {port} {s middle next : AccessState σ}

theorem SameSelect.refl (s : AccessState σ) : SameSelect port s s := ⟨rfl, rfl⟩

theorem SameSelect.trans (first : SameSelect port s middle) (second : SameSelect port middle next) :
    SameSelect port s next := ⟨second.1.trans first.1, second.2.trans first.2⟩

theorem SameSelect.skipsRight_iff (h : SameSelect port s next) :
    SkipsRight port next ↔ SkipsRight port s := by
  rw [SkipsRight, SkipsRight, h.1, h.2]

variable (port) in
/-- A transaction that is no write of SELECT. -/
theorem sameSelect_swdXferRetry {request : Word32} (hselect : ¬ WritesSelect request)
    (data : Option Word32) (s : AccessState σ) :
    SameSelect port s (swdXferRetry port.toSwdTarget request data s).2 := by
  obtain ⟨earlier, hrun⟩ := swdXferRetry_eq port.toSwdTarget request data s
  rw [hrun]
  refine ⟨?_, rfl⟩
  rw [select_settled, if_neg fun h => hselect h.2]

theorem writesSelect_iff (r : Byte) : WritesSelect (offsetBits r) ↔ r &&& 0x0C#8 = dpSelect := by
  revert r
  decide +kernel

theorem not_writesSelect (r : Byte) :
    ¬ WritesSelect (dapTransferRnW ||| offsetBits r) ∧
      ¬ WritesSelect (dapTransferAPnDP ||| offsetBits r) := by
  revert r
  decide +kernel

variable (port) in
theorem sameSelect_dpRead (r : Byte) (out : Option Word32) (s : AccessState σ) :
    SameSelect port s (dpRead port.toSwdTarget r out s).2 :=
  sameSelect_swdXferRetry port (not_writesSelect r).1 out s

variable (port) in
/-- What decides a transaction, and what it leaves. -/
theorem swdXferRetry_leaves (request : Word32) (data : Option Word32) (s : AccessState σ) :
    let run := swdXferRetry port.toSwdTarget request data s
    let settling := settled port.toSwdTarget request (data.getD 0#32) s.target
    (AckOk run.1.1 ↔ settling.1.ack = dapTransferOk) ∧ run.2.target = settling.2 ∧
      run.2.selCache = s.selCache := by
  intro run settling
  obtain ⟨earlier, hrun⟩ := swdXferRetry_eq port.toSwdTarget request data s
  have hack := ackOk_swdResult_settled port.toSwdTarget request data (data.getD 0#32) s.target
  rw [show run = _ from hrun]
  exact ⟨hack, rfl, rfl⟩

variable (port) in
theorem dpRead_leaves (r : Byte) (out : Option Word32) (s : AccessState σ) :
    let run := dpRead port.toSwdTarget r out s
    let settling :=
      settled port.toSwdTarget (dapTransferRnW ||| offsetBits r) (out.getD 0#32) s.target
    (AckOk run.1.1 ↔ settling.1.ack = dapTransferOk) ∧ run.2.target = settling.2 ∧
      run.2.selCache = s.selCache :=
  swdXferRetry_leaves port (dapTransferRnW ||| offsetBits r) out s

variable (port) in
/-- `dp_write` does not look at the cache: SELECT follows its word if it is acknowledged. -/
theorem dpWrite_leaves (r : Byte) (v : Word32) (s : AccessState σ) :
    let run := dpWrite port.toSwdTarget r v s
    let settling := settled port.toSwdTarget (offsetBits r) v s.target
    (AckOk run.1 ↔ settling.1.ack = dapTransferOk) ∧ run.2.target = settling.2 ∧
      run.2.selCache = s.selCache :=
  swdXferRetry_leaves port (offsetBits r) (some v) s

variable (port) in
theorem sameSelect_dpWrite {r : Byte} (hselect : r &&& 0x0C#8 ≠ dpSelect) (v : Word32)
    (s : AccessState σ) : SameSelect port s (dpWrite port.toSwdTarget r v s).2 :=
  sameSelect_swdXferRetry port (mt (writesSelect_iff r).mp hselect) (some v) s

variable (port) in
theorem sameSelect_apFetch (apreg : Byte) (out : Option Word32) (s : AccessState σ) :
    SameSelect port s (apFetch port.toSwdTarget apreg out s).2 := by
  have hposted := sameSelect_swdXferRetry port (readsAp_apRead apreg).2 (some 0#32) s
  rw [apFetch]
  dsimp only
  split_ifs
  · exact hposted.trans (sameSelect_swdXferRetry port (not_writesSelect dpRdbuff).1 out _)
  · exact hposted

/-- The bank of a register in SELECT. -/
theorem selectsBank_bankSelect (apreg : Byte) : SelectsBank (bankSelect apreg) apreg := by
  revert apreg
  decide +kernel

/-- Registers of one bank. -/
theorem selectsBank_congr {first second : Byte} (hbank : bankSelect first = bankSelect second)
    (select : Word32) : SelectsBank select first ↔ SelectsBank select second := by
  have hlow : ∀ apreg : Byte, (bankSelect apreg).setWidth 8 = apreg &&& 0xF0#8 := by decide +kernel
  rw [SelectsBank, SelectsBank, ← hlow first, ← hlow second, hbank]

/-- `swd_select_ap` keeps the cache right: it is set after an acknowledged write only. -/
theorem skipsRight_swdSelectAp (h : SkipsRight port s) (apreg : Byte) :
    SkipsRight port (swdSelectAp port.toSwdTarget apreg s).2 := by
  by_cases hhit : bankSelect apreg = s.selCache
  · rw [swdSelectAp_hit port.toSwdTarget hhit]
    exact h
  · obtain ⟨earlier, hrun⟩ := swdXferRetry_eq port.toSwdTarget (offsetBits dpSelect)
      (some (bankSelect apreg)) s
    have hack := ackOk_swdResult_settled port.toSwdTarget (offsetBits dpSelect)
      (some (bankSelect apreg)) (bankSelect apreg) s.target
    have hselect := select_settled port (offsetBits dpSelect) (bankSelect apreg) s.target
    have hmiss : swdSelectAp port.toSwdTarget apreg s =
        let ((ack, _), s) :=
          swdXferRetry port.toSwdTarget (offsetBits dpSelect) (some (bankSelect apreg)) s
        (ack, if AckOk ack then { s with selCache := bankSelect apreg } else s) := if_pos hhit
    rw [Option.getD_some] at hrun
    rw [hmiss, hrun]
    dsimp only
    by_cases hok : (settled port.toSwdTarget (offsetBits dpSelect) (bankSelect apreg)
        s.target).1.ack = dapTransferOk
    · rw [if_pos (hack.mpr hok)]
      rw [if_pos ⟨hok, writesSelect_select.1⟩] at hselect
      intro other hother
      rw [hselect, selectsBank_congr hother]
      exact selectsBank_bankSelect apreg
    · rw [if_neg (mt hack.mp hok)]
      rw [if_neg fun hboth => hok hboth.1] at hselect
      intro other hother
      rw [hselect]
      exact h other hother

/-- The calls on the access port. -/
theorem skipsRight_apRead (h : SkipsRight port s) (apreg : Byte) (out : Option Word32) :
    SkipsRight port (apRead port.toSwdTarget apreg out s).2 := by
  have hselected := skipsRight_swdSelectAp h apreg
  rw [apRead]
  dsimp only
  split_ifs
  · exact (sameSelect_apFetch port apreg out _).skipsRight_iff.mpr hselected
  · exact hselected

theorem skipsRight_apWrite (h : SkipsRight port s) (apreg : Byte) (v : Word32) :
    SkipsRight port (apWrite port.toSwdTarget apreg v s).2 := by
  have hselected := skipsRight_swdSelectAp h apreg
  rw [apWrite]
  dsimp only
  split_ifs
  · exact (sameSelect_swdXferRetry port (not_writesSelect apreg).2 _ _).skipsRight_iff.mpr hselected
  · exact hselected

/-- `dp_write` keeps the cache right unless its word is accepted and selects another bank. -/
theorem skipsRight_dpWrite (h : SkipsRight port s) (r : Byte) (v : Word32) :
    SkipsRight port (dpWrite port.toSwdTarget r v s).2 ↔
      KeepsCache port s (.accessor (.dpWrite r v)) := by
  by_cases hselect : r &&& 0x0C#8 = dpSelect
  · obtain ⟨-, htarget, hcache⟩ := dpWrite_leaves port r v s
    rw [SkipsRight, htarget, hcache, select_settled]
    by_cases hok : (settled port.toSwdTarget (offsetBits r) v s.target).1.ack = dapTransferOk
    · rw [if_pos ⟨hok, (writesSelect_iff r).mpr hselect⟩]
      exact ⟨fun hall _ _ => hall, fun hkeeps => hkeeps hselect hok⟩
    · rw [if_neg fun hboth => hok hboth.1]
      exact iff_of_true h fun _ hack => absurd hack hok
  · exact iff_of_true ((sameSelect_dpWrite port hselect v s).skipsRight_iff.mpr h)
      fun hwrites => absurd hwrites hselect

/-! ## The prologue -/

variable (port) in
theorem sameSelect_ctrlStatPolls (tries : ℕ) (v : Word32) (s : AccessState σ) :
    SameSelect port s (ctrlStatPolls port.toSwdTarget tries v s).2 := by
  induction tries generalizing v s with
  | zero => exact .refl s
  | succ tries ih =>
      have hpoll := sameSelect_dpRead port dpCtrlStat (some v) s
      rw [ctrlStatPolls]
      dsimp only
      split_ifs
      · exact hpoll
      · exact hpoll.trans (ih _ _)
      · exact hpoll

variable (port) in
theorem sameSelect_powerUpRequest (v : Word32) (s : AccessState σ) :
    SameSelect port s (powerUpRequest port.toSwdTarget v s).2 := by
  have hrequest := sameSelect_dpWrite port (r := dpCtrlStat) (by decide) ctrlPwrupReq s
  rw [powerUpRequest]
  dsimp only
  by_cases hok : AckOk (dpWrite port.toSwdTarget dpCtrlStat ctrlPwrupReq s).1
  · rw [if_neg (not_not_intro hok)]
    refine hrequest.trans ((sameSelect_ctrlStatPolls port swdPwrupRetries v _).trans ?_)
    split <;> exact .refl _
  · rw [if_pos hok]
    exact hrequest

theorem skipsRight_of_invalid (h : s.selCache = 0xFFFFFFFF#32) : SkipsRight port s :=
  fun apreg hhit => absurd (hhit.trans h) (bankSelect_ne_invalid apreg)

theorem skipsRight_of_zero (h : s.selCache = 0#32) :
    SkipsRight port s ↔ SelectsBank (port.select s.target) 0x00#8 := by
  have hzero : bankSelect 0x00#8 = 0#32 := rfl
  constructor
  · intro hall
    exact hall 0x00#8 (hzero.trans h.symm)
  · intro hselects apreg hhit
    exact (selectsBank_congr (hhit.trans (h.trans hzero.symm)) _).mpr hselects

/-- The prologue leaves the cache right unless its write of SELECT is refused and the line
reset left another bank. -/
theorem skipsRight_swdPowerupPrologue (dpidrOut : Option Word32) (s : AccessState σ) :
    SkipsRight port (swdPowerupPrologue port dpidrOut s).2 ↔
      KeepsCache port s (.swdPowerupPrologue dpidrOut) := by
  set reset : AccessState σ :=
    { s with target := port.lineReset s.target, selCache := 0xFFFFFFFF#32 }
  set dpidr := dpRead port.toSwdTarget dpIdcode (some 0#32) reset
  set abort := dpWrite port.toSwdTarget dpAbort abortClrAll dpidr.2
  set select := dpWrite port.toSwdTarget dpSelect 0#32 abort.2
  obtain ⟨hdpidrOk, hdpidrTarget, hdpidrCache⟩ := dpRead_leaves port dpIdcode (some 0#32) reset
  obtain ⟨habortOk, habortTarget, habortCache⟩ := dpWrite_leaves port dpAbort abortClrAll dpidr.2
  obtain ⟨hselectOk, hselectTarget, -⟩ := dpWrite_leaves port dpSelect 0#32 abort.2
  have hsame := (sameSelect_dpRead port dpIdcode (some 0#32) reset).trans
    (sameSelect_dpWrite port (r := dpAbort) (by decide) abortClrAll dpidr.2)
  have hrefused : SelectRefused port (port.lineReset s.target) ↔
      AckOk dpidr.1.1 ∧ AckOk abort.1 ∧ ¬ AckOk select.1 := by
    rw [hdpidrOk, habortOk, hselectOk, habortTarget, hdpidrTarget]
    rfl
  have hrun : swdPowerupPrologue port dpidrOut s =
      if ¬ AckOk dpidr.1.1 then ((dpidr.1.1, dpidrOut.map fun _ => dpidr.1.2.getD 0#32), dpidr.2)
      else if ¬ AckOk abort.1 then
        ((abort.1, dpidrOut.map fun _ => dpidr.1.2.getD 0#32), abort.2)
      else if ¬ AckOk select.1 then
        ((select.1, dpidrOut.map fun _ => dpidr.1.2.getD 0#32), { select.2 with selCache := 0#32 })
      else
        let (ack, s) := powerUpRequest port.toSwdTarget (dpidr.1.2.getD 0#32)
          { select.2 with selCache := 0#32 }
        ((ack, dpidrOut.map fun _ => dpidr.1.2.getD 0#32), s) := rfl
  rw [KeepsCache, hrefused, hrun]
  by_cases hdpidr : AckOk dpidr.1.1
  · by_cases habort : AckOk abort.1
    · by_cases hselect : AckOk select.1
      · -- SELECT is 0, as the cache says, and the rest of the prologue keeps both
        rw [if_neg (not_not_intro hdpidr), if_neg (not_not_intro habort),
          if_neg (not_not_intro hselect)]
        refine iff_of_true ?_ fun hrefuses => absurd hselect hrefuses.2.2
        have hrequest := sameSelect_powerUpRequest port (dpidr.1.2.getD 0#32)
          { select.2 with selCache := 0#32 }
        refine hrequest.skipsRight_iff.mpr ((skipsRight_of_zero rfl).mpr ?_)
        change SelectsBank (port.select select.2.target) 0x00#8
        rw [hselectTarget, select_settled,
          if_pos ⟨hselectOk.mp hselect, writesSelect_select.1⟩]
        exact selectsBank_bankSelect 0x00#8
      · rw [if_neg (not_not_intro hdpidr), if_neg (not_not_intro habort), if_pos hselect,
          skipsRight_of_zero rfl]
        change SelectsBank (port.select select.2.target) 0x00#8 ↔ _
        rw [hselectTarget, select_settled,
          if_neg fun hwritten => hselect (hselectOk.mpr hwritten.1), hsame.1]
        exact ⟨fun hselects _ => hselects, fun hkeeps => hkeeps ⟨hdpidr, habort, hselect⟩⟩
    · rw [if_neg (not_not_intro hdpidr), if_pos habort]
      exact iff_of_true (skipsRight_of_invalid (habortCache.trans hdpidrCache))
        fun hrefuses => absurd hrefuses.2.1 habort
  · rw [if_pos hdpidr]
    exact iff_of_true (skipsRight_of_invalid hdpidrCache)
      fun hrefuses => absurd hrefuses.1 hdpidr

/-- A call keeps the cache right exactly if it meets its condition. -/
theorem skipsRight_adiStep (h : SkipsRight port s) (call : AdiCall) :
    SkipsRight port (adiStep port s call).2 ↔ KeepsCache port s call := by
  cases call with
  | swdPowerupPrologue dpidrOut => exact skipsRight_swdPowerupPrologue dpidrOut s
  | accessor call =>
      cases call with
      | dpRead r out =>
          exact iff_of_true ((sameSelect_dpRead port r out s).skipsRight_iff.mpr h) trivial
      | dpWrite r v => exact skipsRight_dpWrite h r v
      | apRead apreg out => exact iff_of_true (skipsRight_apRead h apreg out) trivial
      | apWrite apreg v => exact iff_of_true (skipsRight_apWrite h apreg v) trivial

end Effects

/-! ## From power-up -/

/-- In every state of a run from power-up, whatever the target acknowledges: where the write
of SELECT would be skipped, SELECT is right. That is so exactly if SELECT starts at bank 0
of access port 0, as the cleared cache says, and every call of the run meets its
condition. -/
theorem skipsRight_iff_keepsCache {σ : Type*} (port : DebugPort σ) (t : σ)
    (calls : List AdiCall) :
    (∀ before after, calls = before ++ after →
        SkipsRight port (runMealy (adiStep port) (accessPowerUp t) before)) ↔
      SelectsBank (port.select t) 0x00#8 ∧ ∀ before call after, calls = before ++ call :: after →
        KeepsCache port (runMealy (adiStep port) (accessPowerUp t) before) call := by
  have hstart : SkipsRight port (accessPowerUp t) ↔ SelectsBank (port.select t) 0x00#8 :=
    skipsRight_of_zero rfl
  have hstep : ∀ (s : AccessState σ) (call : AdiCall), SkipsRight port s →
      (SkipsRight port (adiStep port s call).2 ↔ KeepsCache port s call) :=
    fun _ call h => skipsRight_adiStep h call
  rw [← hstart]
  exact runMealy_invariant_iff hstep (accessPowerUp t) calls

/-- A target that acknowledges everything but one attempt, which it answers with FAULT. It
keeps the number of attempts so far and SELECT. -/
def faultsOnce (attempt : ℕ) : DebugPort (ℕ × Word32) where
  answer request word t :=
    (⟨if t.1 = attempt then dapTransferFault else dapTransferOk, 0#32, 0#32⟩,
      t.1 + 1, if ¬ t.1 = attempt ∧ WritesSelect request then word else t.2)
  ack_lt _ _ _ := by
    dsimp only
    split_ifs <;> decide
  select := Prod.snd
  select_answer request word t := by
    dsimp only
    by_cases hfault : t.1 = attempt
    · simp [hfault, show dapTransferFault ≠ dapTransferOk by decide]
    · simp [hfault]
  lineReset := id

/-- IDR of an access port is read, and the write of SELECT in the prologue after that is
answered with FAULT: the cache says bank 0, and SELECT holds bank 15. -/
theorem selectCache_wrong_after_fault :
    ¬ ∀ (σ : Type) (port : DebugPort σ) (t : σ) (calls before after : List AdiCall),
        calls = before ++ after →
          SkipsRight port (runMealy (adiStep port) (accessPowerUp t) before) := by
  intro hclaim
  have hskips := hclaim (ℕ × Word32) (faultsOnce 5) (0, 0#32)
    [.accessor (.apRead 0xFC#8 none), .swdPowerupPrologue none] _ [] (List.append_nil _).symm
  exact absurd (hskips 0x00#8 (by decide)) (by decide)

end ExLink.Swd
