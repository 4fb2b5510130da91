/-
# Commands at another place

A handler gets its request and its response as pointers, and nothing it does depends on
where these point. On bytes that lie further into the slot, and with a response that lies
further into its buffer, every handler asks the same of the world, loads and stores
correspondingly, and returns the same.
-/

import ExLink.Automata.Correspondence
import ExLink.Dap.Transfer

namespace ExLink.Dap

open ExLink.Automata ExLink.Automata.Prog
open ExLink.Swd (SwdAnswer IsRead dapTransferOk dapOk dapError)

/-! ## Questions -/

/-- Neither a byte of the request nor one into the response. -/
def DapOp.Outside : DapOp → Prop
  | .load _ | .store _ _ => False
  | _ => True

/-- The questions of a handler whose request lies `r` and whose response lies `p` further. -/
inductive Relocates (r p : ℕ) : (op op' : DapOp) → (op.Answer ≃ op'.Answer) → Prop
  | load (offset : ℕ) : Relocates r p (.load (r + offset)) (.load offset) (.refl _)
  | store (offset : ℕ) (byte : Byte) :
      Relocates r p (.store (p + offset) byte) (.store offset byte) (.refl _)
  | outside {op : DapOp} (h : op.Outside) : Relocates r p op op (.refl _)

/-- What lies from an offset on. -/
def shifted (r : ℕ) (buf : Buf) : Buf := fun offset => buf (r + offset)

/-- The first program is the second one, moved. -/
abbrev Moved {α β : Type} (r p : ℕ) (returns : α → β → Prop) (first : DapM α) (second : DapM β) :
    Prop :=
  Parallels (Relocates r p) returns first second

section Moved

variable {buf : Buf} {r p : ℕ}

theorem moved_ask (op : DapOp) (h : op.Outside) : Moved r p Eq (ask op) (ask op) :=
  (parallels_perform (.outside h)).mono fun _ _ hanswer => hanswer.symm

/-! ## Bytes -/

theorem moved_loadByte (offset : ℕ) :
    Moved r p Eq (loadByte buf (r + offset)) (loadByte (shifted r buf) offset) :=
  (parallels_perform (.load offset)).bind fun _ _ _ => parallels_pure rfl

theorem moved_loadHalf (offset : ℕ) :
    Moved r p Eq (loadHalf buf (r + offset)) (loadHalf (shifted r buf) offset) :=
  (moved_loadByte offset).bind_eq fun _ =>
    (moved_loadByte (offset + 1)).bind_eq fun _ => parallels_pure rfl

theorem wordAt_shifted (offset : ℕ) : wordAt buf (r + offset) = wordAt (shifted r buf) offset := by
  simp only [wordAt, shifted, Nat.add_assoc]

theorem moved_loadWord (offset : ℕ) :
    Moved r p Eq (loadWord buf (r + offset)) (loadWord (shifted r buf) offset) := by
  have hload (offset : ℕ) :
      Moved r p (fun _ _ => True) (ask (.load (r + offset))) (ask (.load offset)) :=
    (parallels_perform (.load offset)).mono fun _ _ _ => trivial
  refine (hload offset).bind fun _ _ _ => (hload (offset + 1)).bind fun _ _ _ => ?_
  refine (hload (offset + 2)).bind fun _ _ _ => (hload (offset + 3)).bind fun _ _ _ => ?_
  exact parallels_pure (wordAt_shifted offset)

theorem moved_loadBytes (offset count : ℕ) :
    Moved r p Eq (loadBytes buf (r + offset) count) (loadBytes (shifted r buf) offset count) := by
  induction count generalizing offset with
  | zero => exact parallels_pure rfl
  | succ count ih =>
      exact (moved_loadByte offset).bind_eq fun _ =>
        (ih (offset + 1)).bind_eq fun _ => parallels_pure rfl

theorem moved_storeByte (offset : ℕ) (byte : Byte) :
    Moved r p Eq (storeByte (p + offset) byte) (storeByte offset byte) := by
  have hstore := @parallels_perform DapOp DapOp.Answer DapData (Relocates r p) _ _ _
    (.store offset byte)
  exact hstore.mono fun _ _ hanswer => hanswer.symm

theorem moved_storeBytes (offset : ℕ) (bytes : List Byte) :
    Moved r p Eq (storeBytes (p + offset) bytes) (storeBytes offset bytes) := by
  induction bytes generalizing offset with
  | nil => exact parallels_pure rfl
  | cons byte rest ih => exact (moved_storeByte offset byte).bind_eq fun _ => ih (offset + 1)

theorem moved_storeWord (offset : ℕ) (data : Word32) :
    Moved r p Eq (storeWord (p + offset) data) (storeWord offset data) :=
  (moved_storeByte offset _).bind_eq fun _ => (moved_storeByte (offset + 1) _).bind_eq fun _ =>
    (moved_storeByte (offset + 2) _).bind_eq fun _ => moved_storeByte (offset + 3) _

/-- A handler that stores its result byte and returns. -/
theorem moved_reply (response : ℕ) (byte : Byte) (num : Word32) :
    Moved r p Eq (storeByte (p + response) byte >>= fun _ => pure num)
      (storeByte response byte >>= fun _ => pure num) :=
  (moved_storeByte response byte).bind_eq fun _ => parallels_pure rfl

/-! ## General commands -/

variable (request response : ℕ)

theorem moved_dapDelay :
    Moved r p Eq (dapDelay buf (r + request) (p + response))
      (dapDelay (shifted r buf) request response) :=
  (moved_loadHalf request).bind_eq fun _ =>
    (moved_ask (.delaySlow _) trivial).bind_eq fun _ => moved_reply response _ _

theorem moved_dapHostStatus :
    Moved r p Eq (dapHostStatus buf (r + request) (p + response))
      (dapHostStatus (shifted r buf) request response) :=
  (moved_loadByte request).bind_eq fun _ => .ite
    (fun _ => (moved_loadByte (request + 1)).bind_eq fun _ => moved_reply response _ _)
    fun _ => moved_reply response _ _

theorem moved_dapConnect :
    Moved r p Eq (dapConnect buf (r + request) (p + response))
      (dapConnect (shifted r buf) request response) :=
  (moved_loadByte request).bind_eq fun _ => .ite
    (fun _ => (parallels_modify _).bind_eq fun _ =>
      (moved_ask .portSetup trivial).bind_eq fun _ => moved_reply response _ _)
    fun _ => moved_reply response _ _

theorem moved_dapDisconnect :
    Moved r p Eq (dapDisconnect (p + response)) (dapDisconnect response) :=
  (parallels_modify _).bind_eq fun _ =>
    (moved_ask .portOff trivial).bind_eq fun _ => moved_reply response _ _

theorem moved_pinNResetOut (bit : Word32) :
    Moved r p Eq (pinNResetOut bit) (pinNResetOut bit) :=
  .ite (fun _ => moved_ask (.pinDirection _ _) trivial)
    fun _ => (moved_ask (.pinOut _ _) trivial).bind_eq fun _ =>
      moved_ask (.pinDirection _ _) trivial

theorem moved_dapResetTarget :
    Moved r p Eq (dapResetTarget (p + response)) (dapResetTarget response) :=
  (moved_pinNResetOut _).bind_eq fun _ => (moved_ask (.delayMs _) trivial).bind_eq fun _ =>
    (moved_pinNResetOut _).bind_eq fun _ => (moved_ask (.delayMs _) trivial).bind_eq fun _ =>
      (moved_storeByte (response + 1) _).bind_eq fun _ => moved_reply response _ _

/-! ## SWJ commands -/

theorem moved_pinIn (pin : Pin) : Moved r p Eq (pinIn pin) (pinIn pin) :=
  (moved_ask (.pinIn pin) trivial).bind_eq fun _ => parallels_pure rfl

theorem moved_pinOut (value select : Word32) (bit : ℕ) (pin : Pin) :
    Moved r p Eq (pinOut value select bit pin) (pinOut value select bit pin) :=
  .ite (fun _ => moved_ask (.pinOut _ _) trivial) fun _ => parallels_pure rfl

theorem moved_pinMatches {value select : Word32} {bit : ℕ} {level : DapM Word32}
    {rest : DapM Bool} (hlevel : Moved r p Eq level level) (hrest : Moved r p Eq rest rest) :
    Moved r p Eq (pinMatches value select bit level rest)
      (pinMatches value select bit level rest) :=
  .ite (fun _ => hlevel.bind_eq fun _ => .ite (fun _ => parallels_pure rfl) fun _ => hrest)
    fun _ => hrest

theorem moved_pinsMatch (value select : Word32) :
    Moved r p Eq (pinsMatch value select) (pinsMatch value select) :=
  moved_pinMatches (moved_pinIn _) <| moved_pinMatches (moved_pinIn _) <|
    moved_pinMatches (parallels_pure rfl) <| moved_pinMatches (parallels_pure rfl) <|
      moved_pinMatches (moved_pinIn _) <| parallels_pure rfl

theorem moved_swjPinsWait (value select wait timestamp : Word32) (polls : ℕ) :
    Moved r p Eq (swjPinsWait value select wait timestamp polls)
      (swjPinsWait value select wait timestamp polls) := by
  induction polls with
  | zero =>
      exact (moved_pinsMatch value select).bind_eq fun _ => .ite (fun _ => parallels_pure rfl)
        fun _ => (moved_ask .spin trivial).bind_eq fun never => never.elim
  | succ polls ih =>
      exact (moved_pinsMatch value select).bind_eq fun _ => .ite (fun _ => parallels_pure rfl)
        fun _ => ih

theorem moved_dapSwjPins (polls : ℕ) :
    Moved r p Eq (dapSwjPins buf (r + request) (p + response) polls)
      (dapSwjPins (shifted r buf) request response polls) := by
  refine (moved_loadByte request).bind_eq fun _ => ?_
  refine (moved_loadByte (request + 1)).bind_eq fun _ => ?_
  refine (moved_loadWord (request + 2)).bind_eq fun _ => ?_
  refine (moved_pinOut _ _ _ _).bind_eq fun _ => (moved_pinOut _ _ _ _).bind_eq fun _ => ?_
  refine .when (fun _ => moved_pinNResetOut _) fun _ => ?_
  refine .when (fun _ => moved_swjPinsWait _ _ _ _ _) fun _ => ?_
  refine (moved_pinIn _).bind_eq fun _ => (moved_pinIn _).bind_eq fun _ => ?_
  exact (moved_pinIn _).bind_eq fun _ => moved_reply response _ _

theorem moved_dapSwjClock :
    Moved r p Eq (dapSwjClock buf (r + request) (p + response))
      (dapSwjClock (shifted r buf) request response) :=
  (moved_loadWord request).bind_eq fun _ => .ite (fun _ => moved_reply response _ _)
    fun _ => (parallels_modify _).bind_eq fun _ =>
      (moved_ask (.setClock _) trivial).bind_eq fun _ => moved_reply response _ _

theorem moved_swjSequence (count data : ℕ) :
    Moved r p Eq (swjSequence buf count (r + data)) (swjSequence (shifted r buf) count data) := by
  have hlast : Moved r p Eq (loadByte buf (r + data + count / 8))
      (loadByte (shifted r buf) (data + count / 8)) := by
    rw [Nat.add_assoc]
    exact moved_loadByte (data + count / 8)
  have hrest : Moved r p Eq
      (if count % 8 ≠ 0 then do
        let last ← loadByte buf (r + data + count / 8)
        ask (.swdWriteBits (last.setWidth 32) (count % 8))
      else pure ())
      (if count % 8 ≠ 0 then do
        let last ← loadByte (shifted r buf) (data + count / 8)
        ask (.swdWriteBits (last.setWidth 32) (count % 8))
      else pure ()) :=
    .ite (fun _ => hlast.bind_eq fun _ => moved_ask (.swdWriteBits _ _) trivial)
      fun _ => parallels_pure rfl
  exact .ite
    (fun _ => (moved_loadBytes data _).bind_eq fun _ =>
      (moved_ask (.swdWriteBytes _) trivial).bind_eq fun _ => hrest)
    fun _ => hrest

theorem moved_dapSwjSequence :
    Moved r p Eq (dapSwjSequence buf (r + request) (p + response))
      (dapSwjSequence (shifted r buf) request response) :=
  (moved_loadByte request).bind_eq fun _ =>
    (moved_swjSequence _ (request + 1)).bind_eq fun _ => moved_reply response _ _

/-! ## SWD and JTAG commands -/

theorem moved_swdSequenceIn (swdi : ℕ) (units : List ℕ) :
    Moved r p Eq (swdSequenceIn (p + swdi) units) (swdSequenceIn swdi units) := by
  induction units generalizing swdi with
  | nil => exact parallels_pure rfl
  | cons nbits rest ih =>
      refine (moved_ask (.swdReadBits nbits) trivial).bind_eq fun _ => ?_
      refine (moved_storeBytes swdi _).bind_eq fun _ => ?_
      rw [Nat.add_assoc]
      exact ih (swdi + bytesFor nbits)

theorem moved_swdSequenceOut (swdo : ℕ) (units : List ℕ) :
    Moved r p Eq (swdSequenceOut buf (r + swdo) units)
      (swdSequenceOut (shifted r buf) swdo units) := by
  induction units generalizing swdo with
  | nil => exact parallels_pure rfl
  | cons nbits rest ih =>
      refine (moved_loadBytes swdo _).bind_eq fun _ => ?_
      refine (moved_ask (.swdWriteBits _ nbits) trivial).bind_eq fun _ => ?_
      rw [Nat.add_assoc]
      exact ih (swdo + bytesFor nbits)

theorem moved_dapSwdConfigure :
    Moved r p Eq (dapSwdConfigure buf (r + request) (p + response))
      (dapSwdConfigure (shifted r buf) request response) :=
  (moved_loadByte request).bind_eq fun _ =>
    (parallels_modify _).bind_eq fun _ => moved_reply response _ _

theorem moved_swdSequences (sequenceCount requestCount responseCount : ℕ) :
    Moved r p Eq
      (swdSequences buf (r + request) (p + response) sequenceCount requestCount responseCount)
      (swdSequences (shifted r buf) request response sequenceCount requestCount
        responseCount) := by
  induction sequenceCount generalizing requestCount responseCount with
  | zero => exact parallels_pure rfl
  | succ sequenceCount ih =>
      rw [swdSequences, swdSequences, Nat.add_assoc r, Nat.add_assoc p]
      refine (moved_loadByte (request + requestCount)).bind_eq fun info => .ite (fun _ => ?_)
        fun _ => ?_
      · refine (moved_ask (.pinDirection _ _) trivial).bind_eq fun _ => ?_
        refine (moved_swdSequenceIn (response + responseCount) _).bind_eq fun _ => ?_
        exact .when (fun _ => moved_ask (.pinDirection _ _) trivial) fun _ => ih _ _
      · refine (moved_ask (.pinDirection _ _) trivial).bind_eq fun _ => ?_
        refine (moved_swdSequenceOut (request + requestCount + 1) _).bind_eq fun _ => ?_
        exact .when (fun _ => moved_ask (.pinDirection _ _) trivial) fun _ => ih _ _

theorem moved_dapSwdSequence :
    Moved r p Eq (dapSwdSequence buf (r + request) (p + response))
      (dapSwdSequence (shifted r buf) request response) :=
  (moved_storeByte response _).bind_eq fun _ => (moved_loadByte request).bind_eq fun _ =>
    (moved_swdSequences request response _ 1 1).bind_eq fun _ => parallels_pure rfl

theorem moved_jtagSequences (sequenceCount requestCount : ℕ) :
    Moved r p Eq (jtagSequences buf (r + request) sequenceCount requestCount)
      (jtagSequences (shifted r buf) request sequenceCount requestCount) := by
  induction sequenceCount generalizing requestCount with
  | zero => exact parallels_pure rfl
  | succ sequenceCount ih =>
      rw [jtagSequences, jtagSequences, Nat.add_assoc]
      exact (moved_loadByte (request + requestCount)).bind_eq fun _ => ih _

theorem moved_dapJtagSequence :
    Moved r p Eq (dapJtagSequence buf (r + request) (p + response))
      (dapJtagSequence (shifted r buf) request response) :=
  (moved_storeByte response _).bind_eq fun _ => (moved_loadByte request).bind_eq fun _ =>
    (moved_jtagSequences request _ 1).bind_eq fun _ => parallels_pure rfl

theorem moved_dapJtagConfigure :
    Moved r p Eq (dapJtagConfigure buf (r + request) (p + response))
      (dapJtagConfigure (shifted r buf) request response) :=
  (moved_loadByte request).bind_eq fun _ => moved_reply response _ _

theorem moved_dapTransferConfigure :
    Moved r p Eq (dapTransferConfigure buf (r + request) (p + response))
      (dapTransferConfigure (shifted r buf) request response) :=
  (moved_loadByte request).bind_eq fun _ => (moved_loadHalf (request + 1)).bind_eq fun _ =>
    (moved_loadHalf (request + 3)).bind_eq fun _ => (parallels_modify _).bind_eq fun _ =>
      moved_reply response _ _

end Moved

end ExLink.Dap
