/-
# Transfers and whole commands at another place

The loops of the transfer commands carry positions in their locals, which move with the
pointers. With them every handler is moved, and so is the dispatch: a command does at any
place of a packet what it does alone at the start of one.
-/

import ExLink.Dap.Relocation

namespace ExLink.Dap

open ExLink.Automata ExLink.Automata.Prog
open ExLink.Swd (SwdAnswer IsRead dapTransferOk dapTransferWait dapOk dapError)

/-! ## Transfers -/

section Transfer

variable {buf : Buf} {r p : ℕ}

theorem moved_swdTransferOnce (request : Word32) (data : Option Word32) :
    Moved r p Eq (swdTransferOnce request data) (swdTransferOnce request data) :=
  (moved_ask (.swdTransfer request data) trivial).bind_eq fun _ => parallels_pure rfl

theorem moved_transferTries (request : Word32) (retry : ℕ) (data : Option Word32) :
    Moved r p Eq (transferTries request retry data) (transferTries request retry data) := by
  induction retry generalizing data with
  | zero => exact moved_swdTransferOnce request data
  | succ retry ih =>
      exact (moved_swdTransferOnce request data).bind_eq fun _ => parallels_get.bind_eq fun _ =>
        .ite (fun _ => ih _) fun _ => parallels_pure rfl

theorem moved_transferData (request data : Word32) :
    Moved r p Eq (transferData request data) (transferData request data) :=
  parallels_get.bind_eq fun _ =>
    (moved_transferTries request _ _).bind_eq fun _ => parallels_pure rfl

theorem moved_transferNull (request : Word32) :
    Moved r p Eq (transferNull request) (transferNull request) :=
  parallels_get.bind_eq fun _ =>
    (moved_transferTries request _ _).bind_eq fun _ => parallels_pure rfl

/-! ## DAP_Transfer -/

/-- The locals with the pointers moved. -/
def TransferVars.moved (r p : ℕ) (v : TransferVars) : TransferVars :=
  { v with request := r + v.request, response := p + v.response }

/-- The same result, and the locals with the pointers moved. -/
def VarsMoved {κ : Type} (r p : ℕ) (result result' : κ × TransferVars) : Prop :=
  result = (result'.1, result'.2.moved r p)

/-- A turn of the loop, moved. -/
abbrev MovedTurn (r p : ℕ) (turn turn' : TransferVars → DapM (Bool × TransferVars)) : Prop :=
  ∀ v, Moved r p (VarsMoved r p) (turn (v.moved r p)) (turn' v)

theorem moved_readStore (request : Word32) {next next' : TransferVars → DapM (Bool × TransferVars)}
    (hnext : MovedTurn r p next next') :
    MovedTurn r p (readStore request · next) (readStore request · next') :=
  fun v => (moved_transferData request v.data).bind_eq fun result => .ite
    (fun _ => parallels_pure rfl)
    fun _ => (moved_storeWord v.response result.2).bind_eq fun _ =>
      hnext { v with
        response := v.response + 4
        responseValue := result.1
        data := result.2 }

theorem moved_matchTries (request matchValue : Word32) (matchRetry : ℕ) (data : Word32) :
    Moved r p Eq (matchTries request matchValue matchRetry data)
      (matchTries request matchValue matchRetry data) := by
  induction matchRetry generalizing data with
  | zero => exact moved_transferData request data
  | succ matchRetry ih =>
      exact (moved_transferData request data).bind_eq fun _ => parallels_get.bind_eq fun _ =>
        .ite (fun _ => ih _) fun _ => parallels_pure rfl

theorem endRead_moved (value : Word32) (v : TransferVars) :
    VarsMoved r p (endRead value (v.moved r p)) (endRead value v) := by
  rw [VarsMoved, endRead, endRead]
  split_ifs <;> rfl

theorem moved_matchLoop (request matchValue : Word32) :
    MovedTurn r p (matchLoop request matchValue) (matchLoop request matchValue) :=
  fun v => parallels_get.bind_eq fun _ =>
    (moved_matchTries request matchValue _ v.data).bind_eq fun result =>
      parallels_get.bind_eq fun s => parallels_pure
        (endRead_moved (compared s.matchMask matchValue result.1 result.2)
          { v with data := result.2 })

theorem moved_readMatch (request : Word32) :
    MovedTurn r p (readMatch buf request) (readMatch (shifted r buf) request) :=
  fun v => (moved_loadWord v.request).bind_eq fun matchValue => .ite
    (fun _ => (moved_transferNull request).bind_eq fun value => .ite (fun _ => parallels_pure rfl)
      fun _ => moved_matchLoop request matchValue
        { v with request := v.request + 4, responseValue := value })
    fun _ => moved_matchLoop request matchValue { v with request := v.request + 4 }

theorem moved_readNormal (request : Word32) :
    MovedTurn r p (readNormal request) (readNormal request) := by
  intro v
  rw [readNormal, readNormal]
  refine .ite (fun _ => .ite (fun _ => parallels_pure rfl) fun _ => ?_) fun _ => ?_
  · exact (moved_transferNull request).bind_eq fun _ => .ite (fun _ => parallels_pure rfl)
      fun _ => parallels_pure rfl
  · have hend : MovedTurn r p (fun v => pure (false, { v with checkWrite := false }))
        (fun v => pure (false, { v with checkWrite := false })) := fun _ => parallels_pure rfl
    exact moved_readStore request hend v

theorem moved_transferRead (request : Word32) :
    MovedTurn r p (transferRead buf request) (transferRead (shifted r buf) request) := by
  have hrest : MovedTurn r p
      (fun v => if MatchValue request then readMatch buf request v else readNormal request v)
      (fun v =>
        if MatchValue request then readMatch (shifted r buf) request v
        else readNormal request v) :=
    fun v => .ite (fun _ => moved_readMatch request v) fun _ => moved_readNormal request v
  intro v
  rw [transferRead, transferRead]
  refine .ite (fun _ => .ite (fun _ => ?_) fun _ => ?_) fun _ => hrest v
  · exact moved_readStore request hrest v
  · exact moved_readStore readRdbuff hrest { v with postRead := false }

theorem moved_writeRegister (request : Word32) :
    MovedTurn r p (writeRegister buf request) (writeRegister (shifted r buf) request) :=
  fun v => (moved_loadWord v.request).bind_eq fun data => .ite
    (fun _ => (parallels_modify _).bind_eq fun _ => parallels_pure rfl)
    fun _ => (moved_transferData request data).bind_eq fun _ => .ite
      (fun _ => parallels_pure rfl) fun _ => parallels_pure rfl

theorem moved_transferWrite (request : Word32) :
    MovedTurn r p (transferWrite buf request) (transferWrite (shifted r buf) request) := by
  intro v
  rw [transferWrite, transferWrite]
  exact .ite
    (fun _ => moved_readStore readRdbuff
      (fun v => moved_writeRegister request { v with postRead := false }) v)
    fun _ => moved_writeRegister request v

theorem moved_transferRequest :
    MovedTurn r p (transferRequest buf) (transferRequest (shifted r buf)) :=
  fun v => (moved_loadByte v.request).bind_eq fun _ => .ite
    (fun _ => moved_transferRead _ { v with request := v.request + 1 })
    fun _ => moved_transferWrite _ { v with request := v.request + 1 }

theorem moved_transferLoop (count : ℕ) (v : TransferVars) :
    Moved r p (VarsMoved r p) (transferLoop buf count (v.moved r p))
      (transferLoop (shifted r buf) count v) := by
  induction count generalizing v with
  | zero => exact parallels_pure rfl
  | succ count ih =>
      refine (moved_transferRequest v).bind ?_
      rintro _ ⟨broke, after⟩ rfl
      exact .ite (fun _ => parallels_pure rfl) fun _ => parallels_get.bind_eq fun _ =>
        .ite (fun _ => parallels_pure rfl)
          fun _ => ih { after with responseCount := after.responseCount + 1 }

theorem moved_skipRequests (count request : ℕ) :
    Moved r p (fun last last' => last = r + last') (skipRequests buf count (r + request))
      (skipRequests (shifted r buf) count request) := by
  induction count generalizing request with
  | zero => exact parallels_pure rfl
  | succ count ih =>
      refine (moved_loadByte request).bind_eq fun header => ?_
      rw [Nat.add_assoc r, Nat.add_assoc r]
      exact ih _

theorem moved_closingRead (v : TransferVars) :
    Moved r p (fun v v' => v = v'.moved r p) (closingRead (v.moved r p)) (closingRead v) := by
  have hend : MovedTurn r p (fun v => pure (false, v)) (fun v => pure (false, v)) :=
    fun _ => parallels_pure rfl
  rw [closingRead, closingRead]
  refine .ite (fun _ => .ite (fun _ => ?_) fun _ => .ite (fun _ => ?_) fun _ => parallels_pure rfl)
    fun _ => parallels_pure rfl
  · refine (moved_readStore readRdbuff hend v).bind ?_
    rintro _ result rfl
    exact parallels_pure rfl
  · exact (moved_transferNull readRdbuff).bind_eq fun _ => parallels_pure rfl

variable (request response : ℕ)

theorem moved_dapSwdTransfer :
    Moved r p Eq (dapSwdTransfer buf (r + request) (p + response))
      (dapSwdTransfer (shifted r buf) request response) := by
  refine (moved_ask .garbage trivial).bind_eq fun data => (parallels_modify _).bind_eq fun _ => ?_
  refine (moved_loadByte (request + 1)).bind_eq fun requestCount => ?_
  refine (moved_transferLoop requestCount.toNat
    ⟨request + 2, response + 2, 0, 0#32, false, false, data⟩).bind ?_
  rintro _ ⟨left, v⟩ rfl
  refine (moved_skipRequests left v.request).bind ?_
  rintro _ last rfl
  refine (moved_closingRead v).bind ?_
  rintro _ v rfl
  refine (moved_storeByte response _).bind_eq fun _ => ?_
  refine (moved_storeByte (response + 1) _).bind_eq fun _ => ?_
  apply parallels_pure
  rw [Nat.add_sub_add_left]
  exact congrArg (fun size => sizes _ (BitVec.ofNat 32 size))
    (Nat.add_sub_add_left p v.response response)

theorem moved_dapDummyTransfer :
    Moved r p Eq (dapDummyTransfer buf (r + request) (p + response))
      (dapDummyTransfer (shifted r buf) request response) := by
  refine (moved_loadByte (request + 1)).bind_eq fun requestCount => ?_
  refine (moved_skipRequests requestCount.toNat (request + 2)).bind ?_
  rintro _ last rfl
  refine (moved_storeByte response _).bind_eq fun _ => ?_
  refine (moved_storeByte (response + 1) _).bind_eq fun _ => ?_
  apply parallels_pure
  rw [Nat.add_sub_add_left]

theorem moved_dapTransfer :
    Moved r p Eq (dapTransfer buf (r + request) (p + response))
      (dapTransfer (shifted r buf) request response) :=
  parallels_get.bind_eq fun _ => .ite (fun _ => moved_dapSwdTransfer request response)
    fun _ => moved_dapDummyTransfer request response

end Transfer

/-! ## DAP_TransferBlock -/

section TransferBlock

variable {buf : Buf} {r p : ℕ}

/-- The locals with the pointer moved. -/
def BlockVars.moved (p : ℕ) (v : BlockVars) : BlockVars := { v with response := p + v.response }

theorem moved_blockReads (request : Word32) (count : ℕ) (v : BlockVars) :
    Moved r p (fun v v' => v = v'.moved p) (blockReads request count (v.moved p))
      (blockReads request count v) := by
  induction count generalizing request v with
  | zero => exact parallels_pure rfl
  | succ count ih =>
      exact (moved_transferData _ v.data).bind_eq fun result => .ite
        (fun _ => parallels_pure rfl)
        fun _ => (moved_storeWord v.response result.2).bind_eq fun _ => ih _
          { v with
            responseValue := result.1
            data := result.2
            response := v.response + 4
            responseCount := v.responseCount + 1 }

theorem moved_blockWrites (request : Word32) (count position : ℕ) (v : BlockVars) :
    Moved r p (fun v v' => v = v'.moved p)
      (blockWrites buf request count (r + position) (v.moved p))
      (blockWrites (shifted r buf) request count position v) := by
  induction count generalizing position v with
  | zero => exact (moved_transferNull readRdbuff).bind_eq fun _ => parallels_pure rfl
  | succ count ih =>
      exact (moved_loadWord position).bind_eq fun data =>
        (moved_transferData request data).bind_eq fun result => .ite
          (fun _ => parallels_pure rfl)
          fun _ => ih (position + 4)
            { v with
              responseValue := result.1
              data := result.2
              responseCount := v.responseCount + 1 }

variable (request response : ℕ)

theorem moved_blockTransfers (count : ℕ) (v : BlockVars) :
    Moved r p (fun v v' => v = v'.moved p)
      (blockTransfers buf (r + request) count (v.moved p))
      (blockTransfers (shifted r buf) request count v) :=
  (moved_loadByte (request + 3)).bind_eq fun _ => .ite
    (fun _ => .ite
      (fun _ => (moved_transferNull _).bind_eq fun posted => .ite (fun _ => parallels_pure rfl)
        fun _ => moved_blockReads _ count { v with responseValue := posted })
      fun _ => moved_blockReads _ count v)
    fun _ => moved_blockWrites _ count (request + 4) v

theorem moved_dapSwdTransferBlock :
    Moved r p Eq (dapSwdTransferBlock buf (r + request) (p + response))
      (dapSwdTransferBlock (shifted r buf) request response) := by
  refine (moved_ask .garbage trivial).bind_eq fun data => (parallels_modify _).bind_eq fun _ => ?_
  refine (moved_loadHalf (request + 1)).bind_eq fun count => ?_
  have htail : ∀ v v' : BlockVars, v = v'.moved p → Moved r p Eq
      (do
        storeByte (p + response) (BitVec.ofNat 8 v.responseCount)
        storeByte (p + response + 1) (BitVec.ofNat 8 (v.responseCount / 256))
        storeByte (p + response + 2) (v.responseValue.setWidth 8)
        pure (BitVec.ofNat 32 (v.response - (p + response))))
      (do
        storeByte response (BitVec.ofNat 8 v'.responseCount)
        storeByte (response + 1) (BitVec.ofNat 8 (v'.responseCount / 256))
        storeByte (response + 2) (v'.responseValue.setWidth 8)
        pure (BitVec.ofNat 32 (v'.response - response))) := by
    rintro _ v rfl
    refine (moved_storeByte response _).bind_eq fun _ => ?_
    refine (moved_storeByte (response + 1) _).bind_eq fun _ => ?_
    refine (moved_storeByte (response + 2) _).bind_eq fun _ => parallels_pure ?_
    exact congrArg (BitVec.ofNat 32) (Nat.add_sub_add_left p v.response response)
  refine .ite (fun _ => ?_) fun _ => ?_
  · have hstart : ∀ v : BlockVars,
        Moved r p (fun v v' => v = BlockVars.moved p v') (pure (v.moved p)) (pure v) :=
      fun _ => parallels_pure rfl
    exact (hstart ⟨response + 3, 0, 0#32, data⟩).bind htail
  · exact (moved_blockTransfers request count.toNat ⟨response + 3, 0, 0#32, data⟩).bind htail

theorem moved_dapTransferBlock :
    Moved r p Eq (dapTransferBlock buf (r + request) (p + response))
      (dapTransferBlock (shifted r buf) request response) := by
  have htail : ∀ num, Moved r p Eq
      (do
        let header ← loadByte buf (r + request + 3)
        if IsRead (header.setWidth 32) then pure (num ||| (4#32 <<< 16))
        else do
          let count ← loadHalf buf (r + request + 1)
          pure (num ||| ((4#32 + count.setWidth 32 * 4#32) <<< 16)))
      (do
        let header ← loadByte (shifted r buf) (request + 3)
        if IsRead (header.setWidth 32) then pure (num ||| (4#32 <<< 16))
        else do
          let count ← loadHalf (shifted r buf) (request + 1)
          pure (num ||| ((4#32 + count.setWidth 32 * 4#32) <<< 16))) :=
    fun _ => (moved_loadByte (request + 3)).bind_eq fun _ => .ite (fun _ => parallels_pure rfl)
      fun _ => (moved_loadHalf (request + 1)).bind_eq fun _ => parallels_pure rfl
  refine parallels_get.bind_eq fun s => .ite (fun _ => ?_) fun _ => ?_
  · exact (moved_dapSwdTransferBlock request response).bind_eq htail
  · refine (moved_storeByte response _).bind_eq fun _ => ?_
    refine (moved_storeByte (response + 1) _).bind_eq fun _ => ?_
    exact (moved_storeByte (response + 2) _).bind_eq fun _ => htail _

theorem moved_dapWriteAbort :
    Moved r p Eq (dapWriteAbort buf (r + request) (p + response))
      (dapWriteAbort (shifted r buf) request response) :=
  parallels_get.bind_eq fun _ => .ite
    (fun _ => (moved_loadWord (request + 1)).bind_eq fun _ =>
      (moved_swdTransferOnce _ _).bind_eq fun _ => moved_reply response _ _)
    fun _ => moved_reply response _ _

end TransferBlock

/-! ## Commands -/

section Commands

variable {buf : Buf} {r p : ℕ} (request response : ℕ)

/-- One handler or none, moved. -/
theorem moved_handler (polls id : ℕ) :
    Option.Rel (Moved r p Eq) (handler buf polls id (r + request) (p + response))
      (handler (shifted r buf) polls id request response) := by
  unfold handler
  split
  · exact .some (moved_dapHostStatus request response)
  · exact .some (moved_dapConnect request response)
  · exact .some (moved_dapDisconnect response)
  · exact .some (moved_dapTransferConfigure request response)
  · exact .some (moved_dapTransfer request response)
  · exact .some (moved_dapTransferBlock request response)
  · exact .some (moved_dapWriteAbort request response)
  · exact .some (moved_dapDelay request response)
  · exact .some (moved_dapResetTarget response)
  · exact .some (moved_dapSwjPins request response polls)
  · exact .some (moved_dapSwjClock request response)
  · exact .some (moved_dapSwjSequence request response)
  · exact .some (moved_dapSwdConfigure request response)
  · exact .some (moved_dapJtagSequence request response)
  · exact .some (moved_dapJtagConfigure request response)
  · exact .some (moved_reply response _ _)
  · exact .some (moved_dapSwdSequence request response)
  · exact .none

theorem moved_dapInfo (id : Byte) :
    Moved r p Eq (dapInfo id (p + response)) (dapInfo id response) :=
  (moved_storeBytes response _).bind_eq fun _ => parallels_pure rfl

/-- A command asks the same wherever it lies in its packet. -/
theorem moved_dapProcessCommand (polls : ℕ) :
    Moved r p Eq (dapProcessCommand buf polls (r + request) (p + response))
      (dapProcessCommand (shifted r buf) polls request response) := by
  refine (moved_loadByte request).bind_eq fun id => .ite (fun _ => ?_) fun _ => ?_
  · exact (moved_loadByte request).bind_eq fun _ => moved_reply response _ _
  · refine (moved_storeByte response _).bind_eq fun _ => .ite (fun _ => ?_) fun _ => ?_
    · refine (moved_loadByte (request + 1)).bind_eq fun info => ?_
      refine (moved_dapInfo (response + 2) info).bind_eq fun _ => ?_
      exact (moved_storeByte (response + 1) _).bind_eq fun _ => parallels_pure rfl
    · have hrun := @moved_handler buf r p (request + 1) (response + 1) polls id.toNat
      rw [← Nat.add_assoc, ← Nat.add_assoc] at hrun
      generalize handler buf polls id.toNat (r + request + 1) (p + response + 1) = run at hrun ⊢
      generalize handler (shifted r buf) polls id.toNat (request + 1) (response + 1) = run'
        at hrun ⊢
      cases hrun with
      | some hmoved => exact hmoved.bind_eq fun _ => parallels_pure rfl
      | none => exact moved_reply response _ _

end Commands

end ExLink.Dap
