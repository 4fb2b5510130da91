/-
# Commands in one packet

`DAP_ExecuteCommands` runs the commands of its packet one after another, out of one slot
and into one response buffer. Each does there what it does alone, at the start of a slot
and of a response buffer of its own: the message is the messages of the commands.
-/

import ExLink.Dap.PacketBounds
import ExLink.Dap.TransferRelocation

namespace ExLink.Dap

open ExLink.Automata ExLink.Automata.Prog

/-! ## Replies -/

section Replies

variable {ε : Type} (world : Environment DapOp DapOp.Answer ε)

/-- The response buffer, in front of a world that answers everything else. -/
def responseEnv : Environment DapOp DapOp.Answer (Buf × ε)
  | (resp, e), .load _ => some ((), (resp, e))
  | (resp, e), .store offset byte => some ((), (Function.update resp offset byte, e))
  | (resp, e), op => (world e op).map fun answered => (answered.1, (resp, answered.2))

/-- The message that the host gets, and what is left for later. -/
structure Reply (ε : Type) where
  message : List Byte
  data : DapData
  world : ε

/-- The bytes that a result counts are sent. -/
def replyOf (result : (Word32 × DapData) × (Buf × ε)) : Reply ε :=
  ⟨result.2.1.prefixBytes (lowHalf result.1.1), result.1.2, result.2.2⟩

/-- A packet in a slot. -/
def packetReply (polls : ℕ) (resp slot : Buf) (data : DapData) (e : ε) : Option (Reply ε) :=
  (Outcome (responseEnv world) (dapExecuteCommand slot polls) data (resp, e)).map replyOf

/-- A command alone, at the start of its slot and of its response buffer. -/
def commandAlone (polls : ℕ) (resp slot : Buf) (data : DapData) (e : ε) :
    Option ((Word32 × DapData) × (Buf × ε)) :=
  Outcome (responseEnv world) (dapProcessCommand slot polls 0 0) data (resp, e)

/-- Commands one after another, each alone, with their messages in turn. The next one
starts where the size of the last one says. -/
def commandsInTurn (polls : ℕ) (resp : Buf) : ℕ → Buf → DapData → ε → Option (Reply ε)
  | 0, _, data, e => some ⟨[], data, e⟩
  | cnt + 1, slot, data, e =>
      (commandAlone world polls resp slot data e).bind fun result =>
        (commandsInTurn polls resp cnt (shifted (highHalf result.1.1) slot) result.1.2
          result.2.2).map fun rest =>
            { rest with message := (replyOf result).message ++ rest.message }

variable {world}

theorem responseEnv_outside {op : DapOp} (h : op.Outside) (resp : Buf) (e : ε) :
    responseEnv world (resp, e) op =
      (world e op).map fun answered => (answered.1, (resp, answered.2)) := by
  cases op with
  | load _ | store _ _ => exact h.elim
  | _ => rfl

end Replies

/-! ## At another place -/

section Places

variable {ε : Type} {world : Environment DapOp DapOp.Answer ε}

theorem shifted_update (p offset : ℕ) (byte : Byte) (resp : Buf) :
    shifted p (Function.update resp (p + offset) byte) =
      Function.update (shifted p resp) offset byte := by
  funext position
  by_cases h : position = offset
  · rw [h, Function.update_self]
    exact Function.update_self _ _ _
  · rw [Function.update_of_ne h]
    exact Function.update_of_ne (fun hsame => h (Nat.add_left_cancel hsame)) _ _

/-- The response from an offset on, with the same world; what lies before it is kept. -/
def Beyond (p : ℕ) (kept : Buf) (first second : Buf × ε) : Prop :=
  second = (shifted p first.1, first.2) ∧ ∀ offset < p, first.1 offset = kept offset

variable (world) in
/-- Questions at another place are answered alike. -/
theorem agrees_responseEnv (r p : ℕ) (kept : Buf) :
    Agrees (Relocates r p) (responseEnv world) (responseEnv world) (Beyond p kept) := by
  rintro op op' answers h ⟨resp, e⟩ _ ⟨rfl, hkept⟩
  cases h with
  | load offset => exact .some ⟨rfl, rfl, hkept⟩
  | store offset byte =>
      refine .some ⟨rfl, congrArg (·, e) (shifted_update p offset byte resp).symm, ?_⟩
      intro position hposition
      refine Eq.trans ?_ (hkept position hposition)
      exact Function.update_of_ne (Nat.ne_of_lt (Nat.lt_add_right offset hposition)) _ _
  | outside h =>
      rw [responseEnv_outside h, responseEnv_outside h]
      cases world e op with
      | none => exact .none
      | some answered => exact .some ⟨rfl, rfl, hkept⟩

/-- Accesses in bounds: what was stored is the same over any earlier contents. -/
theorem respond_inBounds {α : Type} {post : α → Finset ℕ → Prop}
    {program : Prog DapOp DapOp.Answer α} {stored : Finset ℕ}
    (h : program.Guarantees boundsWatch post stored) {first second : Buf}
    (hsame : ∀ offset ∈ stored, first offset = second offset) (e : ε) :
    Option.Rel
      (fun result result' => result.1 = result'.1 ∧ result.2.2 = result'.2.2 ∧
        ∃ stored, post result.1 stored ∧
          ∀ offset ∈ stored, result.2.1 offset = result'.2.1 offset)
      (program.respond (responseEnv world) (first, e))
      (program.respond (responseEnv world) (second, e)) := by
  induction program generalizing stored first second e with
  | ret value => exact .some ⟨rfl, rfl, stored, h, hsame⟩
  | ask op next ih =>
      cases op with
      | load offset => exact ih () (h ()).2 hsame e
      | store offset byte =>
          refine ih () (h ()).2 ?_ e
          intro position hmem
          by_cases hposition : position = offset
          · rw [hposition, Function.update_self, Function.update_self]
          · rw [Function.update_of_ne hposition, Function.update_of_ne hposition]
            exact hsame position ((Finset.mem_insert.mp hmem).resolve_left hposition)
      | _ =>
          simp only [respond, responseEnv]
          cases world e _ with
          | none => exact .none
          | some answered => exact ih answered.1 (h answered.1).2 hsame answered.2

end Places

/-! ## One command after another -/

section Turns

variable {ε : Type} {world : Environment DapOp DapOp.Answer ε}

theorem prefixBytes_add (buf : Buf) (first second : ℕ) :
    buf.prefixBytes (first + second) =
      buf.prefixBytes first ++ Buf.prefixBytes (shifted first buf) second := by
  rw [Buf.prefixBytes, List.range_add, List.map_append, List.map_map]
  rfl

/-- A command that fits does at its place what it does alone, and its message follows what
was in the response before. -/
theorem dapProcessCommand_alone {buf : Buf} {polls request response : ℕ} {data : DapData}
    {post : Word32 → DapData → Finset ℕ → Prop} {done : ℕ → ℕ → Link → Prop}
    (continues : Continues commandLimit response post done)
    (hfits : CommandFits buf done request response data.link) (resp blank : Buf) (e : ε) :
    Option.Rel
      (fun result alone => result.1 = alone.1 ∧ result.2.2 = alone.2.2 ∧
        post alone.1.1 alone.1.2 (Finset.range (response + lowHalf alone.1.1)) ∧
        result.2.1.prefixBytes (response + lowHalf alone.1.1) =
          resp.prefixBytes response ++ (replyOf alone).message)
      (Outcome (responseEnv world) (dapProcessCommand buf polls request response) data (resp, e))
      (commandAlone world polls blank (shifted request buf) data e) := by
  -- the same command over a response that goes on as the one of its own
  let glued : Buf := fun offset =>
    if offset < response then resp offset else blank (offset - response)
  have hglued : Beyond response resp (glued, e) (blank, e) := by
    refine ⟨congrArg (·, e) (funext fun offset => ?_), fun offset hoffset => if_pos hoffset⟩
    rw [shifted]
    dsimp only [glued]
    rw [if_neg (Nat.not_lt.mpr (Nat.le_add_right _ _)), Nat.add_sub_cancel_left]
  have hmoved : Option.Rel
      (fun result alone => (result.1.1 = alone.1.1 ∧ result.1.2 = alone.1.2) ∧
        Beyond response resp result.2 alone.2)
      (Outcome (responseEnv world) (dapProcessCommand buf polls request response) data (glued, e))
      (commandAlone world polls blank (shifted request buf) data e) :=
    (@moved_dapProcessCommand buf request response 0 0 polls data).respond
      (agrees_responseEnv world request response resp) hglued
  have hcontinues : Continues commandLimit response
      (fun num s stored => stored = Finset.range (response + lowHalf num) ∧ post num s stored)
      done := by
    intro consumed stored s hconsumed hroom
    have hstored : stored < 65536 := by
      rw [dapPacketSize] at hroom
      omega
    dsimp only
    rw [lowHalf_sizes hconsumed hstored]
    exact (and_iff_right rfl).trans (continues consumed stored s hconsumed hroom)
  have hsame : ∀ offset ∈ Finset.range response, resp offset = glued offset :=
    fun offset hoffset => (if_pos (Finset.mem_range.mp hoffset)).symm
  have hbounds : Option.Rel _
      (Outcome (responseEnv world) (dapProcessCommand buf polls request response) data (resp, e))
      (Outcome (responseEnv world) (dapProcessCommand buf polls request response) data
        (glued, e)) :=
    respond_inBounds ((inBounds_dapProcessCommand hcontinues).mpr hfits) hsame e
  generalize Outcome (responseEnv world) (dapProcessCommand buf polls request response) data
    (resp, e) = outcome at hbounds ⊢
  generalize Outcome (responseEnv world) (dapProcessCommand buf polls request response) data
    (glued, e) = glue at hbounds hmoved
  generalize commandAlone world polls blank (shifted request buf) data e = alone at hmoved ⊢
  cases hmoved with
  | none =>
      cases hbounds
      exact .none
  | @some middle alone hmoved =>
      cases hbounds with
      | @some result _ hbounds =>
          obtain ⟨hresult, hworld, stored, ⟨hstored, hpost⟩, hagree⟩ := hbounds
          obtain ⟨⟨hnum, hdata⟩, hbeyond, hkept⟩ := hmoved
          have hmiddle : middle.1 = alone.1 := Prod.ext hnum hdata
          rw [hresult, hmiddle] at hpost hstored
          subst hstored
          refine .some ⟨hresult.trans hmiddle, hworld.trans (congrArg Prod.snd hbeyond).symm,
            hpost, ?_⟩
          rw [prefixBytes_add, replyOf, hbeyond]
          congr 1
          · apply Buf.prefixBytes_congr
            intro offset hoffset
            rw [hagree offset (Finset.mem_range.mpr (Nat.lt_add_right _ hoffset))]
            exact hkept offset hoffset
          · apply Buf.prefixBytes_congr
            intro offset hoffset
            exact hagree _ (Finset.mem_range.mpr (Nat.add_lt_add_left hoffset response))

theorem shifted_shifted (first second : ℕ) (buf : Buf) :
    shifted second (shifted first buf) = shifted (first + second) buf :=
  funext fun offset => congrArg buf (Nat.add_assoc first second offset).symm

/-- The commands of a packet from one of them on. -/
theorem executeCommands_inTurn {buf : Buf} {polls : ℕ} (blank : Buf) {cnt request response : ℕ}
    {num : Word32} (hnum : lowHalf num = response) {data : DapData}
    (hfits : CommandsFit buf cnt request response data.link) (resp : Buf) (e : ε) :
    (Outcome (responseEnv world) (executeCommands buf polls cnt request response num) data
        (resp, e)).map replyOf =
      (commandsInTurn world polls blank cnt (shifted request buf) data e).map fun rest =>
        { rest with message := resp.prefixBytes response ++ rest.message } := by
  induction cnt generalizing request response num data resp e with
  | zero =>
      change some (replyOf ((num, data), (resp, e))) = _
      rw [replyOf, hnum, commandsInTurn, Option.map_some, List.append_nil]
  | succ cnt ih =>
      have hcontinues : Continues commandLimit response
          (fun n s _ => lowHalf (num + n) = response + lowHalf n ∧
            CommandsFit buf cnt (request + highHalf n) (response + lowHalf n) s.link)
          (fun consumed stored link =>
            CommandsFit buf cnt (request + consumed) (response + stored) link) := by
        intro consumed stored s hconsumed hroom
        have hstored : stored < 65536 := by
          rw [dapPacketSize] at hroom
          omega
        dsimp only
        rw [lowHalf_add hnum hconsumed hroom, lowHalf_sizes hconsumed hstored,
          highHalf_sizes hconsumed hstored]
        exact and_iff_right rfl
      have halone := @dapProcessCommand_alone ε world buf polls request response data _ _
        hcontinues hfits resp blank e
      rw [executeCommands, outcome_bind, commandsInTurn]
      generalize Outcome (responseEnv world) (dapProcessCommand buf polls request response) data
        (resp, e) = outcome at halone ⊢
      generalize commandAlone world polls blank (shifted request buf) data e = alone at halone ⊢
      cases halone with
      | none => rfl
      | @some result alone halone =>
          obtain ⟨hresult, hworld, ⟨hcount, hrest⟩, hmessage⟩ := halone
          have hnext := ih hcount hrest result.2.1 alone.2.2
          rw [← hworld] at hnext
          rw [Option.bind_some, Option.bind_some, hresult]
          refine hnext.trans ?_
          rw [hmessage, Option.map_map, shifted_shifted, hworld]
          simp only [Function.comp_def, List.append_assoc]

end Turns

/-! ## A packet with commands -/

section Primitives

variable {ε : Type} {world : Environment DapOp DapOp.Answer ε} {data : DapData} {resp : Buf} {e : ε}

theorem outcome_loadByte_response (buf : Buf) (offset : ℕ) :
    Outcome (responseEnv world) (loadByte buf offset) data (resp, e) =
      some ((buf offset, data), (resp, e)) := rfl

theorem outcome_storeByte_response (offset : ℕ) (byte : Byte) :
    Outcome (responseEnv world) (storeByte offset byte) data (resp, e) =
      some (((), data), (Function.update resp offset byte, e)) := rfl

end Primitives

/-- A packet over a response buffer of its own: one command, or commands in turn. -/
def packetAlone {ε : Type} (world : Environment DapOp DapOp.Answer ε) (polls : ℕ)
    (blank slot : Buf) (data : DapData) (e : ε) : Option (Reply ε) :=
  if slot 0 = 0x7F#8 then
    (commandsInTurn world polls blank (slot 1).toNat (shifted 2 slot) data e).map fun rest =>
      { rest with message := [0x7F#8, slot 1] ++ rest.message }
  else (commandAlone world polls blank slot data e).map replyOf

section Packets

variable {ε : Type} {world : Environment DapOp DapOp.Answer ε} {slot : Buf} {data : DapData}

/-- The reply to a packet that fits owes nothing to what the response buffer held. -/
theorem packetReply_alone (polls : ℕ) (resp blank : Buf) (e : ε)
    (hfits : PacketFits slot data.link) :
    packetReply world polls resp slot data e = packetAlone world polls blank slot data e := by
  by_cases hexecute : slot 0 = 0x7F#8
  · rw [PacketFits, if_pos hexecute] at hfits
    rw [packetAlone, if_pos hexecute]
    set started := Function.update (Function.update resp 0 (slot 0)) 1 (slot 1)
    have hrun : Outcome (responseEnv world) (dapExecuteCommand slot polls) data (resp, e) =
        Outcome (responseEnv world)
          (executeCommands slot polls (slot 1).toNat 2 2 (sizes 2#32 2#32)) data (started, e) := by
      rw [dapExecuteCommand, outcome_bind_of (outcome_loadByte_response slot 0), if_pos hexecute,
        outcome_bind_of (outcome_storeByte_response 0 (slot 0)),
        outcome_bind_of (outcome_loadByte_response slot 1),
        outcome_bind_of (outcome_storeByte_response 1 (slot 1))]
    have hstarted : Buf.prefixBytes started 2 = [0x7F#8, slot 1] := by
      rw [← hexecute]
      rfl
    rw [packetReply, hrun, executeCommands_inTurn blank (by decide) hfits started e, hstarted]
  · rw [PacketFits, if_neg hexecute] at hfits
    rw [packetAlone, if_neg hexecute]
    have hrun : Outcome (responseEnv world) (dapExecuteCommand slot polls) data (resp, e) =
        Outcome (responseEnv world) (dapProcessCommand slot polls 0 0) data (resp, e) := by
      rw [dapExecuteCommand, outcome_bind_of (outcome_loadByte_response slot 0), if_neg hexecute]
    have hstart : shifted 0 slot = slot := funext fun offset => congrArg slot (Nat.zero_add offset)
    have hcontinues : Continues commandLimit 0 (fun _ _ _ => True) fun _ _ _ => True :=
      fun _ _ _ _ _ => iff_of_true trivial trivial
    have halone := @dapProcessCommand_alone ε world slot polls 0 0 data _ _ hcontinues hfits resp
      blank e
    rw [hstart] at halone
    rw [packetReply, hrun]
    generalize Outcome (responseEnv world) (dapProcessCommand slot polls 0 0) data (resp, e) =
      outcome at halone ⊢
    generalize commandAlone world polls blank slot data e = alone at halone ⊢
    cases halone with
    | none => rfl
    | @some result alone halone =>
        obtain ⟨hresult, hworld, -, hmessage⟩ := halone
        rw [Nat.zero_add] at hmessage
        refine congrArg some ?_
        rw [replyOf, replyOf, hresult, hmessage, hworld]
        rfl

end Packets

/-- `DAP_ExecuteCommands`, whatever the world answers: the message of a packet that fits is
its first two bytes with the messages that the commands give one after another, each alone in
a slot and a response buffer of its own; and they leave the same behind. -/
theorem packetReply_inTurn {ε : Type} (world : Environment DapOp DapOp.Answer ε) (polls : ℕ)
    (resp blank slot : Buf) (data : DapData) (e : ε) (hexecute : slot 0 = 0x7F#8)
    (hfits : PacketFits slot data.link) :
    packetReply world polls resp slot data e =
      (commandsInTurn world polls blank (slot 1).toNat (shifted 2 slot) data e).map fun rest =>
        { rest with message := [0x7F#8, slot 1] ++ rest.message } := by
  rw [packetReply_alone polls resp blank e hfits, packetAlone, if_pos hexecute]

/-- A world that counts how often the port is set up or turned off. -/
def portEnv : Environment DapOp DapOp.Answer ℕ
  | count, .portSetup | count, .portOff => some ((), count + 1)
  | _, _ => none

/-- Connect to SWD, ask for the packet count, disconnect. -/
def connectPacket : Buf :=
  Buf.write (fun _ => 0#8) [0x7F#8, 3#8, 0x02#8, 0x01#8, 0x00#8, 0xFE#8, 0x03#8]

theorem packetReply_inTurn_connectPacket :
    (packetReply portEnv 0 (fun _ => 0xAA#8) connectPacket unconnected 0).map Reply.message =
        some [0x7F#8, 3#8, 0x02#8, 0x01#8, 0x00#8, 0x01#8, 0x02#8, 0x03#8, 0x00#8] ∧
      packetReply portEnv 0 (fun _ => 0xAA#8) connectPacket unconnected 0 =
        (commandsInTurn portEnv 0 (fun _ => 0#8) 3 (shifted 2 connectPacket) unconnected 0).map
          fun rest => { rest with message := [0x7F#8, 3#8] ++ rest.message } := by
  refine ⟨by rfl, packetReply_inTurn portEnv 0 _ _ connectPacket unconnected 0 (by decide) ?_⟩
  simp [PacketFits, CommandsFit, CommandFits, HandlerFits, Reaches, handler, connectPacket,
    Buf.write, infoBytes, dapPacketSize]

end ExLink.Dap
