/-
# What a packet determines

Two slots that hold the same packet can differ in the bytes behind it. A part of the
command layer is determined by the packet if on both slots the same is stored into the
response and the same is done on the SWD line, with the same length of the response,
whatever target answers. Loads are heard by nobody: what matters is what comes of them.
-/

import ExLink.Automata.Observation
import ExLink.Dap.HandlerBounds
import ExLink.Dap.Needs

namespace ExLink.Dap

open ExLink.Automata ExLink.Automata.Prog
open ExLink.Swd (SwdAnswer)

/-! ## The observer -/

instance : Nonempty { answer : SwdAnswer // answer.ack.toNat < 8 } := ⟨faulting⟩

/-- What is stored into the response and what goes over the SWD line. -/
def DapOp.seen : DapOp → Bool
  | .store _ _ | .swdTransfer _ _ | .swdReadBits _ | .swdWriteBits _ _ | .swdWriteBytes _ => true
  | _ => false

/-- Everything but a load concerns the world around the command layer. -/
def DapOp.heard : DapOp → Bool
  | .load _ => false
  | _ => true

/-- An observer of the response, of its length and of the SWD line. -/
def hostObserver : Observer DapOp DapOp.Answer (Word32 × DapData) Word16 where
  seen := DapOp.seen
  heard := DapOp.heard
  view result := result.1.setWidth 16
  heard_of_seen op hop := by
    cases op with
    | load => exact absurd hop Bool.false_ne_true
    | _ => rfl
  nonempty op hop := by
    cases op with
    | load => exact ⟨()⟩
    | _ => exact absurd hop.symm Bool.false_ne_true
  subsingleton op hop := by
    cases op with
    | load => exact ⟨fun _ _ => rfl⟩
    | _ => exact absurd hop.symm Bool.false_ne_true

/-- The observer sees the same of two programs, from two states. -/
abbrev Same (first second : DapM Word32) (s t : DapData) : Prop :=
  Alike hostObserver (first.run s) (second.run t)

theorem same_get {f g : DapData → DapM Word32} {s t : DapData} :
    Same (get >>= f) (get >>= g) s t ↔ Same (f s) (g t) s t := Iff.rfl

/-- A slot whose first bytes are the packet. -/
def Holds (data : Buf) (len : ℕ) (buf : Buf) : Prop := ∀ offset < len, buf offset = data offset

theorem holds_filled (data : Buf) (len : ℕ) (fill : Byte) :
    Holds data len (filled data len fill) := fun _ hoffset => if_pos hoffset

theorem filled_of_le {data : Buf} {len offset : ℕ} (fill : Byte) (hoffset : len ≤ offset) :
    filled data len fill offset = fill := if_neg (Nat.not_lt.mpr hoffset)

/-- The bytes behind the packet make no difference. -/
def Determined (data : Buf) (len : ℕ) (run : Buf → DapM Word32) (s : DapData) : Prop :=
  ∀ b₁ b₂, Holds data len b₁ → Holds data len b₂ → Same (run b₁) (run b₂) s s

section Determined

variable {data : Buf} {len : ℕ} {run : Buf → DapM Word32} {s t : DapData}

theorem determined_const (program : DapM Word32) : Determined data len (fun _ => program) s :=
  fun _ _ _ _ => Alike.refl _

/-- A packet with more bytes determines more. -/
theorem Determined.extend (h : Determined data len run s) {wider : ℕ} (hle : len ≤ wider) {buf : Buf}
    (holds : Holds data len buf) : Determined buf wider run s :=
  fun b₁ b₂ hfirst hsecond =>
    h b₁ b₂ (fun offset hoffset =>
        (hfirst offset (Nat.lt_of_lt_of_le hoffset hle)).trans (holds offset hoffset))
      fun offset hoffset =>
        (hsecond offset (Nat.lt_of_lt_of_le hoffset hle)).trans (holds offset hoffset)

theorem determined_congr {run' : Buf → DapM Word32} (h : ∀ b, Holds data len b → run b = run' b) :
    Determined data len run s ↔ Determined data len run' s := by
  constructor
  · intro hrun b₁ b₂ hfirst hsecond
    rw [← h b₁ hfirst, ← h b₂ hsecond]
    exact hrun b₁ b₂ hfirst hsecond
  · intro hrun b₁ b₂ hfirst hsecond
    rw [h b₁ hfirst, h b₂ hsecond]
    exact hrun b₁ b₂ hfirst hsecond

/-- The same part first. -/
theorem determined_bind {α : Type} (program : DapM α) (f : Buf → α → DapM Word32) :
    Determined data len (fun b => program >>= f b) s ↔
      Wp everywhere program (fun value s _ => Determined data len (fun b => f b value) s) s () := by
  have hsame : ∀ b₁ b₂, Same (program >>= f b₁) (program >>= f b₂) s s ↔
      Wp everywhere program (fun value s _ => Same (f b₁ value) (f b₂ value) s s) s () :=
    fun b₁ b₂ => alike_bind (program.run s)
  simp only [Determined, hsame, Wp, guarantees_forall]

/-- The same where the part neither loads nor stores. -/
theorem determined_bind_inBounds {α : Type} {program : DapM α} {f : Buf → α → DapM Word32}
    (hquiet : InBounds program (fun _ _ _ => True) s ∅) :
    Determined data len (fun b => program >>= f b) s ↔
      InBounds program (fun value s _ => Determined data len (fun b => f b value) s) s ∅ :=
  (determined_bind program f).trans (@guarantees_everywhere _ _ _ _ boundsWatch (program.run s)
    (fun result => Determined data len (fun b => f b result.1) result.2) ∅ hquiet)

theorem determined_ask {op : DapOp} {f : Buf → op.Answer → DapM Word32} :
    Determined data len (fun b => ask op >>= f b) s ↔
      ∀ answer, Determined data len (fun b => f b answer) s :=
  (determined_bind (ask op) f).trans (forall_congr' fun _ => and_iff_right trivial)

theorem determined_storeByte {offset : ℕ} {byte : Byte} {f : Buf → DapM Word32} :
    Determined data len (fun b => storeByte offset byte >>= fun _ => f b) s ↔
      Determined data len f s :=
  determined_ask.trans (forall_const Unit)

theorem determined_modify {change : DapData → DapData} {f : Buf → DapM Word32} :
    Determined data len (fun b => modify change >>= fun _ => f b) s ↔
      Determined data len f (change s) := Iff.rfl

theorem determined_get {f : Buf → DapData → DapM Word32} :
    Determined data len (fun b => get >>= f b) s ↔ Determined data len (fun b => f b s) s := Iff.rfl

end Determined

/-! ## Loads -/

/-- The program only loads, and this is what it returns. -/
inductive Loads {α : Type} : Prog DapOp DapOp.Answer α → α → Prop
  | ret (value : α) : Loads (.ret value) value
  | load {offset : ℕ} {next : Unit → Prog DapOp DapOp.Answer α} {value : α}
      (rest : Loads (next ()) value) : Loads (.ask (.load offset) next) value

theorem Loads.bind {α β : Type} {program : Prog DapOp DapOp.Answer α} {value : α}
    (loads : Loads program value) {f : α → Prog DapOp DapOp.Answer β} {result : β}
    (hf : Loads (f value) result) : Loads (program.bind f) result := by
  induction loads with
  | ret value => exact hf
  | load rest ih => exact .load (ih hf)

/-- A part of a handler that only loads, whatever the state. -/
def Fetches {α : Type} (program : DapM α) (value : α) : Prop :=
  ∀ s, Loads (program.run s) (value, s)

section Fetches

variable {α β : Type} {buf : Buf}

theorem fetches_pure (value : α) : Fetches (pure value) value := fun s => .ret (value, s)

theorem Fetches.bind {program : DapM α} {value : α} (fetches : Fetches program value)
    {f : α → DapM β} {result : β} (hf : Fetches (f value) result) :
    Fetches (program >>= f) result := fun s => (fetches s).bind (hf s)

theorem fetches_loadByte (offset : ℕ) : Fetches (loadByte buf offset) (buf offset) :=
  fun s => .load (.ret (buf offset, s))

theorem fetches_loadHalf (offset : ℕ) :
    Fetches (loadHalf buf offset) (Word16.ofBytes (buf offset) (buf (offset + 1))) :=
  (fetches_loadByte offset).bind ((fetches_loadByte (offset + 1)).bind (fetches_pure _))

theorem fetches_loadWord (offset : ℕ) : Fetches (loadWord buf offset) (wordAt buf offset) :=
  fun s => .load (.load (.load (.load (.ret (wordAt buf offset, s)))))

/-- Consecutive bytes. -/
def bytesAt (buf : Buf) (offset count : ℕ) : List Byte :=
  Buf.prefixBytes (fun index => buf (offset + index)) count

theorem bytesAt_succ (buf : Buf) (offset count : ℕ) :
    bytesAt buf offset (count + 1) = buf offset :: bytesAt buf (offset + 1) count :=
  Buf.prefixBytes_shift_succ buf offset count

theorem fetches_loadBytes (offset count : ℕ) :
    Fetches (loadBytes buf offset count) (bytesAt buf offset count) := by
  induction count generalizing offset with
  | zero => exact fetches_pure []
  | succ count ih =>
      rw [bytesAt_succ]
      exact (fetches_loadByte offset).bind ((ih (offset + 1)).bind (fetches_pure _))

theorem same_fetch_left {program : DapM α} {value : α} (fetches : Fetches program value)
    {f : α → DapM Word32} {second : DapM Word32} {s t : DapData} :
    Same (program >>= f) second s t ↔ Same (f value) second s t := by
  have hloads : ∀ (p : Prog DapOp DapOp.Answer (α × DapData)) (result : α × DapData),
      Loads p result →
        (Alike hostObserver (p.bind fun r => (f r.1).run r.2) (second.run t) ↔
          Alike hostObserver ((f result.1).run result.2) (second.run t)) := by
    intro p result loads
    induction loads with
    | ret value => exact Iff.rfl
    | load rest ih => exact (alike_unheard_left rfl ()).trans ih
  exact hloads _ _ (fetches s)

theorem same_fetch_right {program : DapM α} {value : α} (fetches : Fetches program value)
    {f : α → DapM Word32} {first : DapM Word32} {s t : DapData} :
    Same first (program >>= f) s t ↔ Same first (f value) s t :=
  ⟨fun h => ((same_fetch_left fetches).mp h.symm).symm,
    fun h => ((same_fetch_left fetches).mpr h.symm).symm⟩

/-- What is loaded is taken from the slot. -/
theorem determined_fetch {data : Buf} {len : ℕ} {s : DapData} {program : Buf → DapM α}
    {value : Buf → α} (fetches : ∀ b, Fetches (program b) (value b)) {f : Buf → α → DapM Word32} :
    Determined data len (fun b => program b >>= f b) s ↔
      Determined data len (fun b => f b (value b)) s :=
  forall₂_congr fun b₁ b₂ => imp_congr_right fun _ => imp_congr_right fun _ =>
    (same_fetch_left (fetches b₁)).trans (same_fetch_right (fetches b₂))

end Fetches

/-! ## Bytes of the packet -/

section Known

variable {data buf : Buf} {len offset : ℕ}

theorem wordAt_holds (holds : Holds data len buf) (hoffset : offset + 4 ≤ len) :
    wordAt buf offset = wordAt data offset := by
  simp only [wordAt, Word32.ofBuf]
  rw [holds _ (show offset + 0 < len by omega), holds _ (show offset + 1 < len by omega),
    holds _ (show offset + 2 < len by omega), holds _ (show offset + 3 < len by omega)]

theorem bytesAt_holds (holds : Holds data len buf) {count : ℕ} (hoffset : offset + count ≤ len) :
    bytesAt buf offset count = bytesAt data offset count := by
  apply List.map_congr_left
  intro index hindex
  have hlt := List.mem_range.mp hindex
  exact holds _ (by omega)

theorem knownWord_of_le (hoffset : offset + 4 ≤ len) :
    knownWord data len offset = wordAt data offset :=
  wordAt_holds (holds_filled data len 0#8) hoffset

theorem knownWord_of_stale (hoffset : len ≤ offset) : knownWord data len offset = 0#32 := by
  simp only [knownWord, wordAt, Word32.ofBuf, filled_of_le 0#8 (Nat.le_add_right_of_le hoffset)]
  rfl

variable {s : DapData} {f : Buf → DapM Word32}

theorem determined_loadByte {f : Buf → Byte → DapM Word32} (hoffset : offset < len) :
    Determined data len (fun b => loadByte b offset >>= f b) s ↔
      Determined data len (fun b => f b (data offset)) s :=
  (determined_fetch fun _ => fetches_loadByte offset).trans
    (determined_congr fun b holds => by rw [holds offset hoffset])

theorem determined_loadWord {f : Buf → Word32 → DapM Word32} (hoffset : offset + 4 ≤ len) :
    Determined data len (fun b => loadWord b offset >>= f b) s ↔
      Determined data len (fun b => f b (wordAt data offset)) s :=
  (determined_fetch fun _ => fetches_loadWord offset).trans
    (determined_congr fun b holds => by rw [wordAt_holds holds hoffset])

theorem determined_loadHalf {f : Buf → Word16 → DapM Word32} (hoffset : offset + 2 ≤ len) :
    Determined data len (fun b => loadHalf b offset >>= f b) s ↔
      Determined data len
        (fun b => f b (Word16.ofBytes (data offset) (data (offset + 1)))) s :=
  (determined_fetch fun _ => fetches_loadHalf offset).trans
    (determined_congr fun b holds => by
      rw [holds offset (by omega), holds (offset + 1) (by omega)])

theorem determined_loadBytes {f : Buf → List Byte → DapM Word32} {count : ℕ}
    (hoffset : offset + count ≤ len) :
    Determined data len (fun b => loadBytes b offset count >>= f b) s ↔
      Determined data len (fun b => f b (bytesAt data offset count)) s :=
  (determined_fetch fun _ => fetches_loadBytes offset count).trans
    (determined_congr fun b holds => by rw [bytesAt_holds holds hoffset])

end Known

/-! ## Telling slots apart -/

/-- The question that a program asks first. -/
def Starts {α : Type} (op : DapOp) (program : DapM α) (s : DapData) : Prop :=
  ∃ next, program.run s = .ask op next

section Starts

variable {α β : Type} {op : DapOp} {s : DapData}

theorem starts_ask : Starts op (ask op) s := ⟨_, rfl⟩

theorem Starts.bind {program : DapM α} (starts : Starts op program s) {f : α → DapM β} :
    Starts op (program >>= f) s := by
  obtain ⟨next, hnext⟩ := starts
  refine ⟨fun answer => (next answer).bind fun result => (f result.1).run result.2, ?_⟩
  change (program.run s).bind _ = _
  rw [hnext]
  rfl

theorem starts_get {f : DapData → DapM β} (h : Starts op (f s) s) : Starts op (get >>= f) s := h

theorem starts_storeByte {offset : ℕ} {byte : Byte} :
    Starts (.store offset byte) (storeByte offset byte) s := starts_ask

theorem starts_transferTries {request : Word32} {retry : ℕ} {data : Option Word32} :
    Starts (.swdTransfer request data) (transferTries request retry data) s := by
  cases retry with
  | zero => exact starts_ask.bind
  | succ retry => exact (starts_ask.bind).bind

theorem starts_transferData {request data : Word32} :
    Starts (.swdTransfer request (some data)) (transferData request data) s :=
  starts_get starts_transferTries.bind

theorem starts_transferNull {request : Word32} :
    Starts (.swdTransfer request none) (transferNull request) s :=
  starts_get starts_transferTries.bind

end Starts

/-- The first thing that is seen of a program. -/
abbrev OpensWith (op : DapOp) (program : DapM Word32) (s : DapData) : Prop :=
  Opens hostObserver op (program.run s)

section Opens

variable {α : Type} {op : DapOp} {s : DapData}

theorem Starts.opens {program : DapM Word32} (starts : Starts op program s) :
    OpensWith op program s := by
  obtain ⟨next, hnext⟩ := starts
  rw [OpensWith, hnext]
  exact .ask

theorem OpensWith.unseen {other : DapOp} (hunseen : other.seen = false)
    (hother : Nonempty other.Answer) {f : other.Answer → DapM Word32}
    (rest : ∀ answer, OpensWith op (f answer) s) : OpensWith op (ask other >>= f) s :=
  Opens.unseen hunseen hother rest

theorem OpensWith.modify {change : DapData → DapData} {f : DapM Word32}
    (rest : OpensWith op f (change s)) :
    OpensWith op ((modify change : DapM PUnit) >>= fun _ => f) s := rest

theorem OpensWith.fetch {program : DapM α} {value : α} (fetches : Fetches program value)
    {f : α → DapM Word32} (rest : OpensWith op (f value) s) :
    OpensWith op (program >>= f) s := by
  have hloads : ∀ (p : Prog DapOp DapOp.Answer (α × DapData)) (result : α × DapData),
      Loads p result → OpensWith op (f result.1) result.2 →
        Opens hostObserver op (p.bind fun r => (f r.1).run r.2) := by
    intro p result loads
    induction loads with
    | ret value => exact id
    | load rest ih => exact fun h => .unseen rfl ⟨()⟩ fun _ => ih h
  exact hloads _ _ (fetches s) rest

theorem nonempty_answer (hseen : op.seen = true) : Nonempty op.Answer := by
  cases op with
  | store offset byte => exact ⟨()⟩
  | swdTransfer request data => exact ⟨faulting⟩
  | swdReadBits nbits => exact ⟨BitVec.ofNat nbits 0⟩
  | swdWriteBits val nbits => exact ⟨()⟩
  | swdWriteBytes data => exact ⟨()⟩
  | _ => exact absurd hseen Bool.false_ne_true

/-- Two slots that show different things first. -/
theorem not_determined_of_opens {data : Buf} {len : ℕ} {run : Buf → DapM Word32}
    (first second : Byte) {op op' : DapOp}
    (hfirst : OpensWith op (run (filled data len first)) s)
    (hsecond : OpensWith op' (run (filled data len second)) s) (hseen : op.seen = true)
    (hseen' : op'.seen = true) (hne : op ≠ op') : ¬ Determined data len run s := by
  intro h
  have hsame := h _ _ (holds_filled data len first) (holds_filled data len second)
  exact hne (hsame.eq_of_opens hfirst hsecond hseen hseen' (nonempty_answer hseen)
    (nonempty_answer hseen'))

end Opens

/-! ## What is left of a command -/

/-- All that is still seen of a program. -/
abbrev ConcludesWith (shown : List (Event DapOp.Answer)) (size : Word16) (program : DapM Word32)
    (s : DapData) : Prop :=
  Concludes hostObserver (program.run s) shown size

section Concludes

variable {α : Type} {shown : List (Event DapOp.Answer)} {size : Word16} {s : DapData}

theorem ConcludesWith.fetch {program : DapM α} {value : α} (fetches : Fetches program value)
    {f : α → DapM Word32} (rest : ConcludesWith shown size (f value) s) :
    ConcludesWith shown size (program >>= f) s := by
  have hloads : ∀ (p : Prog DapOp DapOp.Answer (α × DapData)) (result : α × DapData),
      Loads p result → ConcludesWith shown size (f result.1) result.2 →
        Concludes hostObserver (p.bind fun r => (f r.1).run r.2) shown size := by
    intro p result loads
    induction loads with
    | ret value => exact id
    | load rest ih => exact fun h => .unseen rfl ⟨()⟩ fun _ => ih h
  exact hloads _ _ (fetches s) rest

theorem ConcludesWith.modify {change : DapData → DapData} {f : DapM Word32}
    (rest : ConcludesWith shown size f (change s)) :
    ConcludesWith shown size ((modify change : DapM PUnit) >>= fun _ => f) s := rest

theorem ConcludesWith.unseen {op : DapOp} (hunseen : op.seen = false) (hop : Nonempty op.Answer)
    {f : op.Answer → DapM Word32} (rest : ∀ answer, ConcludesWith shown size (f answer) s) :
    ConcludesWith shown size (ask op >>= f) s := Concludes.unseen hunseen hop rest

theorem ConcludesWith.store {offset : ℕ} {byte : Byte} {f : DapM Word32}
    (rest : ConcludesWith shown size f s) :
    ConcludesWith (⟨.store offset byte, ()⟩ :: shown) size (storeByte offset byte >>= fun _ => f)
      s := by
  have honly : Subsingleton (DapOp.store offset byte).Answer := inferInstanceAs (Subsingleton Unit)
  exact @Concludes.seen _ _ _ _ hostObserver (.store offset byte) (fun _ => f.run s) shown size rfl
    () honly rest

theorem determined_of_concludes {data : Buf} {len : ℕ} {run : Buf → DapM Word32}
    (h : ∀ b, ConcludesWith shown size (run b) s) : Determined data len run s :=
  fun b₁ b₂ _ _ => (h b₁).alike (h b₂)

end Concludes

/-! ## From header to header -/

/-- A loop that only looks for where the next header stands. -/
def walkBytes (buf : Buf) (step : Byte → ℕ) : ℕ → ℕ → DapM ℕ
  | 0, position => pure position
  | count + 1, position => do
      let header ← loadByte buf position
      walkBytes buf step count (position + step header)

/-- Where it ends. -/
def walkEnd (buf : Buf) (step : Byte → ℕ) : ℕ → ℕ → ℕ
  | 0, position => position
  | count + 1, position => walkEnd buf step count (position + step (buf position))

theorem fetches_walkBytes {buf : Buf} {step : Byte → ℕ} (count position : ℕ) :
    Fetches (walkBytes buf step count position) (walkEnd buf step count position) := by
  induction count generalizing position with
  | zero => exact fetches_pure position
  | succ count ih => exact (fetches_loadByte position).bind (ih _)

section Walk

variable {data : Buf} {len most : ℕ} {step : Byte → ℕ} {s : DapData}

/-- The headers lie before what follows them. -/
theorem WalkWithin.reaches {ended : ℕ → Prop} {count position : ℕ}
    (h : WalkWithin data len step ended count position) (most : ℕ)
    (hended : ∀ last, position ≤ last → last ≤ position + most * count → ended last → last < len) :
    position < len := by
  cases count with
  | zero => exact hended position (le_refl _) (Nat.le_add_right _ _) h
  | succ count => exact h.1

/-- A walk to another command: with a header filled in, the ones after it and the command
would have to lie before it. -/
theorem determined_walkBytes {after : Buf → ℕ → DapM Word32} {ended : Buf → ℕ → ℕ → Prop}
    {count position : ℕ} (hpos : ∀ header, 0 < step header) (hmost : ∀ header, step header ≤ most)
    (hafter : ∀ data len last, position ≤ last → last ≤ position + most * count →
      (Determined data len (fun b => after b last) s ↔ ended data len last))
    (hreaches : ∀ data len last, position ≤ last → last ≤ position + most * count →
      ended data len last → last < len) :
    Determined data len (fun b => walkBytes b step count position >>= after b) s ↔
      WalkWithin data len step (ended data len) count position := by
  induction count generalizing data len position with
  | zero => exact hafter data len position (le_refl _) (Nat.le_add_right _ _)
  | succ count ih =>
      have hsteps : most * (count + 1) = most + most * count := by
        rw [Nat.mul_succ, Nat.add_comm]
      rw [hsteps] at hafter hreaches
      have hinside : ∀ data len, position < len →
          (Determined data len (fun b => walkBytes b step (count + 1) position >>= after b) s ↔
            WalkWithin data len step (ended data len) count (position + step (data position))) := by
        intro data len hle
        have hstep := hmost (data position)
        simp only [walkBytes, bind_assoc]
        refine (determined_loadByte hle).trans (ih ?_ ?_)
        · intro data len last hlow hhigh
          exact hafter data len last (by omega) (by omega)
        · intro data len last hlow hhigh
          exact hreaches data len last (by omega) (by omega)
      by_cases hle : position < len
      · exact (hinside data len hle).trans (and_iff_right hle).symm
      · refine iff_of_false (fun h => ?_) fun h => hle h.1
        have hstale : len ≤ position + 1 := by omega
        have hwider := h.extend hstale (holds_filled data len 0#8)
        have hwalk := (hinside _ _ (Nat.lt_succ_self position)).mp hwider
        have hstep := hmost (filled data len 0#8 position)
        have hforward := hpos (filled data len 0#8 position)
        have hlt := hwalk.reaches most fun last hlow hhigh =>
          hreaches _ _ last (by omega) (by omega)
        omega

/-- A walk over as many headers as a byte before them says. -/
theorem determined_countedWalk {after : Buf → ℕ → DapM Word32} {ended : Buf → ℕ → ℕ → Prop}
    {offset : ℕ} (hpos : ∀ header, 0 < step header) (hmost : ∀ header, step header ≤ most)
    (hafter : ∀ data len last, offset < last → last ≤ offset + 1 + most * 255 →
      (Determined data len (fun b => after b last) s ↔ ended data len last))
    (hreaches : ∀ data len last, offset < last → last ≤ offset + 1 + most * 255 →
      ended data len last → last < len) :
    Determined data len
        (fun b =>
          loadByte b offset >>= fun count =>
            walkBytes b step count.toNat (offset + 1) >>= after b)
        s ↔
      offset < len ∧ WalkWithin data len step (ended data len) (data offset).toNat (offset + 1) := by
  have hsteps : ∀ count : Byte, most * count.toNat ≤ most * 255 :=
    fun count => Nat.mul_le_mul_left most (Nat.le_of_lt_succ count.isLt)
  have hinside : ∀ data len, offset < len →
      (Determined data len
          (fun b =>
            loadByte b offset >>= fun count =>
              walkBytes b step count.toNat (offset + 1) >>= after b)
          s ↔
        WalkWithin data len step (ended data len) (data offset).toNat (offset + 1)) := by
    intro data len hle
    refine (determined_loadByte hle).trans (determined_walkBytes hpos hmost ?_ ?_)
    · intro data len last hlow hhigh
      exact hafter data len last hlow (Nat.le_trans hhigh (Nat.add_le_add_left (hsteps _) _))
    · intro data len last hlow hhigh
      exact hreaches data len last hlow (Nat.le_trans hhigh (Nat.add_le_add_left (hsteps _) _))
  by_cases hle : offset < len
  · exact (hinside data len hle).trans (and_iff_right hle).symm
  · refine iff_of_false (fun h => ?_) fun h => hle h.1
    have hstale : len ≤ offset + 1 := by omega
    have hwider := h.extend hstale (holds_filled data len 0#8)
    have hwalk := (hinside _ _ (Nat.lt_succ_self offset)).mp hwider
    have hlt := hwalk.reaches most fun last hlow hhigh =>
      hreaches _ _ last hlow (Nat.le_trans hhigh (Nat.add_le_add_left (hsteps _) _))
    omega

end Walk

/-! ## What follows a handler -/

/-- What follows a handler, or a command, that begins at `request`: whether the packet
determines it depends on the result and on the link; after the last command nothing is
seen but the response bytes of the result; and else another command stands where the
result says, as long as fewer than `limit` bytes were consumed. -/
structure Follows (limit : ℕ) (rest : Buf → Word32 → DapM Word32) (last : Bool) (request : ℕ)
    (done : Buf → ℕ → Word32 → Link → Prop) : Prop where
  same : ∀ data len num s, Determined data len (fun b => rest b num) s ↔ done data len num s.link
  ends : last = true → ∃ size : Word16 → Word16, ∀ b num s,
    ConcludesWith [] (size (num.setWidth 16)) (rest b num) s
  reaches : last = false → ∀ data len consumed stored link, consumed < limit → stored < limit →
      done data len (sizes (BitVec.ofNat 32 consumed) (BitVec.ofNat 32 stored)) link →
        request + consumed < len

section Follows

variable {limit : ℕ} {rest : Buf → Word32 → DapM Word32} {last : Bool} {request : ℕ}
  {done : Buf → ℕ → Word32 → Link → Prop} {data : Buf} {len : ℕ} {s : DapData}

theorem Follows.done_of_last (follows : Follows limit rest last request done) (hlast : last = true)
    (num : Word32) (link : Link) : done data len num link := by
  obtain ⟨size, hends⟩ := follows.ends hlast
  have hlink : (⟨if link.swd then dapPortSwd else 0#8, 0#8, 0#32, 0#8, 0#16, 0#16, link.mask, 0#8,
      0#8, 0#8⟩ : DapData).link = link := by
    obtain ⟨swd, mask⟩ := link
    cases swd <;> rfl
  rw [← hlink, ← follows.same]
  exact determined_of_concludes fun b => hends b num _

/-- A handler that takes a fixed number of bytes, which matter only if another command
follows. -/
theorem Follows.fixed (follows : Follows handlerLimit rest last request done) {run : Buf → DapM Word32}
    (bytes stored : ℕ) (hbytes : bytes < handlerLimit) (hstored : stored < handlerLimit) {link : Link}
    (hknown : ∀ data len, request + bytes ≤ len →
      (Determined data len run s ↔
        done data len (sizes (BitVec.ofNat 32 bytes) (BitVec.ofNat 32 stored)) link))
    (hlast : last = true → Determined data len run s) :
    Determined data len run s ↔
      (last = false → request + bytes ≤ len) ∧
        done data len (sizes (BitVec.ofNat 32 bytes) (BitVec.ofNat 32 stored)) link := by
  by_cases hinside : request + bytes ≤ len
  · rw [hknown data len hinside]
    exact (and_iff_right fun _ => hinside).symm
  · cases last with
    | true =>
        exact iff_of_true (hlast rfl)
          ⟨fun h => absurd h.symm Bool.false_ne_true, follows.done_of_last rfl _ _⟩
    | false =>
        refine iff_of_false (fun h => ?_) fun h => hinside (h.1 rfl)
        -- with these bytes filled in, the next command would have to lie before them
        have hwider := h.extend (Nat.le_of_not_le hinside) (holds_filled data len 0#8)
        rw [hknown _ _ (le_refl _)] at hwider
        exact absurd (follows.reaches rfl _ _ _ _ _ hbytes hstored hwider) (lt_irrefl _)

end Follows

end ExLink.Dap
