/-
# Programs with checkpoints

A checkpoint marks a place of a program and asks nothing. Without its checkpoints a
marked program is a plain one, which it stands for. A monitor follows a program: what it
remembers of the questions and checkpoints so far decides which may come next. A program
complies if it never does what may not be done, whatever it is answered.
-/

import ExLink.Automata.Interaction

namespace ExLink.Automata.Prog

variable {Op Mark : Type} {Ans : Op → Type} {α β γ δ σ : Type}

/-! ## Marked programs -/

/-- The answers where some questions are checkpoints. -/
abbrev MarkedAns (Ans : Op → Type) (Mark : Type) : Op ⊕ Mark → Type :=
  Sum.elim Ans fun _ => Unit

/-- A program with checkpoints. -/
abbrev Marked (Op : Type) (Ans : Op → Type) (Mark α : Type) : Type :=
  Prog (Op ⊕ Mark) (MarkedAns Ans Mark) α

/-- A program with checkpoints that carries a state. -/
abbrev MarkedM (Op : Type) (Ans : Op → Type) (Mark σ : Type) :=
  Stateful (Op ⊕ Mark) (MarkedAns Ans Mark) σ

/-- The program without its checkpoints. -/
def erase : Marked Op Ans Mark α → Prog Op Ans α
  | ret value => ret value
  | ask (.inl op) next => ask op fun answer => (next answer).erase
  | ask (.inr _) next => (next ()).erase

/-- A program without checkpoints. -/
def embed : Prog Op Ans α → Marked Op Ans Mark α
  | ret value => ret value
  | ask op next => ask (.inl op) fun answer => (next answer).embed

@[simp]
theorem erase_embed (program : Prog Op Ans α) :
    (program.embed : Marked Op Ans Mark α).erase = program := by
  induction program with
  | ret value => rfl
  | ask op next ih =>
      rw [embed, erase]
      congr 1
      funext answer
      exact ih answer

theorem erase_bind (program : Marked Op Ans Mark α) (f : α → Marked Op Ans Mark β) :
    (program.bind f).erase = program.erase.bind fun value => (f value).erase := by
  induction program with
  | ret value => rfl
  | ask op next ih =>
      cases op with
      | inl op =>
          rw [bind, erase, erase, bind]
          congr 1
          funext answer
          exact ih answer
      | inr mark =>
          rw [bind, erase, erase]
          exact ih ()

/-- A part without checkpoints. -/
def plain (program : Stateful Op Ans σ α) : MarkedM Op Ans Mark σ α :=
  fun s => (program.run s).embed

/-- Pass a checkpoint. -/
def checkpoint (mark : Mark) : MarkedM Op Ans Mark σ Unit :=
  fun s => ask (.inr mark) fun _ => ret ((), s)

/-- A marked program stands for a plain one, from whatever state. -/
def StandsFor (marked : MarkedM Op Ans Mark σ α)
    (program : Stateful Op Ans σ α) : Prop := ∀ s, (marked.run s).erase = program.run s

section StandsFor

theorem standsFor_pure (value : α) :
    StandsFor (pure value : MarkedM Op Ans Mark σ α) (pure value) :=
  fun _ => rfl

theorem standsFor_plain (program : Stateful Op Ans σ α) :
    StandsFor (plain program : MarkedM Op Ans Mark σ α) program :=
  fun s => erase_embed (program.run s)

theorem standsFor_bind {marked : MarkedM Op Ans Mark σ α}
    {program : Stateful Op Ans σ α}
    {f : α → MarkedM Op Ans Mark σ β} {g : α → Stateful Op Ans σ β}
    (hfirst : StandsFor marked program) (hrest : ∀ value, StandsFor (f value) (g value)) :
    StandsFor (marked >>= f) (program >>= g) := by
  intro s
  refine (erase_bind (marked.run s) fun result => (f result.1).run result.2).trans ?_
  rw [hfirst s]
  exact congrArg (program.run s).bind (funext fun result => hrest result.1 result.2)

/-- A plain part first. -/
theorem standsFor_plain_bind (program : Stateful Op Ans σ α)
    {f : α → MarkedM Op Ans Mark σ β} {g : α → Stateful Op Ans σ β}
    (hrest : ∀ value, StandsFor (f value) (g value)) :
    StandsFor (plain program >>= f) (program >>= g) :=
  standsFor_bind (standsFor_plain program) hrest

/-- A checkpoint stands for nothing. -/
theorem standsFor_checkpoint_bind (mark : Mark)
    {f : Unit → MarkedM Op Ans Mark σ β} {program : Stateful Op Ans σ β}
    (hrest : StandsFor (f ()) program) : StandsFor (checkpoint mark >>= f) program := hrest

theorem standsFor_get_bind {f : σ → MarkedM Op Ans Mark σ β}
    {g : σ → Stateful Op Ans σ β} (hrest : ∀ s, StandsFor (f s) (g s)) :
    StandsFor (get >>= f) (get >>= g) := fun s => hrest s s

theorem standsFor_modify_bind (change : σ → σ) {f : PUnit → MarkedM Op Ans Mark σ β}
    {g : PUnit → Stateful Op Ans σ β} (hrest : StandsFor (f ⟨⟩) (g ⟨⟩)) :
    StandsFor (modify change >>= f) (modify change >>= g) := fun s => hrest (change s)

/-- Reading the state only for a checkpoint. -/
theorem standsFor_get_only {f : σ → MarkedM Op Ans Mark σ β}
    {program : Stateful Op Ans σ β} (hrest : ∀ s, StandsFor (f s) program) :
    StandsFor (get >>= f) program := fun s => hrest s s

theorem standsFor_ite {c : Prop} [Decidable c]
    {first second : MarkedM Op Ans Mark σ α}
    {first' second' : Stateful Op Ans σ α} (hfirst : StandsFor first first')
    (hsecond : StandsFor second second') :
    StandsFor (if c then first else second) (if c then first' else second') := by
  split_ifs
  · exact hfirst
  · exact hsecond

end StandsFor

/-! ## Monitors -/

/-- What is remembered of a question when it is asked and when it is answered, and which
question may be asked then. -/
structure Monitor (Op : Type) (Ans : Op → Type) (γ : Type) where
  allowed : γ → Op → Prop
  asked : γ → Op → γ
  heard : γ → (op : Op) → Ans op → γ

variable (monitor : Monitor Op Ans γ)

/-- Whatever is answered, every question is allowed when it is asked, and a returned
value meets the postcondition. -/
def Complies (post : α → γ → Prop) : Prog Op Ans α → γ → Prop
  | ret value, ghost => post value ghost
  | ask op next, ghost =>
      monitor.allowed ghost op ∧
        ∀ answer, (next answer).Complies post (monitor.heard (monitor.asked ghost op) op answer)

variable {monitor}

theorem complies_mono {first second : α → γ → Prop}
    (hpost : ∀ value ghost, first value ghost → second value ghost) {program : Prog Op Ans α}
    {ghost : γ} (h : program.Complies monitor first ghost) :
    program.Complies monitor second ghost := by
  induction program generalizing ghost with
  | ret value => exact hpost value ghost h
  | ask op next ih => exact ⟨h.1, fun answer => ih answer (h.2 answer)⟩

theorem complies_bind (program : Prog Op Ans α) {f : α → Prog Op Ans β} {post : β → γ → Prop}
    {ghost : γ}
    (h : program.Complies monitor (fun value ghost => (f value).Complies monitor post ghost)
      ghost) :
    (program.bind f).Complies monitor post ghost := by
  induction program generalizing ghost with
  | ret value => exact h
  | ask op next ih => exact ⟨h.1, fun answer => ih answer (h.2 answer)⟩

/-- The monitor that allows everything. -/
def freely (Op : Type) (Ans : Op → Type) : Monitor Op Ans Unit where
  allowed _ _ := True
  asked _ _ := ()
  heard _ _ _ := ()

theorem complies_freely {post : α → Unit → Prop} (hpost : ∀ value, post value ())
    (program : Prog Op Ans α) : program.Complies (freely Op Ans) post () := by
  induction program with
  | ret value => exact hpost value
  | ask op next ih => exact ⟨trivial, fun answer => ih answer⟩

/-- Where a monitor of marked programs follows the parts without checkpoints, it does what
a monitor of plain programs does, seen through a view. -/
structure Monitor.Follows (whole : Monitor (Op ⊕ Mark) (MarkedAns Ans Mark) δ)
    (monitor : Monitor Op Ans γ) (view : γ → δ) : Prop where
  allowed : ∀ ghost op, monitor.allowed ghost op → whole.allowed (view ghost) (.inl op)
  asked : ∀ ghost op, whole.asked (view ghost) (.inl op) = view (monitor.asked ghost op)
  heard : ∀ ghost op (answer : Ans op),
    whole.heard (view ghost) (.inl op) answer = view (monitor.heard ghost op answer)

theorem complies_embed {whole : Monitor (Op ⊕ Mark) (MarkedAns Ans Mark) δ} {view : γ → δ}
    (follows : whole.Follows monitor view) {program : Prog Op Ans α} {post : α → δ → Prop}
    {ghost : γ} (h : program.Complies monitor (fun value ghost => post value (view ghost)) ghost) :
    (program.embed : Marked Op Ans Mark α).Complies whole post (view ghost) := by
  induction program generalizing ghost with
  | ret value => exact h
  | ask op next ih =>
      refine ⟨follows.allowed ghost op h.1, fun (answer : Ans op) => ?_⟩
      have hnext := ih answer (h.2 answer)
      rw [← follows.heard, ← follows.asked] at hnext
      exact hnext

/-- A program that carries a state complies from it. -/
def Monitored (monitor : Monitor Op Ans γ) (program : Stateful Op Ans σ α)
    (post : α → σ → γ → Prop) (s : σ) (ghost : γ) : Prop :=
  (program.run s).Complies monitor (fun result ghost => post result.1 result.2 ghost) ghost

section Rules

variable {s : σ} {ghost : γ}

theorem monitored_pure {value : α} {post : α → σ → γ → Prop} (h : post value s ghost) :
    Monitored monitor (pure value : Stateful Op Ans σ α) post s ghost := h

theorem monitored_bind {program : Stateful Op Ans σ β} {f : β → Stateful Op Ans σ α}
    {post : α → σ → γ → Prop}
    (h : Monitored monitor program (fun value s ghost => Monitored monitor (f value) post s ghost)
      s ghost) :
    Monitored monitor (program >>= f) post s ghost :=
  complies_bind (program.run s) h

theorem monitored_mono {program : Stateful Op Ans σ α} {first second : α → σ → γ → Prop}
    (h : Monitored monitor program first s ghost)
    (hpost : ∀ value s ghost, first value s ghost → second value s ghost) :
    Monitored monitor program second s ghost :=
  complies_mono (fun (result : α × σ) ghost => hpost result.1 result.2 ghost) h

theorem monitored_ite {c : Prop} [Decidable c] {first second : Stateful Op Ans σ α}
    {post : α → σ → γ → Prop} (hfirst : c → Monitored monitor first post s ghost)
    (hsecond : ¬ c → Monitored monitor second post s ghost) :
    Monitored monitor (if c then first else second) post s ghost := by
  split_ifs with hc
  · exact hfirst hc
  · exact hsecond hc

theorem monitored_if_pos {c : Prop} [Decidable c] {first second : Stateful Op Ans σ α}
    {post : α → σ → γ → Prop} (hc : c) (h : Monitored monitor first post s ghost) :
    Monitored monitor (if c then first else second) post s ghost := by
  rwa [if_pos hc]

theorem monitored_if_neg {c : Prop} [Decidable c] {first second : Stateful Op Ans σ α}
    {post : α → σ → γ → Prop} (hc : ¬ c) (h : Monitored monitor second post s ghost) :
    Monitored monitor (if c then first else second) post s ghost := by
  rwa [if_neg hc]

theorem monitored_get_bind {f : σ → Stateful Op Ans σ α} {post : α → σ → γ → Prop}
    (h : Monitored monitor (f s) post s ghost) :
    Monitored monitor (get >>= f) post s ghost := h

theorem monitored_modify_bind (change : σ → σ) {f : PUnit → Stateful Op Ans σ α}
    {post : α → σ → γ → Prop} (h : Monitored monitor (f ⟨⟩) post (change s) ghost) :
    Monitored monitor (modify change >>= f) post s ghost := h

theorem monitored_perform {op : Op} {post : Ans op → σ → γ → Prop}
    (hallowed : monitor.allowed ghost op)
    (h : ∀ answer, post answer s (monitor.heard (monitor.asked ghost op) op answer)) :
    Monitored monitor (perform op : Stateful Op Ans σ (Ans op)) post s ghost := ⟨hallowed, h⟩

theorem monitored_freely {program : Stateful Op Ans σ α} {post : α → σ → Unit → Prop}
    (hpost : ∀ value s, post value s ()) : Monitored (freely Op Ans) program post s () :=
  complies_freely (fun (result : α × σ) => hpost result.1 result.2) (program.run s)

end Rules

section MarkedRules

variable {whole : Monitor (Op ⊕ Mark) (MarkedAns Ans Mark) δ} {view : γ → δ} {s : σ} {ghost : γ}
  {seen : δ} {post : α → σ → δ → Prop}

theorem monitored_checkpoint_bind {mark : Mark} {f : Unit → MarkedM Op Ans Mark σ α}
    (hallowed : whole.allowed seen (.inr mark))
    (h : Monitored whole (f ()) post s (whole.heard (whole.asked seen (.inr mark)) (.inr mark) ())) :
    Monitored whole (checkpoint mark >>= f) post s seen := ⟨hallowed, fun _ => h⟩

theorem monitored_plain (follows : whole.Follows monitor view) {program : Stateful Op Ans σ α}
    (h : Monitored monitor program (fun value s ghost => post value s (view ghost)) s ghost) :
    Monitored whole (plain program : MarkedM Op Ans Mark σ α) post s (view ghost) :=
  complies_embed follows h

/-- A part without checkpoints first. -/
theorem monitored_plain_bind (follows : whole.Follows monitor view)
    {program : Stateful Op Ans σ β} {f : β → MarkedM Op Ans Mark σ α}
    (h : Monitored monitor program
      (fun value s ghost => Monitored whole (f value) post s (view ghost)) s ghost) :
    Monitored whole (plain program >>= f) post s (view ghost) :=
  monitored_bind (complies_embed follows h)

end MarkedRules

end ExLink.Automata.Prog
