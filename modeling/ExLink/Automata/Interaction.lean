/-
# Programs that ask their environment

A program returns a value or asks a question and goes on with whatever it is answered.
Nothing is assumed of the answers, so a statement about every run is a statement about
every environment. A question without answers never returns.

A watch says which questions are allowed and what is remembered of those that were
asked. The weakest precondition of a program under a watch is computed along the
program; it holds exactly if every run asks what is allowed and ends as required.
-/

import Mathlib.Tactic.SplitIfs

namespace ExLink.Automata

/-- A program that asks questions of type `Op`. -/
inductive Prog (Op : Type) (Ans : Op → Type) (α : Type) : Type where
  | ret (value : α)
  | ask (op : Op) (next : Ans op → Prog Op Ans α)

namespace Prog

variable {Op : Type} {Ans : Op → Type} {α β γ σ ε : Type}

/-- Continue with the value that a program returns. -/
def bind : Prog Op Ans α → (α → Prog Op Ans β) → Prog Op Ans β
  | ret value, f => f value
  | ask op next, f => ask op fun answer => (next answer).bind f

instance : Monad (Prog Op Ans) where
  pure := ret
  bind := bind

/-- Ask one question. -/
def question (op : Op) : Prog Op Ans (Ans op) := ask op ret

/-! ## Runs -/

/-- A question with its answer. -/
abbrev Event (Ans : Op → Type) : Type := (op : Op) × Ans op

/-- A program after some of its questions were answered. -/
inductive Runs : Prog Op Ans α → List (Event Ans) → Prog Op Ans α → Prop
  | refl (program : Prog Op Ans α) : Runs program [] program
  | ask {op : Op} {next : Ans op → Prog Op Ans α} (answer : Ans op) {trace : List (Event Ans)}
      {rest : Prog Op Ans α} (tail : Runs (next answer) trace rest) :
      Runs (.ask op next) (⟨op, answer⟩ :: trace) rest

/-! ## Weakest preconditions -/

/-- Which questions are allowed, and what is remembered of those that were asked. -/
structure Watch (Op : Type) (γ : Type) where
  allowed : Op → Prop
  record : γ → Op → γ

variable (watch : Watch Op γ)

/-- What is remembered after a trace. -/
def Watch.recordAll (ghost : γ) (trace : List (Event Ans)) : γ :=
  trace.foldl (fun ghost event => watch.record ghost event.1) ghost

/-- Whatever is answered, only allowed questions are asked, and a returned value meets
the postcondition. -/
def Guarantees (post : α → γ → Prop) : Prog Op Ans α → γ → Prop
  | ret value, ghost => post value ghost
  | ask op next, ghost =>
      ∀ answer : Ans op, watch.allowed op ∧ (next answer).Guarantees post (watch.record ghost op)

/-- The weakest precondition is about all runs. -/
theorem guarantees_iff_runs (post : α → γ → Prop) (program : Prog Op Ans α) (ghost : γ) :
    program.Guarantees watch post ghost ↔
      ∀ trace rest, Runs program trace rest →
        (∀ event ∈ trace, watch.allowed event.1) ∧
          ∀ value, rest = ret value → post value (watch.recordAll ghost trace) := by
  induction program generalizing ghost with
  | ret value =>
      constructor
      · intro hpost trace rest hruns
        cases hruns
        refine ⟨by simp, ?_⟩
        rintro _ ⟨rfl⟩
        exact hpost
      · intro hall
        exact (hall [] _ (.refl _)).2 value rfl
  | ask op next ih =>
      constructor
      · intro hprogram trace rest hruns
        cases hruns with
        | refl => exact ⟨by simp, fun value hret => nomatch hret⟩
        | ask answer tail =>
            obtain ⟨hallowed, hnext⟩ := hprogram answer
            obtain ⟨htail, hpost⟩ := (ih answer _).mp hnext _ _ tail
            refine ⟨?_, hpost⟩
            intro event hevent
            cases hevent with
            | head => exact hallowed
            | tail _ hmem => exact htail event hmem
      · intro hall answer
        refine ⟨(hall [⟨op, answer⟩] _ (.ask answer (.refl _))).1 _ (.head _), ?_⟩
        apply (ih answer _).mpr
        intro trace rest hruns
        obtain ⟨hallowed, hpost⟩ := hall _ _ (.ask answer hruns)
        exact ⟨fun event hevent => hallowed event (.tail _ hevent), hpost⟩

theorem guarantees_bind (program : Prog Op Ans α) (f : α → Prog Op Ans β) (post : β → γ → Prop)
    (ghost : γ) :
    (program.bind f).Guarantees watch post ghost ↔
      program.Guarantees watch (fun value ghost => (f value).Guarantees watch post ghost) ghost := by
  induction program generalizing ghost with
  | ret value => exact Iff.rfl
  | ask op next ih =>
      rw [bind, Guarantees, Guarantees]
      exact forall_congr' fun answer => and_congr_right fun _ => ih answer _

theorem guarantees_mono {first second : α → γ → Prop}
    (hpost : ∀ value ghost, first value ghost → second value ghost) {program : Prog Op Ans α}
    {ghost : γ} (h : program.Guarantees watch first ghost) :
    program.Guarantees watch second ghost := by
  induction program generalizing ghost with
  | ret value => exact hpost value ghost h
  | ask op next ih => exact fun answer => ⟨(h answer).1, ih answer (h answer).2⟩

/-! ## Programs with a state of their own -/

/-- A program that also carries a state. -/
abbrev Stateful (Op : Type) (Ans : Op → Type) (σ : Type) := StateT σ (Prog Op Ans)

/-- Ask one question, state untouched. -/
def perform (op : Op) : Stateful Op Ans σ (Ans op) := StateT.lift (question op)

/-- The weakest precondition of a program from a state. -/
def Wp (program : Stateful Op Ans σ α) (post : α → σ → γ → Prop) (s : σ) (ghost : γ) : Prop :=
  (program.run s).Guarantees watch (fun result ghost => post result.1 result.2 ghost) ghost

section Rules

variable {watch} {post : α → σ → γ → Prop} {s : σ} {ghost : γ}

@[simp]
theorem wp_pure (value : α) :
    Wp watch (pure value : Stateful Op Ans σ α) post s ghost ↔ post value s ghost := Iff.rfl

@[simp]
theorem wp_bind (program : Stateful Op Ans σ β) (f : β → Stateful Op Ans σ α) :
    Wp watch (program >>= f) post s ghost ↔
      Wp watch program (fun value s ghost => Wp watch (f value) post s ghost) s ghost :=
  guarantees_bind watch (program.run s) (fun result => (f result.1).run result.2) _ ghost

@[simp]
theorem wp_get {post : σ → σ → γ → Prop} :
    Wp watch (get : Stateful Op Ans σ σ) post s ghost ↔ post s s ghost := Iff.rfl

@[simp]
theorem wp_modify {post : PUnit → σ → γ → Prop} (f : σ → σ) :
    Wp watch (modify f : Stateful Op Ans σ PUnit) post s ghost ↔ post ⟨⟩ (f s) ghost := Iff.rfl

@[simp]
theorem wp_perform (op : Op) {post : Ans op → σ → γ → Prop} :
    Wp watch (perform op : Stateful Op Ans σ (Ans op)) post s ghost ↔
      ∀ answer : Ans op, watch.allowed op ∧ post answer s (watch.record ghost op) := Iff.rfl

theorem wp_ite (c : Prop) [Decidable c] (first second : Stateful Op Ans σ α) :
    Wp watch (if c then first else second) post s ghost ↔
      if c then Wp watch first post s ghost else Wp watch second post s ghost := by
  split_ifs <;> exact Iff.rfl

theorem wp_mono {program : Stateful Op Ans σ α} {first second : α → σ → γ → Prop}
    (hpost : ∀ value s ghost, first value s ghost → second value s ghost)
    (h : Wp watch program first s ghost) : Wp watch program second s ghost := by
  apply guarantees_mono watch _ h
  intro result ghost hfirst
  exact hpost result.1 result.2 ghost hfirst

end Rules

/-! ## Environments -/

/-- An environment answers a question from a state of its own, or leaves it open. -/
abbrev Environment (Op : Type) (Ans : Op → Type) (ε : Type) :=
  ε → (op : Op) → Option (Ans op × ε)

/-- Run a program against an environment. An open question ends the run without a result. -/
def respond (env : Environment Op Ans ε) : Prog Op Ans α → ε → Option (α × ε)
  | ret value, e => some (value, e)
  | ask op next, e => (env e op).bind fun answer => (next answer.1).respond env answer.2

theorem respond_bind (env : Environment Op Ans ε) (program : Prog Op Ans α)
    (f : α → Prog Op Ans β) (e : ε) :
    (program.bind f).respond env e =
      (program.respond env e).bind fun result => (f result.1).respond env result.2 := by
  induction program generalizing e with
  | ret value => rfl
  | ask op next ih =>
      rw [bind, respond, respond, Option.bind_assoc]
      congr 1
      funext answer
      exact ih answer.1 answer.2

/-- What every answer of an environment keeps, a run keeps. -/
theorem respond_invariant {env : Environment Op Ans ε} {invariant : ε → Prop}
    (preserved : ∀ e op answer, invariant e → env e op = some answer → invariant answer.2)
    {program : Prog Op Ans α} {e : ε} {result : α × ε} (initially : invariant e)
    (hrun : program.respond env e = some result) : invariant result.2 := by
  induction program generalizing e with
  | ret value =>
      obtain rfl := Option.some.inj hrun
      exact initially
  | ask op next ih =>
      rw [respond, Option.bind_eq_some_iff] at hrun
      obtain ⟨answer, hanswer, hrest⟩ := hrun
      exact ih answer.1 (preserved e op answer initially hanswer) hrest

/-- The result of a program with a state of its own, with both states afterwards. -/
def Outcome (env : Environment Op Ans ε) (program : Stateful Op Ans σ α) (s : σ) (e : ε) :
    Option ((α × σ) × ε) :=
  (program.run s).respond env e

section Outcomes

variable {env : Environment Op Ans ε} {s : σ} {e : ε}

@[simp]
theorem outcome_pure (value : α) :
    Outcome env (pure value : Stateful Op Ans σ α) s e = some ((value, s), e) := rfl

@[simp]
theorem outcome_bind (program : Stateful Op Ans σ β) (f : β → Stateful Op Ans σ α) :
    Outcome env (program >>= f) s e =
      (Outcome env program s e).bind fun result => Outcome env (f result.1.1) result.1.2 result.2 :=
  respond_bind env (program.run s) (fun result => (f result.1).run result.2) e

/-- Continue after a program whose result is known. -/
theorem outcome_bind_of {program : Stateful Op Ans σ β} {value : β} {after : σ} {e' : ε}
    (hprogram : Outcome env program s e = some ((value, after), e'))
    (f : β → Stateful Op Ans σ α) :
    Outcome env (program >>= f) s e = Outcome env (f value) after e' := by
  rw [outcome_bind, hprogram, Option.bind_some]

@[simp]
theorem outcome_perform (op : Op) :
    Outcome env (perform op : Stateful Op Ans σ (Ans op)) s e =
      (env e op).map fun answer => ((answer.1, s), answer.2) := by
  cases henv : env e op with
  | none => simp [Outcome, perform, question, StateT.lift, StateT.run, Bind.bind, bind, respond, henv]
  | some answer =>
      simp [Outcome, perform, question, StateT.lift, StateT.run, Bind.bind, bind, Pure.pure, respond,
        henv]

theorem outcome_ite (c : Prop) [Decidable c] (first second : Stateful Op Ans σ α) :
    Outcome env (if c then first else second) s e =
      if c then Outcome env first s e else Outcome env second s e := by
  split_ifs <;> rfl

end Outcomes

end Prog

end ExLink.Automata
