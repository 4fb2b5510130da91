/-
# Programs that correspond

Two programs correspond if they ask corresponding questions in the same order, go on alike
after corresponding answers, and return corresponding values. Where two environments answer
corresponding questions alike, such programs end alike.
-/

import ExLink.Automata.Interaction
import Mathlib.Logic.Equiv.Defs

namespace ExLink.Automata.Prog

variable {Op : Type} {Ans : Op → Type} {α β γ δ σ ε ζ : Type}

/-- Which questions correspond, and how their answers do. -/
abbrev Questions (Op : Type) (Ans : Op → Type) : Type :=
  (op op' : Op) → (Ans op ≃ Ans op') → Prop

/-- Two programs ask, and return, alike. -/
inductive Corresponds (asks : Questions Op Ans) (returns : α → β → Prop) :
    Prog Op Ans α → Prog Op Ans β → Prop
  | ret {value : α} {value' : β} (h : returns value value') :
      Corresponds asks returns (.ret value) (.ret value')
  | ask {op op' : Op} {answers : Ans op ≃ Ans op'} (h : asks op op' answers)
      {next : Ans op → Prog Op Ans α} {next' : Ans op' → Prog Op Ans β}
      (hnext : ∀ answer, Corresponds asks returns (next answer) (next' (answers answer))) :
      Corresponds asks returns (.ask op next) (.ask op' next')

variable {asks : Questions Op Ans} {returns : α → β → Prop} {ends : γ → δ → Prop}

theorem Corresponds.bind {first : Prog Op Ans α} {second : Prog Op Ans β}
    (h : Corresponds asks returns first second) {f : α → Prog Op Ans γ} {g : β → Prog Op Ans δ}
    (hnext : ∀ value value', returns value value' → Corresponds asks ends (f value) (g value')) :
    Corresponds asks ends (first.bind f) (second.bind g) := by
  induction h with
  | ret h => exact hnext _ _ h
  | ask h _ ih => exact .ask h ih

theorem Corresponds.mono {weaker : α → β → Prop} {first : Prog Op Ans α} {second : Prog Op Ans β}
    (h : Corresponds asks returns first second)
    (hmono : ∀ value value', returns value value' → weaker value value') :
    Corresponds asks weaker first second := by
  induction h with
  | ret h => exact .ret (hmono _ _ h)
  | ask h _ ih => exact .ask h ih

/-! ## Programs with a state of their own -/

/-- From every state the programs ask and return alike, and leave the same state. -/
def Parallels (asks : Questions Op Ans) (returns : α → β → Prop) (first : Stateful Op Ans σ α)
    (second : Stateful Op Ans σ β) : Prop :=
  ∀ s, Corresponds asks (fun result result' => returns result.1 result'.1 ∧ result.2 = result'.2)
    (first.run s) (second.run s)

theorem parallels_pure {value : α} {value' : β} (h : returns value value') :
    Parallels asks returns (pure value : Stateful Op Ans σ α) (pure value') :=
  fun _ => .ret ⟨h, rfl⟩

theorem Parallels.bind {first : Stateful Op Ans σ α} {second : Stateful Op Ans σ β}
    (h : Parallels asks returns first second) {f : α → Stateful Op Ans σ γ}
    {g : β → Stateful Op Ans σ δ}
    (hnext : ∀ value value', returns value value' → Parallels asks ends (f value) (g value')) :
    Parallels asks ends (first >>= f) (second >>= g) := by
  intro s
  apply (h s).bind
  rintro ⟨value, s⟩ ⟨value', _⟩ ⟨hvalues, rfl⟩
  exact hnext value value' hvalues s

/-- Both go on with the same value. -/
theorem Parallels.bind_eq {first second : Stateful Op Ans σ α}
    (h : Parallels asks Eq first second) {f : α → Stateful Op Ans σ γ}
    {g : α → Stateful Op Ans σ δ} (hnext : ∀ value, Parallels asks ends (f value) (g value)) :
    Parallels asks ends (first >>= f) (second >>= g) :=
  h.bind fun value _ hsame => hsame ▸ hnext value

theorem parallels_get : Parallels asks Eq (get : Stateful Op Ans σ σ) get :=
  fun _ => .ret ⟨rfl, rfl⟩

theorem parallels_modify (change : σ → σ) :
    Parallels asks Eq (modify change : Stateful Op Ans σ PUnit) (modify change) :=
  fun _ => .ret ⟨rfl, rfl⟩

theorem parallels_perform {op op' : Op} {answers : Ans op ≃ Ans op'} (h : asks op op' answers) :
    Parallels asks (fun answer answer' => answer' = answers answer)
      (perform op : Stateful Op Ans σ (Ans op)) (perform op') :=
  fun _ => .ask h fun _ => .ret ⟨rfl, rfl⟩

theorem Parallels.ite {c : Prop} [Decidable c] {first first' : Stateful Op Ans σ α}
    {second second' : Stateful Op Ans σ β} (hthen : c → Parallels asks returns first second)
    (helse : ¬ c → Parallels asks returns first' second') :
    Parallels asks returns (if c then first else first') (if c then second else second') := by
  by_cases h : c
  · rw [if_pos h, if_pos h]
    exact hthen h
  · rw [if_neg h, if_neg h]
    exact helse h

/-- A program that is run on a condition, and what follows in both cases. -/
theorem Parallels.when {c : Prop} [Decidable c] {program program' : Stateful Op Ans σ Unit}
    (hprogram : c → Parallels asks Eq program program') {f : Unit → Stateful Op Ans σ α}
    {g : Unit → Stateful Op Ans σ β}
    (hnext : ∀ value, Parallels asks returns (f value) (g value)) :
    Parallels asks returns (if c then program >>= f else f ())
      (if c then program' >>= g else g ()) :=
  .ite (fun h => (hprogram h).bind_eq hnext) fun _ => hnext ()

theorem Parallels.mono {weaker : α → β → Prop} {first : Stateful Op Ans σ α}
    {second : Stateful Op Ans σ β} (h : Parallels asks returns first second)
    (hmono : ∀ value value', returns value value' → weaker value value') :
    Parallels asks weaker first second :=
  fun s => (h s).mono fun _ _ hresults => ⟨hmono _ _ hresults.1, hresults.2⟩

/-! ## Environments -/

/-- Two environments answer corresponding questions alike. -/
def Agrees (asks : Questions Op Ans) (env : Environment Op Ans ε) (env' : Environment Op Ans ζ)
    (worlds : ε → ζ → Prop) : Prop :=
  ∀ op op' answers, asks op op' answers → ∀ e z, worlds e z →
    Option.Rel (fun answer answer' => answer'.1 = answers answer.1 ∧ worlds answer.2 answer'.2)
      (env e op) (env' z op')

/-- Corresponding programs end alike. -/
theorem Corresponds.respond {first : Prog Op Ans α} {second : Prog Op Ans β}
    (h : Corresponds asks returns first second) {env : Environment Op Ans ε}
    {env' : Environment Op Ans ζ} {worlds : ε → ζ → Prop} (hagrees : Agrees asks env env' worlds)
    {e : ε} {z : ζ} (hworlds : worlds e z) :
    Option.Rel (fun result result' => returns result.1 result'.1 ∧ worlds result.2 result'.2)
      (first.respond env e) (second.respond env' z) := by
  induction h generalizing e z with
  | ret h => exact .some ⟨h, hworlds⟩
  | @ask op op' answers h next next' _ ih =>
      have hanswered := hagrees op op' answers h e z hworlds
      rw [Prog.respond, Prog.respond]
      generalize env e op = answered at hanswered ⊢
      generalize env' z op' = answered' at hanswered ⊢
      cases hanswered with
      | none => exact .none
      | @some answer answer' hanswers =>
          obtain ⟨hsame, hafter⟩ := hanswers
          rw [Option.bind_some, Option.bind_some, hsame]
          exact ih answer.1 hafter

end ExLink.Automata.Prog
