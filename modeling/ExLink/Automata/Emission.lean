/-
# What the questions of a program put out

Some questions act on a device: each puts out a list of words, most of them none. A program
emits a list if that is what its questions put out in every world. Programs whose questions
put out nothing are silent; they may stand anywhere.
-/

import ExLink.Automata.Observation

namespace ExLink.Automata.Prog

variable {Op : Type} {Ans : Op → Type} {α β σ ε ω : Type}

/-- An environment that leaves no question open that has an answer. -/
structure World (Op : Type) (Ans : Op → Type) (ε : Type) where
  answer : Environment Op Ans ε
  answers : ∀ e op, Nonempty (Ans op) → (answer e op).isSome

/-! ## Emission -/

section Emission

variable (out : Op → List ω)

/-- What the questions of a run put out. -/
def emitted (env : Environment Op Ans ε) (program : Prog Op Ans α) (e : ε) : List ω :=
  (program.events (fun _ => true) env e).flatMap fun event => out event.1

/-- This is put out in every world, from whatever state. -/
def Emits (program : Stateful Op Ans σ α) (words : List ω) : Prop :=
  ∀ (s : σ) (ε : Type) (world : World Op Ans ε) (e : ε),
    emitted out world.answer (program.run s) e = words

variable {out}

theorem emitted_ask (env : Environment Op Ans ε) (op : Op) (next : Ans op → Prog Op Ans α) (e : ε) :
    emitted out env (ask op next) e =
      (env e op).elim [] fun answer => out op ++ emitted out env (next answer.1) answer.2 := by
  rw [emitted, events]
  cases env e op with
  | none => rfl
  | some answer =>
      rw [Option.elim_some, Option.elim_some, if_pos rfl, List.flatMap_append,
        List.flatMap_singleton]
      rfl

theorem emitted_bind (env : Environment Op Ans ε) (program : Prog Op Ans α)
    (f : α → Prog Op Ans β) (e : ε) :
    emitted out env (program.bind f) e =
      emitted out env program e ++
        (program.respond env e).elim [] fun result => emitted out env (f result.1) result.2 := by
  rw [emitted, events_bind, List.flatMap_append, ← emitted]
  cases program.respond env e <;> rfl

/-- Silent questions put out nothing. -/
theorem emitted_eq_nil {program : Prog Op Ans α}
    (h : program.Guarantees (asksOnly fun op => out op = []) (fun _ _ => True) ())
    (env : Environment Op Ans ε) (e : ε) : emitted out env program e = [] := by
  induction program generalizing e with
  | ret value => rfl
  | ask op next ih =>
      rw [emitted_ask]
      cases env e op with
      | none => rfl
      | some answer =>
          rw [Option.elim_some, (h answer.1).1, ih answer.1 (h answer.1).2]
          rfl

/-- Silent programs emit nothing. -/
theorem emits_of_silent {program : Stateful Op Ans σ α} (h : Asks (fun op => out op = []) program) :
    Emits out program [] := fun s _ world e => emitted_eq_nil (h s) world.answer e

/-- A question first, which has an answer. -/
theorem emits_perform_bind (op : Op) (hop : Nonempty (Ans op)) {f : Ans op → Stateful Op Ans σ α}
    {words : List ω} (h : ∀ answer, Emits out (f answer) words) :
    Emits out (perform op >>= f) (out op ++ words) := by
  intro s ε world e
  obtain ⟨given, hgiven⟩ := Option.isSome_iff_exists.mp (world.answers e op hop)
  have hnext := h given.1 s ε world given.2
  refine (emitted_ask world.answer op _ e).trans ?_
  rw [hgiven, Option.elim_some]
  exact congrArg (out op ++ ·) hnext

/-- A change of state first. -/
theorem emits_modify_bind (change : σ → σ) {f : PUnit → Stateful Op Ans σ α} {words : List ω}
    (h : Emits out (f ⟨⟩) words) : Emits out (modify change >>= f) words :=
  fun s => h (change s)

/-- A silent program last, whether or not the first one returns. -/
theorem emits_bind_silent {program : Stateful Op Ans σ β} {f : β → Stateful Op Ans σ α}
    {words : List ω} (hprogram : Emits out program words)
    (hf : ∀ value, Asks (fun op => out op = []) (f value)) : Emits out (program >>= f) words := by
  intro s ε world e
  refine (emitted_bind world.answer (program.run s) (fun result => (f result.1).run result.2)
    e).trans ?_
  rw [hprogram s ε world e]
  cases (program.run s).respond world.answer e with
  | none => exact List.append_nil words
  | some result =>
      rw [Option.elim_some, emitted_eq_nil (hf result.1.1 result.1.2), List.append_nil]

end Emission

end ExLink.Automata.Prog
