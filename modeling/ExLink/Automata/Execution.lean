/-
# Runs that reach a result

What a program does against one environment: its run is over, with a result and with
states that meet a postcondition. A question that the environment leaves open reaches
nothing. The rules follow the program.
-/

import ExLink.Automata.Interaction

namespace ExLink.Automata.Prog

variable {Op : Type} {Ans : Op → Type} {α β σ ε : Type}

/-- The run ends, and what it ends with meets the postcondition. -/
def Attains (env : Environment Op Ans ε) (program : Stateful Op Ans σ α) (post : α → σ → ε → Prop)
    (s : σ) (e : ε) : Prop :=
  ∃ result, Outcome env program s e = some result ∧ post result.1.1 result.1.2 result.2

section Rules

variable {env : Environment Op Ans ε} {post : α → σ → ε → Prop} {s : σ} {e : ε}

theorem attains_bind {program : Stateful Op Ans σ β} {f : β → Stateful Op Ans σ α} :
    Attains env (program >>= f) post s e ↔
      Attains env program (fun value s e => Attains env (f value) post s e) s e := by
  constructor
  · rintro ⟨result, hrun, hpost⟩
    rw [outcome_bind, Option.bind_eq_some_iff] at hrun
    obtain ⟨middle, hprogram, hrest⟩ := hrun
    exact ⟨middle, hprogram, result, hrest, hpost⟩
  · rintro ⟨middle, hprogram, result, hrest, hpost⟩
    refine ⟨result, ?_, hpost⟩
    rw [outcome_bind, hprogram]
    exact hrest

theorem Attains.mono {program : Stateful Op Ans σ α} {weaker : α → σ → ε → Prop}
    (h : Attains env program post s e)
    (hpost : ∀ value s e, post value s e → weaker value s e) :
    Attains env program weaker s e := by
  obtain ⟨result, hrun, hmeets⟩ := h
  exact ⟨result, hrun, hpost _ _ _ hmeets⟩

/-- One program after another, each with what it is known to reach. -/
theorem Attains.bind {program : Stateful Op Ans σ β} {f : β → Stateful Op Ans σ α}
    {middle : β → σ → ε → Prop} (h : Attains env program middle s e)
    (hf : ∀ value s e, middle value s e → Attains env (f value) post s e) :
    Attains env (program >>= f) post s e :=
  attains_bind.mpr (h.mono hf)

end Rules

end ExLink.Automata.Prog
