/-
# Feeding a sequence through a Mealy machine

A machine consumes one symbol at a time, emits one output a symbol, and keeps a
state. The trace pairs every output with the state right after it, which is the
moment at which a caller of the machine looks at both. Invariants are stated
over the consumed history, so that one step lemma gives the whole run.
-/

import Mathlib.Data.List.Induction

namespace ExLink.Automata

universe u v w

variable {σ : Type u} {ι : Type v} {ω : Type w}

/-- The state after a whole input sequence. -/
def runMealy (step : σ → ι → ω × σ) : σ → List ι → σ
  | state, [] => state
  | state, symbol :: rest => runMealy step (step state symbol).2 rest

/-- Every output, in order, with the state in which it leaves the machine. -/
def traceMealy (step : σ → ι → ω × σ) : σ → List ι → List (ω × σ)
  | _, [] => []
  | state, symbol :: rest =>
      step state symbol :: traceMealy step (step state symbol).2 rest

section Equations

variable (step : σ → ι → ω × σ)

@[simp]
theorem runMealy_nil (state : σ) : runMealy step state [] = state := rfl

@[simp]
theorem runMealy_cons (state : σ) (symbol : ι) (rest : List ι) :
    runMealy step state (symbol :: rest) = runMealy step (step state symbol).2 rest := rfl

@[simp]
theorem traceMealy_nil (state : σ) : traceMealy step state [] = [] := rfl

@[simp]
theorem traceMealy_cons (state : σ) (symbol : ι) (rest : List ι) :
    traceMealy step state (symbol :: rest) =
      step state symbol :: traceMealy step (step state symbol).2 rest := rfl

theorem runMealy_append (state : σ) (first second : List ι) :
    runMealy step state (first ++ second) =
      runMealy step (runMealy step state first) second := by
  induction first generalizing state with
  | nil => rfl
  | cons symbol rest ih => exact ih _

theorem traceMealy_append (state : σ) (first second : List ι) :
    traceMealy step state (first ++ second) =
      traceMealy step state first ++ traceMealy step (runMealy step state first) second := by
  induction first generalizing state with
  | nil => rfl
  | cons symbol rest ih =>
      simp only [List.cons_append, traceMealy_cons, runMealy_cons, ih]

@[simp]
theorem length_traceMealy (state : σ) (input : List ι) :
    (traceMealy step state input).length = input.length := by
  induction input generalizing state with
  | nil => rfl
  | cons symbol rest ih => simp only [traceMealy_cons, List.length_cons, ih]

/-- The entry at one position is the step taken from the state before it. -/
theorem getElem?_traceMealy (state : σ) (input : List ι) (position : ℕ) :
    (traceMealy step state input)[position]? =
      input[position]?.map (step (runMealy step state (input.take position))) := by
  induction input generalizing state position with
  | nil => simp
  | cons symbol rest ih =>
      cases position with
      | zero => simp
      | succ position => simpa using ih (step state symbol).2 position

/-- Every entry is a step from some state on some symbol. -/
theorem mem_traceMealy {step : σ → ι → ω × σ} {state : σ} {input : List ι} {entry : ω × σ}
    (hmem : entry ∈ traceMealy step state input) :
    ∃ before symbol, entry = step before symbol := by
  induction input generalizing state with
  | nil => exact absurd hmem List.not_mem_nil
  | cons symbol rest ih =>
      rcases List.mem_cons.mp hmem with rfl | hrest
      · exact ⟨state, symbol, rfl⟩
      · exact ih hrest

end Equations

section Invariants

variable {step : σ → ι → ω × σ}

/-- A relation between the consumed history and the state that holds at the
start and survives one symbol holds after every input. -/
theorem runMealy_history (related : List ι → σ → Prop) {start : σ}
    (base : related [] start)
    (extend : ∀ history state symbol, related history state →
      related (history ++ [symbol]) (step state symbol).2)
    (input : List ι) : related input (runMealy step start input) := by
  induction input using List.reverseRecOn with
  | nil => exact base
  | append_singleton history symbol ih =>
      rw [runMealy_append]
      exact extend history _ symbol ih

/-- Where a condition on the state before a step decides whether an invariant survives it,
the invariant holds in every state of a run exactly if it holds at the start and every step
meets the condition. -/
theorem runMealy_invariant_iff {invariant : σ → Prop} {keeps : σ → ι → Prop}
    (decides : ∀ state symbol, invariant state →
      (invariant (step state symbol).2 ↔ keeps state symbol))
    (start : σ) (input : List ι) :
    (∀ before after, input = before ++ after → invariant (runMealy step start before)) ↔
      invariant start ∧ ∀ before symbol after, input = before ++ symbol :: after →
        keeps (runMealy step start before) symbol := by
  induction input generalizing start with
  | nil =>
      constructor
      · intro hall
        exact ⟨hall [] [] rfl, fun before _ _ h => by simp at h⟩
      · rintro ⟨hstart, -⟩ before after h
        obtain ⟨rfl, -⟩ := List.append_eq_nil_iff.mp h.symm
        exact hstart
  | cons first rest ih =>
      have hrest := ih (step start first).2
      constructor
      · intro hall
        have hstart : invariant start := hall [] (first :: rest) rfl
        have hnext := hrest.mp fun before after h =>
          hall (first :: before) after (by rw [h, List.cons_append])
        refine ⟨hstart, ?_⟩
        rintro (_ | ⟨symbol, before⟩) last after h
        · obtain ⟨rfl, -⟩ := List.cons_eq_cons.mp h
          exact (decides start first hstart).mp hnext.1
        · obtain ⟨rfl, htail⟩ := List.cons_eq_cons.mp h
          exact hnext.2 before last after htail
      · rintro ⟨hstart, hkeeps⟩
        have hnext := hrest.mpr
          ⟨(decides start first hstart).mpr (hkeeps [] first rest rfl),
            fun before last after h => hkeeps (first :: before) last after (by rw [h, List.cons_append])⟩
        rintro (_ | ⟨symbol, before⟩) after h
        · exact hstart
        · obtain ⟨rfl, htail⟩ := List.cons_eq_cons.mp h
          exact hnext before after htail

/-- A machine whose quiet steps keep an invariant and use up a measure is not quiet
for longer than that measure. -/
theorem exists_loud_of_decreasing (step : σ → ι → ω × σ) (quiet : ω → Prop)
    (invariant : σ → Prop) (measure : σ → ℕ)
    (positive : ∀ state, invariant state → 0 < measure state)
    (decreases : ∀ state symbol, invariant state → quiet (step state symbol).1 →
      invariant (step state symbol).2 ∧ measure (step state symbol).2 < measure state)
    {start : σ} (initially : invariant start) {input : List ι}
    (long : measure start ≤ input.length) :
    ∃ before symbol after, input = before ++ symbol :: after ∧ before.length < measure start ∧
      ¬ quiet (step (runMealy step start before) symbol).1 := by
  induction input generalizing start with
  | nil =>
      have hpos := positive start initially
      rw [List.length_nil] at long
      omega
  | cons symbol rest ih =>
      by_cases hquiet : quiet (step start symbol).1
      · obtain ⟨hkept, hless⟩ := decreases start symbol initially hquiet
        rw [List.length_cons] at long
        obtain ⟨before, loud, after, hrest, hcount, hloud⟩ := ih hkept (by omega)
        refine ⟨symbol :: before, loud, after, ?_, ?_, hloud⟩
        · rw [hrest, List.cons_append]
        · rw [List.length_cons]
          omega
      · exact ⟨[], symbol, rest, rfl, positive start initially, hquiet⟩

end Invariants

end ExLink.Automata
