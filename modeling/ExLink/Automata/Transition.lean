/-
# Runs of a transition system

A system takes one action at a time; an action that is not enabled has no
successor. A run is a list of actions, so that two parties that interleave are
one list. A condition on the steps of a run is again a system, the restricted
one, and needs no second notion of run.
-/

import Mathlib.Data.List.Induction

namespace ExLink.Automata

universe u v

variable {σ : Type u} {α : Type v}

/-- The state after a list of actions, if every one of them is enabled in turn. -/
def runActions (step : σ → α → Option σ) : σ → List α → Option σ
  | state, [] => some state
  | state, action :: rest => (step state action).bind fun next => runActions step next rest

/-- The system that only takes the steps a condition admits. -/
def restrict (step : σ → α → Option σ) (admits : σ → α → Prop)
    [∀ state action, Decidable (admits state action)] : σ → α → Option σ :=
  fun state action => if admits state action then step state action else none

section Runs

variable (step : σ → α → Option σ)

@[simp]
theorem runActions_nil (state : σ) : runActions step state [] = some state := rfl

theorem runActions_cons (state : σ) (action : α) (rest : List α) :
    runActions step state (action :: rest) =
      (step state action).bind fun next => runActions step next rest := rfl

theorem runActions_append (state : σ) (first second : List α) :
    runActions step state (first ++ second) =
      (runActions step state first).bind fun middle => runActions step middle second := by
  induction first generalizing state with
  | nil => rfl
  | cons action rest ih =>
      rw [List.cons_append, runActions_cons, runActions_cons, Option.bind_assoc]
      congr 1
      funext next
      exact ih next

variable {step}

theorem runActions_cons_eq_some {state final : σ} {action : α} {rest : List α} :
    runActions step state (action :: rest) = some final ↔
      ∃ next, step state action = some next ∧ runActions step next rest = some final := by
  rw [runActions_cons, Option.bind_eq_some_iff]

/-- What every step preserves, every run preserves. -/
theorem runActions_invariant {invariant : σ → Prop}
    (preserved : ∀ state action next,
      invariant state → step state action = some next → invariant next)
    {start final : σ} {actions : List α} (initially : invariant start)
    (hrun : runActions step start actions = some final) : invariant final := by
  induction actions generalizing start with
  | nil =>
      obtain rfl := Option.some.inj hrun
      exact initially
  | cons action rest ih =>
      obtain ⟨next, hstep, hrest⟩ := runActions_cons_eq_some.mp hrun
      exact ih (preserved start action next initially hstep) hrest

/-- The same for what a state owes to the actions taken before it. -/
theorem runActions_history (related : List α → σ → Prop) {start final : σ}
    {actions : List α} (initially : related [] start)
    (preserved : ∀ history state action next,
      related history state → step state action = some next →
        related (history ++ [action]) next)
    (hrun : runActions step start actions = some final) : related actions final := by
  induction actions using List.reverseRecOn generalizing final with
  | nil =>
      obtain rfl := Option.some.inj hrun
      exact initially
  | append_singleton history action ih =>
      rw [runActions_append, Option.bind_eq_some_iff] at hrun
      obtain ⟨middle, hhistory, hlast⟩ := hrun
      obtain ⟨next, hstep, hnext⟩ := runActions_cons_eq_some.mp hlast
      obtain rfl := Option.some.inj hnext
      exact preserved history middle action next (ih hhistory) hstep

end Runs

section Restricted

variable {step : σ → α → Option σ} {admits : σ → α → Prop}
  [∀ state action, Decidable (admits state action)]

theorem restrict_eq_some {state next : σ} {action : α} :
    restrict step admits state action = some next ↔
      admits state action ∧ step state action = some next := by
  rw [restrict]
  split_ifs with hadmits
  · simp [hadmits]
  · simp [hadmits]

/-- A run whose steps are all admitted is a run. -/
theorem runActions_of_restrict {start final : σ} {actions : List α}
    (hrun : runActions (restrict step admits) start actions = some final) :
    runActions step start actions = some final := by
  induction actions generalizing start with
  | nil => exact hrun
  | cons action rest ih =>
      obtain ⟨next, hstep, hrest⟩ := runActions_cons_eq_some.mp hrun
      exact runActions_cons_eq_some.mpr ⟨next, (restrict_eq_some.mp hstep).2, ih hrest⟩

/-- Where a condition decides at every step whether an invariant is kept or lost for
good, it decides for a run whether the invariant is lost. -/
theorem runActions_restrict_iff {invariant lost : σ → Prop}
    (disjoint : ∀ state, invariant state → ¬ lost state)
    (kept : ∀ state action next, invariant state → step state action = some next →
      admits state action → invariant next)
    (broken : ∀ state action next, invariant state → step state action = some next →
      ¬ admits state action → lost next)
    (stays : ∀ state action next, lost state → step state action = some next → lost next)
    {start final : σ} {actions : List α} (initially : invariant start)
    (hrun : runActions step start actions = some final) :
    runActions (restrict step admits) start actions = some final ↔ ¬ lost final := by
  induction actions generalizing start with
  | nil =>
      obtain rfl := Option.some.inj hrun
      exact iff_of_true rfl (disjoint start initially)
  | cons action rest ih =>
      obtain ⟨next, hstep, hrest⟩ := runActions_cons_eq_some.mp hrun
      by_cases hadmits : admits start action
      · have hnext : restrict step admits start action = some next :=
          restrict_eq_some.mpr ⟨hadmits, hstep⟩
        rw [runActions_cons, hnext, Option.bind_some]
        exact ih (kept start action next initially hstep hadmits) hrest
      · have hnext : restrict step admits start action = none := if_neg hadmits
        have hlost := runActions_invariant stays
          (broken start action next initially hstep hadmits) hrest
        rw [runActions_cons, hnext, Option.bind_none]
        exact iff_of_false (by simp) (not_not_intro hlost)

end Restricted

section Simulation

universe w x

variable {τ : Type w} {β : Type x}

/-- The labels that the steps of a run carry, in order. -/
def runLabels (step : σ → α → Option σ) (label : σ → α → List β) : σ → List α → List β
  | _, [] => []
  | state, action :: rest =>
      label state action ++
        (step state action).elim [] fun next => runLabels step label next rest

theorem runLabels_cons {step : σ → α → Option σ} {label : σ → α → List β} {state next : σ}
    {action : α} {rest : List α} (hstep : step state action = some next) :
    runLabels step label state (action :: rest) =
      label state action ++ runLabels step label next rest := by
  rw [runLabels, hstep, Option.elim_some]

theorem runLabels_append {step : σ → α → Option σ} {label : σ → α → List β}
    {state middle : σ} {first : List α} (second : List α)
    (hfirst : runActions step state first = some middle) :
    runLabels step label state (first ++ second) =
      runLabels step label state first ++ runLabels step label middle second := by
  induction first generalizing state with
  | nil =>
      obtain rfl := Option.some.inj hfirst
      rfl
  | cons action rest ih =>
      obtain ⟨next, hstep, hrest⟩ := runActions_cons_eq_some.mp hfirst
      rw [List.cons_append, runLabels_cons hstep, runLabels_cons hstep, ih hrest,
        List.append_assoc]

/-- Labels that each action allows are, over a run, some of those that its actions allow. -/
theorem runLabels_sublist {step : σ → α → Option σ} {label : σ → α → List β} {all : α → List β}
    (hlabel : ∀ state action, (label state action).Sublist (all action)) (state : σ)
    (actions : List α) : (runLabels step label state actions).Sublist (actions.flatMap all) := by
  induction actions generalizing state with
  | nil => exact List.Sublist.refl []
  | cons action rest ih =>
      rw [runLabels, List.flatMap_cons]
      apply (hlabel state action).append
      cases step state action with
      | none => exact List.nil_sublist _
      | some next => exact ih next

/-- What relates the labels so far to the state, for two kinds of labels, relates those
of a whole run to its end. -/
theorem runLabels_invariant {γ : Type w} {step : σ → α → Option σ} {first : σ → α → List β}
    {second : σ → α → List γ} {related : List β → List γ → σ → Prop}
    (preserved : ∀ before earlier state action next, related before earlier state →
      step state action = some next →
        related (before ++ first state action) (earlier ++ second state action) next)
    {start final : σ} {before : List β} {earlier : List γ} {actions : List α}
    (initially : related before earlier start)
    (hrun : runActions step start actions = some final) :
    related (before ++ runLabels step first start actions)
      (earlier ++ runLabels step second start actions) final := by
  induction actions generalizing start before earlier with
  | nil =>
      obtain rfl := Option.some.inj hrun
      simpa only [runLabels, List.append_nil] using initially
  | cons action rest ih =>
      obtain ⟨next, hstep, hrest⟩ := runActions_cons_eq_some.mp hrun
      have hnext := ih (preserved before earlier start action next initially hstep) hrest
      rwa [runLabels_cons hstep, runLabels_cons hstep, ← List.append_assoc, ← List.append_assoc]

/-- The same from the start of a run. -/
theorem runLabels_history {γ : Type w} {step : σ → α → Option σ} {first : σ → α → List β}
    {second : σ → α → List γ} (related : List β → List γ → σ → Prop)
    (preserved : ∀ before earlier state action next, related before earlier state →
      step state action = some next →
        related (before ++ first state action) (earlier ++ second state action) next)
    {start final : σ} {actions : List α} (initially : related [] [] start)
    (hrun : runActions step start actions = some final) :
    related (runLabels step first start actions) (runLabels step second start actions) final :=
  runLabels_invariant preserved initially hrun

/-- Forward simulation: where the specification takes the labels of every step and
stays related, it takes the labels of every run. A step without labels stutters. -/
theorem runActions_simulates {step : σ → α → Option σ} {spec : τ → β → Option τ}
    {label : σ → α → List β} {related : σ → τ → Prop}
    (simulates : ∀ state abstract action next,
      related state abstract → step state action = some next →
        ∃ after, runActions spec abstract (label state action) = some after ∧
          related next after)
    {start final : σ} {abstract : τ} {actions : List α} (initially : related start abstract)
    (hrun : runActions step start actions = some final) :
    ∃ after, runActions spec abstract (runLabels step label start actions) = some after ∧
      related final after := by
  induction actions generalizing start abstract with
  | nil =>
      obtain rfl := Option.some.inj hrun
      exact ⟨abstract, rfl, initially⟩
  | cons action rest ih =>
      obtain ⟨next, hstep, hrest⟩ := runActions_cons_eq_some.mp hrun
      obtain ⟨middle, hlabels, hrelated⟩ := simulates start abstract action next initially hstep
      obtain ⟨after, htail, hfinal⟩ := ih hrelated hrest
      refine ⟨after, ?_, hfinal⟩
      rw [runLabels_cons hstep, runActions_append, hlabels]
      exact htail

end Simulation

section Interleaving

universe w x

variable {τ : Type w} {β : Type x}

/-- Two systems side by side. An action is one of the first or one of the second. -/
def interleave (first : σ → α → Option σ) (second : τ → β → Option τ) :
    σ × τ → α ⊕ β → Option (σ × τ)
  | state, .inl action => (first state.1 action).map fun next => (next, state.2)
  | state, .inr action => (second state.2 action).map fun next => (state.1, next)

/-- Whatever the order, each system takes a run of its own. -/
theorem runActions_interleave {first : σ → α → Option σ} {second : τ → β → Option τ}
    {start final : σ × τ} {actions : List (α ⊕ β)}
    (hrun : runActions (interleave first second) start actions = some final) :
    runActions first start.1 (actions.filterMap Sum.getLeft?) = some final.1 ∧
      runActions second start.2 (actions.filterMap Sum.getRight?) = some final.2 := by
  induction actions generalizing start with
  | nil =>
      obtain rfl := Option.some.inj hrun
      exact ⟨rfl, rfl⟩
  | cons action rest ih =>
      obtain ⟨next, hstep, hrest⟩ := runActions_cons_eq_some.mp hrun
      obtain ⟨hfirst, hsecond⟩ := ih hrest
      cases action with
      | inl action =>
          obtain ⟨after, hafter, rfl⟩ := Option.map_eq_some_iff.mp hstep
          exact ⟨runActions_cons_eq_some.mpr ⟨after, hafter, hfirst⟩, hsecond⟩
      | inr action =>
          obtain ⟨after, hafter, rfl⟩ := Option.map_eq_some_iff.mp hstep
          exact ⟨hfirst, runActions_cons_eq_some.mpr ⟨after, hafter, hsecond⟩⟩

end Interleaving

end ExLink.Automata
