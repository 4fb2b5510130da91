/-
# Bounded queues

What a single-producer single-consumer ring is for, without its cells and
indices: a list of at most `capacity` values, appended to at one end and taken
from at the other. The queue keeps the whole history of both ends, so that
"in order, each once" is an equation between lists.
-/

import ExLink.Automata.Transition
import Mathlib.Data.List.ReduceOption

namespace ExLink

open ExLink.Automata

universe u

/-- A queue with everything appended to it and every result of a take so far;
`none` is a take that found nothing. -/
structure Fifo (α : Type u) where
  contents : List α
  appended : List α
  results : List (Option α)

/-- A put offers values in order; a take gives a result. -/
inductive FifoEvent (α : Type u) where
  | put (values : List α)
  | get (result : Option α)

namespace Fifo

variable {α : Type u}

/-- The empty queue. -/
def init : Fifo α := ⟨[], [], []⟩

/-- The values of a put that find room, which are its first ones. -/
def fitting (capacity : ℕ) (q : Fifo α) (values : List α) : List α :=
  values.take (capacity - q.contents.length)

/-- A put appends what fits. A take finds nothing exactly when the queue is empty,
and else removes the oldest value. -/
def step (capacity : ℕ) [DecidableEq α] (q : Fifo α) : FifoEvent α → Option (Fifo α)
  | .put values =>
      some { q with
        contents := q.contents ++ q.fitting capacity values
        appended := q.appended ++ q.fitting capacity values }
  | .get result =>
      if result = q.contents.head? then
        some { q with contents := q.contents.tail, results := q.results ++ [result] }
      else none

/-- What a queue owes to its history: the values taken and the values held are the
values appended, and there are never too many. -/
def Sound (capacity : ℕ) (q : Fifo α) : Prop :=
  q.appended = q.results.reduceOption ++ q.contents ∧ q.contents.length ≤ capacity

theorem sound_init (capacity : ℕ) : (init : Fifo α).Sound capacity :=
  ⟨rfl, Nat.zero_le capacity⟩

theorem length_fitting (capacity : ℕ) (q : Fifo α) (values : List α) :
    (q.fitting capacity values).length =
      min values.length (capacity - q.contents.length) := by
  rw [fitting, List.length_take, Nat.min_comm]

theorem sound_step {capacity : ℕ} [DecidableEq α] {q next : Fifo α} {event : FifoEvent α}
    (sound : q.Sound capacity) (hstep : q.step capacity event = some next) :
    next.Sound capacity := by
  obtain ⟨hhistory, hroom⟩ := sound
  cases event with
  | put values =>
      obtain rfl := Option.some.inj hstep
      refine ⟨?_, ?_⟩
      · rw [hhistory, List.append_assoc]
      · rw [List.length_append, length_fitting]
        omega
  | get result =>
      rw [step] at hstep
      split_ifs at hstep with hresult
      obtain rfl := Option.some.inj hstep
      cases hcontents : q.contents with
      | nil =>
          rw [hcontents] at hresult hhistory
          simp [Sound, hresult, hhistory, List.reduceOption_append]
      | cons value rest =>
          rw [hcontents] at hresult hhistory hroom
          rw [List.length_cons] at hroom
          have htaken : q.results.reduceOption ++ value :: rest =
              (q.results ++ [some value]).reduceOption ++ rest := by
            simp [List.reduceOption_append]
          exact ⟨by simpa [hresult] using hhistory.trans htaken, by simp only [List.tail_cons]; omega⟩

/-- Whole histories: every value appended is taken once, in order, or still held. -/
theorem sound_run {capacity : ℕ} [DecidableEq α] {q : Fifo α} {events : List (FifoEvent α)}
    (hrun : runActions (step capacity) init events = some q) : q.Sound capacity :=
  runActions_invariant (fun _ _ _ sound hstep => sound_step sound hstep)
    (sound_init capacity) hrun

end Fifo

end ExLink
