/-
# Single-producer single-consumer rings

`n` cells with a head index that only the producer moves and a tail index that
only the consumer moves. The ring is full when advancing the head would meet
the tail, so that it holds at most `n - 1` values. What a ring means is the
list of its contents, oldest first; the cells outside it are unrestricted.
-/

import Mathlib.Data.Nat.ModEq
import Mathlib.Data.List.Range
import Mathlib.Logic.Function.Basic

namespace ExLink

/-- A ring of `n` cells. -/
structure Ring (α : Type*) (n : ℕ) where
  cells : Fin n → α
  head : Fin n
  tail : Fin n

namespace Ring

variable {α : Type*} {n : ℕ}

/-- The index `count` cells further, wrapped. -/
def offset (index : Fin n) (count : ℕ) : Fin n :=
  ⟨(index + count) % n, Nat.mod_lt _ (Nat.zero_lt_of_lt index.2)⟩

/-- The next index, wrapped. -/
def next (index : Fin n) : Fin n := offset index 1

/-- The number of values held. -/
def size (ring : Ring α n) : ℕ := (ring.head + (n - ring.tail)) % n

/-- The values held, oldest first. -/
def contents (ring : Ring α n) : List α :=
  (List.range ring.size).map fun count => ring.cells (offset ring.tail count)

/-- No room for another value. -/
def Full (ring : Ring α n) : Prop := next ring.head = ring.tail

/-- Nothing to take. -/
def Empty (ring : Ring α n) : Prop := ring.tail = ring.head

instance (ring : Ring α n) : Decidable ring.Full := inferInstanceAs (Decidable (_ = _))

instance (ring : Ring α n) : Decidable ring.Empty := inferInstanceAs (Decidable (_ = _))

/-- Store a value in the head cell and move the head. -/
def push (ring : Ring α n) (value : α) : Ring α n :=
  { ring with cells := Function.update ring.cells ring.head value, head := next ring.head }

/-- The value in the tail cell. -/
def front (ring : Ring α n) : α := ring.cells ring.tail

/-- Move the tail past the front value. -/
def pop (ring : Ring α n) : Ring α n := { ring with tail := next ring.tail }

@[simp]
theorem length_contents (ring : Ring α n) : ring.contents.length = ring.size := by
  simp [contents]

theorem size_lt (ring : Ring α n) : ring.size < n :=
  Nat.mod_lt _ (Nat.zero_lt_of_lt ring.head.2)

theorem offset_offset (index : Fin n) (first second : ℕ) :
    offset (offset index first) second = offset index (first + second) := by
  apply Fin.ext
  simp only [offset, Nat.mod_add_mod, Nat.add_assoc]

/-- The size decides where the head stands. -/
theorem head_eq_offset (ring : Ring α n) : ring.head = offset ring.tail ring.size := by
  have htail := ring.tail.2
  have hhead := ring.head.2
  apply Fin.ext
  simp only [offset, size, Nat.add_mod_mod]
  rw [show (ring.tail : ℕ) + (ring.head + (n - ring.tail)) = ring.head + n by omega,
    Nat.add_mod_right, Nat.mod_eq_of_lt hhead]

/-- Fewer than `n` steps from an index reach distinct cells. -/
theorem offset_inj {index : Fin n} {first second : ℕ} (hfirst : first < n) (hsecond : second < n)
    (heq : offset index first = offset index second) : first = second := by
  have hmod := Nat.ModEq.add_left_cancel' (index : ℕ) (Fin.mk.inj heq)
  rwa [Nat.ModEq, Nat.mod_eq_of_lt hfirst, Nat.mod_eq_of_lt hsecond] at hmod

theorem empty_iff_size (ring : Ring α n) : ring.Empty ↔ ring.size = 0 := by
  constructor
  · intro hempty
    have htail := ring.tail.2
    rw [size, ← hempty, show (ring.tail : ℕ) + (n - ring.tail) = n by omega, Nat.mod_self]
  · intro hsize
    rw [Empty, ring.head_eq_offset, hsize, offset]
    exact Fin.ext (Nat.mod_eq_of_lt ring.tail.2).symm

theorem empty_iff_contents (ring : Ring α n) : ring.Empty ↔ ring.contents = [] := by
  rw [empty_iff_size, ← length_contents, List.length_eq_zero_iff]

/-- A full ring holds one value less than it has cells. -/
theorem full_iff_size (ring : Ring α n) : ring.Full ↔ ring.size + 1 = n := by
  have hsize := ring.size_lt
  have hzero : ring.tail = offset ring.tail 0 :=
    Fin.ext (Nat.mod_eq_of_lt ring.tail.2).symm
  have hnext : next ring.head = offset ring.tail (ring.size + 1) := by
    rw [next, ring.head_eq_offset, offset_offset]
  rw [Full, hnext]
  constructor
  · intro hfull
    by_contra hroom
    rw [hzero, offset_offset] at hfull
    have := offset_inj (by omega) (by omega) hfull
    omega
  · intro hfull
    rw [hfull]
    exact Fin.ext (by simp only [offset, Nat.add_mod_right, Nat.mod_eq_of_lt ring.tail.2])

theorem size_push {ring : Ring α n} {value : α} (room : ¬ ring.Full) :
    (ring.push value).size = ring.size + 1 := by
  have hsize := ring.size_lt
  rw [full_iff_size] at room
  have hhead : (ring.push value).head = offset ring.tail (ring.size + 1) := by
    rw [push, next, ring.head_eq_offset, offset_offset]
  have heq : offset ring.tail (ring.push value).size = offset ring.tail (ring.size + 1) :=
    ((ring.push value).head_eq_offset).symm.trans hhead
  exact offset_inj (ring.push value).size_lt (by omega) heq

theorem contents_push {ring : Ring α n} {value : α} (room : ¬ ring.Full) :
    (ring.push value).contents = ring.contents ++ [value] := by
  have hsize := ring.size_lt
  rw [contents, size_push room, List.range_succ, List.map_append, List.map_singleton]
  congr 1
  · apply List.map_congr_left
    intro count hcount
    have hlt := List.mem_range.mp hcount
    have hother : offset ring.tail count ≠ ring.head := by
      intro heq
      rw [ring.head_eq_offset] at heq
      have := offset_inj (by omega) hsize heq
      omega
    exact Function.update_of_ne hother _ _
  · have hcell : offset ring.tail ring.size = ring.head := ring.head_eq_offset.symm
    simp only [push, hcell, Function.update_self]

theorem size_pop {ring : Ring α n} (nonempty : ¬ ring.Empty) :
    ring.size = ring.pop.size + 1 := by
  have hsize := ring.size_lt
  have hpop := ring.pop.size_lt
  rw [empty_iff_size] at nonempty
  have hhead : offset ring.tail (ring.pop.size + 1) = offset ring.tail ring.size := by
    rw [← ring.head_eq_offset, Nat.add_comm, ← offset_offset]
    exact ring.pop.head_eq_offset.symm
  by_cases hlast : ring.pop.size + 1 = n
  · rw [hlast] at hhead
    have hzero : offset ring.tail n = offset ring.tail 0 :=
      Fin.ext (by simp only [offset, Nat.add_mod_right, Nat.add_zero])
    rw [hzero] at hhead
    exact absurd (offset_inj (by omega) hsize hhead).symm nonempty
  · exact (offset_inj (by omega) hsize hhead).symm

theorem contents_pop {ring : Ring α n} (nonempty : ¬ ring.Empty) :
    ring.contents = ring.front :: ring.pop.contents := by
  have hzero : offset ring.tail 0 = ring.tail := Fin.ext (Nat.mod_eq_of_lt ring.tail.2)
  rw [contents, size_pop nonempty, List.range_succ_eq_map, List.map_cons, hzero, contents,
    List.map_map]
  congr 1
  apply List.map_congr_left
  intro count _
  simp only [Function.comp_apply, pop, next, offset_offset, Nat.succ_eq_add_one,
    Nat.add_comm 1 count]

end Ring

end ExLink
