/-
# Registers and posted reads

Registers that are read and written one at a time; a read may have an effect, so that the
number and the order of the accesses matter. Reads of some registers are posted: what such
a read obtains is fetched by a read of a buffer right after it.
-/

import Mathlib.Data.List.Basic

namespace ExLink.Automata

/-- Registers with their accesses. -/
structure Registers (Reg Word σ : Type*) where
  read : Reg → σ → Word × σ
  write : Reg → Word → σ → σ

namespace Registers

variable {Reg Word σ : Type*} (registers : Registers Reg Word σ)

/-- Read until a word is accepted, after the first read `retries` times at most. -/
def poll (reg : Reg) (accepts : Word → Bool) : ℕ → σ → Bool × σ
  | 0, s => (accepts (registers.read reg s).1, (registers.read reg s).2)
  | retries + 1, s =>
      if accepts (registers.read reg s).1 then (true, (registers.read reg s).2)
      else poll reg accepts retries (registers.read reg s).2

end Registers

/-- Registers of which some are read by posting: a read of the buffer that follows at once
returns what the posted read obtained. What the buffer returns otherwise is not said. Whether
it was read before makes no difference to a posted read. -/
structure PostedRegisters (Reg Word σ : Type*) (posts : Reg → Bool) (buffer : Reg)
    extends Registers Reg Word σ where
  read_buffer : ∀ reg s, posts reg = true → (read buffer (read reg s).2).1 = (read reg s).1
  read_after_buffer : ∀ reg s, posts reg = true → read reg (read buffer s).2 = read reg s

namespace PostedRegisters

variable {Reg Word σ : Type*} {posts : Reg → Bool} {buffer : Reg}
  (registers : PostedRegisters Reg Word σ posts buffer)

/-- A read with its word: of a posted read it is fetched. -/
def readWord (reg : Reg) (s : σ) : Word × σ :=
  if posts reg then registers.read buffer (registers.read reg s).2 else registers.read reg s

/-- The word is what the read obtained. -/
@[simp]
theorem fst_readWord (reg : Reg) (s : σ) :
    (registers.readWord reg s).1 = (registers.read reg s).1 := by
  rw [readWord]
  split_ifs with hposts
  · exact registers.read_buffer reg s hposts
  · rfl

theorem readWord_of_posts {reg : Reg} (hposts : posts reg = true) (s : σ) :
    registers.readWord reg s = registers.read buffer (registers.read reg s).2 :=
  if_pos hposts

/-- Where the registers are but for the buffer, which may have been read since. -/
def UpToBuffer (s s' : σ) : Prop := s' = s ∨ s' = (registers.read buffer s).2

theorem UpToBuffer.refl (s : σ) : registers.UpToBuffer s s := Or.inl rfl

end PostedRegisters

end ExLink.Automata
