/-
# The wait of DAP_SWJ_Pins

The loop polls the selected pins until all of them have their requested levels or a
time has passed. The port's time stamp stands still, so that only the pins can end it:
the command returns exactly if no wait is asked for or some poll finds every level.
The pins are a history, the levels that their reads see one after another.
-/

import ExLink.Automata.Observation
import ExLink.Dap.Command

namespace ExLink.Dap

open ExLink.Automata ExLink.Automata.Prog

/-- The pins as the reads see them: read number `reads` finds the level `levels reads`.
The other questions of the command are not about levels. -/
def pinEnv (levels : ℕ → Bool) : Environment DapOp DapOp.Answer ℕ
  | reads, .pinIn _ => some (levels reads, reads + 1)
  | reads, .load _ | reads, .store _ _ | reads, .pinOut _ _ | reads, .pinDirection _ _ =>
      some ((), reads)
  | _, _ => none

section Asks

variable {asked : DapOp → Prop} {value select : Word32}

theorem asks_pinMatches {bit : ℕ} {level : DapM Word32} {rest : DapM Bool}
    (hlevel : Asks asked level) (hrest : Asks asked rest) :
    Asks asked (pinMatches value select bit level rest) :=
  asks_ite (asks_bind hlevel fun _ => asks_ite (asks_pure _) hrest) hrest

theorem asks_pinIn {pin : Pin} (hpin : asked (.pinIn pin)) : Asks asked (pinIn pin) :=
  asks_bind (asks_perform hpin) fun _ => asks_pure _

/-- The wait asks for levels, and for nothing if it was given up. -/
theorem asks_swjPinsWait (asked : DapOp → Prop) (hpin : ∀ pin, asked (.pinIn pin)) (hspin : asked .spin)
    (wait timestamp : Word32) (polls : ℕ) :
    Asks asked (swjPinsWait value select wait timestamp polls) := by
  have hmatch : Asks asked (pinsMatch value select) :=
    asks_pinMatches (asks_pinIn (hpin _)) (asks_pinMatches (asks_pinIn (hpin _))
      (asks_pinMatches (asks_pure _) (asks_pinMatches (asks_pure _)
        (asks_pinMatches (asks_pinIn (hpin _)) (asks_pure _)))))
  induction polls with
  | zero =>
      exact asks_bind hmatch fun _ => asks_ite (asks_pure _)
        (asks_bind (asks_perform hspin) fun never => never.elim)
  | succ polls ih => exact asks_bind hmatch fun _ => asks_ite (asks_pure _) ih

end Asks

/-- `DAP_SWJ_Pins` returns within a number of polls after the first. -/
def SwjPinsReturns (buf : Buf) (request response : ℕ) (data : DapData) (levels : ℕ → Bool)
    (polls : ℕ) : Prop :=
  (Outcome (pinEnv levels) (dapSwjPins buf request response polls) data 0).isSome

/-- The pins that a poll compares, and whether the port reads them: TDI and nTRST are
constant 0. -/
def polledPins : List (ℕ × Bool) := [(0, true), (1, true), (2, false), (5, false), (7, true)]

/-- What `PIN_…_IN` returns, and the number of the read after it. -/
def seenLevel (levels : ℕ → Bool) (wired : Bool) (reads : ℕ) : Word32 × ℕ :=
  if wired then (if levels reads then 1#32 else 0#32, reads + 1) else (0#32, reads)

/-- One poll from a read number on: whether each selected pin has the requested level,
which is the whole shifted value, and the number of the next read. The first pin that
has not ends the poll. -/
def poll (value select : Word32) (levels : ℕ → Bool) : List (ℕ × Bool) → ℕ → Bool × ℕ
  | [], reads => (true, reads)
  | (bit, wired) :: rest, reads =>
      if BitSelected select bit then
        if value >>> bit = (seenLevel levels wired reads).1 then
          poll value select levels rest (seenLevel levels wired reads).2
        else (false, (seenLevel levels wired reads).2)
      else poll value select levels rest reads

/-- The read number with which a poll begins. -/
def pollStart (value select : Word32) (levels : ℕ → Bool) (turn : ℕ) : ℕ :=
  (fun reads => (poll value select levels polledPins reads).2)^[turn] 0

/-- In the given turn every selected pin has its requested level. -/
def LevelsReached (value select : Word32) (levels : ℕ → Bool) (turn : ℕ) : Prop :=
  (poll value select levels polledPins (pollStart value select levels turn)).1 = true

section Polls

variable {value select : Word32} {levels : ℕ → Bool} {data : DapData}

theorem outcome_pinIn (pin : Pin) (reads : ℕ) :
    Outcome (pinEnv levels) (pinIn pin) data reads =
      some (((seenLevel levels true reads).1, data), (seenLevel levels true reads).2) := by
  rw [pinIn, ask, outcome_bind, outcome_perform]
  rfl

theorem outcome_pinMatches {bit : ℕ} {wired : Bool} {level : DapM Word32} {rest : DapM Bool}
    {pins : List (ℕ × Bool)}
    (hlevel : ∀ reads, Outcome (pinEnv levels) level data reads =
      some (((seenLevel levels wired reads).1, data), (seenLevel levels wired reads).2))
    (hrest : ∀ reads, Outcome (pinEnv levels) rest data reads =
      some (((poll value select levels pins reads).1, data),
        (poll value select levels pins reads).2))
    (reads : ℕ) :
    Outcome (pinEnv levels) (pinMatches value select bit level rest) data reads =
      some (((poll value select levels ((bit, wired) :: pins) reads).1, data),
        (poll value select levels ((bit, wired) :: pins) reads).2) := by
  rw [pinMatches, poll]
  by_cases hselected : BitSelected select bit
  · rw [if_pos hselected, if_pos hselected, outcome_bind, hlevel, Option.bind_some, outcome_ite]
    by_cases hreached : value >>> bit = (seenLevel levels wired reads).1
    · have hsame : ¬ value >>> bit ^^^ (seenLevel levels wired reads).1 ≠ 0#32 :=
        not_not_intro (BitVec.xor_eq_zero_iff.mpr hreached)
      rw [if_neg hsame, if_pos hreached]
      exact hrest _
    · have hother : value >>> bit ^^^ (seenLevel levels wired reads).1 ≠ 0#32 :=
        mt BitVec.xor_eq_zero_iff.mp hreached
      rw [if_pos hother, if_neg hreached, outcome_pure]
  · rw [if_neg hselected, if_neg hselected]
    exact hrest reads

/-- The comparisons of one turn are one poll. -/
theorem outcome_pinsMatch (reads : ℕ) :
    Outcome (pinEnv levels) (pinsMatch value select) data reads =
      some (((poll value select levels polledPins reads).1, data),
        (poll value select levels polledPins reads).2) := by
  have hconstant : ∀ reads, Outcome (pinEnv levels) (pure 0#32 : DapM Word32) data reads =
      some (((seenLevel levels false reads).1, data), (seenLevel levels false reads).2) :=
    fun _ => rfl
  have hnone : ∀ reads, Outcome (pinEnv levels) (pure true : DapM Bool) data reads =
      some (((poll value select levels [] reads).1, data),
        (poll value select levels [] reads).2) := fun _ => rfl
  exact outcome_pinMatches (outcome_pinIn .swclkTck)
    (outcome_pinMatches (outcome_pinIn .swdioTms)
      (outcome_pinMatches hconstant
        (outcome_pinMatches hconstant
          (outcome_pinMatches (outcome_pinIn .nReset) hnone)))) reads

/-- The wait ends within a number of polls exactly if one of them finds every level. -/
theorem outcome_swjPinsWait (polls turn : ℕ) :
    (Outcome (pinEnv levels) (swjPinsWait value select 1#32 timestampGet polls) data
        (pollStart value select levels turn)).isSome ↔
      ∃ count ≤ polls, LevelsReached value select levels (turn + count) := by
  -- the time stamp stands still, so no turn is the last one
  have hwaiting : ¬ ¬ timestampGet - timestampGet < 1#32 := not_not_intro (by decide)
  have hnext : ∀ turn, (poll value select levels polledPins
      (pollStart value select levels turn)).2 = pollStart value select levels (turn + 1) := by
    intro turn
    rw [pollStart, pollStart, Function.iterate_succ_apply']
  induction polls generalizing turn with
  | zero =>
      rw [swjPinsWait, outcome_bind_of (outcome_pinsMatch _), outcome_ite]
      by_cases hreached : LevelsReached value select levels turn
      · have hmatched := hreached
        rw [LevelsReached] at hmatched
        rw [if_pos (Or.inl hmatched), outcome_pure]
        exact iff_of_true rfl ⟨0, le_rfl, hreached⟩
      · have hmissed := hreached
        rw [LevelsReached] at hmissed
        have hgoesOn := not_or.mpr ⟨hmissed, hwaiting⟩
        rw [if_neg hgoesOn]
        apply iff_of_false
        · simp [ask, pinEnv]
        · rintro ⟨count, hcount, hlater⟩
          obtain rfl := Nat.le_zero.mp hcount
          exact hreached hlater
  | succ polls ih =>
      rw [swjPinsWait, outcome_bind_of (outcome_pinsMatch _), outcome_ite]
      by_cases hreached : LevelsReached value select levels turn
      · have hmatched := hreached
        rw [LevelsReached] at hmatched
        rw [if_pos (Or.inl hmatched), outcome_pure]
        exact iff_of_true rfl ⟨0, Nat.zero_le _, hreached⟩
      · have hmissed := hreached
        rw [LevelsReached] at hmissed
        have hgoesOn := not_or.mpr ⟨hmissed, hwaiting⟩
        rw [if_neg hgoesOn, hnext]
        refine (ih (turn + 1)).trans ?_
        constructor
        · rintro ⟨count, hcount, hlater⟩
          rw [Nat.add_right_comm, Nat.add_assoc] at hlater
          exact ⟨count + 1, Nat.succ_le_succ hcount, hlater⟩
        · rintro ⟨count, hcount, hlater⟩
          cases count with
          | zero => exact absurd hlater hreached
          | succ count =>
              rw [← Nat.add_assoc, Nat.add_right_comm] at hlater
              exact ⟨count, Nat.succ_le_succ_iff.mp hcount, hlater⟩

/-- Questions about no level leave the history where it is. -/
theorem outcome_loadByte (buf : Buf) (offset reads : ℕ) :
    Outcome (pinEnv levels) (loadByte buf offset) data reads =
      some ((buf offset, data), reads) := by
  rw [loadByte, ask, outcome_bind, outcome_perform]
  rfl

theorem outcome_loadWord (buf : Buf) (offset reads : ℕ) :
    Outcome (pinEnv levels) (loadWord buf offset) data reads =
      some ((wordAt buf offset, data), reads) := by
  simp only [loadWord, ask, outcome_bind, outcome_perform]
  rfl

theorem outcome_storeByte (offset reads : ℕ) (byte : Byte) :
    Outcome (pinEnv levels) (storeByte offset byte) data reads = some (((), data), reads) := by
  simp [storeByte, ask, pinEnv]

theorem outcome_pinOut (bit reads : ℕ) (pin : Pin) :
    Outcome (pinEnv levels) (pinOut value select bit pin) data reads =
      some (((), data), reads) := by
  rw [pinOut, outcome_ite]
  split_ifs
  · simp [ask, pinEnv]
  · rfl

theorem outcome_pinNResetOut (bit : Word32) (reads : ℕ) :
    Outcome (pinEnv levels) (pinNResetOut bit) data reads = some (((), data), reads) := by
  rw [pinNResetOut, outcome_ite]
  split_ifs
  · simp [ask, pinEnv]
  · simp [ask, pinEnv]

/-- The levels that the command answers with, once the wait is over. -/
def pinLevels (response : ℕ) : DapM Word32 := do
  let swclkTck ← pinIn .swclkTck
  let swdioTms ← pinIn .swdioTms
  let nReset ← pinIn .nReset
  let value := swclkTck ||| (swdioTms <<< 1) ||| (nReset <<< 7)
  storeByte response (value.setWidth 8)
  pure (sizes 6#32 1#32)

theorem isSome_pinLevels (response reads : ℕ) :
    (Outcome (pinEnv levels) (pinLevels response) data reads).isSome := by
  rw [pinLevels, outcome_bind_of (outcome_pinIn .swclkTck _),
    outcome_bind_of (outcome_pinIn .swdioTms _), outcome_bind_of (outcome_pinIn .nReset _),
    outcome_bind_of (outcome_storeByte _ _ _), outcome_pure]
  rfl

/-- The wait and the answer return exactly if the wait does. -/
theorem isSome_waitThenLevels {wait : Word32} {polls response : ℕ} :
    (Outcome (pinEnv levels)
        (if wait ≠ 0#32 then do
          let _ ← swjPinsWait value select 1#32 timestampGet polls
          pinLevels response
        else pinLevels response) data 0).isSome ↔
      wait = 0#32 ∨ ∃ turn ≤ polls, LevelsReached value select levels turn := by
  rw [outcome_ite]
  by_cases hwait : wait = 0#32
  · rw [if_neg (not_not_intro hwait)]
    exact iff_of_true (isSome_pinLevels response 0) (Or.inl hwait)
  · have hpolls := @outcome_swjPinsWait value select levels data polls 0
    simp only [Nat.zero_add] at hpolls
    rw [if_pos hwait, or_iff_right hwait, ← hpolls, outcome_bind]
    cases hend : Outcome (pinEnv levels) (swjPinsWait value select 1#32 timestampGet polls) data
        (pollStart value select levels 0) with
    | none =>
        rw [pollStart, Function.iterate_zero_apply] at hend
        simp [hend]
    | some result =>
        rw [pollStart, Function.iterate_zero_apply] at hend
        rw [hend, Option.bind_some]
        exact iff_of_true (isSome_pinLevels response _) rfl

/-- Within a given number of polls. -/
theorem swjPinsReturns_iff {buf : Buf} {request response polls : ℕ} :
    SwjPinsReturns buf request response data levels polls ↔
      wordAt buf (request + 2) = 0#32 ∨
        ∃ turn ≤ polls, LevelsReached ((buf request).setWidth 32)
          ((buf (request + 1)).setWidth 32) levels turn := by
  rw [SwjPinsReturns, dapSwjPins, outcome_bind_of (outcome_loadByte buf request 0),
    outcome_bind_of (outcome_loadByte buf (request + 1) 0),
    outcome_bind_of (outcome_loadWord buf (request + 2) 0),
    outcome_bind_of (outcome_pinOut 0 0 .swclkTck), outcome_bind_of (outcome_pinOut 1 0 .swdioTms)]
  dsimp only
  rw [outcome_ite]
  by_cases hreset : BitSelected ((buf (request + 1)).setWidth 32) 7
  · rw [if_pos hreset, outcome_bind_of (outcome_pinNResetOut _ 0)]
    exact isSome_waitThenLevels
  · rw [if_neg hreset]
    exact isSome_waitThenLevels

end Polls

/-- For every request and every history of levels, `DAP_SWJ_Pins` returns after finitely
many polls exactly if it asks for no wait or some poll finds every selected pin at its
requested level. -/
theorem dapSwjPins_returns_iff (buf : Buf) (request response : ℕ) (data : DapData)
    (levels : ℕ → Bool) :
    (∃ polls, SwjPinsReturns buf request response data levels polls) ↔
      wordAt buf (request + 2) = 0#32 ∨
        ∃ turn, LevelsReached ((buf request).setWidth 32)
          ((buf (request + 1)).setWidth 32) levels turn := by
  simp only [swjPinsReturns_iff]
  constructor
  · intro hreturns
    obtain ⟨polls, hzero | ⟨turn, -, hreached⟩⟩ := hreturns
    · exact Or.inl hzero
    · exact Or.inr ⟨turn, hreached⟩
  · intro hcondition
    rcases hcondition with hzero | ⟨turn, hreached⟩
    · exact ⟨0, Or.inl hzero⟩
    · exact ⟨turn, Or.inr ⟨turn, le_rfl, hreached⟩⟩

/-- Waiting one microsecond for a reset line that the target holds low. -/
theorem dapSwjPins_never_returns :
    ¬ ∀ (buf : Buf) (request response : ℕ) (data : DapData) (levels : ℕ → Bool),
      ∃ polls, SwjPinsReturns buf request response data levels polls := by
  intro hall
  obtain ⟨polls, hreturns⟩ := hall (Buf.ofList [0x10#8, 0x80#8, 0x80#8, 1#8, 0#8, 0#8, 0#8]) 1 1
    ⟨0#8, 0#8, 0#32, 0#8, 0#16, 0#16, 0#32, 0#8, 0#8, 0#8⟩ (fun _ => false)
  rcases swjPinsReturns_iff.mp hreturns with hzero | ⟨turn, -, hreached⟩
  · exact absurd hzero (by decide)
  · -- the only pin compared is the reset line, which every read finds low
    have hmissed : ∀ reads, (poll 0x80#32 0x80#32 (fun _ => false) polledPins reads).1 = false :=
      fun _ => rfl
    exact absurd ((hmissed _).symm.trans hreached) Bool.false_ne_true

end ExLink.Dap
