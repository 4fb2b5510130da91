/-
# What a packet determines of DAP_SWJ_Pins

The command only asks whether its wait is zero. Where the packet leaves that open, there
are levels of the pins with which the one slot answers and the other one waits forever,
unless the comparisons read no pin and cannot fail.
-/

import ExLink.Dap.PinWait
import ExLink.Dap.SequenceNeeds

namespace ExLink.Dap

open ExLink.Automata ExLink.Automata.Prog

/-! ## Pins that stay at one level -/

/-- What the wait asks for. -/
def AsksPins : DapOp → Prop
  | .pinIn _ | .spin => True
  | _ => False

/-- An environment whose pins read one level, and that answers all else somehow. -/
noncomputable def atLevel (level : Bool) : Environment DapOp DapOp.Answer ℕ
  | reads, .pinIn _ => some (level, reads + 1)
  | reads, op => (anyAnswer () op).map fun given => (given.1, reads)

theorem admits_atLevel (level : Bool) : hostObserver.Admits (atLevel level) where
  unheard reads op hop := by
    cases op with
    | load offset =>
        obtain ⟨given, hgiven⟩ := (@admits_anyAnswer _ _ _ _ hostObserver).unheard ()
          (.load offset) hop
        exact ⟨given, by simp [atLevel, hgiven]⟩
    | _ => exact absurd hop.symm Bool.false_ne_true
  answers reads op hop := by
    have hany := (@admits_anyAnswer _ _ _ _ hostObserver).answers () op hop
    cases op with
    | pinIn pin => rfl
    | _ => simpa [atLevel] using hany

section Wait

variable {value select : Word32} {s : DapData}

theorem pinEnv_atLevel (level : Bool) (reads : ℕ) (op : DapOp) (hop : AsksPins op) :
    pinEnv (fun _ => level) reads op = atLevel level reads op := by
  cases op with
  | pinIn pin => rfl
  | spin => simp [pinEnv, atLevel, anyAnswer]
  | _ => exact hop.elim

/-! ## The wait -/

/-- A poll that finds every level finds that of each selected pin. -/
theorem poll_reached {levels : ℕ → Bool} {pins : List (ℕ × Bool)} {reads : ℕ}
    (h : (poll value select levels pins reads).1 = true) {bit : ℕ} {wired : Bool}
    (hmem : (bit, wired) ∈ pins) (hselected : BitSelected select bit) :
    ∃ reads, value >>> bit = (seenLevel levels wired reads).1 := by
  induction pins generalizing reads with
  | nil => exact absurd hmem List.not_mem_nil
  | cons pin rest ih =>
      obtain ⟨bit', wired'⟩ := pin
      rw [poll] at h
      by_cases hpin : BitSelected select bit'
      · rw [if_pos hpin] at h
        by_cases hreached : value >>> bit' = (seenLevel levels wired' reads).1
        · rw [if_pos hreached] at h
          cases hmem with
          | head => exact ⟨reads, hreached⟩
          | tail _ hrest => exact ih h hrest
        · rw [if_neg hreached] at h
          exact absurd h Bool.false_ne_true
      · rw [if_neg hpin] at h
        cases hmem with
        | head => exact absurd hselected hpin
        | tail _ hrest => exact ih h hrest

/-- Unless no pin is read and no comparison fails, some level is never the right one. -/
theorem exists_missed (hread : ¬ PinsUnread value select) :
    ∃ level, ∀ turn, ¬ LevelsReached value select (fun _ => level) turn := by
  by_contra hall
  simp only [not_exists, not_forall, not_not] at hall
  have hwired : ∀ bit, (bit, true) ∈ polledPins → ¬ BitSelected select bit := by
    intro bit hmem hselected
    obtain ⟨low, hlow⟩ := hall false
    obtain ⟨high, hhigh⟩ := hall true
    obtain ⟨_, hzero⟩ := poll_reached hlow hmem hselected
    obtain ⟨_, hone⟩ := poll_reached hhigh hmem hselected
    exact absurd (hzero.symm.trans hone) (show ¬ 0#32 = 1#32 by decide)
  have hconstant : ∀ bit, (bit, false) ∈ polledPins → BitSelected select bit →
      value >>> bit = 0#32 := by
    intro bit hmem hselected
    obtain ⟨turn, hturn⟩ := hall false
    obtain ⟨_, hzero⟩ := poll_reached hturn hmem hselected
    exact hzero
  exact hread ⟨hwired 0 (by decide), hwired 1 (by decide), hconstant 2 (by decide),
    hconstant 5 (by decide), hwired 7 (by decide)⟩

/-- While a level is missed, nothing is seen and nothing comes after the wait. -/
theorem events_wait {level : Bool}
    (hmissed : ∀ turn, ¬ LevelsReached value select (fun _ => level) turn) (polls : ℕ)
    (f : DapM Word32) :
    ((swjPinsWait value select 1#32 timestampGet polls >>= fun _ => f).run s).events
      hostObserver.seen (atLevel level) 0 = [] := by
  have hasks : ((swjPinsWait value select 1#32 timestampGet polls).run s).Guarantees
      (asksOnly AsksPins) (fun _ _ => True) () :=
    asks_swjPinsWait AsksPins (fun _ => trivial) trivial _ _ polls s
  have hunseen : ∀ op, AsksPins op → hostObserver.seen op = false := by
    intro op hop
    cases op with
    | pinIn pin => rfl
    | spin => rfl
    | _ => exact hop.elim
  have hwaits := @outcome_swjPinsWait value select (fun _ => level) s polls 0
  have hnone : ((swjPinsWait value select 1#32 timestampGet polls).run s).respond (atLevel level) 0 =
      none := by
    rw [← respond_congr (pinEnv_atLevel level) hasks]
    refine Option.not_isSome_iff_eq_none.mp fun hsome => ?_
    obtain ⟨count, -, hreached⟩ := hwaits.mp hsome
    exact hmissed _ hreached
  refine (events_bind hostObserver.seen (atLevel level)
    ((swjPinsWait value select 1#32 timestampGet polls).run s) (fun result => f.run result.2)
    0).trans ?_
  rw [events_eq_nil hunseen hasks, hnone]
  rfl

/-- Without a pin to read, the wait is over at once. -/
theorem swjPinsWait_of_unread (hunread : PinsUnread value select) (polls : ℕ) :
    swjPinsWait value select 1#32 timestampGet polls = pure () := by
  obtain ⟨hclock, hdata, htdi, htrst, hreset⟩ := hunread
  have hmatched : pinsMatch value select = pure true := by
    have hlow : ∀ (bit : ℕ) (rest : DapM Bool), (BitSelected select bit → value >>> bit = 0#32) →
        pinMatches value select bit (pure 0#32) rest = rest := by
      intro bit rest hbit
      rw [pinMatches]
      split_ifs with hselected
      · rw [pure_bind, hbit hselected]
        rfl
      · rfl
    rw [pinsMatch, pinMatches, if_neg hclock, pinMatches, if_neg hdata, hlow 2 _ htdi,
      hlow 5 _ htrst, pinMatches, if_neg hreset]
  cases polls with
  | zero => rw [swjPinsWait, hmatched, pure_bind, if_pos (.inl rfl)]
  | succ polls => rw [swjPinsWait, hmatched, pure_bind, if_pos (.inl rfl)]

/-- A wait of which it is not known whether it is zero. -/
theorem not_determined_wait {data : Buf} {len offset polls : ℕ} {after : Buf → DapM Word32}
    (hread : ¬ PinsUnread value select) (hle : ¬ offset + 4 ≤ len)
    (hzero : knownWord data len offset = 0#32)
    (hshows : ∀ b s, Shows hostObserver ((after b).run s)) :
    ¬ Determined data len
      (fun b =>
        (if wordAt b offset ≠ 0#32 then swjPinsWait value select 1#32 timestampGet polls
          else pure ()) >>= fun _ => after b)
      s := by
  intro h
  obtain ⟨level, hmissed⟩ := exists_missed hread
  have hsome : wordAt (filled data len 0x01#8) offset ≠ 0#32 := by
    rw [← hzero]
    exact wordAt_filled_ne hle (by decide)
  have hsame := h _ _ (holds_filled data len 0x00#8) (holds_filled data len 0x01#8)
  have hnone : ¬ wordAt (filled data len 0x00#8) offset ≠ 0#32 := not_not_intro hzero
  simp only [if_neg hnone, if_pos hsome, pure_bind] at hsame
  have hevents := (hsame ℕ (atLevel level) (admits_atLevel level) 0).1
  rw [events_wait hmissed] at hevents
  exact (hshows _ _).ne_nil (admits_atLevel level) 0 hevents

/-- The wait of the command, and what comes after it. -/
theorem determined_wait {data : Buf} {len offset polls : ℕ} {after : Buf → DapM Word32}
    {within : Prop} (hshows : ∀ b s, Shows hostObserver ((after b).run s))
    (hafter : Determined data len after s ↔ within) :
    Determined data len
        (fun b =>
          (if wordAt b offset ≠ 0#32 then swjPinsWait value select 1#32 timestampGet polls
            else pure ()) >>= fun _ => after b)
        s ↔
      (offset + 4 ≤ len ∨ knownWord data len offset ≠ 0#32 ∨ PinsUnread value select) ∧
        (knownWord data len offset = 0#32 ∨ PinsReachable value select → within) := by
  by_cases hzero : knownWord data len offset = 0#32
  · by_cases hle : offset + 4 ≤ len
    · refine (determined_congr fun b holds => ?_).trans (hafter.trans ?_)
      · rw [wordAt_holds holds hle, ← knownWord_of_le hle, hzero, if_neg (not_not_intro rfl),
          pure_bind]
      · exact ⟨fun h => ⟨.inl hle, fun _ => h⟩, fun h => h.2 (.inl hzero)⟩
    · by_cases hunread : PinsUnread value select
      · simp only [swjPinsWait_of_unread hunread, ite_self, pure_bind]
        exact hafter.trans
          ⟨fun h => ⟨.inr (.inr hunread), fun _ => h⟩, fun h => h.2 (.inl hzero)⟩
      · refine iff_of_false (not_determined_wait hunread hle hzero hshows) fun h => ?_
        rcases h.1 with hinside | hsome | hunread'
        · exact hle hinside
        · exact hsome hzero
        · exact hunread hunread'
  · have hsome : ∀ b, Holds data len b → wordAt b offset ≠ 0#32 := by
      intro b holds hword
      have hknown := knownWord_and holds offset
      rw [hword, BitVec.and_zero] at hknown
      exact hzero hknown.symm
    refine (determined_congr fun b holds => by rw [if_pos (hsome b holds)]).trans ?_
    refine (determined_bind_inBounds (inBounds_swjPinsWait.mpr fun _ => trivial)).trans ?_
    refine inBounds_swjPinsWait.trans ((imp_congr_right fun _ => hafter).trans ?_)
    exact ⟨fun h => ⟨.inr (.inl hzero), fun hor => h (hor.resolve_left hzero)⟩,
      fun h hreachable => h.2 (.inr hreachable)⟩

end Wait

/-! ## The command -/

section Command

variable {data : Buf} {len : ℕ} {s : DapData} {request response : ℕ}
  {rest : Buf → Word32 → DapM Word32} {last : Bool} {done : Buf → ℕ → Word32 → Link → Prop}

theorem dapSwjPins_eq (b : Buf) (polls : ℕ) :
    dapSwjPins b request response polls >>= rest b =
      loadByte b request >>= fun value =>
        loadByte b (request + 1) >>= fun select =>
          loadWord b (request + 2) >>= fun wait =>
            pinOut (value.setWidth 32) (select.setWidth 32) 0 .swclkTck >>= fun _ =>
              pinOut (value.setWidth 32) (select.setWidth 32) 1 .swdioTms >>= fun _ =>
                (if BitSelected (select.setWidth 32) 7 then pinNResetOut (value.setWidth 32 >>> 7)
                  else pure ()) >>= fun _ =>
                  (if wait ≠ 0#32 then
                      swjPinsWait (value.setWidth 32) (select.setWidth 32) 1#32 timestampGet polls
                    else pure ()) >>= fun _ => pinLevels response >>= rest b := by
  simp only [dapSwjPins, pinLevels, bind_assoc]
  apply bind_congr
  intro value
  apply bind_congr
  intro select
  apply bind_congr
  intro wait
  apply bind_congr
  intro _
  apply bind_congr
  intro _
  by_cases hreset : BitSelected (select.setWidth 32) 7
  · by_cases hwait : wait = 0#32
    · simp only [if_pos hreset, if_neg (not_not_intro hwait), bind_assoc, pure_bind]
    · simp only [if_pos hreset, if_pos hwait, bind_assoc, pure_bind]
  · by_cases hwait : wait = 0#32
    · simp only [if_neg hreset, if_neg (not_not_intro hwait), bind_assoc, pure_bind]
    · simp only [if_neg hreset, if_pos hwait, bind_assoc, pure_bind]

theorem determined_pinLevels (follows : Follows handlerLimit rest last request done) :
    Determined data len (fun b => pinLevels response >>= rest b) s ↔
      done data len (sizes 6#32 1#32) s.link := by
  simp only [pinLevels, bind_assoc, pure_bind]
  have hquiet (pin : Pin) (f : Buf → Word32 → DapM Word32) (s : DapData) :=
    @determined_quiet data len s _ _ (quiet_pinIn pin) f
      fun s => done data len (sizes 6#32 1#32) s.link
  refine hquiet .swclkTck _ s fun _ s => ?_
  refine hquiet .swdioTms _ s fun _ s => ?_
  refine hquiet .nReset _ s fun _ s => ?_
  exact determined_storeByte.trans (follows.same _ _ _ _)

theorem shows_pinLevels (b : Buf) :
    Shows hostObserver ((pinLevels response >>= rest b).run s) :=
  .later ⟨true⟩ fun _ => .later ⟨true⟩ fun _ => .later ⟨true⟩ fun _ => .seen rfl ⟨()⟩

/-- With the pins known, the wait decides. -/
theorem determined_dapSwjPins_pins (follows : Follows handlerLimit rest last request done) (polls : ℕ)
    (hpins : request + 2 ≤ len) :
    Determined data len (fun b => dapSwjPins b request response polls >>= rest b) s ↔
      SwjPinsWithin data len (done data len (sizes 6#32 1#32) s.link) request := by
  simp only [dapSwjPins_eq]
  refine (determined_loadByte (by omega)).trans ((determined_loadByte hpins).trans ?_)
  refine (determined_fetch fun b => fetches_loadWord (request + 2)).trans ?_
  have hreset : Quiet
      (if BitSelected ((data (request + 1)).setWidth 32) 7 then
        pinNResetOut ((data request).setWidth 32 >>> 7) else pure ()) :=
    quiet_ite (quiet_pinNResetOut _) (quiet_pure ())
  have hquiet {program : DapM Unit} (h : Quiet program) (f : Buf → Unit → DapM Word32)
      (s : DapData) :=
    @determined_quiet data len s _ _ h f fun s =>
      SwjPinsWithin data len (done data len (sizes 6#32 1#32) s.link) request
  refine hquiet (quiet_pinOut 0 .swclkTck) _ s fun _ s => ?_
  refine hquiet (quiet_pinOut 1 .swdioTms) _ s fun _ s => ?_
  refine hquiet hreset _ s fun _ s => ?_
  refine Iff.trans ?_ (and_iff_right hpins).symm
  exact determined_wait (fun b _ => shows_pinLevels b) (determined_pinLevels follows)

/-- `DAP_SWJ_Pins`. -/
theorem determined_dapSwjPins (follows : Follows handlerLimit rest last request done) (polls : ℕ) :
    Determined data len (fun b => dapSwjPins b request response polls >>= rest b) s ↔
      SwjPinsWithin data len (done data len (sizes 6#32 1#32) s.link) request := by
  by_cases hpins : request + 2 ≤ len
  · exact determined_dapSwjPins_pins follows polls hpins
  · refine iff_of_false (fun h => ?_) fun h => hpins h.1
    -- with the reset line among the pins, the wait still matters
    have hwider := h.extend (Nat.le_of_not_le hpins) (holds_filled data len 0x80#8)
    obtain ⟨-, hwait, -⟩ := (determined_dapSwjPins_pins follows polls (le_refl _)).mp hwider
    have hselect : filled data len 0x80#8 (request + 1) = 0x80#8 := filled_of_le _ (by omega)
    rcases hwait with hinside | hsome | hunread
    · omega
    · exact hsome (knownWord_of_stale (le_refl _))
    · rw [hselect] at hunread
      exact hunread.2.2.2.2 (by decide)

end Command

end ExLink.Dap
