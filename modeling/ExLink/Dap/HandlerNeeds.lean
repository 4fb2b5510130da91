/-
# What a packet determines of the handlers

The handlers of a fixed size, and with the others every handler. Most of them only need
the bytes that they answer to; what they leave in the state matters to later commands of
the packet, and those stand behind it.
-/

import ExLink.Dap.PinNeeds

namespace ExLink.Dap

open ExLink.Automata ExLink.Automata.Prog

section Handlers

variable {data : Buf} {len : ℕ} {s : DapData} {request response : ℕ}
  {rest : Buf → Word32 → DapM Word32} {last : Bool} {done : Buf → ℕ → Word32 → Link → Prop}

/-! ## Handlers that answer to a byte -/

/-- What is stored last, and the result. -/
theorem determined_answer {limit : ℕ} (follows : Follows limit rest last request done) {offset : ℕ}
    {byte : Byte} {num : Word32} :
    Determined data len (fun b => storeByte offset byte >>= fun _ => rest b num) s ↔
      done data len num s.link :=
  determined_storeByte.trans (follows.same _ _ _ _)

/-- A question with one answer, of which nothing is seen. -/
theorem determined_tell {op : DapOp} (hop : op.Answer = Unit) {f : Buf → op.Answer → DapM Word32}
    {within : Prop} (hf : ∀ answer, Determined data len (fun b => f b answer) s ↔ within) :
    Determined data len (fun b => ask op >>= f b) s ↔ within := by
  have : Nonempty op.Answer := by
    rw [hop]
    exact ⟨()⟩
  exact determined_ask.trans ((forall_congr' hf).trans (forall_const op.Answer))

theorem store_ne {offset : ℕ} {first second : Byte} (h : first ≠ second) :
    DapOp.store offset first ≠ .store offset second := fun heq => h (DapOp.store.inj heq).2

theorem determined_dapHostStatus (follows : Follows handlerLimit rest last request done) :
    Determined data len (fun b => dapHostStatus b request response >>= rest b) s ↔
      request < len ∧ done data len (sizes 2#32 1#32) s.link := by
  simp only [dapHostStatus, bind_assoc]
  by_cases hle : request < len
  · refine (determined_loadByte hle).trans (Iff.trans ?_ (and_iff_right hle).symm)
    by_cases hstatus : data request = 0x00#8 ∨ data request = 0x01#8
    · simp only [if_pos hstatus, bind_assoc, pure_bind]
      exact (determined_fetch fun b => fetches_loadByte (request + 1)).trans
        (determined_answer follows)
    · simp only [if_neg hstatus, bind_assoc, pure_bind]
      exact determined_answer follows
  · refine iff_of_false ?_ fun h => hle h.1
    have hstale (fill : Byte) : filled data len fill request = fill :=
      filled_of_le fill (Nat.le_of_not_lt hle)
    refine @not_determined_of_opens s data len _ 0x00#8 0x03#8 (.store response 0x00#8)
      (.store response 0xFF#8) (.fetch (fetches_loadByte request) ?_)
      (.fetch (fetches_loadByte request) ?_) rfl rfl (store_ne (by decide))
    · rw [hstale, if_pos (by decide)]
      simp only [bind_assoc]
      exact .fetch (fetches_loadByte _) starts_storeByte.bind.opens
    · rw [hstale, if_neg (by decide)]
      simp only [bind_assoc]
      exact starts_storeByte.bind.opens

theorem determined_dapConnect (follows : Follows handlerLimit rest last request done) :
    Determined data len (fun b => dapConnect b request response >>= rest b) s ↔
      request < len ∧
        done data len (sizes 1#32 1#32)
          ⟨decide (data request = 0x00#8 ∨ data request = dapPortSwd) || s.link.swd,
            s.link.mask⟩ := by
  have hport : (if data request = 0x00#8 then dapPortSwd else data request) = dapPortSwd ↔
      data request = 0x00#8 ∨ data request = dapPortSwd := by
    split_ifs with hdefault
    · exact iff_of_true rfl (.inl hdefault)
    · exact (or_iff_right hdefault).symm
  simp only [dapConnect, bind_assoc]
  by_cases hle : request < len
  · refine (determined_loadByte hle).trans (Iff.trans ?_ (and_iff_right hle).symm)
    by_cases hswd : data request = 0x00#8 ∨ data request = dapPortSwd
    · rw [decide_eq_true hswd, Bool.true_or]
      simp only [hport, if_pos hswd, bind_assoc, pure_bind]
      exact determined_modify.trans (determined_tell rfl fun _ => determined_answer follows)
    · rw [decide_eq_false hswd, Bool.false_or]
      simp only [hport, if_neg hswd, bind_assoc, pure_bind]
      exact determined_answer follows
  · refine iff_of_false ?_ fun h => hle h.1
    have hstale (fill : Byte) : filled data len fill request = fill :=
      filled_of_le fill (Nat.le_of_not_lt hle)
    refine @not_determined_of_opens s data len _ 0x00#8 0x03#8 (.store response dapPortSwd)
      (.store response 0x00#8) (.fetch (fetches_loadByte request) ?_)
      (.fetch (fetches_loadByte request) ?_) rfl rfl (store_ne (by decide))
    · rw [hstale, if_pos (by decide)]
      simp only [bind_assoc, pure_bind]
      exact .modify (OpensWith.unseen rfl ⟨()⟩ fun _ => starts_storeByte.bind.opens)
    · rw [hstale, if_neg (by decide)]
      simp only [bind_assoc]
      exact starts_storeByte.bind.opens

theorem determined_dapDisconnect (follows : Follows handlerLimit rest last request done) :
    Determined data len (fun b => dapDisconnect response >>= rest b) s ↔
      done data len 1#32 ⟨false, s.link.mask⟩ := by
  simp only [dapDisconnect, bind_assoc, pure_bind]
  exact determined_modify.trans (determined_tell rfl fun _ => determined_answer follows)

theorem determined_dapWriteAbort (follows : Follows handlerLimit rest last request done) :
    Determined data len (fun b => dapWriteAbort b request response >>= rest b) s ↔
      (s.link.swd = true → request + 5 ≤ len) ∧ done data len (sizes 5#32 1#32) s.link := by
  simp only [dapWriteAbort, bind_assoc]
  refine determined_get.trans ?_
  by_cases hswd : s.debugPort = dapPortSwd
  · have hlink : s.link.swd = true := decide_eq_true hswd
    simp only [if_pos hswd, bind_assoc, pure_bind]
    by_cases hle : request + 5 ≤ len
    · refine Iff.trans ?_ (and_iff_right fun _ => hle).symm
      refine (determined_loadWord hle).trans ?_
      exact determined_ask.trans ((forall_congr' fun _ => determined_answer follows).trans
        (forall_const { answer : Swd.SwdAnswer // answer.ack.toNat < 8 }))
    · refine iff_of_false ?_ fun h => hle (h.1 hlink)
      refine not_determined_of_opens 0#8 0xFF#8 (.fetch (fetches_loadWord _) starts_ask.bind.opens)
        (.fetch (fetches_loadWord _) starts_ask.bind.opens) rfl rfl fun heq => ?_
      exact wordAt_filled_ne hle (by decide) (Option.some.inj (DapOp.swdTransfer.inj heq).2)
  · have hlink : ¬ s.link.swd = true := fun h => hswd (of_decide_eq_true h)
    simp only [if_neg hswd, bind_assoc, pure_bind]
    exact (determined_answer follows).trans (and_iff_right fun h => absurd h hlink).symm

theorem determined_dapResetTarget (follows : Follows handlerLimit rest last request done) :
    Determined data len (fun b => dapResetTarget response >>= rest b) s ↔
      done data len 2#32 s.link := by
  have hquiet {program : DapM Unit} (h : Quiet program) (f : Buf → Unit → DapM Word32)
      (s : DapData) :=
    @determined_quiet data len s _ _ h f fun s => done data len 2#32 s.link
  simp only [dapResetTarget, bind_assoc, pure_bind]
  refine hquiet (quiet_pinNResetOut 0#32) _ s fun _ s => determined_tell rfl fun _ => ?_
  refine hquiet (quiet_pinNResetOut 1#32) _ s fun _ s => determined_tell rfl fun _ => ?_
  exact determined_storeByte.trans (determined_answer follows)

theorem determined_dapJtagIdCode (follows : Follows handlerLimit rest last request done) :
    Determined data len (fun b => dapJtagIdCode response >>= rest b) s ↔
      done data len (sizes 1#32 1#32) s.link := by
  simp only [dapJtagIdCode, bind_assoc, pure_bind]
  exact determined_answer follows

/-! ## Handlers whose bytes matter to later commands -/

/-- After the last command, an answer is all that is seen. -/
theorem concludes_answer (follows : Follows handlerLimit rest last request done) (hlast : last = true)
    (offset : ℕ) (byte : Byte) (num : Word32) :
    ∃ size, ∀ b s,
      ConcludesWith [⟨.store offset byte, ()⟩] size (storeByte offset byte >>= fun _ => rest b num)
        s := by
  obtain ⟨size, hends⟩ := follows.ends hlast
  exact ⟨size (num.setWidth 16), fun b s => .store (hends b num s)⟩

theorem determined_dapTransferConfigure (follows : Follows handlerLimit rest last request done) :
    Determined data len (fun b => dapTransferConfigure b request response >>= rest b) s ↔
      (last = false → request + 5 ≤ len) ∧ done data len (sizes 5#32 1#32) s.link := by
  simp only [dapTransferConfigure, bind_assoc, pure_bind]
  refine follows.fixed 5 1 (by decide) (by decide) (fun data len hle => ?_) fun hlast => ?_
  · refine (determined_loadByte (by omega)).trans ((determined_loadHalf (by omega)).trans ?_)
    refine (determined_loadHalf (by omega)).trans (determined_modify.trans ?_)
    exact determined_answer follows
  · obtain ⟨size, hanswer⟩ := concludes_answer follows hlast response Swd.dapOk (sizes 5#32 1#32)
    refine @determined_of_concludes [⟨.store response Swd.dapOk, ()⟩] size s data len _ fun b => ?_
    exact .fetch (fetches_loadByte _)
      (.fetch (fetches_loadHalf _) (.fetch (fetches_loadHalf _) (.modify (hanswer b _))))

theorem determined_dapDelay (follows : Follows handlerLimit rest last request done) :
    Determined data len (fun b => dapDelay b request response >>= rest b) s ↔
      (last = false → request + 2 ≤ len) ∧ done data len (sizes 2#32 1#32) s.link := by
  simp only [dapDelay, bind_assoc, pure_bind]
  refine follows.fixed 2 1 (by decide) (by decide) (fun data len hle => ?_) fun hlast => ?_
  · refine (determined_loadHalf hle).trans ?_
    exact determined_tell rfl fun _ => determined_answer follows
  · obtain ⟨size, hanswer⟩ := concludes_answer follows hlast response Swd.dapOk (sizes 2#32 1#32)
    refine @determined_of_concludes [⟨.store response Swd.dapOk, ()⟩] size s data len _ fun b => ?_
    exact .fetch (fetches_loadHalf _) (ConcludesWith.unseen rfl ⟨()⟩ fun _ => hanswer b _)

theorem determined_dapSwdConfigure (follows : Follows handlerLimit rest last request done) :
    Determined data len (fun b => dapSwdConfigure b request response >>= rest b) s ↔
      (last = false → request + 1 ≤ len) ∧ done data len (sizes 1#32 1#32) s.link := by
  simp only [dapSwdConfigure, bind_assoc, pure_bind]
  refine follows.fixed 1 1 (by decide) (by decide) (fun data len hle => ?_) fun hlast => ?_
  · exact (determined_loadByte hle).trans (determined_modify.trans (determined_answer follows))
  · obtain ⟨size, hanswer⟩ := concludes_answer follows hlast response Swd.dapOk (sizes 1#32 1#32)
    refine @determined_of_concludes [⟨.store response Swd.dapOk, ()⟩] size s data len _ fun b => ?_
    exact .fetch (fetches_loadByte _) (.modify (hanswer b _))

/-- A clock that is not zero. -/
theorem determined_setClock (follows : Follows handlerLimit rest last request done) (clock : Word32) :
    Determined data len
        (fun b =>
          modify (setClockDelay clock) >>= fun _ =>
            ask (.setClock clock) >>= fun _ =>
              storeByte response Swd.dapOk >>= fun _ => rest b (sizes 4#32 1#32))
        s ↔ done data len (sizes 4#32 1#32) s.link := by
  rw [← link_setClockDelay clock s]
  exact determined_modify.trans (determined_tell rfl fun _ => determined_answer follows)

/-- A clock inside the packet. -/
theorem determined_dapSwjClock_inside (follows : Follows handlerLimit rest last request done)
    (hle : request + 4 ≤ len) :
    Determined data len (fun b => dapSwjClock b request response >>= rest b) s ↔
      done data len (sizes 4#32 1#32) s.link := by
  simp only [dapSwjClock, bind_assoc]
  refine (determined_loadWord hle).trans ?_
  split_ifs
  · simp only [bind_assoc, pure_bind]
    exact determined_answer follows
  · simp only [bind_assoc, pure_bind]
    exact determined_setClock follows _

theorem opens_dapSwjClock {b : Buf} :
    OpensWith (.store response (if wordAt b request = 0#32 then Swd.dapError else Swd.dapOk))
      (dapSwjClock b request response >>= rest b) s := by
  simp only [dapSwjClock, bind_assoc]
  refine .fetch (fetches_loadWord request) ?_
  split_ifs
  · simp only [bind_assoc]
    exact starts_storeByte.bind.opens
  · simp only [bind_assoc]
    exact .modify (OpensWith.unseen rfl ⟨()⟩ fun _ => starts_storeByte.bind.opens)

theorem concludes_dapSwjClock {b : Buf} {shown : List (Event DapOp.Answer)} {size : Word16}
    (hclock : wordAt b request ≠ 0#32)
    (hanswer : ∀ s,
      ConcludesWith shown size (storeByte response Swd.dapOk >>= fun _ => rest b (sizes 4#32 1#32))
        s) :
    ConcludesWith shown size (dapSwjClock b request response >>= rest b) s := by
  simp only [dapSwjClock, bind_assoc]
  refine .fetch (fetches_loadWord request) ?_
  rw [if_neg hclock]
  simp only [bind_assoc, pure_bind]
  exact .modify (ConcludesWith.unseen rfl ⟨()⟩ fun _ => hanswer _)

theorem determined_dapSwjClock (follows : Follows handlerLimit rest last request done) :
    Determined data len (fun b => dapSwjClock b request response >>= rest b) s ↔
      (request + 4 ≤ len ∨ last = true ∧ knownWord data len request ≠ 0#32) ∧
        done data len (sizes 4#32 1#32) s.link := by
  by_cases hle : request + 4 ≤ len
  · exact (determined_dapSwjClock_inside follows hle).trans (and_iff_right (.inl hle)).symm
  rw [or_iff_right hle]
  by_cases hzero : knownWord data len request = 0#32
  · -- the word behind the packet can be zero or not
    refine iff_of_false ?_ fun h => h.1.2 hzero
    have hother : wordAt (filled data len 0xFF#8) request ≠ 0#32 := by
      rw [← hzero]
      exact wordAt_filled_ne hle (by decide)
    refine not_determined_of_opens 0x00#8 0xFF#8 opens_dapSwjClock opens_dapSwjClock rfl rfl ?_
    rw [if_pos (show wordAt _ _ = _ from hzero), if_neg hother]
    exact store_ne (by decide)
  · cases hlast : last with
    | true =>
        refine iff_of_true ?_ ⟨⟨rfl, hzero⟩, follows.done_of_last hlast _ _⟩
        obtain ⟨size, hanswer⟩ :=
          concludes_answer follows hlast response Swd.dapOk (sizes 4#32 1#32)
        have hconcludes : ∀ b, Holds data len b →
            ConcludesWith [⟨.store response Swd.dapOk, ()⟩] size
              (dapSwjClock b request response >>= rest b) s := by
          intro b holds
          refine concludes_dapSwjClock (fun hclock => hzero ?_) (hanswer b)
          rw [← knownWord_and holds request, hclock, BitVec.and_zero]
        exact fun b₁ b₂ hfirst hsecond => (hconcludes b₁ hfirst).alike (hconcludes b₂ hsecond)
    | false =>
        refine iff_of_false (fun h => ?_) fun h => Bool.false_ne_true h.1.1
        -- with these bytes filled in, the next command would have to lie before them
        have hwider := h.extend (Nat.le_of_not_le hle) (holds_filled data len 0#8)
        have hdone := (determined_dapSwjClock_inside follows (le_refl _)).mp hwider
        exact absurd (follows.reaches hlast _ _ 4 1 _ (by decide) (by decide) hdone) (lt_irrefl _)

theorem determined_dapJtagConfigure (follows : Follows handlerLimit rest last request done) :
    Determined data len (fun b => dapJtagConfigure b request response >>= rest b) s ↔
      (last = false →
        request < len ∧ done data len (sizes ((data request).setWidth 32 + 1#32) 1#32) s.link) := by
  simp only [dapJtagConfigure, bind_assoc, pure_bind]
  have hinside : ∀ data len, request < len →
      (Determined data len
          (fun b =>
            loadByte b request >>= fun count =>
              storeByte response Swd.dapError >>= fun _ =>
                rest b (sizes (count.setWidth 32 + 1#32) 1#32))
          s ↔ done data len (sizes ((data request).setWidth 32 + 1#32) 1#32) s.link) :=
    fun data len hle => (determined_loadByte hle).trans (determined_answer follows)
  cases hlast : last with
  | true =>
      refine iff_of_true ?_ fun h => absurd h.symm Bool.false_ne_true
      obtain ⟨size, hends⟩ := follows.ends hlast
      refine @determined_of_concludes [⟨.store response Swd.dapError, ()⟩] (size 1#16) s data len _
        fun b => ?_
      have hrest := hends b (sizes ((b request).setWidth 32 + 1#32) 1#32) s
      rw [setWidth_sizes] at hrest
      exact .fetch (fetches_loadByte request) (.store hrest)
  | false =>
      refine Iff.trans ?_ (forall_prop_of_true rfl).symm
      by_cases hle : request < len
      · exact (hinside data len hle).trans (and_iff_right hle).symm
      · refine iff_of_false (fun h => ?_) fun h => hle h.1
        -- with no device, the next command would have to lie before the count
        have hstale : len ≤ request + 1 := by omega
        have hwider := h.extend hstale (holds_filled data len 0#8)
        have hdone := (hinside _ _ (Nat.lt_succ_self request)).mp hwider
        rw [filled_of_le 0#8 (Nat.le_of_not_lt hle)] at hdone
        exact absurd (follows.reaches hlast _ _ 1 1 _ (by decide) (by decide) hdone) (lt_irrefl _)

/-! ## Every handler -/

theorem determined_handler (follows : Follows handlerLimit rest last request done) {polls id : ℕ}
    {run : Buf → DapM Word32} (hrun : ∀ b, handler b polls id request response = some (run b)) :
    Determined data len (fun b => run b >>= rest b) s ↔
      HandlerWithin data len last (done data len) id request response s.link := by
  have hone {program : Buf → DapM Word32} {within : Prop}
      (hprogram : ∀ b, handler b polls id request response = some (program b))
      (h : Determined data len (fun b => program b >>= rest b) s ↔ within) :
      Determined data len (fun b => run b >>= rest b) s ↔ within := by
    have hsame : run = program :=
      funext fun b => Option.some.inj ((hrun b).symm.trans (hprogram b))
    rwa [hsame]
  have hsome := hrun data
  unfold handler at hsome
  split at hsome
  · exact hone (fun _ => rfl) (determined_dapHostStatus follows)
  · exact hone (fun _ => rfl) (determined_dapConnect follows)
  · exact hone (fun _ => rfl) (determined_dapDisconnect follows)
  · exact hone (fun _ => rfl) (determined_dapTransferConfigure follows)
  · exact hone (fun _ => rfl) (determined_dapTransfer follows)
  · exact hone (fun _ => rfl) (determined_dapTransferBlock follows)
  · exact hone (fun _ => rfl) (determined_dapWriteAbort follows)
  · exact hone (fun _ => rfl) (determined_dapDelay follows)
  · exact hone (fun _ => rfl) (determined_dapResetTarget follows)
  · exact hone (fun _ => rfl) (determined_dapSwjPins follows polls)
  · exact hone (fun _ => rfl) (determined_dapSwjClock follows)
  · exact hone (fun _ => rfl) (determined_dapSwjSequence follows)
  · exact hone (fun _ => rfl) (determined_dapSwdConfigure follows)
  · exact hone (fun _ => rfl) (determined_dapJtagSequence follows)
  · exact hone (fun _ => rfl) (determined_dapJtagConfigure follows)
  · exact hone (fun _ => rfl) (determined_dapJtagIdCode follows)
  · exact hone (fun _ => rfl) (determined_dapSwdSequence follows)
  · exact absurd hsome.symm (Option.some_ne_none _)

end Handlers

end ExLink.Dap
