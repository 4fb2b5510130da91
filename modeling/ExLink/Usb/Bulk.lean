/-
# Bulk IN transfers and host reads

A device hands the controller a transfer, which goes over the wire in packets of the
endpoint's maximum size, the last of them perhaps shorter; an empty transfer is one
empty packet. The host collects packets into reads: a read ends when it is full or
on a short packet. What a sequence of transfers means to a host is the sequence of
its reads.
-/

import Mathlib.Data.List.Range

namespace ExLink.Bulk

variable {α : Type*}

/-- The packets of one transfer. -/
def transferPackets (mps : ℕ) (bytes : List α) : List (List α) :=
  if bytes.length = 0 then [[]]
  else
    (List.range ((bytes.length + mps - 1) / mps)).map fun index =>
      (bytes.drop (index * mps)).take mps

/-- The full packets of a transfer, and the short one with what is left. -/
def dataPackets (mps : ℕ) (bytes : List α) : List (List α) :=
  (List.range ((bytes.length + mps - 1) / mps)).map fun index =>
    (bytes.drop (index * mps)).take mps

/-- The reads that complete while packets arrive, after the bytes already collected
for the current one. -/
def readsFrom (mps size : ℕ) : List α → List (List α) → List (List α)
  | _, [] => []
  | collected, packet :: rest =>
      if packet.length < mps ∨ size ≤ (collected ++ packet).length then
        (collected ++ packet) :: readsFrom mps size [] rest
      else readsFrom mps size (collected ++ packet) rest

/-- What is collected for a read that has not completed yet. -/
def unreadFrom (mps size : ℕ) : List α → List (List α) → List α
  | collected, [] => collected
  | collected, packet :: rest =>
      if packet.length < mps ∨ size ≤ (collected ++ packet).length then
        unreadFrom mps size [] rest
      else unreadFrom mps size (collected ++ packet) rest

/-- The reads of a host that starts afresh. -/
def hostReads (mps size : ℕ) (packets : List (List α)) : List (List α) :=
  readsFrom mps size [] packets

/-- A transfer that fits one packet is that packet. -/
theorem transferPackets_of_le {mps : ℕ} {bytes : List α} (hle : bytes.length ≤ mps) :
    transferPackets mps bytes = [bytes] := by
  rw [transferPackets]
  split_ifs with hzero
  · rw [List.length_eq_zero_iff.mp hzero]
  · have hcount : (bytes.length + mps - 1) / mps = 1 := by
      apply Nat.div_eq_of_lt_le <;> omega
    rw [hcount, List.range_one, List.map_singleton, Nat.zero_mul, List.drop_zero,
      List.take_of_length_le hle]

theorem transferPackets_of_ne {mps : ℕ} {bytes : List α} (hne : bytes ≠ []) :
    transferPackets mps bytes = dataPackets mps bytes :=
  if_neg fun hzero => hne (List.length_eq_zero_iff.mp hzero)

theorem dataPackets_nil {mps : ℕ} (hmps : 0 < mps) : dataPackets mps ([] : List α) = [] := by
  have hcount : (([] : List α).length + mps - 1) / mps = 0 := by
    rw [List.length_nil]
    exact Nat.div_eq_of_lt (by omega)
  rw [dataPackets, hcount]
  rfl

/-- The first packet, and those of the rest. -/
theorem dataPackets_of_ne {mps : ℕ} {bytes : List α} (hmps : 0 < mps) (hne : bytes ≠ []) :
    dataPackets mps bytes = bytes.take mps :: dataPackets mps (bytes.drop mps) := by
  have hpos := List.length_pos_iff.mpr hne
  have hcount : (bytes.length + mps - 1) / mps =
      ((bytes.drop mps).length + mps - 1) / mps + 1 := by
    rw [List.length_drop, ← Nat.add_div_right _ hmps]
    rcases Nat.le_total mps bytes.length with hle | hle
    · congr 1
      omega
    · rw [Nat.sub_eq_zero_of_le hle, Nat.div_eq_of_lt_le (k := 1) (by omega) (by omega),
        Nat.div_eq_of_lt_le (k := 1) (by omega) (by omega)]
  rw [dataPackets, hcount, List.range_succ_eq_map, List.map_cons, List.map_map, Nat.zero_mul,
    List.drop_zero, dataPackets]
  congr 1
  apply List.map_congr_left
  intro index _
  rw [Function.comp_apply, Nat.succ_mul, List.drop_drop, Nat.add_comm]

/-- A packet shorter than the others is the whole transfer. -/
theorem dataPackets_of_lt {mps : ℕ} {bytes : List α} (hne : bytes ≠ []) (hlt : bytes.length < mps) :
    dataPackets mps bytes = [bytes] := by
  rw [← transferPackets_of_ne hne]
  exact transferPackets_of_le (Nat.le_of_lt hlt)

/-- The packets carry the bytes of the transfer, and none is empty. -/
theorem flatten_dataPackets {mps : ℕ} (hmps : 0 < mps) (bytes : List α) :
    (dataPackets mps bytes).flatten = bytes ∧ [] ∉ dataPackets mps bytes := by
  induction hlength : bytes.length using Nat.strong_induction_on generalizing bytes with
  | _ count ih =>
    by_cases hne : bytes = []
    · rw [hne, dataPackets_nil hmps]
      exact ⟨rfl, List.not_mem_nil⟩
    · have hpos := List.length_pos_iff.mpr hne
      obtain ⟨hflatten, hsome⟩ :=
        ih (bytes.drop mps).length (by rw [List.length_drop]; omega) _ rfl
      rw [dataPackets_of_ne hmps hne]
      refine ⟨by rw [List.flatten_cons, hflatten, List.take_append_drop], ?_⟩
      rw [List.mem_cons, not_or]
      refine ⟨fun hempty => ?_, hsome⟩
      rcases List.take_eq_nil_iff.mp hempty.symm with hzero | hnil
      · exact Nat.ne_of_gt hmps hzero
      · exact hne hnil

/-! ## Reads and transfers -/

section Reads

variable {mps size : ℕ}

/-- A read starts where the last one completed. -/
theorem readsFrom_append (collected : List α) (first second : List (List α)) :
    readsFrom mps size collected (first ++ second) =
        readsFrom mps size collected first ++
          readsFrom mps size (unreadFrom mps size collected first) second ∧
      unreadFrom mps size collected (first ++ second) =
        unreadFrom mps size (unreadFrom mps size collected first) second := by
  induction first generalizing collected with
  | nil => exact ⟨rfl, rfl⟩
  | cons packet rest ih =>
      simp only [List.cons_append, readsFrom, unreadFrom]
      split_ifs
      · exact ⟨by rw [(ih []).1, List.cons_append], (ih []).2⟩
      · exact ih (collected ++ packet)

theorem hostReads_prefix {first second : List (List α)} (hfirst : first <+: second) :
    hostReads mps size first <+: hostReads mps size second := by
  obtain ⟨rest, rfl⟩ := hfirst
  rw [hostReads, hostReads, (readsFrom_append [] first rest).1]
  exact List.prefix_append _ _

/-- Every byte that arrived is in a read, or collected for the next one. -/
theorem flatten_readsFrom (collected : List α) (packets : List (List α)) :
    (readsFrom mps size collected packets).flatten ++ unreadFrom mps size collected packets =
      collected ++ packets.flatten := by
  induction packets generalizing collected with
  | nil => simp [readsFrom, unreadFrom]
  | cons packet rest ih =>
      simp only [readsFrom, unreadFrom]
      split_ifs
      · rw [List.flatten_cons, List.append_assoc, ih [], List.flatten_cons, List.nil_append,
          List.append_assoc]
      · rw [ih, List.flatten_cons, List.append_assoc]

/-- A transfer ends a read unless it is of whole packets and leaves the read part full. -/
theorem unreadFrom_dataPackets (hmps : 0 < mps) (hwhole : mps ∣ size) {collected bytes : List α}
    (hpart : mps ∣ collected.length) (hroom : collected.length < size) (hne : bytes ≠ []) :
    unreadFrom mps size collected (dataPackets mps bytes) = [] ↔
      (mps ∣ bytes.length → size ∣ collected.length + bytes.length) := by
  induction hlength : bytes.length using Nat.strong_induction_on generalizing collected bytes with
  | _ count ih =>
    have hpos := List.length_pos_iff.mpr hne
    by_cases hshort : bytes.length < mps
    · rw [dataPackets_of_lt hne hshort, unreadFrom, if_pos (.inl hshort), ← hlength]
      exact iff_of_true rfl fun hdvd => absurd (Nat.le_of_dvd hpos hdvd) (Nat.not_le.mpr hshort)
    · have hfull : (bytes.take mps).length = mps := by
        rw [List.length_take]
        omega
      have hrest : (bytes.drop mps).length = count - mps := by rw [List.length_drop, hlength]
      have hdvd : mps ∣ count ↔ mps ∣ count - mps := by
        rw [Nat.dvd_sub_iff_left (by omega) (Nat.dvd_refl mps)]
      have hnext : mps ∣ (collected ++ bytes.take mps).length := by
        rw [List.length_append, hfull]
        exact Nat.dvd_add hpart (Nat.dvd_refl mps)
      have hlong : ¬ (bytes.take mps).length < mps := by omega
      rw [dataPackets_of_ne hmps hne, unreadFrom]
      by_cases hdone : size ≤ (collected ++ bytes.take mps).length
      · -- the read is full: whole packets cannot overshoot it
        have hexact : collected.length + mps = size := by
          rw [List.length_append, hfull] at hdone hnext
          have hgap := Nat.le_of_dvd (by omega) (Nat.dvd_sub hwhole hpart)
          omega
        rw [if_pos (.inr hdone)]
        by_cases hlast : bytes.drop mps = []
        · have hcount : count = mps := by
            have := List.length_eq_zero_iff.mpr hlast
            omega
          rw [hlast, dataPackets_nil hmps, hcount, hexact]
          exact iff_of_true rfl fun _ => Nat.dvd_refl size
        · have hsum : size ∣ collected.length + count ↔ size ∣ count - mps := by
            rw [show collected.length + count = size + (count - mps) by omega,
              Nat.dvd_add_right (Nat.dvd_refl size)]
          rw [ih _ (by omega) (Nat.dvd_zero _) (by simpa using Nat.zero_lt_of_lt hroom) hlast hrest,
            List.length_nil, Nat.zero_add, hdvd, hsum]
      · rw [if_neg (not_or.mpr ⟨hlong, hdone⟩)]
        rw [List.length_append, hfull] at hdone
        by_cases hlast : bytes.drop mps = []
        · have hcount : count = mps := by
            have := List.length_eq_zero_iff.mpr hlast
            omega
          rw [hlast, dataPackets_nil hmps, hcount, unreadFrom]
          refine iff_of_false ?_ fun hall => ?_
          · exact List.append_ne_nil_of_right_ne_nil _
              (List.length_pos_iff.mp (by omega))
          · have hle := Nat.le_of_dvd (by omega) (hall (Nat.dvd_refl mps))
            omega
        · have hsum : (collected ++ bytes.take mps).length + (count - mps) =
              collected.length + count := by
            rw [List.length_append, hfull]
            omega
          rw [ih _ (by omega) hnext (by rw [List.length_append, hfull]; omega) hlast hrest, hsum,
            hdvd]

/-- Whole packets that do not fill the read are collected for it. -/
theorem unreadFrom_whole (hmps : 0 < mps) {collected bytes : List α} (hwhole : mps ∣ bytes.length)
    (hroom : collected.length + bytes.length < size) :
    readsFrom mps size collected (dataPackets mps bytes) = [] ∧
      unreadFrom mps size collected (dataPackets mps bytes) = collected ++ bytes := by
  induction hlength : bytes.length using Nat.strong_induction_on generalizing collected bytes with
  | _ count ih =>
    by_cases hne : bytes = []
    · rw [hne, dataPackets_nil hmps, List.append_nil]
      exact ⟨rfl, rfl⟩
    · have hpos := List.length_pos_iff.mpr hne
      have hle := Nat.le_of_dvd hpos hwhole
      have hfull : (bytes.take mps).length = mps := by
        rw [List.length_take]
        omega
      have hrest : (bytes.drop mps).length = count - mps := by rw [List.length_drop, hlength]
      have hcollects :
          ¬ ((bytes.take mps).length < mps ∨ size ≤ (collected ++ bytes.take mps).length) := by
        rw [List.length_append, hfull]
        omega
      have hdvd : mps ∣ (bytes.drop mps).length := by
        rw [List.length_drop]
        exact Nat.dvd_sub hwhole (Nat.dvd_refl mps)
      have hmore : (collected ++ bytes.take mps).length + (bytes.drop mps).length < size := by
        rw [List.length_append, hfull, hrest]
        omega
      obtain ⟨hreads, hunread⟩ := ih _ (by omega) hdvd hmore hrest
      rw [dataPackets_of_ne hmps hne, readsFrom, unreadFrom, if_neg hcollects, if_neg hcollects,
        hreads, hunread, List.append_assoc, List.take_append_drop]
      exact ⟨rfl, rfl⟩

/-- A transfer that fits the read and ends one is that read. -/
theorem readsFrom_dataPackets (hmps : 0 < mps) {collected bytes : List α} (hne : bytes ≠ [])
    (hfits : collected.length + bytes.length ≤ size)
    (hends : unreadFrom mps size collected (dataPackets mps bytes) = []) :
    readsFrom mps size collected (dataPackets mps bytes) = [collected ++ bytes] := by
  induction hlength : bytes.length using Nat.strong_induction_on generalizing collected bytes with
  | _ count ih =>
    have hpos := List.length_pos_iff.mpr hne
    by_cases hshort : bytes.length < mps
    · rw [dataPackets_of_lt hne hshort, readsFrom, if_pos (.inl hshort), readsFrom]
    · have hfull : (bytes.take mps).length = mps := by
        rw [List.length_take]
        omega
      have hrest : (bytes.drop mps).length = count - mps := by rw [List.length_drop, hlength]
      have hlong : ¬ (bytes.take mps).length < mps := by omega
      rw [dataPackets_of_ne hmps hne] at hends ⊢
      rw [unreadFrom] at hends
      rw [readsFrom]
      by_cases hdone : size ≤ (collected ++ bytes.take mps).length
      · have hlast : bytes.drop mps = [] := by
          rw [List.length_append, hfull] at hdone
          exact List.length_eq_zero_iff.mp (by omega)
        have hwhole : bytes.take mps = bytes := by
          simpa [hlast] using List.take_append_drop mps bytes
        rw [if_pos (.inr hdone), hlast, dataPackets_nil hmps, readsFrom, hwhole]
      · rw [if_neg (not_or.mpr ⟨hlong, hdone⟩)] at hends ⊢
        have hmore : bytes.drop mps ≠ [] := by
          intro hlast
          rw [hlast, dataPackets_nil hmps, unreadFrom] at hends
          have := congrArg List.length hends
          rw [List.length_append, hfull, List.length_nil] at this
          omega
        rw [ih _ (by omega) hmore (by rw [List.length_append, hfull, hrest]; omega) hends hrest,
          List.append_assoc, List.take_append_drop]

/-- An empty packet ends a read. -/
theorem readsFrom_empty (hmps : 0 < mps) (collected : List α) :
    readsFrom mps size collected [[]] = [collected] ∧ unreadFrom mps size collected [[]] = [] := by
  have hends : ([] : List α).length < mps ∨ size ≤ (collected ++ []).length := .inl hmps
  rw [readsFrom, unreadFrom, if_pos hends, if_pos hends, List.append_nil]
  exact ⟨rfl, rfl⟩

/-- A transfer with an empty packet after whole packets is one read, or two if its bytes
alone fill one. -/
theorem readsFrom_transfer (hmps : 0 < mps) (hwhole : mps ∣ size) {bytes : List α}
    (hne : bytes ≠ []) (hle : bytes.length ≤ size) :
    readsFrom mps size []
        (dataPackets mps bytes ++ if bytes.length % mps = 0 then [[]] else []) =
          (if bytes.length = size then [bytes, []] else [bytes]) ∧
      unreadFrom mps size []
        (dataPackets mps bytes ++ if bytes.length % mps = 0 then [[]] else []) = [] := by
  have hpos := List.length_pos_iff.mpr hne
  have hends := unreadFrom_dataPackets hmps hwhole (Nat.dvd_zero _)
    (Nat.lt_of_lt_of_le hpos hle : ([] : List α).length < size) hne
  rw [List.length_nil, Nat.zero_add] at hends
  have hfits : ([] : List α).length + bytes.length ≤ size := by rwa [List.length_nil, Nat.zero_add]
  rw [(readsFrom_append [] _ _).1, (readsFrom_append [] _ _).2]
  by_cases hmod : bytes.length % mps = 0
  · rw [if_pos hmod]
    by_cases hfull : bytes.length = size
    · have hdone := hends.mpr fun _ => hfull ▸ Nat.dvd_refl _
      rw [readsFrom_dataPackets hmps hne hfits hdone, hdone, (readsFrom_empty hmps []).1,
        (readsFrom_empty hmps []).2, if_pos hfull]
      exact ⟨rfl, rfl⟩
    · obtain ⟨hnone, hcollected⟩ := @unreadFrom_whole _ mps size hmps [] bytes
        (Nat.dvd_of_mod_eq_zero hmod) (by rw [List.length_nil]; omega)
      rw [List.nil_append] at hcollected
      rw [hnone, hcollected, (readsFrom_empty hmps bytes).1, (readsFrom_empty hmps bytes).2,
        if_neg hfull]
      exact ⟨rfl, rfl⟩
  · have hdone := hends.mpr fun hdvd => absurd (Nat.mod_eq_zero_of_dvd hdvd) hmod
    have hshort : bytes.length ≠ size := by
      rintro rfl
      exact hmod (Nat.mod_eq_zero_of_dvd hwhole)
    rw [if_neg hmod, readsFrom_dataPackets hmps hne hfits hdone, hdone, if_neg hshort]
    exact ⟨rfl, rfl⟩

end Reads

end ExLink.Bulk
