/-
# Lists of records

A record starts with a byte that gives its length, and a list of records lies in memory one
after the other. A loop over them looks at the record in front of it, and goes on until a
record of length 0 or until it is past an end that one of the records may set. Memory is the
list of the bytes that are there; a loop that would read past them has no result.
-/

import ExLink.Data.Bytes

namespace ExLink

variable {σ ρ : Type}

/-- Its first byte is its length. -/
def IsRecord (record : List Byte) : Prop :=
  record ≠ [] ∧ (record.headD 0#8).toNat = record.length

instance (record : List Byte) : Decidable (IsRecord record) := by
  unfold IsRecord
  infer_instance

/-- What the body of a loop makes of a record: the loop goes on, perhaps with a new end, or
it is left. -/
inductive Visit (σ ρ : Type) where
  | next (state : σ) (total : Option ℕ)
  | leave (result : ρ)

/-- The loop. An end counts from the record that set it; there is none while it is 0. -/
def walkRecords (visit : List Byte → σ → Option (Visit σ ρ)) (current total : ℕ) (state : σ)
    (memory : List Byte) : Option (σ ⊕ ρ) :=
  match memory with
  | [] => none
  | size :: rest =>
      if size = 0#8 then some (.inl state)
      else
        match visit (size :: rest) state with
        | none => none
        | some (.leave result) => some (.inr result)
        | some (.next state newTotal) =>
            let current := newTotal.elim current (fun _ => 0) + size.toNat
            let total := newTotal.getD total
            if total ≤ current ∧ total ≠ 0 then some (.inl state)
            else walkRecords visit current total state (rest.drop (size.toNat - 1))
  termination_by memory.length
  decreasing_by
    rw [List.length_drop, List.length_cons]
    exact Nat.lt_succ_of_le (Nat.sub_le _ _)

/-- The records one by one. -/
def visitRecords (visit : List Byte → σ → Option (Visit σ ρ)) :
    List (List Byte) → σ → Option (σ ⊕ ρ)
  | [], state => some (.inl state)
  | record :: rest, state =>
      match visit record state with
      | none => none
      | some (.leave result) => some (.inr result)
      | some (.next state _) => visitRecords visit rest state

/-- The body looks at no more than the record, and the record sets no end. -/
structure Plain (visit : List Byte → σ → Option (Visit σ ρ)) (record : List Byte) : Prop where
  own : ∀ behind state, visit (record ++ behind) state = visit record state
  endless : ∀ state state' total, visit record state = some (.next state' total) → total = none

section Walk

variable {visit : List Byte → σ → Option (Visit σ ρ)}

/-- One turn of the loop. -/
theorem walkRecords_record {record : List Byte} (hrecord : IsRecord record)
    (behind : List Byte) (current total : ℕ) (state : σ) :
    walkRecords visit current total state (record ++ behind) =
      match visit (record ++ behind) state with
      | none => none
      | some (.leave result) => some (.inr result)
      | some (.next state newTotal) =>
          let current := newTotal.elim current (fun _ => 0) + record.length
          let total := newTotal.getD total
          if total ≤ current ∧ total ≠ 0 then some (.inl state)
          else walkRecords visit current total state behind := by
  obtain ⟨hsome, hlength⟩ := hrecord
  cases record with
  | nil => exact absurd rfl hsome
  | cons size rest =>
      rw [List.headD_cons, List.length_cons] at hlength
      have hsize : size ≠ 0#8 := by
        rintro rfl
        cases hlength
      have hdrop : (rest ++ behind).drop (size.toNat - 1) = behind := by
        rw [hlength, Nat.add_sub_cancel, List.drop_left]
      rw [List.cons_append, walkRecords, if_neg hsize, hdrop, List.length_cons, hlength]

/-- What is left to do after a turn, over records that set no end: whatever lies behind them. -/
theorem walkRecords_rest {records : List (List Byte)}
    (hrecords : ∀ record ∈ records, IsRecord record ∧ Plain visit record)
    (behind : List Byte) {current : ℕ} (hpos : 0 < current) (state : σ) :
    (if current + records.flatten.length ≤ current ∧ current + records.flatten.length ≠ 0 then
        some (.inl state)
      else
        walkRecords visit current (current + records.flatten.length) state
          (records.flatten ++ behind)) =
      visitRecords visit records state := by
  induction records generalizing current state with
  | nil => exact if_pos ⟨le_rfl, Nat.ne_of_gt hpos⟩
  | cons record rest ih =>
      obtain ⟨hrecord, hplain⟩ := hrecords record List.mem_cons_self
      have hlength : 0 < record.length := List.length_pos_iff.mpr hrecord.1
      have hopen : 0 < (record ++ rest.flatten).length := by
        rw [List.length_append]
        exact Nat.add_pos_left hlength _
      rw [List.flatten_cons, if_neg fun hover =>
          Nat.not_le.mpr (Nat.lt_add_of_pos_right hopen) hover.1,
        List.append_assoc, walkRecords_record hrecord, visitRecords, hplain.own]
      cases hvisit : visit record state with
      | none => rfl
      | some visited =>
          cases visited with
          | leave result => rfl
          | next state' total =>
              obtain rfl := hplain.endless state state' total hvisit
              simp only [Option.elim_none, Option.getD_none]
              rw [List.length_append, ← Nat.add_assoc]
              exact ih (fun next hnext => hrecords next (List.mem_cons_of_mem record hnext))
                (Nat.add_pos_left hpos _) state'

/-- The loop over a header that sets the end, and the records up to there. -/
theorem walkRecords_header {header : List Byte} {records : List (List Byte)}
    (hheader : IsRecord header)
    (hrecords : ∀ record ∈ records, IsRecord record ∧ Plain visit record)
    {state state' : σ}
    (hvisit : ∀ behind, visit (header ++ behind) state =
      some (.next state' (some (header.length + records.flatten.length))))
    (behind : List Byte) (current total : ℕ) :
    walkRecords visit current total state (header ++ (records.flatten ++ behind)) =
      visitRecords visit records state' := by
  rw [walkRecords_record hheader, hvisit]
  simp only [Option.elim_some, Option.getD_some, Nat.zero_add]
  exact walkRecords_rest hrecords behind (List.length_pos_iff.mpr hheader.1) state'

/-- Without an end, a loop that nothing stops leaves the memory. -/
theorem walkRecords_endless {records : List (List Byte)}
    (hrecords : ∀ record ∈ records, IsRecord record ∧ Plain visit record)
    (hgoes : ∀ record ∈ records, ∀ state result,
      visit record state ≠ some (.leave result))
    (current : ℕ) (state : σ) :
    walkRecords visit current 0 state records.flatten = none := by
  induction records generalizing current state with
  | nil => rw [List.flatten_nil, walkRecords]
  | cons record rest ih =>
      obtain ⟨hrecord, hplain⟩ := hrecords record List.mem_cons_self
      rw [List.flatten_cons, walkRecords_record hrecord, hplain.own]
      cases hvisit : visit record state with
      | none => rfl
      | some visited =>
          cases visited with
          | leave result =>
              exact absurd hvisit (hgoes record List.mem_cons_self state result)
          | next state' total =>
              obtain rfl := hplain.endless state state' total hvisit
              refine (if_neg fun hover => hover.2 rfl).trans ?_
              exact ih (fun next hnext => hrecords next (List.mem_cons_of_mem record hnext))
                (fun next hnext => hgoes next (List.mem_cons_of_mem record hnext)) _ state'

end Walk

end ExLink
