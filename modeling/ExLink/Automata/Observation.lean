/-
# What an observer sees of a program

An observer sees some of the questions with their answers, and something of the result.
There are also questions that the environment does not hear, and that have one answer
only. Two programs are alike if whatever the environment answers, the observer sees the
same of both.
-/

import ExLink.Automata.Interaction

namespace ExLink.Automata.Prog

variable {Op : Type} {Ans : Op → Type} {α β γ σ ε : Type}

/-! ## The monad of programs -/

theorem bind_ret (program : Prog Op Ans α) : program.bind ret = program := by
  induction program with
  | ret value => rfl
  | ask op next ih =>
      rw [bind]
      congr 1
      funext answer
      exact ih answer

theorem bind_bind (program : Prog Op Ans α) (f : α → Prog Op Ans β) (g : β → Prog Op Ans γ) :
    (program.bind f).bind g = program.bind fun value => (f value).bind g := by
  induction program with
  | ret value => rfl
  | ask op next ih =>
      simp only [bind]
      congr 1
      funext answer
      exact ih answer

instance : LawfulMonad (Prog Op Ans) :=
  LawfulMonad.mk' (Prog Op Ans) (fun program => bind_ret program) (fun _ _ => rfl)
    (fun program f g => bind_bind program f g)

/-! ## Observations -/

/-- What is seen of the questions and of a result, and which questions are heard. -/
structure Observer (Op : Type) (Ans : Op → Type) (α β : Type) where
  seen : Op → Bool
  heard : Op → Bool
  view : α → β
  heard_of_seen : ∀ op, seen op = true → heard op = true
  nonempty : ∀ op, heard op = false → Nonempty (Ans op)
  subsingleton : ∀ op, heard op = false → Subsingleton (Ans op)

/-- An environment that answers whatever has an answer, and goes on from where it was if it
does not hear the question. -/
structure Observer.Admits (obs : Observer Op Ans α β) (env : Environment Op Ans ε) : Prop where
  unheard : ∀ e op, obs.heard op = false → ∃ answer, env e op = some (answer, e)
  answers : ∀ e op, Nonempty (Ans op) → (env e op).isSome

/-- The questions that are seen in a run, with their answers. -/
def events (seen : Op → Bool) (env : Environment Op Ans ε) :
    Prog Op Ans α → ε → List (Event Ans)
  | ret _, _ => []
  | ask op next, e =>
      (env e op).elim [] fun answer =>
        (if seen op = true then [⟨op, answer.1⟩] else []) ++ (next answer.1).events seen env answer.2

theorem events_bind (seen : Op → Bool) (env : Environment Op Ans ε) (program : Prog Op Ans α)
    (f : α → Prog Op Ans β) (e : ε) :
    (program.bind f).events seen env e =
      program.events seen env e ++
        (program.respond env e).elim [] fun result => (f result.1).events seen env result.2 := by
  induction program generalizing e with
  | ret value => rfl
  | ask op next ih =>
      rw [bind, events, events, respond]
      cases env e op with
      | none => rfl
      | some answer =>
          rw [Option.elim_some, Option.elim_some, Option.bind_some, ih, List.append_assoc]

/-- Whatever the environment answers, the same is seen of two programs. -/
def Alike (obs : Observer Op Ans α β) (first second : Prog Op Ans α) : Prop :=
  ∀ (ε : Type) (env : Environment Op Ans ε), obs.Admits env → ∀ e,
    first.events obs.seen env e = second.events obs.seen env e ∧
      (first.respond env e).map (fun result => obs.view result.1) =
        (second.respond env e).map fun result => obs.view result.1

section Alike

variable {obs : Observer Op Ans α β}

theorem Alike.refl (program : Prog Op Ans α) : Alike obs program program :=
  fun _ _ _ _ => ⟨rfl, rfl⟩

theorem Alike.symm {first second : Prog Op Ans α} (h : Alike obs first second) :
    Alike obs second first :=
  fun ε env admits e => ⟨(h ε env admits e).1.symm, (h ε env admits e).2.symm⟩

/-! ### Questions that are not heard -/

/-- A question that is not heard can be left out. -/
theorem alike_unheard_left {op : Op} (hop : obs.heard op = false) (answer : Ans op)
    {next : Ans op → Prog Op Ans α} {second : Prog Op Ans α} :
    Alike obs (ask op next) second ↔ Alike obs (next answer) second := by
  have hunseen : ¬ obs.seen op = true := fun h =>
    Bool.false_ne_true (hop.symm.trans (obs.heard_of_seen op h))
  have hsame : ∀ (ε : Type) (env : Environment Op Ans ε), obs.Admits env → ∀ e,
      (ask op next).events obs.seen env e = (next answer).events obs.seen env e ∧
        (ask op next).respond env e = (next answer).respond env e := by
    intro ε env admits e
    obtain ⟨given, hgiven⟩ := admits.unheard e op hop
    obtain rfl := (obs.subsingleton op hop).elim given answer
    rw [events, respond, hgiven, Option.elim_some, if_neg hunseen]
    exact ⟨rfl, rfl⟩
  constructor
  · intro h ε env admits e
    rw [← (hsame ε env admits e).1, ← (hsame ε env admits e).2]
    exact h ε env admits e
  · intro h ε env admits e
    rw [(hsame ε env admits e).1, (hsame ε env admits e).2]
    exact h ε env admits e

theorem alike_unheard_right {op : Op} (hop : obs.heard op = false) (answer : Ans op)
    {next : Ans op → Prog Op Ans α} {first : Prog Op Ans α} :
    Alike obs first (ask op next) ↔ Alike obs first (next answer) :=
  ⟨fun h => ((alike_unheard_left hop answer).mp h.symm).symm,
    fun h => ((alike_unheard_left hop answer).mpr h.symm).symm⟩

/-! ### The same question -/

section Answering

open Classical in
/-- An environment that gives one answer to one question, and then goes on as another. -/
noncomputable def answerFirst (env : Environment Op Ans ε) (e : ε) (op : Op) (answer : Ans op) :
    Environment Op Ans (Option ε)
  | none, asked =>
      if h : asked = op then some (h ▸ answer, some e)
      else (env e asked).map fun given => (given.1, none)
  | some e, asked => (env e asked).map fun given => (given.1, some given.2)

variable {env : Environment Op Ans ε} {e : ε} {op : Op} {answer : Ans op}

theorem answerFirst_self : answerFirst env e op answer none op = some (answer, some e) := by
  rw [answerFirst, dif_pos rfl]

theorem admits_answerFirst (admits : obs.Admits env) (hop : obs.heard op = true) :
    obs.Admits (answerFirst env e op answer) where
  unheard state asked hasked := by
    cases state with
    | none =>
        have hother : asked ≠ op := by
          rintro rfl
          exact Bool.false_ne_true (hasked.symm.trans hop)
        obtain ⟨given, hgiven⟩ := admits.unheard e asked hasked
        exact ⟨given, by rw [answerFirst, dif_neg hother, hgiven]; rfl⟩
    | some e' =>
        obtain ⟨given, hgiven⟩ := admits.unheard e' asked hasked
        exact ⟨given, by rw [answerFirst, hgiven]; rfl⟩
  answers state asked hasked := by
    cases state with
    | none =>
        rw [answerFirst]
        split_ifs
        · rfl
        · rw [Option.isSome_map]
          exact admits.answers e asked hasked
    | some e' =>
        rw [answerFirst, Option.isSome_map]
        exact admits.answers e' asked hasked

/-- Afterwards it is the other one. -/
theorem run_answerFirst (seen : Op → Bool) (program : Prog Op Ans α) (e' : ε) :
    program.events seen (answerFirst env e op answer) (some e') = program.events seen env e' ∧
      program.respond (answerFirst env e op answer) (some e') =
        (program.respond env e').map fun result => (result.1, some result.2) := by
  induction program generalizing e' with
  | ret value => exact ⟨rfl, rfl⟩
  | ask asked next ih =>
      rw [events, events, respond, respond, answerFirst]
      cases env e' asked with
      | none => exact ⟨rfl, rfl⟩
      | some given =>
          simp only [Option.map_some, Option.elim_some, Option.bind_some, (ih given.1 given.2).1,
            (ih given.1 given.2).2, and_self]

end Answering

/-- The same question is alike if what follows is, whatever is answered. -/
theorem alike_ask {op : Op} {first second : Ans op → Prog Op Ans α} :
    Alike obs (ask op first) (ask op second) ↔
      ∀ answer, Alike obs (first answer) (second answer) := by
  constructor
  · intro h answer
    by_cases hop : obs.heard op = true
    · intro ε env admits e
      have hboth := h _ _ (@admits_answerFirst _ _ _ _ _ obs env e op answer admits hop) none
      simp only [events, respond, answerFirst_self, Option.elim_some, Option.bind_some,
        (run_answerFirst obs.seen _ e).1, (run_answerFirst obs.seen _ e).2,
        List.append_cancel_left_eq, Option.map_map] at hboth
      exact hboth
    · have hunheard : obs.heard op = false := Bool.not_eq_true _ |>.mp hop
      exact (alike_unheard_right hunheard answer).mp ((alike_unheard_left hunheard answer).mp h)
  · intro h ε env admits e
    rw [events, events, respond, respond]
    cases env e op with
    | none => exact ⟨rfl, rfl⟩
    | some given =>
        obtain ⟨hevents, hresult⟩ := h given.1 ε env admits given.2
        simp only [Option.elim_some, Option.bind_some, hevents, hresult, and_self]

/-- Every question is allowed, and nothing is remembered. -/
def everywhere : Watch Op Unit := ⟨fun _ => True, fun _ _ => ()⟩

/-- The same program first: what follows is alike for all that it can return. -/
theorem alike_bind (program : Prog Op Ans γ) {first second : γ → Prog Op Ans α} :
    Alike obs (program.bind first) (program.bind second) ↔
      program.Guarantees everywhere (fun value _ => Alike obs (first value) (second value)) () := by
  induction program with
  | ret value => exact Iff.rfl
  | ask op next ih =>
      rw [bind, bind, alike_ask, Guarantees]
      exact forall_congr' fun answer => (ih answer).trans (and_iff_right trivial).symm

theorem guarantees_forall {ι : Sort*} {program : Prog Op Ans γ} {post : ι → γ → Prop} :
    program.Guarantees everywhere (fun value _ => ∀ index, post index value) () ↔
      ∀ index, program.Guarantees everywhere (fun value _ => post index value) () := by
  induction program with
  | ret value => exact Iff.rfl
  | ask op next ih =>
      simp only [Guarantees, everywhere, true_and]
      exact (forall_congr' fun answer => ih answer).trans forall_comm

/-- A watch that allows all questions of a program adds nothing. -/
theorem guarantees_everywhere (watch : Watch Op σ) {program : Prog Op Ans γ} {post : γ → Prop}
    {ghost : σ} (hallowed : program.Guarantees watch (fun _ _ => True) ghost) :
    program.Guarantees everywhere (fun value _ => post value) () ↔
      program.Guarantees watch (fun value _ => post value) ghost := by
  induction program generalizing ghost with
  | ret value => exact Iff.rfl
  | ask op next ih =>
      rw [Guarantees, Guarantees]
      refine forall_congr' fun answer => ?_
      rw [and_iff_right (hallowed answer).1]
      exact (and_iff_right trivial).trans (ih answer (hallowed answer).2)

/-! ### Telling programs apart -/

/-- Whatever is answered, this is the first question that is seen. -/
inductive Opens (obs : Observer Op Ans α β) (op : Op) : Prog Op Ans α → Prop
  | ask {next : Ans op → Prog Op Ans α} : Opens obs op (.ask op next)
  | unseen {other : Op} {next : Ans other → Prog Op Ans α} (hunseen : obs.seen other = false)
      (hanswer : Nonempty (Ans other)) (rest : ∀ answer, Opens obs op (next answer)) :
      Opens obs op (.ask other next)

theorem Opens.head {op : Op} {program : Prog Op Ans α} (opens : Opens obs op program)
    (hseen : obs.seen op = true) (hop : Nonempty (Ans op)) {env : Environment Op Ans ε}
    (admits : obs.Admits env) (e : ε) :
    ((program.events obs.seen env e).map Sigma.fst).head? = some op := by
  induction opens generalizing e with
  | ask =>
      obtain ⟨given, hgiven⟩ := Option.isSome_iff_exists.mp (admits.answers e op hop)
      rw [events, hgiven, Option.elim_some, if_pos hseen]
      rfl
  | unseen hunseen hanswer rest ih =>
      obtain ⟨given, hgiven⟩ := Option.isSome_iff_exists.mp (admits.answers e _ hanswer)
      rw [events, hgiven, Option.elim_some, hunseen, if_neg Bool.false_ne_true]
      exact ih given.1 given.2

open Classical in
/-- An environment without a state. -/
noncomputable def anyAnswer : Environment Op Ans Unit := fun _ op =>
  if h : Nonempty (Ans op) then some (Classical.choice h, ()) else none

theorem admits_anyAnswer : obs.Admits (anyAnswer : Environment Op Ans Unit) where
  unheard e op hop := ⟨Classical.choice (obs.nonempty op hop), dif_pos (obs.nonempty op hop)⟩
  answers e op hop := by rw [anyAnswer, dif_pos hop]; rfl

/-- Programs whose first seen questions differ are not alike. -/
theorem Alike.eq_of_opens {first second : Prog Op Ans α} (h : Alike obs first second) {op op' : Op}
    (hfirst : Opens obs op first) (hsecond : Opens obs op' second) (hseen : obs.seen op = true)
    (hseen' : obs.seen op' = true) (hop : Nonempty (Ans op)) (hop' : Nonempty (Ans op')) :
    op = op' := by
  have hhead := hfirst.head hseen hop admits_anyAnswer ()
  rw [(h Unit anyAnswer admits_anyAnswer ()).1,
    hsecond.head hseen' hop' admits_anyAnswer ()] at hhead
  exact (Option.some.inj hhead).symm

/-- Whatever is answered, something is seen sooner or later. -/
inductive Shows (obs : Observer Op Ans α β) : Prog Op Ans α → Prop
  | seen {op : Op} {next : Ans op → Prog Op Ans α} (hseen : obs.seen op = true)
      (hop : Nonempty (Ans op)) : Shows obs (.ask op next)
  | later {op : Op} {next : Ans op → Prog Op Ans α} (hop : Nonempty (Ans op))
      (rest : ∀ answer, Shows obs (next answer)) : Shows obs (.ask op next)

theorem Shows.ne_nil {program : Prog Op Ans α} (shows : Shows obs program)
    {env : Environment Op Ans ε} (admits : obs.Admits env) (e : ε) :
    program.events obs.seen env e ≠ [] := by
  induction shows generalizing e with
  | seen hseen hop =>
      obtain ⟨given, hgiven⟩ := Option.isSome_iff_exists.mp (admits.answers e _ hop)
      rw [events, hgiven, Option.elim_some, if_pos hseen]
      exact List.cons_ne_nil _ _
  | later hop rest ih =>
      obtain ⟨given, hgiven⟩ := Option.isSome_iff_exists.mp (admits.answers e _ hop)
      rw [events, hgiven, Option.elim_some]
      exact List.append_ne_nil_of_right_ne_nil _ (ih given.1 given.2)

/-! ## Programs that ask some questions only -/

/-- Only some questions are asked. -/
def asksOnly (asked : Op → Prop) : Watch Op Unit := ⟨asked, fun _ _ => ()⟩

/-- Only these questions are asked, from whatever state. -/
def Asks (asked : Op → Prop) (program : Stateful Op Ans σ α) : Prop :=
  ∀ s, Wp (asksOnly asked) program (fun _ _ _ => True) s ()

section Asks

variable {asked : Op → Prop}

theorem asks_pure (value : α) : Asks asked (pure value : Stateful Op Ans σ α) := fun _ => trivial

theorem asks_get : Asks asked (get : Stateful Op Ans σ σ) := fun _ => trivial

theorem asks_modify (f : σ → σ) : Asks asked (modify f : Stateful Op Ans σ PUnit) :=
  fun _ => trivial

theorem asks_perform {op : Op} (hop : asked op) :
    Asks asked (perform op : Stateful Op Ans σ (Ans op)) := fun _ _ => ⟨hop, trivial⟩

theorem asks_bind {program : Stateful Op Ans σ β} {f : β → Stateful Op Ans σ α}
    (hprogram : Asks asked program) (hf : ∀ value, Asks asked (f value)) :
    Asks asked (program >>= f) := by
  intro s
  rw [wp_bind]
  exact wp_mono (fun value s _ _ => hf value s) (hprogram s)

theorem asks_ite {c : Prop} [Decidable c] {first second : Stateful Op Ans σ α}
    (hfirst : Asks asked first) (hsecond : Asks asked second) :
    Asks asked (if c then first else second) := by
  split_ifs
  · exact hfirst
  · exact hsecond

theorem guarantees_asksOnly_mono {asked' : Op → Prop} (hle : ∀ op, asked op → asked' op)
    {program : Prog Op Ans α} (h : program.Guarantees (asksOnly asked) (fun _ _ => True) ()) :
    program.Guarantees (asksOnly asked') (fun _ _ => True) () := by
  induction program with
  | ret value => trivial
  | ask op next ih => exact fun answer => ⟨hle op (h answer).1, ih answer (h answer).2⟩

theorem Asks.mono {asked' : Op → Prop} (hle : ∀ op, asked op → asked' op)
    {program : Stateful Op Ans σ α} (h : Asks asked program) : Asks asked' program :=
  fun s => guarantees_asksOnly_mono hle (h s)

end Asks

/-- Nothing is seen of a program that asks unseen questions only. -/
theorem events_eq_nil {seen : Op → Bool} {asked : Op → Prop}
    (hunseen : ∀ op, asked op → seen op = false) {program : Prog Op Ans α}
    (h : program.Guarantees (asksOnly asked) (fun _ _ => True) ()) (env : Environment Op Ans ε)
    (e : ε) : program.events seen env e = [] := by
  induction program generalizing e with
  | ret value => rfl
  | ask op next ih =>
      rw [events]
      cases env e op with
      | none => rfl
      | some given =>
          rw [Option.elim_some, hunseen op (h given.1).1, if_neg Bool.false_ne_true,
            ih given.1 (h given.1).2]
          rfl

/-- Environments that give the same answers to these questions. -/
theorem respond_congr {asked : Op → Prop} {env env' : Environment Op Ans ε}
    (hsame : ∀ e op, asked op → env e op = env' e op) {program : Prog Op Ans α}
    (h : program.Guarantees (asksOnly asked) (fun _ _ => True) ()) (e : ε) :
    program.respond env e = program.respond env' e := by
  induction program generalizing e with
  | ret value => rfl
  | ask op next ih =>
      rw [respond, respond]
      cases hgiven : env e op with
      | some given =>
          rw [← hsame e op (h given.1).1, hgiven]
          exact ih given.1 (h given.1).2 given.2
      | none =>
          cases hother : env' e op with
          | none => rfl
          | some given =>
              rw [hsame e op (h given.1).1, hother] at hgiven
              exact absurd hgiven.symm (Option.some_ne_none given).symm

/-! ### Programs that cannot be told apart -/

/-- Whatever is answered, this is all that is seen. -/
def Concludes (obs : Observer Op Ans α β) (program : Prog Op Ans α) (shown : List (Event Ans))
    (view : β) : Prop :=
  ∀ (ε : Type) (env : Environment Op Ans ε), obs.Admits env → ∀ e,
    program.events obs.seen env e = shown ∧
      (program.respond env e).map (fun result => obs.view result.1) = some view

theorem Concludes.alike {first second : Prog Op Ans α} {shown : List (Event Ans)} {view : β}
    (hfirst : Concludes obs first shown view) (hsecond : Concludes obs second shown view) :
    Alike obs first second :=
  fun ε env admits e => ⟨(hfirst ε env admits e).1.trans (hsecond ε env admits e).1.symm,
    (hfirst ε env admits e).2.trans (hsecond ε env admits e).2.symm⟩

theorem concludes_ret (value : α) : Concludes obs (ret value : Prog Op Ans α) [] (obs.view value) :=
  fun _ _ _ _ => ⟨rfl, rfl⟩

theorem Concludes.unseen {op : Op} {next : Ans op → Prog Op Ans α} {shown : List (Event Ans)}
    {view : β} (hunseen : obs.seen op = false) (hop : Nonempty (Ans op))
    (hnext : ∀ answer, Concludes obs (next answer) shown view) :
    Concludes obs (.ask op next) shown view := by
  intro ε env admits e
  obtain ⟨given, hgiven⟩ := Option.isSome_iff_exists.mp (admits.answers e op hop)
  rw [events, respond, hgiven, Option.elim_some, hunseen, if_neg Bool.false_ne_true]
  exact hnext given.1 ε env admits given.2

theorem Concludes.seen {op : Op} {next : Ans op → Prog Op Ans α} {shown : List (Event Ans)}
    {view : β} (hseen : obs.seen op = true) (answer : Ans op) (honly : Subsingleton (Ans op))
    (hnext : Concludes obs (next answer) shown view) :
    Concludes obs (.ask op next) (⟨op, answer⟩ :: shown) view := by
  intro ε env admits e
  obtain ⟨given, hgiven⟩ := Option.isSome_iff_exists.mp (admits.answers e op ⟨answer⟩)
  obtain ⟨hshown, hview⟩ := hnext ε env admits given.2
  obtain rfl := honly.elim given.1 answer
  rw [events, respond, hgiven, Option.elim_some, if_pos hseen, hshown]
  exact ⟨rfl, hview⟩

end Alike

end ExLink.Automata.Prog
