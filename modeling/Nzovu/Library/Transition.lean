import Mathlib.Data.List.Basic

/-!
# Runs of a partial step function

A system is a state type, a type of actions and a step function that says which actions are
enabled in a state and where they lead. Interleavings of any number of threads are sequences of
actions, so a property of every interleaving is a property of every run.
-/

namespace Transition

variable {σ α : Type*} {step : σ → α → Option σ}

def run (step : σ → α → Option σ) : σ → List α → Option σ
  | s, [] => some s
  | s, a :: rest => (step s a).bind fun t => run step t rest

@[simp]
theorem run_nil (s : σ) : run step s [] = some s := rfl

theorem run_cons {s u : σ} {a : α} {rest : List α} :
    run step s (a :: rest) = some u ↔ ∃ t, step s a = some t ∧ run step t rest = some u := by
  simp [run, Option.bind_eq_some_iff]

theorem run_append {s u : σ} {before after : List α} :
    run step s (before ++ after) = some u ↔
      ∃ t, run step s before = some t ∧ run step t after = some u := by
  induction before generalizing s with
  | nil => simp
  | cons a rest ih =>
      simp only [List.cons_append, run_cons, ih]
      constructor
      · rintro ⟨r, first, t, middle, last⟩
        exact ⟨t, ⟨r, first, middle⟩, last⟩
      · rintro ⟨t, ⟨r, first, middle⟩, last⟩
        exact ⟨r, first, t, middle, last⟩

theorem run_through {s u : σ} {before after : List α} {a : α}
    (h : run step s (before ++ a :: after) = some u) :
    ∃ t t', run step s before = some t ∧ step t a = some t' ∧ run step t' after = some u := by
  obtain ⟨t, reached, rest⟩ := run_append.1 h
  obtain ⟨t', taken, rest⟩ := run_cons.1 rest
  exact ⟨t, t', reached, taken, rest⟩

theorem run_from {s t u : σ} {before after : List α} (h : run step s (before ++ after) = some u)
    (reached : run step s before = some t) : run step t after = some u := by
  obtain ⟨t', reached', rest⟩ := run_append.1 h
  rw [reached] at reached'
  cases reached'
  exact rest

/-! ## Conditions on the steps of a run -/

/-- Every action of the run meets `C` in the state in which it is taken. -/
def Along (step : σ → α → Option σ) (C : σ → α → Prop) : σ → List α → Prop
  | _, [] => True
  | s, a :: rest => C s a ∧ ∀ t, step s a = some t → Along step C t rest

instance Along.decidable {C : σ → α → Prop} [∀ s a, Decidable (C s a)] :
    ∀ (s : σ) (trace : List α), Decidable (Along step C s trace)
  | _, [] => .isTrue trivial
  | s, a :: rest =>
      match taken : step s a with
      | none => decidable_of_iff (C s a) (by simp [Along, taken])
      | some t =>
          have : Decidable (Along step C t rest) := Along.decidable t rest
          decidable_of_iff (C s a ∧ Along step C t rest) (by simp [Along, taken])

theorem Along.append {C : σ → α → Prop} {s t : σ} {before after : List α}
    (h : Along step C s (before ++ after)) (reached : run step s before = some t) :
    Along step C s before ∧ Along step C t after := by
  induction before generalizing s with
  | nil =>
      cases reached
      exact ⟨trivial, h⟩
  | cons a rest ih =>
      obtain ⟨r, taken, reached⟩ := run_cons.1 reached
      obtain ⟨now, later⟩ := h
      refine ⟨⟨now, fun q other => ?_⟩, (ih (later r taken) reached).2⟩
      rw [taken] at other
      cases other
      exact (ih (later r taken) reached).1

theorem Along.at {C : σ → α → Prop} {s t : σ} {before after : List α} {a : α}
    (h : Along step C s (before ++ a :: after)) (reached : run step s before = some t) :
    C t a :=
  (h.append reached).2.1

theorem Along.and {C D : σ → α → Prop} {s : σ} {trace : List α} (h : Along step C s trace)
    (k : Along step D s trace) : Along step (fun s a => C s a ∧ D s a) s trace := by
  induction trace generalizing s with
  | nil => trivial
  | cons a rest ih => exact ⟨⟨h.1, k.1⟩, fun t taken => ih (h.2 t taken) (k.2 t taken)⟩

theorem Along.of_forall {C : α → Prop} {s : σ} {trace : List α} (h : ∀ a ∈ trace, C a) :
    Along step (fun _ => C) s trace := by
  induction trace generalizing s with
  | nil => trivial
  | cons a rest ih =>
      exact ⟨h a (by simp), fun t _ => ih fun b member => h b (by simp [member])⟩

/-! ## Moments of a run -/

def Sometime (P : List α → α → Prop) (trace : List α) : Prop :=
  ∃ before a after, trace = before ++ a :: after ∧ P before a

theorem not_sometime_nil (P : List α → α → Prop) : ¬ Sometime P [] := by
  rintro ⟨before, a, after, split, -⟩
  cases before <;> cases split

theorem sometime_snoc {P : List α → α → Prop} {trace : List α} {a : α} :
    Sometime P (trace ++ [a]) ↔ Sometime P trace ∨ P trace a := by
  constructor
  · rintro ⟨before, b, after, split, held⟩
    rcases List.eq_nil_or_concat after with rfl | ⟨rest, last, rfl⟩
    · obtain ⟨rfl, same⟩ := List.append_inj' split rfl
      cases same
      exact .inr held
    · rw [List.concat_eq_append, ← List.cons_append, ← List.append_assoc] at split
      obtain ⟨rfl, -⟩ := List.append_inj' split rfl
      exact .inl ⟨before, b, rest, rfl, held⟩
  · rintro (⟨before, b, after, rfl, held⟩ | held)
    · exact ⟨before, b, after ++ [a], by simp, held⟩
    · exact ⟨trace, a, [], rfl, held⟩

/-! ## Invariants -/

theorem invariant_along {C : σ → α → Prop} {I : σ → Prop}
    (kept : ∀ s a t, C s a → I s → step s a = some t → I t) {s t : σ} {trace : List α}
    (start : I s) (meets : Along step C s trace) (h : run step s trace = some t) : I t := by
  induction trace generalizing s with
  | nil =>
      cases h
      exact start
  | cons a rest ih =>
      obtain ⟨r, taken, h⟩ := run_cons.1 h
      exact ih (kept s a r meets.1 start taken) (meets.2 r taken) h

theorem invariant {I : σ → Prop} (kept : ∀ s a t, I s → step s a = some t → I t) {s t : σ}
    {trace : List α} (start : I s) (h : run step s trace = some t) : I t :=
  invariant_along (C := fun _ _ => True) (fun s a t _ => kept s a t) start
    (Along.of_forall (C := fun _ => True) fun _ _ => trivial) h

theorem invariant_trace {I : List α → σ → Prop}
    (kept : ∀ past s a t, I past s → step s a = some t → I (past ++ [a]) t) {s t : σ}
    {trace : List α} (start : I [] s) (h : run step s trace = some t) : I trace t := by
  suffices general : ∀ (past : List α) (s : σ), I past s → run step s trace = some t →
      I (past ++ trace) t by simpa using general [] s start h
  clear h start
  induction trace with
  | nil =>
      intro past s held h
      cases h
      simpa using held
  | cons a rest ih =>
      intro past s held h
      obtain ⟨r, taken, h⟩ := run_cons.1 h
      simpa using ih (past ++ [a]) r (kept past s a r held taken) h

theorem stable_through {I : σ → Prop} (kept : ∀ s a t, I s → step s a = some t → I t)
    {P : α → Prop} (bound : ∀ s a t, I s → step s a = some t → P a) {s t : σ} {trace : List α}
    (start : I s) (h : run step s trace = some t) : ∀ a ∈ trace, P a := by
  induction trace generalizing s with
  | nil => simp
  | cons a rest ih =>
      obtain ⟨r, taken, h⟩ := run_cons.1 h
      intro b member
      rcases List.mem_cons.1 member with rfl | later
      · exact bound s b r start taken
      · exact ih (kept s a r start taken) h b later

end Transition
