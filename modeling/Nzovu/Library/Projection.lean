import Mathlib.Algebra.BigOperators.Group.Finset.Piecewise
import Mathlib.Algebra.Order.BigOperators.Group.Finset
import Nzovu.Library.Transition

/-!
# Parts of a system

A part has states, actions and a step function of its own. A view says which actions of the part an
action of the system contains. When every step of the system moves the part as its view says, every
run of the system is a run of the part.
-/

namespace Transition

variable {σ α τ β : Type*} {step : σ → α → Option σ} {part : τ → β → Option τ}
  {view : σ → α → List β}

def project (step : σ → α → Option σ) (view : σ → α → List β) : σ → List α → List β
  | _, [] => []
  | s, a :: rest => view s a ++ (step s a).elim [] fun t => project step view t rest

@[simp]
theorem project_nil (s : σ) : project step view s [] = [] := rfl

theorem project_cons {s t : σ} {a : α} (taken : step s a = some t) (rest : List α) :
    project step view s (a :: rest) = view s a ++ project step view t rest := by
  simp [project, taken]

theorem project_append {s t : σ} {before : List α} (reached : run step s before = some t)
    (after : List α) :
    project step view s (before ++ after) =
      project step view s before ++ project step view t after := by
  induction before generalizing s with
  | nil =>
      cases reached
      rfl
  | cons a rest ih =>
      obtain ⟨r, taken, reached⟩ := run_cons.1 reached
      rw [List.cons_append, project_cons taken, project_cons taken, ih reached, List.append_assoc]

theorem project_snoc {s t : σ} {before : List α} (reached : run step s before = some t) (a : α) :
    project step view s (before ++ [a]) = project step view s before ++ view t a := by
  rw [project_append reached]
  simp only [project]
  cases step t a <;> simp

/-- The forward simulation of a system by one of its parts. -/
theorem run_project {R : σ → τ → Prop}
    (simulated : ∀ s a s' p, R s p → step s a = some s' →
      ∃ p', run part p (view s a) = some p' ∧ R s' p')
    {s s' : σ} {p : τ} {trace : List α} (start : R s p) (ran : run step s trace = some s') :
    ∃ p', run part p (project step view s trace) = some p' ∧ R s' p' := by
  induction trace generalizing s p with
  | nil =>
      cases ran
      exact ⟨p, rfl, start⟩
  | cons a rest ih =>
      obtain ⟨t, taken, ran⟩ := run_cons.1 ran
      obtain ⟨q, moved, held⟩ := simulated s a t p start taken
      obtain ⟨p', went, kept⟩ := ih held ran
      rw [project_cons taken]
      exact ⟨p', run_append.2 ⟨q, moved, went⟩, kept⟩

theorem countP_project {f : β → Bool} {q : α → Bool} {s s' : σ} {trace : List α}
    (same : ∀ t a u rest, step t a = some u → run step u rest = some s' →
      (view t a).countP f = if q a then 1 else 0) (ran : run step s trace = some s') :
    (project step view s trace).countP f = trace.countP q := by
  induction trace generalizing s with
  | nil => rfl
  | cons a rest ih =>
      obtain ⟨t, taken, ran⟩ := run_cons.1 ran
      rw [project_cons taken, List.countP_append, ih ran, same s a t rest taken ran,
        List.countP_cons, Nat.add_comm]

/-- Actions of the system that belong to one of finitely many parts each, counted part by part. -/
theorem countP_eq_sum {ι : Type*} {parts : Finset ι} {q : α → Bool} {mine : ι → α → Bool}
    {trace : List α}
    (owned : ∀ a ∈ trace, (if q a then 1 else 0) = ∑ i ∈ parts, if mine i a then 1 else 0) :
    trace.countP q = ∑ i ∈ parts, trace.countP (mine i) := by
  induction trace with
  | nil => simp
  | cons a rest ih =>
      have later := ih fun b member => owned b (List.mem_cons_of_mem _ member)
      simp only [List.countP_cons, Finset.sum_add_distrib]
      rw [later, owned a List.mem_cons_self]

theorem sum_le_chosen {ι : Type*} [DecidableEq ι] {parts : Finset ι} {count : ι → Nat}
    {chosen : List ι} {share : Nat} (within : ∀ i ∈ chosen, count i ≤ share)
    (never : ∀ i, i ∉ chosen → count i = 0) :
    ∑ i ∈ parts, count i ≤ share * chosen.length := by
  calc ∑ i ∈ parts, count i
      ≤ ∑ i ∈ parts, if i ∈ chosen.toFinset then share else 0 := by
        apply Finset.sum_le_sum
        intro i _
        by_cases here : i ∈ chosen
        · simpa [here] using within i here
        · simp [here, never i here]
    _ = share * (parts.filter (· ∈ chosen.toFinset)).card := by
        rw [← Finset.sum_filter, Finset.sum_const, Nat.nsmul_eq_mul, Nat.mul_comm]
    _ ≤ share * chosen.toFinset.card := by
        apply Nat.mul_le_mul_left
        exact Finset.card_le_card fun i member => (Finset.mem_filter.1 member).2
    _ ≤ share * chosen.length := Nat.mul_le_mul_left _ chosen.toFinset_card_le

end Transition
