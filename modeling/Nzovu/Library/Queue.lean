import Mathlib.Data.List.Basic

/-!
# Order in a queue

A queue is served at its head and extended at its tail. An entry that stands before another is
served first.
-/

namespace Queue

variable {α : Type*}

def Before (a b : α) (queue : List α) : Prop :=
  ∃ front back, queue = front ++ back ∧ a ∈ front ∧ b ∈ back

theorem Before.mem {a b : α} {queue : List α} (h : Before a b queue) : a ∈ queue ∧ b ∈ queue := by
  obtain ⟨front, back, rfl, first, second⟩ := h
  exact ⟨List.mem_append_left _ first, List.mem_append_right _ second⟩

theorem Before.append {a b : α} {queue : List α} (h : Before a b queue) (more : List α) :
    Before a b (queue ++ more) := by
  obtain ⟨front, back, rfl, first, second⟩ := h
  exact ⟨front, back ++ more, List.append_assoc front back more, first,
    List.mem_append_left _ second⟩

theorem Before.of_append {a b : α} {queue more : List α} (first : a ∈ queue) (second : b ∈ more) :
    Before a b (queue ++ more) :=
  ⟨queue, more, rfl, first, second⟩

theorem Before.serve {a b head : α} {queue : List α} (h : Before a b (head :: queue))
    (other : a ≠ head) : Before a b queue := by
  obtain ⟨front, back, split, first, second⟩ := h
  cases front with
  | nil => cases first
  | cons x rest =>
      rw [List.cons_append, List.cons.injEq] at split
      obtain ⟨rfl, rfl⟩ := split
      rcases List.mem_cons.1 first with same | later
      · exact (other same).elim
      · exact ⟨rest, back, rfl, later, second⟩

end Queue
