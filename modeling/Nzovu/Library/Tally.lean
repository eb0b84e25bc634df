import Mathlib.Algebra.BigOperators.Group.List.Basic
import Mathlib.Algebra.Order.BigOperators.Group.List
import Mathlib.Algebra.Order.Ring.Int
import Mathlib.Tactic.Abel

/-!
# Tallies

What a list of parties holds together, when each of them holds an amount of its own. Parties are
only ever appended or replaced in place, so two equations say how a tally moves.
-/

namespace Tally

variable {α : Type*}

theorem located_append {xs : List α} {a b : α} {i : Nat} :
    (xs ++ [a])[i]? = some b ↔ xs[i]? = some b ∨ i = xs.length ∧ b = a := by
  rcases Nat.lt_trichotomy i xs.length with below | here | above
  · rw [List.getElem?_append_left below]
    simp [Nat.ne_of_lt below]
  · subst here
    simp [eq_comm]
  · rw [List.getElem?_eq_none (by simpa using Nat.succ_le_of_lt above),
      List.getElem?_eq_none (by omega)]
    simp [Nat.ne_of_gt above]

theorem located_set {xs : List α} {i j : Nat} {a a' b : α} (located : xs[i]? = some a) :
    (xs.set i a')[j]? = some b ↔ (j = i ∧ b = a') ∨ (j ≠ i ∧ xs[j]? = some b) := by
  have bound := (List.getElem?_eq_some_iff.1 located).1
  by_cases here : j = i
  · subst here
    simp [bound, eq_comm]
  · simp [List.getElem?_set_ne (Ne.symm here), here]

def tally (held : α → Int) (parties : List α) : Int := (parties.map held).sum

@[simp]
theorem tally_nil (held : α → Int) : tally held [] = 0 := rfl

@[simp]
theorem tally_append (held : α → Int) (xs ys : List α) :
    tally held (xs ++ ys) = tally held xs + tally held ys := by
  simp [tally]

@[simp]
theorem tally_singleton (held : α → Int) (a : α) : tally held [a] = held a := by
  simp [tally]

theorem tally_cons (held : α → Int) (a : α) (parties : List α) :
    tally held (a :: parties) = held a + tally held parties := by
  simp [tally]

theorem tally_set (held : α → Int) {parties : List α} {i : Nat} {a : α}
    (located : parties[i]? = some a) (b : α) :
    tally held (parties.set i b) = tally held parties - held a + held b := by
  obtain ⟨bound, value⟩ := List.getElem?_eq_some_iff.1 located
  rw [tally, List.map_set, List.sum_set']
  simp only [List.length_map, bound, ↓reduceDIte, List.getElem_map, value, tally]
  abel

theorem tally_set_same (held : α → Int) {parties : List α} {i : Nat} {a : α}
    (located : parties[i]? = some a) {b : α} (same : held b = held a) :
    tally held (parties.set i b) = tally held parties := by
  rw [tally_set held located, same]
  abel

theorem tally_congr {held held' : α → Int} {parties : List α}
    (same : ∀ a ∈ parties, held a = held' a) : tally held parties = tally held' parties := by
  rw [tally, tally, List.map_congr_left same]

theorem tally_zero {held : α → Int} {parties : List α} (h : ∀ a ∈ parties, held a = 0) :
    tally held parties = 0 := by
  rw [tally, List.map_congr_left h]
  simp

theorem tally_indicator (p : α → Bool) (parties : List α) :
    tally (fun a => if p a then 1 else 0) parties = parties.countP p := by
  induction parties with
  | nil => rfl
  | cons a rest ih =>
      rw [tally_cons, ih, List.countP_cons]
      cases p a <;> simp [add_comm]

theorem countP_range (p : α → Bool) (parties : List α) :
    (List.range parties.length).countP (fun i => parties[i]?.any p) = parties.countP p := by
  have places : (List.range parties.length).map (parties[·]?) = parties.map some := by
    apply List.ext_getElem
    · simp
    · intro i inside _
      have bound : i < parties.length := by simpa using inside
      simp [bound]
  calc (List.range parties.length).countP (fun i => parties[i]?.any p)
      = ((List.range parties.length).map (parties[·]?)).countP (Option.any p) := by
        rw [List.countP_map]
        rfl
    _ = parties.countP p := by
        rw [places, List.countP_map]
        rfl

end Tally
