import Mathlib.Data.List.Forall2

/-!
# Rows

A record is written column by column, where a column may refuse its value. What was written can be
read again.
-/

namespace Row

variable {ε σ α β : Type}

structure Column (ε σ α : Type) where
  write : α → Except ε σ
  read : σ → α
  sound : ∀ a slot, write a = .ok slot → read slot = a

def Column.via (column : Column ε σ α) (given : β → α) (back : α → β)
    (inverse : ∀ b, back (given b) = b) : Column ε σ β where
  write b := column.write (given b)
  read slot := back (column.read slot)
  sound b slot written := by rw [column.sound (given b) slot written, inverse]

inductive Columns (ε σ : Type) : Type → Type 1
  | nil : Columns ε σ Unit
  | cons {α β : Type} (column : Column ε σ α) (rest : Columns ε σ β) : Columns ε σ (α × β)

namespace Columns

def write {α : Type} : Columns ε σ α → α → List (Except ε σ)
  | .nil, _ => []
  | .cons column rest, record => column.write record.1 :: rest.write record.2

def read {α : Type} : Columns ε σ α → List σ → Option α
  | .nil, [] => some ()
  | .nil, _ :: _ => none
  | .cons _ _, [] => none
  | .cons column rest, slot :: slots => (rest.read slots).map (column.read slot, ·)

abbrev Written (values : List (Except ε σ)) (slots : List σ) : Prop :=
  List.Forall₂ (fun value slot => value = .ok slot) values slots

theorem read_write {α : Type} (columns : Columns ε σ α) (record : α) {slots : List σ}
    (written : Written (columns.write record) slots) : columns.read slots = some record := by
  induction columns generalizing slots with
  | nil =>
      cases written
      rfl
  | cons column rest ih =>
      rw [write] at written
      cases written with
      | cons first others =>
          rw [read, ih record.2 others, column.sound record.1 _ first]
          rfl

end Columns

end Row
