import Mathlib.Data.List.Infix
import Mathlib.Logic.Relation

/-!
# Regular expressions with anchors

A pattern is matched at a position of a text, which is given by what is still to be read there. The
end anchor holds at the end of the text and before a newline that ends it.
-/

inductive Regex (α : Type)
  | set (p : α → Bool)
  | cat (first second : Regex α)
  | optional (inner : Regex α)
  | plus (inner : Regex α)
  | group (inner : Regex α)
  | start
  | finish

namespace Regex
variable {α : Type} (newline : α) (s : List α)

/-- In the text `s` the pattern reads from the position `t` up to `rest`. -/
def Reads : Regex α → List α → List α → Prop
  | .set p, t, rest => ∃ c, p c = true ∧ t = c :: rest
  | .cat first second, t, rest => ∃ mid, Reads first t mid ∧ Reads second mid rest
  | .optional inner, t, rest => rest = t ∨ Reads inner t rest
  | .plus inner, t, rest => Relation.TransGen (Reads inner) t rest
  | .group inner, t, rest => Reads inner t rest
  | .start, t, rest => t = s ∧ rest = t
  | .finish, t, rest => (t = [] ∨ t = [newline]) ∧ rest = t

section
variable {newline s} {p : α → Bool} {r first second : Regex α} {t rest : List α}

@[simp]
theorem reads_set : Reads newline s (.set p) t rest ↔ ∃ c, p c = true ∧ t = c :: rest := Iff.rfl

@[simp]
theorem reads_cat : Reads newline s (.cat first second) t rest ↔
    ∃ mid, Reads newline s first t mid ∧ Reads newline s second mid rest := Iff.rfl

@[simp]
theorem reads_optional : Reads newline s (.optional r) t rest ↔
    rest = t ∨ Reads newline s r t rest := Iff.rfl

@[simp]
theorem reads_group : Reads newline s (.group r) t rest ↔ Reads newline s r t rest := Iff.rfl

@[simp]
theorem reads_start : Reads newline s .start t rest ↔ t = s ∧ rest = t := Iff.rfl

@[simp]
theorem reads_finish : Reads newline s .finish t rest ↔ (t = [] ∨ t = [newline]) ∧ rest = t :=
  Iff.rfl

@[simp]
theorem reads_plus_set : Reads newline s (.plus (.set p)) t rest ↔
    ∃ run, (run ≠ [] ∧ ∀ c ∈ run, p c = true) ∧ t = run ++ rest := by
  constructor
  · intro reads
    induction reads using Relation.TransGen.head_induction_on with
    | single once =>
        obtain ⟨c, holds, rfl⟩ := once
        exact ⟨[c], ⟨by simp, by simpa using holds⟩, rfl⟩
    | head first _ ih =>
        obtain ⟨c, holds, rfl⟩ := first
        obtain ⟨run, ⟨-, all⟩, rfl⟩ := ih
        exact ⟨c :: run, ⟨by simp, List.forall_mem_cons.2 ⟨holds, all⟩⟩, rfl⟩
  · rintro ⟨run, ⟨nonempty, all⟩, rfl⟩
    induction run with
    | nil => exact absurd rfl nonempty
    | cons c run ih =>
        obtain ⟨holds, all⟩ := List.forall_mem_cons.1 all
        have first : Reads newline s (.set p) (c :: run ++ rest) (run ++ rest) := ⟨c, holds, rfl⟩
        by_cases last : run = []
        · subst last
          exact .single first
        · exact .head first (ih last all)

end

def Matches (r : Regex α) : Prop := ∃ rest, Reads newline s r s rest

/-! ## The matcher -/

def repeatEnds (step : List α → List (List α)) : Nat → List α → List (List α)
  | 0, _ => []
  | fuel + 1, t => (step t).flatMap fun rest =>
      if rest.length < t.length then rest :: repeatEnds step fuel rest else [rest]

def ends [DecidableEq α] : Regex α → List α → List (List α)
  | .set _, [] => []
  | .set p, c :: rest => if p c then [rest] else []
  | .cat first second, t => (ends first t).flatMap (ends second)
  | .optional inner, t => t :: ends inner t
  | .plus inner, t => repeatEnds (ends inner) (t.length + 1) t
  | .group inner, t => ends inner t
  | .start, t => if t = s then [t] else []
  | .finish, t => if t = [] ∨ t = [newline] then [t] else []

theorem suffix_of_reads {r : Regex α} {t rest : List α} (reads : Reads newline s r t rest) :
    rest <:+ t := by
  induction r generalizing t rest with
  | set p =>
      obtain ⟨c, -, rfl⟩ := reads
      exact List.suffix_cons c rest
  | cat first second ihFirst ihSecond =>
      obtain ⟨mid, before, after⟩ := reads
      exact (ihSecond after).trans (ihFirst before)
  | optional inner ih =>
      rcases reads with rfl | reads
      · exact List.suffix_rfl
      · exact ih reads
  | plus inner ih =>
      induction reads with
      | single once => exact ih once
      | tail _ last shorter => exact (ih last).trans shorter
  | group inner ih => exact ih reads
  | start =>
      obtain ⟨-, rfl⟩ := reads
      exact List.suffix_rfl
  | finish =>
      obtain ⟨-, rfl⟩ := reads
      exact List.suffix_rfl

theorem transGen_of_mem_repeatEnds {step : List α → List (List α)} {R : List α → List α → Prop}
    (sound : ∀ t rest, rest ∈ step t → R t rest) {fuel : Nat} {t rest : List α}
    (found : rest ∈ repeatEnds step fuel t) : Relation.TransGen R t rest := by
  induction fuel generalizing t with
  | zero => cases found
  | succ fuel ih =>
      obtain ⟨mid, first, more⟩ := List.mem_flatMap.1 found
      split at more
      · rcases List.mem_cons.1 more with rfl | later
        · exact .single (sound t rest first)
        · exact .head (sound t mid first) (ih later)
      · obtain rfl := List.mem_singleton.1 more
        exact .single (sound t rest first)

/-- A round that reads nothing may be left out, so as many rounds as characters are enough. -/
theorem mem_repeatEnds_of_transGen {step : List α → List (List α)} {R : List α → List α → Prop}
    (complete : ∀ t rest, R t rest → rest ∈ step t) (suffix : ∀ t rest, R t rest → rest <:+ t)
    {fuel : Nat} {t rest : List α} (enough : t.length < fuel) (reads : Relation.TransGen R t rest) :
    rest ∈ repeatEnds step fuel t := by
  induction fuel generalizing t with
  | zero => cases enough
  | succ fuel ih =>
      induction reads using Relation.TransGen.head_induction_on with
      | single once =>
          refine List.mem_flatMap.2 ⟨rest, complete _ _ once, ?_⟩
          split
          · exact List.mem_cons_self
          · exact List.mem_singleton_self rest
      | @head t mid first later same =>
          by_cases shorter : mid.length < t.length
          · refine List.mem_flatMap.2 ⟨mid, complete _ _ first, ?_⟩
            rw [if_pos shorter]
            exact List.mem_cons_of_mem _ (ih (by omega) later)
          · obtain rfl := (suffix _ _ first).eq_of_length_le (Nat.not_lt.1 shorter)
            exact same enough

theorem mem_ends [DecidableEq α] {r : Regex α} {t rest : List α} :
    rest ∈ ends newline s r t ↔ Reads newline s r t rest := by
  induction r generalizing t rest with
  | set p =>
      cases t with
      | nil => simp [ends, Reads]
      | cons c t =>
          simp only [ends, Reads, List.cons.injEq]
          constructor
          · intro found
            split at found
            · rename_i holds
              exact ⟨c, holds, rfl, (List.mem_singleton.1 found).symm⟩
            · cases found
          · rintro ⟨d, holds, rfl, rfl⟩
            rw [if_pos holds]
            exact List.mem_singleton_self t
  | cat first second ihFirst ihSecond =>
      simp only [ends, Reads, List.mem_flatMap, ihFirst, ihSecond]
  | optional inner ih => simp only [ends, Reads, List.mem_cons, ih]
  | plus inner ih =>
      constructor
      · exact transGen_of_mem_repeatEnds fun t rest => ih.1
      · exact mem_repeatEnds_of_transGen (R := Reads newline s inner) (fun t rest => ih.2)
          (fun t rest => suffix_of_reads newline s) (Nat.lt_succ_self _)
  | group inner ih => exact ih
  | start =>
      rw [ends]
      split <;> rename_i here <;> simp [Reads, here]
  | finish =>
      rw [ends]
      split <;> rename_i here <;> simp [Reads, here]

instance [DecidableEq α] (r : Regex α) : Decidable (Matches newline s r) :=
  decidable_of_iff (∃ rest ∈ ends newline s r s, True) (by
    simp only [and_true, Matches, mem_ends])

end Regex
