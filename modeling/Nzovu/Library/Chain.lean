import Nzovu.Library.Cursor

/-!
# Finite chains of cursors

A server whose answer depends on the cursor alone describes a chain: each page names the cursor of
the next one, and the last page names none. An iteration goes along the chain of its first cursor, as
far as its limit allows.
-/

namespace Cursor

variable {τ : Type*}

inductive Chain (next : τ → Option τ) : τ → List τ → Prop
  | last {cursor : τ} (ends : next cursor = none) : Chain next cursor [cursor]
  | more {cursor following : τ} {rest : List τ} (named : next cursor = some following)
      (tail : Chain next following rest) : Chain next cursor (cursor :: rest)

namespace Chain
variable {next : τ → Option τ} {start : τ} {chain : List τ}

theorem head (along : Chain next start chain) : chain[0]? = some start := by
  cases along <;> rfl

theorem next_eq (along : Chain next start chain) {k : Nat} {cursor : τ}
    (here : chain[k]? = some cursor) : next cursor = chain[k + 1]? := by
  induction along generalizing k with
  | last ends =>
      cases k with
      | zero =>
          cases here
          exact ends
      | succ k => cases here
  | more named tail ih =>
      cases k with
      | zero =>
          cases here
          rw [named, List.getElem?_cons_succ, tail.head]
      | succ k => exact ih here

theorem drop (along : Chain next start chain) {k : Nat} {cursor : τ}
    (here : chain[k]? = some cursor) : Chain next cursor (chain.drop k) := by
  induction along generalizing k with
  | last ends =>
      cases k with
      | zero =>
          cases here
          exact .last ends
      | succ k => cases here
  | more named tail ih =>
      cases k with
      | zero =>
          cases here
          exact .more named tail
      | succ k => exact ih here

/-- Two places with one cursor would go on alike for ever. -/
theorem nodup (along : Chain next start chain) : chain.Nodup := by
  rw [List.nodup_iff_getElem?_ne_getElem?]
  intro i j before inside same
  have alike : ∀ d, chain[i + d]? = chain[j + d]? := by
    intro d
    induction d with
    | zero => exact same
    | succ d ih =>
        cases here : chain[i + d]? with
        | none =>
            have short := List.getElem?_eq_none_iff.1 here
            have short' := List.getElem?_eq_none_iff.1 (ih.symm.trans here)
            rw [List.getElem?_eq_none (by omega), List.getElem?_eq_none (by omega)]
        | some cursor => exact (along.next_eq here).symm.trans (along.next_eq (ih ▸ here))
  have final := alike (chain.length - j)
  rw [List.getElem?_eq_none (by omega : chain.length ≤ j + (chain.length - j)),
    List.getElem?_eq_none_iff] at final
  omega

end Chain

namespace Setup
variable {ρ π ε : Type*} {setup : Setup ρ π ε τ}

def within (setup : Setup ρ π ε τ) (chain : List τ) : List τ :=
  match setup.limit with
  | none => chain
  | some limit => chain.take limit

theorem getElem?_within {chain : List τ} {k : Nat} {cursor : τ}
    (here : (setup.within chain)[k]? = some cursor) : chain[k]? = some cursor := by
  rw [within] at here
  split at here
  · exact here
  · rw [List.getElem?_take] at here
    split at here
    · exact here
    · cases here

theorem within_length {chain : List τ} :
    (setup.within chain).length =
      match setup.limit with
      | none => chain.length
      | some limit => min limit chain.length := by
  rw [within]
  split <;> simp [*]

def Served (setup : Setup ρ π ε τ) (serve : τ → π) (turns : List (Turn ρ π ε)) : Prop :=
  ∀ turn ∈ turns, ∀ query reply, turn.exchange = some (query, reply) →
    reply = .page (serve (setup.cursor query))

section Along
variable [DecidableEq τ] {serve : τ → π} {chain : List τ}
  (along : Chain (fun cursor => setup.next (serve cursor)) setup.start chain)
  (positive : setup.limit ≠ some 0) {turns : List (Turn ρ π ε)}

structure Went (setup : Setup ρ π ε τ) (serve : τ → π) (chain : List τ)
    (turns : List (Turn ρ π ε)) : Prop where
  cursors : setup.cursors turns = (setup.within chain).take turns.length
  pages : pages turns = ((setup.within chain).take turns.length).map serve
  live : Live turns ↔ turns.length ≤ (setup.within chain).length

include along

omit [DecidableEq τ] in
theorem within_pos (positive : setup.limit ≠ some 0) : 0 < (setup.within chain).length := by
  have nonempty : 0 < chain.length := (List.getElem?_eq_some_iff.1 along.head).1
  rw [within_length]
  split
  · exact nonempty
  · rename_i limit limited
    have : limit ≠ 0 := by
      rintro rfl
      exact positive limited
    omega

omit [DecidableEq τ] along in
theorem Went.last (went : Went setup serve chain turns) {k : Nat} (count : turns.length = k + 1)
    {cursor : τ} (here : (setup.within chain)[k]? = some cursor) :
    (Cursor.pages turns).getLast? = some (serve cursor) := by
  rw [went.pages, count, List.take_add_one, here, List.map_append, Option.toList_some,
    List.map_singleton, List.getLast?_concat]

omit [DecidableEq τ] in
theorem Went.due (went : Went setup serve chain turns) {cursor : τ}
    (here : (setup.within chain)[turns.length]? = some cursor) : setup.Due turns cursor := by
  have inside := (List.getElem?_eq_some_iff.1 here).1
  have live : Live turns := went.live.2 inside.le
  cases count : turns.length with
  | zero =>
      obtain rfl := List.length_eq_zero_iff.1 count
      have same := (along.head).symm.trans (getElem?_within here)
      cases same
      exact .first
  | succ k =>
      rw [count] at here inside
      have previous := List.getElem?_eq_getElem (Nat.lt_of_succ_lt inside)
      refine .named live (went.last count previous) ?_ ?_ ?_
      · intro enough
        rw [live.pages_length, count] at enough
        simp only [within_length, enough] at inside
        omega
      · exact (along.next_eq (getElem?_within previous)).trans (getElem?_within here)
      · rw [went.cursors, count]
        intro repeated
        obtain ⟨i, earlier, same⟩ := List.mem_take_iff_getElem.1 repeated
        have first : chain[i]? = some cursor :=
          getElem?_within (same ▸ List.getElem?_eq_getElem (by omega))
        have second : chain[k + 1]? = some cursor := getElem?_within here
        have bound := (List.getElem?_eq_some_iff.1 first).1
        have := (List.nodup_iff_getElem?_ne_getElem?.1 along.nodup) i (k + 1) (by omega)
          (List.getElem?_eq_some_iff.1 second).1
        exact this (first.trans second.symm)

omit [DecidableEq τ] in
theorem Went.spent (positive : setup.limit ≠ some 0) (went : Went setup serve chain turns)
    (done : turns.length = (setup.within chain).length) : setup.Spent turns := by
  have live : Live turns := went.live.2 done.le
  obtain ⟨k, count⟩ := Nat.exists_eq_add_one.2 (within_pos along positive)
  obtain ⟨cursor, here⟩ : ∃ cursor, (setup.within chain)[k]? = some cursor :=
    ⟨_, List.getElem?_eq_getElem (by omega)⟩
  refine ⟨_, went.last (done.trans count) here, ?_⟩
  rw [live.pages_length, done, count, along.next_eq (getElem?_within here)]
  rw [within_length] at count
  cases limit : setup.limit with
  | none =>
      rw [limit] at count
      exact .inr (List.getElem?_eq_none count.le)
  | some limit' =>
      rw [limit] at count
      rcases min_choice limit' chain.length with least | least
      · exact .inl (congrArg some (least.symm.trans count))
      · exact .inr (List.getElem?_eq_none (least.symm.trans count).le)

theorem went_of_lawful (positive : setup.limit ≠ some 0) (lawful : setup.Lawful turns)
    (served : setup.Served serve turns) : Went setup serve chain turns := by
  induction lawful with
  | nil => exact ⟨rfl, rfl, by simp [Live]⟩
  | @snoc turns turn before follows ih =>
      have went := ih fun t member => served t (List.mem_append_left _ member)
      have answered := served turn (by simp)
      have length : (turns ++ [turn]).length = turns.length + 1 := by simp
      by_cases inside : turns.length < (setup.within chain).length
      · have here := List.getElem?_eq_getElem inside
        have live : Live turns := went.live.2 inside.le
        rw [decision_of_due (went.due along here)] at follows
        obtain ⟨query, reply, asked, rfl⟩ := follows
        have page := answered query reply rfl
        rw [asked] at page
        subst page
        constructor
        · rw [cursors_snoc_some, went.cursors, length, List.take_add_one, here, asked]
          rfl
        · rw [pages_snoc, went.pages, length, List.take_add_one, here, List.map_append]
          rfl
        · rw [live_snoc, length]
          exact ⟨fun _ => inside, fun _ => ⟨live, _, rfl⟩⟩
      · have stop : setup.decision turns = .stop := by
          by_cases live : Live turns
          · have done : turns.length = (setup.within chain).length := by
              have := went.live.1 live
              omega
            exact decision_of_spent live (went.spent along positive done)
          · exact decision_of_ended before live
        rw [stop] at follows
        obtain rfl : turn = ⟨none, .stopped⟩ := follows
        have all : ∀ n, (setup.within chain).length ≤ n →
            (setup.within chain).take n = setup.within chain := fun n => List.take_of_length_le
        constructor
        · rw [cursors_snoc_none, went.cursors, length, all _ (by omega), all _ (by omega)]
        · rw [pages_snoc, went.pages, length, all _ (by omega), all _ (by omega)]
          exact List.append_nil _
        · rw [live_snoc, length]
          constructor
          · rintro ⟨-, content, yielded⟩
            cases yielded
          · intro within_
            omega

end Along

end Setup

end Cursor
