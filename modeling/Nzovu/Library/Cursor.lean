import Mathlib.Data.List.Nodup
import Mathlib.Data.Finset.Card

/-!
# Following cursors

A consumer pulls; each pull either asks for one more page, under the cursor that the page before it
named, or ends the iteration. What a pull does is decided by the turns before it. The answers are
not restricted.
-/

namespace Cursor

inductive Reply (π ε : Type*)
  | page (content : π)
  | nothing
  | raised (error : ε)

inductive Outcome (π ε : Type*)
  | yielded (content : π)
  | stopped
  | raised (error : ε)

structure Turn (ρ π ε : Type*) where
  exchange : Option (ρ × Reply π ε)
  outcome : Outcome π ε

inductive Decision (τ : Type*)
  | ask (cursor : τ)
  | stop
  | repeated

variable {ρ π ε τ : Type*}

def Reply.outcome : Reply π ε → Outcome π ε
  | .page content => .yielded content
  | .nothing => .stopped
  | .raised error => .raised error

def Outcome.page? : Outcome π ε → Option π
  | .yielded content => some content
  | _ => none

def asked (turns : List (Turn ρ π ε)) : List ρ :=
  turns.filterMap fun turn => turn.exchange.map Prod.fst

def answers (turns : List (Turn ρ π ε)) : List (Reply π ε) :=
  turns.filterMap fun turn => turn.exchange.map Prod.snd

def pages (turns : List (Turn ρ π ε)) : List π := turns.filterMap fun turn => turn.outcome.page?

def Live (turns : List (Turn ρ π ε)) : Prop :=
  ∀ turn ∈ turns, ∃ content, turn.outcome = .yielded content

/-- How an iteration is set up: the cursor of a query, the cursor that a page names, the first
cursor, the number of pages after which it stops and the error for a cursor asked for before. -/
structure Setup (ρ π ε τ : Type*) where
  cursor : ρ → τ
  next : π → Option τ
  start : τ
  limit : Option Nat
  error : ε

namespace Setup

variable (setup : Setup ρ π ε τ)

def cursors (turns : List (Turn ρ π ε)) : List τ := (asked turns).map setup.cursor

variable [DecidableEq τ]

def decision (turns : List (Turn ρ π ε)) : Decision τ :=
  match turns.getLast? with
  | none => .ask setup.start
  | some turn =>
      match turn.outcome with
      | .yielded page =>
          if setup.limit = some turns.length then .stop
          else
            match setup.next page with
            | none => .stop
            | some cursor => if cursor ∈ setup.cursors turns then .repeated else .ask cursor
      | _ => .stop

def Follows (decision : Decision τ) (turn : Turn ρ π ε) : Prop :=
  match decision with
  | .ask cursor =>
      ∃ query reply, setup.cursor query = cursor ∧ turn = ⟨some (query, reply), reply.outcome⟩
  | .stop => turn = ⟨none, .stopped⟩
  | .repeated => turn = ⟨none, .raised setup.error⟩

inductive Lawful : List (Turn ρ π ε) → Prop
  | nil : Lawful []
  | snoc {turns : List (Turn ρ π ε)} {turn : Turn ρ π ε} (before : Lawful turns)
      (follows : setup.Follows (setup.decision turns) turn) : Lawful (turns ++ [turn])

def Spent (turns : List (Turn ρ π ε)) : Prop :=
  ∃ content, (pages turns).getLast? = some content ∧
    (setup.limit = some (pages turns).length ∨ setup.next content = none)

def Repeats (turns : List (Turn ρ π ε)) : Prop :=
  ∃ content cursor, (pages turns).getLast? = some content ∧
    setup.limit ≠ some (pages turns).length ∧ setup.next content = some cursor ∧
    cursor ∈ setup.cursors turns

end Setup

/-! ## The logs after one more turn -/

@[simp]
theorem asked_snoc_some (turns : List (Turn ρ π ε)) (query : ρ) (reply : Reply π ε)
    (outcome : Outcome π ε) :
    asked (turns ++ [⟨some (query, reply), outcome⟩]) = asked turns ++ [query] := by
  simp [asked]

@[simp]
theorem asked_snoc_none (turns : List (Turn ρ π ε)) (outcome : Outcome π ε) :
    asked (turns ++ [⟨none, outcome⟩]) = asked turns := by
  simp [asked]

@[simp]
theorem answers_snoc_some (turns : List (Turn ρ π ε)) (query : ρ) (reply : Reply π ε)
    (outcome : Outcome π ε) :
    answers (turns ++ [⟨some (query, reply), outcome⟩]) = answers turns ++ [reply] := by
  simp [answers]

@[simp]
theorem answers_snoc_none (turns : List (Turn ρ π ε)) (outcome : Outcome π ε) :
    answers (turns ++ [⟨none, outcome⟩]) = answers turns := by
  simp [answers]

@[simp]
theorem pages_snoc (turns : List (Turn ρ π ε)) (exchange : Option (ρ × Reply π ε))
    (outcome : Outcome π ε) :
    pages (turns ++ [⟨exchange, outcome⟩]) = pages turns ++ outcome.page?.toList := by
  rw [pages, List.filterMap_append]
  cases outcome <;> rfl

theorem live_snoc {turns : List (Turn ρ π ε)} {turn : Turn ρ π ε} :
    Live (turns ++ [turn]) ↔ Live turns ∧ ∃ content, turn.outcome = .yielded content := by
  simp [Live, or_imp, forall_and]

theorem Live.pages_length {turns : List (Turn ρ π ε)} (live : Live turns) :
    (pages turns).length = turns.length := by
  rw [pages, List.length_filterMap_eq_countP, List.countP_eq_length]
  intro turn member
  obtain ⟨content, yielded⟩ := live turn member
  rw [yielded]
  rfl

namespace Setup

variable {setup : Setup ρ π ε τ}

@[simp]
theorem cursors_snoc_some (turns : List (Turn ρ π ε)) (query : ρ) (reply : Reply π ε)
    (outcome : Outcome π ε) :
    setup.cursors (turns ++ [⟨some (query, reply), outcome⟩]) =
      setup.cursors turns ++ [setup.cursor query] := by
  simp [cursors]

@[simp]
theorem cursors_snoc_none (turns : List (Turn ρ π ε)) (outcome : Outcome π ε) :
    setup.cursors (turns ++ [⟨none, outcome⟩]) = setup.cursors turns := by
  simp [cursors]

section Decision
variable [DecidableEq τ]

theorem decision_yielded {turns : List (Turn ρ π ε)} {content : π}
    (live : Live turns) (last : (pages turns).getLast? = some content) :
    setup.decision turns =
      if setup.limit = some turns.length then .stop
      else
        match setup.next content with
        | none => .stop
        | some cursor => if cursor ∈ setup.cursors turns then .repeated else .ask cursor := by
  induction turns using List.reverseRecOn with
  | nil => cases last
  | append_singleton turns turn =>
      obtain ⟨exchange, outcome⟩ := turn
      obtain ⟨-, content', same⟩ := live_snoc.1 live
      simp only at same
      subst same
      have : content' = content := by simpa [Outcome.page?] using last
      subst this
      simp [decision]

theorem live_of_decision {turns : List (Turn ρ π ε)} (lawful : setup.Lawful turns)
    (going : setup.decision turns ≠ .stop) : Live turns := by
  induction lawful with
  | nil => intro turn member; cases member
  | @snoc turns turn before follows ih =>
      obtain ⟨content, yielded⟩ : ∃ content, turn.outcome = .yielded content := by
        cases outcome : turn.outcome with
        | yielded content => exact ⟨content, rfl⟩
        | stopped => simp [decision, outcome] at going
        | raised error => simp [decision, outcome] at going
      have asking : setup.decision turns ≠ .stop := by
        intro stop
        rw [stop] at follows
        rw [follows] at yielded
        cases yielded
      exact live_snoc.2 ⟨ih asking, content, yielded⟩

/-- A query for a cursor that was not asked for before: the first one, or the one that the last
page names. -/
inductive Due (setup : Setup ρ π ε τ) : List (Turn ρ π ε) → τ → Prop
  | first : Due setup [] setup.start
  | named {turns : List (Turn ρ π ε)} {content : π} {cursor : τ} (live : Live turns)
      (last : (pages turns).getLast? = some content)
      (more : setup.limit ≠ some (pages turns).length) (next : setup.next content = some cursor)
      (new : cursor ∉ setup.cursors turns) : Due setup turns cursor

theorem decision_of_ended {turns : List (Turn ρ π ε)} (lawful : setup.Lawful turns)
    (ended : ¬ Live turns) : setup.decision turns = .stop := by
  by_contra going
  exact ended (live_of_decision lawful going)

theorem decision_of_spent {turns : List (Turn ρ π ε)} (live : Live turns)
    (spent : setup.Spent turns) : setup.decision turns = .stop := by
  obtain ⟨content, last, reason⟩ := spent
  rw [decision_yielded live last, ← live.pages_length]
  rcases reason with enough | none
  · exact if_pos enough
  · rw [none]
    exact ite_self _

theorem decision_of_repeats {turns : List (Turn ρ π ε)} (live : Live turns)
    (repeats : setup.Repeats turns) : setup.decision turns = .repeated := by
  obtain ⟨content, cursor, last, more, next, known⟩ := repeats
  rw [decision_yielded live last, ← live.pages_length, if_neg more, next]
  exact if_pos known

theorem decision_of_due {turns : List (Turn ρ π ε)} {cursor : τ} (due : setup.Due turns cursor) :
    setup.decision turns = .ask cursor := by
  cases due with
  | first => rfl
  | named live last more next new =>
      rw [decision_yielded live last, ← live.pages_length, if_neg more, next]
      exact if_neg new

theorem state_cases (setup : Setup ρ π ε τ) (turns : List (Turn ρ π ε)) :
    ¬ Live turns ∨ Live turns ∧ setup.Spent turns ∨ Live turns ∧ setup.Repeats turns ∨
      ∃ cursor, setup.Due turns cursor := by
  by_cases live : Live turns
  · right
    cases last : (pages turns).getLast? with
    | none =>
        have empty : turns = [] := by
          rw [List.getLast?_eq_none_iff, ← List.length_eq_zero_iff, live.pages_length] at last
          exact List.length_eq_zero_iff.1 last
        subst empty
        exact .inr (.inr ⟨_, .first⟩)
    | some content =>
        by_cases enough : setup.limit = some (pages turns).length
        · exact .inl ⟨live, content, last, .inl enough⟩
        cases next : setup.next content with
        | none => exact .inl ⟨live, content, last, .inr next⟩
        | some cursor =>
            by_cases known : cursor ∈ setup.cursors turns
            · exact .inr (.inl ⟨live, content, cursor, last, enough, next, known⟩)
            · exact .inr (.inr ⟨cursor, .named live last enough next known⟩)
  · exact .inl live

omit [DecidableEq τ] in
theorem Due.live {turns : List (Turn ρ π ε)} {cursor : τ} (due : setup.Due turns cursor) :
    Live turns := by
  cases due with
  | first => intro turn member; cases member
  | named live last more next new => exact live

omit [DecidableEq τ] in
theorem Due.new {turns : List (Turn ρ π ε)} {cursor : τ} (due : setup.Due turns cursor) :
    cursor ∉ setup.cursors turns := by
  cases due with
  | first => simp [cursors, asked]
  | named live last more next new => exact new

omit [DecidableEq τ] in
theorem Repeats.not_spent {turns : List (Turn ρ π ε)} (repeats : setup.Repeats turns) :
    ¬ setup.Spent turns := by
  obtain ⟨content, cursor, last, more, next, known⟩ := repeats
  rintro ⟨content', last', reason⟩
  rw [last] at last'
  cases last'
  rcases reason with enough | none
  · exact more enough
  · rw [next] at none
    cases none

omit [DecidableEq τ] in
theorem Due.not_spent {turns : List (Turn ρ π ε)} {cursor : τ} (due : setup.Due turns cursor) :
    ¬ setup.Spent turns := by
  rintro ⟨content, last, reason⟩
  cases due with
  | first => cases last
  | named live last' more next new =>
      rw [last] at last'
      cases last'
      rcases reason with enough | none
      · exact more enough
      · rw [next] at none
        cases none

omit [DecidableEq τ] in
theorem Due.not_repeats {turns : List (Turn ρ π ε)} {cursor : τ} (due : setup.Due turns cursor) :
    ¬ setup.Repeats turns := by
  rintro ⟨content, known, last, more, next, old⟩
  cases due with
  | first => cases last
  | named live last' more next' new =>
      rw [last] at last'
      cases last'
      rw [next] at next'
      cases next'
      exact new old

theorem turn_cases {turns : List (Turn ρ π ε)} {turn : Turn ρ π ε} (lawful : setup.Lawful turns)
    (follows : setup.Follows (setup.decision turns) turn) :
    (∃ query reply, setup.Due turns (setup.cursor query) ∧
      turn = ⟨some (query, reply), reply.outcome⟩) ∨
    ∃ outcome : Outcome π ε, outcome.page? = none ∧ turn = ⟨none, outcome⟩ := by
  rcases setup.state_cases turns with ended | ⟨live, spent⟩ | ⟨live, repeats⟩ | ⟨cursor, due⟩
  · rw [decision_of_ended lawful ended] at follows
    exact .inr ⟨_, rfl, follows⟩
  · rw [decision_of_spent live spent] at follows
    exact .inr ⟨_, rfl, follows⟩
  · rw [decision_of_repeats live repeats] at follows
    exact .inr ⟨_, rfl, follows⟩
  · rw [decision_of_due due] at follows
    obtain ⟨query, reply, rfl, same⟩ := follows
    exact .inl ⟨query, reply, due, same⟩

theorem lawful_at {turns : List (Turn ρ π ε)} (lawful : setup.Lawful turns) {k : Nat}
    {turn : Turn ρ π ε} (here : turns[k]? = some turn) :
    setup.Lawful (turns.take k) ∧ setup.Follows (setup.decision (turns.take k)) turn := by
  induction lawful with
  | nil => cases here
  | @snoc turns last before follows ih =>
      by_cases early : k < turns.length
      · rw [List.getElem?_append_left early] at here
        rw [List.take_append_of_le_length early.le]
        exact ih here
      · have position : k = turns.length := by
          have := (List.getElem?_eq_some_iff.1 here).1
          simp only [List.length_append, List.length_singleton] at this
          omega
        subst position
        simp only [List.getElem?_concat_length, Option.some.injEq] at here
        subst here
        rw [List.take_left]
        exact ⟨before, follows⟩

end Decision

/-! ## Whole iterations -/

section Whole
variable [DecidableEq τ] {turns : List (Turn ρ π ε)}

/-! ### One turn in view of those before it -/

section Turn
variable {turn : Turn ρ π ε} (lawful : setup.Lawful turns)
  (follows : setup.Follows (setup.decision turns) turn)
include lawful follows

theorem outcome_of_exchange {query : ρ} {reply : Reply π ε}
    (asked : turn.exchange = some (query, reply)) : turn.outcome = reply.outcome := by
  rcases turn_cases lawful follows with ⟨q, r, due, rfl⟩ | ⟨outcome, none, rfl⟩
  · cases asked
    rfl
  · cases asked

theorem turn_of_ended (ended : ¬ Live turns) : turn = ⟨none, .stopped⟩ := by
  rw [decision_of_ended lawful ended] at follows
  exact follows

omit lawful in
theorem stopped_iff (live : Live turns) :
    turn.outcome = .stopped ↔
      (∃ query, turn.exchange = some (query, .nothing)) ∨ setup.Spent turns := by
  rcases setup.state_cases turns with ended | ⟨-, spent⟩ | ⟨-, repeats⟩ | ⟨cursor, due⟩
  · exact absurd live ended
  · rw [decision_of_spent live spent] at follows
    cases (follows : turn = ⟨none, .stopped⟩)
    simp [spent]
  · rw [decision_of_repeats live repeats] at follows
    cases (follows : turn = ⟨none, .raised setup.error⟩)
    simp [repeats.not_spent]
  · rw [decision_of_due due] at follows
    obtain ⟨query, reply, -, rfl⟩ := follows
    cases reply <;> simp [Reply.outcome, due.not_spent]

omit lawful in
theorem repeated_iff (live : Live turns) (error : ε) :
    turn.exchange = none ∧ turn.outcome = .raised error ↔
      error = setup.error ∧ setup.Repeats turns := by
  rcases setup.state_cases turns with ended | ⟨-, spent⟩ | ⟨-, repeats⟩ | ⟨cursor, due⟩
  · exact absurd live ended
  · rw [decision_of_spent live spent] at follows
    cases (follows : turn = ⟨none, .stopped⟩)
    have : ¬ setup.Repeats turns := fun repeats => repeats.not_spent spent
    simp [this]
  · rw [decision_of_repeats live repeats] at follows
    cases (follows : turn = ⟨none, .raised setup.error⟩)
    simp [repeats, eq_comm]
  · rw [decision_of_due due] at follows
    obtain ⟨query, reply, -, rfl⟩ := follows
    simp [due.not_repeats]

end Turn

theorem cursors_nodup (lawful : setup.Lawful turns) : (setup.cursors turns).Nodup := by
  induction lawful with
  | nil => exact List.nodup_nil
  | snoc before follows ih =>
      rcases turn_cases before follows with ⟨query, reply, due, rfl⟩ | ⟨outcome, -, rfl⟩
      · rw [cursors_snoc_some, List.nodup_append]
        refine ⟨ih, List.nodup_singleton _, ?_⟩
        intro a present b last same
        rw [List.mem_singleton] at last
        subst same last
        exact due.new present
      · rw [cursors_snoc_none]
        exact ih

theorem asked_length (lawful : setup.Lawful turns) (live : Live turns) :
    (asked turns).length = turns.length := by
  induction lawful with
  | nil => rfl
  | snoc before follows ih =>
      obtain ⟨earlier, content, yielded⟩ := live_snoc.1 live
      rcases turn_cases before follows with ⟨query, reply, due, rfl⟩ | ⟨outcome, none, rfl⟩
      · simp [ih earlier]
      · simp only at yielded
        rw [yielded] at none
        cases none

theorem cursors_follow (lawful : setup.Lawful turns) :
    (setup.cursors turns).map some <+: some setup.start :: (pages turns).map setup.next := by
  induction lawful with
  | nil => exact List.nil_prefix
  | @snoc turns turn before follows ih =>
      rcases turn_cases before follows with ⟨query, reply, due, rfl⟩ | ⟨outcome, none, rfl⟩
      · have whole : (setup.cursors turns ++ [setup.cursor query]).map some =
            some setup.start :: (pages turns).map setup.next := by
          generalize setup.cursor query = cursor at due
          cases due with
          | first => rfl
          | named live last more next new =>
              obtain ⟨rest, same⟩ := ih
              have count := congrArg List.length same
              simp only [List.length_append, List.length_map, cursors, asked_length before live,
                List.length_cons, live.pages_length] at count
              obtain ⟨x, rfl⟩ := List.length_eq_one_iff.1 (by omega : rest.length = 1)
              have final := congrArg List.getLast? same
              rw [List.getLast?_concat, List.getLast?_cons, List.getLast?_map, last] at final
              simp only [Option.map_some, Option.getD_some, Option.some.injEq] at final
              rw [List.map_append, List.map_singleton, ← same, final, next]
        rw [cursors_snoc_some, pages_snoc, whole, List.map_append, ← List.cons_append]
        exact List.prefix_append _ _
      · rw [cursors_snoc_none, pages_snoc, none, Option.toList_none, List.append_nil]
        exact ih

theorem pages_eq (lawful : setup.Lawful turns) :
    pages turns = (answers turns).filterMap fun reply => reply.outcome.page? := by
  induction lawful with
  | nil => rfl
  | snoc before follows ih =>
      rcases turn_cases before follows with ⟨query, reply, due, rfl⟩ | ⟨outcome, none, rfl⟩
      · simp only [pages_snoc, ih, answers_snoc_some, List.filterMap_append]
        cases reply <;> rfl
      · simp [ih, none]

theorem pages_limit (lawful : setup.Lawful turns) {limit : Nat} (wanted : setup.limit = some limit)
    (positive : 1 ≤ limit) : (pages turns).length ≤ limit := by
  induction lawful with
  | nil => exact Nat.zero_le _
  | @snoc turns turn before follows ih =>
      rcases turn_cases before follows with ⟨query, reply, due, rfl⟩ | ⟨outcome, none, rfl⟩
      · have room : (pages turns).length < limit := by
          generalize setup.cursor query = cursor at due
          cases due with
          | first => exact positive
          | named live last more next new =>
              rw [wanted] at more
              have : limit ≠ (pages turns).length := fun same => more (congrArg some same)
              omega
        rw [pages_snoc, List.length_append]
        have : reply.outcome.page?.toList.length ≤ 1 := by
          cases reply <;> simp [Reply.outcome, Outcome.page?]
        omega
      · simpa [none] using ih

theorem asked_limit (lawful : setup.Lawful turns) {limit : Nat} (wanted : setup.limit = some limit)
    (positive : 1 ≤ limit) : (asked turns).length ≤ limit := by
  induction lawful with
  | nil => exact Nat.zero_le _
  | @snoc turns turn before follows ih =>
      rcases turn_cases before follows with ⟨query, reply, due, rfl⟩ | ⟨outcome, none, rfl⟩
      · have counted : (asked turns).length = (pages turns).length :=
          (asked_length before due.live).trans due.live.pages_length.symm
        have within := pages_limit before wanted positive
        rw [asked_snoc_some, List.length_append, counted, List.length_singleton]
        generalize setup.cursor query = cursor at due
        cases due with
        | first => exact positive
        | named live last more next new =>
            rw [wanted] at more
            have : limit ≠ (pages turns).length := fun same => more (congrArg some same)
            omega
      · rw [asked_snoc_none]
        exact ih

end Whole

end Setup

end Cursor
