import Nzovu.Library.Chain
import Nzovu.Client.Pagination

/-!
# Completeness of `iter_pages`

When the answer of the server depends on the token of the request alone, the pages lie on a chain.
Iterations that take up one another where the last one stopped go along the chain together as one
unbounded iteration does alone.
-/

namespace Nzovu
open Cursor

namespace Paging
variable {σ π : Type*} {p : Paging} {method : PagedMethod σ π} {nextPageToken : π → Str}

def Serves (name : Str) (method : PagedMethod σ π) (serve : Str → π) : Prop :=
  ∀ call server, (method call server).1 = .page (serve (requestToken name call))

def following (nextPageToken : π → Str) (serve : Str → π) (token : Str) : Option Str :=
  if nextPageToken (serve token) = [] then none else some (nextPageToken (serve token))

theorem request_answer {token : Str} {seen : Finset Str} {count : Nat} {server : σ}
    {call : CallArguments} {reply : Reply π Exc}
    (exchanged : (p.request method token seen count server).2.2.exchange = some (call, reply)) :
    ∃ s, (method call s).1 = reply := by
  simp only [request] at exchanged
  split at exchanged
  · split at exchanged
    · cases exchanged
    · rename_i made _
      cases answer : method made server with
      | mk found next =>
          simp only [answer] at exchanged
          cases found <;> cases exchanged <;> exact ⟨server, by rw [answer]⟩
  · cases exchanged

theorem resume_answer {generator : Generator π} {server : σ} {call : CallArguments}
    {reply : Reply π Exc}
    (exchanged : (p.resume method nextPageToken generator server).2.2.exchange =
      some (call, reply)) :
    ∃ s, (method call s).1 = reply := by
  cases generator with
  | created =>
      simp only [resume] at exchanged
      split at exchanged
      · cases exchanged
      · exact request_answer exchanged
  | suspended token seen count response =>
      simp only [resume] at exchanged
      split_ifs at exchanged
      exact request_answer exchanged
  | finished => cases exchanged

theorem iterPages_answer (server : σ) (n : Nat) :
    ∀ turn ∈ (p.iterPages method nextPageToken server n).turns, ∀ call reply,
      turn.exchange = some (call, reply) → ∃ s, (method call s).1 = reply := by
  induction n with
  | zero => exact fun _ member => nomatch member
  | succ n ih =>
      rw [iterPages, Function.iterate_succ_apply']
      intro turn member call reply exchanged
      rcases List.mem_append.1 member with earlier | last
      · exact ih turn earlier call reply exchanged
      · obtain rfl := List.mem_singleton.1 last
        exact resume_answer exchanged

structure Run (σ : Type*) where
  paging : Paging
  server : σ
  pulls : Nat

def Run.turns (method : PagedMethod σ π) (nextPageToken : π → Str) (run : Run σ) :
    List (Turn CallArguments π Exc) :=
  (run.paging.iterPages method nextPageToken run.server run.pulls).turns

structure Run.From (name token : Str) (run : Run σ) : Prop where
  method : run.paging.method = name
  token : run.paging.token = token
  accepted : validatePageIterator run.paging.method run.paging.maxPages = .ok ()
  given : run.paging.Given

section Server
variable {name : Str} {serve : Str → π} (serves : Serves name method serve)
  {token : Str} {tokens : List Str}

include serves

theorem Run.went {run : Run σ} (start : run.From name token)
    (along : Chain (following nextPageToken serve) token tokens) :
    Setup.Went (run.paging.setup nextPageToken) serve tokens (run.turns method nextPageToken) := by
  have faithful : Faithful run.paging method nextPageToken
      (run.paging.iterPages method nextPageToken run.server run.pulls) :=
    faithful_iterPages start.accepted start.given run.server run.pulls
  have positive : (run.paging.setup nextPageToken).limit ≠ some 0 := by
    intro none
    have := accepted_positive start.accepted ((limit_iff nextPageToken start.accepted 0).2 none)
    omega
  apply Setup.went_of_lawful _ positive faithful.lawful
  · intro turn member call reply exchanged
    obtain ⟨s, rfl⟩ := iterPages_answer run.server run.pulls turn member call reply exchanged
    rw [serves, ← start.method]
    rfl
  · change Chain (following nextPageToken serve) run.paging.token tokens
    rw [start.token]
    exact along

def quota (p : Paging) (tokens : List Str) : Nat :=
  match p.maxPages with
  | none => tokens.length
  | some m => min m.toNat tokens.length

omit serves in
theorem within_eq_take (p : Paging) (nextPageToken : π → Str) (tokens : List Str) :
    (p.setup nextPageToken).within tokens = tokens.take (p.quota tokens) := by
  cases limit : p.maxPages with
  | none => simp [Setup.within, setup, quota, limit]
  | some m => simp [Setup.within, setup, quota, limit]

theorem Run.pages_eq {run : Run σ} (start : run.From name token)
    (along : Chain (following nextPageToken serve) token tokens) :
    pages (run.turns method nextPageToken) =
        (tokens.take (min run.pulls (run.paging.quota tokens))).map serve ∧
      run.paging.tokens (run.turns method nextPageToken) =
        tokens.take (min run.pulls (run.paging.quota tokens)) ∧
      (Live (run.turns method nextPageToken) ↔ run.pulls ≤ run.paging.quota tokens) := by
  have went := run.went serves start along
  have length : (run.turns method nextPageToken).length = run.pulls := iterPages_turns _ _
  have bound : run.paging.quota tokens ≤ tokens.length := by
    rw [quota]
    split
    · exact le_rfl
    · exact min_le_right _ _
  have whole := within_eq_take run.paging nextPageToken tokens
  refine ⟨?_, ?_, ?_⟩
  · rw [went.pages, whole, length, List.take_take]
  · exact went.cursors.trans (by rw [whole, length, List.take_take])
  · rw [went.live, whole, length, List.length_take, min_eq_left bound]

/-! ## Runs that take up one another -/

omit serves in
/-- Each run starts from the token that the last page of the run before it named. -/
inductive Resumption (name : Str) (method : PagedMethod σ π) (nextPageToken : π → Str) :
    Str → List (Run σ) → Prop
  | last {token : Str} {run : Run σ} (start : run.From name token) :
      Resumption name method nextPageToken token [run]
  | more {token : Str} {run : Run σ} {runs : List (Run σ)} {response : π}
      (start : run.From name token)
      (stopped : (pages (run.turns method nextPageToken)).getLast? = some response)
      (named : nextPageToken response ≠ [])
      (rest : Resumption name method nextPageToken (nextPageToken response) runs) :
      Resumption name method nextPageToken token (run :: runs)

def yielded (method : PagedMethod σ π) (nextPageToken : π → Str) (runs : List (Run σ)) : List π :=
  runs.flatMap fun run => pages (run.turns method nextPageToken)

omit serves in
theorem following_last {k : Nat} {response : π}
    (along : Chain (following nextPageToken serve) token tokens)
    (last : ((tokens.take k).map serve).getLast? = some response) :
    (if nextPageToken response = [] then none else some (nextPageToken response)) =
      tokens[(tokens.take k).length]? := by
  rw [List.getLast?_map] at last
  obtain ⟨final, here, rfl⟩ := Option.map_eq_some_iff.1 last
  rw [List.getLast?_eq_getElem?] at here
  have place : tokens[(tokens.take k).length - 1]? = some final := by
    rw [List.getElem?_take] at here
    split at here
    · exact here
    · cases here
  have positive : 0 < (tokens.take k).length := by
    have := (List.getElem?_eq_some_iff.1 here).1
    omega
  have next := along.next_eq place
  rw [Nat.sub_add_cancel positive] at next
  exact next

theorem Resumption.last_run {runs : List (Run σ)}
    (resumption : Resumption name method nextPageToken token runs)
    (along : Chain (following nextPageToken serve) token tokens) :
    ∃ before after run from_, tokens = before ++ after ∧ runs.getLast? = some run ∧
      run.From name from_ ∧ Chain (following nextPageToken serve) from_ after ∧
      yielded method nextPageToken runs =
        before.map serve ++ pages (run.turns method nextPageToken) := by
  induction resumption generalizing tokens with
  | @last token run start =>
      exact ⟨[], tokens, run, token, rfl, rfl, start, along, by simp [yielded]⟩
  | @more token run runs response start stopped named rest ih =>
      obtain ⟨shown, -, -⟩ := run.pages_eq serves start along
      generalize min run.pulls (run.paging.quota tokens) = k at shown
      rw [shown] at stopped
      have next := following_last along stopped
      rw [if_neg named] at next
      have parts : tokens = tokens.take k ++ tokens.drop (tokens.take k).length := by
        rw [List.length_take]
        rcases le_total k tokens.length with inside | beyond
        · rw [min_eq_left inside, List.take_append_drop]
        · rw [min_eq_right beyond, List.take_of_length_le beyond, List.drop_length, List.append_nil]
      obtain ⟨before, after, run', from_, split_, final, start', along', shown'⟩ :=
        ih (along.drop next.symm)
      refine ⟨tokens.take k ++ before, after, run', from_, ?_, ?_, start', along', ?_⟩
      · rw [List.append_assoc, ← split_]
        exact parts
      · rw [List.getLast?_cons, final]
        rfl
      · rw [yielded, List.flatMap_cons, shown, List.map_append, List.append_assoc, ← shown']
        rfl

theorem Run.pages_unbounded {run : Run σ} (start : run.From name token)
    (along : Chain (following nextPageToken serve) token tokens)
    (unbounded : run.paging.maxPages = none) (enough : tokens.length < run.pulls) :
    pages (run.turns method nextPageToken) = tokens.map serve ∧
      run.paging.tokens (run.turns method nextPageToken) = tokens ∧
      ¬ Live (run.turns method nextPageToken) := by
  obtain ⟨shown, sent, live⟩ := run.pages_eq serves start along
  have all : run.paging.quota tokens = tokens.length := by simp [quota, unbounded]
  rw [all, min_eq_right enough.le, List.take_length] at shown sent
  rw [live, all]
  exact ⟨shown, sent, Nat.not_le.2 enough⟩

theorem Run.pages_bounded {run : Run σ} (start : run.From name token)
    (along : Chain (following nextPageToken serve) token tokens) {m : Nat}
    (bound : run.paging.maxPages = some (m : Int)) (enough : tokens.length < run.pulls) :
    pages (run.turns method nextPageToken) = (tokens.take m).map serve ∧
      ¬ Live (run.turns method nextPageToken) := by
  obtain ⟨shown, -, live⟩ := run.pages_eq serves start along
  have part : run.paging.quota tokens = min m tokens.length := by simp [quota, bound]
  have inside : min m tokens.length ≤ tokens.length := min_le_right _ _
  rw [part, min_eq_right (inside.trans enough.le), ← List.take_take, List.take_length] at shown
  rw [live, part]
  exact ⟨shown, by omega⟩

theorem Run.pages_ended {run : Run σ} {response : π} (start : run.From name token)
    (along : Chain (following nextPageToken serve) token tokens)
    (stopped : (pages (run.turns method nextPageToken)).getLast? = some response)
    (unnamed : nextPageToken response = []) :
    pages (run.turns method nextPageToken) = tokens.map serve := by
  obtain ⟨shown, -, -⟩ := run.pages_eq serves start along
  generalize min run.pulls (run.paging.quota tokens) = k at shown
  rw [shown] at stopped
  have next := following_last along stopped
  rw [if_pos unnamed] at next
  have whole : tokens.length ≤ (tokens.take k).length := List.getElem?_eq_none_iff.1 next.symm
  rw [List.length_take] at whole
  rw [shown, List.take_of_length_le (by omega)]

theorem iterPages_resumable (along : Chain (following nextPageToken serve) token tokens) :
    (∀ run : Run σ, run.From name token → run.paging.maxPages = none →
      tokens.length < run.pulls →
        pages (run.turns method nextPageToken) = tokens.map serve ∧
        run.paging.tokens (run.turns method nextPageToken) = tokens ∧
        ¬ Live (run.turns method nextPageToken)) ∧
    (∀ (run : Run σ) (m : Nat), run.From name token → run.paging.maxPages = some (m : Int) →
      tokens.length < run.pulls →
        pages (run.turns method nextPageToken) = (tokens.take m).map serve ∧
        ¬ Live (run.turns method nextPageToken)) ∧
    ∀ runs, Resumption name method nextPageToken token runs →
      yielded method nextPageToken runs <+: tokens.map serve ∧
      ∀ run, runs.getLast? = some run →
        (run.paging.maxPages = none → tokens.length < run.pulls →
          yielded method nextPageToken runs = tokens.map serve) ∧
        ∀ response, (pages (run.turns method nextPageToken)).getLast? = some response →
          nextPageToken response = [] → yielded method nextPageToken runs = tokens.map serve := by
  refine ⟨fun run start => run.pages_unbounded serves start along,
    fun run m start => run.pages_bounded serves start along, ?_⟩
  intro runs resumption
  obtain ⟨before, after, final, from_, rfl, last, start, rest, shown⟩ :=
    resumption.last_run serves along
  rw [shown, List.map_append]
  constructor
  · rw [(final.pages_eq serves start rest).1, List.map_take]
    exact (List.prefix_append_right_inj _).2 (List.take_prefix _ _)
  · intro run same
    obtain rfl := Option.some.inj (last.symm.trans same)
    constructor
    · intro unbounded enough
      rw [List.length_append] at enough
      rw [(final.pages_unbounded serves start rest unbounded (by omega)).1]
    · intro response stopped unnamed
      rw [final.pages_ended serves start rest stopped unnamed]

end Server

def echo : PagedMethod Unit Str := fun call _ => (.page (requestToken (text "list_queues") call), ())

def echoNext (page : Str) : Str :=
  if page = [] then text "a" else if page = text "a" then text "b" else []

def fromToken (token : Str) (maxPages : Option Int) : Paging where
  method := text "list_queues"
  args := []
  kwargs := Dict.empty.set (text "page_token") (.text token)
  maxPages := maxPages
  token := token
  typed := by
    have plain : text "list_queues" ≠ peekQueueMessages := by decide
    simp [startToken, givenParams, plain, Dict.get?_set]

theorem fromToken_start (token : Str) (maxPages : Option Int) (positive : maxPages.all (1 ≤ ·))
    (server : σ) (pulls : Nat) :
    Run.From (text "list_queues") token ⟨fromToken token maxPages, server, pulls⟩ where
  method := rfl
  token := rfl
  accepted := by
    have listed : text "list_queues" ∈ pagedMethods := by decide
    have room : maxPages.any (· < 1) = false := by
      cases maxPages with
      | none => rfl
      | some m => simpa using positive
    simp [validatePageIterator, fromToken, listed, room]
  given same := absurd same (by simp only [fromToken]; decide)

theorem iterPages_resumable_twice :
    yielded echo echoNext [⟨fromToken [] (some 2), (), 4⟩, ⟨fromToken (text "b") none, (), 4⟩] =
      [[], text "a", text "b"] := by
  have serves : Serves (text "list_queues") echo id := fun _ _ => rfl
  have along : Chain (following echoNext id) [] [[], text "a", text "b"] :=
    .more (by decide) (.more (by decide) (.last (by decide)))
  obtain ⟨-, bounded, resumed⟩ := iterPages_resumable serves along
  have first := fromToken_start [] (some 2) (by decide) () 4
  have second := fromToken_start (text "b") none (by decide) () 4
  have shown := (bounded _ 2 first rfl (by decide)).1
  have stopped : (pages (Run.turns echo echoNext ⟨fromToken [] (some 2), (), 4⟩)).getLast? =
      some (text "a") := by
    rw [shown]
    rfl
  exact ((resumed _ (.more first stopped (by decide) (.last second))).2 _ rfl).1 rfl (by decide)

end Paging

end Nzovu
