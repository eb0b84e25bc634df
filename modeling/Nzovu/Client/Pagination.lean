import Nzovu.Library.Cursor
import Nzovu.Library.Dict
import Nzovu.Python.Value

/-!
# `iter_pages`

The iterator is a generator: nothing happens until the consumer pulls, and between two pulls it is
suspended at its `yield` with its local variables. The two clients share the text of the method; the
asynchronous one awaits each page.
-/

namespace Nzovu
open Cursor

structure MessagePriorityRange where
  min : Int := 0
  max : Int := 4

structure PeekQueueMessagesParams where
  queueName : Str
  pageSize : Int := 5
  priorityRange : Option MessagePriorityRange := some {}
  pageToken : Str := []

inductive Arg
  | none
  | text (s : Str)
  | params (params : PeekQueueMessagesParams)
  | other (value : PyVal)

abbrev CallArguments := List Arg × Dict Str Arg

def pagedMethods : List Str :=
  [text "list_queues", text "list_schedules", text "list_schemas", text "get_schedule_history",
    text "get_dlq_messages", text "peek_queue_messages"]

def peekQueueMessages : Str := text "peek_queue_messages"

def validatePageIterator (method : Str) (maxPages : Option Int) : Except Exc Unit :=
  if method ∉ pagedMethods then
    .error (valueError (text "iter_pages requires a paginated SDK method name"))
  else if maxPages.any (· < 1) then
    .error (valueError (text "max_pages must be a positive integer or None"))
  else .ok ()

def givenParams (method : Str) (args : List Arg) (kwargs : Dict Str Arg) : Option Arg :=
  if method = peekQueueMessages then args.head? <|> kwargs.get? (text "params") else none

def startToken (method : Str) (args : List Arg) (kwargs : Dict Str Arg) : Option Str :=
  match givenParams method args kwargs with
  | some (.params params) => some params.pageToken
  | none | some .none =>
      match kwargs.get? (text "page_token") with
      | none => some []
      | some (.text token) => some token
      | _ => none
  | _ => none

def replacePageToken (params : Arg) (token : Str) : Except Exc Arg :=
  match params with
  | .params params => .ok (.params { params with pageToken := token })
  | _ => .error ⟨.typeError, text "replace() should be called on dataclass instances"⟩

def pageCallArguments (method : Str) (args : List Arg) (kwargs : Dict Str Arg) (token : Str) :
    Except Exc CallArguments :=
  if method = peekQueueMessages then
    match args with
    | params :: _ => do
        let params ← replacePageToken params token
        return ([], kwargs.set (text "params") params)
    | [] =>
        match kwargs.get? (text "params") with
        | none => .error ⟨.keyError, [0x27] ++ text "params" ++ [0x27]⟩
        | some params => do
            let params ← replacePageToken params token
            return ([], (kwargs.erase (text "params")).set (text "params") params)
  else .ok (args, kwargs.set (text "page_token") (.text token))

/-- The page token that a paged method sends with its request; by default there is none. -/
def requestToken (method : Str) (call : CallArguments) : Str :=
  if method = peekQueueMessages then
    match call.2.get? (text "params") with
    | some (.params params) => params.pageToken
    | _ => []
  else
    match call.2.get? (text "page_token") with
    | some (.text token) => token
    | _ => []

structure Paging where
  method : Str
  args : List Arg
  kwargs : Dict Str Arg
  maxPages : Option Int
  token : Str
  typed : startToken method args kwargs = some token

def Paging.Given (p : Paging) : Prop :=
  p.method = peekQueueMessages → ∃ params, givenParams p.method p.args p.kwargs = some (.params params)

/-- A paged method with the server behind it, in any state: it returns a response, returns `None`
after a handled error, or raises. -/
abbrev PagedMethod (σ π : Type*) := CallArguments → σ → Reply π Exc × σ

inductive Generator (π : Type*)
  | created
  | suspended (token : Str) (seen : Finset Str) (count : Nat) (response : π)
  | finished

def repeatedToken : Exc := valueError (text "Server repeated a pagination token")

structure Iteration (σ π : Type*) where
  generator : Generator π
  server : σ
  turns : List (Turn CallArguments π Exc)

namespace Paging

variable {σ π : Type*} (p : Paging) (method : PagedMethod σ π) (nextPageToken : π → Str)

def request (token : Str) (seen : Finset Str) (count : Nat) (server : σ) :
    Generator π × σ × Turn CallArguments π Exc :=
  if p.maxPages.all ((count : Int) < ·) then
    match pageCallArguments p.method p.args p.kwargs token with
    | .error e => (.finished, server, ⟨none, .raised e⟩)
    | .ok call =>
        match method call server with
        | (.nothing, server) => (.finished, server, ⟨some (call, .nothing), .stopped⟩)
        | (.raised e, server) => (.finished, server, ⟨some (call, .raised e), .raised e⟩)
        | (.page response, server) =>
            (.suspended token seen count response, server,
              ⟨some (call, .page response), .yielded response⟩)
  else (.finished, server, ⟨none, .stopped⟩)

def resume (generator : Generator π) (server : σ) : Generator π × σ × Turn CallArguments π Exc :=
  match generator with
  | .created =>
      match validatePageIterator p.method p.maxPages with
      | .error e => (.finished, server, ⟨none, .raised e⟩)
      | .ok () => p.request method p.token {p.token} 0 server
  | .suspended _ seen count response =>
      if p.maxPages.any (· ≤ ((count + 1 : Nat) : Int)) then
        (.finished, server, ⟨none, .stopped⟩)
      else if nextPageToken response = [] then (.finished, server, ⟨none, .stopped⟩)
      else if nextPageToken response ∈ seen then
        (.finished, server, ⟨none, .raised repeatedToken⟩)
      else
        p.request method (nextPageToken response) (insert (nextPageToken response) seen) (count + 1)
          server
  | .finished => (.finished, server, ⟨none, .stopped⟩)

def pull (it : Iteration σ π) : Iteration σ π :=
  let (generator, server, turn) := p.resume method nextPageToken it.generator it.server
  ⟨generator, server, it.turns ++ [turn]⟩

def iterPages (server : σ) (n : Nat) : Iteration σ π :=
  (p.pull method nextPageToken)^[n] ⟨.created, server, []⟩

/-! ## The iteration follows cursors -/

variable {p nextPageToken}

theorem pageCallArguments_token (given : p.Given) (token : Str) :
    ∃ call, pageCallArguments p.method p.args p.kwargs token = .ok call ∧
      requestToken p.method call = token := by
  by_cases peek : p.method = peekQueueMessages
  · obtain ⟨params, named⟩ := given peek
    rw [givenParams, if_pos peek] at named
    simp only [pageCallArguments, if_pos peek, requestToken]
    cases args : p.args with
    | nil =>
        have keyword : p.kwargs.get? (text "params") = some (.params params) := by
          simpa [args] using named
        simp only [keyword, replacePageToken]
        exact ⟨_, rfl, by simp [Dict.get?_set]⟩
    | cons first rest =>
        have positional : first = .params params := by simpa [args] using named
        subst positional
        exact ⟨_, rfl, by simp [Dict.get?_set]⟩
  · simp only [pageCallArguments, if_neg peek, requestToken]
    exact ⟨_, rfl, by simp [Dict.get?_set]⟩

def setup (p : Paging) (nextPageToken : π → Str) : Setup CallArguments π Exc Str where
  cursor := requestToken p.method
  next response := if nextPageToken response = [] then none else some (nextPageToken response)
  start := p.token
  limit := p.maxPages.map Int.toNat
  error := repeatedToken

def Frame (p : Paging) (nextPageToken : π → Str) (generator : Generator π)
    (turns : List (Turn CallArguments π Exc)) : Prop :=
  match generator with
  | .created => turns = []
  | .suspended _ seen count response =>
      Live turns ∧ (pages turns).getLast? = some response ∧ turns.length = count + 1 ∧
        ∀ token, token ∈ seen ↔ token ∈ (p.setup nextPageToken).cursors turns
  | .finished => ¬ Live turns

structure Faithful (p : Paging) (method : PagedMethod σ π) (nextPageToken : π → Str)
    (it : Iteration σ π) : Prop where
  lawful : (p.setup nextPageToken).Lawful it.turns
  frame : Frame p nextPageToken it.generator it.turns
  calls : ∀ call ∈ asked it.turns,
    ∃ token, pageCallArguments p.method p.args p.kwargs token = .ok call
  served : ∀ response ∈ pages it.turns,
    ∃ call server server', method call server = (.page response, server')

variable {method : PagedMethod σ π}

theorem faithful_request (given : p.Given) {it : Iteration σ π} {token : Str} {seen : Finset Str}
    {count : Nat} (faithful : Faithful p method nextPageToken it)
    (due : (p.setup nextPageToken).Due it.turns token)
    (room : p.maxPages.all ((count : Int) < ·)) (counted : it.turns.length = count)
    (known : ∀ t, t ∈ seen ↔ t ∈ (p.setup nextPageToken).cursors it.turns ∨ t = token)
    {generator : Generator π} {server : σ} {turn : Turn CallArguments π Exc}
    (requested : p.request method token seen count it.server = (generator, server, turn)) :
    Faithful p method nextPageToken ⟨generator, server, it.turns ++ [turn]⟩ := by
  obtain ⟨call, made, sent⟩ := pageCallArguments_token given token
  have called : ∀ c ∈ asked it.turns ++ [call],
      ∃ t, pageCallArguments p.method p.args p.kwargs t = .ok c := by
    intro c member
    rcases List.mem_append.1 member with earlier | last
    · exact faithful.calls c earlier
    · rw [List.mem_singleton] at last
      exact ⟨token, last ▸ made⟩
  have follows : ∀ reply : Reply π Exc, (p.setup nextPageToken).Follows
      ((p.setup nextPageToken).decision it.turns) ⟨some (call, reply), reply.outcome⟩ := by
    intro reply
    rw [Setup.decision_of_due due]
    exact ⟨call, reply, sent, rfl⟩
  simp only [request, room, ↓reduceIte, made] at requested
  cases answer : method call it.server with
  | mk reply next =>
      cases reply with
      | nothing =>
          simp only [answer, Prod.mk.injEq] at requested
          obtain ⟨rfl, rfl, rfl⟩ := requested
          refine ⟨.snoc faithful.lawful (follows .nothing), ?_, by simpa using called, ?_⟩
          · simp [Frame, live_snoc]
          · simpa [Outcome.page?] using faithful.served
      | raised e =>
          simp only [answer, Prod.mk.injEq] at requested
          obtain ⟨rfl, rfl, rfl⟩ := requested
          refine ⟨.snoc faithful.lawful (follows (.raised e)), ?_, by simpa using called, ?_⟩
          · simp [Frame, live_snoc]
          · simpa [Outcome.page?] using faithful.served
      | page response =>
          simp only [answer, Prod.mk.injEq] at requested
          obtain ⟨rfl, rfl, rfl⟩ := requested
          refine ⟨.snoc faithful.lawful (follows (.page response)), ?_, by simpa using called, ?_⟩
          · refine ⟨live_snoc.2 ⟨due.live, response, rfl⟩, by simp [Outcome.page?], ?_, ?_⟩
            · simp [counted]
            · intro t
              rw [Setup.cursors_snoc_some, List.mem_append, List.mem_singleton, known]
              exact or_congr_right (by rw [← sent]; rfl)
          · intro r member
            rw [pages_snoc] at member
            rcases List.mem_append.1 member with earlier | last
            · exact faithful.served r earlier
            · have : r = response := by simpa [Outcome.page?] using last
              exact this ▸ ⟨call, it.server, next, answer⟩

theorem faithful_idle {it : Iteration σ π} (faithful : Faithful p method nextPageToken it)
    {outcome : Outcome π Exc} (none : outcome.page? = none)
    (follows : (p.setup nextPageToken).Follows ((p.setup nextPageToken).decision it.turns)
      ⟨.none, outcome⟩) :
    Faithful p method nextPageToken ⟨.finished, it.server, it.turns ++ [⟨.none, outcome⟩]⟩ where
  lawful := .snoc faithful.lawful follows
  frame := by
    rintro live
    obtain ⟨-, content, yielded⟩ := live_snoc.1 live
    simp only at yielded
    rw [yielded] at none
    cases none
  calls := by simpa using faithful.calls
  served := by simpa [none] using faithful.served

theorem accepted_positive (accepted : validatePageIterator p.method p.maxPages = .ok ()) {m : Int}
    (limit : p.maxPages = some m) : 1 ≤ m := by
  by_contra small
  have : m < 1 := by omega
  simp only [validatePageIterator, limit, Option.any_some, this, decide_true, ↓reduceIte] at accepted
  split at accepted <;> cases accepted

theorem limit_reached (accepted : validatePageIterator p.method p.maxPages = .ok ())
    {turns : List (Turn CallArguments π Exc)} {count : Nat}
    (lawful : (p.setup nextPageToken).Lawful turns) (live : Live turns)
    (counted : turns.length = count + 1) :
    p.maxPages.any (· ≤ ((count + 1 : Nat) : Int)) = true ↔
      (p.setup nextPageToken).limit = some (pages turns).length := by
  rw [live.pages_length, counted]
  cases limit : p.maxPages with
  | none => simp [setup, limit]
  | some m =>
      have positive := accepted_positive accepted limit
      have bound : (pages turns).length ≤ m.toNat :=
        Setup.pages_limit lawful (by simp [setup, limit]) (by omega)
      rw [live.pages_length, counted] at bound
      simp only [setup, limit, Option.any_some, decide_eq_true_eq, Option.map_some,
        Option.some.injEq]
      omega

theorem faithful_pull (accepted : validatePageIterator p.method p.maxPages = .ok ())
    (given : p.Given) {it : Iteration σ π} (faithful : Faithful p method nextPageToken it) :
    Faithful p method nextPageToken (p.pull method nextPageToken it) := by
  obtain ⟨generator, server, turns⟩ := it
  have frame := faithful.frame
  cases generator with
  | created =>
      have start : turns = [] := frame
      subst start
      have due : (p.setup nextPageToken).Due [] p.token := .first
      have room : p.maxPages.all ((0 : Int) < ·) := by
        cases limit : p.maxPages with
        | none => rfl
        | some m => simpa using lt_of_lt_of_le Int.zero_lt_one (accepted_positive accepted limit)
      simp only [pull, resume, accepted]
      exact faithful_request given faithful due room rfl (by simp [Setup.cursors, asked]) rfl
  | suspended token seen count response =>
      obtain ⟨live, last, counted, known⟩ := frame
      simp only at live last counted known
      have limit := limit_reached accepted faithful.lawful live counted
      simp only [pull, resume]
      split
      · rename_i enough
        have spent : (p.setup nextPageToken).Spent turns :=
          ⟨response, last, .inl (limit.1 enough)⟩
        apply faithful_idle faithful rfl
        rw [Setup.decision_of_spent live spent]
        rfl
      · rename_i more
        rw [limit] at more
        split
        · rename_i empty
          have spent : (p.setup nextPageToken).Spent turns := ⟨response, last, .inr (if_pos empty)⟩
          apply faithful_idle faithful rfl
          rw [Setup.decision_of_spent live spent]
          rfl
        · rename_i further
          split
          · rename_i repeated
            have repeats : (p.setup nextPageToken).Repeats turns :=
              ⟨response, _, last, more, if_neg further, (known _).1 repeated⟩
            apply faithful_idle faithful rfl
            rw [Setup.decision_of_repeats live repeats]
            rfl
          · rename_i new
            have due : (p.setup nextPageToken).Due turns (nextPageToken response) :=
              .named live last more (if_neg further) fun member => new ((known _).2 member)
            have room : p.maxPages.all (((count + 1 : Nat) : Int) < ·) := by
              rw [← limit] at more
              cases limited : p.maxPages with
              | none => rfl
              | some m => simpa [limited] using more
            apply faithful_request given faithful due room counted _ rfl
            intro t
            rw [Finset.mem_insert, known, or_comm]
  | finished =>
      apply faithful_idle faithful rfl
      rw [Setup.decision_of_ended faithful.lawful frame]
      rfl

theorem faithful_iterPages (accepted : validatePageIterator p.method p.maxPages = .ok ())
    (given : p.Given) (server : σ) (n : Nat) :
    Faithful p method nextPageToken (p.iterPages method nextPageToken server n) := by
  induction n with
  | zero => exact ⟨.nil, rfl, by simp [iterPages, asked], by simp [iterPages, pages]⟩
  | succ n ih =>
      rw [iterPages, Function.iterate_succ_apply']
      exact faithful_pull accepted given ih

theorem iterPages_turns (server : σ) (n : Nat) :
    (p.iterPages method nextPageToken server n).turns.length = n := by
  induction n with
  | zero => rfl
  | succ n ih =>
      rw [iterPages, Function.iterate_succ_apply']
      change (_ ++ [_]).length = n + 1
      rw [List.length_append]
      exact congrArg (· + 1) ih

/-! ## The contract -/

def tokens (p : Paging) (turns : List (Turn CallArguments π Exc)) : List Str :=
  (asked turns).map (requestToken p.method)

/-- After these turns the last page yielded is the last one allowed or names no token. -/
def Exhausted (p : Paging) (nextPageToken : π → Str) (turns : List (Turn CallArguments π Exc)) :
    Prop :=
  ∃ response, (pages turns).getLast? = some response ∧
    (p.maxPages = some ((pages turns).length : Int) ∨ nextPageToken response = [])

/-- After these turns the last page yielded is not the last one allowed and names a token that was
requested before. -/
def Repeated (p : Paging) (nextPageToken : π → Str) (turns : List (Turn CallArguments π Exc)) :
    Prop :=
  ∃ response, (pages turns).getLast? = some response ∧
    p.maxPages ≠ some ((pages turns).length : Int) ∧ nextPageToken response ≠ [] ∧
    nextPageToken response ∈ p.tokens turns

structure PageContract (p : Paging) (nextPageToken : π → Str)
    (turns : List (Turn CallArguments π Exc)) : Prop where
  distinct : (p.tokens turns).Nodup
  follow : p.tokens turns <+: p.token :: (pages turns).map nextPageToken
  calls : ∀ call ∈ asked turns,
    ∃ token, pageCallArguments p.method p.args p.kwargs token = .ok call
  yields : pages turns = (answers turns).filterMap fun reply => reply.outcome.page?
  limited : ∀ m, p.maxPages = some m → ((pages turns).length : Int) ≤ m
  lazy : (asked turns).length ≤ turns.length
  answered : ∀ turn ∈ turns, ∀ call reply,
    turn.exchange = some (call, reply) → turn.outcome = reply.outcome
  stops : ∀ k turn, turns[k]? = some turn → Live (turns.take k) →
    (turn.outcome = .stopped ↔
      (∃ call, turn.exchange = some (call, .nothing)) ∨ p.Exhausted nextPageToken (turns.take k))
  repeats : ∀ k turn e, turns[k]? = some turn → Live (turns.take k) →
    (turn.exchange = none ∧ turn.outcome = .raised e ↔
      e = repeatedToken ∧ p.Repeated nextPageToken (turns.take k))
  ended : ∀ k turn, turns[k]? = some turn → ¬ Live (turns.take k) → turn = ⟨none, .stopped⟩

variable (nextPageToken) in
theorem limit_iff (accepted : validatePageIterator p.method p.maxPages = .ok ()) (k : Nat) :
    p.maxPages = some (k : Int) ↔ (p.setup nextPageToken).limit = some k := by
  cases limit : p.maxPages with
  | none => simp [setup, limit]
  | some m =>
      have := accepted_positive accepted limit
      simp only [setup, limit, Option.map_some, Option.some.injEq]
      omega

theorem next_none_iff (response : π) :
    (p.setup nextPageToken).next response = none ↔ nextPageToken response = [] := by
  simp [setup]

theorem next_some_iff (response : π) (token : Str) :
    (p.setup nextPageToken).next response = some token ↔
      nextPageToken response ≠ [] ∧ nextPageToken response = token := by
  simp [setup]

theorem exhausted_iff (accepted : validatePageIterator p.method p.maxPages = .ok ())
    (turns : List (Turn CallArguments π Exc)) :
    p.Exhausted nextPageToken turns ↔ (p.setup nextPageToken).Spent turns := by
  simp only [Exhausted, Setup.Spent, limit_iff nextPageToken accepted,
    next_none_iff]

theorem repeated_iff (accepted : validatePageIterator p.method p.maxPages = .ok ())
    (turns : List (Turn CallArguments π Exc)) :
    p.Repeated nextPageToken turns ↔ (p.setup nextPageToken).Repeats turns := by
  simp only [Repeated, Setup.Repeats, ne_eq, limit_iff nextPageToken accepted, next_some_iff]
  constructor
  · rintro ⟨response, last, more, further, known⟩
    exact ⟨response, _, last, more, ⟨further, rfl⟩, known⟩
  · rintro ⟨response, _, last, more, ⟨further, rfl⟩, known⟩
    exact ⟨response, last, more, further, known⟩

theorem contract_of_lawful (accepted : validatePageIterator p.method p.maxPages = .ok ())
    {turns : List (Turn CallArguments π Exc)} (lawful : (p.setup nextPageToken).Lawful turns)
    (calls : ∀ call ∈ asked turns,
      ∃ token, pageCallArguments p.method p.args p.kwargs token = .ok call) :
    PageContract p nextPageToken turns where
  distinct := Setup.cursors_nodup lawful
  follow := by
    have along := (Setup.cursors_follow lawful).map (·.getD [])
    have named : ∀ response, ((p.setup nextPageToken).next response).getD [] =
        nextPageToken response := by
      intro response
      by_cases empty : nextPageToken response = [] <;> simp [setup, empty]
    simp only [List.map_map, Function.comp_def, List.map_cons, Option.getD_some, List.map_id',
      named] at along
    exact along
  calls := calls
  yields := Setup.pages_eq lawful
  limited := by
    intro m limit
    have := accepted_positive accepted limit
    have bound : (pages turns).length ≤ m.toNat :=
      Setup.pages_limit lawful (by simp [setup, limit]) (by omega)
    omega
  lazy := List.length_filterMap_le _ _
  answered := by
    intro turn member call reply asked
    obtain ⟨k, here⟩ := List.mem_iff_getElem?.1 member
    obtain ⟨before, follows⟩ := Setup.lawful_at lawful here
    exact Setup.outcome_of_exchange before follows asked
  stops := by
    intro k turn here live
    obtain ⟨before, follows⟩ := Setup.lawful_at lawful here
    rw [exhausted_iff accepted]
    exact Setup.stopped_iff follows live
  repeats := by
    intro k turn e here live
    obtain ⟨before, follows⟩ := Setup.lawful_at lawful here
    rw [repeated_iff accepted]
    exact Setup.repeated_iff follows live e
  ended := by
    intro k turn here ended
    obtain ⟨before, follows⟩ := Setup.lawful_at lawful here
    exact Setup.turn_of_ended before follows ended

def sample : Paging where
  method := text "list_queues"
  args := []
  kwargs := Dict.empty
  maxPages := none
  token := []
  typed := rfl

end Paging

end Nzovu
