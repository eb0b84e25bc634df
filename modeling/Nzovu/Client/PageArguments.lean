import Nzovu.Client.Pagination
import Nzovu.Python.Call

/-!
# Arguments of the paged methods

`iter_pages` calls the method anew for each page. The arguments of these calls are compared with those
of the call that the caller wrote, parameter by parameter.
-/

namespace Nzovu

def errorHandler : Parameter Arg := { name := text "error_handler", default := some .none }

def prefixParameter : Parameter Arg := { name := text "prefix", default := some (.text []) }

def pageSize (size : Int) : Parameter Arg :=
  { name := text "page_size", default := some (.other (.int size)) }

def pageToken : Parameter Arg :=
  { name := text "page_token", keywordOnly := true, default := some (.text []) }

def listQueues : Signature Arg :=
  [prefixParameter, errorHandler, { pageSize 0 with keywordOnly := true }, pageToken]

def listSchedules : Signature Arg :=
  [prefixParameter, errorHandler, { pageSize 0 with keywordOnly := true }, pageToken]

def listSchemas : Signature Arg :=
  [prefixParameter, pageSize 100,
    { name := text "active_only", default := some (.other (.bool false)) }, errorHandler, pageToken]

def getScheduleHistory : Signature Arg :=
  [{ name := text "schedule_id" }, pageSize 10, errorHandler, pageToken]

def getDlqMessages : Signature Arg :=
  [{ name := text "dlq_name" }, pageSize 100, errorHandler, pageToken]

def peekSignature : Signature Arg := [{ name := text "params" }, errorHandler]

def signature (method : Str) : Signature Arg :=
  if method = text "list_queues" then listQueues
  else if method = text "list_schedules" then listSchedules
  else if method = text "list_schemas" then listSchemas
  else if method = text "get_schedule_history" then getScheduleHistory
  else if method = text "get_dlq_messages" then getDlqMessages
  else peekSignature

structure ValidCall (method : Str) (args : List Arg) (kwargs : Dict Str Arg)
    (bound : List (Str × Arg)) : Prop where
  fits : bindCall (signature method) args kwargs = some bound
  params : method = peekQueueMessages → ∃ params, (text "params", Arg.params params) ∈ bound

def withPageToken (token : Str) : Arg → Arg
  | .params params => .params { params with pageToken := token }
  | arg => arg

def continued (method token : Str) (bound : List (Str × Arg)) : List (Str × Arg) :=
  bound.map fun entry =>
    if method = peekQueueMessages then
      if entry.1 = text "params" then (entry.1, withPageToken token entry.2) else entry
    else if entry.1 = text "page_token" then (entry.1, .text token)
    else entry

/-- A second positional argument, the error handler, is not passed on. -/
def DropsHandler (method : Str) (args : List Arg) : Prop :=
  method = peekQueueMessages ∧ ∃ handler, args[1]? = some handler ∧ handler ≠ .none

theorem signature_pageToken {method : Str} (paged : method ∈ pagedMethods)
    (other : method ≠ peekQueueMessages) :
    (signature method).any (·.name = text "page_token") = true ∧
      ∀ p ∈ signature method, p.name = text "page_token" → p.keywordOnly = true := by
  have all : ∀ method ∈ pagedMethods, method ≠ peekQueueMessages →
      (signature method).any (·.name = text "page_token") = true ∧
        ∀ p ∈ (signature method).map fun p => (p.name, p.keywordOnly),
          p.1 = text "page_token" → p.2 = true := by decide +kernel
  obtain ⟨listed, keyword⟩ := all method paged other
  refine ⟨listed, ?_⟩
  intro p member
  exact keyword (p.name, p.keywordOnly) (List.mem_map_of_mem member)

theorem pageCallArguments_other {method : Str} (paged : method ∈ pagedMethods)
    (other : method ≠ peekQueueMessages) {args : List Arg} {kwargs : Dict Str Arg}
    {bound : List (Str × Arg)} (valid : ValidCall method args kwargs bound) (token : Str) :
    ∃ call, pageCallArguments method args kwargs token = .ok call ∧
      bindCall (signature method) call.1 call.2 = some (continued method token bound) := by
  obtain ⟨listed, keyword⟩ := signature_pageToken paged other
  refine ⟨_, if_neg other, ?_⟩
  rw [bindCall_set (.text token) listed keyword valid.fits]
  simp only [continued, if_neg other]

/-! ## `peek_queue_messages` -/

def PeekNames (kwargs : Dict Str Arg) : Prop :=
  ∀ name, kwargs.get? name ≠ none → name = text "params" ∨ name = text "error_handler"

theorem peekNames_iff (kwargs : Dict Str Arg) :
    (kwargs.keys.all fun k => peekSignature.any (·.name = k)) = true ↔ PeekNames kwargs := by
  simp [PeekNames, peekSignature, errorHandler, ← Dict.mem_keys_iff, @eq_comm Str (text _)]

def boundPeek (params handler : Arg) : List (Str × Arg) :=
  [(text "params", params), (text "error_handler", handler)]

theorem bindCall_keywords {kwargs : Dict Str Arg} (names : PeekNames kwargs) {params : Arg}
    (given : kwargs.get? (text "params") = some params) :
    bindCall peekSignature [] kwargs =
      some (boundPeek params ((kwargs.get? (text "error_handler")).getD .none)) := by
  rw [bindCall, if_pos ((peekNames_iff kwargs).2 names)]
  cases handler : kwargs.get? (text "error_handler") <;>
    simp [peekSignature, errorHandler, bindParameters, given, handler, boundPeek]

theorem bindCall_peek {args : List Arg} {kwargs : Dict Str Arg} {bound : List (Str × Arg)}
    (fits : bindCall peekSignature args kwargs = some bound) :
    PeekNames kwargs ∧ ∃ params handler, bound = boundPeek params handler ∧
      (args.head? <|> kwargs.get? (text "params")) = some params ∧
      (args[1]? = some handler ∧ kwargs.get? (text "error_handler") = none ∨
        args[1]? = none ∧ handler = (kwargs.get? (text "error_handler")).getD .none) := by
  rw [bindCall] at fits
  split at fits
  · rename_i known
    have names := (peekNames_iff kwargs).1 known
    refine ⟨names, ?_⟩
    rcases args with - | ⟨params, - | ⟨handler, - | ⟨extra, more⟩⟩⟩
    · cases given : kwargs.get? (text "params") with
      | none => simp [peekSignature, bindParameters, given] at fits
      | some params =>
          have keywords := bindCall_keywords names given
          rw [bindCall, if_pos known, fits] at keywords
          exact ⟨params, _, Option.some.inj keywords, rfl, .inr ⟨rfl, rfl⟩⟩
    · cases handler : kwargs.get? (text "error_handler") <;>
        simp [peekSignature, errorHandler, bindParameters, handler] at fits <;>
        exact ⟨params, _, fits.2.symm, rfl, .inr ⟨rfl, rfl⟩⟩
    · simp [peekSignature, errorHandler, bindParameters] at fits
      obtain ⟨-, unnamed, rfl⟩ := fits
      exact ⟨params, handler, rfl, rfl, .inl ⟨rfl, unnamed⟩⟩
    · simp [peekSignature, errorHandler, bindParameters] at fits
  · cases fits

theorem signature_peek : signature peekQueueMessages = peekSignature := rfl

theorem continued_peek (token : Str) (params handler : Arg) :
    continued peekQueueMessages token (boundPeek params handler) =
      boundPeek (withPageToken token params) handler := by
  have other : text "error_handler" ≠ text "params" := by decide
  simp [continued, boundPeek, other]

theorem bindCall_set_params {kwargs : Dict Str Arg} (names : PeekNames kwargs) (params : Arg) :
    bindCall peekSignature [] (kwargs.set (text "params") params) =
      some (boundPeek params ((kwargs.get? (text "error_handler")).getD .none)) := by
  have other : text "error_handler" ≠ text "params" := by decide
  rw [bindCall_keywords, Dict.get?_set, if_neg other]
  · intro name present
    rw [Dict.get?_set] at present
    split at present
    · rename_i here
      exact .inl here
    · exact names name present
  · rw [Dict.get?_set, if_pos rfl]

theorem peekNames_erase {kwargs : Dict Str Arg} (names : PeekNames kwargs) (key : Str) :
    PeekNames (kwargs.erase key) := by
  intro name present
  rw [Dict.get?_erase] at present
  split at present
  · exact absurd rfl present
  · exact names name present

theorem pageCallArguments_keywords {args : List Arg} {kwargs : Dict Str Arg} (names : PeekNames kwargs)
    {params : PeekQueueMessagesParams}
    (given : (args.head? <|> kwargs.get? (text "params")) = some (.params params)) (token : Str) :
    ∃ call, pageCallArguments peekQueueMessages args kwargs token = .ok call ∧
      bindCall peekSignature call.1 call.2 =
        some (boundPeek (.params { params with pageToken := token })
          ((kwargs.get? (text "error_handler")).getD .none)) := by
  have other : text "error_handler" ≠ text "params" := by decide
  cases args with
  | nil =>
      have keyword : kwargs.get? (text "params") = some (.params params) := by simpa using given
      simp only [pageCallArguments, ↓reduceIte, keyword, replacePageToken]
      refine ⟨_, rfl, ?_⟩
      rw [bindCall_set_params (peekNames_erase names _), Dict.get?_erase, if_neg other]
  | cons first rest =>
      have positional : first = .params params := by simpa using given
      subst positional
      simp only [pageCallArguments, ↓reduceIte, replacePageToken]
      exact ⟨_, rfl, bindCall_set_params names _⟩

theorem boundPeek_params {given handler : Arg}
    (typed : ∃ params, (text "params", Arg.params params) ∈ boundPeek given handler) :
    ∃ params, given = .params params := by
  have other : text "error_handler" ≠ text "params" := by decide
  obtain ⟨params, member⟩ := typed
  simp only [boundPeek, List.mem_cons, Prod.mk.injEq, List.not_mem_nil, or_false] at member
  rcases member with ⟨-, same⟩ | ⟨named, -⟩
  · exact ⟨params, same.symm⟩
  · exact absurd named.symm other

theorem pageCallArguments_peek {args : List Arg} {kwargs : Dict Str Arg} {bound : List (Str × Arg)}
    (valid : ValidCall peekQueueMessages args kwargs bound) (token : Str) :
    ∃ call, pageCallArguments peekQueueMessages args kwargs token = .ok call ∧
      (bindCall (signature peekQueueMessages) call.1 call.2 =
          some (continued peekQueueMessages token bound) ↔ ¬ DropsHandler peekQueueMessages args) := by
  obtain ⟨fits, typed⟩ := valid
  rw [signature_peek] at fits ⊢
  obtain ⟨names, given, handler, rfl, found, passed⟩ := bindCall_peek fits
  obtain ⟨params, rfl⟩ := boundPeek_params (typed rfl)
  obtain ⟨call, made, binds⟩ := pageCallArguments_keywords names found token
  refine ⟨call, made, ?_⟩
  rw [binds, continued_peek, Option.some.injEq]
  have values : ∀ a b : Arg, boundPeek (.params { params with pageToken := token }) a =
      boundPeek (withPageToken token (.params params)) b ↔ a = b := by
    intro a b
    simp [boundPeek, withPageToken]
  rw [values, DropsHandler]
  rcases passed with ⟨positional, unnamed⟩ | ⟨absent, rfl⟩
  · simp [positional, unnamed, eq_comm]
  · simp [absent]

theorem pageCallArguments_binds {method : Str} (paged : method ∈ pagedMethods) {args : List Arg}
    {kwargs : Dict Str Arg} {bound : List (Str × Arg)} (valid : ValidCall method args kwargs bound)
    (token : Str) :
    ∃ call, pageCallArguments method args kwargs token = .ok call ∧
      (bindCall (signature method) call.1 call.2 = some (continued method token bound) ↔
        ¬ DropsHandler method args) := by
  by_cases peek : method = peekQueueMessages
  · subst peek
    exact pageCallArguments_peek valid token
  · obtain ⟨call, made, binds⟩ := pageCallArguments_other paged peek valid token
    refine ⟨call, made, ?_⟩
    simp [binds, DropsHandler, peek]

/-! ## Whole iterations -/

theorem ValidCall.givenParams {args : List Arg} {kwargs : Dict Str Arg} {bound : List (Str × Arg)}
    (valid : ValidCall peekQueueMessages args kwargs bound) :
    ∃ params, givenParams peekQueueMessages args kwargs = some (.params params) := by
  obtain ⟨fits, typed⟩ := valid
  rw [signature_peek] at fits
  obtain ⟨-, given, handler, rfl, found, -⟩ := bindCall_peek fits
  obtain ⟨params, rfl⟩ := boundPeek_params (typed rfl)
  exact ⟨params, by rw [Nzovu.givenParams, if_pos rfl, found]⟩

namespace Paging
open Cursor
variable {σ π : Type*} {p : Paging} {bound : List (Str × Arg)}

theorem accepted_paged (accepted : validatePageIterator p.method p.maxPages = .ok ()) :
    p.method ∈ pagedMethods := by
  by_contra foreign
  rw [validatePageIterator, if_pos foreign] at accepted
  cases accepted

theorem given_of_valid (valid : ValidCall p.method p.args p.kwargs bound) : p.Given := by
  intro peek
  rw [peek] at valid ⊢
  exact valid.givenParams

theorem asked_first (accepted : validatePageIterator p.method p.maxPages = .ok ())
    {call : CallArguments} (made : pageCallArguments p.method p.args p.kwargs p.token = .ok call)
    (method : PagedMethod σ π) (nextPageToken : π → Str) (server : σ) :
    asked (p.iterPages method nextPageToken server 1).turns = [call] := by
  have room : p.maxPages.all ((0 : Int) < ·) = true := by
    cases limit : p.maxPages with
    | none => rfl
    | some m => simpa using lt_of_lt_of_le Int.zero_lt_one (accepted_positive accepted limit)
  simp only [iterPages, Function.iterate_one, pull, resume, accepted, request, Nat.cast_zero, room,
    ↓reduceIte, made]
  cases answer : method call server with
  | mk reply next => cases reply <;> rfl

def PassesArguments (p : Paging) (bound : List (Str × Arg)) (nextPageToken : π → Str)
    (turns : List (Turn CallArguments π Exc)) : Prop :=
  ∀ (k : Nat) (call : CallArguments), (asked turns)[k]? = some call →
    ∃ token, (p.token :: (pages turns).map nextPageToken)[k]? = some token ∧
      bindCall (signature p.method) call.1 call.2 = some (continued p.method token bound)

theorem passesArguments_iff (accepted : validatePageIterator p.method p.maxPages = .ok ())
    (valid : ValidCall p.method p.args p.kwargs bound) (method : PagedMethod σ π)
    (nextPageToken : π → Str) (server : σ) :
    (∀ n, p.PassesArguments bound nextPageToken (p.iterPages method nextPageToken server n).turns) ↔
      ¬ DropsHandler p.method p.args := by
  have paged := accepted_paged accepted
  constructor
  · intro passes
    obtain ⟨call, made, binds⟩ := pageCallArguments_binds paged valid p.token
    have first := asked_first accepted made method nextPageToken server
    obtain ⟨token, start, bind⟩ := passes 1 0 call (by rw [first]; rfl)
    cases start
    exact binds.1 bind
  · intro keeps n k call here
    have faithful : Faithful p method nextPageToken (p.iterPages method nextPageToken server n) :=
      faithful_iterPages accepted (given_of_valid valid) server n
    have contract := contract_of_lawful accepted faithful.lawful faithful.calls
    obtain ⟨token, made⟩ := contract.calls call (List.mem_of_getElem? here)
    obtain ⟨same, remade, binds⟩ := pageCallArguments_binds paged valid token
    rw [made] at remade
    cases remade
    have sent : requestToken p.method call = token := by
      obtain ⟨other, again, sent⟩ := pageCallArguments_token (given_of_valid valid) token
      rw [made] at again
      cases again
      exact sent
    refine ⟨token, ?_, binds.2 keeps⟩
    have place : (p.tokens (p.iterPages method nextPageToken server n).turns)[k]? = some token := by
      rw [tokens, List.getElem?_map, here, Option.map_some, sent]
    obtain ⟨rest, whole⟩ := contract.follow
    rw [← whole, List.getElem?_append_left (List.getElem?_eq_some_iff.1 place).1, place]

end Paging

end Nzovu
