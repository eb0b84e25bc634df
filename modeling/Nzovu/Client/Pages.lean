import Nzovu.Client.PageArguments
import Nzovu.Service.Facade
import Nzovu.Service.RoundTrip

/-!
# Pages over the wire

`iter_pages` calls a method of its own client for each page, and each call issues an RPC. The RPCs
of a whole iteration are those of the call that its caller wrote, under one page token after
another.
-/

namespace Nzovu
open Proto Cursor

namespace Bindings
variable (bound : List (Str × Arg))

def get? (name : String) : Option Arg := (bound.find? fun entry => entry.1 = text name).map Prod.snd

def text? (name : String) : Option Str :=
  match get? bound name with
  | some (.text s) => some s
  | _ => none

def int? (name : String) : Option Int :=
  match get? bound name with
  | some (.other (.int n)) => some n
  | _ => none

def bool? (name : String) : Option Bool :=
  match get? bound name with
  | some (.other (.bool b)) => some b
  | _ => none

def hasHandler : Bool :=
  match get? bound "error_handler" with
  | none | some .none => false
  | some _ => true

end Bindings

namespace Method
open Bindings

/-- The paged method that is called with these arguments, if they are of the types it is written
for. -/
def ofBound (name : Str) (bound : List (Str × Arg)) : Option Method :=
  if name = text "list_queues" then do
    return .listQueues (← text? bound "prefix") (← int? bound "page_size")
      (← text? bound "page_token")
  else if name = text "list_schedules" then do
    return .listSchedules (← text? bound "prefix") (← int? bound "page_size")
      (← text? bound "page_token")
  else if name = text "list_schemas" then do
    return .listSchemas (← text? bound "prefix") (← int? bound "page_size")
      (← bool? bound "active_only") (← text? bound "page_token")
  else if name = text "get_schedule_history" then do
    return .getScheduleHistory (← text? bound "schedule_id") (← int? bound "page_size")
      (← text? bound "page_token")
  else if name = text "get_dlq_messages" then do
    return .getDlqMessages (← text? bound "dlq_name") (← int? bound "page_size")
      (← text? bound "page_token")
  else
    match get? bound "params" with
    | some (.params params) => some (.peekQueueMessages params)
    | _ => none

def withPageToken (token : Str) : Method → Method
  | .listQueues namePrefix pageSize _ => .listQueues namePrefix pageSize token
  | .listSchedules namePrefix pageSize _ => .listSchedules namePrefix pageSize token
  | .listSchemas namePrefix pageSize activeOnly _ =>
      .listSchemas namePrefix pageSize activeOnly token
  | .getScheduleHistory scheduleId pageSize _ => .getScheduleHistory scheduleId pageSize token
  | .getDlqMessages dlqName pageSize _ => .getDlqMessages dlqName pageSize token
  | .peekQueueMessages params => .peekQueueMessages { params with pageToken := token }
  | method => method

end Method

section Continued
variable {bound : List (Str × Arg)} {token : Str}

theorem get?_map (f : Str × Arg → Str × Arg) (kept : ∀ entry, (f entry).1 = entry.1)
    (name : String) : Bindings.get? (bound.map f) name =
      (Bindings.get? bound name).map fun arg => (f (text name, arg)).2 := by
  have same : ((fun entry : Str × Arg => decide (entry.1 = text name)) ∘ f) =
      fun entry => decide (entry.1 = text name) := by
    funext entry
    simp only [Function.comp_apply, kept]
  rw [Bindings.get?, Bindings.get?, List.find?_map, same]
  cases found : bound.find? fun entry => decide (entry.1 = text name) with
  | none => rfl
  | some entry =>
      have key : entry.1 = text name := by simpa using List.find?_some found
      simp [← key]

theorem get?_continued {name : Str} (other : name ≠ peekQueueMessages) (key : String) :
    Bindings.get? (continued name token bound) key =
      (Bindings.get? bound key).map fun arg =>
        if text key = text "page_token" then .text token else arg := by
  rw [continued, get?_map]
  · congr 1
    funext arg
    simp only [if_neg other]
    split <;> rfl
  · intro entry
    simp only [if_neg other]
    split <;> rfl

theorem get?_other {name : Str} (other : name ≠ peekQueueMessages) {key : String}
    (kept : text key ≠ text "page_token") :
    Bindings.get? (continued name token bound) key = Bindings.get? bound key := by
  rw [get?_continued other]
  simp only [if_neg kept]
  exact Option.map_id'

theorem text?_token {name : Str} (other : name ≠ peekQueueMessages) {old : Str}
    (given : Bindings.text? bound "page_token" = some old) :
    Bindings.text? (continued name token bound) "page_token" = some token := by
  rw [Bindings.text?, get?_continued other]
  cases found : Bindings.get? bound "page_token" with
  | none =>
      rw [Bindings.text?, found] at given
      cases given
  | some arg => simp

theorem text?_other {name : Str} (other : name ≠ peekQueueMessages) {key : String}
    (kept : text key ≠ text "page_token") :
    Bindings.text? (continued name token bound) key = Bindings.text? bound key := by
  rw [Bindings.text?, Bindings.text?, get?_other other kept]

theorem int?_other {name : Str} (other : name ≠ peekQueueMessages) {key : String}
    (kept : text key ≠ text "page_token") :
    Bindings.int? (continued name token bound) key = Bindings.int? bound key := by
  rw [Bindings.int?, Bindings.int?, get?_other other kept]

theorem bool?_other {name : Str} (other : name ≠ peekQueueMessages) {key : String}
    (kept : text key ≠ text "page_token") :
    Bindings.bool? (continued name token bound) key = Bindings.bool? bound key := by
  rw [Bindings.bool?, Bindings.bool?, get?_other other kept]

theorem paged_continued {name : Str} (other : name ≠ peekQueueMessages) (key : String)
    (kept : text key ≠ text "page_token") {make : Str → Int → Str → Method}
    (own : ∀ s size old, (make s size old).withPageToken token = make s size token)
    {method : Method} (called : (do
      return make (← Bindings.text? bound key) (← Bindings.int? bound "page_size")
        (← Bindings.text? bound "page_token")) = some method) :
    (do
      return make (← Bindings.text? (continued name token bound) key)
        (← Bindings.int? (continued name token bound) "page_size")
        (← Bindings.text? (continued name token bound) "page_token")) =
      some (method.withPageToken token) := by
  simp only [bind, Option.bind_eq_some_iff] at called ⊢
  obtain ⟨s, named, size, sized, old, given, same⟩ := called
  cases same
  exact ⟨s, (text?_other other kept).trans named, size, (int?_other other (by decide)).trans sized,
    token, text?_token other given, congrArg some (own s size old).symm⟩

theorem ofBound_continued {name : Str} (paged : name ∈ pagedMethods)
    (unpeeked : name ≠ peekQueueMessages) {method : Method}
    (called : Method.ofBound name bound = some method) :
    Method.ofBound name (continued name token bound) = some (method.withPageToken token) := by
  simp only [pagedMethods, List.mem_cons, List.not_mem_nil, or_false] at paged
  rcases paged with rfl | rfl | rfl | rfl | rfl | rfl
  · exact paged_continued (by decide) "prefix" (by decide) (fun _ _ _ => rfl) called
  · exact paged_continued (by decide) "prefix" (by decide) (fun _ _ _ => rfl) called
  · have other : text "list_schemas" ≠ peekQueueMessages := by decide
    change (do
      return Method.listSchemas (← Bindings.text? bound "prefix")
        (← Bindings.int? bound "page_size") (← Bindings.bool? bound "active_only")
        (← Bindings.text? bound "page_token")) = some method at called
    simp only [bind, Option.bind_eq_some_iff] at called
    obtain ⟨namePrefix, named, size, sized, active, chosen, old, given, same⟩ := called
    cases same
    let next := continued (text "list_schemas") token bound
    have named' : Bindings.text? next "prefix" = some namePrefix :=
      (text?_other other (by decide)).trans named
    have sized' : Bindings.int? next "page_size" = some size :=
      (int?_other other (by decide)).trans sized
    have chosen' : Bindings.bool? next "active_only" = some active :=
      (bool?_other other (by decide)).trans chosen
    have given' : Bindings.text? next "page_token" = some token := text?_token other given
    change (do
      return Method.listSchemas (← Bindings.text? next "prefix") (← Bindings.int? next "page_size")
        (← Bindings.bool? next "active_only") (← Bindings.text? next "page_token")) = _
    rw [named', sized', chosen', given']
    rfl
  · exact paged_continued (by decide) "schedule_id" (by decide) (fun _ _ _ => rfl) called
  · exact paged_continued (by decide) "dlq_name" (by decide) (fun _ _ _ => rfl) called
  · exact absurd rfl unpeeked

theorem pageCallArguments_called {name : Str} (paged : name ∈ pagedMethods) {args : List Arg}
    {kwargs : Dict Str Arg} (valid : ValidCall name args kwargs bound) {method : Method}
    (called : Method.ofBound name bound = some method) (token : Str) :
    ∃ call own, pageCallArguments name args kwargs token = .ok call ∧
      bindCall (signature name) call.1 call.2 = some own ∧
      Method.ofBound name own = some (method.withPageToken token) := by
  by_cases peek : name = peekQueueMessages
  · subst peek
    have typed := valid.params rfl
    obtain ⟨names, given, handler, rfl, found, -⟩ := bindCall_peek valid.fits
    obtain ⟨params, rfl⟩ := boundPeek_params typed
    obtain ⟨call, made, binds⟩ := pageCallArguments_keywords names found token
    cases called
    exact ⟨call, _, made, binds, rfl⟩
  · obtain ⟨call, made, binds⟩ := pageCallArguments_other paged peek valid token
    exact ⟨call, _, made, binds, ofBound_continued paged peek called⟩

end Continued

/-! ## Calls on a client -/

abbrev Service (σ : Type*) := σ → CallDetails → Message → Except CallFailure Message × σ

structure Exchanged where
  details : CallDetails
  request : Message
  answer : Except CallFailure Message

def CallResult.reply : CallResult → Cursor.Reply Message Exc
  | .returned response _ => .page response
  | .raised e => .raised e
  | .failed error => .raised error.exc
  | .handled _ => .nothing

/-- The attribute `next_page_token`, the last field of every response of a paged method. -/
def nextPageToken : Message → Str
  | .fields _ slots => (slots.getLast?.map Slot.str).getD []
  | .wellKnown _ => []

section Calls
variable {σ : Type*} (env : ClientEnv) (options : RpcOptions) (service : Service σ) (name : Str)

def exchange (state : σ × List Exchanged) (rpc : CallDetails × Message) : σ × List Exchanged :=
  let (answer, next) := service state.1 rpc.1 rpc.2
  (next, state.2 ++ [⟨rpc.1, rpc.2, answer⟩])

/-- A paged method of a client, with a log of its RPCs. A call that does not fit its signature
raises a `TypeError`; calls with arguments of other types are not followed any further. -/
def pagedCall : PagedMethod (σ × List Exchanged) Message := fun arguments state =>
  match bindCall (signature name) arguments.1 arguments.2 with
  | none => (.raised ⟨.typeError, name⟩, state)
  | some bound =>
      match Method.ofBound name bound with
      | none => (.raised ⟨.typeError, name⟩, state)
      | some method =>
          let outcome := NzovuClient.call env options
            (fun details request => (service state.1 details request).1) (.ok ())
            (Bindings.hasHandler bound) method
          (outcome.2.reply, outcome.1.foldl (exchange service) state)

end Calls

namespace Method

def isPaged : Method → Bool
  | .listQueues _ _ _ | .listSchedules _ _ _ | .listSchemas _ _ _ _ | .getScheduleHistory _ _ _
  | .getDlqMessages _ _ _ | .peekQueueMessages _ => true
  | _ => false

theorem isPaged_made {bound : List (Str × Arg)} {key : String} {make : Str → Int → Str → Method}
    {method : Method} (called : (do
      return make (← Bindings.text? bound key) (← Bindings.int? bound "page_size")
        (← Bindings.text? bound "page_token")) = some method)
    (paged : ∀ s size token, (make s size token).isPaged = true) : method.isPaged = true := by
  simp only [bind, Option.bind_eq_some_iff] at called
  obtain ⟨s, -, size, -, token, -, same⟩ := called
  cases same
  exact paged s size token

theorem isPaged_ofBound {name : Str} {bound : List (Str × Arg)} {method : Method}
    (called : ofBound name bound = some method) : method.isPaged = true := by
  unfold ofBound at called
  split at called
  · exact isPaged_made called fun _ _ _ => rfl
  split at called
  · exact isPaged_made called fun _ _ _ => rfl
  split at called
  · simp only [bind, Option.bind_eq_some_iff] at called
    obtain ⟨namePrefix, -, size, -, active, -, token, -, same⟩ := called
    cases same
    rfl
  split at called
  · exact isPaged_made called fun _ _ _ => rfl
  split at called
  · exact isPaged_made called fun _ _ _ => rfl
  split at called
  · cases called
    rfl
  · cases called

end Method

section Paged
variable {env : ClientEnv} {method : Method} (paged : method.isPaged = true)
include paged

theorem paged_reads {m : Message} (built : (NzovuClient.procedure env method).request = .ok m) :
    readMethod m = some method := by
  have plain : method.isPlain = true := by cases method <;> first | rfl | cases paged
  have readable : method.hasBody = false := by cases method <;> first | rfl | cases paged
  obtain ⟨read, found, told⟩ := told_request method readable built
  cases told with
  | plain method plain => exact found
  | _ => cases plain

theorem paged_silent : (NzovuClient.procedure env method).catches = false := by
  cases method <;> first | rfl | cases paged

theorem paged_settle (handler : Bool) (answer : Except CallFailure Message) :
    (NzovuClient.settle (NzovuClient.procedure env method) handler (.ok ())
      answer).reply.outcome.page? = answer.toOption := by
  have receive : (NzovuClient.procedure env method).receive = fun _ _ => .ok none := by
    cases method <;> first | rfl | cases paged
  cases answer with
  | ok response =>
      simp only [NzovuClient.settle, receive]
      rfl
  | error failure =>
      cases failure with
      | rpc e => cases handler <;> rfl
      | other e =>
          simp only [NzovuClient.settle, NzovuClient.caught, paged_silent paged, Bool.false_eq_true,
            false_and, if_false]
          rfl

theorem paged_refused {handler : Bool} {result : CallResult}
    (refused : NzovuClient.prepare (NzovuClient.procedure env method) handler = .error result) :
    ∃ e, result = .raised e := by
  rcases NzovuClient.prepare_error.1 refused with ⟨e, -, same⟩ | ⟨-, e, -, same⟩
  · exact ⟨e, same⟩
  · refine ⟨e, same.trans ?_⟩
    simp only [NzovuClient.caught, paged_silent paged, Bool.false_eq_true, false_and, if_false]

end Paged

/-! ## Whole iterations -/

namespace Paging

section Pull
variable {σ π : Type*} {p : Paging} (method : PagedMethod σ π) (next : π → Str)

def Consults (server : σ) (pulled : Generator π × σ × Turn CallArguments π Exc) : Prop :=
  pulled.2.2.exchange = none ∧ pulled.2.1 = server ∨
    ∃ call, pulled.2.2.exchange = some (call, (method call server).1) ∧
      pulled.2.1 = (method call server).2

theorem request_consults (token : Str) (seen : Finset Str) (count : Nat) (server : σ) :
    Consults method server (p.request method token seen count server) := by
  rw [request]
  split
  · split
    · exact .inl ⟨rfl, rfl⟩
    · rename_i call made
      right
      refine ⟨call, ?_⟩
      split <;> rename_i answer <;> rw [answer] <;> exact ⟨rfl, rfl⟩
  · exact .inl ⟨rfl, rfl⟩

theorem resume_consults (generator : Generator π) (server : σ) :
    Consults method server (p.resume method next generator server) := by
  cases generator with
  | created =>
      rw [resume]
      split
      · exact .inl ⟨rfl, rfl⟩
      · exact request_consults method _ _ _ server
  | suspended token seen count response =>
      rw [resume]
      split
      · exact .inl ⟨rfl, rfl⟩
      split
      · exact .inl ⟨rfl, rfl⟩
      split
      · exact .inl ⟨rfl, rfl⟩
      · exact request_consults method _ _ _ server
  | finished => exact .inl ⟨rfl, rfl⟩

theorem pull_turn (it : Iteration σ π) :
    ∃ turn, (p.pull method next it).turns = it.turns ++ [turn] ∧
      (turn.exchange = none ∧ (p.pull method next it).server = it.server ∨
        ∃ call, turn.exchange = some (call, (method call it.server).1) ∧
          (p.pull method next it).server = (method call it.server).2) :=
  ⟨_, rfl, resume_consults method next it.generator it.server⟩

end Pull

section Wire
variable {σ : Type*} {p : Paging} {env : ClientEnv} {options : RpcOptions} {service : Service σ}
  {method : Method}

structure Logged (p : Paging) (env : ClientEnv) (options : RpcOptions) (method : Method)
    (turns : List (Turn CallArguments Message Exc)) (log : List Exchanged) : Prop where
  /-- The requests are the caller's own, under the page tokens of the calls. -/
  reads : (log.map fun rpc => readMethod rpc.request) <+:
    (p.tokens turns).map fun token => some (method.withPageToken token)
  /-- Only a call that ends the iteration may issue none. -/
  whole : Live turns → log.length = (asked turns).length
  pages : pages turns = log.filterMap fun rpc => rpc.answer.toOption
  details : ∀ rpc ∈ log,
    rpc.details = NzovuClient.wireDetails env.kind options (NzovuClient.procedure env method).rpc

theorem withPageToken_rpc (env : ClientEnv) (method : Method) (token : Str) :
    (NzovuClient.procedure env (method.withPageToken token)).rpc =
      (NzovuClient.procedure env method).rpc := by
  cases method <;> rfl

theorem pagedCall_cases {call : CallArguments} {bound : List (Str × Arg)}
    (binds : bindCall (signature p.method) call.1 call.2 = some bound)
    (called : Method.ofBound p.method bound = some method) (state : σ × List Exchanged) :
    (∃ e, pagedCall env options service p.method call state = (.raised e, state)) ∨
    ∃ request answer next reply,
      pagedCall env options service p.method call state =
        (reply, (next, state.2 ++ [⟨NzovuClient.wireDetails env.kind options
          (NzovuClient.procedure env method).rpc, request, answer⟩])) ∧
      readMethod request = some method ∧ reply.outcome.page? = answer.toOption := by
  have paged := Method.isPaged_ofBound called
  cases prepared : NzovuClient.prepare (NzovuClient.procedure env method)
      (Bindings.hasHandler bound) with
  | error result =>
      left
      obtain ⟨e, rfl⟩ := paged_refused paged prepared
      refine ⟨e, ?_⟩
      simp only [pagedCall, binds, called, NzovuClient.call, prepared]
      rfl
  | ok request =>
      right
      let details := NzovuClient.wireDetails env.kind options (NzovuClient.procedure env method).rpc
      let outcome := service state.1 details request
      refine ⟨request, outcome.1, outcome.2, (NzovuClient.settle (NzovuClient.procedure env method)
        (Bindings.hasHandler bound) (.ok ()) outcome.1).reply, ?_, ?_, ?_⟩
      · simp only [pagedCall, binds, called, NzovuClient.call, prepared]
        rfl
      · exact paged_reads paged (NzovuClient.prepare_ok.1 prepared).2
      · exact paged_settle paged (Bindings.hasHandler bound) outcome.1

section Logged
variable {turns : List (Turn CallArguments Message Exc)} {log : List Exchanged}
  (logged : Logged p env options method turns log)
include logged

theorem Logged.idle {outcome : Cursor.Outcome Message Exc} (none : outcome.page? = none) :
    Logged p env options method (turns ++ [⟨.none, outcome⟩]) log where
  reads := by
    rw [tokens, asked_snoc_none]
    exact logged.reads
  whole := by
    intro live
    obtain ⟨-, content, yielded⟩ := live_snoc.1 live
    simp only at yielded
    rw [yielded] at none
    cases none
  pages := by
    rw [pages_snoc, none, logged.pages]
    exact List.append_nil _
  details := logged.details

theorem Logged.refused (call : CallArguments) (e : Exc) :
    Logged p env options method (turns ++ [⟨some (call, .raised e), .raised e⟩]) log where
  reads := by
    rw [tokens, asked_snoc_some, List.map_append, List.map_append]
    exact logged.reads.trans (List.prefix_append _ _)
  whole := by
    intro live
    obtain ⟨-, content, yielded⟩ := live_snoc.1 live
    cases yielded
  pages := by
    rw [pages_snoc, logged.pages]
    exact List.append_nil _
  details := logged.details

theorem Logged.issued {call : CallArguments} {token : Str} {request : Message}
    {answer : Except CallFailure Message} {reply : Cursor.Reply Message Exc} (live : Live turns)
    (sent : requestToken p.method call = token)
    (reads : readMethod request = some (method.withPageToken token))
    (page : reply.outcome.page? = answer.toOption) :
    Logged p env options method (turns ++ [⟨some (call, reply), reply.outcome⟩])
      (log ++ [⟨NzovuClient.wireDetails env.kind options (NzovuClient.procedure env method).rpc,
        request, answer⟩]) where
  reads := by
    have length : (log.map fun rpc => readMethod rpc.request).length =
        ((p.tokens turns).map fun token => some (method.withPageToken token)).length := by
      rw [List.length_map, List.length_map, tokens, List.length_map]
      exact logged.whole live
    have same := logged.reads.eq_of_length length
    have grown : p.tokens (turns ++ [⟨some (call, reply), reply.outcome⟩]) =
        p.tokens turns ++ [token] := by
      rw [tokens, tokens, asked_snoc_some, List.map_append, ← sent]
      rfl
    rw [grown, List.map_append, List.map_append, same]
    simp only [List.map_cons, List.map_nil, reads]
    exact List.prefix_rfl
  whole := by
    intro _
    rw [asked_snoc_some, List.length_append, List.length_append, logged.whole live]
    rfl
  pages := by
    rw [pages_snoc, page, logged.pages, List.filterMap_append]
    cases answer <;> rfl
  details := by
    intro rpc member
    rcases List.mem_append.1 member with old | new
    · exact logged.details rpc old
    · obtain rfl := List.mem_singleton.1 new
      rfl

end Logged

section Iterating
variable {bound : List (Str × Arg)} (accepted : validatePageIterator p.method p.maxPages = .ok ())
  (valid : ValidCall p.method p.args p.kwargs bound)
  (called : Method.ofBound p.method bound = some method)
include accepted valid called

theorem logged_pull {it : Iteration (σ × List Exchanged) Message}
    (faithful : Faithful p (pagedCall env options service p.method) nextPageToken
      (p.pull (pagedCall env options service p.method) nextPageToken it))
    (logged : Logged p env options method it.turns it.server.2) :
    Logged p env options method
      (p.pull (pagedCall env options service p.method) nextPageToken it).turns
      (p.pull (pagedCall env options service p.method) nextPageToken it).server.2 := by
  obtain ⟨turn, turns, consults⟩ :=
    pull_turn (p := p) (pagedCall env options service p.method) nextPageToken it
  have lawful := faithful.lawful
  have calls := faithful.calls
  rw [turns] at lawful calls ⊢
  obtain ⟨before, follows⟩ := Setup.lawful_at lawful List.getElem?_concat_length
  rw [List.take_left] at before follows
  rcases Setup.turn_cases before follows with ⟨call, reply, due, rfl⟩ | ⟨outcome, idle, rfl⟩
  · rcases consults with ⟨absent, -⟩ | ⟨call', exchanged, server⟩
    · cases absent
    cases exchanged
    obtain ⟨token, made⟩ := calls call (by simp)
    obtain ⟨other, again, sent⟩ := pageCallArguments_token (given_of_valid valid) token
    obtain ⟨same, own, remade, binds, calling⟩ :=
      pageCallArguments_called (accepted_paged accepted) valid called token
    rw [made] at again remade
    cases again
    cases remade
    have rpc := withPageToken_rpc env method token
    rw [server]
    rcases pagedCall_cases binds calling it.server with
      ⟨e, refused⟩ | ⟨request, answer, next, reply, issued, reads, page⟩
    · rw [refused]
      exact logged.refused call e
    · rw [issued, rpc]
      exact logged.issued due.live sent reads page
  · rcases consults with ⟨-, server⟩ | ⟨call', exchanged, -⟩
    · rw [server]
      exact logged.idle idle
    · cases exchanged

theorem logged_iterPages (state : σ) (n : Nat) :
    Logged p env options method
      (p.iterPages (pagedCall env options service p.method) nextPageToken (state, []) n).turns
      (p.iterPages (pagedCall env options service p.method) nextPageToken (state, [])
        n).server.2 := by
  induction n with
  | zero =>
      refine ⟨List.nil_prefix, fun _ => rfl, rfl, ?_⟩
      intro rpc member
      cases member
  | succ n ih =>
      have faithful : Faithful p (pagedCall env options service p.method) nextPageToken _ :=
        faithful_iterPages accepted (given_of_valid valid) (state, []) (n + 1)
      rw [iterPages, Function.iterate_succ_apply'] at faithful ⊢
      exact logged_pull accepted valid called faithful ih

/-- What the first `n` pulls of an iteration put on the wire: the caller's own call under page
tokens that never repeat, the first of them its own and each other one named by the page before, no
more RPCs than pulls or than `max_pages`, and a page for each answer. -/
theorem iterPages_wire (env : ClientEnv) (options : RpcOptions) (service : Service σ) (state : σ)
    (n : Nat) :
    let it := p.iterPages (pagedCall env options service p.method) nextPageToken (state, []) n
    let log := it.server.2
    ∃ sent : List Str, sent.Nodup ∧
      sent <+: p.token :: (pages it.turns).map nextPageToken ∧
      (log.map fun rpc => readMethod rpc.request) =
        (sent.map fun token => some (method.withPageToken token)) ∧
      (∀ rpc ∈ log, rpc.details =
        NzovuClient.wireDetails env.kind options (NzovuClient.procedure env method).rpc) ∧
      pages it.turns = (log.filterMap fun rpc => rpc.answer.toOption) ∧
      log.length ≤ n ∧ ∀ m, p.maxPages = some m → (log.length : Int) ≤ m := by
  intro it log
  have logged : Logged p env options method it.turns log :=
    logged_iterPages accepted valid called state n
  have faithful : Faithful p (pagedCall env options service p.method) nextPageToken it :=
    faithful_iterPages accepted (given_of_valid valid) (state, []) n
  have contract := contract_of_lawful accepted faithful.lawful faithful.calls
  have issued : log.length ≤ (asked it.turns).length := by
    have := logged.reads.length_le
    simpa [tokens] using this
  have pulled : it.turns.length = n := iterPages_turns (state, []) n
  refine ⟨(p.tokens it.turns).take log.length, ?_, ?_, ?_, logged.details, logged.pages, ?_, ?_⟩
  · exact contract.distinct.sublist (List.take_sublist _ _)
  · exact (List.take_prefix _ _).trans contract.follow
  · have cut := List.prefix_iff_eq_take.1 logged.reads
    rw [List.length_map, ← List.map_take] at cut
    exact cut
  · exact issued.trans (contract.lazy.trans pulled.le)
  · intro m limit
    have positive := accepted_positive accepted limit
    have within : (asked it.turns).length ≤ m.toNat :=
      Setup.asked_limit faithful.lawful (by simp [setup, limit]) (by omega)
    omega

end Iterating

end Wire

def sampleService : Service Nat := fun served _ _ =>
  let next := if served = 0 then text "b" else []
  (.ok (.fields Models.listQueuesResponse.fullName
    [.repeated [], .single (.scalar (.str next))]), served + 1)

theorem iterPages_wire_sample :
    let it := sample.iterPages (pagedCall NzovuClient.sampleEnv .sample sampleService sample.method)
      nextPageToken (0, []) 3
    let log := it.server.2
    log.length = 2 ∧ ∃ sent : List Str, sent.Nodup ∧
      sent <+: sample.token :: (pages it.turns).map nextPageToken ∧
      (log.map fun rpc => readMethod rpc.request) =
        (sent.map fun token => some ((Method.listQueues [] 0 []).withPageToken token)) ∧
      (∀ rpc ∈ log, rpc.details = NzovuClient.wireDetails NzovuClient.sampleEnv.kind .sample
        (NzovuClient.procedure NzovuClient.sampleEnv (.listQueues [] 0 [])).rpc) ∧
      pages it.turns = (log.filterMap fun rpc => rpc.answer.toOption) ∧
      log.length ≤ 3 ∧ ∀ m, sample.maxPages = some m → (log.length : Int) ≤ m := by
  have valid : ValidCall sample.method sample.args sample.kwargs
      [(text "prefix", .text []), (text "error_handler", .none),
        (text "page_size", .other (.int 0)), (text "page_token", .text [])] :=
    ⟨rfl, fun peek => absurd peek (by decide)⟩
  exact ⟨by decide +kernel,
    iterPages_wire rfl valid rfl NzovuClient.sampleEnv .sample sampleService 0 3⟩

end Paging

end Nzovu
