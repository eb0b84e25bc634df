import Nzovu.Client.PageArguments

/-!
# The objects behind the arguments

The dictionary of keyword arguments and the parameters of a peek are mutable objects, which every page
uses again. The calls are made of copies.
-/

namespace Nzovu

inductive Ref
  | none
  | text (s : Str)
  | params (address : Nat)
  | other (value : PyVal)

/-- Objects by address; a new one gets the next address. -/
structure Heap where
  dicts : List (Dict Str Ref)
  params : List PeekQueueMessagesParams

namespace Heap

def read (heap : Heap) : Ref → Arg
  | .none => .none
  | .text s => .text s
  | .params address => ((heap.params[address]?).map Arg.params).getD .none
  | .other value => .other value

def dict (heap : Heap) (address : Nat) : Dict Str Ref := (heap.dicts[address]?).getD Dict.empty

def newDict (heap : Heap) (d : Dict Str Ref) : Nat × Heap :=
  (heap.dicts.length, { heap with dicts := heap.dicts ++ [d] })

def pop (heap : Heap) (address : Nat) (key : Str) : Except Exc (Ref × Heap) :=
  match (heap.dict address).get? key with
  | none => .error ⟨.keyError, [0x27] ++ key ++ [0x27]⟩
  | some ref =>
      .ok (ref, { heap with dicts := heap.dicts.set address ((heap.dict address).erase key) })

def replacePageToken (heap : Heap) (ref : Ref) (token : Str) : Except Exc (Ref × Heap) :=
  match heap.read ref with
  | .params params =>
      .ok (.params heap.params.length,
        { heap with params := heap.params ++ [{ params with pageToken := token }] })
  | _ => .error ⟨.typeError, text "replace() should be called on dataclass instances"⟩

def readCall (heap : Heap) (call : List Ref × Nat) : CallArguments :=
  (call.1.map heap.read, (heap.dict call.2).map heap.read)

structure Extends (heap heap' : Heap) : Prop where
  dicts : heap.dicts <+: heap'.dicts
  params : heap.params <+: heap'.params

def Valid (heap : Heap) : Ref → Prop
  | .params address => address < heap.params.length
  | _ => True

structure Holds (heap : Heap) (args : List Ref) (kwargs : Nat) : Prop where
  dict : kwargs < heap.dicts.length
  args : ∀ ref ∈ args, heap.Valid ref
  values : ∀ ref ∈ (heap.dict kwargs).values, heap.Valid ref

end Heap

def Heap.passParams (heap : Heap) (copy : Nat) (params : Ref) (token : Str) :
    Except Exc ((List Ref × Nat) × Heap) := do
  let (fresh, heap) ← heap.replacePageToken params token
  let (passed, heap) := heap.newDict ((heap.dict copy).set (text "params") fresh)
  return (([], passed), heap)

/-- `page_call_arguments`. -/
def pageCallArgumentsAt (method : Str) (args : List Ref) (kwargs : Nat) (token : Str) (heap : Heap) :
    Except Exc ((List Ref × Nat) × Heap) :=
  let (copy, heap) := heap.newDict (heap.dict kwargs)
  if method = peekQueueMessages then
    match args with
    | params :: _ => heap.passParams copy params token
    | [] => do
        let (params, heap) ← heap.pop copy (text "params")
        heap.passParams copy params token
  else
    let (passed, heap) := heap.newDict ((heap.dict copy).set (text "page_token") (.text token))
    .ok ((args, passed), heap)

namespace Heap
variable {heap heap' : Heap}

theorem Extends.refl : heap.Extends heap := ⟨List.prefix_rfl, List.prefix_rfl⟩

theorem Extends.trans {other : Heap} (first : heap.Extends heap') (second : heap'.Extends other) :
    heap.Extends other :=
  ⟨first.dicts.trans second.dicts, first.params.trans second.params⟩

theorem Extends.read (extends_ : heap.Extends heap') {ref : Ref} (valid : heap.Valid ref) :
    heap'.read ref = heap.read ref := by
  cases ref with
  | params address =>
      have here := List.getElem?_eq_getElem (show address < heap.params.length from valid)
      have there := (List.prefix_iff_getElem?.1 extends_.params) address valid
      rw [Heap.read, Heap.read, there, here]
      rfl
  | _ => rfl

theorem Extends.valid (extends_ : heap.Extends heap') {ref : Ref} (valid : heap.Valid ref) :
    heap'.Valid ref := by
  cases ref with
  | params address => exact lt_of_lt_of_le valid extends_.params.length_le
  | _ => trivial

theorem Extends.dict (extends_ : heap.Extends heap') {address : Nat}
    (inside : address < heap.dicts.length) : heap'.dict address = heap.dict address := by
  have there := (List.prefix_iff_getElem?.1 extends_.dicts) address inside
  rw [Heap.dict, Heap.dict, there, List.getElem?_eq_getElem inside]

@[simp]
theorem dict_newDict (heap : Heap) (d : Dict Str Ref) :
    (heap.newDict d).2.dict (heap.newDict d).1 = d := by
  simp [newDict, dict]

theorem extends_newDict (heap : Heap) (d : Dict Str Ref) : heap.Extends (heap.newDict d).2 :=
  ⟨List.prefix_append _ _, List.prefix_rfl⟩

theorem Extends.map_read (extends_ : heap.Extends heap') {d : Dict Str Ref}
    (valid : ∀ ref ∈ d.values, heap.Valid ref) : d.map heap'.read = d.map heap.read :=
  Dict.map_congr fun ref member => extends_.read (valid ref member)

theorem replacePageToken_made {ref : Ref} {params : PeekQueueMessagesParams}
    (given : heap.read ref = .params params) (token : Str) :
    ∃ fresh after, heap.replacePageToken ref token = .ok (fresh, after) ∧ heap.Extends after ∧
      after.read fresh = .params { params with pageToken := token } := by
  have made : heap.replacePageToken ref token =
      .ok (.params heap.params.length,
        { heap with params := heap.params ++ [{ params with pageToken := token }] }) := by
    rw [replacePageToken, given]
  refine ⟨_, _, made, ⟨List.prefix_rfl, List.prefix_append _ _⟩, ?_⟩
  simp [read]

theorem pop_newDict {d : Dict Str Ref} {key : Str} {ref : Ref} (present : d.get? key = some ref) :
    (heap.newDict d).2.pop (heap.newDict d).1 key = .ok (ref, (heap.newDict (d.erase key)).2) := by
  rw [pop, dict_newDict, present]
  simp [newDict]

theorem read_newDict (heap : Heap) (d : Dict Str Ref) : (heap.newDict d).2.read = heap.read := by
  funext ref
  cases ref <;> rfl

theorem readCall_newDict (heap : Heap) (args : List Ref) (d : Dict Str Ref) :
    (heap.newDict d).2.readCall (args, (heap.newDict d).1) = (args.map heap.read, d.map heap.read) := by
  rw [readCall, read_newDict, dict_newDict]

theorem passParams_newDict {d : Dict Str Ref} (valid : ∀ ref ∈ d.values, heap.Valid ref) {ref : Ref}
    {params : PeekQueueMessagesParams} (given : heap.read ref = .params params) (token : Str) :
    ∃ result after, (heap.newDict d).2.passParams (heap.newDict d).1 ref token = .ok (result, after) ∧
      heap.Extends after ∧ after.readCall result =
        ([], (d.map heap.read).set (text "params") (.params { params with pageToken := token })) := by
  have found : (heap.newDict d).2.read ref = .params params := by rw [read_newDict, given]
  obtain ⟨fresh, after, replaced, grows, reads⟩ := replacePageToken_made found token
  have inside : (heap.newDict d).1 < (heap.newDict d).2.dicts.length := by simp [newDict]
  have copied : after.dict (heap.newDict d).1 = d := by rw [grows.dict inside, dict_newDict]
  have made : (heap.newDict d).2.passParams (heap.newDict d).1 ref token =
      .ok (([], (after.newDict (d.set (text "params") fresh)).1),
        (after.newDict (d.set (text "params") fresh)).2) := by
    rw [passParams, replaced, ← copied]
    rfl
  have extends_ : heap.Extends after := (extends_newDict heap d).trans grows
  refine ⟨_, _, made, extends_.trans (extends_newDict _ _), ?_⟩
  rw [readCall_newDict, Dict.map_set, extends_.map_read valid, reads]
  rfl

end Heap

section Page
variable {caller heap : Heap} {args : List Ref} {kwargs : Nat} {token : Str}

theorem replacePageToken_ok {given fresh : Arg} (made : replacePageToken given token = .ok fresh) :
    ∃ params, given = .params params ∧ fresh = .params { params with pageToken := token } := by
  cases given with
  | params params => exact ⟨params, rfl, (Except.ok.inj made).symm⟩
  | _ => cases made

theorem pageCallArgumentsAt_peek {d : Dict Str Ref} (given : heap.dict kwargs = d)
    (valid : ∀ ref ∈ d.values, heap.Valid ref) {call : CallArguments}
    (made : pageCallArguments peekQueueMessages (args.map heap.read) (d.map heap.read) token =
      .ok call) :
    ∃ result after, pageCallArgumentsAt peekQueueMessages args kwargs token heap = .ok (result, after) ∧
      heap.Extends after ∧ after.readCall result = call := by
  rw [pageCallArgumentsAt, given]
  cases args with
  | cons first rest =>
      simp only [pageCallArguments, ↓reduceIte, List.map_cons] at made
      obtain ⟨arg, copied, packed⟩ := bind_eq_ok.1 made
      cases packed
      obtain ⟨params, found, rfl⟩ := replacePageToken_ok copied
      exact Heap.passParams_newDict valid found token
  | nil =>
      simp only [pageCallArguments, ↓reduceIte, List.map_nil, Dict.get?_map] at made
      cases here : d.get? (text "params") with
      | none =>
          rw [here] at made
          cases made
      | some ref =>
          rw [here] at made
          obtain ⟨arg, copied, packed⟩ := bind_eq_ok.1 made
          cases packed
          obtain ⟨params, found, rfl⟩ := replacePageToken_ok copied
          have others : ∀ ref ∈ (d.erase (text "params")).values, heap.Valid ref :=
            fun ref member => valid ref (Dict.mem_values_erase member)
          rw [← Dict.map_erase]
          simp only [↓reduceIte, Heap.pop_newDict here]
          exact Heap.passParams_newDict others found token

theorem pageCallArgumentsAt_other {method : Str} (other : method ≠ peekQueueMessages)
    {d : Dict Str Ref} (given : heap.dict kwargs = d) {call : CallArguments}
    (made : pageCallArguments method (args.map heap.read) (d.map heap.read) token = .ok call) :
    ∃ result after, pageCallArgumentsAt method args kwargs token heap = .ok (result, after) ∧
      heap.Extends after ∧ after.readCall result = call := by
  simp only [pageCallArguments, if_neg other] at made
  cases made
  simp only [pageCallArgumentsAt, given, if_neg other]
  refine ⟨_, _, rfl, (heap.extends_newDict d).trans (Heap.extends_newDict _ _), ?_⟩
  rw [Heap.readCall_newDict, Heap.read_newDict, Heap.dict_newDict, Dict.map_set]
  rfl

theorem pageCallArgumentsAt_made {method : Str} (holds : caller.Holds args kwargs)
    (kept : caller.Extends heap) {call : CallArguments}
    (made : pageCallArguments method (args.map caller.read) ((caller.dict kwargs).map caller.read)
      token = .ok call) :
    ∃ result after, pageCallArgumentsAt method args kwargs token heap = .ok (result, after) ∧
      heap.Extends after ∧ after.readCall result = call := by
  have same : heap.dict kwargs = caller.dict kwargs := kept.dict holds.dict
  have passed : args.map caller.read = args.map heap.read :=
    List.map_congr_left fun ref member => (kept.read (holds.args ref member)).symm
  rw [passed, ← kept.map_read holds.values] at made
  by_cases peek : method = peekQueueMessages
  · subst peek
    exact pageCallArgumentsAt_peek same (fun ref member => kept.valid (holds.values ref member)) made
  · exact pageCallArgumentsAt_other peek same made

end Page

structure ObjectPaging extends Paging where
  heap : Heap
  refs : List Ref
  dict : Nat
  holds : heap.Holds refs dict
  args_read : args = refs.map heap.read
  kwargs_read : kwargs = (heap.dict dict).map heap.read

structure ObjectIteration (σ π : Type*) extends Iteration σ π where
  heap : Heap

namespace ObjectPaging
open Cursor
variable {σ π : Type*} (p : ObjectPaging) (method : PagedMethod σ π) (nextPageToken : π → Str)

def request (token : Str) (seen : Finset Str) (count : Nat) (server : σ) (heap : Heap) :
    (Generator π × σ × Turn CallArguments π Exc) × Heap :=
  if p.maxPages.all ((count : Int) < ·) then
    match pageCallArgumentsAt p.method p.refs p.dict token heap with
    | .error e => ((.finished, server, ⟨none, .raised e⟩), heap)
    | .ok (result, heap) =>
        let call := heap.readCall result
        match method call server with
        | (.nothing, server) => ((.finished, server, ⟨some (call, .nothing), .stopped⟩), heap)
        | (.raised e, server) => ((.finished, server, ⟨some (call, .raised e), .raised e⟩), heap)
        | (.page response, server) =>
            ((.suspended token seen count response, server,
              ⟨some (call, .page response), .yielded response⟩), heap)
  else ((.finished, server, ⟨none, .stopped⟩), heap)

def resume (generator : Generator π) (server : σ) (heap : Heap) :
    (Generator π × σ × Turn CallArguments π Exc) × Heap :=
  match generator with
  | .created =>
      match validatePageIterator p.method p.maxPages with
      | .error e => ((.finished, server, ⟨none, .raised e⟩), heap)
      | .ok () => p.request method p.token {p.token} 0 server heap
  | .suspended _ seen count response =>
      if p.maxPages.any (· ≤ ((count + 1 : Nat) : Int)) then
        ((.finished, server, ⟨none, .stopped⟩), heap)
      else if nextPageToken response = [] then ((.finished, server, ⟨none, .stopped⟩), heap)
      else if nextPageToken response ∈ seen then
        ((.finished, server, ⟨none, .raised repeatedToken⟩), heap)
      else
        p.request method (nextPageToken response) (insert (nextPageToken response) seen) (count + 1)
          server heap
  | .finished => ((.finished, server, ⟨none, .stopped⟩), heap)

def pull (it : ObjectIteration σ π) : ObjectIteration σ π :=
  let ((generator, server, turn), heap) := p.resume method nextPageToken it.generator it.server it.heap
  ⟨⟨generator, server, it.turns ++ [turn]⟩, heap⟩

def iterPages (server : σ) (n : Nat) : ObjectIteration σ π :=
  (p.pull method nextPageToken)^[n] ⟨⟨.created, server, []⟩, p.heap⟩

variable {p}

theorem request_refines (given : p.Given) {heap : Heap} (kept : p.heap.Extends heap) (token : Str)
    (seen : Finset Str) (count : Nat) (server : σ) :
    (p.request method token seen count server heap).1 =
        p.toPaging.request method token seen count server ∧
      p.heap.Extends (p.request method token seen count server heap).2 := by
  obtain ⟨call, made, -⟩ := Paging.pageCallArguments_token given token
  have values := made
  rw [p.args_read, p.kwargs_read] at values
  obtain ⟨result, after, passed, grows, reads⟩ := pageCallArgumentsAt_made p.holds kept values
  simp only [request, Paging.request, passed, made, reads]
  split
  · cases answer : method call server with
    | mk reply next => cases reply <;> exact ⟨rfl, kept.trans grows⟩
  · exact ⟨rfl, kept⟩

theorem resume_refines (given : p.Given) {heap : Heap} (kept : p.heap.Extends heap)
    (generator : Generator π) (server : σ) :
    (p.resume method nextPageToken generator server heap).1 =
        p.toPaging.resume method nextPageToken generator server ∧
      p.heap.Extends (p.resume method nextPageToken generator server heap).2 := by
  cases generator with
  | created =>
      simp only [resume, Paging.resume]
      cases validatePageIterator p.method p.maxPages with
      | error e => exact ⟨rfl, kept⟩
      | ok checked => exact request_refines method given kept _ _ _ _
  | suspended token seen count response =>
      simp only [resume, Paging.resume]
      split
      · exact ⟨rfl, kept⟩
      · split
        · exact ⟨rfl, kept⟩
        · split
          · exact ⟨rfl, kept⟩
          · exact request_refines method given kept _ _ _ _
  | finished => exact ⟨rfl, kept⟩

theorem iterPages_refines (given : p.Given) (server : σ) (n : Nat) :
    (p.iterPages method nextPageToken server n).toIteration =
        p.toPaging.iterPages method nextPageToken server n ∧
      p.heap.Extends (p.iterPages method nextPageToken server n).heap := by
  induction n with
  | zero => exact ⟨rfl, .refl⟩
  | succ n ih =>
      rw [iterPages, Paging.iterPages, Function.iterate_succ_apply', Function.iterate_succ_apply']
      rw [iterPages, Paging.iterPages] at ih
      obtain ⟨same, kept⟩ := resume_refines method nextPageToken given ih.2 _ _
      rw [← ih.1]
      refine ⟨?_, kept⟩
      simp only [pull, Paging.pull, ← same]

/-- Every page is asked for with the arguments of the caller, whose objects stay as they are. -/
theorem pageArguments_faithful_iff {bound : List (Str × Arg)}
    (accepted : validatePageIterator p.method p.maxPages = .ok ())
    (valid : ValidCall p.method p.args p.kwargs bound) (server : σ) :
    (∀ n, p.PassesArguments bound nextPageToken (p.iterPages method nextPageToken server n).turns ∧
        p.heap.Extends (p.iterPages method nextPageToken server n).heap) ↔
      ¬ DropsHandler p.method p.args := by
  have refines := p.iterPages_refines method nextPageToken (Paging.given_of_valid valid) server
  rw [← Paging.passesArguments_iff accepted valid method nextPageToken server]
  constructor
  · intro faithful n
    rw [← (refines n).1]
    exact (faithful n).1
  · intro passes n
    refine ⟨?_, (refines n).2⟩
    rw [(refines n).1]
    exact passes n

def handler : Arg := .other (.other 0)

def keywordHandler : ObjectPaging where
  method := peekQueueMessages
  args := [.params { queueName := text "orders" }]
  kwargs := Dict.empty.set (text "error_handler") handler
  maxPages := none
  token := []
  typed := rfl
  heap := ⟨[Dict.empty.set (text "error_handler") (.other (.other 0))],
    [{ queueName := text "orders" }]⟩
  refs := [.params 0]
  dict := 0
  holds := by
    refine ⟨by decide, by simp [Heap.Valid], ?_⟩
    intro ref member
    obtain ⟨key, given⟩ := Dict.mem_values.1 member
    simp only [Heap.dict, List.getElem?_cons_zero, Option.getD_some, Dict.get?_set] at given
    split at given <;> cases given
    trivial
  args_read := rfl
  kwargs_read := by
    simp only [Heap.dict, List.getElem?_cons_zero, Option.getD_some, Dict.map_set]
    rfl

def positionalHandler : ObjectPaging where
  method := peekQueueMessages
  args := [.params { queueName := text "orders" }, handler]
  kwargs := Dict.empty
  maxPages := none
  token := []
  typed := rfl
  heap := ⟨[Dict.empty], [{ queueName := text "orders" }]⟩
  refs := [.params 0, .other (.other 0)]
  dict := 0
  holds := ⟨by decide, by simp [Heap.Valid], by simp [Heap.dict, Dict.empty, Dict.values]⟩
  args_read := rfl
  kwargs_read := rfl

theorem keywordHandler_valid : ValidCall keywordHandler.method keywordHandler.args
    keywordHandler.kwargs (boundPeek (.params { queueName := text "orders" }) handler) where
  fits := rfl
  params _ := ⟨_, List.mem_cons_self⟩

theorem pageArguments_faithful_keyword :
    keywordHandler.PassesArguments (boundPeek (.params { queueName := text "orders" }) handler) id
        (keywordHandler.iterPages (fun _ (_ : Unit) => (.page (text "next"), ())) id () 2).turns ∧
      keywordHandler.heap.Extends
        (keywordHandler.iterPages (fun _ (_ : Unit) => (.page (text "next"), ())) id () 2).heap := by
  have keeps : ¬ DropsHandler keywordHandler.method keywordHandler.args := by
    rintro ⟨-, handler, given, -⟩
    cases given
  exact (pageArguments_faithful_iff _ id (by decide) keywordHandler_valid ()).2 keeps 2

theorem positionalHandler_valid : ValidCall positionalHandler.method positionalHandler.args
    positionalHandler.kwargs (boundPeek (.params { queueName := text "orders" }) handler) where
  fits := rfl
  params _ := ⟨_, List.mem_cons_self⟩

theorem not_pageArguments_faithful :
    ValidCall positionalHandler.method positionalHandler.args positionalHandler.kwargs
        (boundPeek (.params { queueName := text "orders" }) handler) ∧
      ¬ positionalHandler.PassesArguments
        (boundPeek (.params { queueName := text "orders" }) handler) id
        (positionalHandler.iterPages (fun _ (_ : Unit) => (.nothing, ())) id () 1).turns := by
  refine ⟨positionalHandler_valid, ?_⟩
  intro passes
  obtain ⟨token, start, binds⟩ := passes 0 _ rfl
  cases start
  have dropped : some (boundPeek (.params { queueName := text "orders" }) .none) =
      some (boundPeek (.params { queueName := text "orders" }) handler) := binds
  cases dropped

end ObjectPaging

end Nzovu
