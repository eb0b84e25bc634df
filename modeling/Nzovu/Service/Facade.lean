import Nzovu.Service.Method
import Nzovu.Service.Transport

/-!
# Calls

What a call of any method comes to: the RPC that it issues, if it issues one, and what its caller
gets.
-/

namespace Nzovu
open Proto

structure RpcError where
  code : StatusCode
  details : Str
  trailingMetadata : Metadata

/-- `RpcOperationError`, which keeps the gRPC error that it was made from. -/
structure RpcOperationError where
  message : Str
  rpcError : Option RpcError

namespace RpcOperationError

def code (error : RpcOperationError) : Option StatusCode := error.rpcError.map RpcError.code

def details (error : RpcOperationError) : Str :=
  (error.rpcError.map RpcError.details).getD error.message

def trailingMetadata (error : RpcOperationError) : Option Metadata :=
  error.rpcError.map RpcError.trailingMetadata

def exc (error : RpcOperationError) : Exc := ⟨.rpcOperationError error.code, error.message⟩

end RpcOperationError

inductive CallFailure
  | rpc (e : RpcError)
  | other (e : Exc)

/-- What the caller of a method gets. A handler that is called gets the error, and the caller
`None`. -/
inductive CallResult
  | returned (response : Message) (claim : Option Claim)
  | raised (error : Exc)
  | failed (error : RpcOperationError)
  | handled (error : RpcOperationError)

abbrev Continuation := CallDetails → Message → Except CallFailure Message

namespace NzovuClient

def deliver (handler : Bool) (error : RpcOperationError) : CallResult :=
  handleError (if handler then some .handled else none) .failed error

/-- The classes of the second `except` clause of `post_messages_bulk`. -/
def parameterErrors : List ExcClass := [.valueError, .attributeError, .typeError]

/-- An exception in the `try` block that is no gRPC error. -/
def caught (p : Procedure) (handler : Bool) (e : Exc) : CallResult :=
  if p.catches = true ∧ e.cls ∈ parameterErrors then
    deliver handler ⟨text "Invalid parameters for bulk post: " ++ e.message, none⟩
  else .raised e

def rpcFailed (p : Procedure) (handler : Bool) (e : RpcError) : CallResult :=
  deliver handler ⟨p.failure ++ e.details, some e⟩

def settle (p : Procedure) (handler : Bool) (started : Except Exc Unit) :
    Except CallFailure Message → CallResult
  | .ok response =>
      match p.receive started response with
      | .ok claim => .returned response claim
      | .error e => caught p handler e
  | .error (.rpc e) => rpcFailed p handler e
  | .error (.other e) => caught p handler e

def prepare (p : Procedure) (handler : Bool) : Except CallResult Message :=
  match p.check with
  | .error e => .error (.raised e)
  | .ok () =>
      match p.request with
      | .error e => .error (caught p handler e)
      | .ok request => .ok request

def wireDetails (kind : Kind) (options : RpcOptions) (rpc : Rpc) : CallDetails :=
  intercept kind options (.plain rpc.path)

def call (env : ClientEnv) (options : RpcOptions) (answer : Continuation)
    (started : Except Exc Unit) (handler : Bool) (method : Method) :
    List (CallDetails × Message) × CallResult :=
  let p := procedure env method
  match prepare p handler with
  | .error result => ([], result)
  | .ok request =>
      let details := wireDetails env.kind options p.rpc
      ([(details, request)], settle p handler started (answer details request))

end NzovuClient

def Procedure.Admitted (p : Procedure) : Prop := p.check = .ok () ∧ ∃ m, p.request = .ok m

namespace NzovuClient

theorem prepare_ok {p : Procedure} {handler : Bool} {m : Message} :
    prepare p handler = .ok m ↔ p.check = .ok () ∧ p.request = .ok m := by
  rw [prepare]
  cases check : p.check with
  | error e => simp
  | ok u =>
      cases request : p.request with
      | error e => simp
      | ok m' => simp

theorem prepare_error {p : Procedure} {handler : Bool} {result : CallResult} :
    prepare p handler = .error result ↔
      (∃ e, p.check = .error e ∧ result = .raised e) ∨
        p.check = .ok () ∧ ∃ e, p.request = .error e ∧ result = caught p handler e := by
  rw [prepare]
  cases check : p.check with
  | error e => simp [eq_comm]
  | ok u =>
      cases request : p.request with
      | error e => simp [eq_comm]
      | ok m' => simp

def Modelled (env : ClientEnv) (pool : Pool) (pydantic : Pydantic) (entry : Models.Entry)
    (response : Message) : Prop :=
  ∃ attributes,
    ResponseWrapper.toModel pydantic env.pb.toJsonFormat pool none response =
      .ok (.model entry.className attributes) ∧
    decode env.pb.toJsonFormat pool entry.fullName
      (Instance.model entry.className attributes).dump = some response

structure CallContract (env : ClientEnv) (others : Pool) (pydantic : Pydantic) (options : RpcOptions)
    (answer : Continuation) (started : Except Exc Unit) (handler : Bool) (method : Method)
    (outcome : List (CallDetails × Message) × CallResult) : Prop where
  atMostOnce : outcome.1.length ≤ 1
  admitted : outcome.1 ≠ [] ↔ (procedure env method).Admitted
  path : ∀ rpc ∈ outcome.1, rpc.1.method = (procedure env method).rpc.path
  authenticated : ∀ rpc ∈ outcome.1, rpc.1.timeout = options.timeout ∧
    rpc.1.metadata = some ((options.apiKey.map fun key => (text "api-key", .str key)).toList)
  typed : ∀ rpc ∈ outcome.1,
    rpc.2.Typed (QueueService.pool others) (procedure env method).rpc.request.fullName
  /-- A response is returned as it came, unless it is a message that cannot be owned. -/
  returned : ∀ rpc ∈ outcome.1, ∀ response, answer rpc.1 rpc.2 = .ok response →
    (∃ claim, (procedure env method).receive started response = .ok claim ∧
      outcome.2 = .returned response claim) ∨
    ∃ e, (procedure env method).receive started response = .error e ∧ outcome.2 = .raised e
  /-- What is returned came from the server, and any response of the RPC has a model. -/
  modelled : ∀ response claim, outcome.2 = .returned response claim →
    (∃ rpc ∈ outcome.1, answer rpc.1 rpc.2 = .ok response) ∧
    (response.Typed (QueueService.pool others) (procedure env method).rpc.response.fullName →
      Modelled env (QueueService.pool others) pydantic (procedure env method).rpc.response response)
  /-- A gRPC error is told once, to the handler or to the caller, with its status. -/
  told : ∀ rpc ∈ outcome.1, ∀ e, answer rpc.1 rpc.2 = .error (.rpc e) → ∃ error,
    outcome.2 = (if handler then .handled error else .failed error) ∧
      error.code = some e.code ∧ error.details = e.details ∧
      error.trailingMetadata = some e.trailingMetadata
  /-- Only a bulk post tells a handler of an error that is not the server's. -/
  local_ : ∀ error, outcome.2 = .handled error ∨ outcome.2 = .failed error → error.rpcError = none →
    ∃ queueName messages mode, method = .postMessagesBulk queueName messages mode

theorem caught_operation {p : Procedure} {handler : Bool} {e : Exc} {error : RpcOperationError}
    (told : caught p handler e = .handled error ∨ caught p handler e = .failed error) :
    p.catches = true := by
  rw [caught] at told
  split at told
  · rename_i both
    exact both.1
  · rcases told with same | same <;> cases same

theorem catches_bulk {env : ClientEnv} {method : Method}
    (catches : (procedure env method).catches = true) :
    ∃ queueName messages mode, method = .postMessagesBulk queueName messages mode := by
  cases method with
  | postMessagesBulk queueName messages mode => exact ⟨_, _, _, rfl⟩
  | _ => cases catches

theorem deliver_told (handler : Bool) (error : RpcOperationError) :
    deliver handler error = if handler then .handled error else .failed error := by
  cases handler <;> rfl

theorem deliver_rpc {handler : Bool} {error other : RpcOperationError}
    (told : deliver handler error = .handled other ∨ deliver handler error = .failed other) :
    other = error := by
  cases handler <;> rcases told with same | same <;> cases same <;> rfl

theorem deliver_returned {handler : Bool} {error : RpcOperationError} {response : Message}
    {claim : Option Claim} : deliver handler error ≠ .returned response claim := by
  cases handler <;> exact fun same => nomatch same

theorem receive_error {env : ClientEnv} {method : Method} {started : Except Exc Unit}
    {response : Message} {e : Exc}
    (failed : (procedure env method).receive started response = .error e) :
    (procedure env method).catches = false := by
  cases method with
  | postMessagesBulk queueName messages mode => cases failed
  | _ => rfl

theorem settle_response (env : ClientEnv) (method : Method) (handler : Bool)
    (started : Except Exc Unit) (response : Message) :
    (∃ claim, (procedure env method).receive started response = .ok claim ∧
      settle (procedure env method) handler started (.ok response) = .returned response claim) ∨
    ∃ e, (procedure env method).receive started response = .error e ∧
      settle (procedure env method) handler started (.ok response) = .raised e := by
  cases received : (procedure env method).receive started response with
  | ok claim =>
      left
      refine ⟨claim, rfl, ?_⟩
      simp only [settle, received]
  | error e =>
      right
      refine ⟨e, rfl, ?_⟩
      have silent := receive_error received
      simp only [settle, received, caught, silent, Bool.false_eq_true, false_and, if_false]

theorem settle_operation {env : ClientEnv} {method : Method} {handler : Bool}
    {started : Except Exc Unit} {reply : Except CallFailure Message} {error : RpcOperationError}
    (told : settle (procedure env method) handler started reply = .handled error ∨
      settle (procedure env method) handler started reply = .failed error)
    (own : error.rpcError = none) :
    ∃ queueName messages mode, method = .postMessagesBulk queueName messages mode := by
  cases reply with
  | ok response =>
      rcases settle_response env method handler started response with ⟨_, -, same⟩ | ⟨_, -, same⟩ <;>
        · rw [same] at told
          rcases told with same | same <;> cases same
  | error failure =>
      cases failure with
      | rpc e =>
          rw [deliver_rpc told] at own
          cases own
      | other e => exact catches_bulk (caught_operation told)

theorem caught_returned {p : Procedure} {handler : Bool} {e : Exc} {response : Message}
    {claim : Option Claim} : caught p handler e ≠ .returned response claim := by
  intro same
  rw [caught] at same
  split at same
  · exact deliver_returned same
  · cases same

theorem settle_returned {p : Procedure} {handler : Bool} {started : Except Exc Unit}
    {reply : Except CallFailure Message} {response : Message} {claim : Option Claim}
    (returned : settle p handler started reply = .returned response claim) : reply = .ok response := by
  cases reply with
  | ok value =>
      rw [settle] at returned
      split at returned
      · cases returned
        rfl
      · exact (caught_returned returned).elim
  | error failure =>
      cases failure with
      | rpc e => exact (deliver_returned returned).elim
      | other e => exact (caught_returned returned).elim

theorem metadata_none (options : RpcOptions) :
    options.metadata none = (options.apiKey.map fun key => (text "api-key", .str key)).toList := by
  cases given : options.apiKey <;> simp [RpcOptions.metadata, given]

section Contract
variable {env : ClientEnv} {others : Pool} (pydantic : Pydantic) (options : RpcOptions)
  (answer : Continuation) (started : Except Exc Unit) {handler : Bool} {method : Method}

theorem unprepared_contract {result : CallResult}
    (prepared : prepare (procedure env method) handler = .error result) :
    CallContract env others pydantic options answer started handler method ([], result) where
  atMostOnce := Nat.zero_le 1
  admitted := by
    constructor
    · intro nonempty
      exact (nonempty rfl).elim
    · intro admitted
      obtain ⟨passed, m, built⟩ := admitted
      rw [prepare_ok.2 ⟨passed, built⟩] at prepared
      cases prepared
  path := fun _ member => nomatch member
  authenticated := fun _ member => nomatch member
  typed := fun _ member => nomatch member
  returned := fun _ member => nomatch member
  modelled := by
    intro response claim returned
    rcases prepare_error.1 prepared with ⟨e, -, rfl⟩ | ⟨-, e, -, rfl⟩
    · cases returned
    · exact (caught_returned returned).elim
  told := fun _ member => nomatch member
  local_ := by
    intro error told own
    rcases prepare_error.1 prepared with ⟨e, -, rfl⟩ | ⟨-, e, -, rfl⟩
    · rcases told with same | same <;> cases same
    · exact catches_bulk (caught_operation told)

theorem prepared_contract (typed : env.pb.WellTyped (QueueService.pool others))
    (injective : env.pb.toJsonFormat.Injective) (dict : env.pb.toJsonFormat.StructDict)
    (documented : pydantic.Documented Models.classes) {request : Message}
    (prepared : prepare (procedure env method) handler = .ok request) :
    CallContract env others pydantic options answer started handler method
      ([(wireDetails env.kind options (procedure env method).rpc, request)],
        settle (procedure env method) handler started
          (answer (wireDetails env.kind options (procedure env method).rpc) request)) where
  atMostOnce := le_rfl
  admitted := by
    obtain ⟨passed, built⟩ := prepare_ok.1 prepared
    exact ⟨fun _ => ⟨passed, request, built⟩, fun _ => List.cons_ne_nil _ _⟩
  path := by
    intro rpc member
    obtain rfl := List.mem_singleton.1 member
    rfl
  authenticated := by
    intro rpc member
    obtain rfl := List.mem_singleton.1 member
    exact ⟨rfl, congrArg some (metadata_none options)⟩
  typed := by
    intro rpc member
    obtain rfl := List.mem_singleton.1 member
    exact request_typed typed method (prepare_ok.1 prepared).2
  returned := by
    intro rpc member response answered
    obtain rfl := List.mem_singleton.1 member
    dsimp only
    rw [answered]
    exact settle_response env method handler started response
  modelled := by
    intro response claim returned
    refine ⟨⟨_, List.mem_singleton_self _, settle_returned returned⟩, ?_⟩
    intro typed
    have registered := QueueService.responses_listed _ (rpc_listed env method)
    rw [Modelled, ResponseWrapper.toModel_registered registered typed]
    exact ResponseWrapper.fromProto_reads registered typed injective dict documented
  told := by
    intro rpc member e answered
    obtain rfl := List.mem_singleton.1 member
    refine ⟨⟨(procedure env method).failure ++ e.details, some e⟩, ?_, rfl, rfl, rfl⟩
    rw [← deliver_told]
    exact congrArg (settle (procedure env method) handler started) answered
  local_ := fun error told own => settle_operation told own

end Contract

/-- A call of any method issues one RPC if its arguments are admitted, and none otherwise. The RPC
is authenticated and carries a message of the type that the service expects. What the server answers
is what the caller gets, as a model if it asks for one, and an error of the server is told once. -/
theorem call_contract (env : ClientEnv) (others : Pool)
    (typed : env.pb.WellTyped (QueueService.pool others))
    (injective : env.pb.toJsonFormat.Injective) (dict : env.pb.toJsonFormat.StructDict)
    (pydantic : Pydantic) (documented : pydantic.Documented Models.classes) (options : RpcOptions)
    (answer : Continuation) (started : Except Exc Unit) (handler : Bool) (method : Method) :
    CallContract env others pydantic options answer started handler method
      (call env options answer started handler method) := by
  rw [call]
  split
  · rename_i result prepared
    exact unprepared_contract pydantic options answer started prepared
  · rename_i request prepared
    exact prepared_contract pydantic options answer started typed injective dict documented prepared

def samplePost : Method :=
  .postMessage { messageId := text "m-1", data := .dict [], queueName := text "orders" }

def samplePosted : Message :=
  .fields Models.postMessageResponse.fullName [.single (.scalar (.bool true))]

theorem call_contract_sample :
    (call sampleEnv .sample (fun _ _ => .ok samplePosted) (.ok ()) false samplePost).1.length = 1 ∧
    CallContract sampleEnv samplePool (strictValidator Models.classes) .sample
      (fun _ _ => .ok samplePosted) (.ok ()) false samplePost
      (call sampleEnv .sample (fun _ _ => .ok samplePosted) (.ok ()) false samplePost) :=
  ⟨by decide +kernel, call_contract sampleEnv samplePool (plainProtobuf_typed samplePool)
    sampleFormat_injective ResponseWrapper.sampleFormat_structDict (strictValidator Models.classes)
    (strictValidator_documented Models.classes) .sample (fun _ _ => .ok samplePosted) (.ok ()) false
    samplePost⟩

end NzovuClient

end Nzovu
