import Nzovu.Library.Transition
import Nzovu.Service.Facade

/-!
# Calls at once and calls step by step

`get_next_message` and the operations that end ownership are described twice: with the registry, one
step after another, and as methods that issue an RPC. The two descriptions agree on what the caller
gets.
-/

namespace Nzovu
open Proto

def CallResult.claim : CallResult → Except Exc (Option Claim)
  | .returned _ claim => .ok claim
  | .raised e => .error e
  | .failed error => .error error.exc
  | .handled _ => .ok none

def CallResult.unit (result : CallResult) : Except Exc Unit := result.claim.map fun _ => ()

def handlerOf (handler : Bool) : Handler := if handler then .returns else .absent

def Outcome.ofReply {α : Type} (read : Message → α) (handler : Bool) :
    Except CallFailure Message → Outcome α
  | .ok m => .response (read m)
  | .error (.rpc e) => .rpcError e.code e.details (handlerOf handler)
  | .error (.other e) => .exception e

def startOutcome (started : Option Exc) : Except Exc Unit :=
  match started with
  | none => .ok ()
  | some e => .error e

theorem deliver_told (handler : Bool) (e : RpcError) (prefixed : String) :
    handleError (handlerOf handler).function .error
        (rpcOperationError e.code prefixed e.details) =
      (NzovuClient.deliver handler ⟨text prefixed ++ e.details, some e⟩).unit := by
  cases handler <;> rfl

/-! ## Operations that end ownership -/

section Operations
variable (h : Heartbeats) (env : ClientEnv) (options : RpcOptions) (handler : Bool)
  (reply : Except CallFailure Message)

def outcomeOf {α : Type} (read : Message → α) (method : Method) : Outcome α :=
  match (NzovuClient.procedure env method).request with
  | .error e => .exception e
  | .ok _ => .ofReply read handler reply

theorem checkClaim_error {queueName messageId workerId attemptId : Str} {e : Exc}
    (failed : Claim.create queueName messageId workerId attemptId = .error e) :
    checkClaim queueName messageId workerId attemptId = .error e := by
  rw [checkClaim, failed]
  rfl

theorem checkClaim_ok {queueName messageId workerId attemptId : Str} {claim : Claim}
    (created : Claim.create queueName messageId workerId attemptId = .ok claim) :
    checkClaim queueName messageId workerId attemptId = .ok () := by
  rw [checkClaim, created]
  rfl

def Outcome.unit {α : Type} (prefixed : String) : Outcome α → Except Exc Unit
  | .response _ => .ok ()
  | .rpcError code details handler =>
      handleError handler.function .error (rpcOperationError code prefixed details)
  | .exception e => .error e

variable {env handler reply} {method : Method}

theorem call_refused {e : Exc} (failed : (NzovuClient.procedure env method).check = .error e) :
    (NzovuClient.call env options (fun _ _ => reply) (.ok ()) handler method).2.unit = .error e := by
  have refused : NzovuClient.prepare (NzovuClient.procedure env method) handler =
      .error (.raised e) := by
    rw [NzovuClient.prepare, failed]
  rw [NzovuClient.call]
  simp only [refused]
  rfl

theorem call_outcome {α : Type} (read : Message → α) (prefixed : String)
    (passed : (NzovuClient.procedure env method).check = .ok ())
    (silent : (NzovuClient.procedure env method).catches = false)
    (failure : (NzovuClient.procedure env method).failure = text prefixed)
    (receive : (NzovuClient.procedure env method).receive = fun _ _ => .ok none) :
    (NzovuClient.call env options (fun _ _ => reply) (.ok ()) handler method).2.unit =
      (outcomeOf env handler reply read method).unit prefixed := by
  have caught : ∀ e, (NzovuClient.caught (NzovuClient.procedure env method) handler e).unit =
      .error e := by
    intro e
    rw [NzovuClient.caught, silent]
    rfl
  rw [NzovuClient.call, outcomeOf]
  cases request : (NzovuClient.procedure env method).request with
  | error e =>
      have refused : NzovuClient.prepare (NzovuClient.procedure env method) handler =
          .error (NzovuClient.caught (NzovuClient.procedure env method) handler e) := by
        rw [NzovuClient.prepare, passed, request]
      simp only [refused, caught]
      rfl
  | ok m =>
      have prepared : NzovuClient.prepare (NzovuClient.procedure env method) handler = .ok m :=
        NzovuClient.prepare_ok.2 ⟨passed, request⟩
      simp only [prepared]
      cases reply with
      | ok response =>
          simp only [NzovuClient.settle, receive]
          rfl
      | error failed =>
          cases failed with
          | rpc e =>
              simp only [NzovuClient.settle, NzovuClient.rpcFailed, failure]
              exact (deliver_told handler e prefixed).symm
          | other e => exact caught e

theorem operation_agrees {α : Type} (read : Message → α) (prefixed : String)
    {queueName messageId workerId attemptId : Str}
    (check : (NzovuClient.procedure env method).check =
      checkClaim queueName messageId workerId attemptId)
    (silent : (NzovuClient.procedure env method).catches = false)
    (failure : (NzovuClient.procedure env method).failure = text prefixed)
    (receive : (NzovuClient.procedure env method).receive = fun _ _ => .ok none) :
    (match Claim.create queueName messageId workerId attemptId with
      | .error e => .error e
      | .ok _ => (outcomeOf env handler reply read method).unit prefixed) =
      (NzovuClient.call env options (fun _ _ => reply) (.ok ()) handler method).2.unit := by
  cases created : Claim.create queueName messageId workerId attemptId with
  | error e => exact (call_refused options (check.trans (checkClaim_error created))).symm
  | ok claim =>
      exact (call_outcome options read prefixed (check.trans (checkClaim_ok created)) silent failure
        receive).symm

variable (h : Heartbeats) (env handler reply)

theorem acknowledgeMessage_agrees (success : Message → Bool) (params : AcknowledgeMessageParams) :
    (h.acknowledgeMessage params.queueName params.messageId params.workerId params.attemptId
        (outcomeOf env handler reply success (.acknowledgeMessage params))).2 =
      (NzovuClient.call env options (fun _ _ => reply) (.ok ()) handler
        (.acknowledgeMessage params)).2.unit := by
  rw [← operation_agrees options success "Failed to acknowledge message: " rfl rfl rfl rfl,
    Heartbeats.acknowledgeMessage]
  cases Claim.create params.queueName params.messageId params.workerId params.attemptId with
  | error e => rfl
  | ok claim => cases outcomeOf env handler reply success (.acknowledgeMessage params) <;> rfl

theorem renewMessageLease_agrees (queueName messageId newLeaseDuration : Str)
    (workerId attemptId : Option Str) :
    (h.renewMessageLease queueName messageId workerId attemptId
        (outcomeOf env handler reply (fun _ => ())
          (.renewMessageLease queueName messageId newLeaseDuration workerId attemptId))).2 =
      (NzovuClient.call env options (fun _ _ => reply) (.ok ()) handler
        (.renewMessageLease queueName messageId newLeaseDuration workerId attemptId)).2.unit := by
  rw [← operation_agrees options (fun _ => ()) "Failed to renew message lease due to: " rfl rfl rfl
    rfl, Heartbeats.renewMessageLease]
  cases Claim.create queueName messageId (workerId.getD []) (attemptId.getD []) with
  | error e => rfl
  | ok claim =>
      cases outcomeOf env handler reply (fun _ => ())
        (.renewMessageLease queueName messageId newLeaseDuration workerId attemptId) <;> rfl

theorem sendMessageHeartbeat_agrees (queueName messageId : Str) (attemptId workerId : Option Str)
    (kind : env.kind = .sync) :
    (h.sendMessageHeartbeat queueName messageId workerId attemptId
        (outcomeOf env handler reply (fun _ => ())
          (.sendMessageHeartbeat queueName messageId attemptId workerId))).2 =
      (NzovuClient.call env options (fun _ _ => reply) (.ok ()) handler
        (.sendMessageHeartbeat queueName messageId attemptId workerId)).2.unit := by
  have failure : (NzovuClient.procedure env
      (.sendMessageHeartbeat queueName messageId attemptId workerId)).failure =
      text "Failed to send heartbeat due to: " := by
    simp only [NzovuClient.procedure, NzovuClient.sendMessageHeartbeat, kind]
  rw [← operation_agrees options (fun _ => ()) "Failed to send heartbeat due to: " rfl rfl failure
    rfl, Heartbeats.sendMessageHeartbeat]
  cases Claim.create queueName messageId (workerId.getD []) (attemptId.getD []) with
  | error e => rfl
  | ok claim =>
      cases outcomeOf env handler reply (fun _ => ())
        (.sendMessageHeartbeat queueName messageId attemptId workerId) <;> rfl

end Operations

/-! ## Claiming a message -/

namespace Call

def step (j : Nat) (s : Heartbeats × Call) (a : CallStep) : Option (Heartbeats × Call) :=
  s.2.getNextMessage s.1 j a

def Ends (j : Nat) (s : Heartbeats × Call) (outcome : Except Exc (Option Claim)) (requests : Nat) :
    Prop :=
  ∃ steps h c, Transition.run (step j) s steps = some (h, c) ∧ c.phase = .done outcome ∧
    c.requests = requests

variable {j : Nat} {s t : Heartbeats × Call} {outcome : Except Exc (Option Claim)} {requests : Nat}

theorem Ends.of_step (a : CallStep) (taken : step j s a = some t) (ends : Ends j t outcome requests) :
    Ends j s outcome requests := by
  obtain ⟨steps, h, c, run, done, count⟩ := ends
  exact ⟨a :: steps, h, c, Transition.run_cons.2 ⟨t, taken, run⟩, done, count⟩

theorem ends_done (done : s.2.phase = .done outcome) : Ends j s outcome s.2.requests :=
  ⟨[], s.1, s.2, rfl, done, rfl⟩

theorem ends_leaving {h : Heartbeats} {c : Call} (leaving : c.phase = .leaving outcome) :
    Ends j (h, c) outcome c.requests := by
  cases reserved : c.reserved with
  | true =>
      apply Ends.of_step .leave (t := (h.release,
        { c with phase := .done outcome, reserved := false, released := c.released + 1 }))
      · simp only [step, getNextMessage, leaving, reserved, if_true]
      · exact ends_done rfl
  | false =>
      apply Ends.of_step .leave (t := (h, { c with phase := .done outcome }))
      · simp only [step, getNextMessage, leaving, reserved, Bool.false_eq_true, if_false]
      · exact ends_done rfl

def startedBy (h : Heartbeats) (j : Nat) (queueName : Str) (now : ℚ) (submit : Submit) :
    Except CallFailure Message → Except Exc Unit
  | .ok m =>
      match Claim.fromResponse queueName (.ofMessage m) with
      | .ok (some claim) => startOutcome (h.start claim now j submit).2
      | _ => .ok ()
  | .error _ => .ok ()

section Claiming
variable (env : ClientEnv) (handler : Bool) (leaseDuration exclusivityKey : Str)
  (workerId attemptId : Option Str)

def claiming (c : Call) : Procedure :=
  NzovuClient.procedure env
    (.getNextMessage c.queueName leaseDuration exclusivityKey c.enableHeartbeat workerId attemptId)

theorem caught_claiming (c : Call) (e : Exc) :
    (NzovuClient.caught (claiming env leaseDuration exclusivityKey workerId attemptId c) handler
      e).claim = .error e := by
  rw [NzovuClient.caught]
  exact congrArg CallResult.claim (if_neg fun both => Bool.false_ne_true both.1)

theorem receive_claiming (c : Call) (started : Except Exc Unit) (m : Message) :
    (claiming env leaseDuration exclusivityKey workerId attemptId c).receive started m =
      match Claim.fromResponse c.queueName (.ofMessage m) with
      | .error e => .error e
      | .ok none => .ok none
      | .ok (some claim) =>
          if c.enableHeartbeat then started.map fun _ => some claim else .ok (some claim) := by
  have unfolded : (claiming env leaseDuration exclusivityKey workerId attemptId c).receive started m =
      (do
        let claim ← Claim.fromResponse c.queueName (.ofMessage m)
        if c.enableHeartbeat ∧ claim.isSome then started
        return claim) := rfl
  rw [unfolded]
  cases Claim.fromResponse c.queueName (.ofMessage m) with
  | error e => rfl
  | ok claim =>
      cases claim with
      | none => cases c.enableHeartbeat <;> rfl
      | some claim => cases c.enableHeartbeat <;> cases started <;> rfl

theorem ends_received (h : Heartbeats) (j : Nat) (c : Call) (awaiting : c.phase = .awaiting)
    (now : ℚ) (submit : Submit) (possible : ¬ (h.kind = .async ∧ submit.late = true))
    (reply : Except CallFailure Message) :
    Ends j (h, c)
      (NzovuClient.settle (claiming env leaseDuration exclusivityKey workerId attemptId c) handler
        (startedBy h j c.queueName now submit reply) reply).claim c.requests := by
  have caught := caught_claiming env handler leaseDuration exclusivityKey workerId attemptId c
  apply Ends.of_step (.receive (.ofReply Response.ofMessage handler reply))
    (t := (h, c.receive (.ofReply Response.ofMessage handler reply)))
  · simp only [step, getNextMessage, awaiting]
  cases reply with
  | error failure =>
      cases failure with
      | rpc e => cases handler <;> exact ends_leaving rfl
      | other e =>
          rw [NzovuClient.settle, caught]
          exact ends_leaving rfl
  | ok m =>
      rw [NzovuClient.settle, receive_claiming]
      simp only [Outcome.ofReply, receive, startedBy]
      cases Claim.fromResponse c.queueName (.ofMessage m) with
      | error e =>
          simp only [caught]
          exact ends_leaving rfl
      | ok claim =>
          cases claim with
          | none => exact ends_leaving rfl
          | some claim =>
              cases enabled : c.enableHeartbeat with
              | false => exact ends_leaving rfl
              | true =>
                  simp only [if_true]
                  cases made : h.start claim now j submit with
                  | mk h' failure =>
                      cases failure with
                      | none =>
                          apply Ends.of_step (.start now submit)
                          · simp only [step, getNextMessage, if_neg possible, made]
                            rfl
                          apply Ends.of_step .handOver rfl
                          exact ends_leaving rfl
                      | some e =>
                          apply Ends.of_step (.start now submit)
                          · simp only [step, getNextMessage, if_neg possible, made]
                            rfl
                          simp only [startOutcome, Except.map, caught]
                          exact ends_leaving rfl

end Claiming

section Alone
variable (base : ClientEnv) (options : RpcOptions) (handler : Bool)
  (leaseDuration exclusivityKey : Str) (workerId attemptId : Option Str)

def envOf (h : Heartbeats) : ClientEnv :=
  { base with opened := h.ensureOpen, reserved := h.reserve.map fun _ => () }

def registryOf (h : Heartbeats) (enableHeartbeat : Bool) : Heartbeats :=
  if enableHeartbeat then h.reserve.toOption.getD h else h

theorem request_reserving (env : ClientEnv) (queueName : Str) :
    (NzovuClient.procedure env (.getNextMessage queueName leaseDuration exclusivityKey true workerId
        attemptId)).request =
      (NzovuClient.procedure env (.getNextMessage queueName leaseDuration exclusivityKey false
        workerId attemptId)).request >>= fun request => env.reserved.map fun _ => request := by
  show (leaseSlot env.python.unicode (some leaseDuration) >>= _) =
    ((leaseSlot env.python.unicode (some leaseDuration) >>= _) >>= _)
  have reserving : ∀ built : Except Exc Message,
      (built >>= fun request => do
        if true then env.reserved
        return request) =
      (built >>= fun request => do
        if false then env.reserved
        return request) >>= fun request => env.reserved.map fun _ => request := by
    intro built
    cases built with
    | error e => rfl
    | ok m => cases env.reserved <;> rfl
  cases leaseSlot env.python.unicode (some leaseDuration) with
  | error e => rfl
  | ok lease => exact reserving _

theorem call_unprepared {env : ClientEnv} {method : Method} (answer : Continuation)
    (started : Except Exc Unit) {result : CallResult}
    (refused : NzovuClient.prepare (NzovuClient.procedure env method) handler = .error result) :
    NzovuClient.call env options answer started handler method = ([], result) := by
  rw [NzovuClient.call]
  simp only [refused]

theorem call_prepared {env : ClientEnv} {method : Method} (reply : Except CallFailure Message)
    (started : Except Exc Unit) {request : Message}
    (prepared : NzovuClient.prepare (NzovuClient.procedure env method) handler = .ok request) :
    NzovuClient.call env options (fun _ _ => reply) started handler method =
      ([(NzovuClient.wireDetails env.kind options (NzovuClient.procedure env method).rpc, request)],
        NzovuClient.settle (NzovuClient.procedure env method) handler started reply) := by
  rw [NzovuClient.call]
  simp only [prepared]

theorem ends_unreserved (h : Heartbeats) (j : Nat) (queueName : Str) (now : ℚ) (submit : Submit)
    (possible : ¬ (h.kind = .async ∧ submit.late = true)) (reply : Except CallFailure Message)
    (opened : h.ensureOpen = .ok ()) :
    let result := NzovuClient.call (envOf base h) options (fun _ _ => reply)
      (startedBy h j queueName now submit reply) handler
      (.getNextMessage queueName leaseDuration exclusivityKey false workerId attemptId)
    Ends j (h, { create queueName false with phase := .build }) result.2.claim result.1.length := by
  let c : Call := { create queueName false with phase := .build }
  let p := claiming (envOf base h) leaseDuration exclusivityKey workerId attemptId c
  intro result
  have check : p.check = .ok () := opened
  cases request : p.request with
  | error e =>
      have unprepared : NzovuClient.prepare p handler = .error (NzovuClient.caught p handler e) :=
        NzovuClient.prepare_error.2 (.inr ⟨check, e, request, rfl⟩)
      have same : result = ([], NzovuClient.caught p handler e) :=
        call_unprepared options handler _ _ unprepared
      rw [same, caught_claiming]
      apply Ends.of_step (.build (some e)) rfl
      exact ends_leaving rfl
  | ok m =>
      have same := call_prepared options handler reply (startedBy h j queueName now submit reply)
        (NzovuClient.prepare_ok.2 ⟨check, request⟩)
      rw [show result = _ from same]
      apply Ends.of_step (.build none) rfl
      apply Ends.of_step .send rfl
      exact ends_received (envOf base h) handler leaseDuration exclusivityKey workerId attemptId h j
        { c with phase := .awaiting, requests := 1 } rfl now submit possible reply

theorem ends_reserving (h : Heartbeats) (j : Nat) (queueName : Str) (now : ℚ) (submit : Submit)
    (possible : ¬ (h.kind = .async ∧ submit.late = true)) (reply : Except CallFailure Message)
    (opened : h.ensureOpen = .ok ()) :
    let result := NzovuClient.call (envOf base h) options (fun _ _ => reply)
      (startedBy (registryOf h true) j queueName now submit reply) handler
      (.getNextMessage queueName leaseDuration exclusivityKey true workerId attemptId)
    Ends j (h, { create queueName true with phase := .build }) result.2.claim result.1.length := by
  let c : Call := { create queueName true with phase := .build }
  let p := claiming (envOf base h) leaseDuration exclusivityKey workerId attemptId c
  intro result
  have check : p.check = .ok () := opened
  have reserving := request_reserving leaseDuration exclusivityKey workerId attemptId
    (envOf base h) queueName
  have refused : ∀ e, p.request = .error e → result = ([], NzovuClient.caught p handler e) := by
    intro e failed
    have unprepared : NzovuClient.prepare p handler = .error (NzovuClient.caught p handler e) :=
      NzovuClient.prepare_error.2 (.inr ⟨check, e, failed, rfl⟩)
    exact call_unprepared options handler _ _ unprepared
  cases built : (NzovuClient.procedure (envOf base h) (.getNextMessage queueName leaseDuration
      exclusivityKey false workerId attemptId)).request with
  | error e =>
      rw [built] at reserving
      rw [refused e reserving, caught_claiming]
      apply Ends.of_step (.build (some e)) rfl
      exact ends_leaving rfl
  | ok m =>
      rw [built] at reserving
      apply Ends.of_step (.build none) rfl
      cases made : h.reserve with
      | error e =>
          have failed : p.request = .error e := by
            rw [show p.request = _ from reserving, ok_bind, envOf, made]
            rfl
          rw [refused e failed, caught_claiming]
          apply Ends.of_step .reserve (t := (h, { c with phase := .leaving (.error e) }))
          · show step j (h, { c with phase := .reserve }) .reserve = _
            simp only [step, getNextMessage, made]
          exact ends_leaving rfl
      | ok h' =>
          have request : p.request = .ok m := by
            rw [show p.request = _ from reserving, ok_bind, envOf, made]
            rfl
          have found : registryOf h true = h' := by
            rw [registryOf, if_pos rfl, made]
            rfl
          have possible' : ¬ (h'.kind = .async ∧ submit.late = true) := by
            obtain ⟨-, -, same⟩ := Heartbeats.reserve_ok made
            rw [same]
            exact possible
          have same := call_prepared options handler reply
            (startedBy (registryOf h true) j queueName now submit reply)
            (NzovuClient.prepare_ok.2 ⟨check, request⟩)
          rw [show result = _ from same, found]
          let reserved : Call := { c with phase := .send, reserved := true, acquired := 1 }
          apply Ends.of_step .reserve (t := (h', reserved))
          · show step j (h, { c with phase := .reserve }) .reserve = _
            simp only [step, getNextMessage, made]
            rfl
          apply Ends.of_step .send rfl
          exact ends_received (envOf base h) handler leaseDuration exclusivityKey workerId attemptId
            h' j { reserved with phase := .awaiting, requests := 1 } rfl now submit possible' reply

theorem ends_closed (h : Heartbeats) (j : Nat) (queueName : Str) (enableHeartbeat : Bool)
    (answer : Continuation) (started : Except Exc Unit) {e : Exc}
    (closed : h.ensureOpen = .error e) :
    let result := NzovuClient.call (envOf base h) options answer started handler
      (.getNextMessage queueName leaseDuration exclusivityKey enableHeartbeat workerId attemptId)
    Ends j (h, create queueName enableHeartbeat) result.2.claim result.1.length := by
  intro result
  have refused : NzovuClient.prepare (claiming (envOf base h) leaseDuration exclusivityKey workerId
      attemptId (create queueName enableHeartbeat)) handler = .error (.raised e) :=
    NzovuClient.prepare_error.2 (.inl ⟨e, closed, rfl⟩)
  have same : result = ([], .raised e) := call_unprepared options handler answer started refused
  rw [same]
  apply Ends.of_step .ensureOpen
    (t := (h, { create queueName enableHeartbeat with phase := .done (.error e) }))
  · show step j (h, create queueName enableHeartbeat) .ensureOpen = _
    simp only [step, getNextMessage, create, closed]
  · exact ends_done rfl

/-- A call of `get_next_message` that has the client to itself ends as the method says, step by step,
and issues as many RPCs. -/
theorem getNextMessage_agrees (h : Heartbeats) (j : Nat) (queueName : Str) (enableHeartbeat : Bool)
    (now : ℚ) (submit : Submit) (possible : ¬ (h.kind = .async ∧ submit.late = true))
    (reply : Except CallFailure Message) :
    let result := NzovuClient.call (envOf base h) options (fun _ _ => reply)
      (startedBy (registryOf h enableHeartbeat) j queueName now submit reply) handler
      (.getNextMessage queueName leaseDuration exclusivityKey enableHeartbeat workerId attemptId)
    Ends j (h, create queueName enableHeartbeat) result.2.claim result.1.length := by
  cases opened : h.ensureOpen with
  | error e =>
      exact ends_closed base options handler leaseDuration exclusivityKey workerId attemptId h j
        queueName enableHeartbeat _ _ opened
  | ok u =>
      intro result
      apply Ends.of_step .ensureOpen
        (t := (h, { create queueName enableHeartbeat with phase := .build }))
      · show step j (h, create queueName enableHeartbeat) .ensureOpen = _
        simp only [step, getNextMessage, create, opened]
      cases enableHeartbeat with
      | false =>
          exact ends_unreserved base options handler leaseDuration exclusivityKey workerId attemptId
            h j queueName now submit possible reply opened
      | true =>
          exact ends_reserving base options handler leaseDuration exclusivityKey workerId attemptId
            h j queueName now submit possible reply opened

end Alone

def claimingCall : List (CallDetails × Message) × CallResult :=
  let h := Heartbeats.create .sync .standard
  NzovuClient.call (envOf NzovuClient.sampleEnv h) .sample (fun _ _ => .ok NzovuClient.sampleClaimed)
    (startedBy (registryOf h true) 0 (text "orders") 0 .scheduled (.ok NzovuClient.sampleClaimed)) false
    (.getNextMessage (text "orders") (text "30s") [] true none none)

theorem getNextMessage_agrees_claimed :
    claimingCall.1.length = 1 ∧ (claimingCall.2.claim.map Option.isSome) = .ok true ∧
    Ends 0 (.create .sync .standard, create (text "orders") true) claimingCall.2.claim
      claimingCall.1.length :=
  ⟨by decide +kernel, by decide +kernel, getNextMessage_agrees NzovuClient.sampleEnv .sample false
    (text "30s") [] none none (.create .sync .standard) 0 (text "orders") true 0 .scheduled
    (by decide) (.ok NzovuClient.sampleClaimed)⟩

end Call

end Nzovu
