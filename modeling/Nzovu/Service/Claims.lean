import Nzovu.Service.Facade
import Nzovu.Service.RoundTrip

/-!
# What is sent for a claim

A claim is made of a response. Whatever its owner or its worker sends for it afterwards can be sent,
and names the same attempt of the same message.
-/

namespace Nzovu
open Proto

namespace Claim

def acknowledge (claim : Claim) (state : StateOption) : AcknowledgeMessageParams where
  messageId := claim.messageId
  state
  queueName := claim.queueName
  workerId := claim.workerId
  attemptId := claim.attemptId

/-- `SendMessageHeartBeatRequest(**claim.to_dict())`, which a worker sends. -/
def heartbeatRequest (claim : Claim) : Except Exc Message :=
  construct QueueService.sendMessageHeartBeat.request
    [textSlot claim.queueName, textSlot claim.messageId, optionalTextSlot (some claim.workerId),
      optionalTextSlot (some claim.attemptId)]

def owner (claim : Claim) : Str × Str × Option Str × Option Str :=
  (claim.queueName, claim.messageId, some claim.workerId, some claim.attemptId)

inductive Sends (unicode : Unicode) (claim : Claim) : Method → Prop
  | acknowledge (state : StateOption) (known : ∃ slot, enumSlot stateEnum state = .ok slot) :
      Sends unicode claim (.acknowledgeMessage (claim.acknowledge state))
  | renew (lease : Str) (known : ∃ d, stringToDuration unicode lease = .ok d) :
      Sends unicode claim (.renewMessageLease claim.queueName claim.messageId lease (some claim.workerId)
        (some claim.attemptId))
  | heartbeat :
      Sends unicode claim (.sendMessageHeartbeat claim.queueName claim.messageId (some claim.attemptId)
        (some claim.workerId))

end Claim

def Method.owner : Method → Option (Str × Str × Option Str × Option Str)
  | .acknowledgeMessage params =>
      some (params.queueName, params.messageId, some params.workerId, some params.attemptId)
  | .renewMessageLease queueName messageId _ workerId attemptId =>
      some (queueName, messageId, workerId, attemptId)
  | .sendMessageHeartbeat queueName messageId attemptId workerId =>
      some (queueName, messageId, workerId, attemptId)
  | _ => none

theorem told_owner {env : ClientEnv} {method read : Method} (told : Told env method read) :
    read.owner = method.owner := by
  cases told <;> rfl

/-! ## Identifiers of a response -/

theorem textSlot_encodable {s : Str} {slot : Slot} (built : textSlot s = .ok slot) :
    s.encodable = true := by
  rw [textSlot] at built
  split at built
  · assumption
  · cases built

theorem str_encodable {pool : Pool} {field : FieldDescriptor} {slot : Slot}
    (typed : Slot.Typed pool field slot) : slot.str.encodable = true := by
  cases slot with
  | single content =>
      cases content with
      | scalar value =>
          obtain ⟨-, t, -, holds⟩ := typed
          cases value with
          | str s =>
              cases t with
              | string => exact holds
              | _ => exact holds.elim
          | _ => rfl
      | _ => rfl
  | _ => rfl

section Typed
variable {pool : Pool} {fullName name : Str} {slots : List Slot}

theorem slots_typed {fields : List FieldDescriptor} (typed : slotsTyped pool fields slots) :
    ∀ slot ∈ slots, ∃ field, Slot.Typed pool field slot := by
  induction slots generalizing fields with
  | nil =>
      intro slot member
      cases member
  | cons first rest ih =>
      cases fields with
      | nil => exact typed.elim
      | cons field fields =>
          intro slot member
          rcases List.mem_cons.1 member with rfl | later
          · exact ⟨field, typed.1⟩
          · exact ih typed.2 slot later

theorem fields_str (typed : Message.Typed pool fullName (.fields name slots)) :
    ∀ slot ∈ slots, slot.str.encodable = true := by
  obtain ⟨-, -, -, typed, -⟩ := typed
  intro slot member
  obtain ⟨field, typed⟩ := slots_typed typed slot member
  exact str_encodable typed

theorem ofMessage_id {response : Message} (typed : response.Typed pool fullName) {id : Str}
    (present : (Response.ofMessage response).messageId = some id) : id.encodable = true := by
  unfold Response.ofMessage at present
  split at present
  · rename_i name message workerId attemptId
    obtain ⟨-, -, -, typed, -⟩ := typed
    have inner := slots_typed typed message (by simp)
    split at present
    · rename_i idSlot rest
      obtain ⟨field, -, innerName, -, typed⟩ := inner
      cases present
      exact fields_str typed idSlot (by simp)
    · cases present
      rfl
    · cases present
  · cases present

theorem ofMessage_encodable {response : Message} (typed : response.Typed pool fullName) :
    (Response.ofMessage response).workerId.encodable = true ∧
      (Response.ofMessage response).attemptId.encodable = true := by
  unfold Response.ofMessage
  split
  · rename_i name message workerId attemptId
    have texts := fields_str typed
    exact ⟨texts workerId (by simp), texts attemptId (by simp)⟩
  · exact ⟨rfl, rfl⟩

end Typed

structure Claim.Sendable (claim : Claim) : Prop where
  queueName : claim.queueName.encodable = true
  messageId : claim.messageId.encodable = true
  workerId : claim.workerId.encodable = true
  attemptId : claim.attemptId.encodable = true

section Sending
variable {claim : Claim} (sendable : claim.Sendable)
include sendable

theorem Claim.Sendable.slots :
    textSlot claim.queueName = .ok (.single (.scalar (.str claim.queueName))) ∧
    textSlot claim.messageId = .ok (.single (.scalar (.str claim.messageId))) ∧
    optionalTextSlot (some claim.workerId) = .ok (.single (.scalar (.str claim.workerId))) ∧
    optionalTextSlot (some claim.attemptId) = .ok (.single (.scalar (.str claim.attemptId))) :=
  ⟨if_pos sendable.queueName, if_pos sendable.messageId, if_pos sendable.workerId,
    if_pos sendable.attemptId⟩

theorem sends_prepared (env : ClientEnv) (handler : Bool) {method : Method}
    (sends : claim.Sends env.python.unicode method) : ∃ request,
      NzovuClient.prepare (NzovuClient.procedure env method) handler = .ok request ∧
      ∃ read, readMethod request = some read ∧ read.owner = some claim.owner := by
  obtain ⟨queueSlot, idSlot, workerSlot, attemptSlot⟩ := sendable.slots
  have checked : checkClaim claim.queueName claim.messageId claim.workerId claim.attemptId = .ok () := by
    rw [checkClaim, claim.create_self]
    rfl
  have admitted : ∀ request, (NzovuClient.procedure env method).check = .ok () →
      (NzovuClient.procedure env method).request = .ok request → method.hasBody = false →
      method.owner = some claim.owner → ∃ request,
        NzovuClient.prepare (NzovuClient.procedure env method) handler = .ok request ∧
        ∃ read, readMethod request = some read ∧ read.owner = some claim.owner := by
    intro request passed built readable own
    obtain ⟨read, found, told⟩ := told_request method readable built
    exact ⟨request, NzovuClient.prepare_ok.2 ⟨passed, built⟩, read, found,
      (told_owner told).trans own⟩
  cases sends with
  | acknowledge state known =>
      obtain ⟨slot, known⟩ := known
      apply admitted _ checked _ rfl rfl
      · exact .fields QueueService.acknowledgeMessage.request.fullName
          [.single (.scalar (.str claim.queueName)), .single (.scalar (.str claim.messageId)), slot,
            .single (.scalar (.str claim.workerId)), .single (.scalar (.str claim.attemptId))]
      · show (textSlot claim.queueName >>= _) = _
        rw [queueSlot, ok_bind]
        show (textSlot claim.messageId >>= _) = _
        rw [idSlot, ok_bind]
        show (optionalTextSlot (some claim.workerId) >>= _) = _
        rw [workerSlot, ok_bind]
        show (optionalTextSlot (some claim.attemptId) >>= _) = _
        rw [attemptSlot, ok_bind]
        show construct _ [_, _, enumSlot stateEnum state, _, _] = _
        rw [known]
        rfl
  | renew lease known =>
      obtain ⟨d, known⟩ := known
      have leased : leaseSlot env.python.unicode (some lease) = .ok (durationSlot d) := by
        show (stringToDuration env.python.unicode lease >>= _) = _
        rw [known]
        rfl
      apply admitted _ checked _ rfl rfl
      · exact .fields QueueService.renewMessageLease.request.fullName
          [.single (.scalar (.str claim.queueName)), .single (.scalar (.str claim.messageId)),
            durationSlot d, .single (.scalar (.str claim.workerId)),
            .single (.scalar (.str claim.attemptId))]
      · show (leaseSlot env.python.unicode (some lease) >>= _) = _
        rw [leased, ok_bind]
        show construct _ [textSlot claim.queueName, textSlot claim.messageId, _,
          optionalTextSlot (some claim.workerId), optionalTextSlot (some claim.attemptId)] = _
        rw [queueSlot, idSlot, workerSlot, attemptSlot]
        rfl
  | heartbeat =>
      apply admitted _ checked _ rfl rfl
      · exact .fields QueueService.sendMessageHeartBeat.request.fullName
          [.single (.scalar (.str claim.queueName)), .single (.scalar (.str claim.messageId)),
            .single (.scalar (.str claim.workerId)), .single (.scalar (.str claim.attemptId))]
      · show construct _ [textSlot claim.queueName, textSlot claim.messageId,
          optionalTextSlot (some claim.workerId), optionalTextSlot (some claim.attemptId)] = _
        rw [queueSlot, idSlot, workerSlot, attemptSlot]
        rfl

theorem sends_call (env : ClientEnv) (options : RpcOptions) (answer : Continuation)
    (started : Except Exc Unit) (handler : Bool) {method : Method}
    (sends : claim.Sends env.python.unicode method) :
    ∃ request, (NzovuClient.call env options answer started handler method).1 =
        [(NzovuClient.wireDetails env.kind options (NzovuClient.procedure env method).rpc, request)] ∧
      ∃ read, readMethod request = some read ∧ read.owner = some claim.owner := by
  obtain ⟨request, prepared, tells⟩ := sends_prepared sendable env handler sends
  refine ⟨request, ?_, tells⟩
  simp only [NzovuClient.call, prepared]

theorem heartbeat_tells : ∃ request, claim.heartbeatRequest = .ok request ∧
    ∃ read, readMethod request = some read ∧ read.owner = some claim.owner := by
  obtain ⟨request, prepared, tells⟩ :=
    sends_prepared sendable NzovuClient.sampleEnv false .heartbeat
  exact ⟨request, (NzovuClient.prepare_ok.1 prepared).2, tells⟩

end Sending

theorem Claim.owner_injective {claim other : Claim} (same : other.owner = claim.owner) :
    other = claim := by
  simp only [Claim.owner, Prod.mk.injEq, Option.some.injEq] at same
  obtain ⟨queueName, messageId, workerId, attemptId⟩ := same
  exact Claim.ext queueName messageId workerId attemptId

theorem heartbeatRequest_read {claim : Claim} {request : Message}
    (built : claim.heartbeatRequest = .ok request) :
    (readMethod request).bind Method.owner = some claim.owner := by
  have listed : layouts[8]? = some .sendMessageHeartBeat := rfl
  have read : readMethod request = some (.sendMessageHeartbeat claim.queueName claim.messageId
      (some claim.attemptId) (some claim.workerId)) :=
    readMethod_layout listed
      (claim.queueName, claim.messageId, some claim.workerId, some claim.attemptId, ()) built
  rw [read]
  rfl

theorem heartbeatRequest_injective {claim other : Claim} {request : Message}
    (own : claim.heartbeatRequest = .ok request) (same : other.heartbeatRequest = .ok request) :
    other = claim := by
  apply Claim.owner_injective
  exact Option.some.inj ((heartbeatRequest_read same).symm.trans (heartbeatRequest_read own))

structure Followed (claim : Claim) : Prop where
  beats : ∃ beat, claim.heartbeatRequest = .ok beat ∧
    (∃ read, readMethod beat = some read ∧ read.owner = some claim.owner) ∧
    ∀ other : Claim, other.heartbeatRequest = .ok beat → other = claim
  sends : ∀ env options answer started handler method, claim.Sends env.python.unicode method → ∃ rpc,
    (NzovuClient.call env options answer started handler method).1 = [rpc] ∧
    rpc.1.method = (NzovuClient.procedure env method).rpc.path ∧
    ∃ read, readMethod rpc.2 = some read ∧ read.owner = some claim.owner
  ends : ∀ state outcome, outcome = .response true ∨ outcome.failedWith ownershipLost = true →
    (Operation.acknowledgeMessage (claim.acknowledge state).queueName
      (claim.acknowledge state).messageId (claim.acknowledge state).workerId
      (claim.acknowledge state).attemptId outcome).ended = some claim

theorem followed_sendable {claim : Claim} (sendable : claim.Sendable) : Followed claim where
  beats := by
    obtain ⟨beat, built, tells⟩ := heartbeat_tells sendable
    exact ⟨beat, built, tells, fun other same => heartbeatRequest_injective built same⟩
  sends := by
    intro env options answer started handler method sends
    obtain ⟨request, issued, tells⟩ :=
      sends_call sendable env options answer started handler sends
    exact ⟨_, issued, rfl, tells⟩
  ends := by
    intro state outcome lost
    show (if _ then _ else _) = _
    rw [if_pos lost]
    exact congrArg Except.toOption claim.create_self

section Received
variable {env : ClientEnv} {queueName leaseDuration exclusivityKey : Str} {enableHeartbeat : Bool}
  {workerId attemptId : Option Str}

theorem receive_claim {started : Except Exc Unit} {response : Message} {claim : Claim}
    (received : (NzovuClient.procedure env (.getNextMessage queueName leaseDuration exclusivityKey
      enableHeartbeat workerId attemptId)).receive started response = .ok (some claim)) :
    Claim.fromResponse queueName (.ofMessage response) = .ok (some claim) := by
  obtain ⟨given, made, returned⟩ := bind_eq_ok.1 received
  rw [made]
  split at returned
  · obtain ⟨_, _, returned⟩ := bind_eq_ok.1 returned
    cases returned
    rfl
  · cases returned
    rfl

theorem queueName_encodable {request : Message}
    (built : (NzovuClient.procedure env (.getNextMessage queueName leaseDuration exclusivityKey
      enableHeartbeat workerId attemptId)).request = .ok request) : queueName.encodable = true := by
  obtain ⟨lease, -, built⟩ := bind_eq_ok.1 built
  obtain ⟨request, made, -⟩ := bind_eq_ok.1 built
  obtain ⟨slots, set_, -⟩ := bind_eq_ok.1 made
  obtain ⟨slot, queueSet, -⟩ := setFields_cons.1 set_
  exact textSlot_encodable queueSet

end Received

/-- The claim of a message that `get_next_message` returns is the one of its response, and whatever
is sent for it later can be sent and is about this attempt. -/
theorem NzovuClient.claim_followed (env : ClientEnv) (others : Pool)
    (queueName leaseDuration exclusivityKey : Str) (enableHeartbeat : Bool)
    (workerId attemptId : Option Str) (request : Message)
    (built : (procedure env (.getNextMessage queueName leaseDuration exclusivityKey enableHeartbeat
      workerId attemptId)).request = .ok request)
    (response : Message)
    (typed : response.Typed (QueueService.pool others) QueueService.getNextMessage.response.fullName)
    (started : Except Exc Unit) (claim : Claim)
    (received : (procedure env (.getNextMessage queueName leaseDuration exclusivityKey
      enableHeartbeat workerId attemptId)).receive started response = .ok (some claim)) :
    claim.queueName = queueName ∧
      Response.ofMessage response = ⟨some claim.messageId, claim.workerId, claim.attemptId⟩ ∧
      Followed claim := by
  obtain ⟨queue, id, worker, attempt⟩ := Claim.fromResponse_ok (receive_claim received)
  obtain ⟨workerText, attemptText⟩ := ofMessage_encodable typed
  refine ⟨queue, ?_, followed_sendable ?_⟩
  · rw [worker, attempt, ← id]
  · exact ⟨queue ▸ queueName_encodable built, ofMessage_id typed id, worker ▸ workerText,
      attempt ▸ attemptText⟩

theorem sampleClaimed_typed (others : Pool) :
    NzovuClient.sampleClaimed.Typed (QueueService.pool others)
      QueueService.getNextMessage.response.fullName := by
  have outer := QueueService.pool_entry others
    (show Models.getNextMessageResponse ∈ Models.entries by simp [Models.entries])
  have inner := QueueService.pool_entry others
    (show Models.message ∈ Models.entries by simp [Models.entries])
  have message : Message.Typed (QueueService.pool others) messageName
      (.fields Models.message.fullName [.single (.scalar (.str (text "m-1"))), .absent]) := by
    refine ⟨rfl, by decide +kernel, by decide +kernel, ?_, ?_⟩
    · rw [inner]
      have id : Str.encodable (text "m-1") = true := by decide +kernel
      exact ⟨⟨⟨_, rfl⟩, _, rfl, id⟩, rfl, trivial⟩
    · rw [inner]
      exact oneofsHold_of_none _ rfl
  have worker : Str.encodable (text "w") = true := by decide +kernel
  have attempt : Str.encodable (text "a-1") = true := by decide +kernel
  refine ⟨rfl, by decide +kernel, by decide +kernel, ?_, ?_⟩
  · rw [outer]
    exact ⟨⟨⟨_, rfl⟩, _, rfl, message⟩, ⟨⟨_, rfl⟩, _, rfl, worker⟩, ⟨⟨_, rfl⟩, _, rfl, attempt⟩,
      trivial⟩
  · rw [outer]
    exact oneofsHold_of_none _ rfl

theorem NzovuClient.claim_followed_sample : ∃ claim : Claim,
    claim.queueName = text "orders" ∧
      Response.ofMessage sampleClaimed = ⟨some claim.messageId, claim.workerId, claim.attemptId⟩ ∧
      Followed claim := by
  have accepted : (procedure sampleEnv (.getNextMessage (text "orders") (text "30s") [] true none
      none)).request.toOption.isSome = true := by decide +kernel
  obtain ⟨request, built⟩ := toOption_isSome accepted
  let claim : Claim := ⟨text "orders", text "m-1", text "w", text "a-1", by decide⟩
  exact ⟨claim, claim_followed sampleEnv samplePool (text "orders") (text "30s") [] true none none
    request built sampleClaimed (sampleClaimed_typed samplePool) (.ok ()) claim (by rfl)⟩

end Nzovu
