import Nzovu.Client.Operations
import Nzovu.Client.Pagination
import Nzovu.Ownership
import Nzovu.Service.Typed

/-!
# The methods of the clients

Each method checks some of its arguments, builds a request inside its `try` block and issues one
RPC. The two clients share their texts but for two messages.
-/

namespace Nzovu
open Proto

def Proto.Slot.str : Slot → Str
  | .single (.scalar (.str s)) => s
  | _ => []

/-- What `get_next_message` reads of its response, whose message begins with its id. -/
def Response.ofMessage : Message → Response
  | .fields _ [message, workerId, attemptId] =>
      let messageId : Option Str := match message with
        | .single (.message (.fields _ (messageId :: _))) => some messageId.str
        | .single _ => some []
        | _ => none
      ⟨messageId, workerId.str, attemptId.str⟩
  | _ => ⟨none, [], []⟩

structure Procedure where
  rpc : Rpc
  /-- What is checked before the `try` block. -/
  check : Except Exc Unit := .ok ()
  request : Except Exc Message
  /-- The claim that the wrapper of a response is given. The first argument is what `start` comes
  to. -/
  receive : Except Exc Unit → Message → Except Exc (Option Claim) := fun _ _ => .ok none
  failure : Str
  /-- Whether it catches the errors of its arguments as well. -/
  catches : Bool := false

structure AcknowledgeMessageParams where
  messageId : Str
  state : StateOption
  queueName : Str := text "default_queue"
  workerId : Str := []
  attemptId : Str := []

structure SchemaOptions where
  name : Str
  description : Str
  content : Str
  contentType : Str := text "json-schema"
  metadata : Option (Dict Str Str) := some Dict.empty

/-- The page token is a `str` by its type. -/
def validatePage (pageSize : Int) : Except Exc Unit :=
  validateInteger pageSize (text "page_size") 0 1000

def validateVersion (version : Int) : Except Exc Unit :=
  validateInteger version (text "version") 0 (2 ^ 31 - 1)

def MessagePriorityRange.postInit (range : MessagePriorityRange) : Except Exc Unit := do
  validateInteger range.min (text "priority_range.min") 0 4
  validateInteger range.max (text "priority_range.max") 0 4
  if range.min > range.max then
    .error (valueError (text "priority_range.min cannot exceed max"))

def checkClaim (queueName messageId workerId attemptId : Str) : Except Exc Unit := do
  let _ ← Claim.create queueName messageId workerId attemptId
  return ()

def priorityRangeSlot (range : Option MessagePriorityRange) : Except Exc Slot :=
  match range with
  | none => .ok .absent
  | some range => do
      range.postInit
      return messageSlot (← construct priorityRangeType [int64Slot range.min, int64Slot range.max])

def calendarSlot (pb : Protobuf) (calendar : List (Key × PyVal)) : Except Exc Slot := do
  return messageSlot (← pb.parseDict calendarName (.dict calendar))

namespace NzovuClient

/-! ## Queues and messages -/

section Messages
variable (pb : Protobuf) (python : Interpreter)

def createQueue (name : Str) (options : Option CreateQueueOptions) : Procedure where
  rpc := QueueService.createQueue
  request := createQueueRequest pb python.unicode name options
  failure := text "Failed to create queue due to: "

def deleteQueue (name : Str) : Procedure where
  rpc := QueueService.deleteQueue
  request := construct QueueService.deleteQueue.request [textSlot name]
  failure := text "Failed to delete queue due to: "

def listQueues (namePrefix : Str) (pageSize : Int) (pageToken : Str) : Procedure where
  rpc := QueueService.listQueues
  check := validatePage pageSize
  request := construct QueueService.listQueues.request
    [textSlot namePrefix, int32Slot pageSize, textSlot pageToken]
  failure := text "Failed to list queues due to: "

def postMessage (params : PostMessageParams) : Procedure where
  rpc := QueueService.postMessage
  request := do
    let request ← createPostMessageRequest pb python params
    construct QueueService.postMessage.request
      [.ok request.queueName, .ok (messageSlot request.message)]
  failure := text "Failed to post message due to: "

def postMessagesBulk (queueName : Str) (messages : List PostMessageParams) (mode : ModeOption) :
    Procedure where
  rpc := QueueService.postMessagesBulk
  request := do
    let request ← buildBulkRequest pb python queueName messages mode
    construct QueueService.postMessagesBulk.request
      [.ok request.queueName, .ok (.repeated (request.messages.map .message)),
        enumSlot transactionModeEnum (.name request.transactionMode)]
  failure := text "Failed to post messages in bulk due to: "
  catches := true

/-- `opened` and `reserved` are what `ensure_open` and `reserve` come to. -/
def getNextMessage (opened reserved : Except Exc Unit) (defaultWorker : Str)
    (queueName leaseDuration exclusivityKey : Str) (enableHeartbeat : Bool)
    (workerId attemptId : Option Str) : Procedure where
  rpc := QueueService.getNextMessage
  check := opened
  request := do
    let leaseDuration ← leaseSlot python.unicode (some leaseDuration)
    let request ← construct QueueService.getNextMessage.request
      [textSlot queueName, .ok leaseDuration, textSlot exclusivityKey,
        optionalTextSlot (some (workerId.getD defaultWorker)), optionalTextSlot attemptId]
    if enableHeartbeat then reserved
    return request
  receive started response := do
    let claim ← Claim.fromResponse queueName (.ofMessage response)
    if enableHeartbeat ∧ claim.isSome then started
    return claim
  failure := text "Failed to get next message: "

def acknowledgeMessage (params : AcknowledgeMessageParams) : Procedure where
  rpc := QueueService.acknowledgeMessage
  check := checkClaim params.queueName params.messageId params.workerId params.attemptId
  request := do
    -- The identifiers are set before the state.
    let queueName ← textSlot params.queueName
    let messageId ← textSlot params.messageId
    let workerId ← optionalTextSlot (some params.workerId)
    let attemptId ← optionalTextSlot (some params.attemptId)
    construct QueueService.acknowledgeMessage.request
      [.ok queueName, .ok messageId, enumSlot stateEnum params.state, .ok workerId, .ok attemptId]
  failure := text "Failed to acknowledge message: "

def cancelMessage (queueName messageId reason : Str) : Procedure where
  rpc := QueueService.cancelMessage
  request := construct QueueService.cancelMessage.request
    [textSlot queueName, textSlot messageId, optionalTextSlot (nonEmpty (some reason))]
  failure := text "Failed to cancel message due to: "

def renewMessageLease (queueName messageId newLeaseDuration : Str)
    (workerId attemptId : Option Str) : Procedure where
  rpc := QueueService.renewMessageLease
  check := checkClaim queueName messageId (workerId.getD []) (attemptId.getD [])
  request := do
    let leaseDuration ← leaseSlot python.unicode (some newLeaseDuration)
    construct QueueService.renewMessageLease.request
      [textSlot queueName, textSlot messageId, .ok leaseDuration, optionalTextSlot workerId,
        optionalTextSlot attemptId]
  failure := text "Failed to renew message lease due to: "

def peekQueueMessages (kind : Kind) (params : PeekQueueMessagesParams) : Procedure where
  rpc := QueueService.peekQueueMessages
  check := validatePage params.pageSize
  request := do
    let priorityRange ← priorityRangeSlot params.priorityRange
    construct QueueService.peekQueueMessages.request
      [textSlot params.queueName, int32Slot params.pageSize, .ok priorityRange,
        textSlot params.pageToken]
  failure := match kind with
    | .sync => text "Failed to peek queue due to: "
    | .async => text "Failed to peek queue messages due to: "

def getQueueState (queueName : Str) : Procedure where
  rpc := QueueService.getQueueState
  request := construct QueueService.getQueueState.request [textSlot queueName]
  failure := text "Failed to get queue state due to: "

def sendMessageHeartbeat (kind : Kind) (queueName messageId : Str)
    (attemptId workerId : Option Str) : Procedure where
  rpc := QueueService.sendMessageHeartBeat
  check := checkClaim queueName messageId (workerId.getD []) (attemptId.getD [])
  request := construct QueueService.sendMessageHeartBeat.request
    [textSlot queueName, textSlot messageId, optionalTextSlot workerId, optionalTextSlot attemptId]
  failure := match kind with
    | .sync => text "Failed to send heartbeat due to: "
    | .async => text "Failed to send message heartbeat due to: "

end Messages

/-! ## Schedules -/

section Schedules
variable (pb : Protobuf) (python : Interpreter)

def createSchedule (scheduleId : Str) (options : ScheduleOptions) : Procedure where
  rpc := QueueService.createSchedule
  request := do
    let schedule ← buildScheduleRequest pb python scheduleId options
    construct QueueService.createSchedule.request [.ok (messageSlot schedule)]
  failure := text "Failed to create schedule due to: "

def deleteSchedule (scheduleId : Str) : Procedure where
  rpc := QueueService.deleteSchedule
  request := construct QueueService.deleteSchedule.request [textSlot scheduleId]
  failure := text "Failed to delete schedule due to: "

def getSchedule (scheduleId : Str) : Procedure where
  rpc := QueueService.getSchedule
  request := construct QueueService.getSchedule.request [textSlot scheduleId]
  failure := text "Failed to get schedule due to: "

def listSchedules (namePrefix : Str) (pageSize : Int) (pageToken : Str) : Procedure where
  rpc := QueueService.listSchedules
  check := validatePage pageSize
  request := construct QueueService.listSchedules.request
    [textSlot namePrefix, int32Slot pageSize, textSlot pageToken]
  failure := text "Failed to list schedules due to: "

def getScheduleHistory (scheduleId : Str) (pageSize : Int) (pageToken : Str) : Procedure where
  rpc := QueueService.getScheduleHistory
  check := validatePage pageSize
  request := construct QueueService.getScheduleHistory.request
    [textSlot scheduleId, int32Slot pageSize, textSlot pageToken]
  failure := text "Failed to get schedule history due to: "

def pauseSchedule (scheduleId : Str) : Procedure where
  rpc := QueueService.pauseSchedule
  request := construct QueueService.pauseSchedule.request [textSlot scheduleId]
  failure := text "Failed to pause schedule due to: "

def resumeSchedule (scheduleId : Str) : Procedure where
  rpc := QueueService.resumeSchedule
  request := construct QueueService.resumeSchedule.request [textSlot scheduleId]
  failure := text "Failed to resume schedule due to: "

def validateCalendarSchedule (calendar : List (Key × PyVal)) : Procedure where
  rpc := QueueService.validateCalendarSchedule
  request := do
    let calendar ← calendarSlot pb calendar
    construct QueueService.validateCalendarSchedule.request [.ok calendar]
  failure := text "Failed to validate calendar schedule due to: "

def previewCalendarSchedule (calendar : List (Key × PyVal)) (count : Int) : Procedure where
  rpc := QueueService.previewCalendarSchedule
  check := validateInteger count (text "count") 0 100
  request := do
    let calendar ← calendarSlot pb calendar
    construct QueueService.previewCalendarSchedule.request [.ok calendar, int32Slot count]
  failure := text "Failed to preview calendar schedule due to: "

end Schedules

/-! ## Schemas -/

def registerSchema (schemaId : Str) (options : SchemaOptions) : Procedure where
  rpc := QueueService.registerSchema
  check :=
    if options.contentType ∉ [text "", text "json-schema"] then
      .error (valueError (text "Schema content_type must be json-schema"))
    else .ok ()
  request := construct QueueService.registerSchema.request
    [textSlot schemaId, textSlot options.name, textSlot options.description,
      textSlot options.content, textSlot options.contentType,
      textMapSlot ((options.metadata.map Dict.entries).getD [])]
  failure := text "Failed to register schema due to: "

def getSchema (schemaId : Str) (version : Int) : Procedure where
  rpc := QueueService.getSchema
  check := validateVersion version
  request := construct QueueService.getSchema.request [textSlot schemaId, int32Slot version]
  failure := text "Failed to get schema due to: "

def listSchemas (namePrefix : Str) (pageSize : Int) (activeOnly : Bool) (pageToken : Str) :
    Procedure where
  rpc := QueueService.listSchemas
  check := validatePage pageSize
  request := construct QueueService.listSchemas.request
    [textSlot namePrefix, int32Slot pageSize, boolSlot activeOnly, textSlot pageToken]
  failure := text "Failed to list schemas due to: "

def deleteSchema (schemaId : Str) (version : Int) : Procedure where
  rpc := QueueService.deleteSchema
  check := validateVersion version
  request := construct QueueService.deleteSchema.request [textSlot schemaId, int32Slot version]
  failure := text "Failed to delete schema due to: "

def validatePayload (schemaId payload : Str) (version : Int) : Procedure where
  rpc := QueueService.validatePayload
  check := validateVersion version
  request := construct QueueService.validatePayload.request
    [textSlot schemaId, int32Slot version, textSlot payload]
  failure := text "Failed to validate payload due to: "

/-! ## Dead letters -/

def getDlqMessages (dlqName : Str) (pageSize : Int) (pageToken : Str) : Procedure where
  rpc := QueueService.getDLQMessages
  check := validatePage pageSize
  request := construct QueueService.getDLQMessages.request
    [textSlot dlqName, int32Slot pageSize, textSlot pageToken]
  failure := text "Failed to get DLQ messages due to: "

def requeueFromDlq (dlqName messageId targetQueue : Str) : Procedure where
  rpc := QueueService.requeueFromDLQ
  check := requireName targetQueue (text "target_queue")
  request := construct QueueService.requeueFromDLQ.request
    [textSlot dlqName, textSlot messageId, textSlot targetQueue]
  failure := text "Failed to requeue from DLQ due to: "

def deleteFromDlq (dlqName messageId : Str) : Procedure where
  rpc := QueueService.deleteFromDLQ
  request := construct QueueService.deleteFromDLQ.request [textSlot dlqName, textSlot messageId]
  failure := text "Failed to delete from DLQ due to: "

def purgeDlq (dlqName : Str) : Procedure where
  rpc := QueueService.purgeDLQ
  request := construct QueueService.purgeDLQ.request [textSlot dlqName]
  failure := text "Failed to purge DLQ due to: "

def getDlqStats (dlqName : Str) : Procedure where
  rpc := QueueService.getDLQStats
  request := construct QueueService.getDLQStats.request [textSlot dlqName]
  failure := text "Failed to get DLQ stats due to: "

end NzovuClient

inductive Method
  | createQueue (name : Str) (options : Option CreateQueueOptions)
  | deleteQueue (name : Str)
  | listQueues (namePrefix : Str) (pageSize : Int) (pageToken : Str)
  | postMessage (params : PostMessageParams)
  | postMessagesBulk (queueName : Str) (messages : List PostMessageParams) (mode : ModeOption)
  | getNextMessage (queueName leaseDuration exclusivityKey : Str) (enableHeartbeat : Bool)
      (workerId attemptId : Option Str)
  | acknowledgeMessage (params : AcknowledgeMessageParams)
  | cancelMessage (queueName messageId reason : Str)
  | renewMessageLease (queueName messageId newLeaseDuration : Str) (workerId attemptId : Option Str)
  | peekQueueMessages (params : PeekQueueMessagesParams)
  | getQueueState (queueName : Str)
  | sendMessageHeartbeat (queueName messageId : Str) (attemptId workerId : Option Str)
  | createSchedule (scheduleId : Str) (options : ScheduleOptions)
  | deleteSchedule (scheduleId : Str)
  | getSchedule (scheduleId : Str)
  | listSchedules (namePrefix : Str) (pageSize : Int) (pageToken : Str)
  | getScheduleHistory (scheduleId : Str) (pageSize : Int) (pageToken : Str)
  | pauseSchedule (scheduleId : Str)
  | resumeSchedule (scheduleId : Str)
  | validateCalendarSchedule (calendar : List (Key × PyVal))
  | previewCalendarSchedule (calendar : List (Key × PyVal)) (count : Int)
  | registerSchema (schemaId : Str) (options : SchemaOptions)
  | getSchema (schemaId : Str) (version : Int)
  | listSchemas (namePrefix : Str) (pageSize : Int) (activeOnly : Bool) (pageToken : Str)
  | deleteSchema (schemaId : Str) (version : Int)
  | validatePayload (schemaId payload : Str) (version : Int)
  | getDlqMessages (dlqName : Str) (pageSize : Int) (pageToken : Str)
  | requeueFromDlq (dlqName messageId targetQueue : Str)
  | deleteFromDlq (dlqName messageId : Str)
  | purgeDlq (dlqName : Str)
  | getDlqStats (dlqName : Str)

/-- What the methods of a client depend on: the protobuf package, the interpreter, and what the client
was made with. `opened` and `reserved` are what `ensure_open` and `reserve` come to. -/
structure ClientEnv where
  pb : Protobuf
  python : Interpreter
  kind : Kind
  workerId : Str
  opened : Except Exc Unit
  reserved : Except Exc Unit

namespace NzovuClient

def procedure (env : ClientEnv) : Method → Procedure
  | .createQueue name options => createQueue env.pb env.python name options
  | .deleteQueue name => deleteQueue name
  | .listQueues namePrefix pageSize pageToken => listQueues namePrefix pageSize pageToken
  | .postMessage params => postMessage env.pb env.python params
  | .postMessagesBulk queueName messages mode =>
      postMessagesBulk env.pb env.python queueName messages mode
  | .getNextMessage queueName leaseDuration exclusivityKey enableHeartbeat workerId attemptId =>
      getNextMessage env.python env.opened env.reserved env.workerId queueName leaseDuration
        exclusivityKey enableHeartbeat workerId attemptId
  | .acknowledgeMessage params => acknowledgeMessage params
  | .cancelMessage queueName messageId reason => cancelMessage queueName messageId reason
  | .renewMessageLease queueName messageId newLeaseDuration workerId attemptId =>
      renewMessageLease env.python queueName messageId newLeaseDuration workerId attemptId
  | .peekQueueMessages params => peekQueueMessages env.kind params
  | .getQueueState queueName => getQueueState queueName
  | .sendMessageHeartbeat queueName messageId attemptId workerId =>
      sendMessageHeartbeat env.kind queueName messageId attemptId workerId
  | .createSchedule scheduleId options => createSchedule env.pb env.python scheduleId options
  | .deleteSchedule scheduleId => deleteSchedule scheduleId
  | .getSchedule scheduleId => getSchedule scheduleId
  | .listSchedules namePrefix pageSize pageToken => listSchedules namePrefix pageSize pageToken
  | .getScheduleHistory scheduleId pageSize pageToken =>
      getScheduleHistory scheduleId pageSize pageToken
  | .pauseSchedule scheduleId => pauseSchedule scheduleId
  | .resumeSchedule scheduleId => resumeSchedule scheduleId
  | .validateCalendarSchedule calendar => validateCalendarSchedule env.pb calendar
  | .previewCalendarSchedule calendar count => previewCalendarSchedule env.pb calendar count
  | .registerSchema schemaId options => registerSchema schemaId options
  | .getSchema schemaId version => getSchema schemaId version
  | .listSchemas namePrefix pageSize activeOnly pageToken =>
      listSchemas namePrefix pageSize activeOnly pageToken
  | .deleteSchema schemaId version => deleteSchema schemaId version
  | .validatePayload schemaId payload version => validatePayload schemaId payload version
  | .getDlqMessages dlqName pageSize pageToken => getDlqMessages dlqName pageSize pageToken
  | .requeueFromDlq dlqName messageId targetQueue => requeueFromDlq dlqName messageId targetQueue
  | .deleteFromDlq dlqName messageId => deleteFromDlq dlqName messageId
  | .purgeDlq dlqName => purgeDlq dlqName
  | .getDlqStats dlqName => getDlqStats dlqName

theorem rpc_listed (env : ClientEnv) (method : Method) :
    (procedure env method).rpc ∈ QueueService.rpcs := by
  cases method <;>
    simp [QueueService.rpcs, procedure, createQueue, deleteQueue, listQueues, postMessage,
      postMessagesBulk, getNextMessage, acknowledgeMessage, cancelMessage, renewMessageLease,
      peekQueueMessages, getQueueState, sendMessageHeartbeat, createSchedule, deleteSchedule,
      getSchedule, listSchedules, getScheduleHistory, pauseSchedule, resumeSchedule,
      validateCalendarSchedule, previewCalendarSchedule, registerSchema, getSchema, listSchemas,
      deleteSchema, validatePayload, getDlqMessages, requeueFromDlq, deleteFromDlq, purgeDlq,
      getDlqStats]

theorem request_listed (env : ClientEnv) (method : Method) :
    (procedure env method).rpc.request ∈ QueueService.requestTypes :=
  List.mem_append_left _ (List.mem_map_of_mem (rpc_listed env method))

theorem reserved_returns {reserved : Except Exc Unit} {request m : Message} (enableHeartbeat : Bool)
    (built : (do
      if enableHeartbeat then reserved
      return request) = .ok m) : request = m := by
  cases enableHeartbeat with
  | false =>
      cases built
      rfl
  | true =>
      obtain ⟨_, _, returned⟩ := bind_eq_ok.1 built
      cases returned
      rfl

section Typed
variable {others : Pool}

theorem priorityRangeSlot_sets (range : Option MessagePriorityRange) :
    Sets (QueueService.pool others) (priorityRangeSlot range)
      (optional "priority_range" (.message priorityRangeType.fullName)) := by
  cases range with
  | none => exact sets_ok rfl
  | some range =>
      intro slot built
      obtain ⟨-, -, built⟩ := bind_eq_ok.1 built
      obtain ⟨m, made, same⟩ := bind_eq_ok.1 built
      cases same
      have listed : priorityRangeType ∈ QueueService.requestTypes := by
        simp [QueueService.requestTypes]
      refine ⟨⟨_, rfl⟩, _, rfl, QueueService.construct_request listed made ?_⟩
      exact ⟨int64Slot_sets "min" _, int64Slot_sets "max" _, trivial⟩

variable {env : ClientEnv} (typed : env.pb.WellTyped (QueueService.pool others))
include typed

theorem calendarSlot_sets (calendar : List (Key × PyVal)) :
    Sets (QueueService.pool others) (calendarSlot env.pb calendar)
      (optional "calendar_schedule" (.message calendarName)) := by
  intro slot built
  obtain ⟨m, parsed, same⟩ := bind_eq_ok.1 built
  cases same
  exact ⟨⟨_, rfl⟩, _, rfl, typed.parseDict _ _ _ parsed⟩

theorem request_typed (method : Method) {m : Message}
    (built : (procedure env method).request = .ok m) :
    m.Typed (QueueService.pool others) (procedure env method).rpc.request.fullName := by
  have listed := request_listed env method
  cases method with
  | createQueue name options =>
      obtain ⟨metadata, metadataBuilt, built⟩ := bind_eq_ok.1 built
      apply QueueService.construct_request listed built
      exact ⟨textSlot_sets "name" _,
        sets_ok (metadataSlot_sets typed env.python.unicode options metadata metadataBuilt), trivial⟩
  | deleteQueue name =>
      apply QueueService.construct_request listed built
      exact ⟨textSlot_sets "name" _, trivial⟩
  | listQueues namePrefix pageSize pageToken =>
      apply QueueService.construct_request listed built
      exact ⟨textSlot_sets "prefix" _, int32Slot_sets "page_size" _, textSlot_sets "page_token" _,
        trivial⟩
  | postMessage params =>
      obtain ⟨request, made, built⟩ := bind_eq_ok.1 built
      obtain ⟨name, message⟩ := createPostMessageRequest_typed typed made
      apply QueueService.construct_request listed built
      exact ⟨sets_ok name, messageSlot_sets "message" message, trivial⟩
  | postMessagesBulk queueName messages mode =>
      obtain ⟨request, made, built⟩ := bind_eq_ok.1 built
      obtain ⟨name, contents⟩ := buildBulkRequest_typed typed made
      apply QueueService.construct_request listed built
      exact ⟨sets_ok name, sets_ok ⟨rfl, contents⟩, enumSlot_sets "transaction_mode" (by decide) _,
        trivial⟩
  | getNextMessage queueName leaseDuration exclusivityKey enableHeartbeat workerId attemptId =>
      obtain ⟨lease, leaseBuilt, built⟩ := bind_eq_ok.1 built
      obtain ⟨request, made, built⟩ := bind_eq_ok.1 built
      obtain rfl := reserved_returns enableHeartbeat built
      apply QueueService.construct_request listed made
      exact ⟨textSlot_sets "queue_name" _, sets_ok (leaseSlot_sets "lease_duration" _ _ leaseBuilt),
        textSlot_sets "exclusivity_key" _, optionalTextSlot_sets "worker_id" _,
        optionalTextSlot_sets "attempt_id" _, trivial⟩
  | acknowledgeMessage params =>
      obtain ⟨queueName, queueBuilt, built⟩ := bind_eq_ok.1 built
      obtain ⟨messageId, messageBuilt, built⟩ := bind_eq_ok.1 built
      obtain ⟨workerId, workerBuilt, built⟩ := bind_eq_ok.1 built
      obtain ⟨attemptId, attemptBuilt, built⟩ := bind_eq_ok.1 built
      apply QueueService.construct_request listed built
      exact ⟨sets_ok (textSlot_sets "queue_name" _ _ queueBuilt),
        sets_ok (textSlot_sets "message_id" _ _ messageBuilt), enumSlot_sets "state" (by decide) _,
        sets_ok (optionalTextSlot_sets "worker_id" _ _ workerBuilt),
        sets_ok (optionalTextSlot_sets "attempt_id" _ _ attemptBuilt), trivial⟩
  | cancelMessage queueName messageId reason =>
      apply QueueService.construct_request listed built
      exact ⟨textSlot_sets "queue_name" _, textSlot_sets "message_id" _,
        optionalTextSlot_sets "reason" _, trivial⟩
  | renewMessageLease queueName messageId newLeaseDuration workerId attemptId =>
      obtain ⟨lease, leaseBuilt, built⟩ := bind_eq_ok.1 built
      apply QueueService.construct_request listed built
      exact ⟨textSlot_sets "queue_name" _, textSlot_sets "message_id" _,
        sets_ok (leaseSlot_sets "lease_duration" _ _ leaseBuilt),
        optionalTextSlot_sets "worker_id" _, optionalTextSlot_sets "attempt_id" _, trivial⟩
  | peekQueueMessages params =>
      obtain ⟨range, rangeBuilt, built⟩ := bind_eq_ok.1 built
      apply QueueService.construct_request listed built
      exact ⟨textSlot_sets "queue_name" _, int32Slot_sets "page_size" _,
        sets_ok (priorityRangeSlot_sets _ _ rangeBuilt), textSlot_sets "page_token" _, trivial⟩
  | getQueueState queueName =>
      apply QueueService.construct_request listed built
      exact ⟨textSlot_sets "queue_name" _, trivial⟩
  | sendMessageHeartbeat queueName messageId attemptId workerId =>
      apply QueueService.construct_request listed built
      exact ⟨textSlot_sets "queue_name" _, textSlot_sets "message_id" _,
        optionalTextSlot_sets "worker_id" _, optionalTextSlot_sets "attempt_id" _, trivial⟩
  | createSchedule scheduleId options =>
      obtain ⟨schedule, made, built⟩ := bind_eq_ok.1 built
      apply QueueService.construct_request listed built
      exact ⟨messageSlot_sets "schedule" (buildScheduleRequest_typed typed made), trivial⟩
  | deleteSchedule scheduleId =>
      apply QueueService.construct_request listed built
      exact ⟨textSlot_sets "schedule_id" _, trivial⟩
  | getSchedule scheduleId =>
      apply QueueService.construct_request listed built
      exact ⟨textSlot_sets "schedule_id" _, trivial⟩
  | listSchedules namePrefix pageSize pageToken =>
      apply QueueService.construct_request listed built
      exact ⟨textSlot_sets "prefix" _, int32Slot_sets "page_size" _, textSlot_sets "page_token" _,
        trivial⟩
  | getScheduleHistory scheduleId pageSize pageToken =>
      apply QueueService.construct_request listed built
      exact ⟨textSlot_sets "schedule_id" _, int32Slot_sets "page_size" _,
        textSlot_sets "page_token" _, trivial⟩
  | pauseSchedule scheduleId =>
      apply QueueService.construct_request listed built
      exact ⟨textSlot_sets "schedule_id" _, trivial⟩
  | resumeSchedule scheduleId =>
      apply QueueService.construct_request listed built
      exact ⟨textSlot_sets "schedule_id" _, trivial⟩
  | validateCalendarSchedule calendar =>
      obtain ⟨slot, parsed, built⟩ := bind_eq_ok.1 built
      apply QueueService.construct_request listed built
      exact ⟨sets_ok (calendarSlot_sets typed calendar slot parsed), trivial⟩
  | previewCalendarSchedule calendar count =>
      obtain ⟨slot, parsed, built⟩ := bind_eq_ok.1 built
      apply QueueService.construct_request listed built
      exact ⟨sets_ok (calendarSlot_sets typed calendar slot parsed), int32Slot_sets "count" _,
        trivial⟩
  | registerSchema schemaId options =>
      have distinct : (((options.metadata.map Dict.entries).getD []).map Prod.fst).Nodup := by
        cases options.metadata with
        | none => exact List.nodup_nil
        | some metadata => exact metadata.nodup
      apply QueueService.construct_request listed built
      exact ⟨textSlot_sets "schema_id" _, textSlot_sets "name" _, textSlot_sets "description" _,
        textSlot_sets "content" _, textSlot_sets "content_type" _,
        textMapSlot_sets "metadata" distinct, trivial⟩
  | getSchema schemaId version =>
      apply QueueService.construct_request listed built
      exact ⟨textSlot_sets "schema_id" _, int32Slot_sets "version" _, trivial⟩
  | listSchemas namePrefix pageSize activeOnly pageToken =>
      apply QueueService.construct_request listed built
      exact ⟨textSlot_sets "prefix" _, int32Slot_sets "page_size" _, boolSlot_sets "active_only" _,
        textSlot_sets "page_token" _, trivial⟩
  | deleteSchema schemaId version =>
      apply QueueService.construct_request listed built
      exact ⟨textSlot_sets "schema_id" _, int32Slot_sets "version" _, trivial⟩
  | validatePayload schemaId payload version =>
      apply QueueService.construct_request listed built
      exact ⟨textSlot_sets "schema_id" _, int32Slot_sets "version" _, textSlot_sets "payload" _,
        trivial⟩
  | getDlqMessages dlqName pageSize pageToken =>
      apply QueueService.construct_request listed built
      exact ⟨textSlot_sets "dlq_name" _, int32Slot_sets "page_size" _, textSlot_sets "page_token" _,
        trivial⟩
  | requeueFromDlq dlqName messageId targetQueue =>
      apply QueueService.construct_request listed built
      exact ⟨textSlot_sets "dlq_name" _, textSlot_sets "message_id" _,
        textSlot_sets "target_queue" _, trivial⟩
  | deleteFromDlq dlqName messageId =>
      apply QueueService.construct_request listed built
      exact ⟨textSlot_sets "dlq_name" _, textSlot_sets "message_id" _, trivial⟩
  | purgeDlq dlqName =>
      apply QueueService.construct_request listed built
      exact ⟨textSlot_sets "dlq_name" _, trivial⟩
  | getDlqStats dlqName =>
      apply QueueService.construct_request listed built
      exact ⟨textSlot_sets "dlq_name" _, trivial⟩

end Typed

def sampleEnv : ClientEnv := ⟨plainProtobuf, ⟨100, 100, unicode15⟩, .sync, text "w", .ok (), .ok ()⟩

def sampleClaimed : Message :=
  .fields Models.getNextMessageResponse.fullName
    [.single (.message (.fields Models.message.fullName
        [.single (.scalar (.str (text "m-1"))), .absent])),
      .single (.scalar (.str (text "w"))), .single (.scalar (.str (text "a-1")))]

end NzovuClient

end Nzovu
