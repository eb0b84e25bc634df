import Nzovu.Request.Queue
import Nzovu.Response.ToModel

/-!
# The queue service

The RPCs of the service, each with the types of its request and of its response.
-/

namespace Nzovu
open Proto Models

structure Rpc where
  name : Str
  request : MessageType
  response : Entry

/-- The method path on the wire. -/
def Rpc.path (rpc : Rpc) : Str := text "/nzovu.api.queueservice.v1.QueueService/" ++ rpc.name

def transactionModeEnum : EnumDescriptor where
  values := [(text "ALL_OR_NOTHING", 0), (text "BEST_EFFORT", 1)]
  names := by decide

def priorityRangeType : MessageType where
  fullName := service "PeekQueueMessagesRequest.PriorityRange"
  descriptor := messageType [plain "min" (.scalar .int64), plain "max" (.scalar .int64)]
    (by decide +kernel)

namespace QueueService

def requestType (rpc : String) (descriptor : MessageDescriptor) : MessageType :=
  ⟨service rpc ++ text "Request", descriptor⟩

def createQueue : Rpc := ⟨text "CreateQueue", createQueueRequestType, createQueueResponse⟩

def deleteQueue : Rpc where
  name := text "DeleteQueue"
  request := requestType "DeleteQueue" (messageType
    [plain "name" (.scalar .string)] (by decide +kernel))
  response := deleteQueueResponse

def listQueues : Rpc where
  name := text "ListQueues"
  request := requestType "ListQueues" (messageType
    [plain "prefix" (.scalar .string), plain "page_size" (.scalar .int32),
     plain "page_token" (.scalar .string)] (by decide +kernel))
  response := listQueuesResponse

def getQueueState : Rpc where
  name := text "GetQueueState"
  request := requestType "GetQueueState" (messageType
    [plain "queue_name" (.scalar .string)] (by decide +kernel))
  response := getQueueStateResponse

def postMessage : Rpc where
  name := text "PostMessage"
  request := requestType "PostMessage" (messageType
    [plain "queue_name" (.scalar .string), optional "message" (.message messageName)]
    (by decide +kernel))
  response := postMessageResponse

def postMessagesBulk : Rpc where
  name := text "PostMessagesBulk"
  request := requestType "PostMessagesBulk" (messageType
    [plain "queue_name" (.scalar .string), repeated "messages" (.message messageName),
     plain "transaction_mode" (.enum transactionModeEnum)] (by decide +kernel))
  response := postMessagesBulkResponse

def getNextMessage : Rpc where
  name := text "GetNextMessage"
  request := requestType "GetNextMessage" (messageType
    [plain "queue_name" (.scalar .string), optional "lease_duration" (.message durationName),
     plain "exclusivity_key" (.scalar .string), optional "worker_id" (.scalar .string),
     optional "attempt_id" (.scalar .string)] (by decide +kernel))
  response := getNextMessageResponse

def acknowledgeMessage : Rpc where
  name := text "AcknowledgeMessage"
  request := requestType "AcknowledgeMessage" (messageType
    [plain "queue_name" (.scalar .string), plain "message_id" (.scalar .string),
     plain "state" (.enum stateEnum), optional "worker_id" (.scalar .string),
     optional "attempt_id" (.scalar .string)] (by decide +kernel))
  response := acknowledgeMessageResponse

def cancelMessage : Rpc where
  name := text "CancelMessage"
  request := requestType "CancelMessage" (messageType
    [plain "queue_name" (.scalar .string), plain "message_id" (.scalar .string),
     optional "reason" (.scalar .string)] (by decide +kernel))
  response := cancelMessageResponse

def renewMessageLease : Rpc where
  name := text "RenewMessageLease"
  request := requestType "RenewMessageLease" (messageType
    [plain "queue_name" (.scalar .string), plain "message_id" (.scalar .string),
     optional "lease_duration" (.message durationName), optional "worker_id" (.scalar .string),
     optional "attempt_id" (.scalar .string)] (by decide +kernel))
  response := renewMessageLeaseResponse

def peekQueueMessages : Rpc where
  name := text "PeekQueueMessages"
  request := requestType "PeekQueueMessages" (messageType
    [plain "queue_name" (.scalar .string), plain "page_size" (.scalar .int32),
     optional "priority_range" (.message priorityRangeType.fullName),
     plain "page_token" (.scalar .string)] (by decide +kernel))
  response := peekQueueMessagesResponse

def sendMessageHeartBeat : Rpc where
  name := text "SendMessageHeartBeat"
  request := requestType "SendMessageHeartBeat" (messageType
    [plain "queue_name" (.scalar .string), plain "message_id" (.scalar .string),
     optional "worker_id" (.scalar .string), optional "attempt_id" (.scalar .string)]
    (by decide +kernel))
  response := sendMessageHeartBeatResponse

theorem schedule_valid :
    ([optional "schedule" (.message scheduleName)].map FieldDescriptor.name).Nodup ∧
      [optional "schedule" (.message scheduleName)].all wellFormed = true := by
  decide +kernel

def createSchedule : Rpc where
  name := text "CreateSchedule"
  request := requestType "CreateSchedule" (messageType
    [optional "schedule" (.message scheduleName)] schedule_valid)
  response := createScheduleResponse

def deleteSchedule : Rpc where
  name := text "DeleteSchedule"
  request := requestType "DeleteSchedule" (messageType
    [plain "schedule_id" (.scalar .string)] (by decide +kernel))
  response := deleteScheduleResponse

def getSchedule : Rpc where
  name := text "GetSchedule"
  request := requestType "GetSchedule" (messageType
    [plain "schedule_id" (.scalar .string)] (by decide +kernel))
  response := getScheduleResponse

def listSchedules : Rpc where
  name := text "ListSchedules"
  request := requestType "ListSchedules" (messageType
    [plain "prefix" (.scalar .string), plain "page_size" (.scalar .int32),
     plain "page_token" (.scalar .string)] (by decide +kernel))
  response := listSchedulesResponse

def getScheduleHistory : Rpc where
  name := text "GetScheduleHistory"
  request := requestType "GetScheduleHistory" (messageType
    [plain "schedule_id" (.scalar .string), plain "page_size" (.scalar .int32),
     plain "page_token" (.scalar .string)] (by decide +kernel))
  response := getScheduleHistoryResponse

def pauseSchedule : Rpc where
  name := text "PauseSchedule"
  request := requestType "PauseSchedule" (messageType
    [plain "schedule_id" (.scalar .string)] (by decide +kernel))
  response := pauseScheduleResponse

def resumeSchedule : Rpc where
  name := text "ResumeSchedule"
  request := requestType "ResumeSchedule" (messageType
    [plain "schedule_id" (.scalar .string)] (by decide +kernel))
  response := resumeScheduleResponse

def getDLQMessages : Rpc where
  name := text "GetDLQMessages"
  request := requestType "GetDLQMessages" (messageType
    [plain "dlq_name" (.scalar .string), plain "page_size" (.scalar .int32),
     plain "page_token" (.scalar .string)] (by decide +kernel))
  response := getDLQMessagesResponse

def requeueFromDLQ : Rpc where
  name := text "RequeueFromDLQ"
  request := requestType "RequeueFromDLQ" (messageType
    [plain "dlq_name" (.scalar .string), plain "message_id" (.scalar .string),
     plain "target_queue" (.scalar .string)] (by decide +kernel))
  response := requeueFromDLQResponse

def deleteFromDLQ : Rpc where
  name := text "DeleteFromDLQ"
  request := requestType "DeleteFromDLQ" (messageType
    [plain "dlq_name" (.scalar .string), plain "message_id" (.scalar .string)] (by decide +kernel))
  response := deleteFromDLQResponse

def purgeDLQ : Rpc where
  name := text "PurgeDLQ"
  request := requestType "PurgeDLQ" (messageType
    [plain "dlq_name" (.scalar .string)] (by decide +kernel))
  response := purgeDLQResponse

def getDLQStats : Rpc where
  name := text "GetDLQStats"
  request := requestType "GetDLQStats" (messageType
    [plain "dlq_name" (.scalar .string)] (by decide +kernel))
  response := getDLQStatsResponse

def validateCalendarSchedule : Rpc where
  name := text "ValidateCalendarSchedule"
  request := requestType "ValidateCalendarSchedule" (messageType
    [optional "calendar_schedule" (.message calendarName)] (by decide +kernel))
  response := validateCalendarScheduleResponse

def previewCalendarSchedule : Rpc where
  name := text "PreviewCalendarSchedule"
  request := requestType "PreviewCalendarSchedule" (messageType
    [optional "calendar_schedule" (.message calendarName), plain "count" (.scalar .int32)]
    (by decide +kernel))
  response := previewCalendarScheduleResponse

def registerSchema : Rpc where
  name := text "RegisterSchema"
  request := requestType "RegisterSchema" (messageType
    [plain "schema_id" (.scalar .string), plain "name" (.scalar .string),
     plain "description" (.scalar .string), plain "content" (.scalar .string),
     plain "content_type" (.scalar .string), ⟨text "metadata", .map .string, .scalar .string, none⟩]
    (by decide +kernel))
  response := registerSchemaResponse

def getSchema : Rpc where
  name := text "GetSchema"
  request := requestType "GetSchema" (messageType
    [plain "schema_id" (.scalar .string), plain "version" (.scalar .int32)] (by decide +kernel))
  response := getSchemaResponse

def listSchemas : Rpc where
  name := text "ListSchemas"
  request := requestType "ListSchemas" (messageType
    [plain "prefix" (.scalar .string), plain "page_size" (.scalar .int32),
     plain "active_only" (.scalar .bool), plain "page_token" (.scalar .string)] (by decide +kernel))
  response := listSchemasResponse

def deleteSchema : Rpc where
  name := text "DeleteSchema"
  request := requestType "DeleteSchema" (messageType
    [plain "schema_id" (.scalar .string), plain "version" (.scalar .int32)] (by decide +kernel))
  response := deleteSchemaResponse

def validatePayload : Rpc where
  name := text "ValidatePayload"
  request := requestType "ValidatePayload" (messageType
    [plain "schema_id" (.scalar .string), plain "version" (.scalar .int32),
     plain "payload" (.scalar .string)] (by decide +kernel))
  response := validatePayloadResponse

def rpcs : List Rpc :=
  [createQueue, deleteQueue, listQueues, getQueueState, postMessage, postMessagesBulk,
    getNextMessage, acknowledgeMessage, cancelMessage, renewMessageLease, peekQueueMessages,
    sendMessageHeartBeat, createSchedule, deleteSchedule, getSchedule, listSchedules,
    getScheduleHistory, pauseSchedule, resumeSchedule, getDLQMessages, requeueFromDLQ,
    deleteFromDLQ, purgeDLQ, getDLQStats, validateCalendarSchedule, previewCalendarSchedule,
    registerSchema, getSchema, listSchemas, deleteSchema, validatePayload]

def requestTypes : List MessageType :=
  rpcs.map Rpc.request ++ [queueMetadataType, retentionPolicyType, priorityRangeType]

def requests (others : Pool) (fullName : Str) : MessageDescriptor :=
  ((requestTypes.find? fun type => type.fullName = fullName).map MessageType.descriptor).getD
    (others fullName)

def pool (others : Pool) : Pool := Models.pool (requests others)

theorem responses_listed : ∀ rpc ∈ rpcs, rpc.response ∈ modelMap := by
  simp [rpcs, modelMap, createQueue, deleteQueue, listQueues, getQueueState, postMessage,
    postMessagesBulk, getNextMessage, acknowledgeMessage, cancelMessage, renewMessageLease,
    peekQueueMessages, sendMessageHeartBeat, createSchedule, deleteSchedule, getSchedule,
    listSchedules, getScheduleHistory, pauseSchedule, resumeSchedule, getDLQMessages,
    requeueFromDLQ, deleteFromDLQ, purgeDLQ, getDLQStats, validateCalendarSchedule,
    previewCalendarSchedule, registerSchema, getSchema, listSchemas, deleteSchema, validatePayload]

theorem requestNames_distinct : (requestTypes.map MessageType.fullName).Nodup := by decide +kernel

theorem requestTypes_ordinary : requestTypes.all (fun type =>
    entries.all (fun entry => !decide (entry.fullName = type.fullName)) &&
      decide (type.fullName ∉ timeNames ∧ type.fullName ∉ jsonNames) &&
      type.descriptor.fields.all fun field => field.oneof.isNone) = true := by
  decide +kernel

section Lookup
variable (others : Pool)

theorem pool_entry {entry : Entry} (listed : entry ∈ entries) :
    pool others entry.fullName = entry.descriptor :=
  pool_listed listed (requests others)

theorem pool_request {type : MessageType} (listed : type ∈ requestTypes) :
    pool others type.fullName = type.descriptor := by
  have ordinary := List.all_eq_true.1 requestTypes_ordinary type listed
  rw [Bool.and_eq_true, Bool.and_eq_true, List.all_eq_true] at ordinary
  have absent : (entries.find? fun entry => entry.fullName = type.fullName) = none := by
    apply List.find?_eq_none.2
    intro entry member
    simpa using ordinary.1.1 entry member
  rw [pool, Models.pool, absent, Option.map_none, Option.getD_none, requests,
    find_key requestNames_distinct listed]
  rfl

variable {others}

theorem fields_request {type : MessageType} (listed : type ∈ requestTypes) {slots : List Slot}
    (typed : slotsTyped (pool others) type.descriptor.fields slots) :
    Message.Typed (pool others) type.fullName (.fields type.fullName slots) := by
  have ordinary := List.all_eq_true.1 requestTypes_ordinary type listed
  rw [Bool.and_eq_true, Bool.and_eq_true, decide_eq_true_eq] at ordinary
  exact fields_typed (congrArg MessageDescriptor.fields (pool_request others listed)) ordinary.1.2
    ordinary.2 typed

theorem construct_request {type : MessageType} (listed : type ∈ requestTypes)
    {values : List (Except Exc Slot)} {m : Message} (built : construct type values = .ok m)
    (sets : SetsAll (pool others) values type.descriptor.fields) :
    m.Typed (pool others) type.fullName := by
  obtain ⟨slots, set_, same⟩ := bind_eq_ok.1 built
  cases same
  exact fields_request listed (setFields_typed sets set_)

end Lookup

end QueueService

end Nzovu
