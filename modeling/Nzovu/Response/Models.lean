import Nzovu.Request.Construct
import Nzovu.Response.Fitting

/-!
# Responses and their models

The message types that responses consist of, with the classes of `models` for them, in the order in
which `_MODEL_MAP` comes to them. Types that a class takes as a dictionary, whatever is in it, are
left to the pool.
-/

namespace Nzovu.Models
open Proto

structure Entry where
  fullName : Str
  descriptor : MessageDescriptor
  className : Str
  model : ModelClass

def service (name : String) : Str := text "nzovu.api.queueservice.v1." ++ text name

def wellFormed (field : FieldDescriptor) : Bool :=
  (field.oneof.isNone || field.hasPresence) && match field.type, field.label with
    | .message _, .singular false => false
    | _, _ => true

theorem formed_of_all {fields : List FieldDescriptor} (all : fields.all wellFormed = true) :
    ∀ field ∈ fields, field.WellFormed := by
  intro field member
  have formed := List.all_eq_true.1 all field member
  rw [wellFormed, Bool.and_eq_true] at formed
  refine ⟨?_, ?_⟩
  · intro given
    cases oneof : field.oneof with
    | none => exact (given oneof).elim
    | some name => simpa [oneof] using formed.1
  · intro fullName type label
    simp [type, label] at formed

def messageType (fields : List FieldDescriptor)
    (valid : (fields.map FieldDescriptor.name).Nodup ∧ fields.all wellFormed = true) :
    MessageDescriptor :=
  ⟨fields, valid.1, formed_of_all valid.2⟩

def repeated (name : String) (type : FieldType) : FieldDescriptor :=
  ⟨text name, .repeated, type, none⟩

def modelClass (fields : List ModelField) (names : (fields.map ModelField.name).Nodup) :
    ModelClass :=
  ⟨fields, names⟩

def required (name : String) (a : Annotation) : ModelField := ⟨text name, a, none⟩

def defaulted (name : String) (a : Annotation) (default : PyVal) : ModelField :=
  ⟨text name, a, some (.value default)⟩

/-- `Optional[…]`, by default `None`. -/
def absentable (name : String) (a : Annotation) : ModelField :=
  ⟨text name, .optional a, some (.value .none)⟩

def listed (name : String) (a : Annotation) : ModelField := ⟨text name, .list a, some (.list [])⟩

def mapped (name : String) (a : Annotation) : ModelField := ⟨text name, .dict a, some (.dict [])⟩

/-! ## The tables -/

def scheduleStateEnum : EnumDescriptor where
  values :=
    [(text "SCHEDULED", 0), (text "CANCELED", 1), (text "ERRORED", 2), (text "PAUSED", 3)]
  names := by decide

def errorCodeEnum : EnumDescriptor where
  values :=
    [(text "SUCCESS", 0), (text "VALIDATION_FAILED", 1), (text "DUPLICATE_MESSAGE_ID", 2),
      (text "SCHEMA_MISMATCH", 3), (text "INTERNAL_ERROR", 4), (text "QUEUE_NOT_FOUND", 5)]
  names := by decide

def createQueueResponse : Entry where
  fullName := service "CreateQueueResponse"
  descriptor := messageType [plain "success" (.scalar .bool)] (by decide +kernel)
  className := text "CreateQueueResponse"
  model := modelClass [required "success" .bool] (by decide +kernel)

def deleteQueueResponse : Entry where
  fullName := service "DeleteQueueResponse"
  descriptor := messageType [plain "success" (.scalar .bool)] (by decide +kernel)
  className := text "DeleteQueueResponse"
  model := modelClass [required "success" .bool] (by decide +kernel)

def queue : Entry where
  fullName := text "nzovu.api.queue.v1.Queue"
  descriptor := messageType
    [plain "name" (.scalar .string),
      optional "metadata" (.message (text "nzovu.api.queue.v1.QueueMetadata"))] (by decide +kernel)
  className := text "Queue"
  model := modelClass [required "name" .str, absentable "metadata" (.dict .any)] (by decide +kernel)

def listQueuesResponse : Entry where
  fullName := service "ListQueuesResponse"
  descriptor := messageType
    [repeated "queues" (.message (text "nzovu.api.queue.v1.Queue")),
      plain "next_page_token" (.scalar .string)] (by decide +kernel)
  className := text "ListQueuesResponse"
  model := modelClass
    [listed "queues" (.model (text "Queue")), defaulted "next_page_token" .str (.str [])]
    (by decide +kernel)

def postMessageResponse : Entry where
  fullName := service "PostMessageResponse"
  descriptor := messageType [plain "success" (.scalar .bool)] (by decide +kernel)
  className := text "PostMessageResponse"
  model := modelClass [required "success" .bool] (by decide +kernel)

def messagePostResult : Entry where
  fullName := service "PostMessagesBulkResponse.MessagePostResult"
  descriptor := messageType
    [plain "message_id" (.scalar .string), plain "success" (.scalar .bool),
      plain "error" (.scalar .string), plain "error_code" (.enum errorCodeEnum)] (by decide +kernel)
  className := text "MessagePostResult"
  model := modelClass
    [defaulted "message_id" .str (.str []), defaulted "success" .bool (.bool false),
      defaulted "error" .str (.str []), defaulted "error_code" .strOrInt (.str (text "SUCCESS"))]
    (by decide +kernel)

def postMessagesBulkResponse : Entry where
  fullName := service "PostMessagesBulkResponse"
  descriptor := messageType
    [plain "success" (.scalar .bool), plain "successful_count" (.scalar .int32),
      plain "failed_count" (.scalar .int32),
      repeated "results" (.message (service "PostMessagesBulkResponse.MessagePostResult"))]
    (by decide +kernel)
  className := text "PostMessagesBulkResponse"
  model := modelClass
    [defaulted "success" .bool (.bool false), defaulted "successful_count" .int (.int 0),
      defaulted "failed_count" .int (.int 0),
      listed "results" (.model (text "MessagePostResult"))] (by decide +kernel)

def cancelMessageResponse : Entry where
  fullName := service "CancelMessageResponse"
  descriptor := messageType [plain "success" (.scalar .bool)] (by decide +kernel)
  className := text "CancelMessageResponse"
  model := modelClass [defaulted "success" .bool (.bool false)] (by decide +kernel)

def messagePayload : Entry where
  fullName := payloadName
  descriptor := payloadDescriptor
  className := text "MessagePayload"
  model := modelClass
    [absentable "data" (.dict .any), mapped "metadata" .any,
      defaulted "content_type" .str (.str []), defaulted "schema_id" .str (.str []),
      defaulted "schema_version" .int (.int 0)] (by decide +kernel)

def leasePolicy : Entry where
  fullName := leasePolicyName
  descriptor := leasePolicyDescriptor
  className := text "LeasePolicy"
  model := modelClass
    [absentable "base_lease" .str, absentable "max_extension" .str,
      absentable "heartbeat_timeout" .str, absentable "extend_step" .str,
      absentable "max_renewals" .int] (by decide +kernel)

def attemptRuntime : Entry where
  fullName := attemptName
  descriptor := attemptDescriptor
  className := text "AttemptRuntime"
  model := modelClass
    [defaulted "attempt_id" .str (.str []), defaulted "worker_id" .str (.str []),
      absentable "lease_started_at" .str, defaulted "lease_expiry" .int (.int 0),
      absentable "lease_extension_used" .str, defaulted "lease_renewal_count" .int (.int 0),
      absentable "last_heartbeat_at" .str, defaulted "heartbeat_expiry" .int (.int 0)]
    (by decide +kernel)

def messageHeader : Entry where
  fullName := headerName
  descriptor := headerDescriptor
  className := text "MessageHeader"
  model := modelClass [required "key" .str, defaulted "value" .bytes (.bytes [])]
    (by decide +kernel)

def messageMetadata : Entry where
  fullName := metadataName
  descriptor := metadataDescriptor
  className := text "MessageMetadata"
  model := modelClass
    [required "state" .strOrInt, defaulted "priority" .int (.int 0),
      defaulted "attempts_left" .int (.int 0), defaulted "max_attempts" .int (.int 0),
      absentable "lease_expiry" .int, defaulted "lease_renewal_count" .int (.int 0),
      absentable "payload" (.model (text "MessagePayload")), absentable "lease_duration" .str,
      absentable "lease_policy" (.model (text "LeasePolicy")),
      absentable "current_attempt" (.model (text "AttemptRuntime")),
      absentable "scheduled_time" .str, defaulted "priority_level" .int (.int 0),
      listed "headers" (.model (text "MessageHeader"))] (by decide +kernel)

def message : Entry where
  fullName := messageName
  descriptor := messageDescriptor
  className := text "Message"
  model := modelClass
    [required "message_id" .str, absentable "metadata" (.model (text "MessageMetadata"))]
    (by decide +kernel)

def getNextMessageResponse : Entry where
  fullName := service "GetNextMessageResponse"
  descriptor := messageType
    [optional "message" (.message messageName), optional "worker_id" (.scalar .string),
      optional "attempt_id" (.scalar .string)] (by decide +kernel)
  className := text "GetNextMessageResponse"
  model := modelClass
    [absentable "message" (.model (text "Message")), absentable "worker_id" .str,
      absentable "attempt_id" .str] (by decide +kernel)

def acknowledgeMessageResponse : Entry where
  fullName := service "AcknowledgeMessageResponse"
  descriptor := messageType [plain "success" (.scalar .bool)] (by decide +kernel)
  className := text "AcknowledgeMessageResponse"
  model := modelClass [required "success" .bool] (by decide +kernel)

def renewMessageLeaseResponse : Entry where
  fullName := service "RenewMessageLeaseResponse"
  descriptor := messageType
    [optional "remaining_time" (.message durationName), plain "state" (.enum stateEnum)]
    (by decide +kernel)
  className := text "RenewMessageLeaseResponse"
  model := modelClass [absentable "remaining_time" .str, required "state" .strOrInt]
    (by decide +kernel)

def peekQueueMessagesResponse : Entry where
  fullName := service "PeekQueueMessagesResponse"
  descriptor := messageType
    [repeated "messages" (.message messageName), plain "next_page_token" (.scalar .string)]
    (by decide +kernel)
  className := text "PeekQueueMessagesResponse"
  model := modelClass
    [listed "messages" (.model (text "Message")), defaulted "next_page_token" .str (.str [])]
    (by decide +kernel)

def getQueueStateResponse : Entry where
  fullName := service "GetQueueStateResponse"
  descriptor := messageType
    [⟨text "state_counts", .map .string, .scalar .int64, none⟩,
      optional "earliest_deadline" (.message timestampName)] (by decide +kernel)
  className := text "GetQueueStateResponse"
  model := modelClass [mapped "state_counts" .int, absentable "earliest_deadline" .str]
    (by decide +kernel)

def sendMessageHeartBeatResponse : Entry where
  fullName := service "SendMessageHeartBeatResponse"
  descriptor := messageType
    [optional "remaining_time" (.message durationName), plain "state" (.enum stateEnum)]
    (by decide +kernel)
  className := text "SendMessageHeartBeatResponse"
  model := modelClass [absentable "remaining_time" .str, required "state" .strOrInt]
    (by decide +kernel)

def createScheduleResponse : Entry where
  fullName := service "CreateScheduleResponse"
  descriptor := messageType [plain "success" (.scalar .bool)] (by decide +kernel)
  className := text "CreateScheduleResponse"
  model := modelClass [defaulted "success" .bool (.bool false)] (by decide +kernel)

def deleteScheduleResponse : Entry where
  fullName := service "DeleteScheduleResponse"
  descriptor := messageType [plain "success" (.scalar .bool)] (by decide +kernel)
  className := text "DeleteScheduleResponse"
  model := modelClass [defaulted "success" .bool (.bool false)] (by decide +kernel)

def scheduleMetadata : Entry where
  fullName := scheduleMetadataName
  descriptor := messageType
    [optional "payload" (.message payloadName), plain "state" (.enum scheduleStateEnum),
      ⟨text "cron_schedule", .singular true, .scalar .string, some (text "schedule_config")⟩,
      ⟨text "calendar_schedule", .singular true, .message calendarName,
        some (text "schedule_config")⟩,
      plain "queue_name" (.scalar .string), repeated "message_ids" (.scalar .string),
      optional "next_run" (.message timestampName), optional "last_run" (.message timestampName),
      optional "created_at" (.message timestampName),
      optional "updated_at" (.message timestampName), plain "state_message" (.scalar .string),
      plain "priority" (.scalar .int64), plain "has_max_messages" (.scalar .bool),
      plain "max_messages" (.scalar .int64), optional "lease_duration" (.message durationName),
      plain "timezone" (.scalar .string), repeated "next_runs" (.message timestampName),
      repeated "headers" (.message headerName)] (by decide +kernel)
  className := text "ScheduleMetadata"
  model := modelClass
    [absentable "payload" (.model (text "MessagePayload")), required "state" .strOrInt,
      absentable "cron_schedule" .str, absentable "calendar_schedule" (.dict .any),
      required "queue_name" .str, listed "message_ids" .str, absentable "next_run" .str,
      absentable "last_run" .str, absentable "created_at" .str, absentable "updated_at" .str,
      absentable "state_message" .str, defaulted "priority" .int (.int 0),
      absentable "max_messages" .int, absentable "lease_duration" .str,
      absentable "timezone" .str, listed "next_runs" .str,
      defaulted "has_max_messages" .bool (.bool false),
      listed "headers" (.model (text "MessageHeader"))] (by decide +kernel)

def schedule : Entry where
  fullName := scheduleName
  descriptor := messageType
    [plain "schedule_id" (.scalar .string), optional "metadata" (.message scheduleMetadataName)]
    (by decide +kernel)
  className := text "Schedule"
  model := modelClass
    [required "schedule_id" .str, absentable "metadata" (.model (text "ScheduleMetadata"))]
    (by decide +kernel)

def getScheduleResponse : Entry where
  fullName := service "GetScheduleResponse"
  descriptor := messageType [optional "schedule" (.message scheduleName)] (by decide +kernel)
  className := text "GetScheduleResponse"
  model := modelClass [absentable "schedule" (.model (text "Schedule"))] (by decide +kernel)

def listSchedulesResponse : Entry where
  fullName := service "ListSchedulesResponse"
  descriptor := messageType
    [repeated "schedules" (.message scheduleName), plain "next_page_token" (.scalar .string)]
    (by decide +kernel)
  className := text "ListSchedulesResponse"
  model := modelClass
    [listed "schedules" (.model (text "Schedule")), defaulted "next_page_token" .str (.str [])]
    (by decide +kernel)

def scheduleHistoryEntry : Entry where
  fullName := text "nzovu.api.schedule.v1.ScheduleHistory.Execution"
  descriptor := messageType
    [plain "message_id" (.scalar .string), optional "executed_at" (.message timestampName),
      plain "success" (.scalar .bool), plain "error_message" (.scalar .string),
      optional "message" (.message messageName)] (by decide +kernel)
  className := text "ScheduleHistoryEntry"
  model := modelClass
    [defaulted "message_id" .str (.str []), absentable "executed_at" .str,
      defaulted "success" .bool (.bool false), defaulted "error_message" .str (.str []),
      absentable "message" (.model (text "Message"))] (by decide +kernel)

def scheduleHistory : Entry where
  fullName := text "nzovu.api.schedule.v1.ScheduleHistory"
  descriptor := messageType
    [repeated "messages" (.message messageName), plain "schedule_id" (.scalar .string),
      optional "next_run" (.message timestampName), optional "last_run" (.message timestampName),
      optional "created_at" (.message timestampName),
      optional "updated_at" (.message timestampName),
      repeated "executions" (.message (text "nzovu.api.schedule.v1.ScheduleHistory.Execution"))]
    (by decide +kernel)
  className := text "ScheduleHistory"
  model := modelClass
    [defaulted "schedule_id" .str (.str []), listed "messages" (.model (text "Message")),
      absentable "next_run" .str, absentable "last_run" .str, absentable "created_at" .str,
      absentable "updated_at" .str, listed "executions" (.model (text "ScheduleHistoryEntry"))]
    (by decide +kernel)

def getScheduleHistoryResponse : Entry where
  fullName := service "GetScheduleHistoryResponse"
  descriptor := messageType
    [optional "schedule_history" (.message (text "nzovu.api.schedule.v1.ScheduleHistory")),
      plain "next_page_token" (.scalar .string)] (by decide +kernel)
  className := text "GetScheduleHistoryResponse"
  model := modelClass
    [absentable "schedule_history" (.model (text "ScheduleHistory")),
      defaulted "next_page_token" .str (.str [])] (by decide +kernel)

def pauseScheduleResponse : Entry where
  fullName := service "PauseScheduleResponse"
  descriptor := messageType [plain "success" (.scalar .bool)] (by decide +kernel)
  className := text "PauseScheduleResponse"
  model := modelClass [defaulted "success" .bool (.bool false)] (by decide +kernel)

def resumeScheduleResponse : Entry where
  fullName := service "ResumeScheduleResponse"
  descriptor := messageType [plain "success" (.scalar .bool)] (by decide +kernel)
  className := text "ResumeScheduleResponse"
  model := modelClass [defaulted "success" .bool (.bool false)] (by decide +kernel)

def validationIssue : Entry where
  fullName := service "ValidationIssue"
  descriptor := messageType
    [plain "severity" (.scalar .string), plain "rule_index" (.scalar .int32),
      plain "field" (.scalar .string), plain "message" (.scalar .string),
      plain "suggestion" (.scalar .string)] (by decide +kernel)
  className := text "ValidationIssue"
  model := modelClass
    [defaulted "severity" .str (.str []), defaulted "rule_index" .int (.int 0),
      defaulted "field" .str (.str []), defaulted "message" .str (.str []),
      defaulted "suggestion" .str (.str [])] (by decide +kernel)

def validateCalendarScheduleResponse : Entry where
  fullName := service "ValidateCalendarScheduleResponse"
  descriptor := messageType
    [plain "valid" (.scalar .bool), plain "error_message" (.scalar .string),
      repeated "validation_issues" (.message (service "ValidationIssue"))] (by decide +kernel)
  className := text "ValidateCalendarScheduleResponse"
  model := modelClass
    [defaulted "valid" .bool (.bool false), absentable "error_message" .str,
      listed "validation_issues" (.model (text "ValidationIssue"))] (by decide +kernel)

def previewCalendarScheduleResponse : Entry where
  fullName := service "PreviewCalendarScheduleResponse"
  descriptor := messageType
    [repeated "execution_times" (.message timestampName), plain "timezone" (.scalar .string),
      optional "preview_start" (.message timestampName), plain "total_count" (.scalar .int32)]
    (by decide +kernel)
  className := text "PreviewCalendarScheduleResponse"
  model := modelClass
    [listed "execution_times" .str, defaulted "timezone" .str (.str []),
      absentable "preview_start" .str, defaulted "total_count" .int (.int 0)] (by decide +kernel)

def registerSchemaResponse : Entry where
  fullName := service "RegisterSchemaResponse"
  descriptor := messageType
    [plain "schema_id" (.scalar .string), plain "version" (.scalar .int32),
      plain "created_at" (.scalar .int64)] (by decide +kernel)
  className := text "RegisterSchemaResponse"
  model := modelClass
    [required "schema_id" .str, required "version" .int, absentable "created_at" .int]
    (by decide +kernel)

def schema : Entry where
  fullName := text "nzovu.api.schema.v1.Schema"
  descriptor := messageType
    [plain "schema_id" (.scalar .string), plain "version" (.scalar .int32),
      plain "name" (.scalar .string), plain "description" (.scalar .string),
      plain "content" (.scalar .string), plain "content_type" (.scalar .string),
      plain "created_at" (.scalar .int64), plain "updated_at" (.scalar .int64),
      plain "is_active" (.scalar .bool), ⟨text "metadata", .map .string, .scalar .string, none⟩]
    (by decide +kernel)
  className := text "Schema"
  model := modelClass
    [required "schema_id" .str, required "version" .int, required "name" .str,
      required "description" .str, required "content" .str, required "content_type" .str,
      absentable "created_at" .int, absentable "updated_at" .int,
      defaulted "is_active" .bool (.bool false), mapped "metadata" .str] (by decide +kernel)

def getSchemaResponse : Entry where
  fullName := service "GetSchemaResponse"
  descriptor := messageType [optional "schema" (.message (text "nzovu.api.schema.v1.Schema"))]
    (by decide +kernel)
  className := text "GetSchemaResponse"
  model := modelClass [absentable "schema" (.model (text "Schema"))] (by decide +kernel)

def schemaInfo : Entry where
  fullName := service "SchemaInfo"
  descriptor := messageType
    [plain "schema_id" (.scalar .string), plain "latest_version" (.scalar .int32),
      plain "name" (.scalar .string), plain "description" (.scalar .string),
      plain "created_at" (.scalar .int64), plain "updated_at" (.scalar .int64),
      plain "version_count" (.scalar .int32), plain "is_active" (.scalar .bool)] (by decide +kernel)
  className := text "SchemaInfo"
  model := modelClass
    [required "schema_id" .str, required "latest_version" .int, required "name" .str,
      required "description" .str, absentable "created_at" .int, absentable "updated_at" .int,
      defaulted "version_count" .int (.int 0), defaulted "is_active" .bool (.bool false)]
    (by decide +kernel)

def listSchemasResponse : Entry where
  fullName := service "ListSchemasResponse"
  descriptor := messageType
    [repeated "schemas" (.message (service "SchemaInfo")), plain "total_count" (.scalar .int32),
      plain "next_page_token" (.scalar .string)] (by decide +kernel)
  className := text "ListSchemasResponse"
  model := modelClass
    [listed "schemas" (.model (text "SchemaInfo")), defaulted "total_count" .int (.int 0),
      defaulted "next_page_token" .str (.str [])] (by decide +kernel)

def deleteSchemaResponse : Entry where
  fullName := service "DeleteSchemaResponse"
  descriptor := messageType
    [plain "success" (.scalar .bool), plain "versions_deleted" (.scalar .int32)] (by decide +kernel)
  className := text "DeleteSchemaResponse"
  model := modelClass
    [defaulted "success" .bool (.bool false), defaulted "versions_deleted" .int (.int 0)]
    (by decide +kernel)

def validationError : Entry where
  fullName := text "nzovu.api.schema.v1.ValidationError"
  descriptor := messageType
    [plain "field" (.scalar .string), plain "error_code" (.scalar .string),
      plain "message" (.scalar .string), ⟨text "details", .map .string, .scalar .string, none⟩]
    (by decide +kernel)
  className := text "ValidationError"
  model := modelClass
    [required "field" .str, required "error_code" .str, required "message" .str,
      mapped "details" .str] (by decide +kernel)

def validatePayloadResponse : Entry where
  fullName := service "ValidatePayloadResponse"
  descriptor := messageType
    [plain "valid" (.scalar .bool),
      repeated "errors" (.message (text "nzovu.api.schema.v1.ValidationError")),
      plain "schema_id" (.scalar .string), plain "schema_version" (.scalar .int32)]
    (by decide +kernel)
  className := text "ValidatePayloadResponse"
  model := modelClass
    [defaulted "valid" .bool (.bool false), listed "errors" (.model (text "ValidationError")),
      defaulted "schema_id" .str (.str []), defaulted "schema_version" .int (.int 0)]
    (by decide +kernel)

def getDLQMessagesResponse : Entry where
  fullName := service "GetDLQMessagesResponse"
  descriptor := messageType
    [repeated "messages" (.message messageName), plain "next_page_token" (.scalar .string)]
    (by decide +kernel)
  className := text "GetDLQMessagesResponse"
  model := modelClass
    [listed "messages" (.model (text "Message")), defaulted "next_page_token" .str (.str [])]
    (by decide +kernel)

def requeueFromDLQResponse : Entry where
  fullName := service "RequeueFromDLQResponse"
  descriptor := messageType [plain "success" (.scalar .bool)] (by decide +kernel)
  className := text "RequeueFromDLQResponse"
  model := modelClass [defaulted "success" .bool (.bool false)] (by decide +kernel)

def deleteFromDLQResponse : Entry where
  fullName := service "DeleteFromDLQResponse"
  descriptor := messageType [plain "success" (.scalar .bool)] (by decide +kernel)
  className := text "DeleteFromDLQResponse"
  model := modelClass [defaulted "success" .bool (.bool false)] (by decide +kernel)

def purgeDLQResponse : Entry where
  fullName := service "PurgeDLQResponse"
  descriptor := messageType [plain "success" (.scalar .bool)] (by decide +kernel)
  className := text "PurgeDLQResponse"
  model := modelClass [defaulted "success" .bool (.bool false)] (by decide +kernel)

def getDLQStatsResponse : Entry where
  fullName := service "GetDLQStatsResponse"
  descriptor := messageType
    [plain "name" (.scalar .string), plain "message_count" (.scalar .int64),
      plain "created_at" (.scalar .int64), plain "updated_at" (.scalar .int64)] (by decide +kernel)
  className := text "GetDLQStatsResponse"
  model := modelClass
    [defaulted "name" .str (.str []), defaulted "message_count" .int (.int 0),
      absentable "created_at" .int, absentable "updated_at" .int] (by decide +kernel)

def entries : List Entry :=
  [createQueueResponse, deleteQueueResponse, queue, listQueuesResponse, postMessageResponse,
    messagePostResult, postMessagesBulkResponse, cancelMessageResponse, messagePayload,
    leasePolicy, attemptRuntime, messageHeader, messageMetadata, message, getNextMessageResponse,
    acknowledgeMessageResponse, renewMessageLeaseResponse, peekQueueMessagesResponse,
    getQueueStateResponse, sendMessageHeartBeatResponse, createScheduleResponse,
    deleteScheduleResponse, scheduleMetadata, schedule, getScheduleResponse,
    listSchedulesResponse, scheduleHistoryEntry, scheduleHistory, getScheduleHistoryResponse,
    pauseScheduleResponse, resumeScheduleResponse, validationIssue,
    validateCalendarScheduleResponse, previewCalendarScheduleResponse, registerSchemaResponse,
    schema, getSchemaResponse, schemaInfo, listSchemasResponse, deleteSchemaResponse,
    validationError, validatePayloadResponse, getDLQMessagesResponse, requeueFromDLQResponse,
    deleteFromDLQResponse, purgeDLQResponse, getDLQStatsResponse]

/-- `_MODEL_MAP`, whose keys are the names of the classes. -/
def modelMap : List Entry :=
  [createQueueResponse, deleteQueueResponse, listQueuesResponse, postMessageResponse,
    postMessagesBulkResponse, cancelMessageResponse, getNextMessageResponse,
    acknowledgeMessageResponse, renewMessageLeaseResponse, peekQueueMessagesResponse,
    getQueueStateResponse, sendMessageHeartBeatResponse, createScheduleResponse,
    deleteScheduleResponse, getScheduleResponse, listSchedulesResponse,
    getScheduleHistoryResponse, pauseScheduleResponse, resumeScheduleResponse,
    validateCalendarScheduleResponse, previewCalendarScheduleResponse, registerSchemaResponse,
    getSchemaResponse, listSchemasResponse, deleteSchemaResponse, validatePayloadResponse,
    getDLQMessagesResponse, requeueFromDLQResponse, deleteFromDLQResponse, purgeDLQResponse,
    getDLQStatsResponse]

end Nzovu.Models
