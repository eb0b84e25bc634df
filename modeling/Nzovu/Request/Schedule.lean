import Nzovu.Request.Message

/-!
# Bulk posts and schedules

The other builders use those of a single message.
-/

namespace Nzovu
open Proto

/-! ## Bulk posts -/

inductive TransactionMode
  | allOrNothing | bestEffort
deriving DecidableEq, Repr

def TransactionMode.value : TransactionMode → Str
  | .allOrNothing => text "ALL_OR_NOTHING"
  | .bestEffort => text "BEST_EFFORT"

inductive ModeOption
  | member (mode : TransactionMode)
  | name (name : Str)

def ModeOption.value : ModeOption → Str
  | .member mode => mode.value
  | .name label => label

def ModeOption.shown : ModeOption → Str
  | .member mode => text "TransactionMode." ++ mode.value
  | .name label => label

structure PostMessagesBulkRequest where
  queueName : Slot
  transactionMode : Str
  messages : List Message

/-- The loop of `build_bulk_request` from the message at `index`. -/
def collectMessages (pb : Protobuf) (python : Interpreter) (queueName : Str) (index : Nat)
    (messages : List PostMessageParams) : Except Exc (List Message) :=
  match messages with
  | [] => .ok []
  | params :: rest =>
      if params.queueName ≠ queueName then
        .error (valueError (text "messages[" ++ decimal index ++
          text "].queue_name must match queue_name='" ++ queueName ++ text "'"))
      else do
        let request ← createPostMessageRequest pb python params
        -- `append` copies the message.
        pb.reparse request.message
        let others ← collectMessages pb python queueName (index + 1) rest
        return request.message :: others

def buildBulkRequest (pb : Protobuf) (python : Interpreter) (queueName : Str)
    (messages : List PostMessageParams) (mode : ModeOption) :
    Except Exc PostMessagesBulkRequest := do
  requireName queueName (text "queue_name")
  if !(1 ≤ messages.length && messages.length ≤ 1000) then
    .error (valueError (text "Bulk requests require 1-1000 messages"))
  if mode.value ∉ [text "ALL_OR_NOTHING", text "BEST_EFFORT"] then
    .error (valueError (text "Invalid transaction_mode: " ++ mode.shown))
  let name ← textSlot queueName
  let built ← collectMessages pb python queueName 0 messages
  return ⟨name, mode.value, built⟩

/-! ## Schedules -/

inductive ScheduleState
  | scheduled | canceled | errored | paused
deriving DecidableEq, Repr

/-- The number that the enum of the schedule has for the name of the state. -/
def ScheduleState.number : ScheduleState → Int
  | .scheduled => 0
  | .canceled => 1
  | .errored => 2
  | .paused => 3

structure ScheduleOptions where
  payload : PyVal
  queueName : Str
  state : ScheduleState := .scheduled
  cronSchedule : Option Str := none
  calendarSchedule : Option (List (Key × PyVal)) := none
  priority : Option Int := some 0
  maxMessages : Option Int := none
  leaseDuration : Option Str := none
  headers : List HeaderObject := []
  dataMetadata : PyVal := .dict []
  contentType : Str := []
  schemaId : Str := []
  schemaVersion : Int := 0

namespace ScheduleOptions

def hasCron (options : ScheduleOptions) : Bool := options.cronSchedule.any (· ≠ [])

def hasCalendar (options : ScheduleOptions) : Bool :=
  options.calendarSchedule.any fun entries => !entries.isEmpty

def postInit (unicode : Unicode) (options : ScheduleOptions) : Except Exc Unit := do
  match options.priority with
  | some priority => validateInteger priority (text "priority") 0 4
  | none => .ok ()
  if options.hasCron && options.hasCalendar then
    .error (valueError (text "Cannot specify both cron_schedule and calendar_schedule"))
  if !options.hasCron && !options.hasCalendar then
    .error (valueError (text "Must specify either cron_schedule or calendar_schedule"))
  if options.leaseDuration.any fun s => s ≠ [] && (matchDuration unicode s).isNone then
    .error (valueError (text
      "lease_duration must be in format '[number]unit', e.g., '5s', '2m', '3.5m', '3d'."))

end ScheduleOptions

def calendarName : Str := text "nzovu.api.schedule.v1.CalendarSchedule"

def scheduleName : Str := text "nzovu.api.schedule.v1.Schedule"

def scheduleMetadataName : Str := text "nzovu.api.schedule.v1.Schedule.Metadata"

def int64Slot (n : Int) : Except Exc Slot :=
  if -2 ^ 63 ≤ n ∧ n < 2 ^ 63 then .ok (.single (.scalar (.int n)))
  else .error (valueError (text "Value out of range: " ++ decimal n))

theorem int64Slot_kept {n : Int} {slot : Slot} (built : int64Slot n = .ok slot) :
    slot = .single (.scalar (.int n)) := checked_slot built

def scheduleConfig (pb : Protobuf) (options : ScheduleOptions) : Except Exc (Slot × Slot) :=
  if options.hasCron then do
    let cron ← textSlot (options.cronSchedule.getD [])
    return (cron, .absent)
  else do
    let calendar ← pb.parseDict calendarName (.dict (options.calendarSchedule.getD []))
    return (.absent, messageSlot calendar)

def maxMessagesSlots (maxMessages : Option Int) : Except Exc (Slot × Slot) :=
  match maxMessages with
  | none => .ok (.single (.scalar (.bool false)), zeroSlot)
  | some n => do return (.single (.scalar (.bool true)), ← int64Slot n)

def emptyText : Slot := .single (.scalar (.str []))

def scheduleMetadataMessage (options : ScheduleOptions)
    (payload : Message) (config : Slot × Slot) (queueName : Slot) (maxMessages : Slot × Slot)
    (leaseDuration : Slot) (headers : List (Str × List UInt8)) : Message :=
  .fields scheduleMetadataName
    [messageSlot payload, .single (.enum options.state.number), config.1, config.2, queueName,
      .repeated [], .absent, .absent, .absent, .absent, emptyText,
      .single (.scalar (.int (options.priority.getD 0))), maxMessages.1, maxMessages.2,
      leaseDuration, emptyText, .repeated [],
      .repeated (headers.map fun header => .message (headerMessage header))]

def buildScheduleRequest (pb : Protobuf) (python : Interpreter) (scheduleId : Str)
    (options : ScheduleOptions) : Except Exc Message := do
  requireName scheduleId (text "schedule_id")
  requireName options.queueName (text "queue_name")
  options.postInit python.unicode
  let payload ← buildPayload pb python options.payload options.dataMetadata options.contentType
    options.schemaId options.schemaVersion
  let headers ← buildHeaders options.headers
  pb.reparse payload
  let queueName ← textSlot options.queueName
  let config ← scheduleConfig pb options
  let maxMessages ← maxMessagesSlots options.maxMessages
  let leaseDuration ← leaseSlot python.unicode options.leaseDuration
  let id ← textSlot scheduleId
  let metadata := scheduleMetadataMessage options payload config queueName maxMessages
    leaseDuration headers
  pb.reparse metadata
  pb.reparse (.fields scheduleName [id, messageSlot metadata])
  return .fields scheduleName [id, messageSlot metadata]

end Nzovu
