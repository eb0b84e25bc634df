import Nzovu.Request.Queue
import Nzovu.Response.ToModel

/-!
# What a schedule keeps of its options

The schedule that the builder makes is read again as `get_schedule` would show it.
-/

namespace Nzovu
open Proto Models

def ScheduleState.name : ScheduleState → Str
  | .scheduled => text "SCHEDULED"
  | .canceled => text "CANCELED"
  | .errored => text "ERRORED"
  | .paused => text "PAUSED"

def ScheduleOptions.payloadOptions (options : ScheduleOptions) : PostMessageOptions where
  dataMetadata := options.dataMetadata
  contentType := options.contentType
  schemaId := options.schemaId
  schemaVersion := options.schemaVersion

def ConfigKept (pb : Protobuf) (pool : Pool) (options : ScheduleOptions) (metadata : PyVal) : Prop :=
  if options.hasCron then
    metadata.get? (text "cron_schedule") = some (.str (options.cronSchedule.getD [])) ∧
      metadata.get? (text "calendar_schedule") = none
  else
    metadata.get? (text "cron_schedule") = none ∧
      ∃ calendar,
        pb.parseDict calendarName (.dict (options.calendarSchedule.getD [])) = .ok calendar ∧
        metadata.get? (text "calendar_schedule") =
          some (protobufToPython pb.toJsonFormat pool calendar)

structure ScheduleMetadataKept (pb : Protobuf) (unicode : Unicode) (pool : Pool)
    (options : ScheduleOptions) (metadata : PyVal) : Prop where
  payload : ∃ payload, metadata.get? (text "payload") = some payload ∧
    PayloadKept options.payload options.payloadOptions payload
  state : metadata.get? (text "state") = some (.str options.state.name)
  config : ConfigKept pb pool options metadata
  queueName : metadata.get? (text "queue_name") = some (.str options.queueName)
  priority : metadata.get? (text "priority") = some (.int (options.priority.getD 0))
  hasMaxMessages :
    metadata.get? (text "has_max_messages") = some (.bool options.maxMessages.isSome)
  maxMessages : metadata.get? (text "max_messages") = some (.int (options.maxMessages.getD 0))
  leaseDuration :
    DurationKept unicode options.leaseDuration (metadata.get? (text "lease_duration"))
  headers : ∃ headers : List (Str × List UInt8),
    options.headers = headers.map (fun header => .header (.str header.1) (.bytes header.2)) ∧
    metadata.get? (text "headers") = some (.list (headers.map shownHeader))

structure ScheduleKept (pb : Protobuf) (unicode : Unicode) (pool : Pool) (scheduleId : Str)
    (options : ScheduleOptions) (result : PyVal) : Prop where
  scheduleId : result.get? (text "schedule_id") = some (.str scheduleId)
  metadata : ∃ metadata, result.get? (text "metadata") = some metadata ∧
    ScheduleMetadataKept pb unicode pool options metadata

theorem maxMessagesSlots_kept {given : Option Int} {has n : Slot}
    (built : maxMessagesSlots given = .ok (has, n)) :
    has = .single (.scalar (.bool given.isSome)) ∧ n = .single (.scalar (.int (given.getD 0))) := by
  cases given with
  | none =>
      cases built
      exact ⟨rfl, rfl⟩
  | some m =>
      obtain ⟨slot, stored, same⟩ := bind_eq_ok.1 built
      cases same
      exact ⟨rfl, int64Slot_kept stored⟩

theorem scheduleConfig_kept {pb : Protobuf} {options : ScheduleOptions} {cron calendar : Slot}
    (built : scheduleConfig pb options = .ok (cron, calendar)) :
    if options.hasCron then
      cron = .single (.scalar (.str (options.cronSchedule.getD []))) ∧ calendar = .absent
    else cron = .absent ∧ ∃ m,
      pb.parseDict calendarName (.dict (options.calendarSchedule.getD [])) = .ok m ∧
      calendar = messageSlot m := by
  rw [scheduleConfig] at built
  split at built
  · rename_i cronGiven
    obtain ⟨slot, stored, same⟩ := bind_eq_ok.1 built
    cases same
    rw [if_pos cronGiven]
    exact ⟨textSlot_kept stored, rfl⟩
  · rename_i calendarGiven
    obtain ⟨m, parsed, same⟩ := bind_eq_ok.1 built
    cases same
    rw [if_neg calendarGiven]
    exact ⟨rfl, m, parsed, rfl⟩

section Kept
variable {pb : Protobuf} (others : Pool)

theorem schedule_listed : Models.pool others scheduleName = schedule.descriptor :=
  pool_listed (show schedule ∈ entries by simp [entries]) others

theorem scheduleMetadata_listed :
    Models.pool others scheduleMetadataName = scheduleMetadata.descriptor :=
  pool_listed (show scheduleMetadata ∈ entries by simp [entries]) others

theorem payload_listed : Models.pool others payloadName = payloadDescriptor :=
  pool_listed (show messagePayload ∈ entries by simp [entries]) others

theorem header_listed : Models.pool others headerName = headerDescriptor :=
  pool_listed (show messageHeader ∈ entries by simp [entries]) others

theorem buildScheduleRequest_kept (documented : pb.Documented) (python : Interpreter)
    (scheduleId : Str) (options : ScheduleOptions) (built_ : Message)
    (built : buildScheduleRequest pb python scheduleId options = .ok built_)
    (dataExact : options.payload.Representable)
    (metadataExact : options.dataMetadata.Representable) :
    ScheduleKept pb python.unicode (Models.pool others) scheduleId options
      (protobufToPython pb.toJsonFormat (Models.pool others) built_) := by
  obtain ⟨-, -, built⟩ := bind_eq_ok.1 built
  obtain ⟨-, -, built⟩ := bind_eq_ok.1 built
  obtain ⟨-, -, built⟩ := bind_eq_ok.1 built
  obtain ⟨payload, payloadBuilt, built⟩ := bind_eq_ok.1 built
  obtain ⟨headers, headersBuilt, built⟩ := bind_eq_ok.1 built
  obtain ⟨-, -, built⟩ := bind_eq_ok.1 built
  obtain ⟨queueName, queueBuilt, built⟩ := bind_eq_ok.1 built
  obtain ⟨⟨cron, calendar⟩, configBuilt, built⟩ := bind_eq_ok.1 built
  obtain ⟨⟨hasMax, maxMessages⟩, maxBuilt, built⟩ := bind_eq_ok.1 built
  obtain ⟨leaseDuration, leaseBuilt, built⟩ := bind_eq_ok.1 built
  obtain ⟨id, idBuilt, built⟩ := bind_eq_ok.1 built
  obtain ⟨-, -, built⟩ := bind_eq_ok.1 built
  obtain ⟨-, -, built⟩ := bind_eq_ok.1 built
  cases built
  obtain ⟨rfl, rfl⟩ := maxMessagesSlots_kept maxBuilt
  rw [textSlot_kept idBuilt, textSlot_kept queueBuilt]
  have outer := schedule_listed others
  have read := scheduleMetadata_listed others
  refine ⟨get?_protobufToPython outer (i := 0) rfl rfl rfl rfl, _,
    get?_protobufToPython outer (i := 1) rfl rfl rfl rfl, ?_⟩
  change ScheduleMetadataKept pb _ _ options (protobufToPython pb.toJsonFormat (Models.pool others) _)
  constructor
  · exact ⟨_, get?_protobufToPython read (i := 0) rfl rfl rfl rfl,
      payload_kept_of documented (payload_listed others) payloadBuilt dataExact metadataExact⟩
  · apply get?_protobufToPython read (i := 1) rfl rfl rfl
    cases options.state <;> rfl
  · have kept := scheduleConfig_kept configBuilt
    rw [ConfigKept]
    split
    · rename_i cronGiven
      rw [if_pos cronGiven] at kept
      obtain ⟨rfl, rfl⟩ := kept
      exact ⟨get?_protobufToPython read (i := 2) rfl rfl rfl rfl,
        get?_protobufToPython read (i := 3) rfl rfl rfl rfl⟩
    · rename_i calendarGiven
      rw [if_neg calendarGiven] at kept
      obtain ⟨rfl, m, parsed, rfl⟩ := kept
      exact ⟨get?_protobufToPython read (i := 2) rfl rfl rfl rfl, m, parsed,
        get?_protobufToPython read (i := 3) rfl rfl rfl rfl⟩
  · exact get?_protobufToPython read (i := 4) rfl rfl rfl rfl
  · exact get?_protobufToPython read (i := 11) rfl rfl rfl rfl
  · exact get?_protobufToPython read (i := 12) rfl rfl rfl rfl
  · exact get?_protobufToPython read (i := 13) rfl rfl rfl rfl
  · exact leaseSlot_kept documented "lease_duration" leaseBuilt
      (get?_protobufToPython read (i := 14) rfl rfl rfl rfl)
  · refine ⟨headers, (buildHeaders_eq_ok.1 headersBuilt).1, ?_⟩
    apply get?_protobufToPython read (i := 17) rfl rfl rfl
    rw [← contentsToPython_headers_of (header_listed others)]
    rfl

end Kept

end Nzovu
