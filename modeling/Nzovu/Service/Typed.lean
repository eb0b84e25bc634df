import Nzovu.Client.Rejection
import Nzovu.Service.Rpc

/-!
# Requests are well typed

What the builders make are messages of the types that the service declares.
-/

namespace Nzovu
open Proto QueueService
open Models hiding pool

structure Protobuf.WellTyped (pb : Protobuf) (pool : Pool) : Prop where
  parseDict : ∀ name value m, pb.parseDict name value = .ok m → m.Typed pool name
  fromJsonString : ∀ s seconds nanos, pb.fromJsonString s = .ok (seconds, nanos) →
    (WellKnown.timestamp seconds nanos).Valid

section Slots
variable {pool : Pool} {unicode : Unicode}

theorem duration_typed {s : Str} {d : Nat × Nat} (accepted : stringToDuration unicode s = .ok d) :
    Message.Typed pool durationName (.wellKnown (.duration d.1 d.2)) := by
  obtain ⟨-, small, range⟩ := stringToDuration_exact accepted
  refine ⟨rfl, ?_, ?_, by positivity⟩
  · rw [abs_of_nonneg (by positivity)]
    exact_mod_cast range
  · rw [abs_of_nonneg (by positivity)]
    omega

theorem leaseSlot_sets (name : String) (given : Option Str) :
    Sets pool (leaseSlot unicode given) (optional name (.message durationName)) := by
  cases given with
  | none => exact sets_ok rfl
  | some s =>
      intro slot built
      obtain ⟨d, accepted, same⟩ := bind_eq_ok.1 built
      cases same
      exact ⟨⟨_, rfl⟩, _, rfl, duration_typed accepted⟩

theorem policySlot_sets (name : String) (given : Option Str) :
    Sets pool (policySlot unicode given) (optional name (.message durationName)) := by
  rcases given with - | - | ⟨c, s⟩
  · exact sets_ok rfl
  · exact sets_ok rfl
  · exact leaseSlot_sets name (some (c :: s))

theorem scheduledSlot_sets {pb : Protobuf} (typed : pb.WellTyped pool) (name : String)
    (given : Option Str) :
    Sets pool (scheduledSlot pb given) (optional name (.message timestampName)) := by
  cases given with
  | none => exact sets_ok rfl
  | some s =>
      intro slot built
      obtain ⟨t, accepted, same⟩ := bind_eq_ok.1 built
      cases same
      exact ⟨⟨_, rfl⟩, _, rfl, rfl, typed.fromJsonString s t.1 t.2 accepted⟩

theorem maxRenewalsSlot_sets (given : Option Int) :
    Sets pool (maxRenewalsSlot given) (optional "max_renewals" (.scalar .int32)) := by
  cases given with
  | none => exact sets_ok rfl
  | some n =>
      intro slot built
      obtain ⟨-, -, stored⟩ := bind_eq_ok.1 built
      have range : Sets pool (int32Slot n) (optional "max_renewals" (.scalar .int32)) :=
        sets_ite fun range => ⟨⟨_, rfl⟩, _, rfl, range⟩
      exact range slot stored

theorem encodable_of_ascii {s : Str} (ascii : ∀ c ∈ s, c < 0x80) : s.encodable = true := by
  simp only [Str.encodable, Bool.not_eq_true', List.any_eq_false, isSurrogate, Bool.and_eq_true,
    decide_eq_true_eq]
  intro c member
  have := ascii c member
  omega

theorem contentsTyped_messages {α : Type} {fullName : Str} {make : α → Message} {values : List α}
    (typed : ∀ a ∈ values, (make a).Typed pool fullName) :
    contentsTyped pool (.message fullName) (values.map fun a => .message (make a)) := by
  induction values with
  | nil => trivial
  | cons a rest ih =>
      obtain ⟨first, later⟩ := List.forall_mem_cons.1 typed
      exact ⟨⟨_, rfl, first⟩, ih later⟩

end Slots

section Builders
variable {pb : Protobuf} {others : Pool} (typed : pb.WellTyped (pool others))

theorem fields_entry {entry : Entry} (listed : entry ∈ entries) {slots : List Slot}
    (none : entry.descriptor.fields.all (fun field => field.oneof.isNone) = true)
    (typed : slotsTyped (pool others) entry.descriptor.fields slots) :
    Message.Typed (pool others) entry.fullName (.fields entry.fullName slots) := by
  have sound := List.all_eq_true.1 entries_sound entry listed
  rw [Entry.sound, Bool.and_eq_true, decide_eq_true_eq, not_or] at sound
  exact fields_typed (congrArg MessageDescriptor.fields (pool_entry others listed)) sound.1 none
    typed

theorem header_typed {header : Str × List UInt8} (rules : HeaderRules header) :
    (headerMessage header).Typed (pool others) headerName := by
  have listed : messageHeader ∈ entries := by simp [entries]
  have ascii : ∀ c ∈ text "abcdefghijklmnopqrstuvwxyz0123456789-", c < 0x80 := by decide +kernel
  have encodable : header.1.encodable = true :=
    encodable_of_ascii fun c member => ascii c (rules.letters c member)
  exact fields_entry listed rfl
    ⟨⟨⟨_, rfl⟩, _, rfl, encodable⟩, ⟨⟨_, rfl⟩, _, rfl, trivial⟩, trivial⟩

theorem headers_typed {given : List HeaderObject} {headers : List (Str × List UInt8)}
    (built : buildHeaders given = .ok headers) :
    contentsTyped (pool others) (.message headerName)
      (headers.map fun header => .message (headerMessage header)) := by
  obtain ⟨-, rules, -⟩ := buildHeaders_eq_ok.1 built
  exact contentsTyped_messages fun header member => header_typed (rules header member)

theorem leasePolicy_typed {unicode : Unicode} {given : Option LeasePolicyOptions}
    {policy : Option Message}
    (built : buildLeasePolicy unicode given = .ok policy) (name : String) :
    Slot.Typed (pool others) (optional name (.message leasePolicyName))
      ((policy.map messageSlot).getD .absent) := by
  cases given with
  | none =>
      cases built
      rfl
  | some opts =>
      rw [buildLeasePolicy] at built
      split at built
      · cases built
        rfl
      · obtain ⟨baseLease, base, built⟩ := bind_eq_ok.1 built
        obtain ⟨maxExtension, extension, built⟩ := bind_eq_ok.1 built
        obtain ⟨heartbeatTimeout, timeout, built⟩ := bind_eq_ok.1 built
        obtain ⟨extendStep, extend, built⟩ := bind_eq_ok.1 built
        obtain ⟨maxRenewals, renewals, built⟩ := bind_eq_ok.1 built
        cases built
        have listed : leasePolicy ∈ entries := by simp [entries]
        refine ⟨⟨_, rfl⟩, _, rfl, fields_entry listed rfl ?_⟩
        exact ⟨policySlot_sets _ _ _ base, policySlot_sets _ _ _ extension,
          policySlot_sets _ _ _ timeout, policySlot_sets _ _ _ extend,
          maxRenewalsSlot_sets _ _ renewals, trivial⟩

include typed

theorem createPostMessageRequest_typed {python : Interpreter} {params : PostMessageParams}
    {request : PostMessageRequest} (built : createPostMessageRequest pb python params = .ok request) :
    Slot.Typed (pool others) (plain "queue_name" (.scalar .string)) request.queueName ∧
      request.message.Typed (pool others) messageName := by
  rw [createPostMessageRequest] at built
  obtain ⟨-, -, built⟩ := bind_eq_ok.1 built
  obtain ⟨id, built⟩ := guard_eq_ok.1 built
  obtain ⟨_, priority, built⟩ := bind_eq_ok.1 built
  obtain ⟨payload, payloadBuilt, built⟩ := bind_eq_ok.1 built
  obtain ⟨leaseDuration, leaseBuilt, built⟩ := bind_eq_ok.1 built
  obtain ⟨headers, headersBuilt, built⟩ := bind_eq_ok.1 built
  obtain ⟨-, -, built⟩ := bind_eq_ok.1 built
  obtain ⟨state, stateBuilt, built⟩ := bind_eq_ok.1 built
  obtain ⟨maxAttempts, attemptsBuilt, built⟩ := bind_eq_ok.1 built
  obtain ⟨policy, policyBuilt, built⟩ := bind_eq_ok.1 built
  obtain ⟨scheduledTime, scheduledBuilt, built⟩ := bind_eq_ok.1 built
  obtain ⟨-, -, built⟩ := bind_eq_ok.1 built
  obtain ⟨queueName, queueBuilt, built⟩ := bind_eq_ok.1 built
  obtain ⟨-, -, built⟩ := bind_eq_ok.1 built
  cases built
  refine ⟨textSlot_sets "queue_name" _ _ queueBuilt, ?_⟩
  have encodable : params.messageId.encodable = true := by
    apply encodable_of_ascii
    intro c member
    simp only [Bool.not_eq_true', Bool.not_eq_false, isMessageId, Bool.and_eq_true,
      List.all_eq_true, isMessageIdChar, Bool.or_eq_true, decide_eq_true_eq, beq_iff_eq] at id
    have := id.2 c member
    omega
  obtain ⟨low, high⟩ := (validateInteger_ok _ _ _ _).1 ⟨_, priority⟩
  have zero32 : ScalarType.int32.Holds (.int 0) := by constructor <;> norm_num
  have zero64 : ScalarType.int64.Holds (.int 0) := by constructor <;> norm_num
  have priority64 : ScalarType.int64.Holds (.int params.given.priority) := by
    constructor <;> omega
  obtain ⟨-, -, parsed⟩ := bind_eq_ok.1 payloadBuilt
  have metadata : Message.Typed (pool others) metadataName (.fields metadataName
      [messageSlot payload, state, zeroSlot, leaseDuration, zeroSlot, zeroSlot,
        .single (.scalar (.int params.given.priority)), maxAttempts,
        (policy.map messageSlot).getD .absent, .absent, scheduledTime, zeroSlot,
        .repeated (headers.map fun header => .message (headerMessage header))]) := by
    have listed : messageMetadata ∈ entries := by simp [entries]
    refine fields_entry listed rfl ?_
    exact ⟨⟨⟨_, rfl⟩, _, rfl, typed.parseDict _ _ _ parsed⟩,
      enumSlot_sets "state" (by decide) _ _ stateBuilt, ⟨⟨_, rfl⟩, _, rfl, zero32⟩,
      leaseSlot_sets _ _ _ leaseBuilt, ⟨⟨_, rfl⟩, _, rfl, zero64⟩, ⟨⟨_, rfl⟩, _, rfl, zero32⟩,
      ⟨⟨_, rfl⟩, _, rfl, priority64⟩, int32Slot_sets "max_attempts" _ _ attemptsBuilt,
      leasePolicy_typed policyBuilt "lease_policy", rfl,
      scheduledSlot_sets typed "scheduled_time" _ _ scheduledBuilt, ⟨⟨_, rfl⟩, _, rfl, zero32⟩,
      ⟨rfl, headers_typed headersBuilt⟩, trivial⟩
  have listed : message ∈ entries := by simp [entries]
  exact fields_entry listed rfl
    ⟨⟨⟨_, rfl⟩, _, rfl, encodable⟩, ⟨⟨_, rfl⟩, _, rfl, metadata⟩, trivial⟩

theorem collectMessages_typed {python : Interpreter} {queueName : Str}
    {messages : List PostMessageParams}
    {index : Nat} {built_ : List Message}
    (built : collectMessages pb python queueName index messages = .ok built_) :
    contentsTyped (pool others) (.message messageName) (built_.map .message) := by
  induction messages generalizing index built_ with
  | nil =>
      cases built
      trivial
  | cons params rest ih =>
      rw [collectMessages] at built
      split at built
      · cases built
      · obtain ⟨request, first, built⟩ := bind_eq_ok.1 built
        obtain ⟨-, -, built⟩ := bind_eq_ok.1 built
        obtain ⟨later, collected, same⟩ := bind_eq_ok.1 built
        cases same
        exact ⟨⟨_, rfl, (createPostMessageRequest_typed typed first).2⟩, ih collected⟩

theorem buildBulkRequest_typed {python : Interpreter} {queueName : Str}
    {messages : List PostMessageParams} {mode : ModeOption} {request : PostMessagesBulkRequest}
    (built : buildBulkRequest pb python queueName messages mode = .ok request) :
    Slot.Typed (pool others) (plain "queue_name" (.scalar .string)) request.queueName ∧
      contentsTyped (pool others) (.message messageName) (request.messages.map .message) := by
  obtain ⟨-, -, built⟩ := bind_eq_ok.1 built
  obtain ⟨-, built⟩ := guard_eq_ok.1 built
  obtain ⟨-, built⟩ := guard_eq_ok.1 built
  obtain ⟨name, nameBuilt, built⟩ := bind_eq_ok.1 built
  obtain ⟨collected, messagesBuilt, same⟩ := bind_eq_ok.1 built
  cases same
  exact ⟨textSlot_sets "queue_name" _ _ nameBuilt, collectMessages_typed typed messagesBuilt⟩

omit typed in
/-- Two fields of the schedule share a oneof, and the builder sets one of them. -/
theorem scheduleMetadata_oneofs {slots : List Slot}
    (either : slots[2]? = some .absent ∨ slots[3]? = some .absent) :
    OneofsHold scheduleMetadata.descriptor.fields slots := by
  have members : ∀ i f, scheduleMetadata.descriptor.fields[i]? = some f → f.oneof ≠ none →
      i = 2 ∨ i = 3 := by
    intro i f here member
    have some_ : (scheduleMetadata.descriptor.fields.map fun f => f.oneof.isSome)[i]? = some true := by
      rw [List.getElem?_map, here, Option.map_some, Option.isSome_iff_ne_none.2 member]
    have only : ∀ i < 18,
        (scheduleMetadata.descriptor.fields.map fun f => f.oneof.isSome)[i]? = some true →
          i = 2 ∨ i = 3 := by decide +kernel
    exact only i (List.getElem?_eq_some_iff.1 here).1 some_
  intro i j f g s t here there member shared first second firstSet secondSet
  have left := members i f here member
  have right := members j g there (shared ▸ member)
  rcases left with rfl | rfl <;> rcases right with rfl | rfl
  · rfl
  · rcases either with absent | absent
    · rw [absent] at first
      cases first
      cases firstSet
    · rw [absent] at second
      cases second
      cases secondSet
  · rcases either with absent | absent
    · rw [absent] at second
      cases second
      cases secondSet
    · rw [absent] at first
      cases first
      cases firstSet
  · rfl

theorem scheduleConfig_typed {options : ScheduleOptions} {cron calendar : Slot}
    (built : scheduleConfig pb options = .ok (cron, calendar)) :
    Slot.Typed (pool others) ⟨text "cron_schedule", .singular true, .scalar .string,
        some (text "schedule_config")⟩ cron ∧
      Slot.Typed (pool others) ⟨text "calendar_schedule", .singular true, .message calendarName,
        some (text "schedule_config")⟩ calendar ∧
      (cron = .absent ∨ calendar = .absent) := by
  rw [scheduleConfig] at built
  split at built
  · obtain ⟨slot, stored, same⟩ := bind_eq_ok.1 built
    cases same
    have sets : Sets (pool others) (textSlot (options.cronSchedule.getD []))
        ⟨text "cron_schedule", .singular true, .scalar .string, some (text "schedule_config")⟩ :=
      sets_ite fun encodable => ⟨⟨_, rfl⟩, _, rfl, encodable⟩
    exact ⟨sets cron stored, rfl, .inr rfl⟩
  · obtain ⟨m, parsed, same⟩ := bind_eq_ok.1 built
    cases same
    exact ⟨rfl, ⟨⟨_, rfl⟩, _, rfl, typed.parseDict _ _ _ parsed⟩, .inl rfl⟩

omit typed in
theorem maxMessagesSlots_typed {given : Option Int} {has n : Slot}
    (built : maxMessagesSlots given = .ok (has, n)) :
    Slot.Typed (pool others) (plain "has_max_messages" (.scalar .bool)) has ∧
      Slot.Typed (pool others) (plain "max_messages" (.scalar .int64)) n := by
  cases given with
  | none =>
      cases built
      have zero : ScalarType.int64.Holds (.int 0) := by constructor <;> norm_num
      exact ⟨⟨⟨_, rfl⟩, _, rfl, trivial⟩, ⟨_, rfl⟩, _, rfl, zero⟩
  | some m =>
      obtain ⟨slot, stored, same⟩ := bind_eq_ok.1 built
      cases same
      exact ⟨⟨⟨_, rfl⟩, _, rfl, trivial⟩, int64Slot_sets _ _ _ stored⟩

omit typed in
theorem postInit_priority {unicode : Unicode} {options : ScheduleOptions} {u : Unit}
    (passed : options.postInit unicode = .ok u) :
    0 ≤ options.priority.getD 0 ∧ options.priority.getD 0 ≤ 4 := by
  rw [ScheduleOptions.postInit] at passed
  cases given : options.priority with
  | none => simp
  | some priority =>
      rw [given] at passed
      obtain ⟨_, valid, -⟩ := bind_eq_ok.1 passed
      exact (validateInteger_ok _ _ _ _).1 ⟨_, valid⟩

theorem buildScheduleRequest_typed {python : Interpreter} {scheduleId : Str} {options : ScheduleOptions}
    {m : Message} (built : buildScheduleRequest pb python scheduleId options = .ok m) :
    m.Typed (pool others) scheduleName := by
  obtain ⟨-, -, built⟩ := bind_eq_ok.1 built
  obtain ⟨-, -, built⟩ := bind_eq_ok.1 built
  obtain ⟨_, passed, built⟩ := bind_eq_ok.1 built
  obtain ⟨payload, payloadBuilt, built⟩ := bind_eq_ok.1 built
  obtain ⟨headers, headersBuilt, built⟩ := bind_eq_ok.1 built
  obtain ⟨-, -, built⟩ := bind_eq_ok.1 built
  obtain ⟨queueName, queueBuilt, built⟩ := bind_eq_ok.1 built
  obtain ⟨⟨cron, calendar⟩, configBuilt, built⟩ := bind_eq_ok.1 built
  obtain ⟨⟨hasMax, maxMessages⟩, maxBuilt, built⟩ := bind_eq_ok.1 built
  obtain ⟨leaseDuration, leaseBuilt, built⟩ := bind_eq_ok.1 built
  obtain ⟨id, idBuilt, built⟩ := bind_eq_ok.1 built
  obtain ⟨-, -, built⟩ := bind_eq_ok.1 built
  obtain ⟨-, -, built⟩ := bind_eq_ok.1 built
  cases built
  obtain ⟨cronTyped, calendarTyped, either⟩ := scheduleConfig_typed typed configBuilt
  obtain ⟨hasTyped, maxTyped⟩ := maxMessagesSlots_typed maxBuilt
  obtain ⟨low, high⟩ := postInit_priority passed
  obtain ⟨-, -, parsed⟩ := bind_eq_ok.1 payloadBuilt
  have priority : ScalarType.int64.Holds (.int (options.priority.getD 0)) := by
    constructor <;> omega
  have state : -2 ^ 31 ≤ options.state.number ∧ options.state.number < 2 ^ 31 := by
    cases options.state <;> decide
  have metadata : Message.Typed (pool others) scheduleMetadataName (.fields scheduleMetadataName
      [messageSlot payload, .single (.enum options.state.number), cron, calendar, queueName,
        .repeated [], .absent, .absent, .absent, .absent, emptyText,
        .single (.scalar (.int (options.priority.getD 0))), hasMax, maxMessages,
        leaseDuration, emptyText, .repeated [],
        .repeated (headers.map fun header => .message (headerMessage header))]) := by
    have listed : scheduleMetadata ∈ entries := by simp [entries]
    have sound := List.all_eq_true.1 entries_sound scheduleMetadata listed
    rw [Entry.sound, Bool.and_eq_true, decide_eq_true_eq, not_or] at sound
    have type : pool others scheduleMetadataName = scheduleMetadata.descriptor :=
      pool_entry others listed
    refine ⟨rfl, sound.1.1, sound.1.2, ?_, ?_⟩
    · rw [type]
      exact ⟨⟨⟨_, rfl⟩, _, rfl, typed.parseDict _ _ _ parsed⟩, ⟨⟨_, rfl⟩, _, rfl, state⟩,
        cronTyped, calendarTyped, textSlot_sets "queue_name" _ _ queueBuilt, ⟨rfl, trivial⟩, rfl,
        rfl, rfl, rfl, ⟨⟨_, rfl⟩, _, rfl, rfl⟩, ⟨⟨_, rfl⟩, _, rfl, priority⟩, hasTyped, maxTyped,
        leaseSlot_sets _ _ _ leaseBuilt, ⟨⟨_, rfl⟩, _, rfl, rfl⟩, ⟨rfl, trivial⟩,
        ⟨rfl, headers_typed headersBuilt⟩, trivial⟩
    · rw [type]
      apply scheduleMetadata_oneofs
      rcases either with rfl | rfl
      · exact .inl rfl
      · exact .inr rfl
  have listed : schedule ∈ entries := by simp [entries]
  exact fields_entry listed rfl
    ⟨textSlot_sets "schedule_id" _ _ idBuilt, ⟨⟨_, rfl⟩, _, rfl, metadata⟩, trivial⟩

theorem queueMetadata_typed {unicode : Unicode} {options : CreateQueueOptions} {m : Message}
    (built : queueMetadata pb unicode options = .ok m) :
    m.Typed (pool others) queueMetadataType.fullName := by
  obtain ⟨lease, leaseBuilt, built⟩ := bind_eq_ok.1 built
  obtain ⟨slots, set_, built⟩ := bind_eq_ok.1 built
  obtain ⟨config, configBuilt, built⟩ := bind_eq_ok.1 built
  obtain ⟨policy, policyBuilt, built⟩ := bind_eq_ok.1 built
  obtain ⟨retention, retentionBuilt, built⟩ := bind_eq_ok.1 built
  cases built
  simp only [queueScalars, setFields_cons, setFields_nil] at set_
  obtain ⟨type, typeSet, -, ⟨attempts, attemptsSet, -, ⟨lease', same, -, ⟨exclusivity, exclusivitySet,
    -, ⟨dlq, dlqSet, -, ⟨auto, autoSet, -, ⟨schema, schemaSet, -, ⟨required, requiredSet, -,
    ⟨payload, payloadSet, -, ⟨allowed, allowedSet, -, rfl, rfl⟩, rfl⟩, rfl⟩, rfl⟩, rfl⟩, rfl⟩, rfl⟩,
    rfl⟩, rfl⟩, rfl⟩ := set_
  cases same
  have configTyped : Slot.Typed (pool others)
      (optional "priority_config" (.message priorityConfigName)) config := by
    cases given : options.givenConfig with
    | none =>
        rw [given] at configBuilt
        cases configBuilt
        rfl
    | some entries =>
        rw [given] at configBuilt
        obtain ⟨m, parsed, same⟩ := bind_eq_ok.1 configBuilt
        cases same
        exact ⟨⟨_, rfl⟩, _, rfl, typed.parseDict _ _ _ parsed⟩
  have retentionTyped : Slot.Typed (pool others)
      (optional "message_retention_policy" (.message retentionPolicyType.fullName)) retention := by
    cases given : options.retentionPolicy with
    | none =>
        rw [given] at retentionBuilt
        cases retentionBuilt
        rfl
    | some policy =>
        rw [given] at retentionBuilt
        obtain ⟨m, made, same⟩ := bind_eq_ok.1 retentionBuilt
        cases same
        have mode : -2 ^ 31 ≤ policy.mode.value ∧ policy.mode.value < 2 ^ 31 := by
          cases policy.mode <;> decide
        have listed : retentionPolicyType ∈ requestTypes := by simp [requestTypes]
        refine ⟨⟨_, rfl⟩, _, rfl, construct_request listed made ?_⟩
        exact ⟨sets_ok ⟨⟨_, rfl⟩, _, rfl, mode⟩, int64Slot_sets "retention_seconds" _, trivial⟩
  have listed : queueMetadataType ∈ requestTypes := by simp [requestTypes]
  apply fields_request listed
  exact ⟨enumSlot_sets "type" (by decide) _ _ typeSet,
    int32Slot_sets "default_max_attempts" _ _ attemptsSet,
    policySlot_sets "lease_duration" _ _ leaseBuilt,
    textSlot_sets "exclusivity_key" _ _ exclusivitySet,
    textSlot_sets "dead_letter_queue_name" _ _ dlqSet, boolSlot_sets "auto_create_dlq" _ _ autoSet,
    textSlot_sets "schema_id" _ _ schemaSet, boolSlot_sets "schema_required" _ _ requiredSet,
    int32Slot_sets "max_payload_size" _ _ payloadSet,
    textsSlot_sets "allowed_content_types" _ _ allowedSet, configTyped,
    leasePolicy_typed policyBuilt "lease_policy", retentionTyped, trivial⟩

theorem metadataSlot_sets (unicode : Unicode) (options : Option CreateQueueOptions) :
    Sets (pool others) (metadataSlot pb unicode options)
      (optional "metadata" (.message queueMetadataType.fullName)) := by
  cases options with
  | none => exact sets_ok rfl
  | some options =>
      intro slot built
      obtain ⟨m, made, same⟩ := bind_eq_ok.1 built
      cases same
      exact ⟨⟨_, rfl⟩, _, rfl, queueMetadata_typed typed made⟩

end Builders

def parseEmpty : PyVal → Except Exc Message
  | .dict [(_, .dict []), (_, .dict []), (_, .str contentType), (_, .str schemaId),
      (_, .int schemaVersion)] =>
      if contentType.encodable ∧ schemaId.encodable ∧ 0 ≤ schemaVersion ∧ schemaVersion < 2 ^ 31 then
        .ok (payloadMessage [] [] contentType schemaId schemaVersion)
      else .error (parseError "no payload")
  | _ => .error (parseError "no payload")

def plainProtobuf : Protobuf :=
  { sampleProtobuf with
    toJsonFormat := sampleFormat
    parseDict := fun name value =>
      if name = payloadName then parseEmpty value else .error (parseError "not a sample") }

theorem parseEmpty_typed (others : Pool) {value : PyVal} {m : Message}
    (parsed : parseEmpty value = .ok m) : m.Typed (pool others) payloadName := by
  rw [parseEmpty.eq_def] at parsed
  split at parsed
  · split at parsed
    · rename_i valid
      obtain ⟨type, id, low, high⟩ := valid
      cases parsed
      have listed : messagePayload ∈ entries := by simp [entries]
      refine fields_entry listed rfl ?_
      exact ⟨⟨_, rfl, List.nodup_nil, List.forall_mem_nil _, trivial⟩,
        ⟨⟨_, rfl⟩, _, rfl, rfl, List.nodup_nil, trivial⟩, ⟨⟨_, rfl⟩, _, rfl, type⟩,
        ⟨⟨_, rfl⟩, _, rfl, id⟩, ⟨⟨_, rfl⟩, _, rfl, by omega, high⟩, trivial⟩
    · cases parsed
  · cases parsed

theorem plainProtobuf_typed (others : Pool) : plainProtobuf.WellTyped (pool others) where
  parseDict := by
    intro name value m parsed
    simp only [plainProtobuf] at parsed
    split at parsed
    · rename_i same
      rw [same]
      exact parseEmpty_typed others parsed
    · cases parsed
  fromJsonString := by
    intro s seconds nanos read
    cases read
    exact ⟨by norm_num, by norm_num, le_rfl, by norm_num⟩

end Nzovu
