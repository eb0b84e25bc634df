import Nzovu.Request.Construct
import Nzovu.Request.DurationGrammar
import Nzovu.Request.RoundTrip

/-!
# Creating a queue

`create_queue` builds the metadata of the queue from options most of which may be missing.
-/

namespace Nzovu
open Proto

inductive RetentionMode
  | deleteImmediately | retainDuration | retainForever
deriving DecidableEq, Repr

def RetentionMode.name : RetentionMode → Str
  | .deleteImmediately => text "DELETE_IMMEDIATELY"
  | .retainDuration => text "RETAIN_DURATION"
  | .retainForever => text "RETAIN_FOREVER"

def RetentionMode.value : RetentionMode → Int
  | .deleteImmediately => 0
  | .retainDuration => 1
  | .retainForever => 2

structure MessageRetentionPolicy where
  mode : RetentionMode := .deleteImmediately
  retentionSeconds : Int := 0

/-- `QueueOptions` with the fields that only `create_queue` reads. The type of a queue is a number of
the enum `QueueType`. -/
structure CreateQueueOptions extends QueueOptions where
  maxAttempts : Option Int := none
  type : Int := 0
  exclusivityKey : Option Str := some []
  deadLetterQueueName : Option Str := some []
  autoCreateDlq : Option Bool := some true
  schemaId : Option Str := some []
  schemaRequired : Option Bool := some false
  maxPayloadSize : Option Int := some 0
  allowedContentTypes : Option (List Str) := none
  priorityConfig : Option (List (Key × PyVal)) := none
  leasePolicy : Option LeasePolicyOptions := none
  retentionPolicy : Option MessageRetentionPolicy := none

def queueTypeEnum : EnumDescriptor where
  values := [(text "SIMPLE", 0), (text "EXCLUSIVE", 1)]
  names := by decide

def retentionModeEnum : EnumDescriptor where
  values := [(text "DELETE_IMMEDIATELY", 0), (text "RETAIN_DURATION", 1), (text "RETAIN_FOREVER", 2)]
  names := by decide

def priorityConfigName : Str := text "nzovu.api.queue.v1.PriorityConfig"

def retentionPolicyType : MessageType where
  fullName := text "nzovu.api.queue.v1.MessageRetentionPolicy"
  descriptor :=
    { fields := [plain "mode" (.enum retentionModeEnum), plain "retention_seconds" (.scalar .int64)]
      names := by decide
      formed := by simp [plain, FieldDescriptor.WellFormed] }

def queueMetadataType : MessageType where
  fullName := text "nzovu.api.queue.v1.QueueMetadata"
  descriptor :=
    { fields :=
        [plain "type" (.enum queueTypeEnum), plain "default_max_attempts" (.scalar .int32),
          optional "lease_duration" (.message durationName),
          plain "exclusivity_key" (.scalar .string),
          plain "dead_letter_queue_name" (.scalar .string),
          plain "auto_create_dlq" (.scalar .bool), plain "schema_id" (.scalar .string),
          plain "schema_required" (.scalar .bool), plain "max_payload_size" (.scalar .int32),
          ⟨text "allowed_content_types", .repeated, .scalar .string, none⟩,
          optional "priority_config" (.message priorityConfigName),
          optional "lease_policy" (.message leasePolicyName),
          optional "message_retention_policy" (.message retentionPolicyType.fullName)]
      names := by decide
      formed := by simp [plain, optional, FieldDescriptor.WellFormed] }

def createQueueRequestType : MessageType where
  fullName := text "nzovu.api.queueservice.v1.CreateQueueRequest"
  descriptor :=
    { fields :=
        [plain "name" (.scalar .string), optional "metadata" (.message queueMetadataType.fullName)]
      names := by decide
      formed := by simp [plain, optional, FieldDescriptor.WellFormed] }

/-! ## The builder -/

/-- `options.priority_config`, when it is a dictionary that is not empty. -/
def CreateQueueOptions.givenConfig (options : CreateQueueOptions) : Option (List (Key × PyVal)) :=
  options.priorityConfig.filter fun entries => !entries.isEmpty

def priorityConfigSlot (pb : Protobuf) (config : Option (List (Key × PyVal))) : Except Exc Slot :=
  match config with
  | none => .ok .absent
  | some entries => do return messageSlot (← pb.parseDict priorityConfigName (.dict entries))

def retentionMessage (policy : MessageRetentionPolicy) : Except Exc Message :=
  construct retentionPolicyType
    [.ok (.single (.enum policy.mode.value)), int64Slot policy.retentionSeconds]

def retentionSlot (policy : Option MessageRetentionPolicy) : Except Exc Slot :=
  match policy with
  | none => .ok .absent
  | some policy => do return messageSlot (← retentionMessage policy)

/-- What the constructor of the metadata is called with. -/
def queueScalars (options : CreateQueueOptions) (leaseDuration : Slot) : List (Except Exc Slot) :=
  [enumSlot queueTypeEnum (.number options.type), int32Slot (options.maxAttempts.getD 0),
    .ok leaseDuration, textSlot (options.exclusivityKey.getD []),
    textSlot (options.deadLetterQueueName.getD []), boolSlot (options.autoCreateDlq.getD false),
    textSlot (options.schemaId.getD []), boolSlot (options.schemaRequired.getD false),
    int32Slot (options.maxPayloadSize.getD 0), textsSlot (options.allowedContentTypes.getD [])]

def queueMetadata (pb : Protobuf) (unicode : Unicode) (options : CreateQueueOptions) :
    Except Exc Message := do
  let leaseDuration ← policySlot unicode options.leaseDuration
  let slots ← setFields (queueScalars options leaseDuration)
  let priorityConfig ← priorityConfigSlot pb options.givenConfig
  let policy ← buildLeasePolicy unicode options.leasePolicy
  let retention ← retentionSlot options.retentionPolicy
  return .fields queueMetadataType.fullName
    (slots ++ [priorityConfig, (policy.map messageSlot).getD .absent, retention])

def metadataSlot (pb : Protobuf) (unicode : Unicode) (options : Option CreateQueueOptions) :
    Except Exc Slot :=
  match options with
  | none => .ok .absent
  | some options => do return messageSlot (← queueMetadata pb unicode options)

def createQueueRequest (pb : Protobuf) (unicode : Unicode) (name : Str)
    (options : Option CreateQueueOptions) : Except Exc Message := do
  let metadata ← metadataSlot pb unicode options
  construct createQueueRequestType [textSlot name, .ok metadata]

/-! ## What is kept -/

def Proto.EnumDescriptor.shown (e : EnumDescriptor) (n : Int) : PyVal :=
  match e.name? n with
  | some name => .str name
  | none => .int n

structure RetentionKept (policy : MessageRetentionPolicy) (shown : PyVal) : Prop where
  mode : shown.get? (text "mode") = some (.str policy.mode.name)
  retentionSeconds : shown.get? (text "retention_seconds") = some (.int policy.retentionSeconds)

structure QueueMetadataKept (pb : Protobuf) (unicode : Unicode) (pool : Pool)
    (options : CreateQueueOptions) (metadata : PyVal) : Prop where
  type : metadata.get? (text "type") = some (queueTypeEnum.shown options.type)
  maxAttempts :
    metadata.get? (text "default_max_attempts") = some (.int (options.maxAttempts.getD 0))
  leaseDuration :
    DurationKept unicode (nonEmpty options.leaseDuration) (metadata.get? (text "lease_duration"))
  exclusivityKey :
    metadata.get? (text "exclusivity_key") = some (.str (options.exclusivityKey.getD []))
  deadLetterQueueName : metadata.get? (text "dead_letter_queue_name") =
    some (.str (options.deadLetterQueueName.getD []))
  autoCreateDlq :
    metadata.get? (text "auto_create_dlq") = some (.bool (options.autoCreateDlq.getD false))
  schemaId : metadata.get? (text "schema_id") = some (.str (options.schemaId.getD []))
  schemaRequired :
    metadata.get? (text "schema_required") = some (.bool (options.schemaRequired.getD false))
  maxPayloadSize :
    metadata.get? (text "max_payload_size") = some (.int (options.maxPayloadSize.getD 0))
  allowedContentTypes : metadata.get? (text "allowed_content_types") =
    some (.list ((options.allowedContentTypes.getD []).map .str))
  priorityConfig :
    match options.givenConfig with
    | none => metadata.get? (text "priority_config") = none
    | some entries => ∃ config, pb.parseDict priorityConfigName (.dict entries) = .ok config ∧
        metadata.get? (text "priority_config") =
          some (protobufToPython pb.toJsonFormat pool config)
  leasePolicy :
    match options.leasePolicy.filter LeasePolicyOptions.anyGiven with
    | none => metadata.get? (text "lease_policy") = none
    | some opts => ∃ policy, metadata.get? (text "lease_policy") = some policy ∧
        LeasePolicyKept unicode opts policy
  retentionPolicy :
    match options.retentionPolicy with
    | none => metadata.get? (text "message_retention_policy") = none
    | some policy => ∃ shown, metadata.get? (text "message_retention_policy") = some shown ∧
        RetentionKept policy shown

structure QueueKept (pb : Protobuf) (unicode : Unicode) (pool : Pool) (name : Str)
    (options : Option CreateQueueOptions) (request : PyVal) : Prop where
  name : request.get? (text "name") = some (.str name)
  metadata :
    match options with
    | none => request.get? (text "metadata") = none
    | some options => ∃ metadata, request.get? (text "metadata") = some metadata ∧
        QueueMetadataKept pb unicode pool options metadata

theorem textsSlot_kept {values : List Str} {slot : Slot} (built : textsSlot values = .ok slot) :
    slot = .repeated (values.map fun s => .scalar (.str s)) := checked_slot built

section Kept
variable {pb : Protobuf} {unicode : Unicode} {pool : Pool} {json : JsonFormat}

theorem contentsToPython_texts (field : FieldDescriptor) (values : List Str) :
    contentsToPython json pool field (values.map fun s => .scalar (.str s)) = values.map .str := by
  induction values with
  | nil => rfl
  | cons s rest ih =>
      rw [List.map_cons, contentsToPython, ih]
      rfl

theorem retentionMessage_kept
    (type : pool retentionPolicyType.fullName = retentionPolicyType.descriptor)
    {policy : MessageRetentionPolicy} {m : Message} (built : retentionMessage policy = .ok m) :
    RetentionKept policy (protobufToPython json pool m) := by
  obtain ⟨slots, set_, same⟩ := bind_eq_ok.1 built
  cases same
  simp only [setFields_cons, setFields_nil] at set_
  obtain ⟨mode, modeSet, -, ⟨seconds, secondsSet, -, rfl, rfl⟩, rfl⟩ := set_
  cases modeSet
  rw [int64Slot_kept secondsSet]
  constructor
  · apply get?_protobufToPython type (i := 0) rfl rfl rfl
    cases policy.mode <;> rfl
  · exact get?_protobufToPython type (i := 1) rfl rfl rfl rfl

structure QueueTypes (pool : Pool) : Prop where
  request : pool createQueueRequestType.fullName = createQueueRequestType.descriptor
  metadata : pool queueMetadataType.fullName = queueMetadataType.descriptor
  retentionPolicy : pool retentionPolicyType.fullName = retentionPolicyType.descriptor
  leasePolicy : pool leasePolicyName = leasePolicyDescriptor

theorem queueMetadata_kept (documented : pb.Documented) (types : QueueTypes pool)
    {options : CreateQueueOptions} {m : Message} (built : queueMetadata pb unicode options = .ok m) :
    QueueMetadataKept pb unicode pool options (protobufToPython pb.toJsonFormat pool m) := by
  obtain ⟨lease, leaseBuilt, built⟩ := bind_eq_ok.1 built
  obtain ⟨slots, set_, built⟩ := bind_eq_ok.1 built
  obtain ⟨config, configBuilt, built⟩ := bind_eq_ok.1 built
  obtain ⟨policy, policyBuilt, built⟩ := bind_eq_ok.1 built
  obtain ⟨retention, retentionBuilt, built⟩ := bind_eq_ok.1 built
  cases built
  simp only [queueScalars, setFields_cons, setFields_nil] at set_
  obtain ⟨type, typeSet, -, ⟨attempts, attemptsSet, -, ⟨lease', same, -, ⟨exclusivity, exclusivitySet,
    -, ⟨dlq, dlqSet, -, ⟨auto, autoSet, -, ⟨schema, schemaSet, -, ⟨required, requiredSet, -,
    ⟨payload, payloadSet, -, ⟨allowed, allowedSet, -, rfl, rfl⟩, rfl⟩, rfl⟩, rfl⟩, rfl⟩, rfl⟩, rfl⟩,
    rfl⟩, rfl⟩, rfl⟩ := set_
  cases same
  cases autoSet
  cases requiredSet
  rw [numberSlot_kept typeSet, int32Slot_kept attemptsSet, textSlot_kept exclusivitySet,
    textSlot_kept dlqSet, textSlot_kept schemaSet, int32Slot_kept payloadSet,
    textsSlot_kept allowedSet]
  have read := types.metadata
  constructor
  · exact get?_protobufToPython read (i := 0) rfl rfl rfl rfl
  · exact get?_protobufToPython read (i := 1) rfl rfl rfl rfl
  · exact policySlot_kept documented "lease_duration" leaseBuilt
      (get?_protobufToPython read (i := 2) rfl rfl rfl rfl)
  · exact get?_protobufToPython read (i := 3) rfl rfl rfl rfl
  · exact get?_protobufToPython read (i := 4) rfl rfl rfl rfl
  · exact get?_protobufToPython read (i := 5) rfl rfl rfl rfl
  · exact get?_protobufToPython read (i := 6) rfl rfl rfl rfl
  · exact get?_protobufToPython read (i := 7) rfl rfl rfl rfl
  · exact get?_protobufToPython read (i := 8) rfl rfl rfl rfl
  · apply get?_protobufToPython read (i := 9) rfl rfl rfl
    rw [← contentsToPython_texts]
    rfl
  · cases given : options.givenConfig with
    | none =>
        rw [given] at configBuilt
        cases configBuilt
        exact get?_protobufToPython read (i := 10) rfl rfl rfl rfl
    | some entries =>
        rw [given] at configBuilt
        obtain ⟨m, parsed, same⟩ := bind_eq_ok.1 configBuilt
        cases same
        exact ⟨m, parsed, get?_protobufToPython read (i := 10) rfl rfl rfl rfl⟩
  · have kept := leasePolicy_kept_of documented types.leasePolicy policyBuilt
    cases given : options.leasePolicy.filter LeasePolicyOptions.anyGiven with
    | none =>
        rw [given] at kept
        subst kept
        exact get?_protobufToPython read (i := 11) rfl rfl rfl rfl
    | some opts =>
        rw [given] at kept
        obtain ⟨m, rfl, kept⟩ := kept
        exact ⟨_, get?_protobufToPython read (i := 11) rfl rfl rfl rfl, kept⟩
  · cases given : options.retentionPolicy with
    | none =>
        rw [given] at retentionBuilt
        cases retentionBuilt
        exact get?_protobufToPython read (i := 12) rfl rfl rfl rfl
    | some policy =>
        rw [given] at retentionBuilt
        obtain ⟨m, made, same⟩ := bind_eq_ok.1 retentionBuilt
        cases same
        exact ⟨_, get?_protobufToPython read (i := 12) rfl rfl rfl rfl,
          retentionMessage_kept types.retentionPolicy made⟩

theorem createQueueRequest_kept (documented : pb.Documented) (types : QueueTypes pool) {name : Str}
    {options : Option CreateQueueOptions} {request : Message}
    (built : createQueueRequest pb unicode name options = .ok request) :
    QueueKept pb unicode pool name options (protobufToPython pb.toJsonFormat pool request) := by
  obtain ⟨metadata, metadataBuilt, built⟩ := bind_eq_ok.1 built
  obtain ⟨slots, set_, same⟩ := bind_eq_ok.1 built
  cases same
  simp only [setFields_cons, setFields_nil] at set_
  obtain ⟨text_, textSet, -, ⟨metadata', same, -, rfl, rfl⟩, rfl⟩ := set_
  cases same
  rw [textSlot_kept textSet]
  constructor
  · exact get?_protobufToPython types.request (i := 0) rfl rfl rfl rfl
  · cases options with
    | none =>
        cases metadataBuilt
        exact get?_protobufToPython types.request (i := 1) rfl rfl rfl rfl
    | some options =>
        obtain ⟨m, made, same⟩ := bind_eq_ok.1 metadataBuilt
        cases same
        exact ⟨_, get?_protobufToPython types.request (i := 1) rfl rfl rfl rfl,
          queueMetadata_kept documented types made⟩

end Kept

end Nzovu
