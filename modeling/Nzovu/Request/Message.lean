import Nzovu.Request.Duration
import Nzovu.Request.Payload

/-!
# Posting a message

`_create_post_message_request` checks its parameters and builds the message that is posted.
-/

namespace Nzovu
open Proto

/-- What a list of headers may hold: a `Header` with any attributes, or something else. -/
inductive HeaderObject
  | header (key value : PyVal)
  | other (value : PyVal)

inductive MessageState
  | invisible | pending | running | completed | canceled | errored
deriving DecidableEq, Repr

def MessageState.name : MessageState → Str
  | .invisible => text "INVISIBLE"
  | .pending => text "PENDING"
  | .running => text "RUNNING"
  | .completed => text "COMPLETED"
  | .canceled => text "CANCELED"
  | .errored => text "ERRORED"

/-- A state may also be given as the enum of the message stores it. -/
inductive StateOption
  | member (state : MessageState)
  | name (name : Str)
  | number (number : Int)

structure LeasePolicyOptions where
  baseLease : Option Str := none
  maxExtension : Option Str := none
  heartbeatTimeout : Option Str := none
  extendStep : Option Str := none
  maxRenewals : Option Int := none

structure PostMessageOptions where
  priority : Int := 0
  state : StateOption := .member .invisible
  leaseDuration : Option Str := none
  maxAttempts : Int := 0
  dataMetadata : PyVal := .dict []
  leasePolicy : Option LeasePolicyOptions := none
  headers : List HeaderObject := []
  contentType : Str := []
  schemaId : Str := []
  schemaVersion : Int := 0
  scheduledTime : Option Str := none

structure PostMessageParams where
  messageId : Str
  data : PyVal
  queueName : Str
  options : Option PostMessageOptions := some {}

/-- `params.options or PostMessageOptions()`. -/
def PostMessageParams.given (params : PostMessageParams) : PostMessageOptions :=
  params.options.getD {}

def messageName : Str := text "nzovu.api.message.v1.Message"

def metadataName : Str := text "nzovu.api.message.v1.Message.Metadata"

def headerName : Str := text "nzovu.api.message.v1.Message.Metadata.Header"

def attemptName : Str := text "nzovu.api.message.v1.Message.Metadata.AttemptRuntime"

def leasePolicyName : Str := text "nzovu.api.common.v1.LeasePolicy"

def durationName : Str := text "google.protobuf.Duration"

def timestampName : Str := text "google.protobuf.Timestamp"

def stateEnum : EnumDescriptor where
  values :=
    [(text "INVISIBLE", 0), (text "PENDING", 1), (text "RUNNING", 2), (text "COMPLETED", 3),
      (text "CANCELED", 4), (text "ERRORED", 5)]
  names := by decide

def plain (name : String) (type : FieldType) : FieldDescriptor :=
  ⟨text name, .singular false, type, none⟩

def optional (name : String) (type : FieldType) : FieldDescriptor :=
  ⟨text name, .singular true, type, none⟩

def messageDescriptor : MessageDescriptor where
  fields := [plain "message_id" (.scalar .string), optional "metadata" (.message metadataName)]
  names := by decide
  formed := by
    simp [plain, optional, FieldDescriptor.WellFormed]

def metadataDescriptor : MessageDescriptor where
  fields :=
    [optional "payload" (.message payloadName), plain "state" (.enum stateEnum),
      plain "attempts_left" (.scalar .int32), optional "lease_duration" (.message durationName),
      plain "lease_expiry" (.scalar .int64), plain "lease_renewal_count" (.scalar .int32),
      plain "priority" (.scalar .int64), plain "max_attempts" (.scalar .int32),
      optional "lease_policy" (.message leasePolicyName),
      optional "current_attempt" (.message attemptName),
      optional "scheduled_time" (.message timestampName),
      plain "priority_level" (.scalar .int32),
      ⟨text "headers", .repeated, .message headerName, none⟩]
  names := by decide
  formed := by
    simp [plain, optional, FieldDescriptor.WellFormed]

def headerDescriptor : MessageDescriptor where
  fields := [plain "key" (.scalar .string), plain "value" (.scalar .bytes)]
  names := by decide
  formed := by
    simp [plain, FieldDescriptor.WellFormed]

def attemptDescriptor : MessageDescriptor where
  fields :=
    [plain "attempt_id" (.scalar .string), plain "worker_id" (.scalar .string),
      optional "lease_started_at" (.message timestampName), plain "lease_expiry" (.scalar .int64),
      optional "lease_extension_used" (.message durationName),
      plain "lease_renewal_count" (.scalar .int32),
      optional "last_heartbeat_at" (.message timestampName),
      plain "heartbeat_expiry" (.scalar .int64)]
  names := by decide
  formed := by
    simp [plain, optional, FieldDescriptor.WellFormed]

def payloadDescriptor : MessageDescriptor where
  fields :=
    [⟨text "metadata", .map .string, .message (text "google.protobuf.Value"), none⟩,
      optional "data" (.message (text "google.protobuf.Struct")),
      plain "content_type" (.scalar .string), plain "schema_id" (.scalar .string),
      plain "schema_version" (.scalar .int32)]
  names := by decide
  formed := by
    simp [plain, optional, FieldDescriptor.WellFormed]

def leasePolicyDescriptor : MessageDescriptor where
  fields :=
    [optional "base_lease" (.message durationName), optional "max_extension" (.message durationName),
      optional "heartbeat_timeout" (.message durationName),
      optional "extend_step" (.message durationName), optional "max_renewals" (.scalar .int32)]
  names := by decide
  formed := by
    simp [optional, FieldDescriptor.WellFormed]

def messagePool : Pool := fun name =>
  if name = messageName then messageDescriptor
  else if name = metadataName then metadataDescriptor
  else if name = headerName then headerDescriptor
  else if name = attemptName then attemptDescriptor
  else if name = payloadName then payloadDescriptor
  else if name = leasePolicyName then leasePolicyDescriptor
  else ⟨[], List.nodup_nil, fun _ member => nomatch member⟩

@[simp]
theorem messagePool_payload : messagePool payloadName = payloadDescriptor := rfl

@[simp]
theorem messagePool_message : messagePool messageName = messageDescriptor := rfl

@[simp]
theorem messagePool_metadata : messagePool metadataName = metadataDescriptor := rfl

@[simp]
theorem messagePool_header : messagePool headerName = headerDescriptor := rfl

@[simp]
theorem messagePool_leasePolicy : messagePool leasePolicyName = leasePolicyDescriptor := rfl

/-! ## Fields of the protobuf package -/

/-- A text field rejects what UTF-8 cannot encode with a `UnicodeEncodeError`, a `ValueError`. -/
def textSlot (s : Str) : Except Exc Slot :=
  if s.encodable then .ok (.single (.scalar (.str s)))
  else .error (valueError (text "surrogates not allowed"))

def int32Slot (n : Int) : Except Exc Slot :=
  if -2 ^ 31 ≤ n ∧ n < 2 ^ 31 then .ok (.single (.scalar (.int n)))
  else .error (valueError (text "Value out of range: " ++ decimal n))

def enumSlot (e : EnumDescriptor) : StateOption → Except Exc Slot
  | .number n =>
      if -2 ^ 31 ≤ n ∧ n < 2 ^ 31 then .ok (.single (.enum n))
      else .error (valueError (text "Value out of range: " ++ decimal n))
  | .name name => ofName name
  | .member state => ofName state.name
where
  ofName (name : Str) : Except Exc Slot :=
    match e.number? name with
    | some n => .ok (.single (.enum n))
    | none => .error (valueError (text "unknown enum label " ++ name))

def messageSlot (m : Message) : Slot := .single (.message m)

def durationSlot (d : Nat × Nat) : Slot := messageSlot (.wellKnown (.duration d.1 d.2))

def timestampSlot (t : Int × Int) : Slot := messageSlot (.wellKnown (.timestamp t.1 t.2))

def zeroSlot : Slot := .single (.scalar (.int 0))

theorem checked_slot {c : Prop} [Decidable c] {e : Exc} {given slot : Slot}
    (built : (if c then .ok given else .error e : Except Exc Slot) = .ok slot) : slot = given := by
  split at built <;> cases built
  rfl

theorem textSlot_kept {s : Str} {slot : Slot} (built : textSlot s = .ok slot) :
    slot = .single (.scalar (.str s)) := checked_slot built

theorem int32Slot_kept {n : Int} {slot : Slot} (built : int32Slot n = .ok slot) :
    slot = .single (.scalar (.int n)) := checked_slot built

theorem numberSlot_kept {e : EnumDescriptor} {n : Int} {slot : Slot}
    (built : enumSlot e (.number n) = .ok slot) : slot = .single (.enum n) := checked_slot built

theorem enumSlot_kept {e : EnumDescriptor} {state : StateOption} {slot : Slot}
    (built : enumSlot e state = .ok slot) : ∃ n, slot = .single (.enum n) := by
  have named : ∀ name, enumSlot.ofName e name = .ok slot → ∃ n, slot = .single (.enum n) := by
    intro name built
    rw [enumSlot.ofName] at built
    split at built <;> cases built
    exact ⟨_, rfl⟩
  cases state with
  | member state => exact named state.name built
  | name label => exact named label built
  | number n => exact ⟨n, numberSlot_kept built⟩

/-! ## Builders -/

def isHeaderKeyChar (c : Nat) : Bool :=
  (0x61 ≤ c && c ≤ 0x7a) || (0x30 ≤ c && c ≤ 0x39) || c == 0x2d

/-- `re.fullmatch(r"[a-z0-9-]+", key)`. -/
def isHeaderKey (key : Str) : Bool := key ≠ [] && key.all isHeaderKeyChar

def reservedPrefixes : List Str := [text "x-nzovu-", text "x-internal-", text "x-system-"]

def checkHeader : HeaderObject → Except Exc (Str × List UInt8)
  | .other _ => .error (valueError (text "headers must contain Header instances"))
  | .header key value =>
      match key with
      | .str key =>
          if !isHeaderKey key then
            .error (valueError (text "Header keys allow lowercase letters, numbers and hyphens"))
          else if reservedPrefixes.any (List.isPrefixOf · key) then
            .error (valueError (text "Header key uses a reserved prefix"))
          else
            match value with
            | .bytes value =>
                if 4096 < value.length then
                  .error (valueError (text "Header values must be bytes of at most 4096 bytes"))
                else .ok (key, value)
            | _ => .error (valueError (text "Header values must be bytes of at most 4096 bytes"))
      | _ => .error (valueError (text "Header keys allow lowercase letters, numbers and hyphens"))

/-- The loop of `build_headers`, with the headers built and their total so far. -/
def collectHeaders (headers : List HeaderObject) (result : List (Str × List UInt8)) (total : Nat) :
    Except Exc (List (Str × List UInt8) × Nat) :=
  match headers with
  | [] => .ok (result, total)
  | header :: rest => do
      let (key, value) ← checkHeader header
      collectHeaders rest (result ++ [(key, value)]) (total + (key.length + value.length))

def buildHeaders (headers : List HeaderObject) : Except Exc (List (Str × List UInt8)) := do
  let (result, total) ← collectHeaders headers [] 0
  if 32768 < total then
    .error (valueError (text "Total header keys and values exceed 32768 bytes"))
  return result

def headerMessage (header : Str × List UInt8) : Message :=
  .fields headerName [.single (.scalar (.str header.1)), .single (.scalar (.bytes header.2))]

/-- A duration of a lease policy is set when its text is not empty. -/
def policySlot (unicode : Unicode) (duration : Option Str) : Except Exc Slot :=
  match duration with
  | none | some [] => .ok .absent
  | some s => do return durationSlot (← stringToDuration unicode s)

def isGiven (duration : Option Str) : Bool :=
  match duration with
  | none | some [] => false
  | some _ => true

def LeasePolicyOptions.anyGiven (opts : LeasePolicyOptions) : Bool :=
  [opts.baseLease, opts.maxExtension, opts.heartbeatTimeout, opts.extendStep].any isGiven ||
    opts.maxRenewals.isSome

def maxRenewalsSlot (maxRenewals : Option Int) : Except Exc Slot :=
  match maxRenewals with
  | none => .ok .absent
  | some n => do
      validateInteger n (text "max_renewals") 0 (2 ^ 31 - 1)
      int32Slot n

def buildLeasePolicy (unicode : Unicode) (opts : Option LeasePolicyOptions) :
    Except Exc (Option Message) :=
  match opts with
  | none => .ok none
  | some opts =>
      if !opts.anyGiven then .ok none
      else do
        let baseLease ← policySlot unicode opts.baseLease
        let maxExtension ← policySlot unicode opts.maxExtension
        let heartbeatTimeout ← policySlot unicode opts.heartbeatTimeout
        let extendStep ← policySlot unicode opts.extendStep
        let maxRenewals ← maxRenewalsSlot opts.maxRenewals
        return some (.fields leasePolicyName
          [baseLease, maxExtension, heartbeatTimeout, extendStep, maxRenewals])

def isMessageIdChar (c : Nat) : Bool :=
  (0x61 ≤ c && c ≤ 0x7a) || (0x41 ≤ c && c ≤ 0x5a) || (0x30 ≤ c && c ≤ 0x39) || c == 0x5f ||
    c == 0x2d

/-- `re.fullmatch(r"[a-zA-Z0-9_-]{1,256}", message_id)`. -/
def isMessageId (messageId : Str) : Bool :=
  1 ≤ messageId.length && messageId.length ≤ 256 && messageId.all isMessageIdChar

structure PostMessageRequest where
  queueName : Slot
  message : Message

/-- A duration that the message has when it is given, if only as an empty text. -/
def leaseSlot (unicode : Unicode) (duration : Option Str) : Except Exc Slot :=
  match duration with
  | none => .ok .absent
  | some s => do return durationSlot (← stringToDuration unicode s)

def scheduledSlot (pb : Protobuf) (scheduledTime : Option Str) : Except Exc Slot :=
  match scheduledTime with
  | none => .ok .absent
  | some s => do return timestampSlot (← pb.fromJsonString s)

def metadataMessage (options : PostMessageOptions) (payload : Message)
    (state leaseDuration maxAttempts : Slot) (policy : Option Message) (scheduledTime : Slot)
    (headers : List (Str × List UInt8)) : Message :=
  .fields metadataName
    [messageSlot payload, state, zeroSlot, leaseDuration, zeroSlot, zeroSlot,
      .single (.scalar (.int options.priority)), maxAttempts,
      (policy.map messageSlot).getD .absent, .absent, scheduledTime, zeroSlot,
      .repeated (headers.map fun header => .message (headerMessage header))]

def postedMessage (messageId : Str) (metadata : Message) : Message :=
  .fields messageName [.single (.scalar (.str messageId)), messageSlot metadata]

def createPostMessageRequest (pb : Protobuf) (python : Interpreter) (params : PostMessageParams) :
    Except Exc PostMessageRequest := do
  requireName params.queueName (text "queue_name")
  if !isMessageId params.messageId then
    .error (valueError (text
      "message_id must contain 1-256 ASCII letters, numbers, underscores or hyphens"))
  let options := params.given
  validateInteger options.priority (text "priority") 0 4
  let payload ← buildPayload pb python params.data options.dataMetadata options.contentType
    options.schemaId options.schemaVersion
  let leaseDuration ← leaseSlot python.unicode options.leaseDuration
  let headers ← buildHeaders options.headers
  -- Fields are set in the order of the arguments of the constructor.
  pb.reparse payload
  let state ← enumSlot stateEnum options.state
  let maxAttempts ← int32Slot options.maxAttempts
  let policy ← buildLeasePolicy python.unicode options.leasePolicy
  let scheduledTime ← scheduledSlot pb options.scheduledTime
  let metadata := metadataMessage options payload state leaseDuration maxAttempts policy
    scheduledTime headers
  pb.reparse metadata
  let queueName ← textSlot params.queueName
  pb.reparse (postedMessage params.messageId metadata)
  return ⟨queueName, postedMessage params.messageId metadata⟩

end Nzovu
