import Mathlib.Data.List.Forall2
import Nzovu.Request.Headers

/-!
# What a posted message keeps of its parameters

The message that the builders make is read again with `protobuf_to_python`, as the responses of the
server are.
-/

namespace Nzovu
open Proto

mutual

/-- The value equals the other in Python: numbers as numbers, and dictionaries in any order, with each
entry of one paired with an entry of the other of the same key. -/
def PyVal.Same (value given : PyVal) : Prop :=
  match value with
  | .none => given = .none
  | .bool b => given = .bool b
  | .int n => given.finite? = some (n : ℚ)
  | .float d => ∃ q, d.value = some q ∧ given.finite? = some q
  | .str s => given = .str s
  | .bytes b => given = .bytes b
  | .list items => ∃ others, given = .list others ∧ PyVal.itemsSame items others
  | .dict entries =>
      ∃ others paired, given = .dict others ∧ others.Perm paired ∧ PyVal.entriesSame entries paired
  | .other _ => False

def PyVal.itemsSame (items others : List PyVal) : Prop :=
  match items, others with
  | [], [] => True
  | item :: items, first :: others => PyVal.Same item first ∧ PyVal.itemsSame items others
  | _, _ => False

def PyVal.entriesSame (entries paired : List (Key × PyVal)) : Prop :=
  match entries, paired with
  | [], [] => True
  | (key, item) :: entries, (sameKey, given) :: paired =>
      (key = sameKey ∧ PyVal.Same item given) ∧ PyVal.entriesSame entries paired
  | _, _ => False

end

mutual

def PyVal.Representable : PyVal → Prop
  | .int n => Double.Exact n
  | .float d => ∃ q, d.value = some q ∧ Double.Exact q
  | .list items => PyVal.itemsRepresentable items
  | .dict entries => PyVal.entriesRepresentable entries
  | _ => True

def PyVal.itemsRepresentable : List PyVal → Prop
  | [] => True
  | item :: rest => item.Representable ∧ PyVal.itemsRepresentable rest

def PyVal.entriesRepresentable : List (Key × PyVal) → Prop
  | [] => True
  | (_, item) :: rest => item.Representable ∧ PyVal.entriesRepresentable rest

end

theorem PyVal.representable_of_mem {entries : List (Key × PyVal)} {key : Key} {value : PyVal}
    (representable : PyVal.entriesRepresentable entries) (member : (key, value) ∈ entries) :
    value.Representable := by
  induction entries with
  | nil => cases member
  | cons entry rest ih =>
      rcases List.mem_cons.1 member with rfl | later
      · exact representable.1
      · exact ih representable.2 later

def structName : Str := text "google.protobuf.Struct"

def valueName : Str := text "google.protobuf.Value"

def PyVal.entries : PyVal → List (Key × PyVal)
  | .dict entries => entries
  | _ => []

def payloadMessage (metadata : List (Str × JsonValue)) (data : List (Str × JsonValue))
    (contentType schemaId : Str) (schemaVersion : Int) : Message :=
  .fields payloadName
    [.map (metadata.map fun entry => (.str entry.1, .message (.wellKnown (.value entry.2)))),
      messageSlot (.wellKnown (.struct data)), .single (.scalar (.str contentType)),
      .single (.scalar (.str schemaId)), .single (.scalar (.int schemaVersion))]

/-- What the protobuf package promises: `ParseDict` stores a payload field by field, on JSON values
`MessageToDict` is its inverse, and `ToJsonString` writes a duration in its JSON form. -/
structure Protobuf.Documented (pb : Protobuf) : Prop where
  payload : ∀ data metadata contentType schemaId schemaVersion m,
    pb.parseDict payloadName (payloadValues data metadata contentType schemaId schemaVersion) =
      .ok m →
    ∃ (stored fields : List (Str × JsonValue)),
      m = payloadMessage stored fields contentType schemaId schemaVersion ∧
      pb.parseDict structName data = .ok (.wellKnown (.struct fields)) ∧
      ∃ paired, (orEmpty metadata).entries.Perm paired ∧
        List.Forall₂ (fun entry given => .str entry.1 = given.1 ∧
          pb.parseDict valueName given.2 = .ok (.wellKnown (.value entry.2))) stored paired
  inverse : ∀ v w, w.fullName ∈ jsonNames → pb.parseDict w.fullName v = .ok (.wellKnown w) →
    v.Representable → PyVal.Same (pb.messageToDict w) v
  duration : ∀ seconds nanos : Nat, seconds ≤ 315576000000 → nanos < 10 ^ 9 →
    pb.toJsonString (.duration seconds nanos) = durationText seconds nanos

/-! ## What is kept -/

def DurationKept (unicode : Unicode) (given : Option Str) (shown : Option PyVal) : Prop :=
  match given with
  | none => shown = none
  | some s => ∃ t q, shown = some (.str t) ∧ writtenSeconds unicode s = some q ∧
      writtenSeconds unicode t = some q

def nonEmpty : Option Str → Option Str
  | none | some [] => none
  | some s => some s

structure LeasePolicyKept (unicode : Unicode) (opts : LeasePolicyOptions) (policy : PyVal) :
    Prop where
  baseLease : DurationKept unicode (nonEmpty opts.baseLease) (policy.get? (text "base_lease"))
  maxExtension :
    DurationKept unicode (nonEmpty opts.maxExtension) (policy.get? (text "max_extension"))
  heartbeatTimeout :
    DurationKept unicode (nonEmpty opts.heartbeatTimeout) (policy.get? (text "heartbeat_timeout"))
  extendStep : DurationKept unicode (nonEmpty opts.extendStep) (policy.get? (text "extend_step"))
  maxRenewals : policy.get? (text "max_renewals") = opts.maxRenewals.map .int

structure PayloadKept (data : PyVal) (options : PostMessageOptions) (payload : PyVal) : Prop where
  data : ∃ v, payload.get? (text "data") = some v ∧ PyVal.Same v data
  metadata : ∃ v, payload.get? (text "metadata") = some v ∧
    PyVal.Same v (orEmpty options.dataMetadata)
  contentType : payload.get? (text "content_type") = some (.str options.contentType)
  schemaId : payload.get? (text "schema_id") = some (.str options.schemaId)
  schemaVersion : payload.get? (text "schema_version") = some (.int options.schemaVersion)

def StateOption.shown : StateOption → PyVal
  | .member state => .str state.name
  | .name label => .str label
  | .number n =>
      match stateEnum.name? n with
      | some label => .str label
      | none => .int n

def shownHeader (header : Str × List UInt8) : PyVal :=
  .dict [(.str (text "key"), .str header.1), (.str (text "value"), .bytes header.2)]

structure MetadataKept (unicode : Unicode) (data : PyVal) (options : PostMessageOptions)
    (metadata : PyVal) : Prop where
  payload : ∃ payload, metadata.get? (text "payload") = some payload ∧
    PayloadKept data options payload
  state : metadata.get? (text "state") = some options.state.shown
  priority : metadata.get? (text "priority") = some (.int options.priority)
  maxAttempts : metadata.get? (text "max_attempts") = some (.int options.maxAttempts)
  headers : ∃ headers : List (Str × List UInt8),
    options.headers = headers.map (fun header => .header (.str header.1) (.bytes header.2)) ∧
    metadata.get? (text "headers") = some (.list (headers.map shownHeader))
  leaseDuration :
    DurationKept unicode options.leaseDuration (metadata.get? (text "lease_duration"))
  scheduledTime :
    (metadata.get? (text "scheduled_time")).isSome = options.scheduledTime.isSome
  leasePolicy :
    match options.leasePolicy.filter LeasePolicyOptions.anyGiven with
    | none => metadata.get? (text "lease_policy") = none
    | some opts => ∃ policy, metadata.get? (text "lease_policy") = some policy ∧
        LeasePolicyKept unicode opts policy

structure Kept (unicode : Unicode) (params : PostMessageParams) (result : PyVal) : Prop where
  messageId : result.get? (text "message_id") = some (.str params.messageId)
  metadata : ∃ metadata, result.get? (text "metadata") = some metadata ∧
    MetadataKept unicode params.data params.given metadata

variable {json : JsonFormat} {pool : Pool}

theorem get?_cons (key name : Str) (value : PyVal) (entries : List (Key × PyVal)) :
    (PyVal.dict ((.str key, value) :: entries)).get? name =
      if key = name then some value else (PyVal.dict entries).get? name := by
  by_cases same : key = name <;> simp [PyVal.get?, same]

theorem get?_fieldsToPython_none {fields : List FieldDescriptor} {slots : List Slot} {name : Str}
    (absent : name ∉ fields.map FieldDescriptor.name) :
    (PyVal.dict (fieldsToPython json pool fields slots)).get? name = none := by
  induction fields generalizing slots with
  | nil => cases slots <;> simp [fieldsToPython, PyVal.get?]
  | cons first fields ih =>
      rw [List.map_cons, List.mem_cons, not_or] at absent
      cases slots with
      | nil => simp [fieldsToPython, PyVal.get?]
      | cons head slots =>
          rw [fieldsToPython]
          split
          · exact ih absent.2
          · rw [get?_cons, if_neg (Ne.symm absent.1)]
            exact ih absent.2

def shownSlot (json : JsonFormat) (pool : Pool) (field : FieldDescriptor) (slot : Slot) :
    Option PyVal :=
  if field.hasPresence && slot.isAbsent then none else some (slotToPython json pool field slot)

theorem get?_fieldsToPython {fields : List FieldDescriptor} {slots : List Slot}
    (names : (fields.map FieldDescriptor.name).Nodup) {i : Nat} {field : FieldDescriptor}
    {slot : Slot} (here : fields[i]? = some field) (there : slots[i]? = some slot) :
    (PyVal.dict (fieldsToPython json pool fields slots)).get? field.name =
      shownSlot json pool field slot := by
  induction fields generalizing slots i with
  | nil => simp at here
  | cons first fields ih =>
      cases slots with
      | nil => simp at there
      | cons head slots =>
          rw [List.map_cons, List.nodup_cons] at names
          rw [fieldsToPython]
          cases i with
          | zero =>
              cases here
              cases there
              rw [shownSlot]
              split
              · exact get?_fieldsToPython_none names.1
              · rw [get?_cons, if_pos rfl]
          | succ i =>
              rw [List.getElem?_cons_succ] at here there
              have later := List.mem_map_of_mem (f := FieldDescriptor.name)
                (List.mem_of_getElem? here)
              have different : first.name ≠ field.name := by
                intro same
                rw [same] at names
                exact names.1 later
              split
              · exact ih names.2 here there
              · rw [get?_cons, if_neg different]
                exact ih names.2 here there

theorem get?_protobufToPython {fullName : Str} {descriptor : MessageDescriptor}
    (type : pool fullName = descriptor) {slots : List Slot} {name : Str} {i : Nat}
    {field : FieldDescriptor} {slot : Slot} {shown : Option PyVal}
    (here : descriptor.fields[i]? = some field) (there : slots[i]? = some slot)
    (named : field.name = name) (value : shownSlot json pool field slot = shown) :
    (protobufToPython json pool (.fields fullName slots)).get? name = shown := by
  rw [protobufToPython, type, ← named, ← value]
  exact get?_fieldsToPython descriptor.names here there

theorem entriesSame_iff {entries paired : List (Key × PyVal)} :
    PyVal.entriesSame entries paired ↔
      List.Forall₂ (fun entry given => entry.1 = given.1 ∧ PyVal.Same entry.2 given.2)
        entries paired := by
  induction entries generalizing paired with
  | nil => cases paired <;> simp [PyVal.entriesSame]
  | cons entry entries ih => cases paired <;> simp [PyVal.entriesSame, ih]

theorem entriesSame_keys {entries paired : List (Key × PyVal)}
    (same : PyVal.entriesSame entries paired) : entries.map Prod.fst = paired.map Prod.fst := by
  rw [entriesSame_iff] at same
  induction same with
  | nil => rfl
  | cons first _ ih => rw [List.map_cons, List.map_cons, first.1, ih]

theorem PyVal.Same.keys {entries others : List (Key × PyVal)}
    (same : PyVal.Same (.dict entries) (.dict others)) :
    (entries.map Prod.fst).Perm (others.map Prod.fst) := by
  obtain ⟨_, paired, given, all, each⟩ := same
  cases given
  rw [entriesSame_keys each]
  exact (all.map Prod.fst).symm

theorem entriesToPython_values (field : FieldDescriptor) (stored : List (Str × JsonValue)) :
    entriesToPython json pool field
        (stored.map fun entry => (.str entry.1, .message (.wellKnown (.value entry.2)))) =
      stored.map fun entry => (.str entry.1, json.messageToDict (.value entry.2)) := by
  have ordinary : ∀ v : JsonValue, (WellKnown.value v).fullName ∉ timeNames := by
    intro v
    simp only [WellKnown.fullName]
    decide
  induction stored with
  | nil => rfl
  | cons entry rest ih =>
      simp only [List.map_cons, entriesToPython, fieldValue, protobufToPython, if_neg (ordinary _),
        ih]

section Parts
variable {unicode : Unicode} {pb : Protobuf} (documented : pb.Documented)
include documented

theorem leaseSlot_kept (name : String) {given : Option Str} {slot : Slot} {shown : Option PyVal}
    (built : leaseSlot unicode given = .ok slot)
    (read : shown = shownSlot pb.toJsonFormat pool (optional name (.message durationName)) slot) :
    DurationKept unicode given shown := by
  subst read
  cases given with
  | none =>
      cases built
      rfl
  | some s =>
      cases accepted : stringToDuration unicode s with
      | error e =>
          rw [leaseSlot, accepted] at built
          cases built
      | ok d =>
          rw [leaseSlot, accepted] at built
          cases built
          obtain ⟨seconds, nanos⟩ := d
          obtain ⟨written, small, range⟩ := stringToDuration_exact accepted
          refine ⟨_, _, ?_, written, writtenSeconds_durationText _ small⟩
          have known : (WellKnown.duration seconds nanos).fullName ∈ timeNames := by
            simp [WellKnown.fullName, timeNames]
          simp [shownSlot, durationSlot, messageSlot, Slot.isAbsent, slotToPython, fieldValue,
            protobufToPython, known, documented.duration seconds nanos range small]

theorem policySlot_kept (name : String) {given : Option Str} {slot : Slot} {shown : Option PyVal}
    (built : policySlot unicode given = .ok slot)
    (read : shown = shownSlot pb.toJsonFormat pool (optional name (.message durationName)) slot) :
    DurationKept unicode (nonEmpty given) shown := by
  have same : policySlot unicode given = leaseSlot unicode (nonEmpty given) := by
    cases given with
    | none => rfl
    | some s => cases s <;> rfl
  rw [same] at built
  exact leaseSlot_kept documented name built read

theorem payload_kept_of (type : pool payloadName = payloadDescriptor) {python : Interpreter}
    {data : PyVal} {options : PostMessageOptions} {m : Message}
    (built : buildPayload pb python data options.dataMetadata options.contentType options.schemaId
      options.schemaVersion = .ok m)
    (dataExact : data.Representable) (metadataExact : options.dataMetadata.Representable) :
    PayloadKept data options (protobufToPython pb.toJsonFormat pool m) := by
  obtain ⟨-, -, parsed⟩ := bind_eq_ok.1 built
  obtain ⟨stored, fields, rfl, struct, paired, all, values⟩ := documented.payload _ _ _ _ _ _ parsed
  have time : (WellKnown.struct fields).fullName ∉ timeNames := by
    simp only [WellKnown.fullName]
    decide
  rw [payloadMessage]
  constructor
  · refine ⟨_, get?_protobufToPython type (i := 1) rfl rfl rfl rfl, ?_⟩
    change PyVal.Same (protobufToPython pb.toJsonFormat pool (.wellKnown (.struct fields))) data
    rw [protobufToPython, if_neg time]
    exact documented.inverse data (.struct fields) (by simp [WellKnown.fullName, jsonNames]) struct
      dataExact
  · refine ⟨_, get?_protobufToPython type (i := 0) rfl rfl rfl rfl, ?_⟩
    have exact_ : PyVal.entriesRepresentable (orEmpty options.dataMetadata).entries := by
      cases given : options.dataMetadata with
      | dict entries =>
          rw [given] at metadataExact
          exact metadataExact
      | _ => trivial
    have dict : orEmpty options.dataMetadata = .dict (orEmpty options.dataMetadata).entries := by
      cases options.dataMetadata <;> rfl
    change PyVal.Same (.dict (entriesToPython pb.toJsonFormat pool _ (stored.map _))) _
    rw [entriesToPython_values]
    refine ⟨_, paired, dict, all, entriesSame_iff.2 ?_⟩
    rw [List.forall₂_map_left_iff]
    have exactly : ∀ given ∈ paired, given.2.Representable := fun given member =>
      PyVal.representable_of_mem exact_ (all.mem_iff.2 member)
    have both := ((List.forall₂_and_left _ _).2 ⟨exactly, values.flip⟩).flip
    refine both.imp fun value given held => ⟨held.2.1, ?_⟩
    exact documented.inverse given.2 (.value value.2) (by simp [WellKnown.fullName, jsonNames])
      held.2.2 held.1
  · exact get?_protobufToPython type (i := 2) rfl rfl rfl rfl
  · exact get?_protobufToPython type (i := 3) rfl rfl rfl rfl
  · exact get?_protobufToPython type (i := 4) rfl rfl rfl rfl

theorem payload_kept {python : Interpreter} {data : PyVal} {options : PostMessageOptions} {m : Message}
    (built : buildPayload pb python data options.dataMetadata options.contentType options.schemaId
      options.schemaVersion = .ok m)
    (dataExact : data.Representable) (metadataExact : options.dataMetadata.Representable) :
    PayloadKept data options (protobufToPython pb.toJsonFormat messagePool m) :=
  payload_kept_of documented messagePool_payload built dataExact metadataExact

omit documented in
theorem contentsToPython_headers_of (type : pool headerName = headerDescriptor)
    (field : FieldDescriptor) (headers : List (Str × List UInt8)) :
    contentsToPython json pool field (headers.map fun header => .message (headerMessage header)) =
      headers.map shownHeader := by
  induction headers with
  | nil => rfl
  | cons header rest ih =>
      rw [List.map_cons, contentsToPython, ih, fieldValue, headerMessage, protobufToPython, type]
      rfl

omit documented in
theorem contentsToPython_headers (field : FieldDescriptor) (headers : List (Str × List UInt8)) :
    contentsToPython json messagePool field
        (headers.map fun header => .message (headerMessage header)) =
      headers.map shownHeader :=
  contentsToPython_headers_of messagePool_header field headers

omit documented in
theorem scheduledSlot_kept {given : Option Str} {slot : Slot} {shown : Option PyVal}
    (built : scheduledSlot pb given = .ok slot)
    (read : shown = shownSlot json pool (optional "scheduled_time" (.message timestampName)) slot) :
    shown.isSome = given.isSome := by
  subst read
  cases given with
  | none =>
      cases built
      rfl
  | some s =>
      obtain ⟨t, -, built⟩ := bind_eq_ok.1 built
      cases built
      rfl

omit documented in
theorem state_kept {given : StateOption} {slot : Slot} (built : enumSlot stateEnum given = .ok slot) :
    shownSlot json pool (plain "state" (.enum stateEnum)) slot = some given.shown := by
  have ofName : ∀ name, enumSlot.ofName stateEnum name = .ok slot →
      shownSlot json pool (plain "state" (.enum stateEnum)) slot = some (.str name) := by
    intro name built
    rw [enumSlot.ofName] at built
    cases number : stateEnum.number? name with
    | none =>
        rw [number] at built
        cases built
    | some n =>
        rw [number] at built
        cases built
        obtain ⟨entry, found, rfl⟩ := Option.map_eq_some_iff.1 number
        have same : entry.1 = name := by simpa using List.find?_some found
        have known : stateEnum.name? entry.2 = some entry.1 := by
          have member := List.mem_of_find?_eq_some found
          simp only [stateEnum, List.mem_cons, List.not_mem_nil, or_false] at member
          rcases member with rfl | rfl | rfl | rfl | rfl | rfl <;> rfl
        simp [shownSlot, Slot.isAbsent, slotToPython, fieldValue, plain, known, same]
  cases given with
  | member state => exact ofName state.name built
  | name label => exact ofName label built
  | number n =>
      obtain rfl := numberSlot_kept built
      simp only [shownSlot, Slot.isAbsent, Bool.and_false, slotToPython, fieldValue, plain,
        StateOption.shown]
      rfl

omit documented in
theorem maxRenewals_kept {given : Option Int} {slot : Slot}
    (built : maxRenewalsSlot given = .ok slot) :
    shownSlot json pool (optional "max_renewals" (.scalar .int32)) slot = given.map .int := by
  cases given with
  | none =>
      cases built
      rfl
  | some n =>
      obtain ⟨-, -, stored⟩ := bind_eq_ok.1 built
      rw [int32Slot_kept stored]
      rfl

theorem leasePolicy_kept_of (type : pool leasePolicyName = leasePolicyDescriptor)
    {given : Option LeasePolicyOptions} {policy : Option Message}
    (built : buildLeasePolicy unicode given = .ok policy) :
    match given.filter LeasePolicyOptions.anyGiven with
    | none => policy = none
    | some opts => ∃ m, policy = some m ∧
        LeasePolicyKept unicode opts (protobufToPython pb.toJsonFormat pool m) := by
  cases given with
  | none =>
      cases built
      rfl
  | some opts =>
      simp only [buildLeasePolicy] at built
      cases some_ : opts.anyGiven with
      | false =>
          rw [some_] at built
          cases built
          rw [Option.filter, some_]
          rfl
      | true =>
          simp only [some_, Bool.not_true, Bool.false_eq_true, ↓reduceIte] at built
          obtain ⟨baseLease, base, built⟩ := bind_eq_ok.1 built
          obtain ⟨maxExtension, extension, built⟩ := bind_eq_ok.1 built
          obtain ⟨heartbeatTimeout, timeout, built⟩ := bind_eq_ok.1 built
          obtain ⟨extendStep, extend, built⟩ := bind_eq_ok.1 built
          obtain ⟨maxRenewals, renewals, built⟩ := bind_eq_ok.1 built
          cases built
          rw [Option.filter, some_]
          refine ⟨_, rfl, ?_⟩
          constructor
          · exact policySlot_kept documented "base_lease" base
              (get?_protobufToPython type (i := 0) rfl rfl rfl rfl)
          · exact policySlot_kept documented "max_extension" extension
              (get?_protobufToPython type (i := 1) rfl rfl rfl rfl)
          · exact policySlot_kept documented "heartbeat_timeout" timeout
              (get?_protobufToPython type (i := 2) rfl rfl rfl rfl)
          · exact policySlot_kept documented "extend_step" extend
              (get?_protobufToPython type (i := 3) rfl rfl rfl rfl)
          · exact get?_protobufToPython type (i := 4) rfl rfl rfl
              (maxRenewals_kept renewals)

theorem leasePolicy_kept {given : Option LeasePolicyOptions} {policy : Option Message}
    (built : buildLeasePolicy unicode given = .ok policy) :
    match given.filter LeasePolicyOptions.anyGiven with
    | none => policy = none
    | some opts => ∃ m, policy = some m ∧
        LeasePolicyKept unicode opts (protobufToPython pb.toJsonFormat messagePool m) :=
  leasePolicy_kept_of documented messagePool_leasePolicy built

end Parts

/-- A message that is posted keeps what its parameters say, as far as the conversion of its dictionary
shows. -/
theorem createPostMessageRequest_kept (pb : Protobuf) (documented : pb.Documented) (python : Interpreter)
    (params : PostMessageParams) (request : PostMessageRequest)
    (built : createPostMessageRequest pb python params = .ok request)
    (dataExact : params.data.Representable)
    (metadataExact : params.given.dataMetadata.Representable) :
    Kept python.unicode params (protobufToPython pb.toJsonFormat messagePool request.message) := by
  rw [createPostMessageRequest] at built
  obtain ⟨-, -, built⟩ := bind_eq_ok.1 built
  split at built
  · obtain ⟨u, error, -⟩ := bind_eq_ok.1 built
    cases error
  obtain ⟨-, -, built⟩ := bind_eq_ok.1 built
  obtain ⟨payload, payloadBuilt, built⟩ := bind_eq_ok.1 built
  obtain ⟨leaseDuration, leaseBuilt, built⟩ := bind_eq_ok.1 built
  obtain ⟨headers, headersBuilt, built⟩ := bind_eq_ok.1 built
  obtain ⟨-, -, built⟩ := bind_eq_ok.1 built
  obtain ⟨state, stateBuilt, built⟩ := bind_eq_ok.1 built
  obtain ⟨maxAttempts, attemptsBuilt, built⟩ := bind_eq_ok.1 built
  obtain ⟨policy, policyBuilt, built⟩ := bind_eq_ok.1 built
  obtain ⟨scheduledTime, scheduledBuilt, built⟩ := bind_eq_ok.1 built
  obtain ⟨-, -, built⟩ := bind_eq_ok.1 built
  obtain ⟨queueName, -, built⟩ := bind_eq_ok.1 built
  obtain ⟨-, -, built⟩ := bind_eq_ok.1 built
  cases built
  refine ⟨get?_protobufToPython messagePool_message (i := 0) rfl rfl rfl rfl, _,
    get?_protobufToPython messagePool_message (i := 1) rfl rfl rfl rfl, ?_⟩
  change MetadataKept python.unicode params.data params.given
    (protobufToPython pb.toJsonFormat messagePool _)
  constructor
  · exact ⟨_, get?_protobufToPython messagePool_metadata (i := 0) rfl rfl rfl rfl,
      payload_kept documented payloadBuilt dataExact metadataExact⟩
  · exact get?_protobufToPython messagePool_metadata (i := 1) rfl rfl rfl (state_kept stateBuilt)
  · exact get?_protobufToPython messagePool_metadata (i := 6) rfl rfl rfl rfl
  · rw [int32Slot_kept attemptsBuilt]
    exact get?_protobufToPython messagePool_metadata (i := 7) rfl rfl rfl rfl
  · refine ⟨headers, (buildHeaders_eq_ok.1 headersBuilt).1, ?_⟩
    apply get?_protobufToPython messagePool_metadata (i := 12) rfl rfl rfl
    rw [← contentsToPython_headers]
    rfl
  · exact leaseSlot_kept documented "lease_duration" leaseBuilt
      (get?_protobufToPython messagePool_metadata (i := 3) rfl rfl rfl rfl)
  · exact scheduledSlot_kept scheduledBuilt
      (get?_protobufToPython messagePool_metadata (i := 10) rfl rfl rfl rfl)
  · have kept := leasePolicy_kept documented policyBuilt
    cases given : params.given.leasePolicy.filter LeasePolicyOptions.anyGiven with
    | none =>
        rw [given] at kept
        subst kept
        exact get?_protobufToPython messagePool_metadata (i := 8) rfl rfl rfl rfl
    | some opts =>
        rw [given] at kept
        obtain ⟨m, rfl, kept⟩ := kept
        exact ⟨_, get?_protobufToPython messagePool_metadata (i := 8) rfl rfl rfl rfl, kept⟩

def parseError (message : String) : Exc := ⟨.parseError, text message⟩

mutual

/-- `ParseDict` into a `google.protobuf.Value`, for numbers that a double holds. -/
def parseJson : PyVal → Except Exc JsonValue
  | .none => .ok .null
  | .bool b => .ok (.bool b)
  | .int n => .ok (.number (.finite n))
  | .float d =>
      if d.value.isSome then .ok (.number d) else .error (parseError "Fail to serialize Infinity")
  | .str s => if s.encodable then .ok (.string s) else .error (parseError "surrogates not allowed")
  | .list items => do return .list (← parseItems items)
  | .dict entries => do return .struct (← parseEntries entries)
  | _ => .error (parseError "Value has unexpected type")

def parseItems : List PyVal → Except Exc (List JsonValue)
  | [] => .ok []
  | item :: rest => do
      let value ← parseJson item
      let values ← parseItems rest
      return value :: values

def parseEntries : List (Key × PyVal) → Except Exc (List (Str × JsonValue))
  | [] => .ok []
  | (.str key, item) :: rest => do
      if !key.encodable then .error (parseError "surrogates not allowed")
      let value ← parseJson item
      let values ← parseEntries rest
      return (key, value) :: values
  | _ :: _ => .error (parseError "key has unexpected type")

end

mutual

theorem parseJson_same : ∀ (v : PyVal) (w : JsonValue), parseJson v = .ok w →
    PyVal.Same w.toPython v
  | .none, _, parsed => by cases parsed; rfl
  | .bool b, _, parsed => by cases parsed; rfl
  | .int n, _, parsed => by cases parsed; exact ⟨n, rfl, rfl⟩
  | .float d, _, parsed => by
      rw [parseJson] at parsed
      split at parsed
      · rename_i finite
        cases parsed
        obtain ⟨q, value⟩ := Option.isSome_iff_exists.1 finite
        exact ⟨q, value, value⟩
      · cases parsed
  | .str s, _, parsed => by
      rw [parseJson] at parsed
      split at parsed
      · cases parsed
        rfl
      · cases parsed
  | .list items, _, parsed => by
      obtain ⟨values, held, same⟩ := bind_eq_ok.1 parsed
      cases same
      exact ⟨items, rfl, parseItems_same items values held⟩
  | .dict entries, _, parsed => by
      obtain ⟨values, held, same⟩ := bind_eq_ok.1 parsed
      cases same
      exact ⟨entries, entries, rfl, .refl _, parseEntries_same entries values held⟩
  | .bytes _, _, parsed => by cases parsed
  | .other _, _, parsed => by cases parsed

theorem parseItems_same : ∀ (items : List PyVal) (values : List JsonValue),
    parseItems items = .ok values → PyVal.itemsSame (jsonValuesToPython values) items
  | [], _, parsed => by cases parsed; trivial
  | item :: rest, _, parsed => by
      obtain ⟨value, first, later⟩ := bind_eq_ok.1 parsed
      obtain ⟨values, others, same⟩ := bind_eq_ok.1 later
      cases same
      exact ⟨parseJson_same item value first, parseItems_same rest values others⟩

theorem parseEntries_same : ∀ (entries : List (Key × PyVal)) (values : List (Str × JsonValue)),
    parseEntries entries = .ok values → PyVal.entriesSame (jsonFieldsToPython values) entries
  | [], _, parsed => by cases parsed; trivial
  | (.str key, item) :: rest, _, parsed => by
      rw [parseEntries] at parsed
      split at parsed
      · obtain ⟨u, error, -⟩ := bind_eq_ok.1 parsed
        cases error
      · obtain ⟨value, first, later⟩ := bind_eq_ok.1 parsed
        obtain ⟨values, others, same⟩ := bind_eq_ok.1 later
        cases same
        exact ⟨⟨rfl, parseJson_same item value first⟩, parseEntries_same rest values others⟩
  | (.int _, _) :: _, _, parsed => by cases parsed
  | (.bool _, _) :: _, _, parsed => by cases parsed
  | (.other _, _) :: _, _, parsed => by cases parsed

end

def parseStruct : PyVal → Except Exc (List (Str × JsonValue))
  | .dict entries => parseEntries entries
  | _ => .error (parseError "Struct must be in a dict")

def parsePayload : PyVal → Except Exc Message
  | .dict [(_, data), (_, metadata), (_, .str contentType), (_, .str schemaId),
      (_, .int schemaVersion)] => do
      let fields ← parseStruct data
      let values ← parseStruct metadata
      return payloadMessage values fields contentType schemaId schemaVersion
  | _ => .error (parseError "no payload")

def sampleProtobuf : Protobuf where
  toJsonString
    | .duration seconds nanos => durationText seconds nanos
    | _ => text "1970-01-01T00:00:00Z"
  messageToDict := sampleFormat.messageToDict
  parseDict name value :=
    if name = payloadName then parsePayload value
    else if name = structName then do
      return .wellKnown (.struct (← parseStruct value))
    else if name = valueName then do return .wellKnown (.value (← parseJson value))
    else .error (parseError "not a sample")
  fromJsonString _ := .ok (0, 0)
  depthLimit := 100
  roomy := Nat.le_of_ble_eq_true rfl

theorem parseStruct_same {v : PyVal} {fields : List (Str × JsonValue)}
    (parsed : parseStruct v = .ok fields) :
    PyVal.Same (.dict (jsonFieldsToPython fields)) v := by
  cases v with
  | dict entries =>
      exact ⟨entries, entries, rfl, .refl _, parseEntries_same entries fields parsed⟩
  | _ => cases parsed

theorem parseEntries_values {entries : List (Key × PyVal)} {values : List (Str × JsonValue)}
    (parsed : parseEntries entries = .ok values) :
    List.Forall₂ (fun value given => .str value.1 = given.1 ∧ parseJson given.2 = .ok value.2)
      values entries := by
  induction entries generalizing values with
  | nil =>
      cases parsed
      exact .nil
  | cons entry rest ih =>
      obtain ⟨key, item⟩ := entry
      cases key with
      | str key =>
          rw [parseEntries] at parsed
          split at parsed
          · obtain ⟨u, error, -⟩ := bind_eq_ok.1 parsed
            cases error
          · obtain ⟨value, first, later⟩ := bind_eq_ok.1 parsed
            obtain ⟨values, others, same⟩ := bind_eq_ok.1 later
            cases same
            exact .cons ⟨rfl, first⟩ (ih others)
      | _ => cases parsed

theorem sampleProtobuf_documented : sampleProtobuf.Documented where
  payload := by
    intro data metadata contentType schemaId schemaVersion m parsed
    rw [show sampleProtobuf.parseDict payloadName = parsePayload from rfl] at parsed
    obtain ⟨fields, dataParsed, later⟩ := bind_eq_ok.1 parsed
    obtain ⟨values, metadataParsed, same⟩ := bind_eq_ok.1 later
    cases same
    have struct : sampleProtobuf.parseDict structName data =
        .ok (.wellKnown (.struct fields)) := by
      change (do return Message.wellKnown (.struct (← parseStruct data))) = _
      rw [dataParsed]
      rfl
    have dict : orEmpty metadata = .dict (orEmpty metadata).entries := by
      cases metadata <;> rfl
    rw [dict] at metadataParsed
    refine ⟨values, fields, rfl, struct, _, .refl _, ?_⟩
    refine (parseEntries_values metadataParsed).imp fun value given held => ⟨held.1, ?_⟩
    change (do return Message.wellKnown (.value (← parseJson given.2))) = _
    rw [held.2]
    rfl
  inverse := by
    intro v w known parsed _
    cases w with
    | struct fields =>
        obtain ⟨found, held, same⟩ := bind_eq_ok.1 parsed
        cases same
        exact parseStruct_same held
    | value value =>
        obtain ⟨found, held, same⟩ := bind_eq_ok.1 parsed
        cases same
        exact parseJson_same v value held
    | listValue values => cases parsed
    | _ =>
        simp only [WellKnown.fullName] at known
        exact absurd known (by decide)
  duration := fun _ _ _ _ => rfl

def sampleParams : PostMessageParams where
  messageId := text "m-1"
  data := .dict [(.str (text "a"), .list [.int 1, .bool true, .none]),
    (.str (text "b"), .dict [(.str (text "c"), .float (.finite (1 / 2)))])]
  queueName := text "orders"
  options := some {
    priority := 4
    leaseDuration := some []
    dataMetadata := .dict [(.str (text "k"), .str (text "v"))]
    leasePolicy := some { baseLease := some (text "1.5m"), maxRenewals := some 0 }
    headers := [.header (.str (text "h")) (.bytes [255, 0]), .header (.str (text "h")) (.bytes [])]
    scheduledTime := some (text "1970-01-01T00:00:00Z") }

theorem createPostMessageRequest_kept_sample :
    ∃ request,
      createPostMessageRequest sampleProtobuf ⟨100, 100, unicode15⟩ sampleParams = .ok request ∧
      Kept unicode15 sampleParams
        (protobufToPython sampleProtobuf.toJsonFormat messagePool request.message) := by
  have accepted : (createPostMessageRequest sampleProtobuf ⟨100, 100, unicode15⟩
      sampleParams).toOption.isSome =
      true := by decide +kernel
  obtain ⟨request, accepted⟩ := Option.isSome_iff_exists.1 accepted
  have built : createPostMessageRequest sampleProtobuf ⟨100, 100, unicode15⟩ sampleParams =
      .ok request := by
    cases outcome : createPostMessageRequest sampleProtobuf ⟨100, 100, unicode15⟩ sampleParams with
    | error e =>
        rw [outcome] at accepted
        cases accepted
    | ok r =>
        rw [outcome] at accepted
        cases accepted
        rfl
  have one : Double.Exact (1 : Int) := ⟨1, 0, by norm_num, by norm_num, by norm_num, by norm_num⟩
  have half : Double.Exact (1 / 2) :=
    ⟨1, -1, by norm_num, by norm_num, by norm_num, by norm_num⟩
  refine ⟨request, built, createPostMessageRequest_kept sampleProtobuf sampleProtobuf_documented
    ⟨100, 100, unicode15⟩ sampleParams request built ?_ ?_⟩
  · exact ⟨⟨one, trivial, trivial, trivial⟩, ⟨⟨_, rfl, half⟩, trivial⟩, trivial⟩
  · exact ⟨trivial, trivial⟩

end Nzovu
