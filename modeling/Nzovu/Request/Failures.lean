import Nzovu.Request.Bulk
import Nzovu.Request.Nesting
import Nzovu.Request.RoundTrip

/-!
# How the builders fail

A builder that fails raises a `ValueError`, or else a class that no caller is told about. Which
arguments fail so is read off the builders, in the order of their steps.
-/

namespace Nzovu
open Proto

/-- Nested too deeply for the interpreter, for `ParseDict` or for the parser of messages, or too large
a number. -/
def strayClasses : List ExcClass :=
  [.recursionError, .parseError, .decodeError, .overflowError, .decimalOverflow]

theorem stray_told {e : Exc} (stray : e.cls ∈ strayClasses) :
    e.isValueError = false ∧ e.isRpcOperationError = false := by
  simp only [strayClasses, List.mem_cons, List.not_mem_nil, or_false] at stray
  rcases stray with cls | cls | cls | cls | cls <;>
    simp [Exc.isValueError, Exc.isRpcOperationError, cls]

/-- The function fails with another class exactly when `escapes` holds. -/
structure FailsAs {α : Type} (x : Except Exc α) (escapes : Prop) : Prop where
  stray : escapes → ∃ e, x = .error e ∧ e.cls ∈ strayClasses
  value : ¬ escapes → Clean x

structure Protobuf.Errors (pb : Protobuf) : Prop where
  parseDict : ∀ name value e, pb.parseDict name value = .error e → e.cls ∈ strayClasses
  fromJsonString : ∀ s e, pb.fromJsonString s = .error e →
    e.cls = .valueError ∨ e.cls ∈ strayClasses

/-- A package with the errors that its documentation names. -/
theorem Protobuf.Errors.of_parseError {pb : Protobuf}
    (parsed : ∀ name value, Raises .parseError (pb.parseDict name value))
    (read : ∀ s, Clean (pb.fromJsonString s)) : pb.Errors where
  parseDict := by
    intro name value e failed
    rw [parsed name value e failed]
    decide
  fromJsonString := fun s e failed => .inl (read s e failed)

section Rules
variable {α β : Type} {x : Except Exc α} {f : α → Except Exc β} {P Q : Prop}

theorem FailsAs.of_clean (clean : Clean x) : FailsAs x False := ⟨False.elim, fun _ => clean⟩

theorem FailsAs.congr (fails : FailsAs x P) (same : P ↔ Q) : FailsAs x Q :=
  ⟨fun h => fails.stray (same.2 h), fun h => fails.value fun p => h (same.1 p)⟩

theorem FailsAs.each {Q : α → Prop} (first : FailsAs x P)
    (second : ∀ a, x = .ok a → FailsAs (f a) (Q a)) :
    FailsAs (x >>= f) (P ∨ ∃ a, x = .ok a ∧ Q a) := by
  cases outcome : x with
  | error e =>
      constructor
      · rintro (p | ⟨a, same, -⟩)
        · obtain ⟨e', same, cls⟩ := first.stray p
          rw [outcome] at same
          cases same
          exact ⟨e, rfl, cls⟩
        · cases same
      · intro none e' same
        cases same
        exact first.value (fun p => none (.inl p)) e outcome
  | ok a =>
      have never : ¬ P := by
        intro p
        obtain ⟨e, same, -⟩ := first.stray p
        rw [outcome] at same
        cases same
      apply (second a outcome).congr
      simp [never]

theorem FailsAs.bind (first : FailsAs x P) (second : ∀ a, x = .ok a → FailsAs (f a) Q) :
    FailsAs (x >>= f) (P ∨ (∃ a, x = .ok a) ∧ Q) :=
  (first.each second).congr (by rw [exists_and_right])

theorem FailsAs.step {Q : α → Prop} (clean : Clean x)
    (second : ∀ a, x = .ok a → FailsAs (f a) (Q a)) :
    FailsAs (x >>= f) (∃ a, x = .ok a ∧ Q a) :=
  ((FailsAs.of_clean clean).each second).congr (by simp)

theorem FailsAs.after_clean (clean : Clean x) (second : ∀ a, x = .ok a → FailsAs (f a) Q) :
    FailsAs (x >>= f) ((∃ a, x = .ok a) ∧ Q) :=
  ((FailsAs.of_clean clean).bind second).congr (by simp)

theorem FailsAs.before_clean (first : FailsAs x P) (clean : ∀ a, Clean (f a)) :
    FailsAs (x >>= f) P :=
  (first.bind fun a _ => .of_clean (clean a)).congr (by simp)

theorem FailsAs.guard {c : Prop} [Decidable c] {message : Str} {rest : Except Exc α}
    (second : ¬ c → FailsAs rest Q) :
    FailsAs (if c then (do (.error (valueError message) : Except Exc PUnit); rest) else rest)
      (¬ c ∧ Q) := by
  split
  · rename_i fails
    refine (FailsAs.of_clean ?_).congr (by simp [fails])
    intro e same
    cases same
    rfl
  · rename_i passes
    exact (second passes).congr (by simp [passes])

end Rules

/-! ## The inputs that fail otherwise -/

/-- Some item escapes, and the ones before it pass. -/
def First {α : Type} (passes escapes : α → Prop) (items : List α) : Prop :=
  ∃ before item after, items = before ++ item :: after ∧ (∀ other ∈ before, passes other) ∧
    escapes item

theorem first_nil {α : Type} {passes escapes : α → Prop} : ¬ First passes escapes [] := by
  rintro ⟨before, item, after, shape, -⟩
  cases before <;> cases shape

theorem first_cons {α : Type} {passes escapes : α → Prop} {item : α} {rest : List α} :
    First passes escapes (item :: rest) ↔ escapes item ∨ passes item ∧ First passes escapes rest := by
  constructor
  · rintro ⟨before, escaping, after, shape, passed, here⟩
    cases before with
    | nil =>
        obtain ⟨rfl, rfl⟩ := List.cons.inj shape
        exact .inl here
    | cons first others =>
        obtain ⟨rfl, rfl⟩ := List.cons.inj shape
        refine .inr ⟨passed item (by simp), others, escaping, after, rfl, ?_, here⟩
        intro other member
        exact passed other (by simp [member])
  · rintro (here | ⟨passed, before, escaping, after, rfl, others, here⟩)
    · exact ⟨[], item, rest, rfl, by simp, here⟩
    · refine ⟨item :: before, escaping, after, rfl, ?_, here⟩
      intro other member
      cases member with
      | head => exact passed
      | tail _ member => exact others other member

section
variable (pb : Protobuf) (python : Interpreter)

def PayloadTyped (data metadata : PyVal) (contentType : Str) (schemaVersion : Int) : Prop :=
  data.isDict = true ∧ metadata.isDictOrNone = true ∧
    normalizedContentType contentType ∈
      [text "", text "application/json", text "application/x-json"] ∧
    0 ≤ schemaVersion ∧ schemaVersion ≤ 2 ^ 31 - 1

def PayloadEscapes (data metadata : PyVal) (contentType schemaId : Str) (schemaVersion : Int) :
    Prop :=
  let values := payloadValues data metadata contentType schemaId schemaVersion
  PayloadTyped data metadata contentType schemaVersion ∧
  (RunsOut python.validate (jsonPath values) ∨
    Passes python.validate (jsonPath values) ∧
      (RunsOut python.dumps (dumpsPath values) ∨
        Passes python.dumps (dumpsPath values) ∧
          ∃ e, pb.parseDict payloadName values = .error e))

def LeaseEscapes (duration : Option Str) : Prop :=
  ∃ s, duration = some s ∧ DurationOverflows python.unicode s

def PolicyEscapes (opts : Option LeasePolicyOptions) : Prop :=
  ∃ policy, opts = some policy ∧
    First (fun duration => ∃ slot, policySlot python.unicode duration = .ok slot)
      (LeaseEscapes python)
      [policy.baseLease, policy.maxExtension, policy.heartbeatTimeout, policy.extendStep]

def ScheduledEscapes (scheduledTime : Option Str) : Prop :=
  ∃ s, scheduledTime = some s ∧ ∃ e, pb.fromJsonString s = .error e ∧ e.cls ≠ .valueError

/-- The payload is accepted, and a duration overflows, the time escapes, or the payload is too deep
for one of the messages around it. -/
def MetadataEscapes (params : PostMessageParams) (payload : Message) : Prop :=
  LeaseEscapes python params.given.leaseDuration ∨
  (∃ slot, leaseSlot python.unicode params.given.leaseDuration = .ok slot) ∧
  (∃ headers, buildHeaders params.given.headers = .ok headers) ∧
  (pb.depthLimit < payload.nesting ∨ payload.nesting ≤ pb.depthLimit ∧
    (∃ slot, enumSlot stateEnum params.given.state = .ok slot) ∧
    (∃ slot, int32Slot params.given.maxAttempts = .ok slot) ∧
    (PolicyEscapes python params.given.leasePolicy ∨
      (∃ policy, buildLeasePolicy python.unicode params.given.leasePolicy = .ok policy) ∧
      (ScheduledEscapes pb params.given.scheduledTime ∨
        (∃ slot, scheduledSlot pb params.given.scheduledTime = .ok slot) ∧
        (pb.depthLimit < payload.nesting + 1 ∨ payload.nesting + 1 ≤ pb.depthLimit ∧
          params.queueName.encodable = true ∧ pb.depthLimit < payload.nesting + 2))))

def MessageEscapes (params : PostMessageParams) : Prop :=
  params.queueName.blank = false ∧ isMessageId params.messageId = true ∧
    (0 ≤ params.given.priority ∧ params.given.priority ≤ 4) ∧
    (PayloadEscapes pb python params.data params.given.dataMetadata params.given.contentType
        params.given.schemaId params.given.schemaVersion ∨
      ∃ payload, buildPayload pb python params.data params.given.dataMetadata
        params.given.contentType params.given.schemaId params.given.schemaVersion = .ok payload ∧
        MetadataEscapes pb python params payload)

def FirstEscapes (queueName : Str) (messages : List PostMessageParams) : Prop :=
  First (fun params => params.queueName = queueName ∧
      ∃ request, createPostMessageRequest pb python params = .ok request)
    (fun params => params.queueName = queueName ∧ MessageEscapes pb python params) messages

def BulkEscapes (queueName : Str) (messages : List PostMessageParams) (mode : ModeOption) : Prop :=
  queueName.blank = false ∧ (1 ≤ messages.length ∧ messages.length ≤ 1000) ∧
    mode.value ∈ [text "ALL_OR_NOTHING", text "BEST_EFFORT"] ∧ queueName.encodable = true ∧
    FirstEscapes pb python queueName messages

/-- The payload is accepted, and it is too deep, or `ParseDict` cannot store the calendar, or the lease
duration overflows. -/
def ScheduleMetadataEscapes (scheduleId : Str) (options : ScheduleOptions) (payload : Message) :
    Prop :=
  (∃ headers, buildHeaders options.headers = .ok headers) ∧
  (pb.depthLimit < payload.nesting ∨ payload.nesting ≤ pb.depthLimit ∧
    options.queueName.encodable = true ∧
    (options.hasCron = false ∧
        (∃ e, pb.parseDict calendarName (.dict (options.calendarSchedule.getD [])) = .error e) ∨
      ∃ config, scheduleConfig pb options = .ok config ∧
        (∃ slots, maxMessagesSlots options.maxMessages = .ok slots) ∧
        (LeaseEscapes python options.leaseDuration ∨
          (∃ slot, leaseSlot python.unicode options.leaseDuration = .ok slot) ∧
          scheduleId.encodable = true ∧
          pb.depthLimit < max (payload.nesting + 2) (config.2.nesting + 1))))

def ScheduleEscapes (scheduleId : Str) (options : ScheduleOptions) : Prop :=
  scheduleId.blank = false ∧ options.queueName.blank = false ∧
    options.postInit python.unicode = .ok () ∧
    (PayloadEscapes pb python options.payload options.dataMetadata options.contentType
        options.schemaId options.schemaVersion ∨
      ∃ payload, buildPayload pb python options.payload options.dataMetadata options.contentType
        options.schemaId options.schemaVersion = .ok payload ∧
        ScheduleMetadataEscapes pb python scheduleId options payload)

end

/-! ## The builders -/

theorem requireName_clean (value name : Str) : Clean (requireName value name) :=
  raises_ite (raises_valueError _) (raises_ok _)

theorem requireName_ok (value name : Str) :
    (∃ u, requireName value name = .ok u) ↔ value.blank = false := by
  cases blank : value.blank <;> simp [requireName, blank]

theorem validateInteger_clean (value : Int) (name : Str) (minimum maximum : Int) :
    Clean (validateInteger value name minimum maximum) :=
  raises_ite (raises_ok _) (raises_valueError _)

theorem validateInteger_ok (value : Int) (name : Str) (minimum maximum : Int) :
    (∃ u, validateInteger value name minimum maximum = .ok u) ↔ minimum ≤ value ∧ value ≤ maximum := by
  rw [validateInteger]
  split <;> simp [*]

theorem scan_failsAs (calls : Nat) (path : List Visit) :
    FailsAs (scan calls path) (RunsOut calls path) ∧
      ((∃ u, scan calls path = .ok u) ↔ Passes calls path) := by
  cases found : path.find? (·.ends calls) with
  | none =>
      refine ⟨⟨?_, ?_⟩, ?_⟩
      · rintro ⟨visit, other, -⟩
        rw [found] at other
        cases other
      · intro _ e same
        rw [scan, found] at same
        cases same
      · simp [scan, Passes, found]
  | some visit =>
      by_cases deep : calls ≤ visit.depth
      · refine ⟨⟨?_, ?_⟩, ?_⟩
        · intro _
          exact ⟨recursionError, by simp [scan, found, deep], by decide⟩
        · intro never
          exact absurd ⟨visit, found, deep⟩ never
        · simp [scan, Passes, found, deep]
      · refine ⟨⟨?_, ?_⟩, ?_⟩
        · rintro ⟨visit', other, deep'⟩
          rw [found] at other
          cases other
          exact absurd deep' deep
        · intro _ e same
          simp only [scan, found, if_neg deep] at same
          cases same
          rfl
        · simp [scan, Passes, found, deep]

section Payload
variable {pb : Protobuf} (python : Interpreter) (data metadata : PyVal) (contentType schemaId : Str)
  (schemaVersion : Int)

theorem checkPayload_failsAs :
    FailsAs (checkPayload python data metadata contentType schemaId schemaVersion)
        (PayloadTyped data metadata contentType schemaVersion ∧
          (RunsOut python.validate
              (jsonPath (payloadValues data metadata contentType schemaId schemaVersion)) ∨
            Passes python.validate
                (jsonPath (payloadValues data metadata contentType schemaId schemaVersion)) ∧
              RunsOut python.dumps
                (dumpsPath (payloadValues data metadata contentType schemaId schemaVersion)))) ∧
      ((∃ u, checkPayload python data metadata contentType schemaId schemaVersion = .ok u) ↔
        PayloadTyped data metadata contentType schemaVersion ∧
          Passes python.validate
              (jsonPath (payloadValues data metadata contentType schemaId schemaVersion)) ∧
            Passes python.dumps
              (dumpsPath (payloadValues data metadata contentType schemaId schemaVersion))) := by
  rw [checkPayload]
  generalize payloadValues data metadata contentType schemaId schemaVersion = values
  obtain ⟨walk, walked⟩ := scan_failsAs python.validate (jsonPath values)
  obtain ⟨write, written⟩ := scan_failsAs python.dumps (dumpsPath values)
  rw [← validateJsonValue_path] at walk walked
  rw [← jsonDumps] at write written
  constructor
  · refine (FailsAs.guard fun _ => FailsAs.guard fun _ =>
      FailsAs.after_clean (validateInteger_clean _ _ _ _) fun _ _ =>
        walk.bind fun _ _ => write).congr ?_
    rw [validateInteger_ok, walked]
    simp only [PayloadTyped, Bool.or_eq_true, Bool.not_eq_true', not_or, Bool.not_eq_false,
      not_not, and_assoc]
  · simp only [guard_ok, bind_ok, exists_and_right, validateInteger_ok, walked, written]
    simp only [PayloadTyped, Bool.or_eq_true, Bool.not_eq_true', not_or, Bool.not_eq_false,
      not_not, and_assoc]

end Payload

theorem parseDict_failsAs {pb : Protobuf} (errors : pb.Errors) (name : Str) (value : PyVal) :
    FailsAs (pb.parseDict name value) (∃ e, pb.parseDict name value = .error e) where
  stray := by
    rintro ⟨e, same⟩
    exact ⟨e, same, errors.parseDict name value e same⟩
  value := fun never e same => absurd ⟨e, same⟩ never

theorem buildPayload_failsAs {pb : Protobuf} (errors : pb.Errors) (python : Interpreter)
    (data metadata : PyVal) (contentType schemaId : Str) (schemaVersion : Int) :
    FailsAs (buildPayload pb python data metadata contentType schemaId schemaVersion)
      (PayloadEscapes pb python data metadata contentType schemaId schemaVersion) := by
  obtain ⟨checks, checked⟩ :=
    checkPayload_failsAs python data metadata contentType schemaId schemaVersion
  apply (checks.bind fun _ _ => parseDict_failsAs errors _ _).congr
  rw [checked, PayloadEscapes]
  simp only [and_or_left, or_assoc, and_assoc]

section Leases
variable (python : Interpreter)

theorem stringToDuration_failsAs (s : Str) :
    FailsAs (stringToDuration python.unicode s) (DurationOverflows python.unicode s) where
  stray := fun overflows => ⟨_, stringToDuration_overflows overflows, by decide⟩
  value := stringToDuration_clean

theorem leaseSlot_failsAs (duration : Option Str) :
    FailsAs (leaseSlot python.unicode duration) (LeaseEscapes python duration) := by
  cases duration with
  | none => exact (FailsAs.of_clean (raises_ok _)).congr (by simp [LeaseEscapes])
  | some s =>
      apply ((stringToDuration_failsAs python s).before_clean fun _ => raises_ok _).congr
      simp [LeaseEscapes]

theorem policySlot_failsAs (duration : Option Str) :
    FailsAs (policySlot python.unicode duration) (LeaseEscapes python duration) := by
  rcases duration with - | - | ⟨c, s⟩
  · exact leaseSlot_failsAs python none
  · apply (FailsAs.of_clean (raises_ok _)).congr
    rw [false_iff]
    rintro ⟨s, empty, t, found, -⟩
    cases empty
    cases found
  · exact leaseSlot_failsAs python (some (c :: s))

end Leases

theorem textSlot_clean (s : Str) : Clean (textSlot s) := raises_ite (raises_ok _) (raises_valueError _)

theorem textSlot_ok (s : Str) : (∃ slot, textSlot s = .ok slot) ↔ s.encodable = true := by
  cases encodable : s.encodable <;> simp [textSlot, encodable]

theorem int32Slot_clean (n : Int) : Clean (int32Slot n) := raises_ite (raises_ok _) (raises_valueError _)

theorem int64Slot_clean (n : Int) : Clean (int64Slot n) := raises_ite (raises_ok _) (raises_valueError _)

theorem enumSlot_clean (e : EnumDescriptor) (state : StateOption) : Clean (enumSlot e state) := by
  have named : ∀ name, Clean (enumSlot.ofName e name) := by
    intro name
    rw [enumSlot.ofName]
    split
    · exact raises_ok _
    · exact raises_valueError _
  cases state with
  | member state => exact named state.name
  | name label => exact named label
  | number n => exact raises_ite (raises_ok _) (raises_valueError _)

theorem maxRenewalsSlot_clean (n : Option Int) : Clean (maxRenewalsSlot n) := by
  cases n with
  | none => exact raises_ok _
  | some n => exact raises_bind (validateInteger_clean _ _ _ _) fun _ => int32Slot_clean n

theorem LeaseEscapes.isGiven {python : Interpreter} {duration : Option Str}
    (escapes : LeaseEscapes python duration) : isGiven duration = true := by
  obtain ⟨s, rfl, t, found, -⟩ := escapes
  cases s with
  | nil => cases found
  | cons c s => rfl

theorem buildLeasePolicy_failsAs (python : Interpreter) (opts : Option LeasePolicyOptions) :
    FailsAs (buildLeasePolicy python.unicode opts) (PolicyEscapes python opts) := by
  cases opts with
  | none => exact (FailsAs.of_clean (raises_ok _)).congr (by simp [PolicyEscapes])
  | some opts =>
      rw [buildLeasePolicy]
      split
      · rename_i empty
        apply (FailsAs.of_clean (raises_ok _)).congr
        rw [false_iff]
        rintro ⟨_, same, before, duration, after, shape, -, escapes⟩
        cases same
        have given : [opts.baseLease, opts.maxExtension, opts.heartbeatTimeout, opts.extendStep].any
            isGiven = true :=
          List.any_eq_true.2 ⟨duration, by rw [shape]; simp, escapes.isGiven⟩
        simp only [LeasePolicyOptions.anyGiven, given, Bool.true_or, Bool.not_true,
          Bool.false_eq_true] at empty
      · refine ((policySlot_failsAs python _).bind fun _ _ =>
          (policySlot_failsAs python _).bind fun _ _ =>
            (policySlot_failsAs python _).bind fun _ _ =>
              (policySlot_failsAs python _).before_clean fun _ =>
                raises_bind (maxRenewalsSlot_clean _) fun _ => raises_ok _).congr ?_
        simp [PolicyEscapes, first_cons, first_nil]

section Posts
variable {pb : Protobuf}

theorem scheduledSlot_failsAs (errors : pb.Errors) (scheduledTime : Option Str) :
    FailsAs (scheduledSlot pb scheduledTime) (ScheduledEscapes pb scheduledTime) := by
  cases scheduledTime with
  | none => exact (FailsAs.of_clean (raises_ok _)).congr (by simp [ScheduledEscapes])
  | some s =>
      have parsed : FailsAs (pb.fromJsonString s)
          (∃ e, pb.fromJsonString s = .error e ∧ e.cls ≠ .valueError) := by
        constructor
        · rintro ⟨e, failed, cls⟩
          exact ⟨e, failed, (errors.fromJsonString s e failed).resolve_left cls⟩
        · intro never e failed
          by_contra cls
          exact never ⟨e, failed, cls⟩
      apply (parsed.before_clean fun _ => raises_ok _).congr
      simp [ScheduledEscapes]

theorem reparse_failsAs (m : Message) : FailsAs (pb.reparse m) (pb.depthLimit < m.nesting) where
  stray := by
    intro deep
    refine ⟨decodeError m, if_neg (Nat.not_le.2 deep), ?_⟩
    cases m <;> simp [decodeError, strayClasses]
  value := by
    intro shallow e failed
    rw [Protobuf.reparse, if_pos (Nat.not_lt.1 shallow)] at failed
    cases failed

theorem reparse_ok (m : Message) : (∃ u, pb.reparse m = .ok u) ↔ m.nesting ≤ pb.depthLimit := by
  rw [Protobuf.reparse]
  split <;> simp [*]

/-- `levels` stands for what the message is nested, as far as it can be too much. -/
theorem FailsAs.reparse {α : Type} {rest : Unit → Except Exc α} {Q : Prop} {m : Message}
    {levels : Nat} (deep : pb.depthLimit < m.nesting ↔ pb.depthLimit < levels)
    (second : FailsAs (rest ()) Q) :
    FailsAs (pb.reparse m >>= rest)
      (pb.depthLimit < levels ∨ levels ≤ pb.depthLimit ∧ Q) := by
  apply ((reparse_failsAs m).bind fun _ _ => second).congr
  rw [reparse_ok, deep, ← Nat.not_lt, deep, Nat.not_lt]

theorem posted_failsAs (params : PostMessageParams) {metadata : Message} {levels : Nat}
    (below : levels + 1 ≤ metadata.nesting) (above : metadata.nesting ≤ max (levels + 1) 2) :
    FailsAs (do
      pb.reparse metadata
      let queueName ← textSlot params.queueName
      pb.reparse (postedMessage params.messageId metadata)
      return (⟨queueName, postedMessage params.messageId metadata⟩ : PostMessageRequest))
      (pb.depthLimit < levels + 1 ∨ levels + 1 ≤ pb.depthLimit ∧
        params.queueName.encodable = true ∧ pb.depthLimit < levels + 2) := by
  have room := pb.roomy
  have outer : (postedMessage params.messageId metadata).nesting = 1 + metadata.nesting := by
    simp [postedMessage, Message.nesting, slotsNesting, Slot.nesting, Content.nesting,
      messageSlot_nesting]
  have last : pb.depthLimit < (postedMessage params.messageId metadata).nesting ↔
      pb.depthLimit < levels + 2 := by
    rw [outer]
    omega
  have first : pb.depthLimit < metadata.nesting ↔ pb.depthLimit < levels + 1 := by omega
  apply FailsAs.reparse first
  have named := FailsAs.after_clean (textSlot_clean params.queueName) fun name _ =>
    ((reparse_failsAs (postedMessage params.messageId metadata)).congr last).before_clean fun _ =>
      raises_ok (⟨name, postedMessage params.messageId metadata⟩ : PostMessageRequest)
  rwa [textSlot_ok] at named

theorem createPostMessageRequest_failsAs (errors : pb.Errors) (python : Interpreter)
    (params : PostMessageParams) :
    FailsAs (createPostMessageRequest pb python params) (MessageEscapes pb python params) := by
  have accepted := buildPayload_failsAs errors python params.data params.given.dataMetadata
    params.given.contentType params.given.schemaId params.given.schemaVersion
  rw [createPostMessageRequest]
  refine (FailsAs.after_clean (requireName_clean _ _) fun _ _ => FailsAs.guard fun _ =>
    FailsAs.after_clean (validateInteger_clean _ _ _ _) fun _ _ =>
      accepted.each (Q := MetadataEscapes pb python params) fun payload _ => ?_).congr ?_
  · refine (leaseSlot_failsAs python _).bind fun lease leaseBuilt =>
      FailsAs.after_clean (buildHeaders_clean _) fun headers _ => FailsAs.reparse Iff.rfl <|
        FailsAs.after_clean (enumSlot_clean _ _) fun state stateBuilt =>
          FailsAs.after_clean (int32Slot_clean _) fun attempts attemptsBuilt =>
            (buildLeasePolicy_failsAs python _).bind fun policy policyBuilt =>
              (scheduledSlot_failsAs errors _).bind fun scheduled scheduledBuilt => ?_
    obtain ⟨below, above⟩ := metadataMessage_nesting params.given payload headers
      (enumSlot_nesting stateBuilt) (leaseSlot_nesting leaseBuilt) (int32Slot_nesting attemptsBuilt)
      (buildLeasePolicy_nesting policyBuilt) (scheduledSlot_nesting scheduledBuilt)
    rw [Nat.add_comm] at below above
    exact posted_failsAs params below above
  · rw [requireName_ok, validateInteger_ok, MessageEscapes]
    simp only [Bool.not_eq_true', Bool.not_eq_false]

end Posts

section Builders
variable {pb : Protobuf} (errors : pb.Errors) (python : Interpreter)
include errors

theorem collectMessages_failsAs (queueName : Str) (messages : List PostMessageParams) (index : Nat) :
    FailsAs (collectMessages pb python queueName index messages)
      (FirstEscapes pb python queueName messages) := by
  induction messages generalizing index with
  | nil => exact (FailsAs.of_clean (raises_ok _)).congr (by simp [FirstEscapes, first_nil])
  | cons params rest ih =>
      rw [collectMessages]
      split
      · rename_i other
        apply (FailsAs.of_clean (raises_valueError _)).congr
        simp [FirstEscapes, first_cons, other]
      · rename_i same
        have message := createPostMessageRequest_failsAs errors python params
        refine (message.bind (Q := FirstEscapes pb python queueName rest)
          fun request posted => ?_).congr ?_
        · rw [(createPostMessageRequest_stored posted).2, ok_bind]
          exact (ih (index + 1)).before_clean fun _ => raises_ok _
        · simp [FirstEscapes, first_cons, not_not.1 same]

theorem buildBulkRequest_failsAs (queueName : Str) (messages : List PostMessageParams)
    (mode : ModeOption) :
    FailsAs (buildBulkRequest pb python queueName messages mode)
      (BulkEscapes pb python queueName messages mode) := by
  have collected := collectMessages_failsAs errors python queueName messages 0
  rw [buildBulkRequest]
  refine (FailsAs.after_clean (requireName_clean _ _) fun _ _ => FailsAs.guard fun _ =>
    FailsAs.guard fun _ => FailsAs.after_clean (textSlot_clean _) fun _ _ =>
      collected.before_clean fun _ => raises_ok _).congr ?_
  rw [requireName_ok, textSlot_ok, BulkEscapes]
  simp only [Bool.not_eq_true', Bool.not_eq_false, Bool.and_eq_true, decide_eq_true_eq, not_not]

omit errors in
theorem postInit_clean (unicode : Unicode) (options : ScheduleOptions) :
    Clean (options.postInit unicode) := by
  rw [ScheduleOptions.postInit]
  have rest : ∀ c d e : Prop, ∀ [Decidable c] [Decidable d] [Decidable e] (m n o : Str), Clean (do
      if c then (.error (valueError m) : Except Exc PUnit)
      if d then (.error (valueError n) : Except Exc PUnit)
      if e then (.error (valueError o) : Except Exc PUnit)) := by
    intro c d e _ _ _ m n o
    exact raises_guard rfl (raises_guard rfl (raises_ite (raises_valueError _) (raises_ok _)))
  cases options.priority with
  | none => exact raises_bind (raises_ok _) fun _ => rest _ _ _ _ _ _
  | some priority => exact raises_bind (validateInteger_clean _ _ _ _) fun _ => rest _ _ _ _ _ _

theorem scheduleConfig_failsAs (options : ScheduleOptions) :
    FailsAs (scheduleConfig pb options) (options.hasCron = false ∧
      ∃ e, pb.parseDict calendarName (.dict (options.calendarSchedule.getD [])) = .error e) := by
  rw [scheduleConfig]
  split
  · rename_i cron
    apply (FailsAs.of_clean (raises_bind (textSlot_clean _) fun _ => raises_ok _)).congr
    simp [cron]
  · rename_i calendar
    apply ((parseDict_failsAs errors _ _).before_clean fun _ => raises_ok _).congr
    simp [calendar]

omit errors in
theorem maxMessagesSlots_clean (maxMessages : Option Int) : Clean (maxMessagesSlots maxMessages) := by
  cases maxMessages with
  | none => exact raises_ok _
  | some n => exact raises_bind (int64Slot_clean n) fun _ => raises_ok _

omit errors in
theorem schedule_nesting {options : ScheduleOptions} {payload : Message} {config : Slot × Slot}
    {queueName : Slot} {maxMessages : Slot × Slot} {leaseDuration id : Slot}
    (headers : List (Str × List UInt8)) (named : queueName.nesting = 0)
    (configured : config.1.nesting = 0)
    (counted : maxMessages.1.nesting = 0 ∧ maxMessages.2.nesting = 0)
    (lease : leaseDuration.nesting ≤ 1) (identified : id.nesting = 0) :
    let metadata := scheduleMetadataMessage options payload config queueName maxMessages
      leaseDuration headers
    (pb.depthLimit < metadata.nesting ∨ metadata.nesting ≤ pb.depthLimit ∧
        pb.depthLimit < (Message.fields scheduleName [id, messageSlot metadata]).nesting) ↔
      pb.depthLimit < max (payload.nesting + 2) (config.2.nesting + 1) := by
  intro metadata
  have room := pb.roomy
  obtain ⟨below, above⟩ : max (1 + payload.nesting) config.2.nesting ≤ metadata.nesting ∧
      metadata.nesting ≤ max (max (1 + payload.nesting) config.2.nesting) 2 :=
    scheduleMetadataMessage_nesting options payload headers configured named counted lease
  have outer : (Message.fields scheduleName [id, messageSlot metadata]).nesting =
      1 + metadata.nesting := by
    simp [Message.nesting, slotsNesting, messageSlot_nesting, identified]
  rw [outer]
  omega

theorem buildScheduleRequest_failsAs (scheduleId : Str) (options : ScheduleOptions) :
    FailsAs (buildScheduleRequest pb python scheduleId options)
      (ScheduleEscapes pb python scheduleId options) := by
  have accepted := buildPayload_failsAs errors python options.payload options.dataMetadata
    options.contentType options.schemaId options.schemaVersion
  rw [buildScheduleRequest]
  refine (FailsAs.after_clean (requireName_clean _ _) fun _ _ =>
    FailsAs.after_clean (requireName_clean _ _) fun _ _ =>
      FailsAs.after_clean (postInit_clean _ options) fun _ _ =>
        accepted.each (Q := ScheduleMetadataEscapes pb python scheduleId options)
          fun payload _ => ?_).congr ?_
  · refine (FailsAs.after_clean (buildHeaders_clean _) fun headers _ =>
      FailsAs.reparse Iff.rfl (FailsAs.after_clean (textSlot_clean _) fun name nameBuilt =>
        (scheduleConfig_failsAs errors options).each
          (Q := fun config => (∃ slots, maxMessagesSlots options.maxMessages = .ok slots) ∧
            (LeaseEscapes python options.leaseDuration ∨
              (∃ slot, leaseSlot python.unicode options.leaseDuration = .ok slot) ∧
              (∃ slot, textSlot scheduleId = .ok slot) ∧
              pb.depthLimit < max (payload.nesting + 2) (config.2.nesting + 1)))
          fun config configBuilt =>
            FailsAs.after_clean (maxMessagesSlots_clean _) fun maxMessages maxBuilt =>
              (leaseSlot_failsAs python _).bind fun lease leaseBuilt =>
                FailsAs.after_clean (textSlot_clean _) fun id idBuilt => ?_)).congr ?_
    · apply (FailsAs.reparse Iff.rfl ((reparse_failsAs _).before_clean fun _ => raises_ok _)).congr
      exact schedule_nesting headers (textSlot_nesting nameBuilt) (scheduleConfig_nesting configBuilt)
        (maxMessagesSlots_nesting maxBuilt) (leaseSlot_nesting leaseBuilt) (textSlot_nesting idBuilt)
    · simp only [ScheduleMetadataEscapes, textSlot_ok]
  · rw [requireName_ok, requireName_ok, ScheduleEscapes]
    simp only [Unique.exists_iff (p := fun u => options.postInit python.unicode = .ok u)]

end Builders

end Nzovu
