import Nzovu.Library.Row
import Nzovu.Request.ScheduleRoundTrip
import Nzovu.Service.Method

/-!
# What a service can read of a request

The request of a method tells the method and its arguments. The bodies of queues, of messages and of
schedules are read as dictionaries, the arguments of the other methods column by column.
-/

namespace Nzovu
open Proto Row

namespace Proto.Slot

def int : Slot → Int
  | .single (.scalar (.int n)) => n
  | _ => 0

def bool : Slot → Bool
  | .single (.scalar (.bool b)) => b
  | _ => false

def number : Slot → Int
  | .single (.enum n) => n
  | _ => 0

def optionalStr : Slot → Option Str
  | .absent => none
  | slot => some slot.str

def duration : Slot → Nat × Nat
  | .single (.message (.wellKnown (.duration seconds nanos))) => (seconds.toNat, nanos.toNat)
  | _ => (0, 0)

def entries : Slot → List (Str × Str)
  | .map entries => entries.map fun entry => match entry with
    | (.str key, .scalar (.str value)) => (key, value)
    | _ => ([], [])
  | _ => []

def priorityRange : Slot → Option MessagePriorityRange
  | .single (.message (.fields _ [min, max])) => some ⟨min.int, max.int⟩
  | _ => none

end Proto.Slot

abbrev SlotColumn := Column Exc Slot

def textColumn : SlotColumn Str where
  write := textSlot
  read := Slot.str
  sound s slot written := by
    rw [textSlot_kept written]
    rfl

def int32Column : SlotColumn Int where
  write := int32Slot
  read := Slot.int
  sound n slot written := by
    rw [int32Slot_kept written]
    rfl

def boolColumn : SlotColumn Bool where
  write := boolSlot
  read := Slot.bool
  sound b slot written := by
    cases written
    rfl

def numberColumn : SlotColumn Int where
  write n := .ok (.single (.enum n))
  read := Slot.number
  sound n slot written := by
    cases written
    rfl

def optionalTextColumn : SlotColumn (Option Str) where
  write := optionalTextSlot
  read := Slot.optionalStr
  sound given slot written := by
    cases given with
    | none =>
        cases written
        rfl
    | some s =>
        rw [textSlot_kept written]
        rfl

def presentTextColumn : SlotColumn Str := optionalTextColumn.via some (·.getD []) fun _ => rfl

def nonEmptyTextColumn : SlotColumn Str :=
  optionalTextColumn.via (fun s => nonEmpty (some s)) (·.getD []) fun s => by
    cases s <;> rfl

def durationColumn : SlotColumn (Nat × Nat) where
  write d := .ok (durationSlot d)
  read := Slot.duration
  sound d slot written := by
    cases written
    rfl

def priorityRangeColumn : SlotColumn (Option MessagePriorityRange) where
  write := priorityRangeSlot
  read := Slot.priorityRange
  sound given slot written := by
    cases given with
    | none =>
        cases written
        rfl
    | some range =>
        obtain ⟨_, _, written⟩ := bind_eq_ok.1 written
        obtain ⟨m, made, same⟩ := bind_eq_ok.1 written
        obtain ⟨slots, set_, shape⟩ := bind_eq_ok.1 made
        cases same
        cases shape
        simp only [setFields_cons, setFields_nil] at set_
        obtain ⟨min, minSet, -, ⟨max, maxSet, -, rfl, rfl⟩, rfl⟩ := set_
        rw [int64Slot_kept minSet, int64Slot_kept maxSet]
        rfl

theorem entries_textMap (entries : List (Str × Str)) :
    (Slot.map (entries.map fun entry => (.str entry.1, .scalar (.str entry.2)))).entries = entries := by
  rw [Slot.entries, List.map_map]
  exact List.map_id entries

def textMapColumn : SlotColumn (Dict Str Str) where
  write metadata := textMapSlot metadata.entries
  read slot :=
    if distinct : (slot.entries.map Prod.fst).Nodup then ⟨slot.entries, distinct⟩ else .empty
  sound metadata slot written := by
    rw [textMapSlot] at written
    split at written
    · cases written
      have same := entries_textMap metadata.entries
      rw [dif_pos (by rw [same]; exact metadata.nodup)]
      exact Dict.ext same
    · cases written

/-! ## Reading a request -/

structure Layout where
  rpc : Rpc
  Args : Type
  columns : Columns Exc Slot Args
  method : Args → Method

namespace Layout

def named (rpc : Rpc) (method : Str → Method) : Layout where
  rpc
  Args := Str × Unit
  columns := .cons textColumn .nil
  method args := method args.1

def paged (rpc : Rpc) (method : Str → Int → Str → Method) : Layout where
  rpc
  Args := Str × Int × Str × Unit
  columns := .cons textColumn (.cons int32Column (.cons textColumn .nil))
  method := fun (name, pageSize, pageToken, ()) => method name pageSize pageToken

def versioned (rpc : Rpc) (method : Str → Int → Method) : Layout where
  rpc
  Args := Str × Int × Unit
  columns := .cons textColumn (.cons int32Column .nil)
  method := fun (schemaId, version, ()) => method schemaId version

def getNextMessage : Layout where
  rpc := QueueService.getNextMessage
  Args := Str × (Nat × Nat) × Str × Str × Option Str × Unit
  columns := .cons textColumn <| .cons durationColumn <| .cons textColumn <|
    .cons presentTextColumn <| .cons optionalTextColumn .nil
  method := fun (queueName, lease, exclusivityKey, workerId, attemptId, ()) =>
    .getNextMessage queueName (durationText lease.1 lease.2) exclusivityKey false (some workerId)
      attemptId

def acknowledgeMessage : Layout where
  rpc := QueueService.acknowledgeMessage
  Args := Str × Str × Int × Str × Str × Unit
  columns := .cons textColumn <| .cons textColumn <| .cons numberColumn <|
    .cons presentTextColumn <| .cons presentTextColumn .nil
  method := fun (queueName, messageId, state, workerId, attemptId, ()) =>
    .acknowledgeMessage ⟨messageId, .number state, queueName, workerId, attemptId⟩

def cancelMessage : Layout where
  rpc := QueueService.cancelMessage
  Args := Str × Str × Str × Unit
  columns := .cons textColumn <| .cons textColumn <| .cons nonEmptyTextColumn .nil
  method := fun (queueName, messageId, reason, ()) => .cancelMessage queueName messageId reason

def renewMessageLease : Layout where
  rpc := QueueService.renewMessageLease
  Args := Str × Str × (Nat × Nat) × Option Str × Option Str × Unit
  columns := .cons textColumn <| .cons textColumn <| .cons durationColumn <|
    .cons optionalTextColumn <| .cons optionalTextColumn .nil
  method := fun (queueName, messageId, lease, workerId, attemptId, ()) =>
    .renewMessageLease queueName messageId (durationText lease.1 lease.2) workerId attemptId

def peekQueueMessages : Layout where
  rpc := QueueService.peekQueueMessages
  Args := Str × Int × Option MessagePriorityRange × Str × Unit
  columns := .cons textColumn <| .cons int32Column <| .cons priorityRangeColumn <|
    .cons textColumn .nil
  method := fun (queueName, pageSize, priorityRange, pageToken, ()) =>
    .peekQueueMessages ⟨queueName, pageSize, priorityRange, pageToken⟩

def sendMessageHeartBeat : Layout where
  rpc := QueueService.sendMessageHeartBeat
  Args := Str × Str × Option Str × Option Str × Unit
  columns := .cons textColumn <| .cons textColumn <| .cons optionalTextColumn <|
    .cons optionalTextColumn .nil
  method := fun (queueName, messageId, workerId, attemptId, ()) =>
    .sendMessageHeartbeat queueName messageId attemptId workerId

def registerSchema : Layout where
  rpc := QueueService.registerSchema
  Args := Str × Str × Str × Str × Str × Dict Str Str × Unit
  columns := .cons textColumn <| .cons textColumn <| .cons textColumn <| .cons textColumn <|
    .cons textColumn <| .cons textMapColumn .nil
  method := fun (schemaId, name, description, content, contentType, metadata, ()) =>
    .registerSchema schemaId ⟨name, description, content, contentType, some metadata⟩

def listSchemas : Layout where
  rpc := QueueService.listSchemas
  Args := Str × Int × Bool × Str × Unit
  columns := .cons textColumn <| .cons int32Column <| .cons boolColumn <| .cons textColumn .nil
  method := fun (namePrefix, pageSize, activeOnly, pageToken, ()) =>
    .listSchemas namePrefix pageSize activeOnly pageToken

def validatePayload : Layout where
  rpc := QueueService.validatePayload
  Args := Str × Int × Str × Unit
  columns := .cons textColumn <| .cons int32Column <| .cons textColumn .nil
  method := fun (schemaId, version, payload, ()) => .validatePayload schemaId payload version

def requeueFromDlq : Layout where
  rpc := QueueService.requeueFromDLQ
  Args := Str × Str × Str × Unit
  columns := .cons textColumn <| .cons textColumn <| .cons textColumn .nil
  method := fun (dlqName, messageId, targetQueue, ()) =>
    .requeueFromDlq dlqName messageId targetQueue

def deleteFromDlq : Layout where
  rpc := QueueService.deleteFromDLQ
  Args := Str × Str × Unit
  columns := .cons textColumn <| .cons textColumn .nil
  method := fun (dlqName, messageId, ()) => .deleteFromDlq dlqName messageId

end Layout

def layouts : List Layout :=
  [.named QueueService.deleteQueue .deleteQueue, .paged QueueService.listQueues .listQueues,
    .named QueueService.getQueueState .getQueueState, .getNextMessage, .acknowledgeMessage,
    .cancelMessage, .renewMessageLease, .peekQueueMessages, .sendMessageHeartBeat,
    .named QueueService.deleteSchedule .deleteSchedule,
    .named QueueService.getSchedule .getSchedule,
    .paged QueueService.listSchedules .listSchedules,
    .paged QueueService.getScheduleHistory .getScheduleHistory,
    .named QueueService.pauseSchedule .pauseSchedule,
    .named QueueService.resumeSchedule .resumeSchedule, .registerSchema,
    .versioned QueueService.getSchema .getSchema, .listSchemas,
    .versioned QueueService.deleteSchema .deleteSchema, .validatePayload,
    .paged QueueService.getDLQMessages .getDlqMessages, .requeueFromDlq, .deleteFromDlq,
    .named QueueService.purgeDLQ .purgeDlq, .named QueueService.getDLQStats .getDlqStats]

theorem layouts_distinct : (layouts.map fun l => l.rpc.request.fullName).Nodup := by decide +kernel

/-- The method that a request is of, if its arguments can be read column by column. -/
def readMethod : Message → Option Method
  | .fields name slots =>
      (layouts.find? fun l => l.rpc.request.fullName = name).bind fun l =>
        (l.columns.read slots).map l.method
  | .wellKnown _ => none

theorem setFields_written {values : List (Except Exc Slot)} {slots : List Slot}
    (set_ : setFields values = .ok slots) : Columns.Written values slots := by
  induction values generalizing slots with
  | nil =>
      obtain rfl := setFields_nil.1 set_
      exact .nil
  | cons value rest ih =>
      obtain ⟨slot, first, others, later, rfl⟩ := setFields_cons.1 set_
      exact .cons first (ih later)

theorem readMethod_layout {i : Nat} {layout : Layout} (listed : layouts[i]? = some layout)
    (args : layout.Args) {m : Message}
    (built : construct layout.rpc.request (layout.columns.write args) = .ok m) :
    readMethod m = some (layout.method args) := by
  obtain ⟨slots, set_, same⟩ := bind_eq_ok.1 built
  cases same
  have found : (layouts.find? fun l => l.rpc.request.fullName = layout.rpc.request.fullName) =
      some layout := Models.find_key layouts_distinct (List.mem_of_getElem? listed)
  rw [readMethod, found, Option.bind_some,
    layout.columns.read_write args (setFields_written set_)]
  rfl

namespace Method

def hasBody : Method → Bool
  | .createQueue _ _ | .postMessage _ | .postMessagesBulk _ _ _ | .createSchedule _ _
  | .validateCalendarSchedule _ | .previewCalendarSchedule _ _ => true
  | _ => false

def isPlain : Method → Bool
  | .getNextMessage _ _ _ _ _ _ | .acknowledgeMessage _ | .renewMessageLease _ _ _ _ _
  | .registerSchema _ _ => false
  | method => !method.hasBody

end Method

/-- What the request of a method tells of it: all its arguments, but for the spelling of durations
and of states, a worker that is the client's own and metadata that are not given. -/
inductive Told (env : ClientEnv) : Method → Method → Prop
  | plain (method : Method) (plain : method.isPlain = true) : Told env method method
  | acknowledged (params : AcknowledgeMessageParams) (n : Int)
      (state : enumSlot stateEnum params.state = .ok (.single (.enum n))) :
      Told env (.acknowledgeMessage params) (.acknowledgeMessage { params with state := .number n })
  | renewed (queueName messageId given shown : Str) (workerId attemptId : Option Str)
      (lease : stringToDuration env.python.unicode shown = stringToDuration env.python.unicode given) :
      Told env (.renewMessageLease queueName messageId given workerId attemptId)
        (.renewMessageLease queueName messageId shown workerId attemptId)
  | claimed (queueName given shown exclusivityKey : Str) (enableHeartbeat : Bool)
      (workerId attemptId : Option Str)
      (lease : stringToDuration env.python.unicode shown = stringToDuration env.python.unicode given) :
      Told env (.getNextMessage queueName given exclusivityKey enableHeartbeat workerId attemptId)
        (.getNextMessage queueName shown exclusivityKey false (some (workerId.getD env.workerId))
          attemptId)
  | registered (schemaId : Str) (options : SchemaOptions) :
      Told env (.registerSchema schemaId options)
        (.registerSchema schemaId { options with metadata := some (options.metadata.getD .empty) })

theorem toOption_isSome {α : Type} {x : Except Exc α} (accepted : x.toOption.isSome = true) :
    ∃ a, x = .ok a := by
  cases x with
  | error e => cases accepted
  | ok a => exact ⟨a, rfl⟩

theorem leaseSlot_shown {unicode : Unicode} {given : Str} {slot : Slot}
    (built : leaseSlot unicode (some given) = .ok slot) :
    ∃ d, slot = durationSlot d ∧
      stringToDuration unicode (durationText d.1 d.2) = stringToDuration unicode given := by
  obtain ⟨d, accepted, same⟩ := bind_eq_ok.1 built
  cases same
  obtain ⟨-, small, range⟩ := stringToDuration_exact accepted
  exact ⟨d, rfl, (stringToDuration_durationText range small).trans accepted.symm⟩

section Requests
variable {env : ClientEnv} {m : Message}

theorem told_plain {method : Method} {i : Nat} {layout : Layout} (plain : method.isPlain = true)
    (listed : layouts[i]? = some layout) (args : layout.Args) (same : layout.method args = method)
    (built : construct layout.rpc.request (layout.columns.write args) = .ok m) :
    ∃ read, readMethod m = some read ∧ Told env method read := by
  subst same
  exact ⟨_, readMethod_layout listed args built, .plain _ plain⟩

theorem told_request (method : Method) (readable : method.hasBody = false)
    (built : (NzovuClient.procedure env method).request = .ok m) :
    ∃ read, readMethod m = some read ∧ Told env method read := by
  cases method with
  | createQueue name options => cases readable
  | postMessage params => cases readable
  | postMessagesBulk queueName messages mode => cases readable
  | createSchedule scheduleId options => cases readable
  | validateCalendarSchedule calendar => cases readable
  | previewCalendarSchedule calendar count => cases readable
  | deleteQueue name => exact told_plain (i := 0) rfl rfl (name, ()) rfl built
  | listQueues namePrefix pageSize pageToken =>
      exact told_plain (i := 1) rfl rfl (namePrefix, pageSize, pageToken, ()) rfl built
  | getQueueState queueName => exact told_plain (i := 2) rfl rfl (queueName, ()) rfl built
  | getNextMessage queueName leaseDuration exclusivityKey enableHeartbeat workerId attemptId =>
      obtain ⟨lease, leaseBuilt, built⟩ := bind_eq_ok.1 built
      obtain ⟨request, made, built⟩ := bind_eq_ok.1 built
      obtain rfl := NzovuClient.reserved_returns enableHeartbeat built
      obtain ⟨d, rfl, same⟩ := leaseSlot_shown leaseBuilt
      exact ⟨_, readMethod_layout (i := 3) rfl
        (queueName, d, exclusivityKey, workerId.getD env.workerId, attemptId, ()) made,
        .claimed _ _ _ _ _ _ _ same⟩
  | acknowledgeMessage params =>
      obtain ⟨queueName, queueBuilt, built⟩ := bind_eq_ok.1 built
      obtain ⟨messageId, messageBuilt, built⟩ := bind_eq_ok.1 built
      obtain ⟨workerId, workerBuilt, built⟩ := bind_eq_ok.1 built
      obtain ⟨attemptId, attemptBuilt, built⟩ := bind_eq_ok.1 built
      obtain ⟨slots, set_, same⟩ := bind_eq_ok.1 built
      simp only [setFields_cons, setFields_nil] at set_
      obtain ⟨-, -, -, ⟨-, -, -, ⟨state, stateSet, -⟩, -⟩, -⟩ := set_
      obtain ⟨n, rfl⟩ := enumSlot_kept stateSet
      rw [← queueBuilt, ← messageBuilt, ← workerBuilt, ← attemptBuilt, stateSet] at built
      exact ⟨_, readMethod_layout (i := 4) rfl
        (params.queueName, params.messageId, n, params.workerId, params.attemptId, ()) built,
        .acknowledged params n stateSet⟩
  | cancelMessage queueName messageId reason =>
      exact told_plain (i := 5) rfl rfl (queueName, messageId, reason, ()) rfl built
  | renewMessageLease queueName messageId newLeaseDuration workerId attemptId =>
      obtain ⟨lease, leaseBuilt, built⟩ := bind_eq_ok.1 built
      obtain ⟨d, rfl, same⟩ := leaseSlot_shown leaseBuilt
      exact ⟨_, readMethod_layout (i := 6) rfl (queueName, messageId, d, workerId, attemptId, ())
        built, .renewed _ _ _ _ _ _ same⟩
  | peekQueueMessages params =>
      obtain ⟨range, rangeBuilt, built⟩ := bind_eq_ok.1 built
      rw [← rangeBuilt] at built
      exact told_plain (i := 7) rfl rfl
        (params.queueName, params.pageSize, params.priorityRange, params.pageToken, ()) rfl built
  | sendMessageHeartbeat queueName messageId attemptId workerId =>
      exact told_plain (i := 8) rfl rfl (queueName, messageId, workerId, attemptId, ()) rfl built
  | deleteSchedule scheduleId => exact told_plain (i := 9) rfl rfl (scheduleId, ()) rfl built
  | getSchedule scheduleId => exact told_plain (i := 10) rfl rfl (scheduleId, ()) rfl built
  | listSchedules namePrefix pageSize pageToken =>
      exact told_plain (i := 11) rfl rfl (namePrefix, pageSize, pageToken, ()) rfl built
  | getScheduleHistory scheduleId pageSize pageToken =>
      exact told_plain (i := 12) rfl rfl (scheduleId, pageSize, pageToken, ()) rfl built
  | pauseSchedule scheduleId => exact told_plain (i := 13) rfl rfl (scheduleId, ()) rfl built
  | resumeSchedule scheduleId => exact told_plain (i := 14) rfl rfl (scheduleId, ()) rfl built
  | registerSchema schemaId options =>
      have entries : (options.metadata.map Dict.entries).getD [] =
          (options.metadata.getD .empty).entries := by
        cases options.metadata <;> rfl
      have told := readMethod_layout (i := 15) rfl (schemaId, options.name, options.description,
        options.content, options.contentType, options.metadata.getD .empty, ()) (m := m)
      refine ⟨_, told ?_, .registered schemaId options⟩
      show construct _ [_, _, _, _, _, textMapSlot (options.metadata.getD .empty).entries] = .ok m
      rw [← entries]
      exact built
  | getSchema schemaId version => exact told_plain (i := 16) rfl rfl (schemaId, version, ()) rfl built
  | listSchemas namePrefix pageSize activeOnly pageToken =>
      exact told_plain (i := 17) rfl rfl (namePrefix, pageSize, activeOnly, pageToken, ()) rfl built
  | deleteSchema schemaId version =>
      exact told_plain (i := 18) rfl rfl (schemaId, version, ()) rfl built
  | validatePayload schemaId payload version =>
      exact told_plain (i := 19) rfl rfl (schemaId, version, payload, ()) rfl built
  | getDlqMessages dlqName pageSize pageToken =>
      exact told_plain (i := 20) rfl rfl (dlqName, pageSize, pageToken, ()) rfl built
  | requeueFromDlq dlqName messageId targetQueue =>
      exact told_plain (i := 21) rfl rfl (dlqName, messageId, targetQueue, ()) rfl built
  | deleteFromDlq dlqName messageId =>
      exact told_plain (i := 22) rfl rfl (dlqName, messageId, ()) rfl built
  | purgeDlq dlqName => exact told_plain (i := 23) rfl rfl (dlqName, ()) rfl built
  | getDlqStats dlqName => exact told_plain (i := 24) rfl rfl (dlqName, ()) rfl built

end Requests

/-- The request of a method without a body tells the method and its arguments, and no other method,
or other arguments, give the same request. -/
theorem NzovuClient.request_tells (env : ClientEnv) (method : Method) (m : Message)
    (readable : method.hasBody = false) (built : (procedure env method).request = .ok m) :
    ∃ read, readMethod m = some read ∧ Told env method read ∧
      ∀ env' other, other.hasBody = false → (procedure env' other).request = .ok m →
        Told env' other read := by
  obtain ⟨read, found, told⟩ := told_request method readable built
  refine ⟨read, found, told, ?_⟩
  intro env' other readable' built'
  obtain ⟨read', found', told'⟩ := told_request other readable' built'
  rw [found] at found'
  cases found'
  exact told'

theorem NzovuClient.request_tells_renewal : ∃ m,
    (procedure sampleEnv (.renewMessageLease (text "q") (text "m") (text "1.5m") (text "w")
      none)).request = .ok m ∧
    ∃ read, readMethod m = some read ∧
      Told sampleEnv (.renewMessageLease (text "q") (text "m") (text "1.5m") (text "w") none) read ∧
      ∀ env' other, other.hasBody = false → (procedure env' other).request = .ok m →
        Told env' other read := by
  have accepted : (procedure sampleEnv (.renewMessageLease (text "q") (text "m") (text "1.5m")
      (text "w") none)).request.toOption.isSome = true := by decide +kernel
  obtain ⟨m, built⟩ := toOption_isSome accepted
  exact ⟨m, built, request_tells sampleEnv _ m rfl built⟩

/-! ## Bodies -/

section Bodies
open NzovuClient
variable (others : Pool)

theorem queueTypes : QueueTypes (QueueService.pool others) where
  request := QueueService.pool_request others (by simp [QueueService.requestTypes,
    QueueService.rpcs, QueueService.createQueue])
  metadata := QueueService.pool_request others (by simp [QueueService.requestTypes])
  retentionPolicy := QueueService.pool_request others (by simp [QueueService.requestTypes])
  leasePolicy :=
    QueueService.pool_entry others (show Models.leasePolicy ∈ Models.entries by simp [Models.entries])

/-- The request of `create_queue` keeps the name and every option of the queue. -/
theorem NzovuClient.createQueue_kept (env : ClientEnv) (documented : env.pb.Documented) (name : Str)
    (options : Option CreateQueueOptions) (m : Message)
    (built : (procedure env (.createQueue name options)).request = .ok m) :
    QueueKept env.pb env.python.unicode (QueueService.pool others) name options
      (protobufToPython env.pb.toJsonFormat (QueueService.pool others) m) :=
  createQueueRequest_kept documented (queueTypes others) built

/-- The request of `create_schedule` keeps the id and every option of the schedule, in which values
of payloads are exact. -/
theorem NzovuClient.createSchedule_kept (env : ClientEnv) (documented : env.pb.Documented)
    (scheduleId : Str) (options : ScheduleOptions) (m : Message)
    (built : (procedure env (.createSchedule scheduleId options)).request = .ok m)
    (dataExact : options.payload.Representable)
    (metadataExact : options.dataMetadata.Representable) :
    ∃ schedule, (protobufToPython env.pb.toJsonFormat (QueueService.pool others) m).get?
        (text "schedule") = some schedule ∧
      ScheduleKept env.pb env.python.unicode (QueueService.pool others) scheduleId options schedule := by
  obtain ⟨schedule, made, built⟩ := bind_eq_ok.1 built
  obtain ⟨slots, set_, same⟩ := bind_eq_ok.1 built
  cases same
  simp only [setFields_cons, setFields_nil] at set_
  obtain ⟨slot, set_, -, rfl, rfl⟩ := set_
  cases set_
  have type := QueueService.pool_request others
    (show QueueService.createSchedule.request ∈ QueueService.requestTypes by
      simp [QueueService.requestTypes, QueueService.rpcs])
  exact ⟨_, get?_protobufToPython type (i := 0) rfl rfl rfl rfl,
    buildScheduleRequest_kept (QueueService.requests others) documented env.python scheduleId options
      schedule made dataExact metadataExact⟩

end Bodies

section Sample
open NzovuClient

def documentedEnv : ClientEnv := { sampleEnv with pb := sampleProtobuf }

def sampleQueue : CreateQueueOptions where
  leaseDuration := some (text "1.5m")
  maxAttempts := some 3
  type := 1
  exclusivityKey := none
  allowedContentTypes := some [text "application/json"]
  leasePolicy := some { baseLease := some (text "5s"), maxRenewals := some 0 }
  retentionPolicy := some ⟨.retainDuration, 3600⟩

theorem NzovuClient.createQueue_kept_sample : ∃ m,
    (procedure documentedEnv (.createQueue (text "orders") (some sampleQueue))).request = .ok m ∧
    QueueKept sampleProtobuf unicode15 (QueueService.pool samplePool) (text "orders")
      (some sampleQueue)
      (protobufToPython sampleProtobuf.toJsonFormat (QueueService.pool samplePool) m) := by
  have accepted : (procedure documentedEnv (.createQueue (text "orders")
      (some sampleQueue))).request.toOption.isSome = true := by decide +kernel
  obtain ⟨m, built⟩ := toOption_isSome accepted
  exact ⟨m, built, createQueue_kept samplePool documentedEnv sampleProtobuf_documented
    (text "orders") (some sampleQueue) m built⟩

def sampleSchedule : ScheduleOptions where
  payload := .dict [(.str (text "report"), .list [.str (text "daily"), .bool true])]
  queueName := text "reports"
  cronSchedule := some (text "0 0 * * *")
  priority := none
  maxMessages := some 0
  leaseDuration := some (text "90s")
  headers := [.header (.str (text "h")) (.bytes [255, 0])]
  dataMetadata := .dict [(.str (text "k"), .str (text "v"))]

theorem NzovuClient.createSchedule_kept_sample : ∃ m,
    (procedure documentedEnv (.createSchedule (text "s-1") sampleSchedule)).request = .ok m ∧
    ∃ schedule, (protobufToPython sampleProtobuf.toJsonFormat (QueueService.pool samplePool) m).get?
        (text "schedule") = some schedule ∧
      ScheduleKept sampleProtobuf unicode15 (QueueService.pool samplePool) (text "s-1") sampleSchedule
        schedule := by
  have accepted : (procedure documentedEnv (.createSchedule (text "s-1")
      sampleSchedule)).request.toOption.isSome = true := by decide +kernel
  obtain ⟨m, built⟩ := toOption_isSome accepted
  refine ⟨m, built, createSchedule_kept samplePool documentedEnv sampleProtobuf_documented
    (text "s-1") sampleSchedule m built ?_ ?_⟩
  · exact ⟨⟨trivial, trivial, trivial⟩, trivial⟩
  · exact ⟨trivial, trivial⟩

end Sample

end Nzovu
