import Nzovu.Client.Rejection
import Nzovu.Service.Facade

/-!
# Rejection by any method

What a call comes to that issues no RPC, for every method. The calls whose rejection is documented
are calls of the methods.
-/

namespace Nzovu
open Proto

section Constructors

theorem boolSlot_clean (b : Bool) : Clean (boolSlot b) := raises_ok _

theorem optionalTextSlot_clean (s : Option Str) : Clean (optionalTextSlot s) := by
  cases s with
  | none => exact raises_ok _
  | some s => exact textSlot_clean s

theorem textsSlot_clean (values : List Str) : Clean (textsSlot values) :=
  raises_ite (raises_ok _) (raises_valueError _)

theorem textMapSlot_clean (entries : List (Str × Str)) : Clean (textMapSlot entries) :=
  raises_ite (raises_ok _) (raises_valueError _)

theorem slot_clean (slot : Slot) : Clean (.ok slot : Except Exc Slot) := raises_ok _

theorem setFields_clean {values : List (Except Exc Slot)} (clean : ∀ value ∈ values, Clean value) :
    Clean (setFields values) := by
  induction values with
  | nil => exact raises_ok _
  | cons value rest ih =>
      rw [setFields]
      apply raises_bind (clean value List.mem_cons_self)
      intro slot
      apply raises_bind (ih fun value member => clean value (List.mem_cons_of_mem _ member))
      intro slots
      exact raises_ok _

theorem construct_clean (type : MessageType) {values : List (Except Exc Slot)}
    (clean : ∀ value ∈ values, Clean value) : Clean (construct type values) :=
  raises_bind (setFields_clean clean) fun _ => raises_ok _

theorem postInit_range_clean (range : MessagePriorityRange) : Clean range.postInit := by
  rw [MessagePriorityRange.postInit]
  apply raises_bind (validateInteger_clean _ _ _ _)
  intro _
  apply raises_bind (validateInteger_clean _ _ _ _)
  intro _
  exact raises_ite (raises_valueError _) (raises_ok _)

theorem priorityRangeSlot_clean (range : Option MessagePriorityRange) :
    Clean (priorityRangeSlot range) := by
  cases range with
  | none => exact raises_ok _
  | some range =>
      apply raises_bind (postInit_range_clean range)
      intro _
      apply raises_bind (construct_clean _ (by simp [int64Slot_clean]))
      intro _
      exact raises_ok _

theorem checkClaim_clean (queueName messageId workerId attemptId : Str) :
    Clean (checkClaim queueName messageId workerId attemptId) := by
  apply raises_bind
  · intro e failed
    have cls := Claim.create_error failed
    rwa [Exc.isValueError, decide_eq_true_eq] at cls
  · intro _
    exact raises_ok _

end Constructors

section Failing
variable {α β : Type} {x : Except Exc α} {f : α → Except Exc β} {P : Prop}

theorem FailsAs.inside (fails : FailsAs x P) {a : α} (accepted : x = .ok a) : ¬ P := by
  intro escapes
  obtain ⟨e, failed, -⟩ := fails.stray escapes
  rw [accepted] at failed
  cases failed

theorem bind_error (returns : ∀ a, x = .ok a → ∃ b, f a = .ok b) (e : Exc) :
    x >>= f = .error e ↔ x = .error e := by
  cases outcome : x with
  | error e' =>
      show Except.error e' = Except.error e ↔ Except.error e' = Except.error e
      simp
  | ok a =>
      obtain ⟨b, returned⟩ := returns a outcome
      rw [ok_bind, returned]
      simp

theorem FailsAs.of_errors {y : Except Exc β} (fails : FailsAs x P)
    (same : ∀ e, y = .error e ↔ x = .error e) : FailsAs y P where
  stray := by
    intro escapes
    obtain ⟨e, failed, cls⟩ := fails.stray escapes
    exact ⟨e, (same e).2 failed, cls⟩
  value := fun inside e failed => fails.value inside e ((same e).1 failed)

end Failing

/-- A duration overflows, or `ParseDict` cannot store the priority config. What the builder looks at
before is right. -/
def QueueEscapes (pb : Protobuf) (python : Interpreter) (options : CreateQueueOptions) : Prop :=
  LeaseEscapes python options.leaseDuration ∨
  ∃ lease, policySlot python.unicode options.leaseDuration = .ok lease ∧
    ∃ slots, setFields (queueScalars options lease) = .ok slots ∧
      ((∃ entries, options.givenConfig = some entries ∧
          ∃ e, pb.parseDict priorityConfigName (.dict entries) = .error e) ∨
        (∃ config, priorityConfigSlot pb options.givenConfig = .ok config) ∧
          PolicyEscapes python options.leasePolicy)

def Method.Escapes (pb : Protobuf) (python : Interpreter) : Method → Prop
  | .createQueue _ (some options) => QueueEscapes pb python options
  | .postMessage params => MessageEscapes pb python params
  | .postMessagesBulk queueName messages mode => BulkEscapes pb python queueName messages mode
  | .getNextMessage _ leaseDuration _ _ _ _ => LeaseEscapes python (some leaseDuration)
  | .renewMessageLease queueName messageId newLeaseDuration workerId attemptId =>
      (∃ u, checkClaim queueName messageId (workerId.getD []) (attemptId.getD []) = .ok u) ∧
        LeaseEscapes python (some newLeaseDuration)
  | .createSchedule scheduleId options => ScheduleEscapes pb python scheduleId options
  | .validateCalendarSchedule calendar => ∃ e, pb.parseDict calendarName (.dict calendar) = .error e
  | .previewCalendarSchedule calendar count =>
      (0 ≤ count ∧ count ≤ 100) ∧ ∃ e, pb.parseDict calendarName (.dict calendar) = .error e
  | _ => False

def Method.isClaim : Method → Bool
  | .getNextMessage _ _ _ _ _ _ => true
  | _ => false

def Procedure.prepared (p : Procedure) : Except Exc Message := do
  p.check
  p.request

/-! ## Calls whose rejection is documented -/

def LocalCall.method : LocalCall → Method
  | .postMessage params => .postMessage params
  | .createSchedule scheduleId options => .createSchedule scheduleId options
  | .validateCalendarSchedule calendar => .validateCalendarSchedule calendar
  | .previewCalendarSchedule calendar count => .previewCalendarSchedule calendar count
  | .postMessagesBulk queueName messages mode => .postMessagesBulk queueName messages mode

namespace NzovuClient

theorem construct_ok (type : MessageType) {values : List (Except Exc Slot)}
    (accepted : ∀ value ∈ values, ∃ slot, value = .ok slot) : ∃ m, construct type values = .ok m := by
  suffices stored : ∃ slots, setFields values = .ok slots by
    obtain ⟨slots, stored⟩ := stored
    rw [construct, stored]
    exact ⟨_, rfl⟩
  induction values with
  | nil => exact ⟨[], rfl⟩
  | cons value rest ih =>
      obtain ⟨slot, first⟩ := accepted value List.mem_cons_self
      obtain ⟨slots, others⟩ := ih fun value member => accepted value (List.mem_cons_of_mem _ member)
      exact ⟨slot :: slots, setFields_cons.2 ⟨slot, first, slots, others, rfl⟩⟩

theorem transactionMode_ok {pb : Protobuf} {python : Interpreter} {queueName : Str}
    {messages : List PostMessageParams} {mode : ModeOption} {request : PostMessagesBulkRequest}
    (built : buildBulkRequest pb python queueName messages mode = .ok request) :
    ∃ slot, enumSlot transactionModeEnum (.name request.transactionMode) = .ok slot := by
  obtain ⟨_, -, built⟩ := bind_eq_ok.1 built
  obtain ⟨-, built⟩ := guard_eq_ok.1 built
  obtain ⟨valid, built⟩ := guard_eq_ok.1 built
  obtain ⟨name, -, built⟩ := bind_eq_ok.1 built
  obtain ⟨collected, -, same⟩ := bind_eq_ok.1 built
  cases same
  rw [not_not] at valid
  rcases List.mem_pair.1 valid with same | same <;> rw [same] <;> exact ⟨_, rfl⟩

theorem calendarSlot_error (pb : Protobuf) (calendar : List (Key × PyVal)) (e : Exc) :
    calendarSlot pb calendar = .error e ↔ pb.parseDict calendarName (.dict calendar) = .error e :=
  bind_error (fun _ _ => ⟨_, rfl⟩) e

theorem prepared_localCall (env : ClientEnv) (call : LocalCall) (e : Exc) :
    (procedure env call.method).prepared = .error e ↔ call.build env.pb env.python = .error e := by
  cases call with
  | postMessage params =>
      have outer := bind_error (x := createPostMessageRequest env.pb env.python params)
        (f := fun request => construct QueueService.postMessage.request
          [.ok request.queueName, .ok (messageSlot request.message)])
        (fun request _ => construct_ok _ (by simp)) e
      exact outer.trans (bind_error (fun request _ => ⟨_, rfl⟩) e).symm
  | createSchedule scheduleId options =>
      have outer := bind_error (x := buildScheduleRequest env.pb env.python scheduleId options)
        (f := fun schedule => construct QueueService.createSchedule.request
          [.ok (messageSlot schedule)]) (fun schedule _ => construct_ok _ (by simp)) e
      exact outer.trans (bind_error (fun schedule _ => ⟨_, rfl⟩) e).symm
  | validateCalendarSchedule calendar =>
      have outer := bind_error (x := calendarSlot env.pb calendar)
        (f := fun slot => construct QueueService.validateCalendarSchedule.request [.ok slot])
        (fun slot _ => construct_ok _ (by simp)) e
      exact (outer.trans (calendarSlot_error env.pb calendar e)).trans
        (bind_error (fun m _ => ⟨_, rfl⟩) e).symm
  | previewCalendarSchedule calendar count =>
      have checked : ∀ u, validateInteger count (text "count") 0 100 = .ok u →
          ∃ slot, int32Slot count = .ok slot := by
        intro u passed
        obtain ⟨low, high⟩ := (validateInteger_ok _ _ _ _).1 ⟨u, passed⟩
        rw [int32Slot, if_pos (by omega)]
        exact ⟨_, rfl⟩
      show (validateInteger count (text "count") 0 100 >>= fun _ =>
          calendarSlot env.pb calendar >>= fun slot =>
            construct QueueService.previewCalendarSchedule.request [.ok slot, int32Slot count]) =
          .error e ↔
        (validateInteger count (text "count") 0 100 >>= fun _ =>
          env.pb.parseDict calendarName (.dict calendar) >>= fun m =>
            .ok (Request.previewCalendarSchedule m count)) = .error e
      cases passed : validateInteger count (text "count") 0 100 with
      | error e' =>
          show (Except.error e' : Except Exc Message) = .error e ↔
            (Except.error e' : Except Exc Request) = .error e
          simp
      | ok u =>
          have outer := bind_error (x := calendarSlot env.pb calendar)
            (f := fun slot => construct QueueService.previewCalendarSchedule.request
              [.ok slot, int32Slot count])
            (fun slot _ => construct_ok _ (by simpa using checked u passed)) e
          exact (outer.trans (calendarSlot_error env.pb calendar e)).trans
            (bind_error (fun m _ => ⟨_, rfl⟩) e).symm
  | postMessagesBulk queueName messages mode =>
      have outer := bind_error (x := buildBulkRequest env.pb env.python queueName messages mode)
        (f := fun request => construct QueueService.postMessagesBulk.request
          [.ok request.queueName, .ok (.repeated (request.messages.map .message)),
            enumSlot transactionModeEnum (.name request.transactionMode)])
        (fun request built => construct_ok _ (by simpa using transactionMode_ok built)) e
      exact outer.trans (bind_error (fun request _ => ⟨_, rfl⟩) e).symm

/-! ## Every method -/

section Failures
variable {pb : Protobuf} (errors : pb.Errors)
include errors

theorem queueMetadata_failsAs (python : Interpreter) (options : CreateQueueOptions) :
    FailsAs (queueMetadata pb python.unicode options) (QueueEscapes pb python options) := by
  apply (policySlot_failsAs python _).each
  intro lease _
  have scalars : ∀ value ∈ queueScalars options lease, Clean value := by
    simp [queueScalars, enumSlot_clean, int32Slot_clean, slot_clean, textSlot_clean, boolSlot_clean,
      textsSlot_clean]
  apply FailsAs.step (setFields_clean scalars)
  intro slots _
  have config : FailsAs (priorityConfigSlot pb options.givenConfig)
      (∃ entries, options.givenConfig = some entries ∧
        ∃ e, pb.parseDict priorityConfigName (.dict entries) = .error e) := by
    cases given : options.givenConfig with
    | none => exact (FailsAs.of_clean (raises_ok _)).congr (by simp)
    | some entries =>
        apply ((parseDict_failsAs errors _ _).before_clean fun _ => raises_ok _).congr
        simp
  have retention : Clean (retentionSlot options.retentionPolicy) := by
    cases options.retentionPolicy with
    | none => exact raises_ok _
    | some policy =>
        apply raises_bind (construct_clean _ (by simp [slot_clean, int64Slot_clean]))
        intro _
        exact raises_ok _
  exact config.bind fun _ _ => (buildLeasePolicy_failsAs python _).before_clean fun _ =>
    raises_bind retention fun _ => raises_ok _

theorem createQueueRequest_failsAs (python : Interpreter) (name : Str)
    (options : Option CreateQueueOptions) :
    FailsAs (createQueueRequest pb python.unicode name options)
      ((Method.createQueue name options).Escapes pb python) := by
  have rest : ∀ slot, Clean (construct createQueueRequestType [textSlot name, .ok slot]) := by
    intro slot
    exact construct_clean _ (by simp [textSlot_clean, slot_clean])
  cases options with
  | none => exact FailsAs.of_clean (raises_bind (raises_ok _) rest)
  | some options =>
      exact ((queueMetadata_failsAs errors python options).before_clean
        fun _ => raises_ok _).before_clean rest

end Failures

theorem validatePage_clean (pageSize : Int) : Clean (validatePage pageSize) :=
  validateInteger_clean _ _ _ _

theorem validateVersion_clean (version : Int) : Clean (validateVersion version) :=
  validateInteger_clean _ _ _ _

theorem prepared_clean {p : Procedure} (check : Clean p.check) (request : Clean p.request) :
    Clean p.prepared :=
  raises_bind check fun _ => request

theorem prepared_failsAs {env : ClientEnv} (errors : env.pb.Errors) (method : Method)
    (own : method.isClaim = false) :
    FailsAs (procedure env method).prepared (method.Escapes env.pb env.python) := by
  have documented : ∀ call : LocalCall, FailsAs (procedure env call.method).prepared
      (call.Escapes env.pb env.python) := fun call =>
    (call.build_failsAs errors env.python).of_errors (prepared_localCall env call)
  have unchecked : Clean (.ok () : Except Exc Unit) := raises_ok ()
  cases method with
  | createQueue name options => exact createQueueRequest_failsAs errors env.python name options
  | postMessage params => exact documented (.postMessage params)
  | postMessagesBulk queueName messages mode =>
      exact documented (.postMessagesBulk queueName messages mode)
  | createSchedule scheduleId options => exact documented (.createSchedule scheduleId options)
  | validateCalendarSchedule calendar => exact documented (.validateCalendarSchedule calendar)
  | previewCalendarSchedule calendar count =>
      exact documented (.previewCalendarSchedule calendar count)
  | getNextMessage queueName leaseDuration exclusivityKey enableHeartbeat workerId attemptId =>
      cases own
  | listQueues namePrefix pageSize pageToken =>
      exact .of_clean (prepared_clean (validatePage_clean _)
        (construct_clean _ (by simp [textSlot_clean, int32Slot_clean])))
  | acknowledgeMessage params =>
      apply FailsAs.of_clean
      apply prepared_clean (checkClaim_clean _ _ _ _)
      apply raises_bind (textSlot_clean _)
      intro queueName
      apply raises_bind (textSlot_clean _)
      intro messageId
      apply raises_bind (optionalTextSlot_clean _)
      intro workerId
      apply raises_bind (optionalTextSlot_clean _)
      intro attemptId
      exact construct_clean _ (by simp [slot_clean, enumSlot_clean])
  | renewMessageLease queueName messageId newLeaseDuration workerId attemptId =>
      apply FailsAs.after_clean (checkClaim_clean _ _ _ _)
      intro _ _
      apply (leaseSlot_failsAs env.python _).before_clean
      intro lease
      exact construct_clean _ (by simp [slot_clean, textSlot_clean, optionalTextSlot_clean])
  | peekQueueMessages params =>
      apply FailsAs.of_clean
      apply prepared_clean (validatePage_clean _)
      apply raises_bind (priorityRangeSlot_clean _)
      intro range
      exact construct_clean _ (by simp [slot_clean, textSlot_clean, int32Slot_clean])
  | sendMessageHeartbeat queueName messageId attemptId workerId =>
      exact .of_clean (prepared_clean (checkClaim_clean _ _ _ _)
        (construct_clean _ (by simp [textSlot_clean, optionalTextSlot_clean])))
  | listSchedules namePrefix pageSize pageToken =>
      exact .of_clean (prepared_clean (validatePage_clean _)
        (construct_clean _ (by simp [textSlot_clean, int32Slot_clean])))
  | getScheduleHistory scheduleId pageSize pageToken =>
      exact .of_clean (prepared_clean (validatePage_clean _)
        (construct_clean _ (by simp [textSlot_clean, int32Slot_clean])))
  | registerSchema schemaId options =>
      apply FailsAs.of_clean
      apply prepared_clean (raises_ite (raises_valueError _) unchecked)
      exact construct_clean _ (by simp [textSlot_clean, textMapSlot_clean])
  | getSchema schemaId version =>
      exact .of_clean (prepared_clean (validateVersion_clean _)
        (construct_clean _ (by simp [textSlot_clean, int32Slot_clean])))
  | listSchemas namePrefix pageSize activeOnly pageToken =>
      exact .of_clean (prepared_clean (validatePage_clean _)
        (construct_clean _ (by simp [textSlot_clean, int32Slot_clean, boolSlot_clean])))
  | deleteSchema schemaId version =>
      exact .of_clean (prepared_clean (validateVersion_clean _)
        (construct_clean _ (by simp [textSlot_clean, int32Slot_clean])))
  | validatePayload schemaId payload version =>
      exact .of_clean (prepared_clean (validateVersion_clean _)
        (construct_clean _ (by simp [textSlot_clean, int32Slot_clean])))
  | getDlqMessages dlqName pageSize pageToken =>
      exact .of_clean (prepared_clean (validatePage_clean _)
        (construct_clean _ (by simp [textSlot_clean, int32Slot_clean])))
  | requeueFromDlq dlqName messageId targetQueue =>
      exact .of_clean (prepared_clean (requireName_clean _ _)
        (construct_clean _ (by simp [textSlot_clean])))
  | cancelMessage queueName messageId reason =>
      exact .of_clean (prepared_clean unchecked
        (construct_clean _ (by simp [textSlot_clean, optionalTextSlot_clean])))
  | _ => exact .of_clean (prepared_clean unchecked (construct_clean _ (by simp [textSlot_clean])))

theorem prepared_claim {env : ClientEnv} {method : Method} (own : method.isClaim = true) {e : Exc}
    (failed : (procedure env method).prepared = .error e) :
    ¬ method.Escapes env.pb env.python ∧ e.cls = .valueError ∨
      method.Escapes env.pb env.python ∧ e.cls ∈ strayClasses ∨
      env.opened = .error e ∨ env.reserved = .error e := by
  cases method with
  | getNextMessage queueName leaseDuration exclusivityKey enableHeartbeat workerId attemptId =>
      have fails := leaseSlot_failsAs env.python (some leaseDuration)
      rcases bind_eq_error.1 failed with closed | ⟨_, -, failed⟩
      · exact .inr (.inr (.inl closed))
      rcases bind_eq_error.1 failed with lease | ⟨slot, leaseBuilt, failed⟩
      · by_cases escapes : LeaseEscapes env.python (some leaseDuration)
        · obtain ⟨e', failed', stray⟩ := fails.stray escapes
          rw [lease] at failed'
          cases failed'
          exact .inr (.inl ⟨escapes, stray⟩)
        · exact .inl ⟨escapes, fails.value escapes e lease⟩
      have inside := fails.inside leaseBuilt
      rcases bind_eq_error.1 failed with constructed | ⟨request, -, failed⟩
      · have cls := construct_clean _
          (by simp [textSlot_clean, slot_clean, optionalTextSlot_clean]) e constructed
        exact .inl ⟨inside, cls⟩
      · cases enableHeartbeat with
        | false => cases failed
        | true =>
            rcases bind_eq_error.1 failed with saturated | ⟨_, -, returned⟩
            · exact .inr (.inr (.inr saturated))
            · cases returned
  | _ => cases own

inductive Rejected (env : ClientEnv) (handler : Bool) (method : Method) (e : Exc) : CallResult → Prop
  /-- `ParseDict` cannot store a value, it is nested too deeply, or a number is too large. -/
  | escaped (escapes : method.Escapes env.pb env.python) (cls : e.cls ∈ strayClasses) :
      Rejected env handler method e (.raised e)
  | invalid (inside : ¬ method.Escapes env.pb env.python) (cls : e.cls = .valueError)
      (single : ∀ queueName messages mode, method ≠ .postMessagesBulk queueName messages mode) :
      Rejected env handler method e (.raised e)
  | invalidBulk (inside : ¬ method.Escapes env.pb env.python) (cls : e.cls = .valueError)
      (queueName : Str) (messages : List PostMessageParams) (mode : ModeOption)
      (bulk : method = .postMessagesBulk queueName messages mode) :
      Rejected env handler method e
        (deliver handler ⟨text "Invalid parameters for bulk post: " ++ e.message, none⟩)
  /-- The client is closed, or it has no free slot for a heartbeat. -/
  | unclaimed (claim : method.isClaim = true)
      (cause : env.opened = .error e ∨ env.reserved = .error e) :
      Rejected env handler method e (.raised e)

theorem check_error {env : ClientEnv} {method : Method} {e : Exc}
    (failed : (procedure env method).check = .error e) : (procedure env method).catches = false := by
  cases method with
  | postMessagesBulk queueName messages mode => cases failed
  | _ => rfl

theorem catches_false {env : ClientEnv} {method : Method}
    (silent : (procedure env method).catches = false) (queueName : Str)
    (messages : List PostMessageParams) (mode : ModeOption) :
    method ≠ .postMessagesBulk queueName messages mode := by
  intro bulk
  subst bulk
  cases silent

theorem caught_silent {p : Procedure} {handler : Bool} {e : Exc} (silent : p.catches = false) :
    caught p handler e = .raised e := by
  rw [caught, silent]
  exact if_neg fun both => Bool.false_ne_true both.1

theorem caught_other {p : Procedure} {handler : Bool} {e : Exc} (other : e.cls ∉ parameterErrors) :
    caught p handler e = .raised e := by
  rw [caught]
  exact if_neg fun both => other both.2

theorem stray_parameter {e : Exc} (stray : e.cls ∈ strayClasses) : e.cls ∉ parameterErrors := by
  have apart : ∀ cls ∈ strayClasses, cls ∉ parameterErrors := by decide
  exact apart e.cls stray

theorem rejected_caught {env : ClientEnv} (errors : env.pb.Errors) {handler : Bool} {method : Method}
    {e : Exc} (failed : (procedure env method).prepared = .error e) :
    Rejected env handler method e (caught (procedure env method) handler e) := by
  cases own : method.isClaim with
  | true =>
      have silent : (procedure env method).catches = false := by
        cases method with
        | getNextMessage _ _ _ _ _ _ => rfl
        | _ => cases own
      rw [caught_silent silent]
      rcases prepared_claim own failed with ⟨outside, cls⟩ | ⟨escapes, cls⟩ | cause
      · exact .invalid outside cls (catches_false silent)
      · exact .escaped escapes cls
      · exact .unclaimed own cause
  | false =>
      have fails := prepared_failsAs errors method own
      by_cases escapes : method.Escapes env.pb env.python
      · obtain ⟨e', failed', cls⟩ := fails.stray escapes
        rw [failed] at failed'
        cases failed'
        rw [caught_other (stray_parameter cls)]
        exact .escaped escapes cls
      · have cls := fails.value escapes e failed
        cases catches : (procedure env method).catches with
        | true =>
            obtain ⟨queueName, messages, mode, bulk⟩ := catches_bulk catches
            have outcome : caught (procedure env method) handler e = deliver handler
                ⟨text "Invalid parameters for bulk post: " ++ e.message, none⟩ := by
              rw [caught]
              exact if_pos ⟨catches, by rw [cls]; decide⟩
            rw [outcome]
            exact .invalidBulk escapes cls queueName messages mode bulk
        | false =>
            rw [caught_silent catches]
            exact .invalid escapes cls (catches_false catches)

theorem rejected_prepare {env : ClientEnv} (errors : env.pb.Errors) {handler : Bool}
    {method : Method} {result : CallResult}
    (refused : prepare (procedure env method) handler = .error result) :
    ∃ e, (procedure env method).prepared = .error e ∧ Rejected env handler method e result := by
  rcases prepare_error.1 refused with ⟨e, failed, rfl⟩ | ⟨passed, e, failed, rfl⟩
  · have prepared : (procedure env method).prepared = .error e := by
      rw [Procedure.prepared, failed]
      rfl
    have rejected : Rejected env handler method e (caught (procedure env method) handler e) :=
      rejected_caught errors prepared
    rw [caught_silent (check_error failed)] at rejected
    exact ⟨e, prepared, rejected⟩
  · have prepared : (procedure env method).prepared = .error e := by
      rw [Procedure.prepared, passed]
      exact failed
    exact ⟨e, prepared, rejected_caught errors prepared⟩

theorem prepared_refused {env : ClientEnv} {method : Method} (handler : Bool) {e : Exc}
    (failed : (procedure env method).prepared = .error e) :
    ∃ result, prepare (procedure env method) handler = .error result := by
  cases prepared : prepare (procedure env method) handler with
  | error result => exact ⟨result, rfl⟩
  | ok m =>
      obtain ⟨passed, built⟩ := prepare_ok.1 prepared
      rw [Procedure.prepared, passed, built] at failed
      cases failed

/-- A call whose request cannot be prepared issues no RPC, and its caller is told why: of a
`ValueError`, unless a value escapes the checks, or the client is closed or saturated. A method other
than `get_next_message` fails with another class exactly when a value escapes. -/
theorem call_rejected (env : ClientEnv) (errors : env.pb.Errors) (options : RpcOptions)
    (answer : Continuation) (started : Except Exc Unit) (handler : Bool) (method : Method) :
    (∀ e, (procedure env method).prepared = .error e → ∃ result,
      call env options answer started handler method = ([], result) ∧
        Rejected env handler method e result) ∧
    (method.isClaim = false →
      ((∃ e, (procedure env method).prepared = .error e ∧ e.cls ≠ .valueError) ↔
        method.Escapes env.pb env.python)) := by
  constructor
  · intro e failed
    obtain ⟨result, refused⟩ := prepared_refused handler failed
    obtain ⟨e', failed', rejected⟩ := rejected_prepare errors refused
    rw [failed] at failed'
    cases failed'
    refine ⟨result, ?_, rejected⟩
    simp only [call, refused]
  · intro own
    have fails := prepared_failsAs errors method own
    constructor
    · intro stray
      obtain ⟨e, failed, cls⟩ := stray
      by_contra inside
      exact cls (fails.value inside e failed)
    · intro escapes
      obtain ⟨e, failed, cls⟩ := fails.stray escapes
      refine ⟨e, failed, ?_⟩
      intro value
      rw [value] at cls
      revert cls
      decide

theorem plainProtobuf_errors : plainProtobuf.Errors := by
  refine .of_parseError (fun name value => ?_) fun _ => raises_ok _
  apply raises_ite
  · rw [parseEmpty.eq_def]
    split
    · exact raises_ite (raises_ok _) (raises_error rfl)
    · exact raises_error rfl
  · exact raises_error rfl

def unknownConfig : Method :=
  .createQueue (text "orders") (some { priorityConfig := some [(.str (text "unknown"), .int 1)] })

theorem call_rejected_unknown : ∃ e result,
    (procedure sampleEnv unknownConfig).prepared = .error e ∧
    call sampleEnv .sample (fun _ _ => .ok samplePosted) (.ok ()) true unknownConfig = ([], result) ∧
    Rejected sampleEnv true unknownConfig e result := by
  obtain ⟨e, failed, -⟩ : ∃ e, (procedure sampleEnv unknownConfig).prepared = .error e ∧
      e.cls = .parseError := raisedClass_eq_some (by decide +kernel)
  obtain ⟨result, outcome, rejected⟩ := (call_rejected sampleEnv plainProtobuf_errors .sample
    (fun _ _ => .ok samplePosted) (.ok ()) true unknownConfig).1 e failed
  exact ⟨e, result, failed, outcome, rejected⟩

end NzovuClient

end Nzovu
