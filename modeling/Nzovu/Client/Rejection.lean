import Nzovu.Request.Failures

/-!
# Local rejection

A call whose request cannot be built issues no RPC. What its caller gets depends on the class of the
exception: values that the protobuf package cannot store, values that are nested too deeply and
durations that are too long are reported with classes that no caller is told about.
-/

namespace Nzovu
open Proto

inductive LocalCall
  | postMessage (params : PostMessageParams)
  | createSchedule (scheduleId : Str) (options : ScheduleOptions)
  | validateCalendarSchedule (calendar : List (Key × PyVal))
  | previewCalendarSchedule (calendar : List (Key × PyVal)) (count : Int)
  | postMessagesBulk (queueName : Str) (messages : List PostMessageParams) (mode : ModeOption)

inductive Request
  | postMessage (request : PostMessageRequest)
  | createSchedule (schedule : Message)
  | validateCalendarSchedule (calendar : Message)
  | previewCalendarSchedule (calendar : Message) (count : Int)
  | postMessagesBulk (request : PostMessagesBulkRequest)

inductive Delivery (ρ : Type)
  | returned (response : ρ)
  | raised (error : Exc)
  | handled (error : Exc)

namespace LocalCall

variable {ρ : Type} (pb : Protobuf) (python : Interpreter)

def build : LocalCall → Except Exc Request
  | .postMessage params => do return .postMessage (← createPostMessageRequest pb python params)
  | .createSchedule scheduleId options => do
      return .createSchedule (← buildScheduleRequest pb python scheduleId options)
  | .validateCalendarSchedule calendar => do
      return .validateCalendarSchedule (← pb.parseDict calendarName (.dict calendar))
  | .previewCalendarSchedule calendar count => do
      validateInteger count (text "count") 0 100
      return .previewCalendarSchedule (← pb.parseDict calendarName (.dict calendar)) count
  | .postMessagesBulk queueName messages mode => do
      return .postMessagesBulk (← buildBulkRequest pb python queueName messages mode)

def failure : LocalCall → Str
  | .postMessage _ => text "Failed to post message due to: "
  | .createSchedule _ _ => text "Failed to create schedule due to: "
  | .validateCalendarSchedule _ => text "Failed to validate calendar schedule due to: "
  | .previewCalendarSchedule _ _ => text "Failed to preview calendar schedule due to: "
  | .postMessagesBulk _ _ _ => text "Failed to post messages in bulk due to: "

def deliver (handler : Bool) (error : Exc) : Delivery ρ :=
  handleError (if handler then some .handled else none) .raised error

/-- The `except` clauses of the call. The second one is that of `post_messages_bulk`. -/
def caught (call : LocalCall) (handler : Bool) (e : Exc) : Delivery ρ :=
  match e.cls, call with
  | .rpcError code, call =>
      deliver handler ⟨.rpcOperationError (some code), call.failure ++ e.message⟩
  | .valueError, .postMessagesBulk _ _ _
  | .attributeError, .postMessagesBulk _ _ _
  | .typeError, .postMessagesBulk _ _ _ =>
      deliver handler
        ⟨.rpcOperationError none, text "Invalid parameters for bulk post: " ++ e.message⟩
  | _, _ => .raised e

def perform (stub : Request → Except Exc ρ) (handler : Bool) (call : LocalCall) :
    List Request × Delivery ρ :=
  match call.build pb python with
  | .error e => ([], call.caught handler e)
  | .ok request =>
      match stub request with
      | .ok response => ([request], .returned response)
      | .error e => ([request], call.caught handler e)

/-- A call whose request cannot be built issues no RPC and raises a `ValueError`; a bulk post gives an
`RpcOperationError` to its handler, or raises it. -/
def RejectedAsDocumented (stub : Request → Except Exc ρ) (handler : Bool) (call : LocalCall) :
    Prop :=
  (∃ e, call.build pb python = .error e) →
    match call with
    | .postMessagesBulk _ _ _ => ∃ error, error.isRpcOperationError = true ∧
        call.perform pb python stub handler = ([], deliver handler error)
    | _ => ∃ error, error.isValueError = true ∧
        call.perform pb python stub handler = ([], .raised error)

end LocalCall

def LocalCall.Escapes (pb : Protobuf) (python : Interpreter) : LocalCall → Prop
  | .postMessage params => MessageEscapes pb python params
  | .createSchedule scheduleId options => ScheduleEscapes pb python scheduleId options
  | .validateCalendarSchedule calendar => ∃ e, pb.parseDict calendarName (.dict calendar) = .error e
  | .previewCalendarSchedule calendar count =>
      (0 ≤ count ∧ count ≤ 100) ∧ ∃ e, pb.parseDict calendarName (.dict calendar) = .error e
  | .postMessagesBulk queueName messages mode => BulkEscapes pb python queueName messages mode

theorem LocalCall.build_failsAs {pb : Protobuf} (errors : pb.Errors) (python : Interpreter)
    (call : LocalCall) :
    FailsAs (call.build pb python) (call.Escapes pb python) := by
  cases call with
  | postMessage params =>
      exact (createPostMessageRequest_failsAs errors python params).before_clean fun _ => raises_ok _
  | createSchedule scheduleId options =>
      exact (buildScheduleRequest_failsAs errors python scheduleId options).before_clean
        fun _ => raises_ok _
  | validateCalendarSchedule calendar =>
      exact (parseDict_failsAs errors _ _).before_clean fun _ => raises_ok _
  | previewCalendarSchedule calendar count =>
      apply (FailsAs.after_clean (validateInteger_clean _ _ _ _) fun _ _ =>
        (parseDict_failsAs errors _ _).before_clean fun _ => raises_ok _).congr
      rw [validateInteger_ok]
      rfl
  | postMessagesBulk queueName messages mode =>
      exact (buildBulkRequest_failsAs errors python queueName messages mode).before_clean
        fun _ => raises_ok _

/-! ## What the caller gets -/

section Caller
variable {ρ : Type} (pb : Protobuf) (python : Interpreter)

theorem LocalCall.perform_error {pb : Protobuf} {python : Interpreter} {call : LocalCall} {e : Exc}
    (failed : call.build pb python = .error e) (stub : Request → Except Exc ρ) (handler : Bool) :
    call.perform pb python stub handler = ([], call.caught handler e) := by
  rw [perform, failed]

theorem LocalCall.caught_stray {e : Exc} (stray : e.cls ∈ strayClasses)
    (handler : Bool) (call : LocalCall) : (call.caught handler e : Delivery ρ) = .raised e := by
  simp only [strayClasses, List.mem_cons, List.not_mem_nil, or_false] at stray
  rcases stray with cls | cls | cls | cls | cls <;> simp only [caught, cls]

/-- A call is rejected as documented exactly when its request does not fail with one of the other
classes. -/
theorem LocalCall.rejectedAsDocumented_iff (errors : pb.Errors) (stub : Request → Except Exc ρ)
    (handler : Bool) (call : LocalCall) :
    call.RejectedAsDocumented pb python stub handler ↔ ¬ call.Escapes pb python := by
  have fails := call.build_failsAs errors python
  constructor
  · intro documented escapes
    obtain ⟨e, failed, stray⟩ := fails.stray escapes
    have outcome := LocalCall.perform_error failed stub handler
    rw [LocalCall.caught_stray stray] at outcome
    have promised := documented ⟨e, failed⟩
    cases call with
    | postMessagesBulk queueName messages mode =>
        obtain ⟨error, rpc, given⟩ := promised
        rw [outcome] at given
        cases handler with
        | true => cases given
        | false =>
            cases given
            rw [(stray_told stray).2] at rpc
            cases rpc
    | _ =>
        obtain ⟨error, value, given⟩ := promised
        rw [outcome] at given
        cases given
        rw [(stray_told stray).1] at value
        cases value
  · rintro inside ⟨e, failed⟩
    have value := fails.value inside e failed
    have outcome := LocalCall.perform_error failed stub handler
    cases call with
    | postMessagesBulk queueName messages mode =>
        refine ⟨⟨.rpcOperationError none, text "Invalid parameters for bulk post: " ++ e.message⟩,
          rfl, ?_⟩
        simp only [outcome, caught, value]
    | _ =>
        refine ⟨e, by simp [Exc.isValueError, value], ?_⟩
        simp only [outcome, caught, value]

end Caller

mutual

theorem parseJson_raises : ∀ v : PyVal, Raises .parseError (parseJson v)
  | .none | .bool _ | .int _ => raises_ok _
  | .float _ => raises_ite (raises_ok _) (raises_error rfl)
  | .str _ => raises_ite (raises_ok _) (raises_error rfl)
  | .list items => raises_bind (parseItems_raises items) fun _ => raises_ok _
  | .dict entries => raises_bind (parseEntries_raises entries) fun _ => raises_ok _
  | .bytes _ | .other _ => raises_error rfl

theorem parseItems_raises : ∀ items : List PyVal, Raises .parseError (parseItems items)
  | [] => raises_ok _
  | item :: rest => raises_bind (parseJson_raises item) fun _ =>
      raises_bind (parseItems_raises rest) fun _ => raises_ok _

theorem parseEntries_raises : ∀ entries : List (Key × PyVal),
    Raises .parseError (parseEntries entries)
  | [] => raises_ok _
  | (.str _, item) :: rest => raises_guard rfl <| raises_bind (parseJson_raises item) fun _ =>
      raises_bind (parseEntries_raises rest) fun _ => raises_ok _
  | (.int _, _) :: _ | (.bool _, _) :: _ | (.other _, _) :: _ => raises_error rfl

end

theorem parseStruct_raises (v : PyVal) : Raises .parseError (parseStruct v) := by
  cases v with
  | dict entries => exact parseEntries_raises entries
  | _ => exact raises_error rfl

theorem sampleProtobuf_errors : sampleProtobuf.Errors := by
  refine .of_parseError (fun name value => ?_) fun _ => raises_ok _
  apply raises_ite
  · rw [parsePayload.eq_def]
    split
    · apply raises_bind (parseStruct_raises _)
      intro _
      exact raises_bind (parseStruct_raises _) fun _ => raises_ok _
    · exact raises_error rfl
  · apply raises_ite
    · exact raises_bind (parseStruct_raises value) fun _ => raises_ok _
    · apply raises_ite
      · exact raises_bind (parseJson_raises value) fun _ => raises_ok _
      · exact raises_error rfl

def surrogateParams : PostMessageParams where
  messageId := text "m"
  data := .dict [(.str (text "a"), .str [0xd800])]
  queueName := text "q"

def raisedClass {α : Type} : Except Exc α → Option ExcClass
  | .error e => some e.cls
  | .ok _ => none

theorem raisedClass_eq_some {α : Type} {x : Except Exc α} {cls : ExcClass}
    (raised : raisedClass x = some cls) : ∃ e, x = .error e ∧ e.cls = cls := by
  cases x with
  | error e => exact ⟨e, rfl, Option.some.inj raised⟩
  | ok a => cases raised

theorem LocalCall.not_rejectedAsDocumented_surrogate :
    ¬ (postMessagesBulk (text "q") [surrogateParams] (.member .allOrNothing)).RejectedAsDocumented
      sampleProtobuf ⟨100, 100, unicode15⟩ (fun _ => .ok ()) true := by
  intro documented
  obtain ⟨e, failed, cls⟩ : ∃ e, build sampleProtobuf ⟨100, 100, unicode15⟩
      (postMessagesBulk (text "q") [surrogateParams] (.member .allOrNothing)) = .error e ∧
        e.cls = .parseError := raisedClass_eq_some (by decide +kernel)
  obtain ⟨error, -, given⟩ := documented ⟨e, failed⟩
  rw [perform_error failed, caught_stray (cls ▸ by decide)] at given
  cases given

theorem LocalCall.rejectedAsDocumented_iff_blank :
    (postMessagesBulk [] [surrogateParams] (.member .allOrNothing)).RejectedAsDocumented
      sampleProtobuf ⟨100, 100, unicode15⟩ (fun _ => .ok ()) true :=
  (rejectedAsDocumented_iff sampleProtobuf ⟨100, 100, unicode15⟩ sampleProtobuf_errors
    (fun _ => .ok ()) true _).2 fun escapes => nomatch escapes.1

end Nzovu
