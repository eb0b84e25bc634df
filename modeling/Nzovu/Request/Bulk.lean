import Nzovu.Request.Schedule

/-!
# Bulk posts and single posts

A bulk request is accepted exactly when its name, size and mode are and each of its messages is
accepted on its own, and it consists of the messages that single posts have.
-/

namespace Nzovu

/-- `build_bulk_request` when the queue name may be any object. -/
def bulkRequestOf (pb : Protobuf) (python : Interpreter) (queueName : PyVal)
    (messages : List PostMessageParams) (mode : ModeOption) : Except Exc PostMessagesBulkRequest :=
  match queueName with
  | .str queueName => buildBulkRequest pb python queueName messages mode
  | _ => .error (valueError (text "queue_name" ++ text " is required"))

section
variable {pb : Protobuf} {python : Interpreter}

def PostedAs (pb : Protobuf) (python : Interpreter) (params : PostMessageParams)
    (message : Proto.Message) : Prop :=
  ∃ request, createPostMessageRequest pb python params = .ok request ∧ request.message = message

theorem requireName_eq_ok {value name : Str} :
    requireName value name = .ok () ↔ value.blank = false := by
  cases blank : value.blank <;> simp [requireName, blank]

theorem createPostMessageRequest_stored {params : PostMessageParams} {request : PostMessageRequest}
    (built : createPostMessageRequest pb python params = .ok request) :
    textSlot params.queueName = .ok request.queueName ∧ pb.reparse request.message = .ok () := by
  rw [createPostMessageRequest] at built
  obtain ⟨-, -, built⟩ := bind_eq_ok.1 built
  obtain ⟨-, built⟩ := guard_eq_ok.1 built
  obtain ⟨-, -, built⟩ := bind_eq_ok.1 built
  obtain ⟨payload, -, built⟩ := bind_eq_ok.1 built
  obtain ⟨leaseDuration, -, built⟩ := bind_eq_ok.1 built
  obtain ⟨headers, -, built⟩ := bind_eq_ok.1 built
  obtain ⟨-, -, built⟩ := bind_eq_ok.1 built
  obtain ⟨state, -, built⟩ := bind_eq_ok.1 built
  obtain ⟨maxAttempts, -, built⟩ := bind_eq_ok.1 built
  obtain ⟨policy, -, built⟩ := bind_eq_ok.1 built
  obtain ⟨scheduledTime, -, built⟩ := bind_eq_ok.1 built
  obtain ⟨-, -, built⟩ := bind_eq_ok.1 built
  obtain ⟨slot, stored, built⟩ := bind_eq_ok.1 built
  obtain ⟨_, copied, built⟩ := bind_eq_ok.1 built
  cases built
  exact ⟨stored, copied⟩

theorem collectMessages_eq_ok {queueName : Str} {messages : List PostMessageParams} {index : Nat}
    {built : List Proto.Message} :
    collectMessages pb python queueName index messages = .ok built ↔
      (∀ params ∈ messages, params.queueName = queueName) ∧
        List.Forall₂ (PostedAs pb python) messages built := by
  induction messages generalizing index built with
  | nil => simp [collectMessages, eq_comm]
  | cons params rest ih =>
      rw [collectMessages, List.forall_mem_cons]
      by_cases same : params.queueName = queueName
      · rw [if_neg (not_not.2 same), List.forall₂_cons_left_iff]
        simp only [bind_eq_ok, ih, same, true_and]
        constructor
        · rintro ⟨request, posted, -, -, others, ⟨names, matched⟩, rest⟩
          cases rest
          exact ⟨names, request.message, others, ⟨request, posted, rfl⟩, matched, rfl⟩
        · rintro ⟨names, message, others, ⟨request, posted, rfl⟩, matched, rfl⟩
          have copied := (createPostMessageRequest_stored posted).2
          exact ⟨request, posted, (), copied, others, ⟨names, matched⟩, rfl⟩
      · rw [if_pos same]
        simp [same]

theorem buildBulkRequest_eq_ok {queueName : Str} {messages : List PostMessageParams}
    {mode : ModeOption} {request : PostMessagesBulkRequest} :
    buildBulkRequest pb python queueName messages mode = .ok request ↔
      queueName.blank = false ∧ (1 ≤ messages.length ∧ messages.length ≤ 1000) ∧
        mode.value ∈ [text "ALL_OR_NOTHING", text "BEST_EFFORT"] ∧
        textSlot queueName = .ok request.queueName ∧ request.transactionMode = mode.value ∧
        (∀ params ∈ messages, params.queueName = queueName) ∧
        List.Forall₂ (PostedAs pb python) messages request.messages := by
  rw [buildBulkRequest, seq_ok, guard_eq_ok, guard_eq_ok, requireName_eq_ok]
  simp only [bind_eq_ok, collectMessages_eq_ok, Bool.not_eq_true', Bool.not_eq_false,
    Bool.and_eq_true, decide_eq_true_eq, not_not]
  constructor
  · rintro ⟨named, size, known, slot, stored, built, ⟨names, matched⟩, result⟩
    cases result
    exact ⟨named, size, known, stored, rfl, names, matched⟩
  · rintro ⟨named, size, known, stored, shown, names, matched⟩
    refine ⟨named, size, known, _, stored, _, ⟨names, matched⟩, ?_⟩
    rw [← shown]
    rfl

theorem posted_forall {messages : List PostMessageParams} :
    (∀ params ∈ messages, ∃ request, createPostMessageRequest pb python params = .ok request) ↔
      ∃ built, List.Forall₂ (PostedAs pb python) messages built := by
  induction messages with
  | nil => simp
  | cons params rest ih =>
      simp only [List.forall_mem_cons, ih, List.forall₂_cons_left_iff]
      constructor
      · rintro ⟨⟨request, posted⟩, built, matched⟩
        exact ⟨_, request.message, built, ⟨request, posted, rfl⟩, matched, rfl⟩
      · rintro ⟨_, _, built, ⟨request, posted, -⟩, matched, -⟩
        exact ⟨⟨request, posted⟩, built, matched⟩

end

theorem bulkRequest_agrees (pb : Protobuf) (python : Interpreter) (queueName : PyVal)
    (messages : List PostMessageParams) (mode : ModeOption) :
    ((∃ request, bulkRequestOf pb python queueName messages mode = .ok request) ↔
      ∃ name, queueName = .str name ∧ name.blank = false ∧
        (1 ≤ messages.length ∧ messages.length ≤ 1000) ∧
        mode.value ∈ [text "ALL_OR_NOTHING", text "BEST_EFFORT"] ∧
        (∀ params ∈ messages, params.queueName = name) ∧
        ∀ params ∈ messages, ∃ request, createPostMessageRequest pb python params = .ok request) ∧
    ∀ request, bulkRequestOf pb python queueName messages mode = .ok request →
      List.Forall₂ (PostedAs pb python) messages request.messages := by
  cases queueName with
  | str name =>
      simp only [bulkRequestOf, PyVal.str.injEq, exists_eq_left']
      constructor
      · constructor
        · rintro ⟨request, built⟩
          obtain ⟨named, size, known, -, -, names, matched⟩ := buildBulkRequest_eq_ok.1 built
          exact ⟨named, size, known, names, posted_forall.2 ⟨_, matched⟩⟩
        · rintro ⟨named, size, known, names, accepted⟩
          obtain ⟨first, member⟩ := List.exists_mem_of_length_pos size.1
          obtain ⟨single, posted⟩ := accepted first member
          have stored := (createPostMessageRequest_stored posted).1
          rw [names first member] at stored
          obtain ⟨built, matched⟩ := posted_forall.1 accepted
          exact ⟨⟨single.queueName, mode.value, built⟩,
            buildBulkRequest_eq_ok.2 ⟨named, size, known, stored, rfl, names, matched⟩⟩
      · intro request built
        obtain ⟨-, -, -, -, -, -, matched⟩ := buildBulkRequest_eq_ok.1 built
        exact matched
  | _ => simp [bulkRequestOf]

end Nzovu
