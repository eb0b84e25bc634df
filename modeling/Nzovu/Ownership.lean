import Nzovu.Python.Exception

/-! # Claims: immutable ownership of one attempt of one message -/

namespace Nzovu

/-- A claim cannot be built from a missing identifier. -/
structure Claim where
  queueName : Str
  messageId : Str
  workerId : Str
  attemptId : Str
  required : ∀ value ∈ [queueName, messageId, workerId, attemptId], value.blank = false
deriving DecidableEq

namespace Claim

def create (queueName messageId workerId attemptId : Str) : Except Exc Claim :=
  match h : [(text "queue_name", queueName), (text "message_id", messageId),
      (text "worker_id", workerId), (text "attempt_id", attemptId)].find? (·.2.blank) with
  | some (name, _) => .error (valueError (name ++ text " is required for message ownership"))
  | none => .ok ⟨queueName, messageId, workerId, attemptId, by simpa using h⟩

def toDict (c : Claim) : List (Str × Str) :=
  [(text "queue_name", c.queueName), (text "message_id", c.messageId),
    (text "worker_id", c.workerId), (text "attempt_id", c.attemptId)]

@[ext]
theorem ext {c d : Claim} (queueName : c.queueName = d.queueName)
    (messageId : c.messageId = d.messageId) (workerId : c.workerId = d.workerId)
    (attemptId : c.attemptId = d.attemptId) : c = d := by
  cases c
  cases d
  simp_all

def sample : Claim := ⟨text "q", text "m", text "w", text "a", by decide⟩

theorem create_ok {q m w a : Str} {c : Claim} (h : create q m w a = .ok c) :
    c.queueName = q ∧ c.messageId = m ∧ c.workerId = w ∧ c.attemptId = a := by
  unfold create at h
  split at h
  · cases h
  · cases h
    exact ⟨rfl, rfl, rfl, rfl⟩

theorem create_error {q m w a : Str} {e : Exc} (h : create q m w a = .error e) :
    e.isValueError = true := by
  unfold create at h
  split at h
  · cases h
    rfl
  · cases h

theorem create_self (c : Claim) :
    create c.queueName c.messageId c.workerId c.attemptId = .ok c := by
  unfold create
  split
  · rename_i name value found
    obtain ⟨blank, -⟩ := List.find?_eq_some_iff_append.1 found
    have member := List.mem_of_find?_eq_some found
    simp only [List.mem_cons, Prod.mk.injEq, List.not_mem_nil, or_false] at member
    have clear := c.required value (by
      rcases member with ⟨-, rfl⟩ | ⟨-, rfl⟩ | ⟨-, rfl⟩ | ⟨-, rfl⟩ <;> simp)
    rw [clear] at blank
    cases blank
  · rfl

end Claim

structure Response where
  messageId : Option Str
  workerId : Str
  attemptId : Str
deriving DecidableEq, Repr

namespace Claim

def fromResponse (queueName : Str) (response : Response) : Except Exc (Option Claim) :=
  match response.messageId with
  | none => .ok none
  | some messageId =>
      if messageId.isEmpty then .ok none
      else (create queueName messageId response.workerId response.attemptId).map some

theorem fromResponse_ok {queueName : Str} {response : Response} {c : Claim}
    (h : fromResponse queueName response = .ok (some c)) :
    c.queueName = queueName ∧ response.messageId = some c.messageId ∧
      c.workerId = response.workerId ∧ c.attemptId = response.attemptId := by
  unfold fromResponse at h
  split at h
  · cases h
  · rename_i messageId present
    split at h
    · cases h
    · cases made : create queueName messageId response.workerId response.attemptId with
      | error e => simp [made, Except.map] at h
      | ok d =>
          simp only [made, Except.map, Except.ok.injEq, Option.some.injEq] at h
          subst h
          obtain ⟨hq, hm, hw, ha⟩ := create_ok made
          exact ⟨hq, by rw [present, hm], hw, ha⟩

end Claim

end Nzovu
