import Nzovu.Heartbeat.Registry

/-!
# Client operations that touch the registry

`get_next_message` and the operations that end ownership. The call of `get_next_message` is cut at
every point where another thread, the server or the pool can intervene. The other operations touch
the registry once, when the outcome of their RPC is known. The asynchronous client runs the same
code and gives way only at an `await`, so that its runs are among the runs described here.
-/

namespace Nzovu
open Worker (Tick)

inductive Handler
  | absent
  | returns
  | raises (e : Exc)
deriving DecidableEq

def Handler.function : Handler → Option (Exc → Except Exc Unit)
  | .absent => none
  | .returns => some fun _ => .ok ()
  | .raises e => some fun _ => .error e

/-- How an RPC ends for the code that issued it. `exception` is any other way to fail, before the
RPC or at it, the cancellation of a task at its `await` among them. -/
inductive Outcome (α : Type)
  | response (value : α)
  | rpcError (code : StatusCode) (details : Str) (handler : Handler)
  | exception (e : Exc)
deriving DecidableEq

def rpcOperationError (code : StatusCode) (prefixed : String) (details : Str) : Exc :=
  ⟨.rpcOperationError (some code), text prefixed ++ details⟩

/-! ## Claiming a message -/

inductive Phase
  | ensureOpen
  | build
  | reserve
  | send
  | awaiting
  | start (claim : Claim)
  /-- `start` has returned, `reserved = False` is still to be executed. -/
  | started (claim : Claim)
  /-- The `finally` block is still to be executed. -/
  | leaving (outcome : Except Exc (Option Claim))
  | done (outcome : Except Exc (Option Claim))
deriving DecidableEq

structure Call where
  queueName : Str
  enableHeartbeat : Bool
  phase : Phase
  reserved : Bool
  /-- `GetNextMessage` RPCs issued, slots reserved and slots released by this call. -/
  requests : Nat
  acquired : Nat
  released : Nat
deriving DecidableEq

inductive CallStep
  | ensureOpen
  | build (failure : Option Exc)
  | reserve
  | send
  | receive (outcome : Outcome Response)
  | start (now : ℚ) (submit : Submit)
  | handOver
  | leave
deriving DecidableEq

namespace Call

def create (queueName : Str) (enableHeartbeat : Bool) : Call where
  queueName
  enableHeartbeat
  phase := .ensureOpen
  reserved := false
  requests := 0
  acquired := 0
  released := 0

def holds (c : Call) : Bool :=
  match c.phase with
  | .started _ => false
  | _ => c.reserved

def receive (c : Call) : Outcome Response → Call
  | .response response =>
      match Claim.fromResponse c.queueName response with
      | .error e => { c with phase := .leaving (.error e) }
      | .ok none => { c with phase := .leaving (.ok none) }
      | .ok (some claim) =>
          if c.enableHeartbeat then { c with phase := .start claim }
          else { c with phase := .leaving (.ok (some claim)) }
  | .rpcError code details handler =>
      match handleError handler.function .error
          (rpcOperationError code "Failed to get next message: " details) with
      | .error e => { c with phase := .leaving (.error e) }
      | .ok () => { c with phase := .leaving (.ok none) }
  | .exception e => { c with phase := .leaving (.error e) }

def getNextMessage (h : Heartbeats) (j : Nat) (c : Call) (s : CallStep) :
    Option (Heartbeats × Call) :=
  match s, c.phase with
  | .ensureOpen, .ensureOpen =>
      match h.ensureOpen with
      | .error e => some (h, { c with phase := .done (.error e) })
      | .ok () => some (h, { c with phase := .build })
  | .build (some e), .build => some (h, { c with phase := .leaving (.error e) })
  | .build none, .build =>
      some (h, { c with phase := if c.enableHeartbeat then .reserve else .send })
  | .reserve, .reserve =>
      match h.reserve with
      | .error e => some (h, { c with phase := .leaving (.error e) })
      | .ok h' => some (h', { c with phase := .send, reserved := true, acquired := c.acquired + 1 })
  | .send, .send => some (h, { c with phase := .awaiting, requests := c.requests + 1 })
  | .receive outcome, .awaiting => some (h, c.receive outcome)
  | .start now submit, .start claim =>
      -- `create_task` queues nothing before it can fail.
      if h.kind = .async ∧ submit.late then none
      else
        match h.start claim now j submit with
        | (h', none) => some (h', { c with phase := .started claim })
        | (h', some e) => some (h', { c with phase := .leaving (.error e) })
  | .handOver, .started claim =>
      some (h, { c with phase := .leaving (.ok (some claim)), reserved := false })
  | .leave, .leaving outcome =>
      if c.reserved then
        some (h.release, { c with phase := .done outcome, reserved := false, released := c.released + 1 })
      else some (h, { c with phase := .done outcome })
  | _, _ => none

inductive Moved (h : Heartbeats) (j : Nat) (c : Call) : CallStep → Heartbeats → Call → Prop
  | refused (e : Exc) (phase : c.phase = .ensureOpen) (closed : h.closed = true) :
      Moved h j c .ensureOpen h { c with phase := .done (.error e) }
  | opened (phase : c.phase = .ensureOpen) (isOpen : h.closed = false) :
      Moved h j c .ensureOpen h { c with phase := .build }
  | unbuilt (e : Exc) (phase : c.phase = .build) :
      Moved h j c (.build (some e)) h { c with phase := .leaving (.error e) }
  | built (phase : c.phase = .build) :
      Moved h j c (.build none) h { c with phase := if c.enableHeartbeat then .reserve else .send }
  | saturated (e : Exc) (phase : c.phase = .reserve) :
      Moved h j c .reserve h { c with phase := .leaving (.error e) }
  | reserved {h' : Heartbeats} (phase : c.phase = .reserve) (made : h.reserve = .ok h') :
      Moved h j c .reserve h'
        { c with phase := .send, reserved := true, acquired := c.acquired + 1 }
  | sent (phase : c.phase = .send) :
      Moved h j c .send h { c with phase := .awaiting, requests := c.requests + 1 }
  | failed (outcome : Outcome Response) (e : Exc) (phase : c.phase = .awaiting) :
      Moved h j c (.receive outcome) h { c with phase := .leaving (.error e) }
  | empty (outcome : Outcome Response) (phase : c.phase = .awaiting) :
      Moved h j c (.receive outcome) h { c with phase := .leaving (.ok none) }
  | claimed (outcome : Outcome Response) (claim : Claim) (phase : c.phase = .awaiting)
      (enabled : c.enableHeartbeat = true) :
      Moved h j c (.receive outcome) h { c with phase := .start claim }
  | unprotected (outcome : Outcome Response) (claim : Claim) (phase : c.phase = .awaiting)
      (disabled : c.enableHeartbeat = false) :
      Moved h j c (.receive outcome) h { c with phase := .leaving (.ok (some claim)) }
  | started {h' : Heartbeats} (now : ℚ) (submit : Submit) (claim : Claim)
      (phase : c.phase = .start claim) (possible : ¬(h.kind = .async ∧ submit.late = true))
      (made : h.start claim now j submit = (h', none)) :
      Moved h j c (.start now submit) h' { c with phase := .started claim }
  | unstarted {h' : Heartbeats} (now : ℚ) (submit : Submit) (claim : Claim) (e : Exc)
      (phase : c.phase = .start claim) (possible : ¬(h.kind = .async ∧ submit.late = true))
      (made : h.start claim now j submit = (h', some e)) :
      Moved h j c (.start now submit) h' { c with phase := .leaving (.error e) }
  | handedOver (claim : Claim) (phase : c.phase = .started claim) :
      Moved h j c .handOver h { c with phase := .leaving (.ok (some claim)), reserved := false }
  | released (outcome : Except Exc (Option Claim)) (phase : c.phase = .leaving outcome)
      (held : c.reserved = true) :
      Moved h j c .leave h.release
        { c with phase := .done outcome, reserved := false, released := c.released + 1 }
  | left (outcome : Except Exc (Option Claim)) (phase : c.phase = .leaving outcome)
      (free : c.reserved = false) :
      Moved h j c .leave h { c with phase := .done outcome }

theorem moved_receive (h : Heartbeats) (j : Nat) {c : Call} (outcome : Outcome Response)
    (phase : c.phase = .awaiting) : Moved h j c (.receive outcome) h (c.receive outcome) := by
  cases same : outcome with
  | response response =>
      simp only [receive]
      split
      · exact .failed _ _ phase
      · exact .empty _ phase
      · rename_i claim made
        split <;> rename_i enabled
        · exact .claimed _ claim phase enabled
        · exact .unprotected _ claim phase (by simpa using enabled)
  | rpcError code details handler =>
      simp only [receive]
      split
      · exact .failed _ _ phase
      · exact .empty _ phase
  | exception e => exact .failed _ e phase

theorem moved {h h' : Heartbeats} {j : Nat} {c c' : Call} {s : CallStep}
    (taken : c.getNextMessage h j s = some (h', c')) : Moved h j c s h' c' := by
  unfold getNextMessage at taken
  split at taken
  · rename_i phase
    split at taken <;> rename_i opened <;> cases taken
    · refine .refused _ phase ?_
      by_contra isOpen
      rw [Heartbeats.ensureOpen_ok.2 (by simpa using isOpen)] at opened
      cases opened
    · exact .opened phase (Heartbeats.ensureOpen_ok.1 opened)
  · rename_i phase
    cases taken
    exact .unbuilt _ phase
  · rename_i phase
    cases taken
    exact .built phase
  · rename_i phase
    split at taken <;> cases taken
    · exact .saturated _ phase
    · exact .reserved phase ‹_›
  · rename_i phase
    cases taken
    exact .sent phase
  · rename_i outcome phase
    cases taken
    exact moved_receive h j outcome phase
  · rename_i now submit claim phase
    split at taken
    · cases taken
    · rename_i possible
      split at taken <;> rename_i made <;> cases taken
      · exact .started now submit claim phase possible made
      · exact .unstarted now submit claim _ phase possible made
  · rename_i claim phase
    cases taken
    exact .handedOver claim phase
  · rename_i outcome phase
    split at taken <;> rename_i held <;> cases taken
    · exact .released outcome phase held
    · exact .left outcome phase (by simpa using held)
  · cases taken

end Call

/-! ## Operations that end ownership -/

inductive Operation
  | acknowledgeMessage (queueName messageId workerId attemptId : Str) (outcome : Outcome Bool)
  | renewMessageLease (queueName messageId : Str) (workerId attemptId : Option Str)
      (outcome : Outcome Unit)
  | sendMessageHeartbeat (queueName messageId : Str) (workerId attemptId : Option Str)
      (outcome : Outcome Unit)
  | stopHeartbeat (claim : Claim)
deriving DecidableEq

namespace Heartbeats

def acknowledgeMessage (h : Heartbeats) (queueName messageId workerId attemptId : Str)
    (outcome : Outcome Bool) : Heartbeats × Except Exc Unit :=
  match Claim.create queueName messageId workerId attemptId with
  | .error e => (h, .error e)
  | .ok claim =>
      match outcome with
      | .response success => (if success then (h.stop claim).1 else h, .ok ())
      | .rpcError code details handler =>
          (if code ∈ ownershipLost then (h.stop claim).1 else h,
            handleError handler.function .error
              (rpcOperationError code "Failed to acknowledge message: " details))
      | .exception e => (h, .error e)

/-- `FAILED_PRECONDITION` can mean an extension limit, while ownership remains valid. -/
def renewalLost : List StatusCode := [.notFound, .permissionDenied]

def renewMessageLease (h : Heartbeats) (queueName messageId : Str) (workerId attemptId : Option Str)
    (outcome : Outcome Unit) : Heartbeats × Except Exc Unit :=
  match Claim.create queueName messageId (workerId.getD []) (attemptId.getD []) with
  | .error e => (h, .error e)
  | .ok claim =>
      match outcome with
      | .response () => (h, .ok ())
      | .rpcError code details handler =>
          (if code ∈ renewalLost then (h.stop claim).1 else h,
            handleError handler.function .error
              (rpcOperationError code "Failed to renew message lease due to: " details))
      | .exception e => (h, .error e)

def sendMessageHeartbeat (h : Heartbeats) (queueName messageId : Str)
    (workerId attemptId : Option Str) (outcome : Outcome Unit) : Heartbeats × Except Exc Unit :=
  match Claim.create queueName messageId (workerId.getD []) (attemptId.getD []) with
  | .error e => (h, .error e)
  | .ok claim =>
      match outcome with
      | .response () => (h, .ok ())
      | .rpcError code details handler =>
          (if code ∈ ownershipLost then (h.stop claim).1 else h,
            handleError handler.function .error
              (rpcOperationError code "Failed to send heartbeat due to: " details))
      | .exception e => (h, .error e)

def stopHeartbeat (h : Heartbeats) (claim : Claim) : Heartbeats × Bool := h.stop claim

def perform (h : Heartbeats) : Operation → Heartbeats
  | .acknowledgeMessage queueName messageId workerId attemptId outcome =>
      (h.acknowledgeMessage queueName messageId workerId attemptId outcome).1
  | .renewMessageLease queueName messageId workerId attemptId outcome =>
      (h.renewMessageLease queueName messageId workerId attemptId outcome).1
  | .sendMessageHeartbeat queueName messageId workerId attemptId outcome =>
      (h.sendMessageHeartbeat queueName messageId workerId attemptId outcome).1
  | .stopHeartbeat claim => (h.stopHeartbeat claim).1

end Heartbeats

def Outcome.failedWith {α : Type} (codes : List StatusCode) : Outcome α → Bool
  | .rpcError code _ _ => decide (code ∈ codes)
  | _ => false

def Operation.ended : Operation → Option Claim
  | .acknowledgeMessage queueName messageId workerId attemptId outcome =>
      if outcome = .response true ∨ outcome.failedWith ownershipLost then
        (Claim.create queueName messageId workerId attemptId).toOption
      else none
  | .renewMessageLease queueName messageId workerId attemptId outcome =>
      if outcome.failedWith Heartbeats.renewalLost then
        (Claim.create queueName messageId (workerId.getD []) (attemptId.getD [])).toOption
      else none
  | .sendMessageHeartbeat queueName messageId workerId attemptId outcome =>
      if outcome.failedWith ownershipLost then
        (Claim.create queueName messageId (workerId.getD []) (attemptId.getD [])).toOption
      else none
  | .stopHeartbeat claim => some claim

theorem Heartbeats.perform_spec (h : Heartbeats) (operation : Operation) :
    h.perform operation = match operation.ended with
      | none => h
      | some claim => (h.stop claim).1 := by
  cases operation with
  | acknowledgeMessage queueName messageId workerId attemptId outcome =>
      simp only [perform, acknowledgeMessage, Operation.ended]
      cases Claim.create queueName messageId workerId attemptId with
      | error e => split <;> simp_all [Except.toOption]
      | ok claim =>
          cases outcome with
          | response success => cases success <;> simp [Outcome.failedWith, Except.toOption]
          | rpcError code details handler =>
              by_cases lost : code ∈ ownershipLost <;>
                simp [Outcome.failedWith, Except.toOption, lost]
          | exception e => simp [Outcome.failedWith]
  | renewMessageLease queueName messageId workerId attemptId outcome =>
      simp only [perform, renewMessageLease, Operation.ended]
      cases Claim.create queueName messageId (workerId.getD []) (attemptId.getD []) with
      | error e => split <;> simp_all [Except.toOption]
      | ok claim =>
          cases outcome with
          | response _ => simp [Outcome.failedWith]
          | rpcError code details handler =>
              by_cases lost : code ∈ renewalLost <;>
                simp [Outcome.failedWith, Except.toOption, lost]
          | exception e => simp [Outcome.failedWith]
  | sendMessageHeartbeat queueName messageId workerId attemptId outcome =>
      simp only [perform, sendMessageHeartbeat, Operation.ended]
      cases Claim.create queueName messageId (workerId.getD []) (attemptId.getD []) with
      | error e => split <;> simp_all [Except.toOption]
      | ok claim =>
          cases outcome with
          | response _ => simp [Outcome.failedWith]
          | rpcError code details handler =>
              by_cases lost : code ∈ ownershipLost <;>
                simp [Outcome.failedWith, Except.toOption, lost]
          | exception e => simp [Outcome.failedWith]
  | stopHeartbeat claim => rfl

end Nzovu
