import Nzovu.Heartbeat.Config
import Nzovu.Ownership

/-!
# One heartbeat worker

`Worker` and the loop `run` of `SyncHeartbeats` and `AsyncHeartbeats`. Both loops are the same
program; they differ in who executes `finish` and in where a task can be cancelled. The loop is
cut where another thread, the server or the clock can intervene.
-/

namespace Nzovu

inductive Kind
  | sync | async
deriving DecidableEq, Repr

def retryable : List StatusCode := [.unavailable, .deadlineExceeded, .resourceExhausted]

def ownershipLost : List StatusCode := [.notFound, .failedPrecondition, .permissionDenied]

/-- `Message.Metadata.RUNNING`. -/
def running : Int := 2

inductive Reply
  | response (state : Int)
  | rpcError (code : StatusCode) (details : Str)
  | exception (error : Exc)
deriving DecidableEq

/-- The `delay` that the loop chose, before clipping. -/
inductive Delay
  | interval
  | backoff (retries : Nat)
deriving DecidableEq, Repr

def Delay.seconds (limits : Limits) : Delay → ℚ
  | .interval => limits.interval
  | .backoff retries => 2 ^ retries

structure Report where
  claim : Claim
  error : Reply
  retryCount : Nat
  heartbeatsSent : Nat
deriving DecidableEq

inductive Pc
  | unscheduled
  /-- A work item on the pool's queue, or a task before its first instruction. -/
  | scheduled
  | guard
  | send
  | inFlight (timeout : ℚ)
  | pause (delay : Delay)
  | waiting (timeout : ℚ)
  | leaving
  | done
deriving DecidableEq

structure Worker where
  claim : Claim
  stop : Bool
  /-- The attribute `future`. The handle of a worker's run carries the worker's number. -/
  future : Option Nat
  started : ℚ
  sent : Nat
  failed : Nat
  retries : Nat
  lastError : Option Str
  pc : Pc
  finished : Bool
  /-- Whether `Registry.register` put this worker in the map and no roll-back took it out. -/
  registered : Bool
  owner : Nat
  reports : List Report
deriving DecidableEq

namespace Worker

def create (claim : Claim) (started : ℚ) (owner : Nat) : Worker where
  claim
  stop := false
  future := none
  started
  sent := 0
  failed := 0
  retries := 0
  lastError := none
  pc := .unscheduled
  finished := false
  registered := false
  owner
  reports := []

def launch (w : Worker) (future : Option Nat) (registered : Bool) : Worker :=
  { w with pc := .scheduled, future, registered }

def signalled (w : Worker) : Worker := { w with stop := true }

def remaining (limits : Limits) (w : Worker) (now : ℚ) : ℚ :=
  limits.maxDuration - (now - w.started)

def continues (limits : Limits) (w : Worker) (now : ℚ) : Bool :=
  !w.stop && decide (0 < w.remaining limits now) && decide (w.sent < limits.maxCount)

def notify (limits : Limits) (w : Worker) (error : Reply) : Worker :=
  if limits.callback then
    { w with reports := w.reports ++ [⟨w.claim, error, w.retries, w.sent⟩] }
  else w

def countFailure (w : Worker) (details : Str) : Worker :=
  { w with failed := w.failed + 1, retries := w.retries + 1, lastError := some details }

def recordFailure (limits : Limits) (w : Worker) (code : StatusCode) (details : Str) :
    Worker × Bool :=
  if code ∉ retryable ∨ 3 ≤ (w.countFailure details).retries then
    ((w.countFailure details).notify limits (.rpcError code details), false)
  else (w.countFailure details, true)

def succeeded (w : Worker) : Worker := { w with sent := w.sent + 1, retries := 0 }

/-- From the end of a heartbeat call to the next wait or the end of the loop. -/
def handle (limits : Limits) (w : Worker) : Reply → Worker
  | .response state =>
      if state ≠ running then { w.succeeded with pc := .leaving }
      else { w.succeeded with pc := .pause .interval }
  | .rpcError code details =>
      if w.stop then { w with pc := .leaving }
      else
        let (failed, again) := w.recordFailure limits code details
        if again then { failed with pc := .pause (.backoff failed.retries) }
        else { failed with pc := .leaving }
  | .exception error => { w.notify limits (.exception error) with pc := .leaving }

inductive Tick
  | begin
  | check (now : ℚ)
  | issue (now : ℚ)
  | reply (r : Reply)
  | pause (now : ℚ)
  | wake
  /-- The task is cancelled before its first instruction or at an `await`. -/
  | cancel
  /-- `run` returns; the synchronous one executes `finish` on the way. -/
  | leave
  | doneCallback
deriving DecidableEq

def tick (kind : Kind) (limits : Limits) (w : Worker) : Tick → Option Worker
  | .begin =>
      match w.pc with
      | .scheduled => some { w with pc := .guard }
      | _ => none
  | .check now =>
      match w.pc with
      | .guard => some { w with pc := if w.continues limits now then .send else .leaving }
      | _ => none
  | .issue now =>
      match w.pc with
      | .send =>
          some { w with pc := .inFlight (max (1 / 1000) (min limits.rpcTimeout (w.remaining limits now))) }
      | _ => none
  | .reply r =>
      match w.pc with
      | .inFlight _ => some (w.handle limits r)
      | _ => none
  | .pause now =>
      match w.pc with
      | .pause delay =>
          some { w with pc := .waiting (min (delay.seconds limits) (max 0 (w.remaining limits now))) }
      | _ => none
  | .wake =>
      match w.pc with
      | .waiting _ => some { w with pc := .guard }
      | _ => none
  | .cancel =>
      match kind, w.pc with
      | .async, .scheduled | .async, .inFlight _ | .async, .waiting _ => some { w with pc := .done }
      | _, _ => none
  | .leave =>
      match kind, w.pc with
      | .sync, .leaving => some { w with pc := .done, finished := true }
      | .async, .leaving => some { w with pc := .done }
      | _, _ => none
  | .doneCallback =>
      match kind, w.pc, w.finished with
      | .async, .done, false => some { w with finished := true }
      | _, _, _ => none

inductive Action
  | tick (t : Tick)
  | stop
deriving DecidableEq

def step (kind : Kind) (limits : Limits) (w : Worker) : Action → Option Worker
  | .tick t => w.tick kind limits t
  | .stop => some w.signalled

def live (w : Worker) : Bool := w.registered && !w.finished

def identity (w : Worker) : Claim × Option Nat × ℚ × Bool × Nat × Bool :=
  (w.claim, w.future, w.started, w.registered, w.owner, w.stop)

@[simp]
theorem notify_identity (limits : Limits) (w : Worker) (error : Reply) :
    (w.notify limits error).identity = w.identity := by
  unfold notify
  split <;> rfl

@[simp]
theorem notify_counters (limits : Limits) (w : Worker) (error : Reply) :
    (w.notify limits error).sent = w.sent ∧ (w.notify limits error).retries = w.retries ∧
      (w.notify limits error).finished = w.finished := by
  unfold notify
  split <;> exact ⟨rfl, rfl, rfl⟩

theorem recordFailure_spec (limits : Limits) (w : Worker) (code : StatusCode) (details : Str) :
    (w.recordFailure limits code details).1.sent = w.sent ∧
      (w.recordFailure limits code details).1.retries = w.retries + 1 ∧
      (w.recordFailure limits code details).1.finished = w.finished ∧
      (w.recordFailure limits code details).1.identity = w.identity ∧
      ((w.recordFailure limits code details).2 = true ↔ code ∈ retryable ∧ w.retries + 1 < 3) := by
  unfold recordFailure
  split
  · rename_i final
    obtain ⟨sent, retries, finished⟩ :=
      notify_counters limits (w.countFailure details) (.rpcError code details)
    refine ⟨sent, retries, finished, notify_identity limits (w.countFailure details) _, ?_⟩
    simp only [countFailure] at final
    simp only [Bool.false_eq_true, false_iff, not_and]
    rintro again
    rcases final with absent | third
    · exact (absent again).elim
    · omega
  · rename_i again
    simp only [countFailure, not_or, not_not] at again
    exact ⟨rfl, rfl, rfl, rfl, by simp only [true_iff]; exact ⟨again.1, by omega⟩⟩

def countReply (w : Worker) : Reply → Nat × Nat
  | .response _ => (w.sent + 1, 0)
  | .rpcError _ _ => (w.sent, if w.stop then w.retries else w.retries + 1)
  | .exception _ => (w.sent, w.retries)

def countTick (w : Worker) : Tick → Nat × Nat
  | .reply r => w.countReply r
  | _ => (w.sent, w.retries)

theorem handle_spec (limits : Limits) (w : Worker) (r : Reply) :
    (w.handle limits r).identity = w.identity ∧ (w.handle limits r).finished = w.finished ∧
      ((w.handle limits r).sent, (w.handle limits r).retries) = w.countReply r := by
  cases r with
  | response state =>
      simp only [handle]
      split <;> exact ⟨rfl, rfl, rfl⟩
  | rpcError code details =>
      obtain ⟨sent, retries, finished, identity, -⟩ := recordFailure_spec limits w code details
      simp only [handle]
      split
      · exact ⟨rfl, rfl, by simp [countReply, *]⟩
      split <;> exact ⟨identity, finished, by simp [countReply, *]⟩
  | exception error =>
      obtain ⟨sent, retries, finished⟩ := notify_counters limits w (.exception error)
      exact ⟨notify_identity limits w _, finished, Prod.ext sent retries⟩

theorem handle_stop (limits : Limits) (w : Worker) (r : Reply) : (w.handle limits r).stop = w.stop :=
  congrArg (·.2.2.2.2.2) (handle_spec limits w r).1

theorem handle_pc (limits : Limits) (w : Worker) (r : Reply) :
    (w.handle limits r).pc = .leaving ∨ ∃ delay, (w.handle limits r).pc = .pause delay := by
  cases r with
  | response state =>
      simp only [handle]
      split
      · exact .inl rfl
      · exact .inr ⟨_, rfl⟩
  | rpcError code details =>
      simp only [handle]
      split
      · exact .inl rfl
      split
      · exact .inr ⟨_, rfl⟩
      · exact .inl rfl
  | exception error => exact .inl rfl

inductive Ticked (kind : Kind) (limits : Limits) (w : Worker) : Tick → Worker → Prop
  | begun (pc : w.pc = .scheduled) : Ticked kind limits w .begin { w with pc := .guard }
  | checked (now : ℚ) (pc : w.pc = .guard) : Ticked kind limits w (.check now)
      { w with pc := if w.continues limits now then .send else .leaving }
  | issued (now : ℚ) (pc : w.pc = .send) : Ticked kind limits w (.issue now)
      { w with pc := .inFlight (max (1 / 1000) (min limits.rpcTimeout (w.remaining limits now))) }
  | replied (r : Reply) (timeout : ℚ) (pc : w.pc = .inFlight timeout) :
      Ticked kind limits w (.reply r) (w.handle limits r)
  | paused (now : ℚ) (delay : Delay) (pc : w.pc = .pause delay) : Ticked kind limits w (.pause now)
      { w with pc := .waiting (min (delay.seconds limits) (max 0 (w.remaining limits now))) }
  | woken (timeout : ℚ) (pc : w.pc = .waiting timeout) :
      Ticked kind limits w .wake { w with pc := .guard }
  | cancelled (async : kind = .async) (pc : w.pc = .scheduled ∨
      (∃ timeout, w.pc = .inFlight timeout) ∨ ∃ timeout, w.pc = .waiting timeout) :
      Ticked kind limits w .cancel { w with pc := .done }
  | returned (sync : kind = .sync) (pc : w.pc = .leaving) :
      Ticked kind limits w .leave { w with pc := .done, finished := true }
  | ended (async : kind = .async) (pc : w.pc = .leaving) :
      Ticked kind limits w .leave { w with pc := .done }
  | settled (async : kind = .async) (pc : w.pc = .done) (unfinished : w.finished = false) :
      Ticked kind limits w .doneCallback { w with finished := true }

theorem ticked {kind : Kind} {limits : Limits} {w w' : Worker} {t : Tick}
    (taken : w.tick kind limits t = some w') : Ticked kind limits w t w' := by
  cases t with
  | begin =>
      simp only [tick] at taken
      split at taken <;> cases taken
      exact .begun ‹_›
  | check now =>
      simp only [tick] at taken
      split at taken <;> cases taken
      exact .checked now ‹_›
  | issue now =>
      simp only [tick] at taken
      split at taken <;> cases taken
      exact .issued now ‹_›
  | reply r =>
      simp only [tick] at taken
      split at taken <;> cases taken
      exact .replied r _ ‹_›
  | pause now =>
      simp only [tick] at taken
      split at taken <;> cases taken
      exact .paused now _ ‹_›
  | wake =>
      simp only [tick] at taken
      split at taken <;> cases taken
      exact .woken _ ‹_›
  | cancel =>
      simp only [tick] at taken
      split at taken <;> cases taken
      · exact .cancelled rfl (.inl ‹_›)
      · exact .cancelled rfl (.inr (.inl ⟨_, ‹_›⟩))
      · exact .cancelled rfl (.inr (.inr ⟨_, ‹_›⟩))
  | leave =>
      simp only [tick] at taken
      split at taken <;> cases taken
      · exact .returned rfl ‹_›
      · exact .ended rfl ‹_›
  | doneCallback =>
      simp only [tick] at taken
      split at taken <;> cases taken
      exact .settled rfl ‹_› ‹_›

theorem tick_spec {kind : Kind} {limits : Limits} {w w' : Worker} {t : Tick}
    (taken : w.tick kind limits t = some w') :
    w'.identity = w.identity ∧ (w'.sent, w'.retries) = w.countTick t := by
  cases ticked taken with
  | replied r =>
      obtain ⟨identity, -, counters⟩ := handle_spec limits w r
      exact ⟨identity, counters⟩
  | _ => exact ⟨rfl, rfl⟩

theorem tick_keeps {kind : Kind} {limits : Limits} {w w' : Worker} {t : Tick}
    (taken : w.tick kind limits t = some w') :
    w'.claim = w.claim ∧ w'.stop = w.stop ∧ w'.future = w.future ∧ w'.registered = w.registered ∧
      w'.owner = w.owner := by
  obtain ⟨identity, -⟩ := tick_spec taken
  simp only [Worker.identity, Prod.mk.injEq] at identity
  obtain ⟨claim, future, -, registered, owner, stop⟩ := identity
  exact ⟨claim, stop, future, registered, owner⟩

theorem tick_started {kind : Kind} {limits : Limits} {w w' : Worker} {t : Tick}
    (taken : w.tick kind limits t = some w') : w'.started = w.started :=
  congrArg (·.2.2.1) (tick_spec taken).1

theorem finished_mono {kind : Kind} {limits : Limits} {w w' : Worker} {t : Tick}
    (taken : w.tick kind limits t = some w') (finished : w.finished = true) :
    w'.finished = w.finished := by
  cases ticked taken with
  | replied r => exact (handle_spec limits w r).2.1
  | returned | settled => exact finished.symm
  | _ => rfl

end Worker

end Nzovu
