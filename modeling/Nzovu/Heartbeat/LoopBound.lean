import Mathlib.Data.List.Induction
import Nzovu.Heartbeat.Worker
import Nzovu.Library.Transition

/-!
# The heartbeat loop is bounded

What a worker's counters mean in terms of the calls it made, and how many calls it can make. The
counters are compared with functions of the trace, so that they are not described by themselves.
-/

namespace Nzovu.Worker
open Transition

def isIssue : Action → Bool
  | .tick (.issue _) => true
  | _ => false

def isSuccess : Action → Bool
  | .tick (.reply (.response _)) => true
  | _ => false

def isTick : Action → Bool
  | .tick _ => true
  | .stop => false

def issues (trace : List Action) : Nat := trace.countP isIssue

def successes (trace : List Action) : Nat := trace.countP isSuccess

def ticks (trace : List Action) : Nat := trace.countP isTick

def extendStreak (n : Nat) : Action → Nat
  | .tick (.reply (.response _)) => 0
  | .tick (.reply (.rpcError _ _)) => n + 1
  | _ => n

def streak (trace : List Action) : Nat := trace.foldl extendStreak 0

def extendCounted : Bool × Nat → Action → Bool × Nat
  | (_, n), .stop => (true, n)
  | (stopped, _), .tick (.reply (.response _)) => (stopped, 0)
  | (stopped, n), .tick (.reply (.rpcError _ _)) => (stopped, if stopped then n else n + 1)
  | (stopped, n), _ => (stopped, n)

/-- Whether the stop flag was set, and the RPC failures since the last success without those that
met a stop flag already set. -/
def counted (trace : List Action) : Bool × Nat := trace.foldl extendCounted (false, 0)

@[simp]
theorem issues_snoc (trace : List Action) (a : Action) :
    issues (trace ++ [a]) = issues trace + if isIssue a then 1 else 0 := by
  simp [issues, List.countP_append, List.countP_singleton]

@[simp]
theorem successes_snoc (trace : List Action) (a : Action) :
    successes (trace ++ [a]) = successes trace + if isSuccess a then 1 else 0 := by
  simp [successes, List.countP_append, List.countP_singleton]

@[simp]
theorem ticks_snoc (trace : List Action) (a : Action) :
    ticks (trace ++ [a]) = ticks trace + if isTick a then 1 else 0 := by
  simp [ticks, List.countP_append, List.countP_singleton]

@[simp]
theorem streak_snoc (trace : List Action) (a : Action) :
    streak (trace ++ [a]) = extendStreak (streak trace) a := by
  simp [streak]

@[simp]
theorem counted_snoc (trace : List Action) (a : Action) :
    counted (trace ++ [a]) = extendCounted (counted trace) a := by
  simp [counted]

theorem counted_stopped (trace : List Action) : (counted trace).1 = true ↔ .stop ∈ trace := by
  induction trace using List.reverseRecOn with
  | nil => simp [counted]
  | append_singleton trace a ih =>
      rw [counted_snoc, List.mem_append, ← ih]
      cases a with
      | stop => simp [extendCounted]
      | tick t =>
          cases t with
          | reply r => cases r <;> simp [extendCounted]
          | _ => simp [extendCounted]

/-! ## The invariant -/

structure Idle (limits : Limits) (issued streak sent retries : Nat) : Prop where
  few : retries ≤ 2
  fresh : sent < limits.maxCount ∨ retries = 0
  issued : issued ≤ 3 * sent + retries
  streak : streak = retries

structure Over (limits : Limits) (issued streak : Nat) : Prop where
  issued : issued ≤ 3 * limits.maxCount
  streak : streak ≤ 3

def AtPc (limits : Limits) (issued streak steps : Nat) (w : Worker) : Prop :=
  match w.pc with
  | .unscheduled | .scheduled =>
      w.sent = 0 ∧ w.retries = 0 ∧ issued = 0 ∧ streak = 0 ∧ steps = 0
  | .guard => Idle limits issued streak w.sent w.retries ∧ steps ≤ 5 * issued + 1
  | .send => Idle limits issued streak w.sent w.retries ∧ w.sent < limits.maxCount ∧ steps ≤ 5 * issued + 2
  | .inFlight _ => w.sent < limits.maxCount ∧ w.retries ≤ 2 ∧
      issued ≤ 3 * w.sent + w.retries + 1 ∧ streak = w.retries ∧ steps + 2 ≤ 5 * issued
  | .pause .interval => Idle limits issued streak w.sent w.retries ∧ steps + 1 ≤ 5 * issued ∧ streak = 0
  | .pause (.backoff n) =>
      Idle limits issued streak w.sent w.retries ∧ steps + 1 ≤ 5 * issued ∧ n = streak ∧
      (n = 1 ∨ n = 2)
  | .waiting _ => Idle limits issued streak w.sent w.retries ∧ steps ≤ 5 * issued
  | .leaving => Over limits issued streak ∧ steps ≤ 5 * issued + 2
  | .done => Over limits issued streak ∧ steps ≤ 5 * issued + if w.finished then 4 else 3

structure LoopInv (limits : Limits) (past : List Action) (w : Worker) : Prop where
  stopped : (counted past).1 = w.stop
  retries : (counted past).2 = w.retries
  sent : w.sent = successes past
  bound : w.sent ≤ limits.maxCount
  place : AtPc limits (issues past) (streak past) (ticks past) w

theorem Idle.spent {limits : Limits} {issued streak sent retries : Nat}
    (h : Idle limits issued streak sent retries) (bound : sent ≤ limits.maxCount) :
    Over limits issued streak := by
  obtain ⟨few, fresh, issued, streak⟩ := h
  exact ⟨by omega, by omega⟩

/-- A success pays for itself and for the at most two failures before it. -/
theorem handle_response {limits : Limits} {issued steps : Nat} {w : Worker} (state : Int)
    (sent : w.sent < limits.maxCount) (retries : w.retries ≤ 2)
    (calls : issued ≤ 3 * w.sent + w.retries + 1) (count : steps + 2 ≤ 5 * issued) :
    AtPc limits issued 0 (steps + 1) (w.handle limits (.response state)) := by
  simp only [handle]
  split
  · exact ⟨⟨by omega, by omega⟩, by omega⟩
  · have paid : issued ≤ 3 * (w.sent + 1) + 0 := by omega
    exact ⟨⟨Nat.zero_le 2, .inr rfl, paid, rfl⟩, by omega, rfl⟩

theorem handle_rpcError {limits : Limits} {issued failures steps : Nat} {w : Worker}
    (code : StatusCode) (details : Str) (sent : w.sent < limits.maxCount) (retries : w.retries ≤ 2)
    (calls : issued ≤ 3 * w.sent + w.retries + 1) (same : failures = w.retries)
    (count : steps + 2 ≤ 5 * issued) :
    AtPc limits issued (failures + 1) (steps + 1) (w.handle limits (.rpcError code details)) := by
  obtain ⟨hs, hr, -, -, again⟩ := recordFailure_spec limits w code details
  have spent : Over limits issued (failures + 1) := ⟨by omega, by omega⟩
  simp only [handle]
  split
  · exact ⟨spent, by omega⟩
  split
  · rename_i more
    have third := (again.1 more).2
    refine ⟨⟨?_, ?_, ?_, ?_⟩, by omega, ?_, ?_⟩ <;> simp only [hs, hr] <;> omega
  · exact ⟨spent, by omega⟩

theorem atPc_cancel {limits : Limits} {issued failures steps : Nat} {w : Worker}
    (pc : w.pc = .scheduled ∨ (∃ timeout, w.pc = .inFlight timeout) ∨
      ∃ timeout, w.pc = .waiting timeout)
    (bound : w.sent ≤ limits.maxCount) (h : AtPc limits issued failures steps w) :
    Over limits issued failures ∧ steps + 1 ≤ 5 * issued + 3 := by
  rcases pc with pc | ⟨timeout, pc⟩ | ⟨timeout, pc⟩
  · simp only [AtPc, pc] at h
    exact ⟨⟨by omega, by omega⟩, by omega⟩
  · simp only [AtPc, pc] at h
    exact ⟨⟨by omega, by omega⟩, by omega⟩
  · simp only [AtPc, pc] at h
    exact ⟨h.1.spent bound, by omega⟩

theorem atPc_tick {kind : Kind} {limits : Limits} {issued failures steps : Nat} {w w' : Worker}
    {t : Tick} (taken : w.tick kind limits t = some w') (bound : w.sent ≤ limits.maxCount)
    (h : AtPc limits issued failures steps w) :
    AtPc limits (issued + if isIssue (.tick t) then 1 else 0) (extendStreak failures (.tick t))
      (steps + 1) w' := by
  cases ticked taken with
  | begun pc =>
      simp only [AtPc, pc] at h
      obtain ⟨sent, retries, issued, streak, steps⟩ := h
      have positive := limits.maxCount_pos
      refine ⟨⟨?_, ?_, ?_, ?_⟩, ?_⟩ <;> simp only [isIssue, extendStreak] <;> grind
  | checked now pc =>
      simp only [AtPc, pc] at h
      obtain ⟨idle, steps⟩ := h
      by_cases go : w.continues limits now
      · simp only [go, ↓reduceIte]
        have more : w.sent < limits.maxCount := by
          simp only [continues, Bool.and_eq_true, decide_eq_true_eq] at go
          exact go.2
        exact ⟨idle, more, by simp [isIssue]; omega⟩
      · simp only [go, Bool.false_eq_true, ↓reduceIte]
        exact ⟨idle.spent bound, by simp [isIssue]; omega⟩
  | issued now pc =>
      simp only [AtPc, pc] at h
      obtain ⟨idle, more, steps⟩ := h
      have calls := idle.issued
      exact ⟨more, idle.few, by simp [isIssue]; omega, idle.streak, by simp [isIssue]; omega⟩
  | replied r timeout pc =>
      simp only [AtPc, pc] at h
      obtain ⟨sent, retries, calls, same, count⟩ := h
      cases r with
      | response state => exact handle_response state sent retries calls count
      | rpcError code details => exact handle_rpcError code details sent retries calls same count
      | exception error =>
          refine ⟨⟨?_, ?_⟩, ?_⟩ <;> simp only [isIssue, extendStreak] <;> grind
  | paused now delay pc =>
      cases delay with
      | interval | backoff =>
          simp only [AtPc, pc] at h
          obtain ⟨idle, steps, -⟩ := h
          exact ⟨idle, by simp [isIssue]; omega⟩
  | woken timeout pc =>
      simp only [AtPc, pc] at h
      obtain ⟨idle, steps⟩ := h
      exact ⟨idle, by simp [isIssue]; omega⟩
  | cancelled async pc =>
      obtain ⟨spent, longer⟩ := atPc_cancel pc bound h
      have count : steps + 1 ≤ 5 * issued + if w.finished then 4 else 3 := by
        split <;> omega
      simpa [AtPc, isIssue, extendStreak] using ⟨spent, count⟩
  | returned sync pc =>
      simp only [AtPc, pc] at h
      simpa [AtPc, isIssue, extendStreak] using ⟨h.1, by omega⟩
  | ended async pc =>
      simp only [AtPc, pc] at h
      have longer : steps + 1 ≤ 5 * issued + if w.finished then 4 else 3 := by
        split <;> omega
      simpa [AtPc, isIssue, extendStreak] using ⟨h.1, longer⟩
  | settled async pc unfinished =>
      simp only [AtPc, pc, unfinished] at h
      simp only [AtPc, pc]
      exact ⟨h.1, by have := h.2; simp [isIssue] at this ⊢; omega⟩

theorem loopInv_launch (limits : Limits) (claim : Claim) (started : ℚ) (owner : Nat)
    (future : Option Nat) (registered : Bool) :
    LoopInv limits [] ((create claim started owner).launch future registered) :=
  ⟨rfl, rfl, rfl, Nat.zero_le _, rfl, rfl, rfl, rfl, rfl⟩

theorem loopInv_step {kind : Kind} {limits : Limits} {past : List Action} {w w' : Worker}
    {a : Action} (h : LoopInv limits past w) (taken : step kind limits w a = some w') :
    LoopInv limits (past ++ [a]) w' := by
  obtain ⟨stopped, retries, sent, bound, place⟩ := h
  cases a with
  | stop =>
      simp only [step, Option.some.injEq] at taken
      subst taken
      -- The flag is not among the attributes that `AtPc` reads.
      refine ⟨by simp [extendCounted, signalled], by simpa [extendCounted, signalled] using retries,
        by simpa [isSuccess, signalled] using sent, bound, ?_⟩
      simp only [issues_snoc, ticks_snoc, streak_snoc, isIssue, isTick, extendStreak,
        Bool.false_eq_true, ↓reduceIte, Nat.add_zero]
      exact place
  | tick t =>
      have located := atPc_tick taken bound place
      have counters := (tick_spec taken).2
      have flag : w'.stop = w.stop := (tick_keeps taken).2.1
      have more : w'.sent ≤ limits.maxCount := by
        cases ticked taken with
        | replied r timeout pc =>
            simp only [AtPc, pc] at place
            cases r <;> simp only [countTick, countReply, Prod.mk.injEq] at counters <;> omega
        | _ => exact bound
      refine ⟨?_, ?_, ?_, more, by simpa [isTick] using located⟩
      all_goals
        cases t with
        | reply r => cases r <;> simp_all [countTick, countReply, extendCounted, isSuccess]
        | _ => simp_all [countTick, extendCounted, isSuccess]

theorem loopInv_run {kind : Kind} {limits : Limits} {claim : Claim} {started : ℚ} {owner : Nat}
    {future : Option Nat} {registered : Bool} {trace : List Action} {w : Worker}
    (h : run (step kind limits) ((create claim started owner).launch future registered) trace =
      some w) : LoopInv limits trace w :=
  invariant_trace (I := LoopInv limits) (fun _ _ _ _ => loopInv_step)
    (loopInv_launch limits claim started owner future registered) h

/-! ## No call after the loop is left, one call after the flag is set -/

def Left (w : Worker) : Prop := w.pc = .leaving ∨ w.pc = .done

theorem left_step {kind : Kind} {limits : Limits} {w w' : Worker} {a : Action} (h : Left w)
    (taken : step kind limits w a = some w') : Left w' ∧ isIssue a = false := by
  cases a with
  | stop =>
      cases taken
      exact ⟨h, rfl⟩
  | tick t =>
      unfold Left at h
      cases ticked taken with
      | returned sync pc | ended async pc => exact ⟨.inr rfl, rfl⟩
      | settled async pc => exact ⟨.inr pc, rfl⟩
      | cancelled async pc => exact ⟨.inr rfl, rfl⟩
      | _ => simp_all

theorem left_issues {kind : Kind} {limits : Limits} {w w' : Worker} {trace : List Action}
    (h : Left w) (ran : run (step kind limits) w trace = some w') : issues trace = 0 := by
  have none : ∀ a ∈ trace, isIssue a = false :=
    stable_through (P := fun a => isIssue a = false) (fun _ _ _ held taken => (left_step held taken).1)
      (fun _ _ _ held taken => (left_step held taken).2) h ran
  exact List.countP_eq_zero.2 fun a member => by simp [none a member]

/-- The replies after which the loop makes no further call: a state other than `RUNNING`, an error
that is not retried, and the third failure in a row. -/
def FinalReply (before : List Action) : Reply → Prop
  | .response state => state ≠ running
  | .rpcError code _ => code ∉ retryable ∨ streak before = 2
  | .exception _ => True

theorem finalReply_left {kind : Kind} {limits : Limits} {before : List Action} {w w' : Worker}
    {r : Reply} (inv : LoopInv limits before w) (final : FinalReply before r)
    (taken : step kind limits w (.tick (.reply r)) = some w') : Left w' := by
  change w.tick kind limits (.reply r) = some w' at taken
  cases ticked taken with
  | replied _ timeout pc =>
      have place := inv.place
      simp only [AtPc, pc] at place
      left
      cases r with
      | response state =>
          simp only [FinalReply] at final
          simp [handle, final]
      | rpcError code details =>
          simp only [handle]
          split
          · rfl
          split
          · rename_i again
            obtain ⟨member, third⟩ := (recordFailure_spec limits w code details).2.2.2.2.1 again
            rcases final with absent | two
            · exact (absent member).elim
            · omega
          · rfl
      | exception error => rfl

/-- With the flag set, only a call whose guard check came before is still to be made. -/
def stopBudget : Pc → Nat
  | .send => 1
  | _ => 0

theorem stopped_step {kind : Kind} {limits : Limits} {past : List Action} {w w' : Worker}
    {a : Action} (h : w.stop = true ∧ issues past + stopBudget w.pc ≤ 1)
    (taken : step kind limits w a = some w') :
    w'.stop = true ∧ issues (past ++ [a]) + stopBudget w'.pc ≤ 1 := by
  obtain ⟨stop, budget⟩ := h
  cases a with
  | stop =>
      cases taken
      exact ⟨rfl, by simpa [isIssue, signalled] using budget⟩
  | tick t =>
      have flag : w'.stop = true := (tick_keeps taken).2.1.trans stop
      refine ⟨flag, ?_⟩
      cases ticked taken with
      | replied r timeout pc =>
          have idle : stopBudget (w.handle limits r).pc = 0 := by
            rcases handle_pc limits w r with pc | ⟨delay, pc⟩ <;> simp [stopBudget, pc]
          simp [idle, isIssue]
          omega
      | cancelled async pc =>
          simp [stopBudget, isIssue]
          omega
      | _ => simp_all [stopBudget, isIssue, continues]

theorem stopped_issues {kind : Kind} {limits : Limits} {w w' : Worker} {trace : List Action}
    (ran : run (step kind limits) w.signalled trace = some w') : issues trace ≤ 1 := by
  have start : w.signalled.stop = true ∧
      issues [] + stopBudget w.pc ≤ 1 := by
    refine ⟨rfl, ?_⟩
    unfold stopBudget
    split <;> simp [issues]
  have last := invariant_trace (I := fun past w => w.stop = true ∧ issues past + stopBudget w.pc ≤ 1)
    (fun _ _ _ _ => stopped_step) start ran
  omega

/-- Only a guard check that came before the flag lets a call follow it. A call counted in advance
uses up what `stopped_step` grants. -/
theorem stopped_unsent {kind : Kind} {limits : Limits} {w w' : Worker} {trace : List Action}
    (unsent : w.pc ≠ .send) (ran : run (step kind limits) w.signalled trace = some w') :
    issues trace = 0 := by
  let granted : Action := .tick (.issue 0)
  have start : w.signalled.stop = true ∧ issues [granted] + stopBudget w.signalled.pc ≤ 1 := by
    refine ⟨rfl, ?_⟩
    have none : stopBudget w.signalled.pc = 0 := by
      change stopBudget w.pc = 0
      unfold stopBudget
      split
      · exact (unsent ‹_›).elim
      · rfl
    rw [none]
    decide
  have last := invariant_trace
    (I := fun past w => w.stop = true ∧ issues (granted :: past) + stopBudget w.pc ≤ 1)
    (fun past _ _ _ held taken => stopped_step held taken) start ran
  have one : issues (granted :: trace) = issues trace + 1 := List.countP_cons_of_pos rfl
  omega

def Granted (past : List Action) (w : Worker) : Prop :=
  w.pc = .send → ∃ earlier now stops, past = earlier ++ .tick (.check now) :: stops ∧
    .stop ∉ earlier ∧ ∀ a ∈ stops, a = .stop

theorem granted_step {kind : Kind} {limits : Limits} {past : List Action} {w w' : Worker}
    {a : Action} (inv : LoopInv limits past w) (h : Granted past w)
    (taken : step kind limits w a = some w') : Granted (past ++ [a]) w' := by
  intro pc'
  cases a with
  | stop =>
      cases taken
      obtain ⟨earlier, now, stops, rfl, clear, only⟩ := h pc'
      refine ⟨earlier, now, stops ++ [.stop], by simp, clear, ?_⟩
      intro a member
      rcases List.mem_append.1 member with old | new
      · exact only a old
      · exact List.mem_singleton.1 new
  | tick t =>
      cases ticked taken with
      | checked now pc =>
          have go : w.continues limits now := by
            by_contra halted
            simp [halted] at pc'
          have clear : w.stop = false := by
            simp only [continues, Bool.and_eq_true, Bool.not_eq_true'] at go
            exact go.1.1
          refine ⟨past, now, [], rfl, ?_, by simp⟩
          rw [← counted_stopped, inv.stopped, clear]
          exact Bool.false_ne_true
      | replied r timeout pc =>
          rcases handle_pc limits w r with pc | ⟨delay, pc⟩ <;> rw [pc] at pc' <;> cases pc'
      | settled async pc =>
          rw [show w.pc = .send from pc'] at pc
          cases pc
      | _ => cases pc'

theorem granted_run {kind : Kind} {limits : Limits} {claim : Claim} {started : ℚ} {owner : Nat}
    {future : Option Nat} {registered : Bool} {trace : List Action} {w : Worker}
    (h : run (step kind limits) ((create claim started owner).launch future registered) trace =
      some w) : Granted trace w :=
  (invariant_trace (I := fun past w => LoopInv limits past w ∧ Granted past w)
    (fun _ _ _ _ held taken => ⟨loopInv_step held.1 taken, granted_step held.1 held.2 taken⟩)
    ⟨loopInv_launch limits claim started owner future registered, fun pc => by cases pc⟩ h).2

theorem sending_run {kind : Kind} {limits : Limits} {w w' : Worker} {trace : List Action}
    (pc : w.pc = .send) (ran : run (step kind limits) w trace = some w')
    (sends : issues trace ≠ 0) :
    ∃ stops now rest, trace = stops ++ .tick (.issue now) :: rest ∧ ∀ a ∈ stops, a = .stop := by
  induction trace generalizing w with
  | nil => exact (sends rfl).elim
  | cons a trace ih =>
      obtain ⟨v, taken, went⟩ := run_cons.1 ran
      cases a with
      | stop =>
          cases taken
          have later : issues trace ≠ 0 := by simpa [issues, isIssue] using sends
          obtain ⟨stops, now, rest, rfl, only⟩ := ih (w := w.signalled) pc went later
          exact ⟨.stop :: stops, now, rest, rfl, by simpa using only⟩
      | tick t =>
          cases ticked taken with
          | issued now => exact ⟨[], now, trace, rfl, by simp⟩
          | _ => simp_all

/-- The heartbeat after a stop is the one whose guard check came before it: from that check, which
found the flag clear, to the RPC only the flag was set. -/
def CheckedBefore (before after : List Action) : Prop :=
  ∃ earlier checked stops stops' issued rest,
    before = earlier ++ .tick (.check checked) :: stops ∧
    after = stops' ++ .tick (.issue issued) :: rest ∧
    .stop ∉ earlier ∧ (∀ a ∈ stops ++ stops', a = .stop) ∧ issues rest = 0

theorem stopped_checked {kind : Kind} {limits : Limits} {before after : List Action}
    {v w : Worker} (granted : Granted before v)
    (rest : run (step kind limits) v.signalled after = some w) (sends : issues after ≠ 0) :
    CheckedBefore before after := by
  have pc : v.pc = .send := by
    by_contra unsent
    exact sends (stopped_unsent unsent rest)
  obtain ⟨earlier, checked, stops, rfl, clear, only⟩ := granted pc
  obtain ⟨stops', issued, later, rfl, only'⟩ := sending_run (w := v.signalled) pc rest sends
  have one := stopped_issues rest
  refine ⟨earlier, checked, stops, stops', issued, later, rfl, rfl, clear, ?_, ?_⟩
  · intro a member
    rcases List.mem_append.1 member with member | member
    · exact only a member
    · exact only' a member
  · have split : issues (stops' ++ .tick (.issue issued) :: later) =
        issues stops' + (issues later + 1) := by
      rw [issues, List.countP_append, List.countP_cons_of_pos rfl]
      rfl
    omega

/-! ## The law of the loop -/

theorem tick_progress {kind : Kind} {limits : Limits} {w : Worker} (launched : w.pc ≠ .unscheduled)
    (callback : w.pc = .done → kind = .async ∧ w.finished = false) :
    ∃ t, (w.tick kind limits t).isSome := by
  cases pc : w.pc with
  | unscheduled => exact (launched pc).elim
  | scheduled => exact ⟨.begin, by simp [tick, pc]⟩
  | guard => exact ⟨.check 0, by simp [tick, pc]⟩
  | send => exact ⟨.issue 0, by simp [tick, pc]⟩
  | inFlight timeout => exact ⟨.reply (.response running), by simp [tick, pc]⟩
  | pause delay => exact ⟨.pause 0, by simp [tick, pc]⟩
  | waiting timeout => exact ⟨.wake, by simp [tick, pc]⟩
  | leaving => exact ⟨.leave, by cases kind <;> simp [tick, pc]⟩
  | done =>
      obtain ⟨async, unfinished⟩ := callback pc
      exact ⟨.doneCallback, by simp [tick, pc, async, unfinished]⟩

theorem finished_step {kind : Kind} {limits : Limits} {w w' : Worker} {a : Action}
    (h : kind = .sync → w.pc = .done → w.finished = true)
    (taken : step kind limits w a = some w') :
    kind = .sync → w'.pc = .done → w'.finished = true := by
  cases a with
  | stop =>
      cases taken
      exact h
  | tick t =>
      intro sync done
      cases ticked taken with
      | checked now pc =>
          simp only at done
          split at done <;> cases done
      | replied r timeout pc =>
          rcases handle_pc limits w r with pc | ⟨delay, pc⟩ <;> simp [pc] at done
      | returned | settled => rfl
      | cancelled async | ended async =>
          rw [sync] at async
          cases async
      | _ => cases done

theorem launched_step {kind : Kind} {limits : Limits} {w w' : Worker} {a : Action}
    (h : w.pc ≠ .unscheduled) (taken : step kind limits w a = some w') : w'.pc ≠ .unscheduled := by
  cases a with
  | stop =>
      cases taken
      exact h
  | tick t =>
      cases ticked taken with
      | checked now pc =>
          simp only
          split <;> simp
      | replied r timeout pc =>
          rcases handle_pc limits w r with pc | ⟨delay, pc⟩ <;> simp [pc]
      | settled => exact h
      | _ => simp

structure Bounded (kind : Kind) (limits : Limits) (trace : List Action) (w : Worker) : Prop where
  rpcs : issues trace ≤ 3 * limits.maxCount
  succeeded : successes trace ≤ limits.maxCount
  consecutive : streak trace ≤ 3
  backoff : ∀ delay, w.pc = .pause delay →
    streak trace = 0 ∧ delay.seconds limits = limits.interval ∨
      0 < streak trace ∧ (delay.seconds limits = 2 ∨ delay.seconds limits = 4)
  final : ∀ before after r, trace = before ++ .tick (.reply r) :: after → FinalReply before r →
    issues after = 0
  stopped : ∀ before after, trace = before ++ .stop :: after →
    issues after ≤ 1 ∧ (issues after ≠ 0 → CheckedBefore before after)
  sent : w.sent = successes trace
  retries : w.retries = (counted trace).2
  steps : ticks trace ≤ 15 * limits.maxCount + 4
  progress : w.finished = true ∨ ∃ t, (w.tick kind limits t).isSome

theorem atPc_bounds {limits : Limits} {issued failures steps : Nat} {w : Worker}
    (bound : w.sent ≤ limits.maxCount) (h : AtPc limits issued failures steps w) :
    issued ≤ 3 * limits.maxCount ∧ failures ≤ 3 ∧ steps ≤ 5 * issued + 4 := by
  unfold AtPc at h
  split at h
  · omega
  · omega
  · obtain ⟨calls, few⟩ := h.1.spent bound
    omega
  · obtain ⟨calls, few⟩ := h.1.spent bound
    omega
  · omega
  · obtain ⟨calls, few⟩ := h.1.spent bound
    omega
  · obtain ⟨calls, few⟩ := h.1.spent bound
    omega
  · obtain ⟨calls, few⟩ := h.1.spent bound
    omega
  · obtain ⟨⟨calls, few⟩, steps⟩ := h
    omega
  · obtain ⟨⟨calls, few⟩, steps⟩ := h
    split at steps <;> omega

theorem atPc_backoff {limits : Limits} {issued failures steps : Nat} {w : Worker} {delay : Delay}
    (h : AtPc limits issued failures steps w) (pc : w.pc = .pause delay) :
    failures = 0 ∧ delay.seconds limits = limits.interval ∨
      0 < failures ∧ (delay.seconds limits = 2 ∨ delay.seconds limits = 4) := by
  cases delay with
  | interval =>
      simp only [AtPc, pc] at h
      exact .inl ⟨h.2.2, rfl⟩
  | backoff retries =>
      simp only [AtPc, pc] at h
      obtain ⟨-, -, rfl, rfl | rfl⟩ := h
      · exact .inr ⟨by omega, .inl (by norm_num [Delay.seconds])⟩
      · exact .inr ⟨by omega, .inr (by norm_num [Delay.seconds])⟩

theorem run_bounded (kind : Kind) (limits : Limits) (claim : Claim) (started : ℚ) (owner : Nat)
    (future : Option Nat) (registered : Bool) (trace : List Action) (w : Worker)
    (ran : run (step kind limits) ((create claim started owner).launch future registered) trace =
      some w) : Bounded kind limits trace w := by
  have inv := loopInv_run ran
  obtain ⟨calls, few, steps⟩ := atPc_bounds inv.bound inv.place
  refine ⟨calls, inv.sent ▸ inv.bound, few, fun delay => atPc_backoff inv.place, ?_, ?_, inv.sent,
    inv.retries.symm, by omega, ?_⟩
  · rintro before after r rfl final
    obtain ⟨v, v', reached, replied, rest⟩ := run_through ran
    exact left_issues (finalReply_left (loopInv_run reached) final replied) rest
  · rintro before after rfl
    obtain ⟨v, v', reached, stopped, rest⟩ := run_through ran
    cases stopped
    exact ⟨stopped_issues rest, stopped_checked (granted_run reached) rest⟩
  · have launched : w.pc ≠ .unscheduled :=
      invariant (I := fun w : Worker => w.pc ≠ .unscheduled) (fun _ _ _ => launched_step)
        (by simp [launch]) ran
    have ended := invariant (I := fun w : Worker => kind = .sync → w.pc = .done → w.finished = true)
      (fun _ _ _ => finished_step) (fun _ pc => by cases pc) ran
    by_cases finished : w.finished = true
    · exact .inl finished
    · refine .inr (tick_progress launched fun pc => ⟨?_, by simpa using finished⟩)
      cases kind with
      | sync => exact (finished (ended rfl pc)).elim
      | async => rfl

def sampleTrace : List Action :=
  [.tick .begin, .tick (.check 0), .tick (.issue 0), .tick (.reply (.response running)),
    .tick (.pause 0), .tick .wake, .tick (.check 1), .tick (.issue 1),
    .tick (.reply (.rpcError .unavailable (text "down"))), .tick (.pause 1), .tick .wake,
    .tick (.check 3), .stop, .tick (.issue 3), .tick (.reply (.rpcError .unavailable (text "down"))),
    .tick .leave]

theorem run_bounded_sample :
    ∃ w, run (step .sync .standard) ((create Claim.sample 0 0).launch (some 0) true) sampleTrace =
        some w ∧ w.finished = true ∧ w.retries = 1 ∧ Bounded .sync .standard sampleTrace w := by
  obtain ⟨w, ran⟩ := Option.isSome_iff_exists.1
    (show (run (step .sync .standard) ((create Claim.sample 0 0).launch (some 0) true)
      sampleTrace).isSome from by decide +kernel)
  have ended : (run (step .sync .standard) ((create Claim.sample 0 0).launch (some 0) true)
      sampleTrace).any (fun w => w.finished && w.retries == 1) := by decide +kernel
  rw [ran] at ended
  simp only [Option.any_some, Bool.and_eq_true, beq_iff_eq] at ended
  exact ⟨w, ran, ended.1, ended.2, run_bounded .sync .standard Claim.sample 0 0 (some 0) true _ w ran⟩

end Nzovu.Worker
