import Mathlib.Tactic.Linarith
import Nzovu.Heartbeat.Worker
import Nzovu.Library.Transition

/-!
# The lifetime of a worker

A worker on a clock. A call returns within its timeout and a wait within its argument; before the run
begins and after it has ended time passes freely, and the other steps take none.
-/

namespace Nzovu
open Transition

theorem Delay.seconds_pos (limits : Limits) (delay : Delay) : 0 < delay.seconds limits := by
  cases delay with
  | interval => exact limits.interval_pos
  | backoff retries => exact pow_pos two_pos retries

namespace Worker

def expiry (limits : Limits) (w : Worker) : ℚ := w.started + limits.maxDuration

theorem remaining_eq (limits : Limits) (w : Worker) (now : ℚ) :
    w.remaining limits now = w.expiry limits - now := by
  rw [remaining, expiry]
  ring

def reading : Action → Option ℚ
  | .tick (.check now) | .tick (.issue now) | .tick (.pause now) => some now
  | _ => none

def begins : Action → Bool
  | .tick (.issue _) | .tick (.pause _) => true
  | _ => false

end Worker

structure Timed where
  worker : Worker
  now : ℚ
  since : ℚ

namespace Timed
open Worker

inductive Event
  | act (a : Action)
  | elapse (time : ℚ)

def latest (s : Timed) : Option ℚ :=
  match s.worker.pc with
  | .inFlight timeout | .waiting timeout => some (s.since + timeout)
  | .unscheduled | .scheduled | .done => none
  | _ => some s.now

def step (kind : Kind) (limits : Limits) (s : Timed) : Event → Option Timed
  | .elapse time =>
      if 0 ≤ time ∧ s.latest.all (s.now + time ≤ ·) then some { s with now := s.now + time } else none
  | .act a =>
      if (reading a).all (· = s.now) then
        (s.worker.step kind limits a).map fun w =>
          ⟨w, s.now, if begins a then s.now else s.since⟩
      else none

def launch (claim : Claim) (now : ℚ) (owner : Nat) (future : Option Nat) (registered : Bool) : Timed :=
  ⟨(create claim now owner).launch future registered, now, now⟩

variable {kind : Kind} {limits : Limits}

inductive Stepped (kind : Kind) (limits : Limits) (s : Timed) : Event → Timed → Prop
  | elapsed (time : ℚ) (forward : 0 ≤ time) (within : ∀ last, s.latest = some last → s.now + time ≤ last) :
      Stepped kind limits s (.elapse time) { s with now := s.now + time }
  | acted (a : Action) (w : Worker) (read : ∀ now, reading a = some now → now = s.now)
      (taken : s.worker.step kind limits a = some w) :
      Stepped kind limits s (.act a) ⟨w, s.now, if begins a then s.now else s.since⟩

theorem stepped {s s' : Timed} {e : Event} (taken : s.step kind limits e = some s') :
    Stepped kind limits s e s' := by
  cases e with
  | elapse time =>
      simp only [step] at taken
      split at taken
      · rename_i allowed
        cases taken
        exact .elapsed time allowed.1 (by simpa [Option.all_eq_true] using allowed.2)
      · cases taken
  | act a =>
      simp only [step] at taken
      split at taken
      · rename_i read
        obtain ⟨w, moved, rfl⟩ := Option.map_eq_some_iff.1 taken
        exact .acted a w (by simpa [Option.all_eq_true] using read) moved
      · cases taken

/-- What the place in the loop says about the time, when the lifetime ends at `due`. -/
def OnTime (due : ℚ) (s : Timed) : Prop :=
  match s.worker.pc with
  | .send => s.now < due
  | .inFlight timeout => 0 < timeout ∧ timeout ≤ 5 ∧ s.now ≤ s.since + timeout ∧
      s.since + timeout ≤ due + 1 / 1000
  | .pause _ => s.now ≤ due + 1 / 1000
  | .waiting timeout => 0 ≤ timeout ∧ s.now ≤ s.since + timeout ∧ s.since + timeout ≤ due + 1 / 1000
  | _ => True

structure TimedInv (limits : Limits) (due : ℚ) (past : List Event) (s : Timed) : Prop where
  expires : s.worker.expiry limits = due
  place : OnTime due s
  issued : ∀ now, .act (.tick (.issue now)) ∈ past → now < due

theorem call_timeout (limits : Limits) {now due : ℚ} (early : now < due) :
    0 < max (1 / 1000) (min limits.rpcTimeout (due - now)) ∧
      max (1 / 1000) (min limits.rpcTimeout (due - now)) ≤ 5 ∧
      now + max (1 / 1000) (min limits.rpcTimeout (due - now)) ≤ due + 1 / 1000 := by
  have capped : min limits.rpcTimeout (due - now) ≤ 5 := (min_le_left _ _).trans limits.rpcTimeout_le
  have left_ : min limits.rpcTimeout (due - now) ≤ due - now := min_le_right _ _
  refine ⟨lt_max_of_lt_left (by norm_num), max_le (by norm_num) capped, ?_⟩
  rcases max_cases (1 / 1000) (min limits.rpcTimeout (due - now)) with ⟨floor, -⟩ | ⟨value, -⟩
  · rw [floor]
    linarith
  · rw [value]
    linarith

theorem wait_timeout (limits : Limits) {now due : ℚ} (late : now ≤ due + 1 / 1000) (delay : Delay) :
    0 ≤ min (delay.seconds limits) (max 0 (due - now)) ∧
      now + min (delay.seconds limits) (max 0 (due - now)) ≤ due + 1 / 1000 := by
  have clipped : min (delay.seconds limits) (max 0 (due - now)) ≤ max 0 (due - now) := min_le_right _ _
  refine ⟨le_min (delay.seconds_pos limits).le (le_max_left _ _), ?_⟩
  rcases max_cases 0 (due - now) with ⟨spent, -⟩ | ⟨left_, -⟩
  · rw [spent] at clipped ⊢
    linarith
  · rw [left_] at clipped ⊢
    linarith

theorem expiry_tick {w w' : Worker} {t : Tick} (taken : w.tick kind limits t = some w') :
    w'.expiry limits = w.expiry limits := by
  rw [expiry, expiry, tick_started taken]

theorem onTime_tick {s : Timed} {t : Tick} {w : Worker} {due : ℚ}
    (expires : s.worker.expiry limits = due) (place : OnTime due s)
    (read : ∀ now, reading (.tick t) = some now → now = s.now)
    (taken : s.worker.tick kind limits t = some w) :
    OnTime due ⟨w, s.now, if begins (.tick t) then s.now else s.since⟩ := by
  cases ticked taken with
  | checked now pc =>
      cases read now rfl
      by_cases go : s.worker.continues limits s.now
      · have early : s.now < due := by
          simp only [continues, remaining_eq, expires, Bool.and_eq_true, decide_eq_true_eq] at go
          exact sub_pos.1 go.1.2
        simpa [OnTime, go] using early
      · simp [OnTime, go]
  | issued now pc =>
      cases read now rfl
      simp only [OnTime, pc] at place
      obtain ⟨positive, capped, within⟩ := call_timeout limits place
      simp only [OnTime, begins, ↓reduceIte, remaining_eq, expires]
      exact ⟨positive, capped, le_add_of_nonneg_right positive.le, within⟩
  | replied r timeout pc =>
      simp only [OnTime, pc] at place
      have late : s.now ≤ due + 1 / 1000 := place.2.2.1.trans place.2.2.2
      rcases handle_pc limits s.worker r with left_ | ⟨delay, again⟩
      · simp [OnTime, left_]
      · simpa [OnTime, again] using late
  | paused now delay pc =>
      cases read now rfl
      simp only [OnTime, pc] at place
      obtain ⟨nonneg, within⟩ := wait_timeout limits place delay
      simp only [OnTime, begins, ↓reduceIte, remaining_eq, expires]
      exact ⟨nonneg, le_add_of_nonneg_right nonneg, within⟩
  | settled async pc => simp [OnTime, pc]
  | _ => trivial

theorem onTime_elapse {s : Timed} {time due : ℚ} (place : OnTime due s)
    (within : ∀ last, s.latest = some last → s.now + time ≤ last) :
    OnTime due { s with now := s.now + time } := by
  cases pc : s.worker.pc with
  | send =>
      have stays := within s.now (by simp [latest, pc])
      simp only [OnTime, pc] at place ⊢
      exact stays.trans_lt place
  | inFlight timeout =>
      simp only [OnTime, pc] at place ⊢
      obtain ⟨positive, capped, -, ends⟩ := place
      exact ⟨positive, capped, within _ (by simp [latest, pc]), ends⟩
  | pause delay =>
      have stays := within s.now (by simp [latest, pc])
      simp only [OnTime, pc] at place ⊢
      exact stays.trans place
  | waiting timeout =>
      simp only [OnTime, pc] at place ⊢
      obtain ⟨nonneg, -, ends⟩ := place
      exact ⟨nonneg, within _ (by simp [latest, pc]), ends⟩
  | _ => simp [OnTime, pc]

theorem timedInv_step {due : ℚ} {past : List Event} {s s' : Timed} {e : Event}
    (h : TimedInv limits due past s) (taken : s.step kind limits e = some s') :
    TimedInv limits due (past ++ [e]) s' := by
  obtain ⟨expires, place, issued⟩ := h
  cases stepped taken with
  | elapsed time forward within =>
      refine ⟨expires, onTime_elapse place within, ?_⟩
      intro now member
      exact issued now (by simpa using member)
  | acted a w read moved =>
      cases a with
      | stop =>
          cases moved
          refine ⟨expires, place, ?_⟩
          intro now member
          exact issued now (by simpa using member)
      | tick t =>
          refine ⟨(expiry_tick moved).trans expires, onTime_tick expires place read moved, ?_⟩
          intro now member
          rcases List.mem_append.1 member with earlier | last
          · exact issued now earlier
          · have same : .act (.tick (.issue now)) = Event.act (.tick t) := List.mem_singleton.1 last
            cases same
            change s.worker.tick kind limits (.issue now) = some w at moved
            cases ticked moved with
            | issued _ pc =>
                cases read now rfl
                simpa [OnTime, pc] using place

structure Budget (limits : Limits) (started : ℚ) (trace : List Event) (s : Timed) : Prop where
  issued : ∀ now, .act (.tick (.issue now)) ∈ trace → now < started + limits.maxDuration
  call : ∀ timeout, s.worker.pc = .inFlight timeout →
    0 < timeout ∧ timeout ≤ 5 ∧ s.now ≤ started + limits.maxDuration + 1 / 1000
  wait : ∀ timeout, s.worker.pc = .waiting timeout →
    0 ≤ timeout ∧ s.now ≤ started + limits.maxDuration + 1 / 1000

theorem run_budget (kind : Kind) (limits : Limits) (claim : Claim) (started : ℚ) (owner : Nat)
    (future : Option Nat) (registered : Bool) (trace : List Event) (s : Timed)
    (ran : run (step kind limits) (launch claim started owner future registered) trace = some s) :
    Budget limits started trace s := by
  have start : TimedInv limits (started + limits.maxDuration) []
      (launch claim started owner future registered) := ⟨rfl, trivial, by simp⟩
  obtain ⟨-, place, issued⟩ := invariant_trace
    (I := TimedInv limits (started + limits.maxDuration)) (fun _ _ _ _ => timedInv_step) start ran
  refine ⟨issued, ?_, ?_⟩
  · intro timeout pc
    simp only [OnTime, pc] at place
    obtain ⟨positive, capped, now, ends⟩ := place
    exact ⟨positive, capped, now.trans ends⟩
  · intro timeout pc
    simp only [OnTime, pc] at place
    obtain ⟨nonneg, now, ends⟩ := place
    exact ⟨nonneg, now.trans ends⟩

/-- A run that begins late: its only call runs over the end of the lifetime by half a millisecond. -/
def lateTrace : List Event :=
  [.elapse (300 - 1 / 2000), .act (.tick .begin), .act (.tick (.check (300 - 1 / 2000))),
    .act (.tick (.issue (300 - 1 / 2000))), .elapse (1 / 1000)]

theorem run_budget_late :
    ∃ s, run (step .sync .standard) (launch Claim.sample 0 0 (some 0) true) lateTrace = some s ∧
      s.worker.pc = .inFlight (1 / 1000) ∧ 300 < s.now ∧ Budget .standard 0 lateTrace s := by
  obtain ⟨s, ran, late⟩ := (Option.any_eq_true _ _).1
    (show (run (step .sync .standard) (launch Claim.sample 0 0 (some 0) true) lateTrace).any
      (fun s => s.worker.pc = .inFlight (1 / 1000) ∧ 300 < s.now) from by decide +kernel)
  obtain ⟨pc, beyond⟩ := of_decide_eq_true late
  exact ⟨s, ran, pc, beyond, run_budget .sync .standard Claim.sample 0 0 (some 0) true _ s ran⟩

end Timed

end Nzovu
