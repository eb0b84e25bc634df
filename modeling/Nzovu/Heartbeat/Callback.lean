import Nzovu.Heartbeat.LoopBound

/-!
# The error callback

Which replies are reported. The handler of `RpcError` looks at the stop flag before it reports; the
handler around the loop does not.
-/

namespace Nzovu.Worker
open Transition

def Replied (a : Action) : Prop := ∃ r, a = .tick (.reply r)

def Excepted (a : Action) : Prop := ∃ error, a = .tick (.reply (.exception error))

/-- The failures that end a worker: an error that is not retried, the third one in a row, and an
exception that is no `RpcError`. -/
def Fails (before : List Action) : Action → Prop
  | .tick (.reply (.rpcError code _)) => code ∉ retryable ∨ streak before = 2
  | .tick (.reply (.exception _)) => True
  | _ => False

/-- A configured callback is invoked at most once, exactly for a failure that is handled while the
flag is not set, and never for a call that ends after the flag was set. -/
structure CallbackLaw (trace : List Action) (w : Worker) : Prop where
  once : w.reports.length ≤ 1
  reported : w.reports ≠ [] ↔ Sometime (fun before a => Fails before a ∧ .stop ∉ before) trace
  silent : Sometime (fun before a => Replied a ∧ .stop ∈ before) trace → w.reports = []

def Reported (before : List Action) (a : Action) : Prop :=
  Fails before a ∧ (.stop ∈ before → Excepted a)

structure CallbackInv (limits : Limits) (past : List Action) (w : Worker) : Prop where
  loop : LoopInv limits past w
  once : w.reports.length ≤ 1
  reported : w.reports ≠ [] ↔ Sometime Reported past
  unreported : ¬ Left w → w.reports = []

theorem notify_reports {limits : Limits} (configured : limits.callback = true) (w : Worker)
    (error : Reply) :
    (w.notify limits error).reports = w.reports ++ [⟨w.claim, error, w.retries, w.sent⟩] := by
  rw [notify, if_pos configured]

theorem recordFailure_reports {limits : Limits} (configured : limits.callback = true) (w : Worker)
    (code : StatusCode) (details : Str) :
    (w.recordFailure limits code details).2 = true ∧
        (w.recordFailure limits code details).1.reports = w.reports ∨
      (w.recordFailure limits code details).2 = false ∧
        (w.recordFailure limits code details).1.reports.length = w.reports.length + 1 := by
  unfold recordFailure
  split
  · right
    simp [notify_reports configured, countFailure]
  · exact .inl ⟨rfl, rfl⟩

theorem handle_rpcError_reports {limits : Limits} (configured : limits.callback = true) {w : Worker}
    (running : w.stop = false) (code : StatusCode) (details : Str) :
    (code ∉ retryable ∨ 2 ≤ w.retries) ∧ Left (w.handle limits (.rpcError code details)) ∧
        (w.handle limits (.rpcError code details)).reports.length = w.reports.length + 1 ∨
      ¬ (code ∉ retryable ∨ 2 ≤ w.retries) ∧
        (w.handle limits (.rpcError code details)).reports = w.reports := by
  obtain ⟨-, -, -, -, again⟩ := recordFailure_spec limits w code details
  rw [handle, running, if_neg Bool.false_ne_true]
  rcases recordFailure_reports configured w code details with ⟨more, same⟩ | ⟨last, one⟩
  · right
    obtain ⟨member, few⟩ := again.1 more
    refine ⟨by simp [member]; omega, ?_⟩
    simpa [more] using same
  · left
    have final : code ∉ retryable ∨ 2 ≤ w.retries := by
      rw [last] at again
      simp only [Bool.false_eq_true, false_iff, not_and, not_lt] at again
      by_cases member : code ∈ retryable
      · exact .inr (by have := again member; omega)
      · exact .inl member
    exact ⟨final, by simp [last, Left], by simpa [last] using one⟩

theorem handle_reports {limits : Limits} (configured : limits.callback = true) {past : List Action}
    {w : Worker} (inv : LoopInv limits past w) {timeout : ℚ} (pc : w.pc = .inFlight timeout)
    (r : Reply) :
    Reported past (.tick (.reply r)) ∧ Left (w.handle limits r) ∧
        (w.handle limits r).reports.length = w.reports.length + 1 ∨
      ¬ Reported past (.tick (.reply r)) ∧ (w.handle limits r).reports = w.reports := by
  have place := inv.place
  simp only [AtPc, pc] at place
  have flag := counted_stopped past
  rw [inv.stopped] at flag
  cases r with
  | response state =>
      right
      refine ⟨fun reported => reported.1, ?_⟩
      simp only [handle]
      split <;> rfl
  | exception error =>
      left
      refine ⟨⟨trivial, fun _ => ⟨error, rfl⟩⟩, .inl rfl, ?_⟩
      simp [handle, notify_reports configured]
  | rpcError code details =>
      by_cases stopped : w.stop = true
      · right
        refine ⟨fun reported => ?_, by rw [handle, if_pos stopped]⟩
        obtain ⟨error, other⟩ := reported.2 (flag.1 stopped)
        cases other
      · have third : 2 ≤ w.retries ↔ streak past = 2 := by omega
        have fails : Reported past (.tick (.reply (.rpcError code details))) ↔
            code ∉ retryable ∨ 2 ≤ w.retries := by
          rw [third]
          exact ⟨And.left, fun final => ⟨final, fun member => (stopped (flag.2 member)).elim⟩⟩
        rw [fails]
        exact handle_rpcError_reports configured (by simpa using stopped) code details

theorem tick_reports {kind : Kind} {limits : Limits} {w w' : Worker} {t : Tick}
    (taken : w.tick kind limits t = some w') (other : ¬ Replied (.tick t)) :
    w'.reports = w.reports := by
  cases ticked taken with
  | replied r => exact (other ⟨r, rfl⟩).elim
  | _ => rfl

theorem Fails.replied {before : List Action} {a : Action} (fails : Fails before a) : Replied a := by
  cases a with
  | stop => cases fails
  | tick t =>
      cases t with
      | reply r => exact ⟨r, rfl⟩
      | _ => cases fails

theorem inFlight_running {w : Worker} {timeout : ℚ} (pc : w.pc = .inFlight timeout) : ¬ Left w := by
  rintro (left_ | left_) <;> rw [pc] at left_ <;> cases left_

theorem callbackInv_reply {limits : Limits} (configured : limits.callback = true)
    {past : List Action} {w : Worker} {r : Reply} (h : CallbackInv limits past w) {timeout : ℚ}
    (pc : w.pc = .inFlight timeout)
    (loop : LoopInv limits (past ++ [.tick (.reply r)]) (w.handle limits r)) :
    CallbackInv limits (past ++ [.tick (.reply r)]) (w.handle limits r) := by
  have none := h.unreported (inFlight_running pc)
  have never := mt h.reported.2 (by simp [none])
  rcases handle_reports configured h.loop pc r with ⟨now, left_, one⟩ | ⟨silent, same⟩
  · rw [none, List.length_nil, zero_add] at one
    refine ⟨loop, one.le, ?_, fun running => (running left_).elim⟩
    rw [sometime_snoc, ← List.length_pos_iff, one]
    simp [now]
  · rw [none] at same
    refine ⟨loop, by simp [same], ?_, fun _ => same⟩
    rw [sometime_snoc, same]
    simp [never, silent]

theorem callbackInv_step {kind : Kind} {limits : Limits} (configured : limits.callback = true)
    {past : List Action} {w w' : Worker} {a : Action} (h : CallbackInv limits past w)
    (taken : step kind limits w a = some w') : CallbackInv limits (past ++ [a]) w' := by
  have loop : LoopInv limits (past ++ [a]) w' := loopInv_step h.loop taken
  by_cases reply : Replied a
  · obtain ⟨r, rfl⟩ := reply
    change w.tick kind limits (.reply r) = some w' at taken
    cases ticked taken with
    | replied _ timeout pc => exact callbackInv_reply configured h pc loop
  · have same : w'.reports = w.reports := by
      cases a with
      | stop =>
          cases taken
          rfl
      | tick t => exact tick_reports taken reply
    have silent : ¬ Reported past a := fun reported => reply reported.1.replied
    have earlier : ¬ Left w' → ¬ Left w := fun running left_ => running (left_step left_ taken).1
    refine ⟨loop, same ▸ h.once, ?_, fun running => same ▸ h.unreported (earlier running)⟩
    rw [same, sometime_snoc, h.reported]
    simp [silent]

theorem callbackInv_run {kind : Kind} {limits : Limits} (configured : limits.callback = true)
    {claim : Claim} {started : ℚ} {owner : Nat} {future : Option Nat} {registered : Bool}
    {trace : List Action} {w : Worker}
    (ran : run (step kind limits) ((create claim started owner).launch future registered) trace =
      some w) : CallbackInv limits trace w := by
  have start : CallbackInv limits [] ((create claim started owner).launch future registered) :=
    { loop := loopInv_launch limits claim started owner future registered
      once := Nat.zero_le 1
      reported := by simp [launch, create, not_sometime_nil]
      unreported _ := rfl }
  exact invariant_trace (I := CallbackInv limits) (fun _ _ _ _ => callbackInv_step configured) start ran

/-! ## After the flag -/

structure Quiet (w : Worker) : Prop where
  stop : w.stop = true
  unsent : w.pc ≠ .send
  idle : ∀ timeout, w.pc ≠ .inFlight timeout

theorem quiet_step {kind : Kind} {limits : Limits} {w w' : Worker} {a : Action}
    (h : Quiet w ∧ w.reports = []) (taken : step kind limits w a = some w') :
    Quiet w' ∧ w'.reports = [] := by
  obtain ⟨⟨stop, unsent, idle⟩, none⟩ := h
  cases a with
  | stop =>
      cases taken
      exact ⟨⟨rfl, unsent, idle⟩, none⟩
  | tick t =>
      cases ticked taken with
      | checked now pc =>
          have leaves : w.continues limits now = false := by simp [continues, stop]
          exact ⟨⟨stop, by simp [leaves], by simp [leaves]⟩, none⟩
      | issued now pc => exact (unsent pc).elim
      | replied r timeout pc => exact (idle timeout pc).elim
      | _ => exact ⟨⟨stop, by simp [*], by simp [*]⟩, none⟩

theorem quiet_handle {limits : Limits} {w : Worker} (stopped : w.stop = true)
    (none : w.reports = []) {r : Reply} (known : ∀ error, r ≠ .exception error) :
    Quiet (w.handle limits r) ∧ (w.handle limits r).reports = [] := by
  have flag : (w.handle limits r).stop = true := (handle_stop limits w r).trans stopped
  refine ⟨⟨flag, ?_, ?_⟩, ?_⟩
  · rcases handle_pc limits w r with pc | ⟨delay, pc⟩ <;> simp [pc]
  · rcases handle_pc limits w r with pc | ⟨delay, pc⟩ <;> simp [pc]
  · cases r with
    | response state =>
        simp only [handle]
        split <;> exact none
    | rpcError code details =>
        rw [handle, if_pos stopped]
        exact none
    | exception error => exact (known error rfl).elim

/-! ## The law -/

def StoppedException (before : List Action) (a : Action) : Prop := Excepted a ∧ .stop ∈ before

section Law
variable {kind : Kind} {limits : Limits} {claim : Claim} {started : ℚ} {owner : Nat}
  {future : Option Nat} {registered : Bool} {trace : List Action} {w : Worker}

theorem silent_of_handled (configured : limits.callback = true)
    (ran : run (step kind limits) ((create claim started owner).launch future registered) trace =
      some w) (handled : ¬ Sometime StoppedException trace) :
    Sometime (fun before a => Replied a ∧ .stop ∈ before) trace → w.reports = [] := by
  rintro ⟨before, a, after, split, ⟨r, rfl⟩, stopped⟩
  subst split
  obtain ⟨v, v', reached, taken, rest⟩ := run_through ran
  have inv := callbackInv_run configured reached
  have flag : v.stop = true := inv.loop.stopped ▸ (counted_stopped before).2 stopped
  have known : ∀ error, r ≠ .exception error := by
    rintro error rfl
    exact handled ⟨before, _, after, rfl, ⟨error, rfl⟩, stopped⟩
  change v.tick kind limits (.reply r) = some v' at taken
  cases ticked taken with
  | replied _ timeout pc =>
      have none := inv.unreported (inFlight_running pc)
      exact (invariant (I := fun w => Quiet w ∧ w.reports = []) (fun _ _ _ => quiet_step)
        (quiet_handle flag none known) rest).2

/-- The law holds in a run if and only if no stub call of it ends in an exception other than an
`RpcError` after the flag was set. -/
theorem callbackLaw_iff (configured : limits.callback = true)
    (ran : run (step kind limits) ((create claim started owner).launch future registered) trace =
      some w) : CallbackLaw trace w ↔ ¬ Sometime StoppedException trace := by
  have inv := callbackInv_run configured ran
  constructor
  · rintro law ⟨before, a, after, split, ⟨error, rfl⟩, stopped⟩
    have silent := law.silent ⟨before, _, after, split, ⟨_, rfl⟩, stopped⟩
    exact inv.reported.2 ⟨before, _, after, split, trivial, fun _ => ⟨error, rfl⟩⟩ silent
  · intro handled
    refine ⟨inv.once, ?_, silent_of_handled configured ran handled⟩
    rw [inv.reported]
    constructor
    · rintro ⟨before, a, after, split, fails, met⟩
      refine ⟨before, a, after, split, fails, fun stopped => ?_⟩
      exact handled ⟨before, a, after, split, met stopped, stopped⟩
    · rintro ⟨before, a, after, split, fails, unstopped⟩
      exact ⟨before, a, after, split, fails, fun stopped => (unstopped stopped).elim⟩

end Law

def reporting : Limits := { Limits.standard with callback := true }

def lostTrace : List Action :=
  [.tick .begin, .tick (.check 0), .tick (.issue 0),
    .tick (.reply (.rpcError .notFound (text "no such claim"))), .tick .leave]

theorem callbackLaw_lost :
    ∃ w, run (step .sync reporting) ((create Claim.sample 0 0).launch (some 0) true) lostTrace =
        some w ∧ w.reports.length = 1 ∧ CallbackLaw lostTrace w := by
  obtain ⟨w, ran, reported⟩ := (Option.any_eq_true _ _).1
    (show (run (step .sync reporting) ((create Claim.sample 0 0).launch (some 0) true)
      lostTrace).any (fun w => w.reports.length = 1) from by decide +kernel)
  have handled : ¬ Sometime StoppedException lostTrace := by
    rintro ⟨before, a, after, split, -, stopped⟩
    have never : .stop ∉ lostTrace := by decide
    exact never (split ▸ List.mem_append_left _ stopped)
  exact ⟨w, ran, of_decide_eq_true reported, (callbackLaw_iff rfl ran).2 handled⟩

/-- `close` sets the flag and closes the channel between the guard and the stub call. -/
def closedTrace : List Action :=
  [.tick .begin, .tick (.check 0), .stop, .tick (.issue 0),
    .tick (.reply (.exception (valueError (text "Cannot invoke RPC on closed channel!")))),
    .tick .leave]

theorem not_callbackLaw_closed :
    ∃ w, run (step .sync reporting) ((create Claim.sample 0 0).launch (some 0) true) closedTrace =
        some w ∧ w.reports.length = 1 ∧ ¬ CallbackLaw closedTrace w := by
  obtain ⟨w, ran, reported⟩ := (Option.any_eq_true _ _).1
    (show (run (step .sync reporting) ((create Claim.sample 0 0).launch (some 0) true)
      closedTrace).any (fun w => w.reports.length = 1) from by decide +kernel)
  have one : w.reports.length = 1 := of_decide_eq_true reported
  refine ⟨w, ran, one, fun law => ?_⟩
  have silent := law.silent ⟨closedTrace.take 4, _, [.tick .leave], rfl, ⟨_, rfl⟩, by decide⟩
  rw [silent] at one
  cases one

end Nzovu.Worker
