import Mathlib.Data.List.Perm.Basic
import Mathlib.Data.List.TakeWhile
import Nzovu.Heartbeat.Accounting

/-!
# What a client reports about its workers

`snapshot` and the attributes it reads, compared with the replies that the worker got. A failure is
recorded when it is handled before the stop flag is set.
-/

namespace Nzovu
open Transition
open Worker (Tick)

structure Stats where
  claim : List (Str × Str)
  heartbeatsSent : Nat
  heartbeatsFailed : Nat
  lastError : Option Str
  duration : ℚ
deriving DecidableEq

namespace Heartbeats

/-- The clock is read for each worker on its own. -/
def snapshot (h : Heartbeats) (clock : Claim → ℚ) : List (Claim × Stats) :=
  h.workers.entries.filterMap fun (claim, i) =>
    h.objects[i]?.map fun w =>
      (claim, ⟨claim.toDict, w.sent, w.failed, w.lastError, clock claim - w.started⟩)

def activeCount (h : Heartbeats) : Nat := (h.snapshot fun _ => 0).length

end Heartbeats

namespace Worker

def failureDetails : Action → Option Str
  | .tick (.reply (.rpcError _ details)) => some details
  | _ => none

def untilStop (trace : List Action) : List Action := trace.takeWhile (· ≠ .stop)

/-- What the failed calls said that ended before the stop flag was set. -/
def failures (trace : List Action) : List Str := (untilStop trace).filterMap failureDetails

structure Recorded (past : List Action) (w : Worker) : Prop where
  stop : w.stop = decide (.stop ∈ past)
  sent : w.sent = successes past
  failed : w.failed = (failures past).length
  lastError : w.lastError = (failures past).getLast?

theorem unstopped {past : List Action} (running : .stop ∉ past) :
    ∀ b ∈ past, decide (b ≠ Action.stop) = true := by
  rintro b member
  apply decide_eq_true
  rintro rfl
  exact running member

theorem untilStop_running {past : List Action} (running : .stop ∉ past) : untilStop past = past :=
  List.takeWhile_eq_self_iff.2 (unstopped running)

theorem untilStop_stopped {past : List Action} (stopped : .stop ∈ past) (a : Action) :
    untilStop (past ++ [a]) = untilStop past := by
  obtain ⟨before, after, rfl⟩ := List.append_of_mem stopped
  simp only [untilStop, List.append_assoc, List.cons_append]
  rw [List.takeWhile_append, List.takeWhile_append]
  simp

theorem failures_snoc (past : List Action) (a : Action) :
    failures (past ++ [a]) =
      failures past ++ if .stop ∈ past then [] else (failureDetails a).toList := by
  by_cases stopped : .stop ∈ past
  · simp [failures, untilStop_stopped stopped, stopped]
  · have more : untilStop (past ++ [a]) = past ++ untilStop [a] :=
      List.takeWhile_append_of_pos (unstopped stopped)
    rw [failures, failures, more, untilStop_running stopped, List.filterMap_append, if_neg stopped]
    congr 1
    cases a with
    | stop => rfl
    | tick t => cases said : failureDetails (.tick t) <;> simp [untilStop, said]

/-! ## The attributes of the report -/

theorem notify_record (limits : Limits) (w : Worker) (error : Reply) :
    (w.notify limits error).failed = w.failed ∧ (w.notify limits error).lastError = w.lastError := by
  unfold notify
  split <;> exact ⟨rfl, rfl⟩

theorem recordFailure_record (limits : Limits) (w : Worker) (code : StatusCode) (details : Str) :
    (w.recordFailure limits code details).1.failed = w.failed + 1 ∧
      (w.recordFailure limits code details).1.lastError = some details := by
  unfold recordFailure
  split
  · exact notify_record limits (w.countFailure details) _
  · exact ⟨rfl, rfl⟩

theorem handle_record (limits : Limits) (w : Worker) (r : Reply) :
    let said := if w.stop then [] else (failureDetails (.tick (.reply r))).toList
    (w.handle limits r).failed = w.failed + said.length ∧
      (w.handle limits r).lastError = said.getLast?.or w.lastError := by
  cases r with
  | response state =>
      simp only [handle, failureDetails]
      split <;> simp [succeeded]
  | rpcError code details =>
      obtain ⟨failed, lastError⟩ := recordFailure_record limits w code details
      simp only [handle, failureDetails]
      split
      · simp
      split <;> simp [failed, lastError]
  | exception error =>
      obtain ⟨failed, lastError⟩ := notify_record limits w (.exception error)
      simp [handle, failureDetails, failed, lastError]

theorem tick_record {kind : Kind} {limits : Limits} {w w' : Worker} {t : Tick}
    (taken : w.tick kind limits t = some w') :
    let said := if w.stop then [] else (failureDetails (.tick t)).toList
    w'.failed = w.failed + said.length ∧ w'.lastError = said.getLast?.or w.lastError := by
  cases ticked taken with
  | replied r => exact handle_record limits w r
  | _ => simp [failureDetails]

theorem recorded_step {kind : Kind} {limits : Limits} {past : List Action} {w w' : Worker}
    {a : Action} (h : Recorded past w) (taken : step kind limits w a = some w') :
    Recorded (past ++ [a]) w' := by
  obtain ⟨stop, sent, failed, lastError⟩ := h
  cases a with
  | stop =>
      cases taken
      refine ⟨by simp [signalled], by simpa [isSuccess, signalled] using sent, ?_, ?_⟩
      · simpa [failures_snoc, failureDetails, signalled] using failed
      · simpa [failures_snoc, failureDetails, signalled] using lastError
  | tick t =>
      have flag := (tick_keeps taken).2.1
      have counters := (tick_spec taken).2
      obtain ⟨more, last⟩ := tick_record taken
      rw [stop] at more last
      refine ⟨by simp [flag, stop], ?_, ?_, ?_⟩
      · cases t with
        | reply r => cases r <;> simp_all [countTick, countReply, isSuccess]
        | _ => simp_all [countTick, isSuccess]
      · simp only [more, failed, failures_snoc, List.length_append, decide_eq_true_eq]
      · simp only [last, lastError, failures_snoc, List.getLast?_append, decide_eq_true_eq]

theorem recorded_run {kind : Kind} {limits : Limits} {w w' : Worker} {trace : List Action}
    (start : Recorded [] w) (ran : run (step kind limits) w trace = some w') : Recorded trace w' :=
  invariant_trace (I := Recorded) (fun _ _ _ _ => recorded_step) start ran

theorem dormant_step {kind : Kind} {limits : Limits} {w w' : Worker} {a : Action}
    (dormant : w.pc = .unscheduled) (taken : step kind limits w a = some w') :
    w'.pc = .unscheduled ∧ a = .stop := by
  cases a with
  | stop =>
      cases taken
      exact ⟨dormant, rfl⟩
  | tick t => exact ((tick_launched taken).1 dormant).elim

theorem dormant_run {kind : Kind} {limits : Limits} {w w' : Worker} {trace : List Action}
    (dormant : w.pc = .unscheduled) (ran : run (step kind limits) w trace = some w') :
    ∀ a ∈ trace, a = .stop :=
  stable_through (I := fun w : Worker => w.pc = .unscheduled) (P := fun a => a = .stop)
    (fun _ _ _ held taken => (dormant_step held taken).1)
    (fun _ _ _ held taken => (dormant_step held taken).2) dormant ran

theorem dormant_counts {kind : Kind} {limits : Limits} {w w' : Worker} {trace : List Action}
    (dormant : w.pc = .unscheduled) (ran : run (step kind limits) w trace = some w') :
    issues trace = 0 ∧ successes trace = 0 := by
  have only := dormant_run dormant ran
  refine ⟨List.countP_eq_zero.2 ?_, List.countP_eq_zero.2 ?_⟩ <;> intro a member <;>
    simp [only a member, isIssue, isSuccess]

end Worker

namespace Heartbeats

/-! ## The entries of the report -/

theorem values_nodup {h : Heartbeats} (mapped : h.Mapped) : h.workers.values.Nodup := by
  have distinct := h.workers.nodup
  rw [Dict.values, List.nodup_map_iff_inj_on (List.Nodup.of_map _ distinct)]
  rintro ⟨c, i⟩ first ⟨d, j⟩ second same
  obtain ⟨v, place, rfl, -⟩ := (mapped c i).1 (Dict.get?_eq_some.2 first)
  obtain ⟨w, here, rfl, -⟩ := (mapped d j).1 (Dict.get?_eq_some.2 second)
  simp only at same
  subst same
  rw [place] at here
  cases here
  rfl

theorem entries_live {h : Heartbeats} (mapped : h.Mapped) :
    h.workers.entries.length = h.objects.countP Worker.live := by
  have live : ∀ i, i ∈ h.workers.values ↔ h.objects[i]?.any Worker.live := by
    intro i
    simp only [Dict.mem_values, mapped _ i, Option.any_eq_true]
    grind
  have same : h.workers.values.Perm
      ((List.range h.objects.length).filter fun i => h.objects[i]?.any Worker.live) := by
    rw [List.perm_ext_iff_of_nodup (values_nodup mapped) (List.nodup_range.filter _)]
    intro i
    rw [live, List.mem_filter, List.mem_range]
    refine ⟨fun alive => ⟨?_, alive⟩, fun both => both.2⟩
    by_contra outside
    simp [List.getElem?_eq_none (Nat.not_lt.1 outside)] at alive
  calc h.workers.entries.length = h.workers.values.length := by simp [Dict.values]
    _ = (List.range h.objects.length).countP fun i => h.objects[i]?.any Worker.live := by
        rw [same.length_eq, List.countP_eq_length_filter]
    _ = h.objects.countP Worker.live := Tally.countP_range _ _

theorem mem_snapshot {h : Heartbeats} {clock : Claim → ℚ} {claim : Claim} {stats : Stats} :
    (claim, stats) ∈ h.snapshot clock ↔ ∃ i w, h.workers.get? claim = some i ∧
      h.objects[i]? = some w ∧ stats =
        ⟨claim.toDict, w.sent, w.failed, w.lastError, clock claim - w.started⟩ := by
  simp only [snapshot, List.mem_filterMap, Option.map_eq_some_iff, Prod.mk.injEq, Dict.get?_eq_some]
  constructor
  · rintro ⟨⟨c, i⟩, entry, w, located, rfl, rfl⟩
    exact ⟨i, w, entry, located, rfl⟩
  · rintro ⟨i, w, entry, located, rfl⟩
    exact ⟨(claim, i), entry, w, located, rfl, rfl⟩

theorem snapshot_keys {h : Heartbeats} (mapped : h.Mapped) (clock : Claim → ℚ) :
    (h.snapshot clock).map Prod.fst = h.workers.keys := by
  rw [snapshot, List.map_filterMap, Dict.keys, ← List.filterMap_eq_map]
  apply List.filterMap_congr
  rintro ⟨claim, i⟩ entry
  obtain ⟨w, located, -⟩ := (mapped claim i).1 (Dict.get?_eq_some.2 entry)
  simp [located]

theorem activeCount_live {h : Heartbeats} (mapped : h.Mapped) :
    h.activeCount = h.objects.countP Worker.live := by
  rw [← entries_live mapped, activeCount, ← List.length_map Prod.fst, snapshot_keys mapped,
    Dict.keys, List.length_map]

end Heartbeats

end Nzovu
