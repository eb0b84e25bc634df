import Nzovu.Client.Projection
import Nzovu.Client.Shutdown
import Nzovu.Heartbeat.Statistics

/-!
# Workers in a client

What the runs of a single worker say about a client in which calls, operations, callbacks and closes
interleave with any number of workers: how many heartbeats it sends, how many more once it has been
told to stop, and what `snapshot` reports.
-/

namespace Nzovu
open Tally Transition
open Worker (Tick)

namespace System

variable {kind : Kind} {limits : Limits} {eagerGather : Bool}

theorem born_recorded {submit : Submit} {claim : Claim} {now : ℚ} {owner : Nat} {w : Worker}
    (born : Born submit claim now owner w) : Worker.Recorded [] w := by
  cases born <;> exact ⟨rfl, rfl, rfl, rfl⟩

theorem born_calls {submit : Submit} {claim : Claim} {now : ℚ} {owner : Nat} {first w : Worker}
    {trace : List Worker.Action} (born : Born submit claim now owner first)
    (ran : run (Worker.step kind limits) first trace = some w) :
    Worker.issues trace ≤ 3 * limits.maxCount ∧ Worker.successes trace ≤ limits.maxCount := by
  cases born with
  | launched future registered =>
      have inv := Worker.loopInv_run ran
      exact ⟨(Worker.atPc_bounds inv.bound inv.place).1, inv.sent ▸ inv.bound⟩
  | dormant registered =>
      obtain ⟨issues, successes⟩ := Worker.dormant_counts rfl ran
      omega

structure Governed (kind : Kind) (limits : Limits) (eagerGather : Bool) (trace : List Action)
    (i : Nat) (w : Worker) : Prop where
  life : Nonempty (Life kind limits eagerGather trace i w)
  calls : trace.countP (heartbeat i) ≤ 3 * limits.maxCount
  sent : w.sent = trace.countP (confirmed i)
  bound : w.sent ≤ limits.maxCount

theorem workers_governed (kind : Kind) (limits : Limits) (eagerGather : Bool) (trace : List Action)
    (s : System) (i : Nat) (w : Worker)
    (ran : run step (create kind limits eagerGather) trace = some s)
    (located : s.heartbeats.objects[i]? = some w) :
    Governed kind limits eagerGather trace i w := by
  obtain ⟨life⟩ := life_run ran located
  obtain ⟨calls, successes⟩ := born_calls life.born life.lives
  have recorded := Worker.recorded_run (born_recorded life.born) life.lives
  have issued : trace.countP (heartbeat i) = Worker.issues _ :=
    countP_life (f := Worker.isIssue) rfl rfl ran life
  have answered : trace.countP (confirmed i) = Worker.successes _ :=
    countP_life (f := Worker.isSuccess) rfl rfl ran life
  exact ⟨⟨life⟩, by omega, by rw [recorded.sent, answered], by rw [recorded.sent]; exact successes⟩

/-- A failed call, its repetition, and a guard check for the next one. -/
def beatingTrace : List Action :=
  .call (text "q") true :: claiming 0 (text "m") ++
    [.advance 0 (.start 0 .scheduled), .advance 0 .handOver, .advance 0 .leave, .tick 0 .begin,
      .tick 0 (.check 0), .tick 0 (.issue 0), .tick 0 (.reply (.rpcError .unavailable (text "busy"))),
      .tick 0 (.pause 1), .tick 0 .wake, .tick 0 (.check 3), .tick 0 (.issue 3),
      .tick 0 (.reply (.response running)), .tick 0 (.pause 3), .tick 0 .wake, .tick 0 (.check 4)]

def lastBeat : List Action :=
  [.tick 0 (.issue 4), .tick 0 (.reply (.response running)), .tick 0 (.pause 4), .tick 0 .wake,
    .tick 0 (.check 5), .tick 0 .leave]

theorem workers_governed_beating :
    ∃ s w, run step (create .sync .single false) beatingTrace = some s ∧
      s.heartbeats.objects[0]? = some w ∧ w.sent = 1 ∧
      Governed .sync .single false beatingTrace 0 w := by
  have sent : (run step (create .sync .single false) beatingTrace).bind (fun s =>
      s.heartbeats.objects[0]?.map Worker.sent) = some 1 := by decide +kernel
  obtain ⟨s, ran, here⟩ := Option.bind_eq_some_iff.1 sent
  obtain ⟨w, located, one⟩ := Option.map_eq_some_iff.1 here
  exact ⟨s, w, ran, located, one,
    workers_governed .sync .single false beatingTrace s 0 w ran located⟩

/-! ## After the flag is set -/

theorem stopped_quiet {before after : List Action} {a : Action} {s t : System} {i : Nat}
    {w : Worker} (ran : run step (create kind limits eagerGather) (before ++ a :: after) = some s)
    (reached : run step (create kind limits eagerGather) before = some t)
    (located : t.heartbeats.objects[i]? = some w) (stops : workerSteps i t a = [.stop]) :
    after.countP (heartbeat i) ≤ 1 ∧ (w.pc ≠ .send → after.countP (heartbeat i) = 0) := by
  obtain ⟨t', taken, rest⟩ := run_cons.1 (run_from ran reached)
  have shows : Shows kind limits i t w := ⟨settings_run reached, located⟩
  obtain ⟨w', moved, shows'⟩ := shows_step shows taken
  rw [stops] at moved
  cases moved
  obtain ⟨v, went, -⟩ := run_project (R := Shows kind limits i)
    (fun _ _ _ _ shown moved => shows_step shown moved) shows' rest
  have counted : Worker.issues _ = after.countP (heartbeat i) :=
    countP_after (f := Worker.isIssue) rfl rfl rest i
  rw [← counted]
  exact ⟨Worker.stopped_issues went, fun unsent => Worker.stopped_unsent unsent went⟩

/-- A confirmed acknowledgement, lost ownership or `stop_heartbeat` silences the worker of its claim,
but for a heartbeat that the loop has decided on already. -/
theorem ended_quiet (kind : Kind) (limits : Limits) (eagerGather : Bool) (before after : List Action)
    (operation : Operation) (s t : System) (claim : Claim) (i : Nat) (w : Worker)
    (ran : run step (create kind limits eagerGather) (before ++ .operate operation :: after) = some s)
    (reached : run step (create kind limits eagerGather) before = some t)
    (ends : operation.ended = some claim) (located : t.heartbeats.objects[i]? = some w)
    (claimed : w.claim = claim) (live : w.live = true) :
    after.countP (heartbeat i) ≤ 1 ∧ (w.pc ≠ .send → after.countP (heartbeat i) = 0) := by
  have entry : t.heartbeats.workers.get? claim = some i :=
    ((slots_run reached).sound.mapped claim i).2 ⟨w, located, claimed, live⟩
  exact stopped_quiet ran reached located (by simp [workerSteps, ends, entry])

def acknowledged : Operation :=
  .acknowledgeMessage (text "q") (text "m") (text "w") (text "a") (.response true)

theorem ended_quiet_beating :
    (run step (create .sync .single false)
        (beatingTrace ++ .operate acknowledged :: lastBeat)).isSome ∧
      lastBeat.countP (heartbeat 0) = 1 ∧ lastBeat.countP (heartbeat 0) ≤ 1 := by
  refine ⟨by decide +kernel, by decide +kernel, ?_⟩
  obtain ⟨s, ran⟩ := Option.isSome_iff_exists.1
    (show (run step (create .sync .single false)
      (beatingTrace ++ .operate acknowledged :: lastBeat)).isSome from by decide +kernel)
  have facts : (run step (create .sync .single false) beatingTrace).any (fun t =>
      t.heartbeats.objects[0]?.any fun w => w.claim = .sample && w.live) := by decide +kernel
  obtain ⟨t, reached, here⟩ := (Option.any_eq_true _ _).1 facts
  obtain ⟨w, located, traits⟩ := (Option.any_eq_true _ _).1 here
  simp only [Bool.and_eq_true, decide_eq_true_eq] at traits
  exact (ended_quiet .sync .single false beatingTrace lastBeat acknowledged s t .sample 0 w ran
    reached rfl located traits.1 traits.2).1

/-! ## After `close` -/

def sendsHeartbeat : Action → Bool
  | .tick _ (.issue _) => true
  | _ => false

def Shut (n : Nat) (s : System) : Prop :=
  s.heartbeats.closed = true ∧
    ∀ i w, n ≤ i → s.heartbeats.objects[i]? = some w → w.pc = .unscheduled

theorem shut_step {n : Nat} {s s' : System} {a : Action} (shut : s.Shut n)
    (taken : s.step a = some s') : s'.Shut n := by
  obtain ⟨closed, dormant⟩ := shut
  refine ⟨closed_step closed taken, ?_⟩
  intro i w beyond located
  cases place : s.heartbeats.objects[i]? with
  | none =>
      obtain ⟨j, now, submit, claim, -, -, unscheduled⟩ := new_worker taken place located
      exact unscheduled closed
  | some v =>
      have shows : Shows s.heartbeats.kind s.heartbeats.limits i s v := ⟨rfl, place⟩
      obtain ⟨w', moved, -, here⟩ := shows_step shows taken
      rw [located] at here
      cases here
      exact invariant (I := fun w : Worker => w.pc = .unscheduled)
        (fun _ _ _ held taken => (Worker.dormant_step held taken).1) (dormant i v beyond place) moved

theorem shut_ticks {n : Nat} {s s' : System} {trace : List Action} (shut : s.Shut n)
    (ran : run step s trace = some s') : ∀ k t, .tick k t ∈ trace → k < n := by
  intro k t member
  obtain ⟨before, after, rfl⟩ := List.append_of_mem member
  obtain ⟨r, r', reached, taken, -⟩ := run_through ran
  have still := invariant (I := Shut n) (fun _ _ _ => shut_step) shut reached
  by_contra beyond
  simp only [step] at taken
  split at taken
  · cases taken
  · obtain ⟨v, v', place, stepped, -⟩ := Heartbeats.tick_objects (tick_frame taken).1
    exact (Worker.tick_launched stepped).1 (still.2 k v (Nat.not_lt.1 beyond) place)

theorem launched_registered {trace : List Action} {s : System} {i : Nat} {w : Worker}
    (ran : run step (create kind limits eagerGather) trace = some s)
    (scheduled : ∀ a ∈ trace, late a = false) (located : s.heartbeats.objects[i]? = some w)
    (launched : w.pc ≠ .unscheduled) : w.registered = true := by
  obtain ⟨before, owner, now, submit, after, parent, birth, claim, first, rfl, -, -, -, born, lives⟩ :=
    (life_run ran located).some
  have timely : submit.late = false := scheduled (.advance owner (.start now submit)) (by simp)
  have kept : w.registered = first.registered :=
    invariant (I := fun w : Worker => w.registered = first.registered)
      (fun w a w' same taken => by
        cases a with
        | stop =>
            cases taken
            exact same
        | tick t => exact (Worker.tick_keeps taken).2.2.2.1.trans same) rfl lives
  cases born with
  | launched future registered registering =>
      rw [timely] at registering
      rcases registering with done | never
      · exact kept.trans done
      · cases never
  | dormant registered =>
      exact (launched (invariant (I := fun w : Worker => w.pc = .unscheduled)
        (fun _ _ _ held taken => (Worker.dormant_step held taken).1) rfl lives)).elim

theorem idle_silent {trace : List Action} {s s' : System} {i : Nat} {w : Worker}
    (located : s.heartbeats.objects[i]? = some w) (idle : w.pc = .unscheduled ∨ Worker.Left w)
    (ran : run step s trace = some s') : trace.countP (heartbeat i) = 0 := by
  obtain ⟨v, went, -⟩ :=
    run_project (R := Shows s.heartbeats.kind s.heartbeats.limits i)
      (fun _ _ _ _ shown moved => shows_step shown moved) ⟨rfl, located⟩ ran
  have counted : Worker.issues _ = trace.countP (heartbeat i) :=
    countP_after (f := Worker.isIssue) rfl rfl ran i
  rw [← counted]
  rcases idle with dormant | left
  · exact (Worker.dormant_counts dormant went).1
  · exact Worker.left_issues left went

theorem closed_shut (s : System) (trace : List Action) {s' : System}
    (ran : run step s (.close :: trace) = some s') :
    ∀ k t, .tick k t ∈ trace → ∃ w, s.heartbeats.objects[k]? = some w := by
  obtain ⟨t, taken, rest⟩ := run_cons.1 ran
  have shut : t.Shut s.heartbeats.objects.length := by
    refine ⟨?_, ?_⟩
    · cases taken
      exact Heartbeats.closed_beginClose s.heartbeats
    · intro i w beyond located
      obtain ⟨j, now, submit, claim, never, -⟩ :=
        new_worker taken (List.getElem?_eq_none beyond) located
      cases never
  intro k u member
  exact ⟨_, List.getElem?_eq_getElem (shut_ticks shut rest k u member)⟩

structure Silenced (t : System) (after : List Action) : Prop where
  each : ∀ i, after.countP (heartbeat i) ≤ 1
  others : ∀ i, (∀ w, t.heartbeats.objects[i]? = some w → w.live = false) →
    after.countP (heartbeat i) = 0
  total : after.countP sendsHeartbeat ≤ t.heartbeats.objects.countP Worker.live

theorem unlisted_silent {before after : List Action} {s t : System}
    (ran : run step (create kind limits eagerGather) (before ++ .close :: after) = some s)
    (reached : run step (create kind limits eagerGather) before = some t)
    (scheduled : ∀ a ∈ before, late a = false) {i : Nat}
    (dead : ∀ w, t.heartbeats.objects[i]? = some w → w.live = false) :
    after.countP (heartbeat i) = 0 := by
  have rest := run_from ran reached
  cases located : t.heartbeats.objects[i]? with
  | none =>
      rw [List.countP_eq_zero]
      intro a member sends
      cases a with
      | tick k u =>
          obtain ⟨w, place⟩ := closed_shut t after rest k u member
          simp only [heartbeat, stepOf, Bool.and_eq_true, decide_eq_true_eq] at sends
          rw [sends.1, located] at place
          cases place
      | _ => cases sends
  | some w =>
      have idle : w.pc = .unscheduled ∨ Worker.Left w := by
        by_cases dormant : w.pc = .unscheduled
        · exact .inl dormant
        · have registered := launched_registered reached scheduled located dormant
          have ended := dead w located
          simp only [Worker.live, registered, Bool.true_and, Bool.not_eq_false'] at ended
          exact .inr (.inr (((slots_run reached).sound.formed i w located).finished_done ended))
      have all := idle_silent located idle rest
      rwa [List.countP_cons_of_neg (by simp [heartbeat, stepOf])] at all

theorem silenced_of {before after : List Action} {s t : System}
    (ran : run step (create kind limits eagerGather) (before ++ .close :: after) = some s)
    (reached : run step (create kind limits eagerGather) before = some t)
    (scheduled : ∀ a ∈ before, late a = false) : Silenced t after := by
  have mapped := (slots_run reached).sound.mapped
  have quiet : ∀ i, i ∉ t.heartbeats.workers.values → after.countP (heartbeat i) = 0 := by
    intro i unlisted
    apply unlisted_silent ran reached scheduled
    intro w located
    by_contra alive
    exact unlisted (Dict.mem_values.2
      ⟨w.claim, (mapped w.claim i).2 ⟨w, located, rfl, by simpa using alive⟩⟩)
  have once : ∀ i ∈ t.heartbeats.workers.values, after.countP (heartbeat i) ≤ 1 := by
    intro i listed
    obtain ⟨claim, entry⟩ := Dict.mem_values.1 listed
    obtain ⟨w, located, -, -⟩ := (mapped claim i).1 entry
    exact (stopped_quiet ran reached located (by simp [workerSteps, listed])).1
  refine ⟨?_, fun i dead => unlisted_silent ran reached scheduled dead, ?_⟩
  · intro i
    by_cases listed : i ∈ t.heartbeats.workers.values
    · exact once i listed
    · rw [quiet i listed]
      exact Nat.zero_le 1
  · have owned : ∀ a ∈ after, (if sendsHeartbeat a then 1 else 0) =
        ∑ i ∈ Finset.range t.heartbeats.objects.length, if heartbeat i a then 1 else 0 := by
      intro a member
      cases a with
      | tick k u =>
          obtain ⟨w, place⟩ := closed_shut t after (run_from ran reached) k u member
          have inside := (List.getElem?_eq_some_iff.1 place).1
          cases u with
          | issue now => simp [sendsHeartbeat, heartbeat, stepOf, Worker.isIssue, inside]
          | _ => simp [sendsHeartbeat, heartbeat, stepOf, Worker.isIssue]
      | _ => simp [sendsHeartbeat, heartbeat, stepOf]
    calc after.countP sendsHeartbeat
        = ∑ i ∈ Finset.range t.heartbeats.objects.length, after.countP (heartbeat i) :=
          countP_eq_sum owned
      _ ≤ 1 * t.heartbeats.workers.values.length := sum_le_chosen once quiet
      _ = t.heartbeats.objects.countP Worker.live := by
          rw [Nat.one_mul, Dict.values, List.length_map]
          exact Heartbeats.entries_live mapped

/-- `close` stops the traffic of all workers at once: no more calls are still to come than workers
were alive, and where no `create_task` raised that is at most the capacity. -/
theorem close_silences (kind : Kind) (limits : Limits) (eagerGather : Bool)
    (before after : List Action) (s t : System)
    (ran : run step (create kind limits eagerGather) (before ++ .close :: after) = some s)
    (reached : run step (create kind limits eagerGather) before = some t)
    (scheduled : ∀ a ∈ before, late a = false) :
    Silenced t after ∧
      (Along step (fun s a => s.taskLost a = false) (create kind limits eagerGather) before →
        after.countP sendsHeartbeat ≤ limits.capacity) := by
  have silenced := silenced_of ran reached scheduled
  refine ⟨silenced, fun guarded => ?_⟩
  obtain ⟨slots, owned⟩ := owned_run reached
    (Along.of_forall (C := fun a => late a = false) scheduled) guarded
  have accounting : SlotAccounting limits t :=
    slotAccounting_of slots owned (congrArg Prod.snd (settings_run reached))
  have total := silenced.total
  have balance := accounting.reservations
  have within := accounting.within
  omega

theorem close_silences_beating :
    ∃ t, run step (create .sync .single false) beatingTrace = some t ∧
      lastBeat.countP sendsHeartbeat = 1 ∧ Silenced t lastBeat ∧
      lastBeat.countP sendsHeartbeat ≤ Limits.single.capacity := by
  obtain ⟨s, ran⟩ := Option.isSome_iff_exists.1
    (show (run step (create .sync .single false) (beatingTrace ++ .close :: lastBeat)).isSome from
      by decide +kernel)
  obtain ⟨t, reached⟩ := Option.isSome_iff_exists.1
    (show (run step (create .sync .single false) beatingTrace).isSome from by decide +kernel)
  obtain ⟨silenced, within⟩ := close_silences .sync .single false beatingTrace lastBeat s t ran
    reached (by decide +kernel)
  exact ⟨t, reached, by decide +kernel, silenced, within (by decide +kernel)⟩

/-! ## The report -/

structure Truthful (kind : Kind) (limits : Limits) (eagerGather : Bool) (trace : List Action)
    (clock : Claim → ℚ) (i : Nat) (w : Worker) (key : Claim) (stats : Stats) : Prop where
  live : w.live = true
  claim : w.claim = key
  stats : ∃ life : Life kind limits eagerGather trace i w, life.claim = key ∧
    let seen := project step (workerSteps i) life.birth life.after
    stats = ⟨key.toDict, trace.countP (confirmed i), (Worker.failures seen).length,
      (Worker.failures seen).getLast?, clock key - life.now⟩

theorem born_identity {submit : Submit} {claim : Claim} {now : ℚ} {owner : Nat} {first w : Worker}
    {trace : List Worker.Action} (born : Born submit claim now owner first)
    (ran : run (Worker.step kind limits) first trace = some w) :
    w.claim = claim ∧ w.started = now := by
  refine invariant (I := fun w : Worker => w.claim = claim ∧ w.started = now) ?_ ?_ ran
  · rintro w a w' ⟨rfl, rfl⟩ taken
    cases a with
    | stop =>
        cases taken
        exact ⟨rfl, rfl⟩
    | tick t => exact ⟨(Worker.tick_keeps taken).1, Worker.tick_started taken⟩
  · cases born <;> exact ⟨rfl, rfl⟩

theorem entry_truthful {trace : List Action} {s : System} {clock : Claim → ℚ} {claim : Claim}
    {stats : Stats} (ran : run step (create kind limits eagerGather) trace = some s)
    (member : (claim, stats) ∈ s.heartbeats.snapshot clock) :
    ∃ i w, s.heartbeats.objects[i]? = some w ∧
      Truthful kind limits eagerGather trace clock i w claim stats := by
  obtain ⟨i, w, entry, located, rfl⟩ := Heartbeats.mem_snapshot.1 member
  obtain ⟨v, place, claimed, live⟩ := ((slots_run ran).sound.mapped claim i).1 entry
  rw [located] at place
  cases place
  obtain ⟨life⟩ := life_run ran located
  obtain ⟨own, started⟩ := born_identity life.born life.lives
  have recorded := Worker.recorded_run (born_recorded life.born) life.lives
  have answered : trace.countP (confirmed i) = Worker.successes _ :=
    countP_life (f := Worker.isSuccess) rfl rfl ran life
  refine ⟨i, w, located, live, claimed, life, own.symm.trans claimed, ?_⟩
  simp only [Stats.mk.injEq]
  exact ⟨trivial, recorded.sent.trans answered.symm, recorded.failed, recorded.lastError, by rw [started]⟩

/-- Each live worker has one entry, and no entry is without one. -/
theorem snapshot_truthful (kind : Kind) (limits : Limits) (eagerGather : Bool) (trace : List Action)
    (s : System) (clock : Claim → ℚ)
    (ran : run step (create kind limits eagerGather) trace = some s) :
    (∀ claim stats, (claim, stats) ∈ s.heartbeats.snapshot clock → ∃ i w,
      s.heartbeats.objects[i]? = some w ∧
        Truthful kind limits eagerGather trace clock i w claim stats) ∧
    (∀ (i : Nat) (w : Worker), s.heartbeats.objects[i]? = some w → w.live = true →
      ∃ stats, (w.claim, stats) ∈ s.heartbeats.snapshot clock) ∧
    ((s.heartbeats.snapshot clock).map Prod.fst).Nodup ∧
    s.heartbeats.activeCount = s.heartbeats.objects.countP Worker.live := by
  have mapped := (slots_run ran).sound.mapped
  refine ⟨fun claim stats => entry_truthful ran, ?_, ?_, Heartbeats.activeCount_live mapped⟩
  · intro i w located live
    have entry := (mapped w.claim i).2 ⟨w, located, rfl, live⟩
    exact ⟨_, Heartbeats.mem_snapshot.2 ⟨i, w, entry, located, rfl⟩⟩
  · rw [Heartbeats.snapshot_keys mapped]
    exact s.heartbeats.workers.nodup

theorem snapshot_truthful_beating :
    ∃ s stats i w, run step (create .sync .single false) beatingTrace = some s ∧
      s.heartbeats.snapshot (fun _ => 5) = [(Claim.sample, stats)] ∧
      stats = ⟨Claim.sample.toDict, 1, 1, some (text "busy"), 5⟩ ∧
      Truthful .sync .single false beatingTrace (fun _ => 5) i w Claim.sample stats := by
  have facts : (run step (create .sync .single false) beatingTrace).map (fun s =>
      s.heartbeats.snapshot fun _ => 5) =
      some [(Claim.sample, ⟨Claim.sample.toDict, 1, 1, some (text "busy"), 5⟩)] := by
    decide +kernel
  obtain ⟨s, ran, report⟩ := Option.map_eq_some_iff.1 facts
  obtain ⟨entries, -⟩ := snapshot_truthful .sync .single false beatingTrace s (fun _ => 5) ran
  obtain ⟨i, w, -, truthful⟩ := entries Claim.sample _ (by rw [report]; exact List.mem_singleton_self _)
  exact ⟨s, _, i, w, ran, report, rfl, truthful⟩

end System

end Nzovu
