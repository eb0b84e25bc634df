import Nzovu.Client.Admission
import Nzovu.Library.Projection

/-!
# What one worker sees of a client

Calls, closes, callbacks of the event loop and other workers interleave with the steps of a worker.
For the worker they amount to a run of its own, in which somebody sets its stop flag now and then.
What holds of every run of a worker therefore holds of every worker of every client.
-/

namespace Nzovu
open Tally Transition
open Worker (Tick)

namespace System

/-- What a step of the client is for the worker with number `i`. -/
def workerSteps (i : Nat) (s : System) : Action → List Worker.Action
  | .tick k t => if k = i then [.tick t] else []
  | .callback =>
      match s.ready with
      | .finish k :: _ => if k = i then [.tick .doneCallback] else []
      | _ => []
  | .operate operation =>
      if operation.ended.any fun claim => s.heartbeats.workers.get? claim = some i then [.stop]
      else []
  | .close => if i ∈ s.heartbeats.workers.values then [.stop] else []
  | _ => []

def Shows (kind : Kind) (limits : Limits) (i : Nat) (s : System) (w : Worker) : Prop :=
  s.heartbeats.settings = (kind, limits) ∧ s.heartbeats.objects[i]? = some w

/-- A worker as `start` leaves it. Without an entry in the map only a worker runs whose work item a
failing `submit` has queued. -/
inductive Born (submit : Submit) (claim : Claim) (now : ℚ) (owner : Nat) : Worker → Prop
  | launched (future : Option Nat) (registered : Bool)
      (kept : registered = true ∨ submit.late = true) :
      Born submit claim now owner ((Worker.create claim now owner).launch future registered)
  | dormant (registered : Bool) :
      Born submit claim now owner { Worker.create claim now owner with registered }

end System

namespace Heartbeats

theorem start_born (h : Heartbeats) (claim : Claim) (now : ℚ) (owner : Nat) (submit : Submit) :
    ∃ w, (h.start claim now owner submit).1.objects = h.objects ++ [w] ∧
      System.Born submit claim now owner w ∧ (h.closed = true → w.pc = .unscheduled) := by
  rcases start_cases h claim now owner submit with
    ⟨-, e, same⟩ | ⟨⟨isOpen, -⟩, ⟨-, same⟩ | ⟨e, -, -, same⟩ | ⟨e, -, -, same⟩ | ⟨e, late, same⟩⟩
  · exact ⟨_, by rw [same]; rfl, .dormant false, fun _ => rfl⟩
  · exact ⟨_, by rw [same]; rfl, .launched _ true (.inl rfl), by simp [isOpen]⟩
  · exact ⟨_, by rw [same]; rfl, .dormant false, fun _ => rfl⟩
  · exact ⟨_, by rw [same]; rfl, .dormant true, fun _ => rfl⟩
  · exact ⟨_, by rw [same]; rfl, .launched none false (.inr (by rw [late]; rfl)), by simp [isOpen]⟩

end Heartbeats

namespace Call

theorem objects_getNextMessage {h h' : Heartbeats} {j : Nat} {c c' : Call} {s : CallStep}
    (taken : c.getNextMessage h j s = some (h', c')) :
    h'.objects = h.objects ∨ ∃ now submit claim w, s = .start now submit ∧
      h'.objects = h.objects ++ [w] ∧ System.Born submit claim now j w ∧
        (h.closed = true → w.pc = .unscheduled) := by
  rcases registry_getNextMessage taken with
    rfl | made | rfl | ⟨now, submit, claim, rfl, -, -, rfl⟩
  · exact .inl rfl
  · obtain ⟨-, -, rfl⟩ := Heartbeats.reserve_ok made
    exact .inl rfl
  · exact .inl rfl
  · obtain ⟨w, objects, born, shut⟩ := h.start_born claim now j submit
    exact .inr ⟨now, submit, claim, w, rfl, objects, born, shut⟩

end Call

namespace System

variable {kind : Kind} {limits : Limits}

theorem shows_ticked {s s' : System} {i k : Nat} {t : Tick} {w : Worker}
    (shows : Shows kind limits i s w) (ticked : s.heartbeats.tick k t = some s'.heartbeats) :
    ∃ w', run (Worker.step kind limits) w (if k = i then [.tick t] else []) = some w' ∧
      Shows kind limits i s' w' := by
  obtain ⟨settings, located⟩ := shows
  have kept := (Heartbeats.settings_tick ticked).trans settings
  obtain ⟨v, v', place, stepped, objects⟩ := Heartbeats.tick_objects ticked
  simp only [Heartbeats.settings, Prod.mk.injEq] at settings
  by_cases here : k = i
  · subst here
    rw [located] at place
    cases place
    refine ⟨v', ?_, kept, ?_⟩
    · rw [if_pos rfl]
      exact run_cons.2 ⟨v', by rw [← settings.1, ← settings.2]; exact stepped, rfl⟩
    · rw [objects]
      exact (located_set located).2 (.inl ⟨rfl, rfl⟩)
  · refine ⟨w, by rw [if_neg here]; rfl, kept, ?_⟩
    rw [objects]
    exact (located_set place).2 (.inr ⟨Ne.symm here, located⟩)

theorem shows_flagged {s s' : System} {i : Nat} {w : Worker} {p : Prop} [Decidable p]
    (shows : Shows kind limits i s w) (settings : s'.heartbeats.settings = s.heartbeats.settings)
    (flags : s'.heartbeats.objects[i]? =
      s.heartbeats.objects[i]?.map fun w => if p then w.signalled else w) :
    ∃ w', run (Worker.step kind limits) w (if p then [.stop] else []) = some w' ∧
      Shows kind limits i s' w' := by
  obtain ⟨before, located⟩ := shows
  rw [located, Option.map_some] at flags
  refine ⟨if p then w.signalled else w, ?_, settings.trans before, flags⟩
  by_cases hit : p
  · simp only [if_pos hit]
    exact run_cons.2 ⟨w.signalled, rfl, rfl⟩
  · simp only [if_neg hit]
    rfl

theorem shows_unmoved {s s' : System} {i : Nat} {w : Worker} (shows : Shows kind limits i s w)
    (same : s'.heartbeats = s.heartbeats) :
    ∃ w', run (Worker.step kind limits) w [] = some w' ∧ Shows kind limits i s' w' :=
  ⟨w, rfl, by rw [Shows, same]; exact shows⟩

theorem stop_flags (h : Heartbeats) (claim : Claim) (i : Nat) :
    (h.stop claim).1.objects[i]? =
      h.objects[i]?.map fun w => if h.workers.get? claim = some i then w.signalled else w := by
  unfold Heartbeats.stop
  split
  · rename_i absent
    simp [absent]
  · rename_i k entry
    rw [Heartbeats.signal_at, entry]
    simp [eq_comm]

theorem shows_step {i : Nat} {s s' : System} {a : Action} {w : Worker}
    (shows : Shows kind limits i s w) (taken : s.step a = some s') :
    ∃ w', run (Worker.step kind limits) w (workerSteps i s a) = some w' ∧ Shows kind limits i s' w' := by
  have settings := settings_step taken
  cases a with
  | call queueName enableHeartbeat =>
      cases taken
      exact shows_unmoved shows rfl
  | advance j st =>
      obtain ⟨c, place, moved⟩ := Option.bind_eq_some_iff.1 taken
      obtain ⟨⟨h, c'⟩, made, rfl⟩ := Option.map_eq_some_iff.1 moved
      obtain ⟨before, located⟩ := shows
      refine ⟨w, rfl, settings.trans before, ?_⟩
      rcases Call.objects_getNextMessage made with same | ⟨now, submit, claim, v, rfl, grown, -⟩
      · rw [same]
        exact located
      · rw [grown]
        exact located_append.2 (.inl located)
  | tick k t =>
      simp only [step] at taken
      split at taken
      · cases taken
      · exact shows_ticked shows (tick_frame taken).1
  | callback =>
      simp only [step] at taken
      split at taken
      · cases taken
      · rename_i next rest waiting
        simp only [workerSteps, waiting]
        cases next with
        | finish k =>
            obtain ⟨h, ticked, rfl⟩ := Option.map_eq_some_iff.1 taken
            exact shows_ticked shows ticked
        | gathered k j =>
            obtain ⟨c, -, rfl⟩ := Option.map_eq_some_iff.1 taken
            exact shows_unmoved shows rfl
  | operate operation =>
      cases taken
      refine shows_flagged shows settings ?_
      change (s.heartbeats.perform operation).objects[i]? = _
      rw [Heartbeats.perform_spec]
      cases operation.ended with
      | none => simp
      | some claim =>
          rw [stop_flags]
          simp
  | close =>
      cases taken
      refine shows_flagged shows settings ?_
      obtain ⟨objects, same, flags⟩ :=
        Heartbeats.foldl_signal { s.heartbeats with closed := true } s.heartbeats.workers.values
      simp only [Heartbeats.beginClose, same]
      exact flags i
  | closing k st =>
      obtain ⟨c, -, taken⟩ := Option.bind_eq_some_iff.1 taken
      exact shows_unmoved shows (closing_frame taken).1

/-! ## Every run -/

/-- How the worker with number `i` of a run came to be `w`: a `start` of the run made it, and from
then on it took the steps that it saw. -/
structure Life (kind : Kind) (limits : Limits) (eagerGather : Bool) (trace : List Action) (i : Nat)
    (w : Worker) where
  before : List Action
  owner : Nat
  now : ℚ
  submit : Submit
  after : List Action
  parent : System
  birth : System
  claim : Claim
  first : Worker
  split : trace = before ++ .advance owner (.start now submit) :: after
  reached : run step (create kind limits eagerGather) before = some parent
  absent : parent.heartbeats.objects[i]? = none
  taken : step parent (.advance owner (.start now submit)) = some birth
  born : Born submit claim now owner first
  lives : run (Worker.step kind limits) first (project step (workerSteps i) birth after) = some w

theorem Life.later {eagerGather : Bool} {trace : List Action} {i : Nat} {w : Worker} {s : System}
    (life : Life kind limits eagerGather trace i w)
    (ran : run step (create kind limits eagerGather) trace = some s) :
    run step life.birth life.after = some s := by
  have whole := ran
  rw [life.split] at whole
  obtain ⟨t, taken, rest⟩ := run_cons.1 (run_from whole life.reached)
  rw [life.taken] at taken
  cases taken
  exact rest

theorem new_worker {s s' : System} {a : Action} {i : Nat} {w : Worker}
    (taken : s.step a = some s') (absent : s.heartbeats.objects[i]? = none)
    (located : s'.heartbeats.objects[i]? = some w) :
    ∃ j now submit claim, a = .advance j (.start now submit) ∧ Born submit claim now j w ∧
      (s.heartbeats.closed = true → w.pc = .unscheduled) := by
  have unflagged : ¬ s.heartbeats.Flagged s'.heartbeats := by
    rintro ⟨numbers, objects, closed, same, -, flags⟩
    have place := flags i
    rw [absent, ← show s'.heartbeats.objects = objects by rw [same], located] at place
    cases place
  cases effect taken with
  | called heartbeats calls => exact (unflagged (heartbeats ▸ Heartbeats.flagged_refl _)).elim
  | advanced place made calls =>
      rename_i j st c c'
      rcases Call.objects_getNextMessage made with same | ⟨now, submit, claim, v, rfl, grown, born, shut⟩
      · rw [same, absent] at located
        cases located
      · rw [grown] at located
        rcases located_append.1 located with old | ⟨-, rfl⟩
        · rw [absent] at old
          cases old
        · exact ⟨j, now, submit, claim, rfl, born, shut⟩
  | ticked shape ticked calls =>
      obtain ⟨v, v', place, stepped, objects⟩ := Heartbeats.tick_objects ticked
      rw [objects] at located
      rcases (located_set place).1 located with ⟨rfl, -⟩ | ⟨-, old⟩
      · rw [absent] at place
        cases place
      · rw [absent] at old
        cases old
  | operated heartbeats calls => exact (unflagged (heartbeats ▸ flagged_perform _ _)).elim
  | closed heartbeats calls =>
      exact (unflagged (heartbeats ▸ Heartbeats.flagged_beginClose _)).elim
  | still shape heartbeats calls =>
      exact (unflagged (heartbeats ▸ Heartbeats.flagged_refl _)).elim

theorem life_step {eagerGather : Bool} {past : List Action} {s s' : System} {a : Action}
    (reached : run step (create kind limits eagerGather) past = some s)
    (lives : ∀ i w, s.heartbeats.objects[i]? = some w →
      Nonempty (Life kind limits eagerGather past i w))
    (taken : s.step a = some s') (i : Nat) (w : Worker)
    (located : s'.heartbeats.objects[i]? = some w) :
    Nonempty (Life kind limits eagerGather (past ++ [a]) i w) := by
  cases place : s.heartbeats.objects[i]? with
  | none =>
      obtain ⟨j, now, submit, claim, rfl, born, -⟩ := new_worker taken place located
      exact ⟨⟨past, j, now, submit, [], s, s', claim, w, rfl, reached, place, taken, born, rfl⟩⟩
  | some v =>
      obtain ⟨life⟩ := lives i v place
      have shows : Shows kind limits i s v := ⟨settings_run reached, place⟩
      obtain ⟨w', moved, settings, here⟩ := shows_step shows taken
      rw [located] at here
      cases here
      exact ⟨{ life with
        after := life.after ++ [a]
        split := by simp [life.split]
        lives := by
          rw [project_snoc (life.later reached)]
          exact run_append.2 ⟨v, life.lives, moved⟩ }⟩

theorem life_run {eagerGather : Bool} {trace : List Action} {s : System}
    (ran : run step (create kind limits eagerGather) trace = some s) {i : Nat} {w : Worker}
    (located : s.heartbeats.objects[i]? = some w) :
    Nonempty (Life kind limits eagerGather trace i w) := by
  have all := invariant_trace (I := fun past s =>
      run step (create kind limits eagerGather) past = some s ∧
        ∀ i w, s.heartbeats.objects[i]? = some w →
          Nonempty (Life kind limits eagerGather past i w))
    (fun past s a s' held taken =>
      ⟨run_append.2 ⟨s, held.1, run_cons.2 ⟨s', taken, rfl⟩⟩, life_step held.1 held.2 taken⟩)
    ⟨rfl, fun i w located => by cases located⟩ ran
  exact all.2 i w located

/-! ## What the whole run contains of a worker -/

def stepOf (p : Tick → Bool) (i : Nat) : Action → Bool
  | .tick k t => decide (k = i) && p t
  | _ => false

def heartbeat (i : Nat) : Action → Bool :=
  stepOf (fun t => Worker.isIssue (.tick t)) i

def confirmed (i : Nat) : Action → Bool :=
  stepOf (fun t => Worker.isSuccess (.tick t)) i

theorem present_step {s s' : System} {a : Action} {i : Nat} (taken : s.step a = some s')
    (present : ∃ w, s.heartbeats.objects[i]? = some w) :
    ∃ w, s'.heartbeats.objects[i]? = some w := by
  obtain ⟨w, located⟩ := present
  have shows : Shows s.heartbeats.kind s.heartbeats.limits i s w := ⟨rfl, located⟩
  obtain ⟨w', -, -, here⟩ := shows_step shows taken
  exact ⟨w', here⟩

theorem ticked_present {s s' : System} {trace : List Action} (ran : run step s trace = some s')
    {k : Nat} {t : Tick} (member : .tick k t ∈ trace) :
    ∃ w, s'.heartbeats.objects[k]? = some w := by
  obtain ⟨before, after, rfl⟩ := List.append_of_mem member
  obtain ⟨r, r', -, taken, rest⟩ := run_through ran
  refine invariant (I := fun r => ∃ w, r.heartbeats.objects[k]? = some w)
    (fun _ _ _ present taken => present_step taken present) ?_ rest
  simp only [step] at taken
  split at taken
  · cases taken
  · obtain ⟨v, v', place, -, objects⟩ := Heartbeats.tick_objects (tick_frame taken).1
    exact ⟨v', by rw [objects]; exact (located_set place).2 (.inl ⟨rfl, rfl⟩)⟩

section Counts
variable {f : Worker.Action → Bool} (silent : f .stop = false)
  (unscheduled : f (.tick .doneCallback) = false)
include silent unscheduled

theorem countP_workerSteps (i : Nat) (s : System) (a : Action) :
    (workerSteps i s a).countP f = if stepOf (fun t => f (.tick t)) i a then 1 else 0 := by
  cases a with
  | tick k t => by_cases here : k = i <;> simp [workerSteps, stepOf, here]
  | callback =>
      simp only [workerSteps]
      split
      · split <;> simp [stepOf, unscheduled]
      · rfl
  | operate operation =>
      simp only [workerSteps]
      split <;> simp [stepOf, silent]
  | close =>
      simp only [workerSteps]
      split <;> simp [stepOf, silent]
  | call | advance | closing => rfl

theorem countP_after {s s' : System} {trace : List Action} (ran : run step s trace = some s')
    (i : Nat) :
    (project step (workerSteps i) s trace).countP f = trace.countP (stepOf (fun t => f (.tick t)) i) :=
  countP_project (fun t a _ _ _ _ => countP_workerSteps silent unscheduled i t a) ran

theorem countP_life {eagerGather : Bool} {trace : List Action} {s : System} {i : Nat} {w : Worker}
    (ran : run step (create kind limits eagerGather) trace = some s)
    (life : Life kind limits eagerGather trace i w) :
    trace.countP (stepOf (fun t => f (.tick t)) i) =
      (project step (workerSteps i) life.birth life.after).countP f := by
  have unborn : life.before.countP (stepOf (fun t => f (.tick t)) i) = 0 := by
    rw [List.countP_eq_zero]
    intro a member met
    cases a with
    | tick k t =>
        simp only [stepOf, Bool.and_eq_true, decide_eq_true_eq] at met
        obtain ⟨rfl, -⟩ := met
        obtain ⟨v, place⟩ := ticked_present life.reached member
        rw [life.absent] at place
        cases place
    | _ => cases met
  rw [countP_after silent unscheduled (life.later ran)]
  calc trace.countP (stepOf (fun t => f (.tick t)) i)
      = (life.before ++ .advance life.owner (.start life.now life.submit) :: life.after).countP
          (stepOf (fun t => f (.tick t)) i) := congrArg _ life.split
    _ = life.after.countP (stepOf (fun t => f (.tick t)) i) := by
        rw [List.countP_append, unborn, List.countP_cons]
        simp [stepOf]

end Counts

end System

end Nzovu
