import Nzovu.Client.EventLoop

/-!
# Shutdown

`begin_close` shuts the registry for good and collects the futures of the workers that live. When
`join` returns, these futures are done and their workers have executed `finish`.
-/

namespace Nzovu
open Tally Transition Queue
open Worker (Tick)

namespace System

structure Closing (s : System) : Prop where
  quiet : s.heartbeats.kind = .sync → s.ready = []
  loop : s.heartbeats.kind = .async → s.Loop
  place : ∀ (k : Nat) (c : Close), s.closes[k]? = some c → c.Place s.view k
  closed : s.closes ≠ [] → s.heartbeats.closed = true
  listed : ∀ (k : Nat) (c : Close), s.closes[k]? = some c → ∀ (i : Nat) (w : Worker),
    s.heartbeats.objects[i]? = some w → w.live = true → w.stop = true ∧ w.future ∈ c.futures

theorem closes_ne_nil {s : System} {k : Nat} {c : Close} (located : s.closes[k]? = some c) :
    s.closes ≠ [] := by
  intro empty
  rw [empty] at located
  cases located

theorem Closing.listed_survive {s : System} {h : Heartbeats} (closing : s.Closing)
    (survive : s.heartbeats.Survive h) {k : Nat} {c : Close} (located : s.closes[k]? = some c)
    {i : Nat} {w : Worker} (place : h.objects[i]? = some w) (live : w.live = true) :
    w.stop = true ∧ w.future ∈ c.futures := by
  obtain ⟨v, before, alive, -, future, stop⟩ := survive i w place live
  obtain ⟨stopped, listed⟩ := closing.listed k c located i v before alive
  exact ⟨stop stopped, future ▸ listed⟩

theorem closing_setClose {s : System} {k : Nat} {c c' : Close} (closing : s.Closing)
    (located : s.closes[k]? = some c) (futures : c'.futures = c.futures)
    (past : c.begun = true → c'.begun = true) (place : c'.Place s.view k) :
    (s.setClose k c').Closing := by
  refine ⟨closing.quiet, ?_, ?_, ?_, ?_⟩
  · exact fun async => (closing.loop async).transfer rfl (begun_setClose located past)
  · intro m d there
    rcases (located_set located).1 there with ⟨rfl, rfl⟩ | ⟨-, there⟩
    · exact place
    · exact closing.place m d there
  · exact fun _ => closing.closed (closes_ne_nil located)
  · intro m d there
    rcases (located_set located).1 there with ⟨rfl, rfl⟩ | ⟨-, there⟩
    · rw [futures]
      exact closing.listed m c located
    · exact closing.listed m d there

/-- The `gather` finds all its tasks done, and the `finish` of one of them has not run. -/
def gatherSkips (s : System) : Action → Bool
  | .closing k .join =>
      decide (s.heartbeats.kind = .async) && s.eagerGather && s.closes[k]?.any fun c =>
        (match c.phase with
          | .join _ => true
          | _ => false) &&
        c.futures.all (fun future => future.any s.heartbeats.isDone) &&
        c.futures.any fun future => future.any fun i => !s.heartbeats.isFinished i
  | _ => false

theorem closing_extend {s : System} {k : Nat} {c c' : Close} {registered : List (Nat × Nat)}
    {ready : List Callback} (calls : List Callback) (async : s.heartbeats.kind = .async)
    (closing : s.Closing)
    (located : s.closes[k]? = some c) (futures : c'.futures = c.futures)
    (split : ready = s.ready ++ calls) (own : ∀ g ∈ registered, g.2 = k)
    (done : ∀ x ∈ calls, ∃ i, x = .gathered k i ∧ s.heartbeats.isDone i = true)
    (distinct : (s.gathers ++ registered).Nodup) (once : (s.ready ++ calls).Nodup)
    (begun : c'.begun = true)
    (place : c'.Place { s.view with gathers := s.gathers ++ registered, ready } k) :
    Closing { s.setClose k c' with gathers := s.gathers ++ registered, ready } := by
  have loop := closing.loop async
  subst split
  have others : ∀ m, s.Begun m → (s.setClose k c').Begun m :=
    begun_setClose located fun _ => begun
  have itself : (s.setClose k c').Begun k :=
    ⟨c', (located_set located).2 (.inl ⟨rfl, rfl⟩), begun⟩
  refine ⟨fun sync => ?_, fun _ => ⟨?_, ?_, ?_, ?_, once, distinct⟩, ?_, ?_, ?_⟩
  · change s.heartbeats.kind = .sync at sync
    rw [async] at sync
    cases sync
  · intro i waiting
    rcases List.mem_append.1 waiting with old | new
    · exact loop.finish i old
    · obtain ⟨j, same, -⟩ := done _ new
      cases same
  · exact fun i ended alive => List.mem_append_left _ (loop.pending i ended alive)
  · intro m i waiting
    rcases List.mem_append.1 waiting with old | new
    · exact ⟨(loop.gathered m i old).1, others m (loop.gathered m i old).2⟩
    · obtain ⟨j, same, ended⟩ := done _ new
      cases same
      exact ⟨ended, itself⟩
  · intro i m member
    rcases List.mem_append.1 member with old | new
    · exact others m (loop.gathers i m old)
    · rw [show m = k from own _ new]
      exact itself
  · intro m d there
    rcases (located_set located).1 there with ⟨rfl, rfl⟩ | ⟨-, there⟩
    · exact place
    · refine (closing.place m d there).transfer rfl rfl rfl (fun _ => id) fun _ awaited => ?_
      refine ⟨?_, awaited.running, ?_⟩
      · exact fun i waiting still => List.mem_append_left _ (awaited.registered i waiting still)
      · intro i listed ended alive
        obtain ⟨j, waiting, case⟩ := awaited.ending i listed ended alive
        exact ⟨j, waiting, case.imp_right fun before => before.append _⟩
  · exact fun _ => closing.closed (closes_ne_nil located)
  · intro m d there
    rcases (located_set located).1 there with ⟨rfl, rfl⟩ | ⟨-, there⟩
    · rw [futures]
      exact closing.listed m c located
    · exact closing.listed m d there

theorem heard_finished {s : System} {k : Nat} {c : Close} {failed : Bool}
    (async : s.heartbeats.kind = .async) (located : s.closes[k]? = some c)
    (phase : c.phase = .join failed) (eager : s.eagerGather = true) (present : none ∉ c.futures)
    (heard : s.gatherSkips (.closing k .join) = false)
    (done : ∀ i, some i ∈ c.futures → s.heartbeats.isDone i = true) :
    ∀ f ∈ c.futures, ∃ i, f = some i ∧ s.view.isFinished i = true := by
  intro f listed
  cases f with
  | none => exact (present listed).elim
  | some i =>
      refine ⟨i, rfl, ?_⟩
      by_contra alive
      change ¬ s.heartbeats.isFinished i = true at alive
      have all : c.futures.all (fun future => future.any s.heartbeats.isDone) = true := by
        rw [List.all_eq_true]
        rintro (_ | j) there
        · exact (present there).elim
        · exact done j there
      have one : (c.futures.any fun future => future.any fun i =>
          !s.heartbeats.isFinished i) = true := by
        rw [List.any_eq_true]
        exact ⟨some i, listed, by simpa using alive⟩
      simp [gatherSkips, async, eager, located, phase, all, one] at heard

theorem nodup_gathered {α : Type*} {old : List α} {ids : List Nat} {f : Nat → α} {p : Nat → Bool}
    (once : old.Nodup) (distinct : ids.Nodup) (injective : Function.Injective f)
    (fresh : ∀ i, f i ∉ old) : (old ++ (ids.filter p).map f).Nodup := by
  apply once.append ((distinct.filter _).map injective)
  intro x earlier new
  obtain ⟨i, -, rfl⟩ := List.mem_map.1 new
  exact fresh i earlier

theorem closing_gather {s : System} {k : Nat} {c : Close} {failed : Bool}
    (async : s.heartbeats.kind = .async) (closing : s.Closing) (located : s.closes[k]? = some c)
    (phase : c.phase = .join failed) (present : none ∉ c.futures)
    (heard : s.gatherSkips (.closing k .join) = false) :
    (s.gather k c failed (c.futures.filterMap id)).Closing := by
  have loop := closing.loop async
  have unbegun : ¬ s.Begun k := by
    rintro ⟨d, place, begun⟩
    rw [located] at place
    cases place
    simp [Close.begun, phase] at begun
  have task : ∀ i, some i ∈ c.futures ↔ i ∈ (c.futures.filterMap id).dedup := by
    simp [List.mem_filterMap]
  generalize tasks : (c.futures.filterMap id).dedup = ids at task
  have distinct : ids.Nodup := tasks ▸ List.nodup_dedup _
  have later : ∀ i, some i ∈ c.futures → s.heartbeats.isDone i = false →
      i ∈ ids.filter (!s.heartbeats.isDone ·) := by
    intro i listed still
    exact List.mem_filter.2 ⟨(task i).1 listed, by simp [still]⟩
  have newGathers : (s.gathers ++ (ids.filter (!s.heartbeats.isDone ·)).map (·, k)).Nodup :=
    nodup_gathered loop.distinct distinct (fun a b same => (Prod.mk.inj same).1)
      fun i old => unbegun (loop.gathers i k old)
  have own : ∀ g ∈ (ids.filter (!s.heartbeats.isDone ·)).map (·, k), g.2 = k := by
    intro g new
    obtain ⟨i, -, rfl⟩ := List.mem_map.1 new
    rfl
  unfold gather
  simp only [tasks]
  split
  · rename_i eager
    split
    · rename_i nobody
      -- All tasks are done, and none of them has its `finish` pending.
      refine closing_setClose closing located rfl (by simp [Close.begun]) ?_
      have done : ∀ i, some i ∈ c.futures → s.heartbeats.isDone i = true := by
        intro i listed
        by_contra still
        have waiting := later i listed (by simpa using still)
        rw [nobody] at waiting
        cases waiting
      have ended := heard_finished async located phase eager present heard done
      cases failed
      · simpa [Close.Place] using ended
      · simp [Close.Place]
    · rename_i somebody
      refine closing_extend [] async closing located rfl (List.append_nil _).symm own (by simp)
        newGathers (by simpa using loop.once) rfl ⟨present, fun _ => ⟨?_, later, ?_⟩⟩
      · intro i waiting _
        exact List.mem_append_right _ (List.mem_map.2 ⟨i, waiting, rfl⟩)
      · intro i _ _ _
        obtain ⟨j, waiting⟩ := List.exists_mem_of_ne_nil _ somebody
        exact ⟨j, waiting, .inl (by simpa [System.view] using (List.mem_filter.1 waiting).2)⟩
  · have newReady : (s.ready ++ (ids.filter s.heartbeats.isDone).map (Callback.gathered k)).Nodup :=
      nodup_gathered loop.once distinct (fun a b same => by simpa using same)
        fun i old => unbegun (loop.gathered k i old).2
    refine closing_extend _ async closing located rfl rfl own ?_ newGathers newReady rfl
      ⟨present, fun _ => ⟨?_, ?_, ?_⟩⟩
    · intro x new
      obtain ⟨i, member, rfl⟩ := List.mem_map.1 new
      exact ⟨i, rfl, (List.mem_filter.1 member).2⟩
    · intro i waiting still
      exact List.mem_append_right _ (List.mem_map.2
        ⟨i, List.mem_filter.2 ⟨waiting, by simpa [System.view] using still⟩, rfl⟩)
    · exact fun i listed _ => (task i).1 listed
    · intro i listed done alive
      refine ⟨i, (task i).1 listed, .inr (Before.of_append (loop.pending i done alive) ?_)⟩
      exact List.mem_map.2 ⟨i, List.mem_filter.2 ⟨(task i).1 listed, done⟩, rfl⟩

theorem closing_join {s : System} {k : Nat} {c : Close} {failed : Bool} (closing : s.Closing)
    (located : s.closes[k]? = some c) (phase : c.phase = .join failed)
    (heard : s.gatherSkips (.closing k .join) = false) : (s.join k c failed).Closing := by
  unfold join
  split
  · exact closing_setClose closing located rfl (by simp [Close.begun, phase]) (by simp [Close.Place])
  · rename_i present
    split
    · rename_i sync
      exact closing_setClose closing located rfl (by simp [Close.begun, phase])
        (by simp [Close.Place, present, System.view, sync])
    · rename_i async
      split
      · rename_i empty
        refine closing_setClose closing located rfl (by simp [Close.begun, phase]) ?_
        cases failed <;> simp [Close.Place, empty]
      · exact closing_gather async closing located phase present heard

theorem closing_joined {s s' : System} {k : Nat} {c : Close} {failed : Bool} (slots : s.Slots)
    (closing : s.Closing) (located : s.closes[k]? = some c) (phase : c.phase = .waiting failed)
    (taken : s.closing k c .joined = some s') : s'.Closing := by
  have place := closing.place k c located
  simp only [Close.Place, phase] at place
  obtain ⟨present, awaited⟩ := place
  simp only [System.closing, phase] at taken
  split at taken
  · rename_i all
    split at taken
    · rename_i sync
      cases taken
      refine closing_setClose closing located rfl (by simp [Close.begun]) ?_
      simp only [Close.Place]
      intro f listed
      cases f with
      | none => exact (present listed).elim
      | some i =>
          simp only [joined, sync, List.all_eq_true] at all
          exact ⟨i, rfl, Heartbeats.done_finished slots.sound sync (all (some i) listed)⟩
    · rename_i async
      cases taken
      refine closing_setClose closing located rfl (by simp [Close.begun]) ?_
      have none : c.awaiting = [] := by simpa [joined, async] using all
      have ended := (awaited async).finished present none
      cases failed
      · simpa [Close.Place] using ended
      · simp [Close.Place]
  · cases taken

theorem closing_step {s s' : System} {k : Nat} {c : Close} {st : CloseStep} (slots : s.Slots)
    (closing : s.Closing) (located : s.closes[k]? = some c)
    (heard : s.gatherSkips (.closing k st) = false) (taken : s.closing k c st = some s') :
    s'.Closing := by
  have place := closing.place k c located
  have whole := taken
  unfold System.closing at taken
  split at taken
  · rename_i failed phase
    cases taken
    exact closing_setClose closing located rfl (by simp [Close.begun, phase]) (by simp [Close.Place])
  · rename_i failed phase
    cases taken
    exact closing_join closing located phase heard
  · rename_i failed phase
    exact closing_joined slots closing located phase whole
  · rename_i failed phase
    cases taken
    exact closing_setClose closing located rfl (by simp [Close.begun]) (by simp [Close.Place])
  · rename_i failed phase
    split at taken
    · cases taken
    · cases taken
      refine closing_setClose closing located rfl (by simp [Close.begun]) ?_
      simp only [Close.Place, phase] at place
      cases failed
      · simpa [Close.Place] using place
      · simp [Close.Place]
  · cases taken

theorem Closing.transfer {s s' : System} (closing : s.Closing) (view : s'.view = s.view)
    (closes : s'.closes = s.closes) (closed : s'.heartbeats.closed = s.heartbeats.closed)
    (survive : s.closes ≠ [] → s.heartbeats.Survive s'.heartbeats) : s'.Closing := by
  have fields := view
  simp only [System.view, View.mk.injEq] at fields
  obtain ⟨kind, -, -, ready, -⟩ := fields
  refine ⟨?_, ?_, ?_, ?_, ?_⟩
  · rw [kind, ready]
    exact closing.quiet
  · rw [kind]
    refine fun async => (closing.loop async).transfer view ?_
    simp only [Begun, closes]
    exact fun _ held => held
  · rw [closes, view]
    exact closing.place
  · rw [closes, closed]
    exact closing.closed
  · rw [closes]
    intro k c located i w' place live
    exact closing.listed_survive (survive (closes_ne_nil located)) located place live

theorem closing_create (kind : Kind) (limits : Limits) (eagerGather : Bool) :
    (create kind limits eagerGather).Closing := by
  refine ⟨fun _ => rfl, fun _ => ⟨?_, ?_, ?_, ?_, ?_, ?_⟩, ?_, ?_, ?_⟩ <;>
    simp [create, Heartbeats.create, Heartbeats.isDone]

theorem closing_tick {s s' : System} {i : Nat} {t : Tick} (other : t ≠ .doneCallback)
    (slots : s.Slots) (closing : s.Closing) (taken : s.tick i t = some s') : s'.Closing := by
  obtain ⟨ticked, -, closes, gathers, -⟩ := tick_frame taken
  have kind : s'.heartbeats.kind = s.heartbeats.kind :=
    congrArg Prod.fst (Heartbeats.settings_tick ticked)
  refine ⟨?_, ?_, ?_, ?_, ?_⟩
  · intro sync
    rw [kind] at sync
    have same : s'.ready = s.ready := by
      unfold tick at taken
      obtain ⟨h, ticked', rfl⟩ := Option.map_eq_some_iff.1 taken
      have still : h.kind = .sync :=
        (congrArg Prod.fst (Heartbeats.settings_tick ticked')).trans sync
      simp [still]
    rw [same]
    exact closing.quiet sync
  · intro async
    rw [kind] at async
    exact loop_tick async other slots (closing.loop async) taken
  · rw [closes]
    intro k c located
    refine (closing.place k c located).transfer rfl rfl kind
      (fun j => Heartbeats.finished_tick ticked) fun async => ?_
    exact awaited_tick async other (closing.loop async) taken
  · rw [closes, Heartbeats.closed_tick ticked]
    exact closing.closed
  · rw [closes]
    intro k c located j w' place live
    exact closing.listed_survive (Heartbeats.survive_tick ticked) located place live

theorem closing_callback {s s' : System} {next : Callback} {rest : List Callback}
    (async : s.heartbeats.kind = .async) (closing : s.Closing) (waiting : s.ready = next :: rest)
    (taken : { s with ready := rest }.runCallback next = some s') : s'.Closing := by
  have loop := closing.loop async
  cases next with
  | finish i =>
      obtain ⟨loop', closes, place⟩ := callback_finish loop waiting taken
      obtain ⟨h, ticked, rfl⟩ := Option.map_eq_some_iff.1 taken
      have kind : h.kind = .async := (congrArg Prod.fst (Heartbeats.settings_tick ticked)).trans async
      refine ⟨fun sync => ?_, fun _ => loop', ?_, ?_, ?_⟩
      · cases kind.symm.trans sync
      · exact fun k c located => place k c (closing.place k c located)
      · exact fun some => (Heartbeats.closed_tick ticked).trans (closing.closed some)
      · intro k c located j w' there live
        exact closing.listed_survive (Heartbeats.survive_tick ticked) located there live
  | gathered k i =>
      obtain ⟨loop', place⟩ := callback_gathered loop waiting taken
      obtain ⟨d, located, rfl⟩ := Option.map_eq_some_iff.1 taken
      refine ⟨fun sync => ?_, fun _ => loop', ?_, ?_, ?_⟩
      · cases async.symm.trans sync
      · intro m c' there
        obtain ⟨c, before, -, held⟩ := place m c' there
        exact held (closing.place m c before)
      · exact fun _ => closing.closed (closes_ne_nil (s := s) located)
      · intro m c' there
        obtain ⟨c, before, futures, -⟩ := place m c' there
        rw [futures]
        exact closing.listed m c before

theorem closed_perform (h : Heartbeats) (operation : Operation) :
    (h.perform operation).closed = h.closed := by
  rw [Heartbeats.perform_spec]
  split
  · rfl
  · exact Heartbeats.closed_stop h _

theorem view_flagged {s s' : System} (flagged : s.heartbeats.Flagged s'.heartbeats)
    (ready : s'.ready = s.ready) (gathers : s'.gathers = s.gathers) : s'.view = s.view := by
  obtain ⟨done, finished⟩ := Heartbeats.done_flagged flagged
  have kind : s'.heartbeats.kind = s.heartbeats.kind :=
    congrArg Prod.fst (Heartbeats.settings_flagged flagged)
  simp only [System.view, done, finished, kind, ready, gathers]

theorem closing_operate {s : System} (closing : s.Closing) (operation : Operation) :
    Closing { s with heartbeats := s.heartbeats.perform operation } := by
  have flagged := flagged_perform s.heartbeats operation
  exact closing.transfer (view_flagged flagged rfl rfl) rfl
    (closed_perform s.heartbeats operation) fun _ => Heartbeats.survive_flagged flagged

theorem closing_close {s : System} (slots : s.Slots) (closing : s.Closing) :
    Closing { s with
      heartbeats := s.heartbeats.beginClose.1
      closes := s.closes ++ [⟨s.heartbeats.beginClose.2, [], .channel⟩] } := by
  have flagged := s.heartbeats.flagged_beginClose
  have kind : s.heartbeats.beginClose.1.kind = s.heartbeats.kind :=
    congrArg Prod.fst (Heartbeats.settings_flagged flagged)
  have view : System.view { s with
      heartbeats := s.heartbeats.beginClose.1
      closes := s.closes ++ [⟨s.heartbeats.beginClose.2, [], .channel⟩] } = s.view :=
    view_flagged flagged rfl rfl
  have survive := Heartbeats.survive_flagged flagged
  refine ⟨fun sync => closing.quiet (kind.symm.trans sync), fun async => ?_, ?_, ?_, ?_⟩
  · apply (closing.loop (kind.symm.trans async)).transfer view
    rintro k ⟨c, located, past⟩
    exact ⟨c, located_append.2 (.inl located), past⟩
  · intro k c there
    rw [view]
    rcases located_append.1 there with old | ⟨-, rfl⟩
    · exact closing.place k c old
    · trivial
  · exact fun _ => Heartbeats.closed_beginClose s.heartbeats
  · intro k c there i w' place live
    rcases located_append.1 there with old | ⟨-, rfl⟩
    · exact closing.listed_survive survive old place live
    · obtain ⟨w, before, alive, -⟩ := survive i w' place live
      obtain ⟨after, listed⟩ := Heartbeats.beginClose_listed slots.sound.mapped before alive
      change s.heartbeats.beginClose.1.objects[i]? = some w' at place
      rw [after] at place
      cases place
      exact ⟨rfl, listed⟩

theorem closing_kept {s s' : System} {a : Action} (heard : s.gatherSkips a = false)
    (slots : s.Slots) (closing : s.Closing) (taken : s.step a = some s') : s'.Closing := by
  cases a with
  | call queueName enableHeartbeat =>
      cases taken
      exact closing.transfer rfl rfl rfl fun _ => .refl _
  | advance j st =>
      have settings := settings_step taken
      obtain ⟨c, located, moved⟩ := Option.bind_eq_some_iff.1 taken
      obtain ⟨⟨h, c'⟩, made, rfl⟩ := Option.map_eq_some_iff.1 moved
      obtain ⟨done, finished, closed⟩ := Call.done_getNextMessage made
      have kind : h.kind = s.heartbeats.kind := congrArg Prod.fst settings
      refine closing.transfer ?_ rfl closed fun some => ?_
      · simp only [System.view, done, finished, kind]
      · exact Call.survive_getNextMessage (closing.closed some) made
  | tick i t =>
      simp only [step] at taken
      split at taken
      · cases taken
      · rename_i other
        exact closing_tick other slots closing taken
  | callback =>
      simp only [step] at taken
      split at taken
      · cases taken
      · rename_i next rest waiting
        have async : s.heartbeats.kind = .async := by
          cases kind : s.heartbeats.kind with
          | async => rfl
          | sync =>
              rw [closing.quiet kind] at waiting
              cases waiting
        exact closing_callback async closing waiting taken
  | operate operation =>
      cases taken
      exact closing_operate closing operation
  | close =>
      cases taken
      exact closing_close slots closing
  | closing k st =>
      obtain ⟨c, located, moved⟩ := Option.bind_eq_some_iff.1 taken
      exact closing_step slots closing located heard moved

/-! ## Work items that a failed `start` left on the queue -/

/-- A pool thread begins a work item whose `start` has been rolled back. -/
def leftoverBegun (s : System) : Action → Bool
  | .tick i .begin => s.heartbeats.objects[i]?.any fun w => !w.registered
  | _ => false

def Unbegun (s : System) : Prop :=
  ∀ (i : Nat) (w : Worker), s.heartbeats.objects[i]? = some w → w.registered = false →
    w.pc = .unscheduled ∨ w.pc = .scheduled ∧ s.heartbeats.kind = .sync

theorem unbegun_flagged {s : System} {h : Heartbeats} (unbegun : s.Unbegun)
    (flagged : s.heartbeats.Flagged h) {i : Nat} {w' : Worker} (located : h.objects[i]? = some w')
    (unregistered : w'.registered = false) :
    w'.pc = .unscheduled ∨ w'.pc = .scheduled ∧ s.heartbeats.kind = .sync := by
  obtain ⟨numbers, objects, closed, rfl, -, flags⟩ := flagged
  rw [flags i] at located
  obtain ⟨w, place, rfl⟩ := Option.map_eq_some_iff.1 located
  by_cases here : i ∈ numbers
  · rw [if_pos here] at unregistered ⊢
    exact unbegun i w place unregistered
  · rw [if_neg here] at unregistered ⊢
    exact unbegun i w place unregistered

theorem unbegun_start {h : Heartbeats} {claim : Claim} {now : ℚ} {owner : Nat} {submit : Submit}
    (possible : ¬(h.kind = .async ∧ submit.late = true)) {i : Nat} {w : Worker}
    (located : (h.start claim now owner submit).1.objects[i]? = some w)
    (unregistered : w.registered = false) :
    h.objects[i]? = some w ∨ w.pc = .unscheduled ∨ w.pc = .scheduled ∧ h.kind = .sync := by
  rcases Heartbeats.start_cases h claim now owner submit with
    ⟨-, e, same⟩ | ⟨-, ⟨-, same⟩ | ⟨e, -, -, same⟩ | ⟨e, -, -, same⟩ | ⟨e, raised, same⟩⟩ <;>
    rw [same] at located <;> rcases Heartbeats.located_add.1 located with old | ⟨-, rfl⟩
  · exact .inl old
  · exact .inr (.inl rfl)
  · exact .inl old
  · cases unregistered
  · exact .inl old
  · exact .inr (.inl rfl)
  · exact .inl old
  · cases unregistered
  · exact .inl old
  · subst raised
    refine .inr (.inr ⟨rfl, ?_⟩)
    cases kind : h.kind with
    | sync => rfl
    | async => exact (possible ⟨kind, rfl⟩).elim

theorem unbegun_call {s : System} {h : Heartbeats} {j : Nat} {c c' : Call} {st : CallStep}
    (unbegun : s.Unbegun) (made : c.getNextMessage s.heartbeats j st = some (h, c')) {i : Nat}
    {w' : Worker} (located : h.objects[i]? = some w') (unregistered : w'.registered = false) :
    w'.pc = .unscheduled ∨ w'.pc = .scheduled ∧ s.heartbeats.kind = .sync := by
  rcases Call.registry_getNextMessage made with
    same | reserved | same | ⟨now, submit, claim, -, -, possible, same⟩
  · exact unbegun i w' (same ▸ located) unregistered
  · obtain ⟨-, -, same⟩ := Heartbeats.reserve_ok reserved
    rw [same] at located
    exact unbegun i w' located unregistered
  · rw [same] at located
    exact unbegun i w' located unregistered
  · rw [same] at located
    rcases unbegun_start possible located unregistered with old | new
    · exact unbegun i w' old unregistered
    · exact new

theorem unbegun_tick {s s' : System} {a : Action} {k : Nat} {t : Tick}
    (idle : s.leftoverBegun a = false) (shape : a = .tick k t ∨ a = .callback ∧ t = .doneCallback)
    (unbegun : s.Unbegun) (ticked : s.heartbeats.tick k t = some s'.heartbeats) {i : Nat}
    {w' : Worker} (located : s'.heartbeats.objects[i]? = some w')
    (unregistered : w'.registered = false) :
    w'.pc = .unscheduled ∨ w'.pc = .scheduled ∧ s.heartbeats.kind = .sync := by
  obtain ⟨w, v, before, stepped, objects⟩ := Heartbeats.tick_objects ticked
  rw [objects] at located
  rcases (located_set before).1 located with ⟨rfl, rfl⟩ | ⟨-, old⟩
  · -- What is unregistered is on the queue at most, and only a `begin` takes it from there.
    obtain ⟨-, -, -, registered, -⟩ := Worker.tick_keeps stepped
    obtain ⟨launched, -⟩ := Worker.tick_launched stepped
    obtain ⟨scheduled, sync⟩ :=
      (unbegun i w before (registered ▸ unregistered)).resolve_left launched
    cases t with
    | begin =>
        rcases shape with rfl | ⟨-, other⟩
        · simp [leftoverBegun, before, ← registered, unregistered] at idle
        · cases other
    | check | issue | reply | pause | wake | cancel | leave | doneCallback =>
        simp [Worker.tick, scheduled, sync] at stepped
  · exact unbegun i w' old unregistered

theorem unbegun_kept {s s' : System} {a : Action} (idle : s.leftoverBegun a = false)
    (unbegun : s.Unbegun) (taken : s.step a = some s') : s'.Unbegun := by
  have kind : s'.heartbeats.kind = s.heartbeats.kind := congrArg Prod.fst (settings_step taken)
  intro i w' located unregistered
  rw [kind]
  cases effect taken with
  | called heartbeats calls => exact unbegun i w' (heartbeats ▸ located) unregistered
  | advanced place made calls => exact unbegun_call unbegun made located unregistered
  | ticked shape ticked calls => exact unbegun_tick idle shape unbegun ticked located unregistered
  | operated heartbeats calls =>
      exact unbegun_flagged unbegun (heartbeats ▸ flagged_perform _ _) located unregistered
  | closed heartbeats calls =>
      exact unbegun_flagged unbegun (heartbeats ▸ Heartbeats.flagged_beginClose _) located
        unregistered
  | still shape heartbeats calls => exact unbegun i w' (heartbeats ▸ located) unregistered

/-! ## After a `close` has returned -/

def Returned (s : System) (k : Nat) : Prop := ∃ c, s.closes[k]? = some c ∧ c.phase = .done true

theorem closes_closing {s s' : System} {k : Nat} {c : Close} {st : CloseStep}
    (taken : s.closing k c st = some s') : ∃ c', s'.closes = s.closes.set k c' := by
  unfold System.closing at taken
  split at taken
  · cases taken
    exact ⟨_, rfl⟩
  · cases taken
    unfold join
    split
    · exact ⟨_, rfl⟩
    split
    · exact ⟨_, rfl⟩
    split
    · exact ⟨_, rfl⟩
    unfold gather
    dsimp only
    split
    · split <;> exact ⟨_, rfl⟩
    · exact ⟨_, rfl⟩
  · split at taken
    · split at taken <;> cases taken <;> exact ⟨_, rfl⟩
    · cases taken
  · cases taken
    exact ⟨_, rfl⟩
  · split at taken <;> cases taken
    exact ⟨_, rfl⟩
  · cases taken

theorem returned_step {s s' : System} {a : Action} {k : Nat} (returned : s.Returned k)
    (taken : s.step a = some s') : s'.Returned k := by
  obtain ⟨c, located, phase⟩ := returned
  cases a with
  | call queueName enableHeartbeat =>
      cases taken
      exact ⟨c, located, phase⟩
  | advance j st =>
      obtain ⟨d, -, moved⟩ := Option.bind_eq_some_iff.1 taken
      obtain ⟨⟨h, d'⟩, -, rfl⟩ := Option.map_eq_some_iff.1 moved
      exact ⟨c, located, phase⟩
  | tick i t =>
      simp only [step] at taken
      split at taken
      · cases taken
      · obtain ⟨-, -, closes, -⟩ := tick_frame taken
        exact ⟨c, closes ▸ located, phase⟩
  | callback =>
      simp only [step] at taken
      split at taken
      · cases taken
      · rename_i head rest next
        cases head with
        | finish i =>
            obtain ⟨h, -, rfl⟩ := Option.map_eq_some_iff.1 taken
            exact ⟨c, located, phase⟩
        | gathered m i =>
            obtain ⟨d, place, rfl⟩ := Option.map_eq_some_iff.1 taken
            change s.closes[m]? = some d at place
            by_cases here : k = m
            · subst here
              rw [located] at place
              cases place
              exact ⟨_, (located_set located).2 (.inl ⟨rfl, rfl⟩), phase⟩
            · exact ⟨c, (located_set place).2 (.inr ⟨here, located⟩), phase⟩
  | operate operation =>
      cases taken
      exact ⟨c, located, phase⟩
  | close =>
      cases taken
      exact ⟨c, located_append.2 (.inl located), phase⟩
  | closing m st =>
      obtain ⟨d, place, moved⟩ := Option.bind_eq_some_iff.1 taken
      have other : k ≠ m := by
        rintro rfl
        rw [located] at place
        cases place
        cases st <;> simp [System.closing, phase] at moved
      obtain ⟨d', closes⟩ := closes_closing moved
      exact ⟨c, by rw [closes]; exact (located_set place).2 (.inr ⟨other, located⟩), phase⟩

structure Orderly (s : System) : Prop where
  slots : s.Slots
  closing : s.Closing
  unbegun : s.Unbegun

theorem orderly_create (kind : Kind) (limits : Limits) (eagerGather : Bool) :
    (create kind limits eagerGather).Orderly :=
  ⟨slots_create kind limits eagerGather, closing_create kind limits eagerGather,
    by simp [Unbegun, create, Heartbeats.create]⟩

theorem orderly_kept {s s' : System} {a : Action}
    (met : s.leftoverBegun a = false ∧ s.gatherSkips a = false) (orderly : s.Orderly)
    (taken : s.step a = some s') : s'.Orderly :=
  ⟨slots_step orderly.slots taken, closing_kept met.2 orderly.slots orderly.closing taken,
    unbegun_kept met.1 orderly.unbegun taken⟩

theorem returned_dead {s : System} {k : Nat} (orderly : s.Orderly) (returned : s.Returned k)
    {i : Nat} {w : Worker} (located : s.heartbeats.objects[i]? = some w) : w.live = false := by
  obtain ⟨c, place, phase⟩ := returned
  have ended := orderly.closing.place k c place
  simp only [Close.Place, phase] at ended
  by_contra alive
  have live : w.live = true := by simpa using alive
  obtain ⟨-, listed⟩ := orderly.closing.listed k c place i w located live
  obtain ⟨j, future, finished⟩ := ended _ listed
  have formed := orderly.slots.sound.formed i w located
  simp only [Worker.live, Bool.and_eq_true, Bool.not_eq_true'] at live
  have launched : w.pc ≠ .unscheduled := by
    intro pc
    rw [(formed.unscheduled pc).1] at future
    cases future
  rw [formed.future live.1 launched] at future
  cases future
  obtain ⟨v, there, gone⟩ := Heartbeats.isFinished_iff.1 finished
  rw [located] at there
  cases there
  rw [live.2] at gone
  cases gone

theorem returned_pc {s : System} {k : Nat} (orderly : s.Orderly) (returned : s.Returned k)
    {i : Nat} {w : Worker} (located : s.heartbeats.objects[i]? = some w) :
    w.weight = 0 ∧ w.pc ≠ .send := by
  have dead := returned_dead orderly returned located
  have formed := orderly.slots.sound.formed i w located
  cases registered : w.registered with
  | true =>
      have finished : w.finished = true := by simpa [Worker.live, registered] using dead
      have pc := formed.finished_done finished
      simp [Worker.weight, registered, finished, pc]
  | false =>
      have running : w.finished = false := by
        by_contra gone
        have pc := formed.finished_done (by simpa using gone)
        rcases orderly.unbegun i w located registered with still | ⟨still, -⟩ <;>
          rw [pc] at still <;> cases still
      rcases orderly.unbegun i w located registered with still | ⟨still, -⟩ <;>
        simp [Worker.weight, registered, running, still]

theorem returned_empty {s : System} {k : Nat} (orderly : s.Orderly) (returned : s.Returned k) :
    s.heartbeats.workers.entries = [] ∧
      s.heartbeats.reservations = s.calls.countP Call.holds := by
  constructor
  · rw [List.eq_nil_iff_forall_not_mem]
    rintro ⟨claim, i⟩ member
    obtain ⟨w, located, -, live⟩ :=
      (orderly.slots.sound.mapped claim i).1 (Dict.get?_eq_some.2 member)
    rw [returned_dead orderly returned located] at live
    cases live
  · have owed := orderly.slots.owed
    have nothing : tally Worker.weight s.heartbeats.objects = 0 := by
      apply tally_zero
      intro w member
      obtain ⟨i, located⟩ := List.mem_iff_getElem?.1 member
      exact (returned_pc orderly returned located).1
    have calls : tally Call.weight s.calls = s.calls.countP Call.holds :=
      tally_indicator Call.holds s.calls
    simp only [Heartbeats.owed] at owed
    omega

/-! ## Shutdown safety -/

def Late (c : Call) : Prop := c.requests = 0 ∧ (c.phase = .ensureOpen ∨ ∃ e, c.phase = .done (.error e))

theorem late_getNextMessage {h h' : Heartbeats} {j : Nat} {c c' : Call} {s : CallStep}
    (closed : h.closed = true) (late : Late c)
    (taken : c.getNextMessage h j s = some (h', c')) : Late c' := by
  obtain ⟨requests, early⟩ := late
  cases Call.moved taken with
  | refused e phase => exact ⟨requests, .inr ⟨e, rfl⟩⟩
  | opened phase isOpen =>
      rw [isOpen] at closed
      cases closed
  | _ => simp_all

theorem closed_step {s s' : System} {a : Action} (closed : s.heartbeats.closed = true)
    (taken : s.step a = some s') : s'.heartbeats.closed = true :=
  heartbeats_step (R := fun h => h.closed = true) taken
    (fun _ made => (Call.done_getNextMessage made).2.2.trans closed)
    (fun ticked => (Heartbeats.closed_tick ticked).trans closed)
    fun flagged => Heartbeats.closed_flagged flagged closed

theorem late_run {s s' : System} {n : Nat} {trace : List Action}
    (closed : s.heartbeats.closed = true)
    (late : ∀ (j : Nat) (c : Call), n ≤ j → s.calls[j]? = some c → Late c)
    (ran : run step s trace = some s') :
    ∀ (j : Nat) (c : Call), n ≤ j → s'.calls[j]? = some c → Late c := by
  refine (invariant (I := fun s => s.heartbeats.closed = true ∧
    ∀ (j : Nat) (c : Call), n ≤ j → s.calls[j]? = some c → Late c) ?_ ⟨closed, late⟩ ran).2
  rintro t a t' ⟨closed, late⟩ taken
  refine ⟨closed_step closed taken, ?_⟩
  intro j c after located
  cases effect taken with
  | called heartbeats calls =>
      rw [calls] at located
      rcases located_append.1 located with old | ⟨-, rfl⟩
      · exact late j c after old
      · exact ⟨rfl, .inl rfl⟩
  | advanced place made calls =>
      rw [calls] at located
      rcases (located_set place).1 located with ⟨rfl, rfl⟩ | ⟨-, old⟩
      · exact late_getNextMessage closed (late j _ after place) made
      · exact late j c after old
  | ticked shape ticked calls => exact late j c after (calls ▸ located)
  | operated heartbeats calls => exact late j c after (calls ▸ located)
  | closed heartbeats calls => exact late j c after (calls ▸ located)
  | still shape heartbeats calls => exact late j c after (calls ▸ located)

theorem survive_step {s s' : System} {a : Action} (closed : s.heartbeats.closed = true)
    (taken : s.step a = some s') : s.heartbeats.Survive s'.heartbeats :=
  heartbeats_step (R := s.heartbeats.Survive) taken
    (fun _ => Call.survive_getNextMessage closed) Heartbeats.survive_tick
    Heartbeats.survive_flagged

theorem entries_run {s s' : System} {trace : List Action} (slots : s.Slots)
    (closed : s.heartbeats.closed = true) (ran : run step s trace = some s') {claim : Claim}
    {i : Nat} (entry : s'.heartbeats.workers.get? claim = some i) :
    s.heartbeats.workers.get? claim = some i := by
  obtain ⟨slots', -, survive⟩ := invariant (I := fun t => t.Slots ∧ t.heartbeats.closed = true ∧
      s.heartbeats.Survive t.heartbeats)
    (fun t a t' held taken => ⟨slots_step held.1 taken, closed_step held.2.1 taken,
      held.2.2.trans (survive_step held.2.1 taken)⟩) ⟨slots, closed, .refl _⟩ ran
  obtain ⟨w', located, same, live⟩ := (slots'.sound.mapped claim i).1 entry
  obtain ⟨w, before, alive, claims, -, -⟩ := survive i w' located live
  exact (slots.sound.mapped claim i).2 ⟨w, before, claims ▸ same, alive⟩

structure ShutdownSafe (kind : Kind) (limits : Limits) (eagerGather : Bool) (trace : List Action)
    (s : System) : Prop where
  entries : ∀ before after t, trace = before ++ after →
    run step (create kind limits eagerGather) before = some t → t.closes ≠ [] →
    ∀ claim i, s.heartbeats.workers.get? claim = some i → t.heartbeats.workers.get? claim = some i
  stopped : ∀ before after t, trace = before ++ .close :: after →
    run step (create kind limits eagerGather) before = some t →
    ∃ t' c, t.step .close = some t' ∧ t'.closes = t.closes ++ [c] ∧
      ∀ (i : Nat) (w : Worker), t.heartbeats.objects[i]? = some w → w.live = true →
        w.future ∈ c.futures ∧ ∃ w', t'.heartbeats.objects[i]? = some w' ∧ w'.stop = true
  requests : ∀ before after t, trace = before ++ after →
    run step (create kind limits eagerGather) before = some t → t.closes ≠ [] →
    ∀ (j : Nat) (c : Call), t.calls.length ≤ j → s.calls[j]? = some c → c.requests = 0
  returned : ∀ k, s.Returned k → s.heartbeats.workers.entries = [] ∧
    s.heartbeats.reservations = s.calls.countP Call.holds
  silent : ∀ before after t k, trace = before ++ after →
    run step (create kind limits eagerGather) before = some t → t.Returned k →
    ∀ i now, Action.tick i (.issue now) ∉ after

theorem orderly_run {s s' : System} {trace : List Action} (orderly : s.Orderly)
    (met : Along step (fun s a => s.leftoverBegun a = false ∧ s.gatherSkips a = false) s trace)
    (ran : run step s trace = some s') : s'.Orderly :=
  invariant_along (fun _ _ _ => orderly_kept) orderly met ran

theorem silent_run {s s' : System} {trace : List Action} {k : Nat} (orderly : s.Orderly)
    (returned : s.Returned k)
    (met : Along step (fun s a => s.leftoverBegun a = false ∧ s.gatherSkips a = false) s trace)
    (ran : run step s trace = some s') (i : Nat) (now : ℚ) :
    Action.tick i (.issue now) ∉ trace := by
  intro member
  obtain ⟨before, after, rfl⟩ := List.append_of_mem member
  obtain ⟨t, t', reached, taken, -⟩ := run_through ran
  have there : t.Returned k :=
    invariant (fun _ _ _ held taken => returned_step held taken) returned reached
  have orderly' := orderly_run orderly (met.append reached).1 reached
  simp only [step, reduceCtorEq, ↓reduceIte] at taken
  obtain ⟨ticked, -⟩ := tick_frame taken
  obtain ⟨w, w', located, stepped, -⟩ := Heartbeats.tick_cases ticked
  have asleep := (returned_pc orderly' there located).2
  cases Worker.ticked stepped with
  | issued _ pc => exact asleep pc

theorem shutdown_safety (kind : Kind) (limits : Limits) (eagerGather : Bool) (trace : List Action)
    (s : System) (ran : run step (create kind limits eagerGather) trace = some s)
    (unbegun : Along step (fun s a => s.leftoverBegun a = false) (create kind limits eagerGather)
      trace)
    (heard : Along step (fun s a => s.gatherSkips a = false) (create kind limits eagerGather) trace) :
    ShutdownSafe kind limits eagerGather trace s := by
  have met := unbegun.and heard
  have start := orderly_create kind limits eagerGather
  refine ⟨?_, ?_, ?_, ?_, ?_⟩
  · rintro before after t rfl reached begun claim i entry
    have orderly := orderly_run start (met.append reached).1 reached
    exact entries_run orderly.slots (orderly.closing.closed begun) (run_from ran reached) entry
  · rintro before after t rfl reached
    obtain ⟨t', taken, -⟩ := run_cons.1 (run_from ran reached)
    have orderly := orderly_run start (met.append reached).1 reached
    refine ⟨t', ⟨t.heartbeats.beginClose.2, [], .channel⟩, taken, ?_, ?_⟩
    · cases taken
      rfl
    · intro i w located live
      obtain ⟨stopped, listed⟩ :=
        Heartbeats.beginClose_listed orderly.slots.sound.mapped located live
      cases taken
      exact ⟨listed, w.signalled, stopped, rfl⟩
  · rintro before after t rfl reached begun j c late located
    have orderly := orderly_run start (met.append reached).1 reached
    refine (late_run (orderly.closing.closed begun) ?_ (run_from ran reached) j c late located).1
    intro m d after there
    rw [List.getElem?_eq_none after] at there
    cases there
  · exact fun k => returned_empty (orderly_run start met ran)
  · rintro before after t k rfl reached returned i now
    have orderly := orderly_run start (met.append reached).1 reached
    exact silent_run orderly returned (met.append reached).2 (run_from ran reached) i now

def closedTrace : List Action :=
  .call (text "q") true :: claiming 0 (text "m") ++
    [.advance 0 (.start 0 .scheduled), .advance 0 .handOver, .advance 0 .leave, .close,
      .closing 0 (.channel false), .closing 0 .join, .tick 0 .begin, .tick 0 (.check 0),
      .tick 0 .leave, .closing 0 .joined, .closing 0 .shutdown]

theorem shutdown_safety_closed :
    ∃ s, run step (create .sync .single false) closedTrace = some s ∧
      s.closes.map Close.phase = [.done true] ∧
      ShutdownSafe .sync .single false closedTrace s := by
  have phases : (run step (create .sync .single false) closedTrace).map
      (fun s => s.closes.map Close.phase) = some [.done true] := by decide +kernel
  obtain ⟨s, ran, phase⟩ := Option.map_eq_some_iff.1 phases
  exact ⟨s, ran, phase, shutdown_safety .sync .single false closedTrace s ran
    (by decide +kernel) (by decide +kernel)⟩

/-- A task ends, and before the event loop runs its `finish` a `close` goes from `begin_close` to its
return without giving way: from Python 3.12 on, `gather` completes at once on a task already done. -/
def skippedTrace : List Action :=
  .call (text "q") true :: claiming 0 (text "m") ++
    [.advance 0 (.start 0 .scheduled), .advance 0 .handOver, .advance 0 .leave] ++
    dismissal 0 ++ [.close, .closing 0 (.channel false), .closing 0 .join]

theorem shutdown_skipped :
    ∃ s, run step (create .async .single true) skippedTrace = some s ∧ s.Returned 0 ∧
      s.heartbeats.workers.entries = [(Claim.sample, 0)] ∧ s.heartbeats.reservations = 1 ∧
      s.calls.countP Call.holds = 0 ∧ ¬ ShutdownSafe .async .single true skippedTrace s := by
  have facts : (run step (create .async .single true) skippedTrace).map (fun s =>
      (s.closes, s.heartbeats.workers.entries, s.heartbeats.reservations,
        s.calls.countP Call.holds)) =
      some ([⟨[some 0], [], .done true⟩], [(Claim.sample, 0)], 1, 0) := by decide +kernel
  obtain ⟨s, ran, same⟩ := Option.map_eq_some_iff.1 facts
  simp only [Prod.mk.injEq] at same
  obtain ⟨closes, entries, reservations, holding⟩ := same
  have returned : s.Returned 0 := ⟨_, by rw [closes]; rfl, rfl⟩
  refine ⟨s, ran, returned, entries, reservations, holding, ?_⟩
  intro safe
  have empty := (safe.returned 0 returned).1
  rw [entries] at empty
  cases empty

end System

end Nzovu
