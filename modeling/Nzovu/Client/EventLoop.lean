import Nzovu.Library.Queue
import Nzovu.Client.Protection

/-!
# The event loop

What a `gather` may conclude from its own callbacks: when the last of them has run, the `finish` of
every task it was given has run before.
-/

namespace Nzovu
open Tally Transition Queue
open Worker (Tick)

namespace Call

theorem done_getNextMessage {h h' : Heartbeats} {j : Nat} {c c' : Call} {s : CallStep}
    (taken : c.getNextMessage h j s = some (h', c')) :
    h'.isDone = h.isDone ∧ h'.isFinished = h.isFinished ∧ h'.closed = h.closed := by
  rcases registry_getNextMessage taken with
    rfl | made | rfl | ⟨now, submit, claim, -, -, -, rfl⟩
  · exact ⟨rfl, rfl, rfl⟩
  · obtain ⟨-, -, rfl⟩ := Heartbeats.reserve_ok made
    exact ⟨rfl, rfl, rfl⟩
  · exact ⟨rfl, rfl, rfl⟩
  · obtain ⟨done, finished⟩ := Heartbeats.done_start h claim now j submit
    exact ⟨done, finished, Heartbeats.closed_start h claim now j submit⟩

theorem survive_getNextMessage {h h' : Heartbeats} {j : Nat} {c c' : Call} {s : CallStep}
    (closed : h.closed = true) (taken : c.getNextMessage h j s = some (h', c')) :
    h.Survive h' := by
  rcases registry_getNextMessage taken with
    rfl | made | rfl | ⟨now, submit, claim, -, -, -, rfl⟩
  · exact .refl _
  · obtain ⟨-, -, rfl⟩ := Heartbeats.reserve_ok made
    exact .refl h
  · exact .refl h
  · exact Heartbeats.survive_start closed claim now j submit

end Call

structure View where
  kind : Kind
  isDone : Nat → Bool
  isFinished : Nat → Bool
  ready : List Callback
  gathers : List (Nat × Nat)

namespace Close

def begun (c : Close) : Bool :=
  match c.phase with
  | .channel | .join _ => false
  | _ => true

/-- The `gather` has yet to hear of every task that runs, and of one that it will hear of only after
the `finish` of a given task that has ended. -/
structure Awaited (v : View) (k : Nat) (c : Close) : Prop where
  registered : ∀ i ∈ c.awaiting, v.isDone i = false → (i, k) ∈ v.gathers
  running : ∀ i, some i ∈ c.futures → v.isDone i = false → i ∈ c.awaiting
  ending : ∀ i, some i ∈ c.futures → v.isDone i = true → v.isFinished i = false →
    ∃ j ∈ c.awaiting, v.isDone j = false ∨ Before (.finish i) (.gathered k j) v.ready

def Place (v : View) (k : Nat) (c : Close) : Prop :=
  match c.phase with
  | .channel | .join _ | .done false => True
  | .waiting _ => none ∉ c.futures ∧ (v.kind = .async → c.Awaited v k)
  | .shutdown _ | .done true => ∀ f ∈ c.futures, ∃ i, f = some i ∧ v.isFinished i = true

theorem Awaited.finished {v : View} {k : Nat} {c : Close} (awaited : c.Awaited v k)
    (present : none ∉ c.futures) (heard : c.awaiting = []) :
    ∀ f ∈ c.futures, ∃ i, f = some i ∧ v.isFinished i = true := by
  intro f listed
  cases f with
  | none => exact (present listed).elim
  | some i =>
      refine ⟨i, rfl, ?_⟩
      by_contra alive
      cases done : v.isDone i with
      | false => simpa [heard] using awaited.running i listed done
      | true =>
          obtain ⟨j, waiting, -⟩ := awaited.ending i listed done (by simpa using alive)
          simp [heard] at waiting

theorem Place.transfer {v v' : View} {k : Nat} {c c' : Close} (place : c.Place v k)
    (phase : c'.phase = c.phase) (futures : c'.futures = c.futures) (kind : v'.kind = v.kind)
    (finished : ∀ i, v.isFinished i = true → v'.isFinished i = true)
    (awaited : v.kind = .async → c.Awaited v k → c'.Awaited v' k) : c'.Place v' k := by
  have kept : (∀ f ∈ c.futures, ∃ i, f = some i ∧ v.isFinished i = true) →
      ∀ f ∈ c'.futures, ∃ i, f = some i ∧ v'.isFinished i = true := by
    intro ended f listed
    rw [futures] at listed
    obtain ⟨i, rfl, done⟩ := ended f listed
    exact ⟨i, rfl, finished i done⟩
  unfold Place at place ⊢
  rw [phase]
  split at place
  · trivial
  · trivial
  · trivial
  · rw [futures]
    refine ⟨place.1, fun async => ?_⟩
    rw [kind] at async
    exact awaited async (place.2 async)
  · exact kept place
  · exact kept place

end Close

namespace System

def view (s : System) : View :=
  ⟨s.heartbeats.kind, s.heartbeats.isDone, s.heartbeats.isFinished, s.ready, s.gathers⟩

def Begun (s : System) (k : Nat) : Prop := ∃ c, s.closes[k]? = some c ∧ c.begun = true

structure Loop (s : System) : Prop where
  finish : ∀ i, Callback.finish i ∈ s.ready →
    s.heartbeats.isDone i = true ∧ s.heartbeats.isFinished i = false
  pending : ∀ i, s.heartbeats.isDone i = true → s.heartbeats.isFinished i = false →
    Callback.finish i ∈ s.ready
  gathered : ∀ k i, Callback.gathered k i ∈ s.ready → s.heartbeats.isDone i = true ∧ s.Begun k
  gathers : ∀ i k, (i, k) ∈ s.gathers → s.Begun k
  once : s.ready.Nodup
  distinct : s.gathers.Nodup

theorem Loop.transfer {s s' : System} (loop : s.Loop) (view : s'.view = s.view)
    (begun : ∀ k, s.Begun k → s'.Begun k) : s'.Loop := by
  simp only [System.view, View.mk.injEq] at view
  obtain ⟨-, done, finished, ready, gathers⟩ := view
  refine ⟨?_, ?_, ?_, ?_, by rw [ready]; exact loop.once, by rw [gathers]; exact loop.distinct⟩
  · rw [done, finished, ready]
    exact loop.finish
  · rw [done, finished, ready]
    exact loop.pending
  · rw [done, ready]
    intro k i waiting
    exact ⟨(loop.gathered k i waiting).1, begun k (loop.gathered k i waiting).2⟩
  · rw [gathers]
    exact fun i k registered => begun k (loop.gathers i k registered)

theorem nodup_doneCallbacks {s : System} (loop : s.Loop) {i : Nat}
    (running : s.heartbeats.isDone i = false) : (s.ready ++ s.doneCallbacks i).Nodup := by
  have injective : ((s.gathers.filter (·.1 = i)).map fun g => Callback.gathered g.2 i).Nodup := by
    apply List.Nodup.map_on _ (loop.distinct.filter _)
    intro g first g' second same
    simp only [List.mem_filter, decide_eq_true_eq] at first second
    simp only [Callback.gathered.injEq, and_true] at same
    exact Prod.ext (first.2.trans second.2.symm) same
  rw [List.nodup_append]
  refine ⟨loop.once, List.nodup_cons.2 ⟨by simp, injective⟩, ?_⟩
  rintro x old y new rfl
  rcases List.mem_cons.1 new with rfl | new
  · rw [(loop.finish i old).1] at running
    cases running
  · obtain ⟨g, -, rfl⟩ := List.mem_map.1 new
    rw [(loop.gathered g.2 i old).1] at running
    cases running

end System

theorem Worker.tick_running {limits : Limits} {w w' : Worker} {t : Tick}
    (other : t ≠ .doneCallback) (taken : w.tick .async limits t = some w') :
    w.pc ≠ .done ∧ w'.finished = w.finished := by
  cases ticked taken with
  | replied r timeout pc => exact ⟨by simp [pc], (handle_spec limits w r).2.1⟩
  | cancelled async pc => rcases pc with pc | ⟨timeout, pc⟩ | ⟨timeout, pc⟩ <;> simp [pc]
  | returned sync => cases sync
  | settled => exact (other rfl).elim
  | _ => simp_all

namespace System

theorem tick_async {s s' : System} {i : Nat} {t : Tick} (async : s.heartbeats.kind = .async)
    (other : t ≠ .doneCallback) (taken : s.tick i t = some s') :
    s.heartbeats.isDone i = false ∧ s'.heartbeats.isFinished = s.heartbeats.isFinished ∧
      (∀ j, j ≠ i → s'.heartbeats.isDone j = s.heartbeats.isDone j) ∧
      ((s'.heartbeats.isDone i = false ∧ s'.ready = s.ready) ∨
        (s'.heartbeats.isDone i = true ∧ s'.ready = s.ready ++ s.doneCallbacks i)) := by
  obtain ⟨ticked, -⟩ := tick_frame taken
  obtain ⟨w, w', located, stepped, located', others⟩ := Heartbeats.done_tick ticked
  rw [async] at stepped
  obtain ⟨running, same⟩ := Worker.tick_running other stepped
  have before : s.heartbeats.isDone i = false := by simp [Heartbeats.isDone, located, running]
  refine ⟨before, ?_, fun j far => (others j far).1, ?_⟩
  · funext j
    by_cases here : j = i
    · subst here
      simp [Heartbeats.isFinished, located, located', same]
    · exact (others j here).2
  · unfold tick at taken
    obtain ⟨h, ticked', rfl⟩ := Option.map_eq_some_iff.1 taken
    have kind : h.kind = .async :=
      (congrArg Prod.fst (Heartbeats.settings_tick ticked')).trans async
    simp only [kind, before, Bool.not_false, Bool.and_true]
    cases ended : h.isDone i <;> simp [ended]

theorem loop_tick {s s' : System} {i : Nat} {t : Tick} (async : s.heartbeats.kind = .async)
    (other : t ≠ .doneCallback) (slots : s.Slots) (loop : s.Loop) (taken : s.tick i t = some s') :
    s'.Loop := by
  obtain ⟨running, finished, others, ready⟩ := tick_async async other taken
  obtain ⟨-, -, closes, gathers, -⟩ := tick_frame taken
  have begun : ∀ k, s.Begun k → s'.Begun k := by
    simp only [Begun, closes]
    exact fun _ held => held
  have far : ∀ j, s.heartbeats.isDone j = true → s'.heartbeats.isDone j = true := by
    intro j ended
    have apart : j ≠ i := by
      rintro rfl
      rw [running] at ended
      cases ended
    rw [others j apart]
    exact ended
  have unfinished : s.heartbeats.isFinished i = false := by
    by_contra ended
    rw [Heartbeats.finished_done slots.sound (by simpa using ended)] at running
    cases running
  refine ⟨?_, ?_, ?_, ?_, ?_, ?_⟩
  · intro j waiting
    rw [finished]
    rcases ready with ⟨-, same⟩ | ⟨ended, same⟩ <;> rw [same] at waiting
    · exact ⟨far j (loop.finish j waiting).1, (loop.finish j waiting).2⟩
    · rcases List.mem_append.1 waiting with old | new
      · exact ⟨far j (loop.finish j old).1, (loop.finish j old).2⟩
      · simp only [doneCallbacks, List.mem_cons, Callback.finish.injEq, List.mem_map,
          reduceCtorEq, and_false, exists_false, or_false] at new
        subst new
        exact ⟨ended, unfinished⟩
  · intro j ended alive
    rw [finished] at alive
    by_cases here : j = i
    · subst here
      rcases ready with ⟨still, -⟩ | ⟨-, same⟩
      · rw [still] at ended
        cases ended
      · rw [same]
        exact List.mem_append_right _ List.mem_cons_self
    · rw [others j here] at ended
      have old := loop.pending j ended alive
      rcases ready with ⟨-, same⟩ | ⟨-, same⟩ <;> rw [same]
      · exact old
      · exact List.mem_append_left _ old
  · intro k j waiting
    rcases ready with ⟨-, same⟩ | ⟨ended, same⟩ <;> rw [same] at waiting
    · exact ⟨far j (loop.gathered k j waiting).1, begun k (loop.gathered k j waiting).2⟩
    · rcases List.mem_append.1 waiting with old | new
      · exact ⟨far j (loop.gathered k j old).1, begun k (loop.gathered k j old).2⟩
      · simp only [doneCallbacks, List.mem_cons, reduceCtorEq, List.mem_map, List.mem_filter,
          decide_eq_true_eq, Callback.gathered.injEq, false_or] at new
        obtain ⟨⟨a, b⟩, ⟨registered, rfl⟩, rfl, rfl⟩ := new
        exact ⟨ended, begun b (loop.gathers a b registered)⟩
  · rw [gathers]
    exact fun j k registered => begun k (loop.gathers j k registered)
  · rcases ready with ⟨-, same⟩ | ⟨-, same⟩ <;> rw [same]
    · exact loop.once
    · exact nodup_doneCallbacks loop running
  · rw [gathers]
    exact loop.distinct

theorem awaited_tick {s s' : System} {i k : Nat} {t : Tick} {c : Close}
    (async : s.heartbeats.kind = .async) (other : t ≠ .doneCallback) (loop : s.Loop)
    (taken : s.tick i t = some s') (awaited : c.Awaited s.view k) : c.Awaited s'.view k := by
  obtain ⟨running, finished, others, ready⟩ := tick_async async other taken
  obtain ⟨-, -, -, gathers, -⟩ := tick_frame taken
  have near : ∀ j, s'.heartbeats.isDone j = false → s.heartbeats.isDone j = false := by
    intro j still
    by_cases here : j = i
    · rw [here]
      exact running
    · rw [← others j here]
      exact still
  refine ⟨?_, ?_, ?_⟩
  · intro j waiting still
    change (j, k) ∈ s'.gathers
    rw [gathers]
    exact awaited.registered j waiting (near j still)
  · intro j listed still
    exact awaited.running j listed (near j still)
  · intro j listed ended alive
    change s'.heartbeats.isDone j = true at ended
    change s'.heartbeats.isFinished j = false at alive
    rw [finished] at alive
    -- The callback of this `gather` on task `i`, when that has just ended.
    have heard : i ∈ c.awaiting → s'.heartbeats.isDone i = true → ∀ x ∈ s.ready ++ [.finish i],
        Before x (.gathered k i) s'.ready := by
      intro waiting now x first
      rcases ready with ⟨still, -⟩ | ⟨-, same⟩
      · rw [still] at now
        cases now
      · rw [same, show s.ready ++ s.doneCallbacks i = (s.ready ++ [.finish i]) ++
          (s.gathers.filter (·.1 = i)).map fun g => .gathered g.2 i by simp [doneCallbacks]]
        refine Before.of_append first (List.mem_map.2 ⟨(i, k), ?_, rfl⟩)
        exact List.mem_filter.2 ⟨awaited.registered i waiting running, by simp⟩
    by_cases here : j = i
    · subst here
      have waiting := awaited.running j listed running
      exact ⟨j, waiting, .inr (heard waiting ended _ (by simp))⟩
    · rw [others j here] at ended
      obtain ⟨m, waiting, still | before⟩ := awaited.ending j listed ended alive
      · refine ⟨m, waiting, ?_⟩
        by_cases same : m = i
        · subst same
          cases now : s'.heartbeats.isDone m with
          | false => exact .inl now
          | true =>
              exact .inr (heard waiting now _
                (List.mem_append_left _ (loop.pending j ended alive)))
        · exact .inl ((others m same).trans still)
      · refine ⟨m, waiting, .inr ?_⟩
        change Before _ _ s'.ready
        rcases ready with ⟨-, same⟩ | ⟨-, same⟩ <;> rw [same]
        · exact before
        · exact before.append _

/-! ## The next callback runs -/

theorem begun_setClose {s : System} {k : Nat} {c c' : Close} (located : s.closes[k]? = some c)
    (past : c.begun = true → c'.begun = true) (m : Nat) (held : s.Begun m) :
    (s.setClose k c').Begun m := by
  obtain ⟨d, place, begun⟩ := held
  by_cases here : m = k
  · subst here
    rw [located] at place
    cases place
    exact ⟨c', (located_set located).2 (.inl ⟨rfl, rfl⟩), past begun⟩
  · exact ⟨d, (located_set located).2 (.inr ⟨here, place⟩), begun⟩

theorem finish_effect {h h' : Heartbeats} {i : Nat} (ticked : h.tick i .doneCallback = some h') :
    h'.isDone = h.isDone ∧ ∀ j, h'.isFinished j = false → j ≠ i ∧ h.isFinished j = false := by
  obtain ⟨w, w', located, stepped, located', others⟩ := Heartbeats.done_tick ticked
  have ends : w.pc = .done ∧ w' = { w with finished := true } := by
    cases Worker.ticked stepped with
    | settled async pc => exact ⟨pc, rfl⟩
  obtain ⟨pc, rfl⟩ := ends
  constructor
  · funext j
    by_cases here : j = i
    · subst here
      simp [Heartbeats.isDone, located, located']
    · exact (others j here).1
  · intro j alive
    have apart : j ≠ i := by
      rintro rfl
      rw [Heartbeats.isFinished_iff.2 ⟨_, located', rfl⟩] at alive
      cases alive
    exact ⟨apart, (others j apart).2 ▸ alive⟩

theorem awaited_finish {s : System} {h : Heartbeats} {i k : Nat} {rest : List Callback} {c : Close}
    (next : s.ready = .finish i :: rest) (ticked : s.heartbeats.tick i .doneCallback = some h)
    (awaited : c.Awaited s.view k) :
    c.Awaited (System.view { s with ready := rest, heartbeats := h }) k := by
  obtain ⟨done, before⟩ := finish_effect ticked
  refine ⟨?_, ?_, ?_⟩
  · intro j waiting still
    change h.isDone j = false at still
    rw [done] at still
    exact awaited.registered j waiting still
  · intro j listed still
    change h.isDone j = false at still
    rw [done] at still
    exact awaited.running j listed still
  · intro j listed ended alive
    change h.isDone j = true at ended
    obtain ⟨apart, alive⟩ := before j alive
    rw [done] at ended
    obtain ⟨m, waiting, case⟩ := awaited.ending j listed ended alive
    refine ⟨m, waiting, ?_⟩
    change h.isDone m = false ∨ Before _ _ rest
    rw [done]
    refine case.imp_right fun first => ?_
    change Before _ _ s.ready at first
    rw [next] at first
    exact first.serve (by simpa using apart)

theorem callback_finish {s s' : System} {i : Nat} {rest : List Callback} (loop : s.Loop)
    (next : s.ready = .finish i :: rest)
    (taken : { s with ready := rest }.runCallback (.finish i) = some s') :
    s'.Loop ∧ s'.closes = s.closes ∧ ∀ k c, Close.Place s.view k c → Close.Place s'.view k c := by
  obtain ⟨h, ticked, rfl⟩ := Option.map_eq_some_iff.1 taken
  change s.heartbeats.tick i .doneCallback = some h at ticked
  have kind : h.kind = s.heartbeats.kind := congrArg Prod.fst (Heartbeats.settings_tick ticked)
  obtain ⟨done, before⟩ := finish_effect ticked
  obtain ⟨fresh, once⟩ := List.nodup_cons.1 (next ▸ loop.once)
  have old : ∀ x, x ∈ rest → x ∈ s.ready := by
    intro x waiting
    rw [next]
    exact List.mem_cons_of_mem _ waiting
  refine ⟨⟨?_, ?_, ?_, loop.gathers, once, loop.distinct⟩, rfl, ?_⟩
  · intro j waiting
    have apart : j ≠ i := by
      rintro rfl
      exact fresh waiting
    obtain ⟨w, w', -, -, -, others⟩ := Heartbeats.done_tick ticked
    change h.isDone j = true ∧ h.isFinished j = false
    rw [done, (others j apart).2]
    exact loop.finish j (old _ waiting)
  · intro j ended alive
    change h.isDone j = true at ended
    obtain ⟨apart, alive⟩ := before j alive
    rw [done] at ended
    have waiting := loop.pending j ended alive
    rw [next] at waiting
    rcases List.mem_cons.1 waiting with same | waiting
    · cases same
      exact (apart rfl).elim
    · exact waiting
  · intro k j waiting
    change h.isDone j = true ∧ _
    rw [done]
    exact loop.gathered k j (old _ waiting)
  · intro k c place
    exact place.transfer rfl rfl kind (fun j => Heartbeats.finished_tick ticked)
      fun _ => awaited_finish next ticked

theorem awaited_gathered {s : System} {k i : Nat} {rest : List Callback} {d : Close}
    (loop : s.Loop) (next : s.ready = .gathered k i :: rest) (awaited : d.Awaited s.view k)
    {v : View} (seen : v = { s.view with ready := rest }) :
    Close.Awaited v k { d with awaiting := d.awaiting.erase i } := by
  subst seen
  obtain ⟨fresh, -⟩ := List.nodup_cons.1 (next ▸ loop.once)
  have ended : s.heartbeats.isDone i = true := (loop.gathered k i (by simp [next])).1
  -- Task `i` has ended, and this was its only callback for this `gather`.
  have remains : ∀ j, j ∈ d.awaiting →
      s.heartbeats.isDone j = false ∨ Callback.gathered k j ∈ rest → j ∈ d.awaiting.erase i := by
    intro j waiting case
    apply (List.mem_erase_of_ne _).2 waiting
    rintro rfl
    rcases case with still | again
    · rw [ended] at still
      cases still
    · exact fresh again
  refine ⟨?_, ?_, ?_⟩
  · exact fun j waiting => awaited.registered j (List.mem_of_mem_erase waiting)
  · exact fun j listed still => remains j (awaited.running j listed still) (.inl still)
  · intro j listed done alive
    obtain ⟨w, waiting, still | first⟩ := awaited.ending j listed done alive
    · exact ⟨w, remains w waiting (.inl still), .inl still⟩
    · change Before _ _ s.ready at first
      rw [next] at first
      have first := first.serve (by simp)
      exact ⟨w, remains w waiting (.inr first.mem.2), .inr first⟩

theorem callback_gathered {s s' : System} {k i : Nat} {rest : List Callback} (loop : s.Loop)
    (next : s.ready = .gathered k i :: rest)
    (taken : { s with ready := rest }.runCallback (.gathered k i) = some s') :
    s'.Loop ∧ ∀ k' c', s'.closes[k']? = some c' → ∃ c, s.closes[k']? = some c ∧
      c'.futures = c.futures ∧ (Close.Place s.view k' c → Close.Place s'.view k' c') := by
  obtain ⟨d, located, rfl⟩ := Option.map_eq_some_iff.1 taken
  change s.closes[k]? = some d at located
  have old : ∀ x, x ∈ rest → x ∈ s.ready := by
    intro x waiting
    rw [next]
    exact List.mem_cons_of_mem _ waiting
  have begun : ∀ m, s.Begun m → Begun ({ s with ready := rest }.setClose k
      { d with awaiting := d.awaiting.erase i }) m :=
    begun_setClose (s := { s with ready := rest }) located id
  refine ⟨⟨?_, ?_, ?_, ?_, (List.nodup_cons.1 (next ▸ loop.once)).2, loop.distinct⟩, ?_⟩
  · exact fun j waiting => loop.finish j (old _ waiting)
  · intro j done alive
    have waiting := loop.pending j done alive
    rw [next] at waiting
    exact (List.mem_cons.1 waiting).resolve_left (by simp)
  · exact fun m j waiting => ⟨(loop.gathered m j (old _ waiting)).1,
      begun m (loop.gathered m j (old _ waiting)).2⟩
  · exact fun j m registered => begun m (loop.gathers j m registered)
  · intro m c' place
    rcases (located_set located).1 place with ⟨rfl, rfl⟩ | ⟨apart, place⟩
    · refine ⟨d, located, rfl, fun held => held.transfer rfl rfl rfl (fun _ => id) ?_⟩
      exact fun _ awaited => awaited_gathered loop next awaited rfl
    · refine ⟨c', place, rfl, fun held => held.transfer rfl rfl rfl (fun _ => id) ?_⟩
      intro _ awaited
      refine ⟨awaited.registered, awaited.running, ?_⟩
      intro j listed done alive
      obtain ⟨w, waiting, case⟩ := awaited.ending j listed done alive
      refine ⟨w, waiting, case.imp_right fun first => ?_⟩
      change Before _ _ s.ready at first
      rw [next] at first
      exact first.serve (by simp)

end System

end Nzovu
