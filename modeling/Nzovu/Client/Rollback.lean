import Nzovu.Client.Protection

/-!
# A `start` that raises

`SyncHeartbeats.start` puts the map back when `submit` raises. Whether that undoes the start depends
on whether `submit` has left the work item on the queue.
-/

namespace Nzovu
open Tally Transition
open Worker (Tick)

namespace System

def LeftQueued (s : System) (claim : Claim) (submit : Submit) : Prop :=
  submit.late = true ∧ s.heartbeats.closed = false ∧ s.heartbeats.workers.get? claim = none

/-- The `start` of call `j`, from `s` to `s'`, raises and comes to nothing. The failed worker has the
next number. -/
structure AtomicFailure (s : System) (j : Nat) (s' : System) : Prop where
  reserved : ∃ c : Call, s.calls[j]? = some c ∧ c.acquired = 1 ∧ c.released = 0
  workers : s'.heartbeats.workers = s.heartbeats.workers
  reservations : s'.heartbeats.reservations = s.heartbeats.reservations
  closed : s'.heartbeats.closed = s.heartbeats.closed
  others : ∀ i < s.heartbeats.objects.length,
    s'.heartbeats.objects[i]? = s.heartbeats.objects[i]?
  released : ∀ later t t', run step s' later = some t → t.step (.advance j .leave) = some t' →
    t'.heartbeats.workers = t.heartbeats.workers ∧
      t'.heartbeats.reservations = t.heartbeats.reservations - 1
  silent : ∀ later t, run step s' later = some t →
    (∀ k, Action.tick s.heartbeats.objects.length k ∉ later) ∧
      ∀ claim, t.heartbeats.workers.get? claim ≠ some s.heartbeats.objects.length

theorem traits_call {h h' : Heartbeats} {j : Nat} {c c' : Call} {st : CallStep}
    (formed : c.Formed) (made : c.getNextMessage h j st = some (h', c')) :
    ∃ more, h'.traits = h.traits ++ more := by
  rcases Call.handed_getNextMessage formed made with
    ⟨-, same⟩ | ⟨now, submit, claim, -, -, -, same, -⟩
  · exact ⟨[], by rw [same, List.append_nil]⟩
  · rw [same]
    rcases Heartbeats.start_cases h claim now j submit with
      ⟨-, e, same⟩ | ⟨-, ⟨-, same⟩ | ⟨e, -, -, same⟩ | ⟨e, -, -, same⟩ | ⟨e, -, same⟩⟩ <;>
      rw [same, Heartbeats.traits_add] <;> exact ⟨_, rfl⟩

theorem traits_step {s s' : System} {a : Action} (slots : s.Slots) (taken : s.step a = some s') :
    ∃ more, s'.heartbeats.traits = s.heartbeats.traits ++ more := by
  apply heartbeats_step (R := fun h => ∃ more, h.traits = s.heartbeats.traits ++ more) taken
  · exact fun located made => traits_call (slots.formed _ _ located) made
  · intro i t h ticked
    exact ⟨[], by rw [Heartbeats.traits_tick ticked, List.append_nil]⟩
  · intro h flagged
    exact ⟨[], by rw [Heartbeats.traits_flagged flagged, List.append_nil]⟩

def Dormant (i : Nat) (s : System) : Prop :=
  ∃ claim owner, s.heartbeats.traits[i]? = some (claim, false, owner, false)

theorem dormant_step {s s' : System} {a : Action} {i : Nat} (slots : s.Slots)
    (dormant : Dormant i s) (taken : s.step a = some s') :
    Dormant i s' ∧ ∀ t, a ≠ .tick i t := by
  obtain ⟨claim, owner, place⟩ := dormant
  constructor
  · obtain ⟨more, traits⟩ := traits_step slots taken
    refine ⟨claim, owner, ?_⟩
    rw [traits, List.getElem?_append_left (List.getElem?_eq_some_iff.1 place).1]
    exact place
  · rintro t rfl
    cases effect taken with
    | ticked shape ticked calls =>
        rename_i k u
        rcases shape with same | ⟨other, -⟩
        · cases same
          obtain ⟨w, w', located, stepped, -⟩ := Heartbeats.tick_cases ticked
          obtain ⟨launched, -⟩ := Worker.tick_launched stepped
          rw [Heartbeats.traits, List.getElem?_map, located] at place
          simp only [Option.map_some, Worker.traits, Option.some.injEq, Prod.mk.injEq,
            decide_eq_false_iff_not, not_not] at place
          exact launched place.2.2.2
        · cases other
    | still shape heartbeats calls =>
        rcases shape with other | ⟨k, st, other⟩ <;> cases other

theorem dormant_entry {s : System} {i : Nat} (slots : s.Slots) (dormant : Dormant i s)
    (claim : Claim) : s.heartbeats.workers.get? claim ≠ some i := by
  intro entry
  obtain ⟨w, located, -, live⟩ := (slots.sound.mapped claim i).1 entry
  obtain ⟨c, owner, place⟩ := dormant
  rw [Heartbeats.traits, List.getElem?_map, located] at place
  simp only [Option.map_some, Worker.traits, Option.some.injEq, Prod.mk.injEq] at place
  simp [Worker.live, place.2.1] at live

theorem dormant_run {s s' : System} {trace : List Action} {i : Nat} (slots : s.Slots)
    (dormant : Dormant i s) (ran : run step s trace = some s') :
    (∀ t, Action.tick i t ∉ trace) ∧ ∀ claim, s'.heartbeats.workers.get? claim ≠ some i := by
  have kept : ∀ s a s', s.Slots ∧ Dormant i s → s.step a = some s' → s'.Slots ∧ Dormant i s' :=
    fun s a s' held taken => ⟨slots_step held.1 taken, (dormant_step held.1 held.2 taken).1⟩
  constructor
  · intro t member
    have quiet := stable_through (P := fun a => ∀ t, a ≠ .tick i t) kept
      (fun s a s' held taken => (dormant_step held.1 held.2 taken).2) ⟨slots, dormant⟩ ran
    exact quiet _ member t rfl
  · obtain ⟨slots', dormant'⟩ := invariant kept ⟨slots, dormant⟩ ran
    exact dormant_entry slots' dormant'

def Leaving (j : Nat) (s : System) : Prop :=
  ∃ c : Call, s.calls[j]? = some c ∧
    ((∃ e, c.phase = .leaving (.error e)) ∧ c.reserved = true ∨ ∃ o, c.phase = .done o)

theorem leaving_call {h h' : Heartbeats} {j : Nat} {c c' : Call} {st : CallStep}
    (leaving : (∃ e, c.phase = .leaving (.error e)) ∧ c.reserved = true ∨ ∃ o, c.phase = .done o)
    (taken : c.getNextMessage h j st = some (h', c')) :
    h' = h.release ∧ ∃ o, c'.phase = .done o := by
  cases Call.moved taken with
  | released outcome phase => exact ⟨rfl, outcome, rfl⟩
  | _ => simp_all

theorem leaving_step {s s' : System} {a : Action} {j : Nat} (leaving : Leaving j s)
    (taken : s.step a = some s') : Leaving j s' := by
  obtain ⟨c, located, held⟩ := leaving
  rcases call_step located taken with same | ⟨st, c', -, place, made⟩
  · exact ⟨c, same, held⟩
  · exact ⟨c', place, .inr (leaving_call held made).2⟩

theorem leaving_release {s s' : System} {j : Nat} (leaving : Leaving j s)
    (taken : s.step (.advance j .leave) = some s') :
    s'.heartbeats.workers = s.heartbeats.workers ∧
      s'.heartbeats.reservations = s.heartbeats.reservations - 1 := by
  obtain ⟨c, located, held⟩ := leaving
  obtain ⟨d, place, moved⟩ := Option.bind_eq_some_iff.1 taken
  obtain ⟨⟨h, d'⟩, made, rfl⟩ := Option.map_eq_some_iff.1 moved
  rw [located] at place
  cases place
  obtain ⟨rfl, -⟩ := leaving_call held made
  exact ⟨rfl, rfl⟩

theorem start_raised {h h' : Heartbeats} {j : Nat} {c c' : Call} {claim : Claim} {now : ℚ}
    {submit : Submit} {e : Exc} (phase : c.phase = .start claim)
    (made : c.getNextMessage h j (.start now submit) = some (h', c'))
    (raised : c'.phase = .leaving (.error e)) :
    h.start claim now j submit = (h', some e) ∧ c' = { c with phase := .leaving (.error e) } := by
  cases Call.moved made with
  | started _ _ claim' phase' possible outcome => cases raised
  | unstarted _ _ claim' e' phase' possible outcome =>
      rw [phase] at phase'
      cases phase'
      cases raised
      exact ⟨outcome, rfl⟩

theorem rolledBack_atomic {s s' : System} {j : Nat} {c c' : Call} {claim : Claim} {now : ℚ}
    {e : Exc} (slots : s.Slots) (slots' : s'.Slots) (located : s.calls[j]? = some c)
    (phase : c.phase = .start claim) (located' : s'.calls[j]? = some c')
    (leaving : c' = { c with phase := .leaving (.error e) })
    (added : s'.heartbeats = s.heartbeats.add (.create claim now j)) : s.AtomicFailure j s' := by
  have formed := slots.formed j c located
  have place := formed.place
  have balance := formed.balance
  simp only [Call.Place, phase] at place
  simp only [Call.holds, Call.handed, phase, place.1] at balance
  have once := formed.once
  simp only [Option.isSome_none, Bool.false_eq_true, ↓reduceIte] at balance
  have dormant : Dormant s.heartbeats.objects.length s' := by
    refine ⟨claim, j, ?_⟩
    rw [added, Heartbeats.traits_add]
    simp [Heartbeats.traits, Worker.traits, Worker.create]
  have out : Leaving j s' := ⟨c', located', .inl ⟨⟨e, by rw [leaving]⟩, by rw [leaving]; exact place.1⟩⟩
  refine ⟨⟨c, located, by omega, by omega⟩, by rw [added]; rfl, by rw [added]; rfl,
    by rw [added]; rfl, ?_, ?_, fun later t ran => dormant_run slots' dormant ran⟩
  · intro i before
    rw [added]
    exact List.getElem?_append_left before
  · intro later t t' ran taken
    exact leaving_release (invariant (fun _ _ _ => leaving_step) out ran) taken

theorem start_atomic (limits : Limits) (eagerGather : Bool) (trace : List Action) (s s' : System)
    (j : Nat) (c : Call) (claim : Claim) (now : ℚ) (submit : Submit) (e : Exc)
    (ran : run step (create .sync limits eagerGather) trace = some s)
    (located : s.calls[j]? = some c) (phase : c.phase = .start claim)
    (taken : s.step (.advance j (.start now submit)) = some s')
    (raised : s'.calls[j]?.map Call.phase = some (.leaving (.error e))) :
    s.AtomicFailure j s' ↔ ¬ s.LeftQueued claim submit := by
  have slots := slots_run ran
  have slots' := slots_step slots taken
  have kind : s.heartbeats.kind = .sync := congrArg Prod.fst (settings_run ran)
  obtain ⟨d, there, moved⟩ := Option.bind_eq_some_iff.1 taken
  rw [located] at there
  cases there
  obtain ⟨⟨h, c'⟩, made, rfl⟩ := Option.map_eq_some_iff.1 moved
  have located' : (s.calls.set j c')[j]? = some c' := (located_set located).2 (.inl ⟨rfl, rfl⟩)
  simp only [located', Option.map_some, Option.some.injEq] at raised
  obtain ⟨outcome, leaving⟩ := start_raised phase made raised
  have atomic : h = s.heartbeats.add (.create claim now j) → s.AtomicFailure j
      { s with heartbeats := h, calls := s.calls.set j c' } :=
    rolledBack_atomic slots slots' located phase located' leaving
  rcases Heartbeats.start_cases s.heartbeats claim now j submit with
    ⟨refused, e', same⟩ | ⟨⟨isOpen, new⟩, ⟨-, same⟩ | ⟨e', rfl, -, same⟩ | ⟨e', -, async, -⟩ |
      ⟨e', rfl, same⟩⟩
  · rw [outcome] at same
    cases same
    refine ⟨fun _ => ?_, fun _ => atomic rfl⟩
    rintro ⟨-, isOpen, new⟩
    rcases refused with closed | present
    · rw [isOpen] at closed
      cases closed
    · exact present new
  · rw [outcome] at same
    cases same
  · rw [outcome] at same
    cases same
    refine ⟨fun _ => ?_, fun _ => atomic rfl⟩
    rintro ⟨late, -⟩
    cases late
  · rw [kind] at async
    cases async
  · rw [outcome] at same
    cases same
    refine ⟨fun failure => ?_, fun notLeft => (notLeft ⟨rfl, isOpen, new⟩).elim⟩
    -- The pool thread that becomes idle begins the item.
    have begins : ∃ t, run step { s with
        heartbeats := s.heartbeats.add ((Worker.create claim now j).launch none false)
        calls := s.calls.set j c' } [.tick s.heartbeats.objects.length .begin] = some t := by
      simp [run, step, tick, Heartbeats.tick, Heartbeats.add, Worker.tick, Worker.launch]
    obtain ⟨t, ran'⟩ := begins
    exact ((failure.silent _ t ran').1 .begin (List.mem_singleton.2 rfl)).elim

def startingTrace : List Action := .call (text "q") true :: claiming 0 (text "m")

theorem start_atomic_raised :
    ∃ s s', run step (create .sync .single false) startingTrace = some s ∧
      s.step (.advance 0 (.start 0 (.raised ⟨.runtimeError, text "shutdown"⟩))) = some s' ∧
      s.AtomicFailure 0 s' := by
  have facts : (run step (create .sync .single false) startingTrace).any (fun s =>
      s.calls[0]?.any (fun c => c.phase = .start .sample) &&
      (s.step (.advance 0 (.start 0 (.raised ⟨.runtimeError, text "shutdown"⟩)))).any fun s' =>
        s'.calls[0]?.map Call.phase = some (.leaving (.error ⟨.runtimeError, text "shutdown"⟩))) =
      true := by decide +kernel
  obtain ⟨s, ran, facts⟩ := (Option.any_eq_true _ _).1 facts
  obtain ⟨start, facts⟩ := Bool.and_eq_true_iff.1 facts
  obtain ⟨c, located, phase⟩ := (Option.any_eq_true _ _).1 start
  obtain ⟨s', taken, raised⟩ := (Option.any_eq_true _ _).1 facts
  refine ⟨s, s', ran, taken, ?_⟩
  refine (start_atomic .single false startingTrace s s' 0 c .sample 0 _ _ ran located
    (by simpa using phase) taken (by simpa using raised)).2 ?_
  rintro ⟨late, -⟩
  cases late

/-- The thread of worker 0 is busy when the second `submit` queues its item and raises. The call
gives its slot back, and the thread, idle again, runs the item. -/
def leftQueuedTrace : List Action :=
  .call (text "q") true :: .call (text "q") true :: claiming 0 (text "m") ++
    [.advance 0 (.start 0 .scheduled), .advance 0 .handOver, .advance 0 .leave] ++
    claiming 1 (text "n")

def leftoverTrace : List Action := .advance 1 .leave :: dismissal 0 ++ dismissal 1

/-- A slot that nobody held has been given back: `reservations` is negative with no call in flight
and no live worker. -/
theorem start_leaves_worker :
    ∃ s s' t, run step (create .sync .standard false) leftQueuedTrace = some s ∧
      s.step (.advance 1 (.start 0 (.raisedLate ⟨.runtimeError, text "no new thread"⟩))) =
        some s' ∧
      run step s' leftoverTrace = some t ∧ t.heartbeats.reservations = -1 ∧
      t.calls.countP Call.holds = 0 ∧ t.heartbeats.objects.countP Worker.live = 0 ∧
      ¬ s.AtomicFailure 1 s' := by
  have facts : (run step (create .sync .standard false) leftQueuedTrace).any (fun s =>
      decide (s.heartbeats.objects.length = 1) &&
      (s.step (.advance 1 (.start 0
          (.raisedLate ⟨.runtimeError, text "no new thread"⟩)))).any fun s' =>
        (run step s' leftoverTrace).map (fun t => (t.heartbeats.reservations,
          t.calls.countP Call.holds, t.heartbeats.objects.countP Worker.live)) =
        some (-1, 0, 0)) = true := by decide +kernel
  obtain ⟨s, ran, facts⟩ := (Option.any_eq_true _ _).1 facts
  obtain ⟨length, facts⟩ := Bool.and_eq_true_iff.1 facts
  obtain ⟨s', taken, facts⟩ := (Option.any_eq_true _ _).1 facts
  obtain ⟨t, ran', same⟩ := Option.map_eq_some_iff.1 (of_decide_eq_true facts)
  simp only [Prod.mk.injEq] at same
  obtain ⟨reservations, holding, living⟩ := same
  refine ⟨s, s', t, ran, taken, ran', reservations, holding, living, ?_⟩
  intro failure
  have quiet := (failure.silent _ t ran').1 .begin
  rw [of_decide_eq_true length] at quiet
  exact quiet (by decide +kernel)

end System

end Nzovu
