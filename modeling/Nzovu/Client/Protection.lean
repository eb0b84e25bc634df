import Nzovu.Client.Admission

/-!
# Admission before claiming

A `GetNextMessage` request is covered by a slot of its own call, and a claim that a call returns is
under the care of a worker that this very call registered.
-/

namespace Nzovu
open Tally Transition
open Worker (Tick)

namespace Call

def Refused (c : Call) : Prop :=
  c.requests = 0 ∧ ∃ e, c.phase = .leaving (.error e) ∨ c.phase = .done (.error e)

theorem refused_getNextMessage {h h' : Heartbeats} {j : Nat} {c c' : Call} {s : CallStep}
    (refused : c.Refused) (taken : c.getNextMessage h j s = some (h', c')) : c'.Refused := by
  obtain ⟨requests, e, out⟩ := refused
  cases moved taken with
  | released outcome phase | left outcome phase =>
      rw [phase] at out
      rcases out with same | same
      · cases same
        exact ⟨requests, e, .inr rfl⟩
      · cases same
  | _ => simp_all

theorem reserve_refused {h h' : Heartbeats} {j : Nat} {c c' : Call} (formed : c.Formed)
    (full : h.closed = true ∨ h.limits.capacity ≤ h.reservations)
    (taken : c.getNextMessage h j .reserve = some (h', c')) : c'.Refused := by
  have place := formed.place
  cases moved taken with
  | saturated e phase =>
      simp only [Place, phase] at place
      exact ⟨place.2.2.1, e, .inl rfl⟩
  | reserved phase made =>
      obtain ⟨isOpen, room, -⟩ := Heartbeats.reserve_ok made
      rcases full with closed | saturated
      · rw [isOpen] at closed
        cases closed
      · omega

theorem send_holds {h h' : Heartbeats} {j : Nat} {c c' : Call} (formed : c.Formed)
    (taken : c.getNextMessage h j .send = some (h', c')) (enabled : c.enableHeartbeat = true) :
    c.holds = true := by
  have place := formed.place
  cases moved taken with
  | sent phase =>
      simp only [Place, phase] at place
      simp [holds, phase, place.1, enabled]

end Call

namespace System

theorem call_step {s s' : System} {a : Action} {j : Nat} {c : Call} (located : s.calls[j]? = some c)
    (taken : s.step a = some s') :
    s'.calls[j]? = some c ∨ ∃ st c', a = .advance j st ∧ s'.calls[j]? = some c' ∧
      c.getNextMessage s.heartbeats j st = some (s'.heartbeats, c') := by
  cases effect taken with
  | called heartbeats calls =>
      rw [calls]
      exact .inl (located_append.2 (.inl located))
  | advanced place made calls =>
      rename_i k st d d'
      rw [calls]
      by_cases here : j = k
      · subst here
        rw [located] at place
        cases place
        exact .inr ⟨st, d', rfl, (located_set located).2 (.inl ⟨rfl, rfl⟩), made⟩
      · exact .inl ((located_set place).2 (.inr ⟨here, located⟩))
  | ticked shape ticked calls => exact .inl (calls ▸ located)
  | operated heartbeats calls => exact .inl (calls ▸ located)
  | closed heartbeats calls => exact .inl (calls ▸ located)
  | still shape heartbeats calls => exact .inl (calls ▸ located)

theorem refused_run {s s' : System} {j : Nat} {trace : List Action}
    (refused : ∃ c : Call, s.calls[j]? = some c ∧ c.Refused)
    (ran : run step s trace = some s') : ∃ c : Call, s'.calls[j]? = some c ∧ c.Refused := by
  refine invariant (I := fun s => ∃ c : Call, s.calls[j]? = some c ∧ c.Refused) ?_ refused ran
  rintro t a t' ⟨c, located, refused⟩ taken
  rcases call_step located taken with same | ⟨st, c', -, place, made⟩
  · exact ⟨c, same, refused⟩
  · exact ⟨c', place, Call.refused_getNextMessage refused made⟩

/-- What is left out is the worker of a call whose `create_task` raised. -/
structure Protected (kind : Kind) (limits : Limits) (eagerGather : Bool) (trace : List Action)
    (s : System) : Prop where
  request : ∀ before after j, trace = before ++ .advance j .send :: after →
    ∃ (t : System) (c : Call), run step (create kind limits eagerGather) before = some t ∧
      t.calls[j]? = some c ∧ (c.enableHeartbeat = true → c.holds = true)
  refused : ∀ before after j t, trace = before ++ .advance j .reserve :: after →
    run step (create kind limits eagerGather) before = some t →
    (t.heartbeats.closed = true ∨ limits.capacity ≤ t.heartbeats.reservations) →
    ∃ c : Call, s.calls[j]? = some c ∧ c.Refused
  bounded : s.calls.countP Call.holds + s.heartbeats.objects.countP (fun w => w.live &&
    decide (w.owner ∉ project step losses (create kind limits eagerGather) trace)) ≤ limits.capacity
  returned : ∀ (j : Nat) (c : Call) claim, s.calls[j]? = some c → c.enableHeartbeat = true →
    c.phase = .done (.ok (some claim)) →
    ∃ w ∈ s.heartbeats.objects, w.owner = j ∧ w.registered = true ∧ w.claim = claim
  slot : ∀ (j : Nat) (c : Call) outcome, s.calls[j]? = some c → c.phase = .done outcome →
    (∀ claim, outcome ≠ .ok (some claim)) → c.released = c.acquired ∧ c.acquired ≤ 1
  failed : ∀ (j : Nat) (c : Call) outcome, s.calls[j]? = some c → c.phase = .done outcome →
    (∀ claim, outcome ≠ .ok (some claim)) →
    j ∉ project step losses (create kind limits eagerGather) trace →
    ∀ w ∈ s.heartbeats.objects, w.owner = j → w.registered = false ∧ w.pc = .unscheduled ∧
      ∀ claim i, s.heartbeats.workers.get? claim = some i → s.heartbeats.objects[i]? ≠ some w

theorem protected_request {kind : Kind} {limits : Limits} {eagerGather : Bool}
    {before after : List Action} {s : System} {j : Nat}
    (ran : run step (create kind limits eagerGather) (before ++ .advance j .send :: after) =
      some s) :
    ∃ (t : System) (c : Call), run step (create kind limits eagerGather) before = some t ∧
      t.calls[j]? = some c ∧ (c.enableHeartbeat = true → c.holds = true) := by
  obtain ⟨t, t', reached, taken, -⟩ := run_through ran
  obtain ⟨c, located, moved⟩ := Option.bind_eq_some_iff.1 taken
  obtain ⟨⟨h, c'⟩, made, -⟩ := Option.map_eq_some_iff.1 moved
  have formed := (slots_run reached).formed j c located
  exact ⟨t, c, reached, located, Call.send_holds formed made⟩

theorem protected_refused {kind : Kind} {limits : Limits} {eagerGather : Bool}
    {before after : List Action} {s t : System} {j : Nat}
    (ran : run step (create kind limits eagerGather) (before ++ .advance j .reserve :: after) =
      some s) (reached : run step (create kind limits eagerGather) before = some t)
    (full : t.heartbeats.closed = true ∨ limits.capacity ≤ t.heartbeats.reservations) :
    ∃ c : Call, s.calls[j]? = some c ∧ c.Refused := by
  obtain ⟨t', taken, rest⟩ := run_cons.1 (run_from ran reached)
  have capacity : t.heartbeats.limits = limits := congrArg Prod.snd (settings_run reached)
  obtain ⟨c, located, moved⟩ := Option.bind_eq_some_iff.1 taken
  obtain ⟨⟨h, c'⟩, made, rfl⟩ := Option.map_eq_some_iff.1 moved
  have formed := (slots_run reached).formed j c located
  refine refused_run ⟨c', ?_, ?_⟩ rest
  · exact (located_set located).2 (.inl ⟨rfl, rfl⟩)
  · exact Call.reserve_refused formed (by rw [capacity]; exact full) made

section Owned
variable {lost : List Nat} {s : System} (slots : s.Slots) (owned : s.Owned lost)
include owned

theorem protected_returned {j : Nat} {c : Call} {claim : Claim}
    (located : s.calls[j]? = some c) (enabled : c.enableHeartbeat = true)
    (phase : c.phase = .done (.ok (some claim))) :
    ∃ w ∈ s.heartbeats.objects, w.owner = j ∧ w.registered = true ∧ w.claim = claim := by
  have handed : c.handed = some claim := by simp [Call.handed, phase, enabled]
  obtain ⟨w, member, same⟩ := List.mem_map.1 (owned.calls j c claim located handed)
  simp only [Worker.traits, Prod.mk.injEq] at same
  obtain ⟨rfl, registered, rfl, -⟩ := same
  exact ⟨w, member, rfl, registered, rfl⟩

include slots

theorem unhanded_dormant {c : Call} {w : Worker} (member : w ∈ s.heartbeats.objects)
    (located : s.calls[w.owner]? = some c) (unhanded : c.handed = none) (kept : w.owner ∉ lost) :
    w.registered = false ∧ w.pc = .unscheduled ∧
      ∀ claim i, s.heartbeats.workers.get? claim = some i → s.heartbeats.objects[i]? ≠ some w := by
  have unregistered : w.registered = false := by
    cases registered : w.registered with
    | false => rfl
    | true =>
        rcases (owned.workers _ _ _ _ (List.mem_map.2 ⟨w, member, rfl⟩)).2 registered with
          ⟨-, d, place, handed⟩ | ⟨-, gone⟩
        · rw [located] at place
          cases place
          rw [unhanded] at handed
          cases handed
        · exact absurd gone kept
  refine ⟨unregistered, ?_, ?_⟩
  · by_contra launched
    rw [launched_owned owned member launched] at unregistered
    cases unregistered
  · intro claim i entry here
    obtain ⟨v, there, -, live⟩ := (slots.sound.mapped claim i).1 entry
    rw [here] at there
    cases there
    simp [Worker.live, unregistered] at live

theorem protected_bounded {limits : Limits} (same : s.heartbeats.limits = limits) :
    s.calls.countP Call.holds +
      s.heartbeats.objects.countP (fun w => w.live && decide (w.owner ∉ lost)) ≤
        limits.capacity := by
  have workers : tally Worker.weight s.heartbeats.objects =
      s.heartbeats.objects.countP fun w => w.live && decide (w.pc ≠ .unscheduled) := by
    rw [tally_congr fun w => weight_owned slots owned, tally_indicator]
  have calls : tally Call.weight s.calls = s.calls.countP Call.holds :=
    tally_indicator Call.holds s.calls
  have fewer : s.heartbeats.objects.countP (fun w => w.live && decide (w.owner ∉ lost)) ≤
      s.heartbeats.objects.countP fun w => w.live && decide (w.pc ≠ .unscheduled) := by
    apply List.countP_mono_left
    intro w member both
    obtain ⟨live, kept⟩ := Bool.and_eq_true_iff.1 both
    have launched := live_launched owned member live (of_decide_eq_true kept)
    exact Bool.and_eq_true_iff.2 ⟨live, decide_eq_true launched⟩
  have owed := slots.owed
  have within := slots.sound.within
  simp only [Heartbeats.owed] at owed
  rw [same] at within
  omega

end Owned

section Unclaimed
variable {s : System} (slots : s.Slots) {j : Nat} {c : Call} {outcome : Except Exc (Option Claim)}
  (located : s.calls[j]? = some c) (phase : c.phase = .done outcome)
  (without : ∀ claim, outcome ≠ .ok (some claim))
include phase without

theorem done_unhanded : c.handed = none := by
  rcases outcome with e | _ | claim
  · simp [Call.handed, phase]
  · simp [Call.handed, phase]
  · exact (without claim rfl).elim

include slots located

theorem protected_slot : c.released = c.acquired ∧ c.acquired ≤ 1 := by
  have formed := slots.formed j c located
  have place := formed.place
  simp only [Call.Place, phase] at place
  have balance := formed.balance
  rw [done_unhanded phase without] at balance
  simp only [Call.holds, phase, place] at balance
  exact ⟨by simpa using balance.symm, formed.once⟩

end Unclaimed

theorem admission_before_claiming (kind : Kind) (limits : Limits) (eagerGather : Bool)
    (trace : List Action) (s : System)
    (ran : run step (create kind limits eagerGather) trace = some s)
    (scheduled : Along step (fun _ a => late a = false) (create kind limits eagerGather) trace) :
    Protected kind limits eagerGather trace s := by
  have slots := slots_run ran
  have owned := owned_losses ran scheduled
  have settings : s.heartbeats.limits = limits := congrArg Prod.snd (settings_run ran)
  refine ⟨?_, ?_, protected_bounded slots owned settings, ?_, ?_, ?_⟩
  · rintro before after j rfl
    exact protected_request ran
  · rintro before after j t rfl reached full
    exact protected_refused ran reached full
  · intro j c claim located enabled phase
    exact protected_returned owned located enabled phase
  · intro j c outcome located phase without
    exact protected_slot slots located phase without
  · rintro j c outcome located phase without kept w member rfl
    exact unhanded_dormant slots owned member located (done_unhanded phase without) kept

/-- A run of the asynchronous client in which one `create_task` raises. -/
theorem admission_before_claiming_protected :
    ∃ s, run step (create .async .standard true) taskLostTrace = some s ∧
      Protected .async .standard true taskLostTrace s := by
  obtain ⟨s, ran⟩ := Option.isSome_iff_exists.1
    (show (run step (create .async .standard true) taskLostTrace).isSome from by decide +kernel)
  exact ⟨s, ran, admission_before_claiming .async .standard true taskLostTrace s ran
    (by decide +kernel)⟩

def betweenReserveAndReturn (c : Call) : Bool :=
  decide (c.acquired = 1) && match c.phase with
    | .done _ => false
    | _ => true

def overtakenTrace : List Action :=
  .call (text "q") true :: .call (text "q") true :: claiming 0 (text "m") ++
    .advance 0 (.start 0 .scheduled) :: dismissal 0 ++
    [.advance 1 .ensureOpen, .advance 1 (.build none), .advance 1 .reserve]

/-- With one slot, two calls stand between their `reserve` and their return. With an asynchronous
client and a `create_task` that raises, a call that raised leaves its worker in the map. -/
theorem protection_exceeded :
    (run step (create .sync .single false) overtakenTrace).map (fun s =>
        (s.calls.countP betweenReserveAndReturn, s.heartbeats.objects.countP Worker.live)) =
      some (2, 0) ∧
    Along step (fun _ a => late a = false) (create .sync .single false) overtakenTrace ∧
    (run step (create .async .single true) taskLostTrace).map (fun s =>
        (s.calls.map Call.phase, s.heartbeats.workers.entries)) =
      some ([.done (.error ⟨.runtimeError, text "no task"⟩)], [(Claim.sample, 0)]) ∧
    Along step (fun _ a => late a = false) (create .async .single true) taskLostTrace := by
  refine ⟨?_, ?_, ?_, ?_⟩ <;> decide +kernel

end System

end Nzovu
