import Nzovu.Heartbeat.Registry
import Nzovu.Heartbeat.LoopBound

/-!
# Slots and entries of the registry

A worker that has been registered and launched owns one slot until its `finish`. One that was taken
out of the map again and runs nevertheless takes a slot away when it finishes. What is left of
`reservations` is owed to the calls.
-/

namespace Nzovu
open Tally
open Worker (Tick)

namespace Worker

/-- The slots that `reservations` counts for a worker. -/
def weight (w : Worker) : Int :=
  match w.registered, w.finished, w.pc with
  | true, false, .unscheduled => 0
  | true, false, _ => 1
  | false, true, _ => -1
  | _, _, _ => 0

structure Formed (kind : Kind) (i : Nat) (w : Worker) : Prop where
  finished_done : w.finished = true → w.pc = .done
  done_finished : kind = .sync → w.pc = .done → w.finished = true
  future : w.registered = true → w.pc ≠ .unscheduled → w.future = some i
  unscheduled : w.pc = .unscheduled → w.future = none ∧ w.finished = false ∧
    (kind = .sync → w.registered = false)

@[simp]
theorem weight_signalled (w : Worker) : w.signalled.weight = w.weight := rfl

theorem formed_create (kind : Kind) (i : Nat) (claim : Claim) (now : ℚ) (owner : Nat) :
    Formed kind i (create claim now owner) :=
  ⟨by simp [create], by simp [create], by simp [create], by simp [create]⟩

theorem formed_launch (kind : Kind) (i : Nat) (claim : Claim) (now : ℚ) (owner : Nat)
    {future : Option Nat} {registered : Bool} (own : registered = true → future = some i) :
    Formed kind i ((create claim now owner).launch future registered) :=
  ⟨by simp [create, launch], by simp [create, launch], fun held _ => own held,
    by simp [create, launch]⟩

theorem formed_unlaunched (i : Nat) (claim : Claim) (now : ℚ) (owner : Nat) :
    Formed .async i { create claim now owner with registered := true } :=
  ⟨by simp [create], by simp [create], by simp [create], by simp [create]⟩

theorem formed_signalled {kind : Kind} {i : Nat} {w : Worker} (h : Formed kind i w) :
    Formed kind i w.signalled :=
  ⟨h.finished_done, h.done_finished, h.future, h.unscheduled⟩

def traits (w : Worker) : Claim × Bool × Nat × Bool :=
  (w.claim, w.registered, w.owner, decide (w.pc ≠ .unscheduled))

theorem tick_launched {kind : Kind} {limits : Limits} {w w' : Worker} {t : Tick}
    (taken : w.tick kind limits t = some w') : w.pc ≠ .unscheduled ∧ w'.pc ≠ .unscheduled := by
  have before : w.pc ≠ .unscheduled := by
    intro pc
    cases t <;> simp [tick, pc] at taken
  exact ⟨before, launched_step (a := .tick t) before taken⟩

theorem traits_tick {kind : Kind} {limits : Limits} {w w' : Worker} {t : Tick}
    (taken : w.tick kind limits t = some w') : w'.traits = w.traits := by
  obtain ⟨claim, -, -, registered, owner⟩ := tick_keeps taken
  obtain ⟨before, after⟩ := tick_launched taken
  simp [traits, claim, registered, owner, before, after]

theorem tick_finished_done {kind : Kind} {limits : Limits} {w w' : Worker} {t : Tick}
    (h : w.finished = true → w.pc = .done) (taken : w.tick kind limits t = some w') :
    w'.finished = true → w'.pc = .done := by
  intro finished
  cases ticked taken with
  | replied r timeout pc =>
      rw [(handle_spec limits w r).2.1] at finished
      rw [h finished] at pc
      cases pc
  | cancelled | returned | ended => rfl
  | settled async pc => exact pc
  | _ => simp_all

theorem formed_tick {kind : Kind} {limits : Limits} {i : Nat} {w w' : Worker} {t : Tick}
    (h : Formed kind i w) (taken : w.tick kind limits t = some w') : Formed kind i w' := by
  obtain ⟨-, -, future, registered, -⟩ := tick_keeps taken
  obtain ⟨before, after⟩ := tick_launched taken
  refine ⟨tick_finished_done h.finished_done taken,
    finished_step (a := .tick t) h.done_finished taken, ?_, fun pc => (after pc).elim⟩
  intro held _
  rw [future]
  exact h.future (registered ▸ held) before

theorem weight_tick {kind : Kind} {limits : Limits} {w w' : Worker} {t : Tick}
    (taken : w.tick kind limits t = some w') (same : w'.finished = w.finished) :
    w'.weight = w.weight := by
  obtain ⟨-, -, -, registered, -⟩ := tick_keeps taken
  obtain ⟨before, after⟩ := tick_launched taken
  unfold weight
  rw [same, registered]
  split <;> split <;> simp_all

theorem weight_finish {kind : Kind} {limits : Limits} {w w' : Worker} {t : Tick}
    (taken : w.tick kind limits t = some w') (before : w.finished = false)
    (after : w'.finished = true) : w'.weight = w.weight - 1 := by
  obtain ⟨-, -, -, registered, -⟩ := tick_keeps taken
  obtain ⟨launched, -⟩ := tick_launched taken
  unfold weight
  rw [before, after, registered]
  cases w.registered
  · simp
  · cases pc : w.pc <;> simp_all

end Worker

namespace Heartbeats

def owed (h : Heartbeats) : Int := h.reservations - tally Worker.weight h.objects

def Mapped (h : Heartbeats) : Prop :=
  ∀ c i, h.workers.get? c = some i ↔
    ∃ w, h.objects[i]? = some w ∧ w.claim = c ∧ w.live = true

structure Sound (h : Heartbeats) : Prop where
  mapped : h.Mapped
  formed : ∀ i w, h.objects[i]? = some w → Worker.Formed h.kind i w
  within : h.reservations ≤ h.limits.capacity

theorem sound_create (kind : Kind) (limits : Limits) : (create kind limits).Sound :=
  ⟨by simp [Mapped, create], by simp [create], by simp [create]⟩

theorem sound_reserve {h h' : Heartbeats} (sound : h.Sound) (ok : h.reserve = .ok h') :
    h'.Sound ∧ h'.owed = h.owed + 1 := by
  obtain ⟨-, room, rfl⟩ := reserve_ok ok
  refine ⟨⟨sound.mapped, sound.formed, Int.add_one_le_of_lt room⟩, ?_⟩
  simp only [owed]
  omega

theorem sound_release {h : Heartbeats} (sound : h.Sound) :
    h.release.Sound ∧ h.release.owed = h.owed - 1 := by
  have within := sound.within
  refine ⟨⟨sound.mapped, sound.formed, ?_⟩, ?_⟩
  · simp only [release]
    omega
  · simp only [release, owed]
    omega

theorem sound_flagged {h h' : Heartbeats} (sound : h.Sound) (flagged : h.Flagged h') :
    h'.Sound ∧ h'.owed = h.owed := by
  obtain ⟨numbers, objects, closed, rfl, -, flags⟩ := flagged
  refine ⟨⟨?_, ?_, sound.within⟩, ?_⟩
  · intro c i
    apply (sound.mapped c i).trans
    simp only [flags i, Option.map_eq_some_iff]
    constructor
    · rintro ⟨w, located, claim, live⟩
      refine ⟨_, ⟨w, located, rfl⟩, ?_⟩
      split <;> exact ⟨claim, live⟩
    · rintro ⟨w', ⟨w, located, rfl⟩, claim, live⟩
      refine ⟨w, located, ?_⟩
      split at claim <;> split at live <;> exact ⟨claim, live⟩
  · intro i w located
    simp only [flags i, Option.map_eq_some_iff] at located
    obtain ⟨v, placed, rfl⟩ := located
    have formed := sound.formed i v placed
    split
    · exact Worker.formed_signalled formed
    · exact formed
  · have same : objects.map Worker.weight = h.objects.map Worker.weight := by
      apply List.ext_getElem?
      intro i
      rw [List.getElem?_map, List.getElem?_map, flags i, Option.map_map]
      congr 1
      funext w
      by_cases here : i ∈ numbers <;> simp [here]
    simp only [owed, tally, same]

theorem located_add {h : Heartbeats} {w v : Worker} {i : Nat} :
    (h.add w).objects[i]? = some v ↔ h.objects[i]? = some v ∨ i = h.objects.length ∧ v = w :=
  located_append

theorem sound_add {h : Heartbeats} {w : Worker} (sound : h.Sound) (idle : w.live = false)
    (formed : Worker.Formed h.kind h.objects.length w) :
    (h.add w).Sound ∧ (h.add w).owed = h.owed - w.weight := by
  refine ⟨⟨?_, ?_, sound.within⟩, by simp only [owed, add, tally_append, tally_singleton]; omega⟩
  · intro c i
    apply (sound.mapped c i).trans
    constructor
    · rintro ⟨v, located, rest⟩
      exact ⟨v, located_add.2 (.inl located), rest⟩
    · rintro ⟨v, located, claim, live⟩
      rcases located_add.1 located with inside | ⟨-, rfl⟩
      · exact ⟨v, inside, claim, live⟩
      · rw [idle] at live
        cases live
  · intro i v located
    rcases located_add.1 located with inside | ⟨rfl, rfl⟩
    · exact sound.formed i v inside
    · exact formed

theorem sound_register {h : Heartbeats} {w : Worker} (sound : h.Sound)
    (new : h.workers.get? w.claim = none) (live : w.live = true)
    (formed : Worker.Formed h.kind h.objects.length w) :
    ({ h with workers := h.workers.set w.claim h.objects.length }.add w).Sound ∧
      ({ h with workers := h.workers.set w.claim h.objects.length }.add w).owed =
        h.owed - w.weight := by
  refine ⟨⟨?_, ?_, sound.within⟩, by simp only [owed, add, tally_append, tally_singleton]; omega⟩
  · intro c i
    change (h.workers.set w.claim h.objects.length).get? c = some i ↔ _
    rw [Dict.get?_set]
    constructor
    · intro entry
      split at entry
      · rename_i own
        cases entry
        exact ⟨w, located_add.2 (.inr ⟨rfl, rfl⟩), own.symm, live⟩
      · obtain ⟨v, located, rest⟩ := (sound.mapped c i).1 entry
        exact ⟨v, located_add.2 (.inl located), rest⟩
    · rintro ⟨v, located, rfl, alive⟩
      rcases located_add.1 located with inside | ⟨rfl, rfl⟩
      · have entry := (sound.mapped v.claim i).2 ⟨v, inside, rfl, alive⟩
        have other : v.claim ≠ w.claim := by
          intro same
          rw [same, new] at entry
          cases entry
        rw [if_neg other]
        exact entry
      · exact if_pos rfl
  · intro i v located
    rcases located_add.1 located with inside | ⟨rfl, rfl⟩
    · exact sound.formed i v inside
    · exact formed

theorem sound_start {h : Heartbeats} (sound : h.Sound) (claim : Claim) (now : ℚ) (owner : Nat)
    (submit : Submit) :
    (h.start claim now owner submit).1.Sound ∧
      (h.start claim now owner submit).1.owed =
        h.owed - if (h.start claim now owner submit).2 = none then 1 else 0 := by
  rcases start_cases h claim now owner submit with
    ⟨-, e, same⟩ | ⟨⟨-, new⟩, ⟨-, same⟩ | ⟨e, -, -, same⟩ | ⟨e, -, async, same⟩ | ⟨e, -, same⟩⟩
  · rw [same]
    exact sound_add sound rfl (Worker.formed_create _ _ _ _ _)
  · rw [same]
    exact sound_register sound new rfl (Worker.formed_launch _ _ _ _ _ fun _ => rfl)
  · rw [same]
    exact sound_add sound rfl (Worker.formed_create _ _ _ _ _)
  · rw [same]
    exact sound_register sound new rfl (async ▸ Worker.formed_unlaunched _ _ _ _)
  · rw [same]
    exact sound_add sound rfl (Worker.formed_launch _ _ _ _ _ (by simp))

theorem finish_entry {h : Heartbeats} {i : Nat} {w w' : Worker} (mapped : h.Mapped)
    (located : h.objects[i]? = some w) (claim : w'.claim = w.claim) (c : Claim) (j : Nat) :
    ({ h with objects := h.objects.set i w' }.finish i w').workers.get? c = some j ↔
      h.workers.get? c = some j ∧ j ≠ i := by
  have own : ∀ d, h.workers.get? d = some i → d = w'.claim := by
    intro d held
    obtain ⟨v, place, same, -⟩ := (mapped d i).1 held
    rw [located] at place
    cases place
    exact same.symm.trans claim.symm
  simp only [finish]
  by_cases entry : h.workers.get? w'.claim = some i
  · rw [if_pos entry, Dict.get?_erase]
    by_cases here : c = w'.claim
    · subst here
      simp only [↓reduceIte, reduceCtorEq, entry, Option.some.injEq, false_iff, not_and, not_not]
      exact Eq.symm
    · rw [if_neg here]
      refine ⟨fun held => ⟨held, ?_⟩, And.left⟩
      rintro rfl
      exact here (own c held)
  · rw [if_neg entry]
    refine ⟨fun held => ⟨held, ?_⟩, And.left⟩
    rintro rfl
    rw [← own c held] at entry
    exact entry held

theorem mapped_finish {h : Heartbeats} {i : Nat} {w w' : Worker} (mapped : h.Mapped)
    (located : h.objects[i]? = some w) (claim : w'.claim = w.claim) (dead : w'.live = false) :
    Mapped ({ h with objects := h.objects.set i w' }.finish i w') := by
  intro c j
  rw [finish_entry mapped located claim, mapped c j]
  simp only [finish, located_set located]
  constructor
  · rintro ⟨⟨v, place, rest⟩, other⟩
    exact ⟨v, .inr ⟨other, place⟩, rest⟩
  · rintro ⟨v, ⟨-, rfl⟩ | ⟨other, place⟩, same, live⟩
    · rw [dead] at live
      cases live
    · exact ⟨⟨v, place, same, live⟩, other⟩

theorem sound_tick {h h' : Heartbeats} {i : Nat} {t : Tick} (sound : h.Sound)
    (taken : h.tick i t = some h') : h'.Sound ∧ h'.owed = h.owed := by
  obtain ⟨w, w', located, stepped, shape⟩ := tick_cases taken
  obtain ⟨claim, -, -, registered, -⟩ := Worker.tick_keeps stepped
  have formed : ∀ j v, (h.objects.set i w')[j]? = some v → Worker.Formed h.kind j v := by
    intro j v place
    rcases (located_set located).1 place with ⟨rfl, rfl⟩ | ⟨-, place⟩
    · exact Worker.formed_tick (sound.formed j w located) stepped
    · exact sound.formed j v place
  rcases shape with ⟨same, rfl⟩ | ⟨before, after, rfl⟩
  · have live : w'.live = w.live := by rw [Worker.live, Worker.live, same, registered]
    refine ⟨⟨?_, formed, sound.within⟩, ?_⟩
    · intro c j
      rw [sound.mapped c j]
      simp only [located_set located]
      constructor
      · rintro ⟨v, place, rest⟩
        by_cases here : j = i
        · subst here
          rw [located] at place
          cases place
          exact ⟨w', .inl ⟨rfl, rfl⟩, by rw [claim, live]; exact rest⟩
        · exact ⟨v, .inr ⟨here, place⟩, rest⟩
      · rintro ⟨v, ⟨rfl, rfl⟩ | ⟨-, place⟩, rest⟩
        · rw [claim, live] at rest
          exact ⟨w, located, rest⟩
        · exact ⟨v, place, rest⟩
    · simp only [owed]
      rw [tally_set_same Worker.weight located (Worker.weight_tick stepped same)]
  · refine ⟨⟨?_, formed, ?_⟩, ?_⟩
    · exact mapped_finish sound.mapped located claim (by simp [Worker.live, after])
    · have := sound.within
      simp only [finish]
      omega
    · simp only [owed, finish]
      rw [tally_set Worker.weight located, Worker.weight_finish stepped before after]
      omega

def traits (h : Heartbeats) : List (Claim × Bool × Nat × Bool) := h.objects.map Worker.traits

theorem traits_flagged {h h' : Heartbeats} (flagged : h.Flagged h') : h'.traits = h.traits := by
  obtain ⟨numbers, objects, closed, rfl, -, flags⟩ := flagged
  apply List.ext_getElem?
  intro i
  rw [traits, traits, List.getElem?_map, List.getElem?_map, flags i, Option.map_map]
  congr 1
  funext w
  by_cases here : i ∈ numbers <;> simp [here, Worker.signalled, Worker.traits]

theorem traits_tick {h h' : Heartbeats} {i : Nat} {t : Tick} (taken : h.tick i t = some h') :
    h'.traits = h.traits := by
  obtain ⟨w, w', located, stepped, objects⟩ := tick_objects taken
  apply List.ext_getElem?
  intro j
  rw [traits, traits, objects, List.getElem?_map, List.getElem?_map]
  by_cases here : j = i
  · subst here
    rw [(located_set located).2 (.inl ⟨rfl, rfl⟩), located]
    exact congrArg some (Worker.traits_tick stepped)
  · rw [List.getElem?_set_ne (Ne.symm here)]

theorem traits_add (h : Heartbeats) (w : Worker) : (h.add w).traits = h.traits ++ [w.traits] := by
  simp [traits, add]

theorem done_flagged {h h' : Heartbeats} (flagged : h.Flagged h') :
    h'.isDone = h.isDone ∧ h'.isFinished = h.isFinished := by
  obtain ⟨numbers, objects, closed, rfl, -, flags⟩ := flagged
  constructor
  · funext i
    simp only [isDone, flags i, Option.any_map]
    congr 1
    funext w
    by_cases here : i ∈ numbers <;> simp [here, Worker.signalled]
  · funext i
    simp only [isFinished, flags i, Option.any_map]
    congr 1
    funext w
    by_cases here : i ∈ numbers <;> simp [here, Worker.signalled]

theorem done_add (h : Heartbeats) {w : Worker} (running : w.pc ≠ .done) (live : w.finished = false) :
    (h.add w).isDone = h.isDone ∧ (h.add w).isFinished = h.isFinished := by
  constructor
  · funext i
    simp only [isDone, add, List.getElem?_append]
    split
    · rfl
    · rename_i outside
      rw [List.getElem?_eq_none (Nat.not_lt.1 outside), List.getElem?_singleton]
      split <;> simp [running]
  · funext i
    simp only [isFinished, add, List.getElem?_append]
    split
    · rfl
    · rename_i outside
      rw [List.getElem?_eq_none (Nat.not_lt.1 outside), List.getElem?_singleton]
      split <;> simp [live]

theorem done_start (h : Heartbeats) (claim : Claim) (now : ℚ) (owner : Nat) (submit : Submit) :
    (h.start claim now owner submit).1.isDone = h.isDone ∧
      (h.start claim now owner submit).1.isFinished = h.isFinished := by
  rcases start_cases h claim now owner submit with
    ⟨-, e, same⟩ | ⟨-, ⟨-, same⟩ | ⟨e, -, -, same⟩ | ⟨e, -, -, same⟩ | ⟨e, -, same⟩⟩ <;>
    rw [same]
  · exact done_add h (by simp [Worker.create]) rfl
  · exact done_add { h with workers := h.workers.set claim h.objects.length }
      (by simp [Worker.launch]) rfl
  · exact done_add h (by simp [Worker.create]) rfl
  · exact done_add { h with workers := h.workers.set claim h.objects.length }
      (by simp [Worker.create]) rfl
  · exact done_add h (by simp [Worker.launch]) rfl

theorem done_tick {h h' : Heartbeats} {i : Nat} {t : Tick} (taken : h.tick i t = some h') :
    ∃ w w', h.objects[i]? = some w ∧ w.tick h.kind h.limits t = some w' ∧
      h'.objects[i]? = some w' ∧
      ∀ j, j ≠ i → h'.isDone j = h.isDone j ∧ h'.isFinished j = h.isFinished j := by
  obtain ⟨w, w', located, stepped, objects⟩ := tick_objects taken
  refine ⟨w, w', located, stepped, ?_, ?_⟩
  · rw [objects]
    exact (located_set located).2 (.inl ⟨rfl, rfl⟩)
  · intro j other
    simp only [isDone, isFinished, objects, List.getElem?_set_ne (Ne.symm other), and_self]

theorem isDone_iff {h : Heartbeats} {i : Nat} :
    h.isDone i = true ↔ ∃ w, h.objects[i]? = some w ∧ w.pc = .done := by
  simp [isDone, Option.any_eq_true]

theorem isFinished_iff {h : Heartbeats} {i : Nat} :
    h.isFinished i = true ↔ ∃ w, h.objects[i]? = some w ∧ w.finished = true := by
  simp [isFinished, Option.any_eq_true]

theorem finished_done {h : Heartbeats} (sound : h.Sound) {i : Nat} (finished : h.isFinished i = true) :
    h.isDone i = true := by
  obtain ⟨w, located, finished⟩ := isFinished_iff.1 finished
  exact isDone_iff.2 ⟨w, located, (sound.formed i w located).finished_done finished⟩

theorem done_finished {h : Heartbeats} (sound : h.Sound) (sync : h.kind = .sync) {i : Nat}
    (done : h.isDone i = true) : h.isFinished i = true := by
  obtain ⟨w, located, pc⟩ := isDone_iff.1 done
  exact isFinished_iff.2 ⟨w, located, (sound.formed i w located).done_finished sync pc⟩

theorem finished_tick {h h' : Heartbeats} {i j : Nat} {t : Tick} (taken : h.tick i t = some h')
    (finished : h.isFinished j = true) : h'.isFinished j = true := by
  obtain ⟨w, w', located, stepped, located', others⟩ := done_tick taken
  by_cases here : j = i
  · subst here
    obtain ⟨v, place, ended⟩ := isFinished_iff.1 finished
    rw [located] at place
    cases place
    exact isFinished_iff.2 ⟨w', located', (Worker.finished_mono stepped ended).trans ended⟩
  · rw [(others j here).2]
    exact finished

def settings (h : Heartbeats) : Kind × Limits := (h.kind, h.limits)

theorem settings_flagged {h h' : Heartbeats} (flagged : h.Flagged h') : h'.settings = h.settings := by
  obtain ⟨numbers, objects, closed, rfl, -⟩ := flagged
  rfl

theorem settings_tick {h h' : Heartbeats} {i : Nat} {t : Tick} (taken : h.tick i t = some h') :
    h'.settings = h.settings := by
  obtain ⟨w, w', -, -, ⟨-, rfl⟩ | ⟨-, -, rfl⟩⟩ := tick_cases taken <;> rfl

theorem settings_start (h : Heartbeats) (claim : Claim) (now : ℚ) (owner : Nat) (submit : Submit) :
    (h.start claim now owner submit).1.settings = h.settings := by
  rcases start_cases h claim now owner submit with
    ⟨-, e, same⟩ | ⟨-, ⟨-, same⟩ | ⟨e, -, -, same⟩ | ⟨e, -, -, same⟩ | ⟨e, -, same⟩⟩ <;>
    rw [same] <;> rfl

theorem closed_start (h : Heartbeats) (claim : Claim) (now : ℚ) (owner : Nat) (submit : Submit) :
    (h.start claim now owner submit).1.closed = h.closed := by
  rcases start_cases h claim now owner submit with
    ⟨-, e, same⟩ | ⟨-, ⟨-, same⟩ | ⟨e, -, -, same⟩ | ⟨e, -, -, same⟩ | ⟨e, -, same⟩⟩ <;>
    rw [same] <;> rfl

theorem closed_tick {h h' : Heartbeats} {i : Nat} {t : Tick} (taken : h.tick i t = some h') :
    h'.closed = h.closed := by
  obtain ⟨w, w', -, -, ⟨-, rfl⟩ | ⟨-, -, rfl⟩⟩ := tick_cases taken <;> rfl

theorem closed_flagged {h h' : Heartbeats} (flagged : h.Flagged h') (shut : h.closed = true) :
    h'.closed = true := by
  obtain ⟨numbers, objects, closed, rfl, stays, -⟩ := flagged
  exact stays shut

theorem closed_stop (h : Heartbeats) (claim : Claim) : (h.stop claim).1.closed = h.closed := by
  unfold stop
  split <;> rfl

theorem closed_beginClose (h : Heartbeats) : h.beginClose.1.closed = true := by
  obtain ⟨objects, same, -⟩ := foldl_signal { h with closed := true } h.workers.values
  rw [beginClose, same]

/-! ## Live workers -/

def Survive (h h' : Heartbeats) : Prop :=
  ∀ (i : Nat) (w' : Worker), h'.objects[i]? = some w' → w'.live = true →
    ∃ w, h.objects[i]? = some w ∧ w.live = true ∧ w'.claim = w.claim ∧ w'.future = w.future ∧
      (w.stop = true → w'.stop = true)

theorem Survive.refl (h : Heartbeats) : Survive h h :=
  fun _ w located live => ⟨w, located, live, rfl, rfl, id⟩

theorem Survive.trans {h h' h'' : Heartbeats} (first : h.Survive h') (second : h'.Survive h'') :
    h.Survive h'' := by
  intro i w'' located live
  obtain ⟨w', place, live', claim, future, stop⟩ := second i w'' located live
  obtain ⟨w, start, alive, claim', future', stop'⟩ := first i w' place live'
  exact ⟨w, start, alive, claim.trans claim', future.trans future', fun set => stop (stop' set)⟩

theorem survive_flagged {h h' : Heartbeats} (flagged : h.Flagged h') : Survive h h' := by
  obtain ⟨numbers, objects, closed, rfl, -, flags⟩ := flagged
  intro i w' located live
  rw [flags i] at located
  obtain ⟨w, place, rfl⟩ := Option.map_eq_some_iff.1 located
  refine ⟨w, place, ?_⟩
  by_cases here : i ∈ numbers
  · rw [if_pos here] at live ⊢
    exact ⟨live, rfl, rfl, fun _ => rfl⟩
  · rw [if_neg here] at live ⊢
    exact ⟨live, rfl, rfl, id⟩

theorem survive_tick {h h' : Heartbeats} {i : Nat} {t : Tick} (taken : h.tick i t = some h') :
    Survive h h' := by
  obtain ⟨w, w', located, stepped, objects⟩ := tick_objects taken
  obtain ⟨claim, stop, future, registered, -⟩ := Worker.tick_keeps stepped
  intro j v place live
  rw [objects] at place
  rcases (located_set located).1 place with ⟨rfl, rfl⟩ | ⟨-, place⟩
  · refine ⟨w, located, ?_, claim, future, fun set => stop.trans set⟩
    simp only [Worker.live, Bool.and_eq_true, Bool.not_eq_true'] at live ⊢
    refine ⟨registered ▸ live.1, ?_⟩
    by_contra ended
    rw [Worker.finished_mono stepped (by simpa using ended)] at live
    exact ended live.2
  · exact ⟨v, place, live, rfl, rfl, id⟩

theorem survive_start {h : Heartbeats} (closed : h.closed = true) (claim : Claim) (now : ℚ)
    (owner : Nat) (submit : Submit) : Survive h (h.start claim now owner submit).1 := by
  rcases start_cases h claim now owner submit with ⟨-, e, same⟩ | ⟨⟨isOpen, -⟩, -⟩
  · rw [same]
    intro i w located live
    rcases located_add.1 located with old | ⟨-, rfl⟩
    · exact ⟨w, old, live, rfl, rfl, id⟩
    · cases live
  · rw [isOpen] at closed
    cases closed

theorem beginClose_listed {h : Heartbeats} (mapped : h.Mapped) {i : Nat} {w : Worker}
    (located : h.objects[i]? = some w) (live : w.live = true) :
    h.beginClose.1.objects[i]? = some w.signalled ∧ w.future ∈ h.beginClose.2 := by
  have member : i ∈ h.workers.values :=
    Dict.mem_values.2 ⟨w.claim, (mapped w.claim i).2 ⟨w, located, rfl, live⟩⟩
  obtain ⟨objects, same, flags⟩ := foldl_signal { h with closed := true } h.workers.values
  refine ⟨?_, ?_⟩
  · rw [beginClose, same]
    simpa [member, located] using flags i
  · rw [beginClose]
    exact List.mem_map.2 ⟨i, member, by simp [located]⟩

theorem workers_flagged {h h' : Heartbeats} (flagged : h.Flagged h') : h'.workers = h.workers := by
  obtain ⟨numbers, objects, closed, rfl, -⟩ := flagged
  rfl

theorem start_entries {h : Heartbeats} {claim : Claim} {now : ℚ} {owner : Nat} {submit : Submit}
    {c : Claim} {i : Nat} (entry : h.workers.get? c = some i) :
    (h.start claim now owner submit).1.workers.get? c = some i := by
  have added : h.workers.get? claim = none →
      (h.workers.set claim h.objects.length).get? c = some i := by
    intro new
    rw [Dict.get?_set, if_neg]
    · exact entry
    · rintro rfl
      rw [new] at entry
      cases entry
  rcases start_cases h claim now owner submit with
    ⟨-, e, same⟩ | ⟨⟨-, new⟩, ⟨-, same⟩ | ⟨e, -, -, same⟩ | ⟨e, -, -, same⟩ | ⟨e, -, same⟩⟩ <;>
    rw [same]
  · exact entry
  · exact added new
  · exact entry
  · exact added new
  · exact entry

theorem start_flags {h : Heartbeats} {claim : Claim} {now : ℚ} {owner : Nat} {submit : Submit}
    {i : Nat} {w : Worker} (located : (h.start claim now owner submit).1.objects[i]? = some w)
    (stop : w.stop = true) : h.objects[i]? = some w := by
  rcases start_cases h claim now owner submit with
    ⟨-, e, same⟩ | ⟨-, ⟨-, same⟩ | ⟨e, -, -, same⟩ | ⟨e, -, -, same⟩ | ⟨e, -, same⟩⟩ <;>
    rw [same] at located <;> rcases located_add.1 located with old | ⟨-, rfl⟩ <;>
    first | exact old | cases stop

theorem tick_flags {h h' : Heartbeats} {i j : Nat} {t : Tick} {w' : Worker}
    (taken : h.tick i t = some h') (located : h'.objects[j]? = some w') :
    ∃ w, h.objects[j]? = some w ∧ w'.stop = w.stop ∧ w'.claim = w.claim := by
  obtain ⟨w, v, place, stepped, objects⟩ := tick_objects taken
  rw [objects] at located
  rcases (located_set place).1 located with ⟨rfl, rfl⟩ | ⟨-, old⟩
  · obtain ⟨claim, stop, -⟩ := Worker.tick_keeps stepped
    exact ⟨w, place, stop, claim⟩
  · exact ⟨w', old, rfl, rfl⟩

theorem tick_entries {h h' : Heartbeats} {i j : Nat} {t : Tick} {c : Claim} (sound : h.Sound)
    (taken : h.tick i t = some h') (entry : h.workers.get? c = some j) :
    h'.workers.get? c = some j ∨
      j = i ∧ h.isFinished i = false ∧ h'.isFinished i = true := by
  obtain ⟨w, w', place, stepped, ⟨-, rfl⟩ | ⟨before, after, rfl⟩⟩ := tick_cases taken
  · exact .inl entry
  · by_cases here : j = i
    · refine .inr ⟨here, by simp [isFinished, place, before], ?_⟩
      exact isFinished_iff.2 ⟨w', (located_set place).2 (.inl ⟨rfl, rfl⟩), after⟩
    · exact .inl ((finish_entry sound.mapped place (Worker.tick_keeps stepped).1 c j).2
        ⟨entry, here⟩)

end Heartbeats

end Nzovu
