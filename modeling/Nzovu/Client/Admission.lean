import Nzovu.Heartbeat.Accounting
import Nzovu.Client.System
import Nzovu.Library.Projection

/-!
# Slots of calls and workers

Every slot that `reservations` counts belongs to one call or to one worker, and a call hands its
slot over in the step that registers its worker.
-/

namespace Nzovu
open Tally Transition
open Worker (Tick)

/-! ## One call -/

namespace Call

def handed (c : Call) : Option Claim :=
  match c.phase with
  | .started claim => some claim
  | .leaving (.ok (some claim)) | .done (.ok (some claim)) =>
      if c.enableHeartbeat then some claim else none
  | _ => none

def weight (c : Call) : Int := if c.holds then 1 else 0

def Place (c : Call) : Prop :=
  match c.phase with
  | .ensureOpen | .build => c.reserved = false ∧ c.acquired = 0 ∧ c.requests = 0
  | .reserve => c.reserved = false ∧ c.acquired = 0 ∧ c.requests = 0 ∧ c.enableHeartbeat = true
  | .send => c.reserved = c.enableHeartbeat ∧ c.requests = 0
  | .awaiting => c.reserved = c.enableHeartbeat ∧ c.requests = 1
  | .start _ | .started _ => c.reserved = true ∧ c.enableHeartbeat = true
  | .leaving (.ok (some _)) => c.reserved = false
  | .leaving _ => c.reserved = true → c.enableHeartbeat = true
  | .done _ => c.reserved = false

structure Formed (c : Call) : Prop where
  balance : c.acquired =
    c.released + (if c.holds then 1 else 0) + if c.handed.isSome then 1 else 0
  once : c.acquired ≤ 1
  covered : c.enableHeartbeat = true → c.requests ≤ c.acquired
  place : c.Place

theorem formed_create (queueName : Str) (enableHeartbeat : Bool) :
    (create queueName enableHeartbeat).Formed := by
  refine ⟨?_, ?_, ?_, ?_⟩ <;> simp [create, holds, handed, Place]

theorem formed_getNextMessage {h h' : Heartbeats} {j : Nat} {c c' : Call} {s : CallStep}
    (formed : c.Formed) (taken : c.getNextMessage h j s = some (h', c')) : c'.Formed := by
  obtain ⟨balance, once, covered, place⟩ := formed
  cases moved taken with
  | refused _ phase | opened phase | unbuilt _ phase | saturated _ phase | failed _ _ phase
  | empty _ phase | claimed _ _ phase | unprotected _ _ phase | started _ _ _ phase
  | unstarted _ _ _ _ phase | handedOver _ phase =>
      simp only [holds, handed, Place, phase] at balance place
      refine ⟨?_, once, covered, ?_⟩ <;> simp_all [holds, handed, Place]
  | built phase =>
      simp only [holds, handed, Place, phase] at balance place
      cases enabled : c.enableHeartbeat <;> refine ⟨?_, once, ?_, ?_⟩ <;>
        simp_all [holds, handed, Place]
  | reserved phase =>
      simp only [holds, handed, Place, phase] at balance place
      refine ⟨?_, ?_, ?_, ?_⟩ <;> simp_all [holds, handed, Place]
  | sent phase =>
      simp only [holds, handed, Place, phase] at balance place
      cases enabled : c.enableHeartbeat <;> refine ⟨?_, once, ?_, ?_⟩ <;>
        simp_all [holds, handed, Place]
  | released outcome phase | left outcome phase =>
      rcases outcome with e | _ | claim <;>
        simp only [holds, handed, Place, phase] at balance place <;> refine ⟨?_, once, covered, ?_⟩ <;>
        simp_all [holds, handed, Place]

theorem sound_getNextMessage {h h' : Heartbeats} {j : Nat} {c c' : Call} {s : CallStep}
    (sound : h.Sound) (formed : c.Formed) (taken : c.getNextMessage h j s = some (h', c')) :
    h'.Sound ∧ h'.owed - c'.weight = h.owed - c.weight := by
  have place := formed.place
  cases moved taken with
  | refused _ phase | opened phase | unbuilt _ phase | saturated _ phase | sent phase
  | failed _ _ phase | empty _ phase | claimed _ _ phase | unprotected _ _ phase
  | handedOver _ phase | left _ phase =>
      simp_all [weight, holds, Place]
  | built phase => cases c.enableHeartbeat <;> simp_all [weight, holds, Place]
  | reserved phase made =>
      obtain ⟨kept, gained⟩ := Heartbeats.sound_reserve sound made
      refine ⟨kept, ?_⟩
      simp_all [weight, holds, Place]
  | started now submit claim phase possible made | unstarted now submit claim _ phase possible made =>
      obtain ⟨kept, moved⟩ := Heartbeats.sound_start sound claim now j submit
      rw [made] at kept moved
      refine ⟨kept, ?_⟩
      simp_all [weight, holds, Place]
  | released _ phase held =>
      obtain ⟨kept, moved⟩ := Heartbeats.sound_release sound
      refine ⟨kept, ?_⟩
      simp_all [weight, holds, Place]

theorem handed_getNextMessage {h h' : Heartbeats} {j : Nat} {c c' : Call} {s : CallStep}
    (formed : c.Formed) (taken : c.getNextMessage h j s = some (h', c')) :
    (c'.handed = c.handed ∧ h'.traits = h.traits) ∨
      ∃ now submit claim, s = .start now submit ∧ c.phase = .start claim ∧ c.handed = none ∧
        h' = (h.start claim now j submit).1 ∧
        c'.handed = if (h.start claim now j submit).2 = none then some claim else none := by
  have place := formed.place
  cases moved taken with
  | refused _ phase | opened phase | unbuilt _ phase | saturated _ phase | sent phase
  | failed _ _ phase | empty _ phase | claimed _ _ phase =>
      exact .inl ⟨by simp [handed, phase], rfl⟩
  | unprotected _ _ phase disabled => exact .inl ⟨by simp [handed, phase, disabled], rfl⟩
  | built phase => cases enabled : c.enableHeartbeat <;> exact .inl ⟨by simp [handed, phase], rfl⟩
  | reserved phase made =>
      obtain ⟨-, -, rfl⟩ := Heartbeats.reserve_ok made
      exact .inl ⟨by simp [handed, phase], rfl⟩
  | started now submit claim phase _ made | unstarted now submit claim _ phase _ made =>
      refine .inr ⟨now, submit, claim, rfl, phase, by simp [handed, phase], ?_⟩
      simp [made, handed]
  | handedOver claim phase =>
      simp only [Place, phase] at place
      exact .inl ⟨by simp [handed, phase, place.2], rfl⟩
  | released outcome phase | left outcome phase =>
      exact .inl ⟨by rcases outcome with e | _ | claim <;> simp [handed, phase], rfl⟩

theorem registry_getNextMessage {h h' : Heartbeats} {j : Nat} {c c' : Call} {s : CallStep}
    (taken : c.getNextMessage h j s = some (h', c')) :
    h' = h ∨ h.reserve = .ok h' ∨ h' = h.release ∨
      ∃ now submit claim, s = .start now submit ∧ c.phase = .start claim ∧
        ¬(h.kind = .async ∧ submit.late = true) ∧ h' = (h.start claim now j submit).1 := by
  cases moved taken with
  | reserved phase made => exact .inr (.inl made)
  | started now submit claim phase possible made | unstarted now submit claim _ phase possible made =>
      exact .inr (.inr (.inr ⟨now, submit, claim, rfl, phase, possible, by rw [made]⟩))
  | released => exact .inr (.inr (.inl rfl))
  | _ => exact .inl rfl

theorem settings_getNextMessage {h h' : Heartbeats} {j : Nat} {c c' : Call} {s : CallStep}
    (taken : c.getNextMessage h j s = some (h', c')) : h'.settings = h.settings := by
  rcases registry_getNextMessage taken with
    rfl | made | rfl | ⟨now, submit, claim, -, -, -, rfl⟩
  · rfl
  · obtain ⟨-, -, rfl⟩ := Heartbeats.reserve_ok made
    rfl
  · rfl
  · exact Heartbeats.settings_start h claim now j submit

end Call

/-! ## All calls and workers -/

namespace System

structure Slots (s : System) : Prop where
  sound : s.heartbeats.Sound
  formed : ∀ (j : Nat) (c : Call), s.calls[j]? = some c → c.Formed
  owed : s.heartbeats.owed = tally Call.weight s.calls

theorem slots_create (kind : Kind) (limits : Limits) (eagerGather : Bool) :
    (create kind limits eagerGather).Slots :=
  ⟨Heartbeats.sound_create kind limits, by simp [create], rfl⟩

theorem Slots.flagged {s s' : System} (slots : s.Slots)
    (flagged : s.heartbeats.Flagged s'.heartbeats) (calls : s'.calls = s.calls) : s'.Slots := by
  obtain ⟨kept, same⟩ := Heartbeats.sound_flagged slots.sound flagged
  exact ⟨kept, calls ▸ slots.formed, by rw [same, slots.owed, calls]⟩

theorem slots_step {s s' : System} {a : Action} (slots : s.Slots) (taken : s.step a = some s') :
    s'.Slots := by
  obtain ⟨sound, formed, owed⟩ := slots
  cases effect taken with
  | called heartbeats calls =>
      rw [← heartbeats] at sound owed
      refine ⟨sound, ?_, ?_⟩
      · intro j c located
        rw [calls] at located
        rcases located_append.1 located with inside | ⟨-, rfl⟩
        · exact formed j c inside
        · exact Call.formed_create _ _
      · rw [calls, tally_append, owed]
        simp [Call.weight, Call.create, Call.holds]
  | advanced located made calls =>
      rename_i j step c c'
      obtain ⟨kept, moved⟩ := Call.sound_getNextMessage sound (formed j c located) made
      refine ⟨kept, ?_, ?_⟩
      · intro k d place
        rw [calls] at place
        rcases (located_set located).1 place with ⟨-, rfl⟩ | ⟨-, place⟩
        · exact Call.formed_getNextMessage (formed j c located) made
        · exact formed k d place
      · rw [calls, tally_set Call.weight located]
        omega
  | ticked shape ticked calls =>
      obtain ⟨kept, same⟩ := Heartbeats.sound_tick sound ticked
      exact ⟨kept, calls ▸ formed, by rw [same, owed, calls]⟩
  | operated heartbeats calls =>
      exact Slots.flagged ⟨sound, formed, owed⟩ (heartbeats ▸ flagged_perform _ _) calls
  | closed heartbeats calls =>
      exact Slots.flagged ⟨sound, formed, owed⟩ (heartbeats ▸ Heartbeats.flagged_beginClose _) calls
  | still shape heartbeats calls =>
      exact Slots.flagged ⟨sound, formed, owed⟩ (heartbeats ▸ Heartbeats.flagged_refl _) calls

theorem slots_run {kind : Kind} {limits : Limits} {eagerGather : Bool} {trace : List Action}
    {s : System} (ran : run step (create kind limits eagerGather) trace = some s) : s.Slots :=
  invariant (fun _ _ _ => slots_step) (slots_create kind limits eagerGather) ran

/-- The call whose `create_task` raises in this step. -/
def losses (s : System) (a : Action) : List Nat :=
  match a with
  | .advance j _ => if s.taskLost a then [j] else []
  | _ => []

/-- A registered worker is one that some call has handed a slot to, or was never launched because
the `create_task` of its call raised. The calls in `lost` are those. -/
structure Owned (lost : List Nat) (s : System) : Prop where
  workers : ∀ claim registered owner launched,
    (claim, registered, owner, launched) ∈ s.heartbeats.traits →
      (launched = true → registered = true) ∧ (registered = true →
        (launched = true ∧ ∃ c : Call, s.calls[owner]? = some c ∧ c.handed = some claim) ∨
          launched = false ∧ owner ∈ lost)
  calls : ∀ (j : Nat) (c : Call) claim, s.calls[j]? = some c → c.handed = some claim →
    (claim, true, j, true) ∈ s.heartbeats.traits

theorem owned_create (kind : Kind) (limits : Limits) (eagerGather : Bool) :
    Owned [] (create kind limits eagerGather) :=
  ⟨by simp [create, Heartbeats.create, Heartbeats.traits], by simp [create]⟩

theorem traits_start {s : System} {j : Nat} {c : Call} {claim : Claim} {now : ℚ} {submit : Submit}
    (located : s.calls[j]? = some c) (phase : c.phase = .start claim)
    (timely : late (.advance j (.start now submit)) = false) :
    ∃ registered launched, (s.heartbeats.start claim now j submit).1.traits =
        s.heartbeats.traits ++ [(claim, registered, j, launched)] ∧
      launched = (s.heartbeats.start claim now j submit).2.isNone ∧
      (launched = true → registered = true) ∧
      (registered = true → launched = false → j ∈ s.losses (.advance j (.start now submit))) := by
  rcases Heartbeats.start_cases s.heartbeats claim now j submit with
    ⟨-, e, same⟩ | ⟨⟨isOpen, new⟩, ⟨-, same⟩ | ⟨e, -, -, same⟩ | ⟨e, raised, async, same⟩ |
      ⟨e, raised, same⟩⟩
  · exact ⟨false, false, by rw [same, Heartbeats.traits_add]; rfl, by rw [same]; rfl, id, nofun⟩
  · exact ⟨true, true, by rw [same, Heartbeats.traits_add]; rfl, by rw [same]; rfl, id, nofun⟩
  · exact ⟨false, false, by rw [same, Heartbeats.traits_add]; rfl, by rw [same]; rfl, id, nofun⟩
  · refine ⟨true, false, by rw [same, Heartbeats.traits_add]; rfl, by rw [same]; rfl, nofun, ?_⟩
    intro _ _
    subst raised
    simp [losses, taskLost, async, located, phase, isOpen, new]
  · subst raised
    cases timely

theorem Owned.transfer {lost more : List Nat} {s s' : System} (owned : s.Owned lost)
    (traits : s'.heartbeats.traits = s.heartbeats.traits) (calls : s'.calls = s.calls) :
    s'.Owned (lost ++ more) := by
  constructor
  · intro claim registered owner launched member
    rw [traits] at member
    rw [calls]
    obtain ⟨known, held⟩ := owned.workers claim registered owner launched member
    refine ⟨known, fun present => ?_⟩
    rcases held present with kept | ⟨dormant, gone⟩
    · exact .inl kept
    · exact .inr ⟨dormant, List.mem_append_left _ gone⟩
  · rw [traits, calls]
    exact owned.calls

theorem owned_called {lost more : List Nat} {s s' : System} {queueName : Str}
    {enableHeartbeat : Bool} (owned : s.Owned lost) (heartbeats : s'.heartbeats = s.heartbeats)
    (calls : s'.calls = s.calls ++ [.create queueName enableHeartbeat]) :
    s'.Owned (lost ++ more) := by
  constructor
  · intro claim registered owner launched member
    rw [heartbeats] at member
    obtain ⟨known, hand⟩ := owned.workers claim registered owner launched member
    refine ⟨known, fun held => ?_⟩
    rcases hand held with ⟨live, c, located, handed⟩ | ⟨dormant, gone⟩
    · rw [calls]
      exact .inl ⟨live, c, located_append.2 (.inl located), handed⟩
    · exact .inr ⟨dormant, List.mem_append_left _ gone⟩
  · intro j c claim located handed
    rw [calls] at located
    rw [heartbeats]
    rcases located_append.1 located with inside | ⟨-, rfl⟩
    · exact owned.calls j c claim inside handed
    · simp [Call.handed, Call.create] at handed

theorem owned_kept {lost more : List Nat} {s s' : System} {j : Nat} {c c' : Call}
    (owned : s.Owned lost) (located : s.calls[j]? = some c) (calls : s'.calls = s.calls.set j c')
    (handed : c'.handed = c.handed) (traits : s'.heartbeats.traits = s.heartbeats.traits) :
    s'.Owned (lost ++ more) := by
  constructor
  · intro claim registered owner launched member
    rw [traits] at member
    obtain ⟨known, hand⟩ := owned.workers claim registered owner launched member
    refine ⟨known, fun held => ?_⟩
    rcases hand held with ⟨live, d, place, holder⟩ | ⟨dormant, gone⟩
    · rw [calls]
      refine .inl ⟨live, ?_⟩
      by_cases here : owner = j
      · subst here
        rw [located] at place
        cases place
        exact ⟨c', (located_set located).2 (.inl ⟨rfl, rfl⟩), handed.trans holder⟩
      · exact ⟨d, (located_set located).2 (.inr ⟨here, place⟩), holder⟩
    · exact .inr ⟨dormant, List.mem_append_left _ gone⟩
  · intro k d claim place holder
    rw [calls] at place
    rw [traits]
    rcases (located_set located).1 place with ⟨rfl, rfl⟩ | ⟨-, place⟩
    · exact owned.calls k c claim located (handed ▸ holder)
    · exact owned.calls k d claim place holder

theorem owned_started {lost more : List Nat} {s s' : System} {j : Nat} {c c' : Call} {claim : Claim}
    {registered launched : Bool} (owned : s.Owned lost) (located : s.calls[j]? = some c)
    (calls : s'.calls = s.calls.set j c') (unhanded : c.handed = none)
    (handed : c'.handed = if launched then some claim else none)
    (traits : s'.heartbeats.traits = s.heartbeats.traits ++ [(claim, registered, j, launched)])
    (known : launched = true → registered = true)
    (gone : registered = true → launched = false → j ∈ more) : s'.Owned (lost ++ more) := by
  constructor
  · intro claim' registered' owner launched' member
    rw [traits, List.mem_append, List.mem_singleton] at member
    rw [calls]
    rcases member with old | new
    · obtain ⟨known, hand⟩ := owned.workers claim' registered' owner launched' old
      refine ⟨known, fun held => ?_⟩
      rcases hand held with ⟨live, d, place, holder⟩ | ⟨dormant, gone⟩
      · have other : owner ≠ j := by
          rintro rfl
          rw [located] at place
          cases place
          rw [unhanded] at holder
          cases holder
        exact .inl ⟨live, d, (located_set located).2 (.inr ⟨other, place⟩), holder⟩
      · exact .inr ⟨dormant, List.mem_append_left _ gone⟩
    · cases new
      refine ⟨known, fun held => ?_⟩
      cases launched with
      | true => exact .inl ⟨rfl, c', (located_set located).2 (.inl ⟨rfl, rfl⟩), handed⟩
      | false => exact .inr ⟨rfl, List.mem_append_right _ (gone held rfl)⟩
  · intro k d claim' place holder
    rw [calls] at place
    rw [traits, List.mem_append, List.mem_singleton]
    rcases (located_set located).1 place with ⟨rfl, rfl⟩ | ⟨-, place⟩
    · rw [handed] at holder
      cases launched with
      | true =>
          cases holder
          rw [known rfl]
          exact .inr rfl
      | false => cases holder
    · exact .inl (owned.calls k d claim' place holder)

theorem owned_step {lost : List Nat} {s s' : System} {a : Action} (timely : late a = false)
    (slots : s.Slots) (owned : s.Owned lost) (taken : s.step a = some s') :
    s'.Owned (lost ++ s.losses a) := by
  cases effect taken with
  | called heartbeats calls => exact owned_called owned heartbeats calls
  | advanced located made calls =>
      rename_i j step c c'
      rcases Call.handed_getNextMessage (slots.formed j c located) made with
        ⟨handed, traits⟩ | ⟨now, submit, claim, rfl, phase, unhanded, heartbeats, handed⟩
      · exact owned_kept owned located calls handed traits
      · obtain ⟨registered, launched, traits, started, known, gone⟩ :=
          traits_start located phase timely
        rw [← heartbeats] at traits
        apply owned_started owned located calls unhanded _ traits known gone
        rw [handed, started]
        simp only [Option.isNone_iff_eq_none]
  | ticked shape ticked calls => exact owned.transfer (Heartbeats.traits_tick ticked) calls
  | operated heartbeats calls =>
      exact owned.transfer (heartbeats ▸ Heartbeats.traits_flagged (flagged_perform _ _)) calls
  | closed heartbeats calls =>
      exact owned.transfer (heartbeats ▸ Heartbeats.traits_flagged (Heartbeats.flagged_beginClose _))
        calls
  | still shape heartbeats calls => exact owned.transfer (congrArg _ heartbeats) calls

theorem settings_step {s s' : System} {a : Action} (taken : s.step a = some s') :
    s'.heartbeats.settings = s.heartbeats.settings :=
  heartbeats_step (R := fun h => h.settings = s.heartbeats.settings) taken
    (fun _ => Call.settings_getNextMessage) Heartbeats.settings_tick Heartbeats.settings_flagged

theorem settings_run {s s' : System} {trace : List Action} (ran : run step s trace = some s') :
    s'.heartbeats.settings = s.heartbeats.settings :=
  invariant (I := fun t => t.heartbeats.settings = s.heartbeats.settings)
    (fun _ _ _ same taken => (settings_step taken).trans same) rfl ran

section Runs
variable {kind : Kind} {limits : Limits} {eagerGather : Bool} {trace : List Action} {s : System}
  (ran : run step (create kind limits eagerGather) trace = some s)
include ran

theorem owned_losses
    (timely : Along step (fun _ a => late a = false) (create kind limits eagerGather) trace) :
    s.Owned (project step losses (create kind limits eagerGather) trace) := by
  have all := invariant_trace (I := fun past s =>
      run step (create kind limits eagerGather) past = some s ∧
        (Along step (fun _ a => late a = false) (create kind limits eagerGather) past →
          s.Owned (project step losses (create kind limits eagerGather) past)))
    (fun past s a s' held taken => by
      obtain ⟨reached, owned⟩ := held
      refine ⟨run_append.2 ⟨s, reached, run_cons.2 ⟨s', taken, rfl⟩⟩, ?_⟩
      intro timely
      have before := (timely.append reached).1
      rw [project_snoc reached]
      exact owned_step (timely.at reached) (slots_run reached) (owned before) taken)
    ⟨rfl, fun _ => owned_create kind limits eagerGather⟩ ran
  exact all.2 timely

omit ran in
theorem losses_nil {t : System}
    (guarded : Along step (fun s a => s.taskLost a = false) t trace) :
    project step losses t trace = [] := by
  induction trace generalizing t with
  | nil => rfl
  | cons a rest ih =>
      obtain ⟨first, later⟩ := guarded
      have quiet : t.losses a = [] := by
        cases a with
        | advance j st => simp [losses, first]
        | _ => rfl
      rw [project, quiet]
      cases taken : step t a with
      | none => rfl
      | some u => exact ih (later u taken)

theorem owned_run
    (timely : Along step (fun _ a => late a = false) (create kind limits eagerGather) trace)
    (guarded : Along step (fun s a => s.taskLost a = false) (create kind limits eagerGather) trace) :
    s.Slots ∧ s.Owned [] :=
  ⟨slots_run ran, losses_nil guarded ▸ owned_losses ran timely⟩

end Runs

theorem launched_owned {lost : List Nat} {s : System} (owned : s.Owned lost) {w : Worker}
    (member : w ∈ s.heartbeats.objects) (launched : w.pc ≠ .unscheduled) : w.registered = true :=
  (owned.workers _ _ _ _ (List.mem_map.2 ⟨w, member, rfl⟩)).1 (decide_eq_true launched)

theorem weight_owned {lost : List Nat} {s : System} (slots : s.Slots) (owned : s.Owned lost)
    {w : Worker} (member : w ∈ s.heartbeats.objects) :
    w.weight = if w.live && decide (w.pc ≠ .unscheduled) then 1 else 0 := by
  obtain ⟨i, located⟩ := List.mem_iff_getElem?.1 member
  have formed := slots.sound.formed i w located
  by_cases pc : w.pc = .unscheduled
  · obtain ⟨-, unfinished, -⟩ := formed.unscheduled pc
    unfold Worker.weight Worker.live
    cases registered : w.registered <;> simp [pc, unfinished]
  · have registered := launched_owned owned member pc
    unfold Worker.weight Worker.live
    split <;> simp_all

theorem live_launched {lost : List Nat} {s : System} (owned : s.Owned lost) {w : Worker}
    (member : w ∈ s.heartbeats.objects) (live : w.live = true) (kept : w.owner ∉ lost) :
    w.pc ≠ .unscheduled := by
  have registered : w.registered = true := (Bool.and_eq_true_iff.1 live).1
  rcases (owned.workers _ _ _ _ (List.mem_map.2 ⟨w, member, rfl⟩)).2 registered with
    ⟨launched, -⟩ | ⟨-, gone⟩
  · exact of_decide_eq_true launched
  · exact absurd gone kept

structure SlotAccounting (limits : Limits) (s : System) : Prop where
  reservations : s.heartbeats.reservations =
    s.calls.countP Call.holds + s.heartbeats.objects.countP Worker.live
  nonneg : 0 ≤ s.heartbeats.reservations
  within : s.heartbeats.reservations ≤ limits.capacity
  mapped : s.heartbeats.Mapped
  idle : (∀ c ∈ s.calls, ∃ outcome, c.phase = .done outcome) →
    (∀ w ∈ s.heartbeats.objects, w.live = false) → s.heartbeats.reservations = 0

theorem slotAccounting_of {limits : Limits} {s : System} (slots : s.Slots) (owned : s.Owned [])
    (same : s.heartbeats.limits = limits) : s.SlotAccounting limits := by
  have living : ∀ w ∈ s.heartbeats.objects, w.weight = if w.live then 1 else 0 := by
    intro w member
    rw [weight_owned slots owned member]
    cases live : w.live with
    | false => rfl
    | true => rw [decide_eq_true (live_launched owned member live List.not_mem_nil)]; rfl
  have workers : tally Worker.weight s.heartbeats.objects =
      s.heartbeats.objects.countP Worker.live := by
    rw [tally_congr living, tally_indicator]
  have calls : tally Call.weight s.calls = s.calls.countP Call.holds :=
    tally_indicator Call.holds s.calls
  have owed := slots.owed
  have within := slots.sound.within
  simp only [Heartbeats.owed] at owed
  rw [same] at within
  refine ⟨by omega, by omega, within, slots.sound.mapped, ?_⟩
  intro gone dead
  have none : s.calls.countP Call.holds = 0 := by
    rw [List.countP_eq_zero]
    intro c member
    obtain ⟨j, located⟩ := List.mem_iff_getElem?.1 member
    obtain ⟨outcome, phase⟩ := gone c member
    have place := (slots.formed j c located).place
    simp only [Call.Place, phase] at place
    simp [Call.holds, phase, place]
  have nobody : s.heartbeats.objects.countP Worker.live = 0 := by
    rw [List.countP_eq_zero]
    intro w member
    simp [dead w member]
  omega

theorem reservations_accounted (kind : Kind) (limits : Limits) (eagerGather : Bool)
    (trace : List Action) (s : System)
    (ran : run step (create kind limits eagerGather) trace = some s)
    (scheduled : Along step (fun _ a => late a = false) (create kind limits eagerGather) trace)
    (guarded : Along step (fun s a => s.taskLost a = false) (create kind limits eagerGather) trace) :
    s.SlotAccounting limits := by
  obtain ⟨slots, owned⟩ := owned_run ran scheduled guarded
  exact slotAccounting_of slots owned (congrArg Prod.snd (settings_run ran))

def claiming (j : Nat) (m : Str) : List Action :=
  [.advance j .ensureOpen, .advance j (.build none), .advance j .reserve, .advance j .send,
    .advance j (.receive (.response ⟨some m, text "w", text "a"⟩))]

def dismissal (i : Nat) : List Action :=
  [.tick i .begin, .tick i (.check 0), .tick i (.issue 0),
    .tick i (.reply (.rpcError .notFound [])), .tick i .leave]

def protectedTrace : List Action :=
  .call (text "q") true :: claiming 0 (text "m") ++ .advance 0 (.start 0 .scheduled) ::
    dismissal 0 ++ [.advance 0 .handOver, .advance 0 .leave]

theorem reservations_accounted_protected :
    ∃ s, run step (create .sync .single false) protectedTrace = some s ∧
      s.SlotAccounting .single := by
  obtain ⟨s, ran⟩ := Option.isSome_iff_exists.1
    (show (run step (create .sync .single false) protectedTrace).isSome from by decide +kernel)
  exact ⟨s, ran, reservations_accounted .sync .single false protectedTrace s ran
    (by decide +kernel) (by decide +kernel)⟩

def taskLostTrace : List Action :=
  .call (text "q") true :: claiming 0 (text "m") ++
    [.advance 0 (.start 0 (.raised ⟨.runtimeError, text "no task"⟩)), .advance 0 .leave]

theorem slotAccounting_lost :
    ∃ s, run step (create .async .standard true) taskLostTrace = some s ∧
      Along step (fun _ a => late a = false) (create .async .standard true) taskLostTrace ∧
      s.heartbeats.reservations = 0 ∧ s.calls.countP Call.holds = 0 ∧
      s.heartbeats.objects.countP Worker.live = 1 ∧ ¬ s.SlotAccounting .standard := by
  have counts : (run step (create .async .standard true) taskLostTrace).map (fun s =>
      (s.heartbeats.reservations, s.calls.countP Call.holds,
        s.heartbeats.objects.countP Worker.live)) = some (0, 0, 1) := by decide +kernel
  obtain ⟨s, ran, numbers⟩ := Option.map_eq_some_iff.1 counts
  simp only [Prod.mk.injEq] at numbers
  obtain ⟨reservations, holding, living⟩ := numbers
  refine ⟨s, ran, by decide +kernel, reservations, holding, living, ?_⟩
  intro accounting
  have balance := accounting.reservations
  omega

end System

end Nzovu
