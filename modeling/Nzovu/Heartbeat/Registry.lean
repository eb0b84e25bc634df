import Nzovu.Library.Dict
import Nzovu.Library.Tally
import Nzovu.Heartbeat.Worker

/-!
# The registry of heartbeat workers

`Registry` and the `start` of its two subclasses. Each method holds `lock` from its first access to
these attributes to its last, so that each is one step. A worker object is named by its number in
the order of creation, and two workers are the same object when their numbers are equal.
-/

namespace Nzovu
open Tally
open Worker (Tick)

structure Heartbeats where
  kind : Kind
  limits : Limits
  closed : Bool
  reservations : Int
  workers : Dict Claim Nat
  objects : List Worker

/-- How `executor.submit` or `asyncio.create_task` ends. `raisedLate` is a `submit` that has put the
work item on the queue of the pool and then cannot start a new thread. -/
inductive Submit
  | scheduled
  | raised (error : Exc)
  | raisedLate (error : Exc)
deriving DecidableEq

def Submit.late : Submit → Bool
  | .raisedLate _ => true
  | _ => false

namespace Heartbeats

def create (kind : Kind) (limits : Limits) : Heartbeats where
  kind
  limits
  closed := false
  reservations := 0
  workers := .empty
  objects := []

def reserve (h : Heartbeats) : Except Exc Heartbeats :=
  if h.closed then .error (nzovuError (text "Client is closed"))
  else if h.limits.capacity ≤ h.reservations then
    .error ⟨.heartbeatCapacityError,
      text "Heartbeat capacity exhausted; retry after a claim finishes"⟩
  else .ok { h with reservations := h.reservations + 1 }

def release (h : Heartbeats) : Heartbeats := { h with reservations := h.reservations - 1 }

def ensureOpen (h : Heartbeats) : Except Exc Unit :=
  if h.closed then .error (nzovuError (text "Client is closed")) else .ok ()

def signal (h : Heartbeats) (i : Nat) : Heartbeats :=
  { h with objects := h.objects.modify i Worker.signalled }

def stop (h : Heartbeats) (claim : Claim) : Heartbeats × Bool :=
  match h.workers.get? claim with
  | none => (h, false)
  | some i => (h.signal i, true)

def beginClose (h : Heartbeats) : Heartbeats × List (Option Nat) :=
  (h.workers.values.foldl signal { h with closed := true },
    h.workers.values.map fun i => h.objects[i]?.bind Worker.future)

def finish (h : Heartbeats) (i : Nat) (w : Worker) : Heartbeats :=
  { h with
    workers := if h.workers.get? w.claim = some i then h.workers.erase w.claim else h.workers
    reservations := h.reservations - 1 }

def register (h : Heartbeats) (claim : Claim) (i : Nat) : Except Exc Heartbeats :=
  match h.ensureOpen with
  | .error e => .error e
  | .ok () =>
      if h.workers.get? claim = none then .ok { h with workers := h.workers.set claim i }
      else .error (nzovuError (text "Heartbeat already active for this exact claim"))

def add (h : Heartbeats) (w : Worker) : Heartbeats := { h with objects := h.objects ++ [w] }

/-- `start`, which returns or raises. A pool thread may begin the run before `start` has stored the
future, but reads neither the future nor the map before it comes to take the lock. -/
def start (h : Heartbeats) (claim : Claim) (now : ℚ) (owner : Nat) (submit : Submit) :
    Heartbeats × Option Exc :=
  let worker := Worker.create claim now owner
  let i := h.objects.length
  match h.register claim i with
  | .error e => (h.add worker, some e)
  | .ok registered =>
      match submit, h.kind with
      | .scheduled, _ => (registered.add (worker.launch (some i) true), none)
      | .raised e, .sync =>
          ({ registered with workers := registered.workers.erase claim }.add worker, some e)
      -- `AsyncHeartbeats.start` has no handler around `create_task`.
      | .raised e, .async => (registered.add { worker with registered := true }, some e)
      | .raisedLate e, _ =>
          ({ registered with workers := registered.workers.erase claim }.add
            (worker.launch none false), some e)

def tick (h : Heartbeats) (i : Nat) (t : Tick) : Option Heartbeats :=
  h.objects[i]?.bind fun w =>
    (w.tick h.kind h.limits t).map fun w' =>
      let h' := { h with objects := h.objects.set i w' }
      if w'.finished && !w.finished then h'.finish i w' else h'

def isDone (h : Heartbeats) (i : Nat) : Bool := h.objects[i]?.any fun w => w.pc = .done

def isFinished (h : Heartbeats) (i : Nat) : Bool := h.objects[i]?.any Worker.finished

theorem ensureOpen_ok {h : Heartbeats} : h.ensureOpen = .ok () ↔ h.closed = false := by
  unfold ensureOpen
  cases h.closed <;> simp

theorem reserve_ok {h h' : Heartbeats} (ok : h.reserve = .ok h') :
    h.closed = false ∧ h.reservations < h.limits.capacity ∧
      h' = { h with reservations := h.reservations + 1 } := by
  unfold reserve at ok
  split at ok
  · cases ok
  split at ok
  · cases ok
  · rename_i isOpen room
    cases ok
    exact ⟨by simpa using isOpen, by omega, rfl⟩

theorem register_ok {h h' : Heartbeats} {claim : Claim} {i : Nat}
    (ok : h.register claim i = .ok h') :
    h.closed = false ∧ h.workers.get? claim = none ∧
      h' = { h with workers := h.workers.set claim i } := by
  unfold register at ok
  split at ok
  · cases ok
  · rename_i isOpen
    split at ok
    · cases ok
      exact ⟨ensureOpen_ok.1 isOpen, ‹_›, rfl⟩
    · cases ok

theorem register_of {h : Heartbeats} {claim : Claim} (isOpen : h.closed = false)
    (new : h.workers.get? claim = none) (i : Nat) :
    h.register claim i = .ok { h with workers := h.workers.set claim i } := by
  unfold register
  rw [ensureOpen_ok.2 isOpen]
  simp [new]

theorem start_cases (h : Heartbeats) (claim : Claim) (now : ℚ) (owner : Nat) (submit : Submit) :
    ((h.closed = true ∨ h.workers.get? claim ≠ none) ∧
      ∃ e, h.start claim now owner submit = (h.add (.create claim now owner), some e)) ∨
    (h.closed = false ∧ h.workers.get? claim = none) ∧
      ((submit = .scheduled ∧ h.start claim now owner submit =
          ({ h with workers := h.workers.set claim h.objects.length }.add
            ((Worker.create claim now owner).launch (some h.objects.length) true), none)) ∨
        (∃ e, submit = .raised e ∧ h.kind = .sync ∧
          h.start claim now owner submit = (h.add (.create claim now owner), some e)) ∨
        (∃ e, submit = .raised e ∧ h.kind = .async ∧ h.start claim now owner submit =
          ({ h with workers := h.workers.set claim h.objects.length }.add
            { Worker.create claim now owner with registered := true }, some e)) ∨
        (∃ e, submit = .raisedLate e ∧ h.start claim now owner submit =
          (h.add ((Worker.create claim now owner).launch none false), some e))) := by
  cases made : h.register claim h.objects.length with
  | error e =>
      refine .inl ⟨?_, e, by simp [start, made]⟩
      by_contra both
      obtain ⟨isOpen, new⟩ := not_or.1 both
      rw [register_of (by simpa using isOpen) (by simpa using new)] at made
      cases made
  | ok registered =>
      obtain ⟨isOpen, new, rfl⟩ := register_ok made
      refine .inr ⟨⟨isOpen, new⟩, ?_⟩
      cases submit with
      | scheduled => exact .inl ⟨rfl, by simp [start, made]⟩
      | raised e =>
          obtain ⟨kind, limits, closed, reservations, workers, objects⟩ := h
          cases kind with
          | sync => exact .inr (.inl ⟨e, rfl, rfl, by simp [start, made, Dict.erase_set new]⟩)
          | async => exact .inr (.inr (.inl ⟨e, rfl, rfl, by simp [start, made]⟩))
      | raisedLate e =>
          exact .inr (.inr (.inr ⟨e, rfl, by simp [start, made, Dict.erase_set new]⟩))

theorem tick_cases {h h' : Heartbeats} {i : Nat} {t : Tick} (taken : h.tick i t = some h') :
    ∃ w w', h.objects[i]? = some w ∧ w.tick h.kind h.limits t = some w' ∧
      ((w'.finished = w.finished ∧ h' = { h with objects := h.objects.set i w' }) ∨
        (w.finished = false ∧ w'.finished = true ∧
          h' = { h with objects := h.objects.set i w' }.finish i w')) := by
  unfold tick at taken
  obtain ⟨w, located, taken⟩ := Option.bind_eq_some_iff.1 taken
  obtain ⟨w', stepped, rfl⟩ := Option.map_eq_some_iff.1 taken
  refine ⟨w, w', located, stepped, ?_⟩
  cases before : w.finished with
  | true =>
      exact .inl ⟨(Worker.finished_mono stepped before).trans before, by simp⟩
  | false =>
      cases after : w'.finished with
      | true => exact .inr ⟨rfl, rfl, by simp⟩
      | false => exact .inl ⟨rfl, by simp⟩

theorem tick_objects {h h' : Heartbeats} {i : Nat} {t : Tick} (taken : h.tick i t = some h') :
    ∃ w w', h.objects[i]? = some w ∧ w.tick h.kind h.limits t = some w' ∧
      h'.objects = h.objects.set i w' := by
  obtain ⟨w, w', located, stepped, shape⟩ := tick_cases taken
  refine ⟨w, w', located, stepped, ?_⟩
  rcases shape with ⟨-, rfl⟩ | ⟨-, -, rfl⟩ <;> rfl

theorem signal_at (h : Heartbeats) (i j : Nat) :
    (h.signal i).objects[j]? =
      h.objects[j]?.map fun w => if j = i then w.signalled else w := by
  rw [signal, List.getElem?_modify]
  by_cases hit : i = j
  · simp [hit]
  · simp [hit, Ne.symm hit]

theorem foldl_signal (h : Heartbeats) (numbers : List Nat) :
    ∃ objects, numbers.foldl signal h = { h with objects } ∧
      ∀ i, objects[i]? = h.objects[i]?.map fun w => if i ∈ numbers then w.signalled else w := by
  induction numbers generalizing h with
  | nil => exact ⟨h.objects, rfl, fun i => by simp⟩
  | cons n rest ih =>
      obtain ⟨objects, same, placed⟩ := ih (h.signal n)
      refine ⟨objects, same, ?_⟩
      intro i
      rw [placed i, signal_at, Option.map_map]
      congr 1
      funext w
      by_cases first : i = n <;> by_cases later : i ∈ rest <;> simp [first, later, Worker.signalled]

def Flagged (h h' : Heartbeats) : Prop :=
  ∃ (numbers : List Nat) (objects : List Worker) (closed : Bool),
    h' = { h with objects, closed } ∧ (h.closed = true → closed = true) ∧
      ∀ i, objects[i]? = h.objects[i]?.map fun w => if i ∈ numbers then w.signalled else w

theorem flagged_refl (h : Heartbeats) : h.Flagged h :=
  ⟨[], h.objects, h.closed, rfl, id, by simp⟩

theorem flagged_stop (h : Heartbeats) (claim : Claim) : h.Flagged (h.stop claim).1 := by
  unfold stop
  split
  · exact flagged_refl h
  · rename_i i _
    refine ⟨[i], (h.signal i).objects, h.closed, rfl, id, ?_⟩
    intro j
    rw [signal_at]
    simp

theorem flagged_beginClose (h : Heartbeats) : h.Flagged h.beginClose.1 := by
  obtain ⟨objects, same, flags⟩ := foldl_signal { h with closed := true } h.workers.values
  exact ⟨h.workers.values, objects, true, same, fun _ => rfl, flags⟩

end Heartbeats

end Nzovu
