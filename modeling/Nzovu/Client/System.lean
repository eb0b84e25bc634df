import Nzovu.Client.Operations
import Nzovu.Library.Transition
import Mathlib.Data.List.Dedup

/-!
# One client under concurrency

The registry together with every call in flight, every `close` and, for the asynchronous client,
the callbacks of finished tasks that the event loop has yet to run. The loop runs callbacks in the
order in which they were scheduled, and schedules those of one task in the order in which they were
registered. `finish` is registered when the task is created, hence before any `gather`.
-/

namespace Nzovu
open Worker (Tick)

inductive Callback
  | finish (i : Nat)
  /-- The callback of the `gather` in the `close` with this number. -/
  | gathered (k i : Nat)
deriving DecidableEq

/-- Where a call of `close` stands after `begin_close`. `failed` says that closing the channel
raised, so that the call raises or hands an error to its handler after the `join`. -/
inductive ClosePhase
  | channel
  | join (failed : Bool)
  | waiting (failed : Bool)
  | shutdown (failed : Bool)
  | done (returned : Bool)
deriving DecidableEq

structure Close where
  futures : List (Option Nat)
  /-- The tasks whose `gather` callback has not run. -/
  awaiting : List Nat
  phase : ClosePhase
deriving DecidableEq

inductive CloseStep
  | channel (failed : Bool)
  | join
  | joined
  /-- The timeout of `wait` or `wait_for`, or the cancellation of the closing task. -/
  | abandon
  | shutdown
deriving DecidableEq

structure System where
  heartbeats : Heartbeats
  calls : List Call
  closes : List Close
  ready : List Callback
  /-- For each `gather`, the tasks with a callback registered and the number of the `close`. -/
  gathers : List (Nat × Nat)
  /-- Whether `gather` counts tasks that are done already without going through the event loop, as
  it does from Python 3.12 on. -/
  eagerGather : Bool

inductive Action
  | call (queueName : Str) (enableHeartbeat : Bool)
  | advance (j : Nat) (step : CallStep)
  | tick (i : Nat) (t : Tick)
  | callback
  | operate (operation : Operation)
  | close
  | closing (k : Nat) (step : CloseStep)
deriving DecidableEq

namespace System

def create (kind : Kind) (limits : Limits) (eagerGather : Bool) : System where
  heartbeats := .create kind limits
  calls := []
  closes := []
  ready := []
  gathers := []
  eagerGather

def inThread (w : Worker) : Bool :=
  match w.pc with
  | .unscheduled | .scheduled | .done => false
  | _ => true

def setClose (s : System) (k : Nat) (c : Close) : System := { s with closes := s.closes.set k c }

def doneCallbacks (s : System) (i : Nat) : List Callback :=
  .finish i :: (s.gathers.filter (·.1 = i)).map fun g => .gathered g.2 i

/-- `await asyncio.gather(...)` on tasks, up to the point where it gives way. -/
def gather (s : System) (k : Nat) (c : Close) (failed : Bool) (tasks : List Nat) : System :=
  let later := tasks.dedup.filter (!s.heartbeats.isDone ·)
  let already := tasks.dedup.filter s.heartbeats.isDone
  if s.eagerGather then
    if later = [] then s.setClose k { c with phase := .done (!failed) }
    else
      { s.setClose k { c with phase := .waiting failed, awaiting := later } with
        gathers := s.gathers ++ later.map (·, k) }
  else
    { s.setClose k { c with phase := .waiting failed, awaiting := tasks.dedup } with
      gathers := s.gathers ++ later.map (·, k)
      ready := s.ready ++ already.map (.gathered k) }

/-- `join` of the two subclasses. `task.cancel()` asks for a `Tick.cancel`, which is possible at
every `await` whoever asks for it. -/
def join (s : System) (k : Nat) (c : Close) (failed : Bool) : System :=
  -- Neither `wait` nor the loop over `task.cancel()` accepts a `None`.
  if none ∈ c.futures then s.setClose k { c with phase := .done false }
  else
    match s.heartbeats.kind with
    | .sync => s.setClose k { c with phase := .waiting failed }
    | .async =>
        if c.futures = [] then s.setClose k { c with phase := .done (!failed) }
        else s.gather k c failed (c.futures.filterMap id)

def joined (s : System) (c : Close) : Bool :=
  match s.heartbeats.kind with
  | .sync => c.futures.all fun future => future.all s.heartbeats.isDone
  | .async => c.awaiting.isEmpty

def closing (s : System) (k : Nat) (c : Close) (step : CloseStep) : Option System :=
  match step, c.phase with
  | .channel failed, .channel => some (s.setClose k { c with phase := .join failed })
  | .join, .join failed => some (s.join k c failed)
  | .joined, .waiting failed =>
      if s.joined c then
        match s.heartbeats.kind with
        | .sync => some (s.setClose k { c with phase := .shutdown failed })
        | .async => some (s.setClose k { c with phase := .done (!failed) })
      else none
  | .abandon, .waiting _ => some (s.setClose k { c with phase := .done false })
  -- `shutdown(wait=True)` joins the threads of the pool.
  | .shutdown, .shutdown failed =>
      if s.heartbeats.objects.any inThread then none
      else some (s.setClose k { c with phase := .done (!failed) })
  | _, _ => none

def tick (s : System) (i : Nat) (t : Tick) : Option System :=
  (s.heartbeats.tick i t).map fun h =>
    let s' := { s with heartbeats := h }
    match h.kind with
    | .sync => s'
    | .async =>
        if h.isDone i && !s.heartbeats.isDone i then { s' with ready := s.ready ++ s.doneCallbacks i } else s'

def runCallback (s : System) : Callback → Option System
  | .finish i => (s.heartbeats.tick i .doneCallback).map fun h => { s with heartbeats := h }
  | .gathered k i =>
      s.closes[k]?.map fun c => s.setClose k { c with awaiting := c.awaiting.erase i }

def step (s : System) : Action → Option System
  | .call queueName enableHeartbeat =>
      some { s with calls := s.calls ++ [.create queueName enableHeartbeat] }
  | .advance j step =>
      s.calls[j]?.bind fun c =>
        (c.getNextMessage s.heartbeats j step).map fun (h, c') =>
          { s with heartbeats := h, calls := s.calls.set j c' }
  | .tick i t => if t = .doneCallback then none else s.tick i t
  | .callback =>
      match s.ready with
      | [] => none
      | next :: rest => { s with ready := rest }.runCallback next
  | .operate operation => some { s with heartbeats := s.heartbeats.perform operation }
  | .close =>
      some { s with
        heartbeats := s.heartbeats.beginClose.1
        closes := s.closes ++ [⟨s.heartbeats.beginClose.2, [], .channel⟩] }
  | .closing k step => s.closes[k]?.bind fun c => s.closing k c step

def late : Action → Bool
  | .advance _ (.start _ submit) => submit.late
  | _ => false

/-- The step is a `create_task` that raises. `AsyncHeartbeats.start` comes to `create_task` when it
has registered the worker. -/
def taskLost (s : System) : Action → Bool
  | .advance j (.start _ (.raised _)) =>
      decide (s.heartbeats.kind = .async) && s.calls[j]?.any fun c =>
        match c.phase with
        | .start claim => !s.heartbeats.closed && (s.heartbeats.workers.get? claim).isNone
        | _ => false
  | _ => false

inductive Effect (s : System) : Action → System → Prop
  | called {queueName : Str} {enableHeartbeat : Bool} {s' : System} :
      s'.heartbeats = s.heartbeats → s'.calls = s.calls ++ [.create queueName enableHeartbeat] →
      Effect s (.call queueName enableHeartbeat) s'
  | advanced {j : Nat} {step : CallStep} {c c' : Call} {s' : System} :
      s.calls[j]? = some c → c.getNextMessage s.heartbeats j step = some (s'.heartbeats, c') →
      s'.calls = s.calls.set j c' → Effect s (.advance j step) s'
  | ticked {a : Action} {i : Nat} {t : Tick} {s' : System} :
      (a = .tick i t ∨ a = .callback ∧ t = .doneCallback) →
      s.heartbeats.tick i t = some s'.heartbeats → s'.calls = s.calls → Effect s a s'
  | operated {operation : Operation} {s' : System} :
      s'.heartbeats = s.heartbeats.perform operation → s'.calls = s.calls →
      Effect s (.operate operation) s'
  | closed {s' : System} :
      s'.heartbeats = s.heartbeats.beginClose.1 → s'.calls = s.calls → Effect s .close s'
  | still {a : Action} {s' : System} :
      (a = .callback ∨ ∃ k step, a = .closing k step) →
      s'.heartbeats = s.heartbeats → s'.calls = s.calls → Effect s a s'

theorem closing_frame {s s' : System} {k : Nat} {c : Close} {step : CloseStep}
    (taken : s.closing k c step = some s') :
    s'.heartbeats = s.heartbeats ∧ s'.calls = s.calls := by
  unfold closing at taken
  split at taken
  · cases taken
    exact ⟨rfl, rfl⟩
  · cases taken
    unfold join
    split
    · exact ⟨rfl, rfl⟩
    split
    · exact ⟨rfl, rfl⟩
    split
    · exact ⟨rfl, rfl⟩
    unfold gather
    dsimp only
    split
    · split <;> exact ⟨rfl, rfl⟩
    · exact ⟨rfl, rfl⟩
  · split at taken
    · split at taken <;> cases taken <;> exact ⟨rfl, rfl⟩
    · cases taken
  · cases taken
    exact ⟨rfl, rfl⟩
  · split at taken <;> cases taken
    exact ⟨rfl, rfl⟩
  · cases taken

theorem tick_frame {s s' : System} {i : Nat} {t : Tick} (taken : s.tick i t = some s') :
    s.heartbeats.tick i t = some s'.heartbeats ∧ s'.calls = s.calls ∧ s'.closes = s.closes ∧
      s'.gathers = s.gathers ∧ s'.eagerGather = s.eagerGather := by
  unfold tick at taken
  obtain ⟨h, ticked, rfl⟩ := Option.map_eq_some_iff.1 taken
  rw [ticked]
  dsimp only
  split
  · exact ⟨rfl, rfl, rfl, rfl, rfl⟩
  · split <;> exact ⟨rfl, rfl, rfl, rfl, rfl⟩

theorem effect {s s' : System} {a : Action} (taken : s.step a = some s') : Effect s a s' := by
  cases a with
  | call queueName enableHeartbeat =>
      cases taken
      exact .called rfl rfl
  | advance j step =>
      obtain ⟨c, located, taken⟩ := Option.bind_eq_some_iff.1 taken
      obtain ⟨⟨h, c'⟩, made, rfl⟩ := Option.map_eq_some_iff.1 taken
      exact .advanced located made rfl
  | tick i t =>
      simp only [step] at taken
      split at taken
      · cases taken
      · obtain ⟨ticked, calls, -⟩ := tick_frame taken
        exact .ticked (.inl rfl) ticked calls
  | callback =>
      simp only [step] at taken
      split at taken
      · cases taken
      · rename_i next rest waiting
        cases next with
        | finish i =>
            obtain ⟨h, ticked, rfl⟩ := Option.map_eq_some_iff.1 taken
            exact .ticked (.inr ⟨rfl, rfl⟩) ticked rfl
        | gathered k i =>
            obtain ⟨c, located, rfl⟩ := Option.map_eq_some_iff.1 taken
            exact .still (.inl rfl) rfl rfl
  | operate operation =>
      cases taken
      exact .operated rfl rfl
  | close =>
      cases taken
      exact .closed rfl rfl
  | closing k step =>
      obtain ⟨c, located, taken⟩ := Option.bind_eq_some_iff.1 taken
      obtain ⟨heartbeats, calls⟩ := closing_frame taken
      exact .still (.inr ⟨k, step, rfl⟩) heartbeats calls

theorem flagged_perform (h : Heartbeats) (operation : Operation) :
    h.Flagged (h.perform operation) := by
  rw [Heartbeats.perform_spec]
  split
  · exact h.flagged_refl
  · exact h.flagged_stop _

theorem heartbeats_step {R : Heartbeats → Prop} {s s' : System} {a : Action}
    (taken : s.step a = some s')
    (called : ∀ {j : Nat} {st : CallStep} {c c' : Call} {h : Heartbeats}, s.calls[j]? = some c →
      c.getNextMessage s.heartbeats j st = some (h, c') → R h)
    (ticked : ∀ {i : Nat} {t : Tick} {h : Heartbeats}, s.heartbeats.tick i t = some h → R h)
    (flagged : ∀ {h : Heartbeats}, s.heartbeats.Flagged h → R h) : R s'.heartbeats := by
  cases effect taken with
  | called heartbeats calls => exact heartbeats ▸ flagged s.heartbeats.flagged_refl
  | advanced located made calls => exact called located made
  | ticked shape made calls => exact ticked made
  | operated heartbeats calls => exact heartbeats ▸ flagged (flagged_perform s.heartbeats _)
  | closed heartbeats calls => exact heartbeats ▸ flagged s.heartbeats.flagged_beginClose
  | still shape heartbeats calls => exact heartbeats ▸ flagged s.heartbeats.flagged_refl

end System

end Nzovu
