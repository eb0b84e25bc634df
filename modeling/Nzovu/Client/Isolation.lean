import Nzovu.Client.Admission

/-!
# Claims do not interfere

A worker is told to stop by what becomes known about its own claim, all four identifiers of it, or
by `close`.
-/

namespace Nzovu
open Tally Transition
open Worker (Tick)

inductive Ends : Operation → Claim → Prop
  | acknowledged (c : Claim) :
      Ends (.acknowledgeMessage c.queueName c.messageId c.workerId c.attemptId (.response true)) c
  | acknowledgement (c : Claim) (code : StatusCode) (details : Str) (handler : Handler) :
      code = .notFound ∨ code = .failedPrecondition ∨ code = .permissionDenied →
      Ends (.acknowledgeMessage c.queueName c.messageId c.workerId c.attemptId
        (.rpcError code details handler)) c
  | heartbeat (c : Claim) (code : StatusCode) (details : Str) (handler : Handler) :
      code = .notFound ∨ code = .failedPrecondition ∨ code = .permissionDenied →
      Ends (.sendMessageHeartbeat c.queueName c.messageId (some c.workerId) (some c.attemptId)
        (.rpcError code details handler)) c
  | renewal (c : Claim) (code : StatusCode) (details : Str) (handler : Handler) :
      code = .notFound ∨ code = .permissionDenied →
      Ends (.renewMessageLease c.queueName c.messageId (some c.workerId) (some c.attemptId)
        (.rpcError code details handler)) c
  | stop (c : Claim) : Ends (.stopHeartbeat c) c

theorem create_some {queueName messageId : Str} {workerId attemptId : Option Str} {c : Claim}
    (made : Claim.create queueName messageId (workerId.getD []) (attemptId.getD []) = .ok c) :
    c.queueName = queueName ∧ c.messageId = messageId ∧ some c.workerId = workerId ∧
      some c.attemptId = attemptId := by
  obtain ⟨queue, message, worker, attempt⟩ := Claim.create_ok made
  refine ⟨queue, message, ?_, ?_⟩
  · cases workerId with
    | none =>
        have clear := c.required c.workerId (by simp)
        rw [worker] at clear
        cases clear
    | some w => rw [worker]; rfl
  · cases attemptId with
    | none =>
        have clear := c.required c.attemptId (by simp)
        rw [attempt] at clear
        cases clear
    | some a => rw [attempt]; rfl

theorem toOption_some {ε α : Type} {x : Except ε α} {a : α} (h : x.toOption = some a) :
    x = .ok a := by
  cases x with
  | error e => cases h
  | ok b =>
      cases h
      rfl

theorem failedWith_iff {α : Type} {codes : List StatusCode} {outcome : Outcome α} :
    outcome.failedWith codes = true ↔
      ∃ code details handler, outcome = .rpcError code details handler ∧ code ∈ codes := by
  cases outcome <;> simp [Outcome.failedWith]

theorem ends_iff {operation : Operation} {c : Claim} :
    Ends operation c ↔ operation.ended = some c := by
  constructor
  · rintro (_ | ⟨-, code, details, handler, lost⟩ | ⟨-, code, details, handler, lost⟩ |
      ⟨-, code, details, handler, lost⟩ | _)
    · simp [Operation.ended, Claim.create_self, Except.toOption]
    · rcases lost with rfl | rfl | rfl <;>
        simp [Operation.ended, Claim.create_self, Except.toOption, Outcome.failedWith, ownershipLost]
    · rcases lost with rfl | rfl | rfl <;>
        simp [Operation.ended, Claim.create_self, Except.toOption, Outcome.failedWith, ownershipLost]
    · rcases lost with rfl | rfl <;>
        simp [Operation.ended, Claim.create_self, Except.toOption, Outcome.failedWith,
          Heartbeats.renewalLost]
    · rfl
  · intro ended
    cases operation with
    | acknowledgeMessage queueName messageId workerId attemptId outcome =>
        simp only [Operation.ended] at ended
        split at ended
        · rename_i reason
          obtain ⟨rfl, rfl, rfl, rfl⟩ := Claim.create_ok (toOption_some ended)
          rcases reason with rfl | lost
          · exact .acknowledged c
          · obtain ⟨code, details, handler, rfl, member⟩ := failedWith_iff.1 lost
            exact .acknowledgement c code details handler (by simpa [ownershipLost] using member)
        · cases ended
    | renewMessageLease queueName messageId workerId attemptId outcome =>
        simp only [Operation.ended] at ended
        split at ended
        · rename_i lost
          obtain ⟨rfl, rfl, rfl, rfl⟩ := create_some (toOption_some ended)
          obtain ⟨code, details, handler, rfl, member⟩ := failedWith_iff.1 lost
          exact .renewal c code details handler (by simpa [Heartbeats.renewalLost] using member)
        · cases ended
    | sendMessageHeartbeat queueName messageId workerId attemptId outcome =>
        simp only [Operation.ended] at ended
        split at ended
        · rename_i lost
          obtain ⟨rfl, rfl, rfl, rfl⟩ := create_some (toOption_some ended)
          obtain ⟨code, details, handler, rfl, member⟩ := failedWith_iff.1 lost
          exact .heartbeat c code details handler (by simpa [ownershipLost] using member)
        · cases ended
    | stopHeartbeat claim =>
        cases ended
        exact .stop c

namespace System

structure Isolated (s : System) (a : Action) (s' : System) : Prop where
  cause : ∀ (i : Nat) (w' : Worker), s'.heartbeats.objects[i]? = some w' → w'.stop = true →
    (∃ w, s.heartbeats.objects[i]? = some w ∧ w.stop = true) ∨ a = .close ∨
      ∃ operation, a = .operate operation ∧ Ends operation w'.claim
  effect : ∀ (c : Claim) (i : Nat), s.heartbeats.workers.get? c = some i →
    (a = .close ∨ ∃ operation, a = .operate operation ∧ Ends operation c) →
    ∃ w', s'.heartbeats.objects[i]? = some w' ∧ w'.claim = c ∧ w'.stop = true
  unchanged : ∀ operation, a = .operate operation → (∀ c, ¬ Ends operation c) →
    s'.heartbeats = s.heartbeats
  entries : ∀ (c : Claim) (i : Nat), s.heartbeats.workers.get? c = some i →
    s'.heartbeats.workers.get? c = some i ∨
      ∃ t, (a = .tick i t ∨ a = .callback) ∧ s.heartbeats.isFinished i = false ∧
        s'.heartbeats.isFinished i = true

theorem flag_stop {h : Heartbeats} (mapped : h.Mapped) {claim : Claim} {i : Nat} {w' : Worker}
    (located : (h.stop claim).1.objects[i]? = some w') (stop : w'.stop = true) :
    (∃ w, h.objects[i]? = some w ∧ w.stop = true) ∨ w'.claim = claim := by
  unfold Heartbeats.stop at located
  split at located
  · exact .inl ⟨w', located, stop⟩
  · rename_i n entry
    rw [Heartbeats.signal_at] at located
    obtain ⟨w, before, rfl⟩ := Option.map_eq_some_iff.1 located
    by_cases here : i = n
    · subst here
      obtain ⟨v, place, same, -⟩ := (mapped claim i).1 entry
      rw [before] at place
      cases place
      rw [if_pos rfl]
      exact .inr same
    · rw [if_neg here] at stop
      exact .inl ⟨w, before, stop⟩

theorem flag_call {h h' : Heartbeats} {j : Nat} {c c' : Call} {st : CallStep}
    (made : c.getNextMessage h j st = some (h', c')) {i : Nat} {w' : Worker}
    (located : h'.objects[i]? = some w') (stop : w'.stop = true) : h.objects[i]? = some w' := by
  rcases Call.registry_getNextMessage made with
    same | reserved | same | ⟨now, submit, claim, -, -, -, same⟩
  · exact same ▸ located
  · obtain ⟨-, -, same⟩ := Heartbeats.reserve_ok reserved
    rw [same] at located
    exact located
  · rw [same] at located
    exact located
  · rw [same] at located
    exact Heartbeats.start_flags located stop

theorem flag_cause {s s' : System} {a : Action} (slots : s.Slots) (taken : s.step a = some s')
    {i : Nat} {w' : Worker} (located : s'.heartbeats.objects[i]? = some w')
    (stop : w'.stop = true) :
    (∃ w, s.heartbeats.objects[i]? = some w ∧ w.stop = true) ∨ a = .close ∨
      ∃ operation, a = .operate operation ∧ Ends operation w'.claim := by
  cases effect taken with
  | called heartbeats calls => exact .inl ⟨w', heartbeats ▸ located, stop⟩
  | advanced place made calls => exact .inl ⟨w', flag_call made located stop, stop⟩
  | ticked shape ticked calls =>
      obtain ⟨w, before, same, -⟩ := Heartbeats.tick_flags ticked located
      exact .inl ⟨w, before, same ▸ stop⟩
  | operated heartbeats calls =>
      rename_i operation
      rw [heartbeats, Heartbeats.perform_spec] at located
      split at located
      · exact .inl ⟨w', located, stop⟩
      · rename_i c ended
        rcases flag_stop slots.sound.mapped located stop with before | rfl
        · exact .inl before
        · exact .inr (.inr ⟨operation, rfl, ends_iff.2 ended⟩)
  | closed heartbeats calls => exact .inr (.inl rfl)
  | still shape heartbeats calls => exact .inl ⟨w', heartbeats ▸ located, stop⟩

theorem flag_effect {s s' : System} {a : Action} (slots : s.Slots) (taken : s.step a = some s')
    {c : Claim} {i : Nat} (entry : s.heartbeats.workers.get? c = some i)
    (ends : a = .close ∨ ∃ operation, a = .operate operation ∧ Ends operation c) :
    ∃ w', s'.heartbeats.objects[i]? = some w' ∧ w'.claim = c ∧ w'.stop = true := by
  obtain ⟨w, located, claim, live⟩ := (slots.sound.mapped c i).1 entry
  refine ⟨w.signalled, ?_, claim, rfl⟩
  rcases ends with rfl | ⟨operation, rfl, ends⟩
  · cases taken
    exact (Heartbeats.beginClose_listed slots.sound.mapped located live).1
  · cases taken
    change (s.heartbeats.perform operation).objects[i]? = _
    rw [Heartbeats.perform_spec, ends_iff.1 ends]
    simp [Heartbeats.stop, entry, Heartbeats.signal_at, located]

theorem entry_call {h h' : Heartbeats} {j : Nat} {c c' : Call} {st : CallStep}
    (made : c.getNextMessage h j st = some (h', c')) {claim : Claim} {i : Nat}
    (entry : h.workers.get? claim = some i) : h'.workers.get? claim = some i := by
  rcases Call.registry_getNextMessage made with
    same | reserved | same | ⟨now, submit, claim', -, -, -, same⟩
  · exact same ▸ entry
  · obtain ⟨-, -, same⟩ := Heartbeats.reserve_ok reserved
    rw [same]
    exact entry
  · rw [same]
    exact entry
  · rw [same]
    exact Heartbeats.start_entries entry

theorem entry_kept {s s' : System} {a : Action} (slots : s.Slots) (taken : s.step a = some s')
    {c : Claim} {i : Nat} (entry : s.heartbeats.workers.get? c = some i) :
    s'.heartbeats.workers.get? c = some i ∨
      ∃ t, (a = .tick i t ∨ a = .callback) ∧ s.heartbeats.isFinished i = false ∧
        s'.heartbeats.isFinished i = true := by
  cases effect taken with
  | called heartbeats calls => exact .inl (heartbeats ▸ entry)
  | advanced place made calls => exact .inl (entry_call made entry)
  | ticked shape ticked calls =>
      rename_i k t
      rcases Heartbeats.tick_entries slots.sound ticked entry with kept | ⟨rfl, before, after⟩
      · exact .inl kept
      · exact .inr ⟨t, shape.imp_right And.left, before, after⟩
  | operated heartbeats calls =>
      rw [heartbeats, Heartbeats.workers_flagged (flagged_perform _ _)]
      exact .inl entry
  | closed heartbeats calls =>
      rw [heartbeats, Heartbeats.workers_flagged (Heartbeats.flagged_beginClose _)]
      exact .inl entry
  | still shape heartbeats calls => exact .inl (heartbeats ▸ entry)

theorem claim_isolation (kind : Kind) (limits : Limits) (eagerGather : Bool) (trace : List Action)
    (s : System) (a : Action) (s' : System)
    (ran : run step (create kind limits eagerGather) trace = some s) (taken : s.step a = some s') :
    s.Isolated a s' := by
  have slots := slots_run ran
  refine ⟨fun i w' => flag_cause slots taken, fun c i => flag_effect slots taken, ?_,
    fun c i => entry_kept slots taken⟩
  rintro operation rfl none
  cases taken
  change s.heartbeats.perform operation = _
  rw [Heartbeats.perform_spec]
  cases ended : operation.ended with
  | none => rfl
  | some c => exact (none c (ends_iff.2 ended)).elim

def acknowledgedTrace : List Action :=
  .call (text "q") true :: claiming 0 (text "m") ++
    [.advance 0 (.start 0 .scheduled), .advance 0 .handOver, .advance 0 .leave]

theorem claim_isolation_acknowledged :
    ∃ s s', run step (create .sync .single false) acknowledgedTrace = some s ∧
      s.heartbeats.workers.get? .sample = some 0 ∧
      Isolated s (.operate (.acknowledgeMessage (text "q") (text "m") (text "w") (text "a")
        (.response true))) s' := by
  have facts : (run step (create .sync .single false) acknowledgedTrace).map
      (fun s => s.heartbeats.workers.get? .sample) = some (some 0) := by decide +kernel
  obtain ⟨s, ran, entry⟩ := Option.map_eq_some_iff.1 facts
  exact ⟨s, _, ran, entry, claim_isolation .sync .single false acknowledgedTrace s _ _ ran rfl⟩

end System

end Nzovu
