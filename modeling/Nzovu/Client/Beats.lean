import Nzovu.Client.Observation
import Nzovu.Service.Claims

/-!
# Heartbeats on the channel

Workers hand their heartbeats to the channel through the interceptor of the client, under deadlines
of their own. The heartbeats of a whole run are compared with the responses that the calls of
`get_next_message` received in it.
-/

namespace Nzovu
open Proto Tally Transition
open Worker (Tick)

/-- The `timeout` that the loop passes to the stub. -/
def Worker.callTimeout (limits : Limits) (w : Worker) (now : ℚ) : ℚ :=
  max (1 / 1000) (min limits.rpcTimeout (w.remaining limits now))

/-- A heartbeat as it is handed to the channel. A channel that is closed sends none of them. -/
structure Beat where
  worker : Nat
  details : CallDetails
  request : Message

namespace Beat

def wireDetails (kind : Kind) (options : RpcOptions) (timeout : ℚ) : CallDetails :=
  intercept kind options
    { CallDetails.plain QueueService.sendMessageHeartBeat.path with
      timeout := some (.float (.finite timeout)) }

def names (claim : Claim) (beat : Beat) : Bool :=
  decide ((readMethod beat.request).bind Method.owner = some claim.owner)

structure SentBy (limits : Limits) (options : RpcOptions) (beat : Beat) (w : Worker) : Prop where
  request : w.claim.heartbeatRequest = .ok beat.request
  owner : (readMethod beat.request).bind Method.owner = some w.claim.owner
  path : beat.details.method = QueueService.sendMessageHeartBeat.path
  metadata : beat.details.metadata =
    some (options.apiKey.elim [] fun key => [(text "api-key", .str key)])
  timeout : ∃ t : ℚ, beat.details.timeout = some (.float (.finite t)) ∧ 1 / 1000 ≤ t ∧
    t ≤ max (1 / 1000) limits.rpcTimeout

end Beat

def Call.claims (c : Call) : Outcome Response → Option Claim
  | .response response =>
      if c.enableHeartbeat then (Claim.fromResponse c.queueName response).toOption.bind id else none
  | _ => none

namespace System

def beats (options : RpcOptions) (s : System) : Action → List Beat
  | .tick i (.issue now) =>
      match s.heartbeats.objects[i]? with
      | some w =>
          match w.claim.heartbeatRequest with
          | .ok request =>
              [⟨i, Beat.wireDetails s.heartbeats.kind options
                (w.callTimeout s.heartbeats.limits now), request⟩]
          | .error _ => []
      | none => []
  | _ => []

def claimed (s : System) : Action → List Claim
  | .advance j (.receive outcome) => (s.calls[j]?.bind fun c => c.claims outcome).toList
  | _ => []

/-- The workers made for a claim, and the calls that have yet to make theirs. -/
def awaited (claim : Claim) (s : System) : Int :=
  tally (fun w => if w.claim = claim then 1 else 0) s.heartbeats.objects +
    tally (fun c => if c.phase = .start claim then 1 else 0) s.calls

end System

theorem Call.receive_start (c : Call) (outcome : Outcome Response) (claim : Claim) :
    (c.receive outcome).phase = .start claim ↔ c.claims outcome = some claim := by
  cases outcome with
  | response response =>
      simp only [receive, claims]
      cases Claim.fromResponse c.queueName response with
      | error e => simp [Except.toOption]
      | ok made =>
          cases made with
          | none => simp [Except.toOption]
          | some own => by_cases enabled : c.enableHeartbeat <;> simp [enabled, Except.toOption]
  | rpcError code details handler =>
      simp only [receive, claims]
      split <;> simp
  | exception e => simp [receive, claims]

theorem Worker.claim_run {kind : Kind} {limits : Limits} {w w' : Worker}
    {trace : List Worker.Action} (ran : run (Worker.step kind limits) w trace = some w') :
    w'.claim = w.claim := by
  apply invariant (I := fun v : Worker => v.claim = w.claim) _ rfl ran
  intro v a v' same taken
  cases a with
  | stop =>
      cases taken
      exact same
  | tick t => exact (Worker.tick_keeps taken).1.trans same

theorem tally_claims {workers workers' : List Worker}
    (same : workers'.map Worker.claim = workers.map Worker.claim) (claim : Claim) :
    tally (fun w => if w.claim = claim then 1 else 0) workers' =
      tally (fun w => if w.claim = claim then 1 else 0) workers := by
  have through : ∀ ws : List Worker, tally (fun w => if w.claim = claim then 1 else 0) ws =
      tally (fun c => if c = claim then 1 else 0) (ws.map Worker.claim) := by
    intro ws
    rw [tally, tally, List.map_map]
    rfl
  rw [through, through, same]

theorem Heartbeats.Flagged.claims {h h' : Heartbeats} (flagged : h.Flagged h') :
    h'.objects.map Worker.claim = h.objects.map Worker.claim := by
  obtain ⟨numbers, objects, closed, rfl, -, flags⟩ := flagged
  apply List.ext_getElem?
  intro i
  rw [List.getElem?_map, List.getElem?_map, flags i, Option.map_map]
  congr 1
  funext w
  simp only [Function.comp_apply]
  split <;> rfl

theorem Call.phases_kept {h h' : Heartbeats} {j : Nat} {c c' : Call} {st : CallStep}
    (moved : Moved h j c st h' c') (unreceived : ∀ outcome, st ≠ .receive outcome)
    (unstarted : ∀ now submit, st ≠ .start now submit) (claim : Claim) :
    c.phase ≠ .start claim ∧ c'.phase ≠ .start claim := by
  cases moved with
  | failed outcome => exact absurd rfl (unreceived outcome)
  | empty outcome => exact absurd rfl (unreceived outcome)
  | claimed outcome => exact absurd rfl (unreceived outcome)
  | unprotected outcome => exact absurd rfl (unreceived outcome)
  | started now submit => exact absurd rfl (unstarted now submit)
  | unstarted now submit => exact absurd rfl (unstarted now submit)
  | built phase =>
      rw [phase]
      refine ⟨Phase.noConfusion, ?_⟩
      show (if c.enableHeartbeat then Phase.reserve else .send) ≠ _
      split <;> exact Phase.noConfusion
  | _ => exact ⟨by simp [*], by simp⟩

namespace System

theorem tally_call {calls : List Call} {j : Nat} {c c' : Call} (claim : Claim)
    (located : calls[j]? = some c) :
    tally (fun c => if c.phase = .start claim then 1 else 0) (calls.set j c') =
      tally (fun c => if c.phase = .start claim then 1 else 0) calls -
        (if c.phase = .start claim then 1 else 0) +
        (if c'.phase = .start claim then 1 else 0) :=
  tally_set _ located c'

theorem awaited_kept {s s' : System} {j : Nat} {c c' : Call} (located : s.calls[j]? = some c)
    (objects : s'.heartbeats.objects = s.heartbeats.objects)
    (calls : s'.calls = s.calls.set j c') (claim : Claim) :
    s'.awaited claim = s.awaited claim - (if c.phase = .start claim then 1 else 0) +
      (if c'.phase = .start claim then 1 else 0) := by
  rw [awaited, awaited, objects, calls, tally_call claim located]
  omega

theorem awaited_received {s s' : System} {j : Nat} {outcome : Outcome Response} {c c' : Call}
    (located : s.calls[j]? = some c)
    (made : c.getNextMessage s.heartbeats j (.receive outcome) = some (s'.heartbeats, c'))
    (calls : s'.calls = s.calls.set j c') (claim : Claim) :
    s'.awaited claim =
      s.awaited claim + (s.claimed (.advance j (.receive outcome))).count claim := by
  have received : c.phase = .awaiting ∧ s'.heartbeats = s.heartbeats ∧ c' = c.receive outcome := by
    cases phase : c.phase with
    | awaiting =>
        simp only [Call.getNextMessage, phase, Option.some.injEq, Prod.mk.injEq] at made
        exact ⟨rfl, made.1.symm, made.2.symm⟩
    | _ => simp [Call.getNextMessage, phase] at made
  obtain ⟨phase, heartbeats, rfl⟩ := received
  have told : s.claimed (.advance j (.receive outcome)) = (c.claims outcome).toList := by
    rw [claimed, located]
    rfl
  rw [awaited_kept located (by rw [heartbeats]) calls claim, told, phase, if_neg Phase.noConfusion,
    Int.sub_zero]
  congr 1
  simp only [Call.receive_start]
  cases c.claims outcome with
  | none => rfl
  | some own => by_cases same : own = claim <;> simp [same]

theorem awaited_started {s s' : System} {j : Nat} {now : ℚ} {submit : Submit} {c c' : Call}
    (located : s.calls[j]? = some c)
    (made : c.getNextMessage s.heartbeats j (.start now submit) = some (s'.heartbeats, c'))
    (calls : s'.calls = s.calls.set j c') (claim : Claim) :
    s'.awaited claim = s.awaited claim := by
  obtain ⟨own, phase, after, same⟩ : ∃ own : Claim, c.phase = .start own ∧
      c'.phase ≠ .start claim ∧ (s.heartbeats.start own now j submit).1 = s'.heartbeats := by
    generalize s'.heartbeats = h at made
    cases Call.moved made with
    | started _ _ own phase possible started =>
        exact ⟨own, phase, Phase.noConfusion, by rw [started]⟩
    | unstarted _ _ own e phase possible started =>
        exact ⟨own, phase, Phase.noConfusion, by rw [started]⟩
  obtain ⟨w, grown, born, -⟩ := s.heartbeats.start_born own now j submit
  have claimed : w.claim = own := by cases born <;> rfl
  rw [same] at grown
  rw [awaited, awaited, grown, calls, tally_call claim located, tally_append, tally_singleton,
    if_neg after, phase, claimed]
  simp only [Phase.start.injEq]
  omega

theorem awaited_advanced {s s' : System} {j : Nat} {st : CallStep} {c c' : Call}
    (located : s.calls[j]? = some c)
    (made : c.getNextMessage s.heartbeats j st = some (s'.heartbeats, c'))
    (calls : s'.calls = s.calls.set j c') (claim : Claim) :
    s'.awaited claim = s.awaited claim + (s.claimed (.advance j st)).count claim := by
  have still : (∀ outcome, st ≠ .receive outcome) → (∀ now submit, st ≠ .start now submit) →
      s'.awaited claim = s.awaited claim := by
    intro unreceived unstarted
    obtain ⟨before, after⟩ :=
      Call.phases_kept (Call.moved made) unreceived unstarted claim
    have objects : s'.heartbeats.objects = s.heartbeats.objects := by
      rcases Call.objects_getNextMessage made with same | ⟨now, submit, own, w, started, -⟩
      · exact same
      · exact absurd started (unstarted now submit)
    rw [awaited_kept located objects calls claim, if_neg before, if_neg after]
    omega
  cases st with
  | receive outcome => exact awaited_received located made calls claim
  | start now submit =>
      rw [awaited_started located made calls claim]
      exact (Int.add_zero _).symm
  | _ =>
      rw [still (fun _ => CallStep.noConfusion) (fun _ _ => CallStep.noConfusion)]
      exact (Int.add_zero _).symm

theorem awaited_step {s s' : System} {a : Action} (taken : s.step a = some s') (claim : Claim) :
    s'.awaited claim = s.awaited claim + (s.claimed a).count claim := by
  have flagged : ∀ h, s.heartbeats.Flagged h → s'.heartbeats = h → s'.calls = s.calls →
      s'.awaited claim = s.awaited claim := by
    intro h flags same calls
    subst same
    rw [awaited, awaited, tally_claims flags.claims, calls]
  cases effect taken with
  | called heartbeats calls =>
      rw [awaited, awaited, heartbeats, calls, tally_append, tally_singleton]
      simp [claimed, Call.create]
  | advanced located made calls => exact awaited_advanced located made calls claim
  | ticked shape ticked calls =>
      obtain ⟨v, v', place, stepped, objects⟩ := Heartbeats.tick_objects ticked
      have own := (Worker.tick_keeps stepped).1
      have quiet : s.claimed a = [] := by
        rcases shape with rfl | ⟨rfl, -⟩ <;> rfl
      rw [awaited, awaited, objects, calls, tally_set_same _ place (by simp only [own]), quiet]
      simp
  | operated heartbeats calls =>
      rw [flagged _ (flagged_perform _ _) heartbeats calls]
      simp [claimed]
  | closed heartbeats calls =>
      rw [flagged _ (Heartbeats.flagged_beginClose _) heartbeats calls]
      simp [claimed]
  | still shape heartbeats calls =>
      have quiet : s.claimed a = [] := by
        rcases shape with rfl | ⟨k, st, rfl⟩ <;> rfl
      rw [flagged _ (Heartbeats.flagged_refl _) heartbeats calls, quiet]
      simp

variable {kind : Kind} {limits : Limits} {eagerGather : Bool} {options : RpcOptions}

theorem awaited_run {trace : List Action} {s : System}
    (ran : run step (create kind limits eagerGather) trace = some s) (claim : Claim) :
    s.awaited claim =
      (project step claimed (create kind limits eagerGather) trace).count claim := by
  have all := invariant_trace (I := fun past s =>
      run step (create kind limits eagerGather) past = some s ∧ s.awaited claim =
        (project step claimed (create kind limits eagerGather) past).count claim)
    (fun past s a s' held taken => by
      refine ⟨run_append.2 ⟨s, held.1, run_cons.2 ⟨s', taken, rfl⟩⟩, ?_⟩
      rw [awaited_step taken, project_snoc held.1, List.count_append, held.2]
      exact (Int.natCast_add _ _).symm)
    ⟨rfl, rfl⟩ ran
  exact all.2

theorem workers_received {trace : List Action} {s : System}
    (ran : run step (create kind limits eagerGather) trace = some s) (claim : Claim) :
    s.heartbeats.objects.countP (·.claim = claim) ≤
      (project step claimed (create kind limits eagerGather) trace).count claim := by
  have whole := awaited_run ran claim
  have made := tally_indicator (fun w : Worker => decide (w.claim = claim)) s.heartbeats.objects
  have waiting := tally_indicator (fun c : Call => decide (c.phase = .start claim)) s.calls
  simp only [decide_eq_true_eq] at made waiting
  rw [awaited, made, waiting] at whole
  omega

/-! ## The heartbeats of a run -/

theorem present_claim {s s' : System} {trace : List Action} {i : Nat} {w : Worker}
    (ran : run step s trace = some s') (located : s.heartbeats.objects[i]? = some w) :
    ∃ w', s'.heartbeats.objects[i]? = some w' ∧ w'.claim = w.claim := by
  have shows : Shows s.heartbeats.kind s.heartbeats.limits i s w := ⟨rfl, located⟩
  obtain ⟨w', went, -, here⟩ :=
    run_project (R := Shows s.heartbeats.kind s.heartbeats.limits i)
      (fun _ _ _ _ shown moved => shows_step shown moved) shows ran
  exact ⟨w', here, Worker.claim_run went⟩

theorem sentBy_beat {s : System} {a : Action} {beat : Beat} (sent : beat ∈ s.beats options a) :
    ∃ w, s.heartbeats.objects[beat.worker]? = some w ∧
      Beat.SentBy s.heartbeats.limits options beat w := by
  cases a with
  | tick i t =>
      cases t with
      | issue now =>
          simp only [beats] at sent
          split at sent
          · rename_i w located
            split at sent
            · rename_i request built
              obtain rfl := List.mem_singleton.1 sent
              refine ⟨w, located, built, heartbeatRequest_read built, rfl, ?_, _, rfl, ?_, ?_⟩
              · show some (options.metadata none) = _
                rw [RpcOptions.metadata]
                cases options.apiKey <;> rfl
              · exact le_max_left _ _
              · exact max_le_max_left _ (min_le_left _ _)
            · cases sent
          · cases sent
      | _ => cases sent
  | _ => cases sent

theorem sentBy_run {trace : List Action} {s : System}
    (ran : run step (create kind limits eagerGather) trace = some s) :
    ∀ beat ∈ project step (beats options) (create kind limits eagerGather) trace,
      ∃ w, s.heartbeats.objects[beat.worker]? = some w ∧ Beat.SentBy limits options beat w := by
  have all := invariant_trace (I := fun past s =>
      run step (create kind limits eagerGather) past = some s ∧
        ∀ beat ∈ project step (beats options) (create kind limits eagerGather) past,
          ∃ w, s.heartbeats.objects[beat.worker]? = some w ∧ Beat.SentBy limits options beat w)
    (fun past s a s' held taken => by
      have one : run step s [a] = some s' := run_cons.2 ⟨s', taken, rfl⟩
      refine ⟨run_append.2 ⟨s, held.1, one⟩, ?_⟩
      intro beat sent
      have told : ∃ w, s.heartbeats.objects[beat.worker]? = some w ∧
          Beat.SentBy limits options beat w := by
        rw [project_snoc held.1] at sent
        rcases List.mem_append.1 sent with old | new
        · exact held.2 beat old
        · have settings : s.heartbeats.limits = limits :=
            congrArg Prod.snd (settings_run held.1)
          obtain ⟨w, located, told⟩ := sentBy_beat new
          exact ⟨w, located, settings ▸ told⟩
      obtain ⟨w, located, told⟩ := told
      obtain ⟨w', here, same⟩ := present_claim one located
      exact ⟨w', here, by rw [same]; exact told.request, by rw [same]; exact told.owner, told.path,
        told.metadata, told.timeout⟩)
    ⟨rfl, fun beat sent => by cases sent⟩ ran
  exact all.2

theorem beats_issued {trace : List Action} {s : System} {i : Nat} {w : Worker} {request : Message}
    (ran : run step (create kind limits eagerGather) trace = some s)
    (located : s.heartbeats.objects[i]? = some w) (built : w.claim.heartbeatRequest = .ok request) :
    (project step (beats options) (create kind limits eagerGather) trace).countP
      (fun beat => decide (beat.worker = i)) = trace.countP (heartbeat i) := by
  refine countP_project ?_ ran
  intro t a u rest taken later
  cases a with
  | tick k tick =>
      cases tick with
      | issue now =>
          obtain ⟨v, v', place, -, -⟩ :
              ∃ v v', t.heartbeats.objects[k]? = some v ∧
                v.tick t.heartbeats.kind t.heartbeats.limits (.issue now) = some v' ∧
                u.heartbeats.objects = t.heartbeats.objects.set k v' :=
            Heartbeats.tick_objects (tick_frame taken).1
          by_cases here : k = i
          · subst here
            have whole : run step t (.tick k (.issue now) :: rest) = some s :=
              run_cons.2 ⟨u, taken, later⟩
            obtain ⟨w', found, same⟩ := present_claim whole place
            rw [located] at found
            cases found
            rw [same] at built
            simp [beats, place, built, heartbeat, stepOf, Worker.isIssue]
          · simp only [beats, place]
            split <;> simp [heartbeat, stepOf, here]
      | _ => simp [beats, heartbeat, stepOf, Worker.isIssue]
  | _ => rfl

theorem beats_worker {trace : List Action} {s : System}
    (ran : run step (create kind limits eagerGather) trace = some s) {i : Nat} {w : Worker}
    (located : s.heartbeats.objects[i]? = some w) :
    (project step (beats options) (create kind limits eagerGather) trace).countP
      (fun beat => decide (beat.worker = i)) ≤ 3 * limits.maxCount := by
  cases built : w.claim.heartbeatRequest with
  | error e =>
      have unsent : (project step (beats options) (create kind limits eagerGather) trace).countP
          (fun beat => decide (beat.worker = i)) = 0 := by
        rw [List.countP_eq_zero]
        intro beat sent same
        obtain ⟨v, place, told⟩ := sentBy_run ran beat sent
        rw [of_decide_eq_true same, located] at place
        cases place
        have request := told.request
        rw [built] at request
        cases request
      omega
  | ok request =>
      obtain ⟨life⟩ := life_run ran located
      have issued : trace.countP (heartbeat i) = Worker.issues _ :=
        countP_life (f := Worker.isIssue) rfl rfl ran life
      rw [beats_issued ran located built, issued]
      exact (born_calls life.born life.lives).1

theorem beats_named {trace : List Action} {s : System}
    (ran : run step (create kind limits eagerGather) trace = some s) (claim : Claim) :
    (project step (beats options) (create kind limits eagerGather) trace).countP
        (Beat.names claim) ≤
      3 * limits.maxCount * s.heartbeats.objects.countP (·.claim = claim) := by
  let log := project step (beats options) (create kind limits eagerGather) trace
  let workers := s.heartbeats.objects
  let own := (List.range workers.length).filter fun i => workers[i]?.any (·.claim = claim)
  have owned : ∀ beat ∈ log, (if beat.names claim then 1 else 0) =
      ∑ i ∈ Finset.range workers.length,
        if beat.names claim && decide (beat.worker = i) then 1 else 0 := by
    intro beat sent
    obtain ⟨w, located, -⟩ := sentBy_run ran beat sent
    have inside : beat.worker < workers.length := (List.getElem?_eq_some_iff.1 located).1
    by_cases named : beat.names claim <;> simp [named, inside]
  have within : ∀ i ∈ own,
      log.countP (fun beat => beat.names claim && decide (beat.worker = i)) ≤
        3 * limits.maxCount := by
    intro i chosen
    obtain ⟨-, mine⟩ := List.mem_filter.1 chosen
    obtain ⟨w, located, -⟩ := (Option.any_eq_true _ _).1 mine
    have each : log.countP (fun beat => decide (beat.worker = i)) ≤ 3 * limits.maxCount :=
      beats_worker ran located
    apply le_trans _ each
    apply List.countP_mono_left
    intro beat _ both
    exact (Bool.and_eq_true_iff.1 both).2
  have never : ∀ i, i ∉ own →
      log.countP (fun beat => beat.names claim && decide (beat.worker = i)) = 0 := by
    intro i foreign
    rw [List.countP_eq_zero]
    intro beat sent both
    obtain ⟨named, here⟩ := Bool.and_eq_true_iff.1 both
    obtain ⟨w, located, told⟩ := sentBy_run ran beat sent
    rw [of_decide_eq_true here] at located
    have same : claim = w.claim :=
      Claim.owner_injective (Option.some.inj ((of_decide_eq_true named).symm.trans told.owner))
    apply foreign
    apply List.mem_filter.2
    refine ⟨List.mem_range.2 (List.getElem?_eq_some_iff.1 located).1, ?_⟩
    show (s.heartbeats.objects[i]?).any _ = true
    rw [located, same]
    exact decide_eq_true rfl
  calc log.countP (Beat.names claim)
      = ∑ i ∈ Finset.range workers.length,
          log.countP (fun beat => beat.names claim && decide (beat.worker = i)) :=
        countP_eq_sum owned
    _ ≤ 3 * limits.maxCount * own.length := sum_le_chosen within never
    _ = 3 * limits.maxCount * workers.countP (·.claim = claim) := by
        rw [← List.countP_eq_length_filter, countP_range]

/-- The heartbeats that a run hands to the channel are those of its workers, each once, with the key
of the client and a deadline of its own. They are about messages that the client has received, and
there are no more of them for a message than the loops of its receptions allow. -/
theorem heartbeats_wired (kind : Kind) (limits : Limits) (eagerGather : Bool) (options : RpcOptions)
    (trace : List Action) (s : System)
    (ran : run step (create kind limits eagerGather) trace = some s) :
    let claims := project step claimed (create kind limits eagerGather) trace
    let log := project step (beats options) (create kind limits eagerGather) trace
    (∀ beat ∈ log, ∃ w, s.heartbeats.objects[beat.worker]? = some w ∧ w.claim ∈ claims ∧
      Beat.SentBy limits options beat w) ∧
    (∀ (i : Nat) (w : Worker), s.heartbeats.objects[i]? = some w → w.claim.Sendable →
      log.countP (fun beat => decide (beat.worker = i)) = trace.countP (heartbeat i)) ∧
    ∀ claim, log.countP (Beat.names claim) ≤ 3 * limits.maxCount * claims.count claim := by
  intro claims log
  refine ⟨?_, ?_, ?_⟩
  · intro beat sent
    obtain ⟨w, located, told⟩ := sentBy_run ran beat sent
    have made : 0 < s.heartbeats.objects.countP (·.claim = w.claim) :=
      List.countP_pos_iff.2 ⟨w, List.mem_of_getElem? located, decide_eq_true rfl⟩
    have received := workers_received ran w.claim
    exact ⟨w, located, List.count_pos_iff.1 (made.trans_le received), told⟩
  · intro i w located sendable
    obtain ⟨request, built, -⟩ := heartbeat_tells sendable
    exact beats_issued ran located built
  · intro claim
    exact (beats_named ran claim).trans (Nat.mul_le_mul_left _ (workers_received ran claim))

theorem heartbeats_wired_beating : ∃ s : System,
    let claims := project step claimed (create .sync .single false) beatingTrace
    let log := project step (beats .sample) (create .sync .single false) beatingTrace
    log.length = 2 ∧ claims = [Claim.sample] ∧
    (∀ beat ∈ log, ∃ w, s.heartbeats.objects[beat.worker]? = some w ∧ w.claim ∈ claims ∧
      Beat.SentBy .single .sample beat w) ∧
    (∀ (i : Nat) (w : Worker), s.heartbeats.objects[i]? = some w → w.claim.Sendable →
      log.countP (fun beat => decide (beat.worker = i)) = beatingTrace.countP (heartbeat i)) ∧
    ∀ claim, log.countP (Beat.names claim) ≤ 3 * Limits.single.maxCount * claims.count claim := by
  obtain ⟨s, ran⟩ := Option.isSome_iff_exists.1
    (show (run step (create .sync .single false) beatingTrace).isSome from by decide +kernel)
  exact ⟨s, by decide +kernel, by decide +kernel,
    heartbeats_wired .sync .single false .sample beatingTrace s ran⟩

end System

end Nzovu
