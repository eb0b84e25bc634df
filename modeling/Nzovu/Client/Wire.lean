import Nzovu.Client.Connection

/-!
# What goes over the wire

Whatever the order of calls, answers and closings, a client has one channel, made as it was set, and
each RPC on it is the RPC of one call.
-/

namespace Nzovu
open Proto
open Tally (located_append located_set)

section Replaced
variable {α β : Type*} {f : α → Option β} {xs : List α} {i : Nat} {a b : α}

theorem filterMap_set_same (located : xs[i]? = some a) (same : f b = f a) :
    (xs.set i b).filterMap f = xs.filterMap f := by
  induction xs generalizing i with
  | nil => cases located
  | cons first rest ih =>
      cases i with
      | zero =>
          cases located
          simp only [List.set_cons_zero, List.filterMap_cons, same]
      | succ i => simp only [List.set_cons_succ, List.filterMap_cons, ih located]

theorem filterMap_set_new {x : β} (located : xs[i]? = some a) (before : f a = none)
    (after : f b = some x) : ((xs.set i b).filterMap f).Perm (xs.filterMap f ++ [x]) := by
  induction xs generalizing i with
  | nil => cases located
  | cons first rest ih =>
      cases i with
      | zero =>
          cases located
          simp only [List.set_cons_zero, List.filterMap_cons, before, after]
          exact (List.perm_append_singleton x _).symm
      | succ i =>
          simp only [List.set_cons_succ, List.filterMap_cons]
          cases f first with
          | none => exact ih located
          | some y => exact (ih located).cons y

end Replaced

namespace MethodCall

/-- The call came to what a call of the method comes to for some answer of the server, or it found
no open channel. -/
def Settled (options : RpcOptions) (channelClosed : Option Exc) (call : MethodCall)
    (result : CallResult) : Prop :=
  (∃ reply started, NzovuClient.call call.env options (fun _ _ => reply) started call.handler
      call.method = (call.sent.toList.map Sent.rpc, result)) ∨
    call.sent = none ∧ call.procedure.Admitted ∧ ∃ e,
      (e = Connection.noStub call.procedure.rpc ∨ channelClosed = some e) ∧
        result = NzovuClient.caught call.procedure call.handler e

def Standing (options : RpcOptions) (channelClosed : Option Exc) (channels : Nat)
    (call : MethodCall) : Prop :=
  match call.state with
  | .ready request =>
      call.sent = none ∧ NzovuClient.prepare call.procedure call.handler = .ok request
  | .awaiting => ∃ k request, call.sent = some (call.sending options k request) ∧ k < channels ∧
      NzovuClient.prepare call.procedure call.handler = .ok request
  | .done result => call.Settled options channelClosed result ∧
      ∀ sent, call.sent = some sent → ∃ k request, sent = call.sending options k request ∧
        k < channels ∧ NzovuClient.prepare call.procedure call.handler = .ok request

variable {options : RpcOptions} {channelClosed : Option Exc} {channels : Nat} {call : MethodCall}

theorem Standing.more {channels' : Nat} (standing : call.Standing options channelClosed channels)
    (more : channels ≤ channels') : call.Standing options channelClosed channels' := by
  rw [Standing] at standing ⊢
  split at standing
  · exact standing
  · obtain ⟨k, request, sent, bound, prepared⟩ := standing
    exact ⟨k, request, sent, Nat.lt_of_lt_of_le bound more, prepared⟩
  · refine ⟨standing.1, ?_⟩
    intro sent same
    obtain ⟨k, request, sending, bound, prepared⟩ := standing.2 sent same
    exact ⟨k, request, sending, Nat.lt_of_lt_of_le bound more, prepared⟩

theorem standing_begin (env : ClientEnv) (method : Method) (handler : Bool) :
    (begin_ env method handler).Standing options channelClosed channels := by
  cases prepared : NzovuClient.prepare (NzovuClient.procedure env method) handler with
  | ok request =>
      have state : (begin_ env method handler).state = .ready request := by
        simp only [begin_, prepared]
      rw [Standing, state]
      exact ⟨rfl, prepared⟩
  | error result =>
      have state : (begin_ env method handler).state = .done result := by
        simp only [begin_, prepared]
      rw [Standing, state]
      refine ⟨.inl ⟨.error (.other overflowError), .ok (), ?_⟩, ?_⟩
      · show NzovuClient.call env options _ _ handler method = _
        simp only [NzovuClient.call, prepared]
        rfl
      · intro sent same
        cases same

theorem standing_ready {request : Message} (ready : call.state = .ready request)
    (standing : call.Standing options channelClosed channels) :
    call.sent = none ∧ NzovuClient.prepare call.procedure call.handler = .ok request := by
  rw [Standing, ready] at standing
  exact standing

theorem standing_issue {k : Nat} {request : Message} (ready : call.state = .ready request)
    (bound : k < channels) (standing : call.Standing options channelClosed channels) :
    (call.issue (call.sending options k request)).Standing options channelClosed channels :=
  ⟨k, request, rfl, bound, (standing_ready ready standing).2⟩

theorem standing_raise {request : Message} {e : Exc} (ready : call.state = .ready request)
    (cause : e = Connection.noStub call.procedure.rpc ∨ channelClosed = some e)
    (standing : call.Standing options channelClosed channels) :
    (call.raise e).Standing options channelClosed channels := by
  obtain ⟨unsent, prepared⟩ := standing_ready ready standing
  obtain ⟨passed, built⟩ := NzovuClient.prepare_ok.1 prepared
  refine ⟨.inr ⟨unsent, ⟨passed, request, built⟩, e, cause, rfl⟩, ?_⟩
  intro sent same
  rw [raise, unsent] at same
  cases same

theorem standing_settle {reply : Except CallFailure Message} {started : Except Exc Unit}
    (awaiting : call.state = .awaiting) (standing : call.Standing options channelClosed channels) :
    (call.settle started reply).Standing options channelClosed channels := by
  rw [Standing, awaiting] at standing
  obtain ⟨k, request, sent, bound, prepared⟩ := standing
  refine ⟨.inl ⟨reply, started, ?_⟩, ?_⟩
  · show NzovuClient.call call.env options _ _ call.handler call.method =
      (call.sent.toList.map Sent.rpc, NzovuClient.settle call.procedure call.handler started reply)
    rw [sent, NzovuClient.call]
    simp only [show NzovuClient.prepare (NzovuClient.procedure call.env call.method) call.handler =
      .ok request from prepared]
    rfl
  · intro other same
    rw [show (call.settle started reply).sent = call.sent from rfl, sent] at same
    cases same
    exact ⟨k, request, rfl, bound, prepared⟩

end MethodCall

namespace Connection
variable {c : ClientSettings}

/-! ## The invariant -/

structure Governed (c : ClientSettings) (s : Connection) : Prop where
  channel : s.channel = s.channels.head?.map fun _ => 0
  stub : s.stub = s.channel
  single : s.channels.length ≤ 1
  serves : ∀ entry ∈ s.channels, Serves c entry.1
  wire : s.wire.Perm (s.calls.filterMap MethodCall.sent)
  settings : ∀ call ∈ s.calls, call.env.pb = c.pb ∧ call.env.kind = c.kind
  standing : ∀ call ∈ s.calls, call.Standing c.options c.channelClosed s.channels.length

theorem governed_fresh (c : ClientSettings) : Governed c fresh where
  channel := rfl
  stub := rfl
  single := Nat.zero_le 1
  serves := fun _ member => nomatch member
  wire := .refl _
  settings := fun _ member => nomatch member
  standing := fun _ member => nomatch member

theorem stub_bound {s : Connection} {k : Nat} (governed : Governed c s) (stub : s.stub = some k) :
    k < s.channels.length := by
  rw [governed.stub, governed.channel] at stub
  cases channels : s.channels with
  | nil =>
      rw [channels] at stub
      cases stub
  | cons first rest =>
      rw [channels] at stub
      cases stub
      exact Nat.zero_lt_succ _

theorem refused_closed {s : Connection} {k : Nat} {e : Exc} (refused : s.refusal c k = some e) :
    c.channelClosed = some e := by
  rw [refusal] at refused
  split at refused
  · cases refused
  · exact refused

theorem governed_openWith {s : Connection} {channel : Channel} (governed : Governed c s)
    (unmade : s.channel = none) (serves : Serves c channel) : Governed c (s.openWith channel) := by
  have none_ : s.channels = [] := by
    have empty := governed.channel
    rw [unmade] at empty
    cases channels : s.channels with
    | nil => rfl
    | cons first rest =>
        rw [channels] at empty
        cases empty
  refine ⟨?_, rfl, ?_, ?_, governed.wire, governed.settings, ?_⟩
  · simp [openWith, none_]
  · simp [openWith, none_]
  · intro entry member
    rw [openWith, none_] at member
    obtain rfl := List.mem_singleton.1 member
    exact serves
  · intro call member
    apply (governed.standing call member).more
    simp [openWith]

theorem governed_setCall {s : Connection} {i : Nat} {call : MethodCall} (governed : Governed c s)
    (located : s.calls[i]? = some call) (call' : MethodCall) (wire : List Sent)
    (env : call'.env = call.env)
    (sent : wire.Perm ((s.calls.set i call').filterMap MethodCall.sent))
    (standing : call'.Standing c.options c.channelClosed s.channels.length) :
    Governed c { s.setCall i call' with wire := wire } := by
  refine ⟨governed.channel, governed.stub, governed.single, governed.serves, sent, ?_, ?_⟩
  · intro other member
    rcases List.mem_or_eq_of_mem_set member with old | rfl
    · exact governed.settings other old
    · rw [env]
      exact governed.settings call (List.mem_of_getElem? located)
  · intro other member
    rcases List.mem_or_eq_of_mem_set member with old | rfl
    · exact governed.standing other old
    · exact standing

theorem governed_step {s s' : Connection} {a : Step} (governed : Governed c s)
    (taken : step c s a = some s') : Governed c s' := by
  cases effect taken with
  | connected files channel isOpen unmade serves => exact governed_openWith governed unmade serves
  | unchanged a idle => exact governed
  | called method handler reserved =>
      refine ⟨governed.channel, governed.stub, governed.single, governed.serves, ?_, ?_, ?_⟩
      · simpa [List.filterMap_append, MethodCall.begin_] using governed.wire
      · intro call member
        rcases List.mem_append.1 member with old | new
        · exact governed.settings call old
        · obtain rfl := List.mem_singleton.1 new
          exact ⟨rfl, rfl⟩
      · intro call member
        rcases List.mem_append.1 member with old | new
        · exact governed.standing call old
        · obtain rfl := List.mem_singleton.1 new
          exact MethodCall.standing_begin _ method handler
  | sent i k call request located ready stub passes =>
      have standing := governed.standing call (List.mem_of_getElem? located)
      have unsent := (MethodCall.standing_ready ready standing).1
      apply governed_setCall governed located (call.issue (call.sending c.options k request))
        (s.wire ++ [call.sending c.options k request]) rfl
      · exact (governed.wire.append_right _).trans (filterMap_set_new located unsent rfl).symm
      · exact MethodCall.standing_issue ready (stub_bound governed stub) standing
  | unsent i call request e located ready cause =>
      have standing := governed.standing call (List.mem_of_getElem? located)
      apply governed_setCall governed located (call.raise e) s.wire rfl
      · rw [filterMap_set_same located (show (call.raise e).sent = call.sent from rfl)]
        exact governed.wire
      · apply MethodCall.standing_raise ready _ standing
        rcases cause with ⟨-, same⟩ | ⟨k, -, refused⟩
        · exact .inl same
        · exact .inr (refused_closed refused)
  | answered i call reply started located awaiting =>
      have standing := governed.standing call (List.mem_of_getElem? located)
      apply governed_setCall governed located (call.settle started reply) s.wire rfl
      · rw [filterMap_set_same located (show (call.settle started reply).sent = call.sent from rfl)]
        exact governed.wire
      · exact MethodCall.standing_settle awaiting standing
  | closing => exact ⟨governed.channel, governed.stub, governed.single, governed.serves,
      governed.wire, governed.settings, governed.standing⟩
  | channelClosed k closed channel =>
      refine ⟨?_, governed.stub, ?_, ?_, governed.wire, governed.settings, ?_⟩
      · rw [governed.channel]
        cases s.channels with
        | nil => simp
        | cons first rest => cases k <;> simp
      · simpa using governed.single
      · intro entry member
        obtain ⟨n, located⟩ := List.mem_iff_getElem?.1 member
        rw [List.getElem?_modify] at located
        obtain ⟨old, found, same⟩ := Option.map_eq_some_iff.1 located
        have made := governed.serves old (List.mem_of_getElem? found)
        split at same <;> subst same <;> exact made
      · simpa using governed.standing

theorem governed_start {files : FileSystem} {s : Connection} (started : start c files = .ok s) :
    Governed c s := by
  rw [start] at started
  split at started
  · obtain ⟨channel, made, same⟩ := bind_eq_ok.1 started
    cases same
    exact governed_openWith (governed_fresh c) rfl ⟨files, made⟩
  · cases started
    exact governed_fresh c

theorem governed_run {files : FileSystem} {s t : Connection} {trace : List Step}
    (started : start c files = .ok s) (run : Transition.run (step c) s trace = some t) :
    Governed c t :=
  Transition.invariant (fun _ _ _ governed taken => governed_step governed taken)
    (governed_start started) run

structure Wired (c : ClientSettings) (others : Pool) (s : Connection) : Prop where
  single : s.channels.length ≤ 1
  channels : ∀ entry ∈ s.channels, entry.1.target = c.target ∧ entry.1.kind = c.kind ∧
    entry.1.interceptor = c.options ∧ (entry.1.credentials.isSome = true ↔ c.useTls = true)
  calls : s.wire.Perm (s.calls.filterMap MethodCall.sent)
  /-- Each RPC went over the channel, to the method of its call, with the key and the deadline of
  the client, and with a message of the type that the method takes. -/
  rpcs : ∀ sent ∈ s.wire, sent.channel < s.channels.length ∧ ∃ call ∈ s.calls,
    call.sent = some sent ∧ call.procedure.Admitted ∧
      sent.details.method = call.procedure.rpc.path ∧
      sent.details.timeout = c.options.timeout ∧
      sent.details.metadata =
        some ((c.options.apiKey.map fun key => (text "api-key", .str key)).toList) ∧
      sent.request.Typed (QueueService.pool others) call.procedure.rpc.request.fullName

theorem serves_settings {channel : Channel} (serves : Serves c channel) :
    channel.target = c.target ∧ channel.kind = c.kind ∧ channel.interceptor = c.options ∧
      (channel.credentials.isSome = true ↔ c.useTls = true) := by
  obtain ⟨files, made⟩ := serves
  obtain ⟨target, kind, interceptor, secured⟩ := createChannel_ok files made
  refine ⟨target, kind, interceptor, ?_⟩
  cases credentials : channel.credentials with
  | none =>
      rw [credentials] at secured
      simp [secured]
  | some given =>
      rw [credentials] at secured
      simp [secured.1]

theorem standing_sent {options : RpcOptions} {channelClosed : Option Exc} {channels : Nat}
    {call : MethodCall} {sent : Sent} (standing : call.Standing options channelClosed channels)
    (same : call.sent = some sent) :
    ∃ k request, sent = call.sending options k request ∧ k < channels ∧
      NzovuClient.prepare call.procedure call.handler = .ok request := by
  rw [MethodCall.Standing] at standing
  split at standing
  · rw [standing.1] at same
    cases same
  · obtain ⟨k, request, sending, bound, prepared⟩ := standing
    rw [sending] at same
    cases same
    exact ⟨k, request, rfl, bound, prepared⟩
  · exact standing.2 sent same

theorem governed_wired {others : Pool} (typed : c.pb.WellTyped (QueueService.pool others))
    {s : Connection} (governed : Governed c s) : Wired c others s where
  single := governed.single
  channels := fun entry member => serves_settings (governed.serves entry member)
  calls := governed.wire
  rpcs := by
    intro sent member
    obtain ⟨call, listed, same⟩ := List.mem_filterMap.1 (governed.wire.mem_iff.1 member)
    obtain ⟨k, request, rfl, bound, prepared⟩ := standing_sent (governed.standing call listed) same
    obtain ⟨passed, built⟩ := NzovuClient.prepare_ok.1 prepared
    have own : call.env.pb.WellTyped (QueueService.pool others) := by
      rw [(governed.settings call listed).1]
      exact typed
    exact ⟨bound, call, listed, same, ⟨passed, request, built⟩, rfl, rfl,
      congrArg some (NzovuClient.metadata_none c.options),
      NzovuClient.request_typed own call.method built⟩

/-! ## What stays -/

structure Kept (call later : MethodCall) : Prop where
  method : later.method = call.method
  env : later.env = call.env
  handler : later.handler = call.handler
  sent : ∀ sent, call.sent = some sent → later.sent = some sent
  done : ∀ result, call.state = .done result → later = call

theorem Kept.refl (call : MethodCall) : Kept call call :=
  ⟨rfl, rfl, rfl, fun _ same => same, fun _ _ => rfl⟩

theorem Kept.trans {first second third : MethodCall} (before : Kept first second)
    (after : Kept second third) : Kept first third where
  method := after.method.trans before.method
  env := after.env.trans before.env
  handler := after.handler.trans before.handler
  sent := fun sent same => after.sent sent (before.sent sent same)
  done := by
    intro result same
    obtain rfl := before.done result same
    exact after.done result same

structure Extends (s t : Connection) : Prop where
  calls : ∀ (i : Nat) (call : MethodCall), s.calls[i]? = some call →
    ∃ later, t.calls[i]? = some later ∧ Kept call later
  wire : s.wire <+: t.wire
  closed : s.closed = true → t.closed = true

theorem Extends.refl (s : Connection) : Extends s s :=
  ⟨fun _ call located => ⟨call, located, .refl call⟩, List.prefix_refl _, fun closed => closed⟩

theorem Extends.trans {s t u : Connection} (before : Extends s t) (after : Extends t u) :
    Extends s u where
  calls := by
    intro i call located
    obtain ⟨later, there, kept⟩ := before.calls i call located
    obtain ⟨last, there, kept'⟩ := after.calls i later there
    exact ⟨last, there, kept.trans kept'⟩
  wire := before.wire.trans after.wire
  closed := fun closed => after.closed (before.closed closed)

theorem calls_setCall {s : Connection} {i : Nat} {call call' : MethodCall}
    (located : s.calls[i]? = some call) (kept : Kept call call') (j : Nat) (other : MethodCall)
    (there : s.calls[j]? = some other) :
    ∃ later, (s.calls.set i call')[j]? = some later ∧ Kept other later := by
  by_cases same : j = i
  · subst same
    rw [located] at there
    cases there
    exact ⟨call', (located_set located).2 (.inl ⟨rfl, rfl⟩), kept⟩
  · exact ⟨other, (located_set located).2 (.inr ⟨same, there⟩), .refl other⟩

theorem extends_step {s s' : Connection} {a : Step} (governed : Governed c s)
    (taken : step c s a = some s') : Extends s s' := by
  cases effect taken with
  | connected files channel isOpen unmade serves =>
      exact ⟨(Extends.refl s).calls, List.prefix_refl _, fun closed => closed⟩
  | unchanged a idle => exact .refl s
  | called method handler reserved =>
      refine ⟨?_, List.prefix_refl _, fun closed => closed⟩
      intro i call located
      exact ⟨call, located_append.2 (.inl located), .refl call⟩
  | sent i k call request located ready stub passes =>
      have unsent := (MethodCall.standing_ready ready
        (governed.standing call (List.mem_of_getElem? located))).1
      refine ⟨calls_setCall located ⟨rfl, rfl, rfl, ?_, ?_⟩, List.prefix_append _ _,
        fun closed => closed⟩
      · intro sent same
        rw [unsent] at same
        cases same
      · intro result same
        rw [ready] at same
        cases same
  | unsent i call request e located ready cause =>
      refine ⟨calls_setCall located ⟨rfl, rfl, rfl, fun _ same => same, ?_⟩, List.prefix_refl _,
        fun closed => closed⟩
      intro result same
      rw [ready] at same
      cases same
  | answered i call reply started located awaiting =>
      refine ⟨calls_setCall located ⟨rfl, rfl, rfl, fun _ same => same, ?_⟩, List.prefix_refl _,
        fun closed => closed⟩
      intro result same
      rw [awaiting] at same
      cases same
  | closing => exact ⟨(Extends.refl s).calls, List.prefix_refl _, fun _ => rfl⟩
  | channelClosed k closed channel =>
      exact ⟨(Extends.refl s).calls, List.prefix_refl _, fun closed => closed⟩

theorem extends_run {s t : Connection} {trace : List Step} (governed : Governed c s)
    (run : Transition.run (step c) s trace = some t) : Extends s t := by
  induction trace generalizing s with
  | nil =>
      cases run
      exact .refl _
  | cons a rest ih =>
      obtain ⟨r, taken, run⟩ := Transition.run_cons.1 run
      exact (extends_step governed taken).trans (ih (governed_step governed taken) run)

/-! ## The end of a client -/

structure Ended (s : Connection) : Prop where
  closed : s.closed = true
  channels : ∀ entry ∈ s.channels, entry.2 = false

theorem ended_closeChannel {s t : Connection} (governed : Governed c s)
    (taken : step c s .closeChannel = some t) : Ended t := by
  rw [step] at taken
  split at taken
  · rename_i closed
    cases taken
    have listed := governed.channel
    have single := governed.single
    cases channels : s.channels with
    | nil =>
        rw [channels] at listed
        simp only [closeChannel, listed, List.head?_nil, Option.map_none]
        exact ⟨closed, by simp [channels]⟩
    | cons first rest =>
        rw [channels] at listed single
        obtain rfl : rest = [] := List.eq_nil_of_length_eq_zero (by simpa using single)
        simp only [closeChannel, listed, List.head?_cons, Option.map_some, channels]
        exact ⟨closed, by simp⟩
  · cases taken

theorem Ended.shut {s : Connection} (ended : Ended s) (k : Nat) : ¬ s.isOpen k = true := by
  intro isOpen
  rw [Connection.isOpen] at isOpen
  cases there : s.channels[k]? with
  | none =>
      rw [there] at isOpen
      cases isOpen
  | some entry =>
      have closed := ended.channels entry (List.mem_of_getElem? there)
      rw [there, Option.map_some, Option.getD_some, closed] at isOpen
      cases isOpen

theorem Ended.connect {s : Connection} (ended : Ended s) (files : FileSystem) :
    connect c files s = .error (nzovuError (text "Client is closed")) := by
  rw [Connection.connect, ensureOpen, if_pos ended.closed]
  rfl

structure Silent (s t : Connection) : Prop where
  wire : t.wire = s.wire
  channels : t.channels = s.channels
  calls : t.calls.filterMap MethodCall.sent = s.calls.filterMap MethodCall.sent

theorem modify_closed {channels : List (Channel × Bool)} (k : Nat)
    (closed : ∀ entry ∈ channels, entry.2 = false) :
    channels.modify k (fun entry => (entry.1, false)) = channels := by
  apply List.ext_getElem?
  intro n
  rw [List.getElem?_modify]
  cases located : channels[n]? with
  | none => simp
  | some entry =>
      have shut := closed entry (List.mem_of_getElem? located)
      split
      · exact congrArg some (Prod.ext rfl shut.symm)
      · rfl

theorem silent_step {s s' : Connection} {a : Step} (refuses : c.channelClosed.isSome = true)
    (ended : Ended s) (taken : step c s a = some s') : Ended s' ∧ Silent s s' := by
  cases effect taken with
  | connected files channel isOpen unmade serves =>
      rw [ended.closed] at isOpen
      cases isOpen
  | unchanged a idle => exact ⟨ended, rfl, rfl, rfl⟩
  | called method handler reserved =>
      exact ⟨⟨ended.closed, ended.channels⟩, rfl, rfl,
        by simp [List.filterMap_append, MethodCall.begin_]⟩
  | sent i k call request located ready stub passes =>
      rw [refusal, if_neg (ended.shut k)] at passes
      rw [passes] at refuses
      cases refuses
  | unsent i call request e located ready cause =>
      exact ⟨⟨ended.closed, ended.channels⟩, rfl, rfl, filterMap_set_same located rfl⟩
  | answered i call reply started located awaiting =>
      exact ⟨⟨ended.closed, ended.channels⟩, rfl, rfl, filterMap_set_same located rfl⟩
  | closing => exact ⟨⟨rfl, ended.channels⟩, rfl, rfl, rfl⟩
  | channelClosed k closed channel =>
      have same := modify_closed k ended.channels
      refine ⟨⟨closed, ?_⟩, rfl, same, rfl⟩
      intro entry member
      apply ended.channels entry
      rw [← same]
      exact member

theorem silent_run {s t : Connection} {trace : List Step}
    (refuses : c.channelClosed.isSome = true) (ended : Ended s)
    (run : Transition.run (step c) s trace = some t) : Ended t ∧ Silent s t := by
  induction trace generalizing s with
  | nil =>
      cases run
      exact ⟨ended, rfl, rfl, rfl⟩
  | cons a rest ih =>
      obtain ⟨r, taken, run⟩ := Transition.run_cons.1 run
      obtain ⟨ended, before⟩ := silent_step refuses ended taken
      obtain ⟨ended, after⟩ := ih ended run
      exact ⟨ended, after.wire.trans before.wire, after.channels.trans before.channels,
        after.calls.trans before.calls⟩

theorem run_snoc {s t u : Connection} {trace : List Step} {a : Step}
    (before : Transition.run (step c) s trace = some t) (taken : step c t a = some u) :
    Transition.run (step c) s (trace ++ [a]) = some u :=
  Transition.run_append.2 ⟨t, before, Transition.run_cons.2 ⟨u, taken, rfl⟩⟩

theorem call_stepped (s : Connection) {k : Nat} (stub : s.stub = some k)
    (isOpen : s.isOpen k = true) (method : Method) (handler : Bool)
    (reserved started : Except Exc Unit) (reply : Except CallFailure Message) :
    ∃ trace t call result, Transition.run (step c) s trace = some t ∧
      t.calls = s.calls ++ [call] ∧ call.method = method ∧ call.handler = handler ∧
      call.state = .done result ∧
      NzovuClient.call (s.env c reserved) c.options (fun _ _ => reply) started handler method =
        ((t.wire.drop s.wire.length).map Sent.rpc, result) := by
  let n := s.calls.length
  let env := s.env c reserved
  let begun := MethodCall.begin_ env method handler
  let called : Connection := { s with calls := s.calls ++ [begun] }
  have first : Transition.run (step c) s [.call method handler reserved] = some called :=
    Transition.run_cons.2 ⟨called, rfl, rfl⟩
  have located : called.calls[n]? = some begun := located_append.2 (.inr ⟨rfl, rfl⟩)
  have replaced : ∀ call, (called.calls.set n call) = s.calls ++ [call] := by
    intro call
    show (s.calls ++ [begun]).set s.calls.length call = s.calls ++ [call]
    rw [List.set_append_right _ _ le_rfl, Nat.sub_self]
    rfl
  cases prepared : NzovuClient.prepare (NzovuClient.procedure env method) handler with
  | error result =>
      refine ⟨_, called, begun, result, first, rfl, rfl, rfl, ?_, ?_⟩
      · simp only [begun, MethodCall.begin_, prepared]
      · have wire : called.wire.drop s.wire.length = [] := List.drop_length
        rw [wire, NzovuClient.call]
        simp only [show NzovuClient.prepare (NzovuClient.procedure (s.env c reserved) method)
          handler = .error result from prepared, List.map_nil]
  | ok request =>
      have ready : begun.state = .ready request := by
        simp only [begun, MethodCall.begin_, prepared]
      let sent := begun.sending c.options k request
      let issued : Connection :=
        { called.setCall n (begun.issue sent) with wire := called.wire ++ [sent] }
      have second : step c called (.send n) = some issued := by
        have passes : called.refusal c k = none := if_pos isOpen
        simp only [step, send, located, ready]
        rw [show called.stub = some k from stub]
        simp only [passes]
        rfl
      let settled := (begun.issue sent).settle started reply
      have there : issued.calls[n]? = some (begun.issue sent) := by
        show (called.calls.set n (begun.issue sent))[n]? = _
        rw [replaced]
        exact located_append.2 (.inr ⟨rfl, rfl⟩)
      have third : step c issued (.answer n reply started) = some (issued.setCall n settled) := by
        simp only [step, answer, there]
        rfl
      refine ⟨_, _, settled, _, run_snoc (run_snoc first second) third, ?_, rfl, rfl, rfl, ?_⟩
      · show (called.calls.set n (begun.issue sent)).set n settled = s.calls ++ [settled]
        rw [List.set_set, replaced]
      · have wire : (issued.setCall n settled).wire.drop s.wire.length = [sent] := by
          show (s.wire ++ [sent]).drop s.wire.length = [sent]
          rw [List.drop_append_of_le_length le_rfl, List.drop_length, List.nil_append]
        rw [wire, NzovuClient.call]
        simp only [show NzovuClient.prepare (NzovuClient.procedure (s.env c reserved) method)
          handler = .ok request from prepared]
        rfl

/-! ## Whole runs -/

section Runs
variable (c : ClientSettings) (files : FileSystem)

/-- In every run a client has at most one channel, and each RPC on it is that of one call. -/
theorem run_wired (others : Pool) (typed : c.pb.WellTyped (QueueService.pool others))
    {s t : Connection} {trace : List Step} (started : start c files = .ok s)
    (run : Transition.run (step c) s trace = some t) : Wired c others t :=
  governed_wired typed (governed_run started run)

/-- A finished call of any run is a call at once for some answer of the server, or it found no open
channel. It stays as it is, and no call issues a second RPC. While the channel is open, every call at
once is some continuation of the run. -/
theorem run_settled {s t : Connection} {trace : List Step} (started : start c files = .ok s)
    (run : Transition.run (step c) s trace = some t) :
    (∀ call ∈ t.calls, ∀ result, call.state = .done result →
      call.Settled c.options c.channelClosed result) ∧
    (∀ trace' u, Transition.run (step c) t trace' = some u → Extends t u) ∧
    ∀ k, t.channel = some k → t.isOpen k = true → ∀ method handler reserved started reply,
      ∃ trace' u call result, Transition.run (step c) s (trace ++ trace') = some u ∧
        u.calls = t.calls ++ [call] ∧ call.method = method ∧ call.handler = handler ∧
        call.state = .done result ∧
        NzovuClient.call (t.env c reserved) c.options (fun _ _ => reply) started handler method =
          ((u.wire.drop t.wire.length).map Sent.rpc, result) := by
  have governed := governed_run started run
  refine ⟨?_, fun trace' u later => extends_run governed later, ?_⟩
  · intro call member result done
    have standing := governed.standing call member
    rw [MethodCall.Standing, done] at standing
    exact standing.1
  · intro k channel isOpen method handler reserved started reply
    obtain ⟨trace', u, call, result, later, finished⟩ :=
      call_stepped t (governed.stub.trans channel) isOpen method handler reserved started reply
    exact ⟨trace', u, call, result, Transition.run_append.2 ⟨t, run, later⟩, finished⟩

/-- Where a closed channel refuses the calls that begin on it, nothing goes over the wire after a
`close` has closed the channel. No channel is made any more, and `connect` raises. -/
theorem run_closed (refuses : c.channelClosed.isSome = true) {s t : Connection}
    {before after : List Step} (started : start c files = .ok s)
    (run : Transition.run (step c) s (before ++ .closeChannel :: after) = some t) :
    Ended t ∧ (∀ files, connect c files t = .error (nzovuError (text "Client is closed"))) ∧
      ∃ r, Transition.run (step c) s (before ++ [.closeChannel]) = some r ∧
      Silent r t ∧ Extends r t := by
  obtain ⟨q, r, reached, taken, later⟩ := Transition.run_through run
  have governed := governed_run started reached
  obtain ⟨ended, silent⟩ := silent_run refuses (ended_closeChannel governed taken) later
  exact ⟨ended, ended.connect, r, run_snoc reached taken, silent,
    extends_run (governed_step governed taken) later⟩

end Runs

section Sample
open NzovuClient (samplePost samplePosted)

def sampleSettings : ClientSettings where
  pb := plainProtobuf
  python := ⟨100, 100, unicode15⟩
  kind := .async
  workerId := text "w"
  target := text "localhost:9000"
  useTls := true
  tlsConfig := some { caPath := some (text "ca.pem") }
  options := .sample
  channelClosed := some ⟨.other, text "Channel is closed."⟩

def sampleFiles : FileSystem := fun _ => .ok [1, 2, 3]

def sampleBefore : List Step :=
  [.connect sampleFiles, .call samplePost false (.ok ()), .send 0,
    .call (.getQueueState (text "orders")) true (.ok ()), .answer 0 (.ok samplePosted) (.ok ()),
    .send 1, .beginClose]

def sampleAfter : List Step :=
  [.call (.purgeDlq (text "orders_dlq")) false (.ok ()), .send 2,
    .answer 1 (.error (.rpc ⟨.cancelled, text "Channel closed", []⟩)) (.ok ())]

theorem sample_runs : ∃ t, Transition.run (step sampleSettings) fresh sampleBefore = some t ∧
    t.wire.length = 2 ∧ t.channel = some 0 ∧ t.isOpen 0 = true ∧
    ∃ u, Transition.run (step sampleSettings) t (.closeChannel :: sampleAfter) = some u := by
  have reached : ((Transition.run (step sampleSettings) fresh sampleBefore).map fun t =>
      (t.wire.length, t.channel, t.isOpen 0,
        (Transition.run (step sampleSettings) t (.closeChannel :: sampleAfter)).isSome)) =
      some (2, some 0, true, true) := by decide +kernel
  obtain ⟨t, run, same⟩ := Option.map_eq_some_iff.1 reached
  simp only [Prod.mk.injEq] at same
  obtain ⟨wire, channel, isOpen, later⟩ := same
  exact ⟨t, run, wire, channel, isOpen, Option.isSome_iff_exists.1 later⟩

theorem run_wired_sample : ∃ t, Transition.run (step sampleSettings) fresh
      (sampleBefore ++ .closeChannel :: sampleAfter) = some t ∧
    Wired sampleSettings samplePool t := by
  obtain ⟨t, before, -, -, -, u, after⟩ := sample_runs
  have run := Transition.run_append.2 ⟨t, before, after⟩
  exact ⟨u, run, run_wired sampleSettings sampleFiles samplePool (plainProtobuf_typed samplePool)
    rfl run⟩

theorem run_settled_sample : ∃ t, Transition.run (step sampleSettings) fresh sampleBefore = some t ∧
    (∀ call ∈ t.calls, ∀ result, call.state = .done result →
      call.Settled RpcOptions.sample sampleSettings.channelClosed result) ∧
    (∃ u, Transition.run (step sampleSettings) t (.closeChannel :: sampleAfter) = some u ∧
      Extends t u) ∧
    ∃ trace' u call result,
      Transition.run (step sampleSettings) fresh (sampleBefore ++ trace') = some u ∧
        u.calls = t.calls ++ [call] ∧ call.method = samplePost ∧ call.handler = false ∧
        call.state = .done result ∧
        NzovuClient.call (t.env sampleSettings (.ok ())) RpcOptions.sample
            (fun _ _ => .ok samplePosted) (.ok ()) false samplePost =
          ((u.wire.drop t.wire.length).map Sent.rpc, result) := by
  obtain ⟨t, before, -, channel, isOpen, u, after⟩ := sample_runs
  obtain ⟨settled, kept, stepped⟩ := run_settled sampleSettings sampleFiles rfl before
  exact ⟨t, before, settled, ⟨u, after, kept _ u after⟩,
    stepped 0 channel isOpen samplePost false (.ok ()) (.ok ()) (.ok samplePosted)⟩

theorem run_closed_sample : ∃ t, Ended t ∧
    (∀ files, connect sampleSettings files t = .error (nzovuError (text "Client is closed"))) ∧ ∃ r,
    Transition.run (step sampleSettings) fresh (sampleBefore ++ [.closeChannel]) = some r ∧
      Silent r t ∧ Extends r t := by
  obtain ⟨t, before, -, -, -, u, after⟩ := sample_runs
  exact ⟨u, run_closed sampleSettings sampleFiles rfl rfl
    (Transition.run_append.2 ⟨t, before, after⟩)⟩

end Sample

end Connection

end Nzovu
