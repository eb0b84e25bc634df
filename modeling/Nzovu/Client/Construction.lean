import Nzovu.Client.Connection

/-!
# Making a client

The constructors check the key and the deadline first, the limits of the heartbeats after them, and
make a channel last.
-/

namespace Nzovu

/-- What the constructors are given. The target is `host:port`, the capacity is the size of the
thread pool or the limit of tasks. -/
structure ClientArguments where
  target : Str
  useTls : Bool := true
  tlsConfig : Option TlsConfig := none
  workerId : Str := []
  maxDuration : PyVal := .int 300
  maxCount : PyVal := .int 1000000000
  capacity : PyVal := .int 20
  callback : Bool := false
  apiKey : PyVal := .none
  rpcTimeout : PyVal := .none
  interval : PyVal := .float (.finite 1)

structure Client where
  settings : ClientSettings
  limits : Limits
  connection : Connection

/-- `rpc_timeout or 5.0` is this number, or 5 without it. -/
def RpcOptions.deadline (options : RpcOptions) : Option {q : ℚ // 0 < q} :=
  options.timeout.bind fun timeout => timeout.finite?.bind fun q =>
    if positive : 0 < q then some ⟨q, positive⟩ else none

namespace ClientArguments

def limits (args : ClientArguments) (options : RpcOptions) : Except Exc Limits :=
  Limits.create args.capacity args.maxDuration args.maxCount args.interval options.deadline
    args.callback

end ClientArguments

section Constructor
variable (pb : Protobuf) (python : Interpreter) (channelClosed : Option Exc) (files : FileSystem)
  (kind : Kind)

def ClientArguments.settings (args : ClientArguments) (options : RpcOptions) : ClientSettings where
  pb
  python
  kind
  workerId := args.workerId
  target := args.target
  useTls := args.useTls
  tlsConfig := args.tlsConfig
  options
  channelClosed

/-- `NzovuClient.__init__` and `AsyncNzovuClient.__init__`. -/
def Client.create (args : ClientArguments) : Except Exc Client := do
  let options ← RpcOptions.create args.apiKey args.rpcTimeout
  let limits ← args.limits options
  let settings := args.settings pb python channelClosed kind options
  let connection ← Connection.start settings files
  return ⟨settings, limits, connection⟩

end Constructor

/-! ## Which arguments make a client -/

def PositiveInteger (value : PyVal) : Prop := ∃ n : Nat, 0 < n ∧ value = .int n

def PositiveFinite (value : PyVal) : Prop :=
  ∃ q, value.finite? = some q ∧ 0 < q ∧ ∀ n, value = .int n → ¬ OverflowsFloat n

namespace Limits

theorem positiveInteger_ok {name : String} {value : PyVal} {n : {n : Nat // 0 < n}} :
    positiveInteger name value = .ok n ↔ value = .int n.1 := by
  cases value with
  | int m =>
      simp only [positiveInteger]
      split
      · rename_i positive
        simp only [Except.ok.injEq, PyVal.int.injEq]
        constructor
        · intro same
          rw [← same]
          exact (Int.toNat_of_nonneg positive.le).symm
        · intro same
          exact Subtype.ext (by simp [same])
      · rename_i failed
        constructor
        · intro same
          cases same
        · intro same
          cases same
          exact (failed (by exact_mod_cast n.2)).elim
  | _ => simp [positiveInteger, positiveInteger.refused]

theorem positive_ok {name : String} {value : PyVal} {q : {q : ℚ // 0 < q}} :
    positiveFinite.positive name value = .ok q ↔ value.finite? = some q.1 := by
  rw [positiveFinite.positive]
  split
  · rename_i found
    rw [found]
    split
    · simp [Subtype.ext_iff]
    · rename_i failed
      constructor
      · intro same
        cases same
      · intro same
        cases same
        exact (failed q.2).elim
  · rename_i missing
    simp [missing, positiveFinite.refused]

theorem positiveFinite_ok {name : String} {value : PyVal} {q : {q : ℚ // 0 < q}} :
    positiveFinite name value = .ok q ↔
      value.finite? = some q.1 ∧ ∀ n, value = .int n → ¬ OverflowsFloat n := by
  cases value with
  | int n =>
      by_cases overflows : OverflowsFloat n
      · simp [positiveFinite, overflows]
      · simp only [positiveFinite, if_neg overflows, positive_ok]
        simp [overflows]
  | _ => simp [positiveFinite, positive_ok]

theorem positiveInteger_error {name : String} {value : PyVal} {e : Exc}
    (failed : positiveInteger name value = .error e) : e.cls = .initializationError := by
  cases value with
  | int n =>
      simp only [positiveInteger] at failed
      split at failed <;> cases failed
      rfl
  | _ =>
      cases failed
      rfl

theorem positive_error {name : String} {value : PyVal} {e : Exc}
    (failed : positiveFinite.positive name value = .error e) : e.cls = .initializationError := by
  rw [positiveFinite.positive] at failed
  split at failed
  · split at failed <;> cases failed
    rfl
  · cases failed
    rfl

theorem positiveFinite_error {name : String} {value : PyVal} {e : Exc}
    (failed : positiveFinite name value = .error e) :
    e.cls = .initializationError ∨
      e.cls = .overflowError ∧ ∃ n, value = .int n ∧ OverflowsFloat n := by
  cases value with
  | int n =>
      simp only [positiveFinite] at failed
      split at failed
      · rename_i overflows
        cases failed
        exact .inr ⟨rfl, n, rfl, overflows⟩
      · exact .inl (positive_error failed)
  | _ =>
      simp only [positiveFinite] at failed
      exact .inl (positive_error failed)

end Limits

theorem deadline_given {options : RpcOptions} {value : PyVal}
    (same : options.timeout = value.given) : options.deadline.map Subtype.val = value.finite? := by
  have some_ : ∀ t, options.timeout = some t → options.deadline.map Subtype.val = t.finite? := by
    intro t given
    obtain ⟨q, finite, positive⟩ := options.positive t given
    simp [RpcOptions.deadline, given, finite, positive]
  cases value with
  | none =>
      rw [RpcOptions.deadline, same]
      rfl
  | _ => exact some_ _ same

namespace ClientArguments

structure Limited (args : ClientArguments) (limits : Limits) : Prop where
  capacity : args.capacity = .int limits.capacity
  maxCount : args.maxCount = .int limits.maxCount
  maxDuration : args.maxDuration.finite? = some limits.maxDuration
  interval : args.interval.finite? = some limits.interval
  rpcTimeout : limits.rpcTimeout = min (args.rpcTimeout.finite?.getD 5) 5
  callback : limits.callback = args.callback

structure LimitsAdmitted (args : ClientArguments) : Prop where
  capacity : PositiveInteger args.capacity
  maxCount : PositiveInteger args.maxCount
  maxDuration : PositiveFinite args.maxDuration
  interval : PositiveFinite args.interval

variable {args : ClientArguments} {options : RpcOptions}

theorem limits_ok {limits : Limits} (given : options.timeout = args.rpcTimeout.given)
    (made : args.limits options = .ok limits) : args.LimitsAdmitted ∧ args.Limited limits := by
  obtain ⟨capacity, capacityGiven, made⟩ := bind_eq_ok.1 made
  obtain ⟨maxCount, countGiven, made⟩ := bind_eq_ok.1 made
  obtain ⟨maxDuration, durationGiven, made⟩ := bind_eq_ok.1 made
  obtain ⟨interval, intervalGiven, made⟩ := bind_eq_ok.1 made
  obtain ⟨duration, durationFits⟩ := Limits.positiveFinite_ok.1 durationGiven
  obtain ⟨spacing, intervalFits⟩ := Limits.positiveFinite_ok.1 intervalGiven
  have capacityInt := Limits.positiveInteger_ok.1 capacityGiven
  have countInt := Limits.positiveInteger_ok.1 countGiven
  refine ⟨⟨⟨_, capacity.2, capacityInt⟩, ⟨_, maxCount.2, countInt⟩,
    ⟨_, duration, maxDuration.2, durationFits⟩, ⟨_, spacing, interval.2, intervalFits⟩⟩, ?_⟩
  cases made
  refine ⟨capacityInt, countInt, duration, spacing, ?_, rfl⟩
  rw [← deadline_given given]
  cases options.deadline <;> rfl

theorem limits_made (options : RpcOptions) (admitted : args.LimitsAdmitted) :
    ∃ limits, args.limits options = .ok limits := by
  obtain ⟨⟨capacity, capacityPositive, capacityInt⟩, ⟨maxCount, countPositive, countInt⟩,
    ⟨maxDuration, duration, durationPositive, durationFits⟩,
    ⟨interval, spacing, intervalPositive, intervalFits⟩⟩ := admitted
  have capacityGiven : Limits.positiveInteger "capacity" args.capacity =
      .ok ⟨capacity, capacityPositive⟩ := Limits.positiveInteger_ok.2 capacityInt
  have countGiven : Limits.positiveInteger "max_count" args.maxCount =
      .ok ⟨maxCount, countPositive⟩ := Limits.positiveInteger_ok.2 countInt
  have durationGiven : Limits.positiveFinite "max_duration" args.maxDuration =
      .ok ⟨maxDuration, durationPositive⟩ := Limits.positiveFinite_ok.2 ⟨duration, durationFits⟩
  have intervalGiven : Limits.positiveFinite "interval" args.interval =
      .ok ⟨interval, intervalPositive⟩ := Limits.positiveFinite_ok.2 ⟨spacing, intervalFits⟩
  rw [limits, Limits.create, capacityGiven, ok_bind, countGiven, ok_bind, durationGiven, ok_bind,
    intervalGiven, ok_bind]
  exact ⟨_, rfl⟩

def Overflows (args : ClientArguments) : Prop :=
  ∃ n, (args.maxDuration = .int n ∨ args.interval = .int n ∨ args.rpcTimeout = .int n) ∧
    OverflowsFloat n

theorem limits_error {e : Exc} (failed : args.limits options = .error e) :
    ¬ args.LimitsAdmitted ∧
      (e.cls = .initializationError ∨ e.cls = .overflowError ∧ args.Overflows) := by
  constructor
  · intro admitted
    obtain ⟨limits, made⟩ := limits_made options admitted
    rw [failed] at made
    cases made
  rcases bind_eq_error.1 failed with capacity | ⟨_, -, later⟩
  · exact .inl (Limits.positiveInteger_error capacity)
  rcases bind_eq_error.1 later with maxCount | ⟨_, -, later⟩
  · exact .inl (Limits.positiveInteger_error maxCount)
  rcases bind_eq_error.1 later with duration | ⟨_, -, later⟩
  · rcases Limits.positiveFinite_error duration with cls | ⟨cls, n, given, overflows⟩
    · exact .inl cls
    · exact .inr ⟨cls, n, .inl given, overflows⟩
  rcases bind_eq_error.1 later with interval | ⟨_, -, returned⟩
  · rcases Limits.positiveFinite_error interval with cls | ⟨cls, n, given, overflows⟩
    · exact .inl cls
    · exact .inr ⟨cls, n, .inr (.inl given), overflows⟩
  · cases returned

end ClientArguments

section Constructor
variable (pb : Protobuf) (python : Interpreter) (channelClosed : Option Exc) (files : FileSystem)
  (kind : Kind)

structure ClientArguments.Admitted (args : ClientArguments) : Prop extends args.LimitsAdmitted where
  key : RpcOptions.KeyAdmitted args.apiKey
  timeout : RpcOptions.TimeoutAdmitted args.rpcTimeout

structure Client.Made (args : ClientArguments) (client : Client) : Prop where
  settings : client.settings = args.settings pb python channelClosed kind client.settings.options
  key : client.settings.options.apiKey = RpcOptions.keyOf args.apiKey
  timeout : client.settings.options.timeout = args.rpcTimeout.given
  limited : args.Limited client.limits
  started : Connection.start client.settings files = .ok client.connection

theorem start_error {c : ClientSettings} {e : Exc} (failed : Connection.start c files = .error e) :
    c.kind = .sync ∧ c.useTls = true ∧ Unusable files c.tlsConfig e := by
  rw [Connection.start] at failed
  split at failed
  · rename_i sync
    rcases bind_eq_error.1 failed with channel | ⟨channel, -, returned⟩
    · exact ⟨sync, createChannel_error files channel⟩
    · cases returned
  · cases failed

theorem start_ok {c : ClientSettings} {s : Connection} (started : Connection.start c files = .ok s) :
    ∀ e, c.kind = .sync → c.useTls = true → tlsCredentials files c.tlsConfig ≠ .error e := by
  intro e sync tls failed
  have unmade : createChannel files c.target c.useTls c.tlsConfig c.options c.kind = .error e := by
    rw [createChannel, if_pos tls, failed]
    rfl
  rw [Connection.start, sync] at started
  dsimp only at started
  rw [Connection.open_, unmade] at started
  cases started

/-- A client is made exactly of arguments that pass every check, where a client that makes its
channel at once can read its credentials. What is checked is what its runs begin with. -/
theorem Client.create_makes (args : ClientArguments) :
    match Client.create pb python channelClosed files kind args with
    | .ok client => args.Admitted ∧ client.Made pb python channelClosed files kind args ∧
        ∀ e, kind = .sync → args.useTls = true → tlsCredentials files args.tlsConfig ≠ .error e
    | .error e =>
        ¬ args.Admitted ∧
            (e.cls = .initializationError ∨ e.cls = .overflowError ∧ args.Overflows) ∨
        args.Admitted ∧ kind = .sync ∧ args.useTls = true ∧ Unusable files args.tlsConfig e := by
  split
  · rename_i client created
    obtain ⟨options, optionsMade, created⟩ := bind_eq_ok.1 created
    obtain ⟨limits, limitsMade, created⟩ := bind_eq_ok.1 created
    obtain ⟨connection, started, same⟩ := bind_eq_ok.1 created
    cases same
    obtain ⟨key, timeout⟩ := (RpcOptions.create_ok _ _).1 ⟨options, optionsMade⟩
    obtain ⟨keyChecked, timeoutChecked⟩ := RpcOptions.create_eq optionsMade
    have given := RpcOptions.checkTimeout_given timeoutChecked
    obtain ⟨admitted, limited⟩ := ClientArguments.limits_ok given limitsMade
    exact ⟨⟨admitted, key, timeout⟩, ⟨rfl, RpcOptions.checkKey_given keyChecked, given, limited,
      started⟩, start_ok files started⟩
  · rename_i e failed
    rcases bind_eq_error.1 failed with options | ⟨options, optionsMade, later⟩
    · left
      constructor
      · intro admitted
        obtain ⟨options', made⟩ := (RpcOptions.create_ok _ _).2 ⟨admitted.key, admitted.timeout⟩
        rw [options] at made
        cases made
      · rcases RpcOptions.create_error options with key | ⟨-, timeout⟩
        · rw [RpcOptions.checkKey_error key]
          exact .inl rfl
        · rcases RpcOptions.checkTimeout_error timeout with same | ⟨same, n, given, overflows⟩
          · rw [same]
            exact .inl rfl
          · rw [same]
            exact .inr ⟨rfl, n, .inr (.inr given), overflows⟩
    · obtain ⟨key, timeout⟩ := (RpcOptions.create_ok _ _).1 ⟨options, optionsMade⟩
      rcases bind_eq_error.1 later with limits | ⟨limits, limitsMade, later⟩
      · obtain ⟨refused, cause⟩ := ClientArguments.limits_error limits
        exact .inl ⟨fun admitted => refused admitted.toLimitsAdmitted, cause⟩
      · rcases bind_eq_error.1 later with started | ⟨connection, -, returned⟩
        · obtain ⟨sync, tls, unusable⟩ := start_error files started
          have given := RpcOptions.checkTimeout_given (RpcOptions.create_eq optionsMade).2
          exact .inr ⟨⟨(ClientArguments.limits_ok given limitsMade).1, key, timeout⟩, sync, tls,
            unusable⟩
        · cases returned

end Constructor

end Nzovu
