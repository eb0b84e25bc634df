import Nzovu.Heartbeat.Worker
import Nzovu.Request.Payload

/-!
# The transport

What a client is given to reach the service with, and what its interceptor makes of every call.
-/

namespace Nzovu

abbrev Metadata := List (Str × PyVal)

/-- `None` stands for the absence of a value. -/
def PyVal.given : PyVal → Option PyVal
  | .none => .none
  | value => some value

def isPrintable (c : Nat) : Bool := 32 ≤ c && c ≤ 126

structure RpcOptions where
  apiKey : Option Str
  timeout : Option PyVal
  printable : ∀ key, apiKey = some key → key ≠ [] ∧ ∀ c ∈ key, isPrintable c = true
  positive : ∀ t, timeout = some t → ∃ q, t.finite? = some q ∧ 0 < q

namespace RpcOptions

def keyOf : PyVal → Option Str
  | .str key => if key ≠ [] ∧ key.all isPrintable then some key else none
  | _ => none

def checkKey : PyVal → Except Exc (Option Str)
  | .none => .ok none
  | value =>
      match keyOf value with
      | some key => .ok (some key)
      | none => .error (initializationError
          (text "api_key must be non-empty printable ASCII metadata"))

def isTimeout (value : PyVal) : Bool := value.finite?.any (0 < ·)

def checkTimeout : PyVal → Except Exc (Option PyVal)
  | .none => .ok none
  | value =>
      match value with
      | .int n =>
          if OverflowsFloat n then .error overflowError
          else timeout value
      | _ => timeout value
where
  timeout (value : PyVal) : Except Exc (Option PyVal) :=
    if isTimeout value then .ok (some value)
    else .error (initializationError (text "rpc_timeout must be a positive finite number"))

theorem checkKey_printable {value : PyVal} {key : Option Str} (checked : checkKey value = .ok key) :
    ∀ k, key = some k → k ≠ [] ∧ ∀ c ∈ k, isPrintable c = true := by
  intro k same
  subst same
  cases value with
  | none => cases checked
  | str s =>
      simp only [checkKey, keyOf] at checked
      split at checked
      · rename_i found
        cases checked
        split at found
        · rename_i valid
          cases found
          exact ⟨valid.1, List.all_eq_true.1 valid.2⟩
        · cases found
      · cases checked
  | _ => simp [checkKey, keyOf] at checked

theorem timeout_positive {value : PyVal} {timeout : Option PyVal}
    (checked : checkTimeout.timeout value = .ok timeout) :
    ∀ t, timeout = some t → ∃ q, t.finite? = some q ∧ 0 < q := by
  intro t same
  subst same
  rw [checkTimeout.timeout] at checked
  split at checked
  · rename_i valid
    cases checked
    obtain ⟨q, finite, positive⟩ := (Option.any_eq_true _ _).1 valid
    exact ⟨q, finite, by simpa using positive⟩
  · cases checked

theorem checkTimeout_positive {value : PyVal} {timeout : Option PyVal}
    (checked : checkTimeout value = .ok timeout) :
    ∀ t, timeout = some t → ∃ q, t.finite? = some q ∧ 0 < q := by
  cases value with
  | none =>
      cases checked
      intro t same
      cases same
  | int n =>
      simp only [checkTimeout] at checked
      split at checked
      · cases checked
      · exact timeout_positive checked
  | _ => exact timeout_positive checked

def create (apiKey timeout : PyVal) : Except Exc RpcOptions :=
  match key : checkKey apiKey with
  | .error e => .error e
  | .ok apiKey =>
      match limit : checkTimeout timeout with
      | .error e => .error e
      | .ok timeout => .ok ⟨apiKey, timeout, checkKey_printable key, checkTimeout_positive limit⟩

def sample : RpcOptions where
  apiKey := some (text "secret")
  timeout := some (.int 5)
  printable := by
    intro key same
    cases same
    decide
  positive := by
    intro t same
    cases same
    exact ⟨5, rfl, by norm_num⟩

def isApiKey (entry : Str × PyVal) : Bool := entry.1.lower = text "api-key"

def metadata (options : RpcOptions) (existing : Option Metadata) : Metadata :=
  match options.apiKey with
  | none => existing.getD []
  | some key =>
      ((existing.getD []).filter fun entry => !isApiKey entry) ++ [(text "api-key", .str key)]

end RpcOptions

/-! ## Interceptors -/

structure CallDetails where
  method : Str
  timeout : Option PyVal
  metadata : Option Metadata
  credentials : PyVal
  waitForReady : PyVal
  compression : PyVal

def CallDetails.plain (path : Str) : CallDetails := ⟨path, none, none, .none, .none, .none⟩

/-- `intercept_unary_unary`. The details of the asynchronous package have no compression. -/
def intercept (kind : Kind) (options : RpcOptions) (details : CallDetails) : CallDetails where
  method := details.method
  timeout := details.timeout <|> options.timeout
  metadata := some (options.metadata details.metadata)
  credentials := details.credentials
  waitForReady := details.waitForReady
  compression := match kind with
    | .sync => details.compression
    | .async => .none

namespace RpcOptions

theorem isApiKey_own (value : PyVal) : isApiKey (text "api-key", value) = true := by
  rw [isApiKey, decide_eq_true_eq]
  show (text "api-key").lower = text "api-key"
  decide

theorem metadata_others (options : RpcOptions) (existing : Option Metadata) :
    (options.metadata existing).filter (fun entry => !isApiKey entry) =
      (existing.getD []).filter fun entry => !isApiKey entry := by
  rw [metadata]
  cases options.apiKey with
  | none => rfl
  | some key => simp [List.filter_append, isApiKey_own]

theorem metadata_keyed {options : RpcOptions} {key : Str} (given : options.apiKey = some key)
    (existing : Option Metadata) :
    options.metadata existing =
      ((existing.getD []).filter fun entry => !isApiKey entry) ++ [(text "api-key", .str key)] := by
  rw [metadata, given]

theorem metadata_apiKeys {options : RpcOptions} {key : Str} (given : options.apiKey = some key)
    (existing : Option Metadata) :
    (options.metadata existing).filter isApiKey = [(text "api-key", .str key)] := by
  rw [metadata_keyed given, List.filter_append, List.filter_filter]
  simp [isApiKey_own]

theorem metadata_absorbs {options : RpcOptions} {key : Str} (given : options.apiKey = some key)
    (first : RpcOptions) (existing : Option Metadata) :
    options.metadata (some (first.metadata existing)) = options.metadata existing := by
  rw [metadata_keyed given, metadata_keyed given, Option.getD_some, metadata_others]

theorem metadata_idempotent (options : RpcOptions) (existing : Option Metadata) :
    options.metadata (some (options.metadata existing)) = options.metadata existing := by
  cases given : options.apiKey with
  | none => simp [metadata, given]
  | some key => exact metadata_absorbs given options existing

def KeyAdmitted (value : PyVal) : Prop :=
  value = .none ∨ ∃ key, value = .str key ∧ key ≠ [] ∧ ∀ c ∈ key, isPrintable c = true

def TimeoutAdmitted (value : PyVal) : Prop :=
  value = .none ∨ ∃ q, value.finite? = some q ∧ 0 < q ∧ ∀ n, value = .int n → ¬ OverflowsFloat n

theorem checkKey_ok (value : PyVal) : (∃ key, checkKey value = .ok key) ↔ KeyAdmitted value := by
  cases value with
  | none => simp [checkKey, KeyAdmitted]
  | str s =>
      by_cases valid : s ≠ [] ∧ s.all isPrintable
      · have printable := List.all_eq_true.1 valid.2
        simp only [checkKey, keyOf, if_pos valid]
        exact ⟨fun _ => .inr ⟨s, rfl, valid.1, printable⟩, fun _ => ⟨_, rfl⟩⟩
      · simp only [checkKey, keyOf, if_neg valid]
        constructor
        · intro accepted
          obtain ⟨_, same⟩ := accepted
          cases same
        · intro admitted
          rcases admitted with same | ⟨key, same, nonempty, printable⟩
          · cases same
          · cases same
            exact (valid ⟨nonempty, List.all_eq_true.2 printable⟩).elim
  | _ => simp [checkKey, keyOf, KeyAdmitted]

theorem timeout_ok (value : PyVal) :
    (∃ t, checkTimeout.timeout value = .ok t) ↔ ∃ q, value.finite? = some q ∧ 0 < q := by
  rw [checkTimeout.timeout]
  cases finite : value.finite? with
  | none => simp [isTimeout, finite]
  | some q => by_cases positive : 0 < q <;> simp [isTimeout, finite, positive]

theorem checkTimeout_ok (value : PyVal) :
    (∃ t, checkTimeout value = .ok t) ↔ TimeoutAdmitted value := by
  cases value with
  | none => simp [checkTimeout, TimeoutAdmitted]
  | int n =>
      by_cases overflows : OverflowsFloat n
      · simp [checkTimeout, overflows, TimeoutAdmitted]
      · have same : checkTimeout (.int n) = checkTimeout.timeout (.int n) := by
          simp only [checkTimeout, if_neg overflows]
        rw [same, timeout_ok]
        simp [TimeoutAdmitted, overflows]
  | _ =>
      refine (timeout_ok _).trans ?_
      simp [TimeoutAdmitted]

theorem create_ok (apiKey timeout : PyVal) :
    (∃ options, create apiKey timeout = .ok options) ↔
      KeyAdmitted apiKey ∧ TimeoutAdmitted timeout := by
  rw [← checkKey_ok, ← checkTimeout_ok, create]
  split
  · rename_i e failed
    simp [failed]
  · rename_i key passed
    split
    · rename_i e failed
      simp [failed]
    · rename_i t given
      simp [passed, given]

theorem create_eq {apiKey timeout : PyVal} {options : RpcOptions}
    (created : create apiKey timeout = .ok options) :
    checkKey apiKey = .ok options.apiKey ∧ checkTimeout timeout = .ok options.timeout := by
  rw [create] at created
  split at created
  · cases created
  · rename_i key passed
    split at created
    · cases created
    · rename_i t given
      cases created
      exact ⟨passed, given⟩

theorem checkKey_given {value : PyVal} {key : Option Str} (checked : checkKey value = .ok key) :
    key = keyOf value := by
  cases value with
  | none =>
      cases checked
      rfl
  | str s =>
      simp only [checkKey] at checked
      split at checked
      · rename_i found
        cases checked
        exact found.symm
      · cases checked
  | _ => cases checked

theorem checkTimeout_given {value : PyVal} {timeout : Option PyVal}
    (checked : checkTimeout value = .ok timeout) : timeout = value.given := by
  have kept : checkTimeout.timeout value = .ok timeout → timeout = some value := by
    intro checked
    rw [checkTimeout.timeout] at checked
    split at checked <;> cases checked
    rfl
  cases value with
  | none =>
      cases checked
      rfl
  | int n =>
      simp only [checkTimeout] at checked
      split at checked
      · cases checked
      · exact kept checked
  | _ => exact kept checked

theorem create_error {apiKey timeout : PyVal} {e : Exc} (failed : create apiKey timeout = .error e) :
    checkKey apiKey = .error e ∨
      (∃ key, checkKey apiKey = .ok key) ∧ checkTimeout timeout = .error e := by
  rw [create] at failed
  split at failed
  · rename_i key
    cases failed
    exact .inl key
  · rename_i key passed
    split at failed
    · rename_i limit
      cases failed
      exact .inr ⟨⟨key, passed⟩, limit⟩
    · cases failed

theorem checkKey_error {value : PyVal} {e : Exc} (failed : checkKey value = .error e) :
    e = initializationError (text "api_key must be non-empty printable ASCII metadata") := by
  cases value with
  | none => cases failed
  | str s =>
      simp only [checkKey] at failed
      split at failed <;> cases failed
      rfl
  | _ =>
      cases failed
      rfl

theorem checkTimeout_error {value : PyVal} {e : Exc} (failed : checkTimeout value = .error e) :
    e = initializationError (text "rpc_timeout must be a positive finite number") ∨
      e = overflowError ∧ ∃ n, value = .int n ∧ OverflowsFloat n := by
  have refused : ∀ value, checkTimeout.timeout value = .error e →
      e = initializationError (text "rpc_timeout must be a positive finite number") := by
    intro value failed
    rw [checkTimeout.timeout] at failed
    split at failed <;> cases failed
    rfl
  cases value with
  | none => cases failed
  | int n =>
      simp only [checkTimeout] at failed
      split at failed
      · rename_i overflows
        cases failed
        exact .inr ⟨rfl, n, rfl, overflows⟩
      · exact .inl (refused _ failed)
  | _ => exact .inl (refused _ failed)

end RpcOptions

/-! ## Authentication -/

structure Authenticated (apiKey timeout : PyVal) (details sent : CallDetails) : Prop where
  method : sent.method = details.method
  credentials : sent.credentials = details.credentials
  waitForReady : sent.waitForReady = details.waitForReady
  /-- A deadline of the call itself comes first. -/
  timeout : sent.timeout = (details.timeout <|> timeout.given)
  /-- The entries of the call come through in their order. -/
  others : (sent.metadata.getD []).filter (fun entry => !RpcOptions.isApiKey entry) =
    (details.metadata.getD []).filter fun entry => !RpcOptions.isApiKey entry
  /-- No key but the client's goes out, in whatever case it is spelt. -/
  keyed : ∀ key, apiKey = .str key →
    (sent.metadata.getD []).filter RpcOptions.isApiKey = [(text "api-key", .str key)]
  unkeyed : apiKey = .none → sent.metadata = some (details.metadata.getD [])

section Created
variable {apiKey timeout : PyVal} {options : RpcOptions}
  (created : RpcOptions.create apiKey timeout = .ok options)
include created

theorem created_key {key : Str} (given : apiKey = .str key) : options.apiKey = some key := by
  obtain ⟨checked, -⟩ := RpcOptions.create_eq created
  have valid := RpcOptions.checkKey_given checked
  rw [given] at checked valid
  rw [valid]
  simp only [RpcOptions.checkKey, RpcOptions.keyOf] at checked ⊢
  split at checked
  · rename_i found
    split at found
    · rename_i printable
      rw [if_pos printable]
    · cases found
  · cases checked

theorem authenticated (kind : Kind) (details : CallDetails) :
    Authenticated apiKey timeout details (intercept kind options details) where
  method := rfl
  credentials := rfl
  waitForReady := rfl
  timeout := by
    rw [← RpcOptions.checkTimeout_given (RpcOptions.create_eq created).2]
    rfl
  others := RpcOptions.metadata_others options details.metadata
  keyed := fun key given => RpcOptions.metadata_apiKeys (created_key created given) details.metadata
  unkeyed := by
    intro absent
    have unset : options.apiKey = none := by
      rw [RpcOptions.checkKey_given (RpcOptions.create_eq created).1, absent]
      rfl
    show some (options.metadata details.metadata) = _
    rw [RpcOptions.metadata, unset]

theorem intercept_overrules (given : apiKey ≠ .none) (kind : Kind) (other : RpcOptions)
    (details : CallDetails) :
    (intercept kind options (intercept kind other details)).metadata =
      (intercept kind options details).metadata := by
  rcases ((RpcOptions.create_ok _ _).1 ⟨options, created⟩).1 with absent | ⟨key, same, -⟩
  · exact (given absent).elim
  · exact congrArg some
      (RpcOptions.metadata_absorbs (created_key created same) other details.metadata)

end Created

theorem intercept_idempotent (kind : Kind) (options : RpcOptions) (details : CallDetails) :
    intercept kind options (intercept kind options details) = intercept kind options details := by
  have metadata : some (options.metadata (some (options.metadata details.metadata))) =
      some (options.metadata details.metadata) :=
    congrArg some (RpcOptions.metadata_idempotent options details.metadata)
  have timeout : ((details.timeout <|> options.timeout) <|> options.timeout) =
      (details.timeout <|> options.timeout) := by
    cases details.timeout with
    | none => cases options.timeout <;> rfl
    | some t => rfl
  have compression : (intercept kind options (intercept kind options details)).compression =
      (intercept kind options details).compression := by
    cases kind <;> rfl
  show CallDetails.mk _ ((details.timeout <|> options.timeout) <|> options.timeout) _ _ _ _ = _
  rw [timeout]
  exact congrArg₂ (fun metadata compression => CallDetails.mk details.method
    (details.timeout <|> options.timeout) metadata details.credentials details.waitForReady
    compression) metadata compression

/-- What a client may be given as key and deadline, and what then goes out with each of its calls. A
further interceptor of the same client changes nothing, and its key overrules another's. -/
theorem create_authenticates (apiKey timeout : PyVal) :
    match RpcOptions.create apiKey timeout with
    | .ok options =>
        RpcOptions.KeyAdmitted apiKey ∧ RpcOptions.TimeoutAdmitted timeout ∧
        ∀ kind details, Authenticated apiKey timeout details (intercept kind options details) ∧
          intercept kind options (intercept kind options details) = intercept kind options details ∧
          ∀ other, apiKey ≠ .none → (intercept kind options (intercept kind other details)).metadata =
            (intercept kind options details).metadata
    | .error e =>
        ¬ (RpcOptions.KeyAdmitted apiKey ∧ RpcOptions.TimeoutAdmitted timeout) ∧
        (e.cls = .initializationError ∨
          e.cls = .overflowError ∧ ∃ n, timeout = .int n ∧ OverflowsFloat n) := by
  split
  · rename_i options created
    obtain ⟨keyAdmitted, timeoutAdmitted⟩ := (RpcOptions.create_ok _ _).1 ⟨options, created⟩
    obtain ⟨key, limit⟩ := RpcOptions.create_eq created
    exact ⟨keyAdmitted, timeoutAdmitted, fun kind details => ⟨authenticated created kind details,
      intercept_idempotent kind options details, fun other given =>
        intercept_overrules created given kind other details⟩⟩
  · rename_i e failed
    refine ⟨?_, ?_⟩
    · intro admitted
      obtain ⟨options, created⟩ := (RpcOptions.create_ok _ _).2 admitted
      rw [failed] at created
      cases created
    · rcases RpcOptions.create_error failed with key | ⟨-, limit⟩
      · rw [RpcOptions.checkKey_error key]
        exact .inl rfl
      · rcases RpcOptions.checkTimeout_error limit with same | overflows
        · rw [same]
          exact .inl rfl
        · rw [overflows.1]
          exact .inr ⟨rfl, overflows.2⟩

/-! ## Channels -/

abbrev Bytes := List UInt8

inductive ReadFailure
  | osError
  | other (e : Exc)

abbrev FileSystem := Str → Except ReadFailure Bytes

structure TlsConfig where
  caPath : Option Str := none
  clientCrtPath : Option Str := none
  clientKeyPath : Option Str := none

structure ChannelCredentials where
  rootCertificates : Option Bytes
  privateKey : Option Bytes
  certificateChain : Option Bytes
deriving DecidableEq

structure Channel where
  target : Str
  credentials : Option ChannelCredentials
  kind : Kind
  interceptor : RpcOptions

section Credentials
variable (files : FileSystem)

def readCredential (path : Option Str) : Except Exc (Option Bytes) :=
  match path with
  | none => .ok none
  | some path =>
      match files path with
      | .ok bytes => .ok (some bytes)
      | .error .osError =>
          .error (initializationError (text "Cannot read TLS credential file: " ++ path))
      | .error (.other e) => .error e

def tlsCredentials (config : Option TlsConfig) : Except Exc ChannelCredentials := do
  let caPath := config.bind TlsConfig.caPath
  let certificatePath := config.bind TlsConfig.clientCrtPath
  let keyPath := config.bind TlsConfig.clientKeyPath
  if (certificatePath.getD [] ≠ []) ≠ (keyPath.getD [] ≠ []) then
    .error (initializationError (text "mTLS requires both client_crt_path and client_key_path"))
  let rootCertificates ← readCredential files caPath
  let privateKey ← readCredential files keyPath
  let certificateChain ← readCredential files certificatePath
  return ⟨rootCertificates, privateKey, certificateChain⟩

def createChannel (target : Str) (useTls : Bool) (tlsConfig : Option TlsConfig)
    (options : RpcOptions) (kind : Kind) : Except Exc Channel :=
  if useTls then do
    let credentials ← tlsCredentials files tlsConfig
    return ⟨target, some credentials, kind, options⟩
  else .ok ⟨target, none, kind, options⟩

def HoldsFile (path : Option Str) (bytes : Option Bytes) : Prop :=
  match path with
  | none => bytes = none
  | some path => ∃ content, files path = .ok content ∧ bytes = some content

theorem readCredential_ok {path : Option Str} {bytes : Option Bytes} :
    readCredential files path = .ok bytes ↔ HoldsFile files path bytes := by
  cases path with
  | none => simp [readCredential, HoldsFile, eq_comm]
  | some path =>
      simp only [readCredential, HoldsFile]
      split <;> rename_i outcome <;> simp [outcome, eq_comm]

theorem tlsCredentials_ok {config : Option TlsConfig} {credentials : ChannelCredentials} :
    tlsCredentials files config = .ok credentials ↔
      ((config.bind TlsConfig.clientCrtPath).getD [] ≠ [] ↔
        (config.bind TlsConfig.clientKeyPath).getD [] ≠ []) ∧
      HoldsFile files (config.bind TlsConfig.caPath) credentials.rootCertificates ∧
      HoldsFile files (config.bind TlsConfig.clientKeyPath) credentials.privateKey ∧
      HoldsFile files (config.bind TlsConfig.clientCrtPath) credentials.certificateChain := by
  have paired : ∀ p q : Prop, ¬ (p ≠ q) ↔ (p ↔ q) := by
    intro p q
    rw [not_not, eq_iff_iff]
  simp only [tlsCredentials, initializationError, ← readCredential_ok]
  split
  · rename_i differ
    constructor
    · intro built
      obtain ⟨u, error, -⟩ := bind_eq_ok.1 built
      cases error
    · intro accepted
      exact ((paired _ _).2 accepted.1 differ).elim
  · rename_i same
    constructor
    · intro built
      obtain ⟨root, rootRead, built⟩ := bind_eq_ok.1 built
      obtain ⟨key, keyRead, built⟩ := bind_eq_ok.1 built
      obtain ⟨chain, chainRead, built⟩ := bind_eq_ok.1 built
      cases built
      exact ⟨(paired _ _).1 same, rootRead, keyRead, chainRead⟩
    · intro accepted
      obtain ⟨-, rootRead, keyRead, chainRead⟩ := accepted
      rw [rootRead, ok_bind, keyRead, ok_bind, chainRead]
      rfl

theorem createChannel_ok {target : Str} {useTls : Bool} {config : Option TlsConfig}
    {options : RpcOptions} {kind : Kind} {channel : Channel}
    (created : createChannel files target useTls config options kind = .ok channel) :
    channel.target = target ∧ channel.kind = kind ∧ channel.interceptor = options ∧
      match channel.credentials with
      | none => useTls = false
      | some credentials => useTls = true ∧ tlsCredentials files config = .ok credentials := by
  rw [createChannel] at created
  split at created
  · rename_i secure
    obtain ⟨credentials, made, same⟩ := bind_eq_ok.1 created
    cases same
    exact ⟨rfl, rfl, rfl, secure, made⟩
  · rename_i insecure
    cases created
    exact ⟨rfl, rfl, rfl, by simpa using insecure⟩

theorem readCredential_error {path : Option Str} {e : Exc}
    (failed : readCredential files path = .error e) : ∃ name, path = some name ∧
      (files name = .error .osError ∧
          e = initializationError (text "Cannot read TLS credential file: " ++ name) ∨
        files name = .error (.other e)) := by
  cases path with
  | none => cases failed
  | some name =>
      refine ⟨name, rfl, ?_⟩
      simp only [readCredential] at failed
      split at failed <;> rename_i outcome <;> cases failed
      · exact .inl ⟨outcome, rfl⟩
      · exact .inr outcome

def TlsConfig.paths (config : TlsConfig) : List (Option Str) :=
  [config.caPath, config.clientKeyPath, config.clientCrtPath]

def Unusable (config : Option TlsConfig) (e : Exc) : Prop :=
  e = initializationError (text "mTLS requires both client_crt_path and client_key_path") ∧
      ¬ ((config.bind TlsConfig.clientCrtPath).getD [] ≠ [] ↔
        (config.bind TlsConfig.clientKeyPath).getD [] ≠ []) ∨
    ∃ given name, config = some given ∧ some name ∈ given.paths ∧
      (files name = .error .osError ∧
          e = initializationError (text "Cannot read TLS credential file: " ++ name) ∨
        files name = .error (.other e))

theorem unusable_read {config : Option TlsConfig} {e : Exc} (field : TlsConfig → Option Str)
    (listed : ∀ given, field given ∈ given.paths)
    (failed : readCredential files (config.bind field) = .error e) : Unusable files config e := by
  obtain ⟨name, found, cause⟩ := readCredential_error files failed
  obtain ⟨given, same, named⟩ := Option.bind_eq_some_iff.1 found
  exact .inr ⟨given, name, same, named ▸ listed given, cause⟩

theorem tlsCredentials_error {config : Option TlsConfig} {e : Exc}
    (failed : tlsCredentials files config = .error e) : Unusable files config e := by
  simp only [tlsCredentials] at failed
  split at failed
  · rename_i differ
    cases failed
    exact .inl ⟨rfl, fun same => differ (propext same)⟩
  · cases root : readCredential files (config.bind TlsConfig.caPath) with
    | error other =>
        rw [root] at failed
        cases failed
        exact unusable_read files TlsConfig.caPath (fun _ => by simp [TlsConfig.paths]) root
    | ok rootCertificates =>
        rw [root] at failed
        cases key : readCredential files (config.bind TlsConfig.clientKeyPath) with
        | error other =>
            rw [key] at failed
            cases failed
            exact unusable_read files TlsConfig.clientKeyPath (fun _ => by simp [TlsConfig.paths]) key
        | ok privateKey =>
            rw [key] at failed
            cases chain : readCredential files (config.bind TlsConfig.clientCrtPath) with
            | error other =>
                rw [chain] at failed
                cases failed
                exact unusable_read files TlsConfig.clientCrtPath
                  (fun _ => by simp [TlsConfig.paths]) chain
            | ok certificateChain =>
                rw [chain] at failed
                cases failed

theorem createChannel_error {target : Str} {useTls : Bool} {config : Option TlsConfig}
    {options : RpcOptions} {kind : Kind} {e : Exc}
    (failed : createChannel files target useTls config options kind = .error e) :
    useTls = true ∧ Unusable files config e := by
  rw [createChannel] at failed
  split at failed
  · rename_i tls
    refine ⟨tls, ?_⟩
    cases made : tlsCredentials files config with
    | error other =>
        rw [made] at failed
        cases failed
        exact tlsCredentials_error files made
    | ok credentials =>
        rw [made] at failed
        cases failed
  · cases failed

/-- The empty path names a directory. -/
theorem holdsFile_isSome (directory : files [] = .error .osError) {path : Option Str}
    {bytes : Option Bytes} (holds : HoldsFile files path bytes) :
    bytes.isSome = true ↔ path.getD [] ≠ [] := by
  cases path with
  | none =>
      cases holds
      simp
  | some name =>
      obtain ⟨content, read, rfl⟩ := holds
      have named : name ≠ [] := by
        intro empty
        rw [empty, directory] at read
        cases read
      simp [named]

structure Secured (config : Option TlsConfig) (credentials : ChannelCredentials) : Prop where
  paired : credentials.privateKey.isSome = credentials.certificateChain.isSome
  root : HoldsFile files (config.bind TlsConfig.caPath) credentials.rootCertificates
  key : HoldsFile files (config.bind TlsConfig.clientKeyPath) credentials.privateKey
  chain : HoldsFile files (config.bind TlsConfig.clientCrtPath) credentials.certificateChain

/-- A client that is to use TLS gets a channel with the credentials that its files hold, or none. -/
theorem createChannel_secures (directory : files [] = .error .osError) (target : Str) (useTls : Bool)
    (config : Option TlsConfig) (options : RpcOptions) (kind : Kind) :
    match createChannel files target useTls config options kind with
    | .ok channel => channel.target = target ∧ channel.kind = kind ∧ channel.interceptor = options ∧
        (channel.credentials = none ∧ useTls = false ∨ ∃ credentials,
          channel.credentials = some credentials ∧ useTls = true ∧ Secured files config credentials)
    | .error e => useTls = true ∧ Unusable files config e := by
  split
  · rename_i channel created
    obtain ⟨same, kept, intercepted, secured⟩ := createChannel_ok files created
    refine ⟨same, kept, intercepted, ?_⟩
    cases credentials : channel.credentials with
    | none =>
        rw [credentials] at secured
        exact .inl ⟨rfl, secured⟩
    | some given =>
        rw [credentials] at secured
        obtain ⟨tls, made⟩ := secured
        obtain ⟨agree, root, key, chain⟩ := (tlsCredentials_ok files).1 made
        refine .inr ⟨given, rfl, tls, ?_, root, key, chain⟩
        rw [Bool.eq_iff_iff, holdsFile_isSome files directory key,
          holdsFile_isSome files directory chain]
        exact agree.symm
  · rename_i e failed
    exact createChannel_error files failed

end Credentials

def credentialFiles : FileSystem := fun path =>
  if path = text "client.crt" then .ok [1]
  else if path = text "client.key" then .ok [2]
  else .error .osError

def mutualTls : TlsConfig where
  clientCrtPath := some (text "client.crt")
  clientKeyPath := some (text "client.key")

theorem createChannel_secures_mutual :
    ∃ channel, createChannel credentialFiles (text "localhost:9000") true (some mutualTls) .sample
        .sync = .ok channel ∧
      (channel.credentials = none ∧ true = false ∨ ∃ credentials,
        channel.credentials = some credentials ∧ true = true ∧
          Secured credentialFiles (some mutualTls) credentials) := by
  have secures := createChannel_secures credentialFiles rfl (text "localhost:9000") true
    (some mutualTls) .sample .sync
  exact ⟨_, rfl, secures.2.2.2⟩

end Nzovu
