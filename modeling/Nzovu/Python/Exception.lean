import Nzovu.Python.Text

/-! # Exceptions and gRPC status codes -/

namespace Nzovu

inductive StatusCode
  | ok | cancelled | unknown | invalidArgument | deadlineExceeded | notFound | alreadyExists
  | permissionDenied | resourceExhausted | failedPrecondition | aborted | outOfRange
  | unimplemented | internal | unavailable | dataLoss | unauthenticated
deriving DecidableEq, Repr

inductive ExcClass
  | valueError | typeError | attributeError | keyError | runtimeError | recursionError | timeoutError
  | cancelledError | overflowError | parseError | decodeError | nzovuError | heartbeatCapacityError
  | initializationError
  /-- `decimal.Overflow`, which is no `OverflowError`. -/
  | decimalOverflow
  /-- `RpcOperationError`, with the status of the gRPC error it was made from. -/
  | rpcOperationError (cause : Option StatusCode)
  | rpcError (code : StatusCode)
  | other
deriving DecidableEq, Repr

structure Exc where
  cls : ExcClass
  message : Str
deriving DecidableEq, Repr

def valueError (message : Str) : Exc := ⟨.valueError, message⟩

def initializationError (message : Str) : Exc := ⟨.initializationError, message⟩

/-- What converting an `int` to a `float` raises. -/
def overflowError : Exc := ⟨.overflowError, text "int too large to convert to float"⟩

def nzovuError (message : Str) : Exc := ⟨.nzovuError, message⟩

def Exc.isValueError (e : Exc) : Bool := e.cls = .valueError

def Exc.isRpcOperationError (e : Exc) : Bool :=
  match e.cls with
  | .rpcOperationError _ => true
  | _ => false

/-- `_handle_error` with the handler that it is given, if any. -/
def handleError {ε ρ : Type} (handler : Option (ε → ρ)) (raised : ε → ρ) (error : ε) : ρ :=
  match handler with
  | some handler => handler error
  | none => raised error

def Raises {α : Type} (cls : ExcClass) (x : Except Exc α) : Prop := ∀ e, x = .error e → e.cls = cls

abbrev Clean {α : Type} (x : Except Exc α) : Prop := Raises .valueError x

section Rules
variable {α β : Type} {cls : ExcClass} {x : Except Exc α} {f : α → Except Exc β}

theorem ok_bind (a : α) : ((.ok a : Except Exc α) >>= f) = f a := rfl

theorem bind_eq_ok {b : β} :
    x >>= f = .ok b ↔ ∃ a, x = .ok a ∧ f a = .ok b := by
  cases x <;> simp [bind, Except.bind]

theorem bind_eq_error {e : Exc} :
    x >>= f = .error e ↔ x = .error e ∨ ∃ a, x = .ok a ∧ f a = .error e := by
  cases x <;> simp [bind, Except.bind]

theorem bind_ok : (∃ b, x >>= f = .ok b) ↔ ∃ a, x = .ok a ∧ ∃ b, f a = .ok b := by
  simp only [bind_eq_ok]
  constructor
  · rintro ⟨b, a, first, second⟩
    exact ⟨a, first, b, second⟩
  · rintro ⟨a, first, b, second⟩
    exact ⟨b, a, first, second⟩

theorem seq_ok {x : Except Exc Unit} {rest : Except Exc β} {b : β} :
    (do x; rest) = .ok b ↔ x = .ok () ∧ rest = .ok b := by
  cases x <;> simp [bind, Except.bind]

theorem guard_eq_ok {c : Prop} [Decidable c] {message : Str} {rest : Except Exc α} {a : α} :
    (if c then (do (.error (valueError message) : Except Exc PUnit); rest) else rest) = .ok a ↔
      ¬ c ∧ rest = .ok a := by
  split
  · rename_i fails
    simp [fails, bind, Except.bind]
  · rename_i passes
    simp [passes]

theorem guard_ok {c : Prop} [Decidable c] {message : Str} {rest : Except Exc α} :
    (∃ a, (if c then (do (.error (valueError message) : Except Exc PUnit); rest) else rest) = .ok a) ↔
      ¬ c ∧ ∃ a, rest = .ok a := by
  simp only [guard_eq_ok, exists_and_left]

theorem raises_ok (a : α) : Raises cls (.ok a : Except Exc α) := fun _ same => nomatch same

theorem raises_error {e : Exc} (same : e.cls = cls) : Raises cls (.error e : Except Exc α) := by
  intro e' raised
  cases raised
  exact same

theorem raises_valueError (message : Str) : Clean (.error (valueError message) : Except Exc α) :=
  raises_error rfl

theorem raises_ite {c : Prop} [Decidable c] {y z : Except Exc α} (first : Raises cls y)
    (second : Raises cls z) : Raises cls (if c then y else z) := by
  split
  · exact first
  · exact second

theorem raises_bind (first : Raises cls x) (second : ∀ a, Raises cls (f a)) :
    Raises cls (x >>= f) := by
  intro e same
  cases outcome : x with
  | error e' =>
      rw [outcome] at same
      cases same
      exact first e outcome
  | ok a =>
      rw [outcome] at same
      exact second a e same

theorem raises_guard {c : Prop} [Decidable c] {e : Exc} {rest : Except Exc α} (same : e.cls = cls)
    (second : Raises cls rest) :
    Raises cls (if c then (do (.error e : Except Exc PUnit); rest) else rest) :=
  raises_ite (raises_bind (raises_error same) fun _ => second) second

end Rules

end Nzovu
