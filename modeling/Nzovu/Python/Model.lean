import Nzovu.Python.Value

/-!
# Model classes

Classes with annotated fields, and a validator for them as a parameter. What is assumed of it is what
it documents for values that have the type of the annotation already.
-/

namespace Nzovu

inductive Annotation
  | str | int | bool | bytes | any
  /-- `str | int`. -/
  | strOrInt
  | optional (a : Annotation)
  | list (a : Annotation)
  /-- A dictionary with `str` keys. -/
  | dict (a : Annotation)
  | model (className : Str)
deriving DecidableEq

inductive Instance
  | value (v : PyVal)
  | list (items : List Instance)
  | dict (entries : List (Key × Instance))
  | model (className : Str) (attributes : List (Str × Instance))

structure ModelField where
  name : Str
  annotation : Annotation
  default : Option Instance

structure ModelClass where
  fields : List ModelField
  names : (fields.map ModelField.name).Nodup

abbrev Classes := Str → ModelClass

namespace Instance

def isNone : Instance → Bool
  | .value .none => true
  | _ => false

mutual

/-- `model_dump(exclude_none=True)`, as far as attributes of models are left out. -/
def dump : Instance → PyVal
  | .value v => v
  | .list items => .list (dumpItems items)
  | .dict entries => .dict (dumpEntries entries)
  | .model _ attributes => .dict (dumpAttributes attributes)

def dumpItems : List Instance → List PyVal
  | [] => []
  | item :: rest => item.dump :: dumpItems rest

def dumpEntries : List (Key × Instance) → List (Key × PyVal)
  | [] => []
  | (key, item) :: rest => (key, item.dump) :: dumpEntries rest

def dumpAttributes : List (Str × Instance) → List (Key × PyVal)
  | [] => []
  | (name, item) :: rest =>
      if item.isNone then dumpAttributes rest else (.str name, item.dump) :: dumpAttributes rest

end

end Instance

structure Pydantic where
  validate : Annotation → PyVal → Except Exc Instance

def Pydantic.Assigns (pydantic : Pydantic) (entries : List (Key × PyVal)) (field : ModelField)
    (assigned : Str × Instance) : Prop :=
  assigned.1 = field.name ∧
    match (PyVal.dict entries).get? field.name with
    | some value => pydantic.validate field.annotation value = .ok assigned.2
    | none => field.default = some assigned.2

/-- Values of the annotated type are accepted as they are, a union takes the member whose type is
exact, and keys that no field of a model has are ignored. -/
structure Pydantic.Documented (pydantic : Pydantic) (classes : Classes) : Prop where
  str : ∀ s, pydantic.validate .str (.str s) = .ok (.value (.str s))
  int : ∀ n, pydantic.validate .int (.int n) = .ok (.value (.int n))
  bool : ∀ b, pydantic.validate .bool (.bool b) = .ok (.value (.bool b))
  bytes : ∀ b, pydantic.validate .bytes (.bytes b) = .ok (.value (.bytes b))
  any : ∀ v, pydantic.validate .any v = .ok (.value v)
  union_str : ∀ s, pydantic.validate .strOrInt (.str s) = .ok (.value (.str s))
  union_int : ∀ n, pydantic.validate .strOrInt (.int n) = .ok (.value (.int n))
  optional : ∀ a v x, v ≠ .none → pydantic.validate a v = .ok x →
    pydantic.validate (.optional a) v = .ok x
  list : ∀ a values items, List.Forall₂ (fun v x => pydantic.validate a v = .ok x) values items →
    pydantic.validate (.list a) (.list values) = .ok (.list items)
  dict : ∀ a entries items,
    List.Forall₂ (fun (e : Key × PyVal) (x : Key × Instance) => (∃ s, e.1 = .str s) ∧ x.1 = e.1 ∧
      pydantic.validate a e.2 = .ok x.2) entries items →
    pydantic.validate (.dict a) (.dict entries) = .ok (.dict items)
  model : ∀ className entries attributes,
    List.Forall₂ (pydantic.Assigns entries) (classes className).fields attributes →
    pydantic.validate (.model className) (.dict entries) = .ok (.model className attributes)

def Pydantic.modelValidate (pydantic : Pydantic) (className : Str) (v : PyVal) :
    Except Exc Instance :=
  pydantic.validate (.model className) v

theorem PyVal.sizeOf_get? {entries : List (Key × PyVal)} {name : Str} {v : PyVal}
    (found : (PyVal.dict entries).get? name = some v) : sizeOf v < sizeOf entries := by
  obtain ⟨entry, here, rfl⟩ := Option.map_eq_some_iff.1 found
  have member := List.sizeOf_lt_of_mem (List.mem_of_find?_eq_some here)
  have inner : sizeOf entry.2 < sizeOf entry := by
    obtain ⟨key, value⟩ := entry
    simp
  exact inner.trans member

section Validator
variable (classes : Classes)

mutual

def strict (a : Annotation) (v : PyVal) : Except Exc Instance :=
  match a, v with
  | .any, v => .ok (.value v)
  | .str, .str s => .ok (.value (.str s))
  | .strOrInt, .str s => .ok (.value (.str s))
  | .int, .int n => .ok (.value (.int n))
  | .strOrInt, .int n => .ok (.value (.int n))
  | .bool, .bool b => .ok (.value (.bool b))
  | .bytes, .bytes b => .ok (.value (.bytes b))
  | .optional _, .none => .ok (.value .none)
  | .optional a, v => strict a v
  | .list a, .list values => do return .list (← strictItems a values)
  | .dict a, .dict entries => do return .dict (← strictEntries a entries)
  | .model className, .dict entries =>
      do return .model className (← strictFields entries (classes className).fields)
  | _, _ => .error (valueError (text "validation error"))
  termination_by (sizeOf v, sizeOf a)

def strictItems (a : Annotation) (values : List PyVal) : Except Exc (List Instance) :=
  match values with
  | [] => .ok []
  | v :: rest => do
      let x ← strict a v
      let items ← strictItems a rest
      return x :: items
  termination_by (sizeOf values, 0)

def strictEntries (a : Annotation) (entries : List (Key × PyVal)) :
    Except Exc (List (Key × Instance)) :=
  match entries with
  | [] => .ok []
  | (.str s, v) :: rest => do
      let x ← strict a v
      let items ← strictEntries a rest
      return (.str s, x) :: items
  | _ :: _ => .error (valueError (text "validation error"))
  termination_by (sizeOf entries, 0)

def strictFields (entries : List (Key × PyVal)) (fields : List ModelField) :
    Except Exc (List (Str × Instance)) :=
  match fields with
  | [] => .ok []
  | field :: rest =>
      (match _found : (PyVal.dict entries).get? field.name with
        | some v => strict field.annotation v
        | none => field.default.elim (.error (valueError (text "Field required"))) .ok) >>= fun x =>
          strictFields entries rest >>= fun more => .ok ((field.name, x) :: more)
  termination_by (sizeOf entries, sizeOf fields)
  decreasing_by
    · have smaller := PyVal.sizeOf_get? _found
      simp [Prod.lex_def, smaller]
    · simp [Prod.lex_def]

end

end Validator

def strictValidator (classes : Classes) : Pydantic := ⟨strict classes⟩

section Laws
variable (classes : Classes)

theorem strict_items {a : Annotation} {values : List PyVal} {items : List Instance}
    (each : List.Forall₂ (fun v x => strict classes a v = .ok x) values items) :
    strictItems classes a values = .ok items := by
  induction each with
  | nil => rw [strictItems]
  | cons first rest ih => simp [strictItems, first, ih, ok_bind]

theorem strict_entries {a : Annotation} {entries : List (Key × PyVal)}
    {items : List (Key × Instance)}
    (each : List.Forall₂ (fun (e : Key × PyVal) (x : Key × Instance) => (∃ s, e.1 = .str s) ∧
      x.1 = e.1 ∧ strict classes a e.2 = .ok x.2) entries items) :
    strictEntries classes a entries = .ok items := by
  induction each with
  | nil => rw [strictEntries]
  | @cons e x entries items first rest ih =>
      obtain ⟨key, v⟩ := e
      obtain ⟨key', y⟩ := x
      obtain ⟨⟨s, rfl⟩, rfl, valid⟩ := first
      simp only at valid
      simp [strictEntries, valid, ih, ok_bind]

theorem strict_fields {entries : List (Key × PyVal)} {fields : List ModelField}
    {attributes : List (Str × Instance)}
    (each : List.Forall₂ ((strictValidator classes).Assigns entries) fields attributes) :
    strictFields classes entries fields = .ok attributes := by
  induction each with
  | nil => rw [strictFields]
  | @cons field x fields attributes first rest ih =>
      obtain ⟨name, y⟩ := x
      obtain ⟨rfl, assigned⟩ := first
      rw [strictFields, ih]
      dsimp only at assigned ⊢
      split at assigned <;> rename_i looked <;> split <;> simp_all [strictValidator, ok_bind]

theorem strictValidator_documented : (strictValidator classes).Documented classes where
  str s := by simp [strictValidator, strict]
  int n := by simp [strictValidator, strict]
  bool b := by simp [strictValidator, strict]
  bytes b := by simp [strictValidator, strict]
  any v := by simp [strictValidator, strict]
  union_str s := by simp [strictValidator, strict]
  union_int n := by simp [strictValidator, strict]
  optional a v x given valid := by
    cases v <;> simp_all [strictValidator, strict]
  list a values items each := by
    simp [strictValidator, strict, strict_items classes each]
  dict a entries items each := by
    simp [strictValidator, strict, strict_entries classes each]
  model className entries attributes each := by
    simp [strictValidator, strict, strict_fields classes each]

end Laws

end Nzovu
