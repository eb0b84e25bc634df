import Nzovu.Python.Value

/-!
# Protocol buffer messages

Descriptors and the values they describe. A message type may contain itself, so descriptors refer to
message types by name.
-/

namespace Nzovu.Proto

inductive ScalarType
  | int32 | int64 | uint32 | uint64 | bool | float | double | string | bytes
deriving DecidableEq

/-- The values of an enum. Two names may share a number. -/
structure EnumDescriptor where
  values : List (Str × Int)
  names : (values.map Prod.fst).Nodup

inductive FieldType
  | scalar (type : ScalarType)
  | enum (type : EnumDescriptor)
  | message (fullName : Str)

inductive Label
  | singular (hasPresence : Bool)
  | repeated
  | map (key : ScalarType)
deriving DecidableEq

/-- A field. The type of a map field is the type of its values, that is of the field `value` of its
entry type. -/
structure FieldDescriptor where
  name : Str
  label : Label
  type : FieldType
  oneof : Option Str

namespace FieldDescriptor

def hasPresence (field : FieldDescriptor) : Bool :=
  match field.label with
  | .singular hasPresence => hasPresence
  | _ => false

def WellFormed (field : FieldDescriptor) : Prop :=
  (field.oneof ≠ none → field.hasPresence = true) ∧
    ∀ fullName, field.type = .message fullName → field.label ≠ .singular false

end FieldDescriptor

structure MessageDescriptor where
  fields : List FieldDescriptor
  names : (fields.map FieldDescriptor.name).Nodup
  formed : ∀ field ∈ fields, field.WellFormed

abbrev Pool := Str → MessageDescriptor

/-! ## Values -/

inductive JsonValue
  | unset
  | null
  | number (d : Double)
  | string (s : Str)
  | bool (b : Bool)
  | struct (fields : List (Str × JsonValue))
  | list (values : List JsonValue)

/-- A message of one of the types that have a JSON form of their own. -/
inductive WellKnown
  | timestamp (seconds nanos : Int)
  | duration (seconds nanos : Int)
  | struct (fields : List (Str × JsonValue))
  | value (value : JsonValue)
  | listValue (values : List JsonValue)

def WellKnown.fullName : WellKnown → Str
  | .timestamp _ _ => text "google.protobuf.Timestamp"
  | .duration _ _ => text "google.protobuf.Duration"
  | .struct _ => text "google.protobuf.Struct"
  | .value _ => text "google.protobuf.Value"
  | .listValue _ => text "google.protobuf.ListValue"

def timeNames : List Str :=
  [text "google.protobuf.Timestamp", text "google.protobuf.Duration"]

def jsonNames : List Str :=
  [text "google.protobuf.Struct", text "google.protobuf.Value", text "google.protobuf.ListValue"]

inductive Scalar
  | int (n : Int)
  | bool (b : Bool)
  | float (d : Double)
  | str (s : Str)
  | bytes (b : List UInt8)

mutual

inductive Message
  | fields (fullName : Str) (slots : List Slot)
  | wellKnown (value : WellKnown)

inductive Slot
  | absent
  | single (content : Content)
  | repeated (contents : List Content)
  | map (entries : List (Key × Content))

inductive Content
  | scalar (value : Scalar)
  | enum (number : Int)
  | message (message : Message)

end

def Slot.isAbsent : Slot → Bool
  | .absent => true
  | _ => false

mutual

/-- How many messages are nested in each other below the `Value`. An entry of a map is one of them. -/
def JsonValue.nesting : JsonValue → Nat
  | .struct fields => 1 + fieldsNesting fields
  | .list values => 1 + valuesNesting values
  | _ => 0

def JsonValue.fieldsNesting : List (Str × JsonValue) → Nat
  | [] => 0
  | (_, first) :: rest => max (2 + first.nesting) (fieldsNesting rest)

def JsonValue.valuesNesting : List JsonValue → Nat
  | [] => 0
  | first :: rest => max (1 + first.nesting) (valuesNesting rest)

end

def WellKnown.nesting : WellKnown → Nat
  | .timestamp _ _ | .duration _ _ => 0
  | .struct fields => JsonValue.fieldsNesting fields
  | .value v => v.nesting
  | .listValue values => JsonValue.valuesNesting values

mutual

def Message.nesting : Message → Nat
  | .fields _ slots => slotsNesting slots
  | .wellKnown value => value.nesting

def slotsNesting : List Slot → Nat
  | [] => 0
  | slot :: rest => max slot.nesting (slotsNesting rest)

def Slot.nesting : Slot → Nat
  | .absent => 0
  | .single content => content.nesting
  | .repeated contents => contentsNesting contents
  | .map entries => entriesNesting entries

def contentsNesting : List Content → Nat
  | [] => 0
  | content :: rest => max content.nesting (contentsNesting rest)

def entriesNesting : List (Key × Content) → Nat
  | [] => 0
  | (_, content) :: rest => max (1 + content.nesting) (entriesNesting rest)

def Content.nesting : Content → Nat
  | .message message => 1 + message.nesting
  | _ => 0

end

/-! ## Messages of a type -/

mutual

def JsonValue.Valid : JsonValue → Prop
  | .unset => False
  | .number d => d.value.isSome
  | .struct fields => (fields.map Prod.fst).Nodup ∧ fieldsValid fields
  | .list values => valuesValid values
  | _ => True

def JsonValue.fieldsValid : List (Str × JsonValue) → Prop
  | [] => True
  | (_, first) :: rest => first.Valid ∧ fieldsValid rest

def JsonValue.valuesValid : List JsonValue → Prop
  | [] => True
  | first :: rest => first.Valid ∧ valuesValid rest

end

def WellKnown.Valid : WellKnown → Prop
  | .timestamp seconds nanos =>
      -62135596800 ≤ seconds ∧ seconds ≤ 253402300799 ∧ 0 ≤ nanos ∧ nanos ≤ 999999999
  | .duration seconds nanos =>
      |seconds| ≤ 315576000000 ∧ |nanos| ≤ 999999999 ∧ 0 ≤ seconds * nanos
  | .struct fields => (JsonValue.struct fields).Valid
  | .value v => v.Valid
  | .listValue values => (JsonValue.list values).Valid

def ScalarType.Holds : ScalarType → Scalar → Prop
  | .int32, .int n => -2 ^ 31 ≤ n ∧ n < 2 ^ 31
  | .int64, .int n => -2 ^ 63 ≤ n ∧ n < 2 ^ 63
  | .uint32, .int n => 0 ≤ n ∧ n < 2 ^ 32
  | .uint64, .int n => 0 ≤ n ∧ n < 2 ^ 64
  | .bool, .bool _ => True
  | .float, .float d => d ≠ .nan
  | .double, .float d => d ≠ .nan
  | .string, .str s => s.encodable
  | .bytes, .bytes _ => True
  | _, _ => False

def ScalarType.HoldsKey (type : ScalarType) : Key → Prop
  | .int n => type.Holds (.int n)
  | .bool b => type.Holds (.bool b)
  | .str s => type.Holds (.str s)
  | .other _ => False

def OneofsHold (fields : List FieldDescriptor) (slots : List Slot) : Prop :=
  ∀ (i j : Nat) (f g : FieldDescriptor) (s t : Slot), fields[i]? = some f → fields[j]? = some g →
    f.oneof ≠ none → f.oneof = g.oneof → slots[i]? = some s → slots[j]? = some t →
    s.isAbsent = false → t.isAbsent = false → i = j

section
variable (pool : Pool)

mutual

def Message.Typed (fullName : Str) : Message → Prop
  | .wellKnown value => value.fullName = fullName ∧ value.Valid
  | .fields name slots =>
      name = fullName ∧ name ∉ timeNames ∧ name ∉ jsonNames ∧
        slotsTyped (pool name).fields slots ∧ OneofsHold (pool name).fields slots

def slotsTyped : List FieldDescriptor → List Slot → Prop
  | [], [] => True
  | field :: fields, slot :: slots => Slot.Typed field slot ∧ slotsTyped fields slots
  | _, _ => False

def Slot.Typed (field : FieldDescriptor) : Slot → Prop
  | .absent => field.hasPresence = true
  | .single content => (∃ p, field.label = .singular p) ∧ Content.Typed field.type content
  | .repeated contents => field.label = .repeated ∧ contentsTyped field.type contents
  | .map entries =>
      ∃ key, field.label = .map key ∧ (entries.map Prod.fst).Nodup ∧
        (∀ entry ∈ entries, key.HoldsKey entry.1) ∧ entriesTyped field.type entries

def contentsTyped (type : FieldType) : List Content → Prop
  | [] => True
  | content :: rest => Content.Typed type content ∧ contentsTyped type rest

def entriesTyped (type : FieldType) : List (Key × Content) → Prop
  | [] => True
  | (_, content) :: rest => Content.Typed type content ∧ entriesTyped type rest

def Content.Typed (type : FieldType) : Content → Prop
  | .scalar value => ∃ t, type = .scalar t ∧ t.Holds value
  | .enum number => ∃ e, type = .enum e ∧ -2 ^ 31 ≤ number ∧ number < 2 ^ 31
  | .message message => ∃ fullName, type = .message fullName ∧ Message.Typed fullName message

end

end

end Nzovu.Proto
