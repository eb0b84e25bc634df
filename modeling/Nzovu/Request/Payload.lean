import Nzovu.Conversion
import Nzovu.Request.Traversal

/-!
# Payloads

A payload goes through the checks of the client, through `json.dumps` and then into the protobuf
package.
-/

namespace Nzovu
open Proto

/-- What the builders use of the protobuf package: `ParseDict` into a message of the type named,
`Timestamp.FromJsonString`, and how many messages nested in each other it parses. -/
structure Protobuf extends JsonFormat where
  parseDict : Str → PyVal → Except Exc Message
  fromJsonString : Str → Except Exc (Int × Int)
  depthLimit : Nat
  roomy : 3 ≤ depthLimit

def decodeError : Message → Exc
  | .fields fullName _ =>
      ⟨.decodeError, text "Error parsing message with type '" ++ fullName ++ text "'"⟩
  | .wellKnown value =>
      ⟨.decodeError, text "Error parsing message with type '" ++ value.fullName ++ text "'"⟩

/-- What a constructor does with a message that it is given: it is serialized, and parsed again. -/
def Protobuf.reparse (pb : Protobuf) (m : Message) : Except Exc Unit :=
  if m.nesting ≤ pb.depthLimit then .ok () else .error (decodeError m)

/-- How many nested calls the interpreter still allows, and its digits. -/
structure Interpreter where
  validate : Nat
  dumps : Nat
  unicode : Unicode

def validateInteger (value : Int) (name : Str) (minimum maximum : Int) : Except Exc Unit :=
  if minimum ≤ value ∧ value ≤ maximum then .ok ()
  else .error (valueError (name ++ text " must be an integer between " ++ decimal minimum ++
    text " and " ++ decimal maximum))

def requireName (value name : Str) : Except Exc Unit :=
  if value.blank then .error (valueError (name ++ text " is required")) else .ok ()

mutual

def validateJsonValue (calls : Nat) (value : PyVal) : Except Exc Unit :=
  match calls with
  | 0 => .error recursionError
  | calls + 1 =>
      match value with
      | .dict entries => validateEntries calls entries
      | .list items => validateItems calls items
      | .none | .str _ | .bool _ | .int _ | .float _ => .ok ()
      | _ => .error (valueError (text "Payload values must be JSON-compatible"))

def validateEntries (calls : Nat) (entries : List (Key × PyVal)) : Except Exc Unit :=
  match entries with
  | [] => .ok ()
  | (.str _, item) :: rest => do
      validateJsonValue calls item
      validateEntries calls rest
  | _ :: _ => .error (valueError (text "JSON object keys must be strings"))

def validateItems (calls : Nat) (items : List PyVal) : Except Exc Unit :=
  match items with
  | [] => .ok ()
  | item :: rest => do
      validateJsonValue calls item
      validateItems calls rest

end

def dumpsFault : PyVal → Option Str
  | .float d =>
      if d.value.isSome then none else some (text "Out of range float values are not JSON compliant")
  | .int n =>
      if n.natAbs < 10 ^ 4300 then none
      else some (text "Exceeds the limit (4300 digits) for integer string conversion")
  | _ => none

def dumpsPath (value : PyVal) : List Visit := visits dumpsFault (fun _ => none) 0 value

def jsonDumps (calls : Nat) (value : PyVal) : Except Exc Unit := scan calls (dumpsPath value)

def Str.strip (s : Str) : Str := ((s.dropWhile isSpace).reverse.dropWhile isSpace).reverse

/-- `s.lower()`, as far as it yields ASCII. The Kelvin sign is the one other character that does. -/
def Str.lower (s : Str) : Str :=
  s.map fun c => if 0x41 ≤ c ∧ c ≤ 0x5a then c + 32 else if c = 0x212a then 0x6b else c

/-- `content_type.split(";", 1)[0].strip().lower()`. -/
def normalizedContentType (contentType : Str) : Str :=
  Str.lower (Str.strip (contentType.takeWhile (· ≠ 0x3b)))

def payloadName : Str := text "nzovu.api.common.v1.Payload"

/-- `metadata or {}`. -/
def orEmpty : PyVal → PyVal
  | .dict entries => .dict entries
  | _ => .dict []

def payloadValues (data metadata : PyVal) (contentType schemaId : Str) (schemaVersion : Int) : PyVal :=
  .dict [(.str (text "data"), data), (.str (text "metadata"), orEmpty metadata),
    (.str (text "content_type"), .str contentType), (.str (text "schema_id"), .str schemaId),
    (.str (text "schema_version"), .int schemaVersion)]

def PyVal.isDictOrNone : PyVal → Bool
  | .none => true
  | value => value.isDict

def checkPayload (python : Interpreter) (data metadata : PyVal) (contentType schemaId : Str)
    (schemaVersion : Int) : Except Exc Unit := do
  if !data.isDict || !metadata.isDictOrNone then
    .error (valueError (text "Payload data and metadata must be dictionaries"))
  if normalizedContentType contentType ∉
      [text "", text "application/json", text "application/x-json"] then
    .error (valueError (text "content_type must describe a JSON payload"))
  validateInteger schemaVersion (text "schema_version") 0 (2 ^ 31 - 1)
  validateJsonValue python.validate
    (payloadValues data metadata contentType schemaId schemaVersion)
  jsonDumps python.dumps (payloadValues data metadata contentType schemaId schemaVersion)

def buildPayload (pb : Protobuf) (python : Interpreter) (data metadata : PyVal)
    (contentType schemaId : Str) (schemaVersion : Int) : Except Exc Message := do
  checkPayload python data metadata contentType schemaId schemaVersion
  pb.parseDict payloadName (payloadValues data metadata contentType schemaId schemaVersion)

/-! ## The checks as a walk -/

def jsonFault : PyVal → Option Str
  | .bytes _ | .other _ => some (text "Payload values must be JSON-compatible")
  | _ => none

def jsonKeyFault : Key → Option Str
  | .str _ => none
  | _ => some (text "JSON object keys must be strings")

def jsonPath (value : PyVal) : List Visit := visits jsonFault jsonKeyFault 0 value

theorem inside {calls depth limit : Nat} (total : calls + 1 + depth = limit) : depth < limit := by
  omega

mutual

theorem validateJsonValue_scan : ∀ (value : PyVal) (calls depth limit : Nat), calls + depth = limit →
    validateJsonValue calls value = scan limit (visits jsonFault jsonKeyFault depth value)
  | value, 0, depth, limit, total => by
      obtain ⟨rest, shape⟩ := visits_head jsonFault jsonKeyFault depth value
      rw [shape, scan_deep limit _ rest (by simp; omega), validateJsonValue.eq_def]
  | .dict entries, calls + 1, depth, limit, total => by
      have inner := validateEntries_scan entries calls depth limit (by omega)
      rw [validateJsonValue.eq_def, visits, scan_cons limit _ _ (by simp; omega)]
      exact inner
  | .list items, calls + 1, depth, limit, total => by
      have inner := validateItems_scan items calls depth limit (by omega)
      rw [validateJsonValue.eq_def, visits, scan_cons limit _ _ (by simp; omega)]
      exact inner
  | .none, calls + 1, depth, limit, total => by
      simp [validateJsonValue, visits, scan_leaf, inside total, jsonFault]
  | .bool _, calls + 1, depth, limit, total => by
      simp [validateJsonValue, visits, scan_leaf, inside total, jsonFault]
  | .int _, calls + 1, depth, limit, total => by
      simp [validateJsonValue, visits, scan_leaf, inside total, jsonFault]
  | .float _, calls + 1, depth, limit, total => by
      simp [validateJsonValue, visits, scan_leaf, inside total, jsonFault]
  | .str _, calls + 1, depth, limit, total => by
      simp [validateJsonValue, visits, scan_leaf, inside total, jsonFault]
  | .bytes _, calls + 1, depth, limit, total => by
      simp [validateJsonValue, visits, scan_leaf, inside total, jsonFault]
  | .other _, calls + 1, depth, limit, total => by
      simp [validateJsonValue, visits, scan_leaf, inside total, jsonFault]

theorem validateEntries_scan : ∀ (entries : List (Key × PyVal)) (calls depth limit : Nat),
    calls + 1 + depth = limit → validateEntries calls entries =
      scan limit (visitEntries jsonFault jsonKeyFault depth entries)
  | [], calls, depth, limit, total => by
      rw [validateEntries.eq_def, visitEntries]
      rfl
  | (key, item) :: rest, calls, depth, limit, total => by
      have first := validateJsonValue_scan item calls (depth + 1) limit (by omega)
      have others := validateEntries_scan rest calls depth limit total
      rw [validateEntries.eq_def, visitEntries, scan_cons limit _ _ (inside total), scan_append,
        ← first, ← others]
      cases key <;> rfl

theorem validateItems_scan : ∀ (items : List PyVal) (calls depth limit : Nat),
    calls + 1 + depth = limit → validateItems calls items =
      scan limit (visitItems jsonFault jsonKeyFault depth items)
  | [], calls, depth, limit, total => by
      rw [validateItems.eq_def, visitItems]
      rfl
  | item :: rest, calls, depth, limit, total => by
      have first := validateJsonValue_scan item calls (depth + 1) limit (by omega)
      have others := validateItems_scan rest calls depth limit total
      rw [validateItems.eq_def, visitItems, scan_append, ← first, ← others]

end

theorem validateJsonValue_path (calls : Nat) (value : PyVal) :
    validateJsonValue calls value = scan calls (jsonPath value) :=
  validateJsonValue_scan value calls 0 calls rfl

end Nzovu
