import Nzovu.Proto.Message

/-!
# `protobuf_to_python`

The conversion keeps what a message holds: a decoder that knows only the descriptors gets the message
back from the dictionary. The recursion limit of the interpreter is left out.
-/

namespace Nzovu
open Proto

structure JsonFormat where
  toJsonString : WellKnown → Str
  messageToDict : WellKnown → PyVal

/-- The texts of valid times tell them apart, and so do the dictionaries of valid JSON values. -/
structure JsonFormat.Injective (json : JsonFormat) : Prop where
  toJsonString : ∀ v w : WellKnown, v.fullName ∈ timeNames → v.fullName = w.fullName →
    v.Valid → w.Valid → json.toJsonString v = json.toJsonString w → v = w
  messageToDict : ∀ v w : WellKnown, v.fullName ∈ jsonNames → v.fullName = w.fullName →
    v.Valid → w.Valid → json.messageToDict v = json.messageToDict w → v = w

def Proto.Scalar.toPython : Scalar → PyVal
  | .int n => .int n
  | .bool b => .bool b
  | .float d => .float d
  | .str s => .str s
  | .bytes b => .bytes b

/-- `values_by_number.get(value)`; of several names for a number it knows the first. -/
def Proto.EnumDescriptor.name? (e : EnumDescriptor) (number : Int) : Option Str :=
  (e.values.find? fun value => value.2 = number).map Prod.fst

section Conversion
variable (json : JsonFormat) (pool : Pool)

mutual

def protobufToPython : Message → PyVal
  | .wellKnown value =>
      if value.fullName ∈ timeNames then .str (json.toJsonString value)
      else json.messageToDict value
  | .fields fullName slots => .dict (fieldsToPython (pool fullName).fields slots)

def fieldsToPython : List FieldDescriptor → List Slot → List (Key × PyVal)
  | field :: fields, slot :: slots =>
      if field.hasPresence && slot.isAbsent then fieldsToPython fields slots
      else (.str field.name, slotToPython field slot) :: fieldsToPython fields slots
  | _, _ => []

def slotToPython (field : FieldDescriptor) : Slot → PyVal
  | .repeated contents => .list (contentsToPython field contents)
  | .map entries => .dict (entriesToPython field entries)
  | .single content => fieldValue field content
  | .absent => .none

def contentsToPython (field : FieldDescriptor) : List Content → List PyVal
  | [] => []
  | content :: rest => fieldValue field content :: contentsToPython field rest

def entriesToPython (field : FieldDescriptor) : List (Key × Content) → List (Key × PyVal)
  | [] => []
  | (key, content) :: rest => (key, fieldValue field content) :: entriesToPython field rest

def fieldValue (field : FieldDescriptor) : Content → PyVal
  | .message message => protobufToPython message
  | .enum number =>
      match field.type with
      | .enum e =>
          match e.name? number with
          | some name => .str name
          | none => .int number
      | _ => .int number
  | .scalar value => value.toPython

end

end Conversion

/-! ## The decoder -/

def Proto.EnumDescriptor.number? (e : EnumDescriptor) (name : Str) : Option Int :=
  (e.values.find? fun value => value.1 = name).map Prod.snd

def Proto.ScalarType.read : ScalarType → PyVal → Option Scalar
  | .bool, .bool b => some (.bool b)
  | .float, .float d => some (.float d)
  | .double, .float d => some (.float d)
  | .string, .str s => some (.str s)
  | .bytes, .bytes b => some (.bytes b)
  | .int32, .int n => some (.int n)
  | .int64, .int n => some (.int n)
  | .uint32, .int n => some (.int n)
  | .uint64, .int n => some (.int n)
  | _, _ => none

def slotsOf (fields : List FieldDescriptor) (named : List (Str × Slot)) : List Slot :=
  fields.map fun field => (named.lookup field.name).getD .absent

section Decoder
variable (readWellKnown : Str → PyVal → Option WellKnown) (pool : Pool)

mutual

def decodeContent (type : FieldType) (value : PyVal) : Option Content :=
  match type, value with
  | .scalar type, value => (type.read value).map .scalar
  | .enum e, .str name => (e.number? name).map .enum
  | .enum _, .int number => some (.enum number)
  | .enum _, _ => none
  | .message fullName, value =>
      if fullName ∈ timeNames ∨ fullName ∈ jsonNames then
        (readWellKnown fullName value).map fun value => .message (.wellKnown value)
      else
        match value with
        | .dict entries =>
            (decodeFields (pool fullName).fields entries).map fun named =>
              .message (.fields fullName (slotsOf (pool fullName).fields named))
        | _ => none
  termination_by (sizeOf value, 0)

def decodeSlot (field : FieldDescriptor) (value : PyVal) : Option Slot :=
  match field.label, value with
  | .singular _, value => (decodeContent field.type value).map .single
  | .repeated, .list values => (decodeContents field.type values).map .repeated
  | .map _, .dict entries => (decodeEntries field.type entries).map .map
  | _, _ => none
  termination_by (sizeOf value, 1)
  decreasing_by all_goals simp [Prod.lex_def, wfParam]

def decodeFields (fields : List FieldDescriptor) (entries : List (Key × PyVal)) :
    Option (List (Str × Slot)) :=
  match entries with
  | [] => some []
  | (.str name, value) :: rest => do
      let field ← fields.find? fun field => field.name = name
      let slot ← decodeSlot field value
      let named ← decodeFields fields rest
      return (name, slot) :: named
  | _ :: _ => none
  termination_by (sizeOf entries, 0)

def decodeContents (type : FieldType) (values : List PyVal) : Option (List Content) :=
  match values with
  | [] => some []
  | value :: rest => do
      let content ← decodeContent type value
      let contents ← decodeContents type rest
      return content :: contents
  termination_by (sizeOf values, 0)

def decodeEntries (type : FieldType) (entries : List (Key × PyVal)) :
    Option (List (Key × Content)) :=
  match entries with
  | [] => some []
  | (key, value) :: rest => do
      let content ← decodeContent type value
      let contents ← decodeEntries type rest
      return (key, content) :: contents
  termination_by (sizeOf entries, 0)

end

end Decoder

/-! ## The round trip -/

def named : List FieldDescriptor → List Slot → List (Str × Slot)
  | field :: fields, slot :: slots =>
      if slot.isAbsent then named fields slots else (field.name, slot) :: named fields slots
  | _, _ => []

theorem name_of_mem_named {fields : List FieldDescriptor} {slots : List Slot} {name : Str}
    {slot : Slot} (member : (name, slot) ∈ named fields slots) :
    name ∈ fields.map FieldDescriptor.name := by
  induction fields generalizing slots with
  | nil => cases slots <;> cases member
  | cons field fields ih =>
      cases slots with
      | nil => cases member
      | cons first slots =>
          rw [List.map_cons, List.mem_cons]
          rw [named] at member
          split at member
          · exact .inr (ih member)
          · rcases List.mem_cons.1 member with same | later
            · exact .inl (congrArg Prod.fst same)
            · exact .inr (ih later)

theorem lookup_named {fields : List FieldDescriptor} {slots : List Slot} {name : Str}
    (absent : name ∉ fields.map FieldDescriptor.name) : (named fields slots).lookup name = none := by
  rw [List.lookup_eq_none_iff]
  intro entry member
  have : entry.1 ∈ fields.map FieldDescriptor.name := name_of_mem_named member
  rw [bne_iff_ne]
  rintro rfl
  exact absent this

theorem slotsOf_named {pool : Pool} {fields : List FieldDescriptor} {slots : List Slot}
    (names : (fields.map FieldDescriptor.name).Nodup) (typed : slotsTyped pool fields slots) :
    slotsOf fields (named fields slots) = slots := by
  induction fields generalizing slots with
  | nil =>
      cases slots with
      | nil => rfl
      | cons slot slots => cases typed
  | cons field fields ih =>
      cases slots with
      | nil => cases typed
      | cons slot slots =>
          rw [List.map_cons, List.nodup_cons] at names
          have rest := ih names.2 typed.2
          rw [slotsOf, List.map_cons, named]
          cases absent : slot.isAbsent with
          | true =>
              have same : slot = .absent := by
                cases slot <;> simp_all [Slot.isAbsent]
              rw [if_pos rfl, lookup_named names.1, same]
              exact congrArg _ rest
          | false =>
              rw [if_neg Bool.false_ne_true, List.lookup_cons_self, Option.getD_some]
              apply congrArg (slot :: ·)
              refine (List.map_congr_left ?_).trans rest
              intro other member
              have different : (other.name == field.name) = false := by
                rw [beq_eq_false_iff_ne]
                intro same
                exact names.1 (same ▸ List.mem_map_of_mem member)
              rw [List.lookup_cons, different]

theorem EnumDescriptor.number_of_name {e : EnumDescriptor} {number : Int} {name : Str}
    (known : e.name? number = some name) : e.number? name = some number := by
  obtain ⟨entry, found, rfl⟩ := Option.map_eq_some_iff.1 known
  have member := List.mem_of_find?_eq_some found
  have number : entry.2 = number := by simpa using List.find?_some found
  obtain ⟨values, names⟩ := e
  simp only at member names
  clear known found
  simp only [EnumDescriptor.number?]
  induction values with
  | nil => cases member
  | cons first rest ih =>
      rw [List.map_cons, List.nodup_cons] at names
      rcases List.mem_cons.1 member with rfl | later
      · simp [number]
      · have different : first.1 ≠ entry.1 := fun same =>
          names.1 (same ▸ List.mem_map_of_mem later)
        rw [List.find?_cons_of_neg (by simpa using different)]
        exact ih names.2 later

theorem find_field {fields : List FieldDescriptor} (names : (fields.map FieldDescriptor.name).Nodup)
    {field : FieldDescriptor} (member : field ∈ fields) :
    (fields.find? fun other => other.name = field.name) = some field := by
  induction fields with
  | nil => cases member
  | cons first rest ih =>
      rw [List.map_cons, List.nodup_cons] at names
      rcases List.mem_cons.1 member with rfl | later
      · simp
      · have different : first.name ≠ field.name := fun same =>
          names.1 (same ▸ List.mem_map_of_mem later)
        rw [List.find?_cons_of_neg (by simpa using different)]
        exact ih names.2 later

section RoundTrip
variable {json : JsonFormat} {pool : Pool} {readWellKnown : Str → PyVal → Option WellKnown}

def Reads (json : JsonFormat) (pool : Pool) (readWellKnown : Str → PyVal → Option WellKnown) :
    Prop :=
  ∀ w : WellKnown, w.Valid →
    readWellKnown w.fullName (protobufToPython json pool (.wellKnown w)) = some w

theorem fullName_known (w : WellKnown) : w.fullName ∈ timeNames ∨ w.fullName ∈ jsonNames := by
  cases w <;> simp [WellKnown.fullName, timeNames, jsonNames]

theorem decodeContent_wellKnown (reads : Reads json pool readWellKnown) {w : WellKnown}
    (valid : w.Valid) :
    decodeContent readWellKnown pool (.message w.fullName)
      (protobufToPython json pool (.wellKnown w)) = some (.message (.wellKnown w)) := by
  rw [decodeContent.eq_def]
  simp only [if_pos (fullName_known w), reads w valid, Option.map_some]

theorem decodeContent_scalar {t : ScalarType} {value : Scalar} (holds : t.Holds value) :
    decodeContent readWellKnown pool (.scalar t) value.toPython = some (.scalar value) := by
  rw [decodeContent]
  cases t <;> cases value <;> first | exact holds.elim | rfl

theorem decodeContent_enum {field : FieldDescriptor} {e : EnumDescriptor}
    (type : field.type = .enum e) (number : Int) :
    decodeContent readWellKnown pool field.type (fieldValue json pool field (.enum number)) =
      some (.enum number) := by
  simp only [fieldValue, type]
  cases known : e.name? number with
  | none => rw [decodeContent]
  | some name =>
      simp only [decodeContent, EnumDescriptor.number_of_name known, Option.map_some]

mutual

theorem decode_message (reads : Reads json pool readWellKnown) (fullName : Str) :
    ∀ m : Message, Message.Typed pool fullName m →
      decodeContent readWellKnown pool (.message fullName) (protobufToPython json pool m) =
        some (.message m)
  | .wellKnown w, typed => by
      obtain ⟨rfl, valid⟩ := typed
      exact decodeContent_wellKnown reads valid
  | .fields name slots, typed => by
      obtain ⟨rfl, time, dict, typed, -⟩ := typed
      have fields := decode_slots reads (pool name).fields (pool name).names slots
        (pool name).fields (fun _ member => member) typed
      have ordinary : ¬ (name ∈ timeNames ∨ name ∈ jsonNames) := not_or.2 ⟨time, dict⟩
      simp only [protobufToPython, decodeContent, if_neg ordinary, fields, Option.map_some]
      rw [slotsOf_named (pool name).names typed]

theorem decode_slots (reads : Reads json pool readWellKnown) (all : List FieldDescriptor)
    (names : (all.map FieldDescriptor.name).Nodup) :
    ∀ (slots : List Slot) (fields : List FieldDescriptor), (∀ field ∈ fields, field ∈ all) →
      slotsTyped pool fields slots →
      decodeFields readWellKnown pool all (fieldsToPython json pool fields slots) =
        some (named fields slots)
  | [], [], _, _ => by simp [fieldsToPython, decodeFields, named]
  | .absent :: slots, field :: fields, within, typed => by
      have rest := decode_slots reads all names slots fields
        (fun field member => within field (List.mem_cons_of_mem _ member)) typed.2
      have presence : field.hasPresence = true := typed.1
      simpa [fieldsToPython, named, presence, Slot.isAbsent] using rest
  | .single content :: slots, field :: fields, within, typed => by
      have rest := decode_slots reads all names slots fields
        (fun field member => within field (List.mem_cons_of_mem _ member)) typed.2
      obtain ⟨⟨p, label⟩, held⟩ := typed.1
      have content := decode_content reads field content held
      have found := find_field names (within field List.mem_cons_self)
      simp [fieldsToPython, slotToPython, decodeFields, decodeSlot, named, Slot.isAbsent, found, label,
        content, rest]
  | .repeated contents :: slots, field :: fields, within, typed => by
      have rest := decode_slots reads all names slots fields
        (fun field member => within field (List.mem_cons_of_mem _ member)) typed.2
      obtain ⟨label, held⟩ := typed.1
      have contents := decode_contents reads field contents held
      have found := find_field names (within field List.mem_cons_self)
      simp [fieldsToPython, slotToPython, decodeFields, decodeSlot, named, Slot.isAbsent, found, label,
        contents, rest]
  | .map entries :: slots, field :: fields, within, typed => by
      have rest := decode_slots reads all names slots fields
        (fun field member => within field (List.mem_cons_of_mem _ member)) typed.2
      obtain ⟨key, label, -, -, held⟩ := typed.1
      have entries := decode_entries reads field entries held
      have found := find_field names (within field List.mem_cons_self)
      simp [fieldsToPython, slotToPython, decodeFields, decodeSlot, named, Slot.isAbsent, found, label,
        entries, rest]

theorem decode_contents (reads : Reads json pool readWellKnown) (field : FieldDescriptor) :
    ∀ contents : List Content, contentsTyped pool field.type contents →
      decodeContents readWellKnown pool field.type (contentsToPython json pool field contents) =
        some contents
  | [], _ => by simp [contentsToPython, decodeContents]
  | content :: rest, typed => by
      have first := decode_content reads field content typed.1
      have others := decode_contents reads field rest typed.2
      simp [contentsToPython, decodeContents, first, others]

theorem decode_entries (reads : Reads json pool readWellKnown) (field : FieldDescriptor) :
    ∀ entries : List (Key × Content), entriesTyped pool field.type entries →
      decodeEntries readWellKnown pool field.type (entriesToPython json pool field entries) =
        some entries
  | [], _ => by simp [entriesToPython, decodeEntries]
  | (key, content) :: rest, typed => by
      have first := decode_content reads field content typed.1
      have others := decode_entries reads field rest typed.2
      simp [entriesToPython, decodeEntries, first, others]

theorem decode_content (reads : Reads json pool readWellKnown) (field : FieldDescriptor) :
    ∀ content : Content, Content.Typed pool field.type content →
      decodeContent readWellKnown pool field.type (fieldValue json pool field content) =
        some content
  | .scalar value, typed => by
      obtain ⟨t, type, holds⟩ := typed
      rw [fieldValue, type]
      exact decodeContent_scalar holds
  | .enum number, typed => by
      obtain ⟨e, type, -⟩ := typed
      exact decodeContent_enum type number
  | .message message, typed => by
      obtain ⟨fullName, type, typed⟩ := typed
      rw [fieldValue, type]
      exact decode_message reads fullName message typed

end

end RoundTrip

noncomputable def wellKnownOf (json : JsonFormat) (pool : Pool) (fullName : Str) (value : PyVal) :
    Option WellKnown :=
  open Classical in
  if h : ∃ w : WellKnown, w.Valid ∧ w.fullName = fullName ∧
      protobufToPython json pool (.wellKnown w) = value then some h.choose
  else none

theorem wellKnownOf_reads {json : JsonFormat} (injective : json.Injective) (pool : Pool) :
    Reads json pool (wellKnownOf json pool) := by
  intro w valid
  have exists_ : ∃ v : WellKnown, v.Valid ∧ v.fullName = w.fullName ∧
      protobufToPython json pool (.wellKnown v) = protobufToPython json pool (.wellKnown w) :=
    ⟨w, valid, rfl, rfl⟩
  rw [wellKnownOf, dif_pos exists_]
  obtain ⟨valid', name, same⟩ := exists_.choose_spec
  generalize exists_.choose = v at valid' name same
  by_cases time : v.fullName ∈ timeNames
  · have time' : w.fullName ∈ timeNames := name ▸ time
    simp only [protobufToPython, if_pos time, if_pos time', PyVal.str.injEq] at same
    rw [injective.toJsonString v w time name valid' valid same]
  · have time' : w.fullName ∉ timeNames := name ▸ time
    have dict := (fullName_known v).resolve_left time
    simp only [protobufToPython, if_neg time, if_neg time'] at same
    rw [injective.messageToDict v w dict name valid' valid same]

noncomputable def decode (json : JsonFormat) (pool : Pool) (fullName : Str) (value : PyVal) :
    Option Message :=
  match decodeContent (wellKnownOf json pool) pool (.message fullName) value with
  | some (.message message) => some message
  | _ => none

/-- The conversion of a message of any type loses nothing: the decoder, which is given the name of
the type, returns the message. -/
theorem decode_protobufToPython (json : JsonFormat) (injective : json.Injective) (pool : Pool)
    (fullName : Str) (message : Message) (typed : message.Typed pool fullName) :
    decode json pool fullName (protobufToPython json pool message) = some message := by
  rw [decode, decode_message (wellKnownOf_reads injective pool) fullName message typed]

mutual

def Proto.JsonValue.toPython : JsonValue → PyVal
  | .unset => .none
  | .null => .none
  | .number d => .float d
  | .string s => .str s
  | .bool b => .bool b
  | .struct fields => .dict (jsonFieldsToPython fields)
  | .list values => .list (jsonValuesToPython values)

def jsonFieldsToPython : List (Str × JsonValue) → List (Key × PyVal)
  | [] => []
  | (name, value) :: rest => (.str name, value.toPython) :: jsonFieldsToPython rest

def jsonValuesToPython : List JsonValue → List PyVal
  | [] => []
  | value :: rest => value.toPython :: jsonValuesToPython rest

end

mutual

theorem JsonValue.toPython_injective : ∀ v w : JsonValue, v.Valid → w.Valid →
    v.toPython = w.toPython → v = w
  | .unset, _, valid, _, _ => valid.elim
  | .null, w, _, valid, same => by
      cases w <;> simp_all [JsonValue.toPython, JsonValue.Valid]
  | .number d, w, _, valid, same => by
      cases w <;> simp_all [JsonValue.toPython]
  | .string s, w, _, valid, same => by
      cases w <;> simp_all [JsonValue.toPython]
  | .bool b, w, _, valid, same => by
      cases w <;> simp_all [JsonValue.toPython]
  | .struct fields, w, first, valid, same => by
      cases w with
      | struct others =>
          simp only [JsonValue.toPython, PyVal.dict.injEq] at same
          rw [jsonFieldsToPython_injective fields others first.2 valid.2 same]
      | _ => simp [JsonValue.toPython] at same
  | .list values, w, first, valid, same => by
      cases w with
      | list others =>
          simp only [JsonValue.toPython, PyVal.list.injEq] at same
          rw [jsonValuesToPython_injective values others first valid same]
      | _ => simp [JsonValue.toPython] at same

theorem jsonFieldsToPython_injective : ∀ fields others : List (Str × JsonValue),
    JsonValue.fieldsValid fields → JsonValue.fieldsValid others →
    jsonFieldsToPython fields = jsonFieldsToPython others → fields = others
  | [], [], _, _, _ => rfl
  | [], _ :: _, _, _, same => by cases same
  | _ :: _, [], _, _, same => by cases same
  | (name, value) :: fields, (name', value') :: others, first, second, same => by
      simp only [jsonFieldsToPython, List.cons.injEq, Prod.mk.injEq, Key.str.injEq] at same
      obtain ⟨⟨rfl, same⟩, rest⟩ := same
      rw [JsonValue.toPython_injective value value' first.1 second.1 same,
        jsonFieldsToPython_injective fields others first.2 second.2 rest]

theorem jsonValuesToPython_injective : ∀ values others : List JsonValue,
    JsonValue.valuesValid values → JsonValue.valuesValid others →
    jsonValuesToPython values = jsonValuesToPython others → values = others
  | [], [], _, _, _ => rfl
  | [], _ :: _, _, _, same => by cases same
  | _ :: _, [], _, _, same => by cases same
  | value :: values, value' :: others, first, second, same => by
      simp only [jsonValuesToPython, List.cons.injEq] at same
      rw [JsonValue.toPython_injective value value' first.1 second.1 same.1,
        jsonValuesToPython_injective values others first.2 second.2 same.2]

end

def sampleFormat : JsonFormat where
  toJsonString
    | .timestamp seconds nanos | .duration seconds nanos =>
        [seconds.toNat, (-seconds).toNat, nanos.toNat, (-nanos).toNat]
    | _ => []
  messageToDict
    | .struct fields => (JsonValue.struct fields).toPython
    | .value v => v.toPython
    | .listValue values => (JsonValue.list values).toPython
    | _ => .none

theorem sampleFormat_injective : sampleFormat.Injective where
  toJsonString := by
    intro v w time name _ _ same
    cases v with
    | timestamp s n =>
        cases w with
        | timestamp t m =>
            simp only [sampleFormat, List.cons.injEq] at same
            rw [show s = t by omega, show n = m by omega]
        | _ => exact absurd name (by simp only [WellKnown.fullName]; decide)
    | duration s n =>
        cases w with
        | duration t m =>
            simp only [sampleFormat, List.cons.injEq] at same
            rw [show s = t by omega, show n = m by omega]
        | _ => exact absurd name (by simp only [WellKnown.fullName]; decide)
    | _ => exact absurd time (by simp only [WellKnown.fullName]; decide)
  messageToDict := by
    intro v w dict name valid valid' same
    cases v with
    | struct fields =>
        cases w with
        | struct others =>
            rw [JsonValue.struct.inj (JsonValue.toPython_injective _ _ valid valid' same)]
        | _ => exact absurd name (by simp only [WellKnown.fullName]; decide)
    | value value =>
        cases w with
        | value other => rw [JsonValue.toPython_injective _ _ valid valid' same]
        | _ => exact absurd name (by simp only [WellKnown.fullName]; decide)
    | listValue values =>
        cases w with
        | listValue others =>
            rw [JsonValue.list.inj (JsonValue.toPython_injective _ _ valid valid' same)]
        | _ => exact absurd name (by simp only [WellKnown.fullName]; decide)
    | _ => exact absurd dict (by simp only [WellKnown.fullName]; decide)

def sampleDescriptor : MessageDescriptor where
  fields :=
    [⟨text "state", .singular false, .enum ⟨[(text "PENDING", 1)], by decide⟩, none⟩,
      ⟨text "name", .singular true, .scalar .string, none⟩,
      ⟨text "next", .singular true, .message (text "Node"), none⟩,
      ⟨text "labels", .map .string, .message (text "google.protobuf.Value"), none⟩]
  names := by decide
  formed := by simp [FieldDescriptor.WellFormed, FieldDescriptor.hasPresence]

def samplePool : Pool := fun _ => sampleDescriptor

def sampleMessage : Message :=
  .fields (text "Node")
    [.single (.enum 7), .absent,
      .single (.message (.fields (text "Node")
        [.single (.enum 1), .single (.scalar (.str [])), .absent, .map []])),
      .map [(.str (text "a"), .message (.wellKnown (.value .null)))]]

theorem sample_typed {slots : List Slot}
    (typed : slotsTyped samplePool sampleDescriptor.fields slots) :
    Message.Typed samplePool (text "Node") (.fields (text "Node") slots) := by
  refine ⟨rfl, by decide, by decide, typed, ?_⟩
  intro i j f g s t first _ member
  have := List.mem_of_getElem? first
  simp only [samplePool, sampleDescriptor, List.mem_cons, List.not_mem_nil, or_false] at this
  rcases this with rfl | rfl | rfl | rfl <;> exact absurd rfl member

theorem decode_protobufToPython_sample :
    decode sampleFormat samplePool (text "Node")
      (protobufToPython sampleFormat samplePool sampleMessage) = some sampleMessage := by
  apply decode_protobufToPython sampleFormat sampleFormat_injective
  apply sample_typed
  refine ⟨⟨⟨_, rfl⟩, _, rfl, by decide, by decide⟩, rfl, ⟨⟨_, rfl⟩, _, rfl, ?_⟩,
    ⟨_, rfl, by decide, ?_, ⟨_, rfl, rfl, trivial⟩, trivial⟩, trivial⟩
  · apply sample_typed
    exact ⟨⟨⟨_, rfl⟩, _, rfl, by decide, by decide⟩, ⟨⟨_, rfl⟩, _, rfl, rfl⟩, rfl,
      ⟨_, rfl, List.nodup_nil, List.forall_mem_nil _, trivial⟩, trivial⟩
  · intro entry member
    rw [List.mem_singleton.1 member]
    exact (rfl : Str.encodable (text "a") = true)

end Nzovu
