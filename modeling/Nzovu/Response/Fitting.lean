import Nzovu.Python.Model
import Nzovu.Request.RoundTrip

/-!
# Models of messages

When the fields of a class fit the fields of a message type, `from_proto` accepts every message of
the type, and the model that it makes holds the whole message: the decoder of the conversion reads it
back from the attributes.
-/

namespace Nzovu
open Proto

section Fit
variable (classOf : Str → Option Str)

def Proto.FieldType.fits : FieldType → Annotation → Bool
  | .scalar .string, .str => true
  | .scalar .bytes, .bytes => true
  | .scalar .bool, .bool => true
  | .scalar .int32, .int => true
  | .scalar .int64, .int => true
  | .scalar .uint32, .int => true
  | .scalar .uint64, .int => true
  | .enum _, .strOrInt => true
  | .message fullName, a =>
      if fullName ∈ timeNames then decide (a = .str)
      else if fullName = structName then decide (a = .dict .any)
      else if fullName ∈ jsonNames then decide (a = .any)
      else decide (a = .dict .any) || (classOf fullName).any fun name => a = .model name
  | _, _ => false

/-- A field that can be absent is `None` by default, and its values are not. -/
def Proto.FieldDescriptor.fits (field : FieldDescriptor) (f : ModelField) : Bool :=
  decide (f.name = field.name) && match field.label, f.annotation with
    | .singular true, .optional a =>
        field.type.fits classOf a && decide (a ≠ .any) && f.default.any Instance.isNone
    | .singular false, .optional a => field.type.fits classOf a && decide (a ≠ .any)
    | .singular false, a => field.type.fits classOf a && decide (a ≠ .any)
    | .repeated, .list a => field.type.fits classOf a
    | .map .string, .dict a => field.type.fits classOf a
    | _, _ => false

def Proto.MessageDescriptor.fits (descriptor : MessageDescriptor) (c : ModelClass) : Bool :=
  (descriptor.fields.all fun field => c.fields.any fun f => field.fits classOf f) &&
    c.fields.all fun f => descriptor.fields.any fun field => f.name = field.name

end Fit

def JsonFormat.StructDict (json : JsonFormat) : Prop :=
  ∀ fields, (WellKnown.struct fields).Valid → ∃ entries,
    json.messageToDict (.struct fields) = .dict entries ∧ ∀ entry ∈ entries, ∃ s, entry.1 = .str s

section Models
variable {json : JsonFormat} {pool : Pool} {readWellKnown : Str → PyVal → Option WellKnown}
  {classOf : Str → Option Str} {classes : Classes} {pydantic : Pydantic}

variable (json pool readWellKnown pydantic) in
structure Modelled (field : FieldDescriptor) (a : Annotation) (content : Content) (x : Instance) :
    Prop where
  accepted : pydantic.validate a (fieldValue json pool field content) = .ok x
  read : decodeContent readWellKnown pool field.type x.dump = some content
  solid : a ≠ .any → x.isNone = false ∧ fieldValue json pool field content ≠ .none

theorem dump_entries_any (entries : List (Key × PyVal)) :
    Instance.dumpEntries (entries.map fun e => (e.1, .value e.2)) = entries := by
  induction entries with
  | nil => rfl
  | cons e rest ih => simp [Instance.dumpEntries, Instance.dump, ih]

theorem accepts_any (documented : pydantic.Documented classes) {entries : List (Key × PyVal)}
    (keys : ∀ entry ∈ entries, ∃ s, entry.1 = .str s) :
    pydantic.validate (.dict .any) (.dict entries) =
      .ok (.dict (entries.map fun e => (e.1, .value e.2))) := by
  apply documented.dict
  rw [List.forall₂_map_right_iff, List.forall₂_same]
  intro e member
  exact ⟨keys e member, rfl, documented.any e.2⟩

theorem modelled_scalar (documented : pydantic.Documented classes) {field : FieldDescriptor}
    {a : Annotation} {t : ScalarType} {value : Scalar} (type : field.type = .scalar t)
    (holds : t.Holds value) (fits : field.type.fits classOf a = true) :
    Modelled json pool readWellKnown pydantic field a (.scalar value) (.value value.toPython) := by
  refine ⟨?_, ?_, ?_⟩
  · rw [type] at fits
    cases t <;> cases a <;> simp only [FieldType.fits, Bool.false_eq_true] at fits <;>
      cases value <;> simp only [ScalarType.Holds] at holds <;>
      simp only [fieldValue, Scalar.toPython]
    · exact documented.int _
    · exact documented.int _
    · exact documented.int _
    · exact documented.int _
    · exact documented.bool _
    · exact documented.str _
    · exact documented.bytes _
  · rw [type, Instance.dump]
    exact decodeContent_scalar holds
  · intro _
    cases value <;> simp [Instance.isNone, fieldValue, Scalar.toPython]

theorem modelled_enum (documented : pydantic.Documented classes) {field : FieldDescriptor}
    {a : Annotation} {e : EnumDescriptor} (type : field.type = .enum e) (number : Int)
    (fits : field.type.fits classOf a = true) :
    ∃ x, Modelled json pool readWellKnown pydantic field a (.enum number) x := by
  have union : a = .strOrInt := by
    rw [type] at fits
    cases a <;> simp_all [FieldType.fits]
  subst union
  refine ⟨.value (fieldValue json pool field (.enum number)), ?_, ?_, ?_⟩
  · simp only [fieldValue, type]
    split
    · exact documented.union_str _
    · exact documented.union_int _
  · rw [Instance.dump]
    exact decodeContent_enum type number
  · intro _
    simp only [fieldValue, type]
    split <;> simp [Instance.isNone]

theorem modelled_wellKnown (documented : pydantic.Documented classes) (dict : json.StructDict)
    (reads : Reads json pool readWellKnown) {field : FieldDescriptor} {a : Annotation}
    {w : WellKnown} (type : field.type = .message w.fullName) (valid : w.Valid)
    (fits : field.type.fits classOf a = true) :
    ∃ x, Modelled json pool readWellKnown pydantic field a (.message (.wellKnown w)) x := by
  have read := decodeContent_wellKnown reads valid
  rw [type] at fits
  simp only [FieldType.fits] at fits
  split at fits
  · rename_i time
    obtain rfl : a = .str := by simpa using fits
    have shown : protobufToPython json pool (.wellKnown w) = .str (json.toJsonString w) := by
      simp [protobufToPython, time]
    refine ⟨.value (.str (json.toJsonString w)), ?_, ?_, ?_⟩
    · rw [fieldValue, shown]
      exact documented.str _
    · rw [type, Instance.dump, ← shown]
      exact read
    · intro _
      simp [Instance.isNone, fieldValue, shown]
  · rename_i time
    have shown : protobufToPython json pool (.wellKnown w) = json.messageToDict w := by
      simp [protobufToPython, time]
    split at fits
    · rename_i struct
      obtain rfl : a = .dict .any := by simpa using fits
      obtain ⟨fields, rfl⟩ : ∃ fields, w = .struct fields := by
        cases w with
        | struct fields => exact ⟨fields, rfl⟩
        | _ => exact absurd struct (by simp only [WellKnown.fullName, structName]; decide)
      obtain ⟨entries, same, keys⟩ := dict fields valid
      rw [same] at shown
      refine ⟨.dict (entries.map fun e => (e.1, .value e.2)), ?_, ?_, ?_⟩
      · rw [fieldValue, shown]
        exact accepts_any documented keys
      · rw [type, Instance.dump, dump_entries_any, ← shown]
        exact read
      · intro _
        simp [Instance.isNone, fieldValue, shown]
    · obtain rfl : a = .any := by
        have other : w.fullName ∈ jsonNames := (fullName_known w).resolve_left time
        simpa [other] using fits
      refine ⟨.value (json.messageToDict w), ?_, ?_, fun never => (never rfl).elim⟩
      · rw [fieldValue, shown]
        exact documented.any _
      · rw [type, Instance.dump, ← shown]
        exact read

theorem fieldsToPython_keys (fields : List FieldDescriptor) (slots : List Slot) :
    ∀ entry ∈ fieldsToPython json pool fields slots, ∃ s, entry.1 = .str s := by
  induction fields generalizing slots with
  | nil => cases slots <;> simp [fieldsToPython]
  | cons field fields ih =>
      cases slots with
      | nil => simp [fieldsToPython]
      | cons slot slots =>
          rw [fieldsToPython]
          split
          · exact ih slots
          · intro entry member
            rcases List.mem_cons.1 member with rfl | later
            · exact ⟨field.name, rfl⟩
            · exact ih slots entry later

variable (json pool readWellKnown pydantic) in
structure SlotModelled (field : FieldDescriptor) (slot : Slot) (f : ModelField) (x : Instance) :
    Prop where
  accepted : match shownSlot json pool field slot with
    | some value => pydantic.validate f.annotation value = .ok x
    | none => f.default = some x
  absent : x.isNone = slot.isAbsent
  read : slot.isAbsent = false → decodeSlot readWellKnown pool field x.dump = some slot

theorem fits_name {field : FieldDescriptor} {f : ModelField} (fits : field.fits classOf f = true) :
    f.name = field.name := by
  rw [FieldDescriptor.fits, Bool.and_eq_true, decide_eq_true_eq] at fits
  exact fits.1

theorem exists_forall₂ {α β : Type} {R : α → β → Prop} {xs : List α}
    (each : ∀ x ∈ xs, ∃ y, R x y) : ∃ ys, List.Forall₂ R xs ys := by
  induction xs with
  | nil => exact ⟨[], .nil⟩
  | cons x rest ih =>
      obtain ⟨y, first⟩ := each x List.mem_cons_self
      obtain ⟨ys, later⟩ := ih fun z member => each z (List.mem_cons_of_mem _ member)
      exact ⟨y :: ys, .cons first later⟩

theorem slotsTyped_length {fields : List FieldDescriptor} {slots : List Slot}
    (typed : slotsTyped pool fields slots) : fields.length = slots.length := by
  induction fields generalizing slots with
  | nil =>
      cases slots with
      | nil => rfl
      | cons => cases typed
  | cons field fields ih =>
      cases slots with
      | nil => cases typed
      | cons slot slots => rw [List.length_cons, List.length_cons, ih typed.2]

variable (json pool readWellKnown pydantic) in
def Source (fields : List FieldDescriptor) (slots : List Slot) (f : ModelField)
    (assigned : Str × Instance) : Prop :=
  assigned.1 = f.name ∧ ∃ (i : Nat) (field : FieldDescriptor) (slot : Slot),
    fields[i]? = some field ∧ slots[i]? = some slot ∧
    f.name = field.name ∧
    SlotModelled json pool readWellKnown pydantic field slot f assigned.2

theorem same_place {fields : List FieldDescriptor} (names : (fields.map FieldDescriptor.name).Nodup)
    {i j : Nat} {field other : FieldDescriptor} (here : fields[i]? = some field)
    (there : fields[j]? = some other) (same : field.name = other.name) : i = j := by
  have inside : i < (fields.map FieldDescriptor.name).length := by
    simpa using (List.getElem?_eq_some_iff.1 here).1
  apply (List.getElem?_inj inside names).1
  simp [here, there, same]

theorem decode_attributes {all : List FieldDescriptor} {slots : List Slot}
    (names : (all.map FieldDescriptor.name).Nodup) {cs : List ModelField}
    {attributes : List (Str × Instance)} (distinct : (cs.map ModelField.name).Nodup)
    (sources : List.Forall₂ (Source json pool readWellKnown pydantic all slots) cs attributes) :
    ∃ named, decodeFields readWellKnown pool all (Instance.dumpAttributes attributes) = some named ∧
      ∀ (i : Nat) (field : FieldDescriptor) (slot : Slot), all[i]? = some field →
        slots[i]? = some slot → named.lookup field.name =
          if field.name ∈ cs.map ModelField.name ∧ slot.isAbsent = false then some slot else none := by
  induction sources with
  | nil => exact ⟨[], by simp [Instance.dumpAttributes, decodeFields], by simp⟩
  | @cons f x cs attributes first rest ih =>
      rw [List.map_cons, List.nodup_cons] at distinct
      obtain ⟨named, decoded, found⟩ := ih distinct.2
      obtain ⟨n, y⟩ := x
      obtain ⟨rfl, k, origin, source, here, there, name, modelled⟩ := first
      simp only at modelled
      have alone : ∀ (i : Nat) (field : FieldDescriptor) (slot : Slot), all[i]? = some field →
          slots[i]? = some slot → field.name = f.name → slot = source := by
        intro i field slot place value same
        have := same_place names place here (same.trans name)
        subst this
        rw [there] at value
        cases value
        rfl
      cases absent : source.isAbsent with
      | true =>
          refine ⟨named, ?_, ?_⟩
          · rw [Instance.dumpAttributes, modelled.absent, if_pos absent]
            exact decoded
          · intro i field slot place value
            rw [found i field slot place value]
            by_cases same : field.name = f.name
            · obtain rfl := alone i field slot place value same
              simp [absent]
            · simp [same]
      | false =>
          refine ⟨(f.name, source) :: named, ?_, ?_⟩
          · have known := find_field names (List.mem_of_getElem? here)
            rw [Instance.dumpAttributes, modelled.absent, absent, if_neg Bool.false_ne_true, name]
            simp [decodeFields, known, modelled.read absent, decoded]
          · intro i field slot place value
            rw [List.lookup_cons]
            by_cases same : field.name = f.name
            · obtain rfl := alone i field slot place value same
              simp [same, absent]
            · have different : (field.name == f.name) = false := by simpa using same
              rw [different]
              simpa [same] using found i field slot place value

theorem slotsOf_found {fields : List FieldDescriptor} {slots : List Slot}
    {named : List (Str × Slot)} (long : fields.length = slots.length)
    (found : ∀ (i : Nat) (field : FieldDescriptor) (slot : Slot), fields[i]? = some field →
      slots[i]? = some slot → (named.lookup field.name).getD .absent = slot) :
    slotsOf fields named = slots := by
  apply List.ext_getElem
  · simpa [slotsOf] using long
  · intro i inside within
    have bound : i < fields.length := by simpa [slotsOf] using inside
    simp only [slotsOf, List.getElem_map]
    exact found i fields[i] slots[i] (List.getElem?_eq_getElem bound)
      (List.getElem?_eq_getElem within)

theorem message_of_slots (documented : pydantic.Documented classes) {fullName className : Str}
    {slots : List Slot} (ordinary : ¬(fullName ∈ timeNames ∨ fullName ∈ jsonNames))
    (typed : slotsTyped pool (pool fullName).fields slots)
    (fits : (pool fullName).fits classOf (classes className) = true)
    (each : ∀ (i : Nat) (field : FieldDescriptor) (slot : Slot),
      (pool fullName).fields[i]? = some field → slots[i]? = some slot → ∀ f,
        field.fits classOf f = true → ∃ x, SlotModelled json pool readWellKnown pydantic field slot f x) :
    ∃ attributes,
      pydantic.validate (.model className) (protobufToPython json pool (.fields fullName slots)) =
        .ok (.model className attributes) ∧
      decodeContent readWellKnown pool (.message fullName) (Instance.model className attributes).dump =
        some (.message (.fields fullName slots)) := by
  have long := slotsTyped_length typed
  rw [MessageDescriptor.fits, Bool.and_eq_true, List.all_eq_true, List.all_eq_true] at fits
  obtain ⟨covered, known⟩ := fits
  have sources : ∀ f ∈ (classes className).fields, ∃ assigned,
      Source json pool readWellKnown pydantic (pool fullName).fields slots f assigned := by
    intro f member
    obtain ⟨field, inside, same⟩ := List.any_eq_true.1 (known f member)
    rw [decide_eq_true_eq] at same
    obtain ⟨g, listed, fitting⟩ := List.any_eq_true.1 (covered field inside)
    obtain rfl : f = g :=
      List.inj_on_of_nodup_map (classes className).names member listed
        (same.trans (fits_name fitting).symm)
    obtain ⟨i, here⟩ := List.mem_iff_getElem?.1 inside
    have bound : i < slots.length := long ▸ (List.getElem?_eq_some_iff.1 here).1
    have there : slots[i]? = some slots[i] := List.getElem?_eq_getElem bound
    obtain ⟨x, modelled⟩ := each i field slots[i] here there f fitting
    exact ⟨(f.name, x), rfl, i, field, slots[i], here, there, same, modelled⟩
  obtain ⟨attributes, related⟩ := exists_forall₂ sources
  refine ⟨attributes, ?_, ?_⟩
  · rw [protobufToPython]
    apply documented.model
    apply related.imp
    rintro f ⟨n, x⟩ ⟨rfl, i, field, slot, here, there, same, modelled⟩
    refine ⟨rfl, ?_⟩
    rw [same, get?_fieldsToPython (pool fullName).names here there]
    exact modelled.accepted
  · obtain ⟨named, decoded, found⟩ :=
      decode_attributes (pool fullName).names (classes className).names related
    simp only [Instance.dump, decodeContent, if_neg ordinary, decoded, Option.map_some]
    rw [slotsOf_found long]
    intro i field slot here there
    obtain ⟨g, listed, fitting⟩ := List.any_eq_true.1 (covered field (List.mem_of_getElem? here))
    have present : field.name ∈ (classes className).fields.map ModelField.name :=
      List.mem_map.2 ⟨g, listed, fits_name fitting⟩
    rw [found i field slot here there]
    cases slot <;> simp [present, Slot.isAbsent]

theorem fits_singular {field : FieldDescriptor} {f : ModelField} {p : Bool}
    (label : field.label = .singular p) (fits : field.fits classOf f = true) :
    ∃ a, field.type.fits classOf a = true ∧ a ≠ .any ∧
      (f.annotation = .optional a ∨ p = false ∧ f.annotation = a) ∧
      (p = true → ∃ x, f.default = some x ∧ x.isNone = true) := by
  rw [FieldDescriptor.fits, label, Bool.and_eq_true] at fits
  obtain ⟨-, fits⟩ := fits
  cases p with
  | true =>
      split at fits
      · rename_i b a _ annotation
        simp only [Bool.and_eq_true, decide_eq_true_eq, Option.any_eq_true] at fits
        exact ⟨_, fits.1.1, fits.1.2, .inl annotation, fun _ => fits.2⟩
      all_goals simp_all
  | false =>
      split at fits
      · simp_all
      · rename_i annotation
        simp only [Bool.and_eq_true, decide_eq_true_eq] at fits
        exact ⟨_, fits.1, fits.2, .inl annotation, by simp⟩
      · simp only [Bool.and_eq_true, decide_eq_true_eq] at fits
        exact ⟨_, fits.1, fits.2, .inr ⟨rfl, rfl⟩, by simp⟩
      all_goals simp_all

theorem fits_repeated {field : FieldDescriptor} {f : ModelField} (label : field.label = .repeated)
    (fits : field.fits classOf f = true) :
    ∃ a, f.annotation = .list a ∧ field.type.fits classOf a = true := by
  rw [FieldDescriptor.fits, label, Bool.and_eq_true] at fits
  obtain ⟨-, fits⟩ := fits
  split at fits <;> simp_all

theorem fits_map {field : FieldDescriptor} {f : ModelField} {key : ScalarType}
    (label : field.label = .map key) (fits : field.fits classOf f = true) :
    ∃ a, key = .string ∧ f.annotation = .dict a ∧ field.type.fits classOf a = true := by
  rw [FieldDescriptor.fits, label, Bool.and_eq_true] at fits
  obtain ⟨-, fits⟩ := fits
  split at fits <;> simp_all

/-! ## Whole messages -/

variable (pool classOf classes) in
def ClassesFit : Prop :=
  ∀ fullName className, classOf fullName = some className →
    ¬(fullName ∈ timeNames ∨ fullName ∈ jsonNames) ∧
      (pool fullName).fits classOf (classes className) = true

theorem slot_of_content (documented : pydantic.Documented classes) {field : FieldDescriptor}
    {f : ModelField} {p : Bool} {content : Content} (label : field.label = .singular p)
    (fits : field.fits classOf f = true)
    (each : ∀ a, field.type.fits classOf a = true →
      ∃ x, Modelled json pool readWellKnown pydantic field a content x) :
    ∃ x, SlotModelled json pool readWellKnown pydantic field (.single content) f x := by
  obtain ⟨a, fitting, definite, annotation, -⟩ := fits_singular label fits
  obtain ⟨x, accepted, read, solid⟩ := each a fitting
  obtain ⟨shown, given⟩ := solid definite
  refine ⟨x, ?_, by simpa [Slot.isAbsent] using shown, ?_⟩
  · simp only [shownSlot, Slot.isAbsent, Bool.and_false, Bool.false_eq_true, ↓reduceIte,
      slotToPython]
    rcases annotation with optional | ⟨-, plain⟩
    · rw [optional]
      exact documented.optional a _ x given accepted
    · rw [plain]
      exact accepted
  · intro _
    simp [decodeSlot, label, read]

mutual

theorem message_modelled (documented : pydantic.Documented classes) (dict : json.StructDict)
    (reads : Reads json pool readWellKnown) (fit : ClassesFit pool classOf classes) :
    ∀ (m : Message) (fullName className : Str), Message.Typed pool fullName m →
      classOf fullName = some className → ∃ attributes,
        pydantic.validate (.model className) (protobufToPython json pool m) =
          .ok (.model className attributes) ∧
        decodeContent readWellKnown pool (.message fullName)
          (Instance.model className attributes).dump = some (.message m)
  | .wellKnown w, fullName, className, typed, listed => by
      obtain ⟨rfl, -⟩ := typed
      exact ((fit _ _ listed).1 (fullName_known w)).elim
  | .fields name slots, fullName, className, typed, listed => by
      obtain ⟨rfl, -, -, typed, -⟩ := typed
      obtain ⟨ordinary, fits⟩ := fit _ _ listed
      exact message_of_slots documented ordinary typed fits
        (slots_modelled documented dict reads fit slots _ typed)

theorem slots_modelled (documented : pydantic.Documented classes) (dict : json.StructDict)
    (reads : Reads json pool readWellKnown) (fit : ClassesFit pool classOf classes) :
    ∀ (slots : List Slot) (fields : List FieldDescriptor), slotsTyped pool fields slots →
      ∀ (i : Nat) (field : FieldDescriptor) (slot : Slot), fields[i]? = some field →
        slots[i]? = some slot → ∀ f, field.fits classOf f = true →
          ∃ x, SlotModelled json pool readWellKnown pydantic field slot f x
  | [], fields, typed, i, field, slot, here, there, f, fits => by simp at there
  | first :: slots, [], typed, i, field, slot, here, there, f, fits => by cases typed
  | first :: slots, head :: fields, typed, i, field, slot, here, there, f, fits => by
      cases i with
      | zero =>
          cases here
          cases there
          exact slot_modelled documented dict reads fit first head typed.1 f fits
      | succ i =>
          exact slots_modelled documented dict reads fit slots fields typed.2 i field slot here there
            f fits

theorem slot_modelled (documented : pydantic.Documented classes) (dict : json.StructDict)
    (reads : Reads json pool readWellKnown) (fit : ClassesFit pool classOf classes) :
    ∀ (slot : Slot) (field : FieldDescriptor), Slot.Typed pool field slot → ∀ f,
      field.fits classOf f = true →
        ∃ x, SlotModelled json pool readWellKnown pydantic field slot f x
  | .absent, field, typed, f, fits => by
      have presence : field.hasPresence = true := typed
      have label : field.label = .singular true := by
        unfold FieldDescriptor.hasPresence at presence
        split at presence
        · rename_i p label
          rw [label, presence]
        · cases presence
      obtain ⟨-, -, -, -, missing⟩ := fits_singular label fits
      obtain ⟨x, default, none⟩ := missing rfl
      refine ⟨x, ?_, none, by simp [Slot.isAbsent]⟩
      simpa [shownSlot, presence, Slot.isAbsent] using default
  | .single content, field, typed, f, fits => by
      obtain ⟨⟨p, label⟩, held⟩ := typed
      exact slot_of_content documented label fits
        (content_modelled documented dict reads fit content field held)
  | .repeated contents, field, typed, f, fits => by
      obtain ⟨label, held⟩ := typed
      obtain ⟨a, annotation, fitting⟩ := fits_repeated label fits
      obtain ⟨items, accepted, read⟩ :=
        contents_modelled documented dict reads fit contents field a held fitting
      refine ⟨.list items, ?_, rfl, fun _ => ?_⟩
      · simp only [shownSlot, Slot.isAbsent, Bool.and_false, Bool.false_eq_true, ↓reduceIte,
          slotToPython, annotation]
        exact documented.list a _ _ accepted
      · simp [Instance.dump, decodeSlot, label, read]
  | .map entries, field, typed, f, fits => by
      obtain ⟨key, label, -, keys, held⟩ := typed
      obtain ⟨a, rfl, annotation, fitting⟩ := fits_map label fits
      have named : ∀ entry ∈ entries, ∃ s, entry.1 = .str s := by
        rintro ⟨key, content⟩ member
        have holds := keys _ member
        cases key with
        | str s => exact ⟨s, rfl⟩
        | _ => cases holds
      obtain ⟨items, accepted, read⟩ :=
        entries_modelled documented dict reads fit entries field a named held fitting
      refine ⟨.dict items, ?_, rfl, fun _ => ?_⟩
      · simp only [shownSlot, Slot.isAbsent, Bool.and_false, Bool.false_eq_true, ↓reduceIte,
          slotToPython, annotation]
        exact documented.dict a _ _ accepted
      · simp [Instance.dump, decodeSlot, label, read]

theorem contents_modelled (documented : pydantic.Documented classes) (dict : json.StructDict)
    (reads : Reads json pool readWellKnown) (fit : ClassesFit pool classOf classes) :
    ∀ (contents : List Content) (field : FieldDescriptor) (a : Annotation),
      contentsTyped pool field.type contents → field.type.fits classOf a = true → ∃ items,
        List.Forall₂ (fun v x => pydantic.validate a v = .ok x)
          (contentsToPython json pool field contents) items ∧
        decodeContents readWellKnown pool field.type (Instance.dumpItems items) = some contents
  | [], field, a, typed, fits =>
      ⟨[], by simp [contentsToPython], by simp [Instance.dumpItems, decodeContents]⟩
  | content :: rest, field, a, typed, fits => by
      obtain ⟨x, accepted, read, -⟩ :=
        content_modelled documented dict reads fit content field typed.1 a fits
      obtain ⟨items, later, more⟩ := contents_modelled documented dict reads fit rest field a typed.2 fits
      refine ⟨x :: items, ?_, by simp [Instance.dumpItems, decodeContents, read, more]⟩
      rw [contentsToPython]
      exact .cons accepted later

theorem entries_modelled (documented : pydantic.Documented classes) (dict : json.StructDict)
    (reads : Reads json pool readWellKnown) (fit : ClassesFit pool classOf classes) :
    ∀ (entries : List (Key × Content)) (field : FieldDescriptor) (a : Annotation),
      (∀ entry ∈ entries, ∃ s, entry.1 = .str s) → entriesTyped pool field.type entries →
      field.type.fits classOf a = true → ∃ items,
        List.Forall₂ (fun (e : Key × PyVal) (x : Key × Instance) => (∃ s, e.1 = .str s) ∧
          x.1 = e.1 ∧ pydantic.validate a e.2 = .ok x.2)
          (entriesToPython json pool field entries) items ∧
        decodeEntries readWellKnown pool field.type (Instance.dumpEntries items) = some entries
  | [], field, a, keys, typed, fits =>
      ⟨[], by simp [entriesToPython], by simp [Instance.dumpEntries, decodeEntries]⟩
  | (key, content) :: rest, field, a, keys, typed, fits => by
      obtain ⟨x, accepted, read, -⟩ :=
        content_modelled documented dict reads fit content field typed.1 a fits
      obtain ⟨items, later, more⟩ := entries_modelled documented dict reads fit rest field a
        (fun entry member => keys entry (List.mem_cons_of_mem _ member)) typed.2 fits
      refine ⟨(key, x) :: items, ?_, by simp [Instance.dumpEntries, decodeEntries, read, more]⟩
      rw [entriesToPython]
      exact .cons ⟨keys (key, content) List.mem_cons_self, rfl, accepted⟩ later

theorem content_modelled (documented : pydantic.Documented classes) (dict : json.StructDict)
    (reads : Reads json pool readWellKnown) (fit : ClassesFit pool classOf classes) :
    ∀ (content : Content) (field : FieldDescriptor), Content.Typed pool field.type content →
      ∀ a, field.type.fits classOf a = true →
        ∃ x, Modelled json pool readWellKnown pydantic field a content x
  | .scalar value, field, typed, a, fits => by
      obtain ⟨t, type, holds⟩ := typed
      exact ⟨_, modelled_scalar documented type holds fits⟩
  | .enum number, field, typed, a, fits => by
      obtain ⟨e, type, -⟩ := typed
      exact modelled_enum documented type number fits
  | .message (.wellKnown w), field, typed, a, fits => by
      obtain ⟨fullName, type, rfl, valid⟩ := typed
      exact modelled_wellKnown documented dict reads type valid fits
  | .message (.fields name slots), field, typed, a, fits => by
      obtain ⟨fullName, type, rfl, time, object, slotsTyped, oneofs⟩ := typed
      have whole : Message.Typed pool name (.fields name slots) :=
        ⟨rfl, time, object, slotsTyped, oneofs⟩
      have ordinary : name ≠ structName := by
        rintro rfl
        exact object (by decide)
      rw [type] at fits
      simp only [FieldType.fits, if_neg time, if_neg ordinary, if_neg object, Bool.or_eq_true,
        decide_eq_true_eq, Option.any_eq_true] at fits
      rcases fits with rfl | ⟨className, listed, rfl⟩
      · refine ⟨.dict ((fieldsToPython json pool (pool name).fields slots).map
          fun e => (e.1, .value e.2)), ?_, ?_, ?_⟩
        · rw [fieldValue, protobufToPython]
          exact accepts_any documented (fieldsToPython_keys _ _)
        · have read := decode_message reads name _ whole
          rw [protobufToPython] at read
          rw [type, Instance.dump, dump_entries_any]
          exact read
        · intro _
          simp [Instance.isNone, fieldValue, protobufToPython]
      · obtain ⟨fitting, fits⟩ := fit _ _ listed
        obtain ⟨attributes, accepted, read⟩ := message_of_slots documented fitting slotsTyped fits
          (slots_modelled documented dict reads fit slots _ slotsTyped)
        refine ⟨.model className attributes, accepted, ?_, ?_⟩
        · rw [type]
          exact read
        · intro _
          simp [Instance.isNone, fieldValue, protobufToPython]

end

end Models

end Nzovu
