import Nzovu.Request.Schedule

/-!
# Constructing messages

A request is made by the constructor of its type, which sets one field after another. What it makes
is a message of the type when every value that it accepts is one of its field.
-/

namespace Nzovu
open Proto

structure MessageType where
  fullName : Str
  descriptor : MessageDescriptor

def setFields : List (Except Exc Slot) → Except Exc (List Slot)
  | [] => .ok []
  | value :: rest => do
      let slot ← value
      let slots ← setFields rest
      return slot :: slots

def construct (type : MessageType) (values : List (Except Exc Slot)) : Except Exc Message := do
  return .fields type.fullName (← setFields values)

def boolSlot (b : Bool) : Except Exc Slot := .ok (.single (.scalar (.bool b)))

def optionalTextSlot : Option Str → Except Exc Slot
  | none => .ok .absent
  | some s => textSlot s

def textsSlot (values : List Str) : Except Exc Slot :=
  if values.all Str.encodable then .ok (.repeated (values.map fun s => .scalar (.str s)))
  else .error (valueError (text "surrogates not allowed"))

def textMapSlot (entries : List (Str × Str)) : Except Exc Slot :=
  if entries.all fun entry => entry.1.encodable && entry.2.encodable then
    .ok (.map (entries.map fun entry => (.str entry.1, .scalar (.str entry.2))))
  else .error (valueError (text "surrogates not allowed"))

theorem setFields_nil {slots : List Slot} : setFields [] = .ok slots ↔ slots = [] := by
  rw [setFields, Except.ok.injEq, eq_comm]

theorem setFields_cons {value : Except Exc Slot} {rest : List (Except Exc Slot)}
    {slots : List Slot} :
    setFields (value :: rest) = .ok slots ↔
      ∃ slot, value = .ok slot ∧ ∃ others, setFields rest = .ok others ∧ slots = slot :: others := by
  rw [setFields, bind_eq_ok]
  constructor
  · intro built
    obtain ⟨slot, set_, later⟩ := built
    obtain ⟨others, rest_, same⟩ := bind_eq_ok.1 later
    cases same
    exact ⟨slot, set_, others, rest_, rfl⟩
  · intro built
    obtain ⟨slot, set_, others, rest_, rfl⟩ := built
    exact ⟨slot, set_, bind_eq_ok.2 ⟨others, rest_, rfl⟩⟩

/-! ## Constructors make messages of their type -/

section Typed
variable (pool : Pool)

def Sets (value : Except Exc Slot) (field : FieldDescriptor) : Prop :=
  ∀ slot, value = .ok slot → Slot.Typed pool field slot

def SetsAll : List (Except Exc Slot) → List FieldDescriptor → Prop
  | [], [] => True
  | value :: values, field :: fields => Sets pool value field ∧ SetsAll values fields
  | _, _ => False

variable {pool}

theorem setFields_typed {values : List (Except Exc Slot)} {fields : List FieldDescriptor}
    {slots : List Slot} (sets : SetsAll pool values fields) (built : setFields values = .ok slots) :
    slotsTyped pool fields slots := by
  induction values generalizing fields slots with
  | nil =>
      cases fields with
      | nil =>
          cases built
          trivial
      | cons field fields => exact sets.elim
  | cons value values ih =>
      cases fields with
      | nil => exact sets.elim
      | cons field fields =>
          obtain ⟨slot, set_, later⟩ := bind_eq_ok.1 built
          obtain ⟨others, rest, same⟩ := bind_eq_ok.1 later
          cases same
          exact ⟨sets.1 slot set_, ih sets.2 rest⟩

theorem oneofsHold_of_none {fields : List FieldDescriptor} (slots : List Slot)
    (none : fields.all (fun field => field.oneof.isNone) = true) : OneofsHold fields slots := by
  intro i j f g s t first _ member
  have absent := List.all_eq_true.1 none f (List.mem_of_getElem? first)
  exact (member (Option.isNone_iff_eq_none.1 absent)).elim

theorem fields_typed {fullName : Str} {fields : List FieldDescriptor} {slots : List Slot}
    (listed : (pool fullName).fields = fields)
    (ordinary : fullName ∉ timeNames ∧ fullName ∉ jsonNames)
    (none : fields.all (fun field => field.oneof.isNone) = true)
    (typed : slotsTyped pool fields slots) : Message.Typed pool fullName (.fields fullName slots) := by
  subst listed
  exact ⟨rfl, ordinary.1, ordinary.2, typed, oneofsHold_of_none slots none⟩

/-! ## Values that fields accept -/

theorem sets_ok {slot : Slot} {field : FieldDescriptor} (typed : Slot.Typed pool field slot) :
    Sets pool (.ok slot) field := by
  intro slot' same
  cases same
  exact typed

theorem sets_error {e : Exc} {field : FieldDescriptor} : Sets pool (.error e) field := by
  intro slot same
  cases same

theorem sets_ite {c : Prop} [Decidable c] {slot : Slot} {e : Exc} {field : FieldDescriptor}
    (typed : c → Slot.Typed pool field slot) :
    Sets pool (if c then .ok slot else .error e) field := by
  split
  · rename_i passes
    exact sets_ok (typed passes)
  · exact sets_error

theorem textSlot_sets (name : String) (s : Str) :
    Sets pool (textSlot s) (plain name (.scalar .string)) :=
  sets_ite fun encodable => ⟨⟨_, rfl⟩, _, rfl, encodable⟩

theorem optionalTextSlot_sets (name : String) (s : Option Str) :
    Sets pool (optionalTextSlot s) (optional name (.scalar .string)) := by
  cases s with
  | none => exact sets_ok rfl
  | some s => exact sets_ite fun encodable => ⟨⟨_, rfl⟩, _, rfl, encodable⟩

theorem boolSlot_sets (name : String) (b : Bool) :
    Sets pool (boolSlot b) (plain name (.scalar .bool)) :=
  sets_ok ⟨⟨_, rfl⟩, _, rfl, trivial⟩

theorem int32Slot_sets (name : String) (n : Int) :
    Sets pool (int32Slot n) (plain name (.scalar .int32)) :=
  sets_ite fun range => ⟨⟨_, rfl⟩, _, rfl, range⟩

theorem int64Slot_sets (name : String) (n : Int) :
    Sets pool (int64Slot n) (plain name (.scalar .int64)) :=
  sets_ite fun range => ⟨⟨_, rfl⟩, _, rfl, range⟩

theorem messageSlot_sets (name : String) {fullName : Str} {m : Message}
    (typed : m.Typed pool fullName) :
    Sets pool (.ok (messageSlot m)) (optional name (.message fullName)) :=
  sets_ok ⟨⟨_, rfl⟩, _, rfl, typed⟩

theorem number?_range {e : EnumDescriptor}
    (ranges : ∀ value ∈ e.values, -2 ^ 31 ≤ value.2 ∧ value.2 < 2 ^ 31) {name : Str} {n : Int}
    (known : e.number? name = some n) : -2 ^ 31 ≤ n ∧ n < 2 ^ 31 := by
  obtain ⟨value, found, rfl⟩ := Option.map_eq_some_iff.1 known
  exact ranges value (List.mem_of_find?_eq_some found)

theorem enumSlot_sets (name : String) {e : EnumDescriptor}
    (ranges : ∀ value ∈ e.values, -2 ^ 31 ≤ value.2 ∧ value.2 < 2 ^ 31) (state : StateOption) :
    Sets pool (enumSlot e state) (plain name (.enum e)) := by
  have named : ∀ label, Sets pool (enumSlot.ofName e label) (plain name (.enum e)) := by
    intro label
    rw [enumSlot.ofName]
    split
    · rename_i n known
      exact sets_ok ⟨⟨_, rfl⟩, _, rfl, number?_range ranges known⟩
    · exact sets_error
  cases state with
  | member state => exact named state.name
  | name label => exact named label
  | number n => exact sets_ite fun range => ⟨⟨_, rfl⟩, _, rfl, range⟩

theorem contentsTyped_texts {values : List Str} (encodable : values.all Str.encodable = true) :
    contentsTyped pool (.scalar .string) (values.map fun s => .scalar (.str s)) := by
  induction values with
  | nil => trivial
  | cons s rest ih =>
      rw [List.all_cons, Bool.and_eq_true] at encodable
      exact ⟨⟨_, rfl, encodable.1⟩, ih encodable.2⟩

theorem textsSlot_sets (name : String) (values : List Str) :
    Sets pool (textsSlot values) ⟨text name, .repeated, .scalar .string, none⟩ :=
  sets_ite fun encodable => ⟨rfl, contentsTyped_texts encodable⟩

theorem entriesTyped_texts {entries : List (Str × Str)}
    (encodable : entries.all (fun entry => entry.1.encodable && entry.2.encodable) = true) :
    entriesTyped pool (.scalar .string)
      (entries.map fun entry => (.str entry.1, .scalar (.str entry.2))) := by
  induction entries with
  | nil => trivial
  | cons entry rest ih =>
      rw [List.all_cons, Bool.and_eq_true, Bool.and_eq_true] at encodable
      exact ⟨⟨_, rfl, encodable.1.2⟩, ih encodable.2⟩

theorem textMapSlot_sets (name : String) {entries : List (Str × Str)}
    (distinct : (entries.map Prod.fst).Nodup) :
    Sets pool (textMapSlot entries) ⟨text name, .map .string, .scalar .string, none⟩ := by
  apply sets_ite
  intro encodable
  refine ⟨.string, rfl, ?_, ?_, entriesTyped_texts encodable⟩
  · have keys := distinct.map (f := Key.str) fun a b same => by injection same
    rw [List.map_map] at keys ⊢
    exact keys
  · intro entry member
    obtain ⟨given, place, rfl⟩ := List.mem_map.1 member
    have both := List.all_eq_true.1 encodable given place
    rw [Bool.and_eq_true] at both
    exact both.1

end Typed

end Nzovu
