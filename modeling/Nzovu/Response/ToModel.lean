import Nzovu.Response.Models

/-!
# `to_model`

Every response of the service becomes its model, and nothing of it is lost on the way.
-/

namespace Nzovu
open Proto

namespace Models

theorem find_key {α : Type*} {key : α → Str} {xs : List α} (distinct : (xs.map key).Nodup) {a : α}
    (member : a ∈ xs) : (xs.find? fun b => key b = key a) = some a := by
  induction xs with
  | nil => cases member
  | cons first rest ih =>
      rw [List.map_cons, List.nodup_cons] at distinct
      rcases List.mem_cons.1 member with rfl | later
      · simp
      · have different : key first ≠ key a := fun same =>
          distinct.1 (same ▸ List.mem_map_of_mem later)
        rw [List.find?_cons_of_neg (by simpa using different)]
        exact ih distinct.2 later

def classOf (fullName : Str) : Option Str :=
  (entries.find? fun entry => entry.fullName = fullName).map Entry.className

def classes (className : Str) : ModelClass :=
  ((entries.find? fun entry => entry.className = className).map Entry.model).getD
    ⟨[], List.nodup_nil⟩

def pool (others : Pool) (fullName : Str) : MessageDescriptor :=
  ((entries.find? fun entry => entry.fullName = fullName).map Entry.descriptor).getD
    (others fullName)

def Entry.sound (entry : Entry) : Bool :=
  decide (¬(entry.fullName ∈ timeNames ∨ entry.fullName ∈ jsonNames)) &&
    entry.descriptor.fits classOf entry.model

theorem entries_sound : entries.all Entry.sound = true := by decide +kernel

theorem classNames_distinct : (entries.map Entry.className).Nodup := by decide +kernel

theorem fullNames_distinct : (entries.map Entry.fullName).Nodup := by decide +kernel

section Lookup
variable {entry : Entry} (listed : entry ∈ entries)
include listed

theorem classOf_listed : classOf entry.fullName = some entry.className := by
  rw [classOf, find_key fullNames_distinct listed]
  rfl

theorem pool_listed (others : Pool) : pool others entry.fullName = entry.descriptor := by
  rw [pool, find_key fullNames_distinct listed]
  rfl

theorem classes_listed : classes entry.className = entry.model := by
  rw [classes, find_key classNames_distinct listed]
  rfl

end Lookup

theorem classesFit (others : Pool) : ClassesFit (pool others) classOf classes := by
  intro fullName className known
  obtain ⟨entry, found, rfl⟩ := Option.map_eq_some_iff.1 known
  have listed := List.mem_of_find?_eq_some found
  obtain rfl : entry.fullName = fullName := by simpa using List.find?_some found
  have sound := List.all_eq_true.1 entries_sound entry listed
  rw [Entry.sound, Bool.and_eq_true, decide_eq_true_eq] at sound
  rw [classes_listed listed, pool_listed listed]
  exact sound

end Models

def Proto.Message.fullName : Message → Str
  | .fields fullName _ => fullName
  | .wellKnown value => value.fullName

/-- `type(message).__name__`. -/
def Proto.Message.typeName (message : Message) : Str :=
  (message.fullName.reverse.takeWhile (· ≠ 0x2e)).reverse

namespace ResponseWrapper
open Models

def availableTypes : Str :=
  (text ", ").intercalate ((modelMap.map Entry.className).mergeSort fun a b => decide (a ≤ b))

section ToModel
variable (pydantic : Pydantic) (json : JsonFormat) (pool : Pool)

def fromProto (className : Str) (message : Message) : Except Exc Instance :=
  pydantic.modelValidate className (protobufToPython json pool message)

def toModel (modelClass : Option Str) (response : Message) : Except Exc Instance :=
  match modelClass with
  | some className => fromProto pydantic json pool className response
  | none =>
      match modelMap.find? fun entry => entry.className = response.typeName with
      | some entry => fromProto pydantic json pool entry.className response
      | none => .error (valueError (
          text "No Pydantic model registered for response type '" ++ response.typeName ++
          text "'.\nAvailable types: " ++ availableTypes ++
          text "\nYou can either:\n  1. Use .to_dict() for dictionary output\n" ++
          text "  2. Specify model_class explicitly: .to_model(YourModel)\n" ++
          text "  3. Request this model type to be added to nzovu"))

end ToModel

theorem modelMap_listed : ∀ entry ∈ modelMap, entry ∈ entries := by
  simp [modelMap, entries]

theorem modelMap_distinct : (modelMap.map Entry.className).Nodup := by decide +kernel

theorem modelMap_names : modelMap.all (fun entry =>
    decide ((Message.fields entry.fullName []).typeName = entry.className)) = true := by
  decide +kernel

section Registered
variable {entry : Entry} (registered : entry ∈ modelMap) {others : Pool} {response : Message}
  (typed : response.Typed (Models.pool others) entry.fullName)
include registered typed

theorem toModel_registered (pydantic : Pydantic) (json : JsonFormat) (pool : Pool) :
    toModel pydantic json pool none response =
      fromProto pydantic json pool entry.className response := by
  have named := List.all_eq_true.1 modelMap_names entry registered
  rw [decide_eq_true_eq] at named
  have own : response.typeName = entry.className := by
    rw [← named]
    cases response with
    | fields fullName slots =>
        obtain ⟨rfl, -⟩ := typed
        rfl
    | wellKnown value =>
        obtain ⟨same, -⟩ := typed
        simp [Message.typeName, Message.fullName, same]
  rw [toModel, own, find_key modelMap_distinct registered]

theorem fromProto_reads {json : JsonFormat} (injective : json.Injective) (dict : json.StructDict)
    {pydantic : Pydantic} (documented : pydantic.Documented classes) :
    ∃ attributes,
      fromProto pydantic json (Models.pool others) entry.className response =
        .ok (.model entry.className attributes) ∧
      decode json (Models.pool others) entry.fullName
        (Instance.model entry.className attributes).dump = some response := by
  obtain ⟨attributes, accepted, read⟩ := message_modelled documented dict
    (wellKnownOf_reads injective (Models.pool others)) (classesFit others) response entry.fullName
    entry.className typed (classOf_listed (modelMap_listed entry registered))
  exact ⟨attributes, accepted, by rw [decode, read]⟩

end Registered

/-- `to_model` of a response returns a model of its class, from whose attributes the whole response
can be read again. -/
theorem toModel_lossless (json : JsonFormat) (injective : json.Injective) (dict : json.StructDict)
    (pydantic : Pydantic) (documented : pydantic.Documented classes) (others : Pool) (entry : Entry)
    (registered : entry ∈ modelMap) (response : Message)
    (typed : response.Typed (Models.pool others) entry.fullName) :
    ∃ attributes,
      toModel pydantic json (Models.pool others) none response =
        .ok (.model entry.className attributes) ∧
      decode json (Models.pool others) entry.fullName
        (Instance.model entry.className attributes).dump = some response := by
  rw [toModel_registered registered typed]
  exact fromProto_reads registered typed injective dict documented

theorem jsonFieldsToPython_keys (fields : List (Str × JsonValue)) :
    ∀ entry ∈ jsonFieldsToPython fields, ∃ s, entry.1 = .str s := by
  induction fields with
  | nil => simp [jsonFieldsToPython]
  | cons field rest ih =>
      intro entry member
      rw [jsonFieldsToPython] at member
      rcases List.mem_cons.1 member with rfl | later
      · exact ⟨field.1, rfl⟩
      · exact ih entry later

theorem sampleFormat_structDict : sampleFormat.StructDict := fun fields _ =>
  ⟨jsonFieldsToPython fields, by simp [sampleFormat, JsonValue.toPython],
    jsonFieldsToPython_keys fields⟩

def sampleResponse : Message :=
  .fields postMessagesBulkResponse.fullName
    [.single (.scalar (.bool false)), .single (.scalar (.int 0)), .single (.scalar (.int 1)),
      .repeated [.message (.fields messagePostResult.fullName
        [.single (.scalar (.str (text "m"))), .single (.scalar (.bool false)),
          .single (.scalar (.str (text "full"))), .single (.enum 9)])]]

theorem sampleResponse_typed (others : Pool) :
    sampleResponse.Typed (Models.pool others) postMessagesBulkResponse.fullName := by
  have outer := pool_listed (show postMessagesBulkResponse ∈ entries by simp [entries]) others
  have inner := pool_listed (show messagePostResult ∈ entries by simp [entries]) others
  have result : Message.Typed (Models.pool others) messagePostResult.fullName
      (.fields messagePostResult.fullName
        [.single (.scalar (.str (text "m"))), .single (.scalar (.bool false)),
          .single (.scalar (.str (text "full"))), .single (.enum 9)]) := by
    refine ⟨rfl, by decide +kernel, by decide +kernel, ?_, ?_⟩
    · rw [inner]
      have id : Str.encodable (text "m") = true := by decide +kernel
      have error : Str.encodable (text "full") = true := by decide +kernel
      exact ⟨⟨⟨_, rfl⟩, _, rfl, id⟩, ⟨⟨_, rfl⟩, _, rfl, trivial⟩, ⟨⟨_, rfl⟩, _, rfl, error⟩,
        ⟨⟨_, rfl⟩, _, rfl, by decide, by decide⟩, trivial⟩
    · rw [inner]
      exact oneofsHold_of_none _ rfl
  refine ⟨rfl, by decide +kernel, by decide +kernel, ?_, ?_⟩
  · rw [outer]
    exact ⟨⟨⟨_, rfl⟩, _, rfl, trivial⟩, ⟨⟨_, rfl⟩, _, rfl, by decide, by decide⟩,
      ⟨⟨_, rfl⟩, _, rfl, by decide, by decide⟩, ⟨rfl, ⟨_, rfl, result⟩, trivial⟩, trivial⟩
  · rw [outer]
    exact oneofsHold_of_none _ rfl

theorem toModel_lossless_sample :
    ∃ attributes,
      toModel (strictValidator classes) sampleFormat (Models.pool samplePool) none sampleResponse =
        .ok (.model (text "PostMessagesBulkResponse") attributes) ∧
      decode sampleFormat (Models.pool samplePool) postMessagesBulkResponse.fullName
        (Instance.model (text "PostMessagesBulkResponse") attributes).dump = some sampleResponse :=
  toModel_lossless sampleFormat sampleFormat_injective sampleFormat_structDict
    (strictValidator classes) (strictValidator_documented classes) samplePool
    postMessagesBulkResponse (by simp [modelMap]) sampleResponse (sampleResponse_typed samplePool)

end ResponseWrapper

end Nzovu
