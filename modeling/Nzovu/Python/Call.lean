import Nzovu.Library.Dict
import Nzovu.Python.Text

/-!
# Calls

How the arguments of a call are bound to the parameters of a function. A call that does not fit the
signature raises a `TypeError`.
-/

namespace Nzovu

structure Parameter (ν : Type*) where
  name : Str
  keywordOnly : Bool := false
  default : Option ν := none

abbrev Signature (ν : Type*) := List (Parameter ν)

variable {ν : Type*}

def bindParameters : Signature ν → List ν → Dict Str ν → Option (List (Str × ν))
  | [], [], _ => some []
  | [], _ :: _, _ => none
  | p :: rest, args, kwargs =>
      match p.keywordOnly, args with
      | false, arg :: args =>
          if (kwargs.get? p.name).isSome then none
          else (bindParameters rest args kwargs).map ((p.name, arg) :: ·)
      | _, args =>
          match kwargs.get? p.name <|> p.default with
          | none => none
          | some value => (bindParameters rest args kwargs).map ((p.name, value) :: ·)

def bindCall (signature : Signature ν) (args : List ν) (kwargs : Dict Str ν) :
    Option (List (Str × ν)) :=
  if kwargs.keys.all fun k => signature.any (·.name = k) then bindParameters signature args kwargs
  else none

theorem bindParameters_positional {p : Parameter ν} (positional : p.keywordOnly = false)
    (rest : Signature ν) (arg : ν) (args : List ν) (kwargs : Dict Str ν) :
    bindParameters (p :: rest) (arg :: args) kwargs =
      if (kwargs.get? p.name).isSome then none
      else (bindParameters rest args kwargs).map ((p.name, arg) :: ·) := by
  rw [bindParameters]
  exact positional

theorem bindParameters_named {p : Parameter ν} {args : List ν}
    (named : p.keywordOnly = true ∨ args = []) (rest : Signature ν) (kwargs : Dict Str ν) :
    bindParameters (p :: rest) args kwargs =
      match kwargs.get? p.name <|> p.default with
      | none => none
      | some value => (bindParameters rest args kwargs).map ((p.name, value) :: ·) := by
  rcases named with keyword | rfl
  · rw [bindParameters]
    simp [keyword]
  · rw [bindParameters]
    simp

theorem bindParameters_set {signature : Signature ν} {args : List ν} {kwargs : Dict Str ν}
    {bound : List (Str × ν)} {k : Str} (v : ν)
    (keyword : ∀ p ∈ signature, p.name = k → p.keywordOnly = true)
    (valid : bindParameters signature args kwargs = some bound) :
    bindParameters signature args (kwargs.set k v) =
      some (bound.map fun entry => if entry.1 = k then (entry.1, v) else entry) := by
  induction signature generalizing args bound with
  | nil =>
      cases args with
      | nil =>
          cases valid
          rfl
      | cons arg args => cases valid
  | cons p rest ih =>
      obtain ⟨first, others⟩ := List.forall_mem_cons.1 keyword
      by_cases named : p.keywordOnly = true ∨ args = []
      · rw [bindParameters_named named] at valid ⊢
        rw [Dict.get?_set]
        split at valid
        · cases valid
        · rename_i value given
          obtain ⟨later, found, rfl⟩ := Option.map_eq_some_iff.1 valid
          rw [ih others found]
          by_cases here : p.name = k
          · simp [here]
          · simp [here, given]
      · obtain ⟨positional, given⟩ := not_or.1 named
        have other : p.name ≠ k := fun same => positional (first same)
        obtain ⟨arg, args, rfl⟩ := List.exists_cons_of_ne_nil given
        rw [bindParameters_positional (Bool.not_eq_true _ ▸ positional)] at valid ⊢
        rw [Dict.get?_set, if_neg other]
        split at valid
        · cases valid
        · rename_i free
          obtain ⟨later, found, rfl⟩ := Option.map_eq_some_iff.1 valid
          rw [if_neg free, ih others found]
          simp [other]

theorem bindCall_set {signature : Signature ν} {args : List ν} {kwargs : Dict Str ν}
    {bound : List (Str × ν)} {k : Str} (v : ν) (listed : signature.any (·.name = k) = true)
    (keyword : ∀ p ∈ signature, p.name = k → p.keywordOnly = true)
    (valid : bindCall signature args kwargs = some bound) :
    bindCall signature args (kwargs.set k v) =
      some (bound.map fun entry => if entry.1 = k then (entry.1, v) else entry) := by
  rw [bindCall] at valid ⊢
  split at valid
  · rename_i known
    rw [List.all_eq_true] at known
    rw [if_pos, bindParameters_set v keyword valid]
    rw [List.all_eq_true]
    intro name member
    rcases Dict.mem_keys_set.1 member with rfl | earlier
    · exact listed
    · exact known name earlier
  · cases valid

end Nzovu
