import Nzovu.Python.Value

/-!
# Walking through a value

A recursive function that checks or writes a value visits its parts in the order of its text and stops
at the first one that it does not accept or that is nested too deeply.
-/

namespace Nzovu

def recursionError : Exc := ⟨.recursionError, text "maximum recursion depth exceeded"⟩

structure Visit where
  depth : Nat
  fault : Option Str

section
variable (fault : PyVal → Option Str) (keyFault : Key → Option Str)

mutual

/-- The parts of a value in order. Nothing within a value under a wrong key is visited. -/
def visits (depth : Nat) : PyVal → List Visit
  | .dict entries => ⟨depth, none⟩ :: visitEntries depth entries
  | .list items => ⟨depth, none⟩ :: visitItems depth items
  | value => [⟨depth, fault value⟩]

def visitEntries (depth : Nat) : List (Key × PyVal) → List Visit
  | [] => []
  | (key, item) :: rest =>
      ⟨depth, keyFault key⟩ :: (visits (depth + 1) item ++ visitEntries depth rest)

def visitItems (depth : Nat) : List PyVal → List Visit
  | [] => []
  | item :: rest => visits (depth + 1) item ++ visitItems depth rest

end

end

def Visit.ends (calls : Nat) (visit : Visit) : Bool := calls ≤ visit.depth || visit.fault.isSome

def scan (calls : Nat) (path : List Visit) : Except Exc Unit :=
  match path.find? (·.ends calls) with
  | none => .ok ()
  | some visit =>
      if calls ≤ visit.depth then .error recursionError
      else .error (valueError (visit.fault.getD []))

def RunsOut (calls : Nat) (path : List Visit) : Prop :=
  ∃ visit, path.find? (·.ends calls) = some visit ∧ calls ≤ visit.depth

def Passes (calls : Nat) (path : List Visit) : Prop := path.find? (·.ends calls) = none

theorem scan_cons (calls : Nat) (visit : Visit) (path : List Visit) (inside : visit.depth < calls) :
    scan calls (visit :: path) =
      match visit.fault with
      | some message => .error (valueError message)
      | none => scan calls path := by
  have below : ¬ calls ≤ visit.depth := by omega
  cases fault : visit.fault with
  | none => simp [scan, Visit.ends, below, fault]
  | some message => simp [scan, Visit.ends, below, fault]

theorem scan_append (calls : Nat) (path more : List Visit) :
    scan calls (path ++ more) = scan calls path >>= fun _ => scan calls more := by
  rw [scan, scan, List.find?_append]
  cases found : path.find? (·.ends calls) with
  | none => rfl
  | some visit =>
      by_cases deep : calls ≤ visit.depth <;> simp [deep, bind, Except.bind]

theorem scan_deep (calls : Nat) (visit : Visit) (path : List Visit) (deep : calls ≤ visit.depth) :
    scan calls (visit :: path) = .error recursionError := by
  simp [scan, Visit.ends, deep]

theorem visits_head (fault : PyVal → Option Str) (keyFault : Key → Option Str) (depth : Nat)
    (value : PyVal) : ∃ rest, visits fault keyFault depth value = ⟨depth,
      match value with
      | .dict _ | .list _ => none
      | value => fault value⟩ :: rest := by
  cases value <;> exact ⟨_, rfl⟩

theorem scan_leaf (calls : Nat) (visit : Visit) (inside : visit.depth < calls) :
    scan calls [visit] =
      match visit.fault with
      | some message => .error (valueError message)
      | none => .ok () := scan_cons calls visit [] inside

end Nzovu
