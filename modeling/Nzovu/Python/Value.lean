import Mathlib.Data.Rat.Floor
import Mathlib.Algebra.Order.Field.Power
import Nzovu.Python.Exception

/-! # Python values -/

namespace Nzovu

/-- A `float`. Negative zero is kept apart because a message may hold it. -/
inductive Double
  | finite (q : ℚ)
  | negZero | posInf | negInf | nan
deriving DecidableEq

namespace Double

def value : Double → Option ℚ
  | .finite q => some q
  | .negZero => some 0
  | _ => none

def Exact (q : ℚ) : Prop :=
  ∃ m e : ℤ, |m| < 2 ^ 53 ∧ -1074 ≤ e ∧ e ≤ 971 ∧ q = m * (2 : ℚ) ^ e

end Double

/-- From halfway between the largest `float` and `2 ** 1024` on, no `int` is converted. -/
def OverflowsFloat (n : Int) : Prop := 2 ^ 1024 - 2 ^ 970 ≤ |n|

instance (n : Int) : Decidable (OverflowsFloat n) := inferInstanceAs (Decidable (_ ≤ _))

/-- A dictionary key. Whatever hashes and is not a `str`, `int` or `bool` is `other`. -/
inductive Key
  | str (s : Str)
  | int (n : Int)
  | bool (b : Bool)
  | other (id : Nat)
deriving DecidableEq

inductive PyVal
  | none
  | bool (b : Bool)
  | int (n : Int)
  | float (d : Double)
  | str (s : Str)
  | bytes (b : List UInt8)
  | list (items : List PyVal)
  | dict (entries : List (Key × PyVal))
  | other (id : Nat)

namespace PyVal

def get? (value : PyVal) (name : Str) : Option PyVal :=
  match value with
  | .dict entries => (entries.find? fun entry => entry.1 = .str name).map Prod.snd
  | _ => Option.none

def isDict : PyVal → Bool
  | .dict _ => true
  | _ => false

/-- The number in a value that is an `int` or a `float` but no `bool`, when it is finite. -/
def finite? : PyVal → Option ℚ
  | .int n => some n
  | .float d => d.value
  | _ => Option.none

end PyVal

end Nzovu
