import Mathlib.Data.List.Basic

/-!
# Python text

A `str` is a list of code points. Unlike a Lean `String` it may hold unpaired surrogates, which no
UTF-8 encoder accepts.
-/

namespace Nzovu

abbrev Str := List Nat

instance : LawfulBEq Str := List.instLawfulBEq

def text (literal : String) : Str := literal.toList.map Char.toNat

theorem text_append (first second : String) : text (first ++ second) = text first ++ text second := by
  simp [text]

def isSpace (c : Nat) : Bool :=
  (0x9 ≤ c && c ≤ 0xd) || (0x1c ≤ c && c ≤ 0x20) || c == 0x85 || c == 0xa0 || c == 0x1680 ||
    (0x2000 ≤ c && c ≤ 0x200a) || c == 0x2028 || c == 0x2029 || c == 0x202f || c == 0x205f ||
    c == 0x3000

/-- `not value.strip()`. -/
def Str.blank (s : Str) : Bool := s.all isSpace

def isSurrogate (c : Nat) : Bool := 0xd800 ≤ c && c ≤ 0xdfff

/-- A text that UTF-8 can encode, so that a protobuf string field can store it. -/
def Str.encodable (s : Str) : Bool := !s.any isSurrogate

def decimal (n : Int) : Str := text (toString n)

/-! ## Digits -/

/-- The digits that `\d` takes in a `str`: those of the Unicode version of the interpreter, by the
zeros of their scripts. -/
structure Unicode where
  zeros : List Nat
  ascii : 0x30 ∈ zeros
  foreign : ∀ z ∈ zeros, z ≠ 0x30 → 0x80 ≤ z

def decimalDigit (unicode : Unicode) (c : Nat) : Option Nat :=
  (unicode.zeros.find? fun z => z ≤ c && c < z + 10).map (c - ·)

/-- The digits of Python 3.12. -/
def unicode15 : Unicode where
  zeros :=
    [0x30, 0x660, 0x6f0, 0x7c0, 0x966, 0x9e6, 0xa66, 0xae6, 0xb66, 0xbe6, 0xc66, 0xce6, 0xd66,
      0xde6, 0xe50, 0xed0, 0xf20, 0x1040, 0x1090, 0x17e0, 0x1810, 0x1946, 0x19d0, 0x1a80, 0x1a90,
      0x1b50, 0x1bb0, 0x1c40, 0x1c50, 0xa620, 0xa8d0, 0xa900, 0xa9d0, 0xa9f0, 0xaa50, 0xabf0,
      0xff10, 0x104a0, 0x10d30, 0x11066, 0x110f0, 0x11136, 0x111d0, 0x112f0, 0x11450, 0x114d0,
      0x11650, 0x116c0, 0x11730, 0x118e0, 0x11950, 0x11c50, 0x11d50, 0x11da0, 0x11f50, 0x16a60,
      0x16ac0, 0x16b50, 0x1d7ce, 0x1d7d8, 0x1d7e2, 0x1d7ec, 0x1d7f6, 0x1e140, 0x1e2f0, 0x1e4f0,
      0x1e950, 0x1fbf0]
  ascii := by decide
  foreign := by decide

theorem decimalDigit_lt {unicode : Unicode} {c d : Nat}
    (digit : decimalDigit unicode c = some d) : d < 10 := by
  obtain ⟨first, found, rfl⟩ := Option.map_eq_some_iff.1 digit
  have := List.find?_some found
  simp only [Bool.and_eq_true, decide_eq_true_eq] at this
  omega

theorem decimalDigit_ascii (unicode : Unicode) {d : Nat} (small : d < 10) :
    decimalDigit unicode (0x30 + d) = some d := by
  have own : (unicode.zeros.find? fun z => z ≤ 0x30 + d && 0x30 + d < z + 10) = some 0x30 := by
    cases found : unicode.zeros.find? fun z => z ≤ 0x30 + d && 0x30 + d < z + 10 with
    | none =>
        have never := List.find?_eq_none.1 found 0x30 unicode.ascii
        simp only [Bool.and_eq_true, decide_eq_true_eq, not_and] at never
        omega
    | some z =>
        have holds := List.find?_some found
        simp only [Bool.and_eq_true, decide_eq_true_eq] at holds
        by_contra other
        have beyond := unicode.foreign z (List.mem_of_find?_eq_some found)
          fun same => other (same ▸ rfl)
        omega
  rw [decimalDigit, own, Option.map_some, Nat.add_sub_cancel_left]

theorem decimalDigit_none (unicode : Unicode) {c : Nat} (low : c < 0x80)
    (outside : c < 0x30 ∨ 0x39 < c) : decimalDigit unicode c = none := by
  rw [decimalDigit, Option.map_eq_none_iff, List.find?_eq_none]
  intro z member
  have beyond := unicode.foreign z member
  simp only [Bool.and_eq_true, decide_eq_true_eq, not_and]
  omega

end Nzovu
