import Mathlib.Data.Nat.Digits.Lemmas
import Mathlib.Algebra.Order.Field.Basic
import Mathlib.Algebra.Order.Field.Power
import Mathlib.Data.Rat.Cast.Defs
import Mathlib.Tactic.Ring
import Mathlib.Tactic.FieldSimp

/-!
# Decimal digits and decimal floating point

A decimal number is a coefficient with a power of ten. A product is rounded, half to even, to the
digits that the context allows. It is exact when the digits beyond these are zeros, and it overflows
when its first digit is beyond the largest exponent.
-/

/-! ## Digits, the first one most significant -/

namespace Digits

def value (digits : List Nat) : Nat := digits.foldl (fun v d => 10 * v + d) 0

@[simp]
theorem value_nil : value [] = 0 := rfl

@[simp]
theorem value_append_singleton (digits : List Nat) (d : Nat) :
    value (digits ++ [d]) = 10 * value digits + d := by
  simp [value]

theorem value_append (digits more : List Nat) :
    value (digits ++ more) = value digits * 10 ^ more.length + value more := by
  induction more using List.reverseRecOn with
  | nil => simp
  | append_singleton more d ih =>
      rw [← List.append_assoc, value_append_singleton, value_append_singleton, ih,
        List.length_append, List.length_singleton, pow_succ]
      ring

theorem value_lt {digits : List Nat} (small : ∀ d ∈ digits, d < 10) :
    value digits < 10 ^ digits.length := by
  induction digits using List.reverseRecOn with
  | nil => simp
  | append_singleton digits d ih =>
      have last : d < 10 := small d (by simp)
      have first := ih fun e member => small e (List.mem_append_left _ member)
      rw [value_append_singleton, List.length_append, List.length_singleton, pow_succ]
      omega

def ofNat (n : Nat) : List Nat := if n = 0 then [0] else (Nat.digits 10 n).reverse

def fixed : Nat → Nat → List Nat
  | 0, _ => []
  | width + 1, n => fixed width (n / 10) ++ [n % 10]

theorem value_ofNat (n : Nat) : value (ofNat n) = n := by
  by_cases zero : n = 0
  · subst zero
    rfl
  · rw [ofNat, if_neg zero, value, List.foldl_reverse]
    have := Nat.ofDigits_eq_foldr 10 (Nat.digits 10 n)
    rw [Nat.ofDigits_digits] at this
    refine (congrFun (congrFun (congrArg List.foldr ?_) 0) _).trans this.symm
    funext d v
    exact Nat.add_comm _ _

theorem ofNat_ne_nil (n : Nat) : ofNat n ≠ [] := by
  by_cases zero : n = 0
  · simp [ofNat, zero]
  · simp [ofNat, zero, Nat.digits_ne_nil_iff_ne_zero]

theorem ofNat_lt (n : Nat) : ∀ d ∈ ofNat n, d < 10 := by
  intro d member
  by_cases zero : n = 0
  · simp only [ofNat, zero, ↓reduceIte, List.mem_singleton] at member
    omega
  · rw [ofNat, if_neg zero, List.mem_reverse] at member
    exact Nat.digits_lt_base (by decide) member

@[simp]
theorem length_fixed (width n : Nat) : (fixed width n).length = width := by
  induction width generalizing n with
  | zero => rfl
  | succ width ih => simp [fixed, ih]

theorem fixed_lt (width n : Nat) : ∀ d ∈ fixed width n, d < 10 := by
  induction width generalizing n with
  | zero => simp [fixed]
  | succ width ih =>
      intro d member
      rcases List.mem_append.1 member with first | last
      · exact ih _ d first
      · rw [List.mem_singleton] at last
        omega

theorem value_fixed {width n : Nat} (fits : n < 10 ^ width) : value (fixed width n) = n := by
  induction width generalizing n with
  | zero =>
      have : n = 0 := by simpa using fits
      simp [fixed, this]
  | succ width ih =>
      have shorter : n / 10 < 10 ^ width := by
        rw [pow_succ] at fits
        omega
      rw [fixed, value_append_singleton, ih shorter]
      omega

end Digits

/-! ## Arithmetic -/

structure Decimal where
  coefficient : Nat
  exponent : Int
deriving DecidableEq, Repr

namespace Decimal

def value (d : Decimal) : ℚ := d.coefficient * (10 : ℚ) ^ d.exponent

def ofNat (n : Nat) : Decimal := ⟨n, 0⟩

def divideHalfEven (n m : Nat) : Nat :=
  if m < 2 * (n % m) ∨ (2 * (n % m) = m ∧ n / m % 2 = 1) then n / m + 1 else n / m

def round (precision : Nat) (d : Decimal) : Decimal :=
  let excess := (Nat.digits 10 d.coefficient).length - precision
  let coefficient := divideHalfEven d.coefficient (10 ^ excess)
  if coefficient = 10 ^ precision then ⟨10 ^ (precision - 1), d.exponent + excess + 1⟩
  else ⟨coefficient, d.exponent + excess⟩

def mul (precision : Nat) (a b : Decimal) : Decimal :=
  round precision ⟨a.coefficient * b.coefficient, a.exponent + b.exponent⟩

def isIntegral (d : Decimal) : Bool :=
  0 ≤ d.exponent || d.coefficient % 10 ^ (-d.exponent).toNat = 0

def toNat (d : Decimal) : Nat :=
  if 0 ≤ d.exponent then d.coefficient * 10 ^ d.exponent.toNat
  else d.coefficient / 10 ^ (-d.exponent).toNat

def adjusted (d : Decimal) : Int := (Nat.digits 10 d.coefficient).length - 1 + d.exponent

def overflows (emax : Nat) (d : Decimal) : Bool := d.coefficient ≠ 0 && emax < d.adjusted

theorem divideHalfEven_of_dvd {n m : Nat} (positive : 0 < m) (divides : m ∣ n) :
    divideHalfEven n m = n / m := by
  rw [divideHalfEven, Nat.mod_eq_zero_of_dvd divides, if_neg]
  omega

theorem round_of_lt {precision : Nat} {d : Decimal} (small : d.coefficient < 10 ^ precision) :
    round precision d = d := by
  have length : (Nat.digits 10 d.coefficient).length ≤ precision :=
    (Nat.digits_length_le_iff (by decide) d.coefficient).2 small
  have same : divideHalfEven d.coefficient 1 = d.coefficient := by simp [divideHalfEven, Nat.mod_one]
  simp only [round, Nat.sub_eq_zero_of_le length, pow_zero, same, if_neg small.ne]
  simp

/-- Rounding drops zeros only when the digits beyond the precision are zeros. -/
theorem value_round {precision zeros : Nat} (positive : 0 < precision) {d : Decimal}
    (small : d.coefficient < 10 ^ (precision + zeros)) (divides : 10 ^ zeros ∣ d.coefficient) :
    (round precision d).value = d.value := by
  have length : (Nat.digits 10 d.coefficient).length ≤ precision + zeros :=
    (Nat.digits_length_le_iff (by decide) d.coefficient).2 small
  have exact_ : 10 ^ ((Nat.digits 10 d.coefficient).length - precision) ∣ d.coefficient :=
    (pow_dvd_pow 10 (by omega)).trans divides
  simp only [round]
  generalize (Nat.digits 10 d.coefficient).length - precision = excess at exact_ ⊢
  rw [divideHalfEven_of_dvd (by positivity) exact_]
  obtain ⟨q, product⟩ := exact_
  rw [product, Nat.mul_div_cancel_left q (by positivity)]
  have whole : (q : ℚ) * 10 ^ (d.exponent + excess) = d.value := by
    rw [value, product, zpow_add₀ (by norm_num), zpow_natCast]
    push_cast
    ring
  split
  · rename_i full
    rw [← whole, value, full]
    have shift : d.exponent + excess + 1 = 1 + (d.exponent + excess) := by ring
    rw [shift, zpow_add₀ (by norm_num), zpow_one]
    obtain ⟨p, rfl⟩ := Nat.exists_eq_add_one.2 positive
    push_cast
    rw [pow_succ]
    ring
  · exact whole

theorem value_mul {precision zeros : Nat} (positive : 0 < precision) {a b : Decimal}
    (small : a.coefficient * b.coefficient < 10 ^ (precision + zeros))
    (divides : 10 ^ zeros ∣ a.coefficient * b.coefficient) :
    (mul precision a b).value = a.value * b.value := by
  rw [mul, value_round positive small divides]
  simp only [value]
  rw [zpow_add₀ (by norm_num)]
  push_cast
  ring

theorem isIntegral_iff (d : Decimal) : d.isIntegral = true ↔ d.value = d.toNat := by
  by_cases whole : 0 ≤ d.exponent
  · obtain ⟨e, exponent⟩ := Int.eq_ofNat_of_zero_le whole
    simp only [isIntegral, toNat, value, whole, decide_true, Bool.true_or, ↓reduceIte, true_iff]
    rw [exponent, zpow_natCast, Int.toNat_natCast]
    push_cast
    rfl
  · obtain ⟨e, exponent⟩ := Int.eq_ofNat_of_zero_le (by omega : 0 ≤ -d.exponent)
    have power : d.exponent = -(e : Int) := by omega
    simp only [isIntegral, toNat, value, whole, decide_false, Bool.false_or, ↓reduceIte,
      decide_eq_true_eq]
    rw [exponent, Int.toNat_natCast, power, zpow_neg, zpow_natCast, ← div_eq_mul_inv,
      ← Nat.dvd_iff_mod_eq_zero]
    have nonzero : (10 : ℚ) ^ e ≠ 0 := by positivity
    rw [div_eq_iff nonzero]
    constructor
    · intro divides
      exact_mod_cast (Nat.div_mul_cancel divides).symm
    · intro same
      have : d.coefficient = d.coefficient / 10 ^ e * 10 ^ e := by exact_mod_cast same
      exact Dvd.intro_left _ this.symm

theorem isIntegral_iff_int (d : Decimal) : d.isIntegral = true ↔ ∃ n : ℤ, d.value = n := by
  constructor
  · intro integral
    exact ⟨d.toNat, by exact_mod_cast (isIntegral_iff d).1 integral⟩
  · rintro ⟨n, whole⟩
    by_cases positive : 0 ≤ d.exponent
    · simp [isIntegral, positive]
    · obtain ⟨e, exponent⟩ := Int.eq_ofNat_of_zero_le (by omega : 0 ≤ -d.exponent)
      have power : d.exponent = -(e : Int) := by omega
      rw [value, power, zpow_neg, zpow_natCast, ← div_eq_mul_inv,
        div_eq_iff (by positivity)] at whole
      have multiple : (d.coefficient : ℤ) = n * 10 ^ e := by exact_mod_cast whole
      have divides : 10 ^ e ∣ d.coefficient := by
        have : ((10 ^ e : ℕ) : ℤ) ∣ (d.coefficient : ℤ) := ⟨n, by rw [multiple]; push_cast; ring⟩
        exact Int.natCast_dvd_natCast.1 this
      rw [isIntegral, exponent, Int.toNat_natCast, Nat.mod_eq_zero_of_dvd divides]
      simp

theorem overflows_iff {emax : Nat} {d : Decimal} :
    d.overflows emax = true ↔ (10 : ℚ) ^ (emax + 1) ≤ d.value := by
  have ten : (1 : ℚ) < 10 := by norm_num
  have unfolded : d.overflows emax = true ↔ d.coefficient ≠ 0 ∧ (emax : Int) < d.adjusted := by
    simp [overflows]
  rw [unfolded, adjusted, ← zpow_natCast]
  by_cases zero : d.coefficient = 0
  · have positive : (0 : ℚ) < 10 ^ ((emax + 1 : ℕ) : ℤ) := by positivity
    simpa [zero, value] using positive
  · obtain ⟨last, length⟩ : ∃ n, (Nat.digits 10 d.coefficient).length = n + 1 :=
      Nat.exists_eq_add_one.2 (List.length_pos_iff.2 (Nat.digits_ne_nil_iff_ne_zero.2 zero))
    have above : (10 : ℚ) ^ (last : ℤ) ≤ d.coefficient := by
      have := (Nat.lt_digits_length_iff (b := 10) (k := last) (by decide) d.coefficient).1 (by omega)
      exact_mod_cast this
    have below : (d.coefficient : ℚ) < 10 ^ ((last + 1 : ℕ) : ℤ) := by
      have := Nat.lt_base_pow_length_digits (b := 10) (m := d.coefficient) (by decide)
      rw [length] at this
      exact_mod_cast this
    have scale : (0 : ℚ) < 10 ^ d.exponent := by positivity
    rw [length, value]
    constructor
    · rintro ⟨-, beyond⟩
      calc
        (10 : ℚ) ^ ((emax + 1 : ℕ) : ℤ) ≤ 10 ^ ((last : ℤ) + d.exponent) := by
          apply zpow_le_zpow_right₀ ten.le
          push_cast at beyond ⊢
          omega
        _ = 10 ^ (last : ℤ) * 10 ^ d.exponent := zpow_add₀ (by norm_num) _ _
        _ ≤ d.coefficient * 10 ^ d.exponent := mul_le_mul_of_nonneg_right above scale.le
    · intro large
      refine ⟨zero, ?_⟩
      by_contra within
      have small : d.coefficient * (10 : ℚ) ^ d.exponent < 10 ^ ((emax + 1 : ℕ) : ℤ) := by
        calc
          d.coefficient * (10 : ℚ) ^ d.exponent < 10 ^ ((last + 1 : ℕ) : ℤ) * 10 ^ d.exponent :=
            mul_lt_mul_of_pos_right below scale
          _ = 10 ^ (((last + 1 : ℕ) : ℤ) + d.exponent) := (zpow_add₀ (by norm_num) _ _).symm
          _ ≤ 10 ^ ((emax + 1 : ℕ) : ℤ) := by
            apply zpow_le_zpow_right₀ ten.le
            push_cast at within ⊢
            omega
      exact absurd large (not_le.2 small)

end Decimal
