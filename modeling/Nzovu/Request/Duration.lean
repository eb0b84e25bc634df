import Mathlib.Data.List.TakeWhile
import Mathlib.Tactic.Linarith
import Nzovu.Library.Decimal
import Nzovu.Proto.Message

/-!
# Durations

A duration is written as a decimal number with a unit. The texts that typed responses show for
durations are of the same form.
-/

namespace Nzovu
open Proto

def digitRun (unicode : Unicode) (s : Str) : Option (List Nat) :=
  if s = [] then none else s.mapM (decimalDigit unicode)

/-- `\d+(?:\.\d+)?`: the digits before and after the point. -/
def matchValue (unicode : Unicode) (s : Str) : Option (List Nat × List Nat) :=
  match s.span (· ≠ 0x2e) with
  | (whole, []) => (digitRun unicode whole).map fun digits => (digits, [])
  | (whole, _ :: fraction) => do return (← digitRun unicode whole, ← digitRun unicode fraction)

def unitMap (c : Nat) : Option Nat :=
  if c = 0x73 then some 1
  else if c = 0x6d then some 60
  else if c = 0x68 then some 3600
  else if c = 0x64 then some 86400
  else none

/-- Seconds, minutes, hours and days. -/
theorem unitMap_iff {c unit : Nat} :
    unitMap c = some unit ↔
      (c, unit) ∈ (text "smhd").zip [1, 60, 60 * 60, 24 * (60 * 60)] := by
  have units : (text "smhd").zip [1, 60, 60 * 60, 24 * (60 * 60)] =
      [(0x73, 1), (0x6d, 60), (0x68, 3600), (0x64, 86400)] := by decide
  simp only [units, List.mem_cons, Prod.mk.injEq, List.not_mem_nil, or_false, unitMap]
  grind

/-- `$` also matches before a newline at the end. -/
def chopNewline (s : Str) : Str := if s.getLast? = some 0xa then s.dropLast else s

structure DurationText where
  whole : List Nat
  fraction : List Nat
  length : Nat
  unit : Nat

/-- `re.match(r"^(\d+(?:\.\d+)?)([smhd])$", s)`. The pattern of the options classes is the same but
for its groups. -/
def matchDuration (unicode : Unicode) (s : Str) : Option DurationText := do
  let unit ← (chopNewline s).getLast? >>= unitMap
  let (whole, fraction) ← matchValue unicode (chopNewline s).dropLast
  return ⟨whole, fraction, (chopNewline s).dropLast.length, unit⟩

def DurationText.decimal (t : DurationText) : Decimal :=
  ⟨Digits.value (t.whole ++ t.fraction), -(t.fraction.length : Int)⟩

def DurationText.product (t : DurationText) : Decimal :=
  Decimal.mul (max 28 (t.length + 12)) t.decimal (.ofNat t.unit)

def DurationText.nanoseconds (t : DurationText) : Decimal :=
  Decimal.mul (max 28 (t.length + 12)) t.product (.ofNat 1000000000)

/-- The largest exponent of the default context, which `localcontext` copies. -/
def emax : Nat := 999999

def DurationText.overflows (t : DurationText) : Bool :=
  t.product.overflows emax || t.nanoseconds.overflows emax

def decimalOverflow : Exc := ⟨.decimalOverflow, text "[<class 'decimal.Overflow'>]"⟩

/-- `string_to_duration`: the seconds and nanoseconds of the `Duration`. -/
def stringToDuration (unicode : Unicode) (s : Str) : Except Exc (Nat × Nat) :=
  if s = [] then .ok (0, 0)
  else
    match matchDuration unicode s with
    | none => .error (valueError (text "Invalid duration format: " ++ s))
    | some t =>
        if t.overflows then .error decimalOverflow
        else if !t.nanoseconds.isIntegral then
          .error (valueError (text "Duration precision cannot exceed nanoseconds"))
        else if 315576000000 < t.nanoseconds.toNat / 1000000000 then
          .error (valueError (text "Duration exceeds protobuf range"))
        else
          .ok (t.nanoseconds.toNat / 1000000000, t.nanoseconds.toNat % 1000000000)

def DurationText.seconds (t : DurationText) : ℚ :=
  (Digits.value t.whole + Digits.value t.fraction / 10 ^ t.fraction.length) * t.unit

def writtenSeconds (unicode : Unicode) (s : Str) : Option ℚ :=
  if s = [] then some 0 else (matchDuration unicode s).map DurationText.seconds

structure DurationText.WellFormed (t : DurationText) : Prop where
  whole : ∀ d ∈ t.whole, d < 10
  fraction : ∀ d ∈ t.fraction, d < 10
  length : t.whole.length + t.fraction.length ≤ t.length
  unit : t.unit ≤ 86400

section Reading
variable {unicode : Unicode}

theorem mapM_decimalDigit {s : Str} {digits : List Nat}
    (run : s.mapM (decimalDigit unicode) = some digits) :
    digits.length = s.length ∧ ∀ d ∈ digits, d < 10 := by
  induction s generalizing digits with
  | nil =>
      cases run
      simp
  | cons c s ih =>
      simp only [List.mapM_cons, Option.bind_eq_bind, Option.bind_eq_some_iff, Option.pure_def,
        Option.some.injEq] at run
      obtain ⟨d, digit, more, run, rfl⟩ := run
      obtain ⟨length, small⟩ := ih run
      refine ⟨congrArg (· + 1) length, ?_⟩
      intro e member
      rcases List.mem_cons.1 member with rfl | later
      · exact decimalDigit_lt digit
      · exact small e later

theorem digitRun_cases {s : Str} {digits : List Nat} (run : digitRun unicode s = some digits) :
    digits.length = s.length ∧ ∀ d ∈ digits, d < 10 := by
  rw [digitRun] at run
  split at run
  · cases run
  · exact mapM_decimalDigit run

theorem unitMap_le {c unit : Nat} (known : unitMap c = some unit) : unit ≤ 86400 := by
  have bound : ∀ entry ∈ (text "smhd").zip [1, 60, 60 * 60, 24 * (60 * 60)], entry.2 ≤ 86400 := by
    decide
  exact bound (c, unit) (unitMap_iff.1 known)

theorem matchValue_of_whole {whole : Str} (plain : 0x2e ∉ whole) :
    matchValue unicode whole = (digitRun unicode whole).map fun digits => (digits, []) := by
  have before : ∀ c ∈ whole, decide (c ≠ 0x2e) = true := by
    intro c member
    exact decide_eq_true fun point => plain (point ▸ member)
  have span : whole.span (· ≠ 0x2e) = (whole, []) := by
    rw [List.span_eq_takeWhile_dropWhile, List.takeWhile_eq_self_iff.2 before,
      List.dropWhile_eq_nil_iff.2 before]
  rw [matchValue, span]

theorem matchValue_of_point {whole : Str} (plain : 0x2e ∉ whole) (fraction : Str) :
    matchValue unicode (whole ++ 0x2e :: fraction) =
      (do return (← digitRun unicode whole, ← digitRun unicode fraction)) := by
  have before : ∀ c ∈ whole, decide (c ≠ 0x2e) = true := by
    intro c member
    exact decide_eq_true fun point => plain (point ▸ member)
  have span : (whole ++ 0x2e :: fraction).span (· ≠ 0x2e) = (whole, 0x2e :: fraction) := by
    rw [List.span_eq_takeWhile_dropWhile, List.takeWhile_append_of_pos before,
      List.dropWhile_append_of_pos before]
    simp
  rw [matchValue, span]

theorem matchValue_cases {s : Str} {whole fraction : List Nat}
    (found : matchValue unicode s = some (whole, fraction)) :
    whole.length + fraction.length ≤ s.length ∧ (∀ d ∈ whole, d < 10) ∧ ∀ d ∈ fraction, d < 10 := by
  by_cases point : 0x2e ∈ s
  · obtain ⟨before, after, rfl, plain⟩ := List.eq_append_cons_of_mem point
    rw [matchValue_of_point plain] at found
    simp only [Option.bind_eq_bind, Option.bind_eq_some_iff, Option.pure_def, Option.some.injEq,
      Prod.mk.injEq] at found
    obtain ⟨digits, run, more, run', rfl, rfl⟩ := found
    obtain ⟨length, small⟩ := digitRun_cases run
    obtain ⟨length', small'⟩ := digitRun_cases run'
    refine ⟨?_, small, small'⟩
    rw [List.length_append, List.length_cons]
    omega
  · rw [matchValue_of_whole point] at found
    simp only [Option.map_eq_some_iff, Prod.mk.injEq] at found
    obtain ⟨digits, run, rfl, rfl⟩ := found
    obtain ⟨length, small⟩ := digitRun_cases run
    exact ⟨length.le, small, by simp⟩

theorem matchDuration_wellFormed {s : Str} {t : DurationText}
    (found : matchDuration unicode s = some t) : t.WellFormed := by
  simp only [matchDuration, Option.bind_eq_bind, Option.bind_eq_some_iff, Option.pure_def,
    Option.some.injEq] at found
  obtain ⟨unit, ⟨c, -, known⟩, ⟨whole, fraction⟩, value, rfl⟩ := found
  obtain ⟨length, whole, fraction⟩ := matchValue_cases value
  exact ⟨whole, fraction, length, unitMap_le known⟩

theorem DurationText.product_lt {t : DurationText} (formed : t.WellFormed) :
    t.decimal.coefficient * t.unit < 10 ^ (t.length + 5) := by
  have digits : t.decimal.coefficient < 10 ^ t.length := by
    calc
      t.decimal.coefficient < 10 ^ (t.whole ++ t.fraction).length :=
        Digits.value_lt fun d member => (List.mem_append.1 member).elim (formed.whole d)
          (formed.fraction d)
      _ ≤ 10 ^ t.length := by
        apply Nat.pow_le_pow_right (by decide)
        rw [List.length_append]
        exact formed.length
  calc
    t.decimal.coefficient * t.unit ≤ t.decimal.coefficient * 10 ^ 5 :=
      Nat.mul_le_mul_left _ (formed.unit.trans (by decide))
    _ < 10 ^ t.length * 10 ^ 5 := Nat.mul_lt_mul_of_pos_right digits (by decide)
    _ = 10 ^ (t.length + 5) := (pow_add _ _ _).symm

theorem DurationText.product_eq {t : DurationText} (formed : t.WellFormed) :
    t.product = ⟨t.decimal.coefficient * t.unit, t.decimal.exponent⟩ := by
  rw [product, Decimal.mul, Decimal.round_of_lt]
  · simp [Decimal.ofNat]
  · apply (product_lt formed).trans_le (Nat.pow_le_pow_right (by decide) _)
    omega

theorem DurationText.value_product {t : DurationText} (formed : t.WellFormed) :
    t.product.value = t.seconds := by
  rw [product_eq formed]
  simp only [Decimal.value, decimal, DurationText.seconds, Digits.value_append, zpow_neg,
    zpow_natCast]
  push_cast
  field_simp

/-- The second product has nine zeros more, and nothing else is beyond the precision. -/
theorem DurationText.nanoseconds_value {t : DurationText} (formed : t.WellFormed) :
    t.nanoseconds.value = t.seconds * 10 ^ 9 := by
  have fits : t.product.coefficient * (Decimal.ofNat 1000000000).coefficient <
      10 ^ (max 28 (t.length + 12) + 9) := by
    rw [product_eq formed]
    calc
      t.decimal.coefficient * t.unit * 1000000000 < 10 ^ (t.length + 5) * 10 ^ 9 :=
        Nat.mul_lt_mul_of_pos_right (product_lt formed) (by decide)
      _ = 10 ^ (t.length + 5 + 9) := (pow_add _ _ _).symm
      _ ≤ 10 ^ (max 28 (t.length + 12) + 9) := Nat.pow_le_pow_right (by decide) (by omega)
  rw [nanoseconds, Decimal.value_mul (by omega) fits (Dvd.intro_left _ rfl), value_product formed]
  norm_num [Decimal.value, Decimal.ofNat]

theorem DurationText.seconds_nonneg (t : DurationText) : 0 ≤ t.seconds := by
  rw [DurationText.seconds]
  positivity

theorem DurationText.overflows_iff {t : DurationText} (formed : t.WellFormed) :
    t.overflows = true ↔ (10 : ℚ) ^ (emax + 1) ≤ t.seconds * 10 ^ 9 := by
  rw [overflows, Bool.or_eq_true, Decimal.overflows_iff, Decimal.overflows_iff, value_product formed,
    nanoseconds_value formed]
  constructor
  · rintro (first | second)
    · exact first.trans (le_mul_of_one_le_right t.seconds_nonneg (by norm_num))
    · exact second
  · exact .inr

theorem stringToDuration_exact {s : Str} {seconds nanos : Nat}
    (accepted : stringToDuration unicode s = .ok (seconds, nanos)) :
    writtenSeconds unicode s = some ((seconds : ℚ) + nanos / 10 ^ 9) ∧ nanos < 10 ^ 9 ∧
      seconds ≤ 315576000000 := by
  rw [stringToDuration] at accepted
  rw [writtenSeconds]
  split at accepted
  · rename_i empty
    cases accepted
    simp [empty]
  · rename_i given
    rw [if_neg given]
    split at accepted
    · cases accepted
    · rename_i t found
      split at accepted
      · cases accepted
      split at accepted
      · cases accepted
      · rename_i whole
        split at accepted
        · cases accepted
        · rename_i range
          simp only [Except.ok.injEq, Prod.mk.injEq] at accepted
          obtain ⟨rfl, rfl⟩ := accepted
          refine ⟨?_, Nat.mod_lt _ (by decide), by omega⟩
          have integral := (Decimal.isIntegral_iff _).1 (by simpa using whole)
          rw [DurationText.nanoseconds_value (matchDuration_wellFormed found)] at integral
          have split_ : (t.nanoseconds.toNat : ℚ) =
              10 ^ 9 * (t.nanoseconds.toNat / 1000000000 : Nat) +
                (t.nanoseconds.toNat % 1000000000 : Nat) := by
            exact_mod_cast (Nat.div_add_mod _ _).symm
          rw [found, Option.map_some, Option.some.injEq]
          rw [split_] at integral
          linarith

/-- The duration is written with about a million digits, which decimal numbers do not hold. -/
def DurationOverflows (unicode : Unicode) (s : Str) : Prop :=
  ∃ t, matchDuration unicode s = some t ∧ (10 : ℚ) ^ (emax + 1) ≤ t.seconds * 10 ^ 9

theorem stringToDuration_overflows {s : Str} (overflows : DurationOverflows unicode s) :
    stringToDuration unicode s = .error decimalOverflow := by
  obtain ⟨t, found, beyond⟩ := overflows
  have given : s ≠ [] := by
    rintro rfl
    cases found
  rw [stringToDuration, if_neg given, found]
  exact if_pos ((DurationText.overflows_iff (matchDuration_wellFormed found)).2 beyond)

theorem stringToDuration_clean {s : Str} (fits : ¬ DurationOverflows unicode s) :
    Clean (stringToDuration unicode s) := by
  rw [stringToDuration]
  apply raises_ite (raises_ok _)
  cases found : matchDuration unicode s with
  | none => exact raises_valueError _
  | some t =>
      have within : t.overflows = false := by
        rw [← Bool.not_eq_true, DurationText.overflows_iff (matchDuration_wellFormed found)]
        exact fun beyond => fits ⟨t, found, beyond⟩
      simp only [within, Bool.false_eq_true, ↓reduceIte]
      exact raises_ite (raises_valueError _) (raises_ite (raises_valueError _) (raises_ok _))

/-! ## The text of a duration -/

def digitsText (digits : List Nat) : Str := digits.map (0x30 + ·)

def nanosText (nanos : Nat) : Str :=
  if nanos = 0 then []
  else if nanos % 1000000 = 0 then 0x2e :: digitsText (Digits.fixed 3 (nanos / 1000000))
  else if nanos % 1000 = 0 then 0x2e :: digitsText (Digits.fixed 6 (nanos / 1000))
  else 0x2e :: digitsText (Digits.fixed 9 nanos)

def durationText (seconds nanos : Int) : Str :=
  (if seconds < 0 ∨ nanos < 0 then [0x2d] else []) ++ digitsText (Digits.ofNat seconds.natAbs) ++
    nanosText nanos.natAbs ++ [0x73]

theorem digitRun_digitsText {digits : List Nat} (some_ : digits ≠ []) (small : ∀ d ∈ digits, d < 10) :
    digitRun unicode (digitsText digits) = some digits := by
  have nonempty : digitsText digits ≠ [] := by simpa [digitsText] using some_
  rw [digitRun, if_neg nonempty]
  clear some_ nonempty
  induction digits with
  | nil => rfl
  | cons d digits ih =>
      have rest := ih fun e member => small e (List.mem_cons_of_mem _ member)
      rw [digitsText] at rest ⊢
      simp [decimalDigit_ascii unicode (small d List.mem_cons_self), rest]

theorem point_digitsText (digits : List Nat) : 0x2e ∉ digitsText digits := by
  intro member
  obtain ⟨d, -, same⟩ := List.mem_map.1 member
  omega

theorem matchValue_whole {digits : List Nat} (some_ : digits ≠ []) (small : ∀ d ∈ digits, d < 10) :
    matchValue unicode (digitsText digits) = some (digits, []) := by
  rw [matchValue_of_whole (point_digitsText digits), digitRun_digitsText some_ small]
  rfl

theorem matchValue_point {whole fraction : List Nat} (some_ : whole ≠ [])
    (small : ∀ d ∈ whole, d < 10) (some' : fraction ≠ []) (small' : ∀ d ∈ fraction, d < 10) :
    matchValue unicode (digitsText whole ++ 0x2e :: digitsText fraction) =
      some (whole, fraction) := by
  rw [matchValue_of_point (point_digitsText whole), digitRun_digitsText some_ small,
    digitRun_digitsText some' small']
  rfl

theorem matchDuration_seconds {s : Str} {whole fraction : List Nat}
    (value : matchValue unicode s = some (whole, fraction)) :
    matchDuration unicode (s ++ [0x73]) = some ⟨whole, fraction, s.length, 1⟩ := by
  have chopped : chopNewline (s ++ [0x73]) = s ++ [0x73] := by simp [chopNewline]
  simp [matchDuration, chopped, value, unitMap]

theorem matchValue_fixed {whole : List Nat} (some_ : whole ≠ []) (small : ∀ d ∈ whole, d < 10)
    {width n : Nat} (positive : 0 < width) (fits : n < 10 ^ width) :
    ∃ fraction, matchValue unicode (digitsText whole ++ 0x2e :: digitsText (Digits.fixed width n)) =
      some (whole, fraction) ∧
        (Digits.value fraction : ℚ) / 10 ^ fraction.length = n / 10 ^ width := by
  refine ⟨_, matchValue_point some_ small ?_ (Digits.fixed_lt width n), ?_⟩
  · rw [← List.length_pos_iff, Digits.length_fixed]
    exact positive
  · rw [Digits.value_fixed fits, Digits.length_fixed]

theorem matchValue_nanosText {whole : List Nat} (some_ : whole ≠ []) (small : ∀ d ∈ whole, d < 10)
    {nanos : Nat} (range : nanos < 10 ^ 9) :
    ∃ fraction, matchValue unicode (digitsText whole ++ nanosText nanos) = some (whole, fraction) ∧
      (Digits.value fraction : ℚ) / 10 ^ fraction.length = nanos / 10 ^ 9 := by
  rw [nanosText]
  split_ifs with none millis micros
  · refine ⟨[], ?_, by simp [none]⟩
    rw [List.append_nil]
    exact matchValue_whole some_ small
  · obtain ⟨n, rfl⟩ := Nat.dvd_of_mod_eq_zero millis
    rw [Nat.mul_div_cancel_left n (by decide)]
    obtain ⟨fraction, parsed, value⟩ :=
      matchValue_fixed some_ small (by decide : 0 < 3) (by omega : n < 10 ^ 3)
    refine ⟨fraction, parsed, value.trans ?_⟩
    push_cast
    ring
  · obtain ⟨n, rfl⟩ := Nat.dvd_of_mod_eq_zero micros
    rw [Nat.mul_div_cancel_left n (by decide)]
    obtain ⟨fraction, parsed, value⟩ :=
      matchValue_fixed some_ small (by decide : 0 < 6) (by omega : n < 10 ^ 6)
    refine ⟨fraction, parsed, value.trans ?_⟩
    push_cast
    ring
  · exact matchValue_fixed some_ small (by decide) range

theorem writtenSeconds_durationText (seconds : Nat) {nanos : Nat} (range : nanos < 10 ^ 9) :
    writtenSeconds unicode (durationText seconds nanos) = some ((seconds : ℚ) + nanos / 10 ^ 9) := by
  have shape : durationText seconds nanos =
      (digitsText (Digits.ofNat seconds) ++ nanosText nanos) ++ [0x73] := by
    have positive : ¬ ((seconds : Int) < 0 ∨ (nanos : Int) < 0) := by omega
    simp [durationText, positive]
  have parsed : ∃ fraction : List Nat,
      matchValue unicode (digitsText (Digits.ofNat seconds) ++ nanosText nanos) =
        some (Digits.ofNat seconds, fraction) ∧
        (Digits.value fraction : ℚ) / 10 ^ fraction.length = nanos / 10 ^ 9 :=
    matchValue_nanosText (Digits.ofNat_ne_nil _) (Digits.ofNat_lt _) range
  obtain ⟨fraction, parsed, value⟩ := parsed
  rw [writtenSeconds, shape, if_neg (by simp), matchDuration_seconds parsed, Option.map_some,
    DurationText.seconds, value, Digits.value_ofNat]
  simp

end Reading

end Nzovu
