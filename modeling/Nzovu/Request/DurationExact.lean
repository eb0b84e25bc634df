import Mathlib.Data.Rat.Floor
import Nzovu.Conversion
import Nzovu.Request.Duration

/-!
# Exactness of durations

An accepted text is converted without loss or rejected, and the text that a response shows for a
duration is converted into that duration.
-/

namespace Nzovu
open Proto

def DurationText.Fits (t : DurationText) : Prop :=
  (∃ n : ℤ, t.seconds * 10 ^ 9 = n) ∧ ⌊t.seconds * 10 ^ 9 / 10 ^ 9⌋ ≤ 315576000000

section Conversion
variable {unicode : Unicode}

theorem stringToDuration_of_match {s : Str} {t : DurationText}
    (accepted : matchDuration unicode s = some t) :
    stringToDuration unicode s =
      if t.overflows then .error decimalOverflow
      else if !t.nanoseconds.isIntegral then
        .error (valueError (text "Duration precision cannot exceed nanoseconds"))
      else if 315576000000 < t.nanoseconds.toNat / 1000000000 then
        .error (valueError (text "Duration exceeds protobuf range"))
      else
        .ok (t.nanoseconds.toNat / 1000000000, t.nanoseconds.toNat % 1000000000) := by
  have given : s ≠ [] := by
    rintro rfl
    cases accepted
  rw [stringToDuration, if_neg given, accepted]

theorem DurationText.isIntegral_iff {t : DurationText} (formed : t.WellFormed) :
    t.nanoseconds.isIntegral = true ↔ ∃ n : ℤ, t.seconds * 10 ^ 9 = n := by
  rw [Decimal.isIntegral_iff_int, nanoseconds_value formed]

theorem DurationText.toNat_nanoseconds {t : DurationText} (formed : t.WellFormed)
    (integral : t.nanoseconds.isIntegral = true) :
    (t.nanoseconds.toNat : ℚ) = t.seconds * 10 ^ 9 := by
  rw [← (Decimal.isIntegral_iff _).1 integral, nanoseconds_value formed]

theorem DurationText.fits_iff {t : DurationText} (formed : t.WellFormed) :
    t.Fits ↔ t.nanoseconds.isIntegral = true ∧ t.nanoseconds.toNat / 1000000000 ≤ 315576000000 := by
  rw [Fits, ← isIntegral_iff formed]
  apply and_congr_right
  intro integral
  have floor : ⌊t.seconds * 10 ^ 9 / 10 ^ 9⌋ = ((t.nanoseconds.toNat / 1000000000 : ℕ) : ℤ) := by
    rw [← toNat_nanoseconds formed integral]
    exact_mod_cast Rat.floor_natCast_div_natCast t.nanoseconds.toNat (10 ^ 9)
  rw [floor]
  exact_mod_cast Iff.rfl

theorem DurationText.Fits.overflows {t : DurationText} (fits : t.Fits) (formed : t.WellFormed) :
    t.overflows = false := by
  rw [← Bool.not_eq_true, overflows_iff formed, not_le]
  have small : t.seconds * 10 ^ 9 / 10 ^ 9 < 315576000001 := by
    have := Int.lt_floor_add_one (t.seconds * 10 ^ 9 / 10 ^ 9)
    have bound : ((⌊t.seconds * 10 ^ 9 / 10 ^ 9⌋ : ℤ) : ℚ) ≤ 315576000000 := by
      exact_mod_cast fits.2
    linarith
  have steps : 21 ≤ emax + 1 := by
    rw [emax]
    omega
  calc
    t.seconds * 10 ^ 9 < 315576000001 * 10 ^ 9 := by
      rwa [div_lt_iff₀ (by norm_num)] at small
    _ ≤ (10 : ℚ) ^ 21 := by norm_num
    _ ≤ 10 ^ (emax + 1) := pow_le_pow_right₀ (by norm_num) steps

theorem stringToDuration_converts {s : Str} {t : DurationText}
    (accepted : matchDuration unicode s = some t) :
    ((Decimal.mul (max 28 (t.length + 12)) t.decimal (.ofNat t.unit)).value = t.seconds ∧
      t.nanoseconds.value = t.seconds * 10 ^ 9) ∧
    (t.Fits → ∃ seconds nanos : ℕ, stringToDuration unicode s = .ok (seconds, nanos) ∧
      (seconds * 10 ^ 9 + nanos : ℚ) = t.seconds * 10 ^ 9 ∧ nanos < 10 ^ 9) ∧
    (¬ t.Fits → ∃ e, stringToDuration unicode s = .error e ∧
      if t.seconds * 10 ^ 9 < 10 ^ (emax + 1) then e.isValueError = true else e = decimalOverflow) := by
  have formed := matchDuration_wellFormed accepted
  refine ⟨⟨DurationText.value_product formed, DurationText.nanoseconds_value formed⟩, ?_, ?_⟩
  · intro fits
    obtain ⟨integral, range⟩ := (DurationText.fits_iff formed).1 fits
    refine ⟨t.nanoseconds.toNat / 1000000000, t.nanoseconds.toNat % 1000000000, ?_, ?_,
      Nat.mod_lt _ (by decide)⟩
    · rw [stringToDuration_of_match accepted, fits.overflows formed, if_neg (by decide), integral,
        if_neg (by decide), if_neg (Nat.not_lt.2 range)]
    · rw [← DurationText.toNat_nanoseconds formed integral]
      exact_mod_cast Nat.div_add_mod' t.nanoseconds.toNat 1000000000
  · intro misfit
    by_cases within : t.seconds * 10 ^ 9 < 10 ^ (emax + 1)
    · simp only [if_pos within]
      have broken : t.nanoseconds.isIntegral = true →
          ¬ t.nanoseconds.toNat / 1000000000 ≤ 315576000000 := by
        intro integral range
        exact misfit ((DurationText.fits_iff formed).2 ⟨integral, range⟩)
      have holds : t.overflows = false := by
        rw [← Bool.not_eq_true, DurationText.overflows_iff formed, not_le]
        exact within
      rw [stringToDuration_of_match accepted, holds, if_neg (by decide)]
      cases integral : t.nanoseconds.isIntegral with
      | false => exact ⟨_, if_pos rfl, rfl⟩
      | true =>
          rw [if_neg (by decide), if_pos (Nat.not_le.1 (broken integral))]
          exact ⟨_, rfl, rfl⟩
    · simp only [if_neg within]
      exact ⟨_, stringToDuration_overflows ⟨t, accepted, not_lt.1 within⟩, rfl⟩

theorem stringToDuration_converts_minutes :
    ∃ seconds nanos : ℕ,
      stringToDuration unicode15 (text "0.00000000025000000000000000000000m") = .ok (seconds, nanos) ∧
        (seconds * 10 ^ 9 + nanos : ℚ) = 15 ∧ nanos < 10 ^ 9 := by
  have accepted : matchDuration unicode15 (text "0.00000000025000000000000000000000m") =
      some ⟨[0], [0, 0, 0, 0, 0, 0, 0, 0, 0, 2, 5] ++ List.replicate 21 0, 34, 60⟩ := rfl
  obtain ⟨-, converted, -⟩ := stringToDuration_converts accepted
  have value : (⟨[0], [0, 0, 0, 0, 0, 0, 0, 0, 0, 2, 5] ++ List.replicate 21 0, 34, 60⟩ :
      DurationText).seconds = 15 / 10 ^ 9 := by
    norm_num [DurationText.seconds, Digits.value, List.replicate]
  rw [DurationText.Fits, value] at converted
  obtain ⟨seconds, nanos, same, sum, small⟩ := converted ⟨⟨15, by norm_num⟩, by norm_num⟩
  exact ⟨seconds, nanos, same, sum.trans (by norm_num), small⟩

theorem matchDuration_durationText (seconds : Nat) {nanos : Nat} (small : nanos < 10 ^ 9) :
    ∃ t, matchDuration unicode (durationText seconds nanos) = some t ∧
      t.seconds = (seconds : ℚ) + nanos / 10 ^ 9 := by
  have written : writtenSeconds unicode (durationText seconds nanos) = _ :=
    writtenSeconds_durationText seconds small
  rw [writtenSeconds, if_neg (by simp [durationText])] at written
  obtain ⟨t, accepted, value⟩ := Option.map_eq_some_iff.1 written
  exact ⟨t, accepted, value⟩

theorem stringToDuration_durationText {seconds nanos : Nat} (range : seconds ≤ 315576000000)
    (small : nanos < 10 ^ 9) :
    stringToDuration unicode (durationText seconds nanos) = .ok (seconds, nanos) := by
  obtain ⟨t, accepted, value⟩ := matchDuration_durationText seconds small
  have formed := matchDuration_wellFormed accepted
  have whole : t.seconds * 10 ^ 9 = ((seconds * 10 ^ 9 + nanos : ℕ) : ℤ) := by
    rw [value]
    push_cast
    ring
  have fits : t.Fits := by
    refine ⟨⟨_, whole⟩, ?_⟩
    rw [whole, Int.cast_natCast]
    have floor : ⌊((seconds * 10 ^ 9 + nanos : ℕ) : ℚ) / 10 ^ 9⌋ =
        (((seconds * 10 ^ 9 + nanos) / 10 ^ 9 : ℕ) : ℤ) := by
      exact_mod_cast Rat.floor_natCast_div_natCast (seconds * 10 ^ 9 + nanos) (10 ^ 9)
    rw [floor]
    omega
  have integral := (DurationText.isIntegral_iff formed).2 ⟨_, whole⟩
  have count : t.nanoseconds.toNat = seconds * 1000000000 + nanos := by
    have := (DurationText.toNat_nanoseconds formed integral).trans whole
    exact_mod_cast this
  have quotient : t.nanoseconds.toNat / 1000000000 = seconds := by omega
  have remainder : t.nanoseconds.toNat % 1000000000 = nanos := by omega
  rw [stringToDuration_of_match accepted, fits.overflows formed, if_neg (by decide), integral,
    quotient, remainder, if_neg (by decide), if_neg (Nat.not_lt.2 range)]

/-- `ToJsonString` writes the seconds, the shortest exact fraction and the unit. -/
def WritesDurations (json : JsonFormat) : Prop :=
  ∀ seconds nanos : Nat, seconds ≤ 315576000000 → nanos < 10 ^ 9 →
    json.toJsonString (.duration seconds nanos) = durationText seconds nanos

def durationMessage (d : Nat × Nat) : Message := .wellKnown (.duration d.1 d.2)

theorem protobufToPython_duration {json : JsonFormat} (writes : WritesDurations json) (pool : Pool)
    {d : Nat × Nat} (range : d.1 ≤ 315576000000) (small : d.2 < 10 ^ 9) :
    protobufToPython json pool (durationMessage d) = .str (durationText d.1 d.2) := by
  have time : (WellKnown.duration d.1 d.2).fullName ∈ timeNames := by
    simp [WellKnown.fullName, timeNames]
  rw [durationMessage, protobufToPython, if_pos time, writes d.1 d.2 range small]

theorem duration_roundTrip (unicode : Unicode) (json : JsonFormat) (writes : WritesDurations json)
    (pool : Pool) :
    (∀ d : Nat × Nat, d.1 ≤ 315576000000 → d.2 < 10 ^ 9 →
      ∃ shown, protobufToPython json pool (durationMessage d) = .str shown ∧
        stringToDuration unicode shown = .ok d) ∧
    ∀ s d, stringToDuration unicode s = .ok d →
      ∃ shown, protobufToPython json pool (durationMessage d) = .str shown ∧
        stringToDuration unicode shown = .ok d := by
  have shown (d : Nat × Nat) (range : d.1 ≤ 315576000000) (small : d.2 < 10 ^ 9) :
      ∃ shown, protobufToPython json pool (durationMessage d) = .str shown ∧
        stringToDuration unicode shown = .ok d :=
    ⟨_, protobufToPython_duration writes pool range small, stringToDuration_durationText range small⟩
  refine ⟨shown, ?_⟩
  intro s d accepted
  obtain ⟨-, small, range⟩ := stringToDuration_exact accepted
  exact shown d range small

def durationFormat : JsonFormat where
  toJsonString
    | .duration seconds nanos => durationText seconds nanos
    | _ => text "1970-01-01T00:00:00Z"
  messageToDict := sampleFormat.messageToDict

end Conversion

theorem duration_roundTrip_last :
    ∃ shown, protobufToPython durationFormat samplePool (durationMessage (315576000000, 999999999)) =
        .str shown ∧
      stringToDuration unicode15 shown = .ok (315576000000, 999999999) :=
  (duration_roundTrip unicode15 durationFormat (fun _ _ _ _ => rfl) samplePool).1 (315576000000, 999999999)
    (by decide) (by decide)

end Nzovu
