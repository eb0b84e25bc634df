import Nzovu.Library.Regex
import Nzovu.Request.DurationExact
import Nzovu.Request.Schedule

/-!
# The format of durations

`string_to_duration` and the options classes check the format with patterns that are written
differently. Both read `\d` as any decimal digit and `$` as an end that a newline may follow.
-/

namespace Nzovu

abbrev newline : Nat := 0xa

def isDigit (unicode : Unicode) (c : Nat) : Bool := (decimalDigit unicode c).isSome

def isUnit (c : Nat) : Bool := (unitMap c).isSome

/-- `\.\d+` -/
def fractionPattern (unicode : Unicode) : Regex Nat :=
  .cat (.set (· = 0x2e)) (.plus (.set (isDigit unicode)))

/-- `^(\d+(?:\.\d+)?)([smhd])$` -/
def durationPattern (unicode : Unicode) : Regex Nat :=
  .cat .start (.cat
    (.group (.cat (.plus (.set (isDigit unicode))) (.optional (fractionPattern unicode))))
    (.cat (.group (.set isUnit)) .finish))

/-- `^\d+(\.\d+)?[smhd]$` -/
def optionsPattern (unicode : Unicode) : Regex Nat :=
  .cat .start (.cat (.plus (.set (isDigit unicode)))
    (.cat (.optional (.group (fractionPattern unicode))) (.cat (.set isUnit) .finish)))

def checkDuration (unicode : Unicode) (name : Str) (duration : Option Str) : Except Exc Unit :=
  if duration.any fun s => s ≠ [] && !decide ((optionsPattern unicode).Matches newline s) then
    .error (valueError (name ++ text
      " must be in format '[number]unit', e.g., '5s', '2m', '3.5m', '3d'."))
  else .ok ()

def LeasePolicyOptions.postInit (unicode : Unicode) (opts : LeasePolicyOptions) :
    Except Exc Unit := do
  match opts.maxRenewals with
  | some maxRenewals => validateInteger maxRenewals (text "max_renewals") 0 (2 ^ 31 - 1)
  | none => .ok ()
  checkDuration unicode (text "base_lease") opts.baseLease
  checkDuration unicode (text "max_extension") opts.maxExtension
  checkDuration unicode (text "heartbeat_timeout") opts.heartbeatTimeout
  checkDuration unicode (text "extend_step") opts.extendStep

def PostMessageOptions.postInit (unicode : Unicode) (opts : PostMessageOptions) :
    Except Exc Unit := do
  validateInteger opts.priority (text "priority") 0 4
  checkDuration unicode (text "lease_duration") opts.leaseDuration

structure QueueOptions where
  leaseDuration : Option Str := none

def QueueOptions.postInit (unicode : Unicode) (opts : QueueOptions) : Except Exc Unit :=
  checkDuration unicode (text "lease_duration") opts.leaseDuration

/-! ## The grammar -/

def DurationShape (digit : Nat → Prop) (s : Str) : Prop :=
  ∃ whole fraction unit, s = whole ++ (fraction ++ [unit]) ∧ (whole ≠ [] ∧ ∀ c ∈ whole, digit c) ∧
    (fraction = [] ∨ ∃ run, (run ≠ [] ∧ ∀ c ∈ run, digit c) ∧ fraction = 0x2e :: run) ∧
    unit ∈ text "smhd"

def DurationGrammar (s : Str) : Prop := DurationShape (· ∈ text "0123456789") s

def LooseShape (unicode : Unicode) (s : Str) : Prop :=
  ∃ n rest, s = n ++ rest ∧ DurationShape (isDigit unicode · = true) n ∧
    (rest = [] ∨ rest = [newline])

theorem isUnit_iff (c : Nat) : isUnit c = true ↔ c ∈ text "smhd" := by
  have units : text "smhd" = [0x73, 0x6d, 0x68, 0x64] := by decide
  simp only [isUnit, unitMap, units, List.mem_cons, List.not_mem_nil, or_false]
  split_ifs <;> simp [*]

section Reading
variable {unicode : Unicode}

theorem reads_fractionPattern {s t rest : Str} :
    Regex.Reads newline s (fractionPattern unicode) t rest ↔
      ∃ run, (run ≠ [] ∧ ∀ c ∈ run, isDigit unicode c = true) ∧ t = 0x2e :: run ++ rest := by
  rw [fractionPattern]
  simp only [Regex.reads_cat, Regex.reads_set, Regex.reads_plus_set, decide_eq_true_eq]
  constructor
  · rintro ⟨mid, ⟨c, rfl, rfl⟩, run, digits, rfl⟩
    exact ⟨run, digits, rfl⟩
  · rintro ⟨run, digits, rfl⟩
    exact ⟨run ++ rest, ⟨_, rfl, rfl⟩, run, digits, rfl⟩

theorem reads_fraction {s t rest : Str} :
    (rest = t ∨ Regex.Reads newline s (fractionPattern unicode) t rest) ↔
      ∃ fraction, (fraction = [] ∨ ∃ run, (run ≠ [] ∧ ∀ c ∈ run, isDigit unicode c = true) ∧
        fraction = 0x2e :: run) ∧ t = fraction ++ rest := by
  rw [reads_fractionPattern]
  constructor
  · rintro (rfl | ⟨run, digits, rfl⟩)
    · exact ⟨[], .inl rfl, rfl⟩
    · exact ⟨0x2e :: run, .inr ⟨run, digits, rfl⟩, rfl⟩
  · rintro ⟨fraction, rfl | ⟨run, digits, rfl⟩, rfl⟩
    · exact .inl rfl
    · exact .inr ⟨run, digits, rfl⟩

theorem matches_optionsPattern (s : Str) :
    (optionsPattern unicode).Matches newline s ↔ LooseShape unicode s := by
  rw [Regex.Matches, optionsPattern]
  simp only [Regex.reads_cat, Regex.reads_start, Regex.reads_plus_set, Regex.reads_optional,
    Regex.reads_group, reads_fraction, Regex.reads_set, Regex.reads_finish]
  constructor
  · rintro ⟨rest, t, ⟨-, rfl⟩, mid, ⟨whole, digits, rfl⟩, mid, ⟨fraction, shape, rfl⟩, mid,
      ⟨unit, known, rfl⟩, last, rfl⟩
    refine ⟨whole ++ (fraction ++ [unit]), rest, by simp, ?_, last⟩
    exact ⟨whole, fraction, unit, rfl, digits, shape, (isUnit_iff unit).1 known⟩
  · rintro ⟨n, rest, rfl, ⟨whole, fraction, unit, rfl, digits, shape, known⟩, last⟩
    refine ⟨rest, _, ⟨trivial, rfl⟩, fraction ++ unit :: rest, ⟨whole, digits, by simp⟩, unit :: rest,
      ⟨fraction, shape, rfl⟩, rest, ⟨unit, (isUnit_iff unit).2 known, rfl⟩, last, rfl⟩

theorem matches_durationPattern (s : Str) :
    (durationPattern unicode).Matches newline s ↔ LooseShape unicode s := by
  rw [Regex.Matches, durationPattern]
  simp only [Regex.reads_cat, Regex.reads_start, Regex.reads_plus_set, Regex.reads_optional,
    Regex.reads_group, reads_fraction, Regex.reads_set, Regex.reads_finish]
  constructor
  · rintro ⟨rest, t, ⟨-, rfl⟩, mid, ⟨mid, ⟨whole, digits, rfl⟩, fraction, shape, rfl⟩, mid,
      ⟨unit, known, rfl⟩, last, rfl⟩
    refine ⟨whole ++ (fraction ++ [unit]), rest, by simp, ?_, last⟩
    exact ⟨whole, fraction, unit, rfl, digits, shape, (isUnit_iff unit).1 known⟩
  · rintro ⟨n, rest, rfl, ⟨whole, fraction, unit, rfl, digits, shape, known⟩, last⟩
    exact ⟨rest, _, ⟨trivial, rfl⟩, unit :: rest,
      ⟨fraction ++ unit :: rest, ⟨whole, digits, by simp⟩, fraction, shape, rfl⟩, rest,
      ⟨unit, (isUnit_iff unit).2 known, rfl⟩, last, rfl⟩

/-! ## The executable match -/

theorem mapM_decimalDigit_isSome (s : Str) :
    (s.mapM (decimalDigit unicode)).isSome = true ↔ ∀ c ∈ s, isDigit unicode c = true := by
  induction s with
  | nil => simp
  | cons c s ih =>
      rw [List.mapM_cons, List.forall_mem_cons, ← ih, isDigit]
      cases decimalDigit unicode c <;> cases s.mapM (decimalDigit unicode) <;> simp

theorem digitRun_isSome (s : Str) :
    (digitRun unicode s).isSome = true ↔ s ≠ [] ∧ ∀ c ∈ s, isDigit unicode c = true := by
  rw [digitRun, ← mapM_decimalDigit_isSome]
  split <;> simp [*]

theorem isDigit_false {c : Nat} (low : c < 0x80) (outside : c < 0x30 ∨ 0x39 < c) :
    isDigit unicode c = false := by
  rw [isDigit, decimalDigit_none unicode low outside]
  rfl

theorem point_not_digit : isDigit unicode 0x2e = false :=
  isDigit_false (by decide) (.inl (by decide))

theorem plain_digits {whole : Str} (digits : ∀ c ∈ whole, isDigit unicode c = true) :
    0x2e ∉ whole := by
  intro member
  have := digits 0x2e member
  rw [point_not_digit] at this
  cases this

theorem matchValue_isSome (s : Str) :
    (matchValue unicode s).isSome = true ↔ ∃ whole fraction, s = whole ++ fraction ∧
      (whole ≠ [] ∧ ∀ c ∈ whole, isDigit unicode c = true) ∧
      (fraction = [] ∨ ∃ run, (run ≠ [] ∧ ∀ c ∈ run, isDigit unicode c = true) ∧
        fraction = 0x2e :: run) := by
  constructor
  · intro found
    by_cases point : 0x2e ∈ s
    · obtain ⟨whole, run, rfl, plain⟩ := List.eq_append_cons_of_mem point
      rw [matchValue_of_point plain] at found
      cases first : digitRun unicode whole with
      | none => simp [first] at found
      | some digits =>
          cases second : digitRun unicode run with
          | none => simp [first, second] at found
          | some more =>
              have before := (digitRun_isSome whole).1 (by rw [first]; rfl)
              have after := (digitRun_isSome run).1 (by rw [second]; rfl)
              exact ⟨whole, 0x2e :: run, rfl, before, .inr ⟨run, after, rfl⟩⟩
    · rw [matchValue_of_whole point, Option.isSome_map] at found
      exact ⟨s, [], (List.append_nil s).symm, (digitRun_isSome s).1 found, .inl rfl⟩
  · rintro ⟨whole, fraction, rfl, digits, rfl | ⟨run, more, rfl⟩⟩
    · rw [List.append_nil, matchValue_of_whole (plain_digits digits.2), Option.isSome_map]
      exact (digitRun_isSome whole).2 digits
    · obtain ⟨first, before⟩ := Option.isSome_iff_exists.1 ((digitRun_isSome whole).2 digits)
      obtain ⟨second, after⟩ := Option.isSome_iff_exists.1 ((digitRun_isSome run).2 more)
      rw [matchValue_of_point (plain_digits digits.2), before, after]
      rfl

theorem shape_iff_matchValue (s : Str) :
    DurationShape (isDigit unicode · = true) s ↔
      ∃ n unit, s = n ++ [unit] ∧ (matchValue unicode n).isSome = true ∧ isUnit unit = true := by
  simp only [matchValue_isSome, isUnit_iff]
  constructor
  · rintro ⟨whole, fraction, unit, rfl, digits, shape, known⟩
    exact ⟨whole ++ fraction, unit, by simp, ⟨whole, fraction, rfl, digits, shape⟩, known⟩
  · rintro ⟨n, unit, rfl, ⟨whole, fraction, rfl, digits, shape⟩, known⟩
    exact ⟨whole, fraction, unit, by simp, digits, shape, known⟩

theorem unit_not_newline {unit : Nat} (known : unit ∈ text "smhd") : unit ≠ newline := by
  rintro rfl
  exact absurd known (by decide)

theorem looseShape_iff (s : Str) :
    LooseShape unicode s ↔ DurationShape (isDigit unicode · = true) (chopNewline s) := by
  constructor
  · rintro ⟨n, rest, rfl, shape, rfl | rfl⟩
    · obtain ⟨whole, fraction, unit, rfl, digits, shape, known⟩ := shape
      have last : (whole ++ (fraction ++ [unit])).getLast? = some unit := by simp
      rw [List.append_nil, chopNewline, last, if_neg]
      · exact ⟨whole, fraction, unit, rfl, digits, shape, known⟩
      · simpa using unit_not_newline known
    · simpa [chopNewline, newline] using shape
  · intro shape
    by_cases last : s.getLast? = some newline
    · rw [chopNewline, if_pos last] at shape
      obtain ⟨n, rfl⟩ := List.getLast?_eq_some_iff.1 last
      rw [List.dropLast_concat] at shape
      exact ⟨n, [newline], rfl, shape, .inr rfl⟩
    · rw [chopNewline, if_neg last] at shape
      exact ⟨s, [], (List.append_nil s).symm, shape, .inl rfl⟩

theorem matchDuration_isSome (s : Str) :
    (matchDuration unicode s).isSome = true ↔ LooseShape unicode s := by
  rw [looseShape_iff, shape_iff_matchValue, matchDuration]
  generalize chopNewline s = t
  constructor
  · intro found
    cases last : t.getLast? with
    | none => simp [last] at found
    | some unit =>
        obtain ⟨n, rfl⟩ := List.getLast?_eq_some_iff.1 last
        simp only [last, List.dropLast_concat, Option.bind_eq_bind, Option.bind_some] at found
        obtain ⟨v, found⟩ := Option.isSome_iff_exists.1 found
        obtain ⟨u, known, found⟩ := Option.bind_eq_some_iff.1 found
        obtain ⟨value, parsed, -⟩ := Option.bind_eq_some_iff.1 found
        exact ⟨n, unit, rfl, by rw [parsed]; rfl, by rw [isUnit, known]; rfl⟩
  · rintro ⟨n, unit, rfl, value, known⟩
    obtain ⟨v, value⟩ := Option.isSome_iff_exists.1 value
    obtain ⟨u, known⟩ := Option.isSome_iff_exists.1 known
    simp [value, known]

end Reading

def Slips (unicode : Unicode) (s : Str) : Prop :=
  LooseShape unicode s ∧
    (s.getLast? = some newline ∨ ∃ c ∈ s, isDigit unicode c = true ∧ c ∉ text "0123456789")

theorem isDigit_of_ascii (unicode : Unicode) {c : Nat} (member : c ∈ text "0123456789") :
    isDigit unicode c = true := by
  have range : ∀ c ∈ text "0123456789", ∃ d < 10, c = 0x30 + d := by decide
  obtain ⟨d, small, rfl⟩ := range c member
  rw [isDigit, decimalDigit_ascii unicode small]
  rfl

theorem DurationShape.mono {p q : Nat → Prop} {s : Str} (shape : DurationShape p s)
    (weaker : ∀ c ∈ s, p c → q c) : DurationShape q s := by
  obtain ⟨whole, fraction, unit, rfl, ⟨nonempty, digits⟩, rest, known⟩ := shape
  refine ⟨whole, fraction, unit, rfl, ⟨nonempty, ?_⟩, ?_, known⟩
  · intro c member
    exact weaker c (by simp [member]) (digits c member)
  · rcases rest with rfl | ⟨run, ⟨some_, more⟩, rfl⟩
    · exact .inl rfl
    · refine .inr ⟨run, ⟨some_, ?_⟩, rfl⟩
      intro c member
      exact weaker c (by simp [member]) (more c member)

theorem DurationGrammar.chars {unicode : Unicode} {s : Str} (grammar : DurationGrammar s) :
    ∀ c ∈ s, isDigit unicode c = true → c ∈ text "0123456789" := by
  obtain ⟨whole, fraction, unit, rfl, ⟨-, digits⟩, rest, known⟩ := grammar
  have units : ∀ c ∈ text "smhd", c < 0x80 ∧ 0x39 < c := by decide
  have last : isDigit unicode unit = false :=
    isDigit_false (units unit known).1 (.inr (units unit known).2)
  intro c member digit
  rcases List.mem_append.1 member with first | second
  · exact digits c first
  · rcases List.mem_append.1 second with middle | final
    · rcases rest with rfl | ⟨run, ⟨-, more⟩, rfl⟩
      · cases middle
      · rcases List.mem_cons.1 middle with rfl | later
        · rw [point_not_digit] at digit
          cases digit
        · exact more c later
    · obtain rfl := List.mem_singleton.1 final
      rw [last] at digit
      cases digit

theorem DurationShape.getLast {p : Nat → Prop} {s : Str} (shape : DurationShape p s) :
    s.getLast? ≠ some newline := by
  obtain ⟨whole, fraction, unit, rfl, -, -, known⟩ := shape
  have last : (whole ++ (fraction ++ [unit])).getLast? = some unit := by simp
  rw [last]
  simpa using unit_not_newline known

theorem grammar_iff (unicode : Unicode) (s : Str) :
    DurationGrammar s ↔ LooseShape unicode s ∧ ¬ Slips unicode s := by
  constructor
  · intro grammar
    have loose : LooseShape unicode s :=
      ⟨s, [], (List.append_nil s).symm, grammar.mono fun c _ => isDigit_of_ascii unicode,
        .inl rfl⟩
    refine ⟨loose, ?_⟩
    rintro ⟨-, ended | ⟨c, member, digit, foreign⟩⟩
    · exact grammar.getLast ended
    · exact foreign (grammar.chars c member digit)
  · rintro ⟨loose, exact_⟩
    have ended : s.getLast? ≠ some newline := fun ended => exact_ ⟨loose, .inl ended⟩
    have ascii : ∀ c ∈ s, isDigit unicode c = true → c ∈ text "0123456789" := by
      intro c member digit
      by_contra foreign
      exact exact_ ⟨loose, .inr ⟨c, member, digit, foreign⟩⟩
    obtain ⟨n, rest, rfl, shape, rfl | rfl⟩ := loose
    · rw [List.append_nil] at ascii ⊢
      exact shape.mono ascii
    · exact absurd (by simp) ended

/-! ## The options classes -/

def Accepted (unicode : Unicode) (duration : Option Str) : Prop :=
  ∀ s, duration = some s → s ≠ [] → (matchDuration unicode s).isSome = true

theorem matches_isNone (unicode : Unicode) (s : Str) :
    (!decide ((optionsPattern unicode).Matches newline s)) = (matchDuration unicode s).isNone := by
  have same : decide ((optionsPattern unicode).Matches newline s) =
      (matchDuration unicode s).isSome := by
    rw [Bool.eq_iff_iff, decide_eq_true_eq, matches_optionsPattern, matchDuration_isSome]
  rw [same, Option.not_isSome]

theorem checkDuration_lease (unicode : Unicode) (duration : Option Str) :
    checkDuration unicode (text "lease_duration") duration =
      if duration.any fun s => s ≠ [] && (matchDuration unicode s).isNone then
        .error (valueError (text
          "lease_duration must be in format '[number]unit', e.g., '5s', '2m', '3.5m', '3d'."))
      else pure () := by
  have message : text "lease_duration" ++
      text " must be in format '[number]unit', e.g., '5s', '2m', '3.5m', '3d'." = text
        "lease_duration must be in format '[number]unit', e.g., '5s', '2m', '3.5m', '3d'." := by
    rw [← text_append]
    simp
  simp only [checkDuration, matches_isNone, message]
  rfl

theorem checkDuration_ok (unicode : Unicode) (name : Str) (duration : Option Str) :
    checkDuration unicode name duration = .ok () ↔ Accepted unicode duration := by
  rw [checkDuration, Accepted]
  simp only [matches_isNone]
  cases duration with
  | none => simp
  | some s =>
      by_cases empty : s = []
      · simp [empty]
      · cases found : matchDuration unicode s <;> simp [empty, found]

/-- The pattern of `string_to_duration` and the constructors of the options, beside the checks of
their other fields. -/
structure FormatsAgree (unicode : Unicode) : Prop where
  pattern : ∀ s, (durationPattern unicode).Matches newline s ↔ (matchDuration unicode s).isSome = true
  request : ∀ s, s ≠ [] →
    (stringToDuration unicode s = .error (valueError (text "Invalid duration format: " ++ s)) ↔
      (matchDuration unicode s).isSome = false)
  leasePolicy : ∀ opts : LeasePolicyOptions, opts.postInit unicode = .ok () ↔
    (∀ n, opts.maxRenewals = some n → 0 ≤ n ∧ n ≤ 2 ^ 31 - 1) ∧
      ∀ duration ∈ [opts.baseLease, opts.maxExtension, opts.heartbeatTimeout, opts.extendStep],
        Accepted unicode duration
  message : ∀ opts : PostMessageOptions, opts.postInit unicode = .ok () ↔
    (0 ≤ opts.priority ∧ opts.priority ≤ 4) ∧ Accepted unicode opts.leaseDuration
  queue : ∀ opts : QueueOptions, opts.postInit unicode = .ok () ↔ Accepted unicode opts.leaseDuration
  schedule : ∀ opts : ScheduleOptions, opts.postInit unicode = .ok () ↔
    (∀ n, opts.priority = some n → 0 ≤ n ∧ n ≤ 4) ∧ (opts.hasCron = true ↔ opts.hasCalendar = false) ∧
      Accepted unicode opts.leaseDuration

theorem validateInteger_eq_ok {value : Int} {name : Str} {minimum maximum : Int} :
    validateInteger value name minimum maximum = .ok () ↔ minimum ≤ value ∧ value ≤ maximum := by
  rw [validateInteger]
  split <;> simp [*]

theorem stringToDuration_format {unicode : Unicode} {s : Str} (given : s ≠ []) :
    stringToDuration unicode s = .error (valueError (text "Invalid duration format: " ++ s)) ↔
      (matchDuration unicode s).isSome = false := by
  cases found : matchDuration unicode s with
  | none => simp [stringToDuration, given, found]
  | some t =>
      have message {other : Str} (first : other.head? = some 0x44) :
          valueError other ≠ valueError (text "Invalid duration format: " ++ s) := by
        intro same
        rw [(Exc.mk.inj same).2] at first
        cases first
      rw [stringToDuration_of_match found]
      split
      · simp [decimalOverflow, valueError]
      split
      · simpa using message rfl
      · split
        · simpa using message rfl
        · simp

theorem formatsAgree (unicode : Unicode) : FormatsAgree unicode where
  pattern s := by rw [matches_durationPattern, matchDuration_isSome]
  request s := stringToDuration_format
  leasePolicy opts := by
    simp only [List.forall_mem_cons, List.not_mem_nil, false_implies, implies_true, and_true]
    rw [LeasePolicyOptions.postInit]
    cases opts.maxRenewals with
    | none => simp only [seq_ok, checkDuration_ok, reduceCtorEq, false_implies, implies_true, true_and]
    | some n =>
        simp only [seq_ok, checkDuration_ok, validateInteger_eq_ok, Option.some.injEq, forall_eq']
  message opts := by
    rw [PostMessageOptions.postInit]
    simp only [seq_ok, checkDuration_ok, validateInteger_eq_ok]
  queue opts := checkDuration_ok _ _ _
  schedule opts := by
    rw [ScheduleOptions.postInit]
    simp only [← checkDuration_lease]
    have exclusive : (opts.hasCron = true ↔ opts.hasCalendar = false) ↔
        ¬ (opts.hasCron && opts.hasCalendar) = true ∧ ¬ (!opts.hasCron && !opts.hasCalendar) = true := by
      cases opts.hasCron <;> cases opts.hasCalendar <;> decide
    rw [exclusive]
    cases opts.priority with
    | none =>
        simp only [seq_ok, guard_eq_ok, checkDuration_ok, reduceCtorEq, false_implies, implies_true,
          true_and, and_assoc]
    | some n =>
        simp only [seq_ok, guard_eq_ok, checkDuration_ok, validateInteger_eq_ok, Option.some.injEq,
          forall_eq', and_assoc]

theorem durationGrammar_iff (unicode : Unicode) (s : Str) :
    (((matchDuration unicode s).isSome = true ↔ DurationGrammar s) ↔ ¬ Slips unicode s) ∧
      FormatsAgree unicode := by
  refine ⟨?_, formatsAgree unicode⟩
  rw [matchDuration_isSome, grammar_iff unicode]
  constructor
  · intro same slips
    exact (same.1 slips.1).2 slips
  · intro exact_
    exact ⟨fun loose => ⟨loose, exact_⟩, And.left⟩

theorem not_durationGrammar_newline :
    ¬ ∀ s, s ≠ [] → ((matchDuration unicode15 s).isSome = true ↔ DurationGrammar s) := by
  intro claimed
  have accepted : (matchDuration unicode15 (text "5s\n")).isSome = true := by decide
  have grammar := (claimed (text "5s\n") (by decide)).1 accepted
  exact grammar.getLast (by decide)

end Nzovu
