import Nzovu.Request.Message

/-!
# Admission of headers

The loop of `build_headers` stops at the first header that breaks a rule, and the limit on the total
is checked behind it. Together they admit the lists whose headers keep the rules and whose total keeps
the limit.
-/

namespace Nzovu

structure HeaderRules (header : Str × List UInt8) : Prop where
  nonempty : header.1 ≠ []
  letters : ∀ c ∈ header.1, c ∈ text "abcdefghijklmnopqrstuvwxyz0123456789-"
  free : ¬ text "x-nzovu-" <+: header.1 ∧ ¬ text "x-internal-" <+: header.1 ∧
    ¬ text "x-system-" <+: header.1
  size : header.2.length ≤ 4096

def asHeader (header : Str × List UInt8) : HeaderObject := .header (.str header.1) (.bytes header.2)

def HeaderObject.Admissible (object : HeaderObject) : Prop :=
  ∃ header, object = asHeader header ∧ HeaderRules header

def headerSize (header : Str × List UInt8) : Nat := header.1.length + header.2.length

def HeaderObject.size : HeaderObject → Nat
  | .header (.str key) (.bytes value) => headerSize (key, value)
  | _ => 0

theorem sizes_asHeader (headers : List (Str × List UInt8)) :
    (headers.map asHeader).map HeaderObject.size = headers.map headerSize := by
  rw [List.map_map]
  rfl

theorem isHeaderKeyChar_iff (c : Nat) :
    isHeaderKeyChar c = true ↔ c ∈ text "abcdefghijklmnopqrstuvwxyz0123456789-" := by
  by_cases ascii : c < 0x80
  · have small : ∀ c < 0x80, isHeaderKeyChar c = true ↔
        c ∈ text "abcdefghijklmnopqrstuvwxyz0123456789-" := by decide +kernel
    exact small c ascii
  · have bounded : ∀ c ∈ text "abcdefghijklmnopqrstuvwxyz0123456789-", c < 0x80 := by decide +kernel
    constructor
    · intro letter
      simp only [isHeaderKeyChar, Bool.or_eq_true, Bool.and_eq_true, decide_eq_true_eq,
        beq_iff_eq] at letter
      omega
    · intro member
      exact absurd (bounded c member) ascii

theorem isHeaderKey_iff (key : Str) :
    isHeaderKey key = true ↔
      key ≠ [] ∧ ∀ c ∈ key, c ∈ text "abcdefghijklmnopqrstuvwxyz0123456789-" := by
  simp only [isHeaderKey, Bool.and_eq_true, decide_eq_true_eq, List.all_eq_true,
    isHeaderKeyChar_iff]

theorem reserved_iff (key : Str) :
    reservedPrefixes.any (List.isPrefixOf · key) = false ↔
      ¬ text "x-nzovu-" <+: key ∧ ¬ text "x-internal-" <+: key ∧ ¬ text "x-system-" <+: key := by
  simp only [reservedPrefixes, List.any_cons, List.any_nil, Bool.or_false, Bool.or_eq_false_iff,
    ← List.isPrefixOf_iff_prefix, Bool.not_eq_true]

theorem checkHeader_eq_ok {object : HeaderObject} {header : Str × List UInt8} :
    checkHeader object = .ok header ↔ object = asHeader header ∧ HeaderRules header := by
  constructor
  · intro checked
    rw [checkHeader.eq_def] at checked
    split at checked
    · cases checked
    · split at checked
      · rename_i key
        split at checked
        · cases checked
        · rename_i letters
          split at checked
          · cases checked
          · rename_i free
            split at checked
            · split at checked
              · cases checked
              · rename_i value size
                cases checked
                have shape := (isHeaderKey_iff key).1 (by simpa using letters)
                have unreserved := (reserved_iff key).1 (by simpa using free)
                exact ⟨rfl, shape.1, shape.2, unreserved, by simpa using size⟩
            · cases checked
      · cases checked
  · rintro ⟨rfl, rules⟩
    have shape := (isHeaderKey_iff header.1).2 ⟨rules.nonempty, rules.letters⟩
    have unreserved := (reserved_iff header.1).2 rules.free
    have size := Nat.not_lt.2 rules.size
    simp only [checkHeader, asHeader, shape, unreserved, size, Bool.not_true, Bool.false_eq_true,
      ↓reduceIte]

/-! ## The loop and the limit behind it -/

theorem collectHeaders_eq_ok {headers : List HeaderObject} {result built : List (Str × List UInt8)}
    {total sum : Nat} :
    collectHeaders headers result total = .ok (built, sum) ↔
      ∃ added, headers = added.map asHeader ∧ (∀ header ∈ added, HeaderRules header) ∧
        built = result ++ added ∧ sum = total + (added.map headerSize).sum := by
  induction headers generalizing result total with
  | nil =>
      constructor
      · intro collected
        cases collected
        exact ⟨[], rfl, by simp, by simp, by simp⟩
      · rintro ⟨added, none, -, rfl, rfl⟩
        obtain rfl := List.map_eq_nil_iff.1 none.symm
        simp [collectHeaders]
  | cons object rest ih =>
      rw [collectHeaders, bind_eq_ok]
      constructor
      · rintro ⟨header, checked, collected⟩
        obtain ⟨rfl, rules⟩ := checkHeader_eq_ok.1 checked
        obtain ⟨added, rfl, kept, rfl, rfl⟩ := ih.1 collected
        refine ⟨header :: added, rfl, List.forall_mem_cons.2 ⟨rules, kept⟩, ?_, ?_⟩
        · rw [List.append_assoc, List.singleton_append]
        · rw [List.map_cons, List.sum_cons, headerSize, Nat.add_assoc]
      · rintro ⟨added, same, kept, rfl, rfl⟩
        cases added with
        | nil => cases same
        | cons header added =>
            obtain ⟨rfl, rfl⟩ := List.cons.inj same
            obtain ⟨rules, kept⟩ := List.forall_mem_cons.1 kept
            refine ⟨header, checkHeader_eq_ok.2 ⟨rfl, rules⟩, ih.2 ⟨added, rfl, kept, ?_, ?_⟩⟩
            · rw [List.append_assoc, List.singleton_append]
            · rw [List.map_cons, List.sum_cons, headerSize, ← Nat.add_assoc]

theorem buildHeaders_eq_ok {headers : List HeaderObject} {result : List (Str × List UInt8)} :
    buildHeaders headers = .ok result ↔
      headers = result.map asHeader ∧ (∀ header ∈ result, HeaderRules header) ∧
        (result.map headerSize).sum ≤ 32768 := by
  rw [buildHeaders, bind_eq_ok]
  constructor
  · rintro ⟨⟨built, total⟩, collected, passed⟩
    obtain ⟨added, rfl, kept, rfl, rfl⟩ := collectHeaders_eq_ok.1 collected
    simp only [Nat.zero_add] at passed
    split at passed
    · cases passed
    · rename_i within
      cases passed
      exact ⟨rfl, kept, Nat.not_lt.1 within⟩
  · rintro ⟨rfl, kept, within⟩
    refine ⟨(result, (result.map headerSize).sum),
      collectHeaders_eq_ok.2 ⟨result, rfl, kept, by simp, by simp⟩, ?_⟩
    simp only [if_neg (Nat.not_lt.2 within)]
    rfl

theorem admissible_iff (headers : List HeaderObject) :
    (∀ object ∈ headers, object.Admissible) ↔
      ∃ result : List (Str × List UInt8), headers = result.map asHeader ∧
        ∀ header ∈ result, HeaderRules header := by
  constructor
  · intro admissible
    induction headers with
    | nil => exact ⟨[], rfl, by simp⟩
    | cons object rest ih =>
        obtain ⟨⟨header, rfl, rules⟩, others⟩ := List.forall_mem_cons.1 admissible
        obtain ⟨result, rfl, kept⟩ := ih others
        exact ⟨header :: result, rfl, List.forall_mem_cons.2 ⟨rules, kept⟩⟩
  · rintro ⟨result, rfl, kept⟩ object member
    obtain ⟨header, listed, rfl⟩ := List.mem_map.1 member
    exact ⟨header, rfl, kept header listed⟩

theorem checkHeader_clean (header : HeaderObject) : Clean (checkHeader header) := by
  rw [checkHeader.eq_def]
  split
  · exact raises_valueError _
  · split
    · apply raises_ite (raises_valueError _)
      apply raises_ite (raises_valueError _)
      split
      · exact raises_ite (raises_valueError _) (raises_ok _)
      · exact raises_valueError _
    · exact raises_valueError _

theorem collectHeaders_clean (headers : List HeaderObject) (result : List (Str × List UInt8))
    (total : Nat) : Clean (collectHeaders headers result total) := by
  induction headers generalizing result total with
  | nil => exact raises_ok _
  | cons header rest ih => exact raises_bind (checkHeader_clean header) fun _ => ih _ _

theorem buildHeaders_clean (headers : List HeaderObject) : Clean (buildHeaders headers) := by
  apply raises_bind (collectHeaders_clean headers [] 0)
  rintro ⟨result, total⟩
  apply raises_ite
  · exact raises_bind (raises_valueError _) fun _ => raises_ok _
  · exact raises_ok _

theorem buildHeaders_admission (headers : List HeaderObject) :
    ((∃ result, buildHeaders headers = .ok result) ↔
      (∀ object ∈ headers, object.Admissible) ∧ (headers.map HeaderObject.size).sum ≤ 32768) ∧
    (∀ result, buildHeaders headers = .ok result → headers = result.map asHeader) ∧
    ∀ e, buildHeaders headers = .error e → e.isValueError = true := by
  refine ⟨?_, fun result built => (buildHeaders_eq_ok.1 built).1, fun e failed => ?_⟩
  · constructor
    · rintro ⟨result, built⟩
      obtain ⟨rfl, kept, within⟩ := buildHeaders_eq_ok.1 built
      exact ⟨(admissible_iff _).2 ⟨result, rfl, kept⟩, by rwa [sizes_asHeader]⟩
    · rintro ⟨admissible, within⟩
      obtain ⟨result, rfl, kept⟩ := (admissible_iff _).1 admissible
      rw [sizes_asHeader] at within
      exact ⟨result, buildHeaders_eq_ok.2 ⟨rfl, kept, within⟩⟩
  · exact decide_eq_true (buildHeaders_clean headers e failed)

end Nzovu
