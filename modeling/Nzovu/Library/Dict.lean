import Mathlib.Data.List.Nodup

/-!
# Insertion-ordered dictionaries

A dictionary keeps its entries in the order in which their keys were first set, at most one for
each key.
-/

structure Dict (κ ν : Type*) where
  entries : List (κ × ν)
  nodup : (entries.map Prod.fst).Nodup
deriving DecidableEq

namespace Dict

variable {κ ν : Type*}

def empty : Dict κ ν := ⟨[], List.nodup_nil⟩

def keys (d : Dict κ ν) : List κ := d.entries.map Prod.fst

def values (d : Dict κ ν) : List ν := d.entries.map Prod.snd

variable [DecidableEq κ]

def get? (d : Dict κ ν) (k : κ) : Option ν := (d.entries.find? (·.1 = k)).map Prod.snd

def erase (d : Dict κ ν) (k : κ) : Dict κ ν where
  entries := d.entries.filter (·.1 ≠ k)
  nodup := (List.filter_sublist.map Prod.fst).nodup d.nodup

/-- An existing entry keeps its place, a new one comes last. -/
def set (d : Dict κ ν) (k : κ) (v : ν) : Dict κ ν :=
  if h : k ∈ d.keys then
    { entries := d.entries.map fun e => if e.1 = k then (k, v) else e
      nodup := by
        have same : (d.entries.map fun e => if e.1 = k then (k, v) else e).map Prod.fst =
            d.entries.map Prod.fst := by
          rw [List.map_map]
          apply List.map_congr_left
          intro e _
          by_cases hit : e.1 = k <;> simp [hit]
        rw [same]
        exact d.nodup }
  else
    { entries := d.entries ++ [(k, v)]
      nodup := by
        rw [List.map_append, List.nodup_append]
        refine ⟨d.nodup, List.nodup_singleton _, ?_⟩
        rintro a present b last rfl
        rw [List.map_singleton, List.mem_singleton] at last
        subst last
        exact h present }

theorem get?_eq_some {d : Dict κ ν} {k : κ} {v : ν} : d.get? k = some v ↔ (k, v) ∈ d.entries := by
  obtain ⟨entries, nodup⟩ := d
  simp only [get?]
  induction entries with
  | nil => simp
  | cons e rest ih =>
      obtain ⟨k', v'⟩ := e
      rw [List.map_cons, List.nodup_cons] at nodup
      by_cases hit : k' = k
      · subst hit
        have absent : (k', v) ∉ rest := fun later => nodup.1 (List.mem_map.2 ⟨_, later, rfl⟩)
        simp [absent, eq_comm]
      · simpa [hit, Ne.symm hit] using ih nodup.2

theorem get?_eq_none {d : Dict κ ν} {k : κ} : d.get? k = none ↔ k ∉ d.keys := by
  rw [Option.eq_none_iff_forall_ne_some]
  simp [get?_eq_some, keys]

theorem mem_values {d : Dict κ ν} {v : ν} : v ∈ d.values ↔ ∃ k, d.get? k = some v := by
  simp [values, get?_eq_some]

@[simp]
theorem get?_empty (k : κ) : (empty : Dict κ ν).get? k = none := rfl

theorem get?_erase (d : Dict κ ν) (k k' : κ) :
    (d.erase k).get? k' = if k' = k then none else d.get? k' := by
  apply Option.ext
  intro v
  rw [get?_eq_some]
  by_cases hit : k' = k
  · simp [erase, hit]
  · simp [erase, hit, get?_eq_some]

theorem get?_set (d : Dict κ ν) (k k' : κ) (v : ν) :
    (d.set k v).get? k' = if k' = k then some v else d.get? k' := by
  apply Option.ext
  intro u
  rw [get?_eq_some]
  by_cases present : k ∈ d.keys
  · obtain ⟨old, place⟩ : ∃ old, (k, old) ∈ d.entries := by simpa [keys] using present
    by_cases hit : k' = k
    · subst hit
      simp only [set, present, ↓reduceDIte, List.mem_map, ↓reduceIte, Option.some.injEq]
      constructor
      · rintro ⟨⟨a, b⟩, member, same⟩
        by_cases here : a = k'
        · simpa [here] using same
        · rw [if_neg here] at same
          exact (here (congrArg Prod.fst same)).elim
      · rintro rfl
        exact ⟨_, place, by simp⟩
    · simp only [set, present, ↓reduceDIte, List.mem_map, hit, ↓reduceIte, get?_eq_some]
      constructor
      · rintro ⟨⟨a, b⟩, member, same⟩
        by_cases here : a = k
        · simp only [here, ↓reduceIte, Prod.mk.injEq] at same
          exact (hit same.1.symm).elim
        · rw [if_neg here] at same
          rw [← same]
          exact member
      · intro member
        exact ⟨_, member, by simp [hit]⟩
  · have absent := get?_eq_none.2 present
    by_cases hit : k' = k
    · subst hit
      have nowhere : (k', u) ∉ d.entries := fun member => by
        rw [get?_eq_some.2 member] at absent
        cases absent
      simp [set, present, nowhere, eq_comm]
    · simp [set, present, hit, get?_eq_some]

theorem erase_set {d : Dict κ ν} {k : κ} (new : d.get? k = none) (v : ν) :
    (d.set k v).erase k = d := by
  have absent := get?_eq_none.1 new
  have others : d.entries.filter (·.1 ≠ k) = d.entries := by
    rw [List.filter_eq_self]
    intro e member
    have : e.1 ≠ k := fun same => absent (List.mem_map.2 ⟨e, member, same⟩)
    simpa using this
  obtain ⟨entries, nodup⟩ := d
  simp only [erase, set, absent, ↓reduceDIte, List.filter_append, others, mk.injEq]
  simp

theorem mem_keys_iff {d : Dict κ ν} {k : κ} : k ∈ d.keys ↔ d.get? k ≠ none := by
  rw [ne_eq, get?_eq_none, not_not]

theorem mem_keys_set {d : Dict κ ν} {k k' : κ} {v : ν} :
    k' ∈ (d.set k v).keys ↔ k' = k ∨ k' ∈ d.keys := by
  rw [mem_keys_iff, mem_keys_iff, get?_set]
  by_cases hit : k' = k <;> simp [hit]

theorem mem_values_erase {d : Dict κ ν} {k : κ} {v : ν} (member : v ∈ (d.erase k).values) :
    v ∈ d.values := by
  obtain ⟨k', here⟩ := mem_values.1 member
  rw [get?_erase] at here
  split at here
  · cases here
  · exact mem_values.2 ⟨k', here⟩

section Map
variable {μ : Type*} (f : ν → μ)

omit [DecidableEq κ] in
@[ext]
theorem ext {d d' : Dict κ ν} (same : d.entries = d'.entries) : d = d' := by
  cases d
  cases d'
  congr

def map (d : Dict κ ν) : Dict κ μ where
  entries := d.entries.map fun e => (e.1, f e.2)
  nodup := by
    rw [List.map_map]
    exact d.nodup

omit [DecidableEq κ] in
theorem keys_map (d : Dict κ ν) : (d.map f).keys = d.keys := by
  rw [keys, map, List.map_map]
  rfl

theorem get?_map (d : Dict κ ν) (k : κ) : (d.map f).get? k = (d.get? k).map f := by
  rw [get?, get?, map, List.find?_map, Option.map_map, Option.map_map]
  rfl

theorem map_erase (d : Dict κ ν) (k : κ) : (d.erase k).map f = (d.map f).erase k := by
  apply ext
  simp only [map, erase, List.filter_map]
  rfl

theorem entries_set (d : Dict κ ν) (k : κ) (v : ν) :
    (d.set k v).entries =
      if k ∈ d.keys then d.entries.map fun e => if e.1 = k then (k, v) else e
      else d.entries ++ [(k, v)] := by
  rw [set]
  split <;> rfl

theorem map_set (d : Dict κ ν) (k : κ) (v : ν) : (d.set k v).map f = (d.map f).set k (f v) := by
  apply ext
  rw [entries_set, keys_map]
  change (d.set k v).entries.map (fun e => (e.1, f e.2)) = _
  rw [entries_set]
  split
  · simp only [map, List.map_map]
    apply List.map_congr_left
    intro e _
    by_cases hit : e.1 = k <;> simp [hit]
  · simp only [map, List.map_append, List.map_singleton]

omit [DecidableEq κ] in
theorem map_congr {d : Dict κ ν} {f g : ν → μ} (same : ∀ v ∈ d.values, f v = g v) :
    d.map f = d.map g := by
  apply ext
  apply List.map_congr_left
  intro e member
  rw [same e.2 (List.mem_map_of_mem member)]

end Map

end Dict
