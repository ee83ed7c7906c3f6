import PageCoverage.Json.Value
import PageCoverage.Schema.Distinct

namespace PageCoverage

namespace Members

variable {key : String} {ms acc : Members}

theorem get?_cons (k : String) (v : Value) (ms : Members) (key : String) :
    get? ((k, v) :: ms) key = if k = key then some v else get? ms key := rfl

/-- Where a member stands among others does not matter to those. -/
theorem get?_insert (k : String) (v : Value) (ms : Members) (key : String) :
    get? (insert k v ms) key = if k = key then some v else get? ms key := by
  induction ms with
  | nil => rfl
  | cons m ms ih =>
    obtain ⟨l, w⟩ := m
    rw [insert]
    by_cases hkl : k = l
    · subst hkl
      rw [if_pos rfl, get?_cons, get?_cons]
      split <;> rfl
    · rw [if_neg hkl]
      split
      · rw [get?_cons]
      · rw [get?_cons, ih, get?_cons]
        by_cases hlk : l = key
        · have hk : ¬k = key := fun h => hkl (h.trans hlk.symm)
          simp [hlk, hk]
        · simp [hlk]

theorem occurrences_cons (k : String) (v : Value) (ms : Members) (key : String) :
    occurrences key ((k, v) :: ms) = occurrences key ms + if k = key then 1 else 0 := by
  by_cases hk : k = key <;> simp [occurrences, hk]

theorem get?_eq_none_of_occurrences (h : occurrences key ms = 0) : get? ms key = none := by
  induction ms with
  | nil => rfl
  | cons m ms ih =>
    obtain ⟨k, v⟩ := m
    rw [occurrences_cons] at h
    have hk : ¬k = key := by
      intro heq
      simp [heq] at h
    rw [get?_cons, if_neg hk]
    exact ih (by omega)

theorem get?_eq_none (h : key ∉ ms.map Prod.fst) : get? ms key = none := by
  induction ms with
  | nil => rfl
  | cons m ms ih =>
    obtain ⟨hne, hrest⟩ := List.ne_and_not_mem_of_not_mem_cons h
    rw [get?_cons, if_neg hne.symm]
    exact ih hrest

theorem get?_foldl_insert (h : occurrences key ms ≤ 1) :
    get? (ms.foldl (fun acc m => insert m.1 m.2 acc) acc) key = (get? ms key).or (get? acc key) := by
  induction ms generalizing acc with
  | nil => rfl
  | cons m ms ih =>
    obtain ⟨k, v⟩ := m
    rw [occurrences_cons] at h
    rw [List.foldl_cons, ih (by omega), get?_insert, get?_cons]
    by_cases hk : k = key
    · have hnone : get? ms key = none := by
        refine get?_eq_none_of_occurrences ?_
        rw [if_pos hk] at h
        omega
      simp [hk, hnone]
    · simp [hk]

theorem get?_ordered (h : occurrences key ms ≤ 1) : get? (ordered ms) key = get? ms key := by
  rw [ordered, get?_foldl_insert h]
  exact Option.or_none

theorem get?_canonicalMembers (ms : Members) (key : String) :
    get? (Value.canonicalMembers ms) key = (get? ms key).map Value.canonical := by
  induction ms with
  | nil => rfl
  | cons m ms ih =>
    obtain ⟨k, v⟩ := m
    rw [Value.canonicalMembers, get?_cons, get?_cons, ih]
    split <;> rfl

theorem occurrences_canonicalMembers (ms : Members) (key : String) :
    occurrences key (Value.canonicalMembers ms) = occurrences key ms := by
  induction ms with
  | nil => rfl
  | cons m ms ih =>
    obtain ⟨k, v⟩ := m
    rw [Value.canonicalMembers, occurrences_cons, occurrences_cons, ih]

/-- A member that stands once is found in the canonical object, in its canonical form. -/
theorem get?_canonical (h : occurrences key ms ≤ 1) :
    get? (ordered (Value.canonicalMembers ms)) key = (get? ms key).map Value.canonical := by
  have hcanonical : occurrences key (Value.canonicalMembers ms) ≤ 1 := by
    rwa [occurrences_canonicalMembers]
  rw [get?_ordered hcanonical, get?_canonicalMembers]

theorem occurrences_le_one (h : (ms.map Prod.fst).Nodup) (key : String) : occurrences key ms ≤ 1 := by
  have hcount : occurrences key ms = (ms.map Prod.fst).count key := by
    rw [List.count, List.countP_map]
    rfl
  rw [hcount]
  exact List.nodup_iff_count.mp h key

end Members

namespace Value

theorem canonicalItems_eq (vs : List Value) : canonicalItems vs = vs.map canonical := by
  induction vs with
  | nil => rfl
  | cons v vs ih => rw [canonicalItems, ih, List.map_cons]

theorem canonical_eq_null {v : Value} : v.canonical = .null ↔ v = .null := by
  cases v <;> simp [canonical]

end Value

end PageCoverage
