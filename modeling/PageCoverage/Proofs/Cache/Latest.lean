import PageCoverage.Cache
import Mathlib.Data.List.Nodup

namespace PageCoverage

/-- The latest record of each id among those taken, in the order in which the ids first came. -/
structure Latest (taken kept : List Record) : Prop where
  ids : kept.map Record.id = (taken.map Record.id).eraseDups
  last : ∀ r ∈ kept, (taken.filter (·.id = r.id)).getLast? = some r

theorem latest_nil : Latest [] [] := ⟨rfl, by simp⟩

theorem Latest.mem_ids_iff {taken kept : List Record} (h : Latest taken kept) {id : ResourceId} :
    id ∈ kept.map Record.id ↔ ∃ r ∈ taken, r.id = id := by
  rw [h.ids, List.mem_eraseDups, List.mem_map]

/-- What is kept of an id is the last record taken of it, if any. -/
theorem Latest.mem_iff {taken kept : List Record} (h : Latest taken kept) {r : Record} :
    r ∈ kept ↔ (taken.filter (·.id = r.id)).getLast? = some r := by
  refine ⟨h.last r, fun hlast => ?_⟩
  have htaken : r ∈ taken := List.mem_of_mem_filter (List.mem_of_getLast? hlast)
  obtain ⟨q, hq, hid⟩ := List.mem_map.mp (h.mem_ids_iff.mpr ⟨r, htaken, rfl⟩)
  have hqlast := h.last q hq
  rw [hid, hlast] at hqlast
  rwa [Option.some.inj hqlast]

namespace Cache

/-- The index finds the place of each id, and nothing else. -/
def Indexed (c : Cache) : Prop := ∀ id i, c.slot? id = some i ↔ (c.records[i]?).map Record.id = some id

theorem indexed_clear (c : Cache) : c.clear.Indexed := by
  intro id i
  simp [slot?, clear]

theorem slot?_eq_none_iff {c : Cache} (h : c.Indexed) {id : ResourceId} :
    c.slot? id = none ↔ id ∉ c.records.map Record.id := by
  rw [Option.eq_none_iff_forall_ne_some, List.mem_iff_getElem?, not_exists]
  simp only [ne_eq, h id, List.getElem?_map]

theorem nodup_ids {c : Cache} (h : c.Indexed) : (c.records.map Record.id).Nodup := by
  rw [List.nodup_iff_getElem?_ne_getElem?]
  intro i j hij hj heq
  rw [List.length_map] at hj
  rw [List.getElem?_map, List.getElem?_map, List.getElem?_eq_getElem hj] at heq
  have hi := (h c.records[j].id i).mpr heq
  have hj' := (h c.records[j].id j).mpr (by rw [List.getElem?_eq_getElem hj]; rfl)
  have := Option.some.inj (hi.symm.trans hj')
  omega

theorem put_of_slot {c : Cache} {r : Record} {i : Nat} (hi : c.slot? r.id = some i) :
    c.put r = { c with records := c.records.set i r } := by
  simp only [put, hi]

theorem put_of_no_slot {c : Cache} {r : Record} (hnone : c.slot? r.id = none) :
    c.put r = { c with records := c.records ++ [r], index := (r.id, c.records.length) :: c.index } := by
  simp only [put, hnone]

/-- Replacing a record in its place changes no id. -/
theorem map_id_set {c : Cache} (h : c.Indexed) {r : Record} {i : Nat} (hi : c.slot? r.id = some i) :
    (c.records.set i r).map Record.id = c.records.map Record.id := by
  have hat := (h r.id i).mp hi
  rw [← List.getElem?_map] at hat
  obtain ⟨hlt, heq⟩ := List.getElem?_eq_some_iff.mp hat
  rw [List.map_set, ← heq, List.set_getElem_self]

theorem slot?_put_of_no_slot {c : Cache} {r : Record} (hnone : c.slot? r.id = none) (id : ResourceId) :
    (c.put r).slot? id = if id = r.id then some c.records.length else c.slot? id := by
  rw [put_of_no_slot hnone, slot?, List.lookup_cons]
  by_cases hid : id = r.id
  · simp [hid]
  · rw [beq_eq_false_iff_ne.mpr hid, if_neg hid, slot?]

theorem indexed_put {c : Cache} (h : c.Indexed) (r : Record) : (c.put r).Indexed := by
  intro id j
  cases hi : c.slot? r.id with
  | some i =>
    rw [← List.getElem?_map, put_of_slot hi, map_id_set h hi, List.getElem?_map]
    exact h id j
  | none =>
    have hrecords : (c.put r).records = c.records ++ [r] := by rw [put_of_no_slot hi]
    rw [slot?_put_of_no_slot hi, hrecords]
    rcases Nat.lt_trichotomy j c.records.length with hlt | rfl | hgt
    · -- An old place: the id there is not the new one.
      rw [List.getElem?_append_left hlt, ← h id j]
      split
      next hid =>
        rw [hid, hi]
        simp only [Option.some.injEq, reduceCtorEq, iff_false]
        omega
      next hid => rfl
    · have hno : c.slot? id ≠ some c.records.length := by simp [h id]
      by_cases hid : id = r.id
      · simp [hid]
      · simpa [hid, Ne.symm hid] using hno
    · have hout : (c.records ++ [r])[j]? = none := List.getElem?_eq_none (by rw [List.length_append]; exact hgt)
      have hno : c.slot? id ≠ some j := by simp [h id, List.getElem?_eq_none (Nat.le_of_lt hgt)]
      rw [hout]
      split
      next hid => simp [Nat.ne_of_lt hgt]
      next hid => simpa using hno

theorem mem_put_self {c : Cache} (h : c.Indexed) (r : Record) : r ∈ (c.put r).records := by
  cases hi : c.slot? r.id with
  | some i =>
    obtain ⟨old, hold, -⟩ := Option.map_eq_some_iff.mp ((h r.id i).mp hi)
    obtain ⟨hlt, -⟩ := List.getElem?_eq_some_iff.mp hold
    rw [put_of_slot hi]
    exact List.mem_set hlt r
  | none => simp [put_of_no_slot hi]

theorem mem_of_mem_records_put {c : Cache} {r x : Record} (h : x ∈ (c.put r).records) : x ∈ c.records ∨ x = r := by
  rw [put] at h
  split at h
  · exact List.mem_or_eq_of_mem_set h
  · exact (List.mem_append.mp h).imp_right List.mem_singleton.mp

/-- Any record other than the one put in was there before and has another id. -/
theorem mem_of_mem_put {c : Cache} (h : c.Indexed) {r x : Record} (hx : x ∈ (c.put r).records)
    (hne : x ≠ r) : x ∈ c.records ∧ x.id ≠ r.id := by
  have hold : x ∈ c.records := (mem_of_mem_records_put hx).resolve_right hne
  exact ⟨hold, fun hid =>
    hne (List.inj_on_of_nodup_map (nodup_ids (indexed_put h r)) hx (mem_put_self h r) hid)⟩

theorem latest_put {c : Cache} {taken : List Record} (h : c.Indexed) (latest : Latest taken c.records)
    (r : Record) : Latest (taken ++ [r]) (c.put r).records := by
  have hold : c.slot? r.id = none ↔ r.id ∉ taken.map Record.id := by
    rw [slot?_eq_none_iff h, latest.ids, List.mem_eraseDups]
  constructor
  · rw [List.map_append, List.eraseDups_append, ← latest.ids]
    cases hi : c.slot? r.id with
    | some i =>
      have hmem : r.id ∈ taken.map Record.id := by
        by_contra hnot
        simp [hold.mpr hnot] at hi
      rw [put_of_slot hi, map_id_set h hi, List.map_singleton, List.removeAll,
        List.filter_cons_of_neg (by simpa using hmem)]
      simp
    | none =>
      have hnot := hold.mp hi
      rw [put_of_no_slot hi, List.map_append, List.map_singleton, List.removeAll,
        List.filter_cons_of_pos (by simpa using hnot)]
      rfl
  · intro x hx
    rw [List.filter_append]
    by_cases hxr : x = r
    · simp [hxr]
    · obtain ⟨hmem, hid⟩ := mem_of_mem_put h hx hxr
      simpa [Ne.symm hid] using latest.last x hmem

/-- An insert puts the record in or changes nothing. -/
theorem insert_cases (c : Cache) (generation : UInt64) (r : Record) :
    c.insert generation r = (true, c.put r) ∨ c.insert generation r = (false, c) := by
  rw [insert]
  split
  · exact .inl rfl
  · exact .inr rfl

theorem generation_put (c : Cache) (r : Record) : (c.put r).generation = c.generation := by
  rw [put]
  split <;> rfl

theorem accepting_put (c : Cache) (r : Record) : (c.put r).accepting = c.accepting := by
  rw [put]
  split <;> rfl

theorem generation_insert (c : Cache) (generation : UInt64) (r : Record) :
    (c.insert generation r).2.generation = c.generation := by
  obtain h | h := c.insert_cases generation r <;> rw [h]
  exact generation_put c r

theorem accepting_insert (c : Cache) (generation : UInt64) (r : Record) :
    (c.insert generation r).2.accepting = c.accepting := by
  obtain h | h := c.insert_cases generation r <;> rw [h]
  exact accepting_put c r

theorem indexed_insert {c : Cache} (hc : c.Indexed) (generation : UInt64) (r : Record) :
    (c.insert generation r).2.Indexed := by
  obtain h | h := c.insert_cases generation r <;> rw [h]
  · exact indexed_put hc r
  · exact hc

theorem mem_of_mem_insert {c : Cache} {generation : UInt64} {r x : Record}
    (hx : x ∈ (c.insert generation r).2.records) : x ∈ c.records ∨ x = r := by
  obtain h | h := c.insert_cases generation r <;> rw [h] at hx
  · exact mem_of_mem_records_put hx
  · exact .inl hx

theorem insert_of_present {c : Cache} (accepting : c.accepting = true) (r : Record) :
    (c.insert c.generation r).2 = c.put r := by
  rw [insert, if_pos ⟨accepting, rfl⟩]

theorem insert_of_refused {c : Cache} {generation : UInt64}
    (h : c.accepting = false ∨ generation ≠ c.generation) (r : Record) :
    (c.insert generation r).2 = c := by
  rw [insert, if_neg]
  rintro ⟨haccepting, rfl⟩
  simp [haccepting] at h

end Cache

end PageCoverage
