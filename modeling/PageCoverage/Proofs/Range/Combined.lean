import PageCoverage.Proofs.Range.Canonical
import PageCoverage.Proofs.Range.Depth

namespace PageCoverage

theorem covers_append (as bs : List CoveredRange) (p : UInt32) :
    covers (as ++ bs) p = (covers as p || covers bs p) := List.any_append

/-- Ranges that span something are combined without loss and without gain. -/
theorem covers_combine {rs : List CoveredRange} (proper : ∀ r ∈ rs, r.start < r.stop) (p : UInt32) :
    covers (combine rs) p = covers rs p := by
  have hproper : ∀ r ∈ rs.map CoveredRange.toUsage, r.start < r.stop := List.forall_mem_map.mpr proper
  have hits : ∀ r ∈ rs.map CoveredRange.toUsage, 0 < r.hits := List.forall_mem_map.mpr fun _ _ => UInt32.zero_lt_one
  have around : (∃ r ∈ rs.map CoveredRange.toUsage, r.contains p = true) ↔ covers rs p = true := by
    rw [covers, ← List.any_eq_true, List.any_map]
    rfl
  rw [Bool.eq_iff_iff, combine, covers_flatten_of_proper hproper, ← around]
  exact ⟨exists_contains_of_isHit hproper, isHit_stackAt_of_contains hproper hits⟩

theorem combine_eq_iff {as bs : List CoveredRange} (has : ∀ r ∈ as, r.start < r.stop)
    (hbs : ∀ r ∈ bs, r.start < r.stop) : combine as = combine bs ↔ ∀ p, covers as p = covers bs p := by
  constructor
  · intro h p
    rw [← covers_combine has, h, covers_combine hbs]
  · intro h
    refine (canonical_flatten _).ext (canonical_flatten _) fun p => ?_
    rw [← Bool.eq_iff_iff]
    calc covers (combine as) p = covers as p := covers_combine has p
      _ = covers bs p := h p
      _ = covers (combine bs) p := (covers_combine hbs p).symm

theorem Canonical.combine_eq {rs : List CoveredRange} (h : Canonical rs) : combine rs = rs :=
  (canonical_flatten _).ext h fun p => by
    rw [← Bool.eq_iff_iff]
    exact covers_combine h.proper p

/-- Combining is a normal form: lists of ranges that span something come out the same exactly if they hold the
same offsets, so that neither order nor an earlier combination matters, and covered text stays as it is. -/
theorem combine_normal :
    (∀ as bs : List CoveredRange, (∀ r ∈ as, r.start < r.stop) → (∀ r ∈ bs, r.start < r.stop) →
      (combine as = combine bs ↔ ∀ p, (∃ r ∈ as, r.contains p = true) ↔ ∃ r ∈ bs, r.contains p = true) ∧
        combine (as ++ bs) = combine (bs ++ as) ∧ combine (combine as ++ bs) = combine (as ++ bs)) ∧
    ∀ rs : List UsageRange, combine (flatten rs) = flatten rs := by
  refine ⟨fun as bs has hbs => ⟨?_, ?_, ?_⟩, fun rs => (canonical_flatten rs).combine_eq⟩
  · rw [combine_eq_iff has hbs]
    exact forall_congr' fun p => by rw [Bool.eq_iff_iff, covers, covers, List.any_eq_true, List.any_eq_true]
  · have hab := List.forall_mem_append.mpr ⟨has, hbs⟩
    have hba := List.forall_mem_append.mpr ⟨hbs, has⟩
    rw [combine_eq_iff hab hba]
    intro p
    rw [covers_append, covers_append, Bool.or_comm]
  · have hcombined : ∀ r ∈ combine as, r.start < r.stop := (canonical_flatten _).proper
    rw [combine_eq_iff (List.forall_mem_append.mpr ⟨hcombined, hbs⟩) (List.forall_mem_append.mpr ⟨has, hbs⟩)]
    intro p
    rw [covers_append, covers_append, covers_combine has]

/-- Two runs have covered one text in pieces, some of it twice, and as a whole. -/
theorem combine_normal_pieces :
    let as : List CoveredRange := [⟨5, 9⟩, ⟨0, 5⟩, ⟨3, 7⟩]
    let bs : List CoveredRange := [⟨0, 9⟩]
    (∀ r ∈ as, r.start < r.stop) ∧ (∀ r ∈ bs, r.start < r.stop) ∧ combine as = combine bs ∧
      combine (as ++ bs) = combine (bs ++ as) ∧ combine (combine as ++ bs) = combine (as ++ bs) := by
  obtain ⟨hiff, hcomm, hagain⟩ := combine_normal.1 [⟨5, 9⟩, ⟨0, 5⟩, ⟨3, 7⟩] [⟨0, 9⟩] (by decide) (by decide)
  refine ⟨by decide, by decide, hiff.mpr fun p => ?_, hcomm, hagain⟩
  simp only [CoveredRange.contains, List.mem_cons, List.not_mem_nil, or_false, exists_eq_or_imp, exists_eq_left,
    Bool.and_eq_true, decide_eq_true_eq]
  grind

end PageCoverage
