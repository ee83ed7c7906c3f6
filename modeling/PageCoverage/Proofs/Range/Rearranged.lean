import PageCoverage.Proofs.Range.Monotone

namespace PageCoverage

/-- Whether two ranges start at one offset and have one length. -/
def UsageRange.tied (r q : UsageRange) : Bool := r.start = q.start && r.length = q.length

/-- The same ranges in another order, which leaves those of one start and one length in theirs. -/
structure Rearranged (rs qs : List UsageRange) : Prop where
  perm : rs.Perm qs
  ties : ∀ r ∈ rs, rs.filter r.tied = qs.filter r.tied

theorem Rearranged.symm {rs qs : List UsageRange} (h : Rearranged rs qs) : Rearranged qs rs where
  perm := h.perm.symm
  ties r hr := (h.ties r (h.perm.mem_iff.mpr hr)).symm

namespace Boundary

theorem filter_tied_boundaries (e : Boundary) (rs : List UsageRange) :
    (rs.flatMap UsageRange.boundaries).filter (tied e) =
      match e.side with
      | .opening => (rs.filter (tied e ·.opening)).map UsageRange.opening
      | .closing => (rs.filter (tied e ·.closing)).map UsageRange.closing := by
  induction rs with
  | nil => cases e.side <;> rfl
  | cons r rs ih =>
    rw [List.flatMap_cons, List.filter_append, ih, UsageRange.boundaries_eq]
    cases hside : e.side with
    | opening =>
      have hclosing : tied e r.closing = false := tied_eq_false_of_side (by rw [hside]; nofun)
      simp only [List.filter_cons, hclosing, List.filter_nil, Bool.false_eq_true, if_false]
      split <;> rfl
    | closing =>
      have hopening : tied e r.opening = false := tied_eq_false_of_side (by rw [hside]; nofun)
      simp only [List.filter_cons, hopening, List.filter_nil, Bool.false_eq_true, if_false]
      split <;> rfl

/-- Ends that stand in one place may stand for each other. -/
theorem forall₂_closings {e : Boundary} {rs qs : List UsageRange} (hlength : rs.length = qs.length)
    (hrs : ∀ r ∈ rs, tied e r.closing = true) (hqs : ∀ q ∈ qs, tied e q.closing = true) :
    List.Forall₂ Under (rs.map UsageRange.closing) (qs.map UsageRange.closing) := by
  rw [List.forall₂_map_left_iff, List.forall₂_map_right_iff, List.forall₂_iff_zip]
  refine ⟨hlength, fun {r q} hzip => ?_⟩
  obtain ⟨hr, hq⟩ := List.of_mem_zip hzip
  have hroffset := (tied_iff.mp (hrs r hr)).1
  have hqoffset := (tied_iff.mp (hqs q hq)).1
  exact ⟨hroffset.symm.trans hqoffset, rfl, nofun⟩

theorem tied_opening_eq {e : Boundary} {r : UsageRange} (h : tied e r.opening = true) (q : UsageRange) :
    tied e q.opening = r.tied q := by
  obtain ⟨hoffset, hside, hlength⟩ := tied_iff.mp h
  rw [Bool.eq_iff_iff, tied_iff, hoffset, hside, hlength]
  simp [UsageRange.tied, UsageRange.opening]

end Boundary

theorem UsageRange.tied_iff {r q : UsageRange} (hr : r.start < r.stop) (hq : q.start < q.stop) :
    r.tied q = true ↔ q.start = r.start ∧ q.stop = r.stop := by
  rw [← Boundary.tied_opening_eq (Boundary.tied_self r.opening), Boundary.tied_opening hr hq]

namespace Rearranged

variable {rs qs : List UsageRange}

theorem filter_opening (h : Rearranged rs qs) (e : Boundary) :
    rs.filter (Boundary.tied e ·.opening) = qs.filter (Boundary.tied e ·.opening) := by
  by_cases hsome : ∃ r ∈ rs, Boundary.tied e r.opening = true
  · obtain ⟨r, hr, htied⟩ := hsome
    simp only [Boundary.tied_opening_eq htied]
    exact h.ties r hr
  · have hnone : ∀ r ∈ rs, ¬Boundary.tied e r.opening = true := fun r hr htied => hsome ⟨r, hr, htied⟩
    rw [List.filter_eq_nil_iff.mpr hnone, List.filter_eq_nil_iff.mpr fun q hq => hnone q (h.perm.mem_iff.mpr hq)]

theorem forall₂_sorted (h : Rearranged rs qs) :
    List.Forall₂ Boundary.Under (Boundary.sorted rs) (Boundary.sorted qs) := by
  refine Boundary.forall₂_sorted fun e => ?_
  rw [Boundary.filter_tied_boundaries, Boundary.filter_tied_boundaries]
  cases e.side with
  | opening =>
    simp only [h.filter_opening e]
    exact List.forall₂_same.mpr fun b _ => .refl b
  | closing =>
    refine Boundary.forall₂_closings (e := e) (h.perm.filter _).length_eq ?_ ?_
    · exact fun r hr => (List.mem_filter.mp hr).2
    · exact fun q hq => (List.mem_filter.mp hq).2

theorem flatten_eq (h : Rearranged rs qs) : flatten rs = flatten qs :=
  flatten_eq_of_under h.forall₂_sorted h.symm.forall₂_sorted

theorem of_distinct (perm : rs.Perm qs) (proper : ∀ r ∈ rs, r.start < r.stop)
    (distinct : rs.Pairwise fun r q => ¬(r.start = q.start ∧ r.stop = q.stop)) : Rearranged rs qs := by
  refine ⟨perm, fun r hr => ?_⟩
  have hqs := (perm.pairwise_iff fun {x y} h heq => h ⟨heq.1.symm, heq.2.symm⟩).mp distinct
  refine List.Perm.eq_of_pairwise (fun x y hx hy hxy _ => absurd ?_ hxy) (distinct.filter r.tied)
    (hqs.filter r.tied) (perm.filter r.tied)
  -- ranges of one class span the same text
  obtain ⟨hx, hrx⟩ := List.mem_filter.mp hx
  obtain ⟨hy, hry⟩ := List.mem_filter.mp hy
  obtain ⟨hxstart, hxstop⟩ := (UsageRange.tied_iff (proper r hr) (proper x hx)).mp hrx
  obtain ⟨hystart, hystop⟩ := (UsageRange.tied_iff (proper r hr) (proper y (perm.mem_iff.mpr hy))).mp hry
  exact ⟨hxstart.trans hystart.symm, hxstop.trans hystop.symm⟩

end Rearranged

/-- The same ranges of any form cover the same text in any order that leaves those of one start and one length
in theirs, and in any order at all if they span something and no two span the same text. -/
theorem flatten_eq_of_perm {rs qs : List UsageRange} (perm : rs.Perm qs) :
    ((∀ r ∈ rs, rs.filter r.tied = qs.filter r.tied) → flatten rs = flatten qs) ∧
      ((∀ r ∈ rs, r.start < r.stop) → (rs.Pairwise fun r q => ¬(r.start = q.start ∧ r.stop = q.stop)) →
        flatten rs = flatten qs) :=
  ⟨fun ties => Rearranged.flatten_eq ⟨perm, ties⟩,
    fun proper distinct => (Rearranged.of_distinct perm proper distinct).flatten_eq⟩

/-- Two ranges that span the same text keep their order, while two others that end in one place, one of them
inverted and one of them empty, change theirs; and two that overlap change theirs. -/
theorem flatten_eq_of_perm_mixed :
    let rs : List UsageRange := [⟨0, 10, 1⟩, ⟨5, 12, 0⟩, ⟨9, 2, 3⟩, ⟨0, 10, 0⟩, ⟨2, 2, 1⟩]
    let qs : List UsageRange := [⟨2, 2, 1⟩, ⟨0, 10, 1⟩, ⟨9, 2, 3⟩, ⟨0, 10, 0⟩, ⟨5, 12, 0⟩]
    let apart : List UsageRange := [⟨0, 10, 1⟩, ⟨5, 12, 0⟩]
    rs.Perm qs ∧ (∀ r ∈ rs, rs.filter r.tied = qs.filter r.tied) ∧ flatten rs = flatten qs ∧
      apart.Perm apart.reverse ∧ (∀ r ∈ apart, r.start < r.stop) ∧
      (apart.Pairwise fun r q => ¬(r.start = q.start ∧ r.stop = q.stop)) ∧
      flatten apart = flatten apart.reverse :=
  ⟨by decide, by decide, (flatten_eq_of_perm (by decide)).1 (by decide), by decide, by decide, by decide,
    (flatten_eq_of_perm (by decide)).2 (by decide) (by decide)⟩

end PageCoverage
