import PageCoverage.Proofs.Range.Balance
import PageCoverage.Proofs.Range.Pointwise

namespace PageCoverage

/-- A range that has opened has either closed again or lies around the offset. -/
theorem countP_opened {rs : List UsageRange} (proper : ∀ r ∈ rs, r.start < r.stop) (p : UInt32) :
    rs.countP (fun r => decide (r.start ≤ p)) =
      rs.countP (fun r => decide (r.stop ≤ p)) + rs.countP (·.contains p) := by
  induction rs with
  | nil => rfl
  | cons r rs ih =>
    have hr := proper r (by simp)
    have hrs := ih fun q hq => proper q (by simp [hq])
    simp only [List.countP_cons, hrs, UsageRange.contains_iff, decide_eq_true_eq]
    rw [UInt32.lt_iff_toNat_lt] at hr
    simp only [UInt32.le_iff_toNat_le, UInt32.lt_iff_toNat_lt]
    split <;> split <;> split <;> omega

theorem length_stackAt {rs : List UsageRange} (proper : ∀ r ∈ rs, r.start < r.stop) (p : UInt32) :
    (stackAt rs p).length = rs.countP (·.contains p) := by
  have guarded := Boundary.guarded_filter_sorted proper (q := fun b => decide (b.offset ≤ p)) fun r hr hclosed => by
    rw [decide_eq_true_eq] at hclosed ⊢
    exact UInt32.le_trans (UInt32.le_of_lt (proper r hr)) hclosed
  obtain ⟨top, hfold, hlength⟩ := guarded.foldl_apply []
  rw [Boundary.openings_filter_sorted, Boundary.closings_filter_sorted] at hlength
  have hopened : top.length + rs.countP (fun r => decide (r.stop ≤ p)) =
      rs.countP (fun r => decide (r.start ≤ p)) := hlength
  have hreplay : stackAt rs p = top := by
    rw [List.append_nil] at hfold
    exact hfold
  rw [countP_opened proper p] at hopened
  rw [hreplay]
  omega

/-- Where no range lies around an offset, the points up to it leave nothing behind. -/
theorem stackAt_eq_nil {rs : List UsageRange} (proper : ∀ r ∈ rs, r.start < r.stop) {p : UInt32}
    (h : ∀ r ∈ rs, ¬r.contains p = true) : stackAt rs p = [] := by
  have hdepth := length_stackAt proper p
  rw [List.countP_eq_zero.mpr h] at hdepth
  exact List.eq_nil_of_length_eq_zero hdepth

namespace Boundary

/-- A count on the stack is that of an opening point, behind which at no time more has been closed than opened.
What has been opened behind it and not closed lies above it. -/
theorem exists_split_of_replay {bs : List Boundary} (top : List UInt32) {rest : List UInt32} {hits : UInt32}
    (h : replay bs = top ++ hits :: rest) :
    ∃ front b back, bs = front ++ b :: back ∧ b.isOpening = true ∧ b.hits = hits ∧ Guarded back ∧
      openings back = closings back + top.length := by
  induction bs using List.reverseRecOn generalizing top with
  | nil => simp [replay] at h
  | append_singleton bs c ih =>
    rw [replay_concat] at h
    cases hside : c.side with
    | opening =>
      have hcounts := counts_concat_of_opening hside
      rw [apply_of_opening hside] at h
      cases top with
      | nil =>
        obtain ⟨rfl, -⟩ := List.cons.inj h
        exact ⟨bs, c, [], rfl, by simp [isOpening, hside], rfl, by simp [Guarded, closings], rfl⟩
      | cons x top =>
        obtain ⟨-, hold⟩ := List.cons.inj h
        obtain ⟨front, b, back, rfl, hopens, hhits, guarded, hlength⟩ := ih _ hold
        obtain ⟨hopened, hclosed⟩ := hcounts back
        refine ⟨front, b, back ++ [c], by simp, hopens, hhits, guarded.concat ?_, ?_⟩
        · omega
        · rw [List.length_cons]
          omega
    | closing =>
      have hcounts := counts_concat_of_closing hside
      rw [apply_of_closing hside] at h
      obtain ⟨x, hold⟩ : ∃ x, replay bs = (x :: top) ++ hits :: rest := by
        cases hbs : replay bs with
        | nil => simp [hbs] at h
        | cons x stack =>
          rw [hbs, List.tail_cons] at h
          exact ⟨x, by rw [h]; rfl⟩
      obtain ⟨front, b, back, rfl, hopens, hhits, guarded, hlength⟩ := ih _ hold
      obtain ⟨hopened, hclosed⟩ := hcounts back
      rw [List.length_cons] at hlength
      refine ⟨front, b, back ++ [c], by simp, hopens, hhits, guarded.concat ?_, ?_⟩
      · omega
      · omega

end Boundary

/-- The count on top is that of a range that has begun, behind whose opening point at no time more has been
closed than opened. -/
theorem exists_opening_of_stackAt {rs : List UsageRange} {p hits : UInt32} {rest : List UInt32}
    (h : stackAt rs p = hits :: rest) :
    ∃ r ∈ rs, r.hits = hits ∧ r.start ≤ p ∧ ∃ front back,
      Boundary.upTo p (Boundary.sorted rs) = front ++ r.opening :: back ∧ Boundary.Guarded back := by
  obtain ⟨front, b, back, hsplit, hopens, hhits, guarded, -⟩ := Boundary.exists_split_of_replay [] h
  have hb : b ∈ Boundary.upTo p (Boundary.sorted rs) := by simp [hsplit]
  obtain ⟨hmem, hle⟩ := List.mem_filter.mp hb
  obtain ⟨r, hr, rfl | rfl⟩ := Boundary.mem_sorted.mp hmem
  · exact ⟨r, hr, hhits, of_decide_eq_true hle, front, back, hsplit, guarded⟩
  · simp at hopens

/-- Where every range was hit, a stack that is not empty has a positive count on top. -/
theorem isHit_stackAt {rs : List UsageRange} (hit : ∀ r ∈ rs, 0 < r.hits) {p : UInt32}
    (h : stackAt rs p ≠ []) : isHit (stackAt rs p) = true := by
  obtain ⟨top, rest, hstack⟩ := List.exists_cons_of_ne_nil h
  obtain ⟨r, hr, rfl, -⟩ := exists_opening_of_stackAt hstack
  exact isHit_iff.mpr ⟨r.hits, rest, hstack, hit r hr⟩

theorem exists_contains_of_isHit {rs : List UsageRange} (proper : ∀ r ∈ rs, r.start < r.stop) {p : UInt32}
    (hit : isHit (stackAt rs p) = true) : ∃ r ∈ rs, r.contains p = true := by
  by_contra hnone
  rw [stackAt_eq_nil proper fun r hr hp => hnone ⟨r, hr, hp⟩] at hit
  simp [isHit] at hit

/-- Where every range was hit, a positive count is on top around every offset of one of them. -/
theorem isHit_stackAt_of_contains {rs : List UsageRange} (proper : ∀ r ∈ rs, r.start < r.stop) {p : UInt32}
    (hit : ∀ r ∈ rs, 0 < r.hits) (around : ∃ r ∈ rs, r.contains p = true) : isHit (stackAt rs p) = true := by
  apply isHit_stackAt hit
  rw [← List.length_pos_iff, length_stackAt proper p]
  exact List.countP_pos_iff.mpr around

/-- For ranges that span something the count on top decides alone. -/
theorem covers_flatten_of_proper {rs : List UsageRange} (proper : ∀ r ∈ rs, r.start < r.stop) {p : UInt32} :
    covers (flatten rs) p = true ↔ isHit (stackAt rs p) = true := by
  rw [covers_flatten]
  refine and_iff_right_of_imp fun hit => ?_
  obtain ⟨r, hr, hp⟩ := exists_contains_of_isHit proper hit
  exact ⟨r.closing, Boundary.closing_mem_sorted hr, (UsageRange.contains_iff.mp hp).2⟩

/-- The covered text lies within the ranges, and where all of them were hit it is all of their text. -/
theorem covers_flatten_union {rs : List UsageRange} (proper : ∀ r ∈ rs, r.start < r.stop) (p : UInt32) :
    (covers (flatten rs) p = true → ∃ r ∈ rs, r.contains p = true) ∧
      ((∀ r ∈ rs, 0 < r.hits) → (∃ r ∈ rs, r.contains p = true) → covers (flatten rs) p = true) := by
  rw [covers_flatten_of_proper proper]
  constructor
  · exact exists_contains_of_isHit proper
  · exact isHit_stackAt_of_contains proper

/-- Three ranges that overlap without being nested. -/
theorem covers_flatten_union_chain :
    let rs : List UsageRange := [⟨0, 6, 1⟩, ⟨4, 9, 2⟩, ⟨8, 12, 1⟩]
    (∀ r ∈ rs, r.start < r.stop) ∧
      (covers (flatten rs) 10 = true → ∃ r ∈ rs, r.contains 10 = true) ∧
      ((∀ r ∈ rs, 0 < r.hits) → (∃ r ∈ rs, r.contains 10 = true) → covers (flatten rs) 10 = true) :=
  ⟨by decide, covers_flatten_union (by decide) 10⟩

end PageCoverage
