import PageCoverage.Proofs.Range.Pointwise

namespace PageCoverage

namespace Boundary

/-- The same points in the order of the sweep, tied ones as they stood. -/
structure InOrder (points bs : List Boundary) : Prop where
  sorted : bs.Pairwise (precedes · ·)
  ties : ∀ e, bs.filter (tied e) = points.filter (tied e)

/-- What points leave of a stack. An opening point puts its count on top, a closing one takes the top off, and of
an empty stack nothing can be taken. -/
inductive Leaves : List UInt32 → List Boundary → List UInt32 → Prop where
  | done (stack : List UInt32) : Leaves stack [] stack
  | opening {stack left : List UInt32} {b : Boundary} {bs : List Boundary} :
    b.side = .opening → Leaves (b.hits :: stack) bs left → Leaves stack (b :: bs) left
  | closing {top : UInt32} {stack left : List UInt32} {b : Boundary} {bs : List Boundary} :
    b.side = .closing → Leaves stack bs left → Leaves (top :: stack) (b :: bs) left
  | empty {left : List UInt32} {b : Boundary} {bs : List Boundary} :
    b.side = .closing → Leaves [] bs left → Leaves [] (b :: bs) left

theorem inOrder_mergeSort (points : List Boundary) : InOrder points (points.mergeSort precedes) where
  sorted := List.pairwise_mergeSort precedes_trans precedes_total points
  ties := filter_tied_mergeSort points

theorem InOrder.unique {points as bs : List Boundary} (has : InOrder points as) (hbs : InOrder points bs) :
    as = bs :=
  eq_of_filter_tied has.sorted hbs.sorted fun e => (has.ties e).trans (hbs.ties e).symm

/-- The points that a sweep has passed are those up to the offset, in order. -/
theorem inOrder_upTo_iff {rs : List UsageRange} {p : UInt32} {bs : List Boundary} :
    InOrder ((rs.flatMap UsageRange.boundaries).filter (·.offset ≤ p)) bs ↔ bs = upTo p (sorted rs) := by
  have passed : InOrder ((rs.flatMap UsageRange.boundaries).filter (·.offset ≤ p)) (upTo p (sorted rs)) := by
    rw [upTo, sorted, filter_mergeSort]
    exact inOrder_mergeSort _
  constructor
  · exact fun h => h.unique passed
  · rintro rfl
    exact passed

theorem leaves_iff {stack left : List UInt32} {bs : List Boundary} :
    Leaves stack bs left ↔ bs.foldl apply stack = left := by
  constructor
  · intro h
    induction h with
    | done stack => rfl
    | opening hside _ ih => rwa [List.foldl_cons, apply_of_opening hside]
    | closing hside _ ih => rwa [List.foldl_cons, apply_of_closing hside]
    | empty hside _ ih => rwa [List.foldl_cons, apply_of_closing hside]
  · rintro rfl
    induction bs generalizing stack with
    | nil => exact .done stack
    | cons b bs ih =>
      rw [List.foldl_cons]
      cases hside : b.side with
      | opening =>
        rw [apply_of_opening hside]
        exact .opening hside ih
      | closing =>
        rw [apply_of_closing hside]
        cases stack with
        | nil => exact .empty hside ih
        | cons top stack => exact .closing hside ih

end Boundary

/-- An offset lies in the covered text of any usage ranges, overlapping, empty and inverted ones too, exactly if
some point lies behind it and the points up to it, taken in order, leave a stack with a positive count on top. -/
theorem mem_flatten_iff_leaves (rs : List UsageRange) (p : UInt32) :
    (∃ r ∈ flatten rs, r.start ≤ p ∧ p < r.stop) ↔
      (∃ b ∈ rs.flatMap UsageRange.boundaries, p < b.offset) ∧
        ∃ bs hits rest, Boundary.InOrder ((rs.flatMap UsageRange.boundaries).filter (·.offset ≤ p)) bs ∧
          Boundary.Leaves [] bs (hits :: rest) ∧ 0 < hits := by
  have behind : (∃ b ∈ Boundary.sorted rs, p < b.offset) ↔ ∃ b ∈ rs.flatMap UsageRange.boundaries, p < b.offset :=
    exists_congr fun b => and_congr_left fun _ => (Boundary.sorted_perm rs).mem_iff
  have top : isHit (stackAt rs p) = true ↔
      ∃ bs hits rest, Boundary.InOrder ((rs.flatMap UsageRange.boundaries).filter (·.offset ≤ p)) bs ∧
        Boundary.Leaves [] bs (hits :: rest) ∧ 0 < hits := by
    simp only [Boundary.inOrder_upTo_iff, Boundary.leaves_iff, isHit_iff, exists_and_left, exists_eq_left]
    rfl
  rw [← covers_iff, covers_flatten, behind, top]

end PageCoverage
