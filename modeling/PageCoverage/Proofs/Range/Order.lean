import PageCoverage.Range.Sweep
import Mathlib.Data.List.Basic
import Mathlib.Data.List.Forall2

namespace PageCoverage

def UsageRange.opening (r : UsageRange) : Boundary := ⟨r.start, .opening, r.length, r.hits⟩

def UsageRange.closing (r : UsageRange) : Boundary := ⟨r.stop, .closing, r.length, r.hits⟩

theorem UsageRange.contains_iff {r : UsageRange} {p : UInt32} :
    r.contains p = true ↔ r.start ≤ p ∧ p < r.stop := by
  simp [UsageRange.contains]

theorem UsageRange.length_of_lt {r : UsageRange} (h : r.start < r.stop) :
    r.length = r.stop - r.start := by
  have : r.start ≤ r.stop := UInt32.le_of_lt h
  simp [UsageRange.length, spanLength, this]

theorem UsageRange.boundaries_eq (r : UsageRange) : r.boundaries = [r.opening, r.closing] := rfl

@[simp] theorem UsageRange.opening_offset (r : UsageRange) : r.opening.offset = r.start := rfl

@[simp] theorem UsageRange.closing_offset (r : UsageRange) : r.closing.offset = r.stop := rfl

namespace Boundary

def isOpening (b : Boundary) : Bool := b.side = .opening

def isClosing (b : Boundary) : Bool := b.side = .closing

/-- Whether the order of the sweep leaves two points tied. -/
def tied (a b : Boundary) : Bool := precedes a b && precedes b a

@[simp] theorem isOpening_opening (r : UsageRange) : r.opening.isOpening = true := rfl

@[simp] theorem isOpening_closing (r : UsageRange) : r.closing.isOpening = false := rfl

@[simp] theorem isClosing_opening (r : UsageRange) : r.opening.isClosing = false := rfl

@[simp] theorem isClosing_closing (r : UsageRange) : r.closing.isClosing = true := rfl

theorem apply_of_opening {b : Boundary} (h : b.side = .opening) (stack : List UInt32) :
    apply stack b = b.hits :: stack := by
  rw [apply, h]

theorem apply_of_closing {b : Boundary} (h : b.side = .closing) (stack : List UInt32) :
    apply stack b = stack.tail := by
  rw [apply, h]

theorem precedes_total (a b : Boundary) : (precedes a b || precedes b a) = true := by
  obtain ⟨_, sa, _, _⟩ := a
  obtain ⟨_, sb, _, _⟩ := b
  cases sa <;> cases sb <;> simp only [precedes] <;> grind

theorem precedes_refl (a : Boundary) : precedes a a = true := by
  simpa using precedes_total a a

theorem precedes_trans (a b c : Boundary) (hab : precedes a b) (hbc : precedes b c) :
    precedes a c := by
  obtain ⟨_, sa, _, _⟩ := a
  obtain ⟨_, sb, _, _⟩ := b
  obtain ⟨_, sc, _, _⟩ := c
  cases sa <;> cases sb <;> cases sc <;> simp only [precedes] at * <;> grind

theorem offset_le_of_precedes {a b : Boundary} (h : precedes a b) : a.offset ≤ b.offset := by
  unfold precedes at h
  split at h <;> grind

theorem length_le_of_precedes {a b : Boundary} (h : precedes a b) (hoffset : a.offset = b.offset)
    (ha : a.isClosing = true) (hb : b.isClosing = true) : a.length ≤ b.length := by
  simp only [isClosing, decide_eq_true_eq] at ha hb
  simpa [precedes, hoffset, ha, hb] using h

theorem not_precedes_of_opening {a b : Boundary} (hoffset : a.offset = b.offset) (ha : a.isOpening = true)
    (hb : b.isClosing = true) : ¬precedes a b := by
  simp only [isClosing, isOpening, decide_eq_true_eq] at ha hb
  simp [precedes, hoffset, ha, hb]

theorem opening_strictly_before_closing {r : UsageRange} (hr : r.start < r.stop) :
    ¬precedes r.closing r.opening := by
  simp only [precedes, UsageRange.closing, UsageRange.opening]
  grind

/-- A range that does not open before another one and ends behind it starts behind it. -/
theorem start_lt_of_precedes {r q : UsageRange} (hr : r.start < r.stop) (hq : q.start < q.stop)
    (h : precedes r.opening q.opening = true) (hstop : r.stop < q.stop) : r.start < q.start := by
  simp only [precedes, UsageRange.opening, UsageRange.length_of_lt hr, UsageRange.length_of_lt hq] at h
  grind

theorem sorted_perm (rs : List UsageRange) : (sorted rs).Perm (rs.flatMap UsageRange.boundaries) :=
  List.mergeSort_perm _ _

theorem sorted_pairwise (rs : List UsageRange) : (sorted rs).Pairwise (precedes · ·) :=
  List.pairwise_mergeSort precedes_trans precedes_total _

theorem mem_sorted {rs : List UsageRange} {b : Boundary} :
    b ∈ sorted rs ↔ ∃ r ∈ rs, b = r.opening ∨ b = r.closing := by
  simp [(sorted_perm rs).mem_iff, UsageRange.boundaries_eq]

theorem closing_mem_sorted {rs : List UsageRange} {r : UsageRange} (h : r ∈ rs) :
    r.closing ∈ sorted rs := mem_sorted.mpr ⟨r, h, Or.inr rfl⟩

/-- Points of which none comes before an earlier one are in sweep order. -/
theorem sorted_eq_of_strict {rs : List UsageRange} {bs : List Boundary}
    (strict : bs.Pairwise fun a b => precedes b a = false) (perm : (rs.flatMap UsageRange.boundaries).Perm bs) :
    sorted rs = bs := by
  have hperm := (sorted_perm rs).trans perm
  have hordered : bs.Pairwise (precedes · ·) := strict.imp fun {a b} h => by simpa [h] using precedes_total a b
  have hantisymm : ∀ ⦃a⦄, a ∈ bs → ∀ ⦃b⦄, b ∈ bs → precedes a b = true → precedes b a = true → a = b := by
    refine List.Pairwise.forall_of_forall_of_flip (fun a _ _ _ => rfl) ?_ ?_
    · exact strict.imp fun h _ hba => by simp [h] at hba
    · exact strict.imp fun h hba => by simp [h] at hba
  exact List.Perm.eq_of_pairwise (fun a b ha hb => hantisymm (hperm.mem_iff.mp ha) hb) (sorted_pairwise rs)
    hordered hperm

theorem countP_sorted (q : Boundary → Bool) (rs : List UsageRange) :
    (sorted rs).countP q = rs.countP (q ·.opening) + rs.countP (q ·.closing) := by
  rw [(sorted_perm rs).countP_eq]
  induction rs with
  | nil => rfl
  | cons r rs ih =>
    rw [List.flatMap_cons, List.countP_append, ih, UsageRange.boundaries_eq]
    simp only [List.countP_cons, List.countP_nil]
    omega

/-- Points tied with a given one keep their input order. -/
theorem filter_tied_mergeSort (bs : List Boundary) (e : Boundary) :
    (bs.mergeSort precedes).filter (tied e) = bs.filter (tied e) := by
  have ordered : (bs.filter (tied e)).Pairwise (precedes · ·) := by
    apply List.pairwise_of_forall_mem_list
    intro a ha b hb
    have ha := (List.mem_filter.mp ha).2
    have hb := (List.mem_filter.mp hb).2
    simp only [tied, Bool.and_eq_true] at ha hb
    exact precedes_trans _ _ _ ha.2 hb.1
  have kept := (List.sublist_mergeSort precedes_trans precedes_total ordered
    List.filter_sublist).filter (tied e)
  simp only [List.filter_filter, Bool.and_self] at kept
  exact (kept.eq_of_length ((List.mergeSort_perm bs precedes).filter _).length_eq.symm).symm

theorem filter_tied_sorted (rs : List UsageRange) (e : Boundary) :
    (sorted rs).filter (tied e) = (rs.flatMap UsageRange.boundaries).filter (tied e) :=
  filter_tied_mergeSort _ _

theorem tied_self (a : Boundary) : tied a a = true := by
  simp [tied, precedes_refl]

theorem tied_iff {a b : Boundary} :
    tied a b = true ↔ a.offset = b.offset ∧ a.side = b.side ∧ a.length = b.length := by
  obtain ⟨_, sa, _, _⟩ := a
  obtain ⟨_, sb, _, _⟩ := b
  cases sa <;> cases sb <;> simp only [tied, precedes] <;> grind

theorem tied_eq_false_of_side {a b : Boundary} (h : a.side ≠ b.side) : tied a b = false := by
  rw [← Bool.not_eq_true, tied_iff]
  exact fun htied => h htied.2.1

theorem tied_closing (r q : UsageRange) : tied r.opening q.closing = false := tied_eq_false_of_side nofun

theorem tied_opening {r q : UsageRange} (hr : r.start < r.stop) (hq : q.start < q.stop) :
    tied r.opening q.opening = true ↔ q.start = r.start ∧ q.stop = r.stop := by
  rw [tied_iff]
  simp only [UsageRange.opening, UsageRange.length_of_lt hr, UsageRange.length_of_lt hq]
  grind

/-- Every point is tied with two tied ones or with neither. -/
theorem tied_congr {a b : Boundary} (h : tied a b = true) (e : Boundary) : tied e a = tied e b := by
  obtain ⟨hoffset, hside, hlength⟩ := tied_iff.mp h
  rw [Bool.eq_iff_iff, tied_iff, tied_iff, hoffset, hside, hlength]

/-- The first of some points in sweep order comes before every point that is tied with one of them. -/
theorem precedes_of_exists_tied {a b : Boundary} {bs : List Boundary} (sorted : (b :: bs).Pairwise (precedes · ·))
    (h : (b :: bs).filter (tied a) ≠ []) : precedes b a = true := by
  obtain ⟨c, hc⟩ := List.exists_mem_of_ne_nil _ h
  obtain ⟨hmem, htied⟩ := List.mem_filter.mp hc
  have hca : precedes c a = true := by
    simp only [tied, Bool.and_eq_true] at htied
    exact htied.2
  rcases List.mem_cons.mp hmem with rfl | hmem
  · exact hca
  · exact precedes_trans _ _ _ ((List.pairwise_cons.mp sorted).1 c hmem) hca

/-- Points in sweep order are related one by one if for each point those tied with it are. -/
theorem forall₂_of_filter_tied {R : Boundary → Boundary → Prop} {as bs : List Boundary}
    (has : as.Pairwise (precedes · ·)) (hbs : bs.Pairwise (precedes · ·))
    (h : ∀ e, List.Forall₂ R (as.filter (tied e)) (bs.filter (tied e))) : List.Forall₂ R as bs := by
  have nonempty {cs ds : List Boundary} {e : Boundary}
      (h : List.Forall₂ R (cs.filter (tied e)) (ds.filter (tied e))) :
      cs.filter (tied e) ≠ [] ↔ ds.filter (tied e) ≠ [] := by
    rw [← List.length_pos_iff, ← List.length_pos_iff, h.length_eq]
  have own {c : Boundary} {cs : List Boundary} : (c :: cs).filter (tied c) ≠ [] := by
    rw [List.filter_cons_of_pos (tied_self c)]
    exact List.cons_ne_nil _ _
  induction as generalizing bs with
  | nil =>
    cases bs with
    | nil => exact .nil
    | cons b bs => exact absurd rfl ((nonempty (h b)).mpr own)
  | cons a as ih =>
    cases bs with
    | nil => exact absurd rfl ((nonempty (h a)).mp own)
    | cons b bs =>
      have hba : precedes b a = true := precedes_of_exists_tied hbs ((nonempty (h a)).mp own)
      have hab : precedes a b = true := precedes_of_exists_tied has ((nonempty (h b)).mpr own)
      have hheads : tied a b = true := by simp [tied, hab, hba]
      have hclass := h a
      rw [List.filter_cons_of_pos (tied_self a), List.filter_cons_of_pos hheads] at hclass
      refine .cons (List.forall₂_cons.mp hclass).1 (ih has.of_cons hbs.of_cons fun e => ?_)
      have htails := h e
      rw [List.filter_cons, List.filter_cons, tied_congr hheads e] at htails
      split at htails
      · exact (List.forall₂_cons.mp htails).2
      · exact htails

/-- Points in sweep order are known when it is known for each point which ones are tied with it. -/
theorem eq_of_filter_tied {as bs : List Boundary} (has : as.Pairwise (precedes · ·))
    (hbs : bs.Pairwise (precedes · ·)) (h : ∀ e, as.filter (tied e) = bs.filter (tied e)) : as = bs := by
  rw [← List.forall₂_eq_eq_eq]
  exact forall₂_of_filter_tied has hbs fun e => by rw [h e, List.forall₂_eq_eq_eq]

/-- Ranges have points that are related one by one if for each point those tied with it are. -/
theorem forall₂_sorted {R : Boundary → Boundary → Prop} {rs qs : List UsageRange}
    (h : ∀ e, List.Forall₂ R ((rs.flatMap UsageRange.boundaries).filter (tied e))
      ((qs.flatMap UsageRange.boundaries).filter (tied e))) : List.Forall₂ R (sorted rs) (sorted qs) :=
  forall₂_of_filter_tied (sorted_pairwise rs) (sorted_pairwise qs) fun e => by
    rw [filter_tied_sorted, filter_tied_sorted]
    exact h e

/-- Points can be picked before or after they are sorted. -/
theorem filter_mergeSort (q : Boundary → Bool) (bs : List Boundary) :
    (bs.mergeSort precedes).filter q = (bs.filter q).mergeSort precedes := by
  have ordered (cs : List Boundary) : (cs.mergeSort precedes).Pairwise (precedes · ·) :=
    List.pairwise_mergeSort precedes_trans precedes_total cs
  refine eq_of_filter_tied ((ordered bs).filter q) (ordered _) fun e => ?_
  rw [filter_tied_mergeSort, List.filter_comm, filter_tied_mergeSort, List.filter_comm]

theorem sorted_nil : sorted [] = [] := List.mergeSort_nil

end Boundary

/-- Where nothing is reported nothing is covered. -/
theorem flatten_nil : flatten [] = [] := by
  rw [flatten, Boundary.sorted_nil]
  rfl

end PageCoverage
