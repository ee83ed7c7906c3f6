import PageCoverage.Proofs.Range.Depth
import Mathlib.Order.WellFounded

namespace PageCoverage

/-- A range begins inside of another one and ends behind it. -/
def UsageRange.Outruns (q r : UsageRange) : Prop := r.start < q.start ∧ q.start < r.stop ∧ r.stop < q.stop

instance (q r : UsageRange) : Decidable (q.Outruns r) := inferInstanceAs (Decidable (_ ∧ _))

theorem exists_least_offset {P : UInt32 → Prop} {p : UInt32} (h : P p) : ∃ e, P e ∧ ∀ x, P x → e ≤ x := by
  obtain ⟨e, he, hleast⟩ := (measure UInt32.toNat).wf.has_min {x | P x} ⟨p, h⟩
  exact ⟨e, he, fun x hx => UInt32.not_lt.mp (hleast x hx)⟩

/-- What comes first in a sorted list can be taken off its front. -/
theorem filter_append_filter_of_pairwise {α : Type} {R : α → α → Prop} {l : List α} (sorted : l.Pairwise R)
    {first : α → Bool} (down : ∀ a b, R a b → first b = true → first a = true) :
    l.filter first ++ l.filter (!first ·) = l := by
  induction l with
  | nil => rfl
  | cons a l ih =>
    obtain ⟨ha, hl⟩ := List.pairwise_cons.mp sorted
    cases hfirst : first a with
    | true =>
      rw [List.filter_cons_of_pos hfirst, List.filter_cons_of_neg (by simp [hfirst]), List.cons_append, ih hl]
    | false =>
      have hnone : ∀ b ∈ a :: l, first b = false := by
        intro b hb
        rcases List.mem_cons.mp hb with rfl | hb
        · exact hfirst
        · by_contra hb'
          have := down a b (ha b hb) (by simpa using hb')
          simp [hfirst] at this
      rw [List.filter_eq_nil_iff.mpr fun b hb => by simp [hnone b hb], List.nil_append,
        List.filter_eq_self.mpr fun b hb => by simp [hnone b hb]]

namespace Boundary

/-- The points before those that open ranges at an offset. -/
def reached (e : UInt32) (b : Boundary) : Bool :=
  decide (b.offset < e) || (b.isClosing && decide (b.offset ≤ e))

theorem reached_opening_iff {r : UsageRange} {e : UInt32} : reached e r.opening = true ↔ r.start < e := by
  simp only [reached, isClosing_opening, Bool.false_and, Bool.or_false, decide_eq_true_eq]
  exact Iff.rfl

theorem reached_closing_iff {r : UsageRange} {e : UInt32} : reached e r.closing = true ↔ r.stop ≤ e := by
  simp only [reached, isClosing_closing, Bool.true_and, Bool.or_eq_true, decide_eq_true_eq]
  exact or_iff_right_of_imp UInt32.le_of_lt

theorem offset_le_of_reached {e : UInt32} {b : Boundary} (h : reached e b = true) : b.offset ≤ e := by
  simp only [reached, Bool.or_eq_true, Bool.and_eq_true, decide_eq_true_eq] at h
  rcases h with hlt | ⟨-, hle⟩
  · exact UInt32.le_of_lt hlt
  · exact hle

theorem reached_of_precedes {e : UInt32} (a b : Boundary) (h : precedes a b = true) (hb : reached e b = true) :
    reached e a = true := by
  obtain ⟨_, sa, _, _⟩ := a
  obtain ⟨_, sb, _, _⟩ := b
  cases sa <;> cases sb <;> simp only [precedes, reached, isClosing] at * <;> grind

section Split

variable {rs : List UsageRange} {r : UsageRange} {front back : List Boundary} {e : UInt32}

/-- The points behind an opening point close all that begins behind it and ends in time. -/
theorem countP_le_closings (proper : ∀ q ∈ rs, q.start < q.stop) (hsplit : sorted rs = front ++ r.opening :: back) :
    rs.countP (fun q => precedes r.opening q.opening && reached e q.closing) ≤
      closings (back.filter (reached e)) := by
  have ordered := sorted_pairwise rs
  rw [hsplit] at ordered
  have hcross := (List.pairwise_append.mp ordered).2.2
  have hfront : front.countP (fun b => isClosing b && (!precedes b r.opening && reached e b)) = 0 :=
    List.countP_eq_zero.mpr fun b hb => by simp [hcross b hb r.opening (by simp)]
  calc rs.countP (fun q => precedes r.opening q.opening && reached e q.closing)
      ≤ rs.countP (fun q => !precedes q.closing r.opening && reached e q.closing) := by
        refine List.countP_mono_left fun q hq h => ?_
        simp only [Bool.and_eq_true, Bool.not_eq_true', ← Bool.not_eq_true] at h ⊢
        exact ⟨fun hn => opening_strictly_before_closing (proper q hq) (precedes_trans _ _ _ hn h.1), h.2⟩
    _ = (sorted rs).countP (fun b => isClosing b && (!precedes b r.opening && reached e b)) := by
        simp [countP_sorted]
    _ = back.countP (fun b => isClosing b && (!precedes b r.opening && reached e b)) := by
        rw [hsplit, List.countP_append, hfront, List.countP_cons_of_neg (by simp), Nat.zero_add]
    _ ≤ back.countP (fun b => isClosing b && reached e b) :=
        List.countP_mono_left fun b _ h => by
          simp only [Bool.and_eq_true] at h ⊢
          exact ⟨h.1, h.2.2⟩
    _ = closings (back.filter (reached e)) := by simp only [closings, List.countP_filter]

/-- The points behind an opening point open less than all that does not begin before it. -/
theorem openings_lt_countP (hr : r.start < e) (hsplit : sorted rs = front ++ r.opening :: back) :
    openings (back.filter (reached e)) <
      rs.countP (fun q => precedes r.opening q.opening && reached e q.opening) := by
  have ordered := sorted_pairwise rs
  rw [hsplit] at ordered
  have hback := (List.pairwise_cons.mp (List.pairwise_append.mp ordered).2.1).1
  have hself : reached e r.opening = true := reached_opening_iff.mpr hr
  calc openings (back.filter (reached e))
      = back.countP (fun b => isOpening b && reached e b) := by simp only [openings, List.countP_filter]
    _ ≤ back.countP (fun b => isOpening b && (precedes r.opening b && reached e b)) :=
        List.countP_mono_left fun b hb h => by
          simp only [Bool.and_eq_true] at h ⊢
          exact ⟨h.1, hback b hb, h.2⟩
    _ < (sorted rs).countP (fun b => isOpening b && (precedes r.opening b && reached e b)) := by
        rw [hsplit, List.countP_append, List.countP_cons_of_pos (by simp [precedes_refl, hself])]
        omega
    _ = rs.countP (fun q => precedes r.opening q.opening && reached e q.opening) := by
        simp [countP_sorted]

/-- If the count of a range outlasts it up to an offset, some range that does not begin before it lies around
the offset. -/
theorem exists_around_of_split (proper : ∀ q ∈ rs, q.start < q.stop) (hr : r.start < e)
    (hsplit : sorted rs = front ++ r.opening :: back)
    (hguard : closings (back.filter (reached e)) ≤ openings (back.filter (reached e))) :
    ∃ q ∈ rs, precedes r.opening q.opening = true ∧ q.start < e ∧ e < q.stop := by
  have hclosed := countP_le_closings (e := e) proper hsplit
  have hopened := openings_lt_countP hr hsplit
  by_contra hnone
  have hle : rs.countP (fun q => precedes r.opening q.opening && reached e q.opening) ≤
      rs.countP (fun q => precedes r.opening q.opening && reached e q.closing) := by
    refine List.countP_mono_left fun q hq h => ?_
    simp only [Bool.and_eq_true, reached_opening_iff, reached_closing_iff] at h ⊢
    refine ⟨h.1, ?_⟩
    by_contra hlate
    exact hnone ⟨q, hq, h.1, h.2, UInt32.not_le.mp hlate⟩
  omega

end Split

/-- If the count of a range lies on the stack at an offset, then at every offset between its start and there,
the end of that offset's points included, some range that does not begin before it lies around. -/
theorem exists_around_of_upTo {rs : List UsageRange} (proper : ∀ q ∈ rs, q.start < q.stop) {p e : UInt32}
    {r : UsageRange} {front back : List Boundary} (hsplit : upTo p (sorted rs) = front ++ r.opening :: back)
    (guarded : Guarded back) (hre : r.start < e) (hep : e ≤ p) :
    ∃ q ∈ rs, precedes r.opening q.opening = true ∧ q.start < e ∧ e < q.stop := by
  have ordered := sorted_pairwise rs
  have hall : upTo p (sorted rs) ++ (sorted rs).filter (fun b => !decide (b.offset ≤ p)) = sorted rs :=
    filter_append_filter_of_pairwise ordered fun a b hab hb => by
      rw [decide_eq_true_eq] at hb ⊢
      exact UInt32.le_trans (offset_le_of_precedes hab) hb
  have hlate : ((sorted rs).filter (fun b => !decide (b.offset ≤ p))).filter (reached e) = [] := by
    refine List.filter_eq_nil_iff.mpr fun b hb hreached => ?_
    have hbp : ¬b.offset ≤ p := by simpa using (List.mem_filter.mp hb).2
    exact hbp (UInt32.le_trans (offset_le_of_reached hreached) hep)
  have hback : back.Pairwise (precedes · ·) := by
    have := ordered.filter (·.offset ≤ p)
    rw [← upTo, hsplit] at this
    exact (List.pairwise_cons.mp (List.pairwise_append.mp this).2.1).2
  have hprefix : back.filter (reached e) <+: back :=
    ⟨_, filter_append_filter_of_pairwise hback reached_of_precedes⟩
  rw [hsplit, List.append_assoc, List.cons_append] at hall
  refine exists_around_of_split proper hre hall.symm ?_
  rw [List.filter_append, hlate, List.append_nil]
  exact guarded _ hprefix

end Boundary

/-- Where all ranges that were hit have ended, some offset between the start of one of them and there has been
left by all ranges that do not begin before it. -/
theorem exists_offset_left {rs : List UsageRange} (proper : ∀ r ∈ rs, r.start < r.stop)
    (outrun : ∀ r ∈ rs, ∀ q ∈ rs, q.Outruns r → 0 < r.hits → 0 < q.hits) {r : UsageRange} (hr : r ∈ rs)
    (hit : 0 < r.hits) {p : UInt32} (hrp : r.start < p)
    (ended : ∀ q ∈ rs, 0 < q.hits → ¬(q.start < p ∧ p < q.stop)) :
    ∃ e, r.start < e ∧ e ≤ p ∧
      ∀ q ∈ rs, Boundary.precedes r.opening q.opening = true → ¬(q.start < e ∧ e < q.stop) := by
  -- the first offset behind the start that no range that was hit goes beyond
  obtain ⟨e, ⟨hre, hclear⟩, hleast⟩ := exists_least_offset
    (P := fun e => r.start < e ∧ ∀ q ∈ rs, 0 < q.hits → ¬(q.start < e ∧ e < q.stop)) ⟨hrp, ended⟩
  have hends {q : UsageRange} (hq : q ∈ rs) (hqhit : 0 < q.hits) (hlt : q.start < e) : q.stop ≤ e :=
    UInt32.not_lt.mp fun hbeyond => hclear q hq hqhit ⟨hlt, hbeyond⟩
  refine ⟨e, hre, hleast p ⟨hrp, ended⟩, ?_⟩
  rintro q hq hbehind ⟨hqe, heq⟩
  have hqzero : ¬0 < q.hits := fun hqhit => hclear q hq hqhit ⟨hqe, heq⟩
  have hrq : r.start < q.start :=
    Boundary.start_lt_of_precedes (proper r hr) (proper q hq) hbehind
      (UInt32.lt_of_le_of_lt (hends hr hit hre) heq)
  -- at its start some range that was hit goes on, and it outruns that one
  obtain ⟨x, hx, hxhit, hxstart, hxstop⟩ : ∃ x ∈ rs, 0 < x.hits ∧ x.start < q.start ∧ q.start < x.stop := by
    by_contra hnox
    have hle := hleast q.start ⟨hrq, fun x hx hxhit hxq => hnox ⟨x, hx, hxhit, hxq⟩⟩
    exact UInt32.not_le.mpr hqe hle
  have hxe := hends hx hxhit (UInt32.lt_trans hxstart hqe)
  exact hqzero (outrun x hx q hq ⟨hxstart, hxstop, UInt32.lt_of_le_of_lt hxe heq⟩ hxhit)

/-- Without ranges that were not hit and outrun ranges that were, only text of ranges that were hit is
covered. -/
theorem hit_around_of_covers_flatten {rs : List UsageRange} (proper : ∀ r ∈ rs, r.start < r.stop)
    (outrun : ∀ r ∈ rs, ∀ q ∈ rs, q.Outruns r → 0 < r.hits → 0 < q.hits) {p : UInt32}
    (h : covers (flatten rs) p = true) : ∃ r ∈ rs, r.contains p = true ∧ 0 < r.hits := by
  obtain ⟨hits, rest, hstack, hpos⟩ := isHit_iff.mp ((covers_flatten_of_proper proper).mp h)
  obtain ⟨r, hr, rfl, hrp, front, back, hsplit, guarded⟩ := exists_opening_of_stackAt hstack
  by_contra hnone
  have hgone {q : UsageRange} (hq : q ∈ rs) (hqhit : 0 < q.hits) : ¬(q.start ≤ p ∧ p < q.stop) :=
    fun hp => hnone ⟨q, hq, UsageRange.contains_iff.mpr hp, hqhit⟩
  have hlt : r.start < p := by
    have hstop : r.stop ≤ p := UInt32.not_lt.mp fun hlt => hgone hr hpos ⟨hrp, hlt⟩
    exact UInt32.lt_of_lt_of_le (proper r hr) hstop
  obtain ⟨e, hre, hep, hleft⟩ := exists_offset_left proper outrun hr hpos hlt fun q hq hqhit hp =>
    hgone hq hqhit ⟨UInt32.le_of_lt hp.1, hp.2⟩
  obtain ⟨q, hq, hbehind, haround⟩ := Boundary.exists_around_of_upTo proper hsplit guarded hre hep
  exact hleft q hq hbehind haround

/-- A range that was not hit is outrun by one that was, which goes on alone. -/
theorem hit_around_of_covers_flatten_handed_on :
    let rs : List UsageRange := [⟨0, 8, 0⟩, ⟨5, 15, 1⟩, ⟨12, 20, 3⟩]
    (∀ r ∈ rs, r.start < r.stop) ∧ (∀ r ∈ rs, ∀ q ∈ rs, q.Outruns r → 0 < r.hits → 0 < q.hits) ∧
      covers (flatten rs) 13 = true ∧ ∃ r ∈ rs, r.contains 13 = true ∧ 0 < r.hits := by
  have hsorted : Boundary.sorted [⟨0, 8, 0⟩, ⟨5, 15, 1⟩, ⟨12, 20, 3⟩] =
      [⟨0, .opening, 8, 0⟩, ⟨5, .opening, 10, 1⟩, ⟨8, .closing, 8, 0⟩, ⟨12, .opening, 8, 3⟩,
        ⟨15, .closing, 10, 1⟩, ⟨20, .closing, 8, 3⟩] :=
    Boundary.sorted_eq_of_strict (by decide) (by decide)
  have hcovered : covers (flatten [⟨0, 8, 0⟩, ⟨5, 15, 1⟩, ⟨12, 20, 3⟩]) 13 = true := by
    rw [flatten, hsorted]
    rfl
  exact ⟨by decide, by decide, hcovered, hit_around_of_covers_flatten (by decide) (by decide) hcovered⟩

/-- If a range that was not hit outruns one that was, its rest is covered. -/
theorem flatten_of_outruns {r q : UsageRange} (h : q.Outruns r) (hit : 0 < r.hits) (missed : q.hits = 0) :
    flatten [r, q] = [⟨r.start, q.start⟩, ⟨r.stop, q.stop⟩] := by
  obtain ⟨hstart, hmiddle, hstop⟩ := h
  have strict : [r.opening, q.opening, r.closing, q.closing].Pairwise fun a b =>
      Boundary.precedes b a = false := by
    simp only [List.pairwise_cons, List.forall_mem_cons, Boundary.precedes, UsageRange.opening, UsageRange.closing]
    grind
  have hsorted : Boundary.sorted [r, q] = [r.opening, q.opening, r.closing, q.closing] :=
    Boundary.sorted_eq_of_strict strict ((List.Perm.swap _ _ _).cons _)
  have hapart : q.start ≠ r.stop := UInt32.ne_of_lt hmiddle
  rw [flatten, hsorted]
  simp [Sweep.run, Sweep.step, Sweep.initial, Sweep.extend, Boundary.apply, isHit, UsageRange.opening,
    UsageRange.closing, hit, missed, hstart, hstop, hapart]

theorem not_hit_around_of_covers_flatten :
    ¬∀ rs : List UsageRange, (∀ r ∈ rs, r.start < r.stop) → ∀ p, covers (flatten rs) p = true →
      ∃ r ∈ rs, r.contains p = true ∧ 0 < r.hits := by
  intro h
  have hcovered : covers (flatten [⟨0, 10, 1⟩, ⟨5, 12, 0⟩]) 11 = true := by
    rw [flatten_of_outruns (by decide) (by decide) rfl]
    decide
  exact absurd (h [⟨0, 10, 1⟩, ⟨5, 12, 0⟩] (by decide) 11 hcovered) (by decide)

end PageCoverage
