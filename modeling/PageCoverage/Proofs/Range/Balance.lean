import PageCoverage.Proofs.Range.Order
import Mathlib.Data.List.Induction

namespace PageCoverage

namespace Boundary

def openings (bs : List Boundary) : Nat := bs.countP isOpening

def closings (bs : List Boundary) : Nat := bs.countP isClosing

/-- At no point more has been closed than opened. -/
def Guarded (bs : List Boundary) : Prop := ∀ initial, initial <+: bs → closings initial ≤ openings initial

/-- Guarded points that close all they open. -/
structure Balanced (bs : List Boundary) : Prop where
  guarded : Guarded bs
  closed : closings bs = openings bs

@[simp] theorem openings_append (as bs : List Boundary) :
    openings (as ++ bs) = openings as + openings bs := List.countP_append

@[simp] theorem closings_append (as bs : List Boundary) :
    closings (as ++ bs) = closings as + closings bs := List.countP_append

theorem counts_concat_of_opening {b : Boundary} (h : b.side = .opening) (bs : List Boundary) :
    openings (bs ++ [b]) = openings bs + 1 ∧ closings (bs ++ [b]) = closings bs := by
  simp [openings, closings, isOpening, isClosing, h]

theorem counts_concat_of_closing {b : Boundary} (h : b.side = .closing) (bs : List Boundary) :
    openings (bs ++ [b]) = openings bs ∧ closings (bs ++ [b]) = closings bs + 1 := by
  simp [openings, closings, isOpening, isClosing, h]

theorem Guarded.of_append {as bs : List Boundary} (h : Guarded (as ++ bs)) : Guarded as :=
  fun initial hi => h initial (hi.trans (List.prefix_append as bs))

theorem Guarded.concat {bs : List Boundary} {b : Boundary} (h : Guarded bs)
    (hb : closings (bs ++ [b]) ≤ openings (bs ++ [b])) : Guarded (bs ++ [b]) := by
  intro initial hinitial
  rcases List.prefix_concat_iff.mp hinitial with rfl | hinitial
  · exact hb
  · exact h initial hinitial

/-- Guarded points never reach what the stack held before them. -/
theorem Guarded.foldl_apply {bs : List Boundary} (h : Guarded bs) (stack : List UInt32) :
    ∃ top, bs.foldl apply stack = top ++ stack ∧ top.length + closings bs = openings bs := by
  induction bs using List.reverseRecOn with
  | nil => exact ⟨[], rfl, rfl⟩
  | append_singleton bs b ih =>
    obtain ⟨top, hfold, hlen⟩ := ih h.of_append
    have hbound := h _ (List.prefix_refl _)
    rw [List.foldl_append, hfold, List.foldl_cons, List.foldl_nil]
    cases hside : b.side with
    | opening =>
      obtain ⟨hopened, hclosed⟩ := counts_concat_of_opening hside bs
      refine ⟨b.hits :: top, apply_of_opening hside _, ?_⟩
      rw [List.length_cons]
      omega
    | closing =>
      obtain ⟨hopened, hclosed⟩ := counts_concat_of_closing hside bs
      cases top with
      | nil =>
        rw [List.length_nil] at hlen
        omega
      | cons hit top =>
        refine ⟨top, apply_of_closing hside _, ?_⟩
        rw [List.length_cons] at hlen
        omega

/-- Balanced points leave the stack as it was. -/
theorem Balanced.foldl_apply {bs : List Boundary} (h : Balanced bs) (stack : List UInt32) :
    bs.foldl apply stack = stack := by
  obtain ⟨top, hfold, hlen⟩ := h.guarded.foldl_apply stack
  have hclosed := h.closed
  have empty : top = [] := List.eq_nil_of_length_eq_zero (by omega)
  rw [hfold, empty, List.nil_append]

/-- Opening and closing points as a property `q` picks them out of the points of some ranges. -/
theorem openings_filter_sorted (q : Boundary → Bool) (rs : List UsageRange) :
    openings ((sorted rs).filter q) = rs.countP (q ·.opening) := by
  simp only [openings, List.countP_filter, countP_sorted]
  simp

theorem closings_filter_sorted (q : Boundary → Bool) (rs : List UsageRange) :
    closings ((sorted rs).filter q) = rs.countP (q ·.closing) := by
  simp only [closings, List.countP_filter, countP_sorted]
  simp

/-- Points chosen so that each closing point comes with its opening point are guarded: the opening
points of all ranges closed so far lie strictly before the last point. -/
theorem guarded_filter_sorted {rs : List UsageRange} (proper : ∀ r ∈ rs, r.start < r.stop)
    {q : Boundary → Bool} (hq : ∀ r ∈ rs, q r.closing → q r.opening) :
    Guarded ((sorted rs).filter q) := by
  rintro initial ⟨rest, hsplit⟩
  obtain ⟨front, back, hsorted, rfl, -⟩ := List.filter_eq_append_iff.mp hsplit.symm
  rcases List.eq_nil_or_concat front with rfl | ⟨front, e, rfl⟩
  · exact Nat.le_refl _
  have ordered := sorted_pairwise rs
  rw [hsorted] at ordered
  obtain ⟨hfront, -, hback⟩ := List.pairwise_append.mp ordered
  have early : ∀ b ∈ front.concat e, precedes b e := by
    intro b hb
    rw [List.concat_eq_append] at hb hfront
    rcases List.mem_append.mp hb with hb | hb
    · exact (List.pairwise_append.mp hfront).2.2 b hb e (by simp)
    · obtain rfl := List.mem_singleton.mp hb
      exact precedes_refl b
  have late : ∀ b ∈ back, precedes e b := fun b hb => hback e (by simp) b hb
  calc closings ((front.concat e).filter q)
      = (front.concat e).countP (fun b => isClosing b && q b) := by
        simp only [closings, List.countP_filter]
    _ ≤ (front.concat e).countP (fun b => isClosing b && q b && precedes b e) :=
        List.countP_mono_left fun b hb hc => by simp [hc, early b hb]
    _ ≤ (sorted rs).countP (fun b => isClosing b && q b && precedes b e) := by
        rw [hsorted]
        exact (List.sublist_append_left _ _).countP_le
    _ = rs.countP (fun r => q r.closing && precedes r.closing e) := by
        simp [countP_sorted]
    _ ≤ rs.countP (fun r => q r.opening && !precedes e r.opening) := by
        refine List.countP_mono_left fun r hr h => ?_
        simp only [Bool.and_eq_true, Bool.not_eq_true', ← Bool.not_eq_true] at h ⊢
        exact ⟨hq r hr h.1, fun hn =>
          opening_strictly_before_closing (proper r hr) (precedes_trans _ _ _ h.2 hn)⟩
    _ = (sorted rs).countP (fun b => isOpening b && q b && !precedes e b) := by
        simp [countP_sorted]
    _ = (front.concat e).countP (fun b => isOpening b && q b && !precedes e b) := by
        have hnone : back.countP (fun b => isOpening b && q b && !precedes e b) = 0 :=
          List.countP_eq_zero.mpr fun b hb => by simp [late b hb]
        rw [hsorted, List.countP_append, hnone, Nat.add_zero]
    _ ≤ (front.concat e).countP (fun b => isOpening b && q b) :=
        List.countP_mono_left fun b _ h => by
          simp only [Bool.and_eq_true] at h ⊢
          exact h.1
    _ = openings ((front.concat e).filter q) := by simp only [openings, List.countP_filter]

/-- Points chosen range by range are balanced. -/
theorem balanced_filter_sorted {rs : List UsageRange} (proper : ∀ r ∈ rs, r.start < r.stop)
    {q : Boundary → Bool} (hq : ∀ r ∈ rs, q r.opening = q r.closing) :
    Balanced ((sorted rs).filter q) where
  guarded := guarded_filter_sorted proper fun r hr h => by rw [hq r hr, h]
  closed := by
    rw [openings_filter_sorted, closings_filter_sorted]
    exact List.countP_congr fun r hr => by rw [hq r hr]

end Boundary

end PageCoverage
