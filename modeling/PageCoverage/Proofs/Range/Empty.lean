import PageCoverage.Proofs.Range.Canonical
import PageCoverage.Proofs.Range.Depth

namespace PageCoverage

theorem UsageRange.isEmpty_iff {r : UsageRange} : r.isEmpty = true ↔ r.length = 0 := beq_iff_eq

theorem UsageRange.not_isEmpty_iff {r : UsageRange} : (!r.isEmpty) = true ↔ r.start < r.stop := by
  simp only [Bool.not_eq_true', ← Bool.not_eq_true, UsageRange.isEmpty_iff, UsageRange.length, spanLength]
  split <;> grind

theorem UsageRange.stop_eq_start {r : UsageRange} (straight : r.start ≤ r.stop) (empty : r.isEmpty = true) :
    r.stop = r.start := by
  have hnot : ¬r.start < r.stop := by
    rw [← UsageRange.not_isEmpty_iff, empty]
    decide
  exact UInt32.le_antisymm (UInt32.not_lt.mp hnot) straight

/-- No range is inverted, and where an empty one lies no other one starts. -/
structure Lone (rs : List UsageRange) : Prop where
  straight : ∀ r ∈ rs, r.start ≤ r.stop
  alone : rs.Pairwise fun r q => r.isEmpty = true ∨ q.isEmpty = true → r.start ≠ q.start

instance (rs : List UsageRange) : Decidable (Lone rs) :=
  decidable_of_iff (_ ∧ _) ⟨fun h => ⟨h.1, h.2⟩, fun h => ⟨h.1, h.2⟩⟩

/-- The points of an empty range at an offset. -/
def Boundary.isSpot (t : UInt32) (b : Boundary) : Bool := b.offset = t && b.length = 0

theorem Boundary.filter_not_eq_self {q : Boundary → Bool} {bs : List Boundary} (h : ∀ b ∈ bs, ¬q b = true) :
    bs.filter (!q ·) = bs :=
  List.filter_eq_self.mpr fun b hb => by simpa using h b hb

theorem Boundary.foldl_apply_closings {bs : List Boundary} (h : ∀ b ∈ bs, b.isClosing = true)
    (stack : List UInt32) : bs.foldl apply stack = stack.drop bs.length := by
  induction bs generalizing stack with
  | nil => rfl
  | cons b bs ih =>
    obtain ⟨hb, hbs⟩ := List.forall_mem_cons.mp h
    have hside : b.side = .closing := of_decide_eq_true hb
    rw [List.foldl_cons, ih hbs, apply_of_closing hside, List.drop_tail, List.length_cons]

namespace Lone

section Spot

variable {as zs : List UsageRange} {r : UsageRange}

theorem of_append_cons (lone : Lone (as ++ r :: zs)) : Lone (as ++ zs) where
  straight q hq := lone.straight q (by simp only [List.mem_append, List.mem_cons] at hq ⊢; tauto)
  alone := lone.alone.sublist (by simp)

theorem stop_eq_start (lone : Lone (as ++ r :: zs)) (empty : r.isEmpty = true) : r.stop = r.start :=
  UsageRange.stop_eq_start (lone.straight r (by simp)) empty

theorem start_ne (lone : Lone (as ++ r :: zs)) (empty : r.isEmpty = true) {q : UsageRange} (hq : q ∈ as ++ zs) :
    q.start ≠ r.start := by
  have hfirst := (List.perm_middle.pairwise_iff fun {x y} h hempty => (h hempty.symm).symm).mp lone.alone
  exact ((List.pairwise_cons.mp hfirst).1 q hq (Or.inl empty)).symm

/-- The other ranges have no point where an empty range lies but the ends of longer ones. -/
theorem closing_of_offset (lone : Lone (as ++ r :: zs)) (empty : r.isEmpty = true) {b : Boundary}
    (hb : b ∈ (as ++ zs).flatMap UsageRange.boundaries) (hoffset : b.offset = r.start) :
    b.isClosing = true ∧ b.length ≠ 0 := by
  obtain ⟨q, hq, hb⟩ := List.mem_flatMap.mp hb
  have hstart := lone.start_ne empty hq
  rw [UsageRange.boundaries_eq, List.mem_cons, List.mem_singleton] at hb
  rcases hb with rfl | rfl
  · exact absurd hoffset hstart
  · refine ⟨rfl, fun hlength => hstart ?_⟩
    have hstop := UsageRange.stop_eq_start (lone.of_append_cons.straight q hq)
      (UsageRange.isEmpty_iff.mpr hlength)
    rw [← hstop]
    exact hoffset

theorem filter_isSpot (lone : Lone (as ++ r :: zs)) (empty : r.isEmpty = true) :
    ((as ++ r :: zs).flatMap UsageRange.boundaries).filter (Boundary.isSpot r.start) = [r.opening, r.closing] ∧
      ((as ++ r :: zs).flatMap UsageRange.boundaries).filter (!Boundary.isSpot r.start ·) =
        (as ++ zs).flatMap UsageRange.boundaries := by
  have hr : r.length = 0 := UsageRange.isEmpty_iff.mp empty
  have hopening : r.opening.isSpot r.start = true := by simp [Boundary.isSpot, UsageRange.opening, hr]
  have hclosing : r.closing.isSpot r.start = true := by
    simp [Boundary.isSpot, UsageRange.closing, hr, lone.stop_eq_start empty]
  have hothers {qs : List UsageRange} (hqs : qs ⊆ as ++ zs) :
      ∀ b ∈ qs.flatMap UsageRange.boundaries, ¬Boundary.isSpot r.start b = true := by
    intro b hb hspot
    obtain ⟨q, hq, hbq⟩ := List.mem_flatMap.mp hb
    have hclosing := lone.closing_of_offset empty (List.mem_flatMap.mpr ⟨q, hqs hq, hbq⟩)
    simp only [Boundary.isSpot, Bool.and_eq_true, decide_eq_true_eq] at hspot
    exact (hclosing hspot.1).2 hspot.2
  have has := hothers (List.subset_append_left as zs)
  have hzs := hothers (List.subset_append_right as zs)
  simp only [List.flatMap_append, List.flatMap_cons, List.filter_append]
  constructor
  · rw [List.filter_eq_nil_iff.mpr has, List.filter_eq_nil_iff.mpr hzs]
    simp [UsageRange.boundaries_eq, hopening, hclosing]
  · rw [Boundary.filter_not_eq_self has, Boundary.filter_not_eq_self hzs]
    simp [UsageRange.boundaries_eq, hopening, hclosing]

theorem sorted_single (lone : Lone (as ++ r :: zs)) (empty : r.isEmpty = true) :
    Boundary.sorted [r] = [r.closing, r.opening] := by
  have hback : Boundary.precedes r.opening r.closing = false := by
    simp [Boundary.precedes, UsageRange.closing, UsageRange.opening, lone.stop_eq_start empty]
  exact Boundary.sorted_eq_of_strict (by simpa using hback) (List.Perm.swap _ _ _)

/-- The points of an empty range stand among those of the others. -/
theorem exists_sorted_eq (lone : Lone (as ++ r :: zs)) (empty : r.isEmpty = true) :
    ∃ front ending back,
      Boundary.sorted (as ++ r :: zs) = front ++ r.closing :: (ending ++ r.opening :: back) ∧
      Boundary.sorted (as ++ zs) = front ++ (ending ++ back) := by
  obtain ⟨hspot, hothers⟩ := lone.filter_isSpot empty
  have hpicked : (Boundary.sorted (as ++ r :: zs)).filter (Boundary.isSpot r.start) = [r.closing, r.opening] := by
    rw [Boundary.sorted, Boundary.filter_mergeSort, hspot]
    exact lone.sorted_single empty
  have hleft : (Boundary.sorted (as ++ r :: zs)).filter (!Boundary.isSpot r.start ·) =
      Boundary.sorted (as ++ zs) := by
    rw [Boundary.sorted, Boundary.filter_mergeSort, hothers]
    rfl
  obtain ⟨front, rest, hsorted, hfront, hc, hrest⟩ := List.filter_eq_cons_iff.mp hpicked
  obtain ⟨ending, back, rfl, hending, ho, hback⟩ := List.filter_eq_cons_iff.mp hrest
  refine ⟨front, ending, back, hsorted, ?_⟩
  rw [← hleft, hsorted, List.filter_append, List.filter_cons_of_neg (by simp [hc]), List.filter_append,
    List.filter_cons_of_neg (by simp [ho]), Boundary.filter_not_eq_self hfront,
    Boundary.filter_not_eq_self hending, Boundary.filter_not_eq_self (List.filter_eq_nil_iff.mp hback)]

/-- An empty range closes before the longer ranges that end there, and opens behind them. -/
theorem sorted_split (lone : Lone (as ++ r :: zs)) (empty : r.isEmpty = true) :
    ∃ front ending back,
      Boundary.sorted (as ++ r :: zs) = front ++ r.closing :: (ending ++ r.opening :: back) ∧
      Boundary.sorted (as ++ zs) = front ++ (ending ++ back) ∧
      (∀ b ∈ front, b.offset < r.start) ∧ (∀ b ∈ ending, b.offset = r.start ∧ b.isClosing = true) ∧
      ∀ b ∈ back, r.start < b.offset := by
  have hstop := lone.stop_eq_start empty
  obtain ⟨front, ending, back, hwith, hwithout⟩ := lone.exists_sorted_eq empty
  have hpoint {b : Boundary} (hb : b ∈ front ++ (ending ++ back)) :
      b.offset = r.start → b.isClosing = true ∧ b.length ≠ 0 := by
    rw [← hwithout] at hb
    exact lone.closing_of_offset empty ((Boundary.sorted_perm _).mem_iff.mp hb)
  have ordered := Boundary.sorted_pairwise (as ++ r :: zs)
  rw [hwith] at ordered
  obtain ⟨-, hclosed, hbefore⟩ := List.pairwise_append.mp ordered
  obtain ⟨hclosing, hrest⟩ := List.pairwise_cons.mp hclosed
  obtain ⟨-, hopened, hbetween⟩ := List.pairwise_append.mp hrest
  have hopening := (List.pairwise_cons.mp hopened).1
  refine ⟨front, ending, back, hwith, hwithout, fun b hb => ?_, fun b hb => ?_, fun b hb => ?_⟩
  · have hprecedes := hbefore b hb r.closing (by simp)
    have hle := Boundary.offset_le_of_precedes hprecedes
    refine UInt32.lt_of_le_of_ne (hstop ▸ hle) fun hoffset => ?_
    obtain ⟨hside, hlength⟩ := hpoint (by simp [hb]) hoffset
    have hshort := Boundary.length_le_of_precedes hprecedes (hoffset.trans hstop.symm) hside rfl
    have hzero : r.closing.length = 0 := UsageRange.isEmpty_iff.mp empty
    rw [hzero] at hshort
    exact hlength (UInt32.le_zero_iff.mp hshort)
  · have hfrom := Boundary.offset_le_of_precedes (hclosing b (by simp [hb]))
    have hto := Boundary.offset_le_of_precedes (hbetween b hb r.opening (by simp))
    have hoffset : b.offset = r.start := UInt32.le_antisymm hto (hstop ▸ hfrom)
    exact ⟨hoffset, (hpoint (by simp [hb]) hoffset).1⟩
  · have hprecedes := hopening b hb
    refine UInt32.lt_of_le_of_ne (Boundary.offset_le_of_precedes hprecedes) fun hoffset => ?_
    have hside := (hpoint (by simp [hb]) hoffset.symm).1
    exact Boundary.not_precedes_of_opening hoffset rfl hside hprecedes

/-- Before its offset an empty range changes nothing. -/
theorem stackAt_of_lt (lone : Lone (as ++ r :: zs)) (empty : r.isEmpty = true) {p : UInt32} (hp : p < r.start) :
    stackAt (as ++ r :: zs) p = stackAt (as ++ zs) p := by
  have hstop := lone.stop_eq_start empty
  obtain ⟨front, ending, back, hwith, hwithout, -⟩ := lone.sorted_split empty
  have hclosing : p < r.closing.offset := by rwa [UsageRange.closing_offset, hstop]
  have hopening : p < r.opening.offset := hp
  rw [stackAt, stackAt, hwith, hwithout]
  simp only [Boundary.upTo_append, Boundary.upTo_cons_of_lt hclosing, Boundary.upTo_cons_of_lt hopening]

/-- From its offset on an empty range has put its count in the place of the one in force. -/
theorem exists_stackAt_of_le (lone : Lone (as ++ r :: zs)) (empty : r.isEmpty = true) :
    ∃ back : List Boundary, (∀ b ∈ back, r.start < b.offset) ∧ ∀ p, r.start ≤ p →
      stackAt (as ++ r :: zs) p =
        (Boundary.upTo p back).foldl Boundary.apply (r.hits :: (stackAt (as ++ zs) r.start).tail) ∧
      stackAt (as ++ zs) p = (Boundary.upTo p back).foldl Boundary.apply (stackAt (as ++ zs) r.start) := by
  have hstop := lone.stop_eq_start empty
  obtain ⟨front, ending, back, hwith, hwithout, hfront, hending, hback⟩ := lone.sorted_split empty
  have hclosed (stack : List UInt32) : ending.foldl Boundary.apply stack = stack.drop ending.length :=
    Boundary.foldl_apply_closings (fun b hb => (hending b hb).2) stack
  have hwhole {p : UInt32} (hp : r.start ≤ p) : Boundary.upTo p front = front ∧ Boundary.upTo p ending = ending :=
    ⟨Boundary.upTo_eq_self fun b hb => UInt32.le_trans (UInt32.le_of_lt (hfront b hb)) hp,
      Boundary.upTo_eq_self fun b hb => (hending b hb).1 ▸ hp⟩
  have hpassed {p : UInt32} (hp : r.start ≤ p) :
      stackAt (as ++ zs) p =
        (Boundary.upTo p back).foldl Boundary.apply ((Boundary.replay front).drop ending.length) := by
    obtain ⟨hf, he⟩ := hwhole hp
    rw [stackAt, hwithout, Boundary.upTo_append, Boundary.upTo_append, hf, he, Boundary.replay,
      List.foldl_append, List.foldl_append, hclosed, Boundary.replay]
  have hhere : stackAt (as ++ zs) r.start = (Boundary.replay front).drop ending.length := by
    rw [hpassed UInt32.le_rfl, Boundary.upTo_eq_nil hback, List.foldl_nil]
  refine ⟨back, hback, fun p hp => ⟨?_, ?_⟩⟩
  · obtain ⟨hf, he⟩ := hwhole hp
    have hclosing : r.closing.offset ≤ p := by rwa [UsageRange.closing_offset, hstop]
    have hopening : r.opening.offset ≤ p := hp
    have hupto : Boundary.upTo p (Boundary.sorted (as ++ r :: zs)) =
        front ++ r.closing :: (ending ++ r.opening :: Boundary.upTo p back) := by
      rw [hwith, Boundary.upTo_append, Boundary.upTo_cons_of_le hclosing, Boundary.upTo_append,
        Boundary.upTo_cons_of_le hopening, hf, he]
    rw [stackAt, hupto, Boundary.replay, List.foldl_append, List.foldl_cons, List.foldl_append, List.foldl_cons,
      Boundary.apply_of_opening (b := r.opening) rfl, Boundary.apply_of_closing (b := r.closing) rfl, hclosed,
      List.drop_tail, hhere, List.tail_drop]
    rfl
  · rw [hhere, hpassed hp]

/-- If an empty range says of its offset what the others say, the counts on the stack are positive where they
are without it. -/
theorem hitWithin_stackAt (lone : Lone (as ++ r :: zs)) (empty : r.isEmpty = true) {p : UInt32}
    (agrees : r.start ≤ p → (0 < r.hits ↔ isHit (stackAt (as ++ zs) r.start) = true)) :
    HitWithin (stackAt (as ++ r :: zs) p) (stackAt (as ++ zs) p) ∧
      HitWithin (stackAt (as ++ zs) p) (stackAt (as ++ r :: zs) p) := by
  rcases UInt32.lt_or_le p r.start with hlt | hle
  · rw [lone.stackAt_of_lt empty hlt]
    exact ⟨.refl _, .refl _⟩
  · obtain ⟨back, -, hback⟩ := lone.exists_stackAt_of_le empty
    obtain ⟨hwith, hwithout⟩ := hback p hle
    have hpositive := agrees hle
    rw [hwith, hwithout]
    constructor
    · apply HitWithin.foldl_apply
      refine hitWithin_of_tail (fun hit => hpositive.mp ?_) rfl
      simpa [isHit] using hit
    · apply HitWithin.foldl_apply
      refine hitWithin_of_tail (fun hit => ?_) rfl
      simpa [isHit] using hpositive.mpr hit

/-- At its own offset the count of an empty range is in force. -/
theorem isHit_stackAt_start (lone : Lone (as ++ r :: zs)) (empty : r.isEmpty = true) :
    isHit (stackAt (as ++ r :: zs) r.start) = true ↔ 0 < r.hits := by
  obtain ⟨back, hlate, hback⟩ := lone.exists_stackAt_of_le empty
  rw [(hback r.start UInt32.le_rfl).1, Boundary.upTo_eq_nil hlate]
  simp [isHit]

end Spot

/-- As long as all empty ranges passed say of their offsets what the ranges that span something say, the
counts on the stack are positive where they are for the latter. -/
theorem hitWithin_spanning {rs : List UsageRange} (lone : Lone rs) (p : UInt32)
    (agree : ∀ r ∈ rs, r.isEmpty = true → r.start ≤ p →
      (0 < r.hits ↔ isHit (stackAt (rs.filter (!·.isEmpty)) r.start) = true)) :
    HitWithin (stackAt rs p) (stackAt (rs.filter (!·.isEmpty)) p) ∧
      HitWithin (stackAt (rs.filter (!·.isEmpty)) p) (stackAt rs p) := by
  induction hlength : rs.length generalizing rs p with
  | zero =>
    rw [List.length_eq_zero_iff.mp hlength]
    exact ⟨.refl _, .refl _⟩
  | succ n ih =>
    by_cases hspans : ∀ r ∈ rs, (!r.isEmpty) = true
    · rw [List.filter_eq_self.mpr hspans]
      exact ⟨.refl _, .refl _⟩
    · -- one empty range less, and the ranges that span something stay the same
      obtain ⟨r, hr, empty⟩ : ∃ r ∈ rs, r.isEmpty = true := by
        simpa using hspans
      obtain ⟨as, zs, rfl⟩ := List.append_of_mem hr
      have hsame : (as ++ r :: zs).filter (!·.isEmpty) = (as ++ zs).filter (!·.isEmpty) := by
        simp [empty]
      rw [hsame] at agree ⊢
      have hfewer (q : UInt32) (hq : q ≤ p) := ih lone.of_append_cons q
        (fun x hx hempty hxq => agree x (by simp only [List.mem_append, List.mem_cons] at hx ⊢; tauto) hempty
          (UInt32.le_trans hxq hq))
        (by simp only [List.length_append, List.length_cons] at hlength ⊢; omega)
      obtain ⟨hinto, honto⟩ := lone.hitWithin_stackAt empty (p := p) fun hle => by
        rw [agree r hr empty hle]
        exact ⟨(hfewer r.start hle).2 0, (hfewer r.start hle).1 0⟩
      obtain ⟨hinto', honto'⟩ := hfewer p UInt32.le_rfl
      exact ⟨hinto.trans hinto', honto'.trans honto⟩

theorem exists_point_iff {rs : List UsageRange} (lone : Lone rs) {p : UInt32} :
    (∃ b ∈ Boundary.sorted rs, p < b.offset) ↔ ∃ q ∈ rs, p < q.stop := by
  constructor
  · rintro ⟨b, hb, hp⟩
    obtain ⟨q, hq, rfl | rfl⟩ := Boundary.mem_sorted.mp hb
    · exact ⟨q, hq, UInt32.lt_of_lt_of_le hp (lone.straight q hq)⟩
    · exact ⟨q, hq, hp⟩
  · rintro ⟨q, hq, hp⟩
    exact ⟨q.closing, Boundary.closing_mem_sorted hq, hp⟩

end Lone

/-- Ranges that span nothing contribute nothing exactly if each that lies before the end says of its offset
what the other ranges say. -/
theorem flatten_eq_flatten_spanning_iff {rs : List UsageRange} (lone : Lone rs) :
    flatten rs = flatten (rs.filter (!·.isEmpty)) ↔
      ∀ r ∈ rs, r.isEmpty = true → (∃ q ∈ rs, r.start < q.stop) →
        (0 < r.hits ↔ covers (flatten (rs.filter (!·.isEmpty))) r.start = true) := by
  have proper : ∀ r ∈ rs.filter (!·.isEmpty), r.start < r.stop := fun r hr =>
    UsageRange.not_isEmpty_iff.mp (List.mem_filter.mp hr).2
  constructor
  · intro heq r hr empty hbehind
    obtain ⟨as, zs, rfl⟩ := List.append_of_mem hr
    rw [← heq, covers_flatten, lone.isHit_stackAt_start empty]
    exact (and_iff_right (lone.exists_point_iff.mpr hbehind)).symm
  · intro agree
    refine (canonical_flatten rs).ext (canonical_flatten _) fun p => ?_
    rw [covers_flatten, lone.exists_point_iff]
    by_cases hbehind : ∃ q ∈ rs, p < q.stop
    · obtain ⟨hinto, honto⟩ := lone.hitWithin_spanning p fun r hr empty hle => by
        rw [← covers_flatten_of_proper proper]
        obtain ⟨q, hq, hp⟩ := hbehind
        exact agree r hr empty ⟨q, hq, UInt32.lt_of_le_of_lt hle hp⟩
      rw [covers_flatten_of_proper proper, and_iff_right hbehind]
      exact ⟨hinto 0, honto 0⟩
    · -- behind the end of all ranges nothing is covered
      refine iff_of_false (fun h => hbehind h.1) fun h => hbehind ?_
      obtain ⟨r, hr, hp⟩ := exists_contains_of_isHit proper ((covers_flatten_of_proper proper).mp h)
      exact ⟨r, List.mem_of_mem_filter hr, (UsageRange.contains_iff.mp hp).2⟩

/-- An empty range in text that was hit, with a positive count itself, and one behind it where nothing is. -/
theorem flatten_eq_flatten_spanning_iff_apart :
    let rs : List UsageRange := [⟨0, 10, 1⟩, ⟨3, 3, 4⟩, ⟨12, 12, 0⟩, ⟨15, 20, 2⟩]
    Lone rs ∧ (flatten rs = flatten (rs.filter (!·.isEmpty)) ↔
      ∀ r ∈ rs, r.isEmpty = true → (∃ q ∈ rs, r.start < q.stop) →
        (0 < r.hits ↔ covers (flatten (rs.filter (!·.isEmpty))) r.start = true)) :=
  ⟨by decide, flatten_eq_flatten_spanning_iff (by decide)⟩

theorem not_flatten_eq_flatten_spanning :
    ¬∀ rs : List UsageRange, flatten rs = flatten (rs.filter (!·.isEmpty)) := by
  intro h
  have hwith : Boundary.sorted [⟨0, 10, 1⟩, ⟨3, 3, 0⟩] =
      [⟨0, .opening, 10, 1⟩, ⟨3, .closing, 0, 0⟩, ⟨3, .opening, 0, 0⟩, ⟨10, .closing, 10, 1⟩] :=
    Boundary.sorted_eq_of_strict (by decide) (by decide)
  have hwithout : Boundary.sorted [⟨0, 10, 1⟩] = [⟨0, .opening, 10, 1⟩, ⟨10, .closing, 10, 1⟩] :=
    Boundary.sorted_eq_of_strict (by decide) (by decide)
  have heq : flatten [⟨0, 10, 1⟩, ⟨3, 3, 0⟩] = flatten [⟨0, 10, 1⟩] := h [⟨0, 10, 1⟩, ⟨3, 3, 0⟩]
  rw [flatten, flatten, hwith, hwithout] at heq
  exact absurd heq (by decide)

end PageCoverage
