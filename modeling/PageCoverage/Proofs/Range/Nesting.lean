import PageCoverage.Proofs.Range.Depth

namespace PageCoverage

/-- One of two ranges lies within the other. -/
def UsageRange.Nested (r q : UsageRange) : Prop :=
  (q.start ≤ r.start ∧ r.stop ≤ q.stop) ∨ (r.start ≤ q.start ∧ q.stop ≤ r.stop)

/-- Two ranges share no offset. -/
def UsageRange.Apart (r q : UsageRange) : Prop := r.stop ≤ q.start ∨ q.stop ≤ r.start

/-- Every two ranges are nested or apart. -/
def Laminar (rs : List UsageRange) : Prop := rs.Pairwise fun r q => r.Nested q ∨ r.Apart q

instance (r q : UsageRange) : Decidable (r.Nested q) := inferInstanceAs (Decidable (_ ∨ _))

instance (r q : UsageRange) : Decidable (r.Apart q) := inferInstanceAs (Decidable (_ ∨ _))

instance (rs : List UsageRange) : Decidable (Laminar rs) := inferInstanceAs (Decidable (List.Pairwise _ rs))

/-- A range around an offset such that none around it is shorter and no later one has the same extent. -/
def Innermost (rs : List UsageRange) (p : UInt32) (r : UsageRange) : Prop :=
  ∃ before after, rs = before ++ r :: after ∧ r.contains p = true ∧
    (∀ q ∈ rs, q.contains p = true → r.length ≤ q.length) ∧
    ∀ q ∈ after, ¬(q.start = r.start ∧ q.stop = r.stop)

theorem UsageRange.contains_of_same {r q : UsageRange} (hstart : q.start = r.start)
    (hstop : q.stop = r.stop) {p : UInt32} (hp : r.contains p = true) : q.contains p = true := by
  rw [UsageRange.contains_iff] at hp ⊢
  rwa [hstart, hstop]

/-- A range that lies in another and is not the same is the shorter one. -/
theorem UsageRange.length_lt_of_within {r q : UsageRange} (hr : r.start < r.stop)
    (hstart : q.start ≤ r.start) (hstop : r.stop ≤ q.stop)
    (hne : q.start ≠ r.start ∨ q.stop ≠ r.stop) : r.length < q.length := by
  have hq : q.start < q.stop := UInt32.lt_of_le_of_lt hstart (UInt32.lt_of_lt_of_le hr hstop)
  rw [UsageRange.length_of_lt hr, UsageRange.length_of_lt hq]
  grind

theorem Laminar.nested_or_apart {rs : List UsageRange} (h : Laminar rs) {r q : UsageRange}
    (hr : r ∈ rs) (hq : q ∈ rs) : r.Nested q ∨ r.Apart q := by
  refine List.Pairwise.forall_of_forall_of_flip ?_ h ?_ hr hq
  · intro x _
    exact Or.inl (Or.inl ⟨UInt32.le_rfl, UInt32.le_rfl⟩)
  · refine h.imp fun {x y} hxy => ?_
    rcases hxy with (inner | outer) | before | behind
    · exact Or.inl (Or.inr inner)
    · exact Or.inl (Or.inl outer)
    · exact Or.inr (Or.inr before)
    · exact Or.inr (Or.inl behind)

theorem Innermost.mem {rs : List UsageRange} {p : UInt32} {r : UsageRange} (h : Innermost rs p r) :
    r ∈ rs := by
  obtain ⟨before, after, rfl, -⟩ := h
  simp

/-- Around an offset that lies in some range there is an innermost one. -/
theorem exists_innermost {rs : List UsageRange} {p : UInt32} (h : ∃ r ∈ rs, r.contains p = true) :
    ∃ r, Innermost rs p r := by
  induction rs with
  | nil => simp at h
  | cons q rest ih =>
    by_cases hrest : ∃ r ∈ rest, r.contains p = true
    · obtain ⟨r, before, after, hsplit, hp, hmin, hlast⟩ := ih hrest
      by_cases hq : q.contains p = true ∧ q.length < r.length
      · refine ⟨q, [], rest, rfl, hq.1, ?_, ?_⟩
        · intro x hx hxp
          rcases List.mem_cons.mp hx with rfl | hx
          · exact UInt32.le_rfl
          · exact UInt32.le_of_lt (UInt32.lt_of_lt_of_le hq.2 (hmin x hx hxp))
        · rintro x hx ⟨hstart, hstop⟩
          have hxq : x.length = q.length := by
            simp only [UsageRange.length, hstart, hstop]
          have hle := hmin x hx (UsageRange.contains_of_same hstart hstop hq.1)
          rw [hxq] at hle
          exact UInt32.not_lt.mpr hle hq.2
      · refine ⟨r, q :: before, after, by rw [hsplit]; rfl, hp, ?_, hlast⟩
        intro x hx hxp
        rcases List.mem_cons.mp hx with rfl | hx
        · exact UInt32.not_lt.mp fun hlt => hq ⟨hxp, hlt⟩
        · exact hmin x hx hxp
    · obtain ⟨r, hr, hp⟩ := h
      have hrq : r = q := (List.mem_cons.mp hr).resolve_right fun hr => hrest ⟨r, hr, hp⟩
      subst hrq
      refine ⟨r, [], rest, rfl, hp, ?_, ?_⟩
      · intro x hx hxp
        rcases List.mem_cons.mp hx with rfl | hx
        · exact UInt32.le_rfl
        · exact absurd ⟨x, hx, hxp⟩ hrest
      · rintro x hx ⟨hstart, hstop⟩
        exact hrest ⟨x, hx, UsageRange.contains_of_same hstart hstop hp⟩

namespace Boundary

/-- In sweep order nothing that ties with the last range of an extent follows its opening point. -/
theorem sorted_split_opening {before after : List UsageRange} {r : UsageRange}
    (proper : ∀ q ∈ before ++ r :: after, q.start < q.stop)
    (last : ∀ q ∈ after, ¬(q.start = r.start ∧ q.stop = r.stop)) :
    ∃ front back, sorted (before ++ r :: after) = front ++ r.opening :: back ∧
      ∀ b ∈ back, tied r.opening b = false := by
  have hr := proper r (by simp)
  have hself : tied r.opening r.opening = true := (tied_opening hr hr).mpr ⟨rfl, rfl⟩
  have hafter : (after.flatMap UsageRange.boundaries).filter (tied r.opening) = [] := by
    refine List.filter_eq_nil_iff.mpr fun b hb => ?_
    obtain ⟨q, hq, hb⟩ := List.mem_flatMap.mp hb
    rw [UsageRange.boundaries_eq, List.mem_cons, List.mem_singleton] at hb
    rcases hb with rfl | rfl
    · rw [tied_opening hr (proper q (by simp [hq]))]
      exact last q hq
    · simp [tied_closing]
  have hclass : (sorted (before ++ r :: after)).filter (tied r.opening) =
      (before.flatMap UsageRange.boundaries).filter (tied r.opening) ++ [r.opening] := by
    rw [filter_tied_sorted, List.flatMap_append, List.flatMap_cons, UsageRange.boundaries_eq,
      List.filter_append, List.filter_append, hafter]
    simp [hself, tied_closing]
  obtain ⟨front, rest, hsorted, -, hrest⟩ := List.filter_eq_append_iff.mp hclass
  obtain ⟨middle, back, rfl, -, -, hback⟩ := List.filter_eq_cons_iff.mp hrest
  refine ⟨front ++ middle, back, by rw [hsorted, List.append_assoc], fun b hb => ?_⟩
  have := List.filter_eq_nil_iff.mp hback b hb
  simpa using this

/-- The points up to an offset without those that come before the opening point of a range. -/
def behind (r : UsageRange) (p : UInt32) (b : Boundary) : Bool :=
  !precedes b r.opening && b.offset ≤ p

theorem behind_opening_iff {r q : UsageRange} {p : UInt32} :
    behind r p q.opening = true ↔
      (r.start < q.start ∨ q.start = r.start ∧ q.length < r.length) ∧ q.start ≤ p := by
  simp only [behind, precedes, UsageRange.opening, Bool.and_eq_true, Bool.not_eq_true']
  grind

theorem behind_closing_iff {r q : UsageRange} {p : UInt32} :
    behind r p q.closing = true ↔ r.start < q.stop ∧ q.stop ≤ p := by
  simp only [behind, precedes, UsageRange.opening, UsageRange.closing, Bool.and_eq_true,
    Bool.not_eq_true']
  grind

/-- Behind the opening point of the innermost range, ranges open and close together. -/
theorem behind_opening_eq_closing {rs : List UsageRange} (proper : ∀ r ∈ rs, r.start < r.stop)
    (laminar : Laminar rs) {p : UInt32} {r : UsageRange} (hr : r ∈ rs) (hp : r.contains p = true)
    (hmin : ∀ q ∈ rs, q.contains p = true → r.length ≤ q.length) {q : UsageRange} (hq : q ∈ rs) :
    behind r p q.opening = behind r p q.closing := by
  obtain ⟨hstart, hstop⟩ := UsageRange.contains_iff.mp hp
  have hproper := proper q hq
  have hpair := laminar.nested_or_apart hr hq
  rw [Bool.eq_iff_iff, behind_opening_iff, behind_closing_iff]
  constructor
  · rintro ⟨hopen, hbefore⟩
    refine ⟨by grind, ?_⟩
    -- a range still open at the offset would lie within the innermost one and be shorter
    by_contra hlate
    have hle := hmin q hq (UsageRange.contains_iff.mpr ⟨hbefore, by grind⟩)
    rcases hopen with hlt | ⟨-, hshort⟩
    · have hshort : q.length < r.length := by
        rcases hpair with (⟨hsame, -⟩ | ⟨-, hin⟩) | happ | happ
        · grind
        · exact UsageRange.length_lt_of_within hproper (UInt32.le_of_lt hlt) hin (by grind)
        · grind
        · grind
      grind
    · grind
  · rintro ⟨hbehind, hclosed⟩
    have hopened : q.start ≤ p := UInt32.le_of_lt (UInt32.lt_of_lt_of_le hproper hclosed)
    have hwithin : r.start ≤ q.start ∧ q.stop ≤ r.stop := by
      rcases hpair with (⟨-, hover⟩ | hin) | happ | happ
      · grind
      · exact hin
      · grind
      · grind
    refine ⟨?_, hopened⟩
    rcases UInt32.lt_or_eq_of_le hwithin.1 with hlt | heq
    · exact Or.inl hlt
    · exact Or.inr ⟨heq.symm, UsageRange.length_lt_of_within hproper hwithin.1 hwithin.2 (by grind)⟩
end Boundary

/-- The points up to an offset leave the count of the innermost range around it on top. -/
theorem Innermost.stackAt {rs : List UsageRange} (proper : ∀ r ∈ rs, r.start < r.stop)
    (laminar : Laminar rs) {p : UInt32} {r : UsageRange} (h : Innermost rs p r) :
    ∃ stack, stackAt rs p = r.hits :: stack := by
  have hr := h.mem
  obtain ⟨before, after, hsplit, hp, hmin, hlast⟩ := h
  obtain ⟨front, back, hsorted, huntied⟩ :=
    Boundary.sorted_split_opening (hsplit ▸ proper) hlast
  rw [← hsplit] at hsorted
  have hrange := UsageRange.contains_iff.mp hp
  have ordered := Boundary.sorted_pairwise rs
  rw [hsorted] at ordered
  obtain ⟨-, hcons, hcross⟩ := List.pairwise_append.mp ordered
  have hback := (List.pairwise_cons.mp hcons).1
  -- what follows the opening point is what the order puts strictly behind it
  have hbehind : (Boundary.sorted rs).filter (Boundary.behind r p) = Boundary.upTo p back := by
    have hfront : front.filter (Boundary.behind r p) = [] :=
      List.filter_eq_nil_iff.mpr fun b hb => by
        simp [Boundary.behind, hcross b hb r.opening (by simp)]
    have hkeep : back.filter (Boundary.behind r p) = Boundary.upTo p back :=
      List.filter_congr fun b hb => by
        have ht := huntied b hb
        rw [Boundary.tied, hback b hb, Bool.true_and] at ht
        simp [Boundary.behind, ht]
    rw [hsorted, List.filter_append, hfront, List.nil_append,
      List.filter_cons_of_neg (by simp [Boundary.behind, Boundary.precedes_refl]), hkeep]
  have balanced := Boundary.balanced_filter_sorted proper (q := Boundary.behind r p)
    fun q hq => Boundary.behind_opening_eq_closing proper laminar hr hp hmin hq
  rw [hbehind] at balanced
  have hopen : r.opening.offset ≤ p := hrange.1
  refine ⟨Boundary.replay (Boundary.upTo p front), ?_⟩
  have hupto : Boundary.upTo p (Boundary.sorted rs) =
      Boundary.upTo p front ++ r.opening :: Boundary.upTo p back := by
    rw [hsorted, Boundary.upTo_append, Boundary.upTo_cons_of_le hopen]
  rw [PageCoverage.stackAt, hupto, Boundary.replay, List.foldl_append, List.foldl_cons, balanced.foldl_apply]
  rfl

/-- The covered text of nested ranges: an offset is covered if the innermost range around it was hit. -/
theorem covers_flatten_iff_innermost {rs : List UsageRange} (proper : ∀ r ∈ rs, r.start < r.stop)
    (laminar : Laminar rs) (p : UInt32) :
    covers (flatten rs) p = true ↔ ∃ r, Innermost rs p r ∧ 0 < r.hits := by
  rw [covers_flatten]
  constructor
  · rintro ⟨-, hit⟩
    have around : ∃ r ∈ rs, r.contains p = true := by
      by_contra hnone
      rw [stackAt_eq_nil proper fun r hr hp => hnone ⟨r, hr, hp⟩] at hit
      simp [isHit] at hit
    obtain ⟨r, hr⟩ := exists_innermost around
    obtain ⟨stack, hstack⟩ := hr.stackAt proper laminar
    rw [hstack] at hit
    exact ⟨r, hr, by simpa [isHit] using hit⟩
  · rintro ⟨r, hr, hit⟩
    obtain ⟨stack, hstack⟩ := hr.stackAt proper laminar
    refine ⟨⟨r.closing, Boundary.closing_mem_sorted hr.mem, ?_⟩, ?_⟩
    · obtain ⟨-, -, -, hp, -⟩ := hr
      exact (UsageRange.contains_iff.mp hp).2
    · rw [hstack]
      simpa [isHit] using hit

/-- Of three ranges that share their start, two of them with one extent, the shorter two are innermost
around offset 1, and the later of them counts. -/
theorem covers_flatten_iff_innermost_twins :
    let rs : List UsageRange := [⟨0, 9, 1⟩, ⟨0, 4, 2⟩, ⟨0, 4, 0⟩, ⟨4, 9, 0⟩]
    (∀ r ∈ rs, r.start < r.stop) ∧ Laminar rs ∧
      (covers (flatten rs) 1 = true ↔ ∃ r, Innermost rs 1 r ∧ 0 < r.hits) :=
  ⟨by decide, by decide, covers_flatten_iff_innermost (by decide) (by decide) 1⟩

end PageCoverage
