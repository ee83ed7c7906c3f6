import PageCoverage.Proofs.Range.Order
import Mathlib.Data.List.Induction

namespace PageCoverage

/-- The points that a sweep has passed when it stands at an offset. -/
def Boundary.upTo (p : UInt32) (bs : List Boundary) : List Boundary := bs.filter (·.offset ≤ p)

theorem Boundary.replay_concat (bs : List Boundary) (b : Boundary) :
    replay (bs ++ [b]) = apply (replay bs) b := by
  simp [replay]

theorem Boundary.upTo_append (p : UInt32) (as bs : List Boundary) :
    upTo p (as ++ bs) = upTo p as ++ upTo p bs := List.filter_append ..

theorem Boundary.upTo_cons_of_le {p : UInt32} {b : Boundary} (h : b.offset ≤ p) (bs : List Boundary) :
    upTo p (b :: bs) = b :: upTo p bs := List.filter_cons_of_pos (decide_eq_true h)

theorem Boundary.upTo_cons_of_lt {p : UInt32} {b : Boundary} (h : p < b.offset) (bs : List Boundary) :
    upTo p (b :: bs) = upTo p bs := by
  have hn : ¬b.offset ≤ p := UInt32.not_le.mpr h
  simp [upTo, hn]

theorem Boundary.upTo_concat_of_lt {p : UInt32} {b : Boundary} (h : p < b.offset) (bs : List Boundary) :
    upTo p (bs ++ [b]) = upTo p bs := by
  rw [upTo_append, upTo_cons_of_lt h]
  exact List.append_nil _

theorem Boundary.upTo_eq_self {p : UInt32} {bs : List Boundary} (h : ∀ b ∈ bs, b.offset ≤ p) :
    upTo p bs = bs :=
  List.filter_eq_self.mpr fun b hb => decide_eq_true (h b hb)

theorem Boundary.upTo_eq_nil {p : UInt32} {bs : List Boundary} (h : ∀ b ∈ bs, p < b.offset) : upTo p bs = [] :=
  List.filter_eq_nil_iff.mpr fun b hb => by simpa using h b hb

/-- The counts on the stack of a sweep that stands at an offset. -/
def stackAt (rs : List UsageRange) (p : UInt32) : List UInt32 :=
  Boundary.replay (Boundary.upTo p (Boundary.sorted rs))

theorem isHit_iff {stack : List UInt32} :
    isHit stack = true ↔ ∃ hits rest, stack = hits :: rest ∧ 0 < hits := by
  cases stack <;> simp [isHit]

/-- Wherever one stack has a positive count, so has the other. -/
def HitWithin (s t : List UInt32) : Prop := ∀ n, isHit (s.drop n) = true → isHit (t.drop n) = true

theorem HitWithin.refl (s : List UInt32) : HitWithin s s := fun _ => id

theorem HitWithin.trans {s t u : List UInt32} (hst : HitWithin s t) (htu : HitWithin t u) : HitWithin s u :=
  fun n hit => htu n (hst n hit)

/-- Two points stand in one place, and if they open, the second was hit if the first was. -/
structure Boundary.Under (a b : Boundary) : Prop where
  offset : a.offset = b.offset
  side : a.side = b.side
  hits : a.side = .opening → 0 < a.hits → 0 < b.hits

theorem Boundary.Under.refl (b : Boundary) : b.Under b := ⟨rfl, rfl, fun _ => id⟩

theorem HitWithin.apply {s t : List UInt32} (h : HitWithin s t) {a b : Boundary} (hab : a.Under b) :
    HitWithin (Boundary.apply s a) (Boundary.apply t b) := by
  intro n
  cases hside : a.side with
  | opening =>
    rw [Boundary.apply_of_opening hside, Boundary.apply_of_opening (hab.side ▸ hside)]
    cases n with
    | zero => simpa [isHit] using hab.hits hside
    | succ n => exact h n
  | closing =>
    rw [Boundary.apply_of_closing hside, Boundary.apply_of_closing (hab.side ▸ hside), List.drop_tail, List.drop_tail]
    exact h (n + 1)

theorem HitWithin.foldl_under {s t : List UInt32} (h : HitWithin s t) {as bs : List Boundary}
    (hab : List.Forall₂ Boundary.Under as bs) :
    HitWithin (as.foldl Boundary.apply s) (bs.foldl Boundary.apply t) := by
  induction hab generalizing s t with
  | nil => exact h
  | cons hab _ ih => exact ih (h.apply hab)

theorem HitWithin.foldl_apply {s t : List UInt32} (h : HitWithin s t) (bs : List Boundary) :
    HitWithin (bs.foldl Boundary.apply s) (bs.foldl Boundary.apply t) :=
  h.foldl_under (List.forall₂_same.mpr fun b _ => .refl b)

/-- A stack may change its top to a count that is positive too. -/
theorem hitWithin_of_tail {s t : List UInt32} (top : isHit s = true → isHit t = true)
    (tail : s.tail = t.tail) : HitWithin s t := by
  intro n
  cases n with
  | zero => simpa using top
  | succ n => rw [← List.drop_tail, ← List.drop_tail, tail]; exact id

theorem covers_iff {rs : List CoveredRange} {p : UInt32} :
    covers rs p = true ↔ ∃ r ∈ rs, r.start ≤ p ∧ p < r.stop := by
  simp [covers, CoveredRange.contains]

namespace Sweep

theorem extend_cons (r : CoveredRange) (rest : List CoveredRange) (start stop : UInt32) :
    extend (r :: rest) start stop =
      if r.stop = start then ⟨r.start, stop⟩ :: rest else ⟨start, stop⟩ :: r :: rest := rfl

theorem covers_extend {covered : List CoveredRange} {start stop : UInt32} (h : start ≤ stop)
    (ordered : ∀ r ∈ covered, r.start ≤ r.stop) (p : UInt32) :
    covers (extend covered start stop) p = true ↔
      covers covered p = true ∨ (start ≤ p ∧ p < stop) := by
  simp only [covers_iff]
  cases covered with
  | nil => simp [extend]
  | cons r rest =>
    have hr := ordered r (by simp)
    rw [extend_cons]
    split
    next joined =>
      subst joined
      have meets : r.start ≤ p ∧ p < stop ↔ (r.start ≤ p ∧ p < r.stop) ∨ (r.stop ≤ p ∧ p < stop) := by
        constructor
        · rintro ⟨hstart, hstop⟩
          rcases UInt32.lt_or_le p r.stop with hlt | hle
          · exact Or.inl ⟨hstart, hlt⟩
          · exact Or.inr ⟨hle, hstop⟩
        · rintro (⟨hstart, hlt⟩ | ⟨hle, hstop⟩)
          · exact ⟨hstart, UInt32.lt_of_lt_of_le hlt h⟩
          · exact ⟨UInt32.le_trans hr hle, hstop⟩
      simp only [List.mem_cons, exists_eq_or_imp]
      rw [meets, or_right_comm]
    next =>
      simp only [List.mem_cons, exists_eq_or_imp]
      rw [or_comm]

theorem ordered_extend {covered : List CoveredRange} {start stop : UInt32} (h : start ≤ stop)
    (ordered : ∀ r ∈ covered, r.start ≤ r.stop) :
    ∀ r ∈ extend covered start stop, r.start ≤ r.stop := by
  cases covered with
  | nil => simpa [extend] using h
  | cons r rest =>
    have hr := ordered r (by simp)
    have hrest : ∀ x ∈ rest, x.start ≤ x.stop := fun x hx => ordered x (by simp [hx])
    rw [extend_cons]
    split
    next joined =>
      have hj : r.start ≤ stop := UInt32.le_trans hr (joined ▸ h)
      simpa [hj] using hrest
    next => simpa [h] using ordered

/-- A sweep stands behind the given points, and what it has covered so far follows from their stacks. -/
structure Reflects (bs : List Boundary) (s : Sweep) : Prop where
  stack : s.stack = Boundary.replay bs
  last : ∀ p, p < s.last ↔ ∃ b ∈ bs, p < b.offset
  ordered : ∀ r ∈ s.covered, r.start ≤ r.stop
  covered : ∀ p, covers s.covered p = true ↔
    p < s.last ∧ isHit (Boundary.replay (Boundary.upTo p bs)) = true

theorem reflects_initial : Reflects [] initial where
  stack := rfl
  last p := by simp [initial]
  ordered := by simp [initial]
  covered p := by simp [initial, covers]

theorem Reflects.offset_le_last {bs : List Boundary} {s : Sweep} (h : Reflects bs s) {b : Boundary}
    (hb : b ∈ bs) : b.offset ≤ s.last := by
  by_contra hn
  exact UInt32.lt_irrefl _ ((h.last s.last).mpr ⟨b, hb, UInt32.not_le.mp hn⟩)

theorem Reflects.step {bs : List Boundary} {s : Sweep} (h : Reflects bs s) {b : Boundary}
    (hb : ∀ a ∈ bs, a.offset ≤ b.offset) : Reflects (bs ++ [b]) (s.step b) := by
  have hlast : s.last ≤ b.offset := by
    by_contra hn
    obtain ⟨a, ha, hlt⟩ := (h.last b.offset).mp (UInt32.not_le.mp hn)
    exact UInt32.not_lt.mpr (hb a ha) hlt
  refine ⟨?_, ?_, ?_, ?_⟩
  · rw [Boundary.replay_concat, ← h.stack]
    rfl
  · intro p
    simp only [Sweep.step, List.mem_append, List.mem_singleton]
    constructor
    · intro hp
      exact ⟨b, Or.inr rfl, hp⟩
    · rintro ⟨a, ha | rfl, hp⟩
      · exact UInt32.lt_of_lt_of_le hp (hb a ha)
      · exact hp
  · simp only [Sweep.step]
    split
    · exact ordered_extend hlast h.ordered
    · exact h.ordered
  · intro p
    have grown : covers (s.step b).covered p = true ↔
        covers s.covered p = true ∨ (isHit s.stack = true ∧ s.last ≤ p ∧ p < b.offset) := by
      simp only [Sweep.step]
      split
      next hc =>
        rw [covers_extend hlast h.ordered]
        simp [hc.2]
      next hc =>
        refine ⟨Or.inl, fun hgrown => hgrown.resolve_right ?_⟩
        rintro ⟨hhit, hfrom, hto⟩
        exact hc ⟨UInt32.lt_of_le_of_lt hfrom hto, hhit⟩
    have hstep : (s.step b).last = b.offset := rfl
    rw [grown, h.covered, hstep]
    -- an offset behind the last point has met all earlier points and not the new one
    by_cases hp : p < b.offset
    · rw [Boundary.upTo_concat_of_lt hp]
      by_cases hl : s.last ≤ p
      · have hall : Boundary.upTo p bs = bs :=
          Boundary.upTo_eq_self fun a ha => UInt32.le_trans (h.offset_le_last ha) hl
        have hn : ¬p < s.last := UInt32.not_lt.mpr hl
        rw [hall, ← h.stack]
        simp [hn, hl, hp]
      · have hlt : p < s.last := UInt32.not_le.mp hl
        simp [hl, hlt, hp]
    · have hn : ¬p < s.last := fun hlt => hp (UInt32.lt_of_lt_of_le hlt hlast)
      simp [hp, hn]

theorem reflects_run {bs : List Boundary} (hs : bs.Pairwise (·.offset ≤ ·.offset)) :
    Reflects bs (run bs) := by
  induction bs using List.reverseRecOn with
  | nil => exact reflects_initial
  | append_singleton bs b ih =>
    obtain ⟨hbs, -, hb⟩ := List.pairwise_append.mp hs
    have hrun : run (bs ++ [b]) = (run bs).step b := by simp [run]
    rw [hrun]
    exact (ih hbs).step fun a ha => hb a ha b (by simp)

end Sweep

theorem covers_reverse (rs : List CoveredRange) (p : UInt32) : covers rs.reverse p = covers rs p :=
  List.any_reverse

/-- An offset is covered if a point lies behind it and the points up to it leave a positive count. -/
theorem covers_flatten {rs : List UsageRange} {p : UInt32} :
    covers (flatten rs) p = true ↔
      (∃ b ∈ Boundary.sorted rs, p < b.offset) ∧ isHit (stackAt rs p) = true := by
  have h := Sweep.reflects_run ((Boundary.sorted_pairwise rs).imp Boundary.offset_le_of_precedes)
  rw [flatten, covers_reverse, h.covered, h.last, stackAt]

end PageCoverage
