import PageCoverage.Proofs.Range.Pointwise
import Mathlib.Data.List.Induction
import Mathlib.Data.List.Perm.Subperm

namespace PageCoverage

/-- Every range spans something and ends before the next one starts. -/
structure Canonical (rs : List CoveredRange) : Prop where
  proper : ∀ r ∈ rs, r.start < r.stop
  apart : rs.Pairwise fun r q => r.stop < q.start

theorem Canonical.tail {r : CoveredRange} {rs : List CoveredRange} (h : Canonical (r :: rs)) : Canonical rs :=
  ⟨fun q hq => h.proper q (List.mem_cons_of_mem r hq), h.apart.of_cons⟩

def CoveredRange.ends (r : CoveredRange) : List UInt32 := [r.start, r.stop]

def UsageRange.ends (r : UsageRange) : List UInt32 := [r.start, r.stop]

theorem Canonical.ends_increasing {rs : List CoveredRange} (h : Canonical rs) :
    (rs.flatMap CoveredRange.ends).Pairwise (· < ·) := by
  rw [List.pairwise_flatMap]
  constructor
  · intro r hr
    have hproper := h.proper r hr
    simpa [CoveredRange.ends] using hproper
  · apply h.apart.imp_of_mem
    intro r q hr hq hapart x hx y hy
    have hrp := h.proper r hr
    have hqp := h.proper q hq
    simp only [CoveredRange.ends, List.mem_cons, List.not_mem_nil, or_false] at hx hy
    rcases hx with rfl | rfl <;> rcases hy with rfl | rfl <;> grind

/-- Ranges that are apart and have their ends among those of other ranges are no more than these. -/
theorem Canonical.length_le {rs : List CoveredRange} (h : Canonical rs) {qs : List UsageRange}
    (hends : ∀ r ∈ rs, ∀ x ∈ r.ends, x ∈ qs.flatMap UsageRange.ends) : rs.length ≤ qs.length := by
  have hnodup : (rs.flatMap CoveredRange.ends).Nodup := h.ends_increasing.imp UInt32.ne_of_lt
  have hsubset : rs.flatMap CoveredRange.ends ⊆ qs.flatMap UsageRange.ends := by
    intro x hx
    obtain ⟨r, hr, hxr⟩ := List.mem_flatMap.mp hx
    exact hends r hr x hxr
  have hlength := (List.subperm_of_subset hnodup hsubset).length_le
  simp only [List.length_flatMap, CoveredRange.ends, UsageRange.ends, List.length_cons, List.length_nil,
    List.map_const', List.sum_replicate_nat] at hlength
  omega

/-- Behind its first range a canonical list goes on with the others. -/
theorem Canonical.covers_tail_iff {r : CoveredRange} {rs : List CoveredRange} (h : Canonical (r :: rs))
    {p : UInt32} : covers rs p = true ↔ covers (r :: rs) p = true ∧ r.stop ≤ p := by
  have hapart := (List.pairwise_cons.mp h.apart).1
  simp only [covers_iff, List.mem_cons, exists_eq_or_imp]
  constructor
  · rintro ⟨q, hq, hstart, hstop⟩
    exact ⟨Or.inr ⟨q, hq, hstart, hstop⟩, UInt32.le_of_lt (UInt32.lt_of_lt_of_le (hapart q hq) hstart)⟩
  · rintro ⟨⟨-, hlt⟩ | hrest, hle⟩
    · exact absurd hle (UInt32.not_le.mpr hlt)
    · exact hrest

theorem Canonical.start_le {r : CoveredRange} {rs : List CoveredRange} (h : Canonical (r :: rs)) {p : UInt32}
    (hp : covers (r :: rs) p = true) : r.start ≤ p := by
  obtain ⟨q, hq, hstart, -⟩ := covers_iff.mp hp
  rcases List.mem_cons.mp hq with rfl | hq
  · exact hstart
  · have hspan := h.proper r (by simp)
    have hgap := (List.pairwise_cons.mp h.apart).1 q hq
    exact UInt32.le_of_lt (UInt32.lt_of_lt_of_le (UInt32.lt_trans hspan hgap) hstart)

/-- The text behind the first range is not covered. -/
theorem Canonical.not_covers_stop {r : CoveredRange} {rs : List CoveredRange} (h : Canonical (r :: rs)) :
    ¬covers (r :: rs) r.stop = true := by
  rintro hp
  obtain ⟨q, hq, hstart, -⟩ := covers_iff.mp (h.covers_tail_iff.mpr ⟨hp, UInt32.le_rfl⟩)
  exact UInt32.not_lt.mpr hstart ((List.pairwise_cons.mp h.apart).1 q hq)

theorem Canonical.stop_le {r q : CoveredRange} {rs qs : List CoveredRange} (hr : Canonical (r :: rs))
    (hstart : q.start = r.start) (h : covers (q :: qs) r.stop = true → covers (r :: rs) r.stop = true) :
    q.stop ≤ r.stop := by
  refine UInt32.not_lt.mp fun hlt => hr.not_covers_stop (h (covers_iff.mpr ⟨q, by simp, ?_, hlt⟩))
  rw [hstart]
  exact UInt32.le_of_lt (hr.proper r (by simp))

/-- The offsets that a canonical list covers determine it. -/
theorem Canonical.ext {rs qs : List CoveredRange} (hr : Canonical rs) (hq : Canonical qs)
    (h : ∀ p, covers rs p = true ↔ covers qs p = true) : rs = qs := by
  have covers_start {r : CoveredRange} {rs : List CoveredRange} (hr : Canonical (r :: rs)) :
      covers (r :: rs) r.start = true :=
    covers_iff.mpr ⟨r, by simp, UInt32.le_rfl, hr.proper r (by simp)⟩
  induction rs generalizing qs with
  | nil =>
    cases qs with
    | nil => rfl
    | cons q qs => exact absurd ((h q.start).mpr (covers_start hq)) (by simp [covers])
  | cons r rs ih =>
    cases qs with
    | nil => exact absurd ((h r.start).mp (covers_start hr)) (by simp [covers])
    | cons q qs =>
      have hstart : r.start = q.start :=
        UInt32.le_antisymm (hr.start_le ((h q.start).mpr (covers_start hq)))
          (hq.start_le ((h r.start).mp (covers_start hr)))
      have hstop : r.stop = q.stop :=
        UInt32.le_antisymm (hq.stop_le hstart (h q.stop).mp) (hr.stop_le hstart.symm (h r.stop).mpr)
      obtain rfl : r = q := by
        cases r
        cases q
        simp only at hstart hstop
        rw [hstart, hstop]
      congr 1
      refine ih hr.tail hq.tail fun p => ?_
      rw [hr.covers_tail_iff, hq.covers_tail_iff, h p]

namespace Sweep

/-- A range after the text up to a point has been covered: an earlier one, a new one, or one that has grown. -/
theorem mem_extend {covered : List CoveredRange} {start stop : UInt32} {r : CoveredRange}
    (h : r ∈ extend covered start stop) :
    r ∈ covered ∨ (r.stop = stop ∧ (r.start = start ∨ ∃ q ∈ covered, q.start = r.start ∧ q.stop = start)) := by
  cases covered with
  | nil =>
    have hr : r = ⟨start, stop⟩ := by simpa [extend] using h
    subst hr
    exact Or.inr ⟨rfl, Or.inl rfl⟩
  | cons q rest =>
    rw [extend] at h
    split at h
    next joined =>
      rcases List.mem_cons.mp h with rfl | hr
      · exact Or.inr ⟨rfl, Or.inr ⟨q, by simp, rfl, joined⟩⟩
      · exact Or.inl (by simp [hr])
    next =>
      rcases List.mem_cons.mp h with rfl | hr
      · exact Or.inr ⟨rfl, Or.inl rfl⟩
      · exact Or.inl hr

theorem apart_extend {covered : List CoveredRange} {start stop : UInt32}
    (proper : ∀ r ∈ covered, r.start < r.stop) (apart : covered.Pairwise fun r q => q.stop < r.start)
    (reached : ∀ r ∈ covered, r.stop ≤ start) :
    (extend covered start stop).Pairwise fun r q => q.stop < r.start := by
  cases covered with
  | nil => exact List.pairwise_singleton _ _
  | cons r rest =>
    have hapart := List.pairwise_cons.mp apart
    rw [extend]
    split
    next => exact List.pairwise_cons.mpr hapart
    next separate =>
      have hgap : r.stop < start := UInt32.lt_of_le_of_ne (reached r (by simp)) separate
      have hspan : r.start < start := UInt32.lt_trans (proper r (by simp)) hgap
      refine List.pairwise_cons.mpr ⟨?_, apart⟩
      intro q hq
      rcases List.mem_cons.mp hq with rfl | hq
      · exact hgap
      · exact UInt32.lt_trans (hapart.1 q hq) hspan

/-- A sweep stands at the last of the given points, and has covered ranges up to there that are apart, the
latest first. -/
structure Spaced (bs : List Boundary) (s : Sweep) : Prop where
  last : s = initial ∨ ∃ b ∈ bs, b.offset = s.last
  proper : ∀ r ∈ s.covered, r.start < r.stop
  apart : s.covered.Pairwise fun r q => q.stop < r.start
  reached : ∀ r ∈ s.covered, r.stop ≤ s.last
  ends : ∀ r ∈ s.covered, ∀ x ∈ r.ends, ∃ b ∈ bs, b.offset = x

theorem spaced_initial : Spaced [] initial where
  last := Or.inl rfl
  proper := by simp [initial]
  apart := List.Pairwise.nil
  reached := by simp [initial]
  ends := by simp [initial]

theorem Spaced.last_le {bs : List Boundary} {s : Sweep} (h : Spaced bs s) {b : Boundary}
    (hb : ∀ a ∈ bs, a.offset ≤ b.offset) : s.last ≤ b.offset := by
  rcases h.last with rfl | ⟨a, ha, hlast⟩
  · exact UInt32.zero_le
  · rw [← hlast]
    exact hb a ha

theorem Spaced.last_mem_of_hit {bs : List Boundary} {s : Sweep} (h : Spaced bs s)
    (hit : isHit s.stack = true) : ∃ b ∈ bs, b.offset = s.last := by
  rcases h.last with rfl | hlast
  · simp [initial, isHit] at hit
  · exact hlast

theorem Spaced.extend {bs : List Boundary} {s : Sweep} (h : Spaced bs s) {b : Boundary}
    (hit : isHit s.stack = true) (hlt : s.last < b.offset) :
    Spaced (bs ++ [b]) ⟨Boundary.apply s.stack b, b.offset, Sweep.extend s.covered s.last b.offset⟩ := by
  obtain ⟨a, ha, hlast⟩ := h.last_mem_of_hit hit
  have hnew : ∃ c ∈ bs ++ [b], c.offset = b.offset := ⟨b, by simp, rfl⟩
  have hold {x : UInt32} (hx : ∃ c ∈ bs, c.offset = x) : ∃ c ∈ bs ++ [b], c.offset = x := by
    obtain ⟨c, hc, hcx⟩ := hx
    exact ⟨c, List.mem_append_left _ hc, hcx⟩
  refine ⟨Or.inr hnew, ?_, apart_extend h.proper h.apart h.reached, ?_, ?_⟩
  · intro r hr
    rcases mem_extend hr with hr | ⟨hstop, hstart | ⟨q, hq, hstart, hmeets⟩⟩
    · exact h.proper r hr
    · rw [hstart, hstop]
      exact hlt
    · have hspan : q.start < s.last := hmeets ▸ h.proper q hq
      rw [← hstart, hstop]
      exact UInt32.lt_trans hspan hlt
  · intro r hr
    rcases mem_extend hr with hr | ⟨hstop, -⟩
    · exact UInt32.le_trans (h.reached r hr) (UInt32.le_of_lt hlt)
    · exact UInt32.le_of_eq hstop
  · intro r hr x hx
    rcases mem_extend hr with hr | ⟨hstop, hstart⟩
    · exact hold (h.ends r hr x hx)
    · rcases List.mem_pair.mp hx with rfl | rfl
      · rcases hstart with hstart | ⟨q, hq, hstart, -⟩
        · exact hold ⟨a, ha, hlast.trans hstart.symm⟩
        · exact hold (h.ends q hq _ (by simp [CoveredRange.ends, hstart]))
      · exact hstop ▸ hnew

theorem Spaced.step {bs : List Boundary} {s : Sweep} (h : Spaced bs s) {b : Boundary}
    (hb : ∀ a ∈ bs, a.offset ≤ b.offset) : Spaced (bs ++ [b]) (s.step b) := by
  by_cases hcovers : s.last < b.offset ∧ isHit s.stack = true
  · have hstep : s.step b =
        ⟨Boundary.apply s.stack b, b.offset, Sweep.extend s.covered s.last b.offset⟩ := by
      simp [Sweep.step, hcovers]
    rw [hstep]
    exact h.extend hcovers.2 hcovers.1
  · have hstep : s.step b = ⟨Boundary.apply s.stack b, b.offset, s.covered⟩ := by
      rw [Sweep.step, if_neg hcovers]
    have hlast := h.last_le hb
    rw [hstep]
    refine ⟨Or.inr ⟨b, by simp, rfl⟩, h.proper, h.apart, ?_, ?_⟩
    · exact fun r hr => UInt32.le_trans (h.reached r hr) hlast
    · intro r hr x hx
      obtain ⟨a, ha, hax⟩ := h.ends r hr x hx
      exact ⟨a, List.mem_append_left _ ha, hax⟩

theorem spaced_run {bs : List Boundary} (hs : bs.Pairwise (·.offset ≤ ·.offset)) :
    Spaced bs (run bs) := by
  induction bs using List.reverseRecOn with
  | nil => exact spaced_initial
  | append_singleton bs b ih =>
    obtain ⟨hbs, -, hb⟩ := List.pairwise_append.mp hs
    have hrun : run (bs ++ [b]) = (run bs).step b := by simp [run]
    rw [hrun]
    exact (ih hbs).step fun a ha => hb a ha b (by simp)

end Sweep

theorem spaced_sorted (rs : List UsageRange) :
    Sweep.Spaced (Boundary.sorted rs) (Sweep.run (Boundary.sorted rs)) :=
  Sweep.spaced_run ((Boundary.sorted_pairwise rs).imp Boundary.offset_le_of_precedes)

theorem canonical_flatten (rs : List UsageRange) : Canonical (flatten rs) := by
  have h := spaced_sorted rs
  constructor
  · intro r hr
    exact h.proper r (List.mem_reverse.mp hr)
  · exact List.pairwise_reverse.mpr h.apart

theorem mem_ends_of_mem_flatten {rs : List UsageRange} {r : CoveredRange} (hr : r ∈ flatten rs)
    {x : UInt32} (hx : x ∈ r.ends) : ∃ q ∈ rs, x ∈ q.ends := by
  obtain ⟨b, hb, hbx⟩ := (spaced_sorted rs).ends r (List.mem_reverse.mp hr) x hx
  obtain ⟨q, hq, hside⟩ := Boundary.mem_sorted.mp hb
  refine ⟨q, hq, ?_⟩
  rcases hside with rfl | rfl
  · simp [← hbx, UsageRange.opening, UsageRange.ends]
  · simp [← hbx, UsageRange.closing, UsageRange.ends]

theorem length_flatten_le (rs : List UsageRange) : (flatten rs).length ≤ rs.length := by
  apply (canonical_flatten rs).length_le
  intro r hr x hx
  obtain ⟨q, hq, hxq⟩ := mem_ends_of_mem_flatten hr hx
  exact List.mem_flatMap.mpr ⟨q, hq, hxq⟩

/-- The covered text of any usage ranges is canonical, begins and ends where they do, and has no more ranges
than they are. -/
theorem flatten_normal (rs : List UsageRange) :
    Canonical (flatten rs) ∧
      (∀ r ∈ flatten rs, (∃ q ∈ rs, r.start = q.start ∨ r.start = q.stop) ∧
        ∃ q ∈ rs, r.stop = q.start ∨ r.stop = q.stop) ∧
      (flatten rs).length ≤ rs.length := by
  refine ⟨canonical_flatten rs, ?_, length_flatten_le rs⟩
  intro r hr
  obtain ⟨p, hp, hstart⟩ := mem_ends_of_mem_flatten hr (x := r.start) (by simp [CoveredRange.ends])
  obtain ⟨q, hq, hstop⟩ := mem_ends_of_mem_flatten hr (x := r.stop) (by simp [CoveredRange.ends])
  exact ⟨⟨p, hp, List.mem_pair.mp hstart⟩, ⟨q, hq, List.mem_pair.mp hstop⟩⟩

end PageCoverage
