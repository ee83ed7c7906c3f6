import PageCoverage.Proofs.Range.Canonical

namespace PageCoverage

/-- A range over the same text, which was hit if the first one was. -/
structure UsageRange.Under (r q : UsageRange) : Prop where
  start : r.start = q.start
  stop : r.stop = q.stop
  hits : 0 < r.hits → 0 < q.hits

theorem UsageRange.Under.length {r q : UsageRange} (h : r.Under q) : r.length = q.length := by
  rw [UsageRange.length, UsageRange.length, h.start, h.stop]

namespace Boundary

theorem forall₂_upTo {as bs : List Boundary} (h : List.Forall₂ Under as bs) (p : UInt32) :
    List.Forall₂ Under (upTo p as) (upTo p bs) :=
  List.rel_filter (fun {a b} hab => by simp only [hab.offset]) h

theorem forall₂_boundaries {r q : UsageRange} (h : r.Under q) :
    List.Forall₂ (fun a b => tied a b = true ∧ a.Under b) r.boundaries q.boundaries := by
  have hopening : tied r.opening q.opening = true := tied_iff.mpr ⟨h.start, rfl, h.length⟩
  have hclosing : tied r.closing q.closing = true := tied_iff.mpr ⟨h.stop, rfl, h.length⟩
  exact .cons ⟨hopening, h.start, rfl, fun _ => h.hits⟩ (.cons ⟨hclosing, h.stop, rfl, nofun⟩ .nil)

theorem forall₂_sorted_of_under {rs qs : List UsageRange} (h : List.Forall₂ UsageRange.Under rs qs) :
    List.Forall₂ Under (sorted rs) (sorted qs) := by
  refine forall₂_sorted fun e => ?_
  have hpoints := List.rel_flatMap h @forall₂_boundaries
  have hclass := List.rel_filter (p := tied e) (q := tied e) (fun {a b} hab => by simp only [tied_congr hab.1 e])
    hpoints
  exact hclass.imp fun a b hab => hab.2

end Boundary

/-- Where points take the places of others that were hit if they were, no less is covered. -/
theorem covers_flatten_of_under {rs qs : List UsageRange}
    (h : List.Forall₂ Boundary.Under (Boundary.sorted rs) (Boundary.sorted qs)) {p : UInt32}
    (covered : covers (flatten rs) p = true) : covers (flatten qs) p = true := by
  obtain ⟨behind, hit⟩ := covers_flatten.mp covered
  have hstacks : HitWithin (stackAt rs p) (stackAt qs p) := (HitWithin.refl []).foldl_under (Boundary.forall₂_upTo h p)
  have hoffsets : (Boundary.sorted rs).map Boundary.offset = (Boundary.sorted qs).map Boundary.offset := by
    rw [← List.forall₂_eq_eq_eq, List.forall₂_map_left_iff, List.forall₂_map_right_iff]
    exact h.imp fun a b hab => hab.offset
  refine covers_flatten.mpr ⟨?_, hstacks 0 hit⟩
  obtain ⟨b, hb, hlt⟩ := behind
  have hoffset := List.mem_map_of_mem (f := Boundary.offset) hb
  rw [hoffsets] at hoffset
  obtain ⟨c, hc, heq⟩ := List.mem_map.mp hoffset
  exact ⟨c, hc, heq ▸ hlt⟩

theorem flatten_eq_of_under {rs qs : List UsageRange}
    (h : List.Forall₂ Boundary.Under (Boundary.sorted rs) (Boundary.sorted qs))
    (h' : List.Forall₂ Boundary.Under (Boundary.sorted qs) (Boundary.sorted rs)) : flatten rs = flatten qs :=
  (canonical_flatten rs).ext (canonical_flatten qs) fun _ => ⟨covers_flatten_of_under h, covers_flatten_of_under h'⟩

/-- Ranges of any form, one by one over the same text, cover no less if each was hit that was hit before, and
the same if the same ones were hit. -/
theorem covers_flatten_mono :
    (∀ rs qs : List UsageRange, List.Forall₂ UsageRange.Under rs qs →
      ∀ p, covers (flatten rs) p = true → covers (flatten qs) p = true) ∧
    ∀ rs qs : List UsageRange,
      List.Forall₂ (fun r q => r.start = q.start ∧ r.stop = q.stop ∧ (r.hits = 0 ↔ q.hits = 0)) rs qs →
      flatten rs = flatten qs := by
  constructor
  · exact fun rs qs h p => covers_flatten_of_under (Boundary.forall₂_sorted_of_under h)
  · intro rs qs h
    have forth : List.Forall₂ UsageRange.Under rs qs :=
      h.imp fun r q hrq => ⟨hrq.1, hrq.2.1, by simp [UInt32.pos_iff_ne_zero, hrq.2.2]⟩
    have back : List.Forall₂ UsageRange.Under qs rs :=
      (List.Forall₂.flip h).imp fun q r hrq => ⟨hrq.1.symm, hrq.2.1.symm, by simp [UInt32.pos_iff_ne_zero, hrq.2.2]⟩
    exact flatten_eq_of_under (Boundary.forall₂_sorted_of_under forth) (Boundary.forall₂_sorted_of_under back)

/-- Of two ranges that overlap the second one was not hit, then it was; and the first one was hit more often. -/
theorem covers_flatten_mono_overlapping :
    let rs : List UsageRange := [⟨0, 10, 1⟩, ⟨5, 12, 0⟩]
    let qs : List UsageRange := [⟨0, 10, 1⟩, ⟨5, 12, 1⟩]
    let often : List UsageRange := [⟨0, 10, 7⟩, ⟨5, 12, 0⟩]
    List.Forall₂ UsageRange.Under rs qs ∧ covers (flatten rs) 11 = true ∧ covers (flatten qs) 11 = true ∧
      List.Forall₂ (fun r q => r.start = q.start ∧ r.stop = q.stop ∧ (r.hits = 0 ↔ q.hits = 0)) rs often ∧
      flatten rs = flatten often := by
  have hsorted : Boundary.sorted [⟨0, 10, 1⟩, ⟨5, 12, 0⟩] =
      [⟨0, .opening, 10, 1⟩, ⟨5, .opening, 7, 0⟩, ⟨10, .closing, 10, 1⟩, ⟨12, .closing, 7, 0⟩] :=
    Boundary.sorted_eq_of_strict (by decide) (by decide)
  have covered : covers (flatten [⟨0, 10, 1⟩, ⟨5, 12, 0⟩]) 11 = true := by
    rw [flatten, hsorted]
    rfl
  have under : List.Forall₂ UsageRange.Under [⟨0, 10, 1⟩, ⟨5, 12, 0⟩] [⟨0, 10, 1⟩, ⟨5, 12, 1⟩] :=
    .cons ⟨rfl, rfl, id⟩ (.cons ⟨rfl, rfl, by decide⟩ .nil)
  have same : List.Forall₂
      (fun r q : UsageRange => r.start = q.start ∧ r.stop = q.stop ∧ (r.hits = 0 ↔ q.hits = 0))
      [⟨0, 10, 1⟩, ⟨5, 12, 0⟩] [⟨0, 10, 7⟩, ⟨5, 12, 0⟩] :=
    .cons ⟨rfl, rfl, by decide⟩ (.cons ⟨rfl, rfl, Iff.rfl⟩ .nil)
  exact ⟨under, covered, covers_flatten_mono.1 _ _ under 11 covered, same, covers_flatten_mono.2 _ _ same⟩

end PageCoverage
