import PageCoverage.Proofs.Range.Order
import PageCoverage.Proofs.Resource.Grouping
import PageCoverage.Proofs.Tracking.Collected

namespace PageCoverage

namespace Occurrence

variable {K : Type} [Strategy K]

/-- A fetch has given the record before the cache was closed, and none behind it has given one of the same id. -/
def EndsLast (options : K) (h : List Occurrence) (record : Record) : Prop :=
  ∃ before x after, beforeClose h = before ++ x :: after ∧ record? options (handled h) x = some record ∧
    ∀ y ∈ after, ∀ q, record? options (handled h) y = some q → q.id ≠ record.id

/-- The record is of the event handled at a place, and whatever fetches have given of its id before the cache
was closed is not of a later event. -/
structure OfNewest (options : K) (h : List Occurrence) (place : Nat) (record : Record) : Prop where
  given : ∃ age result, .fetch (some place) age result ∈ beforeClose h ∧
    record? options (handled h) (.fetch (some place) age result) = some record
  newest : ∀ n age result q, .fetch (some n) age result ∈ beforeClose h →
    record? options (handled h) (.fetch (some n) age result) = some q → q.id = record.id → n ≤ place

theorem endsLast_iff {options : K} {h : List Occurrence} {record : Record} :
    EndsLast options h record ↔
      ((collected options h).filter (·.id = record.id)).getLast? = some record := by
  rw [collected, List.filter_filterMap, List.getLast?_filterMap, List.findSome?_eq_some_iff]
  constructor
  · rintro ⟨before, x, after, hsplit, hx, hlast⟩
    refine ⟨after.reverse, x, before.reverse, by simp [hsplit], by simp [hx], fun y hy => ?_⟩
    rw [Option.filter_eq_none_iff]
    intro q hq
    simpa using hlast y (List.mem_reverse.mp hy) q hq
  · rintro ⟨after, x, before, hsplit, hx, hlast⟩
    refine ⟨before.reverse, x, after.reverse, ?_, (Option.filter_eq_some_iff.mp hx).1, fun y hy q hq => ?_⟩
    · rw [← List.reverse_reverse (beforeClose h), hsplit]
      simp
    · have hother := Option.filter_eq_none_iff.mp (hlast y (List.mem_reverse.mp hy)) q hq
      simpa using hother

end Occurrence

namespace Watched

open Occurrence

variable {σ K κ : Type}

/-- What a stop returns of a registered resource is of the fetch that ended last. -/
structure ReturnsLast [Session σ κ] [Strategy K] (w : Watched σ K κ) (options : K) : Prop where
  nodup : (w.scene.finishStop.1.map Record.id).Nodup
  last : ∀ record, record ∈ w.scene.finishStop.1 ↔ EndsLast options w.history record
  entries : ∀ entries t, w.scene.advance = (some (.stopped (.ok entries)), t) →
    entries.map (fun e => (e.url, e.text)) = w.scene.finishStop.1.map fun r => (r.url, r.source)

variable [Session σ κ] [LawfulSession σ] [Strategy K] [LawfulStrategy K]

/-- After any run a stop returns of each resource what the fetch that ended last has brought, whichever of its
registrations that was, unless a fetch has been under way for as many generations as a word can count. -/
theorem stop_returns_last {session : σ} {w : Watched σ K κ} {options : K} {batch : List (Request κ)}
    (wellFormed : (Session.router session).WellFormed) (steps : Relation.ReflTransGen Step (fresh session) w)
    (stopping : w.scene.tracker.phase = .stopping options batch) (young : Young w.history) :
    w.ReturnsLast options := by
  have kept := kept_of_steps steps (delivered_fresh wellFormed) (kept_fresh session)
  have tally := kept.tallied options .stopping (by rw [stopping]; rfl)
  have latest := tally.latest young
  have nodup := Cache.nodup_ids tally.indexed
  refine ⟨nodup, fun record => latest.mem_iff.trans endsLast_iff.symm, fun entries t hreturned => ?_⟩
  obtain ⟨usage, rfl⟩ := Scene.entries_of_advance stopping hreturned
  have hentries : buildEntries w.scene.finishStop.1 usage =
      w.scene.finishStop.1.map fun r => r.entry (UsageMap.get? usage r.id) := buildEntries_eq nodup usage
  rw [hentries, List.map_map]
  rfl

/-- A stand-in with the source of one script that has not seen anything of it. -/
def oneSource : StandIn :=
  (({} : StandIn).respond Method.takePreciseCoverage (.fixed (.object [("result", .list [])]))).addScript "1" "run()"

/-- A stop of script coverage after one script has been announced twice. The fetch for the second announcement
ends first. -/
def overtaken : Watched StandIn ScriptOptions HeldCall :=
  let enabled := ((fresh oneSource).start ({} : ScriptOptions)).advance
  let first := (enabled.dispatch (scriptParsed "1" "old.js")).pump
  let both := (first.dispatch (scriptParsed "1" "new.js")).pump
  ((both.fetch 1).fetch 0).stop

theorem steps_overtaken : Relation.ReflTransGen Step (fresh oneSource) overtaken := by
  unfold overtaken
  refine .tail ?_ (.stop _)
  refine .tail ?_ (.fetch _ 0)
  refine .tail ?_ (.fetch _ 1)
  refine .tail ?_ (.pump _)
  refine .tail ?_ (.dispatch _ _)
  refine .tail ?_ (.pump _)
  refine .tail ?_ (.dispatch _ _)
  refine .tail ?_ (.advance _)
  exact .single (.start _ _)

theorem history_overtaken : overtaken.history =
    [.dispatch (scriptParsed "1" "old.js"), .handle (scriptParsed "1" "old.js"),
      .dispatch (scriptParsed "1" "new.js"), .handle (scriptParsed "1" "new.js"),
      .fetch (some 1) 0 (.ok "run()"), .fetch (some 0) 0 (.ok "run()"), .close] := rfl

theorem fetch_mem_overtaken {n : Option Nat} {age : Nat} {result : Except CoverageError String}
    (h : .fetch n age result ∈ overtaken.history) : (n = some 1 ∨ n = some 0) ∧ age = 0 := by
  rw [history_overtaken] at h
  simp only [List.mem_cons, reduceCtorEq, fetch.injEq, List.not_mem_nil, false_or, or_false] at h
  rcases h with ⟨hn, hage, -⟩ | ⟨hn, hage, -⟩
  · exact ⟨Or.inl hn, hage⟩
  · exact ⟨Or.inr hn, hage⟩

theorem young_overtaken : Young overtaken.history := by
  intro n age result hmem
  rw [(fetch_mem_overtaken hmem).2]
  decide

theorem advance_overtaken :
    overtaken.scene.advance.1 = some (.stopped (.ok [⟨"old.js", "run()", [], none⟩])) := by
  have hadvance : overtaken.scene.advance.1 =
      some (.stopped (.ok [⟨"old.js", "run()", flatten [], none⟩])) := rfl
  rwa [flatten_nil] at hadvance

/-- The script is returned under the URL of the first announcement. -/
theorem stop_returns_last_overtaken :
    (Session.router oneSource).WellFormed ∧ Relation.ReflTransGen Step (fresh oneSource) overtaken ∧
      overtaken.scene.tracker.phase = .stopping {}
        (.unsent (Strategy.collectCommand ({} : ScriptOptions)) ::
          (Strategy.disableCommands ({} : ScriptOptions)).map .unsent) ∧
      Young overtaken.history ∧ overtaken.ReturnsLast {} ∧
      overtaken.scene.advance.1 = some (.stopped (.ok [⟨"old.js", "run()", [], none⟩])) := by
  have wellFormed : (Session.router oneSource).WellFormed := fun _ hl => absurd hl List.not_mem_nil
  exact ⟨wellFormed, steps_overtaken, rfl, young_overtaken,
    stop_returns_last wellFormed steps_overtaken rfl young_overtaken, advance_overtaken⟩

/-- The second announcement is the newest one whose source came, and the script is not returned under its URL. -/
theorem not_stop_returns_newest :
    ¬∀ (w : Watched StandIn ScriptOptions HeldCall) (options : ScriptOptions) (batch : List (Request HeldCall)),
      Relation.ReflTransGen Step (fresh oneSource) w → w.scene.tracker.phase = .stopping options batch →
      Young w.history → ∀ place record, OfNewest options w.history place record →
      ∀ entries t, w.scene.advance = (some (.stopped (.ok entries)), t) →
        ∃ e ∈ entries, e.url = record.url ∧ e.text = record.source := by
  intro h
  have newest : OfNewest ({} : ScriptOptions) overtaken.history 1 ⟨⟨"1"⟩, "new.js", "run()"⟩ := by
    refine ⟨⟨0, .ok "run()", ?_, rfl⟩, fun n age result q hmem _ _ => ?_⟩
    · simp [history_overtaken, beforeClose, isClose]
    · have hfetch := (fetch_mem_overtaken (List.takeWhile_subset _ hmem)).1
      simp only [Option.some.injEq] at hfetch
      omega
  obtain ⟨e, he, hurl, -⟩ := h overtaken {} _ steps_overtaken rfl young_overtaken 1 _ newest _ _
    (Prod.ext advance_overtaken rfl)
  rw [List.mem_singleton.mp he] at hurl
  exact absurd hurl (by decide)

end Watched

end PageCoverage
