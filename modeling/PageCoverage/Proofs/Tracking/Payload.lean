import PageCoverage.Proofs.Tracking.Returned

namespace PageCoverage

namespace ScriptSnapshot

/-- The reports of one script, in order. -/
def reports (s : ScriptSnapshot) (id : ResourceId) : List ScriptCoverage := s.scripts.filter (·.id = id.text)

/-- No report of a script but its last one has ranges. -/
def LastTells (s : ScriptSnapshot) (id : ResourceId) : Prop :=
  ∀ c ∈ (s.reports id).dropLast, c.usageRanges = []

variable {s : ScriptSnapshot} {keepRaw : Bool} {id : ResourceId} {u : ResourceUsage} {c : ScriptCoverage}

theorem mem_usage_iff : (id, u) ∈ s.usage keepRaw ↔ ∃ last, (s.reports id).getLast? = some last ∧
    u = { ranges := (s.reports id).flatMap ScriptCoverage.usageRanges
          raw := if keepRaw then some last else none } := by
  rw [UsageMap.mem_iff_get?_eq_some (s.sorted_usage keepRaw), s.get?_usage_eq, Option.map_eq_some_iff]
  exact exists_congr fun last => and_congr_right fun _ => eq_comm

/-- What is kept of a script tells of all its ranges exactly if the reports before it have none. -/
theorem usageRanges_eq_iff (hlast : (s.reports id).getLast? = some c) :
    c.usageRanges = (s.reports id).flatMap ScriptCoverage.usageRanges ↔ s.LastTells id := by
  obtain ⟨earlier, hsplit⟩ := List.getLast?_eq_some_iff.mp hlast
  rw [LastTells, hsplit, List.dropLast_concat, List.flatMap_append, List.flatMap_singleton, List.self_eq_append_left]
  exact List.flatMap_eq_nil_iff

end ScriptSnapshot

theorem ScriptOptions.usage_eq_ok_iff {options : ScriptOptions} {answer : Value} {usage : UsageMap} :
    Strategy.usage options answer = .ok usage ↔
      ∃ snapshot, decode ScriptSnapshot answer = .ok snapshot ∧ snapshot.usage options.includeRaw = usage := by
  show (decodePayload ScriptSnapshot _ answer).map _ = _ ↔ _
  rw [decodePayload]
  cases decode ScriptSnapshot answer <;> simp [Except.mapError, Except.map]

namespace Scene

variable {σ K κ : Type} [Session σ κ] [LawfulSession σ]

/-- A stop that has returned entries has joined the records with the usage in its first answer. -/
theorem usage_of_stopped [Strategy K] {s t : Scene σ K κ} {options : K} {a : Attachment} {entries : List Entry}
    (reachable : Reachable s) (enabled : s.tracker.phase = .enabled options a)
    (waited : Relation.ReflTransGen (Awaits a.sink) s.beginStop.2 t)
    (returned : t.advance.1 = some (.stopped (.ok entries))) :
    ∃ answer rest usage, t.fates = .done (.ok answer) :: rest ∧ Strategy.usage options answer = .ok usage ∧
      entries = s.tracker.cache.records.map fun r => r.entry (UsageMap.get? usage r.id) := by
  have h := reachable.sound
  have hstop := h.stop
  have hwaited := waited
  rw [beginStop_of_phase enabled] at hstop hwaited
  obtain ⟨hsound, ⟨batch, hstopping⟩, hunfed, -⟩ :=
    stopping_of_awaits hstop rfl (unfed_detach (h.owned_of_enabled enabled)) hwaited
  obtain ⟨hall, answer, rest, usage, hfates, husage⟩ :=
    (hsound.stops hstopping hunfed).succeeds_iff.mp ⟨entries, returned⟩
  rw [hfates] at hall
  have hentries := advance_of_succeeded reachable enabled waited hfates (List.forall_mem_cons.mp hall).2 husage
  rw [returned, Option.some.injEq, Outcome.stopped.injEq, Except.ok.injEq] at hentries
  exact ⟨answer, rest, usage, hfates, husage, hentries⟩

/-- Where payloads are kept, every script that is reported has one. It tells of the ranges beside it exactly if
no other report of the script has ranges, and then the ranges of an entry follow from the payload that it carries. -/
theorem payload_tells_iff :
    (∀ (options : ScriptOptions) (answer : Value) (snapshot : ScriptSnapshot), options.includeRaw = true →
      decode ScriptSnapshot answer = .ok snapshot →
      ∃ usage, Strategy.usage options answer = .ok usage ∧ ∀ id u, (id, u) ∈ usage →
        ∃ c, u.raw = some c ∧ (c.usageRanges = u.ranges ↔ snapshot.LastTells id)) ∧
    ∀ (s t : Scene σ ScriptOptions κ) (options : ScriptOptions) (a : Attachment) (entries : List Entry),
      Reachable s → s.tracker.phase = .enabled options a →
      Relation.ReflTransGen (Awaits a.sink) s.beginStop.2 t → t.advance.1 = some (.stopped (.ok entries)) →
      ∃ answer rest snapshot, t.fates = .done (.ok answer) :: rest ∧ decode ScriptSnapshot answer = .ok snapshot ∧
        ∀ e ∈ entries, ∀ c, e.raw = some c → snapshot.LastTells ⟨c.id⟩ → e.ranges = flatten c.usageRanges := by
  constructor
  · intro options answer snapshot raw decodes
    refine ⟨_, ScriptOptions.usage_eq_ok_iff.mpr ⟨snapshot, decodes, rfl⟩, fun id u hmem => ?_⟩
    obtain ⟨c, hlast, rfl⟩ := ScriptSnapshot.mem_usage_iff.mp hmem
    exact ⟨c, if_pos raw, ScriptSnapshot.usageRanges_eq_iff hlast⟩
  · intro s t options a entries reachable enabled waited returned
    obtain ⟨answer, rest, usage, hfates, husage, rfl⟩ := usage_of_stopped reachable enabled waited returned
    obtain ⟨snapshot, decodes, rfl⟩ := ScriptOptions.usage_eq_ok_iff.mp husage
    refine ⟨answer, rest, snapshot, hfates, decodes, fun e he c hraw tells => ?_⟩
    obtain ⟨r, -, rfl⟩ := List.mem_map.mp he
    have hreported := snapshot.get?_usage options.includeRaw r.id
    simp only [Record.entry, hreported] at hraw ⊢
    obtain ⟨-, hlast⟩ : options.includeRaw = true ∧ (snapshot.reports r.id).getLast? = some c := by
      simpa [ScriptSnapshot.reports] using hraw
    -- the payload is a report of the record's own script
    have hid : (⟨c.id⟩ : ResourceId) = r.id := by
      have hmem := List.mem_of_getLast? hlast
      exact congrArg ResourceId.mk (of_decide_eq_true (List.mem_filter.mp hmem).2)
    rw [hid] at tells
    rw [(ScriptSnapshot.usageRanges_eq_iff hlast).mpr tells]
    rfl

/-- A report of one script with one function, as a target sends it, and what is read of it. -/
def reportValue (ranges : List Value) : Value :=
  .object [("functions", .list [.object [("ranges", .list ranges)]]), ("scriptId", .text "1")]

def ranOnce (start stop : Int) : Value :=
  .object [("count", .int 1), ("endOffset", .int stop), ("startOffset", .int start)]

def report (ranges : List CountedRange) : ScriptCoverage := ⟨"1", "", [⟨"", ranges, false⟩]⟩

/-- A snapshot that reports one script twice. -/
def twiceReported (first second : List Value) : Value :=
  .object [("result", .list [reportValue first, reportValue second])]

/-- A fetched script of which a snapshot has two reports, the first of them without ranges. -/
def reportedScript : Scene StandIn ScriptOptions HeldCall :=
  fetched ((({} : StandIn).respond Method.takePreciseCoverage (.fixed (twiceReported [] [ranOnce 0 5]))).addScript
      "1" "a = 1")
    { includeRaw := true }
    ⟨Event.scriptParsed, .object [("scriptId", .text "1"), ("url", .text "a.js")]⟩

/-- The payload of a script whose first report is without ranges tells of all of them. -/
theorem payload_tells_iff_of_twice :
    let snapshot : ScriptSnapshot := ⟨[report [], report [⟨0, 5, 1⟩]], 0⟩
    decode ScriptSnapshot (twiceReported [] [ranOnce 0 5]) = .ok snapshot ∧ snapshot.LastTells ⟨"1"⟩ ∧
      (∃ usage, Strategy.usage ({ includeRaw := true } : ScriptOptions) (twiceReported [] [ranOnce 0 5]) = .ok usage ∧
        ∀ id u, (id, u) ∈ usage → ∃ c, u.raw = some c ∧ (c.usageRanges = u.ranges ↔ snapshot.LastTells id)) ∧
      Reachable reportedScript ∧
      ∃ e, reportedScript.beginStop.2.advance.1 = some (.stopped (.ok [e])) ∧
        e.raw = some (report [⟨0, 5, 1⟩]) ∧ e.ranges = flatten (report [⟨0, 5, 1⟩]).usageRanges := by
  have reachable : Reachable reportedScript := reachable_fetched rfl _ _
  have tells := payload_tells_iff (σ := StandIn)
  have tellsLast : ScriptSnapshot.LastTells ⟨[report [], report [⟨0, 5, 1⟩]], 0⟩ ⟨"1"⟩ := by
    intro c hc
    obtain rfl : c = report [] := by simpa [ScriptSnapshot.reports, report] using hc
    rfl
  have hread : decode ScriptSnapshot (twiceReported [] [ranOnce 0 5]) =
      .ok ⟨[report [], report [⟨0, 5, 1⟩]], 0⟩ := rfl
  refine ⟨hread, tellsLast, tells.1 { includeRaw := true } _ _ rfl hread, reachable, _, rfl, rfl, ?_⟩
  obtain ⟨answer, rest, snapshot, hfates, hdecodes, hentries⟩ := tells.2 reportedScript reportedScript.beginStop.2
    { includeRaw := true } ⟨0, [⟨Event.scriptParsed, 0⟩, ⟨Event.executionContextsCleared, 1⟩], true⟩
    _ reachable rfl .refl rfl
  have hanswered : reportedScript.beginStop.2.fates =
      .done (.ok (twiceReported [] [ranOnce 0 5])) :: List.replicate 3 (.done (.ok .empty)) := rfl
  rw [hanswered, List.cons.injEq, Request.done.injEq, Except.ok.injEq] at hfates
  rw [← hfates.1, hread, Except.ok.injEq] at hdecodes
  exact hentries _ List.mem_cons_self _ rfl (hdecodes ▸ tellsLast)

/-- Of a script that is reported twice with ranges, the payload tells of the second report alone. -/
theorem not_payload_tells :
    ¬∀ (options : ScriptOptions) (answer : Value) (usage : UsageMap), options.includeRaw = true →
      Strategy.usage options answer = .ok usage →
      ∀ id u, (id, u) ∈ usage → ∃ c, u.raw = some c ∧ c.usageRanges = u.ranges := by
  intro h
  obtain ⟨c, hraw, hranges⟩ := h { includeRaw := true } (twiceReported [ranOnce 0 4] [ranOnce 6 9])
    [(⟨"1"⟩, ⟨[⟨0, 4, 1⟩, ⟨6, 9, 1⟩], some (report [⟨6, 9, 1⟩])⟩)] rfl rfl _ _ List.mem_cons_self
  obtain rfl := Option.some.inj hraw
  exact absurd hranges (by decide)

end Scene

end PageCoverage
