import PageCoverage.Proofs.Range.Order
import PageCoverage.Proofs.Resource.Grouping
import PageCoverage.Proofs.Tracking.Lifecycle
import PageCoverage.Strategy.Stylesheet

namespace PageCoverage

/-- An entry for a record, for which some ranges were reported and perhaps a payload was kept. -/
structure Entry.Joins (r : Record) (ranges : List UsageRange) (raw : Prop) (e : Entry) : Prop where
  url : e.url = r.url
  text : e.text = r.source
  ranges : e.ranges = flatten ranges
  raw : e.raw.isSome = true ↔ raw

theorem Record.joins_entry {r : Record} {u : Option ResourceUsage} {ranges : List UsageRange}
    {raw : Option ScriptCoverage} (reported : u.getD {} = ⟨ranges, raw⟩) :
    (r.entry u).Joins r ranges (raw.isSome = true) := by
  refine ⟨rfl, rfl, ?_, ?_⟩ <;> simp only [Record.entry, reported]

namespace Scene

variable {σ κ : Type} [Session σ κ] [LawfulSession σ]

/-- A stop whose requests have all succeeded returns the records that its tracker held when it began. -/
theorem advance_of_succeeded {K : Type} [Strategy K] {s t : Scene σ K κ} {options : K} {a : Attachment}
    (reachable : Reachable s) (enabled : s.tracker.phase = .enabled options a)
    (waited : Relation.ReflTransGen (Awaits a.sink) s.beginStop.2 t) {answer : Value}
    {rest : List (Request κ)} (fates : t.fates = .done (.ok answer) :: rest) (all : ∀ r ∈ rest, r.Succeeded)
    {usage : UsageMap} (decodes : Strategy.usage options answer = .ok usage) :
    t.advance.1 = some (.stopped (.ok (s.tracker.cache.records.map fun r =>
      r.entry (UsageMap.get? usage r.id)))) := by
  have h := reachable.sound
  have hstop := h.stop
  rw [beginStop_of_phase enabled] at hstop waited
  obtain ⟨-, ⟨batch, hstopping⟩, -, hcache⟩ :=
    stopping_of_awaits hstop rfl (unfed_detach (h.owned_of_enabled enabled)) waited
  -- The cache was closed when the stop began, so nothing has come in while it waited.
  have hrecords : t.tracker.cache.records = s.tracker.cache.records := by
    rw [hcache]
    rfl
  have hall : ∀ r ∈ t.fates, r.Succeeded := by
    rw [fates]
    exact List.forall_mem_cons.mpr ⟨⟨answer, rfl⟩, all⟩
  obtain ⟨answers, hanswers⟩ := Request.succeeded_iff.mp hall
  have hhead : answers.headD .null = answer := by
    have hfates := Request.answers?_eq_some_iff.mp hanswers
    rw [fates] at hfates
    cases answers with
    | nil => cases hfates
    | cons v vs =>
      obtain ⟨hv, -⟩ := List.cons.inj hfates
      cases hv
      rfl
  have hfirst : Request.firstFailure? t.fates = none :=
    Request.firstFailure?_eq_none_iff.mpr (Request.not_mem_of_succeeded hall)
  have hentries : entriesOf options t.tracker.cache.records answers =
      .ok (s.tracker.cache.records.map fun r => r.entry (UsageMap.get? usage r.id)) := by
    rw [entriesOf, hhead, decodes, hrecords]
    exact congrArg Except.ok (buildEntries_eq (Cache.nodup_ids h.indexed) usage)
  rw [advance_stopping hstopping, hfirst, hanswers, ← hentries]

/-- A stop whose requests have all succeeded returns one entry for each record, in order, with the covered
text of all ranges that the snapshot reports for the record's id. The payload of a script is there if it was
asked for and the snapshot knows the script. -/
theorem stop_returns_usage :
    (∀ (s t : Scene σ ScriptOptions κ) (options : ScriptOptions) (a : Attachment) (answer : Value)
      (rest : List (Request κ)) (snapshot : ScriptSnapshot), Reachable s →
      s.tracker.phase = .enabled options a → Relation.ReflTransGen (Awaits a.sink) s.beginStop.2 t →
      t.fates = .done (.ok answer) :: rest → (∀ r ∈ rest, r.Succeeded) → decode ScriptSnapshot answer = .ok snapshot →
      ∃ entries, t.advance.1 = some (.stopped (.ok entries)) ∧
        List.Forall₂ (fun r => Entry.Joins r
          ((snapshot.scripts.filter (·.id = r.id.text)).flatMap fun c => c.functions.flatMap fun f =>
            f.ranges.map fun u => ⟨u.startOffset, u.endOffset, u.count⟩)
          (options.includeRaw = true ∧ ∃ c ∈ snapshot.scripts, c.id = r.id.text))
          s.tracker.cache.records entries) ∧
    ∀ (s t : Scene σ StylesheetOptions κ) (options : StylesheetOptions) (a : Attachment) (answer : Value)
      (rest : List (Request κ)) (snapshot : RuleSnapshot), Reachable s →
      s.tracker.phase = .enabled options a → Relation.ReflTransGen (Awaits a.sink) s.beginStop.2 t →
      t.fates = .done (.ok answer) :: rest → (∀ r ∈ rest, r.Succeeded) → decode RuleSnapshot answer = .ok snapshot →
      ∃ entries, t.advance.1 = some (.stopped (.ok entries)) ∧
        List.Forall₂ (fun r => Entry.Joins r
          ((snapshot.rules.filter (·.sheet = r.id.text)).map fun u =>
            ⟨u.startOffset.toUInt32, u.endOffset.toUInt32, if u.used then 1 else 0⟩) False)
          s.tracker.cache.records entries := by
  constructor
  · intro s t options a answer rest snapshot reachable enabled waited fates all decodes
    have husage : Strategy.usage options answer = .ok (snapshot.usage options.includeRaw) := by
      show (decodePayload ScriptSnapshot _ answer).map _ = _
      rw [decodePayload, decodes]
      rfl
    refine ⟨_, advance_of_succeeded reachable enabled waited fates all husage, ?_⟩
    rw [List.forall₂_map_right_iff, List.forall₂_same]
    intro r _
    have hraw : (if options.includeRaw then (snapshot.scripts.filter (·.id = r.id.text)).getLast? else none).isSome =
        true ↔ options.includeRaw = true ∧ ∃ c ∈ snapshot.scripts, c.id = r.id.text := by
      cases options.includeRaw <;> simp
    obtain ⟨hurl, htext, hranges, hkept⟩ :=
      Record.joins_entry (r := r) (snapshot.get?_usage options.includeRaw r.id)
    exact ⟨hurl, htext, hranges, hkept.trans hraw⟩
  · intro s t options a answer rest snapshot reachable enabled waited fates all decodes
    have husage : Strategy.usage options answer = .ok snapshot.usage := by
      show (decodePayload RuleSnapshot _ answer).map _ = _
      rw [decodePayload, decodes]
      rfl
    refine ⟨_, advance_of_succeeded reachable enabled waited fates all husage, ?_⟩
    rw [List.forall₂_map_right_iff, List.forall₂_same]
    intro r _
    obtain ⟨hurl, htext, hranges, hkept⟩ := Record.joins_entry (r := r) (snapshot.get?_usage r.id)
    exact ⟨hurl, htext, hranges, hkept.trans (by simp)⟩

/-- The tracker handles an event and fetches the resource that it registers. -/
def sees {K : Type} [Strategy K] (s : Scene StandIn K HeldCall) (e : Event) : Scene StandIn K HeldCall :=
  ({ s with session := (s.session.emit e.method e.params).2 }.pump).fetchAt 0

theorem Reachable.sees {K : Type} [Strategy K] {s : Scene StandIn K HeldCall} (h : Reachable s) (e : Event) :
    Reachable (s.sees e) := by
  obtain ⟨session, wellFormed, steps⟩ := h
  have emits : Step s { s with session := (s.session.emit e.method e.params).2 } :=
    .elsewhere s _ ⟨fun h => Router.wellFormed_dispatch h e, fun l hl _ => List.mem_of_mem_filter hl⟩
  exact ⟨session, wellFormed, .tail (.tail (.tail steps emits) (.pump _)) (.fetch _ 0)⟩

/-- A new tracker that has been started on a stand-in and has fetched the resource of one registration. -/
def fetched {K : Type} [Strategy K] (session : StandIn) (options : K) (e : Event) : Scene StandIn K HeldCall :=
  sees (({ session, tracker := {} } : Scene StandIn K HeldCall).beginStart options).2.advance.2 e

theorem reachable_fetched {K : Type} [Strategy K] {session : StandIn} (fresh : session.router = {}) (options : K)
    (e : Event) : Reachable (fetched session options e) := by
  let new : Scene StandIn K HeldCall := { session, tracker := {} }
  have wellFormed : (Session.router session).WellFormed := by
    show session.router.WellFormed
    rw [fresh]
    exact nofun
  have steps : Relation.ReflTransGen Step new (new.beginStart options).2.advance.2 :=
    .tail (.single (.start new options)) (.advance _)
  exact Reachable.sees ⟨session, wellFormed, steps⟩ e

/-- What a profiler has seen: two reports of one script with one of another in between. -/
def seenScripts : List ScriptCoverage :=
  [⟨"1", "", [⟨"", [⟨0, 5, 1⟩, ⟨2, 4, 0⟩], false⟩, ⟨"", [⟨3, 4, 2⟩], false⟩]⟩, ⟨"9", "", [⟨"", [⟨0, 9, 1⟩], false⟩]⟩,
    ⟨"1", "", [⟨"", [⟨6, 8, 1⟩], false⟩]⟩]

/-- What is covered of that script, all its reports taken together. -/
theorem flatten_seen : flatten [⟨0, 5, 1⟩, ⟨2, 4, 0⟩, ⟨3, 4, 2⟩, ⟨6, 8, 1⟩] = [⟨0, 2⟩, ⟨3, 5⟩, ⟨6, 8⟩] := by
  have hsorted : Boundary.sorted [⟨0, 5, 1⟩, ⟨2, 4, 0⟩, ⟨3, 4, 2⟩, ⟨6, 8, 1⟩] =
      [⟨0, .opening, 5, 1⟩, ⟨2, .opening, 2, 0⟩, ⟨3, .opening, 1, 2⟩, ⟨4, .closing, 1, 2⟩, ⟨4, .closing, 2, 0⟩,
        ⟨5, .closing, 5, 1⟩, ⟨6, .opening, 2, 1⟩, ⟨8, .closing, 2, 1⟩] :=
    Boundary.sorted_eq_of_strict (by decide) (by decide)
  rw [flatten, hsorted]
  rfl

def rangeValue (start stop count : Int) : Value :=
  .object [("count", .int count), ("endOffset", .int stop), ("startOffset", .int start)]

def functionValue (ranges : List Value) : Value := .object [("ranges", .list ranges)]

def scriptValue (id : String) (functions : List Value) : Value :=
  .object [("functions", .list functions), ("scriptId", .text id)]

def scriptAnswer : Value :=
  .object [("result", .list [
    scriptValue "1" [functionValue [rangeValue 0 5 1, rangeValue 2 4 0], functionValue [rangeValue 3 4 2]],
    scriptValue "9" [functionValue [rangeValue 0 9 1]], scriptValue "1" [functionValue [rangeValue 6 8 1]]])]

def parsed (id url : String) : Event := ⟨Event.scriptParsed, .object [("scriptId", .text id), ("url", .text url)]⟩

/-- Two scripts have been fetched. -/
def twoScripts : Scene StandIn ScriptOptions HeldCall :=
  let session := (({} : StandIn).respond Method.takePreciseCoverage (.fixed scriptAnswer)).addScript "1" "a = 1; b()"
  (fetched (session.addScript "2" "c()") { includeRaw := true } (parsed "1" "a.js")).sees (parsed "2" "b.js")

/-- What a target has seen of three rules. -/
def seenRules : List RuleUsage := [⟨"2", 0, 5, true⟩, ⟨"9", 0, 9, true⟩, ⟨"2", 6, 8, false⟩]

def ruleValue (sheet : String) (start stop : Float) (used : Bool) : Value :=
  .object [("endOffset", .float stop), ("startOffset", .float start), ("styleSheetId", .text sheet),
    ("used", .bool used)]

def ruleAnswer : Value :=
  .object [("ruleUsage", .list [ruleValue "2" 0 5 true, ruleValue "9" 0 9 true, ruleValue "2" 6 8 false])]

def oneStylesheet : Scene StandIn StylesheetOptions HeldCall :=
  let session := ({} : StandIn).respond Method.stopRuleUsageTracking (.fixed ruleAnswer)
  fetched (session.addStylesheet "2" "p \x7b\x7d q \x7b\x7d") {}
    ⟨Event.styleSheetAdded, .object [("header", .object [("sourceURL", .text "a.css"), ("styleSheetId", .text "2")])]⟩

/-- Of two scripts the first is reported twice and the second not at all. Of a stylesheet there are two rules, whose
offsets are doubles, which a proof does not evaluate. -/
theorem stop_returns_usage_of_twoScripts :
    (Reachable twoScripts ∧ twoScripts.tracker.cache.records =
        [⟨⟨"1"⟩, "a.js", "a = 1; b()"⟩, ⟨⟨"2"⟩, "b.js", "c()"⟩] ∧
      decode ScriptSnapshot scriptAnswer = .ok ⟨seenScripts, 0⟩ ∧
      ∃ e e', twoScripts.beginStop.2.advance.1 = some (.stopped (.ok [e, e'])) ∧
        (e.url = "a.js" ∧ e.text = "a = 1; b()" ∧ e.ranges = [⟨0, 2⟩, ⟨3, 5⟩, ⟨6, 8⟩] ∧ e.raw.isSome = true) ∧
        e'.url = "b.js" ∧ e'.text = "c()" ∧ e'.ranges = [] ∧ e'.raw = none) ∧
    Reachable oneStylesheet ∧ oneStylesheet.tracker.cache.records = [⟨⟨"2"⟩, "a.css", "p \x7b\x7d q \x7b\x7d"⟩] ∧
      decode RuleSnapshot ruleAnswer = .ok ⟨seenRules⟩ ∧
      ∃ e, oneStylesheet.beginStop.2.advance.1 = some (.stopped (.ok [e])) ∧ e.url = "a.css" ∧
        e.ranges = flatten [⟨(0 : Float).toUInt32, (5 : Float).toUInt32, 1⟩,
          ⟨(6 : Float).toUInt32, (8 : Float).toUInt32, 0⟩] ∧ e.raw = none := by
  have scripts : Reachable twoScripts := (reachable_fetched rfl _ _).sees _
  have stylesheets : Reachable oneStylesheet := reachable_fetched rfl _ _
  have returns := stop_returns_usage (σ := StandIn)
  refine ⟨⟨scripts, rfl, rfl, ?_⟩, stylesheets, rfl, rfl, ?_⟩
  · obtain ⟨entries, hstop, hjoins⟩ := returns.1 twoScripts _ { includeRaw := true }
      ⟨0, [⟨Event.scriptParsed, 0⟩, ⟨Event.executionContextsCleared, 1⟩], true⟩ scriptAnswer
      (List.replicate 3 (.done (.ok .empty))) ⟨seenScripts, 0⟩ scripts rfl .refl rfl
      (fun r hr => ⟨_, List.eq_of_mem_replicate hr⟩) rfl
    have hrecords : twoScripts.tracker.cache.records =
        [⟨⟨"1"⟩, "a.js", "a = 1; b()"⟩, ⟨⟨"2"⟩, "b.js", "c()"⟩] := rfl
    rw [hrecords] at hjoins
    obtain _ | @⟨_, e, _, _, hfirst, _ | @⟨_, e', _, _, hsecond, _ | _⟩⟩ := hjoins
    have hranges : e.ranges = flatten [⟨0, 5, 1⟩, ⟨2, 4, 0⟩, ⟨3, 4, 2⟩, ⟨6, 8, 1⟩] := hfirst.ranges
    have hnone : e'.ranges = flatten [] := hsecond.ranges
    have hraw : e'.raw = none := by
      have hunseen : ¬∃ c ∈ seenScripts, c.id = "2" := by decide
      exact Option.not_isSome_iff_eq_none.mp fun h => hunseen (hsecond.raw.mp h).2
    have hkept : e.raw.isSome = true := hfirst.raw.mpr ⟨rfl, _, List.mem_cons_self, rfl⟩
    exact ⟨e, e', hstop, ⟨hfirst.url, hfirst.text, hranges.trans flatten_seen, hkept⟩, hsecond.url, hsecond.text,
      hnone.trans flatten_nil, hraw⟩
  · obtain ⟨entries, hstop, hjoins⟩ := returns.2 oneStylesheet _ {}
      ⟨0, [⟨Event.styleSheetAdded, 0⟩, ⟨Event.executionContextsCleared, 1⟩], true⟩ ruleAnswer
      (List.replicate 2 (.done (.ok .empty))) ⟨seenRules⟩ stylesheets rfl .refl rfl
      (fun r hr => ⟨_, List.eq_of_mem_replicate hr⟩) rfl
    have hrecords : oneStylesheet.tracker.cache.records = [⟨⟨"2"⟩, "a.css", "p \x7b\x7d q \x7b\x7d"⟩] := rfl
    rw [hrecords] at hjoins
    obtain _ | ⟨hfirst, _ | _⟩ := hjoins
    exact ⟨_, hstop, hfirst.url, hfirst.ranges, Option.not_isSome_iff_eq_none.mp hfirst.raw.mp⟩

end Scene

end PageCoverage
