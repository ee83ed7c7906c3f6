import PageCoverage.Proofs.Tracking.Fetching
import PageCoverage.Proofs.Tracking.Sifted

namespace PageCoverage

/-- The registration that comes of a script: under its URL unless the script was injected, and under a URL of its own
if it has none and such scripts are wanted. -/
inductive ScriptOptions.Admits (options : ScriptOptions) (params : Value) : Registration → Prop where
  | named {parsed : ScriptParsed} : decodePayload ScriptParsed Event.scriptParsed params = .ok parsed →
    ¬"probar:".toList <+: parsed.url.toList → parsed.url ≠ "" → Admits options params ⟨⟨parsed.id⟩, parsed.url⟩
  | anonymous {parsed : ScriptParsed} : decodePayload ScriptParsed Event.scriptParsed params = .ok parsed →
    parsed.url = "" → options.reportAnonymous = true →
    Admits options params ⟨⟨parsed.id⟩, "debugger://VM" ++ parsed.id⟩

/-- The registration that comes of a stylesheet, which has to have a URL. -/
inductive StylesheetOptions.Admits (params : Value) : Registration → Prop where
  | linked {added : StylesheetAdded} : decodePayload StylesheetAdded Event.styleSheetAdded params = .ok added →
    added.header.url ≠ "" → Admits params ⟨⟨added.header.id⟩, added.header.url⟩

namespace ResourceKind

/-- An event registers a resource that is to be covered. -/
def Admits (kind : ResourceKind) (options : kind.Options) (e : Event) (r : Registration) : Prop :=
  e.method ≠ Event.executionContextsCleared ∧
    match kind, options with
    | .script, options => ScriptOptions.Admits options e.params r
    | .stylesheet, _ => StylesheetOptions.Admits e.params r

/-- A command asks for the source of a resource, by its id. -/
def AsksFor (kind : ResourceKind) (id : ResourceId) (c : Command) : Prop :=
  match kind with
  | .script => c = { method := "Debugger.getScriptSource", params := .object [("scriptId", .text id.text)] }
  | .stylesheet => c = { method := "CSS.getStyleSheetText", params := .object [("styleSheetId", .text id.text)] }

theorem isInjectedUrl_iff (url : String) : isInjectedUrl url = true ↔ "probar:".toList <+: url.toList := by
  rw [isInjectedUrl, List.isPrefixOf_iff_prefix]

theorem script_registration_iff (options : ScriptOptions) (params : Value) (r : Registration) :
    options.registration params = .ok (some r) ↔ options.Admits params r := by
  rw [ScriptOptions.registration]
  constructor
  · intro h
    cases hdecoded : decodePayload ScriptParsed Event.scriptParsed params with
    | error error =>
      rw [hdecoded] at h
      cases h
    | ok parsed =>
      simp only [hdecoded, bind, Except.bind] at h
      by_cases hinjected : isInjectedUrl parsed.url = true
      · rw [if_pos hinjected] at h
        cases h
      · rw [if_neg hinjected] at h
        by_cases hempty : parsed.url = ""
        · rw [if_pos hempty] at h
          split at h
          next hwanted =>
            cases h
            exact .anonymous hdecoded hempty hwanted
          · cases h
        · rw [if_neg hempty] at h
          cases h
          exact .named hdecoded (mt (isInjectedUrl_iff _).mpr hinjected) hempty
  · intro h
    cases h with
    | named hdecoded hinjected hempty =>
      simp only [hdecoded, bind, Except.bind]
      rw [if_neg (mt (isInjectedUrl_iff _).mp hinjected), if_neg hempty]
    | @anonymous parsed hdecoded hempty hwanted =>
      have hinjected : ¬isInjectedUrl parsed.url = true := by
        rw [hempty]
        decide
      simp only [hdecoded, bind, Except.bind]
      rw [if_neg hinjected, if_pos hempty, if_pos hwanted]
      rfl

theorem stylesheet_registration_iff (options : StylesheetOptions) (params : Value) (r : Registration) :
    options.registration params = .ok (some r) ↔ StylesheetOptions.Admits params r := by
  rw [StylesheetOptions.registration]
  constructor
  · intro h
    cases hdecoded : decodePayload StylesheetAdded Event.styleSheetAdded params with
    | error error =>
      rw [hdecoded] at h
      cases h
    | ok added =>
      simp only [hdecoded, bind, Except.bind] at h
      by_cases hempty : added.header.url = ""
      · rw [if_pos hempty] at h
        cases h
      · rw [if_neg hempty] at h
        cases h
        exact .linked hdecoded hempty
  · rintro ⟨hdecoded, hempty⟩
    simp only [hdecoded, bind, Except.bind]
    rw [if_neg hempty]

/-- What a tracker takes for an admitted registration is one. -/
theorem admitted?_iff (kind : ResourceKind) (options : kind.Options) (e : Event) (r : Registration) :
    Strategy.admitted? options e = some r ↔ kind.Admits options e r := by
  rw [Strategy.admitted?_eq_some_iff]
  cases kind with
  | script => exact and_congr_right fun _ => script_registration_iff options e.params r
  | stylesheet => exact and_congr_right fun _ => stylesheet_registration_iff options e.params r

theorem fetchCommand_eq_iff (kind : ResourceKind) (options : kind.Options) (id : ResourceId) (c : Command) :
    Strategy.fetchCommand options id = c ↔ kind.AsksFor id c := by
  cases kind with
  | script => exact eq_comm
  | stylesheet => exact eq_comm

end ResourceKind

namespace Chronicle

/-- What a run of a tracker makes of the registrations that it admits, and of no others. -/
structure OnlyAdmitted (kind : ResourceKind) (h : List (Deed kind.Options)) : Prop where
  /-- The call history holds what the tracker has sent and what others have. -/
  calls : (run h).scene.session.history.Perm ((run h).sent ++ h.filterMap Deed.foreign?)
  /-- The fetches that have been sent, and those whose first step is still to come, are one for each event that has
  been handled while the cache took records and that registers an admitted resource. -/
  fetches : (kind.sourceFetches (run h).sent ++ (run h).scene.tracker.unsentFetches).Perm
    ((run h).handled.filterMap Strategy.fetch?)
  /-- Once every fetch has made its first step, this is true of those that have been sent. -/
  sent : (∀ f ∈ (run h).scene.tracker.fetches, f.request.isSent = true) →
    (kind.sourceFetches (run h).sent).Perm ((run h).handled.filterMap Strategy.fetch?)
  /-- A fetch asks for the source of its registration, and without an admitted registration there is none. -/
  fetch : ∀ options e c, Strategy.fetch? (options, e) = some c ↔
    ∃ r, kind.Admits options e r ∧ kind.AsksFor r.id c
  /-- The entries that a stop returns are those of admitted registrations that have been handled. -/
  entries : ∀ entries, .stopped (.ok entries) ∈ (run h).returned → ∀ entry ∈ entries,
    ∃ options e r, (options, e) ∈ (run h).handled ∧ kind.Admits options e r ∧ entry.url = r.url
  /-- The run without the events that register no admitted resource has none of them left, and it returns the same. -/
  sifted : sift (sift h) = sift h ∧ (run (sift h)).returned = (run h).returned
  /-- So does any other run into which such events have been put. -/
  inserted : ∀ h', sift h' = sift h → (run h').returned = (run h).returned

theorem unsentFetches_eq_nil {K κ : Type} {t : Tracker K κ} (h : ∀ f ∈ t.fetches, f.request.isSent = true) :
    t.unsentFetches = [] := by
  rw [Tracker.unsentFetches, List.filterMap_eq_nil_iff]
  exact fun f hf => Request.unsent?_of_isSent (h f hf)

/-- In every run of a tracker on a stand-in, whatever it is made to do and in whatever order, the fetches are one for
each admitted registration that has been handled while the cache took records. Injected scripts, scripts without a URL
that are not wanted, stylesheets without a URL and registrations that cannot be read are never fetched and never
reported, and it makes no difference how many of them come and when. -/
theorem only_admitted (kind : ResourceKind) (h : List (Deed kind.Options)) : OnlyAdmitted kind h where
  calls := history_run h
  fetches := accounts_run h
  sent all := by
    have hfetches := accounts_run h
    rwa [Accounts, unsentFetches_eq_nil all, List.append_nil] at hfetches
  fetch options e c := by
    rw [Strategy.fetch?, Option.map_eq_some_iff]
    exact exists_congr fun r =>
      and_congr (ResourceKind.admitted?_iff kind options e r) (ResourceKind.fetchCommand_eq_iff kind options r.id c)
  entries entries hreturned entry hentry := by
    obtain ⟨options, r, ⟨e, hhandled, hadmitted⟩, hurl⟩ := (sourced_run h).entries entries hreturned entry hentry
    exact ⟨options, e, r, hhandled, (ResourceKind.admitted?_iff kind options e r).mp hadmitted, hurl.symm⟩
  sifted := ⟨sift_sift h, (sifted_run h).2⟩
  inserted h' same := by rw [← (sifted_run h').2, same, (sifted_run h).2]

def parsedScript (id url : String) : Event := ⟨Event.scriptParsed, .object [("scriptId", .text id), ("url", .text url)]⟩

/-- A script is announced and its announcement handled. -/
def announced (id url : String) : List (Deed ScriptOptions) :=
  [.touch (.emit (parsedScript id url).method (parsedScript id url).params), .move .pump]

/-- Four scripts come, of which one was injected and one has no URL. Of the other two one is fetched, and the source of
the other is held back until the tracker has stopped. -/
def fourScripts : List (Deed ScriptOptions) :=
  let prepared : List (Deed ScriptOptions) := [.touch (.addScript "1" "run()"),
    .touch (.hold "Debugger.getScriptSource" (some (.object [("scriptId", .text "4")]))), .move (.start {})]
  let announcements := announced "1" "a.js" ++ announced "2" "probar:b.js" ++ announced "3" "" ++ announced "4" "d.js"
  let rest : List (Deed ScriptOptions) := [.move (.fetch 0), .move (.fetch 0), .move .stop, .move .poll]
  (prepared ++ announcements ++ rest).reverse

theorem only_admitted_of_four :
    ((run fourScripts).scene.tracker.fetches.length = 1 ∧
      ∀ f ∈ (run fourScripts).scene.tracker.fetches, f.request.isSent = true) ∧
    (run fourScripts).handled = [({}, parsedScript "1" "a.js"), ({}, parsedScript "2" "probar:b.js"),
      ({}, parsedScript "3" ""), ({}, parsedScript "4" "d.js")] ∧
    (ResourceKind.sourceFetches .script (run fourScripts).sent).Perm
      [{ method := "Debugger.getScriptSource", params := .object [("scriptId", .text "1")] },
        { method := "Debugger.getScriptSource", params := .object [("scriptId", .text "4")] }] ∧
    ∃ entry, (run fourScripts).returned = [.started (.ok ()), .stopped (.ok [entry])] ∧ entry.url = "a.js" ∧
      (∃ r, ResourceKind.Admits .script ({} : ScriptOptions) (parsedScript "1" "a.js") r ∧ r.url = "a.js") ∧
      (run (sift fourScripts)).returned = [.started (.ok ()), .stopped (.ok [entry])] := by
  have only := only_admitted .script fourScripts
  have all : ∀ f ∈ (run fourScripts).scene.tracker.fetches, f.request.isSent = true := by decide
  have hhandled : (run fourScripts).handled = [({}, parsedScript "1" "a.js"), ({}, parsedScript "2" "probar:b.js"),
      ({}, parsedScript "3" ""), ({}, parsedScript "4" "d.js")] := rfl
  have first : ResourceKind.Admits .script ({} : ScriptOptions) (parsedScript "1" "a.js") ⟨⟨"1"⟩, "a.js"⟩ :=
    ⟨by decide, @ScriptOptions.Admits.named _ _ ⟨"1", "a.js"⟩ rfl (by decide) (by decide)⟩
  have fourth : ResourceKind.Admits .script ({} : ScriptOptions) (parsedScript "4" "d.js") ⟨⟨"4"⟩, "d.js"⟩ :=
    ⟨by decide, @ScriptOptions.Admits.named _ _ ⟨"4", "d.js"⟩ rfl (by decide) (by decide)⟩
  have hsent := only.sent all
  rw [hhandled, List.filterMap_cons_some ((only.fetch _ _ _).mpr ⟨_, first, rfl⟩), List.filterMap_cons_none rfl,
    List.filterMap_cons_none rfl, List.filterMap_cons_some ((only.fetch _ _ _).mpr ⟨_, fourth, rfl⟩)] at hsent
  have hreturned : ∃ entry, (run fourScripts).returned = [.started (.ok ()), .stopped (.ok [entry])] ∧
      entry.url = "a.js" := ⟨_, rfl, rfl⟩
  obtain ⟨entry, hreturned, hurl⟩ := hreturned
  exact ⟨⟨rfl, all⟩, hhandled, hsent, entry, hreturned, hurl, ⟨_, first, rfl⟩, only.sifted.2.trans hreturned⟩

end Chronicle

end PageCoverage
