import PageCoverage.Proofs.Router.Delivery
import PageCoverage.Proofs.Session.Lawful

namespace PageCoverage

namespace Session

variable {σ κ : Type} [Session σ κ]

/-- Subscribe a sink to several events in order, up to the first that nobody can listen to. -/
def subscribeAll (k : SinkId) : List String → σ → Except CoverageError (List Subscription × σ)
  | [], s => .ok ([], s)
  | name :: names, s =>
    match subscribe s name k with
    | .error e => .error e
    | .ok (sub, s) => (subscribeAll k names s).map fun (subs, s) => (sub :: subs, s)

variable [LawfulSession σ] {s t : σ} {k : SinkId}

theorem listeners_subscribe {name : String} {sub : Subscription} (h : subscribe s name k = .ok (sub, t)) :
    (router t).listeners = (router s).listeners ++ [⟨sub.event, sub.id, k⟩] ∧
      (router t).sinks = (router s).sinks := by
  have hrouter := router_of_subscribe h
  rw [subscribe] at h
  split at h
  · cases h
  · cases h
    rw [hrouter]
    exact ⟨rfl, rfl⟩

theorem listeners_subscribeAll {names : List String} {subs : List Subscription}
    (h : subscribeAll k names s = .ok (subs, t)) :
    (router t).listeners = (router s).listeners ++ subs.map (fun sub => ⟨sub.event, sub.id, k⟩) ∧
      (router t).sinks = (router s).sinks := by
  induction names generalizing s subs with
  | nil =>
    cases h
    simp
  | cons name names ih =>
    rw [subscribeAll] at h
    split at h
    · cases h
    next sub u hsub =>
      cases hrest : subscribeAll k names u with
      | error e =>
        rw [hrest] at h
        cases h
      | ok rest =>
        rw [hrest] at h
        cases h
        obtain ⟨hlisteners, hsinks⟩ := ih hrest
        obtain ⟨hfirst, hsame⟩ := listeners_subscribe hsub
        refine ⟨?_, hsinks.trans hsame⟩
        rw [hlisteners, hfirst, List.map_cons, List.append_assoc]
        rfl

theorem listeners_foldl_release (subs : List Subscription) (s : σ) :
    (router (subs.foldl release s)).listeners =
      (router s).listeners.filter fun l => ⟨l.event, l.id⟩ ∉ subs := by
  induction subs generalizing s with
  | nil => simp
  | cons sub subs ih =>
    rw [List.foldl_cons, ih, router_release, Router.release, List.filter_filter]
    refine List.filter_congr fun l _ => ?_
    obtain ⟨event, id⟩ := sub
    rw [Bool.eq_iff_iff]
    simp [and_comm]

/-- Where every listener of a sink is one of given subscriptions, none is left without them. -/
theorem feeders_release (subs : List Subscription)
    (owned : ∀ l ∈ (router s).feeders k, ⟨l.event, l.id⟩ ∈ subs) :
    (router (closeSink (subs.foldl release s) k)).feeders k = [] := by
  rw [router_closeSink, Router.feeders, List.filter_eq_nil_iff]
  intro l hl hk
  rw [Router.closeSink, listeners_foldl_release, List.mem_filter] at hl
  have hfeeds : l ∈ (router s).feeders k := List.mem_filter.mpr ⟨hl.1, hk⟩
  simpa [owned l hfeeds] using hl.2

end Session

end PageCoverage
