import PageCoverage.Proofs.Session.Batch
import PageCoverage.Proofs.Session.Listening
import PageCoverage.Session.StandIn

namespace PageCoverage

/-- A session that remembers the commands that have been sent on it, in order. -/
class Remembers (σ : Type) (κ : outParam Type) [Session σ κ] where
  sent : σ → List Command
  sent_withRouter (s : σ) (r : Router) : sent (Session.withRouter s r) = sent s
  sent_send (s : σ) (c : Command) : sent (Session.send s c).2 = sent s ++ [c]
  sent_poll (s : σ) (call : κ) : sent (Session.poll s call).2 = sent s
  sent_cancel (s : σ) (call : κ) : sent (Session.cancel s call) = sent s

instance {σ κ : Type} [Session σ κ] : Remembers (Recorded σ) κ where
  sent := Recorded.sent
  sent_withRouter _ _ := rfl
  sent_send _ _ := rfl
  sent_poll _ _ := rfl
  sent_cancel _ _ := rfl

instance : Remembers StandIn HeldCall where
  sent := StandIn.history
  sent_withRouter _ _ := rfl
  sent_send _ _ := rfl
  sent_poll _ _ := rfl
  sent_cancel _ _ := rfl

namespace Remembers

variable {σ κ : Type} [Session σ κ] [Remembers σ κ] {s t : σ}

theorem sent_foldl_release (subs : List Subscription) (s : σ) : sent (subs.foldl Session.release s) = sent s := by
  induction subs generalizing s with
  | nil => rfl
  | cons sub subs ih => exact (ih _).trans (sent_withRouter s _)

theorem sent_closeSink (s : σ) (k : SinkId) : sent (Session.closeSink s k) = sent s := sent_withRouter s _

theorem sent_openSink (s : σ) : sent (Session.openSink s).2 = sent s := sent_withRouter s _

theorem sent_subscribe {name : String} {k : SinkId} {sub : Subscription}
    (h : Session.subscribe s name k = .ok (sub, t)) : sent t = sent s := by
  rw [Session.subscribe] at h
  split at h
  · cases h
  · cases h
    exact sent_withRouter s _

theorem sent_cancelAll (rs : List (Request κ)) (s : σ) : sent (Request.cancelAll s rs) = sent s := by
  induction rs generalizing s with
  | nil => rfl
  | cons r rs ih =>
    have hr : sent (Request.cancel s r) = sent s := by
      cases r with
      | pending call => exact sent_cancel s call
      | _ => rfl
    exact (ih _).trans hr

end Remembers

namespace Request

variable {σ κ : Type} [Session σ κ] {c d : Command} {r : Request κ} {rs : List (Request κ)}

/-- The command of a request that has not been sent. -/
def unsent? : Request κ → Option Command
  | .unsent c => some c
  | _ => none

omit [Session σ κ] in
theorem unsent?_eq_some : r.unsent? = some c ↔ r = .unsent c := by
  cases r <;> simp [unsent?]

omit [Session σ κ] in
theorem unsent?_of_isSent (h : r.isSent = true) : r.unsent? = none := by
  cases r with
  | unsent c => cases h
  | _ => rfl

section

variable [Remembers σ κ]

theorem sent_poll (s : σ) (r : Request κ) : Remembers.sent (r.poll s).2 = Remembers.sent s ++ r.unsent?.toList := by
  cases r with
  | unsent c => exact (Remembers.sent_poll _ _).trans (Remembers.sent_send s c)
  | pending call => exact (Remembers.sent_poll s call).trans (List.append_nil _).symm
  | done result => exact (List.append_nil _).symm

/-- A poll of a batch sends some of the commands that have not been sent, in their order. -/
theorem sent_pollAll (rs : List (Request κ)) (s : σ) :
    ∃ cs, cs.Sublist (rs.filterMap unsent?) ∧ Remembers.sent (pollAll s rs).2 = Remembers.sent s ++ cs := by
  induction rs generalizing s with
  | nil => exact ⟨[], List.Sublist.refl _, (List.append_nil _).symm⟩
  | cons r rs ih =>
    have hfirst := sent_poll s r
    have hcons : (r :: rs).filterMap unsent? = r.unsent?.toList ++ rs.filterMap unsent? := by
      rw [List.filterMap_cons]
      cases r.unsent? <;> rfl
    rw [pollAll_cons, hcons]
    split
    · exact ⟨_, List.sublist_append_left _ _, hfirst⟩
    · obtain ⟨cs, hcs, hrest⟩ := ih (r.poll s).2
      refine ⟨_, (List.Sublist.refl _).append hcs, hrest.trans ?_⟩
      rw [hfirst, List.append_assoc]

end

/-- A request that has not been sent still carries the command it has come of. -/
theorem Of.eq_of_unsent (h : Of σ c (.unsent d : Request κ)) : c = d := by
  generalize hr : (.unsent d : Request κ) = r at h
  cases h with
  | unsent =>
    cases hr
    rfl
  | poll s h =>
    have hsent := isSent_poll s ‹Request κ›
    rw [← hr] at hsent
    cases hsent

/-- The unsent commands of a batch are among those that it has come of. -/
theorem unsent_subset {cs : List Command} (h : List.Forall₂ (Of σ) cs rs) : rs.filterMap unsent? ⊆ cs := by
  induction h with
  | nil => exact List.Subset.refl _
  | @cons c r cs rs hr _ ih =>
    cases hunsent : r.unsent? with
    | none =>
      rw [List.filterMap_cons_none hunsent]
      exact List.subset_cons_of_subset c ih
    | some d =>
      have hr : Of σ c (.unsent d : Request κ) := unsent?_eq_some.mp hunsent ▸ hr
      rw [List.filterMap_cons_some hunsent, hr.eq_of_unsent]
      exact List.cons_subset_cons d ih

end Request

end PageCoverage
