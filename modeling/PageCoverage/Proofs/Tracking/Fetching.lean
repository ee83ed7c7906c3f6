import PageCoverage.Proofs.Tracking.Chronicle

namespace PageCoverage

open Scene

namespace ResourceKind

/-- The method that fetches a source of a kind. -/
def fetchMethod : ResourceKind → String
  | .script => Method.getScriptSource
  | .stylesheet => Method.getStyleSheetText

/-- The commands that fetch sources of a kind. -/
def sourceFetches (kind : ResourceKind) (cs : List Command) : List Command :=
  cs.filter (·.method == kind.fetchMethod)

variable {kind : ResourceKind} {options : kind.Options} {c : Command} {cs : List Command}

theorem method_fetchCommand (options : kind.Options) (id : ResourceId) :
    (Strategy.fetchCommand options id).method = kind.fetchMethod := by
  cases kind <;> rfl

/-- Neither a start nor a stop fetches sources. -/
theorem method_ne_fetchMethod (h : c ∈ Strategy.enableCommands options ∨ c ∈ stopBatch options) :
    c.method ≠ kind.fetchMethod := by
  have henable : ∀ c ∈ Strategy.enableCommands options, c.method ≠ kind.fetchMethod := by
    cases kind <;> simp [Strategy.enableCommands] <;> decide
  have hstop : ∀ c ∈ stopBatch options, c.method ≠ kind.fetchMethod := by
    cases kind <;> simp [stopBatch, Strategy.collectCommand, Strategy.disableCommands] <;> decide
  exact h.elim (henable c) (hstop c)

theorem sourceFetches_append (kind : ResourceKind) (cs ds : List Command) :
    kind.sourceFetches (cs ++ ds) = kind.sourceFetches cs ++ kind.sourceFetches ds :=
  List.filter_append _ _

theorem sourceFetches_eq_nil (h : ∀ c ∈ cs, c.method ≠ kind.fetchMethod) : kind.sourceFetches cs = [] := by
  rw [sourceFetches, List.filter_eq_nil_iff]
  exact fun c hc => mt beq_iff_eq.mp (h c hc)

theorem sourceFetches_eq_self (h : ∀ c ∈ cs, c.method = kind.fetchMethod) : kind.sourceFetches cs = cs := by
  rw [sourceFetches, List.filter_eq_self]
  exact fun c hc => beq_iff_eq.mpr (h c hc)

theorem method_of_fetch? {heard : kind.Options × Event} (h : Strategy.fetch? heard = some c) :
    c.method = kind.fetchMethod := by
  obtain ⟨r, -, rfl⟩ := Option.map_eq_some_iff.mp h
  exact method_fetchCommand _ _

end ResourceKind

namespace Chronicle

section

variable {K : Type} [Strategy K]

theorem sent_move {c : Chronicle K} {m : Move K} {cs : List Command}
    (h : (c.scene.make m).session.history = c.scene.session.history ++ cs) :
    (c.perform (.move m)).sent = c.sent ++ cs := by
  rw [perform, h, List.drop_left]

/-- A step forgets no command. -/
theorem exists_sent {s : Scene StandIn K HeldCall} (sound : Sound s) (m : Move K) :
    ∃ cs, (s.make m).session.history = s.session.history ++ cs := by
  obtain rfl | ⟨i, rfl⟩ | ⟨hdirects, -⟩ := sound.make_cases m
  · exact ⟨[], (sent_pump s).trans (List.append_nil _).symm⟩
  · obtain ⟨cs, hcs, -⟩ := sent_fetchAt s i
    exact ⟨cs, hcs⟩
  · obtain ⟨cs, hcs, -⟩ := hdirects.sent
    exact ⟨cs, hcs⟩

/-- The call history is made of what the tracker has sent and of what others have. -/
theorem history_run (h : List (Deed K)) :
    (run h).scene.session.history.Perm ((run h).sent ++ h.filterMap Deed.foreign?) := by
  induction h with
  | nil => exact .refl _
  | cons d h ih =>
    have hswap (cs : List Command) : ((run h).scene.session.history ++ cs).Perm
        ((run h).sent ++ (cs ++ h.filterMap Deed.foreign?)) := by
      refine (ih.append_right cs).trans ?_
      rw [List.append_assoc]
      exact .append_left _ List.perm_append_comm
    cases d with
    | move m =>
      obtain ⟨cs, hcs⟩ := exists_sent (sourced_run h).sound m
      have hsent : (run (.move m :: h)).sent = (run h).sent ++ cs := sent_move hcs
      have hhistory : (run (.move m :: h)).scene.session.history = (run h).scene.session.history ++ cs := hcs
      rw [hsent, hhistory, List.filterMap_cons_none rfl, List.append_assoc]
      exact hswap cs
    | touch t =>
      cases t with
      | send c => exact hswap [c]
      | _ => exact ih

end

variable {kind : ResourceKind} {c : Chronicle kind.Options}

/-- What has been sent of the fetches and what waits to be sent are together the fetches that were asked for. -/
def Accounts (kind : ResourceKind) (c : Chronicle kind.Options) : Prop :=
  (kind.sourceFetches c.sent ++ c.scene.tracker.unsentFetches).Perm (c.handled.filterMap Strategy.fetch?)

/-- A handled event that is admitted adds a fetch to those that wait. -/
theorem Accounts.pump (h : c.Accounts kind) : (c.perform (.move .pump)).Accounts kind := by
  have hsent : (c.perform (.move .pump)).sent = c.sent ++ [] :=
    sent_move ((sent_pump c.scene).trans (List.append_nil _).symm)
  have hhandled : (c.perform (.move .pump)).handled = c.handled ++ c.scene.heard?.toList := rfl
  have hwaits : (c.perform (.move .pump)).scene.tracker.unsentFetches =
      c.scene.tracker.unsentFetches ++ (c.scene.heard?.bind Strategy.fetch?).toList := unsentFetches_pump c.scene
  have hasked : c.scene.heard?.toList.filterMap Strategy.fetch? = (c.scene.heard?.bind Strategy.fetch?).toList := by
    cases c.scene.heard? with
    | none => rfl
    | some heard => cases hfetch : Strategy.fetch? heard <;> simp [hfetch]
  rw [Accounts, hsent, hwaits, hhandled, List.append_nil, List.filterMap_append, ← List.append_assoc]
  exact List.Perm.append h (.of_eq hasked.symm)

/-- The first step of a fetch sends what has waited. -/
theorem Accounts.fetch (h : c.Accounts kind) (i : Nat) : (c.perform (.move (.fetch i))).Accounts kind := by
  obtain ⟨cs, hcs, hperm⟩ := sent_fetchAt c.scene i
  have hsent : (c.perform (.move (.fetch i))).sent = c.sent ++ cs := sent_move hcs
  have hhandled : (c.perform (.move (.fetch i))).handled = c.handled := List.append_nil _
  have hmethod : ∀ d ∈ cs, d.method = kind.fetchMethod := fun d hd => by
    have hasked := h.mem_iff.mp (List.mem_append_right _ (hperm.mem_iff.mpr (List.mem_append_left _ hd)))
    obtain ⟨heard, -, hfetch⟩ := List.mem_filterMap.mp hasked
    exact ResourceKind.method_of_fetch? hfetch
  rw [Accounts, hsent, hhandled, ResourceKind.sourceFetches_append, ResourceKind.sourceFetches_eq_self hmethod,
    List.append_assoc]
  exact (hperm.symm.append_left _).trans h

/-- Work on a start or a stop has nothing to do with fetches. -/
theorem Accounts.direct (h : c.Accounts kind) {m : Move kind.Options} (directs : Directs c.scene (c.scene.make m))
    (nothing : c.scene.hears? m = none) : (c.perform (.move m)).Accounts kind := by
  obtain ⟨cs, hcs, hcommands⟩ := directs.sent
  have hsent : (c.perform (.move m)).sent = c.sent ++ cs := sent_move hcs
  have hhandled : (c.perform (.move m)).handled = c.handled := by
    rw [perform, nothing]
    exact List.append_nil _
  have hwaits : (c.perform (.move m)).scene.tracker.unsentFetches = c.scene.tracker.unsentFetches :=
    congrArg (List.filterMap fun f : Fetch kind.Options HeldCall => f.request.unsent?) directs.fetches
  have hmethod : ∀ d ∈ cs, d.method ≠ kind.fetchMethod := fun d hd => by
    obtain ⟨options, hmem⟩ := hcommands d hd
    exact ResourceKind.method_ne_fetchMethod hmem
  rw [Accounts, hsent, hhandled, hwaits, ResourceKind.sourceFetches_append, ResourceKind.sourceFetches_eq_nil hmethod,
    List.append_nil]
  exact h

theorem accounts_run (h : List (Deed kind.Options)) : (run h).Accounts kind := by
  induction h with
  | nil => exact .refl _
  | cons d h ih =>
    cases d with
    | touch t => exact ih
    | move m =>
      obtain rfl | ⟨i, rfl⟩ | ⟨hdirects, hnothing⟩ := (sourced_run h).sound.make_cases m
      · exact ih.pump
      · exact ih.fetch i
      · exact ih.direct hdirects hnothing

end Chronicle

end PageCoverage
