import PageCoverage.Tracking.Tracker
import Mathlib.Data.List.Induction
import Mathlib.Data.String.Basic

namespace PageCoverage

namespace UsageMap

variable {id key : ResourceId} {usage : UsageMap} {f : ResourceUsage → ResourceUsage}

/-- Ids stand in order, each once. -/
def Sorted (usage : UsageMap) : Prop := usage.Pairwise fun a b => a.1.text < b.1.text

theorem sorted_nil : Sorted [] := List.Pairwise.nil

theorem get?_cons (k : ResourceId) (u : ResourceUsage) (usage : UsageMap) (key : ResourceId) :
    get? ((k, u) :: usage) key = if k = key then some u else get? usage key := rfl

theorem get?_eq_none (h : ∀ entry ∈ usage, key.text < entry.1.text) : get? usage key = none := by
  induction usage with
  | nil => rfl
  | cons entry usage ih =>
    obtain ⟨k, u⟩ := entry
    have hk : ¬k = key := by
      rintro rfl
      exact lt_irrefl _ (h (k, u) List.mem_cons_self)
    rw [get?_cons, if_neg hk]
    exact ih fun entry hentry => h entry (List.mem_cons_of_mem _ hentry)

theorem mem_update {entry : ResourceId × ResourceUsage} (h : entry ∈ update id f usage) :
    entry.1 = id ∨ ∃ old ∈ usage, old.1 = entry.1 := by
  induction usage with
  | nil =>
    rw [update, List.mem_singleton] at h
    exact .inl (h ▸ rfl)
  | cons first usage ih =>
    obtain ⟨k, u⟩ := first
    rw [update] at h
    split at h
    next hk =>
      obtain rfl | hmem := List.mem_cons.mp h
      · exact .inl hk
      · exact .inr ⟨entry, List.mem_cons_of_mem _ hmem, rfl⟩
    · split at h
      · obtain rfl | hmem := List.mem_cons.mp h
        · exact .inl rfl
        · exact .inr ⟨entry, hmem, rfl⟩
      · obtain rfl | hmem := List.mem_cons.mp h
        · exact .inr ⟨(k, u), List.mem_cons_self, rfl⟩
        · obtain hid | ⟨old, hold, heq⟩ := ih hmem
          · exact .inl hid
          · exact .inr ⟨old, List.mem_cons_of_mem _ hold, heq⟩

theorem sorted_update (h : Sorted usage) : Sorted (update id f usage) := by
  induction usage with
  | nil => exact List.pairwise_singleton _ _
  | cons entry usage ih =>
    obtain ⟨k, u⟩ := entry
    obtain ⟨hfirst, hrest⟩ := List.pairwise_cons.mp h
    rw [update]
    split
    · exact List.pairwise_cons.mpr ⟨hfirst, hrest⟩
    next hne =>
      split
      next hlt =>
        refine List.pairwise_cons.mpr ⟨fun entry hentry => ?_, h⟩
        obtain rfl | hmem := List.mem_cons.mp hentry
        · exact hlt
        · exact lt_trans hlt (hfirst entry hmem)
      next hnot =>
        refine List.pairwise_cons.mpr ⟨fun entry hentry => ?_, ih hrest⟩
        obtain hid | ⟨old, hold, heq⟩ := mem_update hentry
        · have hdiffer : k.text ≠ id.text := fun htext => hne (by cases k; cases id; exact congrArg _ htext)
          rw [hid]
          exact lt_of_le_of_ne (not_lt.mp hnot) hdiffer
        · rw [← heq]
          exact hfirst old hold

theorem mem_iff_get?_eq_some (h : Sorted usage) {u : ResourceUsage} :
    (id, u) ∈ usage ↔ get? usage id = some u := by
  induction usage with
  | nil => simp [get?]
  | cons entry usage ih =>
    obtain ⟨k, v⟩ := entry
    obtain ⟨hfirst, hrest⟩ := List.pairwise_cons.mp h
    rw [get?_cons, List.mem_cons, ih hrest, Prod.mk.injEq]
    split
    next hk =>
      -- Behind the entry of an id there is no other one of it.
      have hnone : get? usage id = none := get?_eq_none (hk ▸ hfirst)
      simp [hk, hnone, eq_comm]
    next hk =>
      have hid : ¬id = k := fun hid => hk hid.symm
      simp [hid]

/-- A change of one id's usage concerns no other id. -/
theorem get?_update (h : Sorted usage) :
    get? (update id f usage) key = if id = key then some (f ((get? usage id).getD {})) else get? usage key := by
  induction usage with
  | nil => rfl
  | cons entry usage ih =>
    obtain ⟨k, u⟩ := entry
    obtain ⟨hfirst, hrest⟩ := List.pairwise_cons.mp h
    rw [update]
    split
    next hk =>
      subst hk
      rw [get?_cons, get?_cons, get?_cons, if_pos rfl]
      split <;> rfl
    next hne =>
      rw [get?_cons k u usage id, if_neg hne, get?_cons k u usage key]
      split
      next hlt =>
        -- Behind a larger id the list cannot hold this one.
        have hnone : get? usage id = none :=
          get?_eq_none fun entry hentry => lt_trans hlt (hfirst entry hentry)
        rw [get?_cons, get?_cons, hnone]
        rfl
      next hnot =>
        rw [get?_cons, ih hrest]
        by_cases hkey : k = key
        · have hid : ¬id = key := fun hid => hne (hkey.trans hid.symm)
          rw [if_pos hkey, if_neg hid, if_pos hkey]
        · rw [if_neg hkey, if_neg hkey]

/-- Reports are added one after the other to the usage of the ids they carry. -/
theorem get?_foldl_update {α : Type} (id : α → String) (add : α → ResourceUsage → ResourceUsage)
    (reports : List α) (h : Sorted usage) (key : ResourceId) :
    get? (reports.foldl (fun usage x => update ⟨id x⟩ (add x) usage) usage) key =
      (reports.filter (id · = key.text)).foldl (fun u x => some (add x (u.getD {}))) (get? usage key) := by
  induction reports generalizing usage with
  | nil => rfl
  | cons x reports ih =>
    rw [List.foldl_cons, ih (sorted_update h), get?_update h]
    by_cases hx : id x = key.text
    · have hkey : (⟨id x⟩ : ResourceId) = key := congrArg ResourceId.mk hx
      rw [List.filter_cons_of_pos (by simpa using hx), List.foldl_cons, if_pos hkey, hkey]
    · have hkey : ¬(⟨id x⟩ : ResourceId) = key := fun heq => hx (congrArg ResourceId.text heq)
      rw [List.filter_cons_of_neg (by simpa using hx), if_neg hkey]

theorem get?_erase (h : id ≠ key) : get? (erase id usage) key = get? usage key := by
  induction usage with
  | nil => rfl
  | cons entry usage ih =>
    obtain ⟨k, u⟩ := entry
    rw [erase]
    split
    next hk =>
      have hkey : ¬k = key := fun hkey => h (hk.symm.trans hkey)
      rw [get?_cons, if_neg hkey]
    next hk => rw [get?_cons, get?_cons, ih]

end UsageMap

theorem ScriptSnapshot.sorted_usage (s : ScriptSnapshot) (keepRaw : Bool) : UsageMap.Sorted (s.usage keepRaw) :=
  List.foldlRecOn s.scripts (ScriptCoverage.addTo keepRaw) UsageMap.sorted_nil
    fun _ sorted _ _ => UsageMap.sorted_update sorted

/-- A snapshot says something of a script that has reports: the ranges of all of them in order, and the last
report itself if reports are kept. -/
theorem ScriptSnapshot.get?_usage_eq (s : ScriptSnapshot) (keepRaw : Bool) (id : ResourceId) :
    UsageMap.get? (s.usage keepRaw) id = (s.scripts.filter (·.id = id.text)).getLast?.map fun last =>
      { ranges := (s.scripts.filter (·.id = id.text)).flatMap ScriptCoverage.usageRanges
        raw := if keepRaw then some last else none } := by
  have husage : UsageMap.get? (s.usage keepRaw) id = _ :=
    UsageMap.get?_foldl_update ScriptCoverage.id
      (fun c u => { ranges := u.ranges ++ c.usageRanges, raw := if keepRaw then some c else u.raw })
      s.scripts UsageMap.sorted_nil id
  rw [husage]
  induction s.scripts.filter (·.id = id.text) using List.reverseRecOn with
  | nil => rfl
  | append_singleton reports c ih =>
    rw [List.foldl_concat, ih, List.getLast?_concat]
    rcases List.eq_nil_or_concat reports with rfl | ⟨earlier, last, rfl⟩
    · cases keepRaw <;> simp
    · cases keepRaw <;> simp

theorem ScriptSnapshot.get?_usage (s : ScriptSnapshot) (keepRaw : Bool) (id : ResourceId) :
    (UsageMap.get? (s.usage keepRaw) id).getD {} =
      { ranges := (s.scripts.filter (·.id = id.text)).flatMap ScriptCoverage.usageRanges
        raw := if keepRaw then (s.scripts.filter (·.id = id.text)).getLast? else none } := by
  rw [s.get?_usage_eq]
  cases hlast : (s.scripts.filter (·.id = id.text)).getLast? with
  | none =>
    rw [List.getLast?_eq_none_iff.mp hlast]
    cases keepRaw <;> rfl
  | some last => rfl

/-- What a snapshot says of one stylesheet: a range for each of its rules, in order. -/
theorem RuleSnapshot.get?_usage (s : RuleSnapshot) (id : ResourceId) :
    (UsageMap.get? s.usage id).getD {} =
      { ranges := (s.rules.filter (·.sheet = id.text)).map RuleUsage.toUsage, raw := none } := by
  have husage : UsageMap.get? s.usage id = _ :=
    UsageMap.get?_foldl_update RuleUsage.sheet
      (fun r u => { u with ranges := u.ranges ++ [r.toUsage] }) s.rules UsageMap.sorted_nil id
  rw [husage]
  induction s.rules.filter (·.sheet = id.text) using List.reverseRecOn with
  | nil => rfl
  | append_singleton reports r ih =>
    rw [List.foldl_concat, Option.getD_some, ih, List.map_append]
    rfl

/-- Where no id is carried twice, each record gets what was reported for its id. -/
theorem buildEntries_eq {records : List Record} (nodup : (records.map Record.id).Nodup) (usage : UsageMap) :
    buildEntries records usage = records.map fun r => r.entry (UsageMap.get? usage r.id) := by
  induction records generalizing usage with
  | nil => rfl
  | cons r records ih =>
    rw [List.map_cons, List.nodup_cons] at nodup
    obtain ⟨hfirst, hrest⟩ := nodup
    rw [buildEntries, List.map_cons, ih hrest]
    -- The usage taken out for the first record is not missed by any other.
    refine congrArg _ (List.map_congr_left fun other hother => ?_)
    have hne : r.id ≠ other.id := fun heq => hfirst (heq ▸ List.mem_map_of_mem hother)
    rw [UsageMap.get?_erase hne]

theorem url_buildEntries (records : List Record) (usage : UsageMap) :
    (buildEntries records usage).map Entry.url = records.map Record.url := by
  induction records generalizing usage with
  | nil => rfl
  | cons r records ih =>
    rw [buildEntries, List.map_cons, List.map_cons, ih]
    rfl

end PageCoverage
