import PageCoverage.Proofs.Cache.Latest

namespace PageCoverage

namespace Cache

/-- A call of a cache. -/
inductive Act where
  | beginSession
  | openUp
  | close
  | reset
  | insert (generation : UInt64) (r : Record)
  | acceptingGeneration
  | takeRecords

def perform (c : Cache) : Act → Cache
  | .beginSession => c.beginSession
  | .openUp => c.openUp
  | .close => c.close
  | .reset => c.reset.2
  | .insert generation r => (c.insert generation r).2
  | .acceptingGeneration => c
  | .takeRecords => c.takeRecords.2

/-- A new cache after a history, which has the latest act first. -/
def run : List Act → Cache
  | [] => {}
  | a :: h => (run h).perform a

/-- The acts that wipe a cache. A reset does so if its answer is true. -/
def wipes (c : Cache) : Act → Bool
  | .beginSession | .takeRecords => true
  | .reset => c.reset.1
  | _ => false

/-- The record of an insert whose answer is true. -/
def stored? (c : Cache) : Act → Option Record
  | .insert generation r => if (c.insert generation r).1 then some r else none
  | _ => none

/-- The records that have been put in since the last wipe, in order. -/
def standing : List Act → List Record
  | [] => []
  | a :: h => if (run h).wipes a then [] else standing h ++ ((run h).stored? a).toList

/-- The ids of the index are those of the records, the latest first. -/
def Keyed (c : Cache) : Prop := c.index.map Prod.fst = (c.records.map Record.id).reverse

theorem keyed_put {c : Cache} (h : c.Indexed) (keyed : c.Keyed) (r : Record) : (c.put r).Keyed := by
  rw [Keyed] at keyed ⊢
  cases hi : c.slot? r.id with
  | some i =>
    rw [put_of_slot hi, map_id_set h hi]
    exact keyed
  | none =>
    rw [put_of_no_slot hi, List.map_cons, keyed, List.map_append, List.reverse_append]
    rfl

/-- A cache is a map of the records put in: it finds them by id and has the latest of each id. -/
structure Maps (c : Cache) (taken : List Record) : Prop where
  indexed : c.Indexed
  keyed : c.Keyed
  latest : Latest taken c.records

variable {c : Cache} {taken : List Record}

theorem Maps.of_same {d : Cache} (m : c.Maps taken) (hrecords : d.records = c.records)
    (hindex : d.index = c.index) : d.Maps taken := by
  constructor
  · intro id i
    rw [slot?, hindex, hrecords]
    exact m.indexed id i
  · rw [Keyed, hindex, hrecords]
    exact m.keyed
  · rw [hrecords]
    exact m.latest

theorem maps_of_empty (hrecords : c.records = []) (hindex : c.index = []) : c.Maps [] :=
  Maps.of_same ⟨indexed_clear {}, rfl, latest_nil⟩ hrecords hindex

theorem Maps.put (m : c.Maps taken) (r : Record) : (c.put r).Maps (taken ++ [r]) :=
  ⟨indexed_put m.indexed r, keyed_put m.indexed m.keyed r, latest_put m.indexed m.latest r⟩

theorem reset_cases (c : Cache) : c.reset = (true, c.clear.advance) ∨ c.reset = (false, c) := by
  rw [reset]
  split
  · exact .inl rfl
  · exact .inr rfl

theorem Maps.perform (m : c.Maps taken) (a : Act) :
    (c.perform a).Maps (if c.wipes a then [] else taken ++ (c.stored? a).toList) := by
  have kept : c.Maps (taken ++ []) := by rwa [List.append_nil]
  cases a with
  | beginSession => exact maps_of_empty rfl rfl
  | openUp => exact kept.of_same rfl rfl
  | close => exact kept.of_same rfl rfl
  | reset =>
    obtain hreset | hreset := c.reset_cases
    · have hwipes : c.wipes .reset = true := congrArg Prod.fst hreset
      have hperform : c.perform .reset = c.clear.advance := congrArg Prod.snd hreset
      rw [if_pos hwipes, hperform]
      exact maps_of_empty rfl rfl
    · have hwipes : c.wipes .reset = false := congrArg Prod.fst hreset
      have hperform : c.perform .reset = c := congrArg Prod.snd hreset
      rw [if_neg (Bool.eq_false_iff.mp hwipes), hperform]
      exact kept
  | insert generation r =>
    obtain hinsert | hinsert := c.insert_cases generation r
    · have hstored : c.stored? (.insert generation r) = some r := if_pos (congrArg Prod.fst hinsert)
      have hperform : c.perform (.insert generation r) = c.put r := congrArg Prod.snd hinsert
      rw [hstored, hperform]
      exact m.put r
    · have hstored : c.stored? (.insert generation r) = none := if_neg (by simp [hinsert])
      have hperform : c.perform (.insert generation r) = c := congrArg Prod.snd hinsert
      rw [hstored, hperform]
      exact kept
  | acceptingGeneration => exact kept
  | takeRecords => exact maps_of_empty rfl rfl

theorem maps_run (h : List Act) : (run h).Maps (standing h) := by
  induction h with
  | nil => exact maps_of_empty rfl rfl
  | cons a h ih => exact ih.perform a

theorem Maps.length_index (m : c.Maps taken) : c.index.length = c.records.length := by
  have hlength := congrArg List.length m.keyed
  rwa [List.length_map, List.length_reverse, List.length_map] at hlength

theorem Maps.nodup_keys (m : c.Maps taken) : (c.index.map Prod.fst).Nodup := by
  rw [m.keyed, List.nodup_reverse]
  exact nodup_ids m.indexed

theorem Maps.slot_lt (m : c.Maps taken) {id : ResourceId} {i : Nat} (hi : c.slot? id = some i) :
    i < c.records.length := by
  obtain ⟨r, hr, -⟩ := Option.map_eq_some_iff.mp ((m.indexed id i).mp hi)
  exact (List.getElem?_eq_some_iff.mp hr).1

/-- A cache is an ordered map behind every history: the index has one entry for each record and finds each record
where it stands, and the records are the latest of each id among those put in since the last wipe. An insert that is
refused leaves no trace. -/
theorem run_is_ordered_map (h : List Act) :
    ((run h).index.length = (run h).records.length ∧ ((run h).index.map Prod.fst).Nodup) ∧
      (∀ id i, (run h).slot? id = some i ↔ ((run h).records[i]?).map Record.id = some id) ∧
      ((run h).records.map Record.id).Nodup ∧
      (∀ id i, (run h).slot? id = some i → i < (run h).records.length) ∧
      Latest (standing h) (run h).records ∧
      ∀ generation r, ((run h).insert generation r).1 = true ∨ ((run h).insert generation r).2 = run h := by
  have m := maps_run h
  refine ⟨⟨m.length_index, m.nodup_keys⟩, m.indexed, nodup_ids m.indexed, fun _ _ => m.slot_lt, m.latest,
    fun generation r => ?_⟩
  obtain hinsert | hinsert := (run h).insert_cases generation r
  · exact .inl (congrArg Prod.fst hinsert)
  · exact .inr (congrArg Prod.snd hinsert)

/-- A record that comes again takes the place of the first one, and one from before the reset is refused. -/
example :
    let first : Record := ⟨⟨"b"⟩, "b.js", "1"⟩
    let second : Record := ⟨⟨"a"⟩, "a.js", "2"⟩
    let again : Record := ⟨⟨"b"⟩, "b.js", "3"⟩
    (run [.insert 1 first, .insert 2 again, .insert 2 second, .insert 2 first, .reset, .insert 1 second, .openUp,
      .beginSession]).records = [again, second] := by
  decide

end Cache

end PageCoverage
