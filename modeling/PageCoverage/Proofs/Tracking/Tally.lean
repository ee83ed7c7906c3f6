import PageCoverage.Proofs.Cache.Latest
import PageCoverage.Proofs.Tracking.Watched
import Mathlib.Data.List.Forall2
import Mathlib.Data.List.InsertIdx

namespace PageCoverage

namespace Occurrence

section

variable {K : Type} [Strategy K] {options : K} {events : List Event} {h : List Occurrence}

/-- No fetch has been outlived by so many generations that their count has come round. -/
def Young (h : List Occurrence) : Prop := ∀ n age r, .fetch n age r ∈ h → age < UInt64.size

/-- The fetches of this session were begun for events that have been handled. -/
def Placed (h : List Occurrence) : Prop := ∀ n age r, .fetch (some n) age r ∈ h → n < (handled h).length

theorem Young.of_concat {x : Occurrence} (young : Young (h ++ [x])) : Young h :=
  fun n age r hmem => young n age r (List.mem_append_left _ hmem)

theorem Placed.concat {x : Occurrence} (placed : Placed h)
    (hx : ∀ n age r, x = .fetch (some n) age r → n < (handled h).length) : Placed (h ++ [x]) := by
  intro n age r hmem
  rw [handled_append, List.length_append]
  rcases List.mem_append.mp hmem with hmem | hmem
  · exact Nat.lt_add_right _ (placed n age r hmem)
  · exact Nat.lt_add_right _ (hx n age r (List.mem_singleton.mp hmem).symm)

theorem isClose_iff {x : Occurrence} : x.isClose = true ↔ x = .close := by
  cases x <;> simp [isClose]

theorem beforeClose_append_of_open (hopen : .close ∉ h) (g : List Occurrence) :
    beforeClose (h ++ g) = h ++ beforeClose g := by
  refine List.takeWhile_append_of_pos fun x hx => ?_
  rw [Bool.not_eq_true', ← Bool.not_eq_true, isClose_iff]
  exact fun heq => hopen (heq ▸ hx)

theorem beforeClose_append_of_closed (hclosed : .close ∈ h) (g : List Occurrence) :
    beforeClose (h ++ g) = beforeClose h := by
  obtain ⟨before, after, rfl⟩ := List.append_of_mem hclosed
  induction before with
  | nil => rfl
  | cons x before ih =>
    have htail := ih (by simp)
    simp only [beforeClose, List.cons_append, List.takeWhile_cons] at htail ⊢
    rw [htail]

theorem standing_concat {place : Nat} (hplace : place < events.length) (e : Event) :
    Standing options (events ++ [e]) place ↔ Standing options events place ∧
      (Strategy.resetOnNavigation options = true → e.method ≠ Event.executionContextsCleared) := by
  rw [Standing, Standing, List.drop_append_of_le_length hplace, ← forall_and]
  simp only [List.forall_mem_append, List.forall_mem_singleton]

theorem standing_last (e : Event) : Standing options (events ++ [e]) events.length := by
  intro _ x hx
  simp at hx

/-- What a fetch gives does not change with an event that is no reset. -/
theorem record?_concat {x : Occurrence} {e : Event}
    (place : ∀ n age r, x = .fetch (some n) age r → n < events.length)
    (noReset : Strategy.resetOnNavigation options = true → e.method ≠ Event.executionContextsCleared) :
    record? options (events ++ [e]) x = record? options events x := by
  cases x with
  | fetch n age r =>
    cases n with
    | none => rfl
    | some n =>
      cases r with
      | error error => rfl
      | ok source =>
        have hn := place n age (.ok source) rfl
        have hstanding : Standing options (events ++ [e]) n ↔ Standing options events n := by
          rw [standing_concat hn]
          exact and_iff_left noReset
        simp only [record?, hstanding, List.getElem?_append_left hn]
  | _ => rfl

theorem record?_of_not_standing {place : Option Nat} {age : Nat} {r : Except CoverageError String}
    (h : ∀ n, place = some n → ¬Standing options events n) :
    record? options events (.fetch place age r) = none := by
  cases place with
  | none => rfl
  | some n =>
    cases r with
    | error error => rfl
    | ok source => exact if_neg (h n rfl)

/-- No fetch gives anything once a reset has come behind it. -/
theorem record?_reset {x : Occurrence} {e : Event}
    (place : ∀ n age r, x = .fetch (some n) age r → n < events.length)
    (reset : Strategy.resetOnNavigation options = true)
    (cleared : e.method = Event.executionContextsCleared) : record? options (events ++ [e]) x = none := by
  cases x with
  | fetch n age r =>
    refine record?_of_not_standing fun n hn hstanding => ?_
    subst hn
    rw [standing_concat (place n age r rfl)] at hstanding
    exact hstanding.2 reset cleared
  | _ => rfl

theorem mem_collected_iff {r : Record} :
    r ∈ collected options h ↔
      ∃ n e res age source, (handled h)[n]? = some e ∧ Strategy.admitted? options e = some res ∧
        Standing options (handled h) n ∧ .fetch (some n) age (.ok source) ∈ beforeClose h ∧
        r = ⟨res.id, res.url, source⟩ := by
  rw [collected, List.mem_filterMap]
  constructor
  · rintro ⟨x, hx, hr⟩
    unfold record? at hr
    split at hr
    next n age source =>
      split at hr
      next hstanding =>
        obtain ⟨res, hres, rfl⟩ := Option.map_eq_some_iff.mp hr
        obtain ⟨e, he, hadmitted⟩ := Option.bind_eq_some_iff.mp hres
        exact ⟨n, e, res, age, source, he, hadmitted, hstanding, hx, rfl⟩
      · cases hr
    · cases hr
  · rintro ⟨n, e, res, age, source, he, hadmitted, hstanding, hx, rfl⟩
    refine ⟨_, hx, ?_⟩
    rw [record?, if_pos hstanding, he, Option.bind_some, hadmitted, Option.map_some]

theorem handled_concat_of_none {x : Occurrence} (hx : x.handled? = none) : handled (h ++ [x]) = handled h := by
  simp [hx]

theorem handled_concat (e : Event) : handled (h ++ [.handle e]) = handled h ++ [e] := by
  simp [handled?]

theorem collected_of_open (hopen : .close ∉ h) :
    collected options h = h.filterMap (record? options (handled h)) := by
  have hself := beforeClose_append_of_open hopen []
  rw [List.append_nil] at hself
  rw [collected, hself]
  exact congrArg (List.filterMap _) (List.append_nil h)

theorem collected_concat_of_closed (hclosed : .close ∈ h) {x : Occurrence} (hx : x.handled? = none) :
    collected options (h ++ [x]) = collected options h := by
  rw [collected, collected, beforeClose_append_of_closed hclosed, handled_concat_of_none hx]

theorem collected_concat (hopen : .close ∉ h) {x : Occurrence} (hx : x.handled? = none) :
    collected options (h ++ [x]) = collected options h ++ (record? options (handled h) x).toList := by
  rw [collected_of_open hopen, collected, handled_concat_of_none hx, beforeClose_append_of_open hopen, List.filterMap_append]
  congr 1
  have hlast : (beforeClose [x]).filterMap (record? options (handled h)) =
      ([x] : List Occurrence).filterMap (record? options (handled h)) := by cases x <;> rfl
  rw [hlast, List.filterMap_cons]
  cases record? options (handled h) x <;> rfl

/-- What gives no record changes nothing, before or after the close. -/
theorem collected_concat_of_none {x : Occurrence} (hx : x.handled? = none)
    (hnone : record? options (handled h) x = none) : collected options (h ++ [x]) = collected options h := by
  by_cases hclosed : .close ∈ h
  · exact collected_concat_of_closed hclosed hx
  · rw [collected_concat hclosed hx, hnone]
    exact List.append_nil _

theorem collected_handle (hopen : .close ∉ h)
    (placed : Placed h) {e : Event}
    (noReset : Strategy.resetOnNavigation options = true → e.method ≠ Event.executionContextsCleared) :
    collected options (h ++ [.handle e]) = collected options h := by
  have hopen' : .close ∉ h ++ [.handle e] := by simp [hopen]
  have hold : h.filterMap (record? options (handled h ++ [e])) = h.filterMap (record? options (handled h)) :=
    List.filterMap_congr fun x hx => record?_concat (fun n age r heq => placed n age r (heq ▸ hx)) noReset
  rw [collected_of_open hopen', collected_of_open hopen, handled_concat, List.filterMap_append, hold]
  exact List.append_nil _

theorem collected_reset (hopen : .close ∉ h)
    (placed : Placed h) {e : Event}
    (reset : Strategy.resetOnNavigation options = true)
    (cleared : e.method = Event.executionContextsCleared) :
    collected options (h ++ [.handle e]) = [] := by
  have hopen' : .close ∉ h ++ [.handle e] := by simp [hopen]
  rw [collected_of_open hopen', handled_concat, List.filterMap_eq_nil_iff]
  intro x hx
  rcases List.mem_append.mp hx with hx | hx
  · exact record?_reset (fun n age r heq => placed n age r (heq ▸ hx)) reset cleared
  · rw [List.mem_singleton.mp hx]
    rfl

end

end Occurrence

theorem forall₂_getElem? {α β : Type} {R : α → β → Prop} {as : List α} {bs : List β} (h : List.Forall₂ R as bs)
    {i : Nat} {a : α} {b : β} (ha : as[i]? = some a) (hb : bs[i]? = some b) : R a b := by
  obtain ⟨hi, rfl⟩ := List.getElem?_eq_some_iff.mp ha
  obtain ⟨hj, rfl⟩ := List.getElem?_eq_some_iff.mp hb
  exact h.get hi hj

theorem forall₂_eraseIdx {α β : Type} {R : α → β → Prop} {as : List α} {bs : List β}
    (h : List.Forall₂ R as bs) (i : Nat) : List.Forall₂ R (as.eraseIdx i) (bs.eraseIdx i) := by
  rw [List.eraseIdx_eq_take_drop_succ, List.eraseIdx_eq_take_drop_succ]
  exact List.rel_append (List.forall₂_take i h) (List.forall₂_drop (i + 1) h)

/-- Two counts less than a full round apart are the same if they are the same in a word. -/
theorem ofNat_inj {a b : Nat} (hle : a ≤ b) (hlt : b - a < UInt64.size) (h : UInt64.ofNat a = UInt64.ofNat b) :
    a = b := by
  have hsize : UInt64.size = 0x10000000000000000 := rfl
  have := congrArg UInt64.toNat h
  simp only [UInt64.toNat_ofNat'] at this
  omega

/-- The generation of the cache and the stamps of the fetches under way are counts in a word. -/
structure Counted {K κ : Type} (cache : Cache) (fetches : List (Fetch K κ)) (errands : List Errand)
    (generations : Nat) : Prop where
  present : cache.generation = UInt64.ofNat generations
  stamped : fetches.map Fetch.generation = errands.map fun errand => UInt64.ofNat errand.since
  past : ∀ errand ∈ errands, errand.since ≤ generations

section Counted

variable {K κ : Type} {cache after : Cache} {fetches : List (Fetch K κ)} {errands : List Errand}
  {generations : Nat}

theorem Counted.length_eq (c : Counted cache fetches errands generations) :
    fetches.length = errands.length := by
  simpa using congrArg List.length c.stamped

theorem Counted.same (c : Counted cache fetches errands generations)
    (h : after.generation = cache.generation) : Counted after fetches errands generations :=
  ⟨h.trans c.present, c.stamped, c.past⟩

theorem Counted.next (c : Counted cache fetches errands generations)
    (h : after.generation = cache.generation + 1) : Counted after fetches errands (generations + 1) where
  present := by
    rw [h, c.present, UInt64.ofNat_add]
    rfl
  stamped := c.stamped
  past errand herrand := Nat.le_succ_of_le (c.past errand herrand)

theorem Counted.forget (c : Counted cache fetches errands generations) :
    Counted cache fetches (errands.map ({ · with place := none })) generations where
  present := c.present
  stamped := by
    rw [c.stamped, List.map_map]
    rfl
  past := by simpa using c.past

theorem Counted.concat (c : Counted cache fetches errands generations) {f : Fetch K κ} {errand : Errand}
    (stamp : f.generation = UInt64.ofNat errand.since) (past : errand.since ≤ generations) :
    Counted cache (fetches ++ [f]) (errands ++ [errand]) generations where
  present := c.present
  stamped := by simp [c.stamped, stamp]
  past := by
    intro e he
    rcases List.mem_append.mp he with he | he
    · exact c.past e he
    · rw [List.mem_singleton.mp he]
      exact past

theorem Counted.eraseIdx (c : Counted cache fetches errands generations) (i : Nat) :
    Counted cache (fetches.eraseIdx i) (errands.eraseIdx i) generations where
  present := c.present
  stamped := by rw [← List.eraseIdx_map, c.stamped, List.eraseIdx_map]
  past errand herrand := c.past errand (List.mem_of_mem_eraseIdx herrand)

theorem Counted.stamp (c : Counted cache fetches errands generations) {i : Nat} {f : Fetch K κ}
    {errand : Errand} (hf : fetches[i]? = some f) (herrand : errands[i]? = some errand) :
    f.generation = UInt64.ofNat errand.since := by
  have := congrArg (fun stamps => stamps[i]?) c.stamped
  simpa [hf, herrand] using this

end Counted

/-- How far a session has come. -/
inductive Tally.Stage where
  | starting
  | enabled
  | stopping

/-- What is known of a fetch in a session. If its errand belongs to the session, it fetches the registration
of its event; and until the stop, it carries the present generation exactly if that registration stands. -/
structure Errand.Fits {K κ : Type} [Strategy K] (options : K) (stage : Tally.Stage) (events : List Event)
    (generations : Nat) (f : Fetch K κ) (errand : Errand) : Prop where
  own : ∀ n, errand.place = some n →
    f.options = options ∧ (events[n]?).bind (Strategy.admitted? options) = some f.resource
  timely : stage ≠ .stopping →
    (errand.since = generations ↔ ∃ n, errand.place = some n ∧ Occurrence.Standing options events n)

open Occurrence

/-- The books of a session: what its cache and its fetches have to do with its history. -/
structure Tally {K κ : Type} [Strategy K] (options : K) (stage : Tally.Stage) (cache : Cache)
    (fetches : List (Fetch K κ)) (errands : List Errand) (generations : Nat) (h : List Occurrence) :
    Prop where
  indexed : cache.Indexed
  accepting : cache.accepting = true ↔ stage = .enabled
  closed : .close ∈ h ↔ stage = .stopping
  quiet : stage = .starting → handled h = []
  placed : Placed h
  fits : List.Forall₂ (Errand.Fits options stage (handled h) generations) fetches errands
  latest : Young h → Latest (collected options h) cache.records

section Fits

variable {K κ : Type} [Strategy K] {options : K} {stage : Tally.Stage} {events : List Event} {generations : Nat}
  {f : Fetch K κ} {errand : Errand}

theorem Errand.Fits.place_lt (fits : errand.Fits options stage events generations f) {n : Nat}
    (hn : errand.place = some n) : n < events.length := by
  obtain ⟨-, hbind⟩ := fits.own n hn
  obtain ⟨e, he, -⟩ := Option.bind_eq_some_iff.mp hbind
  exact (List.getElem?_eq_some_iff.mp he).1

theorem Errand.Fits.own_concat (fits : errand.Fits options stage events generations f) (e : Event) :
    ∀ n, errand.place = some n →
      f.options = options ∧ ((events ++ [e])[n]?).bind (Strategy.admitted? options) = some f.resource := by
  intro n hn
  rw [List.getElem?_append_left (fits.place_lt hn)]
  exact fits.own n hn

/-- An event that is no reset changes nothing for a fetch under way. -/
theorem Errand.Fits.concat (fits : errand.Fits options stage events generations f) {e : Event}
    (noReset : Strategy.resetOnNavigation options = true → e.method ≠ Event.executionContextsCleared) :
    errand.Fits options stage (events ++ [e]) generations f := by
  refine ⟨fits.own_concat e, fun hstage => (fits.timely hstage).trans (exists_congr fun n => ?_)⟩
  refine and_congr_right fun hn => ?_
  rw [standing_concat (fits.place_lt hn)]
  exact (and_iff_left noReset).symm

/-- A reset leaves every fetch under way behind. -/
theorem Errand.Fits.reset (fits : errand.Fits options stage events generations f)
    (past : errand.since ≤ generations) {e : Event}
    (reset : Strategy.resetOnNavigation options = true)
    (cleared : e.method = Event.executionContextsCleared) :
    errand.Fits options stage (events ++ [e]) (generations + 1) f := by
  refine ⟨fits.own_concat e, fun _ => ⟨fun hsince => by omega, ?_⟩⟩
  rintro ⟨n, hn, hstanding⟩
  rw [standing_concat (fits.place_lt hn)] at hstanding
  exact absurd cleared (hstanding.2 reset)

end Fits

namespace Tally

variable {K κ : Type} [Strategy K] {options : K} {stage : Tally.Stage} {cache : Cache} {fetches : List (Fetch K κ)}
  {errands : List Errand} {generations : Nat} {h : List Occurrence}

/-- A session begins with an empty cache, and no fetch under way belongs to it. -/
theorem beginSession (counted : Counted cache fetches errands generations) :
    Tally options .starting cache.beginSession fetches (errands.map ({ · with place := none }))
      (generations + 1) [] where
  indexed := Cache.indexed_clear cache
  accepting := by simp [Cache.beginSession]
  closed := by simp
  quiet _ := rfl
  placed := by simp [Placed]
  fits := by
    rw [List.forall₂_map_right_iff, List.forall₂_iff_get]
    refine ⟨counted.length_eq, fun i hf herrand => ⟨by simp, fun _ => ?_⟩⟩
    have := counted.past _ (List.get_mem errands ⟨i, herrand⟩)
    simp only [reduceCtorEq, false_and, exists_false, iff_false]
    omega
  latest _ := latest_nil

theorem openUp (t : Tally options .starting cache fetches errands generations h) :
    Tally options .enabled cache.openUp fetches errands generations h where
  indexed := t.indexed
  accepting := by simp [Cache.openUp]
  closed := by simp [t.closed]
  quiet := by simp
  placed := t.placed
  fits := t.fits.imp fun f errand fits => ⟨fits.own, fun _ => fits.timely (by simp)⟩
  latest := t.latest

theorem close (t : Tally options .enabled cache fetches errands generations h) :
    Tally options .stopping cache.close fetches errands (generations + 1) (h ++ [.close]) where
  indexed := t.indexed
  accepting := by simp [Cache.close]
  closed := by simp
  quiet := by simp
  placed := t.placed.concat (by simp)
  fits := by
    rw [handled_concat_of_none rfl]
    exact t.fits.imp fun f errand fits => ⟨fits.own, by simp⟩
  latest young := by
    rw [collected_concat_of_none rfl rfl]
    exact t.latest young.of_concat

theorem dispatch (t : Tally options stage cache fetches errands generations h) (e : Event) :
    Tally options stage cache fetches errands generations (h ++ [.dispatch e]) where
  indexed := t.indexed
  accepting := t.accepting
  closed := by simp [t.closed]
  quiet hstage := by rw [handled_concat_of_none rfl, t.quiet hstage]
  placed := t.placed.concat (by simp)
  fits := by
    rw [handled_concat_of_none rfl]
    exact t.fits
  latest young := by
    rw [collected_concat_of_none rfl rfl]
    exact t.latest young.of_concat

theorem not_closed (t : Tally options .enabled cache fetches errands generations h) : .close ∉ h := by
  simp [t.closed]

/-- An event that is no reset and begins no fetch changes nothing. -/
theorem ignore (t : Tally options .enabled cache fetches errands generations h) {e : Event}
    (noReset : Strategy.resetOnNavigation options = true → e.method ≠ Event.executionContextsCleared) :
    Tally options .enabled cache fetches errands generations (h ++ [.handle e]) where
  indexed := t.indexed
  accepting := t.accepting
  closed := by simp [t.closed]
  quiet := by simp
  placed := t.placed.concat (by simp)
  fits := by
    rw [handled_concat]
    exact t.fits.imp fun f errand fits => fits.concat noReset
  latest young := by
    rw [collected_handle t.not_closed t.placed noReset]
    exact t.latest young.of_concat

/-- An admitted registration begins a fetch of the present generation. -/
theorem register (t : Tally options .enabled cache fetches errands generations h) {e : Event}
    {f : Fetch K κ} (admitted : Strategy.admitted? options e = some f.resource) (own : f.options = options)
    (noReset : Strategy.resetOnNavigation options = true → e.method ≠ Event.executionContextsCleared) :
    Tally options .enabled cache (fetches ++ [f]) (errands ++ [⟨some (handled h).length, generations⟩])
      generations (h ++ [.handle e]) := by
  have hnew : Errand.Fits options .enabled (handled h ++ [e]) generations f
      ⟨some (handled h).length, generations⟩ := by
    refine ⟨?_, fun _ => iff_of_true rfl ⟨_, rfl, standing_last e⟩⟩
    rintro n hn
    cases hn
    simp [own, admitted]
  have told := t.ignore noReset
  refine { told with fits := List.rel_append told.fits (.cons ?_ .nil) }
  rwa [handled_concat]

/-- A reset empties the cache and leaves every fetch under way behind. -/
theorem reset (t : Tally options .enabled cache fetches errands generations h)
    (counted : Counted cache fetches errands generations) {e : Event}
    (reset : Strategy.resetOnNavigation options = true)
    (cleared : e.method = Event.executionContextsCleared) :
    Tally options .enabled cache.clear.advance fetches errands (generations + 1) (h ++ [.handle e]) where
  indexed := Cache.indexed_clear cache
  accepting := t.accepting
  closed := by simp [t.closed]
  quiet := by simp
  placed := t.placed.concat (by simp)
  fits := by
    rw [handled_concat]
    refine List.forall₂_iff_get.mpr ⟨t.fits.length_eq, fun i hf herrand => ?_⟩
    exact (t.fits.get hf herrand).reset (counted.past _ (List.get_mem errands ⟨i, herrand⟩)) reset cleared
  latest _ := by
    rw [collected_reset t.not_closed t.placed reset cleared]
    exact latest_nil

/-- A fetch that goes on waiting moves behind the others. -/
theorem wait (t : Tally options stage cache fetches errands generations h) {i : Nat} {f : Fetch K κ}
    {errand : Errand} (hf : fetches[i]? = some f) (herrand : errands[i]? = some errand)
    (request : Request κ) :
    Tally options stage cache (fetches.eraseIdx i ++ [{ f with request := request }])
      (errands.eraseIdx i ++ [errand]) generations h := by
  have fits := forall₂_getElem? t.fits hf herrand
  exact { t with fits := List.rel_append (forall₂_eraseIdx t.fits i) (.cons ⟨fits.own, fits.timely⟩ .nil) }

/-- The end of a fetch, whatever the cache takes from it. -/
theorem fetch_of_latest (t : Tally options stage cache fetches errands generations h) {i : Nat}
    {f : Fetch K κ} {errand : Errand} (hf : fetches[i]? = some f) (herrand : errands[i]? = some errand)
    {after : Cache} {age : Nat} {result : Except CoverageError String} (indexed : after.Indexed)
    (accepting : after.accepting = cache.accepting)
    (latest : Young (h ++ [.fetch errand.place age result]) →
      Latest (collected options (h ++ [.fetch errand.place age result])) after.records) :
    Tally options stage after (fetches.eraseIdx i) (errands.eraseIdx i) generations
      (h ++ [.fetch errand.place age result]) where
  indexed := indexed
  accepting := by rw [accepting, t.accepting]
  closed := by simp [t.closed]
  quiet hstage := by rw [handled_concat_of_none rfl, t.quiet hstage]
  placed := t.placed.concat fun n _ _ heq =>
    (forall₂_getElem? t.fits hf herrand).place_lt (Occurrence.fetch.inj heq).1
  fits := by
    rw [handled_concat_of_none rfl]
    exact forall₂_eraseIdx t.fits i
  latest := latest

theorem fetch_error (t : Tally options stage cache fetches errands generations h) {i : Nat}
    {f : Fetch K κ} {errand : Errand} (hf : fetches[i]? = some f) (herrand : errands[i]? = some errand)
    (e : CoverageError) :
    Tally options stage cache (fetches.eraseIdx i) (errands.eraseIdx i) generations
      (h ++ [.fetch errand.place (generations - errand.since) (.error e)]) := by
  refine t.fetch_of_latest hf herrand t.indexed rfl fun young => ?_
  rw [collected_concat_of_none rfl (by cases errand.place <;> rfl)]
  exact t.latest young.of_concat

/-- A source that comes is taken exactly if the session is enabled and its registration stands. -/
theorem fetch_source (t : Tally options stage cache fetches errands generations h) {i : Nat}
    {f : Fetch K κ} {errand : Errand} (hf : fetches[i]? = some f) (herrand : errands[i]? = some errand)
    (counted : Counted cache fetches errands generations) (source : String) :
    Tally options stage (cache.insert f.generation ⟨f.resource.id, f.resource.url, source⟩).2
      (fetches.eraseIdx i) (errands.eraseIdx i) generations
      (h ++ [.fetch errand.place (generations - errand.since) (.ok source)]) := by
  have fits := forall₂_getElem? t.fits hf herrand
  refine t.fetch_of_latest hf herrand (Cache.indexed_insert t.indexed _ _) (Cache.accepting_insert _ _ _)
    fun young => ?_
  have latest := t.latest young.of_concat
  have hage : generations - errand.since < UInt64.size := young errand.place _ (.ok source) (by simp)
  have hstamp := counted.stamp hf herrand
  have hpast := counted.past errand (List.mem_of_getElem? herrand)
  cases stage with
  | starting =>
    have hplace : errand.place = none := by
      cases hn : errand.place with
      | none => rfl
      | some n =>
        have := fits.place_lt hn
        simp [t.quiet rfl] at this
    have hclosed : cache.accepting = false := by simpa using t.accepting
    rw [Cache.insert_of_refused (Or.inl hclosed), hplace, collected_concat_of_none rfl rfl]
    exact latest
  | stopping =>
    have hclosed : cache.accepting = false := by simpa using t.accepting
    rw [Cache.insert_of_refused (Or.inl hclosed), collected_concat_of_closed (t.closed.mpr rfl) rfl]
    exact latest
  | enabled =>
    have hopen := t.accepting.mpr rfl
    have timely := fits.timely (by simp)
    rw [collected_concat t.not_closed rfl]
    by_cases hsince : errand.since = generations
    · obtain ⟨n, hn, hstanding⟩ := timely.mp hsince
      obtain ⟨-, hown⟩ := fits.own n hn
      rw [hstamp, hsince, ← counted.present, Cache.insert_of_present hopen, hn]
      simp only [record?, if_pos hstanding, hown, Option.map_some, Option.toList_some]
      exact Cache.latest_put t.indexed latest _
    · have hstale : f.generation ≠ cache.generation := by
        rw [hstamp, counted.present]
        exact fun heq => hsince (ofNat_inj hpast hage heq)
      have hnone : record? options (handled h)
          (.fetch errand.place (generations - errand.since) (.ok source)) = none :=
        record?_of_not_standing fun n hn hstanding => hsince (timely.mpr ⟨n, hn, hstanding⟩)
      rw [Cache.insert_of_refused (Or.inr hstale), hnone, Option.toList_none, List.append_nil]
      exact latest

end Tally

end PageCoverage
