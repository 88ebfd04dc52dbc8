import MetricConsole.Proofs.Cache.History
import MetricConsole.Proofs.Cache.Keys

/-!
# What several invalidations come to

Several invalidations are carried out one after the other, the later ones on entries that the
earlier ones have changed, and in whatever order the entries are kept.  All the same they come to
one sweep over the entries, which expires those that one of them matches.  So neither the order nor
the repetition of the invalidations matters to the entries, nor how they are divided among several
calls; what the order decides is only in which order the keys are given back.

* `Cache.invalidateAll_entries`: the sweep.
* `Cache.Reordered`: a cache with the same entries, kept in another order.
* `Cache.Keyed.pairwise_firstMatch`: the keys come back by the invalidation that met them first.
* `Cache.Run.invalidateAll_exact`: what is given back and what is left, for every order.
-/

namespace MetricConsole

namespace Cache

variable {c d : Cache}

/-! ## The sweep -/

/-- An entry with its key, expired if one of the invalidations matches. -/
def sweep (is : List Invalidation) (e : QueryKey × CacheEntry) : QueryKey × CacheEntry :=
  if is.any (·.matches e.1) then (e.1, e.2.expire) else e

theorem sweep_nil : sweep [] = id := rfl

@[simp]
theorem sweep_fst (is : List Invalidation) (e : QueryKey × CacheEntry) : (sweep is e).1 = e.1 := by
  unfold sweep
  split <;> rfl

@[simp]
theorem sweep_observers (is : List Invalidation) (e : QueryKey × CacheEntry) :
    (sweep is e).2.observers = e.2.observers := by
  unfold sweep
  split <;> rfl

/-- Sweeping an entry that was swept before is sweeping it once with all the invalidations. -/
theorem sweep_sweep (is js : List Invalidation) (e : QueryKey × CacheEntry) :
    sweep js (sweep is e) = sweep (is ++ js) e := by
  cases earlier : is.any (·.matches e.1) <;> cases later : js.any (·.matches e.1) <;>
    simp [sweep, earlier, later, CacheEntry.expire]

/-- Only which invalidations there are matters to a sweep. -/
theorem sweep_congr {is js : List Invalidation} (same : ∀ i, i ∈ is ↔ i ∈ js) :
    sweep is = sweep js := by
  funext e
  have hit : is.any (·.matches e.1) = js.any (·.matches e.1) := by
    rw [Bool.eq_iff_iff]
    simp only [List.any_eq_true, same]
  simp only [sweep, hit]

/-- Invalidations sweep the entries once. -/
theorem invalidateAll_entries (c : Cache) (is : List Invalidation) :
    (c.invalidateAll is).2.entries = c.entries.map (sweep is) := by
  induction is using List.reverseRecOn with
  | nil => simp [invalidateAll, sweep_nil]
  | append_singleton is i ih =>
    have last : (c.invalidateAll (is ++ [i])).2.entries =
        (c.invalidateAll is).2.entries.map (sweep [i]) := by
      simp [invalidateAll_concat, invalidate, sweep]
    rw [last, ih, List.map_map]
    exact List.map_congr_left fun e _ => sweep_sweep is [i] e

/-- A cache is its entries and its counter. -/
theorem eq_of_entries (entries : c.entries = d.entries) (started : c.started = d.started) :
    c = d := by
  cases c
  cases d
  simp_all

theorem invalidateAll_congr {is js : List Invalidation} (same : ∀ i, i ∈ is ↔ i ∈ js) :
    (c.invalidateAll is).2 = (c.invalidateAll js).2 :=
  eq_of_entries (by simp only [invalidateAll_entries, sweep_congr same]) (by simp)

theorem invalidateAll_append (c : Cache) (is js : List Invalidation) :
    ((c.invalidateAll is).2.invalidateAll js).2 = (c.invalidateAll (is ++ js)).2 := by
  refine eq_of_entries ?_ (by simp)
  simp only [invalidateAll_entries, List.map_map]
  exact List.map_congr_left fun e _ => sweep_sweep is js e

/-! ## Another order of the entries -/

/-- The same entries and the same counter, the entries kept in another order. -/
structure Reordered (c d : Cache) : Prop where
  entries : c.entries.Perm d.entries
  started : c.started = d.started

namespace Reordered

theorem symm (same : Reordered c d) : Reordered d c := ⟨same.entries.symm, same.started.symm⟩

theorem keyed (same : Reordered c d) (keyed : Keyed d) : Keyed c :=
  (same.entries.map Prod.fst).nodup_iff.mpr keyed

/-- What is found does not depend on the order. -/
theorem find?_eq (same : Reordered c d) (keyed : Keyed d) (k : QueryKey) :
    c.find? k = d.find? k := by
  have found {a b : Cache} (same : Reordered a b) (keyed : Keyed b) {e : CacheEntry}
      (present : a.find? k = some e) : b.find? k = some e := by
    obtain ⟨before, after, split, -⟩ := List.lookup_eq_some_iff.mp present
    have mem : (k, e) ∈ a.entries := by simp [split]
    exact lookup_of_mem keyed (same.entries.mem_iff.mp mem)
  refine Option.ext fun e => ⟨found same keyed, found same.symm (same.keyed keyed)⟩

theorem get_eq (same : Reordered c d) (keyed : Keyed d) (k : QueryKey) : c.get k = d.get k := by
  simp only [Cache.get, same.find?_eq keyed k]

theorem invalidateAll (same : Reordered c d) (is : List Invalidation) :
    Reordered (c.invalidateAll is).2 (d.invalidateAll is).2 where
  entries := by
    simp only [invalidateAll_entries]
    exact same.entries.map _
  started := by simpa using same.started

end Reordered

/-! ## The keys given back -/

/-- The keys of the entries, each with the number of those who look at it. -/
def lookers (c : Cache) : List (QueryKey × Nat) := c.entries.map fun e => (e.1, e.2.observers)

/-- Which keys an invalidation gives back is decided by who looks at them. -/
theorem invalidate_fst (c : Cache) (i : Invalidation) :
    (c.invalidate i).1 =
      (c.lookers.filter fun l => i.matches l.1 && decide (0 < l.2)).map Prod.fst := by
  simp only [invalidate, lookers, List.filter_map, List.map_map, List.filter_filter]
  exact congrArg _ (List.filter_congr fun e _ => Bool.and_comm ..)

theorem lookers_invalidateAll (c : Cache) (is : List Invalidation) :
    (c.invalidateAll is).2.lookers = c.lookers := by
  simp only [lookers, invalidateAll_entries, List.map_map]
  exact List.map_congr_left fun e _ => by simp

/-- So invalidations never change what other invalidations give back. -/
theorem invalidateAll_fst_congr (same : c.lookers = d.lookers) (is : List Invalidation) :
    (c.invalidateAll is).1 = (d.invalidateAll is).1 := by
  induction is using List.reverseRecOn with
  | nil => rfl
  | append_singleton is i ih =>
    simp only [invalidateAll_concat, ih, invalidate_fst, lookers_invalidateAll, same]

/-- Which of the invalidations is the first one that matches the key. -/
def firstMatch (is : List Invalidation) (k : QueryKey) : Nat := is.findIdx (·.matches k)

theorem appendNew_eq_append (seen new : List QueryKey) :
    ∃ fresh, appendNew seen new = seen ++ fresh ∧ ∀ k ∈ fresh, k ∈ new ∧ k ∉ seen := by
  induction new generalizing seen with
  | nil => exact ⟨[], by simp [appendNew], by simp⟩
  | cons k new ih =>
    have step : appendNew seen (k :: new) =
        appendNew (if k ∈ seen then seen else seen ++ [k]) new := rfl
    rw [step]
    split
    · obtain ⟨fresh, appended, only⟩ := ih seen
      exact ⟨fresh, appended, fun q mem => (only q mem).imp_left (List.mem_cons_of_mem k)⟩
    · next unseen =>
      obtain ⟨fresh, appended, only⟩ := ih (seen ++ [k])
      refine ⟨k :: fresh, by simp [appended], fun q mem => ?_⟩
      rcases List.mem_cons.mp mem with rfl | mem
      · exact ⟨List.mem_cons_self, unseen⟩
      · have later := only q mem
        exact ⟨List.mem_cons_of_mem k later.1, fun old => later.2 (by simp [old])⟩

/-- The keys come back in the order of the invalidations that met them first. -/
theorem Keyed.pairwise_firstMatch (keyed : Keyed c) (is : List Invalidation) :
    (c.invalidateAll is).1.Pairwise fun k q => firstMatch is k ≤ firstMatch is q := by
  induction is using List.reverseRecOn with
  | nil => exact .nil
  | append_singleton is i ih =>
    obtain ⟨fresh, keys, new⟩ := appendNew_eq_append (c.invalidateAll is).1
      ((c.invalidateAll is).2.invalidate i).1
    -- a key that was met before is met where it was, and a new one is met at the end
    have met : ∀ k ∈ (c.invalidateAll is).1, firstMatch (is ++ [i]) k = firstMatch is k ∧
        firstMatch is k < is.length := fun k mem => by
      obtain ⟨hit, -⟩ := (keyed.mem_invalidateAll_iff is k).mp mem
      have early : firstMatch is k < is.length :=
        List.findIdx_lt_length.mpr (List.any_eq_true.mp hit)
      exact ⟨(List.findIdx_append ..).trans (if_pos early), early⟩
    have last : ∀ k ∈ fresh, firstMatch (is ++ [i]) k = is.length := fun k mem => by
      obtain ⟨given, unseen⟩ := new k mem
      obtain ⟨hit, seen⟩ := ((keyed.invalidateAll is).mem_invalidate_iff i k).mp given
      rw [observers_invalidateAll] at seen
      have miss : ¬ is.any (·.matches k) = true := fun hit =>
        unseen ((keyed.mem_invalidateAll_iff is k).mpr ⟨hit, seen⟩)
      have late : ¬ is.findIdx (·.matches k) < is.length := fun early =>
        miss (List.any_eq_true.mpr (List.findIdx_lt_length.mp early))
      have single : [i].findIdx (·.matches k) = 0 := by simp [List.findIdx_cons, hit]
      exact (List.findIdx_append ..).trans ((if_neg late).trans (by rw [single, Nat.zero_add]))
    rw [invalidateAll_concat]
    simp only [keys]
    refine List.pairwise_append.mpr ⟨ih.imp_of_mem fun mem mem' le => ?_, ?_, ?_⟩
    · rwa [(met _ mem).1, (met _ mem').1]
    · refine List.pairwise_of_forall_mem_list fun k mem q mem' => ?_
      exact Nat.le_of_eq ((last k mem).trans (last q mem').symm)
    · intro k mem q mem'
      rw [(met k mem).1, last q mem']
      exact Nat.le_of_lt (met k mem).2

/-! ## Several calls -/

/-- Lists of invalidations one after the other, and the keys that they give back together. -/
def invalidateInTurn (c : Cache) (parts : List (List Invalidation)) : List QueryKey × Cache :=
  parts.foldl (fun r is => let (ks, c) := r.2.invalidateAll is; (r.1 ++ ks, c)) ([], c)

theorem invalidateInTurn_concat (c : Cache) (parts : List (List Invalidation))
    (is : List Invalidation) :
    c.invalidateInTurn (parts ++ [is]) =
      ((c.invalidateInTurn parts).1 ++ ((c.invalidateInTurn parts).2.invalidateAll is).1,
        ((c.invalidateInTurn parts).2.invalidateAll is).2) := by
  simp [invalidateInTurn, List.foldl_append]

/-- Several calls leave what one call with all the invalidations leaves. -/
theorem invalidateInTurn_snd (c : Cache) (parts : List (List Invalidation)) :
    (c.invalidateInTurn parts).2 = (c.invalidateAll parts.flatten).2 := by
  induction parts using List.reverseRecOn with
  | nil => rfl
  | append_singleton parts is ih =>
    rw [invalidateInTurn_concat, ih, invalidateAll_append, List.flatten_append,
      List.flatten_singleton]

/-- Several calls give back the keys that one call with all the invalidations gives back. -/
theorem Keyed.mem_invalidateInTurn_iff (keyed : Keyed c) (parts : List (List Invalidation))
    (k : QueryKey) :
    k ∈ (c.invalidateInTurn parts).1 ↔ k ∈ (c.invalidateAll parts.flatten).1 := by
  induction parts using List.reverseRecOn with
  | nil => rfl
  | append_singleton parts is ih =>
    have swept := keyed.invalidateAll parts.flatten
    rw [invalidateInTurn_concat, List.mem_append, ih, invalidateInTurn_snd,
      swept.mem_invalidateAll_iff, observers_invalidateAll, keyed.mem_invalidateAll_iff,
      keyed.mem_invalidateAll_iff, List.flatten_append, List.flatten_singleton, List.any_append,
      Bool.or_eq_true, or_and_right]

/-! ## Reachable caches -/

theorem Run.keyed {h : List CacheEvent} (run : Run h c) : Keyed c := by
  induction run with
  | empty => exact keyed_empty
  | step _ step ih =>
    cases step with
    | fetch k =>
      obtain ⟨id, -, read⟩ | ⟨-, -, read⟩ | ⟨-, -, read⟩ := beginFetch_cases _ k
      · rwa [read]
      · rwa [read]
      · rw [read]
        exact ih.begun k
    | complete t r => exact ih.complete t r
    | invalidate i => exact ih.invalidate i
    | invalidateAll is => exact ih.invalidateAll is
    | observe k => exact ih.observe k
    | unobserve k => exact ih.unobserve k

/-- **Invalidations are exact, and their order is free.**  Let the entries of a reachable cache be
kept in any order.  Invalidations give back each key that one of them matches and somebody looks at,
once, by the invalidation that met it first; they expire the entries that one of them matches and
leave everything else.  The same invalidations in another order, with repetitions, divided among
several calls, and on entries that are kept in another order, leave the same entries and give back
the same keys; and a second time they change nothing and give back the same keys in the same
order. -/
theorem Run.invalidateAll_exact {h : List CacheEvent} {c₀ : Cache} (run : Run h c₀)
    (same : c.Reordered c₀) (is : List Invalidation) :
    let keys := (c.invalidateAll is).1
    let swept := (c.invalidateAll is).2
    keys.Nodup ∧
      (∀ k, k ∈ keys ↔ is.any (·.matches k) = true ∧ 0 < (c.get k).observers) ∧
      keys.Pairwise (fun k q => firstMatch is k ≤ firstMatch is q) ∧
      (∀ k, swept.find? k = (c.find? k).map fun e =>
        if is.any (·.matches k) then { e with stale := true, inFlight := none } else e) ∧
      swept.started = c.started ∧
      (∀ (d : Cache) (parts : List (List Invalidation)), d.Reordered c →
        (∀ i, i ∈ parts.flatten ↔ i ∈ is) →
        (d.invalidateInTurn parts).2.Reordered swept ∧
          ∀ k, k ∈ (d.invalidateInTurn parts).1 ↔ k ∈ keys) ∧
      swept.invalidateAll is = (keys, swept) := by
  intro keys swept
  have keyed : Keyed c := same.keyed run.keyed
  refine ⟨c.nodup_invalidateAll is, keyed.mem_invalidateAll_iff is, keyed.pairwise_firstMatch is,
    c.find?_invalidateAll is, c.invalidateAll_started is, fun d parts other members => ⟨?_, ?_⟩, ?_⟩
  · rw [invalidateInTurn_snd, invalidateAll_congr members]
    exact other.invalidateAll is
  · intro k
    have hit : parts.flatten.any (·.matches k) = is.any (·.matches k) := by
      rw [Bool.eq_iff_iff]
      simp only [List.any_eq_true, members]
    rw [(other.keyed keyed).mem_invalidateInTurn_iff, (other.keyed keyed).mem_invalidateAll_iff,
      hit, other.get_eq keyed]
    exact (keyed.mem_invalidateAll_iff is k).symm
  · refine Prod.ext ?_ ?_
    · exact invalidateAll_fst_congr (c.lookers_invalidateAll is) is
    · rw [invalidateAll_append]
      exact invalidateAll_congr (by simp)

/-- Somebody looks at metric 7 and at the list, and the entry of the list is kept first.  Rules that
overlap give metric 7 back before the list and once; the same rules in two calls, the other way
round and with one of them twice, leave the same entries. -/
theorem Run.invalidateAll_exact_overlapping :
    let detail : QueryKey := .metricDetail 7
    let list : QueryKey := .metricList ⟨some "gmv", none, none⟩
    let h : List CacheEvent :=
      [.observed detail, .fetched detail (.start ⟨detail, 1⟩),
        .completed ⟨detail, 1⟩ (.ok .null) true, .observed list,
        .fetched list (.start ⟨list, 2⟩)]
    let c₀ : Cache :=
      ⟨[(detail, ⟨some .null, none, false, none, 1⟩), (list, ⟨none, none, false, some 2, 1⟩)], 2⟩
    let c : Cache :=
      ⟨[(list, ⟨none, none, false, some 2, 1⟩), (detail, ⟨some .null, none, false, none, 1⟩)], 2⟩
    let is : List Invalidation := [.key detail, .resource .metricList, .resource .metricDetail]
    let parts : List (List Invalidation) :=
      [[.resource .metricList, .resource .metricDetail], [.key detail, .resource .metricList]]
    Run h c₀ ∧ c.Reordered c₀ ∧ (∀ i, i ∈ parts.flatten ↔ i ∈ is) ∧
      (c.invalidateAll is).1 = [detail, list] ∧ (c.invalidateAll is).1.Nodup ∧
      (c.invalidateAll is).2.find? list = some ⟨none, none, true, none, 1⟩ ∧
      (c₀.invalidateInTurn parts).1 = [list, detail, detail, list] ∧
      (c₀.invalidateInTurn parts).2.Reordered (c.invalidateAll is).2 ∧
      (c.invalidateAll is).2.invalidateAll is = c.invalidateAll is := by
  intro detail list h c₀ c is parts
  have run : Run h c₀ :=
    ((((Run.empty.step (.observe _ detail)).step (.fetch _ detail)).step
      (.complete _ ⟨detail, 1⟩ (.ok .null))).step (.observe _ list)).step (.fetch _ list)
  have same : c.Reordered c₀ := ⟨.swap .., rfl⟩
  have members : ∀ i, i ∈ parts.flatten ↔ i ∈ is := by
    intro i
    simp only [parts, is, List.flatten_cons, List.flatten_nil, List.mem_append, List.mem_cons,
      List.not_mem_nil, or_false]
    tauto
  obtain ⟨nodup, -, -, found, -, free, again⟩ := run.invalidateAll_exact same is
  exact ⟨run, same, members, by decide, nodup, found list, by decide,
    (free c₀ parts same.symm members).1, again⟩

end Cache

end MetricConsole
