import Mathlib.Data.List.Nodup
import MetricConsole.Proofs.Cache.Keys
import MetricConsole.Proofs.Client.Reach

/-!
# Hooks and observers

An entry counts who looks at its key, and only hooks look: in every reachable client the count of a
key is the number of hooks that hold it.  While a hook moves from one key to another the hooks and
the counts disagree for a moment, so the counts are compared with a list of slots of its own.

* `Client.Tally`: the hooks are these, and the entries count those slots.
* `Client.lookup_split`: what a change of one hook does to the list of hooks.
* `Client.Reachable.counted`: the entries of a reachable client count its hooks.
* `Client.Counted.observed_iff`: somebody looks at a key exactly if a hook holds it.
* `Client.Counted.observers_swap` and `Client.Counted.observers_unmount`: what a change of one hook
  does to the counts, written as sums so that no count is cut off at zero.
* `Client.Reachable.observer_accounting`: all of this holds of every reachable client.
-/

namespace MetricConsole

namespace Client

variable {ι ω : Type} {hooks : List (ι × Option QueryKey)} {slots : List (Option QueryKey)}

/-! ## What is done with a slot -/

/-- How often a slot counts for a key. -/
def weight (slot : Option QueryKey) (k : QueryKey) : Nat := if slot = some k then 1 else 0

theorem hooks_fetch (c : Client ι ω) (k : QueryKey) : (c.fetch k).hooks = c.hooks := by
  obtain ⟨-, same⟩ | ⟨-, -, start⟩ := c.fetch_cases k
  · rw [same]
  · rw [start]

theorem observers_fetch (c : Client ι ω) (q k : QueryKey) :
    ((c.fetch q).cache.get k).observers = (c.cache.get k).observers := by
  obtain ⟨-, same⟩ | ⟨-, -, start⟩ := c.fetch_cases q
  · rw [same]
  · rw [start]
    by_cases key : k = q
    · simp [key]
    · simp [Cache.get_begun_of_ne c.cache key]

theorem observers_acquire (c : Client ι ω) (slot : Option QueryKey) (k : QueryKey) :
    ((c.acquire slot).cache.get k).observers = (c.cache.get k).observers + weight slot k := by
  cases slot with
  | none => rfl
  | some q =>
    change (((c.observe q).fetch q).cache.get k).observers = _
    rw [observers_fetch]
    change ((c.cache.observe q).get k).observers = _
    rw [Cache.get_observe]
    by_cases key : k = q
    · simp [weight, key]
    · simp [weight, key, Ne.symm key]

theorem observers_release (c : Client ι ω) (slot : Option QueryKey) (k : QueryKey) :
    ((c.release slot).cache.get k).observers = (c.cache.get k).observers - weight slot k := by
  cases slot with
  | none => rfl
  | some q =>
    change ((c.cache.unobserve q).get k).observers = _
    rw [Cache.get_unobserve]
    by_cases key : k = q
    · simp [weight, key]
    · simp [weight, key, Ne.symm key]

/-! ## Counts of slots -/

/-- The hooks are these, and the entry of each key counts the slots that hold the key. -/
structure Tally (hooks : List (ι × Option QueryKey)) (slots : List (Option QueryKey))
    (c : Client ι ω) : Prop where
  hooks : c.hooks = hooks
  observers : ∀ k, (c.cache.get k).observers = slots.count (some k)

theorem Tally.perm {c : Client ι ω} {slots' : List (Option QueryKey)} (tally : Tally hooks slots c)
    (perm : slots.Perm slots') : Tally hooks slots' c :=
  ⟨tally.hooks, fun k => (tally.observers k).trans (perm.count_eq _)⟩

theorem Tally.fetch {c : Client ι ω} (tally : Tally hooks slots c) (k : QueryKey) :
    Tally hooks slots (c.fetch k) :=
  ⟨(c.hooks_fetch k).trans tally.hooks,
    fun q => (c.observers_fetch k q).trans (tally.observers q)⟩

theorem Tally.fetchAll {c : Client ι ω} (tally : Tally hooks slots c) (ks : List QueryKey) :
    Tally hooks slots (c.fetchAll ks) := by
  induction ks generalizing c with
  | nil => exact tally
  | cons k ks ih => exact ih (tally.fetch k)

theorem Tally.expire {c : Client ι ω} (tally : Tally hooks slots c) (is : List Invalidation) :
    Tally hooks slots (c.expire is) :=
  ⟨tally.hooks, fun k => by simpa [Client.expire] using tally.observers k⟩

theorem Tally.invalidate {c : Client ι ω} (tally : Tally hooks slots c) (is : List Invalidation) :
    Tally hooks slots (c.invalidate is) :=
  (tally.expire is).fetchAll _

theorem Tally.receive {c : Client ι ω} (tally : Tally hooks slots c) (e : Exchange ω)
    (outcome : Outcome) : Tally hooks slots (c.receive e outcome).2 := by
  refine receive_keeps tally (fun t r => ?_) tally.invalidate e outcome
  exact ⟨tally.hooks, fun k => by simpa using tally.observers k⟩

/-- Which hooks there are is not part of any entry. -/
theorem Tally.withHooks {c : Client ι ω} (tally : Tally hooks slots c)
    (hooks' : List (ι × Option QueryKey)) :
    Tally hooks' slots ({ c with hooks := hooks' } : Client ι ω) :=
  ⟨rfl, tally.observers⟩

/-- A count of slots with one more in front. -/
theorem count_cons_weight (slot : Option QueryKey) (slots : List (Option QueryKey))
    (k : QueryKey) : (slot :: slots).count (some k) = slots.count (some k) + weight slot k := by
  simp [List.count_cons, weight]

/-- A slot that is released is counted no longer. -/
theorem Tally.release {c : Client ι ω} {slot : Option QueryKey}
    (tally : Tally hooks (slot :: slots) c) : Tally hooks slots (c.release slot) := by
  refine ⟨?_, fun k => ?_⟩
  · cases slot <;> exact tally.hooks
  · rw [observers_release, tally.observers, count_cons_weight]
    exact Nat.add_sub_cancel ..

/-- A slot that is acquired is counted from then on. -/
theorem Tally.acquire {c : Client ι ω} (tally : Tally hooks slots c) (slot : Option QueryKey) :
    Tally hooks (slot :: slots) (c.acquire slot) := by
  refine ⟨?_, fun k => ?_⟩
  · cases slot with
    | none => exact tally.hooks
    | some q => exact ((c.observe q).hooks_fetch q).trans tally.hooks
  · rw [observers_acquire, tally.observers, count_cons_weight]

/-! ## One entry a key -/

/-- Nothing that a page does gives a key a second entry. -/
theorem keyed_closed : Closed (fun c : Client ι ω => c.cache.Keyed) where
  fetch {c} k keyed := by
    obtain ⟨-, same⟩ | ⟨-, -, start⟩ := c.fetch_cases k
    · rwa [same]
    · rw [start]
      exact keyed.begun k
  expire is keyed := keyed.invalidateAll is
  observe k keyed := keyed.observe k
  unobserve k keyed := keyed.unobserve k
  hooks _ keyed := keyed
  write _ _ _ _ keyed := keyed

/-! ## Changes of one hook -/

/-- The hooks have names of their own, and the entries count them. -/
structure Counted (c : Client ι ω) : Prop where
  names : (c.hooks.map Prod.fst).Nodup
  tally : Tally c.hooks (c.hooks.map Prod.snd) c

theorem Tally.counted {c : Client ι ω} (tally : Tally hooks (hooks.map Prod.snd) c)
    (names : (hooks.map Prod.fst).Nodup) : Counted c := by
  obtain ⟨rfl, observers⟩ := tally
  exact ⟨names, rfl, observers⟩

/-- The slots of the hooks around one of them, with its own slot first. -/
theorem slots_perm (i : ι) (k : Option QueryKey) (before after : List (ι × Option QueryKey)) :
    ((before ++ (i, k) :: after).map Prod.snd).Perm (k :: (before ++ after).map Prod.snd) := by
  simp

variable [DecidableEq ι]

/-- A hook that is found is the only one of its name, so taking it away or changing its slot leaves
all others as they are. -/
theorem lookup_split {i : ι} {last : Option QueryKey} (nodup : (hooks.map Prod.fst).Nodup)
    (found : hooks.lookup i = some last) :
    ∃ before after, hooks = before ++ (i, last) :: after ∧
      (hooks.filter fun h => h.1 ≠ i) = before ++ after ∧
      ∀ next, (hooks.map fun h => if h.1 = i then (i, next) else h) =
        before ++ (i, next) :: after := by
  obtain ⟨before, after, rfl, -⟩ := List.lookup_eq_some_iff.mp found
  have names : i ∉ before.map Prod.fst ∧ i ∉ after.map Prod.fst := by
    simp only [List.map_append, List.map_cons, List.nodup_append, List.nodup_cons] at nodup
    obtain ⟨-, ⟨right, -⟩, apart⟩ := nodup
    exact ⟨fun left => apart i left i List.mem_cons_self rfl, right⟩
  have other : ∀ h, h ∈ before ∨ h ∈ after → h.1 ≠ i := by
    rintro h (mem | mem) rfl
    · exact names.1 (List.mem_map_of_mem mem)
    · exact names.2 (List.mem_map_of_mem mem)
  refine ⟨before, after, rfl, ?_, fun next => ?_⟩
  · rw [List.filter_append, List.filter_cons_of_neg (by simp),
      List.filter_eq_self.mpr fun h mem => by simpa using other h (.inl mem),
      List.filter_eq_self.mpr fun h mem => by simpa using other h (.inr mem)]
  · rw [List.map_append, List.map_cons, if_pos rfl]
    congr 1
    · exact (List.map_congr_left fun h mem => if_neg (other h (.inl mem))).trans before.map_id
    · congr 1
      exact (List.map_congr_left fun h mem => if_neg (other h (.inr mem))).trans after.map_id

theorem Counted.unmount {c : Client ι ω} (counted : Counted c) (i : ι) :
    Counted (c.unmount i) := by
  have released : Tally c.hooks ((c.hooks.filter fun h => h.1 ≠ i).map Prod.snd)
      (c.release (c.held i)) := by
    cases found : c.hooks.lookup i with
    | none =>
      have held : c.held i = none := by simp [held, found]
      have others : (c.hooks.filter fun h => h.1 ≠ i) = c.hooks := by
        refine List.filter_eq_self.mpr fun h mem => decide_eq_true ?_
        have other := List.lookup_eq_none_iff.mp found h mem
        rintro rfl
        simp at other
      rw [held, others]
      exact counted.tally
    | some last =>
      have held : c.held i = last := by simp [held, found]
      obtain ⟨before, after, split, fewer, -⟩ := lookup_split counted.names found
      rw [held, fewer]
      exact (counted.tally.perm (split ▸ slots_perm i last before after)).release
  have fewer : c.unmount i =
      { c.release (c.held i) with hooks := c.hooks.filter fun h => h.1 ≠ i } := by
    simp only [Client.unmount, released.hooks]
  rw [fewer]
  exact (released.withHooks _).counted ((List.filter_sublist.map Prod.fst).nodup counted.names)

theorem Counted.mount {c : Client ι ω} (counted : Counted c) (i : ι) : Counted (c.mount i) := by
  have gone := counted.unmount i
  have free : i ∉ (c.unmount i).hooks.map Prod.fst := by simp [Client.unmount]
  have tally : Tally ((c.unmount i).hooks ++ [(i, none)])
      (((c.unmount i).hooks ++ [(i, none)]).map Prod.snd) (c.mount i) :=
    ⟨rfl, fun k => (gone.tally.observers k).trans (by simp)⟩
  exact tally.counted (by simpa using gone.names.concat free)

theorem Counted.swap {c : Client ι ω} (counted : Counted c) (i : ι) (next : Option QueryKey) :
    Counted (c.swap i next) := by
  unfold Client.swap
  split
  · exact counted
  · next last found =>
    split
    · exact counted
    · obtain ⟨before, after, split, -, moved⟩ := lookup_split counted.names found
      have released := (counted.tally.perm (split ▸ slots_perm i last before after)).withHooks
        (before ++ (i, next) :: after)
      have acquired := (released.release.acquire next).perm
        (slots_perm i next before after).symm
      rw [moved next]
      refine acquired.counted ?_
      have names := counted.names
      rw [split] at names
      simpa using names

theorem Counted.perform {c : Client ι ω} (counted : Counted c) (a : Action ι ω) :
    Counted (c.perform a) := by
  cases a with
  | mount i => exact counted.mount i
  | unmount i => exact counted.unmount i
  | swap i next => exact counted.swap i next
  | fetch k => exact (counted.tally.fetch k).counted counted.names
  | invalidate is => exact (counted.tally.invalidate is).counted counted.names
  | write m body shape tag => exact ⟨counted.names, rfl, counted.tally.observers⟩

theorem Reachable.counted {c : Client ι ω} (reach : c.Reachable) : Counted c := by
  induction reach with
  | refl => exact ⟨.nil, rfl, fun k => rfl⟩
  | @tail c _ _ step ih =>
    cases step with
    | perform a => exact ih.perform a
    | depart => exact ⟨ih.names, rfl, ih.tally.observers⟩
    | @answer before after e outcome split =>
      have tally : Tally c.hooks (c.hooks.map Prod.snd)
          ({ c with pending := before ++ after } : Client ι ω) := ⟨rfl, ih.tally.observers⟩
      exact (tally.receive e outcome).counted ih.names

/-- What a hook holds is what stands with its name. -/
theorem held_eq_some_iff {c : Client ι ω} {i : ι} {k : QueryKey} :
    c.held i = some k ↔ c.hooks.lookup i = some (some k) := by
  simp [Client.held, Option.join_eq_some_iff]

/-- Somebody looks at a key exactly if a hook holds it. -/
theorem Counted.observed_iff {c : Client ι ω} (counted : Counted c) {k : QueryKey} :
    0 < (c.cache.get k).observers ↔ ∃ i, c.held i = some k := by
  rw [counted.tally.observers, List.count_pos_iff, List.mem_map]
  constructor
  · rintro ⟨⟨i, slot⟩, mem, rfl⟩
    exact ⟨i, held_eq_some_iff.mpr (lookup_of_mem counted.names mem)⟩
  · rintro ⟨i, held⟩
    obtain ⟨before, after, split, -⟩ := List.lookup_eq_some_iff.mp (held_eq_some_iff.mp held)
    exact ⟨(i, some k), by simp [split], rfl⟩

theorem Counted.observed {c : Client ι ω} (counted : Counted c) {i : ι} {k : QueryKey}
    (held : c.held i = some k) : 0 < (c.cache.get k).observers :=
  counted.observed_iff.mpr ⟨i, held⟩

/-! ## What a change of one hook does to the counts -/

/-- The slot of a hook is part of the count of its key, so there is something to release. -/
theorem Counted.weight_le {c : Client ι ω} (counted : Counted c) (i : ι) (k : QueryKey) :
    weight (c.held i) k ≤ (c.cache.get k).observers := by
  unfold weight
  split
  · next held => exact counted.observed held
  · exact Nat.zero_le _

theorem Counted.observers_unmount {c : Client ι ω} (counted : Counted c) (i : ι) (k : QueryKey) :
    ((c.unmount i).cache.get k).observers + weight (c.held i) k = (c.cache.get k).observers := by
  have released := c.observers_release (c.held i) k
  have enough := counted.weight_le i k
  change ((c.release (c.held i)).cache.get k).observers + _ = _
  omega

theorem Counted.observers_swap {c : Client ι ω} (counted : Counted c) {i : ι}
    (mounted : (c.hooks.lookup i).isSome = true) (next : Option QueryKey) (k : QueryKey) :
    ((c.swap i next).cache.get k).observers + weight (c.held i) k =
      (c.cache.get k).observers + weight next k := by
  obtain ⟨last, found⟩ := Option.isSome_iff_exists.mp mounted
  have held : c.held i = last := by simp [Client.held, found]
  simp only [Client.swap, found, held]
  split
  · next same => rw [same]
  · have enough := counted.weight_le i k
    rw [held] at enough
    rw [observers_acquire, observers_release]
    change (c.cache.get k).observers - weight last k + weight next k + weight last k = _
    omega

/-! ## Accounts -/

theorem Reachable.keyed {c : Client ι ω} (reach : c.Reachable) : c.cache.Keyed := by
  induction reach with
  | refl => exact Cache.keyed_empty
  | @tail c _ _ step ih =>
    cases step with
    | perform a => exact keyed_closed.perform a ih
    | depart => exact ih
    | @answer before after e outcome split =>
      exact receive_keeps (c := { c with pending := before ++ after })
        (I := fun c' => c'.cache.Keyed) ih ih.complete
        (fun is => keyed_closed.invalidate is ih) e outcome

/-- **Observers are accounted for.**  In every reachable client the hooks have names of their own
and the entry of each key counts the hooks that hold it.  A hook that is taken away or gets another
key takes exactly its own part off a count, which is never cut off at zero.  An invalidation gives
back each matched key that some hook holds, once, and no other key. -/
theorem Reachable.observer_accounting {c : Client ι ω} (reach : c.Reachable) :
    (c.hooks.map Prod.fst).Nodup ∧
      (∀ k, (c.cache.get k).observers = c.hooks.countP fun h => h.2 == some k) ∧
      (∀ i k, c.held i = some k → 0 < (c.cache.get k).observers) ∧
      (∀ i k, ((c.unmount i).cache.get k).observers + weight (c.held i) k =
        (c.cache.get k).observers) ∧
      (∀ i next k, (c.hooks.lookup i).isSome = true →
        ((c.swap i next).cache.get k).observers + weight (c.held i) k =
          (c.cache.get k).observers + weight next k) ∧
      (∀ inv, (c.cache.invalidate inv).1.Nodup ∧ ∀ k, k ∈ (c.cache.invalidate inv).1 ↔
        inv.matches k = true ∧ ∃ i, c.held i = some k) ∧
      (∀ is, (c.cache.invalidateAll is).1.Nodup ∧ ∀ k, k ∈ (c.cache.invalidateAll is).1 ↔
        is.any (·.matches k) = true ∧ ∃ i, c.held i = some k) := by
  have counted := reach.counted
  have keyed := reach.keyed
  refine ⟨counted.names, fun k => ?_, fun i k => counted.observed,
    fun i k => counted.observers_unmount i k,
    fun i next k mounted => counted.observers_swap mounted next k,
    fun inv => ⟨keyed.nodup_invalidate inv, fun k => ?_⟩,
    fun is => ⟨c.cache.nodup_invalidateAll is, fun k => ?_⟩⟩
  · rw [counted.tally.observers, List.count, List.countP_map]
    rfl
  · rw [keyed.mem_invalidate_iff, counted.observed_iff]
  · rw [keyed.mem_invalidateAll_iff, counted.observed_iff]

/-- Two hooks look at the calibers, one of them twice in a row, and a third one was taken away
before it held anything; the first one then turns to nothing, and one observer is left. -/
theorem Reachable.observer_accounting_shared :
    let c : Client Nat Unit := (((((((initial.perform (.mount 0)).perform (.mount 1)).perform
      (.mount 2)).perform (.unmount 2)).perform (.swap 0 (some .calibers))).perform
      (.swap 0 (some .calibers))).perform (.swap 1 (some .calibers))).perform (.swap 0 none)
    c.Reachable ∧ (c.cache.get .calibers).observers = 1 ∧
      (c.hooks.countP fun h => h.2 == some .calibers) = 1 ∧
      (∃ i, c.held i = some .calibers) ∧
      .calibers ∈ (c.cache.invalidate (.resource .calibers)).1 := by
  intro c
  have reach : c.Reachable :=
    (((((((Relation.ReflTransGen.single (.perform initial (.mount 0))).tail
      (.perform _ (.mount 1))).tail (.perform _ (.mount 2))).tail (.perform _ (.unmount 2))).tail
      (.perform _ (.swap 0 (some .calibers)))).tail (.perform _ (.swap 0 (some .calibers)))).tail
      (.perform _ (.swap 1 (some .calibers)))).tail (.perform _ (.swap 0 none))
  obtain ⟨-, counts, -, -, -, reported, -⟩ := reach.observer_accounting
  have held : c.held 1 = some .calibers := rfl
  have one : (c.hooks.countP fun h => h.2 == some .calibers) = 1 := rfl
  exact ⟨reach, (counts .calibers).trans one, one, ⟨1, held⟩,
    ((reported (.resource .calibers)).2 .calibers).mpr ⟨rfl, 1, held⟩⟩

end Client

end MetricConsole
