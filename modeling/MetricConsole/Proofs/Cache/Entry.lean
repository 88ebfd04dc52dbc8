import Mathlib.Data.List.Induction
import MetricConsole.Query.Cache

/-!
# Entries after an operation

What every operation of the cache does to the entry of every key.  `Cache.get` is the view: a key
that was never asked for has the blank entry, so each operation is described by one equation over
all keys, and nothing below this module looks into the list of entries.

* `Cache.beginFetch_cases`: a read joins a running request, finds a fresh value, or starts a request
  with the next number.
* `Cache.complete_cases`: a result is settled exactly for the ticket that the entry waits for.
* `Cache.find?_invalidateAll`: invalidations expire the entries that one of them matches, and leave
  the rest.
* `Cache.mem_invalidateAll`: a matched key that somebody looks at is among those given back.
-/

namespace MetricConsole

namespace CacheEntry

theorem isFresh_iff {e : CacheEntry} :
    e.isFresh = true ↔ (∃ v, e.data = some v) ∧ e.stale = false ∧ e.error = none := by
  simp [isFresh, Option.isSome_iff_exists, and_assoc]

@[simp]
theorem settle_inFlight (e : CacheEntry) (r : Except ApiError Json) :
    (e.settle r).inFlight = none := by
  cases r <;> rfl

@[simp]
theorem settle_observers (e : CacheEntry) (r : Except ApiError Json) :
    (e.settle r).observers = e.observers := by
  cases r <;> rfl

end CacheEntry

namespace Cache

/-! ## Reading an entry -/

@[simp]
theorem get_empty (k : QueryKey) : Cache.empty.get k = .blank := rfl

theorem get_put (c : Cache) (k k' : QueryKey) (e : CacheEntry) :
    (c.put k e).get k' = if k' = k then e else c.get k' := by
  by_cases h : k' = k
  · subst h
    simp [get]
  · simp [get, find?_put_of_ne c e h, h]

@[simp]
theorem get_put_self (c : Cache) (k : QueryKey) (e : CacheEntry) : (c.put k e).get k = e := by
  simp [get_put]

theorem get_put_of_ne (c : Cache) {k k' : QueryKey} (e : CacheEntry) (h : k' ≠ k) :
    (c.put k e).get k' = c.get k' := by
  simp [get_put, h]

/-- The counter of requests is not part of any entry. -/
@[simp]
theorem get_started (c : Cache) (n : Nat) (k : QueryKey) :
    Cache.get { c with started := n } k = c.get k := rfl

@[simp]
theorem put_started (c : Cache) (k : QueryKey) (e : CacheEntry) : (c.put k e).started = c.started :=
  rfl

/-! ## Reads -/

/-- The cache once a request for a key has been started. -/
def begun (c : Cache) (k : QueryKey) : Cache :=
  { c.put k { c.get k with inFlight := some (c.started + 1) } with started := c.started + 1 }

@[simp]
theorem get_begun_self (c : Cache) (k : QueryKey) :
    (c.begun k).get k = { c.get k with inFlight := some (c.started + 1) } := by
  simp [begun]

theorem get_begun_of_ne (c : Cache) {k k' : QueryKey} (h : k' ≠ k) :
    (c.begun k).get k' = c.get k' := by
  simp [begun, get_put_of_ne c _ h]

/-- A read joins, finds a fresh value, or starts a request with the next number. -/
theorem beginFetch_cases (c : Cache) (k : QueryKey) :
    (∃ id, (c.get k).inFlight = some id ∧ c.beginFetch k = (.join, c)) ∨
      ((c.get k).inFlight = none ∧ (c.get k).isFresh = true ∧ c.beginFetch k = (.fresh, c)) ∨
      ((c.get k).inFlight = none ∧ (c.get k).isFresh = false ∧
        c.beginFetch k = (.start ⟨k, c.started + 1⟩, c.begun k)) := by
  cases running : (c.get k).inFlight with
  | some id => exact .inl ⟨id, rfl, by simp [beginFetch, running]⟩
  | none =>
    cases fresh : (c.get k).isFresh with
    | true => exact .inr (.inl ⟨rfl, rfl, by simp [beginFetch, running, fresh]⟩)
    | false => exact .inr (.inr ⟨rfl, rfl, by simp [beginFetch, running, fresh, begun]⟩)

/-! ## Results -/

/-- A result is settled for the ticket that the entry waits for, and dropped for any other. -/
theorem complete_cases (c : Cache) (t : Ticket) (r : Except ApiError Json) :
    ((c.get t.key).inFlight = some t.id ∧
        c.complete t r = (true, c.put t.key ((c.get t.key).settle r))) ∨
      ((c.get t.key).inFlight ≠ some t.id ∧ c.complete t r = (false, c)) := by
  by_cases running : (c.get t.key).inFlight = some t.id
  · exact .inl ⟨running, by simp [complete, running]⟩
  · exact .inr ⟨running, by simp [complete, running]⟩

@[simp]
theorem complete_started (c : Cache) (t : Ticket) (r : Except ApiError Json) :
    (c.complete t r).2.started = c.started := by
  obtain ⟨-, done⟩ | ⟨-, done⟩ := c.complete_cases t r
  · rw [done, put_started]
  · rw [done]

@[simp]
theorem observers_complete (c : Cache) (t : Ticket) (r : Except ApiError Json) (k : QueryKey) :
    ((c.complete t r).2.get k).observers = (c.get k).observers := by
  obtain ⟨-, done⟩ | ⟨-, done⟩ := c.complete_cases t r
  · rw [done, get_put]
    split
    · next same => rw [same, CacheEntry.settle_observers]
    · rfl
  · rw [done]

/-- A request that still runs after a result is not the one that the result was for. -/
theorem inFlight_of_complete {c : Cache} {t : Ticket} {r : Except ApiError Json} {k : QueryKey}
    {id : Nat} (waiting : ((c.complete t r).2.get k).inFlight = some id) :
    (c.get k).inFlight = some id ∧ (⟨k, id⟩ : Ticket) ≠ t := by
  obtain ⟨-, done⟩ | ⟨other, done⟩ := c.complete_cases t r
  · by_cases same : k = t.key
    · simp [done, same] at waiting
    · rw [done, get_put_of_ne _ _ same] at waiting
      exact ⟨waiting, fun ticket => same (congrArg Ticket.key ticket)⟩
  · rw [done] at waiting
    refine ⟨waiting, ?_⟩
    rintro rfl
    exact other waiting

/-! ## Observers -/

theorem get_observe (c : Cache) (k k' : QueryKey) :
    (c.observe k).get k' =
      if k' = k then { c.get k with observers := (c.get k).observers + 1 } else c.get k' := by
  simp [observe, get_put]

theorem get_unobserve (c : Cache) (k k' : QueryKey) :
    (c.unobserve k).get k' =
      if k' = k then { c.get k with observers := (c.get k).observers - 1 } else c.get k' := by
  cases found : c.find? k with
  | some e =>
    have entry : c.get k = e := by simp [get, found]
    simp [unobserve, found, get_put, entry]
  | none =>
    by_cases h : k' = k
    · subst h
      simp [unobserve, found, get, CacheEntry.blank]
    · simp [unobserve, found, h]

/-- The number of observers apart, an entry stays as it is when somebody starts to look. -/
theorem get_observe_eq (c : Cache) (k k' : QueryKey) :
    ∃ n, (c.observe k).get k' = { c.get k' with observers := n } := by
  rw [get_observe]
  split
  · next h => exact ⟨_, by rw [h]⟩
  · exact ⟨_, rfl⟩

/-- The number of observers apart, an entry stays as it is when somebody stops looking. -/
theorem get_unobserve_eq (c : Cache) (k k' : QueryKey) :
    ∃ n, (c.unobserve k).get k' = { c.get k' with observers := n } := by
  rw [get_unobserve]
  split
  · next h => exact ⟨_, by rw [h]⟩
  · exact ⟨_, rfl⟩

@[simp]
theorem observe_started (c : Cache) (k : QueryKey) : (c.observe k).started = c.started := rfl

@[simp]
theorem unobserve_started (c : Cache) (k : QueryKey) : (c.unobserve k).started = c.started := by
  unfold unobserve
  split <;> rfl

/-! ## Invalidations -/

@[simp]
theorem invalidate_started (c : Cache) (i : Invalidation) :
    (c.invalidate i).2.started = c.started :=
  rfl

theorem lookup_expire (i : Invalidation) (es : List (QueryKey × CacheEntry)) (k : QueryKey) :
    (es.map fun e => if i.matches e.1 then (e.1, e.2.expire) else e).lookup k =
      (es.lookup k).map fun e => if i.matches k then e.expire else e := by
  induction es with
  | nil => rfl
  | cons p es ih =>
    obtain ⟨q, e⟩ := p
    by_cases hq : k = q
    · subst hq
      by_cases hit : i.matches k = true <;> simp [hit]
    · by_cases hit : i.matches q = true <;>
        simp [List.lookup_cons, hit, beq_false_of_ne hq, ih]

/-- An invalidation expires the entries that it matches. -/
theorem find?_invalidate (c : Cache) (i : Invalidation) (k : QueryKey) :
    (c.invalidate i).2.find? k =
      (c.find? k).map fun e => if i.matches k then e.expire else e :=
  lookup_expire i c.entries k

theorem mem_invalidate {c : Cache} {i : Invalidation} {k : QueryKey}
    (hit : i.matches k = true) (seen : 0 < (c.get k).observers) : k ∈ (c.invalidate i).1 := by
  cases found : c.find? k with
  | none => simp [get, found, CacheEntry.blank] at seen
  | some e =>
    obtain ⟨before, after, entries, -⟩ := List.lookup_eq_some_iff.mp found
    have looked : 0 < e.observers := by simpa [get, found] using seen
    simp only [invalidate, List.mem_map, List.mem_filter]
    exact ⟨(k, e), ⟨⟨by simp [entries], hit⟩, by simpa using looked⟩, rfl⟩

theorem mem_appendNew {seen new : List QueryKey} {k : QueryKey} :
    k ∈ appendNew seen new ↔ k ∈ seen ∨ k ∈ new := by
  induction new generalizing seen with
  | nil => simp [appendNew]
  | cons q new ih =>
    have step : appendNew seen (q :: new) =
        appendNew (if q ∈ seen then seen else seen ++ [q]) new := rfl
    rw [step, ih]
    split
    · next old => constructor <;> grind
    · next fresh => simp [or_assoc]

/-- The last of several invalidations works on what the others left. -/
theorem invalidateAll_concat (c : Cache) (is : List Invalidation) (i : Invalidation) :
    c.invalidateAll (is ++ [i]) =
      (appendNew (c.invalidateAll is).1 ((c.invalidateAll is).2.invalidate i).1,
        ((c.invalidateAll is).2.invalidate i).2) := by
  simp [invalidateAll, List.foldl_append]

@[simp]
theorem invalidateAll_started (c : Cache) (is : List Invalidation) :
    (c.invalidateAll is).2.started = c.started := by
  induction is using List.reverseRecOn with
  | nil => rfl
  | append_singleton is i ih => rw [invalidateAll_concat, invalidate_started, ih]

/-- Invalidations expire the entries that one of them matches. -/
theorem find?_invalidateAll (c : Cache) (is : List Invalidation) (k : QueryKey) :
    (c.invalidateAll is).2.find? k =
      (c.find? k).map fun e => if is.any (·.matches k) then e.expire else e := by
  induction is using List.reverseRecOn with
  | nil => simp [invalidateAll]
  | append_singleton is i ih =>
    rw [invalidateAll_concat, find?_invalidate, ih, Option.map_map]
    -- an entry that is expired already is not changed by expiring it again
    cases c.find? k with
    | none => rfl
    | some e =>
      cases earlier : is.any (·.matches k) <;> cases last : i.matches k <;>
        simp [earlier, last, CacheEntry.expire]

theorem get_invalidateAll_of_not {c : Cache} {is : List Invalidation} {k : QueryKey}
    (miss : is.any (·.matches k) = false) : (c.invalidateAll is).2.get k = c.get k := by
  simp [get, find?_invalidateAll, miss]

/-- A matched entry is stale, unless the key was never asked for, and waits for no request. -/
theorem get_invalidateAll_of_any {c : Cache} {is : List Invalidation} {k : QueryKey}
    (hit : is.any (·.matches k) = true) :
    ∃ s, (c.invalidateAll is).2.get k = { c.get k with stale := s, inFlight := none } ∧
      (s = true ∨ c.get k = .blank) := by
  cases found : c.find? k with
  | none => exact ⟨false, by simp [get, find?_invalidateAll, found, CacheEntry.blank]⟩
  | some e =>
    exact ⟨true, by simp [get, find?_invalidateAll, found, hit, CacheEntry.expire], .inl rfl⟩

@[simp]
theorem observers_invalidateAll (c : Cache) (is : List Invalidation) (k : QueryKey) :
    ((c.invalidateAll is).2.get k).observers = (c.get k).observers := by
  cases hit : is.any (·.matches k) with
  | false => rw [get_invalidateAll_of_not hit]
  | true =>
    obtain ⟨s, entry, -⟩ := get_invalidateAll_of_any (c := c) hit
    rw [entry]

/-- An entry that still waits after invalidations was not matched by any of them. -/
theorem inFlight_of_invalidateAll {c : Cache} {is : List Invalidation} {k : QueryKey} {id : Nat}
    (waiting : ((c.invalidateAll is).2.get k).inFlight = some id) :
    is.any (·.matches k) = false ∧ (c.get k).inFlight = some id := by
  cases hit : is.any (·.matches k) with
  | false => exact ⟨rfl, by rwa [get_invalidateAll_of_not hit] at waiting⟩
  | true =>
    obtain ⟨s, entry, -⟩ := get_invalidateAll_of_any (c := c) hit
    simp [entry] at waiting

/-- A value that is not stale after invalidations was not matched by any of them. -/
theorem current_of_invalidateAll {c : Cache} {is : List Invalidation} {k : QueryKey} {v : Json}
    (data : ((c.invalidateAll is).2.get k).data = some v)
    (current : ((c.invalidateAll is).2.get k).stale = false) :
    is.any (·.matches k) = false ∧ (c.get k).data = some v ∧ (c.get k).stale = false := by
  cases hit : is.any (·.matches k) with
  | false =>
    rw [get_invalidateAll_of_not hit] at data current
    exact ⟨rfl, data, current⟩
  | true =>
    obtain ⟨s, entry, stale | blank⟩ := get_invalidateAll_of_any (c := c) hit
    · simp [entry, stale] at current
    · simp [entry, blank, CacheEntry.blank] at data

/-- A matched key that somebody looks at is given back. -/
theorem mem_invalidateAll {c : Cache} {is : List Invalidation} {k : QueryKey}
    (hit : is.any (·.matches k) = true) (seen : 0 < (c.get k).observers) :
    k ∈ (c.invalidateAll is).1 := by
  induction is using List.reverseRecOn with
  | nil => simp at hit
  | append_singleton is i ih =>
    rw [invalidateAll_concat, mem_appendNew]
    simp only [List.any_append, List.any_cons, List.any_nil, Bool.or_false,
      Bool.or_eq_true] at hit
    rcases hit with earlier | last
    · exact .inl (ih earlier)
    · exact .inr (mem_invalidate last (by simpa using seen))

end Cache

end MetricConsole
