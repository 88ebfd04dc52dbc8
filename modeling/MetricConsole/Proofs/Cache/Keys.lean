import Mathlib.Data.List.Nodup
import MetricConsole.Proofs.Cache.Entry

/-!
# One entry a key

No operation gives a key a second entry.  So the keys that an invalidation gives back are the
matched keys that somebody looks at and no others, and each of them comes once.

* `Cache.Keyed`: every key has one entry at most, which every operation keeps.
* `Cache.Keyed.mem_invalidate_iff` and `Cache.Keyed.mem_invalidateAll_iff`: which keys an
  invalidation gives back.
* `Cache.Keyed.nodup_invalidate` and `Cache.nodup_invalidateAll`: it gives each of them back once.
-/

namespace MetricConsole

/-- Where no key comes twice, what stands with a key is what a lookup finds. -/
theorem lookup_of_mem {α β : Type} [BEq α] [LawfulBEq α] {ps : List (α × β)} {a : α} {b : β}
    (nodup : (ps.map Prod.fst).Nodup) (mem : (a, b) ∈ ps) : ps.lookup a = some b := by
  obtain ⟨before, after, rfl⟩ := List.append_of_mem mem
  refine List.lookup_eq_some_iff.mpr ⟨before, after, rfl, fun p earlier => ?_⟩
  rw [List.map_append, List.nodup_append] at nodup
  have apart : p.1 ≠ a := nodup.2.2 p.1 (List.mem_map_of_mem earlier) a (by simp)
  exact bne_iff_ne.mpr apart.symm

namespace Cache

/-- Every key has one entry at most. -/
def Keyed (c : Cache) : Prop := (c.entries.map Prod.fst).Nodup

theorem keyed_empty : Keyed .empty := List.nodup_nil

theorem keys_putEntry (k : QueryKey) (e : CacheEntry) (es : List (QueryKey × CacheEntry)) :
    (putEntry k e es).map Prod.fst =
      if k ∈ es.map Prod.fst then es.map Prod.fst else es.map Prod.fst ++ [k] := by
  induction es with
  | nil => simp [putEntry]
  | cons p es ih =>
    obtain ⟨q, d⟩ := p
    by_cases same : q = k
    · simp [putEntry, same]
    · have other : ¬ k = q := fun h => same h.symm
      simp only [putEntry, if_neg same, List.map_cons, ih, List.mem_cons, other, false_or]
      split <;> rfl

namespace Keyed

variable {c : Cache}

theorem put (keyed : Keyed c) (k : QueryKey) (e : CacheEntry) : Keyed (c.put k e) := by
  change ((putEntry k e c.entries).map Prod.fst).Nodup
  rw [keys_putEntry]
  split
  · exact keyed
  · next fresh => simpa using List.Nodup.concat fresh keyed

theorem begun (keyed : Keyed c) (k : QueryKey) : Keyed (c.begun k) := keyed.put k _

theorem complete (keyed : Keyed c) (t : Ticket) (r : Except ApiError Json) :
    Keyed (c.complete t r).2 := by
  obtain ⟨-, done⟩ | ⟨-, done⟩ := c.complete_cases t r
  · rw [done]
    exact keyed.put t.key _
  · rwa [done]

theorem observe (keyed : Keyed c) (k : QueryKey) : Keyed (c.observe k) := keyed.put k _

theorem unobserve (keyed : Keyed c) (k : QueryKey) : Keyed (c.unobserve k) := by
  unfold Cache.unobserve
  split
  · exact keyed.put k _
  · exact keyed

theorem invalidate (keyed : Keyed c) (i : Invalidation) : Keyed (c.invalidate i).2 := by
  have keys : (c.invalidate i).2.entries.map Prod.fst = c.entries.map Prod.fst := by
    simp only [Cache.invalidate, List.map_map]
    refine List.map_congr_left fun e _ => ?_
    simp only [Function.comp_apply]
    split <;> rfl
  rw [Keyed, keys]
  exact keyed

theorem invalidateAll (keyed : Keyed c) (is : List Invalidation) :
    Keyed (c.invalidateAll is).2 := by
  induction is using List.reverseRecOn with
  | nil => exact keyed
  | append_singleton is i ih =>
    rw [invalidateAll_concat]
    exact ih.invalidate i

/-! ## Keys given back -/

/-- An entry of the list is the one that is found. -/
theorem get_of_mem (keyed : Keyed c) {k : QueryKey} {e : CacheEntry} (mem : (k, e) ∈ c.entries) :
    c.get k = e := by
  have found : c.entries.lookup k = some e := lookup_of_mem keyed mem
  simp [get, find?, found]

/-- An invalidation gives back the matched keys that somebody looks at. -/
theorem mem_invalidate_iff (keyed : Keyed c) (i : Invalidation) (k : QueryKey) :
    k ∈ (c.invalidate i).1 ↔ i.matches k = true ∧ 0 < (c.get k).observers := by
  constructor
  · intro given
    simp only [Cache.invalidate, List.mem_map, List.mem_filter] at given
    obtain ⟨⟨q, e⟩, ⟨⟨mem, hit⟩, seen⟩, rfl⟩ := given
    rw [keyed.get_of_mem mem]
    exact ⟨hit, by simpa using seen⟩
  · rintro ⟨hit, seen⟩
    exact mem_invalidate hit seen

theorem nodup_invalidate (keyed : Keyed c) (i : Invalidation) : (c.invalidate i).1.Nodup :=
  ((List.filter_sublist.trans List.filter_sublist).map Prod.fst).nodup keyed

/-- Several invalidations give back the keys that one of them matches and somebody looks at. -/
theorem mem_invalidateAll_iff (keyed : Keyed c) (is : List Invalidation) (k : QueryKey) :
    k ∈ (c.invalidateAll is).1 ↔
      is.any (·.matches k) = true ∧ 0 < (c.get k).observers := by
  induction is using List.reverseRecOn with
  | nil => simp [Cache.invalidateAll]
  | append_singleton is i ih =>
    rw [invalidateAll_concat, mem_appendNew, ih,
      (keyed.invalidateAll is).mem_invalidate_iff i k, observers_invalidateAll]
    simp only [List.any_append, List.any_cons, List.any_nil, Bool.or_false, Bool.or_eq_true]
    exact or_and_right.symm

end Keyed

theorem nodup_appendNew {seen : List QueryKey} (nodup : seen.Nodup) (new : List QueryKey) :
    (appendNew seen new).Nodup := by
  induction new generalizing seen with
  | nil => exact nodup
  | cons k new ih =>
    have step : appendNew seen (k :: new) =
        appendNew (if k ∈ seen then seen else seen ++ [k]) new := rfl
    rw [step]
    split
    · exact ih nodup
    · next fresh => exact ih (by simpa using List.Nodup.concat fresh nodup)

theorem nodup_invalidateAll (c : Cache) (is : List Invalidation) :
    (c.invalidateAll is).1.Nodup := by
  induction is using List.reverseRecOn with
  | nil => exact List.nodup_nil
  | append_singleton is i ih =>
    rw [invalidateAll_concat]
    exact nodup_appendNew ih _

end Cache

end MetricConsole
