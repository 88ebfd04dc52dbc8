import MetricConsole.Proofs.Cache.History

/-!
# What an entry keeps of its results

Of the results that were accepted for its key an entry keeps the last value, and the last error as
long as no value came after it.  Nothing else touches either of them: reads, invalidations and
observers change the rest of the entry, and a result that is rejected changes nothing.

* `CacheEntry.Recalls`: what an entry keeps of a list of results.
* `Cache.Step.result_cases`: one operation settles a result or leaves value and error alone.
* `Cache.Run.recalls`: every entry recalls the results that were accepted for its key.
* `Cache.Run.last_value_kept`: the same in terms of values and errors, and what one more operation
  can do to them.
-/

namespace MetricConsole

/-! ## Entries and results -/

/-- The entry keeps the last value of the results, and the error of the last one if it failed. -/
structure CacheEntry.Recalls (entry : CacheEntry) (results : List (Except ApiError Json)) :
    Prop where
  data : entry.data = (results.filterMap Except.toOption).getLast?
  error : ∀ err, entry.error = some err ↔ results.getLast? = some (.error err)

namespace CacheEntry.Recalls

variable {entry : CacheEntry} {results : List (Except ApiError Json)}

theorem blank : CacheEntry.blank.Recalls [] := ⟨rfl, by simp [CacheEntry.blank]⟩

/-- A result that is settled is the last one. -/
theorem settle (recalls : entry.Recalls results) (r : Except ApiError Json) :
    (entry.settle r).Recalls (results ++ [r]) := by
  cases r with
  | ok v => exact ⟨by simp [CacheEntry.settle, Except.toOption], by simp [CacheEntry.settle]⟩
  | error err =>
    refine ⟨?_, by simp [CacheEntry.settle]⟩
    simpa [CacheEntry.settle, Except.toOption] using recalls.data

/-- Staleness, the running request and the observers are no part of it. -/
theorem withRest (recalls : entry.Recalls results) (s : Bool) (running : Option Nat) (n : Nat) :
    { entry with stale := s, inFlight := running, observers := n }.Recalls results :=
  ⟨recalls.data, recalls.error⟩

end CacheEntry.Recalls

/-- The result that the event brings to the entry of the key. -/
def CacheEvent.result? (k : QueryKey) : CacheEvent → Option (Except ApiError Json)
  | .completed t r true => if t.key = k then some r else none
  | _ => none

namespace Cache

variable {h : List CacheEvent} {c : Cache}

/-- The results that were accepted for the key, in order. -/
def results (k : QueryKey) (h : List CacheEvent) : List (Except ApiError Json) :=
  h.filterMap (CacheEvent.result? k)

/-! ## Operations -/

theorem Passes.result_eq_none {e : CacheEvent} {k : QueryKey} {entry : CacheEntry}
    (passes : Passes e k entry) : e.result? k = none := by
  match e with
  | .completed ⟨q, id⟩ r true =>
    have other : q ≠ k := by
      rintro rfl
      exact passes.accepted id rfl
    simp [CacheEvent.result?, other]
  | .completed _ _ false | .fetched _ _ | .invalidated _ _ | .invalidatedAll _ _ | .observed _
  | .unobserved _ => rfl

/-- **One operation and the results of a key.**  It settles the result that it brings to the entry,
or it brings none and leaves the value and the error as they are. -/
theorem Step.result_cases {c' : Cache} {e : CacheEvent} (step : Step c e c') (k : QueryKey) :
    (∃ r, e.result? k = some r ∧ c'.get k = (c.get k).settle r) ∨
      (e.result? k = none ∧ ∃ s running n,
        c'.get k = { c.get k with stale := s, inFlight := running, observers := n }) := by
  obtain ⟨-, -, event, entry⟩ | ⟨id, r, -, event, entry⟩ | ⟨hit, s, entry, -⟩ |
    ⟨passes, n, entry⟩ := step.entry_cases k
  · exact .inr ⟨by rw [event]; rfl, _, _, _, entry⟩
  · exact .inl ⟨r, by simp [event, CacheEvent.result?], entry⟩
  · have silent : e.result? k = none := by
      cases e <;> simp [CacheEvent.expires] at hit <;> rfl
    exact .inr ⟨silent, _, _, _, entry⟩
  · exact .inr ⟨passes.result_eq_none, _, _, _, entry⟩

/-! ## Histories -/

/-- Every entry recalls the results that were accepted for its key. -/
theorem Run.recalls (run : Run h c) (k : QueryKey) : (c.get k).Recalls (results k h) := by
  induction run with
  | empty => exact .blank
  | @step h c c' e run step ih =>
    obtain ⟨r, result, entry⟩ | ⟨silent, s, running, n, entry⟩ := step.result_cases k
    · rw [entry]
      simpa [results, result] using ih.settle r
    · rw [entry]
      simpa [results, silent] using ih.withRest s running n

/-- **The last value is kept.**  In every history the value of an entry is the last one that was
accepted for its key, and its error is that of the last result that was accepted, if that one was a
failure.  So whatever operation comes next, the value stays or gives way to a newer one that is
accepted, and an error goes only when a value is accepted. -/
theorem Run.last_value_kept (run : Run h c) (k : QueryKey) :
    (c.get k).data = ((results k h).filterMap Except.toOption).getLast? ∧
      (∀ err, (c.get k).error = some err ↔ (results k h).getLast? = some (.error err)) ∧
      ∀ e c', Step c e c' →
        (∀ v, (c.get k).data = some v → (c'.get k).data = some v ∨
          ∃ w, e.result? k = some (.ok w) ∧ (c'.get k).data = some w) ∧
        ∀ err, (c.get k).error = some err → (c'.get k).error = none →
          ∃ w, e.result? k = some (.ok w) := by
  refine ⟨(run.recalls k).data, (run.recalls k).error, fun e c' step => ?_⟩
  obtain ⟨r, result, entry⟩ | ⟨-, s, running, n, entry⟩ := step.result_cases k
  · rw [entry]
    cases r with
    | ok w => exact ⟨fun v _ => .inr ⟨w, result, rfl⟩, fun err _ _ => ⟨w, result⟩⟩
    | error err => exact ⟨fun v value => .inl value, fun _ _ cleared => nomatch cleared⟩
  · rw [entry]
    exact ⟨fun v value => .inl value, fun err failed cleared => nomatch failed.symm.trans cleared⟩

/-- The calibers were loaded; an invalidation overtakes the next request, whose answer is dropped,
and the request after it fails.  What was loaded first is still there, next to the error. -/
theorem Run.last_value_kept_failed :
    let h : List CacheEvent :=
      [.fetched .calibers (.start ⟨.calibers, 1⟩), .completed ⟨.calibers, 1⟩ (.ok (.arr [])) true,
        .invalidated (.key .calibers) [], .fetched .calibers (.start ⟨.calibers, 2⟩),
        .invalidatedAll [.resource .calibers] [], .fetched .calibers (.start ⟨.calibers, 3⟩),
        .completed ⟨.calibers, 2⟩ (.ok .null) false,
        .completed ⟨.calibers, 3⟩ (.error (.status 500 "no")) true]
    let c : Cache := ⟨[(.calibers, ⟨some (.arr []), some (.status 500 "no"), true, none, 0⟩)], 3⟩
    Run h c ∧ results .calibers h = [.ok (.arr []), .error (.status 500 "no")] ∧
      (c.get .calibers).data = some (.arr []) ∧
      (c.get .calibers).error = some (.status 500 "no") := by
  intro h c
  have run : Run h c :=
    (((((((Run.empty.step (.fetch _ .calibers)).step
      (.complete _ ⟨.calibers, 1⟩ (.ok (.arr [])))).step (.invalidate _ (.key .calibers))).step
      (.fetch _ .calibers)).step (.invalidateAll _ [.resource .calibers])).step
      (.fetch _ .calibers)).step (.complete _ ⟨.calibers, 2⟩ (.ok .null))).step
      (.complete _ ⟨.calibers, 3⟩ (.error (.status 500 "no")))
  obtain ⟨value, error, -⟩ := run.last_value_kept .calibers
  exact ⟨run, rfl, value, (error _).mpr rfl⟩

end Cache

end MetricConsole
