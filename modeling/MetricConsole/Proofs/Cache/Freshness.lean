import MetricConsole.Proofs.Cache.Ticket

/-!
# Freshness

A value that counts as fresh was asked for after the last invalidation of its key.  The reason is
that an invalidation takes the ticket away: a result that is accepted later belongs to a ticket that
was handed out later.

* `Cache.RequestedSinceExpiry`: where in a history a fresh value comes from.
* `Cache.Run.fresh_value_requested`: every value that is not stale, and every value that a read
  finds fresh, comes from there.
-/

namespace MetricConsole

/-- The value that the event puts into the entry of the key. -/
def CacheEvent.value? (k : QueryKey) : CacheEvent → Option Json
  | .completed t (.ok v) true => if t.key = k then some v else none
  | _ => none

namespace Cache

variable {h : List CacheEvent} {c : Cache}

/-- The value was accepted with a ticket that a read of the key handed out; the key was not
invalidated since that read, and no other value was accepted for it since. -/
def RequestedSinceExpiry (h : List CacheEvent) (k : QueryKey) (v : Json) : Prop :=
  ∃ before t middle later,
    h = before ++ .fetched k (.start t) :: (middle ++ .completed t (.ok v) true :: later) ∧
      t.key = k ∧ (∀ e ∈ middle ++ later, e.expires k = false) ∧ ∀ e ∈ later, e.value? k = none

/-- Operations that neither expire the entry nor put a value into it change nothing. -/
theorem RequestedSinceExpiry.concat {k : QueryKey} {v : Json} {e : CacheEvent}
    (requested : RequestedSinceExpiry h k v) (kept : e.expires k = false)
    (quiet : e.value? k = none) : RequestedSinceExpiry (h ++ [e]) k v := by
  obtain ⟨before, t, middle, later, rfl, key, unexpired, last⟩ := requested
  refine ⟨before, t, middle, later ++ [e], by simp, key, fun x hx => ?_, fun x hx => ?_⟩
  · rw [← List.append_assoc] at hx
    rcases List.mem_append.mp hx with old | new
    · exact unexpired x old
    · rw [List.mem_singleton.mp new]
      exact kept
  · rcases List.mem_append.mp hx with old | new
    · exact last x old
    · rw [List.mem_singleton.mp new]
      exact quiet

/-- A value that arrives with a live ticket was asked for since the last invalidation. -/
theorem Live.requestedSinceExpiry {t : Ticket} {v : Json} (live : Live h t) :
    RequestedSinceExpiry (h ++ [.completed t (.ok v) true]) t.key v := by
  obtain ⟨before, e, after, rfl, rfl, quiet⟩ := live
  refine ⟨before, t, after, [], by simp, rfl, fun x hx => ?_, by simp⟩
  have kept := quiet x (by simpa using hx)
  exact Bool.eq_false_iff.mpr fun expired => kept (.inl expired)

theorem Passes.value_eq_none {e : CacheEvent} {k : QueryKey} {entry : CacheEntry}
    (passes : Passes e k entry) : e.value? k = none := by
  match e with
  | .completed ⟨q, id⟩ (.ok v) true =>
    have other : q ≠ k := by
      rintro rfl
      exact passes.accepted id rfl
    simp [CacheEvent.value?, other]
  | .completed _ (.ok _) false | .completed _ (.error _) _ | .fetched _ _ | .invalidated _ _
  | .invalidatedAll _ _ | .observed _ | .unobserved _ => rfl

/-- A value that is not stale was asked for since the last invalidation of its key. -/
theorem Run.requestedSinceExpiry (run : Run h c) {k : QueryKey} {v : Json}
    (data : (c.get k).data = some v) (current : (c.get k).stale = false) :
    RequestedSinceExpiry h k v := by
  induction run generalizing v with
  | empty => simp [CacheEntry.blank] at data
  | @step h c c' e run step ih =>
    obtain ⟨-, -, event, entry⟩ | ⟨id, r, running, event, entry⟩ |
      ⟨-, s, entry, expired⟩ | ⟨passes, n, entry⟩ := step.entry_cases k
    · rw [entry] at data current
      rw [event]
      exact (ih data current).concat rfl rfl
    · rw [event]
      rw [entry] at data current
      cases r with
      | ok w =>
        obtain rfl : w = v := by simpa [CacheEntry.settle] using data
        exact Live.requestedSinceExpiry ((run.inFlight_iff ⟨k, id⟩).mp running)
      | error err => exact (ih data current).concat rfl rfl
    · -- an entry with a value was not blank, so expiring it made it stale
      rw [entry] at data current
      rcases expired with stale | blank
      · exact absurd current (by simp [stale])
      · simp [blank, CacheEntry.blank] at data
    · rw [entry] at data current
      exact (ih data current).concat passes.expires passes.value_eq_none

/-- **Fresh values.**  A value that is not stale, and likewise a value that a read finds fresh, was
accepted with a ticket for its key that was handed out after the last invalidation of the key. -/
theorem Run.fresh_value_requested (run : Run h c) (k : QueryKey) :
    (∀ v, (c.get k).data = some v → (c.get k).stale = false → RequestedSinceExpiry h k v) ∧
      ((c.beginFetch k).1 = .fresh →
        ∃ v, (c.get k).data = some v ∧ RequestedSinceExpiry h k v) := by
  refine ⟨fun v => run.requestedSinceExpiry, fun found => ?_⟩
  obtain ⟨id, -, read⟩ | ⟨-, fresh, -⟩ | ⟨-, -, read⟩ := beginFetch_cases c k
  · rw [read] at found
    cases found
  · obtain ⟨⟨v, data⟩, current, -⟩ := CacheEntry.isFresh_iff.mp fresh
    exact ⟨v, data, run.requestedSinceExpiry data current⟩
  · rw [read] at found
    cases found

/-- After an invalidation that overtakes a request, the value that is fresh is the one asked for
again. -/
theorem Run.fresh_value_requested_again :
    let h : List CacheEvent :=
      [.fetched .calibers (.start ⟨.calibers, 1⟩), .invalidatedAll [.key .calibers] [],
        .fetched .calibers (.start ⟨.calibers, 2⟩),
        .completed ⟨.calibers, 1⟩ (.ok (.bool false)) false,
        .completed ⟨.calibers, 2⟩ (.ok (.bool true)) true]
    let c : Cache := ⟨[(.calibers, ⟨some (.bool true), none, false, none, 0⟩)], 2⟩
    Run h c ∧ (c.get .calibers).data = some (.bool true) ∧ (c.get .calibers).stale = false ∧
      (c.beginFetch .calibers).1 = .fresh ∧ RequestedSinceExpiry h .calibers (.bool true) := by
  intro h c
  have run : Run h c :=
    ((((Run.empty.step (.fetch _ .calibers)).step (.invalidateAll _ [.key .calibers])).step
      (.fetch _ .calibers)).step (.complete _ ⟨.calibers, 1⟩ (.ok (.bool false)))).step
      (.complete _ ⟨.calibers, 2⟩ (.ok (.bool true)))
  exact ⟨run, rfl, rfl, rfl, (run.fresh_value_requested .calibers).1 (.bool true) rfl rfl⟩

end Cache

end MetricConsole
