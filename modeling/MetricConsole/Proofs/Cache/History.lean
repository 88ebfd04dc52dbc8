import MetricConsole.Proofs.Cache.Entry

/-!
# Histories of the cache

A history lists the operations of a cache, oldest first, each with what it answered.
`Cache.Step` is one operation and `Cache.Run h c` says that the empty cache came to be `c` by the
operations of `h`; any operation may come at any time, with any ticket and any result.

* `Cache.Step.entry_cases` says all that one operation can do to the entry of one key: it starts a
  request, settles the running one, expires the entry, or changes at most the observers.
* `Cache.Step.started_cases` says when the counter of requests moves.
* `Cache.since_concat` is the step of an induction over a history for properties of the form
  "since some event there was none of another kind".
-/

namespace MetricConsole

/-- An operation of the cache with what it answered. -/
inductive CacheEvent where
  | fetched (k : QueryKey) (decision : FetchDecision)
  | completed (t : Ticket) (result : Except ApiError Json) (accepted : Bool)
  | invalidated (i : Invalidation) (reported : List QueryKey)
  | invalidatedAll (is : List Invalidation) (reported : List QueryKey)
  | observed (k : QueryKey)
  | unobserved (k : QueryKey)

namespace CacheEvent

/-- An invalidation of the event matches the key. -/
def expires (k : QueryKey) : CacheEvent → Bool
  | .invalidated i _ => i.matches k
  | .invalidatedAll is _ => is.any (·.matches k)
  | _ => false

/-- The event reports a result with the ticket. -/
def reports (t : Ticket) : CacheEvent → Prop
  | .completed t' _ _ => t' = t
  | _ => False

/-- The ticket that the event hands out. -/
def issued? : CacheEvent → Option Ticket
  | .fetched _ (.start t) => some t
  | _ => none

/-- The ticket whose result the event accepts. -/
def accepted? : CacheEvent → Option Ticket
  | .completed t _ true => some t
  | _ => none

end CacheEvent

namespace Cache

/-- The tickets handed out in a history, in order. -/
def issued (h : List CacheEvent) : List Ticket := h.filterMap CacheEvent.issued?

/-- The tickets whose results were accepted in a history, in order. -/
def accepted (h : List CacheEvent) : List Ticket := h.filterMap CacheEvent.accepted?

/-- One operation. -/
inductive Step : Cache → CacheEvent → Cache → Prop
  | fetch (c : Cache) (k : QueryKey) :
    Step c (.fetched k (c.beginFetch k).1) (c.beginFetch k).2
  | complete (c : Cache) (t : Ticket) (r : Except ApiError Json) :
    Step c (.completed t r (c.complete t r).1) (c.complete t r).2
  | invalidate (c : Cache) (i : Invalidation) :
    Step c (.invalidated i (c.invalidate i).1) (c.invalidate i).2
  | invalidateAll (c : Cache) (is : List Invalidation) :
    Step c (.invalidatedAll is (c.invalidateAll is).1) (c.invalidateAll is).2
  | observe (c : Cache) (k : QueryKey) : Step c (.observed k) (c.observe k)
  | unobserve (c : Cache) (k : QueryKey) : Step c (.unobserved k) (c.unobserve k)

/-- The operations of a history lead from the empty cache to this one. -/
inductive Run : List CacheEvent → Cache → Prop
  | empty : Run [] .empty
  | step {h : List CacheEvent} {c c' : Cache} {e : CacheEvent} :
    Run h c → Step c e c' → Run (h ++ [e]) c'

/-! ## What one operation does -/

/-- An event that concerns a key in no way that its entry could show, apart from its observers. -/
structure Passes (e : CacheEvent) (k : QueryKey) (entry : CacheEntry) : Prop where
  expires : e.expires k = false
  issued : ∀ id, e.issued? ≠ some ⟨k, id⟩
  accepted : ∀ id, e.accepted? ≠ some ⟨k, id⟩
  reports : ∀ id, e.reports ⟨k, id⟩ → entry.inFlight ≠ some id

/-- One invalidation does to an entry what a list with nothing else does. -/
theorem get_invalidate (c : Cache) (i : Invalidation) (k : QueryKey) :
    (c.invalidate i).2.get k = (c.invalidateAll [i]).2.get k := rfl

/-- A read as seen from the entry of a key. -/
theorem fetch_entry_cases (c : Cache) (q k : QueryKey) :
    ((c.get k).inFlight = none ∧ (c.get k).isFresh = false ∧
        CacheEvent.fetched q (c.beginFetch q).1 = .fetched k (.start ⟨k, c.started + 1⟩) ∧
        (c.beginFetch q).2.get k = { c.get k with inFlight := some (c.started + 1) }) ∨
      (Passes (.fetched q (c.beginFetch q).1) k (c.get k) ∧
        (c.beginFetch q).2.get k = c.get k) := by
  obtain ⟨id, -, read⟩ | ⟨-, -, read⟩ | ⟨idle, needed, read⟩ := beginFetch_cases c q
  · rw [read]
    exact .inr ⟨⟨rfl, nofun, nofun, nofun⟩, rfl⟩
  · rw [read]
    exact .inr ⟨⟨rfl, nofun, nofun, nofun⟩, rfl⟩
  · rw [read]
    by_cases same : k = q
    · subst same
      exact .inl ⟨idle, needed, rfl, get_begun_self c k⟩
    · refine .inr ⟨⟨rfl, ?_, nofun, nofun⟩, get_begun_of_ne c same⟩
      intro id other
      cases other
      exact same rfl

/-- A result as seen from the entry of a key. -/
theorem complete_entry_cases (c : Cache) (t : Ticket) (r : Except ApiError Json) (k : QueryKey) :
    (∃ id, (c.get k).inFlight = some id ∧
        CacheEvent.completed t r (c.complete t r).1 = .completed ⟨k, id⟩ r true ∧
        (c.complete t r).2.get k = (c.get k).settle r) ∨
      (Passes (.completed t r (c.complete t r).1) k (c.get k) ∧
        (c.complete t r).2.get k = c.get k) := by
  obtain ⟨q, id⟩ := t
  obtain ⟨running, done⟩ | ⟨other, done⟩ := complete_cases c ⟨q, id⟩ r
  · rw [done]
    by_cases same : k = q
    · subst same
      exact .inl ⟨id, running, rfl, get_put_self ..⟩
    · refine .inr ⟨⟨rfl, nofun, ?_, ?_⟩, get_put_of_ne _ _ same⟩
      · intro id' ticket
        cases ticket
        exact same rfl
      · intro id' ticket
        cases ticket
        exact (same rfl).elim
  · rw [done]
    refine .inr ⟨⟨rfl, nofun, nofun, ?_⟩, rfl⟩
    intro id' ticket
    cases ticket
    exact other

/-- **All that one operation can do to one entry.**  It starts a request, settles the running one,
expires the entry, or leaves all but its observers. -/
theorem Step.entry_cases {c c' : Cache} {e : CacheEvent} (step : Step c e c') (k : QueryKey) :
    ((c.get k).inFlight = none ∧ (c.get k).isFresh = false ∧
        e = .fetched k (.start ⟨k, c.started + 1⟩) ∧
        c'.get k = { c.get k with inFlight := some (c.started + 1) }) ∨
      (∃ id r, (c.get k).inFlight = some id ∧ e = .completed ⟨k, id⟩ r true ∧
        c'.get k = (c.get k).settle r) ∨
      (e.expires k = true ∧ ∃ s, c'.get k = { c.get k with stale := s, inFlight := none } ∧
        (s = true ∨ c.get k = .blank)) ∨
      (Passes e k (c.get k) ∧ ∃ n, c'.get k = { c.get k with observers := n }) := by
  cases step with
  | fetch q =>
    obtain start | ⟨passes, entry⟩ := fetch_entry_cases c q k
    · exact .inl start
    · exact .inr (.inr (.inr ⟨passes, _, entry⟩))
  | complete t r =>
    obtain ⟨id, settled⟩ | ⟨passes, entry⟩ := complete_entry_cases c t r k
    · exact .inr (.inl ⟨id, r, settled⟩)
    · exact .inr (.inr (.inr ⟨passes, _, entry⟩))
  | invalidate i =>
    rw [get_invalidate]
    cases hit : i.matches k with
    | true => exact .inr (.inr (.inl ⟨hit, get_invalidateAll_of_any (by simpa using hit)⟩))
    | false =>
      refine .inr (.inr (.inr ⟨⟨hit, nofun, nofun, nofun⟩, (c.get k).observers, ?_⟩))
      exact get_invalidateAll_of_not (by simpa using hit)
  | invalidateAll is =>
    cases hit : is.any (·.matches k) with
    | true => exact .inr (.inr (.inl ⟨hit, get_invalidateAll_of_any hit⟩))
    | false =>
      refine .inr (.inr (.inr ⟨⟨hit, nofun, nofun, nofun⟩, (c.get k).observers, ?_⟩))
      exact get_invalidateAll_of_not hit
  | observe q =>
    exact .inr (.inr (.inr ⟨⟨rfl, nofun, nofun, nofun⟩, get_observe_eq c q k⟩))
  | unobserve q =>
    exact .inr (.inr (.inr ⟨⟨rfl, nofun, nofun, nofun⟩, get_unobserve_eq c q k⟩))

/-- The counter of requests moves exactly when a ticket is handed out, and numbers it. -/
theorem Step.started_cases {c c' : Cache} {e : CacheEvent} (step : Step c e c') :
    (∃ t, e.issued? = some t ∧ t.id = c.started + 1 ∧ c'.started = c.started + 1) ∨
      (e.issued? = none ∧ c'.started = c.started) := by
  cases step with
  | fetch k =>
    obtain ⟨id, -, read⟩ | ⟨-, -, read⟩ | ⟨-, -, read⟩ := beginFetch_cases c k
    · rw [read]
      exact .inr ⟨rfl, rfl⟩
    · rw [read]
      exact .inr ⟨rfl, rfl⟩
    · rw [read]
      exact .inl ⟨⟨k, c.started + 1⟩, rfl, rfl, rfl⟩
  | complete t r =>
    obtain ⟨-, done⟩ | ⟨-, done⟩ := complete_cases c t r <;> rw [done] <;> exact .inr ⟨rfl, rfl⟩
  | invalidate i => exact .inr ⟨rfl, invalidate_started c i⟩
  | invalidateAll is => exact .inr ⟨rfl, invalidateAll_started c is⟩
  | observe k => exact .inr ⟨rfl, observe_started c k⟩
  | unobserve k => exact .inr ⟨rfl, unobserve_started c k⟩

/-! ## Since an event -/

/-- Since an event of one kind there was none of another. -/
def Since (begins ends : CacheEvent → Prop) (h : List CacheEvent) : Prop :=
  ∃ before e after, h = before ++ e :: after ∧ begins e ∧ ∀ x ∈ after, ¬ ends x

theorem not_since_nil {begins ends : CacheEvent → Prop} : ¬ Since begins ends [] := by
  rintro ⟨before, e, after, split, -⟩
  simp at split

theorem since_concat {begins ends : CacheEvent → Prop} {h : List CacheEvent} {e : CacheEvent} :
    Since begins ends (h ++ [e]) ↔ begins e ∨ (Since begins ends h ∧ ¬ ends e) := by
  constructor
  · rintro ⟨before, b, after, split, born, quiet⟩
    obtain rfl | ⟨after, last, rfl⟩ := List.eq_nil_or_concat after
    · obtain ⟨-, same⟩ := List.append_inj' split rfl
      cases same
      exact .inl born
    · have split' : h ++ [e] = (before ++ b :: after) ++ [last] := by simpa using split
      obtain ⟨rfl, same⟩ := List.append_inj' split' rfl
      cases same
      exact .inr ⟨⟨before, b, after, rfl, born, fun x hx => quiet x (by simp [hx])⟩,
        quiet e (by simp)⟩
  · rintro (born | ⟨⟨before, b, after, rfl, born, quiet⟩, kept⟩)
    · exact ⟨h, e, [], by simp, born, by simp⟩
    · refine ⟨before, b, after ++ [e], by simp, born, fun x hx => ?_⟩
      rcases List.mem_append.mp hx with old | last
      · exact quiet x old
      · rw [List.mem_singleton.mp last]
        exact kept

end Cache

end MetricConsole
