import Mathlib.Algebra.Ring.Nat
import MetricConsole.Proofs.Cache.History
import MetricConsole.Proofs.Client.Reach

/-!
# How often a key is asked for

A read starts a request only while the entry of its key has nothing fresh and nothing under way.
Every entry is like that once, before its first request; after that an invalidation or a failure has
to make it so again.  So each request but the first is charged to an invalidation of the key or to a
failure that was accepted for it, whatever else goes on in between.

* `Cache.Step.charge`: what one operation adds to the requests, it takes from what the entry lacks,
  or an invalidation or a failure pays for it.
* `Cache.Run.starts_le`: the account of a whole history.
* `Cache.Run.no_request_storm`: the bound, reads of filters, and the reads after a failure.
-/

namespace MetricConsole

/-! ## What an event counts for -/

namespace CacheEvent

/-- The event starts a request for the key. -/
def starts (k : QueryKey) (e : CacheEvent) : Bool := e.issued?.any fun t => t.key == k

/-- How many invalidations of the event match the key. -/
def expirations (k : QueryKey) : CacheEvent → Nat
  | .invalidated i _ => [i].countP (·.matches k)
  | .invalidatedAll is _ => is.countP (·.matches k)
  | _ => 0

/-- The event accepts a failure for the key. -/
def fails (k : QueryKey) : CacheEvent → Bool
  | .completed t (.error _) true => t.key == k
  | _ => false

theorem expirations_pos_iff {k : QueryKey} {e : CacheEvent} :
    0 < e.expirations k ↔ e.expires k = true := by
  cases e <;> simp only [expirations, expires, List.countP_pos_iff, List.any_eq_true] <;> simp

theorem starts_iff {k : QueryKey} {e : CacheEvent} :
    e.starts k = true ↔ ∃ id, e.issued? = some ⟨k, id⟩ := by
  unfold starts
  cases ticket : e.issued? with
  | none => simp
  | some t =>
    obtain ⟨q, id⟩ := t
    simp

end CacheEvent

/-- Whether a read of the entry would start a request. -/
def CacheEntry.isLacking (e : CacheEntry) : Bool := e.inFlight.isNone && !e.isFresh

namespace Cache

variable {h : List CacheEvent} {c : Cache}

/-- How often a request for the key was started. -/
def starts (k : QueryKey) (h : List CacheEvent) : Nat := h.countP (CacheEvent.starts k)

/-- How many invalidations matched the key, each one of a list counted. -/
def expirations (k : QueryKey) (h : List CacheEvent) : Nat :=
  (h.map (CacheEvent.expirations k)).sum

/-- How many failures were accepted for the key. -/
def failures (k : QueryKey) (h : List CacheEvent) : Nat := h.countP (CacheEvent.fails k)

/-! ## The account -/

/-- **One operation is paid for.**  A request is started only if the entry lacked one, and only an
invalidation or a failure makes an entry lack a request. -/
theorem Step.charge {c c' : Cache} {e : CacheEvent} (step : Step c e c') (k : QueryKey) :
    (e.starts k).toNat + (c'.get k).isLacking.toNat ≤
      (c.get k).isLacking.toNat + e.expirations k + (e.fails k).toNat := by
  obtain ⟨idle, needed, event, entry⟩ | ⟨id, r, running, event, entry⟩ |
    ⟨hit, s, entry, -⟩ | ⟨passes, n, entry⟩ := step.entry_cases k
  · -- the entry lacked a request, which now runs
    have lacked : (c.get k).isLacking = true := by simp [CacheEntry.isLacking, idle, needed]
    have runs : (c'.get k).isLacking = false := by simp [entry, CacheEntry.isLacking]
    have once := Bool.toNat_le (e.starts k)
    simp only [lacked, runs, Bool.toNat_true, Bool.toNat_false]
    omega
  · have unstarted : e.starts k = false := by simp [event, CacheEvent.starts, CacheEvent.issued?]
    cases r with
    | ok v =>
      have fresh : (c'.get k).isLacking = false := by
        simp [entry, CacheEntry.isLacking, CacheEntry.settle, CacheEntry.isFresh]
      simp [unstarted, fresh]
    | error err =>
      have failed : e.fails k = true := by simp [event, CacheEvent.fails]
      have once := Bool.toNat_le (c'.get k).isLacking
      simp only [unstarted, failed, Bool.toNat_true, Bool.toNat_false]
      omega
  · have unstarted : e.starts k = false := by
      cases e <;> simp [CacheEvent.expires] at hit <;> rfl
    have paid := CacheEvent.expirations_pos_iff.mpr hit
    have once := Bool.toNat_le (c'.get k).isLacking
    simp only [unstarted, Bool.toNat_false]
    omega
  · have unstarted : e.starts k = false := by
      refine Bool.eq_false_iff.mpr fun started => ?_
      obtain ⟨id, issued⟩ := CacheEvent.starts_iff.mp started
      exact passes.issued id issued
    have same : (c'.get k).isLacking = (c.get k).isLacking := by rw [entry]; rfl
    simp only [unstarted, same, Bool.toNat_false]
    omega

/-- The requests of a history, with the one that its end may still lack, are one, and one for each
invalidation and each failure at most. -/
theorem Run.starts_le (run : Run h c) (k : QueryKey) :
    starts k h + (c.get k).isLacking.toNat ≤ 1 + expirations k h + failures k h := by
  induction run with
  | empty => simp [starts, expirations, failures, CacheEntry.isLacking, CacheEntry.isFresh,
      CacheEntry.blank]
  | @step h c c' e run step ih =>
    have paid := step.charge k
    have added (p : CacheEvent → Bool) : [e].countP p = (p e).toNat := by
      cases found : p e <;> simp [found]
    simp only [starts, expirations, failures, List.countP_append, List.map_append, List.sum_append,
      added, List.map_cons, List.map_nil, List.sum_singleton] at ih ⊢
    omega

/-! ## Reads of filters and reads after failures -/

/-- Reads of texts that stand for the same filters start the requests of one key. -/
theorem countP_starts_le {filters : MetricFilters} {texts : List (String × String × String)}
    (same : ∀ t ∈ texts, .normalized t.1 t.2.1 t.2.2 = filters) (h : List CacheEvent) :
    (h.countP fun e => texts.any fun t =>
      e.starts (.metricList (.normalized t.1 t.2.1 t.2.2))) ≤ starts (.metricList filters) h := by
  refine List.countP_mono_left fun e _ started => ?_
  obtain ⟨t, mem, started⟩ := List.any_eq_true.mp started
  rwa [same t mem] at started

/-- A read of a key whose last request failed starts a request. -/
theorem beginFetch_failed {k : QueryKey} {err : ApiError} (idle : (c.get k).inFlight = none)
    (failed : (c.get k).error = some err) :
    c.beginFetch k = (.start ⟨k, c.started + 1⟩, c.begun k) := by
  obtain ⟨id, running, -⟩ | ⟨-, fresh, -⟩ | ⟨-, -, read⟩ := c.beginFetch_cases k
  · simp [idle] at running
  · simp [CacheEntry.isFresh_iff, failed] at fresh
  · exact read

/-- After a failure of a key nothing but a read of it starts a request for it, and every read
does. -/
theorem Step.retry_iff {c' : Cache} {e : CacheEvent} {k : QueryKey} {err : ApiError}
    (step : Step c e c') (idle : (c.get k).inFlight = none) (failed : (c.get k).error = some err) :
    (c'.get k).inFlight ≠ none ↔ ∃ decision, e = .fetched k decision := by
  constructor
  · intro running
    obtain ⟨-, -, event, -⟩ | ⟨id, r, waited, -⟩ | ⟨-, s, entry, -⟩ | ⟨-, n, entry⟩ :=
      step.entry_cases k
    · exact ⟨_, event⟩
    · simp [idle] at waited
    · simp [entry] at running
    · simp [entry, idle] at running
  · rintro ⟨decision, rfl⟩
    cases step
    simp [beginFetch_failed idle failed]

/-- The requests that a client sends for reads are those that its cache starts. -/
theorem outbox_fetch {ι ω : Type} (cl : Client ι ω) (k : QueryKey) :
    (cl.fetch k).outbox = cl.outbox ++
      ((CacheEvent.fetched k (cl.cache.beginFetch k).1).issued?.map Ticket.exchange).toList := by
  obtain ⟨id, -, read⟩ | ⟨-, -, read⟩ | ⟨-, -, read⟩ := cl.cache.beginFetch_cases k <;>
    simp [Client.fetch, read, CacheEvent.issued?, Client.send, Ticket.exchange]

/-- Whatever comes of a read, the client sends nothing. -/
theorem outbox_receive_read {ι ω : Type} (cl : Client ι ω) (t : Ticket) (outcome : Outcome) :
    (cl.receive (Ticket.exchange t) outcome).2.outbox = cl.outbox := rfl

/-- **No storm of requests.**  In every history the requests started for a key are one, one for each
invalidation that matched it and one for each failure accepted for it, at most.  So all reads of
texts that stand for the same filters start one request together, as long as nothing invalidates
them and nothing fails.  After a failure a request for the key is started by a read of it, and by
nothing else: a client sends exactly what its cache starts when a key is read, and nothing when a
read is answered. -/
theorem Run.no_request_storm (run : Run h c) :
    (∀ k, starts k h ≤ 1 + expirations k h + failures k h) ∧
      (∀ (filters : MetricFilters) (texts : List (String × String × String)),
        (∀ t ∈ texts, .normalized t.1 t.2.1 t.2.2 = filters) →
        expirations (.metricList filters) h = 0 → failures (.metricList filters) h = 0 →
        (h.countP fun e => texts.any fun t =>
          e.starts (.metricList (.normalized t.1 t.2.1 t.2.2))) ≤ 1) ∧
      (∀ k err c' e, (c.get k).inFlight = none → (c.get k).error = some err → Step c e c' →
        ((c'.get k).inFlight ≠ none ↔ ∃ decision, e = .fetched k decision)) ∧
      ∀ (ι ω : Type) (cl : Client ι ω), cl.cache = c →
        (∀ k, (cl.fetch k).outbox = cl.outbox ++
          ((CacheEvent.fetched k (c.beginFetch k).1).issued?.map Ticket.exchange).toList) ∧
        ∀ t outcome, (cl.receive (Ticket.exchange t) outcome).2.outbox = cl.outbox := by
  have bound (k) : starts k h ≤ 1 + expirations k h + failures k h :=
    Nat.le_trans (Nat.le_add_right ..) (run.starts_le k)
  refine ⟨bound, fun filters texts same unexpired unfailed => ?_,
    fun k err c' e idle failed step => step.retry_iff idle failed, ?_⟩
  · have paid := bound (.metricList filters)
    rw [unexpired, unfailed] at paid
    exact Nat.le_trans (countP_starts_le same h) paid
  · rintro ι ω cl rfl
    exact ⟨outbox_fetch cl, outbox_receive_read cl⟩

/-- Two hooks read the metrics for the keyword "gmv", typed with and without blanks: one request is
started for both.  It fails, and one more read starts the second and last one. -/
theorem Run.no_request_storm_retried :
    let k : QueryKey := .metricList (.normalized "gmv" "all" "all")
    let shared : List CacheEvent := [.fetched k (.start ⟨k, 1⟩), .fetched k .join]
    let h := shared ++ [.completed ⟨k, 1⟩ (.error (.network "down")) true,
      .fetched k (.start ⟨k, 2⟩)]
    let c : Cache := ⟨[(k, ⟨none, some (.network "down"), false, some 2, 0⟩)], 2⟩
    Run h c ∧ starts k h = 2 ∧ expirations k h = 0 ∧ failures k h = 1 ∧ starts k h ≤ 1 + 0 + 1 ∧
      MetricFilters.normalized " gmv " "" " all" = .normalized "gmv" "all" "all" ∧
      (shared.countP fun e => [(" gmv ", "", " all"), ("gmv", "all", "all")].any fun t =>
        e.starts (.metricList (.normalized t.1 t.2.1 t.2.2))) ≤ 1 := by
  intro k shared h c
  have normal : MetricFilters.normalized " gmv " "" " all" = .normalized "gmv" "all" "all" := by
    decide
  have reading : Run shared _ := (Run.empty.step (.fetch _ k)).step (.fetch _ k)
  have run : Run h c :=
    (reading.step (.complete _ ⟨k, 1⟩ (.error (.network "down")))).step (.fetch _ k)
  obtain ⟨bound, -⟩ := run.no_request_storm
  obtain ⟨-, together, -⟩ := reading.no_request_storm
  exact ⟨run, by decide, by decide, by decide, bound k, normal,
    together (.normalized "gmv" "all" "all") _ (by simp [normal]) (by decide) (by decide)⟩

end Cache

end MetricConsole
