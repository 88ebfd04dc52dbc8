import MetricConsole.Proofs.Cache.History
import Mathlib.Data.List.Nodup

/-!
# Tickets

Which tickets a cache accepts, read off its history.  A ticket is live from the read that handed it
out until its result is reported or its key is invalidated.

* `Cache.Run.inFlight_iff`: the entry of a key waits for a ticket exactly while the ticket is live.
* `Cache.Run.issued_ids`: the tickets are numbered 1, 2, 3 and so on, over all keys.
* `Cache.Run.ticket_ownership`: results are accepted exactly for live tickets, each ticket at most
  once and, for one key, in the order in which the requests were started.
-/

namespace MetricConsole

namespace Cache

variable {h : List CacheEvent} {c : Cache}

/-- The ticket was handed out, and since then its key was not invalidated and nothing was reported
with it. -/
def Live (h : List CacheEvent) (t : Ticket) : Prop :=
  Since (· = .fetched t.key (.start t)) (fun e => e.expires t.key = true ∨ e.reports t) h

/-- **The entry of a key waits for a ticket exactly while the ticket is live.** -/
theorem Run.inFlight_iff (run : Run h c) (t : Ticket) :
    (c.get t.key).inFlight = some t.id ↔ Live h t := by
  induction run with
  | empty => simp [Live, not_since_nil, CacheEntry.blank]
  | @step h c c' e run step ih =>
    obtain ⟨k, id⟩ := t
    simp only [Live] at ih ⊢
    rw [since_concat, ← ih]
    obtain ⟨idle, -, event, entry⟩ | ⟨id', r, running, event, entry⟩ |
      ⟨hit, s, entry, -⟩ | ⟨passes, n, entry⟩ := step.entry_cases k
    · -- a request starts: only its own ticket is live
      rw [entry, event, idle]
      simp
    · -- the running request ends: it was the only one that was live
      rw [entry, event, running]
      simp only [CacheEntry.settle_inFlight, reduceCtorEq, false_iff, false_or, not_and, not_not,
        Option.some.injEq]
      rintro rfl
      exact .inr rfl
    · rw [entry]
      have other : e ≠ .fetched k (.start ⟨k, id⟩) := by
        rintro rfl
        cases hit
      simp [other, hit]
    · rw [entry]
      have other : e ≠ .fetched k (.start ⟨k, id⟩) := by
        rintro rfl
        exact passes.issued id rfl
      have quiet : (c.get k).inFlight = some id → ¬ e.reports ⟨k, id⟩ :=
        fun running report => passes.reports id report running
      simpa [other, passes.expires] using quiet

/-! ## Numbers -/

theorem Run.issued_ids (run : Run h c) : (issued h).map Ticket.id = List.range' 1 c.started := by
  induction run with
  | empty => rfl
  | @step h c c' e run step ih =>
    obtain ⟨t, ticket, number, started⟩ | ⟨ticket, started⟩ := step.started_cases
    · rw [started, List.range'_1_concat, ← ih]
      simp [issued, ticket, number, Nat.add_comm]
    · rw [started, ← ih]
      simp [issued, ticket]

theorem Run.started_eq (run : Run h c) : c.started = (issued h).length := by
  have sizes := congrArg List.length run.issued_ids
  simpa using sizes.symm

theorem Run.issued_increasing (run : Run h c) : (issued h).Pairwise fun t u => t.id < u.id := by
  have increasing : ((issued h).map Ticket.id).Pairwise (· < ·) := by
    rw [run.issued_ids]
    exact List.pairwise_lt_range'
  exact List.pairwise_map.mp increasing

theorem Run.le_started_of_mem (run : Run h c) {t : Ticket} (mem : t ∈ issued h) :
    t.id ≤ c.started := by
  have number : t.id ∈ (issued h).map Ticket.id := List.mem_map_of_mem mem
  rw [run.issued_ids, List.mem_range'_1] at number
  omega

theorem Live.mem_issued {t : Ticket} (live : Live h t) : t ∈ issued h := by
  obtain ⟨before, e, after, rfl, rfl, -⟩ := live
  simp [issued, CacheEvent.issued?]

theorem Run.inFlight_le (run : Run h c) {k : QueryKey} {id : Nat}
    (running : (c.get k).inFlight = some id) : id ≤ c.started :=
  run.le_started_of_mem ((run.inFlight_iff ⟨k, id⟩).mp running).mem_issued

/-- No two entries wait for requests of one number. -/
theorem Run.key_eq_of_inFlight (run : Run h c) {k k' : QueryKey} {id : Nat}
    (running : (c.get k).inFlight = some id) (running' : (c.get k').inFlight = some id) :
    k = k' := by
  have mem := ((run.inFlight_iff ⟨k, id⟩).mp running).mem_issued
  have mem' := ((run.inFlight_iff ⟨k', id⟩).mp running').mem_issued
  have distinct : ((issued h).map Ticket.id).Nodup := by
    rw [run.issued_ids]
    exact List.nodup_range'
  have same := List.inj_on_of_nodup_map distinct mem mem' rfl
  exact congrArg Ticket.key same

/-! ## Accepted results -/

theorem accepted_concat (h : List CacheEvent) (e : CacheEvent) :
    accepted (h ++ [e]) = accepted h ++ e.accepted?.toList := by
  cases ticket : e.accepted? <;> simp [accepted, ticket]

/-- What an entry waits for was started after all that was accepted for its key. -/
theorem Run.accepted_lt (run : Run h c) {t : Ticket} (mem : t ∈ accepted h) :
    t.id ≤ c.started ∧ ∀ id, (c.get t.key).inFlight = some id → t.id < id := by
  obtain ⟨k, n⟩ := t
  induction run with
  | empty => simp [accepted] at mem
  | @step h c c' e run step ih =>
    have grows : c.started ≤ c'.started := by
      obtain ⟨-, -, -, started⟩ | ⟨-, started⟩ := step.started_cases <;> omega
    rw [accepted_concat, List.mem_append, Option.mem_toList] at mem
    obtain ⟨idle, -, event, entry⟩ | ⟨id', r, running, event, entry⟩ |
      ⟨hit, s, entry, -⟩ | ⟨passes, seen, entry⟩ := step.entry_cases k
    · rw [event] at mem
      have old := (ih (by simpa [CacheEvent.accepted?] using mem)).1
      refine ⟨by omega, fun id running => ?_⟩
      rw [entry] at running
      cases running
      omega
    · refine ⟨?_, fun id waiting => by simp [entry] at waiting⟩
      rcases mem with old | new
      · exact Nat.le_trans (ih old).1 grows
      · have bound := run.inFlight_le running
        rw [event] at new
        cases new
        exact Nat.le_trans bound grows
    · refine ⟨?_, fun id waiting => by simp [entry] at waiting⟩
      rcases mem with old | new
      · exact Nat.le_trans (ih old).1 grows
      · cases e <;> simp [CacheEvent.expires] at hit <;> cases new
    · have old : ⟨k, n⟩ ∈ accepted h := mem.resolve_right (passes.accepted n)
      rw [entry]
      exact ⟨Nat.le_trans (ih old).1 grows, (ih old).2⟩

/-- For one key, results are accepted in the order in which the requests were started. -/
theorem Run.accepted_increasing (run : Run h c) :
    (accepted h).Pairwise fun t u => t.key = u.key → t.id < u.id := by
  induction run with
  | empty => exact .nil
  | @step h c c' e run step ih =>
    rw [accepted_concat]
    refine List.pairwise_append.mpr ⟨ih, ?_, ?_⟩
    · cases e.accepted? <;> simp
    · rintro t old ⟨k, n⟩ new rfl
      rw [Option.mem_toList] at new
      obtain ⟨idle, -, event, entry⟩ | ⟨id', r, running, event, entry⟩ |
        ⟨hit, s, entry, -⟩ | ⟨passes, seen, entry⟩ := step.entry_cases t.key
      · rw [event] at new
        cases new
      · rw [event] at new
        cases new
        exact (run.accepted_lt old).2 n running
      · cases e <;> simp [CacheEvent.expires] at hit <;> cases new
      · exact (passes.accepted n new).elim

/-- **Ownership of tickets.**  In every history the counter is the number of requests started, and
the tickets are numbered increasingly over all keys; no two entries wait for one number; a result
is accepted exactly with a live ticket and changes nothing when it is not; each ticket is accepted
at most once, and for one key in increasing order. -/
theorem Run.ticket_ownership (run : Run h c) :
    c.started = (issued h).length ∧
      ((issued h).Pairwise fun t u => t.id < u.id) ∧
      (∀ k k' id, (c.get k).inFlight = some id → (c.get k').inFlight = some id → k = k') ∧
      (∀ t r, (c.complete t r).1 = true ↔ Live h t) ∧
      (∀ t r, (c.complete t r).1 = false → (c.complete t r).2 = c) ∧
      (accepted h).Nodup ∧
      ((accepted h).Pairwise fun t u => t.key = u.key → t.id < u.id) := by
  refine ⟨run.started_eq, run.issued_increasing, fun k k' id => run.key_eq_of_inFlight, ?_, ?_,
    ?_, run.accepted_increasing⟩
  · intro t r
    rw [← run.inFlight_iff]
    obtain ⟨running, done⟩ | ⟨other, done⟩ := complete_cases c t r
    · simp [done, running]
    · simp [done, other]
  · intro t r rejected
    obtain ⟨-, done⟩ | ⟨-, done⟩ := complete_cases c t r
    · simp [done] at rejected
    · rw [done]
  · refine run.accepted_increasing.imp ?_
    rintro t u later rfl
    exact Nat.lt_irrefl _ (later rfl)

/-- A request that was superseded while it ran is no longer owned, and the one started after it
is. -/
theorem Run.ticket_ownership_superseded :
    let h : List CacheEvent :=
      [.observed .calibers, .fetched .calibers (.start ⟨.calibers, 1⟩),
        .invalidated (.resource .calibers) [.calibers],
        .fetched .calibers (.start ⟨.calibers, 2⟩),
        .completed ⟨.calibers, 1⟩ (.ok .null) false]
    let c : Cache := ⟨[(.calibers, ⟨none, none, true, some 2, 1⟩)], 2⟩
    Run h c ∧ Live h ⟨.calibers, 2⟩ ∧ ¬ Live h ⟨.calibers, 1⟩ := by
  intro h c
  have run : Run h c :=
    ((((Run.empty.step (.observe _ .calibers)).step (.fetch _ .calibers)).step
      (.invalidate _ (.resource .calibers))).step (.fetch _ .calibers)).step
      (.complete _ ⟨.calibers, 1⟩ (.ok .null))
  obtain ⟨-, -, -, owned, -⟩ := run.ticket_ownership
  refine ⟨run, (owned ⟨.calibers, 2⟩ (.ok .null)).mp rfl, fun live => ?_⟩
  have accepted := (owned ⟨.calibers, 1⟩ (.ok .null)).mpr live
  cases accepted

end Cache

end MetricConsole
