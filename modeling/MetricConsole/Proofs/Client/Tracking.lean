import Mathlib.Data.List.Nodup
import MetricConsole.Proofs.Client.Reach

/-!
# Every running request is under way

The cache and the network agree: an entry that waits for a request waits for exactly one exchange
under way, and a key that somebody looks at is never left alone.  An invalidation takes all matched
tickets away before anything is read again, so in between the second half fails for the keys that
it gave back; `Client.AttendedExcept` names those keys, and each of them is read again in turn.

* `Client.Tracked`: what is known of the tickets of a reachable client.
* `Client.AttendedExcept`: every key that somebody looks at runs, failed or is current.
* `Client.Reachable.no_stuck_query`: both hold of every reachable client.
-/

namespace MetricConsole

/-- A request for the entry runs, or it failed, or its value is current. -/
def CacheEntry.Attended (e : CacheEntry) : Prop :=
  (∃ id, e.inFlight = some id) ∨ (∃ err, e.error = some err) ∨
    ((∃ v, e.data = some v) ∧ e.stale = false)

theorem CacheEntry.attended_settle (e : CacheEntry) (r : Except ApiError Json) :
    (e.settle r).Attended := by
  cases r with
  | ok v => exact .inr (.inr ⟨⟨v, rfl⟩, rfl⟩)
  | error err => exact .inr (.inl ⟨err, rfl⟩)

theorem CacheEntry.attended_of_isFresh {e : CacheEntry} (fresh : e.isFresh = true) :
    e.Attended := by
  obtain ⟨data, current, -⟩ := isFresh_iff.mp fresh
  exact .inr (.inr ⟨data, current⟩)

namespace Client

variable {ι ω : Type}

/-! ## Tickets under way -/

/-- The reads under way carry distinct tickets that were handed out, each asks for the key of its
ticket, and whatever an entry waits for is among them. -/
structure Tracked (c : Client ι ω) : Prop where
  addressed : ∀ e ∈ c.underWay, ∀ t, e.ticket? = some t → e = t.exchange
  issued : ∀ t ∈ c.tickets, t.id ≤ c.cache.started
  distinct : c.tickets.Nodup
  carried : ∀ k id, (c.cache.get k).inFlight = some id → ⟨k, id⟩ ∈ c.tickets

@[simp]
theorem ticket?_exchange (t : Ticket) : (t.exchange : Exchange ω).ticket? = some t := rfl

/-- The exchange of a ticket under way is itself under way. -/
theorem Tracked.exchange_mem {c : Client ι ω} (tracked : Tracked c) {t : Ticket}
    (mem : t ∈ c.tickets) : t.exchange ∈ c.underWay := by
  obtain ⟨e, under, ticket⟩ := List.mem_filterMap.mp mem
  rwa [← tracked.addressed e under t ticket]

/-- What is known of tickets is kept when the cache and the exchanges change, as long as every
entry waits for what it waited for, or for nothing. -/
theorem Tracked.of_subset {c c' : Client ι ω} (tracked : Tracked c)
    (under : ∀ e ∈ c'.underWay, e ∈ c.underWay ∨ e.ticket? = none)
    (tickets : c'.tickets = c.tickets) (started : c'.cache.started = c.cache.started)
    (running : ∀ k id, (c'.cache.get k).inFlight = some id →
      (c.cache.get k).inFlight = some id) : Tracked c' where
  addressed e mem t ticket := by
    rcases under e mem with old | ticketless
    · exact tracked.addressed e old t ticket
    · simp [ticketless] at ticket
  issued t mem := by
    rw [started]
    exact tracked.issued t (tickets ▸ mem)
  distinct := tickets ▸ tracked.distinct
  carried k id waiting := tickets ▸ tracked.carried k id (running k id waiting)

theorem Tracked.fetch {c : Client ι ω} (k : QueryKey) (tracked : Tracked c) :
    Tracked (c.fetch k) := by
  obtain ⟨-, same⟩ | ⟨-, -, start⟩ := c.fetch_cases k
  · rwa [same]
  · have under : (c.fetch k).underWay =
        c.underWay ++ [Ticket.exchange ⟨k, c.cache.started + 1⟩] := by
      simp [start, underWay]
    have tickets : (c.fetch k).tickets = c.tickets ++ [⟨k, c.cache.started + 1⟩] := by
      simp [Client.tickets, under]
    have started : (c.fetch k).cache.started = c.cache.started + 1 := by simp [start, Cache.begun]
    refine ⟨fun e mem t ticket => ?_, fun t mem => ?_, ?_, fun q id waiting => ?_⟩
    · rw [under] at mem
      rcases List.mem_append.mp mem with old | new
      · exact tracked.addressed e old t ticket
      · rw [List.mem_singleton] at new
        subst new
        cases ticket
        rfl
    · rw [tickets] at mem
      rw [started]
      rcases List.mem_append.mp mem with old | new
      · exact Nat.le_succ_of_le (tracked.issued t old)
      · obtain rfl := List.mem_singleton.mp new
        exact Nat.le_refl _
    · -- the number of the new ticket is above all that were handed out
      rw [tickets]
      refine List.nodup_append.mpr ⟨tracked.distinct, by simp, fun t old u new => ?_⟩
      rw [List.mem_singleton] at new
      rintro rfl
      have bound := tracked.issued t old
      rw [new] at bound
      exact absurd bound (Nat.not_succ_le_self _)
    · rw [tickets]
      by_cases same : q = k
      · subst same
        have number : id = c.cache.started + 1 := by simpa [start, eq_comm] using waiting
        simp [number]
      · have old : (c.cache.get q).inFlight = some id := by
          simpa [start, Cache.get_begun_of_ne _ same] using waiting
        exact List.mem_append_left _ (tracked.carried q id old)

theorem Tracked.expire {c : Client ι ω} (is : List Invalidation) (tracked : Tracked c) :
    Tracked (c.expire is) :=
  tracked.of_subset (fun _ mem => .inl mem) rfl (Cache.invalidateAll_started c.cache is)
    fun _ _ waiting => (Cache.inFlight_of_invalidateAll waiting).2

theorem Tracked.closed : Closed (Tracked (ι := ι) (ω := ω)) where
  fetch := Tracked.fetch
  expire := Tracked.expire
  observe {c} k tracked := by
    refine tracked.of_subset (fun _ mem => .inl mem) rfl rfl fun q id waiting => ?_
    obtain ⟨n, entry⟩ := Cache.get_observe_eq c.cache k q
    simpa [Client.observe, entry] using waiting
  unobserve {c} k tracked := by
    refine tracked.of_subset (fun _ mem => .inl mem) rfl (Cache.unobserve_started c.cache k)
      fun q id waiting => ?_
    obtain ⟨n, entry⟩ := Cache.get_unobserve_eq c.cache k q
    simpa [Client.unobserve, entry] using waiting
  hooks _ tracked := tracked.of_subset (fun _ mem => .inl mem) rfl rfl fun _ _ waiting => waiting
  write {c} m body shape tag tracked := by
    refine tracked.of_subset (fun e mem => ?_) ?_ rfl fun _ _ waiting => waiting
    · simp only [Client.write, send, underWay, List.mem_append, List.mem_singleton] at mem ⊢
      rcases mem with pending | outbox | rfl
      · exact .inl (.inl pending)
      · exact .inl (.inr outbox)
      · exact .inr rfl
    · simp [Client.write, send, Client.tickets, underWay, Exchange.ticket?]

/-- Departing changes the order of the exchanges under way, and nothing else. -/
theorem underWay_depart_perm (c : Client ι ω) : c.depart.2.underWay.Perm c.underWay := by
  simpa [depart, underWay] using (List.mergeSort_perm c.outbox _).append_left c.pending

theorem Tracked.depart {c : Client ι ω} (tracked : Tracked c) : Tracked c.depart.2 := by
  have perm := underWay_depart_perm c
  have tickets : c.depart.2.tickets.Perm c.tickets := perm.filterMap _
  exact ⟨fun e mem => tracked.addressed e (perm.mem_iff.mp mem),
    fun t mem => tracked.issued t (tickets.mem_iff.mp mem),
    tickets.nodup_iff.mpr tracked.distinct,
    fun k id waiting => tickets.mem_iff.mpr (tracked.carried k id waiting)⟩

/-- The exchanges under way before and after one of them is taken off the network. -/
theorem underWay_split {c : Client ι ω} {before after : List (Exchange ω)} {e : Exchange ω}
    (split : c.pending = before ++ e :: after) :
    c.underWay = before ++ e :: (after ++ c.outbox) ∧
      ({ c with pending := before ++ after } : Client ι ω).underWay =
        before ++ (after ++ c.outbox) := by
  simp [underWay, split]

theorem mem_underWay_of_split {c : Client ι ω} {before after : List (Exchange ω)}
    {e : Exchange ω} (split : c.pending = before ++ e :: after) {x : Exchange ω}
    (mem : x ∈ ({ c with pending := before ++ after } : Client ι ω).underWay) :
    x ∈ c.underWay := by
  obtain ⟨whole, rest⟩ := underWay_split split
  rw [rest] at mem
  rw [whole]
  exact ((List.sublist_cons_self e _).append_left before).subset mem

/-- A write that is taken off the network is missed by no entry. -/
theorem Tracked.without_write {c : Client ι ω} {before after : List (Exchange ω)} {e : Exchange ω}
    (tracked : Tracked c) (split : c.pending = before ++ e :: after)
    (ticketless : e.ticket? = none) :
    Tracked ({ c with pending := before ++ after } : Client ι ω) := by
  obtain ⟨whole, rest⟩ := underWay_split split
  refine tracked.of_subset (fun x mem => .inl (mem_underWay_of_split split mem)) ?_ rfl
    fun _ _ waiting => waiting
  simp [Client.tickets, whole, rest, ticketless]

/-- A read that is taken off the network is missed by no entry once its result is reported. -/
theorem Tracked.without_read {c : Client ι ω} {before after : List (Exchange ω)} {e : Exchange ω}
    {t : Ticket} (tracked : Tracked c) (split : c.pending = before ++ e :: after)
    (ticket : e.ticket? = some t) (r : Except ApiError Json) :
    Tracked ({ c with pending := before ++ after, cache := (c.cache.complete t r).2 } :
      Client ι ω) := by
  obtain ⟨whole, rest⟩ := underWay_split split
  have all : c.tickets = before.filterMap Exchange.ticket? ++
      t :: (after ++ c.outbox).filterMap Exchange.ticket? := by
    simp [Client.tickets, whole, ticket]
  have fewer : ({ c with pending := before ++ after } : Client ι ω).tickets =
      before.filterMap Exchange.ticket? ++ (after ++ c.outbox).filterMap Exchange.ticket? := by
    simp [Client.tickets, rest]
  have sub : ({ c with pending := before ++ after } : Client ι ω).tickets.Sublist c.tickets := by
    rw [all, fewer]
    exact (List.sublist_cons_self t _).append_left _
  refine ⟨fun x mem u => tracked.addressed x (mem_underWay_of_split split mem) u, fun u mem => ?_,
    tracked.distinct.sublist sub, fun k id waiting => ?_⟩
  · simpa using tracked.issued u (sub.subset mem)
  · -- whatever entry still waits, waits for another ticket
    obtain ⟨running, other⟩ := Cache.inFlight_of_complete waiting
    have mem := tracked.carried k id running
    rw [all] at mem
    change _ ∈ ({ c with pending := before ++ after } : Client ι ω).tickets
    rw [fewer]
    rcases List.mem_append.mp mem with left | right
    · exact List.mem_append_left _ left
    · exact List.mem_append_right _ ((List.mem_cons.mp right).resolve_left other)

theorem Tracked.answer {c : Client ι ω} {before after : List (Exchange ω)} {e : Exchange ω}
    (outcome : Outcome) (tracked : Tracked c) (split : c.pending = before ++ e :: after) :
    Tracked (({ c with pending := before ++ after } : Client ι ω).receive e outcome).2 := by
  obtain ⟨t, purpose, done⟩ | ⟨m, shape, tag, v, purpose, -, done⟩ |
    ⟨m, shape, tag, err, purpose, -, done⟩ := receive_cases
      ({ c with pending := before ++ after } : Client ι ω) e outcome
  · rw [done]
    exact tracked.without_read split (by simp [Exchange.ticket?, purpose]) _
  · rw [done]
    have remaining := tracked.without_write split (by simp [Exchange.ticket?, purpose])
    exact Tracked.closed.invalidate _ remaining
  · rw [done]
    exact tracked.without_write split (by simp [Exchange.ticket?, purpose])

/-! ## Keys that somebody looks at -/

/-- Every key that somebody looks at runs, failed or is current, save those that are listed. -/
def AttendedExcept (ks : List QueryKey) (c : Client ι ω) : Prop :=
  ∀ k, 0 < (c.cache.get k).observers → k ∈ ks ∨ (c.cache.get k).Attended

/-- Reading a key takes it off the list. -/
theorem AttendedExcept.fetch {c : Client ι ω} {k : QueryKey} {ks : List QueryKey}
    (attended : AttendedExcept (k :: ks) c) : AttendedExcept ks (c.fetch k) := by
  intro q seen
  obtain ⟨found, same⟩ | ⟨-, -, start⟩ := c.fetch_cases k
  · rw [same] at seen ⊢
    by_cases key : q = k
    · subst key
      refine .inr ?_
      rcases found with running | fresh
      · exact .inl running
      · exact CacheEntry.attended_of_isFresh fresh
    · exact (attended q seen).imp_left fun listed => (List.mem_cons.mp listed).resolve_left key
  · rw [start] at seen ⊢
    by_cases key : q = k
    · subst key
      exact .inr (.inl ⟨_, by rw [Cache.get_begun_self]⟩)
    · have entry := Cache.get_begun_of_ne c.cache key
      change 0 < ((c.cache.begun k).get q).observers at seen
      change q ∈ ks ∨ ((c.cache.begun k).get q).Attended
      rw [entry] at seen ⊢
      exact (attended q seen).imp_left fun listed => (List.mem_cons.mp listed).resolve_left key

theorem AttendedExcept.fetchAll {ks : List QueryKey} {c : Client ι ω}
    (attended : AttendedExcept ks c) : AttendedExcept [] (c.fetchAll ks) := by
  induction ks generalizing c with
  | nil => exact attended
  | cons k ks ih => exact ih attended.fetch

/-- After an invalidation only the keys that it gave back can be unattended. -/
theorem AttendedExcept.expire {c : Client ι ω} (attended : AttendedExcept [] c)
    (is : List Invalidation) :
    AttendedExcept (c.cache.invalidateAll is).1 (c.expire is) := by
  intro k seen
  have looked : 0 < (c.cache.get k).observers := by simpa [Client.expire] using seen
  cases hit : is.any (·.matches k) with
  | true => exact .inl (Cache.mem_invalidateAll hit looked)
  | false =>
    have entry : (c.expire is).cache.get k = c.cache.get k := Cache.get_invalidateAll_of_not hit
    rw [entry]
    exact .inr ((attended k looked).resolve_left (by simp))

theorem AttendedExcept.invalidate {c : Client ι ω} (attended : AttendedExcept [] c)
    (is : List Invalidation) : AttendedExcept [] (c.invalidate is) :=
  (attended.expire is).fetchAll

/-- Looking at a key puts it on the list. -/
theorem AttendedExcept.observe {c : Client ι ω} (attended : AttendedExcept [] c) (k : QueryKey) :
    AttendedExcept [k] (c.observe k) := by
  intro q seen
  by_cases key : q = k
  · exact .inl (by simp [key])
  · have entry : (c.observe k).cache.get q = c.cache.get q := by
      simp [Client.observe, Cache.get_observe, key]
    rw [entry] at seen ⊢
    exact .inr ((attended q seen).resolve_left (by simp))

theorem AttendedExcept.unobserve {c : Client ι ω} (attended : AttendedExcept [] c)
    (k : QueryKey) : AttendedExcept [] (c.unobserve k) := by
  intro q seen
  have entry : (c.unobserve k).cache.get q = _ := Cache.get_unobserve c.cache k q
  rw [entry] at seen ⊢
  split at seen
  · next key =>
    subst key
    rw [if_pos rfl]
    exact attended q (Nat.lt_of_lt_of_le seen (Nat.sub_le _ 1))
  · next key =>
    rw [if_neg key]
    exact attended q seen

theorem AttendedExcept.release {c : Client ι ω} (attended : AttendedExcept [] c)
    (k : Option QueryKey) : AttendedExcept [] (c.release k) := by
  cases k with
  | none => exact attended
  | some k => exact attended.unobserve k

theorem AttendedExcept.acquire {c : Client ι ω} (attended : AttendedExcept [] c)
    (k : Option QueryKey) : AttendedExcept [] (c.acquire k) := by
  cases k with
  | none => exact attended
  | some k => exact (attended.observe k).fetch

/-- Which hooks there are is not part of it: only the observers of an entry count. -/
theorem AttendedExcept.hooks {c : Client ι ω} (attended : AttendedExcept [] c)
    (hooks : List (ι × Option QueryKey)) :
    AttendedExcept [] ({ c with hooks := hooks } : Client ι ω) := attended

theorem AttendedExcept.complete {c : Client ι ω} (attended : AttendedExcept [] c) (t : Ticket)
    (r : Except ApiError Json) :
    AttendedExcept [] ({ c with cache := (c.cache.complete t r).2 } : Client ι ω) := by
  intro k seen
  change 0 < ((c.cache.complete t r).2.get k).observers at seen
  change k ∈ [] ∨ ((c.cache.complete t r).2.get k).Attended
  rw [Cache.observers_complete] at seen
  obtain ⟨-, done⟩ | ⟨-, done⟩ := c.cache.complete_cases t r
  · rw [done, Cache.get_put]
    split
    · exact .inr (CacheEntry.attended_settle _ r)
    · exact attended k seen
  · rw [done]
    exact attended k seen

theorem AttendedExcept.receive {c : Client ι ω} (attended : AttendedExcept [] c)
    (e : Exchange ω) (outcome : Outcome) : AttendedExcept [] (c.receive e outcome).2 := by
  exact receive_keeps attended attended.complete attended.invalidate e outcome

section Reachable

variable [DecidableEq ι]

theorem AttendedExcept.unmount {c : Client ι ω} (attended : AttendedExcept [] c) (i : ι) :
    AttendedExcept [] (c.unmount i) :=
  (attended.release (c.held i)).hooks _

theorem AttendedExcept.perform {c : Client ι ω} (attended : AttendedExcept [] c)
    (a : Action ι ω) : AttendedExcept [] (c.perform a) := by
  cases a with
  | mount i => exact (attended.unmount i).hooks _
  | unmount i => exact attended.unmount i
  | swap i next =>
    change AttendedExcept [] (c.swap i next)
    unfold swap
    split
    · exact attended
    · split
      · exact attended
      · exact ((attended.hooks _).release _).acquire next
  | fetch k =>
    have listed : AttendedExcept [k] c := fun q seen =>
      .inr ((attended q seen).resolve_left List.not_mem_nil)
    exact listed.fetch
  | invalidate is => exact attended.invalidate is
  | write m body shape tag => exact attended

theorem Reachable.tracked {c : Client ι ω} (reach : c.Reachable) : Tracked c := by
  induction reach with
  | refl =>
    refine ⟨?_, ?_, .nil, ?_⟩ <;> simp [initial, underWay, tickets, CacheEntry.blank]
  | tail _ step ih =>
    cases step with
    | perform a => exact Tracked.closed.perform a ih
    | depart => exact ih.depart
    | answer outcome split => exact ih.answer outcome split

theorem Reachable.attended {c : Client ι ω} (reach : c.Reachable) : AttendedExcept [] c := by
  induction reach with
  | refl => exact fun k seen => absurd seen (Nat.lt_irrefl 0)
  | @tail c _ _ step ih =>
    cases step with
    | perform a => exact ih.perform a
    | depart => exact ih
    | @answer before after e outcome split =>
      exact AttendedExcept.receive (c := { c with pending := before ++ after }) ih e outcome

/-- While a key is shown as loading it waits for a read under way, and the answer to that read ends
it, whatever the answer is. -/
theorem Reachable.loading_ends {c : Client ι ω} (reach : c.Reachable) {active : Option QueryKey}
    (loading : (c.cache.view active).isLoading = true) :
    ∃ k id, active = some k ∧ Ticket.exchange ⟨k, id⟩ ∈ c.underWay ∧ ∀ outcome,
      ((c.receive (Ticket.exchange ⟨k, id⟩) outcome).2.cache.view active).isLoading = false := by
  cases active with
  | none => cases loading
  | some k =>
    have shown : ((c.cache.get k).data.isNone && (c.cache.get k).inFlight.isSome) = true := loading
    simp only [Bool.and_eq_true] at shown
    obtain ⟨id, running⟩ := Option.isSome_iff_exists.mp shown.2
    have under := reach.tracked.exchange_mem (reach.tracked.carried k id running)
    refine ⟨k, id, rfl, under, fun outcome => ?_⟩
    change ((c.cache.complete ⟨k, id⟩ _).2.view (some k)).isLoading = false
    obtain ⟨-, done⟩ | ⟨other, -⟩ := c.cache.complete_cases ⟨k, id⟩
      (outcome.result ApiConfig.console.timeoutMs)
    · simp [done, Cache.view, Cache.snapshot, Snapshot.ofEntry]
    · exact absurd running other

/-- **No stuck query.**  In every reachable client an entry that waits for a request has exactly one
read under way that carries its ticket; a key that somebody looks at has such a read, or an error,
or a value that is not stale; and a key that is shown as loading has a read under way that ends
it. -/
theorem Reachable.no_stuck_query {c : Client ι ω} (reach : c.Reachable) :
    (∀ k id, (c.cache.get k).inFlight = some id →
        Ticket.exchange ⟨k, id⟩ ∈ c.underWay ∧ k.request.method = .get ∧
          c.tickets.count ⟨k, id⟩ = 1) ∧
      (∀ k, 0 < (c.cache.get k).observers →
        (∃ id, (c.cache.get k).inFlight = some id ∧ Ticket.exchange ⟨k, id⟩ ∈ c.underWay) ∨
          (∃ err, (c.cache.get k).error = some err) ∨
          ((∃ v, (c.cache.get k).data = some v) ∧ (c.cache.get k).stale = false)) ∧
      (∀ active, (c.cache.view active).isLoading = true →
        ∃ k id, active = some k ∧ Ticket.exchange ⟨k, id⟩ ∈ c.underWay ∧ ∀ outcome,
          ((c.receive (Ticket.exchange ⟨k, id⟩) outcome).2.cache.view active).isLoading =
            false) := by
  have tracked := reach.tracked
  refine ⟨fun k id running => ?_, fun k seen => ?_, fun active => reach.loading_ends⟩
  · have mem := tracked.carried k id running
    exact ⟨tracked.exchange_mem mem, k.request_method,
      List.count_eq_one_of_mem tracked.distinct mem⟩
  · obtain ⟨id, running⟩ | settled := (reach.attended k seen).resolve_left List.not_mem_nil
    · exact .inl ⟨id, running, tracked.exchange_mem (tracked.carried k id running)⟩
    · exact .inr settled

/-- A key that is invalidated while its request runs waits for the request that was started in its
place, and the other one is under way without being waited for. -/
theorem Reachable.no_stuck_query_superseded :
    let c : Client Nat Unit := ((initial.perform (.mount 0)).perform
      (.swap 0 (some .calibers))).perform (.invalidate [.resource .calibers])
    c.Reachable ∧ c.tickets = [⟨.calibers, 1⟩, ⟨.calibers, 2⟩] ∧
      (c.cache.get .calibers).inFlight = some 2 ∧
      Ticket.exchange ⟨.calibers, 2⟩ ∈ c.underWay ∧ c.tickets.count ⟨.calibers, 2⟩ = 1 := by
  intro c
  have reach : c.Reachable :=
    ((Relation.ReflTransGen.single (.perform initial (.mount 0))).tail
      (.perform _ (.swap 0 (some .calibers)))).tail (.perform _ (.invalidate [.resource .calibers]))
  obtain ⟨under, -, once⟩ := reach.no_stuck_query.1 .calibers 2 rfl
  exact ⟨reach, rfl, rfl, under, once⟩

end Reachable

end Client

end MetricConsole
