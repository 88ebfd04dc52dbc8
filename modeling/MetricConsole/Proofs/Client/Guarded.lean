import MetricConsole.Proofs.Client.Observers

/-!
# Requests that may be sent

Which requests may leave can depend on what has happened so far.  A client is guarded if every
request that waits may be sent, and so may a read of every key that somebody looks at: these are the
keys that an invalidation reads again.  Then only a key that is read or looked at anew, and a write,
have to be examined.

* `Client.Guarded`: the invariant, with one lemma for each change of a client.
* `Client.entries_closed` and `Client.data_closed`: what a page does leaves of the entries, their
  values among it.
* `Client.lookup_swap`, `Client.lookup_mount`, `Client.lookup_unmount`: what stands with the name of
  a hook after a change of one hook.
-/

namespace MetricConsole

namespace Client

variable {ι ω : Type}

/-- Every request that waits may be sent, and so may a read of every key that somebody looks at. -/
structure Guarded (May : Request → Prop) (c : Client ι ω) : Prop where
  keyed : c.cache.Keyed
  observed : ∀ k, 0 < (c.cache.get k).observers → May k.request
  waiting : ∀ x ∈ c.outbox, May x.request

namespace Guarded

variable {May May' : Request → Prop} {c : Client ι ω}

theorem initial : Guarded May (.initial : Client ι ω) where
  keyed := Cache.keyed_empty
  observed _ looked := absurd looked (Nat.lt_irrefl 0)
  waiting _ mem := absurd mem List.not_mem_nil

theorem mono (wider : ∀ r, May r → May' r) (guarded : Guarded May c) : Guarded May' c where
  keyed := guarded.keyed
  observed k looked := wider _ (guarded.observed k looked)
  waiting x mem := wider _ (guarded.waiting x mem)

/-- Neither the hooks nor what is on the network matters. -/
theorem withHooks (guarded : Guarded May c) (hooks : List (ι × Option QueryKey)) :
    Guarded May { c with hooks := hooks } :=
  ⟨guarded.keyed, guarded.observed, guarded.waiting⟩

theorem withPending (guarded : Guarded May c) (pending : List (Exchange ω)) :
    Guarded May { c with pending := pending } :=
  ⟨guarded.keyed, guarded.observed, guarded.waiting⟩

theorem depart (guarded : Guarded May c) : Guarded May c.depart.2 where
  keyed := guarded.keyed
  observed := guarded.observed
  waiting _ mem := absurd mem List.not_mem_nil

/-- What departs may be sent. -/
theorem departing (guarded : Guarded May c) : ∀ x ∈ c.depart.1, May x.request := fun x mem =>
  guarded.waiting x (List.mem_mergeSort.mp mem)

theorem write (guarded : Guarded May c) {m : Mutation} {body : Option Json}
    (may : May (m.request body)) (shape : Shape) (tag : ω) :
    Guarded May (c.write m body shape tag) where
  keyed := guarded.keyed
  observed := guarded.observed
  waiting x mem := by
    rcases List.mem_append.mp mem with old | new
    · exact guarded.waiting x old
    · rwa [List.mem_singleton.mp new]

/-! ### Reads and invalidations -/

theorem fetch (guarded : Guarded May c) {k : QueryKey} (may : May k.request) :
    Guarded May (c.fetch k) where
  keyed := keyed_closed.fetch k guarded.keyed
  observed q looked := guarded.observed q (by rwa [observers_fetch] at looked)
  waiting x mem := by
    obtain ⟨-, same⟩ | ⟨-, -, started⟩ := c.fetch_cases k
    · exact guarded.waiting x (by rwa [same] at mem)
    · rw [started] at mem
      rcases List.mem_append.mp mem with old | new
      · exact guarded.waiting x old
      · rwa [List.mem_singleton.mp new]

theorem fetchAll (guarded : Guarded May c) {ks : List QueryKey}
    (may : ∀ k ∈ ks, May k.request) : Guarded May (c.fetchAll ks) := by
  induction ks generalizing c with
  | nil => exact guarded
  | cons k ks ih =>
    obtain ⟨first, others⟩ := List.forall_mem_cons.mp may
    exact ih (guarded.fetch first) others

/-- An invalidation reads again only what somebody looks at. -/
theorem invalidate (guarded : Guarded May c) (is : List Invalidation) :
    Guarded May (c.invalidate is) := by
  have expired : Guarded May (c.expire is) :=
    ⟨guarded.keyed.invalidateAll is,
      fun k looked => guarded.observed k (by simpa [expire] using looked), guarded.waiting⟩
  rw [invalidate_eq]
  refine expired.fetchAll fun k again => ?_
  exact guarded.observed k ((guarded.keyed.mem_invalidateAll_iff is k).mp again).2

theorem receive (guarded : Guarded May c) (e : Exchange ω) (outcome : Outcome) :
    Guarded May (c.receive e outcome).2 := by
  refine receive_keeps guarded (fun t r => ?_) guarded.invalidate e outcome
  exact ⟨guarded.keyed.complete t r, fun k looked => guarded.observed k (by simpa using looked),
    guarded.waiting⟩

/-! ### Hooks -/

theorem release (guarded : Guarded May c) (slot : Option QueryKey) :
    Guarded May (c.release slot) := by
  cases slot with
  | none => exact guarded
  | some q =>
    have looks (k) (looked : 0 < ((c.release (some q)).cache.get k).observers) :
        0 < (c.cache.get k).observers := by
      rw [observers_release] at looked
      exact Nat.lt_of_lt_of_le looked (Nat.sub_le _ _)
    exact ⟨guarded.keyed.unobserve q, fun k looked => guarded.observed k (looks k looked),
      guarded.waiting⟩

theorem acquire (guarded : Guarded May c) {slot : Option QueryKey}
    (may : ∀ k, slot = some k → May k.request) : Guarded May (c.acquire slot) := by
  cases slot with
  | none => exact guarded
  | some q =>
    have observed : Guarded May (c.observe q) := by
      refine ⟨guarded.keyed.observe q, fun k looked => ?_, guarded.waiting⟩
      by_cases same : k = q
      · rw [same]
        exact may q rfl
      · apply guarded.observed k
        simpa [observe, Cache.get_observe, same] using looked
    exact observed.fetch (may q rfl)

variable [DecidableEq ι]

theorem unmount (guarded : Guarded May c) (i : ι) : Guarded May (c.unmount i) :=
  (guarded.release _).withHooks _

theorem mount (guarded : Guarded May c) (i : ι) : Guarded May (c.mount i) :=
  (guarded.unmount i).withHooks _

theorem swap (guarded : Guarded May c) (i : ι) {next : Option QueryKey}
    (may : ∀ k, next = some k → May k.request) : Guarded May (c.swap i next) := by
  unfold Client.swap
  split
  · exact guarded
  · split
    · exact guarded
    · exact ((guarded.withHooks _).release _).acquire may

end Guarded

/-! ## Values -/

/-- Nothing that a page does changes more of an entry than whether it is stale, what it waits for
and how many look at it. -/
theorem entries_closed {P : QueryKey → CacheEntry → Prop}
    (rest : ∀ k e s running n,
      P k e → P k { e with stale := s, inFlight := running, observers := n }) :
    Closed (fun c : Client ι ω => ∀ k, P k (c.cache.get k)) where
  fetch {c} k holds q := by
    obtain ⟨-, kept⟩ | ⟨-, -, started⟩ := c.fetch_cases k
    · rw [kept]
      exact holds q
    · rw [started]
      by_cases key : q = k
      · subst key
        simp only [Cache.get_begun_self]
        exact rest q _ _ _ _ (holds q)
      · simp only [Cache.get_begun_of_ne c.cache key]
        exact holds q
  expire {c} is holds q := by
    cases hit : is.any (·.matches q) with
    | false =>
      simp only [expire, Cache.get_invalidateAll_of_not hit]
      exact holds q
    | true =>
      obtain ⟨s, entry, -⟩ := Cache.get_invalidateAll_of_any (c := c.cache) hit
      simp only [expire, entry]
      exact rest q _ _ _ _ (holds q)
  observe {c} k holds q := by
    obtain ⟨n, entry⟩ := c.cache.get_observe_eq k q
    simp only [observe, entry]
    exact rest q _ _ _ _ (holds q)
  unobserve {c} k holds q := by
    obtain ⟨n, entry⟩ := c.cache.get_unobserve_eq k q
    simp only [unobserve, entry]
    exact rest q _ _ _ _ (holds q)
  hooks _ holds := holds
  write _ _ _ _ holds := holds

/-- Nothing that a page does changes a value. -/
theorem data_closed (data : QueryKey → Option Json) :
    Closed (fun c : Client ι ω => ∀ k, (c.cache.get k).data = data k) :=
  entries_closed (P := fun k e => e.data = data k) fun _ _ _ _ _ same => same

/-- A value after the answer to an exchange was there before, or it is the value of the answer to
the read that its entry waited for. -/
theorem data_receive {c : Client ι ω} {e : Exchange ω} {outcome : Outcome} {k : QueryKey} {v : Json}
    (value : ((c.receive e outcome).2.cache.get k).data = some v) :
    (c.cache.get k).data = some v ∨
      ∃ id, e.purpose = .read ⟨k, id⟩ ∧ (c.cache.get k).inFlight = some id ∧
        outcome.result ApiConfig.console.timeoutMs = .ok v := by
  obtain ⟨t, read, done⟩ | ⟨m, shape, tag, w, -, -, done⟩ | ⟨m, shape, tag, err, -, -, done⟩ :=
    c.receive_cases e outcome
  · rw [done] at value
    obtain ⟨awaited, settled⟩ | ⟨-, dropped⟩ :=
      c.cache.complete_cases t (outcome.result ApiConfig.console.timeoutMs)
    · simp only [settled, Cache.get_put] at value
      split at value
      · next key =>
        subst key
        cases result : outcome.result ApiConfig.console.timeoutMs with
        | ok w =>
          obtain rfl : w = v := by simpa [result, CacheEntry.settle] using value
          exact .inr ⟨t.id, read, awaited, rfl⟩
        | error err => exact .inl (by simpa [result, CacheEntry.settle] using value)
      · exact .inl value
    · simp only [dropped] at value
      exact .inl value
  · rw [done] at value
    have kept := (data_closed fun q => (c.cache.get q).data).invalidate (c := c)
      m.invalidations fun q => rfl
    exact .inl ((kept k).symm.trans value)
  · rw [done] at value
    exact .inl value

/-! ## Names of hooks -/

theorem hooks_fetchAll (c : Client ι ω) (ks : List QueryKey) : (c.fetchAll ks).hooks = c.hooks := by
  induction ks generalizing c with
  | nil => rfl
  | cons k ks ih => exact (ih (c.fetch k)).trans (c.hooks_fetch k)

theorem hooks_receive (c : Client ι ω) (e : Exchange ω) (outcome : Outcome) :
    (c.receive e outcome).2.hooks = c.hooks :=
  receive_keeps (I := fun c' => c'.hooks = c.hooks) rfl (fun _ _ => rfl)
    (fun is => (c.expire is).hooks_fetchAll _) e outcome

theorem hooks_release (c : Client ι ω) (slot : Option QueryKey) :
    (c.release slot).hooks = c.hooks := by
  cases slot <;> rfl

theorem hooks_acquire (c : Client ι ω) (slot : Option QueryKey) :
    (c.acquire slot).hooks = c.hooks := by
  cases slot with
  | none => rfl
  | some q => exact (c.observe q).hooks_fetch q

variable [DecidableEq ι]

theorem lookup_filter_ne (hooks : List (ι × Option QueryKey)) (i j : ι) :
    (hooks.filter fun h => h.1 ≠ i).lookup j = if j = i then none else hooks.lookup j := by
  induction hooks with
  | nil => simp
  | cons h hooks ih =>
    obtain ⟨name, slot⟩ := h
    by_cases gone : name = i
    · rw [List.filter_cons_of_neg (by simp [gone]), ih, gone]
      by_cases same : j = i
      · simp [same]
      · simp [same, List.lookup_cons, beq_false_of_ne same]
    · rw [List.filter_cons_of_pos (by simp [gone]), List.lookup_cons, List.lookup_cons, ih]
      by_cases same : j = name
      · simp [same, gone]
      · simp [beq_false_of_ne same]

theorem lookup_map_name (hooks : List (ι × Option QueryKey)) (i : ι) (next : Option QueryKey)
    (j : ι) : (hooks.map fun h => if h.1 = i then (i, next) else h).lookup j =
      if j = i then (hooks.lookup i).map fun _ => next else hooks.lookup j := by
  induction hooks with
  | nil => simp
  | cons h hooks ih =>
    obtain ⟨name, slot⟩ := h
    by_cases moved : name = i
    · by_cases same : j = i
      · simp [moved, same]
      · simp [moved, same, List.lookup_cons, beq_false_of_ne same, ih]
    · rw [List.map_cons, if_neg moved, List.lookup_cons, List.lookup_cons, List.lookup_cons, ih,
        beq_false_of_ne (Ne.symm moved)]
      by_cases same : j = name
      · simp [same, moved]
      · simp [beq_false_of_ne same]

theorem lookup_unmount (c : Client ι ω) (i j : ι) :
    (c.unmount i).hooks.lookup j = if j = i then none else c.hooks.lookup j := by
  change ((c.release (c.held i)).hooks.filter fun h => h.1 ≠ i).lookup j = _
  rw [hooks_release, lookup_filter_ne]

theorem lookup_mount (c : Client ι ω) (i j : ι) :
    (c.mount i).hooks.lookup j = if j = i then some none else c.hooks.lookup j := by
  change ((c.unmount i).hooks ++ [(i, none)]).lookup j = _
  rw [List.lookup_append, lookup_unmount]
  by_cases same : j = i
  · simp [same]
  · simp [same, List.lookup_cons, beq_false_of_ne same]

/-- A hook that is mounted holds the key that it was swapped to, and the others stay. -/
theorem lookup_swap (c : Client ι ω) (i : ι) (next : Option QueryKey) (j : ι) :
    (c.swap i next).hooks.lookup j =
      if j = i then (c.hooks.lookup i).map fun _ => next else c.hooks.lookup j := by
  unfold swap
  split
  · next missing =>
    split
    · next same => rw [same, missing, Option.map_none]
    · rfl
  · next last found =>
    split
    · next kept =>
      split
      · next same => rw [same, found, kept, Option.map_some]
      · rfl
    · rw [hooks_acquire, hooks_release, lookup_map_name]

end Client

end MetricConsole
