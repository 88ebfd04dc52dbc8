import MetricConsole.Proofs.Client.Observers
import MetricConsole.Proofs.Client.Tracking
import MetricConsole.Proofs.Client.World

/-!
# A page reads its own writes

A value that is not stale was answered after every confirmed write that makes its key stale.  The
write takes the ticket of the running read away when it is confirmed, so an answer from before the
write is dropped whenever it arrives; a read that is started afterwards is served afterwards.

* `World.Follows`: a moment after every confirmed write that makes a key stale.
* `World.UpToDate`: values that are not stale, and answers that are waited for, are from such
  moments.
* `World.Reachable.reads_own_writes`: so is what a hook at rest shows.
-/

namespace MetricConsole

namespace World

variable {ι ω : Type} {log : List (Exchange ω × Outcome)} {confirmed : List (Mutation × Nat)}
  {flights : List (Flight ω)}

/-- The moment is later than every confirmed write that makes the key stale. -/
def Follows (confirmed : List (Mutation × Nat)) (k : QueryKey) (p : Nat) : Prop :=
  ∀ m q, (m, q) ∈ confirmed → m.invalidates k = true → q < p

/-- A value that is not stale is from a moment since the confirmed writes, and so is whatever was
served to a read that an entry waits for. -/
structure UpToDate (log : List (Exchange ω × Outcome)) (confirmed : List (Mutation × Nat))
    (flights : List (Flight ω)) (c : Client ι ω) : Prop where
  numbered : ∀ f ∈ flights, ∀ t, f.exchange.ticket? = some t → t.id ≤ c.cache.started
  awaited : ∀ f ∈ flights, ∀ t p, f.exchange.ticket? = some t → f.served = some p →
    (c.cache.get t.key).inFlight = some t.id → Follows confirmed t.key p
  current : ∀ k v, (c.cache.get k).data = some v → (c.cache.get k).stale = false →
    ∃ p, Answered log k v p ∧ Follows confirmed k p

/-! ## What a page does -/

/-- Entries may lose what they wait for or wait for something with a new number, and values may
become stale. -/
theorem UpToDate.of_entries {c c' : Client ι ω} (upToDate : UpToDate log confirmed flights c)
    (started : c.cache.started ≤ c'.cache.started)
    (running : ∀ k id, (c'.cache.get k).inFlight = some id →
      (c.cache.get k).inFlight = some id ∨ c.cache.started < id)
    (values : ∀ k v, (c'.cache.get k).data = some v → (c'.cache.get k).stale = false →
      (c.cache.get k).data = some v ∧ (c.cache.get k).stale = false) :
    UpToDate log confirmed flights c' where
  numbered f mem t ticket := Nat.le_trans (upToDate.numbered f mem t ticket) started
  awaited f mem t p ticket served waiting := by
    rcases running t.key t.id waiting with old | new
    · exact upToDate.awaited f mem t p ticket served old
    · exact absurd (upToDate.numbered f mem t ticket) (Nat.not_le_of_lt new)
  current k v data current := by
    obtain ⟨data, current⟩ := values k v data current
    exact upToDate.current k v data current

theorem UpToDate.closed :
    Client.Closed (UpToDate (ι := ι) log confirmed flights) where
  fetch {c} k upToDate := by
    obtain ⟨-, same⟩ | ⟨-, -, start⟩ := c.fetch_cases k
    · rwa [same]
    · rw [start]
      refine upToDate.of_entries (Nat.le_succ _) (fun q id waiting => ?_) fun q v data current => ?_
      · by_cases key : q = k
        · subst key
          have number : c.cache.started + 1 = id := by simpa using waiting
          exact .inr (number ▸ Nat.lt_succ_self _)
        · exact .inl (by simpa [Cache.get_begun_of_ne _ key] using waiting)
      · by_cases key : q = k
        · subst key
          exact ⟨by simpa using data, by simpa using current⟩
        · simp only [Cache.get_begun_of_ne _ key] at data current
          exact ⟨data, current⟩
  expire {c} is upToDate := by
    refine upToDate.of_entries (Nat.le_of_eq (Cache.invalidateAll_started c.cache is).symm)
      (fun q id waiting => .inl (Cache.inFlight_of_invalidateAll waiting).2)
      fun q v data current => (Cache.current_of_invalidateAll data current).2
  observe {c} k upToDate := by
    refine upToDate.of_entries (Nat.le_refl _) (fun q id waiting => .inl ?_)
      fun q v data current => ?_
    all_goals
      obtain ⟨n, entry⟩ := Cache.get_observe_eq c.cache k q
      simp_all [Client.observe]
  unobserve {c} k upToDate := by
    refine upToDate.of_entries (Nat.le_of_eq (Cache.unobserve_started c.cache k).symm)
      (fun q id waiting => .inl ?_) fun q v data current => ?_
    all_goals
      obtain ⟨n, entry⟩ := Cache.get_unobserve_eq c.cache k q
      simp_all [Client.unobserve]
  hooks _ upToDate := ⟨upToDate.numbered, upToDate.awaited, upToDate.current⟩
  write _ _ _ _ upToDate := ⟨upToDate.numbered, upToDate.awaited, upToDate.current⟩

/-! ## Answers -/

theorem Follows.concat {k : QueryKey} {p : Nat} {m : Mutation} {q : Nat}
    (follows : Follows confirmed k p) (unrelated : m.invalidates k = false) :
    Follows (confirmed ++ [(m, q)]) k p := by
  intro m' q' mem hit
  rcases List.mem_append.mp mem with old | new
  · exact follows m' q' old hit
  · cases List.mem_singleton.mp new
    rw [unrelated] at hit
    cases hit

/-- A confirmed write expires whatever it may have changed, and takes the tickets of the reads that
the catalog may have served before it. -/
theorem UpToDate.confirm {c : Client ι ω} (upToDate : UpToDate log confirmed flights c)
    (m : Mutation) (q : Nat) :
    UpToDate log (confirmed ++ [(m, q)]) flights (c.expire m.invalidations) where
  numbered f mem t ticket :=
    (Cache.invalidateAll_started c.cache m.invalidations).symm ▸ upToDate.numbered f mem t ticket
  awaited f mem t p ticket served waiting := by
    obtain ⟨unrelated, old⟩ := Cache.inFlight_of_invalidateAll waiting
    exact (upToDate.awaited f mem t p ticket served old).concat unrelated
  current k v data current := by
    obtain ⟨unrelated, data, current⟩ := Cache.current_of_invalidateAll data current
    obtain ⟨p, answered, follows⟩ := upToDate.current k v data current
    exact ⟨p, answered, follows.concat unrelated⟩

/-- An exchange that is answered is on its way no longer. -/
theorem UpToDate.without {c : Client ι ω} {before after : List (Flight ω)} {f : Flight ω}
    (upToDate : UpToDate log confirmed (before ++ f :: after) c) :
    UpToDate log confirmed (before ++ after) c := by
  have fewer : (before ++ after).Sublist (before ++ f :: after) :=
    (List.sublist_cons_self f after).append_left before
  exact ⟨fun g mem => upToDate.numbered g (fewer.subset mem),
    fun g mem => upToDate.awaited g (fewer.subset mem), upToDate.current⟩

/-- The pending exchanges are not part of it: those on their way are listed. -/
theorem UpToDate.withPending {c : Client ι ω} (upToDate : UpToDate log confirmed flights c)
    (pending : List (Exchange ω)) :
    UpToDate log confirmed flights ({ c with pending := pending } : Client ι ω) :=
  ⟨upToDate.numbered, upToDate.awaited, upToDate.current⟩

/-- A value that the catalog gave is settled for the entry that waits for it. -/
theorem UpToDate.complete {c : Client ι ω} {f : Flight ω} {t : Ticket} {outcome : Outcome}
    (upToDate : UpToDate log confirmed flights c) (mem : f ∈ flights)
    (ticket : f.exchange = t.exchange) (genuine : Genuine log f outcome) :
    UpToDate log confirmed flights
      ({ c with cache := (c.cache.complete t outcome.received).2 } : Client ι ω) where
  numbered g mem u ticket := by simpa using upToDate.numbered g mem u ticket
  awaited g mem u p ticket served waiting :=
    upToDate.awaited g mem u p ticket served (Cache.inFlight_of_complete waiting).1
  current k v data current := by
    change ((c.cache.complete t outcome.received).2.get k).data = some v at data
    change ((c.cache.complete t outcome.received).2.get k).stale = false at current
    obtain ⟨running, done⟩ | ⟨-, done⟩ := c.cache.complete_cases t outcome.received
    · rw [done, Cache.get_put] at data current
      split at data
      · next same =>
        rw [if_pos same] at current
        subst same
        cases result : outcome.received with
        | error err =>
          rw [result] at data current
          exact upToDate.current t.key v data current
        | ok value =>
          rw [result] at data
          cases data
          obtain ⟨p, served, logged⟩ := genuine v result
          rw [ticket] at logged
          exact ⟨p, ⟨t.id, outcome, logged, result⟩,
            upToDate.awaited f mem t p (by rw [ticket]; rfl) served running⟩
      · next other =>
        rw [if_neg other] at current
        exact upToDate.current k v data current
    · rw [done] at data current
      exact upToDate.current k v data current

/-! ## What the catalog serves -/

theorem Answered.append {k : QueryKey} {v : Json} {p : Nat} (answered : Answered log k v p)
    (more : List (Exchange ω × Outcome)) : Answered (log ++ more) k v p := by
  obtain ⟨id, outcome, logged, result⟩ := answered
  have bound := (List.getElem?_eq_some_iff.mp logged).1
  exact ⟨id, outcome, by rwa [List.getElem?_append_left bound], result⟩

/-- What is served now is served after all that was confirmed. -/
theorem UpToDate.serve {c : Client ι ω} {before after : List (Flight ω)} {e : Exchange ω}
    (upToDate : UpToDate log confirmed (before ++ ⟨e, none⟩ :: after) c)
    (past : ∀ m q, (m, q) ∈ confirmed → q < log.length) (outcome : Outcome) :
    UpToDate (log ++ [(e, outcome)]) confirmed (before ++ ⟨e, some log.length⟩ :: after) c := by
  have older : ∀ f, f ∈ before ++ ⟨e, some log.length⟩ :: after →
      f ∈ before ++ ⟨e, none⟩ :: after ∨ f = ⟨e, some log.length⟩ := fun f mem => by
    simp only [List.mem_append, List.mem_cons] at mem ⊢
    tauto
  refine ⟨fun f mem t ticket => ?_, fun f mem t p ticket served waiting => ?_,
    fun k v data current => ?_⟩
  · rcases older f mem with old | rfl
    · exact upToDate.numbered f old t ticket
    · exact upToDate.numbered ⟨e, none⟩ (by simp) t ticket
  · rcases older f mem with old | rfl
    · exact upToDate.awaited f old t p ticket served waiting
    · cases served
      exact fun m q mem _ => past m q mem
  · obtain ⟨p, answered, follows⟩ := upToDate.current k v data current
    exact ⟨p, answered.append _, follows⟩

/-! ## Reachable worlds -/

theorem CarriedOut.lt {m : Mutation} {q : Nat} (carriedOut : CarriedOut log m q) :
    q < log.length := by
  obtain ⟨e, outcome, shape, tag, v, logged, -⟩ := carriedOut
  exact (List.getElem?_eq_some_iff.mp logged).1

theorem CarriedOut.append {m : Mutation} {q : Nat} (carriedOut : CarriedOut log m q)
    (more : List (Exchange ω × Outcome)) : CarriedOut (log ++ more) m q := by
  have bound := carriedOut.lt
  obtain ⟨e, outcome, shape, tag, v, logged, write⟩ := carriedOut
  exact ⟨e, outcome, shape, tag, v, by rwa [List.getElem?_append_left bound], write⟩

/-- Confirmed writes were carried out, and what the client shows as current is from a moment since
all of them. -/
structure Sound (w : World ι ω) : Prop where
  past : ∀ m q, (m, q) ∈ w.confirmed → CarriedOut w.log m q
  upToDate : UpToDate w.log w.confirmed w.flights w.client

variable [DecidableEq ι]

theorem Reachable.mem_underWay {w : World ι ω} (reach : w.Reachable) {f : Flight ω}
    (mem : f ∈ w.flights) : f.exchange ∈ w.client.underWay := by
  refine List.mem_append_left _ ?_
  rw [reach.aboard]
  exact List.mem_map_of_mem mem

theorem Sound.depart {w : World ι ω} (sound : Sound w) (reach : w.Reachable) :
    UpToDate w.log w.confirmed (w.flights ++ w.client.depart.1.map (⟨·, none⟩))
      w.client.depart.2 := by
  have tracked := reach.client_reachable.tracked.depart
  refine ⟨fun f mem t ticket => ?_, fun f mem t p ticket served => ?_, sound.upToDate.current⟩
  · rcases List.mem_append.mp mem with old | new
    · exact sound.upToDate.numbered f old t ticket
    · obtain ⟨e, left, rfl⟩ := List.mem_map.mp new
      refine tracked.issued t (List.mem_filterMap.mpr ⟨e, ?_, ticket⟩)
      exact List.mem_append_left _ (List.mem_append_right _ left)
  · rcases List.mem_append.mp mem with old | new
    · exact sound.upToDate.awaited f old t p ticket served
    · obtain ⟨e, -, rfl⟩ := List.mem_map.mp new
      cases served

theorem Sound.answer {w : World ι ω} {before after : List (Flight ω)} {f : Flight ω}
    {outcome : Outcome} (sound : Sound w) (reach : w.Reachable)
    (split : w.flights = before ++ f :: after) (genuine : Genuine w.log f outcome) :
    Sound (w.answer before after f outcome) := by
  have upToDate := split ▸ sound.upToDate
  obtain ⟨t, purpose, done⟩ | ⟨m, shape, tag, v, purpose, result, done⟩ |
    ⟨m, shape, tag, err, purpose, result, done⟩ := Client.receive_cases
      ({ w.client with pending := (before ++ after).map Flight.exchange } : Client ι ω)
      f.exchange outcome
  · have unconfirmed : f.confirms? outcome = none := by simp [Flight.confirms?, purpose]
    have ticket : f.exchange = t.exchange :=
      reach.client_reachable.tracked.addressed _ (reach.mem_underWay (by simp [split])) t
        (by simp [Exchange.ticket?, purpose])
    refine ⟨by simpa [World.answer, unconfirmed] using sound.past, ?_⟩
    simp only [World.answer, unconfirmed, done, Option.toList_none, List.append_nil]
    exact (upToDate.complete (by simp) ticket genuine).without.withPending _
  · obtain ⟨p, served, logged⟩ := genuine v result
    have confirms : f.confirms? outcome = some (m, p) := by
      simp [Flight.confirms?, purpose, result, served]
    constructor
    · intro m' q mem
      simp only [World.answer, confirms, Option.toList_some] at mem ⊢
      rcases List.mem_append.mp mem with old | new
      · exact sound.past m' q old
      · cases List.mem_singleton.mp new
        exact ⟨f.exchange, outcome, shape, tag, v, logged, purpose, result⟩
    · simp only [World.answer, confirms, done, Option.toList_some]
      exact UpToDate.closed.fetchAll _ ((upToDate.confirm m p).without.withPending _)
  · have unconfirmed : f.confirms? outcome = none := by
      simp [Flight.confirms?, purpose, result]
    refine ⟨by simpa [World.answer, unconfirmed] using sound.past, ?_⟩
    simp only [World.answer, unconfirmed, done, Option.toList_none, List.append_nil]
    exact upToDate.without.withPending _

theorem Reachable.sound {w : World ι ω} (reach : w.Reachable) : Sound w := by
  induction reach with
  | refl => exact ⟨by simp [initial], by simp [initial], by simp [initial], nofun⟩
  | tail reach step ih =>
    cases step with
    | perform a => exact ⟨ih.past, UpToDate.closed.perform a ih.upToDate⟩
    | depart => exact ⟨ih.past, ih.depart reach⟩
    | serve before after outcome split =>
      exact ⟨fun m q mem => (ih.past m q mem).append _,
        (split ▸ ih.upToDate).serve (fun m q mem => (ih.past m q mem).lt) outcome⟩
    | answer before after outcome split genuine => exact ih.answer reach split genuine

/-- **Read your writes at rest.**  A hook whose key waits for no request and has no error has a
value, and the catalog gave that value for the key in a moment after it carried out every write that
has been confirmed and makes the key stale. -/
theorem Reachable.reads_own_writes {w : World ι ω} (reach : w.Reachable) {i : ι} {k : QueryKey}
    (held : w.client.held i = some k) (idle : (w.client.cache.get k).inFlight = none)
    (unfailed : (w.client.cache.get k).error = none) :
    ∃ v p, (w.client.cache.get k).data = some v ∧ Answered w.log k v p ∧
      ∀ m q, (m, q) ∈ w.confirmed → m.invalidates k = true → CarriedOut w.log m q ∧ q < p := by
  have client := reach.client_reachable
  have attended := client.attended k (client.counted.observed held)
  obtain ⟨id, running⟩ | ⟨err, failed⟩ | ⟨⟨v, data⟩, current⟩ :=
    attended.resolve_left List.not_mem_nil
  · rw [idle] at running
    cases running
  · rw [unfailed] at failed
    cases failed
  · obtain ⟨p, answered, follows⟩ := reach.sound.upToDate.current k v data current
    exact ⟨v, p, data, answered,
      fun m q mem hit => ⟨reach.sound.past m q mem, follows m q mem hit⟩⟩

/-- The list of calibers was read before a caliber was created, and its answer arrives when the
creation is confirmed already: it is dropped, and what is shown at last was read afterwards. -/
theorem Reachable.reads_own_writes_late :
    ∃ w : World Nat Unit, w.Reachable ∧ w.client.held 0 = some .calibers ∧
      (w.client.cache.get .calibers).inFlight = none ∧
      (w.client.cache.get .calibers).error = none ∧ (.createCaliber, 1) ∈ w.confirmed ∧
      ∃ v p, (w.client.cache.get .calibers).data = some v ∧ Answered w.log .calibers v p ∧
        1 < p := by
  let ok : Outcome := .answered 200 ""
  let read (id : Nat) : Exchange Unit := Ticket.exchange ⟨.calibers, id⟩
  let write : Exchange Unit :=
    ⟨Mutation.request .createCaliber none, .write .createCaliber .nothing ()⟩
  let client (entry : CacheEntry) (started : Nat) (pending outbox : List (Exchange Unit)) :
      Client Nat Unit := ⟨⟨[(.calibers, entry)], started⟩, [(0, some .calibers)], pending, outbox⟩
  have early : Reachable (⟨client ⟨none, none, false, some 1, 1⟩ 1 [read 1] [],
      [⟨read 1, some 0⟩], [(read 1, ok)], []⟩ : World Nat Unit) :=
    (((Relation.ReflTransGen.single (.perform initial (.mount 0))).tail
      (.perform _ (.swap 0 (some .calibers)))).tail (.depart_single rfl)).tail
      (.serve [] [] ok rfl)
  have written : Reachable (⟨client ⟨none, none, false, some 1, 1⟩ 1 [read 1, write] [],
      [⟨read 1, some 0⟩, ⟨write, some 1⟩], [(read 1, ok), (write, ok)], []⟩ : World Nat Unit) :=
    ((early.tail (.perform _ (.write .createCaliber none .nothing ()))).tail
      (.depart_single rfl)).tail (.serve [⟨read 1, some 0⟩] [] ok rfl)
  have confirmed : Reachable (⟨client ⟨none, none, true, some 2, 1⟩ 2 [read 1] [read 2],
      [⟨read 1, some 0⟩], [(read 1, ok), (write, ok)], [(.createCaliber, 1)]⟩ : World Nat Unit) :=
    written.tail
      (.answer [⟨read 1, some 0⟩] [] (f := ⟨write, some 1⟩) ok rfl fun _ _ => ⟨1, rfl, rfl⟩)
  have dropped : Reachable (⟨client ⟨none, none, true, some 2, 1⟩ 2 [] [read 2], [],
      [(read 1, ok), (write, ok)], [(.createCaliber, 1)]⟩ : World Nat Unit) :=
    confirmed.tail (.answer [] [] (f := ⟨read 1, some 0⟩) ok rfl fun _ _ => ⟨0, rfl, rfl⟩)
  have again : Reachable (⟨client ⟨none, none, true, some 2, 1⟩ 2 [read 2] [],
      [⟨read 2, some 2⟩], [(read 1, ok), (write, ok), (read 2, ok)],
      [(.createCaliber, 1)]⟩ : World Nat Unit) :=
    (dropped.tail (.depart_single rfl)).tail (.serve [] [] ok rfl)
  have shown : Reachable (⟨client ⟨some .null, none, false, none, 1⟩ 2 [] [], [],
      [(read 1, ok), (write, ok), (read 2, ok)], [(.createCaliber, 1)]⟩ : World Nat Unit) :=
    again.tail (.answer [] [] (f := ⟨read 2, some 2⟩) ok rfl fun _ _ => ⟨2, rfl, rfl⟩)
  obtain ⟨v, p, data, answered, later⟩ :=
    shown.reads_own_writes (i := 0) (k := .calibers) rfl rfl rfl
  exact ⟨_, shown, rfl, rfl, rfl, by simp, v, p, data, answered,
    (later .createCaliber 1 (by simp) rfl).2⟩

end World

end MetricConsole
