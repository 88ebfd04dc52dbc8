import MetricConsole.Proofs.Client.WriteEffect

/-!
# When a hook has nothing to show

A hook shows the value of its key in the shape in which it is read, or that the value is loading, or
an error.  Every failure leaves an error in the entry, and no entry that somebody looks at is
without a value, a request and an error.  But the cache keeps a value before anybody reads it in a
shape: a confirmed read whose value has another shape leaves the hook without anything to show.

* `Snapshot.Silent`: there is nothing to show.
* `Client.Reachable.silent_iff_unreadable`: a hook is silent exactly while the entry holds a value
  of another shape and no error, and the answer that it waits for makes it so exactly by confirming
  such a value.
* `Client.Reachable.exists_silent`: this happens.
-/

namespace MetricConsole

/-! ## Outcomes -/

/-- The outcomes that confirm a value are those whose result it is. -/
theorem Outcome.confirms_iff {outcome : Outcome} {v : Json} :
    outcome.Confirms v ↔ outcome.result ApiConfig.console.timeoutMs = .ok v := by
  refine ⟨Confirms.result, fun result => ?_⟩
  cases outcome with
  | failed text => cases result
  | timedOut => cases result
  | answered status body =>
    simp only [Outcome.result] at result
    split at result
    · next success =>
      simp only [isSuccess, Bool.and_eq_true, decide_eq_true_eq] at success
      unfold decodeBody at result
      split at result
      · next blank =>
        cases result
        exact .blank success.1 success.2 blank
      · next written =>
        split at result
        · next parsed =>
          cases result
          exact .value success.1 success.2 written parsed
        · cases result
    · cases result

namespace Snapshot

variable {α : Type} [Codec α]

/-- Whoever reads the value as `α` has nothing to show: no value, no loading and no error. -/
structure Silent (α : Type) [Codec α] (s : Snapshot) : Prop where
  unread : s.decode? α = none
  notLoading : s.isLoading = false
  noError : s.error = none

/-- An entry is silent if it has no error, does not load a first value, and holds none that can be
read. -/
theorem silent_ofEntry_iff {e : CacheEntry} :
    (ofEntry e).Silent α ↔
      e.error = none ∧ (e.data = none → e.inFlight = none) ∧
        ∀ v, e.data = some v → (MetricConsole.decode? v : Option α) = none := by
  constructor
  · rintro ⟨unread, notLoading, noError⟩
    refine ⟨noError, fun missing => ?_, fun v value => ?_⟩
    · simpa [ofEntry, missing] using notLoading
    · simpa [ofEntry, Snapshot.decode?, value] using unread
  · rintro ⟨noError, idle, unreadable⟩
    refine ⟨?_, ?_, noError⟩
    · exact Option.bind_eq_none_iff.mpr unreadable
    · cases value : e.data with
      | none => simp [ofEntry, value, idle value]
      | some v => simp [ofEntry, value]

/-- The result of a request leaves an entry silent exactly if it is a value that cannot be read. -/
theorem silent_settle_iff {e : CacheEntry} {result : Except ApiError Json} :
    (ofEntry (e.settle result)).Silent α ↔
      ∃ v, result = .ok v ∧ (MetricConsole.decode? v : Option α) = none := by
  rw [silent_ofEntry_iff]
  cases result with
  | ok v => simp [CacheEntry.settle]
  | error err => simp [CacheEntry.settle]

end Snapshot

namespace Client

variable {ι ω : Type} [DecidableEq ι]

/-- A hook shows the entry of the key that it holds. -/
theorem snapshot_of_held {c : Client ι ω} {i : ι} {k : QueryKey} (held : c.held i = some k) :
    c.snapshot i = .ofEntry (c.cache.get k) := by
  simp [snapshot, Cache.view, Cache.snapshot, held]

omit [DecidableEq ι] in
/-- The answer that an entry waits for settles it, whatever it is. -/
theorem get_receive_awaited {c : Client ι ω} {k : QueryKey} {id : Nat}
    (awaited : (c.cache.get k).inFlight = some id) (outcome : Outcome) :
    (c.receive (Ticket.exchange ⟨k, id⟩) outcome).2.cache.get k =
      (c.cache.get k).settle (outcome.result ApiConfig.console.timeoutMs) := by
  obtain ⟨-, done⟩ | ⟨other, -⟩ := c.cache.complete_cases ⟨k, id⟩
    (outcome.result ApiConfig.console.timeoutMs)
  · simp [receive, Ticket.exchange, done]
  · exact absurd awaited other

/-- **Silence is a value of another shape.**  In every reachable client a hook that reads its key as
`α` is silent exactly while the entry of the key holds a value that is no `α` and no error.  The
answer that the key waits for ends its loading, and it leaves the hook silent exactly if it confirms
such a value; every other answer leaves a value or an error to show. -/
theorem Reachable.silent_iff_unreadable {c : Client ι ω} {i : ι} {k : QueryKey}
    (reach : c.Reachable) (held : c.held i = some k) (α : Type) [Codec α] :
    ((c.snapshot i).Silent α ↔ ∃ v, (c.cache.get k).data = some v ∧
        (decode? v : Option α) = none ∧ (c.cache.get k).error = none) ∧
      ∀ (id : Nat) (before after : List (Exchange ω)) (outcome : Outcome),
        c.pending = before ++ Ticket.exchange ⟨k, id⟩ :: after →
        (c.cache.get k).inFlight = some id →
        let c' := (({ c with pending := before ++ after } : Client ι ω).receive
          (Ticket.exchange ⟨k, id⟩) outcome).2
        c'.held i = some k ∧ (c'.snapshot i).isLoading = false ∧
          ((c'.snapshot i).Silent α ↔
            ∃ v, outcome.Confirms v ∧ (decode? v : Option α) = none) := by
  constructor
  · rw [snapshot_of_held held, Snapshot.silent_ofEntry_iff]
    constructor
    · rintro ⟨noError, idle, unreadable⟩
      have observed := reach.counted.observed held
      -- an entry that is looked at waits for a request, or has an error, or has a value
      obtain ⟨id, running⟩ | ⟨err, failed⟩ | ⟨⟨v, value⟩, -⟩ :=
        (reach.attended k observed).resolve_left List.not_mem_nil
      · cases value : (c.cache.get k).data with
        | none => exact absurd running (by simp [idle value])
        | some v => exact ⟨v, rfl, unreadable v value, noError⟩
      · exact absurd failed (by simp [noError])
      · exact ⟨v, value, unreadable v value, noError⟩
    · rintro ⟨v, value, unreadable, noError⟩
      refine ⟨noError, fun missing => absurd value (by simp [missing]), fun w same => ?_⟩
      rw [value] at same
      exact Option.some.inj same ▸ unreadable
  · intro id before after outcome split awaited c'
    have held' : c'.held i = some k := held
    have settled : c'.cache.get k = _ :=
      get_receive_awaited (c := { c with pending := before ++ after }) awaited outcome
    refine ⟨held', ?_, ?_⟩
    · rw [snapshot_of_held held', settled]
      simp [Snapshot.ofEntry]
    · rw [snapshot_of_held held', settled, Snapshot.silent_settle_iff]
      simp only [Outcome.confirms_iff]

/-- A hook waits for its first calibers. -/
def loadingCalibers : Client Nat Unit :=
  ⟨⟨[(.calibers, ⟨none, none, false, some 1, 1⟩)], 1⟩, [(0, some .calibers)],
    [Ticket.exchange ⟨.calibers, 1⟩], []⟩

theorem loadingCalibers_reachable : loadingCalibers.Reachable := by
  have departed : Reachable (ι := Nat) (ω := Unit) _ := ((Relation.ReflTransGen.single
    (Step.perform initial (.mount 0))).tail (.perform _ (.swap 0 (some .calibers)))).tail
    (.depart _)
  rwa [depart_singleton rfl] at departed

/-- A hook waits for the calibers.  A failure gives it an error, and a confirmation without a value
leaves it silent. -/
theorem Reachable.silent_iff_unreadable_empty :
    let read : Exchange Unit := Ticket.exchange ⟨.calibers, 1⟩
    let answered (outcome : Outcome) :=
      (({ loadingCalibers with pending := [] } : Client Nat Unit).receive read outcome).2
    loadingCalibers.Reachable ∧ loadingCalibers.held 0 = some .calibers ∧
      loadingCalibers.pending = [] ++ read :: [] ∧
      (loadingCalibers.cache.get .calibers).inFlight = some 1 ∧
      ¬ (loadingCalibers.snapshot 0).Silent (List Caliber) ∧
      ¬ ((answered (.answered 500 "")).snapshot 0).Silent (List Caliber) ∧
      ((answered (.answered 200 "")).snapshot 0).Silent (List Caliber) := by
  intro read answered
  obtain ⟨now, later⟩ :=
    loadingCalibers_reachable.silent_iff_unreadable (i := 0) rfl (List Caliber)
  have confirms : Outcome.Confirms (.answered 200 "") .null :=
    .blank (by decide) (by decide) (by decide)
  refine ⟨loadingCalibers_reachable, rfl, rfl, rfl, ?loading, ?failed, ?confirmed⟩
  case loading =>
    rw [now]
    rintro ⟨v, value, -⟩
    cases value
  case failed =>
    obtain ⟨-, -, silent⟩ := later 1 [] [] (.answered 500 "") rfl rfl
    intro quiet
    obtain ⟨v, confirmed, -⟩ := silent.mp quiet
    cases Outcome.confirms_iff.mp confirmed
  case confirmed =>
    obtain ⟨-, -, silent⟩ := later 1 [] [] (.answered 200 "") rfl rfl
    exact silent.mpr ⟨.null, confirms, rfl⟩

/-- Not every hook that holds a key has something to show: one that reads the calibers is silent
once they were confirmed with an empty body. -/
theorem Reachable.exists_silent :
    ¬ ∀ (c : Client Nat Unit) (i : Nat) (k : QueryKey), c.Reachable → c.held i = some k →
      ¬ (c.snapshot i).Silent (List Caliber) := by
  intro shown
  have split : loadingCalibers.pending = [] ++ Ticket.exchange ⟨.calibers, 1⟩ :: [] := rfl
  have reach := loadingCalibers_reachable.tail (.answer (.answered 200 "") split)
  exact shown _ 0 .calibers reach rfl ⟨rfl, rfl, rfl⟩

end Client

end MetricConsole
