import MetricConsole.Proofs.Client.Silence

/-!
# Whether the cache takes notice of a confirmed write

The status of an answer tells that the catalog has carried out a write, so the entries that the
write matches are out of date from then on, whatever the body says.  The console decodes the answer
in two stages, and the cache takes notice of the write between them: a value of another shape comes
too late to matter, but a body that is neither blank nor JSON ends in an error before the cache
hears of the write.

* `Outcome.IsReadable`: the body stands for a value.
* `Client.TookNotice`: the matched entries are stale, or are being loaded again.
* `Client.confirmed_write_noticed_iff`: the cache takes notice of a confirmed write exactly if its
  body is readable, or nothing was left to notice.
* `Client.Reachable.exists_unnoticed_write`: a write is carried out and passed over.
-/

namespace MetricConsole

/-! ## Bodies -/

/-- The body stands for a value: it is blank, or a JSON text. -/
def Outcome.IsReadable (text : String) : Prop := Text.IsBlank text ∨ ∃ v, Json.parse text = .ok v

/-- A readable body has a value, and any other an error of decoding. -/
theorem Outcome.decodeBody_cases (text : String) :
    (IsReadable text ∧ ∃ v, decodeBody text = .ok v) ∨
      (¬ IsReadable text ∧ ∃ message, decodeBody text = .error (.decode message)) := by
  by_cases blank : Text.IsBlank text
  · exact .inl ⟨.inl blank, .null, by simp [decodeBody, blank]⟩
  · cases parsed : Json.parse text with
    | ok v => exact .inl ⟨.inr ⟨v, parsed⟩, v, by simp [decodeBody, blank, parsed]⟩
    | error f =>
      refine .inr ⟨?_, f.message text, by simp [decodeBody, blank, parsed]⟩
      rintro (isBlank | ⟨v, value⟩)
      · exact blank isBlank
      · cases parsed.symm.trans value

namespace Client

variable {ι ω : Type}

/-! ## Entries that are read again -/

/-- A read leaves an entry as it is, or starts the request that the entry did not wait for. -/
theorem find?_fetch_cases (c : Client ι ω) (q k : QueryKey) :
    (c.fetch q).cache.find? k = c.cache.find? k ∨
      (c.cache.get k).inFlight = none ∧ ∃ id,
        (c.fetch q).cache.find? k = some { c.cache.get k with inFlight := some id } := by
  obtain ⟨-, same⟩ | ⟨idle, -, started⟩ := c.fetch_cases q
  · exact .inl (by rw [same])
  · rw [started]
    by_cases key : k = q
    · subst key
      exact .inr ⟨idle, _, Cache.find?_put_self c.cache k _⟩
    · exact .inl (Cache.find?_put_of_ne c.cache _ key)

theorem find?_fetchAll_cases (c : Client ι ω) (qs : List QueryKey) (k : QueryKey) :
    (c.fetchAll qs).cache.find? k = c.cache.find? k ∨
      (c.cache.get k).inFlight = none ∧ ∃ id,
        (c.fetchAll qs).cache.find? k = some { c.cache.get k with inFlight := some id } := by
  induction qs generalizing c with
  | nil => exact .inl rfl
  | cons q qs ih =>
    obtain same | ⟨idle, id, started⟩ := c.find?_fetch_cases q k
    · have entry : (c.fetch q).cache.get k = c.cache.get k := by simp only [Cache.get, same]
      have rest := ih (c.fetch q)
      rwa [same, entry] at rest
    · refine .inr ⟨idle, id, ?_⟩
      obtain same | ⟨waiting, -⟩ := ih (c.fetch q)
      · exact same.trans started
      · -- the entry waits for the request that was started, so it is not read once more
        simp [Cache.get, started] at waiting

/-! ## Taking notice -/

/-- Every entry whose key is hit is stale, or waits for a request that it did not wait for
before. -/
def TookNotice (hit : QueryKey → Bool) (c c' : Client ι ω) : Prop :=
  ∀ k e, hit k = true → c'.cache.find? k = some e →
    e.stale = true ∨ ∃ id, e.inFlight = some id ∧ (c.cache.get k).inFlight ≠ some id

/-- A client that stays as it is has taken notice if everything that is hit was stale before. -/
theorem tookNotice_self_iff {hit : QueryKey → Bool} {c : Client ι ω} :
    TookNotice hit c c ↔
      ∀ k e, hit k = true → c.cache.find? k = some e → e.stale = true := by
  refine ⟨fun noticed k e hit found => ?_, fun old k e hit found => .inl (old k e hit found)⟩
  obtain stale | ⟨id, running, other⟩ := noticed k e hit found
  · exact stale
  · exact absurd (by simpa [Cache.get, found] using running) other

/-- After an invalidation the client has taken notice of it. -/
theorem invalidate_tookNotice (c : Client ι ω) (is : List Invalidation) :
    TookNotice (fun k => is.any (·.matches k)) c (c.invalidate is) := by
  intro k e hit found
  rw [invalidate_eq] at found
  have expired : (c.expire is).cache.find? k = (c.cache.find? k).map CacheEntry.expire := by
    simpa [expire, hit] using c.cache.find?_invalidateAll is k
  obtain same | ⟨-, id, started⟩ := (c.expire is).find?_fetchAll_cases
    (c.cache.invalidateAll is).1 k
  · rw [same, expired, Option.map_eq_some_iff] at found
    obtain ⟨old, -, rfl⟩ := found
    exact .inl rfl
  · obtain rfl := Option.some.inj (started.symm.trans found)
    cases present : c.cache.find? k with
    | some old => exact .inl (by simp [Cache.get, expired, present, CacheEntry.expire])
    | none => exact .inr ⟨id, rfl, by simp [Cache.get, present, CacheEntry.blank]⟩

/-! ## Confirmed writes -/

/-- **Which confirmed writes the cache takes notice of.**  Let a write be answered with a status of
success, in any state of the client.  If the body is readable, the result is its value in the shape
that the sender expects, or an error of decoding, and if not, the result is an error of decoding and
nothing else happens.  So the cache takes notice of the write exactly if the body is readable, or if
all entries that the write matches were stale before. -/
theorem confirmed_write_noticed_iff (c : Client ι ω) (m : Mutation) (body : Option Json)
    (shape : Shape) (tag : ω) {status : Nat} (low : 200 ≤ status) (high : status ≤ 299)
    (text : String) :
    let answered := c.receive ⟨m.request body, .write m shape tag⟩ (.answered status text)
    (Outcome.IsReadable text → ∃ v, Outcome.decodeBody text = .ok v ∧
        answered.1 = some (tag, shaped shape v)) ∧
      (¬ Outcome.IsReadable text → ∃ message,
        answered = (some (tag, .error (.decode message)), c)) ∧
      (TookNotice m.invalidates c answered.2 ↔ Outcome.IsReadable text ∨
        ∀ k e, m.invalidates k = true → c.cache.find? k = some e → e.stale = true) := by
  intro answered
  have result : (Outcome.answered status text).result ApiConfig.console.timeoutMs =
      Outcome.decodeBody text := by
    simp [Outcome.result, Outcome.isSuccess, low, high]
  obtain ⟨readable, v, value⟩ | ⟨unreadable, message, failed⟩ := Outcome.decodeBody_cases text
  · have effect : answered = (some (tag, shaped shape v), c.invalidate m.invalidations) := by
      simp [answered, receive, result, value]
    have noticed : TookNotice m.invalidates c answered.2 := by
      rw [effect]
      exact c.invalidate_tookNotice m.invalidations
    exact ⟨fun _ => ⟨v, value, by rw [effect]⟩, fun unreadable => absurd readable unreadable,
      fun _ => .inl readable, fun _ => noticed⟩
  · have effect : answered = (some (tag, .error (.decode message)), c) := by
      simp [answered, receive, result, failed]
    refine ⟨fun readable => absurd readable unreadable, fun _ => ⟨message, effect⟩, ?_⟩
    rw [effect, tookNotice_self_iff]
    simp only [unreadable, false_or]

/-- The deletion of caliber 3. -/
def caliberDeletion : Exchange Unit :=
  ⟨(Mutation.deleteCaliber 3).request none, .write (.deleteCaliber 3) .nothing ()⟩

/-- A hook shows the calibers, and the deletion of one of them is on the network. -/
def deletingCaliber : Client Nat Unit :=
  ⟨⟨[(.calibers, ⟨some (.arr []), none, false, none, 1⟩)], 1⟩, [(0, some .calibers)],
    [caliberDeletion], []⟩

theorem deletingCaliber_reachable : deletingCaliber.Reachable := by
  have split : loadingCalibers.pending = [] ++ Ticket.exchange ⟨.calibers, 1⟩ :: [] := rfl
  have loaded : Reachable _ := loadingCalibers_reachable.tail (.answer (.answered 200 "[]") split)
  have written : Reachable _ :=
    (loaded.tail (.perform _ (.write (.deleteCaliber 3) none .nothing ()))).tail (.depart _)
  rwa [depart_singleton rfl] at written

/-- The deletion is confirmed with an empty body, of which the cache takes notice, and with a body
that is no JSON, of which it does not. -/
theorem confirmed_write_noticed_iff_deleted :
    let c : Client Nat Unit := { deletingCaliber with pending := [] }
    deletingCaliber.Reachable ∧ deletingCaliber.pending = [caliberDeletion] ∧
      (200 ≤ 204 ∧ 204 ≤ 299) ∧ Outcome.IsReadable "" ∧
      TookNotice (Mutation.deleteCaliber 3).invalidates c
        (c.receive caliberDeletion (.answered 204 "")).2 ∧
      ¬ Outcome.IsReadable "deleted" ∧
      ¬ TookNotice (Mutation.deleteCaliber 3).invalidates c
        (c.receive caliberDeletion (.answered 200 "deleted")).2 := by
  intro c
  have readable : Outcome.IsReadable "" := .inl (by decide)
  have unreadable : ¬ Outcome.IsReadable "deleted" := by
    rintro (blank | ⟨v, value⟩)
    · exact absurd blank (by decide)
    · cases value
  obtain ⟨-, -, empty⟩ := c.confirmed_write_noticed_iff (.deleteCaliber 3) none .nothing ()
    (by decide : 200 ≤ 204) (by decide) ""
  obtain ⟨-, -, written⟩ := c.confirmed_write_noticed_iff (.deleteCaliber 3) none .nothing ()
    (by decide : 200 ≤ 200) (by decide) "deleted"
  refine ⟨deletingCaliber_reachable, rfl, by decide, readable, empty.mpr (.inl readable),
    unreadable, fun noticed => ?_⟩
  obtain body | stale := written.mp noticed
  · exact unreadable body
  · cases stale .calibers _ rfl rfl

/-- Not every confirmed write is noticed: the deletion of a caliber is answered with status 200 and
a text, and the calibers are still taken for current. -/
theorem Reachable.exists_unnoticed_write :
    ¬ ∀ (c : Client Nat Unit) (m : Mutation) (body : Option Json) (shape : Shape) (tag : Unit)
        (before after : List (Exchange Unit)) (status : Nat) (text : String), c.Reachable →
      c.pending = before ++ ⟨m.request body, .write m shape tag⟩ :: after →
      200 ≤ status → status ≤ 299 →
      TookNotice m.invalidates { c with pending := before ++ after }
        (({ c with pending := before ++ after } : Client Nat Unit).receive
          ⟨m.request body, .write m shape tag⟩ (.answered status text)).2 := by
  intro noticed
  have split : deletingCaliber.pending = [] ++ caliberDeletion :: [] := rfl
  have current := noticed deletingCaliber (.deleteCaliber 3) none .nothing () [] [] 200 "deleted"
    deletingCaliber_reachable split (by decide) (by decide) .calibers _ rfl rfl
  obtain stale | ⟨id, running, -⟩ := current
  · cases stale
  · cases running

end Client

end MetricConsole
