import MetricConsole.Proofs.Client.Observers
import MetricConsole.Proofs.Client.Tracking

/-!
# What a write does to the cache

A write that fails leaves everything as it was.  A write that the catalog confirms expires the
entries that the mutation matches and starts one read for each of them that somebody looks at,
whether or not its value has the shape that the sender expects; it touches nothing else.

* `Outcome.Fails` and `Outcome.Confirms`: which outcomes are failures, and which confirm a write
  with a value.
* `Client.Started`: a client that comes of another one by starting reads, and nothing else.
* `Client.Refetched`: a client that comes of another one by expiring entries and reading them again.
* `Client.Reachable.write_effect`: the effect of the answer to a write.
-/

namespace MetricConsole

/-! ## Outcomes -/

/-- The outcome is a failure: no answer, no answer in time, or a status that is not one of
success. -/
inductive Outcome.Fails : Outcome → ApiError → Prop
  | failed (text : String) : Fails (.failed text) (.network text)
  | timedOut : Fails .timedOut (.timeout ApiConfig.requestTimeoutMs)
  | status {status : Nat} (body : String) : status < 200 ∨ 299 < status →
    Fails (.answered status body) (.status status body)

/-- The outcome has a status of success and a body that stands for a value. -/
inductive Outcome.Confirms : Outcome → Json → Prop
  | blank {status : Nat} {body : String} : 200 ≤ status → status ≤ 299 → Text.IsBlank body →
    Confirms (.answered status body) .null
  | value {status : Nat} {body : String} {v : Json} : 200 ≤ status → status ≤ 299 →
    ¬ Text.IsBlank body → Json.parse body = .ok v → Confirms (.answered status body) v

theorem Outcome.Fails.result {outcome : Outcome} {err : ApiError} (fails : outcome.Fails err) :
    outcome.result ApiConfig.console.timeoutMs = .error err := by
  cases fails with
  | failed text => rfl
  | timedOut => rfl
  | @status status body outside =>
    have other : isSuccess status = false := by
      simp only [isSuccess, Bool.and_eq_false_iff, decide_eq_false_iff_not]
      omega
    simp [Outcome.result, other]

theorem Outcome.Confirms.result {outcome : Outcome} {v : Json} (confirms : outcome.Confirms v) :
    outcome.result ApiConfig.console.timeoutMs = .ok v := by
  cases confirms with
  | blank low high blank => simp [Outcome.result, isSuccess, low, high, decodeBody, blank]
  | value low high written parsed =>
    simp [Outcome.result, isSuccess, low, high, decodeBody, written, parsed]

namespace Client

variable {ι ω : Type}

/-! ## Reads of several keys -/

/-- The second client comes of the first by starting the reads of some tickets, with numbers that
were not handed out before. -/
structure Started (ts : List Ticket) (c c' : Client ι ω) : Prop where
  hooks : c'.hooks = c.hooks
  pending : c'.pending = c.pending
  outbox : c'.outbox = c.outbox ++ ts.map Ticket.exchange
  numbers : ∀ t ∈ ts, c.cache.started < t.id
  others : ∀ k, k ∉ ts.map Ticket.key → c'.cache.find? k = c.cache.find? k
  waits : ∀ t ∈ ts, c'.cache.find? t.key = some { c.cache.get t.key with inFlight := some t.id }

/-- Reads of different keys that all need a request start one request each. -/
theorem fetchAll_started {ks : List QueryKey} {c : Client ι ω} (nodup : ks.Nodup)
    (needed : ∀ k ∈ ks, (c.cache.get k).inFlight = none ∧ (c.cache.get k).isFresh = false) :
    ∃ ts : List Ticket, ts.map Ticket.key = ks ∧ Started ts c (c.fetchAll ks) := by
  induction ks generalizing c with
  | nil => exact ⟨[], rfl, rfl, rfl, by simp [fetchAll], by simp, fun _ _ => rfl, by simp⟩
  | cons k ks ih =>
    obtain ⟨new, nodup⟩ := List.nodup_cons.mp nodup
    obtain ⟨idle, old⟩ := needed k List.mem_cons_self
    obtain ⟨running | fresh, -⟩ | ⟨-, -, start⟩ := c.fetch_cases k
    · obtain ⟨id, running⟩ := running
      simp [idle] at running
    · simp [old] at fresh
    · -- the entries of the keys that are still to come are not touched
      have others : ∀ q, q ≠ k → (c.fetch k).cache.find? q = c.cache.find? q := fun q other => by
        rw [start]
        exact Cache.find?_put_of_ne c.cache _ other
      have same : ∀ q, q ≠ k → (c.fetch k).cache.get q = c.cache.get q := fun q other => by
        simp only [Cache.get, others q other]
      have apart : ∀ q ∈ ks, q ≠ k := fun q mem same => new (same ▸ mem)
      obtain ⟨ts, keys, rest⟩ := ih (c := c.fetch k) nodup fun q mem => by
        rw [same q (apart q mem)]
        exact needed q (List.mem_cons_of_mem k mem)
      have grown : (c.fetch k).cache.started = c.cache.started + 1 := by rw [start]; rfl
      refine ⟨⟨k, c.cache.started + 1⟩ :: ts, by simp [keys], ?_, ?_, ?_, ?_, fun q other => ?_, ?_⟩
      · exact rest.hooks.trans (c.hooks_fetch k)
      · exact rest.pending.trans (by rw [start])
      · refine rest.outbox.trans ?_
        rw [start]
        simp
      · rintro t (_ | ⟨_, mem⟩)
        · exact Nat.lt_succ_self _
        · have number := rest.numbers t mem
          omega
      · simp only [List.map_cons, List.mem_cons, not_or] at other
        exact (rest.others q other.2).trans (others q other.1)
      · rintro t (_ | ⟨_, mem⟩)
        · refine (rest.others k (keys ▸ new)).trans ?_
          rw [start]
          exact Cache.find?_put_self c.cache k _
        · have later : t.key ∈ ks := keys ▸ List.mem_map_of_mem mem
          rw [← same t.key (apart t.key later)]
          exact rest.waits t mem

/-- An entry that waited for nothing waits for the ticket with which its read was started. -/
theorem Started.inFlight_iff {ts : List Ticket} {c c' : Client ι ω} (started : Started ts c c')
    {k : QueryKey} {id : Nat} (idle : (c.cache.get k).inFlight = none) :
    (c'.cache.get k).inFlight = some id ↔ ⟨k, id⟩ ∈ ts := by
  constructor
  · intro running
    by_cases listed : k ∈ ts.map Ticket.key
    · obtain ⟨t, issued, rfl⟩ := List.mem_map.mp listed
      obtain rfl : t.id = id := by simpa [Cache.get, started.waits t issued] using running
      exact issued
    · have same : c'.cache.get k = c.cache.get k := by
        simp only [Cache.get, started.others k listed]
      simp [same, idle] at running
  · intro issued
    simp [Cache.get, started.waits _ issued]

/-- What an entry waits for apart, it is not changed by reads that are started. -/
theorem Started.find?_eq {ts : List Ticket} {c c' : Client ι ω} (started : Started ts c c')
    {k : QueryKey} {e : CacheEntry} (found : c.cache.find? k = some e) :
    ∃ running, c'.cache.find? k = some { e with inFlight := running } := by
  by_cases listed : k ∈ ts.map Ticket.key
  · obtain ⟨t, issued, rfl⟩ := List.mem_map.mp listed
    refine ⟨some t.id, ?_⟩
    rw [started.waits t issued, Cache.get, found]
    rfl
  · exact ⟨e.inFlight, (started.others k listed).trans found⟩

/-! ## Confirmed writes -/

/-- The second client comes of the first by expiring the entries of the keys that are hit and
starting one read for each of them that somebody looks at. -/
structure Refetched (hit : QueryKey → Bool) (c c' : Client ι ω) : Prop where
  hooks : c'.hooks = c.hooks
  pending : c'.pending = c.pending
  missed : ∀ k, hit k = false → c'.cache.find? k = c.cache.find? k
  absent : ∀ k, c.cache.find? k = none → c'.cache.find? k = none
  expired : ∀ k e, hit k = true → c.cache.find? k = some e →
    ∃ running, c'.cache.find? k = some { e with stale := true, inFlight := running }
  superseded : ∀ k id r, hit k = true → (c.cache.get k).inFlight = some id →
    c'.cache.complete ⟨k, id⟩ r = (false, c'.cache)
  reads : ∃ ts : List Ticket, c'.outbox = c.outbox ++ ts.map Ticket.exchange ∧
    (ts.map Ticket.key).Nodup ∧
    (∀ k, k ∈ ts.map Ticket.key ↔ hit k = true ∧ 0 < (c.cache.get k).observers) ∧
    ∀ k id, hit k = true → ((c'.cache.get k).inFlight = some id ↔ ⟨k, id⟩ ∈ ts)

/-- Entries that are expired and read again keep their values. -/
theorem Refetched.data_eq {hit : QueryKey → Bool} {c c' : Client ι ω}
    (refetched : c.Refetched hit c') (k : QueryKey) :
    (c'.cache.get k).data = (c.cache.get k).data := by
  cases matched : hit k with
  | false => rw [Cache.get, Cache.get, refetched.missed k matched]
  | true =>
    cases found : c.cache.find? k with
    | none => rw [Cache.get, Cache.get, refetched.absent k found, found]
    | some e =>
      obtain ⟨running, expired⟩ := refetched.expired k e matched found
      simp [Cache.get, expired, found]

/-- What is read again is on its way. -/
theorem Refetched.isSome_inFlight {hit : QueryKey → Bool} {c c' : Client ι ω}
    (refetched : c.Refetched hit c') {k : QueryKey} (matched : hit k = true)
    (observed : 0 < (c.cache.get k).observers) : (c'.cache.get k).inFlight.isSome = true := by
  obtain ⟨ts, -, -, keys, waits⟩ := refetched.reads
  obtain ⟨t, issued, same⟩ := List.mem_map.mp ((keys k).mpr ⟨matched, observed⟩)
  rw [(waits k t.id matched).mpr (same ▸ issued)]
  rfl

/-- An entry that an invalidation matches needs a request. -/
theorem needed_of_expire {c : Client ι ω} {is : List Invalidation} {k : QueryKey}
    (hit : is.any (·.matches k) = true) :
    ((c.expire is).cache.get k).inFlight = none ∧
      ((c.expire is).cache.get k).isFresh = false := by
  obtain ⟨s, entry, stale | blank⟩ := Cache.get_invalidateAll_of_any (c := c.cache) hit
  · simp [Client.expire, entry, stale, CacheEntry.isFresh]
  · simp [Client.expire, entry, blank, CacheEntry.isFresh, CacheEntry.blank]

/-- An invalidation expires what it matches, and reads again what is looked at of it. -/
theorem invalidate_refetched {c : Client ι ω} (keyed : c.cache.Keyed) (tracked : Tracked c)
    (is : List Invalidation) :
    Refetched (fun k => is.any (·.matches k)) c (c.invalidate is) := by
  have mem := keyed.mem_invalidateAll_iff is
  have nodup := c.cache.nodup_invalidateAll is
  obtain ⟨ts, keys, started⟩ := fetchAll_started (c := c.expire is) nodup
    fun k listed => needed_of_expire ((mem k).mp listed).1
  rw [← invalidate_eq] at started
  rw [← keys] at mem nodup
  have found : ∀ k, (c.expire is).cache.find? k =
      (c.cache.find? k).map fun e => if is.any (·.matches k) then e.expire else e :=
    c.cache.find?_invalidateAll is
  have waits : ∀ k id, is.any (·.matches k) = true →
      (((c.invalidate is).cache.get k).inFlight = some id ↔ ⟨k, id⟩ ∈ ts) := fun k id hit =>
    started.inFlight_iff (needed_of_expire hit).1
  refine ⟨started.hooks, started.pending, fun k miss => ?missed, fun k missing => ?absent,
    fun k e hit present => ?expired, fun k id r hit running => ?superseded,
    ts, started.outbox, nodup, mem, waits⟩
  case missed =>
    have out : k ∉ ts.map Ticket.key := fun listed => by
      have hit := ((mem k).mp listed).1
      simp only [miss, Bool.false_eq_true] at hit
    rw [started.others k out, found, miss]
    simp
  case absent =>
    have out : k ∉ ts.map Ticket.key := fun listed => by
      have seen := ((mem k).mp listed).2
      simp [Cache.get, missing, CacheEntry.blank] at seen
    rw [started.others k out, found, missing]
    rfl
  case expired =>
    have stale : (c.expire is).cache.find? k = some e.expire := by
      rw [found, present, Option.map_some, if_pos hit]
    exact started.find?_eq stale
  case superseded =>
    -- the request that ran has a number below those that were started in its place
    obtain ⟨current, -⟩ | ⟨-, rejected⟩ := (c.invalidate is).cache.complete_cases ⟨k, id⟩ r
    · have later : (c.expire is).cache.started < id :=
        started.numbers _ ((waits k id hit).mp current)
      have earlier : id ≤ c.cache.started := tracked.issued _ (tracked.carried k id running)
      have same : (c.expire is).cache.started = c.cache.started :=
        c.cache.invalidateAll_started is
      omega
    · exact rejected

/-- A value in the shape that the sender expects is the result, and any other value is an error of
decoding. -/
theorem shaped_cases (shape : Shape) (v : Json) :
    (∃ w, shape.codec.decode? v = some w ∧ shaped shape v = .ok (shape.codec.encode w)) ∨
      (shape.codec.decode? v = none ∧ ∃ text, shaped shape v = .error (.decode text)) := by
  cases decoded : shape.codec.decode? v with
  | some w => exact .inl ⟨w, rfl, by simp [shaped, Shape.read?, decoded]⟩
  | none =>
    have unread : shape.read? v = none := by simp [Shape.read?, decoded]
    exact .inr ⟨rfl, _, by rw [shaped, unread]⟩

section Reachable

variable [DecidableEq ι]

omit [DecidableEq ι] in
/-- A single exchange departs as it is. -/
theorem depart_singleton {c : Client ι ω} {e : Exchange ω} (out : c.outbox = [e]) :
    c.depart.2 = { c with pending := c.pending ++ [e], outbox := [] } := by
  simp [depart, out]

/-- **The effect of a write.**  When the answer to a write is a failure, its sender gets the error
and the client stays as it was, nothing being sent.  When the write is confirmed, the entries that
the mutation matches are stale and no longer wait for the requests that ran, one read is started for
each of them that somebody looks at, and nothing else changes, whether or not the value can be
decoded; the result is the value, or an error of decoding exactly if it cannot. -/
theorem Reachable.write_effect {c : Client ι ω} {before after : List (Exchange ω)} {m : Mutation}
    {body : Option Json} {shape : Shape} {tag : ω} (reach : c.Reachable)
    (split : c.pending = before ++ ⟨m.request body, .write m shape tag⟩ :: after)
    (outcome : Outcome) :
    let c₀ : Client ι ω := { c with pending := before ++ after }
    let answered := c₀.receive ⟨m.request body, .write m shape tag⟩ outcome
    (∀ err, outcome.Fails err → answered = (some (tag, .error err), c₀)) ∧
      ∀ v, outcome.Confirms v →
        Refetched m.invalidates c₀ answered.2 ∧
          (∀ w, shape.codec.decode? v = some w →
            answered.1 = some (tag, .ok (shape.codec.encode w))) ∧
          ((∃ text, answered.1 = some (tag, .error (.decode text))) ↔
            shape.codec.decode? v = none) := by
  intro c₀ answered
  refine ⟨fun err fails => ?_, fun v confirms => ?_⟩
  · simp [answered, receive, fails.result]
  · have effect : answered = (some (tag, shaped shape v), c₀.invalidate m.invalidations) := by
      simp [answered, receive, confirms.result]
    have tracked : Tracked c₀ := reach.tracked.without_write split rfl
    have keyed : c₀.cache.Keyed := reach.keyed
    rw [effect]
    refine ⟨invalidate_refetched keyed tracked m.invalidations, ?_⟩
    obtain ⟨w, decoded, value⟩ | ⟨unreadable, text, err⟩ := shaped_cases shape v
    · simp [decoded, value]
    · simp [unreadable, err]

/-- A caliber is created while the calibers are loading for a hook.  A failure changes nothing; a
confirmation with an empty body cannot be decoded, and all the same the read that runs is superseded
by one more. -/
theorem Reachable.write_effect_unreadable :
    let read : Exchange Unit := Ticket.exchange ⟨.calibers, 1⟩
    let write : Exchange Unit :=
      ⟨Mutation.createCaliber.request none, .write .createCaliber .caliber ()⟩
    let c : Client Nat Unit :=
      ⟨⟨[(.calibers, ⟨none, none, false, some 1, 1⟩)], 1⟩, [(0, some .calibers)], [read, write], []⟩
    let c₀ : Client Nat Unit := { c with pending := [read] }
    c.Reachable ∧
      c₀.receive write (.answered 500 "no") = (some ((), .error (.status 500 "no")), c₀) ∧
      (∃ text, (c₀.receive write (.answered 201 "")).1 = some ((), .error (.decode text))) ∧
      (∃ running, (c₀.receive write (.answered 201 "")).2.cache.find? .calibers =
        some ⟨none, none, true, running, 1⟩) ∧
      (∃ t, t.key = .calibers ∧
        Ticket.exchange t ∈ (c₀.receive write (.answered 201 "")).2.outbox) ∧
      ((c₀.receive write (.answered 201 "")).2.cache.complete ⟨.calibers, 1⟩ (.ok .null)).1 =
        false := by
  intro read write c c₀
  have reach : c.Reachable := by
    have loading : Reachable (ω := Unit) _ := ((Relation.ReflTransGen.single
      (Step.perform initial (.mount 0))).tail (.perform _ (.swap 0 (some .calibers)))).tail
      (.depart _)
    rw [depart_singleton rfl] at loading
    have written : Reachable _ :=
      (loading.tail (.perform _ (.write .createCaliber none .caliber ()))).tail (.depart _)
    rwa [depart_singleton rfl] at written
  have split : c.pending = [read] ++ write :: [] := rfl
  have fails : Outcome.Fails (.answered 500 "no") (.status 500 "no") :=
    .status "no" (.inr (by decide))
  have confirms : Outcome.Confirms (.answered 201 "") .null :=
    .blank (by decide) (by decide) (by decide)
  obtain ⟨-, effect⟩ := reach.write_effect split (.answered 201 "")
  obtain ⟨refetched, -, unreadable⟩ := effect _ confirms
  obtain ⟨ts, outbox, -, keys, -⟩ := refetched.reads
  obtain ⟨t, issued, key⟩ := List.mem_map.mp ((keys .calibers).mpr ⟨rfl, Nat.one_pos⟩)
  have started : t.exchange ∈ (c₀.receive write (.answered 201 "")).2.outbox :=
    outbox ▸ List.mem_append_right _ (List.mem_map_of_mem issued)
  exact ⟨reach, (reach.write_effect split _).1 _ fails, unreadable.mpr rfl,
    refetched.expired .calibers _ rfl rfl, ⟨t, key, started⟩,
    congrArg Prod.fst (refetched.superseded .calibers 1 _ rfl rfl)⟩

end Reachable

end Client

end MetricConsole
