import MetricConsole.Proofs.Cache.Results
import MetricConsole.Proofs.Client.Guarded
import MetricConsole.Proofs.Client.Silence

/-!
# What a hook displays

A hook displays the entry of the key that it was given last.  The entry comes of the answers that
were accepted for that key, whoever asked for them, and of nothing else: late answers to requests
for keys that the hook has left, and whatever else happens to other keys, do not reach it.

A history lists what happened to a client, oldest first: what a page did with it, that what waited
departed, and which answers arrived, each with whether the cache accepted it.

* `Client.Occurs` and `Client.Run`: one event, and a history of them; `Client.reachable_iff_run`:
  histories lead to exactly the reachable clients.
* `Client.Run.lookup_hooks`: a hook holds what the history gave it last.
* `Client.Run.recalls`: an entry recalls the answers that were accepted for its key.
* `Client.Spares` and `Client.Occurs.spares`: an event that does not concern a key leaves its entry.
* `Client.Run.displays_current_key`: what a hook displays, and what does not change it.
-/

namespace MetricConsole

/-- What happened to a client. -/
inductive ClientEvent (ι ω : Type) where
  | performed (a : Client.Action ι ω)
  | departed
  | answered (e : Exchange ω) (outcome : Outcome) (accepted : Bool)

namespace ClientEvent

variable {ι ω : Type}

/-- The result that the event brings to the entry of the key: that of an accepted answer to a
request for the key. -/
def result? (k : QueryKey) : ClientEvent ι ω → Option (Except ApiError Json)
  | .answered e outcome true =>
    match e.purpose with
    | .read t => if t.key = k then some (outcome.result ApiConfig.console.timeoutMs) else none
    | .write _ _ _ => none
  | _ => none

/-- The event is about the key: the key is given to a hook or read, it is invalidated, an answer to
a request for it arrives, or the answer to a write that matches it. -/
def Concerns (k : QueryKey) : ClientEvent ι ω → Prop
  | .performed (.swap _ next) => next = some k
  | .performed (.fetch q) => q = k
  | .performed (.invalidate is) => is.any (·.matches k) = true
  | .performed (.mount _) | .performed (.unmount _) | .performed (.write _ _ _ _) | .departed =>
    False
  | .answered e _ _ =>
    match e.purpose with
    | .read t => t.key = k
    | .write m _ _ => m.invalidates k = true

/-- What stands with the name of a hook after the event, if something else stood there before: no
slot if the hook is not mounted, and else the key that it was given. -/
def slot [DecidableEq ι] (i : ι) (before : Option (Option QueryKey)) :
    ClientEvent ι ω → Option (Option QueryKey)
  | .performed (.mount j) => if i = j then some none else before
  | .performed (.unmount j) => if i = j then none else before
  | .performed (.swap j next) => if i = j then before.map fun _ => next else before
  | _ => before

end ClientEvent

namespace Client

variable {ι ω : Type}

/-- The cache waits for the answer to the exchange. -/
def accepts (c : Client ι ω) (e : Exchange ω) (outcome : Outcome) : Bool :=
  match e.purpose with
  | .read t => (c.cache.complete t (outcome.result ApiConfig.console.timeoutMs)).1
  | .write _ _ _ => false

/-- The results that were accepted for the key, in order. -/
def results (k : QueryKey) (h : List (ClientEvent ι ω)) : List (Except ApiError Json) :=
  h.filterMap (ClientEvent.result? k)

/-! ## Answers -/

/-- What a page does leaves what the entries recall. -/
theorem recalls_closed (rs : QueryKey → List (Except ApiError Json)) :
    Closed (fun c : Client ι ω => ∀ k, (c.cache.get k).Recalls (rs k)) :=
  entries_closed (P := fun k e => e.Recalls (rs k))
    fun _ _ s running n recalls => recalls.withRest s running n

/-- The answer to an exchange is recalled by the entry that accepts it, and by no other. -/
theorem recalls_receive {c : Client ι ω} {rs : QueryKey → List (Except ApiError Json)}
    (recalls : ∀ k, (c.cache.get k).Recalls (rs k)) (e : Exchange ω) (outcome : Outcome)
    (k : QueryKey) :
    let answered : ClientEvent ι ω := .answered e outcome (c.accepts e outcome)
    ((c.receive e outcome).2.cache.get k).Recalls (rs k ++ (answered.result? k).toList) := by
  intro answered
  obtain ⟨t, read, done⟩ | ⟨m, shape, tag, v, write, -, done⟩ |
    ⟨m, shape, tag, err, write, -, done⟩ := c.receive_cases e outcome
  · rw [done]
    simp only [answered, accepts, read]
    obtain ⟨-, settled⟩ | ⟨-, dropped⟩ :=
      c.cache.complete_cases t (outcome.result ApiConfig.console.timeoutMs)
    · rw [settled, Cache.get_put]
      simp only [ClientEvent.result?, read]
      by_cases key : t.key = k
      · subst key
        simpa using (recalls t.key).settle _
      · simpa [key, Ne.symm key] using recalls k
    · rw [dropped]
      simpa [ClientEvent.result?] using recalls k
  · rw [done]
    simpa [answered, accepts, write, ClientEvent.result?] using
      (recalls_closed rs).invalidate m.invalidations recalls k
  · rw [done]
    simpa [answered, accepts, write, ClientEvent.result?] using recalls k

/-! ## Other keys -/

/-- The entry of the key stays as it is, the number of observers apart. -/
def Spares (k : QueryKey) (c c' : Client ι ω) : Prop :=
  ∃ n, c'.cache.get k = { c.cache.get k with observers := n }

namespace Spares

variable {c c' c'' : Client ι ω} {k : QueryKey}

theorem of_get_eq (same : c'.cache.get k = c.cache.get k) : Spares k c c' := ⟨_, same⟩

theorem trans (first : Spares k c c') (second : Spares k c' c'') : Spares k c c'' := by
  obtain ⟨n, entry⟩ := first
  obtain ⟨n', entry'⟩ := second
  exact ⟨n', by rw [entry', entry]⟩

theorem snapshot_eq (spares : Spares k c c') : c'.cache.snapshot k = c.cache.snapshot k := by
  obtain ⟨n, entry⟩ := spares
  simp only [Cache.snapshot, entry, Snapshot.ofEntry]

theorem fetch (c : Client ι ω) {q : QueryKey} (other : q ≠ k) : Spares k c (c.fetch q) := by
  obtain ⟨-, same⟩ | ⟨-, -, started⟩ := c.fetch_cases q
  · exact of_get_eq (by rw [same])
  · exact of_get_eq (by rw [started]; exact Cache.get_begun_of_ne c.cache other.symm)

theorem fetchAll (c : Client ι ω) {qs : List QueryKey} (others : k ∉ qs) :
    Spares k c (c.fetchAll qs) := by
  induction qs generalizing c with
  | nil => exact of_get_eq rfl
  | cons q qs ih =>
    rw [List.mem_cons, not_or] at others
    exact (fetch c (Ne.symm others.1)).trans (ih (c.fetch q) others.2)

/-- An invalidation reads again only what it matches. -/
theorem invalidate (keyed : c.cache.Keyed) {is : List Invalidation}
    (miss : is.any (·.matches k) = false) : Spares k c (c.invalidate is) := by
  have others : k ∉ (c.cache.invalidateAll is).1 := fun again => by
    have hit := ((keyed.mem_invalidateAll_iff is k).mp again).1
    simp only [miss, Bool.false_eq_true] at hit
  have expired : Spares k c (c.expire is) := of_get_eq (Cache.get_invalidateAll_of_not miss)
  exact expired.trans (fetchAll _ others)

theorem release (c : Client ι ω) (slot : Option QueryKey) : Spares k c (c.release slot) := by
  cases slot with
  | none => exact of_get_eq rfl
  | some q => exact c.cache.get_unobserve_eq q k

theorem withHooks (c : Client ι ω) (hooks : List (ι × Option QueryKey)) :
    Spares k c { c with hooks := hooks } :=
  of_get_eq rfl

theorem acquire (c : Client ι ω) {slot : Option QueryKey} (other : slot ≠ some k) :
    Spares k c (c.acquire slot) := by
  cases slot with
  | none => exact of_get_eq rfl
  | some q =>
    have observed : Spares k c (c.observe q) := c.cache.get_observe_eq q k
    exact observed.trans (fetch _ fun same => other (congrArg some same))

theorem receive (keyed : c.cache.Keyed) {e : Exchange ω} {outcome : Outcome} {accepted : Bool}
    (other : ¬ (ClientEvent.answered e outcome accepted : ClientEvent ι ω).Concerns k) :
    Spares k c (c.receive e outcome).2 := by
  obtain ⟨t, read, done⟩ | ⟨m, shape, tag, v, write, -, done⟩ |
    ⟨m, shape, tag, err, write, -, done⟩ := c.receive_cases e outcome
  · rw [done]
    have apart : t.key ≠ k := by simpa [ClientEvent.Concerns, read] using other
    obtain ⟨-, settled⟩ | ⟨-, dropped⟩ :=
      c.cache.complete_cases t (outcome.result ApiConfig.console.timeoutMs)
    · exact of_get_eq (by rw [settled]; exact Cache.get_put_of_ne _ _ apart.symm)
    · exact of_get_eq (by rw [dropped])
  · rw [done]
    have miss : m.invalidates k = false := by simpa [ClientEvent.Concerns, write] using other
    exact invalidate keyed miss
  · rw [done]
    exact of_get_eq rfl

end Spares

/-! ## Histories -/

section Histories

variable [DecidableEq ι]

/-- The key that the hook was given last, if it is mounted. -/
def currentKey (i : ι) (h : List (ClientEvent ι ω)) : Option QueryKey :=
  (h.foldl (ClientEvent.slot i) none).join

/-- One event. -/
inductive Occurs : Client ι ω → ClientEvent ι ω → Client ι ω → Prop
  | perform (c : Client ι ω) (a : Action ι ω) : Occurs c (.performed a) (c.perform a)
  | depart (c : Client ι ω) : Occurs c .departed c.depart.2
  | answer {c : Client ι ω} {before after : List (Exchange ω)} {e : Exchange ω}
      (outcome : Outcome) : c.pending = before ++ e :: after →
    Occurs c (.answered e outcome (c.accepts e outcome))
      (({ c with pending := before ++ after } : Client ι ω).receive e outcome).2

/-- A single exchange departs as it is. -/
theorem Occurs.depart_single {c : Client ι ω} {e : Exchange ω} (single : c.outbox = [e]) :
    Occurs c .departed { c with pending := c.pending ++ [e], outbox := [] } := by
  simpa only [depart_singleton single] using Occurs.depart c

/-- The events of a history lead from the client in which nothing happened to this one. -/
inductive Run : List (ClientEvent ι ω) → Client ι ω → Prop
  | initial : Run [] .initial
  | step {h : List (ClientEvent ι ω)} {c c' : Client ι ω} {ev : ClientEvent ι ω} :
    Run h c → Occurs c ev c' → Run (h ++ [ev]) c'

theorem step_iff_occurs {c c' : Client ι ω} : Step c c' ↔ ∃ ev, Occurs c ev c' := by
  constructor
  · rintro (a | - | ⟨outcome, split⟩)
    · exact ⟨_, .perform c a⟩
    · exact ⟨_, .depart c⟩
    · exact ⟨_, .answer outcome split⟩
  · rintro ⟨ev, occurs⟩
    cases occurs with
    | perform a => exact .perform c a
    | depart => exact .depart c
    | answer outcome split => exact .answer outcome split

/-- Histories lead to the reachable clients. -/
theorem reachable_iff_run {c : Client ι ω} : c.Reachable ↔ ∃ h, Run h c := by
  constructor
  · intro reach
    induction reach with
    | refl => exact ⟨[], .initial⟩
    | tail _ step ih =>
      obtain ⟨h, run⟩ := ih
      obtain ⟨ev, occurs⟩ := step_iff_occurs.mp step
      exact ⟨h ++ [ev], run.step occurs⟩
  · rintro ⟨h, run⟩
    induction run with
    | initial => exact .refl
    | step _ occurs ih => exact ih.tail (step_iff_occurs.mpr ⟨_, occurs⟩)

/-! ## Slots -/

theorem Occurs.lookup_hooks {c c' : Client ι ω} {ev : ClientEvent ι ω} (occurs : Occurs c ev c')
    (i : ι) : c'.hooks.lookup i = ev.slot i (c.hooks.lookup i) := by
  cases occurs with
  | perform a =>
    cases a with
    | mount j => exact c.lookup_mount j i
    | unmount j => exact c.lookup_unmount j i
    | swap j next =>
      refine (c.lookup_swap j next i).trans ?_
      simp only [ClientEvent.slot]
      split
      · next same => rw [same]
      · rfl
    | fetch k => exact congrArg _ (c.hooks_fetch k)
    | invalidate is => exact congrArg _ ((c.expire is).hooks_fetchAll _)
    | write m body shape tag => rfl
  | depart => rfl
  | answer outcome split => exact congrArg _ (hooks_receive _ _ outcome)

variable {h : List (ClientEvent ι ω)} {c : Client ι ω}

/-- What stands with the name of a hook is what the history gave it last. -/
theorem Run.lookup_hooks (run : Run h c) (i : ι) :
    c.hooks.lookup i = h.foldl (ClientEvent.slot i) none := by
  induction run with
  | initial => rfl
  | step _ occurs ih => rw [occurs.lookup_hooks, ih, List.foldl_concat]

theorem Run.held_eq (run : Run h c) (i : ι) : c.held i = currentKey i h :=
  congrArg _ (run.lookup_hooks i)

/-- Every entry recalls the answers that were accepted for its key. -/
theorem Run.recalls (run : Run h c) (k : QueryKey) : (c.cache.get k).Recalls (results k h) := by
  induction run generalizing k with
  | initial => exact .blank
  | @step h c _ _ _ occurs ih =>
    have added (ev : ClientEvent ι ω) : results k (h ++ [ev]) =
        results k h ++ (ev.result? k).toList := by
      cases result : ev.result? k <;> simp [results, result]
    rw [added]
    cases occurs with
    | perform a => simpa [ClientEvent.result?] using (recalls_closed _).perform a ih k
    | depart =>
      have kept : (c.depart.2.cache.get k).Recalls (results k h) := ih k
      simpa [ClientEvent.result?] using kept
    | @answer before after e outcome split =>
      exact recalls_receive (c := { c with pending := before ++ after }) ih e outcome k

theorem Spares.swap {k : QueryKey} (c : Client ι ω) (i : ι) {next : Option QueryKey}
    (other : next ≠ some k) : Spares k c (c.swap i next) := by
  unfold Client.swap
  split
  · exact .of_get_eq rfl
  · next last _ =>
    split
    · exact .of_get_eq rfl
    · exact ((Spares.withHooks c _).trans (.release _ last)).trans (.acquire _ other)

/-- An event that does not concern a key leaves its entry, the number of observers apart. -/
theorem Occurs.spares {c' : Client ι ω} {ev : ClientEvent ι ω} {k : QueryKey}
    (occurs : Occurs c ev c') (keyed : c.cache.Keyed) (other : ¬ ev.Concerns k) :
    Spares k c c' := by
  cases occurs with
  | perform a =>
    cases a with
    | mount i => exact Spares.release c (c.held i)
    | unmount i => exact Spares.release c (c.held i)
    | swap i next => exact .swap c i other
    | fetch q => exact .fetch c other
    | invalidate is => exact .invalidate keyed (Bool.eq_false_iff.mpr other)
    | write m body shape tag => exact .of_get_eq rfl
  | depart => exact .of_get_eq rfl
  | @answer before after e outcome split =>
    exact Spares.receive (c := { c with pending := before ++ after }) keyed other

/-! ## Hooks -/

/-- **A hook displays its current key.**  In every history a hook without a key displays nothing.  A
hook with a key displays the last value that was accepted for a request of that key, as far as it
can be read, and an error exactly if the last answer that was accepted for the key was that error.
As long as the hook keeps its key, no event that concerns other keys only changes anything of what
it displays. -/
theorem Run.displays_current_key (run : Run h c) (i : ι) (α : Type) [Codec α] :
    (currentKey i h = none → c.snapshot i = .blank) ∧
      (∀ k, currentKey i h = some k →
        (c.snapshot i).decode? α =
            ((results k h).filterMap Except.toOption).getLast?.bind decode? ∧
          ∀ err, (c.snapshot i).error = some err ↔
            (results k h).getLast? = some (.error err)) ∧
      ∀ ev c', Occurs c ev c' → currentKey i (h ++ [ev]) = currentKey i h →
        (∀ k, currentKey i h = some k → ¬ ev.Concerns k) → c'.snapshot i = c.snapshot i := by
  refine ⟨fun nothing => ?_, fun k key => ?_, fun ev c' occurs kept others => ?_⟩
  · simp [snapshot, Cache.view, run.held_eq, nothing]
  · have recalls := run.recalls k
    rw [snapshot_of_held ((run.held_eq i).trans key)]
    refine ⟨?_, recalls.error⟩
    simp only [Snapshot.decode?, Snapshot.ofEntry, recalls.data]
  · have keyed := (reachable_iff_run.mpr ⟨h, run⟩).keyed
    have held : c'.held i = c.held i := by
      rw [(run.step occurs).held_eq, kept, run.held_eq]
    cases key : c.held i with
    | none => simp only [snapshot, held, key, Cache.view, Option.map_none]
    | some k =>
      have other := others k ((run.held_eq i).symm.trans key)
      have same := (occurs.spares keyed other).snapshot_eq
      simp only [snapshot, held, key, Cache.view, Option.map_some, same]

end Histories

/-- The list of the metrics with a keyword. -/
def keywordList (keyword : String) : QueryKey := .metricList ⟨some keyword, none, none⟩

/-- The filter of a list changed from "a" to "b" before anything was answered. -/
def filterChanged : Client Nat Unit :=
  ⟨⟨[(keywordList "a", ⟨none, none, false, some 1, 0⟩),
      (keywordList "b", ⟨none, none, false, some 2, 1⟩)], 2⟩,
    [(0, some (keywordList "b"))],
    [Ticket.exchange ⟨keywordList "a", 1⟩, Ticket.exchange ⟨keywordList "b", 2⟩], []⟩

theorem run_filterChanged :
    Run [.performed (.mount 0), .performed (.swap 0 (some (keywordList "a"))), .departed,
      .performed (.swap 0 (some (keywordList "b"))), .departed] filterChanged := by
  have mounted : Run (ι := Nat) (ω := Unit) _ _ := Run.initial.step (.perform _ (.mount 0))
  have asked : Run _ _ := (mounted.step (.perform _ (.swap 0 (some (keywordList "a"))))).step
    (.depart_single rfl)
  exact (asked.step (.perform _ (.swap 0 (some (keywordList "b"))))).step (.depart_single rfl)

/-- The answer for "b" is displayed, and the failure for "a", which comes later and is accepted, is
not. -/
theorem Run.displays_current_key_late :
    let a := keywordList "a"
    let b := keywordList "b"
    let late : ClientEvent Nat Unit :=
      .answered (Ticket.exchange ⟨a, 1⟩) (.answered 500 "no") true
    let h : List (ClientEvent Nat Unit) :=
      [.performed (.mount 0), .performed (.swap 0 (some a)), .departed,
        .performed (.swap 0 (some b)), .departed,
        .answered (Ticket.exchange ⟨b, 2⟩) (.answered 200 "[]") true]
    let shown : CacheEntry := ⟨some (.arr []), none, false, none, 1⟩
    let c : Client Nat Unit :=
      ⟨⟨[(a, ⟨none, none, false, some 1, 0⟩), (b, shown)], 2⟩, [(0, some b)],
        [Ticket.exchange ⟨a, 1⟩], []⟩
    let c' : Client Nat Unit :=
      ⟨⟨[(a, ⟨none, some (.status 500 "no"), false, none, 0⟩), (b, shown)], 2⟩, [(0, some b)],
        [], []⟩
    Run h c ∧ currentKey 0 h = some b ∧ (c.snapshot 0).decode? (List Metric) = some [] ∧
      Occurs c late c' ∧ ¬ late.Concerns b ∧ c'.snapshot 0 = c.snapshot 0 := by
  intro a b late h shown c c'
  have split : filterChanged.pending =
      [Ticket.exchange ⟨a, 1⟩] ++ Ticket.exchange ⟨b, 2⟩ :: [] := rfl
  have run : Run h c := run_filterChanged.step (.answer (.answered 200 "[]") split)
  have last : c.pending = [] ++ Ticket.exchange ⟨a, 1⟩ :: [] := rfl
  have answered : Occurs c late c' := .answer (.answered 500 "no") last
  have other : ¬ late.Concerns b := fun same => absurd (show a = b from same) (by decide)
  obtain ⟨-, current, spared⟩ := run.displays_current_key 0 (List Metric)
  refine ⟨run, rfl, (current b rfl).1.trans rfl, answered, other, ?_⟩
  exact spared late c' answered rfl fun k key => by rwa [← Option.some.inj key]

end Client

end MetricConsole
