import Mathlib.Logic.Relation
import MetricConsole.Proofs.Cache.Entry
import MetricConsole.Query.Session

/-!
# Reachable clients

`Client.Step` is one step of a client: a page does something with it, what waits in the outbox
departs, or any of the pending exchanges is answered, in any order and with any outcome.
`Client.Reachable` is the reflexive-transitive closure from the client in which nothing happened.

* `Client.fetch_cases`: a read changes nothing or starts one exchange.
* `Client.Quiet`, `Client.Closed`: a property that the elementary changes keep is kept by everything
  a page does; the quiet ones send no write.
* `Session.act_reachable`, `Session.answer_reachable` and `Session.settle_reachable`: a session only
  ever holds reachable clients.
-/

namespace MetricConsole

/-- The exchange that asks for the key of a ticket and answers to the ticket. -/
def Ticket.exchange {ω : Type} (t : Ticket) : Exchange ω := ⟨t.key.request, .read t⟩

/-- The ticket that an exchange carries; a write carries none. -/
def Exchange.ticket? {ω : Type} (e : Exchange ω) : Option Ticket :=
  match e.purpose with
  | .read t => some t
  | .write _ _ _ => none

theorem QueryKey.request_method (k : QueryKey) : k.request.method = .get := by
  cases k <;> rfl

namespace Client

variable {ι ω : Type}

/-- The exchanges that were started and have no answer yet: those on the network, and those about
to depart. -/
def underWay (c : Client ι ω) : List (Exchange ω) := c.pending ++ c.outbox

/-- The tickets of the reads under way. -/
def tickets (c : Client ι ω) : List Ticket := c.underWay.filterMap Exchange.ticket?

/-- What a page can do with the client. -/
inductive Action (ι ω : Type) where
  | mount (i : ι)
  | unmount (i : ι)
  | swap (i : ι) (next : Option QueryKey)
  | fetch (k : QueryKey)
  | invalidate (is : List Invalidation)
  | write (mutation : Mutation) (body : Option Json) (shape : Shape) (tag : ω)

section Steps

variable [DecidableEq ι]

/-- The client after an action. -/
def perform (c : Client ι ω) : Action ι ω → Client ι ω
  | .mount i => c.mount i
  | .unmount i => c.unmount i
  | .swap i next => c.swap i next
  | .fetch k => c.fetch k
  | .invalidate is => c.invalidate is
  | .write m body shape tag => c.write m body shape tag

/-- One step.  An answer takes its exchange out of those on the network. -/
inductive Step : Client ι ω → Client ι ω → Prop
  | perform (c : Client ι ω) (a : Action ι ω) : Step c (c.perform a)
  | depart (c : Client ι ω) : Step c c.depart.2
  | answer {c : Client ι ω} {before after : List (Exchange ω)} {e : Exchange ω}
      (outcome : Outcome) : c.pending = before ++ e :: after →
    Step c (({ c with pending := before ++ after } : Client ι ω).receive e outcome).2

/-- The client can come about from one in which nothing happened. -/
abbrev Reachable (c : Client ι ω) : Prop := Relation.ReflTransGen Step initial c

end Steps

/-! ## Reads and invalidations -/

/-- A read finds what it needs, running or fresh, and changes nothing; or it starts one exchange
with the next ticket. -/
theorem fetch_cases (c : Client ι ω) (k : QueryKey) :
    (((∃ id, (c.cache.get k).inFlight = some id) ∨ (c.cache.get k).isFresh = true) ∧
        c.fetch k = c) ∨
      ((c.cache.get k).inFlight = none ∧ (c.cache.get k).isFresh = false ∧
        c.fetch k =
          { c with
            cache := c.cache.begun k
            outbox := c.outbox ++ [Ticket.exchange ⟨k, c.cache.started + 1⟩] }) := by
  obtain ⟨id, running, read⟩ | ⟨-, fresh, read⟩ | ⟨idle, needed, read⟩ :=
    c.cache.beginFetch_cases k
  · exact .inl ⟨.inl ⟨id, running⟩, by simp [fetch, read]⟩
  · exact .inl ⟨.inr fresh, by simp [fetch, read]⟩
  · exact .inr ⟨idle, needed, by simp [fetch, read, send, Ticket.exchange]⟩

/-- Expires what the invalidations match, and reads nothing again. -/
def expire (is : List Invalidation) (c : Client ι ω) : Client ι ω :=
  { c with cache := (c.cache.invalidateAll is).2 }

/-- Reads keys one after the other. -/
def fetchAll (ks : List QueryKey) (c : Client ι ω) : Client ι ω :=
  ks.foldl (fun c k => c.fetch k) c

theorem invalidate_eq (is : List Invalidation) (c : Client ι ω) :
    c.invalidate is = (c.expire is).fetchAll (c.cache.invalidateAll is).1 := rfl

/-- What the answer to an exchange does to the client: a read is reported to the cache, a confirmed
write invalidates, and a write that failed does nothing. -/
theorem receive_cases (c : Client ι ω) (e : Exchange ω) (outcome : Outcome) :
    (∃ t, e.purpose = .read t ∧ (c.receive e outcome).2 =
        { c with cache :=
            (c.cache.complete t (outcome.result ApiConfig.console.timeoutMs)).2 }) ∨
      (∃ m shape tag v, e.purpose = .write m shape tag ∧
        outcome.result ApiConfig.console.timeoutMs = .ok v ∧
        (c.receive e outcome).2 = c.invalidate m.invalidations) ∨
      (∃ m shape tag err, e.purpose = .write m shape tag ∧
        outcome.result ApiConfig.console.timeoutMs = .error err ∧
        (c.receive e outcome).2 = c) := by
  cases purpose : e.purpose with
  | read t => exact .inl ⟨t, rfl, by simp [receive, purpose]⟩
  | write m shape tag =>
    cases result : outcome.result ApiConfig.console.timeoutMs with
    | ok v => exact .inr (.inl ⟨m, shape, tag, v, rfl, rfl, by simp [receive, purpose, result]⟩)
    | error err =>
      exact .inr (.inr ⟨m, shape, tag, err, rfl, rfl, by simp [receive, purpose, result]⟩)

/-- What a settled result and an invalidation keep is kept by every answer. -/
theorem receive_keeps {I : Client ι ω → Prop} {c : Client ι ω} (holds : I c)
    (complete : ∀ t r, I { c with cache := (c.cache.complete t r).2 })
    (invalidate : ∀ is, I (c.invalidate is)) (e : Exchange ω) (outcome : Outcome) :
    I (c.receive e outcome).2 := by
  obtain ⟨t, -, done⟩ | ⟨m, shape, tag, v, -, -, done⟩ | ⟨m, shape, tag, err, -, -, done⟩ :=
    c.receive_cases e outcome
  · rw [done]
    exact complete t _
  · rw [done]
    exact invalidate _
  · rwa [done]

/-! ## Properties kept by everything a page does -/

/-- The elementary changes of a client that send no write keep the property. -/
structure Quiet (I : Client ι ω → Prop) : Prop where
  fetch : ∀ {c} k, I c → I (c.fetch k)
  expire : ∀ {c} is, I c → I (c.expire is)
  observe : ∀ {c} k, I c → I (c.observe k)
  unobserve : ∀ {c} k, I c → I (c.unobserve k)
  hooks : ∀ {c} hooks, I c → I { c with hooks := hooks }

namespace Quiet

variable {I : Client ι ω → Prop}

theorem fetchAll (quiet : Quiet I) (ks : List QueryKey) {c : Client ι ω} (holds : I c) :
    I (c.fetchAll ks) := by
  induction ks generalizing c with
  | nil => exact holds
  | cons k ks ih => exact ih (quiet.fetch k holds)

theorem invalidate (quiet : Quiet I) (is : List Invalidation) {c : Client ι ω} (holds : I c) :
    I (c.invalidate is) :=
  quiet.fetchAll _ (quiet.expire is holds)

theorem release (quiet : Quiet I) (k : Option QueryKey) {c : Client ι ω} (holds : I c) :
    I (c.release k) := by
  cases k with
  | none => exact holds
  | some k => exact quiet.unobserve k holds

theorem acquire (quiet : Quiet I) (k : Option QueryKey) {c : Client ι ω} (holds : I c) :
    I (c.acquire k) := by
  cases k with
  | none => exact holds
  | some k => exact quiet.fetch k (quiet.observe k holds)

variable [DecidableEq ι]

theorem unmount (quiet : Quiet I) (i : ι) {c : Client ι ω} (holds : I c) : I (c.unmount i) :=
  quiet.hooks _ (quiet.release _ holds)

theorem mount (quiet : Quiet I) (i : ι) {c : Client ι ω} (holds : I c) : I (c.mount i) :=
  quiet.hooks _ (quiet.unmount i holds)

theorem swap (quiet : Quiet I) (i : ι) (next : Option QueryKey) {c : Client ι ω} (holds : I c) :
    I (c.swap i next) := by
  unfold Client.swap
  split
  · exact holds
  · split
    · exact holds
    · exact quiet.acquire _ (quiet.release _ (quiet.hooks _ holds))

end Quiet

/-- The elementary changes of a client keep the property. -/
structure Closed (I : Client ι ω → Prop) : Prop where
  fetch : ∀ {c} k, I c → I (c.fetch k)
  expire : ∀ {c} is, I c → I (c.expire is)
  observe : ∀ {c} k, I c → I (c.observe k)
  unobserve : ∀ {c} k, I c → I (c.unobserve k)
  hooks : ∀ {c} hooks, I c → I { c with hooks := hooks }
  write : ∀ {c} m body shape tag, I c → I (c.write m body shape tag)

namespace Closed

variable {I : Client ι ω → Prop}

theorem quiet (closed : Closed I) : Quiet I :=
  ⟨closed.fetch, closed.expire, closed.observe, closed.unobserve, closed.hooks⟩

theorem fetchAll (closed : Closed I) (ks : List QueryKey) {c : Client ι ω} (holds : I c) :
    I (c.fetchAll ks) :=
  closed.quiet.fetchAll ks holds

theorem invalidate (closed : Closed I) (is : List Invalidation) {c : Client ι ω} (holds : I c) :
    I (c.invalidate is) :=
  closed.quiet.invalidate is holds

variable [DecidableEq ι]

theorem perform (closed : Closed I) (a : Action ι ω) {c : Client ι ω} (holds : I c) :
    I (c.perform a) := by
  cases a with
  | mount i => exact closed.quiet.mount i holds
  | unmount i => exact closed.quiet.unmount i holds
  | swap i next => exact closed.quiet.swap i next holds
  | fetch k => exact closed.fetch k holds
  | invalidate is => exact closed.invalidate is holds
  | write m body shape tag => exact closed.write m body shape tag holds

end Closed

/-! ## Sessions -/

/-- Taking an exchange by its name takes one of those on the network and leaves the others. -/
theorem takeFirst_eq_some {name : String} {es rest : List (Exchange ω)} {e : Exchange ω}
    (taken : takeFirst name es = some (e, rest)) :
    ∃ before after, es = before ++ e :: after ∧ rest = before ++ after := by
  induction es generalizing rest with
  | nil => simp [takeFirst] at taken
  | cons x es ih =>
    unfold takeFirst at taken
    split at taken
    · simp only [Option.some.injEq, Prod.mk.injEq] at taken
      obtain ⟨rfl, rfl⟩ := taken
      exact ⟨[], es, rfl, rfl⟩
    · simp only [Option.map_eq_some_iff, Prod.mk.injEq, Prod.exists] at taken
      obtain ⟨e', rest', taken, rfl, rfl⟩ := taken
      obtain ⟨before, after, rfl, rfl⟩ := ih taken
      exact ⟨x :: before, after, rfl, rfl⟩

theorem take?_eq_some {name : String} {newest : Bool} {c c' : Client ι ω} {e : Exchange ω}
    (taken : c.take? name newest = some (e, c')) :
    ∃ before after, c.pending = before ++ e :: after ∧
      c' = { c with pending := before ++ after } := by
  cases newest with
  | true =>
    simp only [take?, if_true, Option.map_eq_some_iff, Prod.mk.injEq, Prod.exists] at taken
    obtain ⟨e', rest, taken, rfl, rfl⟩ := taken
    obtain ⟨before, after, split, rfl⟩ := takeFirst_eq_some taken
    refine ⟨after.reverse, before.reverse, ?_, by simp⟩
    rw [← List.reverse_reverse c.pending, split]
    simp
  | false =>
    simp only [take?, Bool.false_eq_true, if_false, Option.map_eq_some_iff, Prod.mk.injEq,
      Prod.exists] at taken
    obtain ⟨e', rest, taken, rfl, rfl⟩ := taken
    obtain ⟨before, after, split, rfl⟩ := takeFirst_eq_some taken
    exact ⟨before, after, split, rfl⟩

end Client

namespace Session

variable {ι ω : Type} [DecidableEq ι]

/-- Whatever a page does in a session, the client stays reachable. -/
theorem act_reachable {s : Session ι ω} (reach : s.client.Reachable) (a : Client.Action ι ω) :
    (s.act (·.perform a)).client.Reachable :=
  (reach.tail (.perform _ a)).tail (.depart _)

/-- Whatever answer arrives in a session, the client stays reachable. -/
theorem answer_reachable {s : Session ι ω} (reach : s.client.Reachable) (name : String)
    (newest : Bool) (outcome : Outcome) :
    (s.answer name newest outcome).2.client.Reachable := by
  unfold answer
  split
  · exact reach
  · next e c taken =>
    obtain ⟨before, after, split, rfl⟩ := Client.take?_eq_some taken
    exact (reach.tail (.answer outcome split)).tail (.depart _)

/-- A session that answers everything from its routes keeps its client reachable. -/
theorem settle_reachable {s : Session ι ω} (reach : s.client.Reachable) :
    s.settle.client.Reachable := by
  unfold settle
  generalize Routes.settleLimit = limit
  generalize s.routes = routes
  induction limit generalizing s with
  | zero => exact reach
  | succ limit ih =>
    unfold Routes.settle
    split
    · exact reach
    · next name _ => exact ih (answer_reachable reach name false _)

end Session

end MetricConsole
