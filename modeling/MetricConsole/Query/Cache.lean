import MetricConsole.Api.Error
import MetricConsole.Query.Key

/-!
# The cache

The cache holds at most one entry per key, in the order in which the keys were first asked for.  It
decides whether a read needs a request and hands out a ticket for each request that it starts.  A
result is accepted only with the ticket of the request that is running: invalidating a key takes the
ticket away, so that an answer from before the invalidation is dropped.  A failure never removes the
value of an entry.
-/

namespace MetricConsole

/-- What is known of one key. -/
structure CacheEntry where
  data : Option Json
  error : Option ApiError
  stale : Bool
  inFlight : Option Nat
  observers : Nat
  deriving DecidableEq, Repr

namespace CacheEntry

/-- Nothing is known and nobody looks. -/
def blank : CacheEntry := ⟨none, none, false, none, 0⟩

/-- There is a value that need not be asked for again. -/
def isFresh (e : CacheEntry) : Bool := e.data.isSome && !e.stale && e.error.isNone

/-- The entry after the result of its request. -/
def settle (e : CacheEntry) : Except ApiError Json → CacheEntry
  | .ok value => { e with data := some value, error := none, stale := false, inFlight := none }
  | .error err => { e with error := some err, inFlight := none }

/-- The entry once its value may be out of date; a running request no longer counts. -/
def expire (e : CacheEntry) : CacheEntry := { e with stale := true, inFlight := none }

end CacheEntry

/-- The right to report the result of the running request of a key. -/
structure Ticket where
  key : QueryKey
  id : Nat
  deriving DecidableEq, Repr

/-- What a read of a key does: it starts a request, shares a running one, or needs none. -/
inductive FetchDecision where
  | start (ticket : Ticket)
  | join
  | fresh
  deriving DecidableEq, Repr

/-- What a page sees of one key. -/
structure Snapshot where
  data : Option Json
  isLoading : Bool
  isFetching : Bool
  error : Option ApiError
  deriving DecidableEq, Repr

namespace Snapshot

/-- Nothing to see. -/
def blank : Snapshot := ⟨none, false, false, none⟩

/-- What can be seen of an entry. -/
def ofEntry (e : CacheEntry) : Snapshot where
  data := e.data
  isLoading := e.data.isNone && e.inFlight.isSome
  isFetching := e.inFlight.isSome
  error := e.error

/-- The value, if there is one that can be read as `α`. -/
def decode? (α : Type) [Codec α] (s : Snapshot) : Option α := s.data.bind MetricConsole.decode?

end Snapshot

/-- The entries of the cache and the number of requests started so far. -/
structure Cache where
  entries : List (QueryKey × CacheEntry)
  started : Nat
  deriving DecidableEq, Repr

namespace Cache

/-- The cache without entries. -/
def empty : Cache := ⟨[], 0⟩

/-- The entry of a key. -/
def find? (c : Cache) (k : QueryKey) : Option CacheEntry := c.entries.lookup k

/-- The number of entries. -/
def size (c : Cache) : Nat := c.entries.length

/-- The entries with one put in the place of the entry of its key, or at the end. -/
def putEntry (k : QueryKey) (e : CacheEntry) :
    List (QueryKey × CacheEntry) → List (QueryKey × CacheEntry)
  | [] => [(k, e)]
  | (k', e') :: es => if k' = k then (k, e) :: es else (k', e') :: putEntry k e es

/-- Puts an entry in the place of the entry of its key. -/
def put (c : Cache) (k : QueryKey) (e : CacheEntry) : Cache :=
  { c with entries := putEntry k e c.entries }

/-- The entry of a key, blank if the key was never asked for. -/
def get (c : Cache) (k : QueryKey) : CacheEntry := (c.find? k).getD .blank

/-- Reads a key. -/
def beginFetch (c : Cache) (k : QueryKey) : FetchDecision × Cache :=
  let e := c.get k
  if e.inFlight.isSome then (.join, c)
  else if e.isFresh then (.fresh, c)
  else
    let id := c.started + 1
    (.start ⟨k, id⟩, { c.put k { e with inFlight := some id } with started := id })

/-- Reports the result of a request, and tells whether it was accepted. -/
def complete (c : Cache) (t : Ticket) (result : Except ApiError Json) : Bool × Cache :=
  let e := c.get t.key
  if e.inFlight = some t.id then (true, c.put t.key (e.settle result)) else (false, c)

/-- Expires every entry that an invalidation matches, and gives those keys of them that somebody
looks at. -/
def invalidate (c : Cache) (i : Invalidation) : List QueryKey × Cache :=
  let hit := c.entries.filter fun e => i.matches e.1
  ((hit.filter fun e => 0 < e.2.observers).map Prod.fst,
    { c with entries := c.entries.map fun e => if i.matches e.1 then (e.1, e.2.expire) else e })

/-- The keys of `new` that are not in `seen`, after those of `seen`. -/
def appendNew (seen new : List QueryKey) : List QueryKey :=
  new.foldl (fun ks k => if k ∈ ks then ks else ks ++ [k]) seen

/-- Invalidates one after the other, and gives each key that somebody looks at once, where it was
first met. -/
def invalidateAll (c : Cache) (is : List Invalidation) : List QueryKey × Cache :=
  is.foldl (fun r i => let (ks, c) := r.2.invalidate i; (appendNew r.1 ks, c)) ([], c)

/-- One more looks at a key. -/
def observe (c : Cache) (k : QueryKey) : Cache :=
  let e := c.get k
  c.put k { e with observers := e.observers + 1 }

/-- One less looks at a key. -/
def unobserve (c : Cache) (k : QueryKey) : Cache :=
  match c.find? k with
  | some e => c.put k { e with observers := e.observers - 1 }
  | none => c

/-- What can be seen of a key. -/
def snapshot (c : Cache) (k : QueryKey) : Snapshot := .ofEntry (c.get k)

/-- What can be seen of the key that is looked at, if there is one. -/
def view (c : Cache) (active : Option QueryKey) : Snapshot :=
  (active.map c.snapshot).getD .blank

/-! ## Entries after a put -/

theorem lookup_putEntry (k k' : QueryKey) (e : CacheEntry) (es : List (QueryKey × CacheEntry)) :
    (putEntry k e es).lookup k' = if k' = k then some e else es.lookup k' := by
  induction es with
  | nil =>
    by_cases h : k' = k
    · simp [putEntry, h]
    · simp [putEntry, List.lookup_cons, beq_false_of_ne h, h]
  | cons p es ih =>
    obtain ⟨q, d⟩ := p
    by_cases hq : q = k
    · by_cases h : k' = k
      · simp [putEntry, hq, h]
      · simp [putEntry, List.lookup_cons, hq, beq_false_of_ne h, h]
    · by_cases h : k' = q
      · simp [putEntry, hq, h]
      · simp [putEntry, List.lookup_cons, hq, beq_false_of_ne h, ih]

@[simp]
theorem find?_put_self (c : Cache) (k : QueryKey) (e : CacheEntry) :
    (c.put k e).find? k = some e := by
  simp [put, find?, lookup_putEntry]

theorem find?_put_of_ne (c : Cache) {k k' : QueryKey} (e : CacheEntry) (h : k' ≠ k) :
    (c.put k e).find? k' = c.find? k' := by
  simp [put, find?, lookup_putEntry, h]

end Cache

end MetricConsole
