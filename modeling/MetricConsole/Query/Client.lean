import MetricConsole.Api.Response
import MetricConsole.Catalog.Shape
import MetricConsole.Query.Cache
import MetricConsole.Query.Mutation

/-!
# The client

The client joins the cache, the hooks that look at keys, and the exchanges with the catalog that are
under way.  A hook holds at most one key: `swap` releases the key that it held and acquires the next
one, which reads it.  `receive` takes what came of an exchange: the answer to a read goes to the
cache, and a confirmed write expires what it may have changed and reads again what is looked at,
whatever becomes of its value.

Exchanges started since the last `depart` wait in the outbox; they leave together, in the order of
their names.
-/

namespace MetricConsole

/-- What the answer to a request is for: an entry of the cache, or whoever sent the write that the
tag stands for, who expects a value of some shape. -/
inductive Purpose (ω : Type) where
  | read (ticket : Ticket)
  | write (mutation : Mutation) (shape : Shape) (tag : ω)
  deriving DecidableEq

/-- A request without an answer yet. -/
structure Exchange (ω : Type) where
  request : Request
  purpose : Purpose ω
  deriving DecidableEq

/-- The cache, the hooks by their names, and the exchanges under way. -/
structure Client (ι ω : Type) where
  cache : Cache
  hooks : List (ι × Option QueryKey)
  pending : List (Exchange ω)
  outbox : List (Exchange ω)

namespace Client

variable {ι ω : Type}

/-- Nothing is cached, mounted or under way. -/
def initial : Client ι ω := ⟨.empty, [], [], []⟩

/-- Starts an exchange. -/
def send (e : Exchange ω) (c : Client ι ω) : Client ι ω := { c with outbox := c.outbox ++ [e] }

/-- Reads a key, with a request if the cache needs one. -/
def fetch (k : QueryKey) (c : Client ι ω) : Client ι ω :=
  match c.cache.beginFetch k with
  | (.start t, cache) => { c with cache := cache }.send ⟨k.request, .read t⟩
  | (_, cache) => { c with cache := cache }

/-- Expires what the invalidations match and reads again what is looked at. -/
def invalidate (is : List Invalidation) (c : Client ι ω) : Client ι ω :=
  let (ks, cache) := c.cache.invalidateAll is
  ks.foldl (fun c k => c.fetch k) { c with cache := cache }

/-- One more looks at a key. -/
def observe (k : QueryKey) (c : Client ι ω) : Client ι ω := { c with cache := c.cache.observe k }

/-- One less looks at a key. -/
def unobserve (k : QueryKey) (c : Client ι ω) : Client ι ω :=
  { c with cache := c.cache.unobserve k }

/-! ## Hooks -/

/-- Looks at a key and reads it. -/
def acquire (k : Option QueryKey) (c : Client ι ω) : Client ι ω :=
  match k with
  | some k => (c.observe k).fetch k
  | none => c

/-- Looks no longer at a key. -/
def release (k : Option QueryKey) (c : Client ι ω) : Client ι ω :=
  match k with
  | some k => c.unobserve k
  | none => c

section Hooks

variable [DecidableEq ι]

/-- The key that a hook holds; a hook that is not mounted holds none. -/
def held (c : Client ι ω) (i : ι) : Option QueryKey := (c.hooks.lookup i).join

/-- Takes a hook away. -/
def unmount (i : ι) (c : Client ι ω) : Client ι ω :=
  let c := c.release (c.held i)
  { c with hooks := c.hooks.filter fun h => h.1 ≠ i }

/-- Mounts a hook that holds nothing yet, in place of one that has its name. -/
def mount (i : ι) (c : Client ι ω) : Client ι ω :=
  let c := c.unmount i
  { c with hooks := c.hooks ++ [(i, none)] }

/-- Makes a hook hold a key; a key that it holds already is left alone, and so is everything if the
hook is not mounted. -/
def swap (i : ι) (next : Option QueryKey) (c : Client ι ω) : Client ι ω :=
  match c.hooks.lookup i with
  | none => c
  | some last =>
    if last = next then c
    else
      let hooks := c.hooks.map fun h => if h.1 = i then (i, next) else h
      ({ c with hooks := hooks }.release last).acquire next

/-- What a hook sees. -/
def snapshot (c : Client ι ω) (i : ι) : Snapshot := c.cache.view (c.held i)

end Hooks

/-! ## Exchanges -/

/-- Starts a write. -/
def write (m : Mutation) (body : Option Json) (shape : Shape) (tag : ω) (c : Client ι ω) :
    Client ι ω :=
  c.send ⟨m.request body, .write m shape tag⟩

/-- The value of a confirmed write in the shape that its sender expects. -/
def shaped (shape : Shape) (value : Json) : Except ApiError Json :=
  match shape.read? value with
  | some v => .ok v
  | none => .error (.decode "the value has another shape")

/-- Takes what came of an exchange, and gives the result of a write with its tag. -/
def receive (e : Exchange ω) (outcome : Outcome) (c : Client ι ω) :
    Option (ω × Except ApiError Json) × Client ι ω :=
  let result := outcome.result ApiConfig.console.timeoutMs
  match e.purpose with
  | .read t => (none, { c with cache := (c.cache.complete t result).2 })
  | .write m shape tag =>
    match result with
    | .error err => (some (tag, .error err), c)
    | .ok value => (some (tag, shaped shape value), c.invalidate m.invalidations)

/-- The exchanges in the outbox leave in the order of their names; the first part of the result are
those that left. -/
def depart (c : Client ι ω) : List (Exchange ω) × Client ι ω :=
  let left := c.outbox.mergeSort fun a b => decide (a.request.name ≤ b.request.name)
  (left, { c with pending := c.pending ++ left, outbox := [] })

/-- The first exchange of a name in a list, and the list without it. -/
def takeFirst (name : String) : List (Exchange ω) → Option (Exchange ω × List (Exchange ω))
  | [] => none
  | e :: es =>
    if e.request.name = name then some (e, es)
    else (takeFirst name es).map fun r => (r.1, e :: r.2)

/-- Takes the oldest or the newest exchange of a name out of those under way. -/
def take? (name : String) (newest : Bool) (c : Client ι ω) : Option (Exchange ω × Client ι ω) :=
  if newest then
    (takeFirst name c.pending.reverse).map fun r => (r.1, { c with pending := r.2.reverse })
  else (takeFirst name c.pending).map fun r => (r.1, { c with pending := r.2 })

end Client

end MetricConsole
