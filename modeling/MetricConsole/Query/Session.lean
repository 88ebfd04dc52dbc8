import MetricConsole.Query.Client
import MetricConsole.Query.Routes

/-!
# Sessions

A session is a client and a table of what comes of its requests, and keeps a record of the requests
that were sent and the writes that ended.  All that follows from one action happens in one moment,
at the end of which the outbox departs.
-/

namespace MetricConsole

/-- A client, its routes, and the record of what happened. -/
structure Session (ι ω : Type) where
  client : Client ι ω
  routes : Routes
  sent : List (Exchange ω)
  finished : List (ω × Except ApiError Json)

namespace Session

variable {ι ω : Type}

/-- A session in which nothing happened yet. -/
def initial (routes : Routes) : Session ι ω := ⟨.initial, routes, [], []⟩

/-- The session with an empty record. -/
def clear (s : Session ι ω) : Session ι ω := { s with sent := [], finished := [] }

/-- Acts on the client; what it sends departs. -/
def act (f : Client ι ω → Client ι ω) (s : Session ι ω) : Session ι ω :=
  let (left, client) := (f s.client).depart
  { s with client := client, sent := s.sent ++ left }

/-- Answers the oldest or the newest request of a name, and tells whether there was one. -/
def answer (name : String) (newest : Bool) (outcome : Outcome) (s : Session ι ω) :
    Bool × Session ι ω :=
  match s.client.take? name newest with
  | none => (false, s)
  | some (e, client) =>
    let (result, client) := client.receive e outcome
    (true, { s with finished := s.finished ++ result.toList }.act fun _ => client)

/-- The name of the oldest request under way. -/
def oldest? (s : Session ι ω) : Option String := s.client.pending.head?.map (·.request.name)

/-- Answers everything from the routes. -/
def settle (s : Session ι ω) : Session ι ω :=
  s.routes.settle oldest? (fun name outcome s => (s.answer name false outcome).2)
    Routes.settleLimit s

end Session

end MetricConsole
