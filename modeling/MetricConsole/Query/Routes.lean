import MetricConsole.Api.Response

/-!
# Routes

A table of what comes of requests, by the names of the requests.  A request that has no route of its
own takes the one of its name without the query, and one that has neither is not found.
-/

namespace MetricConsole

/-- What comes of requests, by name. -/
abbrev Routes := List (String × Outcome)

namespace Routes

/-- Sets what comes of the requests of a name. -/
def set (name : String) (outcome : Outcome) (r : Routes) : Routes :=
  (name, outcome) :: r.filter fun e => e.1 ≠ name

/-- A name without the query. -/
def plainName (name : String) : String := String.ofList (name.toList.takeWhile (· ≠ '?'))

/-- What comes of a request that has no route. -/
def notFound : Outcome := .answered 404 ""

/-- What comes of a request. -/
def outcome (r : Routes) (name : String) : Outcome :=
  ((r.lookup name).or (r.lookup (plainName name))).getD notFound

/-- How many answers are given in one go at most. -/
def settleLimit : Nat := 100

/-- Answers the oldest of the requests that are under way, again and again, until there is none or
the limit is reached. -/
def settle {σ : Type} (r : Routes) (oldest? : σ → Option String)
    (answer : String → Outcome → σ → σ) : Nat → σ → σ
  | 0, s => s
  | limit + 1, s =>
    match oldest? s with
    | none => s
    | some name => settle r oldest? answer limit (answer name (r.outcome name) s)

end Routes

end MetricConsole
