import MetricConsole.Json.Basic
import MetricConsole.Text.Blank
import MetricConsole.Text.FormEncoding

/-!
# Requests

A request has a method, a path below the base address of the catalog, an encoded query and a body.
`ApiConfig.url` puts exactly one slash between the base address and the path.
-/

namespace MetricConsole

/-- The methods that the catalog knows. -/
inductive Method where
  | get
  | post
  | patch
  | delete
  deriving DecidableEq, Repr

namespace Method

/-- The methods, in their order. -/
def all : List Method := [.get, .post, .patch, .delete]

/-- The word for a method. -/
def word : Method → String
  | .get => "GET"
  | .post => "POST"
  | .patch => "PATCH"
  | .delete => "DELETE"

end Method

/-- Where the catalog is, and how long to wait for it. -/
structure ApiConfig where
  baseUrl : String
  timeoutMs : Nat
  deriving DecidableEq, Repr

namespace ApiConfig

/-- The base address without blanks around it and slashes at its end. -/
def make (baseUrl : String) (timeoutMs : Nat) : ApiConfig where
  baseUrl := String.ofList (Text.dropEndWhile (· == '/') (Text.trimList baseUrl.toList))
  timeoutMs := timeoutMs

/-- The address of the catalog unless another is set. -/
def defaultBaseUrl : String := "http://localhost:8000/api"

/-- How long to wait for an answer, in milliseconds. -/
def requestTimeoutMs : Nat := 8000

/-- The configuration of the console. -/
def console : ApiConfig := make defaultBaseUrl requestTimeoutMs

/-- The full address of a path, with a query if there is one that is not empty. -/
def url (config : ApiConfig) (path : String) (query : Option String) : String :=
  let path := String.ofList (path.toList.dropWhile (· == '/'))
  match query with
  | some q =>
    if q = "" then config.baseUrl ++ "/" ++ path else config.baseUrl ++ "/" ++ path ++ "?" ++ q
  | none => config.baseUrl ++ "/" ++ path

end ApiConfig

/-- One call of the catalog. -/
structure Request where
  method : Method
  path : String
  query : Option String
  body : Option Json
  deriving DecidableEq, Repr

namespace Request

/-- A request for the value at a path. -/
def get (path : String) : Request := ⟨.get, path, none, none⟩

/-- The request with an encoded query; an empty one is none. -/
def withEncoded (r : Request) (query : String) : Request :=
  { r with query := if query = "" then none else some query }

/-- The request with parameters. -/
def withParameters (r : Request) (parameters : List (String × String)) : Request :=
  r.withEncoded (Text.FormEncoding.encodePairs parameters)

/-- The full address. -/
def url (r : Request) (config : ApiConfig) : String := config.url r.path r.query

/-- The name of a request: its method and its address below the base. -/
def name (r : Request) : String :=
  match r.query with
  | none => r.method.word ++ " " ++ r.path
  | some q => r.method.word ++ " " ++ r.path ++ "?" ++ q

/-- The headers: the form of the answer, and that of the body if there is one. -/
def headers (r : Request) : List String :=
  "Accept: application/json" ::
    (if r.body.isSome then ["Content-Type: application/json"] else [])

end Request

end MetricConsole
