import MetricConsole.Text.Integer

/-!
# Errors of requests

What can go wrong between a form and the catalog's answer.  `message` is the full text and
`userMessage` the short text of a notice on the page.
-/

namespace MetricConsole

/-- Why a request has no result. -/
inductive ApiError where
  | network (text : String)
  | timeout (ms : Nat)
  | status (code : Nat) (body : String)
  | decode (text : String)
  | invalidInput (text : String)
  deriving DecidableEq, Repr

namespace ApiError

/-- The full text of an error. -/
def message : ApiError → String
  | .network text => "network error: " ++ text
  | .timeout ms => "request timed out after " ++ Nat.repr ms ++ " ms"
  | .status code body => "HTTP " ++ Nat.repr code ++ ": " ++ body
  | .decode text => "failed to parse response: " ++ text
  | .invalidInput text => text

/-- The catalog does not have what was asked for. -/
def isNotFound : ApiError → Bool
  | .status code _ => code == 404
  | _ => false

/-- The text of a notice on the page. -/
def userMessage : ApiError → String
  | .network _ | .timeout _ => "Network error, please try again"
  | .status code _ =>
    if code = 404 then "Not found" else "Request failed (HTTP " ++ Nat.repr code ++ ")"
  | .decode _ => "Unexpected server response"
  | .invalidInput text => text

end ApiError

end MetricConsole
