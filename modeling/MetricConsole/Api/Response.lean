import MetricConsole.Api.Error
import MetricConsole.Json.Parser
import MetricConsole.Text.Blank

/-!
# Answers

What comes of a request, and the value or the error that it stands for.
-/

namespace MetricConsole

/-- What comes of a request. -/
inductive Outcome where
  | failed (text : String)
  | timedOut
  | answered (status : Nat) (body : String)
  deriving DecidableEq, Repr

namespace Outcome

/-- The value of a body. A blank body stands for `null`. -/
def decodeBody (text : String) : Except ApiError Json :=
  if Text.IsBlank text then .ok .null
  else
    match Json.parse text with
    | .ok j => .ok j
    | .error f => .error (.decode (f.message text))

/-- The status is one of success. -/
def isSuccess (status : Nat) : Bool := decide (200 ≤ status) && decide (status ≤ 299)

/-- The value or the error of a request that waits at most `timeoutMs` milliseconds. -/
def result (timeoutMs : Nat) : Outcome → Except ApiError Json
  | .failed text => .error (.network text)
  | .timedOut => .error (.timeout timeoutMs)
  | .answered status body =>
    if isSuccess status then decodeBody body else .error (.status status body)

end Outcome

end MetricConsole
