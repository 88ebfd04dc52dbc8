import MetricConsole.Text.Absent

/-!
# Timestamps

The catalog sends timestamps as text, a date and a time with a `T` between them.  The page shows the
date, and the time to the minute if the text after the `T` looks like one.
-/

namespace MetricConsole.Text

/-- The text before the first `sep` and the text after it. -/
def splitFirst (sep : Char) : List Char → Option (List Char × List Char)
  | [] => none
  | c :: cs =>
    if c = sep then some ([], cs)
    else (splitFirst sep cs).map fun r => (c :: r.1, r.2)

/-- Five bytes of UTF-8 with a colon in the middle, such as hours and minutes have. -/
def isClock (cs : List Char) : Bool :=
  let bytes := cs.flatMap String.utf8EncodeChar
  bytes.length == 5 && bytes[2]? == some ':'.toUInt8

/-- How a timestamp shows on the page. -/
def formatTimestamp (s : String) : String :=
  match splitFirst 'T' s.toList with
  | none => if s = "" then absent else s
  | some (date, time) =>
    let clock := time.take 5
    if isClock clock then String.ofList (date ++ ' ' :: clock) else String.ofList date

end MetricConsole.Text
