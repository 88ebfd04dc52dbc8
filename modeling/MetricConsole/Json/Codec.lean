import MetricConsole.Date.Text
import MetricConsole.Json.Basic
import MetricConsole.Word

/-!
# Payloads

`Codec α` writes values of `α` as JSON and reads them back.  An absent value is `null`, a date is
its text, and whole numbers are read only from whole numbers in range.
-/

namespace MetricConsole

/-- A form of `α` in JSON. -/
class Codec (α : Type) where
  encode : α → Json
  decode? : Json → Option α

export Codec (encode decode?)

instance : Codec Json where
  encode j := j
  decode? j := some j

instance : Codec Unit where
  encode _ := .null
  decode?
    | .null => some ()
    | _ => none

instance : Codec Bool where
  encode b := .bool b
  decode?
    | .bool b => some b
    | _ => none

instance : Codec String where
  encode s := .str s
  decode?
    | .str s => some s
    | _ => none

instance : Codec Int64 where
  encode n := .ofInt n.toInt
  decode?
    | .num (.int n) => Word.int64? n
    | _ => none

instance : Codec Int32 where
  encode n := .ofInt n.toInt
  decode?
    | .num (.int n) => Word.int32? n
    | _ => none

instance : Codec Date where
  encode d := .str d.text
  decode?
    | .str s => Date.ofPayload? s
    | _ => none

instance {α : Type} [Codec α] : Codec (Option α) where
  encode
    | none => .null
    | some a => encode a
  decode?
    | .null => some none
    | j => (decode? j).map some

instance {α : Type} [Codec α] : Codec (List α) where
  encode xs := .arr (xs.map encode)
  decode?
    | .arr js => js.mapM decode?
    | _ => none

end MetricConsole
