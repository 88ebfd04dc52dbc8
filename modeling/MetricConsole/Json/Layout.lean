import MetricConsole.Json.Codec

/-!
# Records

A layout lists the fields of a record in their declared order and says how to make the record from
them.  A record is written as an object.  It is read from an object, where members that it does not
know are ignored, or from a list of its fields, which may end early.

A field that is not there takes its default; an optional one is absent if the record is an object
and refused if it is a list.  Only an optional field is left out when it is written, and only if it
is absent.
-/

namespace MetricConsole

/-- What a record is read from. -/
inductive Json.Source where
  | members (ms : List (String × Json))
  | items (js : List Json)

/-- The value of the field with a name, at a position. -/
def Json.Source.get? (source : Source) (position : Nat) (name : String) : Option Json :=
  match source with
  | .members ms => lookup name ms
  | .items js => js[position]?

/-- The fields of a record `ρ` up to some place, and what is made of them.  A `field` takes `absent`
if it is not there; an `option` is left out when absent. -/
inductive Layout (ρ : Type) : Type → Type 1 where
  | make {β : Type} (value : β) : Layout ρ β
  | field {α β : Type} (codec : Codec α) (absent : Option α) (before : Layout ρ (α → β))
    (name : String) (get : ρ → α) : Layout ρ β
  | option {α β : Type} (codec : Codec α) (before : Layout ρ (Option α → β)) (name : String)
    (get : ρ → Option α) : Layout ρ β

namespace Layout

variable {ρ α β : Type}

/-- A field that must be there. -/
def required [codec : Codec α] (before : Layout ρ (α → β)) (name : String) (get : ρ → α) :
    Layout ρ β :=
  .field codec none before name get

/-- A field with a value for when it is not there. -/
def defaulted [codec : Codec α] (before : Layout ρ (α → β)) (name : String) (get : ρ → α)
    (absent : α) : Layout ρ β :=
  .field codec (some absent) before name get

/-- A field that is written only if it has a value. -/
def optional [codec : Codec α] (before : Layout ρ (Option α → β)) (name : String)
    (get : ρ → Option α) : Layout ρ β :=
  .option codec before name get

/-- The number of fields. -/
def size {β : Type} : Layout ρ β → Nat
  | .make _ => 0
  | .field _ _ before _ _ => before.size + 1
  | .option _ before _ _ => before.size + 1

/-- The names of the fields, in declared order. -/
def names {β : Type} : Layout ρ β → List String
  | .make _ => []
  | .field _ _ before name _ => before.names ++ [name]
  | .option _ before name _ => before.names ++ [name]

/-- The members of a record, in declared order. -/
def write {β : Type} (r : ρ) : Layout ρ β → List (String × Json)
  | .make _ => []
  | .field codec _ before name get => before.write r ++ [(name, codec.encode (get r))]
  | .option codec before name get =>
    match get r with
    | none => before.write r
    | some a => before.write r ++ [(name, codec.encode a)]

/-- Reads the fields and makes a value of them. -/
def read {β : Type} (source : Json.Source) : Layout ρ β → Option β
  | .make b => some b
  | .field codec absent before name _ => do
    let f ← before.read source
    match source.get? before.size name with
    | some j => return f (← codec.decode? j)
    | none => return f (← absent)
  | .option codec before name _ => do
    let f ← before.read source
    match source.get? before.size name, source with
    | some .null, _ => return f none
    | some j, _ => return f (some (← codec.decode? j))
    | none, .members _ => return f none
    | none, .items _ => none

/-- A record as an object. -/
def toJson (l : Layout ρ ρ) (r : ρ) : Json := .ofMembers (l.write r)

/-- The record in an object or a list. -/
def ofJson? (l : Layout ρ ρ) : Json → Option ρ
  | .obj ms => l.read (.members ms)
  | .arr js => if js.length ≤ l.size then l.read (.items js) else none
  | _ => none

/-- The codec of a record. -/
abbrev codec (l : Layout ρ ρ) : Codec ρ where
  encode := l.toJson
  decode? := l.ofJson?

end Layout

end MetricConsole
