import MetricConsole.Api.Request
import MetricConsole.Decimal.Shortest
import MetricConsole.Text.Integer
import MetricConsole.Text.CommaList
import MetricConsole.Text.Timestamp

/-!
# Query strings

`QueryString.ofJson?` writes the members of an object, or the items of a list by their positions, as
the query of a request: a list or an object below a member puts its positions or names in brackets.
`QueryString.parse?` reads a query whose values are texts: pairs between ampersands, a name and a
value around an equals sign.  It refuses a query in which a name comes twice or is followed by
brackets, or that is no UTF-8.
-/

namespace MetricConsole

namespace QueryString

open Text Decimal

/-- The digits of a number around its point, without an exponent and without a point at the end. -/
def plainDigits (d : Digits) : List Char :=
  let n : Int := d.digits.length
  if d.point ≤ 0 then '0' :: '.' :: (List.replicate (-d.point).toNat '0' ++ d.digits)
  else if n ≤ d.point then d.digits ++ List.replicate (d.point - n).toNat '0'
  else d.digits.take d.point.toNat ++ '.' :: d.digits.drop d.point.toNat

/-- A number without an exponent. -/
def numberText : Json.Number → String
  | .int n => Integer.render n
  | .float x =>
    String.ofList ((if x.negative then ['-'] else []) ++
      (if x.isZero then ['0'] else plainDigits (Shortest.digits x)))

mutual

/-- The pairs for a value under an encoded name. -/
def pairs (name : String) : Json → List String
  | .null => [name ++ "="]
  | .bool b => [name ++ "=" ++ (if b then "true" else "false")]
  | .num n => [name ++ "=" ++ FormEncoding.encode (numberText n)]
  | .str s => [name ++ "=" ++ FormEncoding.encode s]
  | .arr js => itemPairs name 0 js
  | .obj ms => memberPairs name ms

/-- The pairs for the items of a list, from a position on. -/
def itemPairs (name : String) (position : Nat) : List Json → List String
  | [] => []
  | j :: js =>
    pairs (name ++ "[" ++ Nat.repr position ++ "]") j ++ itemPairs name (position + 1) js

/-- The pairs for the members of an object below a name. -/
def memberPairs (name : String) : List (String × Json) → List String
  | [] => []
  | (n, j) :: ms => pairs (name ++ "[" ++ FormEncoding.encode n ++ "]") j ++ memberPairs name ms

end

/-- The query for a value: an object names its pairs by its members, a list by its positions, and
null has no pairs.  Nothing else has a query. -/
def ofJson? : Json → Option String
  | .obj ms => some ("&".intercalate (ms.flatMap fun m => pairs (FormEncoding.encode m.1) m.2))
  | .arr js => some ("&".intercalate (js.zipIdx.flatMap fun j => pairs (Nat.repr j.2) j.1))
  | .null => some ""
  | _ => none

/-! ## Reading -/

/-- A name in brackets may start with this character. -/
def opensName (c : Char) : Bool :=
  !c.isDigit && c != '[' && c != ']' && 0x20 ≤ c.toNat && c.toNat < 0x7f

/-- The name and the value of a pair after an opening bracket, still encoded.  The name ends at the
closing bracket; without one everything is the name. -/
def bracketedPair? (cs : List Char) : Option (List Char × List Char) :=
  if cs.head?.all opensName then
    match splitFirst ']' cs with
    | none => some (cs, [])
    | some (name, []) => some (name, [])
    | some (name, '=' :: value) => some (name, value)
    | some (_, _ :: _) => none
  else none

/-- The name and the value of a pair whose first character is given, still encoded.  That character
belongs to the name, even if it is an equals sign; no bracket may follow the name. -/
def plainPair? (c : Char) (cs : List Char) : Option (List Char × List Char) :=
  let inName (d : Char) : Bool := d != '=' && d != '['
  let name := c :: cs.takeWhile inName
  match cs.dropWhile inName with
  | [] => some (name, [])
  | '=' :: value => some (name, value)
  | _ :: _ => none

/-- The name and the value of one pair; without an equals sign the value is empty. -/
def parsePair? (cs : List Char) : Option (String × String) := do
  let (name, value) ← match cs with
    | [] => none
    | '[' :: cs => bracketedPair? cs
    | c :: cs => plainPair? c cs
  return (← FormEncoding.decode? name, ← FormEncoding.decode? value)

/-- The pairs of a query, unless it is refused.  No query ends with a bracket that only opens. -/
def parse? (s : String) : Option (List (String × String)) := do
  let parts := splitOn '&' s.toList
  if parts.getLast? = some ['['] then none
  else
    let pairs ← (parts.filter (· ≠ [])).mapM parsePair?
    if (pairs.map Prod.fst).Nodup then some pairs else none

/-- The value of a parameter in the query of a page address, where question marks may lead. -/
def parameter? (search name : String) : Option String := do
  let pairs ← parse? (String.ofList (search.toList.dropWhile (· == '?')))
  pairs.lookup name

end QueryString

/-- The request with a value as its query; a value that has none leaves the query as it is. -/
def Request.withQuery (r : Request) (value : Json) : Request :=
  match QueryString.ofJson? value with
  | some q => r.withEncoded q
  | none => r

end MetricConsole
