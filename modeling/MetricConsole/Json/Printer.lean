import MetricConsole.Decimal.Shortest
import MetricConsole.Json.Basic
import MetricConsole.Text.Hex
import MetricConsole.Text.Integer

/-!
# JSON text

`Json.compact` writes a value without blanks and `Json.pretty` with one item or member a line,
indented by two spaces a level.  A floating-point number is written with its shortest digits, and
always with a point or an exponent, so that it reads back as one.
-/

namespace MetricConsole.Json

open Decimal

/-- The form of a character inside a string: quotes, backslashes and controls are escaped. -/
def escape (c : Char) : List Char :=
  if c = '"' then ['\\', '"']
  else if c = '\\' then ['\\', '\\']
  else if c = '\n' then ['\\', 'n']
  else if c = '\r' then ['\\', 'r']
  else if c = '\t' then ['\\', 't']
  else if c = '\x08' then ['\\', 'b']
  else if c = '\x0c' then ['\\', 'f']
  else if c.toNat < 0x20 then
    ['\\', 'u', '0', '0', Text.Hex.lower (c.toNat / 16), Text.Hex.lower (c.toNat % 16)]
  else [c]

/-- A string with its quotes. -/
def quoted (s : String) : List Char :=
  '"' :: (s.toList.flatMap escape ++ ['"'])

/-- The numbers written without an exponent have the point at most this far after their first
digit. -/
def maxPoint : Int := 16

/-- The numbers written without an exponent have at most this many zeros after the point, less
one. -/
def minPoint : Int := -5

/-- An exponent with its sign. -/
def exponentText (e : Int) : List Char :=
  'e' :: ((if 0 ≤ e then ['+'] else ['-']) ++ (Nat.repr e.natAbs).toList)

/-- Digits with a point among, before or after them, or with an exponent. -/
def digitsText (d : Digits) : List Char :=
  let n : Int := d.digits.length
  if n ≤ d.point ∧ d.point ≤ maxPoint then
    d.digits ++ List.replicate (d.point - n).toNat '0' ++ ['.', '0']
  else if 0 < d.point ∧ d.point ≤ maxPoint then
    d.digits.take d.point.toNat ++ '.' :: d.digits.drop d.point.toNat
  else if minPoint < d.point ∧ d.point ≤ 0 then
    '0' :: '.' :: (List.replicate (-d.point).toNat '0' ++ d.digits)
  else
    match d.digits with
    | [] => []
    | [c] => c :: exponentText (d.point - 1)
    | c :: cs => c :: '.' :: (cs ++ exponentText (d.point - 1))

/-- A number. -/
def Number.text : Number → List Char
  | .int n => (Text.Integer.render n).toList
  | .float x =>
    (if x.negative then ['-'] else []) ++
      (if x.isZero then ['0', '.', '0'] else digitsText (Shortest.digits x))

/-- The values that hold no other value. -/
def scalarText : Json → List Char
  | .null => "null".toList
  | .bool true => "true".toList
  | .bool false => "false".toList
  | .num n => n.text
  | .str s => quoted s
  | .arr _ => "[]".toList
  | .obj _ => ['\x7b', '\x7d']

mutual

/-- A value without blanks. -/
def compactList : Json → List Char
  | .arr (x :: xs) => '[' :: (compactList x ++ (compactItems xs ++ [']']))
  | .obj ((n, v) :: ms) =>
    '\x7b' :: (quoted n ++ ':' :: (compactList v ++ (compactMembers ms ++ ['\x7d'])))
  | j => scalarText j

/-- Further items, each after a comma. -/
def compactItems : List Json → List Char
  | [] => []
  | x :: xs => ',' :: (compactList x ++ compactItems xs)

/-- Further members, each after a comma. -/
def compactMembers : List (String × Json) → List Char
  | [] => []
  | (n, v) :: ms => ',' :: (quoted n ++ ':' :: (compactList v ++ compactMembers ms))

end

/-- The text of a value without blanks. -/
def compact (j : Json) : String := String.ofList (compactList j)

/-- A new line at a level of nesting. -/
def newline (level : Nat) : List Char := '\n' :: List.replicate (2 * level) ' '

mutual

/-- A value whose first line stands at a level of nesting. -/
def prettyList (level : Nat) : Json → List Char
  | .arr (x :: xs) =>
    '[' :: (newline (level + 1) ++ (prettyList (level + 1) x ++
      (prettyItems (level + 1) xs ++ (newline level ++ [']']))))
  | .obj ((n, v) :: ms) =>
    '\x7b' :: (newline (level + 1) ++ (quoted n ++ ':' :: ' ' :: (prettyList (level + 1) v ++
      (prettyMembers (level + 1) ms ++ (newline level ++ ['\x7d'])))))
  | j => scalarText j

/-- Further items, each after a comma and on its line. -/
def prettyItems (level : Nat) : List Json → List Char
  | [] => []
  | x :: xs => ',' :: (newline level ++ (prettyList level x ++ prettyItems level xs))

/-- Further members, each after a comma and on its line. -/
def prettyMembers (level : Nat) : List (String × Json) → List Char
  | [] => []
  | (n, v) :: ms =>
    ',' :: (newline level ++ (quoted n ++ ':' :: ' ' :: (prettyList level v ++
      prettyMembers level ms)))

end

/-- The text of a value with one item or member a line. -/
def pretty (j : Json) : String := String.ofList (prettyList 0 j)

end MetricConsole.Json
