import MetricConsole.Text.Hex

/-!
# Form encoding

Names and values of a query string: ASCII letters, digits and `*-._` stand for themselves, a space
is written `+`, and every other character is the bytes of its UTF-8 form, each as a percent sign
and two hexadecimal digits.  `decode?` reads the form back and is lenient about percent signs that
no two hexadecimal digits follow.
-/

namespace MetricConsole.Text.FormEncoding

/-- The characters written as themselves. -/
def isLiteral (c : Char) : Bool :=
  c.isAlphanum || c == '*' || c == '-' || c == '.' || c == '_'

/-- One byte as a percent sign and two digits. -/
def encodeByte (b : UInt8) : List Char :=
  ['%', Hex.upper (b.toNat / 16), Hex.upper (b.toNat % 16)]

/-- The encoded form of one character. -/
def encodeChar (c : Char) : List Char :=
  if isLiteral c then [c]
  else if c = ' ' then ['+']
  else (String.utf8EncodeChar c).flatMap encodeByte

/-- The encoded form of a text. -/
def encode (s : String) : String :=
  String.ofList (s.toList.flatMap encodeChar)

/-- The bytes that encoded characters stand for. -/
def decodeBytes : List Char → List UInt8
  | [] => []
  | '%' :: h :: l :: cs =>
    match Hex.value? h, Hex.value? l with
    | some a, some b => UInt8.ofNat (16 * a + b) :: decodeBytes cs
    | _, _ => '%'.toUInt8 :: decodeBytes (h :: l :: cs)
  | '+' :: cs => ' '.toUInt8 :: decodeBytes cs
  | c :: cs => String.utf8EncodeChar c ++ decodeBytes cs
termination_by cs => cs.length

/-- The text with this encoded form; nothing if its bytes are no UTF-8. -/
def decode? (cs : List Char) : Option String :=
  String.fromUTF8? ⟨(decodeBytes cs).toArray⟩

/-- Encoded pairs with equals signs in them and ampersands between them. -/
def encodePairs (pairs : List (String × String)) : String :=
  "&".intercalate (pairs.map fun p => encode p.1 ++ "=" ++ encode p.2)

end MetricConsole.Text.FormEncoding
