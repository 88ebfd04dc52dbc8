/-!
# Faults of a JSON text

A fault has a cause and a place.  The place is the number of bytes of the UTF-8 text that follow it;
`Fault.message` turns it into a line and a column, where a column counts bytes.
-/

namespace MetricConsole.Json

/-- What is wrong with a JSON text. -/
inductive Cause where
  | endInList
  | endInObject
  | endInString
  | endInValue
  | noColon
  | noListEnd
  | noObjectEnd
  | noWord
  | noValue
  | badEscape
  | badNumber
  | numberTooLarge
  | controlInString
  | keyNotString
  | loneSurrogate
  | trailingComma
  | trailingText
  | noSecondSurrogate
  | tooDeep
  deriving DecidableEq, Repr

/-- The words for a cause. -/
def Cause.text : Cause → String
  | .endInList => "EOF while parsing a list"
  | .endInObject => "EOF while parsing an object"
  | .endInString => "EOF while parsing a string"
  | .endInValue => "EOF while parsing a value"
  | .noColon => "expected `:`"
  | .noListEnd => "expected `,` or `]`"
  | .noObjectEnd => "expected `,` or `\x7d`"
  | .noWord => "expected ident"
  | .noValue => "expected value"
  | .badEscape => "invalid escape"
  | .badNumber => "invalid number"
  | .numberTooLarge => "number out of range"
  | .controlInString => "control character (\\u0000-\\u001F) found while parsing a string"
  | .keyNotString => "key must be a string"
  | .loneSurrogate => "lone leading surrogate in hex escape"
  | .trailingComma => "trailing comma"
  | .trailingText => "trailing characters"
  | .noSecondSurrogate => "unexpected end of hex escape"
  | .tooDeep => "recursion limit exceeded"

/-- A cause, and the number of bytes of the text after the place where it shows. -/
structure Fault where
  cause : Cause
  left : Nat
  deriving DecidableEq, Repr

/-- A line and a column; lines count from one, and a column is the number of bytes of its line. -/
structure Position where
  line : Nat
  column : Nat
  deriving DecidableEq, Repr

/-- The position after the bytes that follow `start`. -/
def Position.advance (start : Position) : List UInt8 → Position
  | [] => start
  | b :: bs =>
    if b = '\n'.toUInt8 then advance ⟨start.line + 1, 0⟩ bs
    else advance ⟨start.line, start.column + 1⟩ bs

/-- The position of the fault in its text. -/
def Fault.position (f : Fault) (text : String) : Position :=
  let bytes := text.toUTF8.toList
  Position.advance ⟨1, 0⟩ (bytes.take (bytes.length - f.left))

/-- The cause and the position, in words. -/
def Fault.message (f : Fault) (text : String) : String :=
  let p := f.position text
  f.cause.text ++ " at line " ++ Nat.repr p.line ++ " column " ++ Nat.repr p.column

end MetricConsole.Json
