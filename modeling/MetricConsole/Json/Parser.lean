import MetricConsole.Decimal.Scaled
import MetricConsole.Json.Basic
import MetricConsole.Json.Fault
import MetricConsole.Text.Hex
import MetricConsole.Text.Integer

/-!
# Reading JSON

`Json.parse` reads one value, with blanks around it, and says what is wrong and where if the text is
no JSON.  A number without a point and an exponent that fits a word of 64 bits, signed or not, is a
whole number; minus zero and all other numbers are floating-point.  Values nest at most `maxDepth`
levels deep.

A reader takes the rest of the text and gives a value and what follows it.
-/

namespace MetricConsole.Json

open Decimal

/-- What a reader gives: a value and the rest of the text. -/
abbrev Read (α : Type) := Except Fault (α × List Char)

/-- Hands a value and the rest of the text on to the next reader. -/
def Read.andThen {α β : Type} (r : Read α) (next : α → List Char → Read β) : Read β :=
  match r with
  | .ok (a, cs) => next a cs
  | .error f => .error f

/-- The number of bytes of the characters' UTF-8 form. -/
def byteCount (cs : List Char) : Nat := cs.foldr (fun c n => c.utf8Size + n) 0

/-- The fault lies before the rest. -/
def faultBefore {α : Type} (cause : Cause) (rest : List Char) : Read α :=
  .error ⟨cause, byteCount rest⟩

/-- The fault lies in the first byte of the rest, or at the end of the text. -/
def faultAt {α : Type} (cause : Cause) (rest : List Char) : Read α :=
  .error ⟨cause, byteCount rest - 1⟩

/-- The blanks between the tokens of a JSON text. -/
def isSpace (c : Char) : Bool := c == ' ' || c == '\n' || c == '\t' || c == '\r'

/-- The rest without the blanks at its start. -/
def skipSpace (cs : List Char) : List Char := cs.dropWhile isSpace

/-- The rest of a word whose first letter has been read. -/
def readWord : List Char → List Char → Read Unit
  | [], cs => .ok ((), cs)
  | _ :: _, [] => faultBefore .endInValue []
  | e :: es, c :: cs => if c = e then readWord es cs else faultAt .noWord (c :: cs)

/-! ## Numbers -/

/-- The greatest significand that is kept whole. -/
def maxSignificand : Nat := 18446744073709551615

/-- The greatest significand that is kept whole under a minus sign. -/
def maxNegative : Nat := 9223372036854775808

/-- The greatest exponent that is told from a larger one. -/
def maxExponent : Int := 2147483647

/-- An exponent kept between the two that are told from others. -/
def clampExponent (e : Int) : Int := max (-maxExponent - 1) (min e maxExponent)

/-- The rest without the digits at its start. -/
def skipDigits (cs : List Char) : List Char :=
  cs.dropWhile fun c => (Text.Integer.digit? c).isSome

/-- The floating-point number with these parts. -/
def ofParts (negative : Bool) (significand : Nat) (exponent : Int) (rest : List Char) :
    Read Number :=
  match scaled? negative significand exponent with
  | some x => .ok (.float x, rest)
  | none => faultBefore .numberTooLarge rest

/-- Further digits of an exponent whose first digits have the value `e`. -/
def readExponentDigits (negative : Bool) (significand : Nat) (start : Int) (down : Bool) (e : Int) :
    List Char → Read Number
  | [] => ofParts negative significand (clampExponent (if down then start - e else start + e)) []
  | c :: cs =>
    match Text.Integer.digit? c with
    | some d =>
      if maxExponent < 10 * e + d then
        if significand ≠ 0 ∧ ¬down then faultBefore .numberTooLarge cs
        else .ok (.float (Binary64.zero negative), skipDigits cs)
      else readExponentDigits negative significand start down (10 * e + d) cs
    | none =>
      ofParts negative significand (clampExponent (if down then start - e else start + e)) (c :: cs)

/-- An exponent without its sign. -/
def readUnsignedExponent (negative : Bool) (significand : Nat) (start : Int) (down : Bool) :
    List Char → Read Number
  | [] => faultBefore .endInValue []
  | c :: cs =>
    match Text.Integer.digit? c with
    | some d => readExponentDigits negative significand start down d cs
    | none => faultAt .badNumber (c :: cs)

/-- What follows the letter of an exponent. -/
def readExponent (negative : Bool) (significand : Nat) (start : Int) : List Char → Read Number
  | '+' :: cs => readUnsignedExponent negative significand start false cs
  | '-' :: cs => readUnsignedExponent negative significand start true cs
  | cs => readUnsignedExponent negative significand start false cs

/-- What follows the digits after a point. -/
def afterDecimals (negative : Bool) (significand : Nat) (exponent : Int) :
    List Char → Read Number
  | 'e' :: cs | 'E' :: cs => readExponent negative significand exponent cs
  | cs => ofParts negative significand exponent cs

/-- The digits after a point, `seen` of which have been read.  Digits that the significand has no
room for are passed over. -/
def readDecimals (negative : Bool) (significand : Nat) (exponent : Int) (seen : Nat) :
    List Char → Read Number
  | [] => if seen = 0 then faultBefore .endInValue [] else ofParts negative significand exponent []
  | c :: cs =>
    match Text.Integer.digit? c with
    | some d =>
      if maxSignificand < 10 * significand + d then
        afterDecimals negative significand exponent (skipDigits cs)
      else readDecimals negative (10 * significand + d) (exponent - 1) (seen + 1) cs
    | none =>
      if seen = 0 then faultAt .badNumber (c :: cs)
      else afterDecimals negative significand exponent (c :: cs)

/-- Digits before a point that the significand has no room for. -/
def readLongInteger (negative : Bool) (significand : Nat) (exponent : Int) :
    List Char → Read Number
  | [] => ofParts negative significand exponent []
  | '.' :: cs => readDecimals negative significand exponent 0 cs
  | 'e' :: cs | 'E' :: cs => readExponent negative significand exponent cs
  | c :: cs =>
    if (Text.Integer.digit? c).isSome then readLongInteger negative significand (exponent + 1) cs
    else ofParts negative significand exponent (c :: cs)

/-- The number that ends after its whole digits. -/
def wholeNumber (negative : Bool) (significand : Nat) (rest : List Char) : Read Number :=
  if ¬negative then .ok (.int significand, rest)
  else if significand = 0 ∨ maxNegative < significand then ofParts true significand 0 rest
  else .ok (.int (-significand), rest)

/-- What follows the digits before a point. -/
def afterInteger (negative : Bool) (significand : Nat) : List Char → Read Number
  | '.' :: cs => readDecimals negative significand 0 0 cs
  | 'e' :: cs | 'E' :: cs => readExponent negative significand 0 cs
  | cs => wholeNumber negative significand cs

/-- Further digits before a point, after digits with the value `significand`. -/
def readInteger (negative : Bool) (significand : Nat) : List Char → Read Number
  | [] => wholeNumber negative significand []
  | c :: cs =>
    match Text.Integer.digit? c with
    | some d =>
      if maxSignificand < 10 * significand + d then
        readLongInteger negative significand 0 (c :: cs)
      else readInteger negative (10 * significand + d) cs
    | none => afterInteger negative significand (c :: cs)

/-- A number after its sign. No digit follows a leading zero. -/
def readNumber (negative : Bool) : List Char → Read Number
  | [] => faultBefore .endInValue []
  | '0' :: cs =>
    match cs with
    | [] => afterInteger negative 0 []
    | c :: _ =>
      if (Text.Integer.digit? c).isSome then faultAt .badNumber cs else afterInteger negative 0 cs
  | c :: cs =>
    match Text.Integer.digit? c with
    | some d => readInteger negative d cs
    | none => faultAt .badNumber (c :: cs)

/-! ## Strings -/

/-- The number with four hexadecimal digits. -/
def readHex (cs : List Char) : Read Nat :=
  match cs with
  | a :: b :: c :: d :: rest =>
    match Text.Hex.value? a, Text.Hex.value? b, Text.Hex.value? c, Text.Hex.value? d with
    | some a, some b, some c, some d => .ok (((16 * a + b) * 16 + c) * 16 + d, rest)
    | _, _, _, _ => .error ⟨.badEscape, byteCount cs - 4⟩
  | _ => if byteCount cs < 4 then faultBefore .endInString [] else
      .error ⟨.badEscape, byteCount cs - 4⟩

/-- A character that must come next in an escaped pair of surrogates. -/
def expectInPair (e : Char) : List Char → Read Unit
  | [] => faultBefore .endInString []
  | c :: cs => if c = e then .ok ((), cs) else faultAt .noSecondSurrogate (c :: cs)

/-- The character of an escape by code units, after its letter. -/
def readUnicodeEscape (cs : List Char) : Read Char :=
  (readHex cs).andThen fun n cs =>
    if 0xDC00 ≤ n ∧ n ≤ 0xDFFF then faultBefore .loneSurrogate cs
    else if n < 0xD800 ∨ 0xDBFF < n then .ok (Char.ofNat n, cs)
    else
      (expectInPair '\\' cs).andThen fun _ cs =>
      (expectInPair 'u' cs).andThen fun _ cs =>
      (readHex cs).andThen fun m cs =>
        if m < 0xDC00 ∨ 0xDFFF < m then faultBefore .loneSurrogate cs
        else .ok (Char.ofNat (0x10000 + (n - 0xD800) * 0x400 + (m - 0xDC00)), cs)

/-- The character of an escape, after its backslash. -/
def readEscape : List Char → Read Char
  | [] => faultBefore .endInString []
  | '"' :: cs => .ok ('"', cs)
  | '\\' :: cs => .ok ('\\', cs)
  | '/' :: cs => .ok ('/', cs)
  | 'b' :: cs => .ok ('\x08', cs)
  | 'f' :: cs => .ok ('\x0c', cs)
  | 'n' :: cs => .ok ('\n', cs)
  | 'r' :: cs => .ok ('\r', cs)
  | 't' :: cs => .ok ('\t', cs)
  | 'u' :: cs => readUnicodeEscape cs
  | c :: cs => faultAt .badEscape (c :: cs)

/-- The characters of a string after its first quote; `fuel` bounds their number. -/
def readChars : Nat → List Char → Read (List Char)
  | _, [] => faultBefore .endInString []
  | 0, cs => faultAt .endInString cs
  | fuel + 1, c :: cs =>
    if c = '"' then .ok ([], cs)
    else if c = '\\' then
      (readEscape cs).andThen fun x cs =>
      (readChars fuel cs).andThen fun xs cs => .ok (x :: xs, cs)
    else if c.toNat < 0x20 then faultAt .controlInString (c :: cs)
    else (readChars fuel cs).andThen fun xs cs => .ok (c :: xs, cs)

/-- A string after its first quote. -/
def readString (cs : List Char) : Read String :=
  (readChars cs.length cs).andThen fun xs cs => .ok (String.ofList xs, cs)

/-! ## Lists and objects -/

/-- The items of a list that has begun, each read by `item`; `fuel` bounds their number. -/
def readItems (item : List Char → Read Json) : Nat → List Char → Read (List Json)
  | 0, cs => faultAt .endInList cs
  | fuel + 1, cs =>
    (item cs).andThen fun x cs =>
      match skipSpace cs with
      | [] => faultBefore .endInList []
      | ']' :: cs => .ok ([x], cs)
      | ',' :: cs =>
        match skipSpace cs with
        | [] => faultBefore .endInValue []
        | ']' :: rest => faultAt .trailingComma (']' :: rest)
        | rest => (readItems item fuel rest).andThen fun xs cs => .ok (x :: xs, cs)
      | rest => faultAt .noListEnd rest

/-- A list after its bracket. -/
def readList (item : List Char → Read Json) (cs : List Char) : Read Json :=
  match skipSpace cs with
  | [] => faultBefore .endInList []
  | ']' :: cs => .ok (.arr [], cs)
  | cs => (readItems item cs.length cs).andThen fun xs cs => .ok (.arr xs, cs)

/-- A member after the first quote of its name. -/
def readMember (item : List Char → Read Json) (cs : List Char) : Read (String × Json) :=
  (readString cs).andThen fun name cs =>
    match skipSpace cs with
    | [] => faultBefore .endInObject []
    | ':' :: cs => (item cs).andThen fun value cs => .ok ((name, value), cs)
    | rest => faultAt .noColon rest

/-- The members of an object, from after the quote of the first name; `fuel` bounds their number. -/
def readMembers (item : List Char → Read Json) : Nat → List Char → Read (List (String × Json))
  | 0, cs => faultAt .endInObject cs
  | fuel + 1, cs =>
    (readMember item cs).andThen fun m cs =>
      match skipSpace cs with
      | [] => faultBefore .endInObject []
      | '\x7d' :: cs => .ok ([m], cs)
      | ',' :: cs =>
        match skipSpace cs with
        | [] => faultBefore .endInValue []
        | '"' :: rest => (readMembers item fuel rest).andThen fun ms cs => .ok (m :: ms, cs)
        | '\x7d' :: rest => faultAt .trailingComma ('\x7d' :: rest)
        | rest => faultAt .keyNotString rest
      | rest => faultAt .noObjectEnd rest

/-- An object after its brace. -/
def readObject (item : List Char → Read Json) (cs : List Char) : Read Json :=
  match skipSpace cs with
  | [] => faultBefore .endInObject []
  | '\x7d' :: cs => .ok (.obj [], cs)
  | '"' :: cs =>
    (readMembers item (cs.length + 1) cs).andThen fun ms cs => .ok (ofMembers ms, cs)
  | rest => faultAt .keyNotString rest

/-! ## Values -/

/-- The number of levels that values may nest. -/
def maxDepth : Nat := 127

/-- A value in which `depth` more levels may nest, after blanks. -/
def readValue (depth : Nat) (cs : List Char) : Read Json :=
  match skipSpace cs with
  | [] => faultBefore .endInValue []
  | 'n' :: cs => (readWord ['u', 'l', 'l'] cs).andThen fun _ cs => .ok (.null, cs)
  | 't' :: cs => (readWord ['r', 'u', 'e'] cs).andThen fun _ cs => .ok (.bool true, cs)
  | 'f' :: cs => (readWord ['a', 'l', 's', 'e'] cs).andThen fun _ cs => .ok (.bool false, cs)
  | '"' :: cs => (readString cs).andThen fun s cs => .ok (.str s, cs)
  | '[' :: cs =>
    match depth with
    | 0 => faultAt .tooDeep ('[' :: cs)
    | depth + 1 => readList (readValue depth) cs
  | '\x7b' :: cs =>
    match depth with
    | 0 => faultAt .tooDeep ('\x7b' :: cs)
    | depth + 1 => readObject (readValue depth) cs
  | '-' :: cs => (readNumber true cs).andThen fun n cs => .ok (.num n, cs)
  | c :: cs =>
    if (Text.Integer.digit? c).isSome then
      (readNumber false (c :: cs)).andThen fun n cs => .ok (.num n, cs)
    else faultAt .noValue (c :: cs)

/-- A value and nothing but blanks after it. -/
def parseList (cs : List Char) : Except Fault Json :=
  match readValue maxDepth cs with
  | .error f => .error f
  | .ok (j, cs) =>
    match skipSpace cs with
    | [] => .ok j
    | c :: cs => .error ⟨.trailingText, byteCount (c :: cs) - 1⟩

/-- Reads a JSON text. -/
def parse (s : String) : Except Fault Json := parseList s.toList

end MetricConsole.Json
