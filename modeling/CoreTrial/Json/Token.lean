import CoreTrial.Json.Basic
import CoreTrial.Number.Hex

/-!
# JSON tokens

The lexemes of JSON text. A number keeps the three parts of its spelling; a string is already
decoded, or has no value because it holds half of a surrogate pair.
-/

set_option autoImplicit false

namespace CoreTrial.Json

/-- The spelling of a number. -/
structure NumberText where
  negative : Bool
  whole : List Char
  /-- The digits after the point, when there is one. -/
  fraction : Option (List Char)
  /-- The sign and digits of the exponent, when there is one. -/
  exponent : Option (Bool × List Char)

/-- A lexeme of JSON text. -/
inductive Token where
  | openBrace
  | closeBrace
  | openBracket
  | closeBracket
  | colon
  | comma
  | word (value : Json)
  | number (text : NumberText)
  | string (value : Option String)

/-- The code unit of four hexadecimal digits. -/
def codeUnit? : List Char → Option (Nat × List Char)
  | a :: b :: c :: d :: rest => (Number.readHex? [a, b, c, d]).map fun n => (n, rest)
  | _ => none

/-- The letters of the short escapes. -/
def shortEscape? (c : Char) : Option Char :=
  match c with
  | '"' => some '"'
  | '\\' => some '\\'
  | '/' => some '/'
  | 'b' => some '\x08'
  | 'f' => some '\x0c'
  | 'n' => some '\n'
  | 'r' => some '\r'
  | 't' => some '\t'
  | _ => none

/-- Reads a string up to its closing quote. `read` holds its characters backwards, or nothing
once it holds half of a surrogate pair. -/
def lexString : Nat → Option (List Char) → List Char → Option (Option String × List Char)
  | 0, _, _ => none
  | fuel + 1, read, s =>
    match s with
    | [] => none
    | '"' :: rest => some (read.map fun r => String.ofList r.reverse, rest)
    | '\\' :: 'u' :: rest =>
      match codeUnit? rest with
      | none => none
      | some (unit, rest) =>
        if 0xD800 ≤ unit ∧ unit < 0xDC00 then
          match rest with
          | '\\' :: 'u' :: after =>
            match codeUnit? after with
            | none => none
            | some (low, after) =>
              if 0xDC00 ≤ low ∧ low < 0xE000 then
                let c := Char.ofNat (0x10000 + (unit - 0xD800) * 0x400 + (low - 0xDC00))
                lexString fuel (read.map (c :: ·)) after
              else lexString fuel none rest
          | _ => lexString fuel none rest
        else if 0xDC00 ≤ unit ∧ unit < 0xE000 then lexString fuel none rest
        else lexString fuel (read.map (Char.ofNat unit :: ·)) rest
    | '\\' :: c :: rest =>
      match shortEscape? c with
      | none => none
      | some c => lexString fuel (read.map (c :: ·)) rest
    | c :: rest =>
      if c.toNat < 0x20 then none else lexString fuel (read.map (c :: ·)) rest

/-- Splits the digits off the start. -/
def digitRun (s : List Char) : List Char × List Char :=
  (s.takeWhile Char.isDigit, s.dropWhile Char.isDigit)

/-- The fraction of a number: a point needs a digit. -/
def lexFraction (s : List Char) : Option (Option (List Char) × List Char) :=
  match s with
  | '.' :: rest =>
    let (run, rest) := digitRun rest
    if run.isEmpty then none else some (some run, rest)
  | _ => some (none, s)

/-- The exponent of a number: its mark needs a digit. -/
def lexExponent (s : List Char) : Option (Option (Bool × List Char) × List Char) :=
  match s with
  | c :: rest =>
    if c = 'e' ∨ c = 'E' then
      let (negative, rest) := match rest with
        | '+' :: r => (false, r)
        | '-' :: r => (true, r)
        | r => (false, r)
      let (run, rest) := digitRun rest
      if run.isEmpty then none else some (some (negative, run), rest)
    else some (none, s)
  | [] => some (none, s)

/-- A number: no sign but the minus, and no zero before another digit. -/
def lexNumber (s : List Char) : Option (NumberText × List Char) := do
  let (negative, s) := match s with
    | '-' :: r => (true, r)
    | r => (false, r)
  let (whole, s) := digitRun s
  if whole.isEmpty || (whole.head? == some '0' && decide (1 < whole.length)) then none
  let (fraction, s) ← lexFraction s
  let (exponent, s) ← lexExponent s
  return (⟨negative, whole, fraction, exponent⟩, s)

/-- Reads the word `rest` after its first letter. -/
def lexWord (word : List Char) (value : Json) (s : List Char) : Option (Token × List Char) :=
  if word.isPrefixOf s then some (.word value, s.drop word.length) else none

/-- One token. -/
def lexToken (c : Char) (rest : List Char) : Option (Token × List Char) :=
  match c with
  | '\x7b' => some (.openBrace, rest)
  | '\x7d' => some (.closeBrace, rest)
  | '[' => some (.openBracket, rest)
  | ']' => some (.closeBracket, rest)
  | ':' => some (.colon, rest)
  | ',' => some (.comma, rest)
  | '"' => (lexString (rest.length + 1) (some []) rest).map fun (s, r) => (.string s, r)
  | 't' => lexWord "rue".toList (.bool true) rest
  | 'f' => lexWord "alse".toList (.bool false) rest
  | 'n' => lexWord "ull".toList .null rest
  | c => (lexNumber (c :: rest)).map fun (n, r) => (.number n, r)

/-- The blanks of JSON. -/
def isJsonBlank (c : Char) : Bool :=
  c == ' ' || c == '\n' || c == '\t' || c == '\r'

/-- The tokens of a text, `read` being those read so far, backwards. -/
def lexAll : Nat → List Token → List Char → Option (List Token)
  | 0, _, _ => none
  | fuel + 1, read, s =>
    match s with
    | [] => some read.reverse
    | c :: rest =>
      if isJsonBlank c then lexAll fuel read rest
      else match lexToken c rest with
        | none => none
        | some (t, rest) => lexAll fuel (t :: read) rest

/-- The tokens of a text. -/
def tokens? (s : String) : Option (List Token) :=
  lexAll (s.toList.length + 1) [] s.toList

end CoreTrial.Json
