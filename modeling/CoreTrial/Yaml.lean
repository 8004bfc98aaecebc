import CoreTrial.Json.Writer
import CoreTrial.Number.Binary64.Reader
import CoreTrial.Text.Lowercase
import CoreTrial.Text.Search

/-!
# Writing YAML

Values over several lines, indented by two spaces; the items of a list stand right below its
name. A text is written as it is, unless it could be taken for something else or holds what YAML
gives a meaning to: then it is quoted. A text of several lines is a literal block, where the
rules allow one.
-/

set_option autoImplicit false

namespace CoreTrial.Yaml

/-- How a text is written. -/
inductive Style where
  | plain
  | single
  | double
  | literal
  deriving DecidableEq

/-- Numbers have no plus in their exponents, and those without digits are names. -/
def floatStyle : Number.Binary64.RecordStyle where
  exponentPlus := ""
  nan := ".nan"
  infinity := ".inf"
  minusInfinity := "-.inf"

/-- A character that ends a line. -/
def isBreak (c : Char) : Bool :=
  [0x0A, 0x0D, 0x85, 0x2028, 0x2029].contains c.toNat

/-- A character that may stand outside double quotes. -/
def isPlainChar (c : Char) : Bool :=
  let n := c.toNat
  n == 0x0A || (decide (0x20 ≤ n) && decide (n ≤ 0x7E))
    || (decide (0xA0 ≤ n) && decide (n ≤ 0xFFFD) && n != 0xFEFF)

/-- A blank, a line break, or the end of the text. -/
def isBlankOrEnd (c : Option Char) : Bool :=
  match c with
  | none => true
  | some c => c == ' ' || c == '\t' || c.toNat == 0 || isBreak c

/-- Some neighbouring characters meet the two conditions. -/
def anyPair (p q : Char → Bool) : List Char → Bool
  | a :: b :: rest => (p a && q b) || anyPair p q (b :: rest)
  | _ => false

/-- The rest of a text holds a colon before a blank, or a number sign after one. -/
def hasIndicator (afterBlank : Bool) : List Char → Bool
  | [] => false
  | c :: rest =>
    (c == ':' && isBlankOrEnd rest.head?) || (c == '#' && afterBlank)
      || hasIndicator (isBlankOrEnd (some c)) rest

/-- The characters that a plain text does not start with. -/
def leadingIndicators : List Nat :=
  "#,[]\x7b\x7d&*!|>'\"%@".toList.map Char.toNat ++ [0x60]

/-- A text whose start or whose inside has a meaning of its own. -/
def isIndicated (s : List Char) : Bool :=
  "---".toList.isPrefixOf s || "...".toList.isPrefixOf s ||
  match s with
  | [] => false
  | c :: rest =>
    leadingIndicators.contains c.toNat
      || ((c == '?' || c == ':' || c == '-') && isBlankOrEnd rest.head?)
      || hasIndicator (isBlankOrEnd (some c)) rest

/-- A text that must stand in double quotes. -/
def needsEscapes (s : List Char) : Bool :=
  s.any (!isPlainChar ·) || anyPair (· == ' ') isBreak s

/-- The styles that a text can be written in. -/
def allows (s : List Char) : Style → Bool
  | .double => true
  | .literal => !needsEscapes s && s.getLast? != some ' '
  | .single => !needsEscapes s && !anyPair isBreak (· == ' ') s
  | .plain =>
    !needsEscapes s && !anyPair isBreak (· == ' ') s && !isIndicated s && !s.any isBreak
      && s.head? != some ' ' && s.getLast? != some ' '

/-- The digits of a base, at least one of them. -/
def areDigits (base : Nat) (s : List Char) : Bool :=
  !s.isEmpty && s.all fun c => match Number.hexValue? c with
    | some n => decide (n < base)
    | none => false

/-- The text after its sign. -/
def unsigned : List Char → List Char
  | '+' :: rest => rest
  | '-' :: rest => rest
  | s => s

/-- A whole number with the mark of its base, of at most 128 bits. -/
def isMarkedNumber (s : List Char) : Bool :=
  let inBase (base : Nat) (digits : List Char) : Bool :=
    areDigits base digits &&
      decide (digits.foldl (fun n c => n * base + (Number.hexValue? c).getD 0) 0 < Nat.pow 2 128)
  match unsigned s with
  | '0' :: 'x' :: digits => inBase 16 digits
  | '0' :: 'o' :: digits => inBase 8 digits
  | '0' :: 'b' :: digits => inBase 2 digits
  | _ => false

/-- A decimal number that is finite. -/
def isDecimalNumber (s : List Char) : Bool :=
  let bare := match s with
    | '+' :: rest => rest
    | s => s
  bare.head? != some '+' && (s.head? != some '+' || bare.head? != some '-') &&
    (Number.Binary64.read? (String.ofList bare)).any (·.isFinite)

/-- Digits that start with a zero and are therefore no number. -/
def isZeroLed (s : List Char) : Bool :=
  match unsigned s with
  | '0' :: d :: rest => (d :: rest).all Char.isDigit
  | _ => false

/-- The names that stand for something that is no text. -/
def reserved : List String := [
  "", "null", "Null", "NULL", "~", "true", "True", "TRUE", "false", "False", "FALSE",
  ".inf", ".Inf", ".INF", "+.inf", "+.Inf", "+.INF", "-.inf", "-.Inf", "-.INF",
  ".nan", ".NaN", ".NAN", "+.nan", "+.NaN", "+.NAN",
  "y", "Y", "yes", "Yes", "YES", "n", "N", "no", "No", "NO", "on", "On", "ON", "off", "Off", "OFF"]

/-- A text that could be taken for something else. -/
def isAmbiguous (s : String) : Bool :=
  reserved.contains s || isMarkedNumber s.toList || isZeroLed s.toList || isDecimalNumber s.toList

/-- The style of a text; a name of a field stands on one line. -/
def styleOf (asName : Bool) (s : String) : Style :=
  let chars := s.toList
  if isAmbiguous s then if allows chars .single then .single else .double
  else if chars.contains '\n' then
    if allows chars .literal && !asName then .literal else .double
  else if allows chars .plain then .plain
  else if allows chars .single then .single
  else .double

/-- The escapes that have a letter. -/
def escapes : List (Nat × Char) := [
  (0, '0'), (7, 'a'), (8, 'b'), (9, 't'), (10, 'n'), (11, 'v'), (12, 'f'), (13, 'r'), (27, 'e'),
  (34, '"'), (92, '\\'), (0x85, 'N'), (0x2028, 'L'), (0x2029, 'P')]

/-- A character inside double quotes. -/
def escapedChar (c : Char) : List Char :=
  let n := c.toNat
  match escapes.lookup n with
  | some letter => ['\\', letter]
  | none =>
    if isPlainChar c then [c]
    else if n ≤ 0xFF then ['\\', 'x'] ++ Number.hexPlaces .upper 2 n
    else if n ≤ 0xFFFF then ['\\', 'u'] ++ Number.hexPlaces .upper 4 n
    else ['\\', 'U'] ++ Number.hexPlaces .upper 8 n

/-- What stands after the bar of a literal block: the indentation, where the text does not show
it, and how its end is kept. -/
def blockHints (s : List Char) : String :=
  let indent := if s.head?.any fun c => c == ' ' || isBreak c then "2" else ""
  let ending := match s.reverse with
    | '\n' :: '\n' :: _ => "+"
    | ['\n'] => "+"
    | '\n' :: _ => ""
    | _ => "-"
  indent ++ ending

/-- The lines of a literal block. -/
def blockLines (s : List Char) : List String :=
  let lines := (Text.splitOn '\n' s).map String.ofList
  if s.getLast? = some '\n' then lines.dropLast else lines

/-- A text: what stands on its first line, and its other lines. -/
def textLines (asName : Bool) (s : String) : String × List String :=
  match styleOf asName s with
  | .plain => (s, [])
  | .single =>
    let doubled (c : Char) : List Char := if c = '\'' then [c, c] else [c]
    ("'" ++ String.ofList (s.toList.flatMap doubled) ++ "'", [])
  | .double => ("\"" ++ String.ofList (s.toList.flatMap escapedChar) ++ "\"", [])
  | .literal => ("|" ++ blockHints s.toList, blockLines s.toList)

/-- A line one level deeper; an empty line stays empty. -/
def deeper (line : String) : String :=
  if line.isEmpty then line else "  " ++ line

/-- A value that stands on the line of its name, and perhaps on more lines. -/
def leafLines? : Json → Option (String × List String)
  | .null | .unreadable => some ("null", [])
  | .bool b => some (if b then "true" else "false", [])
  | .int n => some (toString n, [])
  | .float x => some (x.toRecord floatStyle, [])
  | .string s => some (textLines false s)
  | .array [] => some ("[]", [])
  | .object [] => some ("\x7b\x7d", [])
  | _ => none

/-- The name of a field with its colon. -/
def nameText (name : String) : String :=
  (textLines true name).1 ++ ":"

mutual

/-- The lines of a value. -/
def lines : Json → List String
  | .array items => itemLines items
  | .object fields => fieldLines fields
  | v =>
    match leafLines? v with
    | some (first, rest) => first :: rest.map deeper
    | none => []

/-- The lines of a list. -/
def itemLines : List Json → List String
  | [] => []
  | v :: rest =>
    let own := match leafLines? v with
      | some (first, more) => first :: more
      | none => lines v
    (match own with
    | [] => []
    | first :: more => ("- " ++ first) :: more.map deeper) ++ itemLines rest

/-- The lines of a record. -/
def fieldLines : List (String × Json) → List String
  | [] => []
  | (name, v) :: rest =>
    (match leafLines? v with
    | some (first, more) => (nameText name ++ " " ++ first) :: more.map deeper
    | none =>
      nameText name :: match v with
        | .object fields => (fieldLines fields).map deeper
        | v => lines v) ++ fieldLines rest

end

/-- Lines as a text. -/
def unlines (l : List String) : String :=
  l.foldl (fun s line => s ++ line ++ "\n") ""

/-- A value as a document. -/
def document (v : Json) : String :=
  unlines (match leafLines? v with
    | some (first, more) => first :: more.map deeper
    | none => lines v)

/-- A value with the name of its case as a document. -/
def taggedDocument (case : String) (v : Json) : String :=
  unlines (match leafLines? v with
    | some (first, more) => ("!" ++ case ++ " " ++ first) :: more.map deeper
    | none => ("!" ++ case) :: lines v)

end CoreTrial.Yaml
