import CoreTrial.Shell.Command

/-!
# Words and operators of a script

Cuts the text of a script into words, redirections and operators. A comment runs from a `#` at
the start of a word to the end of its line.
-/

set_option autoImplicit false

namespace CoreTrial.Shell

/-- A word, the start of a redirection, or an operator, with the number of its line. -/
inductive Token where
  | word (line : Nat) (w : Word)
  | redirect (descriptor : Nat) (kind : RedirectKind)
  | operator (name : String)

/-- A character that ends a word. -/
def isMeta (c : Char) : Bool :=
  c == ' ' || c == '\t' || c == '\n' || c == ';' || c == '&' || c == '|' || c == '(' || c == ')'
    || c == '<' || c == '>'

/-- A character of a name. -/
def isNameChar (c : Char) : Bool :=
  c.isAlphanum || c == '_'

/-- The text up to the parenthesis that closes an open one, and the text after it. -/
def closing : Nat → List Char → List Char → Option (List Char × List Char)
  | _, _, [] => none
  | depth, read, c :: rest =>
    if c = ')' then
      match depth with
      | 0 => some (read.reverse, rest)
      | depth + 1 => closing depth (c :: read) rest
    else closing (if c = '(' then depth + 1 else depth) (c :: read) rest

/-- What a dollar sign introduces, and the text after it. -/
def dollar (inQuotes : Bool) (rest : List Char) : Option (Piece × List Char) :=
  match rest with
  | '(' :: '(' :: more =>
    match closing 0 [] more with
    | some (expression, ')' :: rest) => some (.arithmetic expression, rest)
    | _ => (closing 0 [] ('(' :: more)).map fun (script, rest) => (.output script inQuotes, rest)
  | '(' :: more => (closing 0 [] more).map fun (script, rest) => (.output script inQuotes, rest)
  | '\x7b' :: more =>
    match more.dropWhile (· != '\x7d') with
    | _ :: rest => some (.variable (String.ofList (more.takeWhile (· != '\x7d'))) inQuotes, rest)
    | [] => none
  | c :: more =>
    if c.isDigit || "@*#?$!".toList.contains c then some (.variable c.toString inQuotes, more)
    else
      let name := rest.takeWhile isNameChar
      if name.isEmpty then some (.quoted ['$'], rest)
      else some (.variable (String.ofList name) inQuotes, rest.dropWhile isNameChar)
  | [] => some (.quoted ['$'], [])

/-- The pieces up to the double quote that ends them, `pieces` being those before, backwards. -/
def inDoubleQuotes : Nat → List Piece → List Char → Option (List Piece × List Char)
  | 0, _, _ => none
  | fuel + 1, pieces, s =>
    match s with
    | [] => none
    | '"' :: rest => some (pieces, rest)
    | '\\' :: c :: rest =>
      if c = '\n' then inDoubleQuotes fuel pieces rest
      else if c = '$' || c = '"' || c = '\\' || c.toNat = 0x60 then
        inDoubleQuotes fuel (.quoted [c] :: pieces) rest
      else inDoubleQuotes fuel (.quoted ['\\', c] :: pieces) rest
    | '$' :: rest =>
      match dollar true rest with
      | some (p, rest) => inDoubleQuotes fuel (p :: pieces) rest
      | none => none
    | c :: rest => inDoubleQuotes fuel (.quoted [c] :: pieces) rest

/-- The pieces of the word at the start of a text, `pieces` being those before, backwards. -/
def wordFrom : Nat → List Piece → List Char → Option (Word × List Char)
  | 0, _, _ => none
  | fuel + 1, pieces, s =>
    match s with
    | [] => some (pieces.reverse, [])
    | '\'' :: rest =>
      match rest.dropWhile (· != '\'') with
      | _ :: after => wordFrom fuel (.quoted (rest.takeWhile (· != '\'')) :: pieces) after
      | [] => none
    | '"' :: rest =>
      match inDoubleQuotes fuel (.quoted [] :: pieces) rest with
      | some (pieces, rest) => wordFrom fuel pieces rest
      | none => none
    | '\\' :: '\n' :: rest => wordFrom fuel pieces rest
    | '\\' :: c :: rest => wordFrom fuel (.quoted [c] :: pieces) rest
    | '$' :: rest =>
      match dollar false rest with
      | some (p, rest) => wordFrom fuel (p :: pieces) rest
      | none => none
    | c :: rest =>
      if isMeta c then some (pieces.reverse, s)
      else if c.toNat = 0x60 then
        match rest.dropWhile (·.toNat != 0x60) with
        | _ :: after =>
          wordFrom fuel (.output (rest.takeWhile (·.toNat != 0x60)) false :: pieces) after
        | [] => none
      else wordFrom fuel (.plain [c] :: pieces) rest

/-- The operator at the start of a text, and the text after it. -/
def operator? : List Char → Option (String × List Char)
  | '&' :: '&' :: rest => some ("&&", rest)
  | '|' :: '|' :: rest => some ("||", rest)
  | ';' :: ';' :: rest => some (";;", rest)
  | ';' :: rest => some (";", rest)
  | '&' :: rest => some ("&", rest)
  | '|' :: rest => some ("|", rest)
  | '(' :: rest => some ("(", rest)
  | ')' :: rest => some (")", rest)
  | '\n' :: rest => some ("\n", rest)
  | _ => none

/-- The redirection at the start of a text, and the text after it. -/
def redirect? (s : List Char) : Option (Token × List Char) :=
  let digits := s.takeWhile Char.isDigit
  let given := digits.foldl (fun n c => n * 10 + (c.toNat - 48)) 0
  let descriptor (standard : Nat) := if digits.isEmpty then standard else given
  match s.dropWhile Char.isDigit with
  | '>' :: '>' :: rest => some (.redirect (descriptor 1) .append, rest)
  | '>' :: '&' :: rest => some (.redirect (descriptor 1) .duplicate, rest)
  | '>' :: '|' :: rest => some (.redirect (descriptor 1) .output, rest)
  | '>' :: rest => some (.redirect (descriptor 1) .output, rest)
  | '<' :: '&' :: rest => some (.redirect (descriptor 0) .duplicate, rest)
  | '<' :: '<' :: _ => none
  | '<' :: rest => some (.redirect (descriptor 0) .input, rest)
  | _ => none

/-- The tokens of a text, `read` being those before, backwards. -/
def tokensFrom : Nat → Nat → List Token → List Char → Option (List Token)
  | 0, _, _, _ => none
  | fuel + 1, line, read, s =>
    match s with
    | [] => some read.reverse
    | ' ' :: rest => tokensFrom fuel line read rest
    | '\t' :: rest => tokensFrom fuel line read rest
    | '\\' :: '\n' :: rest => tokensFrom fuel (line + 1) read rest
    | '#' :: rest => tokensFrom fuel line read (rest.dropWhile (· != '\n'))
    | s =>
      match redirect? s with
      | some (t, rest) => tokensFrom fuel line (t :: read) rest
      | none =>
        match operator? s with
        | some (name, rest) =>
          tokensFrom fuel (if name = "\n" then line + 1 else line) (.operator name :: read) rest
        | none =>
          match wordFrom (s.length + 1) [] s with
          | some (w, rest) =>
            let passed := (s.take (s.length - rest.length)).count '\n'
            tokensFrom fuel (line + passed) (.word line w :: read) rest
          | none => none

/-- The tokens of a script, or nothing where a quote or a parenthesis is not closed. -/
def tokens? (s : List Char) : Option (List Token) :=
  tokensFrom (s.length + 1) 1 [] s

end CoreTrial.Shell
