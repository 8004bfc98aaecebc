import CoreTrial.Number.Decimal
import CoreTrial.Shell.Lexer

/-!
# Arithmetic of scripts

Whole numbers, variables, parentheses and the operators of a script's arithmetic. Each operator
has a level, and those of a higher level are carried out first.
-/

set_option autoImplicit false

namespace CoreTrial.Shell.Arithmetic

/-- An operator: its text, its level, and what it does. -/
structure Operator where
  text : List Char
  level : Nat
  apply : Int → Int → Int

/-- One for what holds, zero for what does not. -/
def truth (b : Bool) : Int := if b then 1 else 0

/-- All operators; one that starts with another stands before it. -/
def operators : List Operator := [
  ⟨['|', '|'], 1, fun a b => truth (a != 0 || b != 0)⟩,
  ⟨['&', '&'], 2, fun a b => truth (a != 0 && b != 0)⟩,
  ⟨['=', '='], 3, fun a b => truth (a == b)⟩,
  ⟨['!', '='], 3, fun a b => truth (a != b)⟩,
  ⟨['<', '='], 4, fun a b => truth (decide (a ≤ b))⟩,
  ⟨['>', '='], 4, fun a b => truth (decide (b ≤ a))⟩,
  ⟨['<'], 4, fun a b => truth (decide (a < b))⟩,
  ⟨['>'], 4, fun a b => truth (decide (b < a))⟩,
  ⟨['+'], 5, (· + ·)⟩,
  ⟨['-'], 5, (· - ·)⟩,
  ⟨['*'], 6, (· * ·)⟩,
  ⟨['/'], 6, Int.tdiv⟩,
  ⟨['%'], 6, Int.tmod⟩]

/-- The text after its leading blanks. -/
def skip (s : List Char) : List Char :=
  s.dropWhile fun c => c == ' ' || c == '\t' || c == '\n'

mutual

/-- The value of the operand at the start of a text, and the text after it. -/
def operand (value : String → Int) : Nat → List Char → Option (Int × List Char)
  | 0, _ => none
  | fuel + 1, s =>
    match skip s with
    | '-' :: rest => (operand value fuel rest).map fun (n, rest) => (-n, rest)
    | '+' :: rest => operand value fuel rest
    | '!' :: rest => (operand value fuel rest).map fun (n, rest) => (truth (n == 0), rest)
    | '$' :: rest => operand value fuel rest
    | '(' :: rest =>
      match (operand value fuel rest).bind fun (n, rest) => operation value fuel 1 n rest with
      | some (n, rest) =>
        match skip rest with
        | ')' :: rest => some (n, rest)
        | _ => none
      | none => none
    | c :: rest =>
      if c.isDigit then
        let s := c :: rest
        some (Number.ofDigits (s.takeWhile Char.isDigit), s.dropWhile Char.isDigit)
      else if isNameChar c then
        let s := c :: rest
        some (value (String.ofList (s.takeWhile isNameChar)), s.dropWhile isNameChar)
      else none
    | [] => none

/-- Carries out the operators of at least some level that follow a value. -/
def operation (value : String → Int) : Nat → Nat → Int → List Char → Option (Int × List Char)
  | 0, _, _, _ => none
  | fuel + 1, level, left, s =>
    let s := skip s
    match operators.find? fun o => o.text.isPrefixOf s with
    | none => some (left, s)
    | some o =>
      if o.level < level then some (left, s)
      else do
        let (right, rest) ← operand value fuel (s.drop o.text.length)
        let (right, rest) ← operation value fuel (o.level + 1) right rest
        operation value fuel level (o.apply left right) rest

end

/-- The value of an expression; zero where it has none. -/
def eval (value : String → Int) (s : List Char) : Int :=
  let fuel := 2 * s.length + 2
  match (operand value fuel s).bind fun (n, rest) => operation value fuel 1 n rest with
  | some (n, _) => n
  | none => 0

end CoreTrial.Shell.Arithmetic
