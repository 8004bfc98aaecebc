import CoreTrial.Shell.Lexer

/-!
# Reading scripts

The command that the tokens of a script stand for. Commands are joined into pipelines, pipelines
by `&&` and `||` from left to right, and those by `;` and new lines.
-/

set_option autoImplicit false

namespace CoreTrial.Shell

/-- The text of a piece without quotes and without anything to put in. -/
def Piece.bare? : Piece → Option (List Char)
  | .plain s => some s
  | _ => none

/-- The text of a word that has only such pieces. -/
def bareWord? (w : Word) : Option String :=
  (w.mapM Piece.bare?).map fun parts => String.ofList parts.flatten

/-- The tokens after line ends. -/
def skipLines : List Token → List Token
  | .operator "\n" :: rest => skipLines rest
  | ts => ts

/-- The name and the value of a word that assigns. -/
def assignment? (w : Word) : Option (String × Word) :=
  go [] w
where
  go (name : List Char) : Word → Option (String × Word)
    | .plain [c] :: rest =>
      if c = '=' then if name.isEmpty then none else some (String.ofList name.reverse, rest)
      else if isNameChar c && !(name.isEmpty && c.isDigit) then go (c :: name) rest
      else none
    | _ => none

/-- The redirections at the start of a run of tokens. -/
def redirectsFrom : List Token → List Redirect × List Token
  | .redirect fd kind :: .word _ w :: rest =>
    let (more, rest) := redirectsFrom rest
    (⟨fd, kind, w⟩ :: more, rest)
  | ts => ([], ts)

/-- A simple command, `c` being what was read of it, backwards. -/
def simpleFrom (c : SimpleCommand) : List Token → Option (SimpleCommand × List Token)
  | .word line w :: rest =>
    match c.words, assignment? w with
    | [], some a => simpleFrom { c with line := line, assignments := a :: c.assignments } rest
    | [], none => simpleFrom { c with line := line, words := [w] } rest
    | words, _ => simpleFrom { c with words := w :: words } rest
  | .redirect fd kind :: .word _ w :: rest =>
    simpleFrom { c with redirects := ⟨fd, kind, w⟩ :: c.redirects } rest
  | .redirect _ _ :: _ => none
  | ts =>
    if c.words.isEmpty && c.assignments.isEmpty && c.redirects.isEmpty then none
    else some (⟨c.line, c.assignments.reverse, c.words.reverse, c.redirects.reverse⟩, ts)

/-- The words up to the end of a line or a semicolon. -/
def wordsFrom : List Token → List Word × List Token
  | .word _ w :: rest =>
    let (more, rest) := wordsFrom rest
    (w :: more, rest)
  | .operator ";" :: rest => ([], rest)
  | ts => ([], ts)

/-- The words that end a list of commands. -/
def closers : List String := ["then", "else", "elif", "fi", "do", "done", "\x7d"]

/-- The name of the word at the start of a run of tokens. -/
def keyword? : List Token → Option String
  | .word _ w :: _ => bareWord? w
  | _ => none

/-- The tokens after a word of this name. -/
def expect (name : String) (ts : List Token) : Option (List Token) :=
  match ts with
  | .word _ w :: rest => if bareWord? w = some name then some rest else none
  | _ => none

mutual

/-- A list of commands, up to a word or a parenthesis that closes it. -/
def listFrom : Nat → List Token → Option (Command × List Token)
  | 0, _ => none
  | fuel + 1, ts =>
    match skipLines ts with
    | [] => some (.nothing, [])
    | .operator ")" :: rest => some (.nothing, .operator ")" :: rest)
    | ts =>
      if (keyword? ts).any closers.contains then some (.nothing, ts)
      else do
        let (first, rest) ← chainFrom fuel ts
        match rest with
        | .operator name :: more =>
          if name = ";" || name = "\n" || name = "&" then
            let (others, rest) ← listFrom fuel more
            return (.sequence first others, rest)
          else return (first, rest)
        | rest => return (first, rest)

/-- Pipelines joined by `&&` and `||`. -/
def chainFrom : Nat → List Token → Option (Command × List Token)
  | 0, _ => none
  | fuel + 1, ts => do
    let (first, rest) ← pipelineFrom fuel ts
    chainAfter fuel first rest

/-- What follows a pipeline. -/
def chainAfter : Nat → Command → List Token → Option (Command × List Token)
  | 0, _, _ => none
  | fuel + 1, first, ts =>
    match ts with
    | .operator "&&" :: rest => do
      let (second, rest) ← pipelineFrom fuel (skipLines rest)
      chainAfter fuel (.andThen first second) rest
    | .operator "||" :: rest => do
      let (second, rest) ← pipelineFrom fuel (skipLines rest)
      chainAfter fuel (.orElse first second) rest
    | ts => some (first, ts)

/-- Commands joined by `|`, perhaps negated. -/
def pipelineFrom : Nat → List Token → Option (Command × List Token)
  | 0, _ => none
  | fuel + 1, ts =>
    match expect "!" ts with
    | some rest => do
      let (c, rest) ← pipelineFrom fuel rest
      return (.negate c, rest)
    | none => do
      let (first, rest) ← commandFrom fuel ts
      match rest with
      | .operator "|" :: more =>
        let (second, rest) ← pipelineFrom fuel (skipLines more)
        return (.pipe first second, rest)
      | rest => return (first, rest)

/-- One command. -/
def commandFrom : Nat → List Token → Option (Command × List Token)
  | 0, _ => none
  | fuel + 1, ts =>
    match ts with
    | .operator "(" :: rest => do
      let (body, rest) ← listFrom fuel rest
      match rest with
      | .operator ")" :: rest =>
        let (redirects, rest) := redirectsFrom rest
        return (.group true body redirects, rest)
      | _ => none
    | ts =>
      match keyword? ts with
      | some "\x7b" => do
        let (body, rest) ← listFrom fuel (ts.drop 1)
        let rest ← expect "\x7d" rest
        let (redirects, rest) := redirectsFrom rest
        return (.group false body redirects, rest)
      | some "if" => do
        let (c, rest) ← choiceFrom fuel (ts.drop 1)
        let (redirects, rest) := redirectsFrom rest
        return (.group false c redirects, rest)
      | some "while" => loopFrom fuel true (ts.drop 1)
      | some "until" => loopFrom fuel false (ts.drop 1)
      | some "for" =>
        match ts.drop 1 with
        | .word _ w :: rest => do
          let name ← bareWord? w
          let (words, rest) := match expect "in" (skipLines rest) with
            | some rest => wordsFrom rest
            | none => ([[.variable "@" true]], rest)
          let rest ← expect "do" (skipLines (match rest with
            | .operator ";" :: rest => rest
            | rest => rest))
          let (body, rest) ← listFrom fuel rest
          let rest ← expect "done" rest
          let (redirects, rest) := redirectsFrom rest
          return (.group false (.forEach name words body) redirects, rest)
        | _ => none
      | _ => (simpleFrom ⟨1, [], [], []⟩ ts).map fun (c, rest) => (.simple c, rest)

/-- The condition of a choice and all that follows it. -/
def choiceFrom : Nat → List Token → Option (Command × List Token)
  | 0, _ => none
  | fuel + 1, ts => do
    let (condition, rest) ← listFrom fuel ts
    let (yes, rest) ← listFrom fuel (← expect "then" rest)
    match keyword? rest with
    | some "elif" =>
      let (no, rest) ← choiceFrom fuel (rest.drop 1)
      return (.choice condition yes no, rest)
    | some "else" =>
      let (no, rest) ← listFrom fuel (rest.drop 1)
      return (.choice condition yes no, ← expect "fi" rest)
    | _ => return (.choice condition yes .nothing, ← expect "fi" rest)

/-- The condition of a loop and its body. -/
def loopFrom : Nat → Bool → List Token → Option (Command × List Token)
  | 0, _, _ => none
  | fuel + 1, holds, ts => do
    let (condition, rest) ← listFrom fuel ts
    let (body, rest) ← listFrom fuel (← expect "do" rest)
    let rest ← expect "done" rest
    let (redirects, rest) := redirectsFrom rest
    return (.group false (.loop holds condition body) redirects, rest)

end

/-- The command of a script. -/
def Command.read? (script : List Char) : Option Command := do
  let ts ← tokens? script
  match listFrom (8 * ts.length + 8) ts with
  | some (c, []) => some c
  | _ => none

end CoreTrial.Shell
