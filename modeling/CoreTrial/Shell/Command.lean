/-!
# Commands

Scripts of a small shell as data: words with what is to be put into them, simple commands with
their redirections, and the ways to combine commands.
-/

set_option autoImplicit false

namespace CoreTrial.Shell

/-- A part of a word. What comes from outside quotes is split at blanks. -/
inductive Piece where
  | plain (text : List Char)
  | quoted (text : List Char)
  | variable (name : String) (inQuotes : Bool)
  /-- What a script prints. -/
  | output (script : List Char) (inQuotes : Bool)
  /-- The value of an arithmetic expression. -/
  | arithmetic (expression : List Char)

/-- A word before anything is put into it. -/
abbrev Word := List Piece

/-- What a redirection does to a descriptor. -/
inductive RedirectKind where
  | input
  | output
  | append
  | duplicate
  deriving DecidableEq

/-- A redirection of a descriptor. -/
structure Redirect where
  descriptor : Nat
  kind : RedirectKind
  target : Word

/-- A command that is no combination of others. -/
structure SimpleCommand where
  line : Nat
  assignments : List (String × Word)
  words : List Word
  redirects : List Redirect

/-- A script, or a part of one. -/
inductive Command where
  | nothing
  | simple (c : SimpleCommand)
  | negate (c : Command)
  | pipe (first second : Command)
  | andThen (first second : Command)
  | orElse (first second : Command)
  | sequence (first second : Command)
  /-- Commands in braces, or in parentheses, where they cannot change what is outside. -/
  | group (apart : Bool) (body : Command) (redirects : List Redirect)
  | choice (condition yes no : Command)
  /-- Repeats the body as long as the condition holds, or does not hold. -/
  | loop (holds : Bool) (condition body : Command)
  | forEach (name : String) (words : List Word) (body : Command)

end CoreTrial.Shell
