/-!
# First occurrences

Searching a text for the first place where a pattern occurs. `cut?` gives the text before that
place and the text after the pattern; everything else is derived from it.
-/

set_option autoImplicit false

namespace CoreTrial.Text

/-- The part of `s` after `pattern`, when `s` starts with it. -/
def after? : List Char → List Char → Option (List Char)
  | [], s => some s
  | _ :: _, [] => none
  | p :: ps, c :: cs => if p = c then after? ps cs else none

/-- `cut?` on a text whose passed part `before` is kept backwards. -/
def cutFrom (pattern before : List Char) : List Char → Option (List Char × List Char)
  | [] =>
    match after? pattern [] with
    | some rest => some (before.reverse, rest)
    | none => none
  | c :: cs =>
    match after? pattern (c :: cs) with
    | some rest => some (before.reverse, rest)
    | none => cutFrom pattern (c :: before) cs

/-- What stands before the first occurrence of `pattern` in `s`, and what stands after it. -/
def cut? (pattern s : List Char) : Option (List Char × List Char) :=
  cutFrom pattern [] s

/-- `pattern` occurs somewhere in `s`. -/
def occursIn (pattern s : List Char) : Bool :=
  (cut? pattern s).isSome

/-- `pattern` occurs somewhere in `s`. -/
def contains (s pattern : String) : Bool :=
  occursIn pattern.toList s.toList

/-- The number of bytes of a text in UTF-8. -/
def byteLength (s : List Char) : Nat :=
  s.foldl (fun n c => n + c.utf8Size) 0

theorem after?_eq_some_iff {p s r : List Char} : after? p s = some r ↔ s = p ++ r := by
  induction p generalizing s with
  | nil => simp [after?, eq_comm]
  | cons a p ih =>
    cases s with
    | nil => simp [after?]
    | cons c s =>
      by_cases h : a = c
      · subst h; simp [after?, ih]
      · simp only [after?, h, if_false, List.cons_append, List.cons.injEq, reduceCtorEq, false_iff]
        exact fun e => h e.1.symm

/-- The parts joined by `separator`. -/
def join (separator : List Char) : List (List Char) → List Char
  | [] => []
  | [s] => s
  | s :: t :: rest => s ++ separator ++ join separator (t :: rest)

/-- The pieces of `s` between the characters equal to `mark`, where `piece` was read last and
stands backwards. -/
def splitFrom (mark : Char) (piece : List Char) : List Char → List (List Char)
  | [] => [piece.reverse]
  | c :: cs =>
    if c = mark then piece.reverse :: splitFrom mark [] cs else splitFrom mark (c :: piece) cs

/-- The pieces of `s` between the characters equal to `mark`: one more than `mark` occurs. -/
def splitOn (mark : Char) (s : List Char) : List (List Char) :=
  splitFrom mark [] s

end CoreTrial.Text
