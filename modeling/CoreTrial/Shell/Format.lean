import CoreTrial.Number.Decimal
import CoreTrial.Number.Hex

/-!
# Formats

What `printf` prints: a format is written out again and again until no argument is left.
Backslashes introduce control characters and bytes by their octal number.
-/

set_option autoImplicit false

namespace CoreTrial.Shell.Format

/-- The bytes of characters. -/
def utf8 (s : List Char) : List UInt8 := (String.ofList s).toUTF8.toList

/-- An octal digit. -/
def isOctal (c : Char) : Bool := decide ('0' ≤ c) && decide (c ≤ '7')

/-- The byte of at most `most` octal digits, and the text after them. -/
def octalByte (most : Nat) (s : List Char) : UInt8 × List Char :=
  let digits := (s.take most).takeWhile isOctal
  (UInt8.ofNat (digits.foldl (fun n c => n * 8 + Number.digitValue c) 0), s.drop digits.length)

/-- The control characters that have a letter. -/
def letters : List (Char × UInt8) := [
  ('n', 10), ('t', 9), ('r', 13), ('a', 7), ('b', 8), ('f', 12), ('v', 11), ('\\', 92), ('"', 34)]

/-- What a backslash introduces, and the text after it. -/
def escape : List Char → List UInt8 × List Char
  | [] => ([92], [])
  | c :: rest =>
    match letters.lookup c with
    | some b => ([b], rest)
    | none =>
      if isOctal c then
        let (b, rest) := octalByte 3 (c :: rest)
        ([b], rest)
      else (92 :: utf8 [c], rest)

/-- A text with what backslashes introduce; an octal number follows a zero. -/
def escaped : Nat → List Char → List UInt8
  | 0, _ => []
  | _, [] => []
  | fuel + 1, '\\' :: '0' :: rest =>
    let (b, rest) := octalByte 3 rest
    b :: escaped fuel rest
  | fuel + 1, '\\' :: rest =>
    let (bs, rest) := escape rest
    bs ++ escaped fuel rest
  | fuel + 1, c :: rest => utf8 [c] ++ escaped fuel rest

/-- How a value is set. -/
structure Field where
  left : Bool := false
  zeros : Bool := false
  width : Nat := 0
  precision : Option Nat := none

/-- Fills a value up to the width of a field. -/
def Field.pad (f : Field) (number : Bool) (s : List UInt8) : List UInt8 :=
  let missing := f.width - s.length
  if f.left then s ++ List.replicate missing 32
  else if f.zeros && number then
    match s with
    | 45 :: digits => 45 :: (List.replicate missing 48 ++ digits)
    | digits => List.replicate missing 48 ++ digits
  else List.replicate missing 32 ++ s

/-- Reads how a value is set. -/
def fieldFrom (f : Field) : List Char → Field × List Char
  | '-' :: rest => fieldFrom { f with left := true } rest
  | '0' :: rest => fieldFrom { f with zeros := true } rest
  | s =>
    let width := s.takeWhile Char.isDigit
    let f := { f with width := Number.ofDigits width }
    match s.dropWhile Char.isDigit with
    | '.' :: rest =>
      ({ f with precision := some (Number.ofDigits (rest.takeWhile Char.isDigit)) },
        rest.dropWhile Char.isDigit)
    | rest => (f, rest)

/-- The number that an argument stands for. -/
def number (s : String) : Int :=
  match s.toList with
  | '-' :: digits => -(Number.ofDigits (digits.takeWhile Char.isDigit) : Int)
  | '+' :: digits => Number.ofDigits (digits.takeWhile Char.isDigit)
  | digits => Number.ofDigits (digits.takeWhile Char.isDigit)

/-- A number in octal digits. -/
def octal (n : Nat) : List Char := Nat.toDigits 8 n

/-- A value as a conversion writes it. -/
def convert (f : Field) (c : Char) (arg : String) : List UInt8 :=
  let n := number arg
  match c with
  | 's' =>
    let bytes := arg.toUTF8.toList
    f.pad false (match f.precision with
      | some p => bytes.take p
      | none => bytes)
  | 'b' => f.pad false (escaped arg.toList.length arg.toList)
  | 'c' => f.pad false (arg.toUTF8.toList.take 1)
  | 'x' => f.pad true (utf8 (Number.hexShort n.toNat))
  | 'X' => f.pad true (utf8 ((Number.hexShort n.toNat).map Char.toUpper))
  | 'o' => f.pad true (utf8 (octal n.toNat))
  | _ => f.pad true (toString n).toUTF8.toList

/-- Writes a format out once. Gives what is left of the arguments. -/
def once : Nat → List Char → List String → List UInt8 × List String
  | 0, _, args => ([], args)
  | _, [], args => ([], args)
  | fuel + 1, '\\' :: rest, args =>
    let (bs, rest) := escape rest
    let (more, args) := once fuel rest args
    (bs ++ more, args)
  | fuel + 1, '%' :: '%' :: rest, args =>
    let (more, args) := once fuel rest args
    (37 :: more, args)
  | fuel + 1, '%' :: rest, args =>
    match fieldFrom {} rest with
    | (f, c :: rest) =>
      let bs := convert f c (args.headD "")
      let (more, args) := once fuel rest args.tail
      (bs ++ more, args)
    | (_, []) => ([37], args)
  | fuel + 1, c :: rest, args =>
    let (more, args) := once fuel rest args
    (utf8 [c] ++ more, args)

/-- Writes a format out until no argument is left. -/
def repeated : Nat → List Char → List String → List UInt8
  | 0, _, _ => []
  | fuel + 1, format, args =>
    let (bs, rest) := once (format.length + 1) format args
    if rest.isEmpty || rest.length == args.length then bs else bs ++ repeated fuel format rest

/-- What a format prints with its arguments. -/
def print (format : String) (args : List String) : List UInt8 :=
  repeated (args.length + 1) format.toList args

end CoreTrial.Shell.Format
