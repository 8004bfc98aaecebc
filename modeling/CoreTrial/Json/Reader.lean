import CoreTrial.Json.Token
import CoreTrial.Number.Binary64.Reader

/-!
# Reading JSON

`read?` gives the value of JSON text. A whole number of 64 bits is exact. Any other number keeps
as many leading digits as fit into 64 bits and is then scaled by a power of ten with one
rounded operation, so it can differ from the nearest number in its last place.
-/

set_option autoImplicit false

namespace CoreTrial.Json

open Number (Binary64)

/-- The least number beyond 64 bits. -/
def wordLimit : Nat := UInt64.size

/-- Appends digits while the number fits into 64 bits; gives also the count of those left over. -/
def gather : Nat → List Char → Nat × Nat
  | n, [] => (n, 0)
  | n, c :: rest =>
    let more := n * 10 + Number.digitValue c
    if more < wordLimit then gather more rest else (n, rest.length + 1)

/-- Multiplies by a power of ten, one rounded operation at a time; a quotient by more than
`10 ^ 308` takes several. Gives nothing where the result is not finite. -/
def scale : Nat → Binary64 → Int → Option Binary64
  | 0, _, _ => none
  | fuel + 1, x, e =>
    if e.natAbs ≤ 308 then
      let power := Binary64.ofNat (Nat.pow 10 e.natAbs)
      if 0 ≤ e then
        let y := x * power
        if y.isInfinite then none else some y
      else some (x / power)
    else if x.isZero then some x
    else if 0 ≤ e then none
    else scale fuel (x / Binary64.ofNat (Nat.pow 10 308)) (e + 308)

/-- Holds an exponent within 32 bits. -/
def clampExponent (e : Int) : Int :=
  max (-2147483648) (min 2147483647 e)

/-- A number that is not a whole number of 64 bits. -/
def decimal (negative : Bool) (significand : Nat) (start : Int)
    (exponent : Option (Bool × List Char)) :
    Json :=
  let signed (x : Binary64) : Json := .float (if negative then -x else x)
  let scaled (e : Int) : Json :=
    match scale (e.natAbs / 308 + 2) (Binary64.ofNat significand) e with
    | some x => signed x
    | none => .unreadable
  match exponent with
  | none => scaled start
  | some (down, digits) =>
    let e := Number.ofDigits digits
    if 2147483647 < e then
      if significand ≠ 0 ∧ !down then .unreadable else signed (Binary64.zero false)
    else scaled (clampExponent (if down then start - e else start + e))

/-- The value of a number. -/
def ofNumber (t : NumberText) : Json :=
  let (whole, dropped) := gather 0 t.whole
  match t.fraction, t.exponent with
  | none, none =>
    if 0 < dropped then decimal t.negative whole dropped none
    else if !t.negative then .int whole
    else if whole = 0 ∨ Nat.pow 2 63 < whole then .float (-(Binary64.ofNat whole))
    else .int (-(whole : Int))
  | none, e => decimal t.negative whole dropped e
  | some digits, e =>
    let (all, rest) := gather whole digits
    decimal t.negative all ((dropped : Int) - (digits.length - rest : Nat)) e

mutual

/-- The value at the start of a run of tokens, and the tokens after it. -/
def valueOf : Nat → List Token → Option (Json × List Token)
  | 0, _ => none
  | fuel + 1, ts =>
    match ts with
    | .word v :: rest => some (v, rest)
    | .number t :: rest => some (ofNumber t, rest)
    | .string (some s) :: rest => some (.string s, rest)
    | .string none :: rest => some (.unreadable, rest)
    | .openBracket :: .closeBracket :: rest => some (.array [], rest)
    | .openBracket :: rest => itemsOf fuel [] rest
    | .openBrace :: .closeBrace :: rest => some (.object [], rest)
    | .openBrace :: rest => fieldsOf fuel (some []) rest
    | _ => none

/-- The items of an array up to its end, `read` being those read so far, backwards. -/
def itemsOf : Nat → List Json → List Token → Option (Json × List Token)
  | 0, _, _ => none
  | fuel + 1, read, ts =>
    match valueOf fuel ts with
    | some (v, .comma :: rest) => itemsOf fuel (v :: read) rest
    | some (v, .closeBracket :: rest) => some (.array (v :: read).reverse, rest)
    | _ => none

/-- The fields of an object up to its end, `read` being those read so far, backwards. A name
without a value leaves the object without one. -/
def fieldsOf : Nat → Option (List (String × Json)) → List Token → Option (Json × List Token)
  | 0, _, _ => none
  | fuel + 1, read, ts =>
    match ts with
    | .string name :: .colon :: ts =>
      match valueOf fuel ts with
      | some (v, rest) =>
        let read := do
          let fields ← read
          let name ← name
          return (name, v) :: fields
        match rest with
        | .comma :: rest => fieldsOf fuel read rest
        | .closeBrace :: rest =>
          some (match read with
            | some fields => .object fields.reverse
            | none => .unreadable, rest)
        | _ => none
      | none => none
    | _ => none

end

/-- The value of JSON text: one value with nothing but blanks around it. -/
def read? (s : String) : Option Json := do
  let ts ← tokens? s
  match valueOf (2 * ts.length + 2) ts with
  | some (v, []) => some v
  | _ => none

end CoreTrial.Json
