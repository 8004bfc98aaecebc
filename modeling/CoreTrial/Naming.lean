/-!
# Choices among names

Metrics, simulation kinds, formats and back ends are chosen by name. A name that is none of them
is reported with what it was to be the name of.
-/

set_option autoImplicit false

namespace CoreTrial

/-- A name that stands for nothing. -/
structure UnknownName where
  /-- What it was to be the name of. -/
  kind : String
  name : String
  deriving DecidableEq, Repr

/-- The text of the error. -/
def UnknownName.message (e : UnknownName) : String :=
  "unknown " ++ e.kind ++ ": " ++ e.name

/-- The first of `all` with this name. -/
def named? {α : Type} (all : List α) (name : α → String) (s : String) : Option α :=
  all.find? fun a => name a == s

end CoreTrial
