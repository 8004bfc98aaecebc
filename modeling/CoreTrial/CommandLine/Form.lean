/-!
# Forms of commands

A command takes options and operands, or further commands. Arguments are read from the first to
the last, and the first one that fits nowhere ends the reading, so what asks for help before it
is still answered. What the arguments do not give is taken from the variables of the environment.
-/

set_option autoImplicit false

namespace CoreTrial.CommandLine

/-- What an option stands for. -/
inductive OptionAction where
  /-- Something that a text tells, if it is accepted. -/
  | value (accepts : String → Bool)
  /-- Something that holds where the option is given. -/
  | flag
  | help
  | version

/-- An option of a command. -/
structure OptionForm where
  name : String
  letter : Option Char := none
  action : OptionAction
  /-- A variable of the environment that stands in for the option. -/
  standIn : Option String := none
  isRequired : Bool := false
  /-- An option that cannot be given beside this one. -/
  excludes : Option String := none
  /-- What the option is good for. -/
  about : String

/-- The operands of a command. -/
inductive OperandForm where
  | none
  /-- Exactly one. -/
  | one (name : String) (accepts : String → Bool)
  /-- Any number of them. -/
  | many (name : String) (accepts : String → Bool)

/-- A command. One that has further commands is always called with one of them. -/
inductive CommandForm where
  | mk (name about : String) (options : List OptionForm) (operands : OperandForm)
      (commands : List CommandForm)

/-- Why arguments make no call. -/
inductive Stop where
  /-- An argument fits nowhere, or one is missing. -/
  | misuse
  /-- Help on a command was asked for. -/
  | help (form : CommandForm) (path : List String)
  | version

/-- What was given to a command; a flag that was given has a text as well. -/
structure Given where
  options : List (String × String) := []
  operands : List String := []
  deriving DecidableEq, Repr

namespace Given

/-- The text of an option. -/
def value? (g : Given) (name : String) : Option String :=
  g.options.lookup name

/-- A flag was given. -/
def has (g : Given) (name : String) : Bool :=
  (g.value? name).isSome

/-- An option is given a text. No option is given twice. -/
def give (g : Given) (o : OptionForm) (text : String) : Except Stop Given :=
  let accepted := match o.action with
    | .value accepts => accepts text
    | _ => true
  if g.has o.name || !accepted then .error .misuse
  else .ok { g with options := g.options ++ [(o.name, text)] }

/-- An operand is given. -/
def giveOperand (g : Given) (form : OperandForm) (text : String) : Except Stop Given :=
  let accepted := match form with
    | .none => false
    | .one _ accepts => g.operands.isEmpty && accepts text
    | .many _ accepts => accepts text
  if accepted then .ok { g with operands := g.operands ++ [text] } else .error .misuse

/-- Takes an option that was not given from the environment, where a flag is said to hold or
not to hold. -/
def giveVariable (environment : List (String × String)) (g : Given) (o : OptionForm) :
    Except Stop Given :=
  match if g.has o.name then none else o.standIn.bind fun name => environment.lookup name with
  | none => .ok g
  | some text =>
    match o.action with
    | .value _ => g.give o text
    | _ =>
      if text = "true" then g.give o text
      else if text = "false" then .ok g
      else .error .misuse

end Given

/-- An argument by its first characters. -/
inductive Argument where
  /-- Two dashes, after which there are only operands. -/
  | separator
  /-- A name after two dashes, and the text after an equals sign. -/
  | named (name : String) (text : Option String)
  /-- Letters after one dash. -/
  | lettered (letters : List Char)
  | word (text : String)
  deriving DecidableEq, Repr

namespace Argument

/-- The argument that a text is. -/
def ofText (s : String) : Argument :=
  match s.toList with
  | ['-', '-'] => .separator
  | '-' :: '-' :: rest =>
    let name := rest.takeWhile (· != '=')
    match rest.drop name.length with
    | [] => .named (String.ofList name) none
    | _ :: text => .named (String.ofList name) (some (String.ofList text))
  | '-' :: c :: rest => .lettered (c :: rest)
  | _ => .word s

end Argument

namespace CommandForm

/-- The name of a command. -/
def name : CommandForm → String
  | mk name _ _ _ _ => name

/-- What a command is good for. -/
def about : CommandForm → String
  | mk _ about _ _ _ => about

/-- The options of a command. -/
def options : CommandForm → List OptionForm
  | mk _ _ options _ _ => options

/-- The operands of a command. -/
def operands : CommandForm → OperandForm
  | mk _ _ _ operands _ => operands

/-- The commands in a command. -/
def commands : CommandForm → List CommandForm
  | mk _ _ _ _ commands => commands

/-- The command of a name. -/
def command? (f : CommandForm) (name : String) : Option CommandForm :=
  f.commands.find? fun c => c.name == name

/-- The option of a name. -/
def named? (f : CommandForm) (name : String) : Option OptionForm :=
  f.options.find? fun o => o.name == name

/-- The option of a letter. -/
def lettered? (f : CommandForm) (c : Char) : Option OptionForm :=
  f.options.find? fun o => o.letter == some c

/-- What was given to a command together with the environment, unless something is missing or
excluded. -/
def complete (f : CommandForm) (environment : List (String × String)) (g : Given) :
    Except Stop Given := do
  let g ← f.options.foldlM (Given.giveVariable environment) g
  let missing := f.options.any fun o => o.isRequired && !g.has o.name
  let excluded := f.options.any fun o => g.has o.name && o.excludes.any g.has
  let short := match f.operands with
    | .one _ _ => g.operands.isEmpty
    | _ => false
  if missing || excluded || short then throw .misuse
  return g

/-- Help on the command of a command that the names lead to. -/
def helpOn (f : CommandForm) (path : List String) : List String → Stop
  | [] => .help f path
  | name :: rest =>
    match f.command? name with
    | some inner => inner.helpOn (path ++ [name]) rest
    | none => if name = "help" && rest.isEmpty then .help f path else .misuse

/-- An option that takes no text is met. -/
def meet (f : CommandForm) (path : List String) (o : OptionForm) (g : Given) : Except Stop Given :=
  match o.action with
  | .help => .error (.help f path)
  | .version => .error .version
  | _ => g.give o "true"

/-- Reads the letters of one argument. The last one may be an option that waits for its text. -/
def readLetters (f : CommandForm) (path : List String) (g : Given) :
    List Char → Except Stop (Given × Option OptionForm)
  | [] => .ok (g, none)
  | c :: rest =>
    match f.lettered? c with
    | none => .error .misuse
    | some o =>
      match o.action, rest with
      | .value _, [] => .ok (g, some o)
      | .value _, '=' :: text => do return (← g.give o (String.ofList text), none)
      | .value _, text => do return (← g.give o (String.ofList text), none)
      | _, rest => do f.readLetters path (← f.meet path o g) rest

/-- Reads one argument that is not the text of an option. -/
def readArgument (f : CommandForm) (path : List String) (g : Given) :
    Argument → Except Stop (Given × Option OptionForm)
  | .separator => .ok (g, none)
  | .word text => do return (← g.giveOperand f.operands text, none)
  | .lettered letters => f.readLetters path g letters
  | .named name text =>
    match f.named? name with
    | none => .error .misuse
    | some o =>
      match o.action, text with
      | .value _, none => .ok (g, some o)
      | .value _, some text => do return (← g.give o text, none)
      | _, none => do return (← f.meet path o g, none)
      | _, some _ => .error .misuse

/-- Reads the arguments of a command, of which `waiting` is an option that waits for its text.
Answers with what was given to the command, and to the commands in it. -/
def readFrom (environment : List (String × String)) (f : CommandForm) (path : List String)
    (g : Given) (waiting : Option OptionForm) :
    List String → Except Stop (List (String × Given))
  | [] =>
    if waiting.isSome || !f.commands.isEmpty then .error .misuse
    else do return [(f.name, ← f.complete environment g)]
  | text :: rest =>
    match waiting with
    | some o =>
      match Argument.ofText text with
      | .word text => do readFrom environment f path (← g.give o text) none rest
      | _ => .error .misuse
    | none =>
      match f.command? text with
      | some inner => do
        let calls ← readFrom environment inner (path ++ [text]) {} none rest
        return (f.name, ← f.complete environment g) :: calls
      | none =>
        if text = "help" && !f.commands.isEmpty then .error (f.helpOn path rest)
        else match Argument.ofText text with
          | .separator => do
            let g ← rest.foldlM (fun g text => g.giveOperand f.operands text) g
            if f.commands.isEmpty then return [(f.name, ← f.complete environment g)]
            throw .misuse
          | argument => do
            let (g, waiting) ← f.readArgument path g argument
            readFrom environment f path g waiting rest

/-- Reads the arguments of a command. -/
def read (f : CommandForm) (environment : List (String × String)) (args : List String) :
    Except Stop (List (String × Given)) :=
  f.readFrom environment [f.name] {} none args

/-- An option as its help shows it. -/
def optionUsage (o : OptionForm) : String :=
  let letter := match o.letter with
    | some c => String.ofList ['-', c, ',', ' ']
    | none => "    "
  let shown (c : Char) : Char := if c = '-' then '_' else c.toUpper
  let text := match o.action with
    | .value _ => " <" ++ String.ofList (o.name.toList.map shown) ++ ">"
    | _ => ""
  letter ++ "--" ++ o.name ++ text

/-- Names with what they are good for, one a line. -/
def glossary (title : String) (entries : List (String × String)) : String :=
  let width := entries.foldl (fun n e => max n e.1.length) 0
  entries.foldl (fun s e =>
    s ++ "  " ++ e.1 ++ String.ofList (List.replicate (width - e.1.length + 2) ' ') ++ e.2 ++ "\n")
    ("\n" ++ title ++ ":\n")

/-- The help on a command. -/
def helpText (f : CommandForm) (path : List String) : String :=
  let operands := match f.operands with
    | .none => if f.commands.isEmpty then "" else " <COMMAND>"
    | .one name _ => " <" ++ name ++ ">"
    | .many name _ => " [" ++ name ++ "]..."
  let commands :=
    if f.commands.isEmpty then ""
    else glossary "Commands" (f.commands.map (fun c => (c.name, c.about))
      ++ [("help", "Print this message or the help of the given subcommand(s)")])
  f.about ++ "\n\nUsage: " ++ String.intercalate " " path ++ " [OPTIONS]" ++ operands ++ "\n"
    ++ commands
    ++ glossary "Options" (f.options.map fun o => (optionUsage o, o.about))

end CommandForm

end CoreTrial.CommandLine
