import CoreTrial.Process
import CoreTrial.Shell.Arithmetic
import CoreTrial.Shell.Reader
import CoreTrial.Shell.Tool
import CoreTrial.Text.Search
import CoreTrial.Text.Utf8

/-!
# Running scripts

A launcher that runs tools, and scripts that a file's first line gives to the shell. Commands of
a pipeline run one after another. A program that does not come to its end within a great number
of steps never does.
-/

set_option autoImplicit false

namespace CoreTrial.Shell

/-- Where output goes. -/
inductive Sink where
  | buffer (n : Nat)
  | file (number : Nat)
  | nowhere

/-- The files, and what was printed into buffers. -/
structure Machine where
  files : FileSystem
  buffers : List (Nat × Stream)
  next : Nat

/-- What a program reads, and where its outputs go. -/
structure Streams where
  stdin : Stream
  stdout : Sink
  stderr : Sink

/-- What a script knows while it runs. -/
structure Env where
  name : String
  params : List String
  environment : List (String × String)
  status : Nat
  streams : Streams
  /-- A command that fails ends the script. -/
  exitOnError : Bool
  /-- Whether a command fails is being asked. -/
  guarded : Bool

/-- What comes after a command: the next one, or the end of the script. A script that was killed
has no exit code. -/
inductive Flow where
  | go (env : Env)
  | stop (code : Option Nat)

/-- The exit code that a shell gives to a program that was killed. -/
def killedStatus : Nat := 137

/-- The number that a script has among the processes. -/
def processNumber : String := "4711"

/-- The time that a program takes to start. -/
def startTime : Duration := 100000

/-- Work that does not end. -/
def endless {α : Type} : Work Machine α := fun _ m => .never m

/-- Puts a stream into a sink. -/
def emit (sink : Sink) (s : Stream) : Work Machine Unit :=
  match sink with
  | .nowhere => if s.isEndless then endless else pure ()
  | .buffer n => Work.change fun m =>
      { m with buffers := m.buffers.map fun b => if b.1 = n then (n, b.2.append s) else b }
  | .file number =>
    if s.isEndless then endless
    else Work.change fun m => { m with files := m.files.appendTo number ⟨s.bytes.toArray⟩ }

/-- An empty buffer. -/
def newBuffer : Work Machine Nat :=
  Work.act fun m =>
    ({ m with buffers := (m.next, .empty) :: m.buffers, next := m.next + 1 }, m.next)

/-- What a buffer holds. -/
def bufferOf (n : Nat) : Work Machine Stream := do
  let m ← Work.look
  return (m.buffers.lookup n).getD .empty

/-- Says why a command is not carried out. -/
def complain (env : Env) (line : Nat) (text : String) : Work Machine Unit :=
  emit env.streams.stderr (.ofText (env.name ++ ": " ++ toString line ++ ": " ++ text ++ "\n"))

namespace Env

/-- The value of a variable or of a parameter. -/
def value (env : Env) (name : String) : String :=
  match name with
  | "#" => toString env.params.length
  | "?" => toString env.status
  | "$" => processNumber
  | "@" | "*" => String.intercalate " " env.params
  | "0" => env.name
  | name =>
    match Number.readNat? name.toList with
    | some n => (env.params[n - 1]?).getD ""
    | none => (env.environment.lookup name).getD ""

/-- The value of what stands between braces: a name, perhaps with a text for a value that is
empty. -/
def braced (env : Env) (s : String) : String :=
  match Text.cut? [':', '-'] s.toList with
  | some (name, other) =>
    let v := env.value (String.ofList name)
    if v.isEmpty then String.ofList other else v
  | none => env.value s

/-- Gives a variable a value. -/
def assign (env : Env) (a : String × String) : Env :=
  { env with environment := a :: env.environment.filter fun b => b.1 != a.1 }

end Env

/-- A part of a word after something was put into it. -/
inductive Part where
  | fixed (text : List Char)
  /-- Is split at blanks. -/
  | loose (text : List Char)
  /-- Texts that stay apart. -/
  | several (texts : List String)

/-- The fields of a word, `done` being those that are over, backwards, and `current` the one that
is not. -/
def fieldsFrom (done : List (List Char)) (current : Option (List Char)) : List Part → List String
  | [] => ((match current with
      | some c => c :: done
      | none => done).map String.ofList).reverse
  | .fixed s :: rest => fieldsFrom done (some (current.getD [] ++ s)) rest
  | .loose s :: rest =>
    let step (state : List (List Char) × Option (List Char)) (c : Char) :=
      if c == ' ' || c == '\t' || c == '\n' then
        match state.2 with
        | some f => (f :: state.1, none)
        | none => (state.1, none)
      else (state.1, some (state.2.getD [] ++ [c]))
    let (done, current) := s.foldl step (done, current)
    fieldsFrom done current rest
  | .several texts :: rest =>
    match texts with
    | [] => fieldsFrom done current rest
    | first :: others =>
      let (done, current) := others.foldl (fun (done, current) t => (current :: done, t.toList))
        (done, current.getD [] ++ first.toList)
      fieldsFrom done (some current) rest

/-- The text of a file's first line after the two characters that ask for an interpreter. -/
def interpreterLine? (bytes : ByteArray) : Option (List Char) :=
  match bytes.toList with
  | 35 :: 33 :: rest =>
    some (Text.decodeLossy ⟨(rest.takeWhile (· != 10)).toArray⟩).toList
  | _ => none

/-- The interpreter of a line, and the argument it is given. -/
def interpreterOf (line : List Char) : String × List String :=
  let isBlank (c : Char) : Bool := c == ' ' || c == '\t' || c == '\r'
  let line := ((line.dropWhile isBlank).reverse.dropWhile isBlank).reverse
  let argument := (line.dropWhile (!isBlank ·)).dropWhile isBlank
  (String.ofList (line.takeWhile (!isBlank ·)),
    if argument.isEmpty then [] else [String.ofList argument])

/-- The names of the shell. -/
def shellNames : List String := ["sh", "dash", "bash"]

/-- How a shell is started: a script, its name and its parameters, or why there is none. -/
inductive ShellStart where
  | script (text : List Char) (name : String) (params : List String) (exitOnError : Bool)
  | unreadable (file : String)

/-- Reads the arguments of a shell. -/
def shellStart (files : FileSystem) (input : Stream) (exitOnError : Bool) (name : String) :
    List String → ShellStart
  | [] => .script (Text.decodeLossy ⟨input.bytes.toArray⟩).toList name [] exitOnError
  | "-c" :: text :: rest => .script text.toList (rest.headD name) rest.tail exitOnError
  | "-e" :: rest => shellStart files input true name rest
  | "-ec" :: text :: rest => .script text.toList (rest.headD name) rest.tail true
  | "-x" :: rest => shellStart files input exitOnError name rest
  | "-u" :: rest => shellStart files input exitOnError name rest
  | file :: rest =>
    match files.readBytes ⟨file⟩ with
    | .ok bytes => .script (Text.decodeLossy bytes).toList file rest exitOnError
    | .error _ => .unreadable file

/-- Applies one redirection. -/
def redirect (streams : Streams) (r : Redirect) (target : String) :
    Work Machine (Except String Streams) := do
  let m ← Work.look
  let send (sink : Sink) : Streams :=
    if r.descriptor = 2 then { streams with stderr := sink }
    else if r.descriptor = 1 then { streams with stdout := sink }
    else streams
  match r.kind with
  | .duplicate =>
    match target with
    | "1" => return .ok (send streams.stdout)
    | "2" => return .ok (send streams.stderr)
    | _ => return .ok streams
  | .input =>
    match Tool.open? target .empty m.files with
    | .ok s => return .ok { streams with stdin := s }
    | .error .notFound => return .error ("cannot open " ++ target ++ ": No such file")
    | .error e => return .error ("cannot open " ++ target ++ ": " ++ e.reason)
  | kind =>
    match m.files.openToWrite ⟨target⟩ with
    | .ok (files, _, .file number _ _) =>
      let files := if kind = .output then files.truncate number else files
      Work.change fun m => { m with files }
      return .ok (send (.file number))
    | .ok _ => return .ok (send .nowhere)
    | .error .notFound => return .error ("cannot create " ++ target ++ ": Directory nonexistent")
    | .error e => return .error ("cannot create " ++ target ++ ": " ++ e.reason)

/-- A program that a path leads to: the interpreter of a script, or why it cannot be started. -/
def scriptAt (files : FileSystem) (path : String) : Except IoError (String × List String) :=
  match files.node? ⟨path⟩ with
  | .error e => .error e
  | .ok (_, .file _ mode bytes) =>
    if mode &&& 0o111 = 0 then .error .permissionDenied
    else match interpreterLine? bytes with
      | some line => .ok (interpreterOf line)
      | none => .error .notExecutable
  | .ok _ => .error .permissionDenied

/-- The exit code that an argument gives. -/
def exitStatus (arg : Option String) (status : Nat) : Nat :=
  match arg with
  | some s => (Format.number s % 256).toNat
  | none => status

mutual

/-- Puts into a piece what belongs there. -/
def partOf : Nat → Env → Piece → Work Machine Part
  | 0, _, _ => endless
  | fuel + 1, env, p =>
    match p with
    | .plain s => return .fixed s
    | .quoted s => return .fixed s
    | .variable "@" true => return .several env.params
    | .variable name quoted =>
      let v := (env.braced name).toList
      return if quoted then .fixed v else .loose v
    | .arithmetic s =>
      return .fixed (toString (Arithmetic.eval (fun n => Format.number (env.value n)) s)).toList
    | .output script quoted => do
      let n ← newBuffer
      let _ ← runScript fuel { env with streams := { env.streams with stdout := .buffer n } } script
      let s ← bufferOf n
      let text := (Text.decodeLossy ⟨s.bytes.toArray⟩).toList
      let text := (text.reverse.dropWhile (· == '\n')).reverse
      return if quoted then .fixed text else .loose text

/-- The fields of a word. -/
def fieldsOf : Nat → Env → Word → Work Machine (List String)
  | 0, _, _ => endless
  | fuel + 1, env, w => do
    let parts ← w.mapM (partOf fuel env)
    return fieldsFrom [] none parts

/-- The text of a word that is not split. -/
def textOf : Nat → Env → Word → Work Machine String
  | 0, _, _ => endless
  | fuel + 1, env, w => do
    let fields ← fieldsOf fuel env w
    return String.intercalate " " fields

/-- Applies redirections in order. -/
def redirectAll : Nat → Env → List Redirect → Work Machine (Except String Env)
  | 0, _, _ => endless
  | _, env, [] => return .ok env
  | fuel + 1, env, r :: rest => do
    let target ← textOf fuel env r.target
    match ← redirect env.streams r target with
    | .error e => return .error e
    | .ok streams => redirectAll fuel { env with streams } rest

/-- Starts a program and waits for its end. -/
def start : Nat → Streams → List (String × String) → String → List String →
    Work Machine (Except IoError (Option Nat))
  | 0, _, _, _, _ => endless
  | fuel + 1, streams, environment, program, args => do
    let m ← Work.look
    let name := Tool.nameOf program
    if shellNames.contains name then
      match shellStart m.files streams.stdin false program args with
      | .unreadable file =>
        emit streams.stderr (.ofText (program ++ ": 0: cannot open " ++ file ++ ": No such file\n"))
        return .ok (some 2)
      | .script text name params exitOnError =>
        Work.pause startTime
        let env : Env := ⟨name, params, environment, 0, streams, exitOnError, false⟩
        return .ok (← runScript fuel env text)
    else if name = "env" then
      match args with
      | [] =>
        emit streams.stdout (Tool.ofLines (environment.map fun v => v.1 ++ "=" ++ v.2))
        return .ok (some 0)
      | program :: args => start fuel streams environment program args
    else match Tool.named? program with
      | some tool =>
        let (files, e) := tool args streams.stdin m.files
        Work.pause (startTime + e.delay)
        Work.change fun m => { m with files }
        emit streams.stdout e.out
        emit streams.stderr (.ofText e.err)
        return .ok (some e.status)
      | none =>
        if !program.toList.contains '/' then return .error .notFound
        else match scriptAt m.files program with
          | .error e => return .error e
          | .ok (interpreter, given) =>
            start fuel streams environment interpreter (given ++ program :: args)

/-- Runs a script to its end. What it does to its variables and to its working folder stays
inside. -/
def runScript : Nat → Env → List Char → Work Machine (Option Nat)
  | 0, _, _ => endless
  | fuel + 1, env, text => do
    match Command.read? text with
    | none =>
      complain env 1 "Syntax error"
      return some 2
    | some c => runApart fuel env c

/-- Runs a command so that it changes nothing but files. -/
def runApart : Nat → Env → Command → Work Machine (Option Nat)
  | 0, _, _ => endless
  | fuel + 1, env, c => do
    let before ← Work.look
    let flow ← run fuel env c
    Work.change fun m => { m with files := { m.files with home := before.files.home } }
    match flow with
    | .go env => return some env.status
    | .stop code => return code

/-- Runs a simple command whose redirections were applied. -/
def runSimple : Nat → Env → Env → Nat → List (String × String) → List String → Work Machine Flow
  | 0, _, _, _, _, _ => endless
  | fuel + 1, outer, env, line, assignments, fields => do
    let next (status : Nat) : Flow :=
      if status != 0 && outer.exitOnError && !outer.guarded then .stop (some status)
      else .go { outer with status }
    match fields with
    | [] => return .go { assignments.foldl Env.assign outer with status := 0 }
    | [":"] => return next 0
    | "exit" :: args => return .stop (some (exitStatus args.head? env.status))
    | ["exec"] => return .go { outer with streams := env.streams, status := 0 }
    | "exec" :: program :: args =>
      match ← start fuel env.streams env.environment program args with
      | .ok code => return .stop code
      | .error e =>
        complain env line ("exec: " ++ program ++ ": " ++
          if e = .notFound then "not found" else e.reason)
        return .stop (some (if e = .notFound then 127 else 126))
    | "cd" :: args =>
      let m ← Work.look
      match m.files.node? ⟨args.headD "/"⟩ with
      | .ok (place, .folder _) =>
        Work.change fun m => { m with files := { m.files with home := place } }
        return next 0
      | _ =>
        complain env line ("cd: can't cd to " ++ args.headD "")
        return next 2
    | "set" :: args =>
      return .go { outer with
        exitOnError := outer.exitOnError || args.any fun a => a == "-e" || a == "-eu"
        status := 0 }
    | "export" :: args =>
      let pairs := args.filterMap fun a =>
        (Text.cut? ['='] a.toList).map fun (n, v) => (String.ofList n, String.ofList v)
      return .go { pairs.foldl Env.assign outer with status := 0 }
    | "shift" :: _ => return .go { outer with params := outer.params.tail, status := 0 }
    | "eval" :: args =>
      match Command.read? (String.intercalate " " args).toList with
      | some c => run fuel outer c
      | none => return next 2
    | "kill" :: args =>
      if args.getLast? = some processNumber then
        return if args.contains "-0" then next 0 else .stop none
      else
        complain env line "kill: No such process"
        return next 1
    | "wait" :: _ => return next 0
    | program :: args =>
      let environment := (assignments.foldl Env.assign env).environment
      if program = "echo" then
        emit env.streams.stdout (Tool.echoEscaped args .empty ⟨[], [], 0⟩).2.out
        return next 0
      else match ← start fuel env.streams environment program args with
        | .ok code => return next (code.getD killedStatus)
        | .error .notFound =>
          complain env line (program ++ ": not found")
          return next 127
        | .error .notExecutable =>
          match ← start fuel env.streams environment "sh" (program :: args) with
          | .ok code => return next (code.getD killedStatus)
          | .error _ => return next 126
        | .error e =>
          complain env line (program ++ ": " ++ e.reason)
          return next 126

/-- Runs a command. -/
def run : Nat → Env → Command → Work Machine Flow
  | 0, _, _ => endless
  | fuel + 1, env, c => do
    -- a command whose failure decides what comes next does not end the script
    let asked (c : Command) : Work Machine Flow := do
      match ← run fuel { env with guarded := true } c with
      | .go after => return .go { after with guarded := env.guarded }
      | .stop code => return .stop code
    match c with
    | .nothing => return .go env
    | .sequence a b =>
      match ← run fuel env a with
      | .go env => run fuel env b
      | .stop code => return .stop code
    | .andThen a b =>
      match ← asked a with
      | .go env => if env.status = 0 then run fuel env b else return .go env
      | .stop code => return .stop code
    | .orElse a b =>
      match ← asked a with
      | .go env => if env.status = 0 then return .go env else run fuel env b
      | .stop code => return .stop code
    | .negate a =>
      match ← asked a with
      | .go env => return .go { env with status := if env.status = 0 then 1 else 0 }
      | .stop code => return .stop code
    | .choice condition yes no =>
      match ← asked condition with
      | .go env =>
        if env.status = 0 then run fuel env yes
        else run fuel { env with status := 0 } no
      | .stop code => return .stop code
    | .loop holds condition body =>
      match ← asked condition with
      | .go env =>
        if (env.status == 0) == holds then
          match ← run fuel env body with
          | .go env => run fuel env (.loop holds condition body)
          | .stop code => return .stop code
        else return .go { env with status := 0 }
      | .stop code => return .stop code
    | .forEach name words body => do
      let fields ← words.mapM (fieldsOf fuel env)
      fields.flatten.foldlM (fun flow v =>
        match flow with
        | .go env => run fuel (env.assign (name, v)) body
        | .stop code => return .stop code) (.go { env with status := 0 })
    | .pipe a b => do
      let n ← newBuffer
      let _ ← runApart fuel { env with streams := { env.streams with stdout := .buffer n } } a
      let stdin ← bufferOf n
      let code ← runApart fuel { env with streams := { env.streams with stdin } } b
      let status := code.getD killedStatus
      if status != 0 && env.exitOnError && !env.guarded then return .stop (some status)
      else return .go { env with status }
    | .group apart body redirects =>
      match ← redirectAll fuel env redirects with
      | .error e =>
        complain env 1 e
        return .go { env with status := 2 }
      | .ok inner =>
        if apart then
          let code ← runApart fuel inner body
          return .go { env with status := code.getD killedStatus }
        else match ← run fuel inner body with
          | .go after => return .go { after with streams := env.streams }
          | .stop code => return .stop code
    | .simple c =>
      let fields ← c.words.mapM (fieldsOf fuel env)
      let values ← c.assignments.mapM fun a => textOf fuel env a.2
      let assignments := (c.assignments.map (·.1)).zip values
      match ← redirectAll fuel env c.redirects with
      | .error e =>
        complain env c.line e
        return .go { env with status := 2 }
      | .ok inner => runSimple fuel env inner c.line assignments fields.flatten

end

/-- The number of steps after which a program counts as one without end. -/
def stepLimit : Nat := 1000000

/-- Runs a program to its end. -/
def runProgram (environment : List (String × String)) (l : Launch) :
    Work Machine (Except IoError ProcessEnd) := do
  match ← start stepLimit ⟨.empty, .buffer 1, .buffer 2⟩ environment l.program l.args with
  | .error e => return .error e
  | .ok code =>
    let out ← bufferOf 1
    let err ← bufferOf 2
    if out.isEndless || err.isEndless then endless
    else return .ok {
      exitCode := code.map Int32.ofNat
      stdout := Text.decodeLossy ⟨out.bytes.toArray⟩
      stderr := Text.decodeLossy ⟨err.bytes.toArray⟩ }

/-- Runs tools and scripts, with these variables set. -/
def launcher (environment : List (String × String)) : Launcher := fun l now fs =>
  match fs.node? l.folder with
  | .error e => .done fs (.error e)
  | .ok (place, .folder _) =>
    (runProgram environment l now ⟨{ fs with home := place }, [(1, .empty), (2, .empty)], 3⟩).embed
      fun m => { m.files with home := fs.home }
  | .ok _ => .done fs (.error .notADirectory)

end CoreTrial.Shell
