import CoreTrial.FileSystem.Basic
import CoreTrial.Shell.Format
import CoreTrial.Shell.Stream
import CoreTrial.Time.Duration

/-!
# Tools

Small programs that every system has. A tool reads its input and some files, changes some files,
prints, and takes some time.
-/

set_option autoImplicit false

namespace CoreTrial.Shell

/-- What a tool printed, its exit code, and the time it took. -/
structure ToolEnd where
  out : Stream := .empty
  err : String := ""
  status : Nat := 0
  delay : Duration := 0

/-- A tool, by its arguments and its input. -/
abbrev Tool := List String → Stream → FileSystem → FileSystem × ToolEnd

namespace Tool

/-- A tool that only prints. -/
def printing (f : List String → Stream → Stream) : Tool :=
  fun args input fs => (fs, { out := f args input })

/-- Lines, one for each text. -/
def ofLines (l : List String) : Stream :=
  .ofText (l.foldl (fun s line => s ++ line ++ "\n") "")

/-- The input of a tool: the file of this name, or what it reads where there is none. -/
def open? (name : String) (input : Stream) (fs : FileSystem) : Except IoError Stream :=
  if name = "-" then .ok input
  else match fs.node? ⟨name⟩ with
    | .ok (_, .device .zeros) => .ok .zeros
    | _ => (fs.readBytes ⟨name⟩).map fun bytes => ⟨bytes.toList, []⟩

/-- A tool that reads files, or its input, and complains about those it cannot read. -/
def reading (tool : String) (names : List String) (f : String → Stream → Stream) : Tool :=
  fun _ input fs =>
    let step (e : ToolEnd) (name : String) : ToolEnd :=
      match open? name input fs with
      | .ok s => { e with out := e.out.append (f name s) }
      | .error cause =>
        { e with err := e.err ++ tool ++ ": " ++ name ++ ": " ++ cause.reason ++ "\n", status := 1 }
    (fs, (if names.isEmpty then ["-"] else names).foldl step {})

/-- A tool that changes files one after another, and complains where that fails. -/
def changing (complaint : String → IoError → String)
    (change : String → FileSystem → Except IoError FileSystem) (names : List String) : Tool :=
  fun _ _ fs =>
    names.foldl (fun (fs, e) name =>
      match change name fs with
      | .ok fs => (fs, e)
      | .error cause =>
        (fs, { e with err := e.err ++ complaint name cause ++ "\n", status := 1 })) (fs, {})

/-- The options at the start of the arguments, and the rest. -/
def splitOptions : List String → List String × List String
  | [] => ([], [])
  | "--" :: rest => ([], rest)
  | arg :: rest =>
    if "-".toList.isPrefixOf arg.toList && arg != "-" then
      let (options, rest) := splitOptions rest
      (arg :: options, rest)
    else ([], arg :: rest)

/-- An option has this letter. -/
def hasLetter (c : Char) (options : List String) : Bool :=
  options.any fun o => o.toList.contains c

/-- A number of lines or bytes at the start of the arguments; ten lines where there is none. -/
def countOption (args : List String) : Bool × Nat × List String :=
  let read (s : List Char) : Nat := (Number.readNat? s).getD 0
  match args with
  | "-n" :: n :: rest => (false, read n.toList, rest)
  | "-c" :: n :: rest => (true, read n.toList, rest)
  | arg :: rest =>
    match arg.toList with
    | '-' :: 'n' :: n => (false, read n, rest)
    | '-' :: 'c' :: n => (true, read n, rest)
    | '-' :: n => if (Number.readNat? n).isSome then (false, read n, rest) else (false, 10, args)
    | _ => (false, 10, args)
  | [] => (false, 10, [])

/-- The first bytes or lines. -/
def head : Tool := fun args input fs =>
  let (bytes, n, names) := countOption args
  reading "head" names (fun _ s =>
    if bytes then ⟨s.take n, []⟩
    else
      let all := s.bytes ++ (List.replicate n s.cycle).flatten
      ⟨((Stream.lines all).take n).flatten, []⟩) args input fs

/-- The last bytes or lines. -/
def tail : Tool := fun args input fs =>
  let (bytes, n, names) := countOption args
  reading "tail" names (fun _ s =>
    if s.isEndless then s
    else if bytes then ⟨s.bytes.drop (s.bytes.length - n), []⟩
    else
      let lines := Stream.lines s.bytes
      ⟨(lines.drop (lines.length - n)).flatten, []⟩) args input fs

/-- The number of words in bytes. -/
def countWords (s : List UInt8) : Nat :=
  (s.foldl (fun (n, inside) b =>
    if b = 32 || (9 ≤ b && b ≤ 13) then (n, false) else (if inside then n else n + 1, true))
    (0, false)).1

/-- Counts lines, words and bytes. -/
def wc : Tool := fun args input fs =>
  let (options, names) := splitOptions args
  let wanted (c : Char) := options.isEmpty || hasLetter c options
  reading "wc" names (fun name s =>
    if s.isEndless then s
    else
      let counts := (if wanted 'l' then [s.bytes.count 10] else [])
        ++ (if wanted 'w' then [countWords s.bytes] else [])
        ++ (if wanted 'c' then [s.bytes.length] else [])
      let place (n : Nat) : String :=
        if counts.length = 1 then toString n
        else String.ofList (List.replicate (7 - (toString n).length) ' ') ++ toString n
      ofLines [String.intercalate " " (counts.map place) ++ if name = "-" then "" else " " ++ name])
    args input fs

/-- The bytes of a set of characters. -/
def byteSet : Nat → List Char → List UInt8
  | 0, _ => []
  | _, [] => []
  | fuel + 1, '\\' :: rest =>
    let (bs, rest) := Format.escape rest
    bs ++ byteSet fuel rest
  | fuel + 1, a :: '-' :: b :: rest =>
    (List.range (b.toNat + 1 - a.toNat)).map (fun i => UInt8.ofNat (a.toNat + i))
      ++ byteSet fuel rest
  | fuel + 1, c :: rest => Format.utf8 [c] ++ byteSet fuel rest

/-- Puts bytes in the place of others, or leaves them out. -/
def tr : Tool := printing fun args input =>
  match args with
  | ["-d", s] =>
    let set := byteSet s.length s.toList
    input.filterMap fun b => if set.contains b then none else some b
  | [s, t] =>
    let old := byteSet s.length s.toList
    let new := byteSet t.length t.toList
    input.filterMap fun b =>
      match old.idxOf? b with
      | some i => (new[i]?).or new.getLast?
      | none => some b
  | _ => .empty

/-- The numbers of an arithmetic progression. -/
def seq : Tool := printing fun args _ =>
  let numbers (first step last : Int) : Stream :=
    if step ≤ 0 || last < first then .empty
    else ofLines ((List.range (((last - first) / step).toNat + 1)).map fun (i : Nat) =>
      toString (first + step * (i : Int)))
  match args.map Format.number with
  | [last] => numbers 1 1 last
  | [first, last] => numbers first 1 last
  | [first, step, last] => numbers first step last
  | _ => .empty

/-- A time in seconds, minutes or hours. -/
def readTime (s : String) : Duration :=
  let whole := s.toList.takeWhile Char.isDigit
  let (fraction, rest) := match s.toList.dropWhile Char.isDigit with
    | '.' :: rest => (rest.takeWhile Char.isDigit, rest.dropWhile Char.isDigit)
    | rest => ([], rest)
  let unit := match rest with
    | ['m'] => 60
    | ['h'] => 3600
    | _ => 1
  let places := (fraction ++ List.replicate 9 '0').take 9
  (Number.ofDigits whole * 1000000000 + Number.ofDigits places) * unit

/-- Waits. -/
def sleep : Tool := fun args _ fs =>
  (fs, { delay := args.foldl (fun n a => n + readTime a) 0 })

/-- The path of a name in a folder, where the path leads to one. -/
def within (fs : FileSystem) (source target : String) : Path :=
  if fs.isFolder ⟨target⟩ then Path.child ⟨target⟩ ((Path.fileName? ⟨source⟩).getD source)
  else ⟨target⟩

/-- Copies a file. -/
def cp : Tool := fun args input fs =>
  match (splitOptions args).2 with
  | [source, target] =>
    changing (fun name cause => "cp: cannot stat '" ++ name ++ "': " ++ cause.reason)
      (fun name fs => do
        let bytes ← fs.readBytes ⟨name⟩
        let mode := match fs.node? ⟨name⟩ with
          | .ok (_, .file _ mode _) => mode
          | _ => newFileMode
        let q := within fs name target
        let fresh := !fs.exists q
        let fs ← fs.write q bytes
        if fresh then fs.setMode q mode else return fs) [source] args input fs
  | _ => (fs, { err := "cp: missing file operand\n", status := 1 })

/-- Gives a file another name. -/
def mv : Tool := fun args input fs =>
  match (splitOptions args).2 with
  | [source, target] =>
    changing (fun name cause => "mv: cannot stat '" ++ name ++ "': " ++ cause.reason)
      (fun name fs => fs.rename ⟨name⟩ (within fs name target)) [source] args input fs
  | _ => (fs, { err := "mv: missing file operand\n", status := 1 })

/-- Creates a link. -/
def ln : Tool := fun args input fs =>
  match (splitOptions args).2 with
  | [source, target] =>
    changing (fun _ cause =>
        "ln: failed to create symbolic link '" ++ target ++ "': " ++ cause.reason)
      (fun name fs => fs.makeLink (within fs name target) ⟨name⟩) [source] args input fs
  | _ => (fs, { err := "ln: missing file operand\n", status := 1 })

/-- Takes files away. -/
def rm : Tool := fun args =>
  let (options, names) := splitOptions args
  changing (fun name cause => "rm: cannot remove '" ++ name ++ "': " ++ cause.reason)
    (fun name fs =>
      let result :=
        if hasLetter 'r' options || hasLetter 'R' options then fs.removeAll ⟨name⟩
        else fs.remove ⟨name⟩
      match result with
      | .error .notFound => if hasLetter 'f' options then .ok fs else .error .notFound
      | r => r) names args

/-- Creates folders. -/
def mkdir : Tool := fun args =>
  let (options, names) := splitOptions args
  changing (fun name cause => "mkdir: cannot create directory '" ++ name ++ "': " ++ cause.reason)
    (fun name fs =>
      if hasLetter 'p' options then fs.makeFolders ⟨name⟩ else fs.makeFolder ⟨name⟩) names args

/-- Takes empty folders away. -/
def rmdir : Tool := fun args =>
  changing (fun name cause => "rmdir: failed to remove '" ++ name ++ "': " ++ cause.reason)
    (fun name fs => fs.removeFolder ⟨name⟩) args args

/-- Creates files where there are none. -/
def touch : Tool := fun args =>
  changing (fun name cause => "touch: cannot touch '" ++ name ++ "': " ++ cause.reason)
    (fun name fs =>
      if fs.exists ⟨name⟩ then .ok fs else fs.write ⟨name⟩ .empty) args args

/-- Octal permission bits, or some that are added for everybody. -/
def readMode (s : String) (old : Nat) : Nat :=
  match s.toList with
  | '+' :: letters | 'a' :: '+' :: letters =>
    old ||| (if letters.contains 'x' then 0o111 else 0)
      ||| (if letters.contains 'r' then 0o444 else 0)
      ||| (if letters.contains 'w' then 0o200 else 0)
  | digits => digits.foldl (fun n c => n * 8 + Number.digitValue c) 0

/-- Sets permission bits. -/
def chmod : Tool := fun args =>
  changing (fun name cause => "chmod: cannot access '" ++ name ++ "': " ++ cause.reason)
    (fun name fs =>
      let old := match fs.node? ⟨name⟩ with
        | .ok (_, .file _ mode _) => mode
        | .ok (_, .folder mode) => mode
        | _ => 0
      fs.setMode ⟨name⟩ (readMode (args.headD "") old)) args.tail args

/-- The names in folders. -/
def ls : Tool := fun args _ fs =>
  let (options, names) := splitOptions args
  let visible (name : String) : Bool := hasLetter 'a' options || name.toList.head? != some '.'
  let step (e : ToolEnd) (name : String) : ToolEnd :=
    match fs.list ⟨name⟩ with
    | .ok all => { e with out := e.out.append (ofLines (all.filter visible)) }
    | .error .notADirectory => { e with out := e.out.append (ofLines [name]) }
    | .error cause =>
      { e with
        err := e.err ++ "ls: cannot access '" ++ name ++ "': " ++ cause.reason ++ "\n"
        status := 2 }
  (fs, (if names.isEmpty then ["."] else names).foldl step {})

/-- The path of a place. -/
def pathOf (p : Place) : String :=
  if p.isEmpty then "/" else p.reverse.foldl (fun s name => s ++ "/" ++ name) ""

/-- The working folder. -/
def pwd : Tool := fun _ _ fs => (fs, { out := ofLines [pathOf fs.home] })

/-- The last name of a path. -/
def basename : Tool := printing fun args _ =>
  let name := (Path.fileName? ⟨args.headD ""⟩).getD (args.headD "")
  let ending := (args.drop 1).headD ""
  ofLines [if ending.toList.isSuffixOf name.toList && name != ending then
    String.ofList (name.toList.take (name.length - ending.length)) else name]

/-- A path without its last name. -/
def dirname : Tool := printing fun args _ =>
  ofLines [(FileSystem.folderOf ⟨args.headD ""⟩).text]

/-- Its arguments. -/
def echo : Tool := printing fun args _ =>
  match args with
  | "-n" :: rest => .ofText (String.intercalate " " rest)
  | args => .ofText (String.intercalate " " args ++ "\n")

/-- Its arguments, with what backslashes introduce. -/
def echoEscaped : Tool := printing fun args _ =>
  let bytes (l : List String) : List UInt8 :=
    let s := (String.intercalate " " l).toList
    Format.escaped s.length s
  match args with
  | "-n" :: rest => ⟨bytes rest, []⟩
  | args => ⟨bytes args ++ [10], []⟩

/-- Its arguments in a format. -/
def printf : Tool := printing fun args _ => ⟨Format.print (args.headD "") args.tail, []⟩

/-- A line without end. -/
def yes : Tool := printing fun args _ =>
  ⟨[], ((if args.isEmpty then "y" else String.intercalate " " args) ++ "\n").toUTF8.toList⟩

/-- A statement about texts, numbers or files. -/
def holds (fs : FileSystem) : List String → Bool
  | "!" :: rest => !holds fs rest
  | ["-n", s] => !s.isEmpty
  | ["-z", s] => s.isEmpty
  | ["-e", p] => fs.exists ⟨p⟩
  | ["-d", p] => fs.isFolder ⟨p⟩
  | ["-f", p] => match fs.node? ⟨p⟩ with
    | .ok (_, .file _ _ _) => true
    | _ => false
  | ["-s", p] => match fs.readBytes ⟨p⟩ with
    | .ok bytes => bytes.size != 0
    | .error _ => false
  | ["-x", p] => match fs.node? ⟨p⟩ with
    | .ok (_, .file _ mode _) => mode &&& 0o111 != 0
    | .ok (_, .folder _) => true
    | _ => false
  | ["-r", p] => fs.exists ⟨p⟩
  | ["-w", p] => fs.exists ⟨p⟩
  | ["-L", p] => match fs.stat? ⟨p⟩ with
    | some (.link _) => true
    | _ => false
  | [a, "=", b] => a == b
  | [a, "!=", b] => a != b
  | [a, "-eq", b] => Format.number a == Format.number b
  | [a, "-ne", b] => Format.number a != Format.number b
  | [a, "-lt", b] => decide (Format.number a < Format.number b)
  | [a, "-le", b] => decide (Format.number a ≤ Format.number b)
  | [a, "-gt", b] => decide (Format.number b < Format.number a)
  | [a, "-ge", b] => decide (Format.number b ≤ Format.number a)
  | [s] => !s.isEmpty
  | _ => false

/-- Tells whether a statement holds. -/
def test : Tool := fun args _ fs => (fs, { status := if holds fs args then 0 else 1 })

/-- `test` with a bracket after its statement. -/
def bracket : Tool := fun args input fs => test (args.filter (· != "]")) input fs

/-- The tools of a system, by name. -/
def all : List (String × Tool) := [
  ("true", fun _ _ fs => (fs, {})),
  ("false", fun _ _ fs => (fs, { status := 1 })),
  ("cat", fun args => reading "cat" (splitOptions args).2 (fun _ s => s) args),
  ("echo", echo), ("printf", printf), ("yes", yes), ("seq", seq), ("sleep", sleep),
  ("head", head), ("tail", tail), ("wc", wc), ("tr", tr),
  ("test", test), ("[", bracket),
  ("cp", cp), ("mv", mv), ("ln", ln), ("rm", rm), ("mkdir", mkdir), ("rmdir", rmdir),
  ("touch", touch), ("chmod", chmod), ("ls", ls), ("pwd", pwd),
  ("basename", basename), ("dirname", dirname)]

/-- The folders that the tools stand in. -/
def folders : List String := ["/bin", "/usr/bin"]

/-- The name of the tool that a program's name or path stands for. -/
def nameOf (program : String) : String :=
  match folders.find? fun f => (f ++ "/").toList.isPrefixOf program.toList with
  | some f => String.ofList (program.toList.drop (f.length + 1))
  | none => program

/-- The tool that a program's name or path stands for. -/
def named? (program : String) : Option Tool :=
  all.lookup (nameOf program)

end Tool

end CoreTrial.Shell
