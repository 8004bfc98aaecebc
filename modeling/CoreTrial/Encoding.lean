import CoreTrial.Program
import CoreTrial.Naming
import CoreTrial.Text.Lowercase

/-!
# Instructions as hardware literals

How an instruction is written into the source of a hardware design: an eight-digit literal of the
design's language and, on demand, the comment of the instruction as a block comment. The end of
a block comment inside the comment is broken up, so the block ends where it should.
-/

set_option autoImplicit false

namespace CoreTrial

/-- The language of the hardware design. -/
inductive EncodingFormat where
  | chisel
  | verilog
  deriving DecidableEq, Repr

namespace EncodingFormat

/-- All formats. -/
def all : List EncodingFormat := [.chisel, .verilog]

/-- The name of a format. -/
def name : EncodingFormat → String
  | .chisel => "chisel"
  | .verilog => "verilog"

/-- The format of a name, in any case. -/
def read (s : String) : Except UnknownName EncodingFormat :=
  let low := Text.lowercase s
  match named? all name low with
  | some f => .ok f
  | none => .error ⟨"encoding format", low⟩

/-- The record of a format. -/
def toJson (f : EncodingFormat) : Json := .string f.name

/-- Reads the record of a format. -/
def ofJson? : Json → Option EncodingFormat := Json.choice? (named? all name)

end EncodingFormat

/-- How instructions are written. -/
structure EncodeOptions where
  format : EncodingFormat := .chisel
  annotate : Bool := false
  deriving DecidableEq, Repr

namespace EncodeOptions

/-- The record of the options. -/
def toJson (o : EncodeOptions) : Json :=
  .object [("format", o.format.toJson), ("annotate", .bool o.annotate)]

/-- Reads the record of the options. -/
def ofJson? (j : Json) : Option EncodeOptions :=
  match Json.slots? ["format", "annotate"] j with
  | some [format, annotate] => do
    return ⟨← format.orDefault .chisel EncodingFormat.ofJson?,
      ← annotate.orDefault false Json.bool?⟩
  | _ => none

end EncodeOptions

namespace Encoding

/-- The literal of a word. -/
def literal (format : EncodingFormat) (w : UInt32) : List Char :=
  match format with
  | .chisel => "\"h".toList ++ Number.hexWord .upper w ++ "\".U(32.W)".toList
  | .verilog => "32'h".toList ++ Number.hexWord .upper w

/-- The text with a space put between every star and a slash after it. -/
def breakCommentEnds : List Char → List Char
  | '*' :: '/' :: rest => '*' :: ' ' :: '/' :: breakCommentEnds rest
  | c :: rest => c :: breakCommentEnds rest
  | [] => []

/-- A block comment. -/
def blockComment (comment : List Char) : List Char :=
  "/* ".toList ++ breakCommentEnds comment ++ " */".toList

/-- An instruction as an entry of a design: its literal and, on demand, its comment. -/
def entry (options : EncodeOptions) (i : Instruction) : String :=
  let lit := literal options.format i.word
  String.ofList <|
    if options.annotate && !i.comment.toList.isEmpty then
      lit ++ ' ' :: blockComment i.comment.toList
    else lit

/-- The entries of a program, in order. -/
def entries (options : EncodeOptions) (p : Program) : List String :=
  p.instructions.map (entry options)

end Encoding

end CoreTrial
