import CoreTrial.CommandLine.Request
import CoreTrial.Json.Writer
import CoreTrial.Lock
import CoreTrial.Pipeline.Error
import CoreTrial.Text.Grid
import CoreTrial.Yaml

/-!
# What the program prints

The texts and tables that answer a request, and the errors in place of an answer.
-/

set_option autoImplicit false

namespace CoreTrial.CommandLine

/-- Why a request has no answer. -/
inductive CommandError where
  /-- The settings do not fit the request. -/
  | settings (text : String)
  | input (text : String)
  | program (cause : ProgramError)
  | patch (cause : PatchError)
  | run (failure : RunFailure)
  | tool (cause : ToolError)
  | lock (cause : LockError)
  | score (cause : NonPositiveElapsed)
  | io (cause : IoError)

/-- The text of the error. -/
def CommandError.message : CommandError → String
  | .settings text => "Configuration error: " ++ text
  | .input text => "Invalid input: " ++ text
  | .program cause => cause.message
  | .patch cause => cause.message
  | .run failure => failure.message
  | .tool cause => cause.message
  | .lock cause => cause.message
  | .score cause => cause.message
  | .io cause => "IO error: " ++ cause.message

/-- What a request prints, and the error that it may end in. -/
structure Answer where
  text : String
  error : Option CommandError

namespace Answer

/-- A text without an error. -/
def ok (text : String) : Answer := ⟨text, none⟩

/-- An error without a text. -/
def failed (e : CommandError) : Answer := ⟨"", some e⟩

end Answer

/-- A line. -/
def line (s : String) : String := s ++ "\n"

/-- Something was done. -/
def successLine (s : String) : String := line ("✓ " ++ s)

/-- Something should be known. -/
def warningLine (s : String) : String := line ("⚠ " ++ s)

/-- Something may be of interest. -/
def noteLine (s : String) : String := line ("ℹ " ++ s)

/-- An error. -/
def errorLine (s : String) : String := line ("✗ " ++ s)

/-- A record in a format; a table stands for the format of a record that has no other. -/
def recordText (format : OutputFormat) (record : Json) : String :=
  match format with
  | .yaml => Yaml.document record
  | .table | .json => line record.pretty

/-- A report of a design in a format. Its case is a tag where the format has tags. -/
def analysisText (format : OutputFormat) (r : AnalysisReport) : String :=
  match format, r.toJson with
  | .yaml, .object [(case, record)] => Yaml.taggedDocument case record
  | format, record => recordText format record

/-- How a stage ended, in a word. -/
def statusWord : StageStatus → String
  | .succeeded => "ok"
  | .warned => "warn"
  | .failed => "failed"

/-- The stages of a run as a table, each with the first line of its detail. -/
def stageTable (stages : List StageOutcome) : String :=
  if stages.isEmpty then line "No stages recorded"
  else
    let rows := stages.map fun o => [o.stage.name, statusWord o.status, Text.firstLine o.detail]
    (Text.gridLines (["Stage", "Status", "Detail"] :: rows)).foldl (fun s l => s ++ line l) ""

/-- A line between parts. -/
def rule : String := String.ofList (List.replicate 42 '=')

/-- A completed run: its stages, its score, and what the score is made of. -/
def runTable (r : CompletedRun) : String :=
  let s := r.score
  let percent := toString s.utilizationPercent.toNat ++ "%"
  stageTable r.stages ++ line "" ++ line rule
    ++ line ("DESIGN SCORE: " ++ s.value.toFixed 2) ++ line rule
    ++ line "Metrics:"
    ++ line ("  - Time: " ++ s.elapsedSeconds.toFixed 4 ++ "s")
    ++ line ("  - Space (" ++ s.resourceKey ++ "): " ++ percent)
    ++ (if s.defaulted then
        warningLine (s.resourceKey ++ " not found in utilization report, scored as " ++ percent)
      else "")
    ++ line rule

/-- A completed run in a format. -/
def runText (format : OutputFormat) (r : CompletedRun) : String :=
  match format with
  | .table => runTable r
  | format => recordText format r.toJson

/-- A score in a format. -/
def scoreText (format : OutputFormat) (s : Score) : String :=
  match format with
  | .table =>
    line (s.value.toFixed 2) ++
      if s.defaulted then
        warningLine (s.resourceKey ++ " not in report, assumed "
          ++ toString s.utilizationPercent.toNat ++ "%")
      else ""
  | format => recordText format s.toJson

/-- A program in a format. -/
def programText (format : OutputFormat) (options : EncodeOptions) (p : Program) : String :=
  let entries := Encoding.entries options p
  match format with
  | .table => entries.foldl (fun s e => s ++ line e) ""
  | format => recordText format (.object [
      ("name", .string p.name),
      ("format", options.format.toJson),
      ("entries", .array (entries.map .string))])

end CoreTrial.CommandLine
