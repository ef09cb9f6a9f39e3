import SqlSurvey.FileTrees
import SqlSurvey.JsonWriting
import SqlSurvey.SurveyLog
import SqlSurvey.SurveyReports
import SqlSurvey.YamlWriting

/-! # Report files

The form of a report file follows from the ending of its name. Writing makes the directories that are missing,
empties the file and writes chunk after chunk; a chunk that has no bytes, or a number with too many digits, ends the
writing and leaves the chunks before it in the file. -/
namespace SqlSurvey

namespace ReportFormat

/-- The form that the ending of a file name asks for. -/
def ofPath? (path : Path) : Option ReportFormat :=
  let ending := Text.toLower path.suffix
  if ending = Text.ofString ".yaml" ∨ ending = Text.ofString ".yml" then some .yaml
  else if ending = Text.ofString ".json" then some .json
  else none

/-- What is said of a name with another ending: the ending, or the whole name where there is none. -/
def unsupported (path : Path) : Text :=
  Text.ofString "Unsupported report format: " ++ if path.suffix.isEmpty then path.name else path.suffix

end ReportFormat

structure ReportWriter where
  format : ReportFormat
  indent : Int := 2

inductive WriteError where
  | file (error : FileError)
  | surrogates (run : Utf8.SurrogateRun)
  | digits
  | indent

def Json.Chunk.encode (chunk : Json.Chunk) : Except WriteError Bytes :=
  match chunk with
  | .text t => (Utf8.encode t).mapError .surrogates
  | .number lead n =>
    if hasFewDigits n then (Utf8.encode (lead ++ Text.ofInt n)).mapError .surrogates else .error .digits

namespace ReportWriter

/-- In YAML, query texts of several lines are literal blocks. -/
def yamlLayout (indent : Int) : Yaml.Layout := ⟨Yaml.stepOf indent, fun name => name == Text.ofString "text"⟩

/-- The chunks in which a report is written, if its writing can begin. -/
def chunks (writer : ReportWriter) (report : SurveyReport) : Except WriteError (List Json.Chunk) :=
  match writer.format with
  | .json => (Json.documentChunks? writer.indent report.toValue).elim (.error .indent) .ok
  | .yaml =>
    (Yaml.document? (yamlLayout writer.indent) report.toValue).elim (.error .digits) fun text => .ok [.text text]

/-- The bytes of the chunks up to the first that cannot be written. -/
def encodeChunks : List Json.Chunk → Bytes × Option WriteError
  | [] => ([], none)
  | chunk :: chunks =>
    match chunk.encode with
    | .ok bytes =>
      let (rest, error) := encodeChunks chunks
      (bytes ++ rest, error)
    | .error error => ([], some error)

/-- What a file holds after the writing of a report, and why it does not hold all of it. -/
def contents (writer : ReportWriter) (report : SurveyReport) : Bytes × Option WriteError :=
  match writer.chunks report with
  | .ok chunks => encodeChunks chunks
  | .error error => ([], some error)

structure Written where
  workspace : Workspace
  log : List LogEvent := []
  error : Option WriteError := none

def writeInto (writer : ReportWriter) (report : SurveyReport) (path : Path) (workspace : Workspace) : Written :=
  match workspace.openForWriting path with
  | .error (.name fault) => { workspace, error := some (.file (.name fault)) }
  | .error error => { workspace, log := [.unwritable writer.format path], error := some (.file error) }
  | .ok (opened, location) =>
    let (bytes, error) := writer.contents report
    { workspace := opened.put location (.file bytes), error }

def write (writer : ReportWriter) (report : SurveyReport) (path : Path) (workspace : Workspace) : Written :=
  match workspace.has path.parent with
  | .error error => { workspace, error := some (.file error) }
  | .ok true => writer.writeInto report path workspace
  | .ok false =>
    match workspace.makeDirectories path.parent with
    | (workspace, .error error) => { workspace, error := some (.file error) }
    | (workspace, .ok ()) => writer.writeInto report path workspace

end ReportWriter

namespace WriteError

def message : WriteError → Text
  | file error => error.message
  | surrogates run => run.message
  | digits =>
    Text.ofString "Exceeds the limit (" ++ Text.ofNat maxDigits ++
      Text.ofString " digits) for integer string conversion; " ++
      Text.ofString "use sys.set_int_max_str_digits() to increase the limit"
  | indent => Text.ofString "cannot fit 'int' into an index-sized integer"

end WriteError
end SqlSurvey
