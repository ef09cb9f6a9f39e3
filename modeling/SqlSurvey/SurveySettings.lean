import SqlSurvey.FieldChecks
import SqlSurvey.TextSets

/-! # Settings of a survey

What counts as a query, how much of it is shown, and which files are read. Two settings that are not given
are taken from the environment at the time the settings are made. -/
namespace SqlSurvey

structure Environment where
  extension : Option Text := none
  workers : Option Text := none

structure Settings where
  executionFragments : List Text
  commandTextMarker : Text
  commandTypeMarkers : List Text
  impliedDependency : Text
  fileTopCalls : Nat
  globalTopCalls : Nat
  globalExamples : Nat
  previewLength : Nat
  fileExtension : Text
  excludedDirectories : TextSet
  workers : Nat

namespace Settings

def defaultFragments : List Text :=
  ["ExecuteReader", "ExecuteNonQuery", "ExecuteScalar", "Execute", "ExecuteQuery"].map Text.ofString

def defaultTypeMarkers : List Text := ["SqlCommand", "OleDbCommand"].map Text.ofString

def defaultGlobalTopCalls : Nat := 20

def usual : Settings where
  executionFragments := defaultFragments
  commandTextMarker := Text.ofString "CommandText"
  commandTypeMarkers := defaultTypeMarkers
  impliedDependency := Text.ofString "System.Data.SqlClient"
  fileTopCalls := 5
  globalTopCalls := defaultGlobalTopCalls
  globalExamples := 5
  previewLength := 100
  fileExtension := Text.ofString ".cs"
  excludedDirectories := TextSet.ofList []
  workers := 1

def environmentWorkers (environment : Environment) : Text := environment.workers.getD (Text.ofNat usual.workers)

private def tuple : Value → Checked (List Text) := Value.readItems .notTuple Value.readText

private def atLeastOr (fields : Fields) (name : Text) (bound default : Nat) : Checked Nat :=
  fields.optional name (.ok default) (Value.readAtLeast bound)

/-- Reads settings, with the usual values for what is absent. -/
def read (environment : Environment) (fields : Fields) : Checked Settings := do
  let (fragments, textMarker, typeMarkers, implied, fileTop, globalTop, examples, preview, extension, excluded,
      workers) ←
    Checked.both (fields.optional "execution_fragments" (.ok usual.executionFragments) tuple) <|
    Checked.both (fields.optional "command_text_marker" (.ok usual.commandTextMarker) Value.readText) <|
    Checked.both (fields.optional "command_type_markers" (.ok usual.commandTypeMarkers) tuple) <|
    Checked.both (fields.optional "implied_dependency" (.ok usual.impliedDependency) Value.readText) <|
    Checked.both (atLeastOr fields "file_top_calls" 1 usual.fileTopCalls) <|
    Checked.both (atLeastOr fields "global_top_calls" 1 usual.globalTopCalls) <|
    Checked.both (atLeastOr fields "global_examples" 0 usual.globalExamples) <|
    Checked.both (atLeastOr fields "preview_length" 1 usual.previewLength) <|
    Checked.both (fields.optional "file_extension" (.ok (environment.extension.getD usual.fileExtension))
      Value.readText) <|
    Checked.both (fields.optional "exclude_dir_names" (.ok [])
      (Value.readItems .notFrozenSet Value.readText)) <|
    fields.optional "workers" (Value.readAtLeast 1 (.text (environmentWorkers environment)))
      (Value.readAtLeast 1)
  return {
    executionFragments := fragments
    commandTextMarker := textMarker
    commandTypeMarkers := typeMarkers
    impliedDependency := implied
    fileTopCalls := fileTop
    globalTopCalls := globalTop
    globalExamples := examples
    previewLength := preview
    fileExtension := extension
    excludedDirectories := TextSet.ofList excluded
    workers }

def toValue (settings : Settings) : Value :=
  .record [("execution_fragments", .list (settings.executionFragments.map .text)),
    ("command_text_marker", .text settings.commandTextMarker),
    ("command_type_markers", .list (settings.commandTypeMarkers.map .text)),
    ("implied_dependency", .text settings.impliedDependency),
    ("file_top_calls", .int settings.fileTopCalls),
    ("global_top_calls", .int settings.globalTopCalls),
    ("global_examples", .int settings.globalExamples),
    ("preview_length", .int settings.previewLength),
    ("file_extension", .text settings.fileExtension),
    ("exclude_dir_names", .list (settings.excludedDirectories.toList.map .text)),
    ("workers", .int settings.workers)]

end Settings
end SqlSurvey
