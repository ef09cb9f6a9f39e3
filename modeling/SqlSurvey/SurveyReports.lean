import SqlSurvey.CallIndexes
import SqlSurvey.FileSummaries

/-! # The report of a survey -/
namespace SqlSurvey

structure SurveyReport where
  root : Text
  files : List FileSummary
  ranking : List RankedCall
  totalCalls : Nat
  cancelled : Bool
deriving DecidableEq

namespace SurveyReport

def read (fields : Fields) : Checked SurveyReport := do
  let (root, files, ranking, totalCalls, cancelled) ←
    Checked.both (fields.required "root" Value.readText) <|
    Checked.both (fields.optional "files" (.ok [])
      (Value.readItems .notList (Value.readRecord "FileReport" FileSummary.read))) <|
    Checked.both (fields.optional "ranking" (.ok [])
      (Value.readItems .notList (Value.readRecord "RankedCall" RankedCall.read))) <|
    Checked.both (fields.optional "total_calls" (.ok 0) (Value.readAtLeast 0)) <|
    fields.optional "cancelled" (.ok false) Value.readBool
  return ⟨root, files, ranking, totalCalls, cancelled⟩

def toValue (report : SurveyReport) : Value :=
  .record [("root", .text report.root), ("files", .list (report.files.map FileSummary.toValue)),
    ("ranking", .list (report.ranking.map RankedCall.toValue)), ("total_calls", .int report.totalCalls),
    ("cancelled", .bool report.cancelled)]

end SurveyReport
end SqlSurvey
