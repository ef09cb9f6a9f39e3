import SqlSurvey.SurveyReports

/-! # Reports on a terminal

The messages in which a report is shown, in their order. A message may begin with a line break of its own. -/
namespace SqlSurvey

def CallTally.listing (tally : CallTally) : Text :=
  Text.ofString "  - " ++ tally.name ++ Text.ofString ": " ++ Text.ofNat tally.count.val ++
    Text.ofString " calls"

/-- A query: where it is, its beginning, and what is remarkable about it. -/
def QueryEntry.listing (query : QueryEntry) : List Text :=
  [Text.ofString "\n  Line " ++ Text.ofNat query.line.val ++ Text.ofString " - " ++ query.tag ++ [.char ':'],
    Text.ofString "    " ++ query.preview] ++
  (if query.mentionsExec then [Text.ofString "    ! Contains EXEC/EXECUTE"] else []) ++
  query.storedProcedure.toList.map fun procedure => Text.ofString "    * Stored procedure: " ++ procedure

/-- A heading before messages, neither of which is shown where there is nothing to say. -/
def headed (heading : String) (messages : List Text) : List Text :=
  if messages.isEmpty then [] else Text.ofString heading :: messages

def FileSummary.listing (summary : FileSummary) : List Text :=
  [Text.ofString "\n--- File: " ++ summary.fileName ++ Text.ofString " ---"] ++
  headed "\nDependencies:" (summary.dependencies.map fun dependency => Text.ofString "  - " ++ dependency) ++
  [Text.ofString "\nCalls in this file: " ++ Text.ofNat summary.callCount] ++
  summary.topCalls.map CallTally.listing ++
  headed "\nSQL calls:" (summary.queries.flatMap QueryEntry.listing)

def RankedCall.listing (call : RankedCall) : List Text :=
  [Text.ofString "\n" ++ call.name ++ Text.ofString " - called " ++ Text.ofNat call.total.val ++
    Text.ofString " times:"] ++
  (call.examples.map fun site =>
    Text.ofString "  - " ++ site.fileName ++ [.char ':'] ++ Text.ofNat site.line.val) ++
  if call.remaining = 0 then []
  else [Text.ofString "  ... and " ++ Text.ofNat call.remaining ++ Text.ofString " more"]

namespace SurveyReport

def filesListing (report : SurveyReport) : List Text := report.files.flatMap FileSummary.listing

def rankingListing (report : SurveyReport) : List Text :=
  Text.ofString "\n=== CALL SUMMARY ===" :: report.ranking.flatMap RankedCall.listing

def totals (report : SurveyReport) : Text :=
  Text.ofString "\n" ++ Text.ofNat report.totalCalls ++ Text.ofString " calls in " ++
    Text.ofNat report.files.length ++ Text.ofString " files"

end SurveyReport
end SqlSurvey
