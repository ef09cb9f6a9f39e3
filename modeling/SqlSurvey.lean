import SqlSurvey.BlankCharacters
import SqlSurvey.CallHeuristics
import SqlSurvey.CallIndexes
import SqlSurvey.CasedLetters
import SqlSurvey.CodePointRanges
import SqlSurvey.CodePoints
import SqlSurvey.CommandArguments
import SqlSurvey.CommandRequests
import SqlSurvey.CommandRuns
import SqlSurvey.ConcreteTrees
import SqlSurvey.ConstantTexts
import SqlSurvey.DataValues
import SqlSurvey.DigitTexts
import SqlSurvey.DirectorySnapshots
import SqlSurvey.FieldChecks
import SqlSurvey.FileChanges
import SqlSurvey.FileNames
import SqlSurvey.FilePaths
import SqlSurvey.FileScans
import SqlSurvey.FileSummaries
import SqlSurvey.FileSurveys
import SqlSurvey.FileTrees
import SqlSurvey.IntegerTexts
import SqlSurvey.JsonReading
import SqlSurvey.JsonWriting
import SqlSurvey.LetterCase
import SqlSurvey.LineTables
import SqlSurvey.LowercaseTable
import SqlSurvey.Main
import SqlSurvey.PathResolution
import SqlSurvey.Positives
import SqlSurvey.PrintableCharacters
import SqlSurvey.Proofs.CallHistories
import SqlSurvey.Proofs.CodePointOrder
import SqlSurvey.Proofs.CollectedFiles
import SqlSurvey.Proofs.CombinedIndexes
import SqlSurvey.Proofs.CommandEffects
import SqlSurvey.Proofs.ConcatenatedTexts
import SqlSurvey.Proofs.DocumentOrder
import SqlSurvey.Proofs.EncodedTexts
import SqlSurvey.Proofs.EscapeTokens
import SqlSurvey.Proofs.EscapedUnits
import SqlSurvey.Proofs.FileFrames
import SqlSurvey.Proofs.FileOutcomes
import SqlSurvey.Proofs.FittingTexts
import SqlSurvey.Proofs.JsonRoundTrip
import SqlSurvey.Proofs.KeptNodes
import SqlSurvey.Proofs.LeadingNames
import SqlSurvey.Proofs.LineBoundaries
import SqlSurvey.Proofs.LineCounts
import SqlSurvey.Proofs.ListedLookups
import SqlSurvey.Proofs.ListedPaths
import SqlSurvey.Proofs.PathResolution
import SqlSurvey.Proofs.PlacedTrees
import SqlSurvey.Proofs.PooledRuns
import SqlSurvey.Proofs.RawLayouts
import SqlSurvey.Proofs.RecursiveLowering
import SqlSurvey.Proofs.RelistedTrees
import SqlSurvey.Proofs.RelocatedScans
import SqlSurvey.Proofs.RelocatedTrees
import SqlSurvey.Proofs.ReportAgreement
import SqlSurvey.Proofs.ReportValues
import SqlSurvey.Proofs.RunEndings
import SqlSurvey.Proofs.RunOutcomes
import SqlSurvey.Proofs.ScanPasses
import SqlSurvey.Proofs.SearchEndings
import SqlSurvey.Proofs.WidenedSettings
import SqlSurvey.Proofs.WrittenLiterals
import SqlSurvey.Proofs.WrittenNumbers
import SqlSurvey.Proofs.YamlCharacters
import SqlSurvey.Proofs.YamlDocuments
import SqlSurvey.Proofs.YamlLiterals
import SqlSurvey.Proofs.YamlPlainTexts
import SqlSurvey.Proofs.YamlQuotes
import SqlSurvey.Proofs.YamlReading
import SqlSurvey.Proofs.YamlRoundTrip
import SqlSurvey.QuotedText
import SqlSurvey.ReportFiles
import SqlSurvey.ReportListings
import SqlSurvey.SourceFiles
import SqlSurvey.StringLiterals
import SqlSurvey.SurveyFindings
import SqlSurvey.SurveyLog
import SqlSurvey.SurveyReports
import SqlSurvey.SurveyRuns
import SqlSurvey.SurveySettings
import SqlSurvey.TerminalText
import SqlSurvey.TextPatterns
import SqlSurvey.TextPieces
import SqlSurvey.TextSets
import SqlSurvey.TreeLowering
import SqlSurvey.TreeNodes
import SqlSurvey.UppercaseTable
import SqlSurvey.Utf8Coding
import SqlSurvey.WorkerPools
import SqlSurvey.YamlScalars
import SqlSurvey.YamlWriting
