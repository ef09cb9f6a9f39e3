import SqlSurvey.FilePaths

/-! # The log of a survey

What a survey may log, how important it is, which part of the program speaks, and in which words. -/
namespace SqlSurvey

inductive LogLevel where
  | debug
  | info
  | warning
  | error
deriving DecidableEq

namespace LogLevel

def name : LogLevel → String
  | debug => "DEBUG"
  | info => "INFO"
  | warning => "WARNING"
  | error => "ERROR"

def weight : LogLevel → Nat
  | debug => 10
  | info => 20
  | warning => 30
  | error => 40

def threshold? (name : Text) : Option Nat :=
  [("CRITICAL", 50), ("FATAL", 50), ("ERROR", 40), ("WARN", 30), ("WARNING", 30), ("INFO", 20), ("DEBUG", 10),
    ("NOTSET", 0)].findSome? fun (known, threshold) =>
      if Text.ofString known = name then some threshold else none

end LogLevel

inductive ReportFormat where
  | json
  | yaml
deriving DecidableEq

inductive LogEvent where
  | analyzing (files : Nat) (root : Path)
  | recoveredTree
  | scanned (file : Text) (calls dependencies texts : Nat)
  | ranking (names : Nat)
  | cancelled (files : Nat)
  | unreadable (file : Path)
  | unwritable (format : ReportFormat) (file : Path)
deriving DecidableEq

namespace LogEvent

def level : LogEvent → LogLevel
  | analyzing _ _ => .info
  | recoveredTree | scanned _ _ _ _ | ranking _ => .debug
  | cancelled _ => .warning
  | unreadable _ | unwritable _ _ => .error

def origin : LogEvent → String
  | analyzing _ _ | cancelled _ | unreadable _ => "query_scanner.pipeline"
  | recoveredTree => "query_scanner.services.parser.ts_parser"
  | scanned _ _ _ _ => "query_scanner.services.scanner"
  | ranking _ => "query_scanner.services.aggregator"
  | unwritable .json _ => "query_scanner.loaders.json_loader"
  | unwritable .yaml _ => "query_scanner.loaders.yaml_loader"

def message : LogEvent → Text
  | analyzing files root =>
    Text.ofString "Analyzing " ++ Text.ofNat files ++ Text.ofString " files under " ++ root.toText
  | recoveredTree => Text.ofString "tree-sitter reported syntax errors; scanning the recovered tree"
  | scanned file calls dependencies texts =>
    Text.ofString "Scanned " ++ file ++ Text.ofString ": " ++ Text.ofNat calls ++ Text.ofString " calls, " ++
      Text.ofNat dependencies ++ Text.ofString " dependencies, " ++ Text.ofNat texts ++
      Text.ofString " query texts"
  | ranking names => Text.ofString "Ranking " ++ Text.ofNat names ++ Text.ofString " call names"
  | cancelled files => Text.ofString "Analysis cancelled after " ++ Text.ofNat files ++ Text.ofString " files"
  | unreadable file => Text.ofString "Failed to read source file: " ++ file.toText
  | unwritable .json file => Text.ofString "Failed to write report JSON to " ++ file.toText
  | unwritable .yaml file => Text.ofString "Failed to write report YAML to " ++ file.toText

def line (event : LogEvent) : Text :=
  Text.ofString event.level.name ++ .char ' ' :: Text.ofString event.origin ++ Text.ofString ": " ++
    event.message ++ [.char '\n']

end LogEvent
end SqlSurvey
