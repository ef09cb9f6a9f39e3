import SqlSurvey.TextPieces

/-! # Arguments of the command line

The first argument names a command. After it, options and operands stand in any order. An option is written
with its name or its letter, and its value is attached or is the argument that follows, whatever that is. Two
dashes alone end the options. -/
namespace SqlSurvey

inductive Command where
  | scan
  | rank
deriving DecidableEq

def Command.ofText? (text : Text) : Option Command :=
  if text = Text.ofString "scan" then some .scan
  else if text = Text.ofString "rank" then some .rank
  else none

inductive CommandOption where
  | extension
  | workers
  | excludedDirectory
  | top
  | output
  | logLevel
deriving DecidableEq

namespace CommandOption

def all : List CommandOption := [extension, workers, excludedDirectory, top, output, logLevel]

def name : CommandOption → String
  | extension => "--extension"
  | workers => "--workers"
  | excludedDirectory => "--exclude-dir"
  | top => "--top"
  | output => "--output"
  | logLevel => "--log-level"

def letter? : CommandOption → Option Char
  | extension => some 'e'
  | workers => some 'w'
  | excludedDirectory => some 'x'
  | output => some 'o'
  | top | logLevel => none

/-- Only a scan writes a report to a file. -/
def servesFor (command : Command) : CommandOption → Bool
  | output => command = .scan
  | _ => true

def ofName? (command : Command) (text : Text) : Option CommandOption :=
  all.find? fun option => option.servesFor command && Text.ofString option.name == text

def ofLetter? (command : Command) (c : CodePoint) : Option CommandOption :=
  all.find? fun option => option.servesFor command && option.letter?.map CodePoint.char == some c

end CommandOption

structure CommandArguments where
  options : List (CommandOption × Text) := []
  operands : List Text := []

namespace CommandArguments

def endOfOptions : Text := [.char '-', .char '-']

/-- Arguments that begin with a dash and go on are options. -/
def isOption : Text → Bool
  | .char '-' :: _ :: _ => true
  | _ => false

/-- The text before the first equals sign, and the text after it if there is one. -/
def atEquals : Text → Text × Option Text
  | [] => ([], none)
  | c :: rest =>
    if c = .char '=' then ([], some rest)
    else
      let (name, value) := atEquals rest
      (c :: name, value)

/-- The option with a letter, with the text behind the letter as its value unless there is none. -/
def byLetter? (command : Command) (argument : Text) : Option (CommandOption × Option Text) :=
  match argument with
  | .char '-' :: c :: rest =>
    (CommandOption.ofLetter? command c).map fun option =>
      (option, if rest.isEmpty then none else some rest)
  | _ => none

/-- The option that an argument begins, with the value that is attached to it. -/
def optionOf? (command : Command) (argument : Text) : Option (CommandOption × Option Text) :=
  let (name, value) := atEquals argument
  match CommandOption.ofName? command name with
  | some option => some (option, value)
  | none => byLetter? command argument

/-- Reads the arguments of a command; an option that it does not have and a missing value are refused. -/
def read? (command : Command) : List Text → Option CommandArguments
  | [] => some {}
  | argument :: rest =>
    if argument = endOfOptions then some { operands := rest }
    else if isOption argument then
      match optionOf? command argument with
      | none => none
      | some (option, some value) =>
        (read? command rest).map fun read => { read with options := (option, value) :: read.options }
      | some (option, none) =>
        match rest with
        | [] => none
        | value :: rest =>
          (read? command rest).map fun read => { read with options := (option, value) :: read.options }
    else (read? command rest).map fun read => { read with operands := argument :: read.operands }

def readLine? : List Text → Option (Command × CommandArguments)
  | [] => none
  | first :: rest =>
    if first = endOfOptions then
      match rest with
      | [] => none
      | name :: rest => withCommand? name rest
    else withCommand? first rest
where
  withCommand? (name : Text) (rest : List Text) : Option (Command × CommandArguments) := do
    let command ← Command.ofText? name
    return (command, ← read? command rest)

/-- The options that are given, in the order in which each is first given. -/
def given (read : CommandArguments) : List CommandOption := (read.options.map Prod.fst).eraseDups

def values (read : CommandArguments) (option : CommandOption) : List Text :=
  (read.options.filter (·.1 = option)).map Prod.snd

/-- The last value of an option is the one that counts. -/
def lastValue (read : CommandArguments) (option : CommandOption) : Text := (read.values option).getLastD []

end CommandArguments
end SqlSurvey
