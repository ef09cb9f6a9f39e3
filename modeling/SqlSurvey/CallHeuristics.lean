import SqlSurvey.SurveySettings
import SqlSurvey.TextPieces
import SqlSurvey.TreeNodes

/-! # What looks like a query

Names and types are judged by the fragments they contain, case and all. The judgement errs on the side of
too many: a name that contains a fragment anywhere counts. -/
namespace SqlSurvey

namespace Settings

def runsQuery (settings : Settings) (name : Text) : Bool :=
  settings.executionFragments.any (Text.hasInfix · name)

def setsCommandText (settings : Settings) (target : Text) : Bool :=
  Text.hasInfix settings.commandTextMarker target

def isCommandType (settings : Settings) (typeName : Text) : Bool :=
  settings.commandTypeMarkers.any (Text.hasInfix · typeName)

end Settings

/-- The name of a call: receiver and member with a point between, or the text of the callee. -/
def Node.callName (callee : Node) : Text :=
  match callee.shape with
  | .member receiver name => receiver.text ++ .char '.' :: name.text
  | _ => callee.text

end SqlSurvey
