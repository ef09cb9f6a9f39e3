import SqlSurvey.FileNames
import SqlSurvey.LetterCase
import SqlSurvey.TextPieces

/-! # Paths

A path is a root and the names behind it. Writing a path out drops the parts that mean nothing: empty ones
and single points. Two points stay, because a link may stand before them. -/
namespace SqlSurvey

/-- Where a path starts. Exactly two slashes are a root of their own. -/
inductive PathRoot where
  | here
  | slash
  | doubleSlash
deriving DecidableEq

structure Path where
  root : PathRoot
  parts : List Text
deriving DecidableEq

namespace PathRoot

def text : PathRoot → Text
  | here => []
  | slash => [.char '/']
  | doubleSlash => [.char '/', .char '/']

end PathRoot

namespace Path

def slash : CodePoint := .char '/'

/-- The single point, which names the directory itself. -/
def point : Text := [.char '.']

/-- The two points, which name the directory above. -/
def twoPoints : Text := [.char '.', .char '.']

def namesIn (text : Text) : List Text :=
  (Text.splitOn slash text).filter fun name => !name.isEmpty && name != point

/-- The steps that a text asks for: its names, single points included, and an empty step at the end where a slash
follows the last name. -/
def stepsIn (text : Text) : List Text :=
  let names := (Text.splitOn slash text).filter fun name => !name.isEmpty
  let steps := names.map Text.asFileName
  if names.isEmpty || text.getLast? != some slash then steps else steps ++ [[]]

def rootOf (text : Text) : PathRoot :=
  match (text.takeWhile (· == slash)).length with
  | 0 => .here
  | 2 => .doubleSlash
  | _ => .slash

def ofText (text : Text) : Path := ⟨rootOf text, namesIn text⟩

/-- The path continued by a text; a text that has a root of its own takes its place. -/
def extend (path : Path) (text : Text) : Path :=
  if rootOf text = .here then { path with parts := path.parts ++ namesIn text } else ofText text

/-- The path as written; the directory itself is a point. -/
def toText (path : Path) : Text :=
  if path.root = .here ∧ path.parts = [] then point
  else path.root.text ++ Text.joinWith [slash] path.parts

def name (path : Path) : Text := path.parts.getLastD []

def parent (path : Path) : Path := { path with parts := path.parts.dropLast }

def child (path : Path) (name : Text) : Path := { path with parts := path.parts ++ [name] }

/-- The ending of the last name from its last point on, unless that point is its first or last character. -/
def suffix (path : Path) : Text :=
  let ending := (path.name.reverse.takeWhile (· != .char '.')).reverse
  if ending.isEmpty || path.name.length ≤ ending.length + 1 then [] else .char '.' :: ending

/-- What is compared to order paths: the root, if there is one, and the names. -/
def key (path : Path) : List Text :=
  if path.root = .here then path.parts else path.root.text :: path.parts

def leNames : List Text → List Text → Bool
  | [], _ => true
  | _ :: _, [] => false
  | a :: s, b :: t => if a = b then leNames s t else Text.le a b

def le (p q : Path) : Bool := leNames p.key q.key

/-- Why the file system cannot be asked for the path. -/
def fault? (path : Path) : Option NameFault := path.toText.nameFault?

def steps (path : Path) : List Text := path.parts.map Text.asFileName

end Path
end SqlSurvey
