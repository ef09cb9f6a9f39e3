import SqlSurvey.DataValues
import SqlSurvey.DigitTexts

/-! # Values as JSON text

A value is written as a sequence of chunks, in the order in which they reach a file: a chunk that cannot be
written is lost with all later ones, and none before. Every list item and every field stands on a line of its own,
whatever the indentation. -/
namespace SqlSurvey.Json

/-- A piece of a document: a text, or a number behind a text. -/
inductive Chunk where
  | text (t : Text)
  | number (lead : Text) (n : Int)

namespace Chunk

def after (lead : Text) : Chunk → Chunk
  | text t => text (lead ++ t)
  | number front n => number (lead ++ front) n

def toText : Chunk → Text
  | text t => t
  | number lead n => lead ++ Text.ofInt n

end Chunk

def escapeCharacter (c : CodePoint) : Text :=
  match c with
  | .char '"' => Text.ofString "\\\""
  | .char '\\' => Text.ofString "\\\\"
  | .char '\n' => Text.ofString "\\n"
  | .char '\r' => Text.ofString "\\r"
  | .char '\t' => Text.ofString "\\t"
  | .char '\x08' => Text.ofString "\\b"
  | .char '\x0c' => Text.ofString "\\f"
  | c => if c.toNat < 0x20 then Text.ofString "\\u" ++ Text.ofHex 4 c.toNat else [c]

def string (text : Text) : Text := .char '"' :: text.flatMap escapeCharacter ++ [.char '"']

/-- A line break and the indentation of a level. -/
def lineBreak (indent level : Nat) : Text :=
  .char '\n' :: List.replicate (indent * level) (.char ' ')

/-- The chunks of a value after the text that leads to it: a scalar shares its chunk with that text. -/
def withLead (lead : Text) (value : Value) (chunks : List Chunk) : List Chunk :=
  if value.isScalar then chunks.map (Chunk.after lead) else .text lead :: chunks

mutual
def chunks (indent level : Nat) : Value → List Chunk
  | .null => [.text (Text.ofString "null")]
  | .bool true => [.text (Text.ofString "true")]
  | .bool false => [.text (Text.ofString "false")]
  | .int n => [.number [] n]
  | .decimal mantissa exponent => [.text (Text.ofInt mantissa ++ .char 'e' :: Text.ofInt exponent)]
  | .text t => [.text (string t)]
  | .list [] => [.text (Text.ofString "[]")]
  | .list items =>
    itemChunks indent (level + 1) (.char '[' :: lineBreak indent (level + 1)) items ++
      [.text (lineBreak indent level), .text [.char ']']]
  | .record [] => [.text (Text.ofString "\x7b\x7d")]
  | .record fields =>
    .text [.char '\x7b'] ::
      fieldChunks indent (level + 1) (lineBreak indent (level + 1)) fields ++
      [.text (lineBreak indent level), .text [.char '\x7d']]
termination_by structural value => value

/-- The chunks of the items of a list, the first one after `lead`. -/
def itemChunks (indent level : Nat) (lead : Text) : List Value → List Chunk
  | [] => []
  | item :: items =>
    withLead lead item (chunks indent level item) ++
      itemChunks indent level (.char ',' :: lineBreak indent level) items
termination_by structural items => items

def fieldChunks (indent level : Nat) (lead : Text) : List (Text × Value) → List Chunk
  | [] => []
  | field :: fields =>
    .text lead :: nameAndValueChunks indent level field ++
      fieldChunks indent level (.char ',' :: lineBreak indent level) fields
termination_by structural fields => fields

def nameAndValueChunks (indent level : Nat) : Text × Value → List Chunk
  | (name, value) => .text (string name) :: .text (Text.ofString ": ") :: chunks indent level value
termination_by structural field => field
end

/-- The whole text of a document; a negative indentation is none. -/
def render (indent : Int) (value : Value) : Text := (chunks indent.toNat 0 value).flatMap Chunk.toText

/-- Whether an indentation is a machine integer. -/
def isIndent (indent : Int) : Bool := -0x8000000000000000 ≤ indent && indent < 0x8000000000000000

/-- The chunks of a document, for an indentation that a machine can count. -/
def documentChunks? (indent : Int) (value : Value) : Option (List Chunk) :=
  if isIndent indent then some (chunks indent.toNat 0 value) else none

end SqlSurvey.Json
