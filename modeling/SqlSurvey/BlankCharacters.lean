import SqlSurvey.CodePointRanges
import SqlSurvey.TextPieces

/-! # Blank characters

Two classes differ in the four information separators U+001C to U+001F: they are blank in a text, but they
are not white space around a number. -/
namespace SqlSurvey

def whiteSpace : CodePointRanges :=
  [(0x9, 0xD), (0x20, 0x20), (0x85, 0x85), (0xA0, 0xA0), (0x1680, 0x1680), (0x2000, 0x200A), (0x2028, 0x2029),
   (0x202F, 0x202F), (0x205F, 0x205F), (0x3000, 0x3000)]

def isWhiteSpace (c : CodePoint) : Bool := whiteSpace.has c

/-- White space, or one of the information separators. -/
def isBlank (c : CodePoint) : Bool := whiteSpace.has c || CodePointRanges.has [(0x1C, 0x1F)] c

def Text.isBlank (text : Text) : Bool := text.all SqlSurvey.isBlank

end SqlSurvey
