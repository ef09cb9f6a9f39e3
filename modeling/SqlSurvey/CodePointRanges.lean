import SqlSurvey.CodePoints

/-! # Classes of code points as ranges

A class of code points is a list of ranges, each given by its first and its last number. -/
namespace SqlSurvey

abbrev CodePointRanges := List (Nat × Nat)

def CodePointRanges.has (ranges : CodePointRanges) (c : CodePoint) : Bool :=
  ranges.any fun range => range.1 ≤ c.toNat && c.toNat ≤ range.2

end SqlSurvey
