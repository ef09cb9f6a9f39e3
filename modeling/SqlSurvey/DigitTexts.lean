import SqlSurvey.CodePoints

/-! # Digits

Numbers spelled by decimal digits and by digits in base sixteen. -/
namespace SqlSurvey

/-- No integer has more decimal digits than this where it is read or written. -/
def maxDigits : Nat := 4300

def hasFewDigits (n : Int) : Bool := (Nat.toDigits 10 n.natAbs).length ≤ maxDigits

namespace CodePoint

def isDigit (c : CodePoint) : Bool := 0x30 ≤ c.toNat && c.toNat ≤ 0x39

def hexValue? (c : CodePoint) : Option Nat :=
  let n := c.toNat
  if 0x30 ≤ n ∧ n ≤ 0x39 then some (n - 0x30)
  else if 0x41 ≤ n ∧ n ≤ 0x46 then some (n - 0x41 + 10)
  else if 0x61 ≤ n ∧ n ≤ 0x66 then some (n - 0x61 + 10)
  else none

def isHex (c : CodePoint) : Bool := c.hexValue?.isSome

end CodePoint

namespace Text

def decimalNumber (digits : Text) : Nat := digits.foldl (fun n c => n * 10 + (c.toNat - 0x30)) 0

/-- The number that digits in base sixteen spell; any other character counts as zero. -/
def hexNumber (digits : Text) : Nat := digits.foldl (fun n c => n * 16 + c.hexValue?.getD 0) 0

/-- The number in base sixteen with small letters and at least `width` digits. -/
def ofHex (width n : Nat) : Text :=
  let digits := Nat.toDigits 16 n
  (List.replicate (width - digits.length) '0' ++ digits).map .char

end Text
end SqlSurvey
