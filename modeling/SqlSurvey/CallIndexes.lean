import SqlSurvey.SurveyFindings

/-! # The index of call sites

Call sites of many files, gathered under their names. A bucket keeps its sites in the order in which they
came, and the buckets stand in the order in which their names first came. -/
namespace SqlSurvey

/-- The call sites of one name; there is always a first. -/
structure Bucket where
  name : Text
  first : CallSite
  others : List CallSite
deriving DecidableEq

namespace Bucket

def sites (bucket : Bucket) : List CallSite := bucket.first :: bucket.others

def total (bucket : Bucket) : Nat := bucket.sites.length

theorem one_le_total (bucket : Bucket) : 1 ≤ bucket.total := by simp [total, sites]

/-- Whether a bucket comes before another in the ranking: more sites first, then the smaller name. -/
def ranksBefore (a b : Bucket) : Bool :=
  b.total < a.total || (a.total == b.total && Text.le a.name b.name)

end Bucket

structure CallIndex where
  buckets : List Bucket := []
deriving DecidableEq

structure RankedCall where
  name : Text
  total : Positive
  examples : List CallSite
  remaining : Nat
deriving DecidableEq

namespace CallIndex

def empty : CallIndex := {}

/-- A call site goes to the end of its bucket, or into a new bucket behind the others. -/
def addTo (site : CallSite) : List Bucket → List Bucket
  | [] => [⟨site.name, site, []⟩]
  | bucket :: buckets =>
    if bucket.name = site.name then { bucket with others := bucket.others ++ [site] } :: buckets
    else bucket :: addTo site buckets

def add (index : CallIndex) (site : CallSite) : CallIndex := ⟨addTo site index.buckets⟩

def merge (index : CallIndex) (sites : List CallSite) : CallIndex := sites.foldl add index

def mergeFindings (index : CallIndex) (findings : FileFindings) : CallIndex := index.merge findings.callSites

/-- All sites of another index, bucket by bucket, behind those already there. -/
def combine (index other : CallIndex) : CallIndex :=
  other.buckets.foldl (fun index bucket => index.merge bucket.sites) index

def size (index : CallIndex) : Nat := index.buckets.length

def totalCalls (index : CallIndex) : Nat := index.buckets.foldr (fun bucket n => bucket.total + n) 0

def contains (index : CallIndex) (name : Text) : Bool := index.buckets.any fun bucket => bucket.name == name

def rankBucket (examples : Int) (bucket : Bucket) : RankedCall where
  name := bucket.name
  total := ⟨bucket.total, bucket.one_le_total⟩
  examples := sliceTo bucket.sites examples
  remaining := ((bucket.total : Int) - examples).toNat

def ranking (index : CallIndex) (limit examples : Int) : List RankedCall :=
  (sliceTo (index.buckets.mergeSort Bucket.ranksBefore) limit).map (rankBucket examples)

end CallIndex

namespace RankedCall

def read (fields : Fields) : Checked RankedCall := do
  let (name, total, examples, remaining) ←
    Checked.both (fields.required "name" Value.readText) <|
    Checked.both (fields.required "total" Value.readPositive) <|
    Checked.both (fields.optional "examples" (.ok [])
      (Value.readItems .notList (Value.readRecord "CallSite" CallSite.read))) <|
    fields.optional "remaining" (.ok 0) (Value.readAtLeast 0)
  return ⟨name, total, examples, remaining⟩

def toValue (ranked : RankedCall) : Value :=
  .record [("name", .text ranked.name), ("total", .int ranked.total.val),
    ("examples", .list (ranked.examples.map CallSite.toValue)), ("remaining", .int ranked.remaining)]

end RankedCall
end SqlSurvey
