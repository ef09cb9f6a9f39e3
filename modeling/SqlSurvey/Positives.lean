/-! # Positive numbers

The numbers that count from one: lines of a file, and how often a name is called. -/
namespace SqlSurvey

structure Positive where
  val : Nat
  one_le : 1 ≤ val
deriving DecidableEq

namespace Positive

def one : Positive := ⟨1, Nat.le_refl 1⟩

def succ (n : Positive) : Positive := ⟨n.val + 1, Nat.le_add_left 1 n.val⟩

@[simp] theorem val_one : one.val = 1 := rfl

@[simp] theorem val_succ (n : Positive) : n.succ.val = n.val + 1 := rfl

@[ext] theorem ext {n m : Positive} (equal : n.val = m.val) : n = m := by
  cases n
  cases m
  cases equal
  rfl

end Positive
end SqlSurvey
