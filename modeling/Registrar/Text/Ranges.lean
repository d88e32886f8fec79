/-
Character classes are given as ranges of code points. A class is a list of ranges in rising
order, and `inRanges` looks a code point up in it.
-/
namespace Registrar.Text

/-- Whether `n` lies in one of the ranges; the ranges stand in rising order. -/
def inRanges : List (Nat × Nat) → Nat → Bool
  | [], _ => false
  | (lo, hi) :: rest, n => if n < lo then false else if n ≤ hi then true else inRanges rest n

end Registrar.Text
