/-
The value that settings are read as, as far down as they are looked into. A part with another shape
than expected counts as absent; a number or a truth value counts as the text it is written as.
-/
import Registrar.Number.Binary64

namespace Registrar

inductive Value where
  | null
  | truth (b : Bool)
  | int (n : Int)
  | float (x : Binary64)
  | text (s : String)
  | bytes (bytes : List UInt8)
  | list (items : List Value)
  /-- The entries under keys that are texts; a key stands in front of others that are equal. -/
  | mapping (entries : List (String × Value))
  /-- A moment, a set, or anything else. -/
  | other (isEmpty : Bool)

/-- A whole number that has too many digits to be written. -/
structure TooLong where
  deriving DecidableEq, Repr

/-- How many digits a whole number in base ten may have to be read or written. -/
def mostDigits : Nat := 4300

namespace Value

/-- Whether a value counts as nothing at all. -/
def isBlank : Value → Bool
  | null => true
  | truth b => !b
  | int n => n = 0
  | float (.finite _ significand _) => significand = 0
  | float _ => false
  | text s => s.isEmpty
  | bytes bs => bs.isEmpty
  | list items => items.isEmpty
  | mapping entries => entries.isEmpty
  | other isEmpty => isEmpty

/-- The text of a value that is a text, a number or a truth value. -/
def text? : Value → Except TooLong (Option String)
  | text s => .ok (some s)
  | int n =>
    if mostDigits < (Nat.toDigits 10 n.natAbs).length then .error {}
    else .ok (some (toString n))
  | float x => .ok (some x.text)
  | truth b => .ok (some (if b then "True" else "False"))
  | _ => .ok none

/-- The texts of a value: its own one, or those of its items. -/
def texts : Value → Except TooLong (List String)
  | text s => .ok [s]
  | list items => do return (← items.mapM text?).filterMap id
  | bytes bs => .ok (bs.map fun b => toString b.toNat)
  | _ => .ok []

end Value

/-- The entries of a mapping. -/
abbrev Section := List (String × Value)

namespace Section

/-- Whether there is a value under a key. -/
def has (entries : Section) (key : String) : Bool :=
  (entries.lookup key).isSome

/-- The value under a key. -/
def under (entries : Section) (key : String) : Value :=
  (entries.lookup key).getD .null

/-- The entries under a key, none when there is no mapping. -/
def inner (entries : Section) (key : String) : Section :=
  match entries.under key with
  | .mapping entries => entries
  | _ => []

/-- The text under a key, when there is one that is not empty. -/
def text? (entries : Section) (key : String) : Except TooLong (Option String) := do
  return (← (entries.under key).text?).filter (!·.isEmpty)

/-- The texts under a key. -/
def texts (entries : Section) (key : String) : Except TooLong (List String) :=
  (entries.under key).texts

end Section

end Registrar
