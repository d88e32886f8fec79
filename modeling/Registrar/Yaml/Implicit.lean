/-
What a scalar without a tag and without quotes is: its text tells. The shapes are those of version
1.1 of the format: `yes` and `off` are truth values, `017` is octal, and `1:30` counts in sixties.
-/
import Registrar.Yaml.Node

namespace Registrar.Yaml

/-- The text without one sign in front. -/
def dropSign : List Char → List Char
  | '+' :: rest => rest
  | '-' :: rest => rest
  | cs => cs

/-- A digit or an underscore. -/
def isNumeral (c : Char) : Bool :=
  c.isDigit || c == '_'

/-- Digits and underscores, a digit first. -/
def isGroupedDigits : List Char → Bool
  | [] => false
  | c :: rest => c.isDigit && rest.all isNumeral

/-- One digit or two, of which the first is below six. -/
def isSixtieth : List Char → Bool
  | [d] => d.isDigit
  | [c, d] => c.isDigit && c < '6' && d.isDigit
  | _ => false

/-- The texts between colons. -/
def betweenColons (cs : List Char) : List (List Char) :=
  cs.splitOn ':'

/-- The text up to the first point, and what is behind it. -/
def atPoint (cs : List Char) : Option (List Char × List Char) :=
  match cs.span (· ≠ '.') with
  | (whole, _ :: fraction) => some (whole, fraction)
  | (_, []) => none

def isTruth (s : String) : Bool :=
  ["yes", "Yes", "YES", "no", "No", "NO", "true", "True", "TRUE", "false", "False", "FALSE", "on",
    "On", "ON", "off", "Off", "OFF"].contains s

def isNull (s : String) : Bool :=
  ["", "~", "null", "Null", "NULL"].contains s

/-- Whether a text is a whole number: binary, octal, decimal, hexadecimal or in sixties. -/
def isInt (cs : List Char) : Bool :=
  match dropSign cs with
  | [] => false
  | ['0'] => true
  | '0' :: 'b' :: digits => !digits.isEmpty && digits.all fun c => c == '0' || c == '1' || c == '_'
  | '0' :: 'x' :: digits => !digits.isEmpty && digits.all fun c =>
      isNumeral c || ('a' ≤ c && c ≤ 'f') || ('A' ≤ c && c ≤ 'F')
  | '0' :: digits => digits.all fun c => isNumeral c && c != '8' && c != '9'
  | digits =>
    match betweenColons digits with
    | first :: rest => isGroupedDigits first && rest.all isSixtieth
    | [] => false

/-- An exponent with its sign, or nothing. -/
def isExponent : List Char → Bool
  | [] => true
  | c :: sign :: digits =>
    (c == 'e' || c == 'E') && (sign == '+' || sign == '-') && !digits.isEmpty &&
      digits.all Char.isDigit
  | _ => false

/-- Whether a text is a number with a point, an infinity or no number. -/
def isFloat (cs : List Char) : Bool :=
  [".inf", ".Inf", ".INF"].contains (String.ofList (dropSign cs)) ||
    [".nan", ".NaN", ".NAN"].contains (String.ofList cs) ||
    match atPoint cs with
    | none => false
    | some (whole, fraction) =>
      let behind := fraction.dropWhile isNumeral
      if whole.isEmpty then fraction.head?.any Char.isDigit && isExponent behind
      else match betweenColons (dropSign whole) with
        | [digits] => isGroupedDigits digits && isExponent behind
        | digits :: rest => isGroupedDigits digits && rest.all isSixtieth && behind.isEmpty
        | [] => false

/-! ## Moments -/

/-- The digits in front, at most `most` of them, when there are at least `least`, and what is
behind. -/
def digits? (least most : Nat) (cs : List Char) : Option (Nat × List Char) :=
  let digits := (cs.take most).takeWhile Char.isDigit
  if digits.length < least then none
  else some (Nat.ofDigitChars 10 digits 0, cs.drop digits.length)

/-- What is behind the character `x`. -/
def past? (x : Char) : List Char → Option (List Char)
  | c :: rest => if c = x then some rest else none
  | [] => none

/-- A date, and a time of day with the distance of its zone from universal time. -/
structure Moment where
  year : Nat
  month : Nat
  day : Nat
  time : Option (Nat × Nat × Nat)
  /-- In minutes. -/
  offset : Int
  deriving DecidableEq, Repr

/-- A space or a tab. -/
def isTimeGap (c : Char) : Bool :=
  c == ' ' || c == '\t'

/-- The zone at the end of a time, in minutes. -/
def zone? (cs : List Char) : Option Int :=
  match cs.dropWhile isTimeGap with
  | [] => if cs.isEmpty then some 0 else none
  | ['Z'] => some 0
  | sign :: rest => do
    if sign ≠ '+' && sign ≠ '-' then none
    let (hours, rest) ← digits? 1 2 rest
    let (minutes, rest) ← match past? ':' rest with
      | some rest => digits? 2 2 rest
      | none => pure (0, rest)
    if !rest.isEmpty then none
    return (if sign = '-' then -1 else 1) * ((hours * 60 + minutes : Nat) : Int)

/-- The time behind a date: a `T` or gaps, hours, minutes, seconds, a fraction and a zone. -/
def time? (cs : List Char) : Option ((Nat × Nat × Nat) × Int) := do
  let rest ← match cs with
    | 'T' :: rest | 't' :: rest => some rest
    | c :: rest => if isTimeGap c then some (rest.dropWhile isTimeGap) else none
    | [] => none
  let (hour, rest) ← digits? 1 2 rest
  let (minute, rest) ← digits? 2 2 (← past? ':' rest)
  let (second, rest) ← digits? 2 2 (← past? ':' rest)
  let rest := match past? '.' rest with
    | some rest => rest.dropWhile Char.isDigit
    | none => rest
  return ((hour, minute, second), ← zone? rest)

/-- A date with months and days of one digit or two, and perhaps a time. -/
def Moment.read? (cs : List Char) : Option Moment := do
  let (year, rest) ← digits? 4 4 cs
  let (month, rest) ← digits? 1 2 (← past? '-' rest)
  let (day, rest) ← digits? 1 2 (← past? '-' rest)
  if rest.isEmpty then return ⟨year, month, day, none, 0⟩
  let (time, offset) ← time? rest
  return ⟨year, month, day, some time, offset⟩

/-- Whether a text is a moment; a date alone has two digits in each of its parts. -/
def isMoment (cs : List Char) : Bool :=
  match Moment.read? cs with
  | some m => m.time.isSome || cs.length == 10
  | none => false

/-! ## Tags -/

/-- The tag of a scalar whose text has no line feed at its end. -/
def tagOfLine (s : String) : Tag :=
  let cs := s.toList
  if isTruth s then .truth
  else if isNull s then .null
  else if isFloat cs then .float
  else if isInt cs then .int
  else if isMoment cs then .moment
  else if s == "<<" then .merge
  else if s == "=" then .value
  else .text

/-- The tag that the text of a scalar implies; one line feed at its end does not count, unless there
is nothing else. -/
def Tag.ofText (s : String) : Tag :=
  match s.toList.reverse with
  | '\n' :: c :: rest => tagOfLine (String.ofList (c :: rest).reverse)
  | ['\n'] => .text
  | _ => tagOfLine s

end Registrar.Yaml
