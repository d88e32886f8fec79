/-
The values of nodes. A scalar is read as its tag asks for, and what cannot be read so is a fault;
of a collection the value shows only that it is one, with the nodes inside of it.
-/
import Registrar.Number.Binary64
import Registrar.Text.Blank
import Registrar.Text.Digit
import Registrar.Text.LowerCase
import Registrar.Yaml.Implicit
import Registrar.Yaml.Scalar

namespace Registrar.Yaml

inductive Value where
  | null
  | truth (b : Bool)
  | int (n : Int)
  | float (x : Binary64)
  | text (s : String)
  | bytes (bytes : List UInt8)
  | moment
  | list (items : List Node)
  | mapping (entries : List (Node × Node))
  /-- A set or a list of pairs. -/
  | group (isEmpty : Bool)

/-! ## Numbers -/

def dropUnderscores (cs : List Char) : List Char :=
  cs.filter (· ≠ '_')

def trimBlanks (cs : List Char) : List Char :=
  Text.trimEnd (Text.trimStart cs)

/-- The letter that may stand behind a zero in front of digits of a base. -/
def baseLetter? : Nat → Option Char
  | 2 => some 'b'
  | 8 => some 'o'
  | 16 => some 'x'
  | _ => none

/-- The digits without a zero and the letter of their base in front. -/
def dropBase (base : Nat) : List Char → List Char
  | '0' :: c :: rest => if baseLetter? base == some c.toLower then rest else '0' :: c :: rest
  | cs => cs

/-- The number that digits of a base stand for, at least one of them. -/
def natural? (base : Nat) (cs : List Char) : Option Nat :=
  if cs.isEmpty then none
  else cs.foldl (fun acc c => do
    let d ← hexValue? c
    if d < base then return (← acc) * base + d else none) (some 0)

/-- A number of a base with a sign or without, blanks around it. -/
def integer? (base : Nat) (cs : List Char) : Option Int :=
  let cs := trimBlanks cs
  let size := (natural? base (dropBase base (dropSign cs))).map Int.ofNat
  if cs.head? == some '-' then size.map (- ·) else size

/-- A number of a base, in digits of any script; in base ten their number is limited. -/
def integer (base : Nat) (cs : List Char) : Except Fault Int :=
  let plain := cs.map Text.plainDigit
  let count := ((dropSign (trimBlanks plain)).takeWhile Char.isDigit).length
  if base = 10 && mostDigits < count then .error (.tooManyDigits count)
  else
    match integer? base plain with
    | some n => .ok n
    | none => .error (.notInteger base (String.ofList cs))

/-- Splits a number into whether it is negative and what is behind its sign. -/
def signed (cs : List Char) : Except Fault (Bool × List Char) :=
  match cs with
  | [] => .error .emptyNumber
  | c :: _ => .ok (c = '-', dropSign cs)

/-- The whole number that a text is. -/
def readInt (s : String) : Except Fault Int := do
  let (negative, cs) ← signed (dropUnderscores s.toList)
  let size ← match cs with
    | [] => .error .emptyNumber
    | ['0'] => pure 0
    | '0' :: 'b' :: digits => integer 2 digits
    | '0' :: 'x' :: digits => integer 16 digits
    | '0' :: _ => integer 8 cs
    | _ =>
      let parts ← (betweenColons cs).mapM (integer 10)
      pure (parts.foldl (· * 60 + ·) 0)
  return if negative then -size else size

/-- The exponent at the end of a number. -/
def exponent? : List Char → Option Int
  | [] => some 0
  | c :: digits =>
    if c = 'e' then
      let size := (natural? 10 (dropSign digits)).map Int.ofNat
      if digits.head? == some '-' then size.map (- ·) else size
    else none

/-- A number with a sign or without, a point or without, an exponent or without, in small letters
and with blanks around it. -/
def decimal? (cs : List Char) : Option Binary64 :=
  let cs := trimBlanks cs
  let negative := cs.head? == some '-'
  let cs := dropSign cs
  if cs == "inf".toList || cs == "infinity".toList then some (.infinite negative)
  else if cs == "nan".toList then some .nan
  else do
    let whole := cs.takeWhile Char.isDigit
    let behind := cs.drop whole.length
    let (fraction, behind) := match behind with
      | '.' :: rest => (rest.takeWhile Char.isDigit, rest.dropWhile Char.isDigit)
      | _ => ([], behind)
    let n ← natural? 10 (whole ++ fraction)
    return .ofDecimal negative n ((← exponent? behind) - fraction.length)

def decimal (cs : List Char) : Except Fault Binary64 :=
  match decimal? (cs.map Text.plainDigit) with
  | some x => .ok x
  | none => .error (.notFloat (String.ofList cs))

/-- The sum of parts that count in sixties, `unit` being what the first of them counts. -/
def sumOfSixties (unit : Nat) (sum : Binary64) : List Binary64 → Except Fault Binary64
  | [] => .ok sum
  | x :: rest =>
    match Binary64.nearest false unit 1 with
    | .finite negative s e =>
      sumOfSixties (unit * 60) (sum.add (x.mul (.finite negative s e))) rest
    | _ => .error .tooManyParts

/-- The number that a text is. -/
def readFloat (s : String) : Except Fault Binary64 := do
  let (negative, cs) ← signed (Text.lower (String.ofList (dropUnderscores s.toList))).toList
  let size ←
    if cs == ".inf".toList then pure (.infinite false)
    else if cs == ".nan".toList then pure .nan
    else if cs.contains ':' then
      let parts ← (betweenColons cs).mapM decimal
      sumOfSixties 1 (.finite false 0 0) parts.reverse
    else decimal cs
  return if negative then size.neg else size

/-! ## Other scalars -/

/-- The truth value that a text is. -/
def readTruth (s : String) : Except Fault Bool :=
  let small := Text.lower s
  if ["yes", "true", "on"].contains small then .ok true
  else if ["no", "false", "off"].contains small then .ok false
  else .error (.notTruth small)

def daysIn (year month : Nat) : Nat :=
  if month = 2 then
    if year % 4 = 0 && (year % 100 ≠ 0 || year % 400 = 0) then 29 else 28
  else if [4, 6, 9, 11].contains month then 30 else 31

/-- The first part of a moment that is out of its range. -/
def Moment.fault? (m : Moment) : Option Fault :=
  if 1440 ≤ m.offset.natAbs then some (.badOffset m.offset)
  else if m.year = 0 then some (.badYear m.year)
  else if m.month = 0 || 12 < m.month then some .badMonth
  else if m.day = 0 || daysIn m.year m.month < m.day then some .badDay
  else match m.time with
    | none => none
    | some (hour, minute, second) =>
      if 24 ≤ hour then some .badHour
      else if 60 ≤ minute then some .badMinute
      else if 60 ≤ second then some .badSecond
      else none

/-- Checks that a text is a moment; one line feed at its end does not count. -/
def readMoment (s : String) : Except Fault Unit :=
  let cs := s.toList
  let cs := if cs.getLast? == some '\n' then cs.dropLast else cs
  match Moment.read? cs with
  | none => .error .notMoment
  | some m => match m.fault? with
    | some fault => .error fault
    | none => .ok ()

/-- The six bits that a character stands for. -/
def sixBits? (c : Char) : Option Nat :=
  if c.isUpper then some (c.toNat - 'A'.toNat)
  else if c.isLower then some (c.toNat - 'a'.toNat + 26)
  else if c.isDigit then some (c.toNat - '0'.toNat + 52)
  else if c = '+' then some 62
  else if c = '/' then some 63
  else none

/-- The bytes of groups of four characters, of which `count` are read, giving the last bits as
`left`; `pads` signs of filling stand right before. Other characters do not count. -/
def bytesFrom (count left pads : Nat) : List Char → Option (List UInt8)
  | [] => if count = 0 then some [] else none
  | c :: rest =>
    if c = '=' then
      if 2 ≤ count && 4 ≤ count + pads + 1 then some []
      else bytesFrom count left (if 2 ≤ count then pads + 1 else pads) rest
    else match sixBits? c, count with
      | none, _ => bytesFrom count left pads rest
      | some bits, 0 => bytesFrom 1 bits 0 rest
      | some bits, 1 =>
        (bytesFrom 2 (bits % 16) 0 rest).map (UInt8.ofNat (left * 4 + bits / 16) :: ·)
      | some bits, 2 =>
        (bytesFrom 3 (bits % 4) 0 rest).map (UInt8.ofNat (left * 16 + bits / 4) :: ·)
      | some bits, _ => (bytesFrom 0 0 0 rest).map (UInt8.ofNat (left * 64 + bits) :: ·)

/-- The bytes that a text stands for. -/
def readBytes (s : String) : Except Fault (List UInt8) :=
  let cs := s.toList
  match if cs.all (·.toNat < 128) then bytesFrom 0 0 0 cs else none with
  | some bytes => .ok bytes
  | none => .error .malformed

/-- The value of a text under a tag for scalars. -/
def readScalar (tag : Tag) (s : String) : Except Fault Value :=
  match tag with
  | .null => .ok .null
  | .truth => (readTruth s).map .truth
  | .int => (readInt s).map .int
  | .float => (readFloat s).map .float
  | .text => .ok (.text s)
  | .binary => (readBytes s).map .bytes
  | .moment => (readMoment s).map fun _ => .moment
  | _ => .error .malformed

end Registrar.Yaml
