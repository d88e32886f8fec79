/-
The words of a command line. Each word alone says what it is: a flag, called by its letter or by its
word, of which the beginning is enough; the two dashes after which every word is plain; or a plain
word. What looks like a flag and is none stays unknown.
-/
import Registrar.CommandLine.Flag
import Registrar.Text.Digit
import Registrar.Text.Quoted

namespace Registrar.CommandLine

inductive Word where
  | plain (text : String)
  /-- Two dashes: only plain words follow. -/
  | divider
  /-- A flag called by its word, with the text behind an equals sign. -/
  | long (f : Flag) (value : Option String)
  /-- A flag called by its letter, with what is behind it. -/
  | short (f : Flag) (rest : String)
  | unknown (text : String)
  deriving DecidableEq, Repr

/-- Why a command line cannot be followed. -/
inductive UsageError where
  | ambiguous (word : String) (flags : List Flag)
  | noValue (f : Flag)
  | unwantedValue (f : Flag) (value : String)
  | unrecognized (words : List String)
  deriving DecidableEq, Repr

def UsageError.message : UsageError → String
  | ambiguous word flags =>
    s!"ambiguous option: {word} could match " ++ ", ".intercalate (flags.map Flag.word)
  | noValue f => s!"argument {f.title}: expected one argument"
  | unwantedValue f value =>
    s!"argument {f.title}: ignored explicit argument " ++ Text.quoted value
  | unrecognized words => "unrecognized arguments: " ++ " ".intercalate words

namespace Word

/-- A text around its first equals sign. -/
def splitValue (s : String) : String × Option String :=
  match s.toList.span (· ≠ '=') with
  | (name, _ :: value) => (String.ofList name, some (String.ofList value))
  | _ => (s, none)

/-- A word that starts with a dash, but calls no flag. -/
def ofOther (s : String) : Word :=
  if Text.isNegativeNumber s.toList || s.toList.contains ' ' then plain s else unknown s

/-- A word with two dashes in front; the beginning of a flag's word calls it. -/
def ofLong (s : String) : Except UsageError Word :=
  let (name, value) := splitValue s
  match Flag.ofWord? name with
  | some f => .ok (long f value)
  | none =>
    match Flag.abbreviated name with
    | [] => .ok (ofOther s)
    | [f] => .ok (long f value)
    | flags => .error (.ambiguous s flags)

/-- A word with one dash, the letter `c` and `rest` behind it. -/
def ofShort (s : String) (c : Char) (rest : List Char) : Word :=
  match Flag.ofLetter? c with
  | some f => short f (String.ofList rest)
  | none => ofOther s

/-- What a word says; `divider` is not asked here. -/
def ofText (s : String) : Except UsageError Word :=
  match s.toList with
  | '-' :: '-' :: _ => ofLong s
  | '-' :: c :: rest => .ok (ofShort s c rest)
  | _ => .ok (plain s)

/-- The words of a command line, up to the first that could be several flags. -/
def ofTexts : List String → Except UsageError (List Word)
  | [] => .ok []
  | s :: rest =>
    if s = "--" then .ok (divider :: rest.map plain)
    else do return (← ofText s) :: (← ofTexts rest)

end Word

end Registrar.CommandLine
