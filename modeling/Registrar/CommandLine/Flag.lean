/-
The flags of the command line and the words that they are called by.
-/
namespace Registrar.CommandLine

inductive Flag where
  | help | verbose | config | dryRun | logFile
  deriving DecidableEq, Repr

namespace Flag

/-- All flags, in the order of their description. -/
def all : List Flag :=
  [help, verbose, config, dryRun, logFile]

/-- The letter that calls a flag behind a single dash. -/
def letter? : Flag → Option Char
  | help => some 'h'
  | verbose => some 'v'
  | _ => none

/-- The word that calls a flag. -/
def word : Flag → String
  | help => "--help"
  | verbose => "--verbose"
  | config => "--config"
  | dryRun => "--dry-run"
  | logFile => "--log-file"

/-- Whether a value comes with a flag. -/
def takesValue : Flag → Bool
  | config | logFile => true
  | _ => false

/-- A flag as messages name it. -/
def title (f : Flag) : String :=
  match f.letter? with
  | some c => s!"-{c}/{f.word}"
  | none => f.word

def ofLetter? (c : Char) : Option Flag :=
  all.find? (·.letter? == some c)

def ofWord? (s : String) : Option Flag :=
  all.find? (·.word == s)

/-- The flags whose word begins with a text. -/
def abbreviated (s : String) : List Flag :=
  all.filter fun f => s.toList.isPrefixOf f.word.toList

@[simp] theorem ofWord?_word (f : Flag) : ofWord? f.word = some f := by
  cases f <;> decide

theorem ofLetter?_of_letter? {f : Flag} {c : Char} (h : f.letter? = some c) :
    ofLetter? c = some f := by
  cases f <;> simp [letter?] at h <;> subst h <;> decide

end Flag

end Registrar.CommandLine
