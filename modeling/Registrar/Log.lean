/-
The log. A `Record` is one line of it; notes become records. Before the log is set up only warnings
and what is graver appear, bare, on the console; afterwards all records of its level do, and they go
to a file as well when there is one.
-/
import Registrar.Files.Path
import Registrar.Note

namespace Registrar

structure Record where
  /-- The part of the program that it comes from; empty for the program as a whole. -/
  component : String
  level : Level
  message : String
  deriving DecidableEq, Repr

/-- The name under which a record's line stands in a log file. -/
def Record.source (r : Record) : String :=
  if r.component.isEmpty then programName else s!"{programName}.{r.component}"

/-- A message with arguments filled in, each at the next place for one; without arguments it stays as
it is. -/
def Record.fill : List Char → List String → List Char
  | '%' :: '%' :: rest, arguments => '%' :: fill rest arguments
  | '%' :: 's' :: rest, a :: arguments | '%' :: 'd' :: rest, a :: arguments =>
    a.toList ++ fill rest arguments
  | c :: rest, arguments => c :: fill rest arguments
  | [], _ => []

/-- A record whose message has places for arguments. -/
def Record.ofMessage (component : String) (level : Level) (message : String)
    (arguments : List String) : Record where
  component := component
  level := level
  message :=
    if arguments.isEmpty then message else String.ofList (fill message.toList arguments)

def Note.record (n : Note) : Record :=
  ⟨n.component.label, n.level, n.message⟩

inductive Log where
  | unset
  | opened (level : Level) (file : Option Location)
  deriving DecidableEq, Repr

namespace Log

/-- The least level of the records that appear. -/
def level : Log → Level
  | unset => .warning
  | opened level _ => level

/-- The file that records go to. -/
def file? : Log → Option Location
  | unset => none
  | opened _ file => file

/-- How many places records go to. -/
def sinks : Log → Nat
  | unset => 0
  | opened _ none => 1
  | opened _ (some _) => 2

def takes (log : Log) (r : Record) : Bool :=
  log.level.rank ≤ r.level.rank

/-- A record on the console. -/
def consoleLine : Log → Record → String
  | unset, r => r.message ++ "\n"
  | opened .., r => s!"[{programName}] {r.level.label} {r.message}\n"

/-- A record in the log file; `time` stands in front. -/
def fileLine (time : String) (r : Record) : String :=
  s!"{time} {r.level.label} {r.source}: {r.message}\n"

/-- The log without its file, if that is what was taken out at a location or below it. -/
def release (l : Location) : Log → Log
  | opened level (some file) => opened level (if l.isPrefixOf file then none else some file)
  | log => log

end Log

end Registrar
