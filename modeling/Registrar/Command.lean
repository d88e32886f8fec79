/-
A command line, followed in a session from its words to what the program prints and how it ends.
-/
import Registrar.CommandLine.Arguments
import Registrar.CommandLine.Help
import Registrar.Run

namespace Registrar

/-- How a command ends. -/
inductive Ending where
  | exit (code : Nat)
  /-- The log file cannot be opened. -/
  | noLog (e : PathError)
  /-- The run ends with an error that the program has no words for. -/
  | broken (e : RunError)
  /-- The run has done its work, and what came of it cannot be told. -/
  | untold
  deriving DecidableEq, Repr

/-- What the program says of an error that the operating system has made. -/
def systemReport (message : String) : String :=
  s!"{programName} failed: {message}\nRun with --verbose for more details.\n"

/-- What the program says of a path with a fault, if that is one of the operating system's. -/
def PathError.report? (e : PathError) : Option String :=
  match e.fault with
  | .noEntry | .notFolder | .noCurrent => some (e.message ++ "\n")
  | fault => fault.system?.map fun _ => systemReport e.message

/-- What the program says of an error in a part that it calls, if it does. -/
def Raised.report? (e : Raised) : Option String :=
  match e.kind with
  | .missing => some (e.message ++ "\n")
  | .system => some (systemReport e.message)
  | .malformed | .other _ => none

namespace RunError

/-- What the program says of an error, if it does. -/
def report? : RunError → Option String
  | path e | settings (.path e) | input (.path e) => e.report?
  | settings .notText | settings .tooLong => none
  | settings (.raised e) | template e => e.report?
  | settings e => some s!"Invalid configuration: {e.message}\n"
  | input e => some (e.message ++ "\n")
  | stack | endlessAlias => none
  | noMarker => some s!"{programName} failed: {noMarker.message}\n"
  | noOutputFolder folder => some ((noOutputFolder folder).message ++ "\n")

end RunError

/-- The run that arguments ask for. -/
def CommandLine.Arguments.request (a : Arguments) : Request :=
  ⟨.ofText a.input, .ofText a.output, a.ns, a.config, a.dryRun⟩

namespace Session

/-- A path as seen from the current location, if it lies below it. -/
def shownPath (s : Session) (p : Path) : String :=
  match s.files.current.isPrefixOf? p.names with
  | some names => (Path.mk "" names).text
  | none => p.text

/-- What is printed of an outcome. Of a file only the place is told, as seen from the current
folder, which must be there. -/
def told? (s : Session) (outcome : Outcome) : Option String :=
  if !outcome.written then some outcome.module.text
  else if s.files.isHere then
    some s!"Generated registrations saved to {s.shownPath outcome.file}\n"
  else none

/-- Generates what arguments ask for. -/
def generate (m : Machine) (s : Session) (a : CommandLine.Arguments) : Session × Ending :=
  match s.openLog (if a.verbose then .debug else .info) a.logFile with
  | (s, .error e) => (s, .noLog e)
  | (s, .ok ()) =>
    match a.request.run m s with
    | (s, .ok outcome) =>
      match (s.told? outcome).filter m.prints with
      | some text => (s.print text, .exit 0)
      | none => (s, .untold)
    | (s, .error e) =>
      match e.report? with
      | some text => (s.complain text, .exit 1)
      | none => (s, .broken e)

/-- Follows a command line. Its words are texts: one with bytes that are no text is not considered,
as there is no such text. -/
def command (m : Machine) (s : Session) (words : List String) : Session × Ending :=
  match CommandLine.read m.collects words with
  | .error e => (s.complain (CommandLine.complaint e.message), .exit 2)
  | .ok .help => (s.print CommandLine.help, .exit 0)
  | .ok (.generate a) => s.generate m a

end Session

end Registrar
