/-
A session: the files, the log, and what has been printed. Time passes in it with every record that
is written to the log.
-/
import Registrar.Files.Lookup
import Registrar.Log

namespace Registrar

structure Session where
  files : Files
  log : Log
  /-- What stands in front of a line of the log file, moment by moment. -/
  clock : Nat → String
  moment : Nat
  out : String
  err : String

namespace Session

def print (s : Session) (text : String) : Session :=
  { s with out := s.out ++ text }

def complain (s : Session) (text : String) : Session :=
  { s with err := s.err ++ text }

/-- Writes a record to the log. -/
def record (s : Session) (r : Record) : Session :=
  let s := { s with moment := s.moment + 1 }
  if s.log.takes r then
    let s := s.complain (s.log.consoleLine r)
    match s.log.file? with
    | some l => { s with files := s.files.append l (Log.fileLine (s.clock s.moment) r) }
    | none => s
  else s

def note (s : Session) (n : Note) : Session :=
  s.record n.record

def remark (s : Session) (ns : List Note) : Session :=
  ns.foldl note s

/-- Takes out what is at a location. A log file there is lost to the log. -/
def remove (s : Session) (l : Location) : Session :=
  { s with files := s.files.remove l, log := s.log.release l }

/-- Writes a file. One that is made is not the file that the log has been writing to there. -/
def write (s : Session) (l : Location) (bytes : ByteArray) : Session :=
  { s with
    files := s.files.put l (.file bytes)
    log := if (s.files.root.at? l).isSome then s.log else s.log.release l }

/-- Sets the log up anew. When its file cannot be opened it is without one. -/
def openLog (s : Session) (level : Level) (file : Option Path) : Session × Except PathError Unit :=
  let bare := { s with log := .opened level none }
  match file with
  | none => (bare, .ok ())
  | some p =>
    if p.anchor.isEmpty && !s.files.isHere then (bare, .error ⟨.noCurrent, p.text⟩)
    else
      match s.files.fileFor (.ofLocation (p.resolve s.files.current)) with
      | .error e => (bare, .error e)
      | .ok l =>
        let files := if (s.files.root.at? l).isSome then s.files else s.files.put l (.file .empty)
        ({ s with files := files, log := .opened level (some l) }, .ok ())

end Session

end Registrar
