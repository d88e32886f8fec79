/-
The program. What a command line can touch is copied from the disk into a session, the command is
followed there, and what it changed is copied back: the output file and the log file. Only sources
are read; of the other files in the input folder the name is enough. A link is copied as what it
leads to.
-/
import Registrar.Command
import Registrar.Standard

namespace Registrar.Disk

/-- The files with what stands on the disk at `l`, unless something is there already; the bytes of
a file are read if `wanted`. -/
def copyPlace (wanted : Bool) (fs : Files) (l : Location) : IO Files := do
  if (fs.find (.ofLocation l)).toOption.isSome then return fs
  try
    let path ← IO.FS.realPath l.text
    if ← path.isDir then return fs.put l (.folder [])
    else
      let bytes ← if wanted then IO.FS.readBinFile path else pure .empty
      return fs.put l (.file bytes)
  catch _ => return fs

/-- The files with all that stands on the way to `l`, and there. -/
def copyPath (fs : Files) (l : Location) : IO Files := do
  let mut fs := fs
  for n in List.range l.length do
    fs ← copyPlace true fs (l.take n)
  copyPlace true fs l

/-- The files with all that stands below the folder at `l`, down to a depth. -/
def copyBelow (wanted : String → Bool) : (depth : Nat) → Files → Location → IO Files
  | 0, fs, _ => return fs
  | depth + 1, fs, l => do
    match fs.find (.ofLocation l) with
    | .ok (.folder _) =>
      let mut fs := fs
      for e in ← (← IO.FS.realPath l.text).readDir do
        if !unscannedFolders.contains e.fileName then
          let inner := l ++ [e.fileName]
          fs ← copyPlace (wanted e.fileName) fs inner
          fs ← copyBelow wanted depth fs inner
      return fs
    | _ => return fs

/-- The files that a request looks at, and the one that it writes. -/
def copyRequest (m : Machine) (s : Session) (r : Request) : IO (Files × Option Location) := do
  let mut fs := s.files
  if let .ok input := m.place fs r.input then
    fs ← copyPath fs input
    let settings := r.settingsPath input
    for p in [settings, settings.child configName] do
      if let .ok l := m.place fs p then
        fs ← copyPath fs l
  match (r.plan m { s with files := fs }).2 with
  | .error _ => return (fs, none)
  | .ok p =>
    let output := fs.resolve p.file
    fs ← copyPath fs output
    if let some folder := p.config.templates then
      fs ← copyPath fs (fs.resolve (folder.child templateName))
    let extensions := p.config.extensions.map Text.lower
    let wanted := fun name => extensions.contains (Text.lower (nameSuffix name))
    fs ← copyBelow wanted 1000 fs p.input
    return (fs, some output)

/-- Copies a file back when it is no longer as it was. -/
def copyBack (before after : Files) (l : Location) : IO Unit := do
  match after.find (.ofLocation l), before.find (.ofLocation l) with
  | .ok (.file new), .ok (.file old) => if new != old then IO.FS.writeBinFile l.text new
  | .ok (.file new), .error _ => IO.FS.writeBinFile l.text new
  | .error _, .ok (.file _) => IO.FS.removeFile l.text
  | _, _ => return ()

/-- A session on the disk, with nothing copied. -/
def start : IO Session := do
  let current := (Path.ofText (toString (← IO.currentDir))).names
  let fs : Files := ⟨.put (.folder []) current (.folder []), current⟩
  let time := toString (← IO.monoMsNow)
  return ⟨fs, .unset, fun _ => time, 0, "", ""⟩

/-- The machine that the program runs on. -/
def machine : IO Machine := do
  return .standard ((← IO.getEnv "HOME").map Path.ofText) true

end Registrar.Disk

open Registrar in
/-- Follows a command line and tells how it ended. -/
def main (words : List String) : IO UInt32 := do
  let m ← Disk.machine
  let mut start ← Disk.start
  let mut written : List Location := []
  if let .ok (.generate a) := CommandLine.read m.collects words then
    if let some file := a.logFile then
      let l := start.files.resolve file
      start := { start with files := ← Disk.copyPath start.files l }
      written := [l]
    let (files, output) ← Disk.copyRequest m start a.request
    start := { start with files := files }
    written := written ++ output.toList
  let (last, ending) := start.command m words
  for l in written do
    Disk.copyBack start.files last.files l
  IO.print last.out
  IO.eprint last.err
  match ending with
  | .exit code => return code.toUInt32
  | .noLog e => IO.eprintln e.message; return 1
  | .broken e => IO.eprintln e.message; return 1
  | .untold => return 1
