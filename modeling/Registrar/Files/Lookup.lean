/-
Looking up paths. `Files.locate` finds the place that a path leads to as the system does: name by
name, each in the folder that the names before it lead to, and through links. `Files.place` resolves
a path beforehand, without asking whether there is anything at its end.
-/
import Registrar.Files.Tree
import Registrar.Text.Quoted

namespace Registrar

/-- Why a path leads nowhere, or not to what it should. -/
inductive PathFault where
  | noEntry
  | notFolder
  | isFolder
  | nameTooLong
  | tooManyLinks
  /-- The current folder is gone. -/
  | noCurrent
  | nullCharacter
  /-- Links lead back to themselves. -/
  | linkLoop
  /-- The path begins in a home folder that is not known. -/
  | noHome
  deriving DecidableEq, Repr

/-- The number and the words that the operating system has for a fault, if it is one of its own. -/
def PathFault.system? : PathFault → Option (Nat × String)
  | noEntry | noCurrent => some (2, "No such file or directory")
  | notFolder => some (20, "Not a directory")
  | isFolder => some (21, "Is a directory")
  | nameTooLong => some (36, "File name too long")
  | tooManyLinks => some (40, "Too many levels of symbolic links")
  | nullCharacter | linkLoop | noHome => none

/-- A path with a fault. -/
structure PathError where
  fault : PathFault
  path : String
  deriving DecidableEq, Repr

def PathError.message (e : PathError) : String :=
  match e.fault, e.fault.system? with
  | .noCurrent, some (number, reason) => s!"[Errno {number}] {reason}"
  | _, some (number, reason) => s!"[Errno {number}] {reason}: " ++ Text.quoted e.path
  | .linkLoop, none => "Symlink loop from " ++ Text.quoted e.path
  | .noHome, none => "Could not determine home directory."
  | _, none => "embedded null byte"

namespace FileTree

/-- How far names lead without going through a link; locations have their last name first. -/
inductive Walked where
  | arrived (above : List String)
  /-- There is a link on the way. What it holds begins at `above`, and `names` are to be followed
  from there. -/
  | link (above names : List String)

/-- Goes along names. There need not be anything under the last of them. -/
def walk (root : FileTree) : (above : List String) → List String → Except PathFault Walked
  | above, [] => .ok (.arrived above)
  | above, name :: rest =>
    match root.at? above.reverse with
    | some (.folder entries) =>
      if name = ".." then walk root above.tail rest
      else if 255 < name.utf8ByteSize then .error .nameTooLong
      else match entries.lookup name with
        | some (.link target) => .ok (.link (target.start above) (target.names ++ rest))
        | some _ => walk root (name :: above) rest
        | none => if rest.isEmpty then .ok (.arrived (name :: above)) else .error .noEntry
    | some _ => .error .notFolder
    | none => .error .noEntry

/-- Goes along names, and through so many links on the way: the location, with its last name first,
and how many more links there might have been. -/
def follow (root : FileTree) : (links : Nat) → (above : List String) → List String →
    Except PathFault (List String × Nat)
  | links, above, names =>
    match root.walk above names with
    | .error fault => .error fault
    | .ok (.arrived above) => .ok (above, links)
    | .ok (.link above names) =>
      match links with
      | 0 => .error .tooManyLinks
      | links + 1 => follow root links above names

end FileTree

/-- A tree of files and the location that relative paths are seen from. -/
structure Files where
  root : FileTree
  current : Location

namespace Files

/-- How many bytes the path that is handed to the system may have, and how many links it may go
through. -/
def longestPath : Nat := 4095

def mostLinks : Nat := 40

/-- The location that a path leads to; there need not be anything yet. -/
def locate (fs : Files) (p : Path) : Except PathFault Location :=
  if p.hasNull then .error .nullCharacter
  else if longestPath < p.text.utf8ByteSize then .error .nameTooLong
  else (fs.root.follow mostLinks (p.start fs.current.reverse) p.names).map fun (above, _) =>
    above.reverse

/-- What a path leads to. -/
def find (fs : Files) (p : Path) : Except PathFault FileTree :=
  match fs.locate p with
  | .error fault => .error fault
  | .ok l =>
    match fs.root.at? l with
    | some e => .ok e
    | none => .error .noEntry

/-- The location of what a path names, which may be a link: only the names before the last one are
followed. -/
def entryPlace (fs : Files) (p : Path) : Except PathFault Location :=
  if p.names = [] ∨ p.name = ".." then fs.locate p
  else
    match fs.locate ⟨p.anchor, p.names.dropLast⟩ with
    | .error fault => .error fault
    | .ok around => .ok (around ++ [p.name])

/-- What a path leads to, if it leads to anything. -/
def probe (fs : Files) (p : Path) : Except PathError (Option FileTree) :=
  match fs.find p with
  | .ok e => .ok (some e)
  | .error .nameTooLong => .error ⟨.nameTooLong, p.text⟩
  | .error _ => .ok none

/-- Whether there is a folder at a path. -/
def isFolder (fs : Files) (p : Path) : Except PathError Bool := do
  return (← fs.probe p).any FileTree.isFolder

/-- Whether there is a file at a path. -/
def isFile (fs : Files) (p : Path) : Bool :=
  match fs.find p with
  | .ok (.file _) => true
  | _ => false

/-- The bytes of the file at a path. -/
def read (fs : Files) (p : Path) : Except PathError ByteArray :=
  match fs.find p with
  | .ok (.file bytes) => .ok bytes
  | .ok _ => .error ⟨.isFolder, p.text⟩
  | .error fault => .error ⟨fault, p.text⟩

/-- The location of the file that a path leads to, or of the one that can be made there. -/
def fileFor (fs : Files) (p : Path) : Except PathError Location :=
  match fs.locate p with
  | .error fault => .error ⟨fault, p.text⟩
  | .ok l =>
    match fs.root.at? l with
    | none | some (.file _) => .ok l
    | some _ => .error ⟨.isFolder, p.text⟩

/-- Whether the current folder is there. -/
def isHere (fs : Files) : Bool :=
  (fs.root.at? fs.current).any FileTree.isFolder

/-- Goes along names from a path that is resolved already, there being something under them or not;
`through` resolves the links on the way. Where it cannot, it gives the path that it has come to, and
the names left stay behind that. -/
def along (fs : Files) (through : (link target : Path) → Except Path Path) :
    (resolved : Path) → List String → Except Path Path
  | resolved, [] => .ok resolved
  | resolved, name :: rest =>
    if name = ".." then along fs through resolved.up rest
    else
      let next := resolved.child name
      match fs.root.at? (next.resolve fs.current) with
      | some (.link target) =>
        match through next target with
        | .ok resolved => along fs through resolved rest
        | .error stopped => .error ⟨stopped.anchor, stopped.names ++ rest⟩
      | _ => along fs through next rest

/-- Goes along names while the links `opened` are being resolved. None of these is gone through
again, and no more than `depth` of them are open at once. -/
def resolveIn (fs : Files) : (depth : Nat) → (opened : List Path) → (resolved : Path) →
    List String → Except Path Path
  | 0, _ => fs.along fun link _ => .error link
  | depth + 1, opened => fs.along fun link target =>
    if opened.contains link then .error link
    else fs.resolveIn depth (link :: opened)
      (if target.anchor.isEmpty then link.up else ⟨"/", []⟩) target.names

/-- How many links can be open at once: a path to each of them begins at the root, or goes up from
the current folder first. -/
def openLinks (fs : Files) : Nat :=
  fs.root.linkCount * (fs.current.length + 2)

/-- The location of a path with all links on the way resolved, or as far as they can be. -/
def resolve (fs : Files) (p : Path) : Location :=
  match fs.resolveIn fs.openLinks [] ⟨if p.anchor.isEmpty then "" else "/", []⟩ p.names with
  | .ok resolved | .error resolved => resolved.resolve fs.current

/-- The error at a location that links lead away from too often. -/
def loopAt? (fs : Files) (l : Location) : Option PathError :=
  match fs.locate (.ofLocation l) with
  | .error .tooManyLinks => some ⟨.linkLoop, l.text⟩
  | _ => none

/-- The location of a path. -/
def place (fs : Files) (p : Path) : Except PathError Location :=
  if p.hasNull then .error ⟨.nullCharacter, p.text⟩
  else if p.anchor.isEmpty && !fs.isHere then .error ⟨.noCurrent, p.text⟩
  else
    match fs.loopAt? (fs.resolve p) with
    | some e => .error e
    | none => .ok (fs.resolve p)

/-- Puts an entry at a location. -/
def put (fs : Files) (l : Location) (e : FileTree) : Files :=
  { fs with root := FileTree.put e l fs.root }

/-- Writes at the end of the file at a location, if there is one. -/
def append (fs : Files) (l : Location) (text : String) : Files :=
  match fs.root.at? l with
  | some (.file bytes) => fs.put l (.file (bytes ++ text.toUTF8))
  | _ => fs

/-- Takes out what is at a location. -/
def remove (fs : Files) (l : Location) : Files :=
  { fs with root := fs.root.remove l }

end Files

end Registrar
