/-
The source files below a folder. Folders of version control, of build output and of caches are left
out, and so is what a pattern excludes; of the rest the files with one of the extensions are read.
They come in the order of their paths.
-/
import Registrar.Files.Lookup
import Registrar.Note
import Registrar.Sources.Exclude
import Registrar.SourceUnit
import Registrar.Text.LowerCase
import Registrar.Text.Utf8

namespace Registrar

/-- Folders that never hold sources. -/
def unscannedFolders : List String :=
  [".git", ".hg", ".svn", ".vs", ".idea", "bin", "obj", "Library", "Temp", "node_modules"]

/-- What is scanned for. -/
structure Scan where
  extensions : List String
  excluded : List String
  /-- The locations of files that are left out. -/
  skipped : List Location

/-- Why there is nothing to scan. -/
inductive ScanError where
  | path (e : PathError)
  /-- There is nothing at the path of the folder, as it is written. -/
  | missing (path : String)
  /-- There is no folder at its path. -/
  | notFolder (path : String)
  deriving DecidableEq, Repr

def ScanError.message : ScanError → String
  | path e => e.message
  | missing shown => s!"Input folder not found: {shown}"
  | notFolder shown => s!"Input path is not a directory: {shown}"

/-- The ending of a name, from its last point on; a point at either end of the name begins none. -/
def nameSuffix (name : String) : String :=
  let cs := name.toList
  let ending := (cs.reverse.takeWhile (· ≠ '.')).reverse
  if ending.isEmpty || cs.length ≤ ending.length + 1 then "" else String.ofList ('.' :: ending)

namespace Scan

/-- The patterns that exclude. -/
def patterns (s : Scan) : List ExcludePattern :=
  s.excluded.filterMap ExcludePattern.parse

/-- Whether the folder of a name is entered, `path` being its path. -/
def enters (s : Scan) (name path : String) : Bool :=
  !unscannedFolders.contains name && !s.patterns.any (·.excludes path true)

/-- Whether a file is read: its name, its path, and its location, links resolved. -/
def reads (s : Scan) (name path : String) (l : Location) : Bool :=
  !s.patterns.any (·.excludes path false) &&
    (s.extensions.map Text.lower).contains (Text.lower (nameSuffix name)) &&
    !s.skipped.contains l

mutual

/-- The files to read in an entry of the folder that `around` leads to from `root`: the names that
lead to them. A link is a file unless it leads to a folder, which is not entered. -/
def filesIn (s : Scan) (fs : Files) (root : Location) (around : List String) (name : String) :
    FileTree → List (List String)
  | .file _ =>
    if s.reads name (relativePath (around ++ [name])) (root ++ (around ++ [name])) then
      [around ++ [name]]
    else []
  | .link _ =>
    let path := Path.ofLocation (root ++ (around ++ [name]))
    let isFolder := (fs.find path).toOption.any FileTree.isFolder
    if !isFolder && s.reads name (relativePath (around ++ [name])) (fs.resolve path) then
      [around ++ [name]]
    else []
  | .folder entries =>
    if s.enters name (relativePath (around ++ [name])) then
      filesAmong s fs root (around ++ [name]) entries
    else []

/-- The files to read among the entries of a folder. -/
def filesAmong (s : Scan) (fs : Files) (root : Location) (around : List String) :
    List (String × FileTree) → List (List String)
  | [] => []
  | (name, e) :: rest => filesIn s fs root around name e ++ filesAmong s fs root around rest

end

mutual

/-- How deep the folders that are entered lie inside one another. -/
def depthIn (s : Scan) (around : List String) (name : String) : FileTree → Nat
  | .folder entries =>
    if s.enters name (relativePath (around ++ [name])) then
      depthAmong s (around ++ [name]) entries + 1
    else 0
  | _ => 0

def depthAmong (s : Scan) (around : List String) : List (String × FileTree) → Nat
  | [] => 0
  | (name, e) :: rest => max (depthIn s around name e) (depthAmong s around rest)

end

/-- How deep the walk through the folder at a location goes. -/
def depth (s : Scan) (fs : Files) (l : Location) : Nat :=
  match fs.find (.ofLocation l) with
  | .ok (.folder entries) => s.depthAmong [] entries
  | _ => 0

/-- The bytes of the file that names lead to from the folder at a location. -/
def bytesAt (fs : Files) (l : Location) (names : List String) : Except PathError ByteArray :=
  match (fs.find (.ofLocation l)).toOption.bind (FileTree.at? names) with
  | some (.file bytes) => .ok bytes
  | _ => fs.read (.ofLocation (l ++ names))

/-- Reads files; one that is not text is remarked on and left out. The notes `made` so far tell
what the files are at that time. -/
def readAll (files : List Note → Files) (l : Location) : (made : List Note) → List (List String) →
    Noted ScanError (List SourceFile)
  | _, [] => return []
  | made, names :: rest => do
    let bytes ← Noted.ofExcept ((bytesAt (files made) l names).mapError .path)
    match Text.readText? bytes with
    | some text => return ⟨relativePath names, text⟩ :: (← readAll files l made rest)
    | none =>
      let remark := Note.skippingFile (relativePath names) "not valid UTF-8"
      Noted.note remark
      readAll files l (made ++ [remark]) rest

/-- The files to read below a folder, in the order of their paths. -/
def found (s : Scan) (fs : Files) (l : Location) (entries : List (String × FileTree)) :
    List (List String) :=
  (s.filesAmong fs l [] entries).mergeSort fun a b => !(relativePath b < relativePath a)

/-- The files to read below a folder as they are come upon: those of a folder before those of the
folders in it. -/
def met (s : Scan) (fs : Files) (l : Location) (entries : List (String × FileTree)) :
    List (List String) :=
  (s.filesAmong fs l [] entries).mergeSort fun a b => !(b.dropLast < a.dropLast)

/-- The first file that is a link which leads to itself. -/
def loop? (fs : Files) (l : Location) (entries : List (String × FileTree))
    (met : List (List String)) : Option PathError :=
  met.findSome? fun names =>
    match (FileTree.folder entries).at? names with
    | some (.link _) => fs.loopAt? (fs.resolve (.ofLocation (l ++ names)))
    | _ => none

/-- The source files below the folder at a location, which `shown` names, while the files change
with the notes that are made. -/
def runWith (s : Scan) (files : List Note → Files) (shown : String) (l : Location) :
    Noted ScanError (List SourceFile) :=
  match (files []).probe (.ofLocation l) with
  | .error e => Noted.fail (.path e)
  | .ok none => Noted.fail (.missing shown)
  | .ok (some (.folder entries)) => do
    let found := s.found (files []) l entries
    if let some e := loop? (files []) l entries (s.met (files []) l entries) then
      Noted.fail (.path e)
    let sources ← readAll files l [] found
    Noted.note (.found sources.length l.text)
    return sources
  | .ok (some _) => Noted.fail (.notFolder shown)

/-- The source files below the folder at a location, which `shown` names. -/
def run (s : Scan) (fs : Files) (shown : String) (l : Location) :
    Noted ScanError (List SourceFile) :=
  s.runWith (fun _ => fs) shown l

end Scan

end Registrar
