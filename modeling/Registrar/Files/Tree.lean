/-
A tree of files, as a value: folders, files, and links, which hold a path (a slash or a dot at its
end counts for nothing). Putting entries in and taking them out goes by their locations; how a path
is looked up is told in `Files/Lookup`.
-/
import Registrar.Files.Path

namespace Registrar

inductive FileTree where
  | file (bytes : ByteArray)
  | folder (entries : List (String × FileTree))
  | link (target : Path)

namespace FileTree

def isFolder : FileTree → Bool
  | folder _ => true
  | _ => false

/-- What is at a location; the names on the way are those of folders. -/
def at? : Location → FileTree → Option FileTree
  | [], e => some e
  | name :: rest, folder entries => (entries.lookup name).bind (at? rest)
  | _ :: _, _ => none

/-- Entries with one put in under a name, in the place of the old one if there is one. -/
def insertIn (name : String) (e : FileTree) : List (String × FileTree) → List (String × FileTree)
  | [] => [(name, e)]
  | (other, old) :: rest =>
    if other = name then (name, e) :: rest else (other, old) :: insertIn name e rest

/-- The tree with `e` at a location; folders on the way there are made when they are missing. -/
def put (e : FileTree) : Location → FileTree → FileTree
  | [], _ => e
  | name :: rest, folder entries =>
    folder (insertIn name (put e rest ((entries.lookup name).getD (folder []))) entries)
  | _ :: _, other => other

/-- The tree without what is at a location. -/
def remove : Location → FileTree → FileTree
  | [], t => t
  | [name], folder entries => folder (entries.filter fun (other, _) => other ≠ name)
  | name :: next :: rest, folder entries =>
    folder (entries.map fun (other, e) =>
      (other, if other = name then remove (next :: rest) e else e))
  | _ :: _, other => other

mutual

/-- How many links there are in a tree. -/
def linkCount : FileTree → Nat
  | file _ => 0
  | folder entries => linkCountAmong entries
  | link _ => 1

def linkCountAmong : List (String × FileTree) → Nat
  | [] => 0
  | (_, e) :: rest => linkCount e + linkCountAmong rest

end

end FileTree

end Registrar
