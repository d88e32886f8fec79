/-
Paths with slashes. A `Path` is what is written, without empty and single-dot parts; a `Location`
is a place in the tree of files, the names on the way from its root. `Path.resolve` takes the double
dots of a path away by the names alone.
-/
namespace Registrar

/-- The names on the way from the root. -/
abbrev Location := List String

namespace Location

/-- A location as an absolute path. -/
def text (l : Location) : String :=
  "/" ++ "/".intercalate l

end Location

/-- The path that names make, seen from the folder that they begin in. -/
def relativePath (names : List String) : String :=
  "/".intercalate names

/-- A path: the slashes that make it absolute, two of them being kept apart from one, and the
names. -/
structure Path where
  anchor : String
  names : List String
  deriving DecidableEq, Repr

namespace Path

/-- Reads a path. -/
def ofText (s : String) : Path where
  anchor :=
    match s.toList with
    | '/' :: '/' :: '/' :: _ => "/"
    | '/' :: '/' :: _ => "//"
    | '/' :: _ => "/"
    | _ => ""
  names := ((s.toList.splitOn '/').map String.ofList).filter fun name => name ≠ "" && name ≠ "."

def text (p : Path) : String :=
  if p.anchor.isEmpty && p.names.isEmpty then "." else p.anchor ++ relativePath p.names

/-- The path of a location. -/
def ofLocation (l : Location) : Path := ⟨"/", l⟩

/-- The path `q` seen from `p`; an absolute `q` stays itself. -/
def join (p q : Path) : Path :=
  if q.anchor.isEmpty then ⟨p.anchor, p.names ++ q.names⟩ else q

/-- The path of what is called `name` in the folder at a path. -/
def child (p : Path) (name : String) : Path :=
  ⟨p.anchor, p.names ++ [name]⟩

/-- The path of the folder around, by the names alone. -/
def up (p : Path) : Path :=
  match p.names.getLast? with
  | none => if p.anchor.isEmpty then ⟨"", [".."]⟩ else p
  | some last => if last = ".." then p.child ".." else ⟨p.anchor, p.names.dropLast⟩

/-- The last name, or nothing when there is none. -/
def name (p : Path) : String :=
  p.names.getLast?.getD ""

/-- Whether a name has the null character in it, which no name of a file has. -/
def hasNull (p : Path) : Bool :=
  p.names.any (·.toList.contains '\x00')

/-- Where a path begins, with its last name first: at the root, or in the folder `above`. -/
def start (p : Path) (above : List String) : List String :=
  if p.anchor.isEmpty then above else []

/-- Goes from a location, given with its last name first, along names. -/
def follow : (above : List String) → List String → List String
  | above, [] => above
  | above, name :: rest => if name = ".." then follow above.tail rest else follow (name :: above) rest

/-- The location of a path as seen from `base`, by its names alone. -/
def resolve (base : Location) (p : Path) : Location :=
  (follow (p.start base.reverse) p.names).reverse

end Path

end Registrar
