/-
Patterns that keep files and folders out of a scan. `Plugins/` stands for a folder anywhere,
`/Plugins/` for one at the top, `*.g.cs` for any name that fits, and a pattern with a slash inside
for the whole path below the input folder.
-/
import Registrar.Sources.Glob
import Registrar.Text.Blank

namespace Registrar

/-- A pattern, read. -/
structure ExcludePattern where
  glob : String
  foldersOnly : Bool
  /-- Whether it is the whole path that must fit, and not only the last name on it. -/
  isRooted : Bool
  deriving DecidableEq, Repr

namespace ExcludePattern

/-- The characters without slashes at their ends. -/
def dropSlashes (cs : List Char) : List Char :=
  ((cs.dropWhile (· = '/')).reverse.dropWhile (· = '/')).reverse

/-- Reads a pattern. Backslashes count as slashes; nothing but slashes and blanks is no pattern. -/
def parse (raw : String) : Option ExcludePattern :=
  let cs := (Text.trim raw).toList.map fun c => if c = '\\' then '/' else c
  let glob := dropSlashes cs
  if glob.isEmpty then none
  else some ⟨String.ofList glob, cs.getLast? == some '/',
    cs.head? == some '/' || glob.contains '/'⟩

/-- The last name on a path. -/
def lastName (path : String) : String :=
  String.ofList (path.toList.reverse.takeWhile (· ≠ '/')).reverse

/-- Whether the pattern keeps out the file or folder at a path below the input folder. -/
def excludes (p : ExcludePattern) (path : String) (isFolder : Bool) : Bool :=
  (!p.foldersOnly || isFolder) && globMatches p.glob (if p.isRooted then path else lastName path)

end ExcludePattern

end Registrar
