/-
Source files and what reading them gives. A `SourceUnit` is one file's syntax tree under the path
of the file; its declarations and directives are those of the tree.
-/
import Registrar.Declaration

namespace Registrar

/-- The text of one file, under its path below the input folder. -/
structure SourceFile where
  path : String
  text : String
  deriving DecidableEq, Repr

/-- One file's syntax tree, and whether its text departs from the grammar. -/
structure SourceUnit where
  path : String
  root : Tree.Node
  hasErrors : Bool

namespace SourceUnit

/-- The type declarations of a unit, in the order of the text. -/
def declarations (u : SourceUnit) : List TypeDeclaration :=
  memberDeclarations ⟨u.path, "", [], [⟨"", ownDirectives u.root.children⟩]⟩ u.root.children

/-- The using directives of the file and of its namespaces, in the order of the text. -/
def directives (u : SourceUnit) : List Directive :=
  allDirectives u.root.children

end SourceUnit

end Registrar
