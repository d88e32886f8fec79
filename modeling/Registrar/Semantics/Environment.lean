/-
The environment in which types are looked up: all units with their declarations, the table of their
symbols, and the global using directives of all units.
-/
import Registrar.Semantics.SymbolTable
import Registrar.SourceUnit

namespace Registrar

/-- A complete set of units and what they declare. -/
structure Environment where
  /-- Each unit with its declarations, in the order of the text. -/
  declared : List (SourceUnit × List TypeDeclaration)
  table : SymbolTable
  /-- The global using directives of all units. -/
  globalScope : UsingScope

/-- A class declaration that may be a handler, with its symbol when that is unambiguous. -/
structure Candidate where
  unit : SourceUnit
  declaration : TypeDeclaration
  symbol : Option Symbol

namespace Candidate

/-- The name of the class, empty when it has none. -/
def name (c : Candidate) : String :=
  c.declaration.name.getD ""

end Candidate

namespace Environment

/-- The environment of units and references. -/
def build (units : List SourceUnit) (references : List Reference) : Environment :=
  let declared := units.map fun u => (u, u.declarations)
  { declared
    table := (SymbolTable.ofReferences references).declareAll (declared.flatMap Prod.snd)
    globalScope := ⟨"", units.flatMap fun u => u.directives.filter Directive.isGlobal⟩ }

/-- What is remarked while the environment is built from references and its units. -/
def buildRemarks (env : Environment) (references : List Reference) : List Note :=
  (SymbolTable.ofReferences references).allRemarks (env.declared.flatMap Prod.snd) ++
    [.indexed env.table.symbols.length env.declared.length]

def units (env : Environment) : List SourceUnit :=
  env.declared.map Prod.fst

/-- The symbol of a name and arity. -/
def lookup (env : Environment) (name : String) (arity : Int) : Option Symbol :=
  env.table.get? ⟨name, arity⟩

/-- The symbol of a declaration, unless it is unnamed or ambiguous. -/
def declaredSymbol? (env : Environment) (d : TypeDeclaration) : Option Symbol :=
  (d.key?.bind env.table.get?).filter (!·.isAmbiguous)

/-- The classes among declarations, each unambiguous symbol once. -/
def candidatesFrom (env : Environment) (seen : List SymbolKey) :
    List (SourceUnit × TypeDeclaration) → List Candidate
  | [] => []
  | (u, d) :: rest =>
    if d.kind == .class then
      match env.declaredSymbol? d with
      | some s =>
        if seen.contains s.key then candidatesFrom env seen rest
        else ⟨u, d, some s⟩ :: candidatesFrom env (s.key :: seen) rest
      | none => ⟨u, d, none⟩ :: candidatesFrom env seen rest
    else candidatesFrom env seen rest

/-- The class declarations in the order of the units and their texts; a class in several parts
occurs once, at its first part. -/
def candidates (env : Environment) : List Candidate :=
  env.candidatesFrom [] (env.declared.flatMap fun (u, ds) => ds.map (u, ·))

/-- The last unit with a path. -/
def unitAt? (env : Environment) (path : String) : Option SourceUnit :=
  env.units.reverse.find? (·.path == path)

/-- The units that declare a symbol, in the order of its declarations. -/
def declaringUnits (env : Environment) (s : Symbol) : List SourceUnit :=
  ((s.declarations.map TypeDeclaration.unitPath).eraseDups).filterMap env.unitAt?

end Environment

end Registrar
