/-
From units to the generated module: the environment is built, its classes are classified, and the
directives of the units that declare a handler are collected.
-/
import Registrar.Contracts
import Registrar.Handler.Module

namespace Registrar

/-- What is remarked on units whose text departs from the grammar. -/
def brokenRemarks (units : List SourceUnit) : List Note :=
  let broken := (units.filter (·.hasErrors)).map SourceUnit.path
  broken.map .brokenTree ++ if broken.isEmpty then [] else [.brokenTrees broken]

/-- The entries for the handlers in units, and the directives of the units that declare them. -/
def registrations (units : List SourceUnit) (names : ContractNames) :
    Noted EndlessAlias (List Entry × ImportSet) := do
  Noted.noteAll (brokenRemarks units)
  let references := Reference.contracts names.query names.command
  let env := Environment.build units references
  Noted.noteAll (env.buildRemarks references)
  let handlers ← env.handlers (ContractSet.bind env names.query names.command)
  Noted.note (.classified handlers.length)
  return (handlers.map Prod.snd,
    collectImports (handlers.flatMap fun (s, _) => env.declaringUnits s) .empty)

/-- Why no module is generated. -/
inductive GenerationError where
  | endlessAlias
  | raised (e : Raised)
  deriving DecidableEq, Repr

/-- The module generated for units. -/
def generate (units : List SourceUnit) (ns : String) (names : ContractNames)
    (template : Template) : Noted GenerationError Module := do
  let (entries, imports) ← (registrations units names).mapError fun _ => .endlessAlias
  Noted.ofExcept ((Module.ofEntries template ns entries imports).mapError .raised)

end Registrar
