/-
Resolution: the semantic type that a written type means in the header of a declaration. Type
parameters come first, then using aliases, then symbols; a name that means none of them becomes an
error type.

An alias may stand for a type that uses aliases again. Each expansion counts against the number of
aliases in scope: more of them inside one another means that one is inside itself, and resolution
then ends with `EndlessAlias`.
-/
import Registrar.Semantics.Lookup
import Registrar.Semantics.Ty

namespace Registrar

/-- A using alias whose target mentions itself. -/
inductive EndlessAlias where
  | endlessAlias
  deriving DecidableEq, Repr

namespace Environment

/-- The target of the alias `name` that the header of `d` sees: that of the nearest scope. -/
def aliasTarget? (env : Environment) (d : TypeDeclaration) (name : String) : Option TypeExpr :=
  (env.scopesOf d).findSome? (·.aliasTarget? name)

/-- How many aliases the header of `d` sees. -/
def aliasCount (env : Environment) (d : TypeDeclaration) : Nat :=
  ((env.scopesOf d).flatMap (·.directives)).countP (·.aliasName.isSome)

/-- What a written name means once its arguments are resolved. -/
def nameMeaning (env : Environment) (d : TypeDeclaration) (qualifier : Option String)
    (path : List Segment) (last : Segment) (arguments : List Ty) : Noted ε Ty := do
  match ← env.lookupName d .exactArity qualifier path last with
  | some s => return .named s.key arguments
  | none =>
    match ← env.lookupName d .anyArity qualifier path last with
    | some s => return .named s.key arguments
    | none => return .error (TypeExpr.dotted path last) arguments

/-- What a name without alias, path and arguments means when it is no symbol: a type parameter, or
a using alias. -/
inductive Local where
  | parameter
  | expansion (target : TypeExpr)

/-- The parameter or alias that a written name is in the header of `d`. -/
def local? (env : Environment) (d : TypeDeclaration) (qualifier : Option String) (path : List Segment)
    (last : Segment) : Option Local :=
  if qualifier.isNone && path.isEmpty && last.arguments.isEmpty then
    if d.parametersInScope.contains last.identifier then some .parameter
    else (env.aliasTarget? d last.identifier).map .expansion
  else none

mutual

/-- Resolves a written type, where `expand` resolves the target of an alias. -/
def resolveWith (env : Environment) (d : TypeDeclaration)
    (expand : TypeExpr → Noted EndlessAlias Ty) : TypeExpr → Noted EndlessAlias Ty
  | .predefined keyword => return .predefined keyword
  | .array element rank => return .array (← resolveWith env d expand element) rank
  | .nullable inner => return .nullable (← resolveWith env d expand inner)
  | .tuple elements => return .tuple (← resolveElements env d expand elements)
  | .raw text => return .error text []
  | .name qualifier path (.segment identifier written) => do
    let arguments ← resolveArguments env d expand written
    match env.local? d qualifier path (.segment identifier written) with
    | some .parameter => return .param identifier
    | some (.expansion target) => expand target
    | none => env.nameMeaning d qualifier path (.segment identifier written) arguments

def resolveArguments (env : Environment) (d : TypeDeclaration)
    (expand : TypeExpr → Noted EndlessAlias Ty) : List TypeExpr → Noted EndlessAlias (List Ty)
  | [] => return []
  | e :: rest => return (← resolveWith env d expand e) :: (← resolveArguments env d expand rest)

def resolveElements (env : Environment) (d : TypeDeclaration)
    (expand : TypeExpr → Noted EndlessAlias Ty) :
    List (TypeExpr × Option String) → Noted EndlessAlias (List (Ty × Option String))
  | [] => return []
  | (e, name) :: rest =>
    return (← resolveWith env d expand e, name) :: (← resolveElements env d expand rest)

end

/-- What the target of an alias means, where `resolve` resolves the types in it. A name is taken
as it stands, with its arguments read where the alias is used. -/
def expandWith (env : Environment) (resolve : TypeExpr → Noted EndlessAlias Ty) :
    TypeExpr → Noted EndlessAlias Ty
  | .name _ path last => do
    let arguments ← last.arguments.mapM resolve
    let name := TypeExpr.dotted path last
    match env.find .exactArity name last.arguments.length with
    | some s => return .named s.key arguments
    | none => return .error name arguments
  | target => resolve target

/-- Resolves a written type with at most `depth` alias expansions inside one another. -/
def resolveWithin (env : Environment) (d : TypeDeclaration) :
    (depth : Nat) → TypeExpr → Noted EndlessAlias Ty
  | 0 => env.resolveWith d fun _ => Noted.fail .endlessAlias
  | depth + 1 => env.resolveWith d (env.expandWith (env.resolveWithin d depth))

/-- What a written type means in the header of `d`. -/
def resolve (env : Environment) (d : TypeDeclaration) (e : TypeExpr) : Noted EndlessAlias Ty :=
  env.resolveWithin d (env.aliasCount d) e

end Environment

end Registrar
