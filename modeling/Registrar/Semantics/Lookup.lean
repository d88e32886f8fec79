/-
Name lookup. A name of one segment is looked for in the enclosing types and then, level by level,
in the enclosing namespaces: a member of a namespace comes before what the using directives of that
level import, and two imported meanings on one level are a clash that ends the search.
-/
import Registrar.Semantics.Environment

namespace Registrar

/-- Whether a symbol must have the arity that is asked for. -/
inductive Precision where
  | exactArity | anyArity
  deriving DecidableEq, Repr

/-- What a name was found to mean. -/
inductive Meaning where
  | found (s : Symbol)
  | clash (candidates : List Symbol)
  | missing

namespace Meaning

def symbol? : Meaning → Option Symbol
  | found s => some s
  | _ => none

/-- The meaning, or another one when nothing was found. -/
def orElse (m other : Meaning) : Meaning :=
  match m with
  | missing => other
  | m => m

/-- What is remarked on the meaning of `name`. -/
def remarks (name : String) : Meaning → List Note
  | clash candidates => [.nameClash name (candidates.map (·.key.name))]
  | _ => []

end Meaning

namespace Environment

/-- The unambiguous symbol of a qualified name. For any arity it is the first in the table. -/
def find (env : Environment) (precision : Precision) (name : String) (arity : Int) :
    Option Symbol :=
  match precision with
  | .exactArity => (env.table.get? ⟨name, arity⟩).filter (!·.isAmbiguous)
  | .anyArity => (env.table.named name).find? (!·.isAmbiguous)

/-- The using scopes that a declaration's header sees, the global one last. -/
def scopesOf (env : Environment) (d : TypeDeclaration) : List UsingScope :=
  d.scopes ++ [env.globalScope]

/-- A namespace that a directive names, as it stands and as a member of its own level, in the
order of the text. -/
def readingsOf (level imported : String) : List String :=
  let inner := Text.qualify level imported
  if inner = imported then [imported]
  else if imported < inner then [imported, inner] else [inner, imported]

/-- The qualified names that the directives of one level give to `name`, in their order. -/
def importedNames (scopes : List UsingScope) (level name : String) : List String :=
  (scopes.filter (·.ns == level)).flatMap fun scope =>
    (scope.namespaces.flatMap (readingsOf level)).map (· ++ "." ++ name)

/-- The different symbols among some, each at its first place. -/
def distinct (symbols : List Symbol) : List Symbol :=
  symbols.foldl (fun kept s => if kept.any (·.key == s.key) then kept else kept ++ [s]) []

/-- What `name` means on one namespace level: a member, or else what is imported there. -/
def meaningAt (env : Environment) (scopes : List UsingScope) (precision : Precision)
    (name : String) (arity : Int) (level : String) : Meaning :=
  match env.find precision (Text.qualify level name) arity with
  | some s => .found s
  | none =>
    match distinct ((importedNames scopes level name).filterMap
        fun full => env.find precision full arity) with
    | [] => .missing
    | [s] => .found s
    | several => .clash several

/-- The type `name` inside the nearest of the enclosing types that has it. -/
def nestedIn (env : Environment) (precision : Precision) (name : String) (arity : Int)
    (containers : List String) : Option Symbol :=
  containers.findSome? fun container => env.find precision (container ++ "." ++ name) arity

/-- What `name` means on the nearest of the levels that give it a meaning. -/
def meaningIn (env : Environment) (scopes : List UsingScope) (precision : Precision)
    (name : String) (arity : Int) : List String → Meaning
  | [] => .missing
  | level :: outer =>
    (env.meaningAt scopes precision name arity level).orElse
      (env.meaningIn scopes precision name arity outer)

/-- What a name of one segment means in the header of `d`. -/
def lookupSimple (env : Environment) (d : TypeDeclaration) (precision : Precision) (name : String)
    (arity : Int) : Meaning :=
  match env.nestedIn precision name arity d.containerNames with
  | some s => .found s
  | none => env.meaningIn (env.scopesOf d) precision name arity (Text.enclosing d.ns)

/-- The symbol that the segments after `head` name inside what the aliases called `head` stand
for, the nearest such alias first. -/
def findBehindAlias (env : Environment) (d : TypeDeclaration) (precision : Precision)
    (head rest : String) (arity : Int) : Option Symbol :=
  (env.scopesOf d).findSome? fun scope =>
    match scope.aliasTarget? head with
    | some (.name _ path last) => env.find precision (TypeExpr.dotted path last ++ "." ++ rest) arity
    | _ => none

/-- The symbol that a written name means in the header of `d`. A name behind `global::` is taken as
it stands, one behind another alias has no meaning. A dotted name is looked for behind the type
that its first segment means, then in the enclosing namespaces, then behind a using alias. -/
def lookupName (env : Environment) (d : TypeDeclaration) (precision : Precision)
    (qualifier : Option String) (path : List Segment) (last : Segment) : Noted ε (Option Symbol) := do
  let arity : Int := last.arguments.length
  match qualifier, path with
  | some qualifier, _ =>
    if qualifier = "global" then return env.find precision (TypeExpr.dotted path last) arity
    else return none
  | none, [] =>
    let meaning := env.lookupSimple d precision last.identifier arity
    Noted.noteAll (meaning.remarks last.identifier)
    return meaning.symbol?
  | none, head :: inner =>
    let rest := TypeExpr.dotted inner last
    let meaning := env.lookupSimple d .exactArity head.identifier head.arguments.length
    Noted.noteAll (meaning.remarks head.identifier)
    return (meaning.symbol?.bind fun s => env.find precision (s.key.name ++ "." ++ rest) arity)
      <|> ((Text.enclosing d.ns).findSome? fun ns =>
        env.find precision (Text.qualify ns (TypeExpr.dotted path last)) arity)
      <|> env.findBehindAlias d precision head.identifier rest arity

end Environment

end Registrar
