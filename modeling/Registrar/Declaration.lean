/-
Type declarations and where they stand. A `TypeDeclaration` carries its namespace, the types that
enclose it and the using scopes it sees; `declarations` finds those of a syntax tree in the order
of the text, an enclosing type before the types inside it.

A namespace or a type is entered through its body only, closed parts and types are not entered,
and every other node is. A namespace that holds for the rest of the file applies to the nodes that
follow it.
-/
import Registrar.Using
import Registrar.Text.Dotted

namespace Registrar

/-- A type around a declaration, as far as name lookup sees it. -/
structure Enclosing where
  name : Option String
  typeParameters : List String
  ns : String
  deriving DecidableEq, Repr

/-- A type declaration, with the context in which its header is read. -/
structure TypeDeclaration where
  unitPath : String
  kind : TypeKind
  /-- None when the name is missing or empty. -/
  name : Option String
  typeParameters : List String
  bases : List TypeExpr
  ns : String
  /-- The enclosing types, innermost first. -/
  containers : List Enclosing
  /-- The using scopes around the declaration, innermost first. -/
  scopes : List UsingScope
  isPartial : Bool
  line : Nat

/-- The name of a type from its own name, those of the enclosing types, innermost first, and the
namespace; none when one of them has no name. -/
def qualifiedName? (name : Option String) (containers : List Enclosing) (ns : String) :
    Option String :=
  ((name :: containers.map Enclosing.name).mapM id).map fun names =>
    Text.qualify ns (".".intercalate names.reverse)

namespace TypeDeclaration

def arity (d : TypeDeclaration) : Nat :=
  d.typeParameters.length

def qualifiedName? (d : TypeDeclaration) : Option String :=
  Registrar.qualifiedName? d.name d.containers d.ns

/-- The declaration as the types inside it see it. -/
def asContainer (d : TypeDeclaration) : Enclosing :=
  ⟨d.name, d.typeParameters, d.ns⟩

/-- The qualified names of the enclosing types that have one, innermost first. -/
def containerNames (d : TypeDeclaration) : List String :=
  go d.containers
where
  go : List Enclosing → List String
    | [] => []
    | c :: rest => (Registrar.qualifiedName? c.name rest c.ns).toList ++ go rest

/-- The type parameters that the header may mention: its own and those of the enclosing types. -/
def parametersInScope (d : TypeDeclaration) : List String :=
  d.typeParameters ++ d.containers.flatMap Enclosing.typeParameters

end TypeDeclaration

/-- The surroundings in which members are read. -/
structure Surroundings where
  unitPath : String
  ns : String
  containers : List Enclosing
  scopes : List UsingScope

namespace Surroundings

/-- The surroundings inside the namespace `ns`, whose directives stand among `nodes`. -/
def enter (here : Surroundings) (ns : String) (nodes : List Tree.Node) : Surroundings :=
  { here with ns := ns, scopes := ⟨ns, ownDirectives nodes⟩ :: here.scopes }

/-- The surroundings inside the type `d`. -/
def inside (here : Surroundings) (d : TypeDeclaration) : Surroundings :=
  { here with containers := d.asContainer :: here.containers }

end Surroundings

open Registrar.Tree

/-- The name that a namespace declaration gives, without blanks. -/
def namespaceName (children : List Node) : String :=
  match child? .name children <|> firstNamed? Kind.isName children with
  | some n => Text.dropBlanks n.text
  | none => ""

/-- The names in a type parameter list. -/
def parameterNames (list : Node) : List String :=
  (list.children.filter (·.isNamedOf (· == .typeParameter))).filterMap fun parameter =>
    (child? .name parameter.children <|> firstNamed? (· == .identifier) parameter.children).map
      (identifierName ·.text)

/-- The entries of a base list that are types. -/
def baseTypes (list : Node) : List TypeExpr :=
  list.namedChildren.filterMap fun entry =>
    if entry.kind.isType then some (TypeExpr.ofNode entry)
    else if entry.kind == .baseWithArguments then
      (firstNamed? Kind.isType entry.children).map TypeExpr.ofNode
    else none

/-- What `f` gives for the last of the nodes of kind `kind`. -/
def lastOf (kind : Kind) (f : Node → List α) (nodes : List Node) : List α :=
  (nodes.reverse.find? (·.kind == kind)).elim [] f

/-- The declaration that a node with the keyword `keyword` makes, without the types inside it. -/
def declarationOf (here : Surroundings) (keyword : TypeKind) (row : Nat) (children : List Node) :
    TypeDeclaration where
  unitPath := here.unitPath
  kind :=
    if keyword == .record && children.any (·.kind == .structWord) then .struct else keyword
  name := ((child? .name children).map (identifierName ·.text)).filter (!·.isEmpty)
  typeParameters := lastOf .typeParameterList parameterNames children
  bases := lastOf .baseList baseTypes children
  ns := here.ns
  containers := here.containers
  scopes := here.scopes
  isPartial := children.any fun n => n.kind == .modifier && Text.trim n.text == "partial"
  line := row + 1

/-- The surroundings of the nodes behind `n`: a namespace without a body holds for all of them. -/
def Surroundings.after (here : Surroundings) : Node → Surroundings
  | .node .namespaceFile _ true _ _ children =>
    here.enter (Text.extend here.ns (namespaceName children)) children
  | _ => here

mutual

/-- The declarations that a named node makes: itself, if it declares a type, and those below it. -/
def declarationsOf (here : Surroundings) : Node → List TypeDeclaration
  | .node kind _ _ _ row children =>
    match kind with
    | .namespaceBlock =>
      let ns := Text.extend here.ns (namespaceName children)
      bodyDeclarations (here.enter ns) (bodyIndex? children) children
    | .namespaceFile =>
      memberDeclarations (here.enter (Text.extend here.ns (namespaceName children)) children)
        children
    | .typeDeclaration keyword =>
      let d := declarationOf here keyword row children
      d :: bodyDeclarations (fun _ => here.inside d) (bodyIndex? children) children
    | kind => if kind.isClosed || kind.isType then [] else memberDeclarations here children

/-- The declarations among the named ones of the nodes and below them. -/
def memberDeclarations (here : Surroundings) : List Node → List TypeDeclaration
  | [] => []
  | n :: rest =>
    (if n.isNamed then declarationsOf here n else []) ++ memberDeclarations (here.after n) rest

/-- The declarations among the members of a body; what surrounds them may depend on them. -/
def declarationsInBody (here : List Node → Surroundings) : Node → List TypeDeclaration
  | .node _ _ _ _ _ children => memberDeclarations (here children) children

/-- The declarations in the body, which stands at the given index among the nodes. -/
def bodyDeclarations (here : List Node → Surroundings) : Option Nat → List Node →
    List TypeDeclaration
  | none, _ => []
  | some _, [] => []
  | some 0, body :: _ => declarationsInBody here body
  | some (i + 1), _ :: rest => bodyDeclarations here (some i) rest

end

/-- For each declaration in the order of the text, the position of the type directly around it:
the last one before it that lies one type further out. -/
def parentPositions (ds : List TypeDeclaration) : List (Option Nat) :=
  go [] 0 ds
where
  /-- `around` holds the positions of the types around the last declaration and its own, innermost
  first. -/
  go (around : List Nat) (i : Nat) : List TypeDeclaration → List (Option Nat)
    | [] => []
    | d :: rest =>
      let outer := around.drop (around.length - d.containers.length)
      outer.head? :: go (i :: outer) (i + 1) rest

end Registrar
