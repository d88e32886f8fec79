/-
Using directives. A directive's flags and alias are read off its text (`Head.read`), its target off
the node's children (`targetOf`). A `UsingScope` holds the directives of one namespace level.
-/
import Registrar.Text.Word
import Registrar.TypeExpr

namespace Registrar

/-- A using directive: the text as written and what name lookup needs of it. -/
structure Directive where
  text : String
  target : Option TypeExpr
  aliasName : Option String
  isStatic : Bool
  isGlobal : Bool
  deriving Inhabited

namespace Directive

/-- What the words in front of a directive's target say. -/
structure Head where
  isGlobal : Bool
  isStatic : Bool
  aliasName : Option String
  deriving DecidableEq, Repr

/-- What follows the word `word` and the blanks behind it; there must be one. -/
def afterWord? (word : String) (cs : List Char) : Option (List Char) :=
  match word.toList.isPrefixOf? cs with
  | some (c :: rest) => if Text.isBlank c then some (Text.trimStart rest) else none
  | _ => none

/-- Whether the word comes next, and what is left behind it. -/
def optionalWord (word : String) (cs : List Char) : Bool × List Char :=
  match afterWord? word cs with
  | some rest => (true, rest)
  | none => (false, cs)

/-- A name with an equals sign after it: the name, without the sign that lets a keyword stand for
an identifier. -/
def aliasName? (cs : List Char) : Option String :=
  let name := match cs with
    | '@' :: rest => rest
    | _ => cs
  let found := name.takeWhile Text.isWordChar
  match found, Text.trimStart (name.dropWhile Text.isWordChar) with
  | _ :: _, '=' :: _ => some (String.ofList found)
  | _, _ => none

/-- Reads `global`, `using`, `static`, `unsafe` and an alias, in this order; all but `using` may
be missing. Words are set apart by blanks, and text that does not begin so says nothing. -/
def Head.read (cs : List Char) : Head :=
  let (isGlobal, cs) := optionalWord "global" cs
  match afterWord? "using" cs with
  | none => ⟨false, false, none⟩
  | some cs =>
    let (isStatic, cs) := optionalWord "static" cs
    let (_, cs) := optionalWord "unsafe" cs
    ⟨isGlobal, isStatic, aliasName? cs⟩

/-- The target among a directive's children: the last type behind an equals sign, or else the
first type. -/
def targetOf (children : List Tree.Node) : Option TypeExpr :=
  (children.foldl step (none, false)).1
where
  /-- The target so far, and whether an equals sign has passed. -/
  step (state : Option TypeExpr × Bool) (child : Tree.Node) : Option TypeExpr × Bool :=
    if child.kind == .equalsSign then (none, true)
    else if child.isNamedOf Tree.Kind.isType && (state.1.isNone || state.2) then
      (some (TypeExpr.ofNode child), state.2)
    else state

/-- The directive that a node stands for. -/
def ofNode (n : Tree.Node) : Directive :=
  let text := Text.trim n.text
  let head := Head.read text.toList
  ⟨text, targetOf n.children, head.aliasName, head.isStatic, head.isGlobal⟩

/-- The namespace that a plain directive imports. -/
def importedNamespace? (d : Directive) : Option String :=
  match d.aliasName, d.isStatic, d.target with
  | none, false, some (.name _ path last) => some (TypeExpr.dotted path last)
  | _, _, _ => none

end Directive

/-- The directives that stand directly among the nodes. -/
def ownDirectives (nodes : List Tree.Node) : List Directive :=
  (nodes.filter (·.isNamedOf (· == .usingDirective))).map Directive.ofNode

mutual

/-- The directives of a file or namespace, in the order of the text, those inside conditional
sections included. -/
def directivesOf : Tree.Node → List Directive
  | .node kind text named role row children =>
    match kind with
    | .usingDirective => [Directive.ofNode (.node kind text named role row children)]
    | .typeDeclaration _ => []
    | kind => if kind.isClosed then [] else allDirectives children

/-- The directives of the named ones among the nodes. -/
def allDirectives : List Tree.Node → List Directive
  | [] => []
  | n :: rest => (if n.isNamed then directivesOf n else []) ++ allDirectives rest

end

/-- The directives attached to one namespace level; the level of the file is `""`. -/
structure UsingScope where
  ns : String
  directives : List Directive

namespace UsingScope

/-- What the alias `name` stands for on this level. -/
def aliasTarget? (scope : UsingScope) (name : String) : Option TypeExpr :=
  (scope.directives.find? (·.aliasName == some name)).bind Directive.target

/-- The namespaces that the plain directives of this level import. -/
def namespaces (scope : UsingScope) : List String :=
  (scope.directives.filterMap Directive.importedNamespace?).filter (!·.isEmpty)

end UsingScope

end Registrar
