/-
Types as they are written in a source: names with their type arguments, predefined types, arrays,
nullable types and tuples. A form that is not told apart further is kept as text. `ofNode` reads a
type off a syntax node.
-/
import Registrar.Tree.Node

namespace Registrar

mutual

/-- A written type. -/
inductive TypeExpr where
  /-- A dotted name, `path` before the last segment, perhaps behind `alias::`. -/
  | name (qualifier : Option String) (path : List Segment) (last : Segment)
  | predefined (keyword : String)
  | array (element : TypeExpr) (rank : Int)
  | nullable (inner : TypeExpr)
  | tuple (elements : List (TypeExpr × Option String))
  | raw (text : String)

/-- One part of a dotted name, with its own type arguments. -/
inductive Segment where
  | segment (identifier : String) (arguments : List TypeExpr)

end

instance : Inhabited TypeExpr := ⟨.raw ""⟩

def Segment.identifier : Segment → String
  | segment identifier _ => identifier

def Segment.arguments : Segment → List TypeExpr
  | segment _ arguments => arguments

namespace TypeExpr

/-- The identifiers of a name with dots between them, without type arguments. -/
def dotted (path : List Segment) (last : Segment) : String :=
  ".".intercalate ((path ++ [last]).map Segment.identifier)

/-- The plain name `identifier<arguments>`. -/
def simple (identifier : String) (arguments : List TypeExpr) : TypeExpr :=
  name none [] (.segment identifier arguments)

open Registrar.Tree

/-- A node with the type that it reads as. -/
abbrev Reading := Node × TypeExpr

/-- The index of the child that plays `part`, or else of the one that `fallback` gives. -/
def sideIndex? (part : Role) (fallback : Option Nat) (children : List Node) : Option Nat :=
  children.findIdx? (·.plays part) <|> fallback

/-- The index of the last named child. -/
def lastNamedIndex? (children : List Node) : Option Nat :=
  (children.reverse.findIdx? Node.isNamed).map fun i => children.length - 1 - i

/-- A dotted name from its two sides, when they are different children and both read as names. -/
def joinSides (text : String) (children : List Reading) : TypeExpr :=
  let nodes := children.map Prod.fst
  let left := sideIndex? .qualifier (nodes.findIdx? Node.isNamed) nodes
  let right := sideIndex? .name (lastNamedIndex? nodes) nodes
  match left, right with
  | some i, some j =>
    match if i = j then none else children[i]?, children[j]? with
    | some (_, name qualifier path last), some (_, name _ tailPath tailLast) =>
      name qualifier (path ++ last :: tailPath) tailLast
    | _, _ => raw (Text.squeeze text)
  | _, _ => raw (Text.squeeze text)

/-- The characters before the first `::`, or all of them. -/
def beforeColons : List Char → List Char
  | ':' :: ':' :: _ => []
  | [] => []
  | c :: rest => c :: beforeColons rest

/-- A name behind an alias, when the child after the colons reads as a name. -/
def joinAlias (text : String) (children : List Reading) : TypeExpr :=
  let nodes := children.map Prod.fst
  match (sideIndex? .name (lastNamedIndex? nodes) nodes).bind (children[·]?) with
  | some (_, name _ path last) =>
    name (some (Text.trim (String.ofList (beforeColons text.toList)))) path last
  | _ => raw (Text.squeeze text)

/-- The reading of the child that plays the part of the type, or else of the first type. -/
def partType? (children : List Reading) : Option TypeExpr :=
  (children.find? (·.1.plays .type) <|> children.find? (·.1.isNamedOf Kind.isType)).map Prod.snd

/-- The rank of an array: one more than the commas between its brackets. -/
def arrayRank (children : List Node) : Nat :=
  match child? .rank children <|> firstNamed? (· == .arrayRank) children with
  | some brackets => brackets.text.toList.count ',' + 1
  | none => 1

/-- The arguments of a generic name: the types in its first argument list. -/
def argumentsOf (children : List (Node × List Reading)) : List TypeExpr :=
  match children.find? (·.1.isNamedOf (· == .typeArguments)) with
  | some (_, parts) => (parts.filter (·.1.isNamedOf Kind.isType)).map Prod.snd
  | none => []

/-- The elements of a tuple, or none when one of them has no type. -/
def elementsOf (children : List (Node × List Reading)) :
    Option (List (TypeExpr × Option String)) :=
  (children.filter (·.1.isNamedOf (· == .tupleElement))).mapM fun (element, parts) => do
    let type ← partType? parts
    return (type, (child? .name element.children).map (identifierName ·.text))

mutual

/-- The type that a node reads as. -/
def ofNode : Node → TypeExpr
  | .node kind text _ _ _ children =>
    match kind with
    | .identifier => simple (identifierName text) []
    | .genericName =>
      simple ((firstNamed? (· == .identifier) children).elim "" (identifierName ·.text))
        (argumentsOf (partsOf children))
    | .qualifiedName => joinSides text (readings children)
    | .aliasQualifiedName => joinAlias text (readings children)
    | .predefinedType => predefined (Text.trim text)
    | .arrayType =>
      match partType? (readings children) with
      | some element => array element (arrayRank children)
      | none => raw (Text.squeeze text)
    | .nullableType =>
      match partType? (readings children) with
      | some inner => nullable inner
      | none => raw (Text.squeeze text)
    | .tupleType =>
      match elementsOf (partsOf children) with
      | some elements => tuple elements
      | none => raw (Text.squeeze text)
    | _ => raw (Text.squeeze text)

/-- Each node with the type that it reads as. -/
def readings : List Node → List Reading
  | [] => []
  | n :: rest => (n, ofNode n) :: readings rest

/-- Each node with the readings of its children. -/
def partsOf : List Node → List (Node × List Reading)
  | [] => []
  | .node kind text named role row children :: rest =>
    (.node kind text named role row children, readings children) :: partsOf rest

end

theorem readings_eq_map (nodes : List Node) : readings nodes = nodes.map fun n => (n, ofNode n) := by
  induction nodes with
  | nil => rfl
  | cons n rest ih => simp [readings, ih]

theorem partsOf_eq_map (nodes : List Node) :
    partsOf nodes = nodes.map fun n => (n, readings n.children) := by
  induction nodes with
  | nil => rfl
  | cons n rest ih => cases n; simp [partsOf, ih, Node.children]

end TypeExpr

end Registrar
