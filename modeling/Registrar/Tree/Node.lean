/-
Syntax trees. A node has its kind, the text it covers, and its children in the order of the text;
words and signs of the language are unnamed children. A child is found by the part it plays
(`child?`) or by its kind among the named ones (`firstNamed?`).
-/
import Registrar.Tree.Kind
import Registrar.Text.Blank

namespace Registrar.Tree

/-- A node of a syntax tree. `row` counts the line ends before the node. -/
inductive Node where
  | node (kind : Kind) (text : String) (named : Bool) (role : Option Role) (row : Nat)
      (children : List Node)

namespace Node

def kind : Node → Kind
  | node kind .. => kind

def text : Node → String
  | node _ text .. => text

def isNamed : Node → Bool
  | node _ _ named .. => named

def role : Node → Option Role
  | node _ _ _ role .. => role

def row : Node → Nat
  | node _ _ _ _ row _ => row

def children : Node → List Node
  | node _ _ _ _ _ children => children

def namedChildren (n : Node) : List Node :=
  n.children.filter isNamed

/-- Plays the part `part` in its parent. -/
def plays (part : Role) (n : Node) : Bool :=
  n.role == some part

/-- A named node of a kind that `p` accepts. -/
def isNamedOf (p : Kind → Bool) (n : Node) : Bool :=
  n.isNamed && p n.kind

end Node

/-- The first of the nodes that plays the part, named or not. -/
def child? (part : Role) (nodes : List Node) : Option Node :=
  nodes.find? (·.plays part)

/-- The first named one of the nodes whose kind `p` accepts. -/
def firstNamed? (p : Kind → Bool) (nodes : List Node) : Option Node :=
  nodes.find? (·.isNamedOf p)

/-- Where the body stands among the children of a declaration: the child that plays that part, or
else the first named pair of braces. -/
def bodyIndex? (nodes : List Node) : Option Nat :=
  nodes.findIdx? (·.plays .body) <|> nodes.findIdx? (·.isNamedOf (· == .body))

/-- The name that an identifier's text gives: blanks around it and the sign that lets a keyword be
an identifier do not belong to it. -/
def identifierName (text : String) : String :=
  match (Text.trim text).toList with
  | '@' :: rest => String.ofList rest
  | cs => String.ofList cs

end Registrar.Tree
