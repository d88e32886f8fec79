/-
A settings text as a tree of nodes. A node has the tag that is written at it, or one that its shape
and text imply; an alias stands for the node with its anchor, which may be around it.
-/
import Registrar.Yaml.Fault

namespace Registrar.Yaml

/-- What a node is read as. -/
inductive Tag where
  | null
  | truth
  | int
  | float
  | text
  | binary
  | moment
  | list
  | mapping
  | set
  /-- A list of pairs, each written as a mapping of one entry. -/
  | pairs
  /-- The key whose value is merged into the mapping around it. -/
  | merge
  /-- The key whose value stands for the mapping around it. -/
  | value
  | unknown (name : String)
  deriving DecidableEq, Repr

/-- The tag with a full name. -/
def Tag.ofName (name : String) : Tag :=
  match (name.dropPrefix? "tag:yaml.org,2002:").map (·.toString) with
  | some "null" => null
  | some "bool" => truth
  | some "int" => int
  | some "float" => float
  | some "str" => text
  | some "binary" => binary
  | some "timestamp" => moment
  | some "seq" => list
  | some "map" => mapping
  | some "set" => set
  | some "omap" | some "pairs" => pairs
  | some "merge" => merge
  | some "value" => value
  | _ => unknown name

inductive Node where
  | scalar (tag : Tag) (text : String)
  | sequence (tag : Tag) (items : List Node)
  | mapping (tag : Tag) (entries : List (Node × Node))
  | aliasTo (anchor : String)

/-- A text read: its root, unless there is nothing in it, and the nodes with anchors. -/
structure Document where
  root : Option Node
  anchors : List (String × Node)

end Registrar.Yaml
