/-
The value of a document. A mapping is read with the mappings that its `<<` keys name merged in front
of its own entries, so that its own ones prevail. Before any value is used, `check` looks at every
node: at what is in a collection when the collection's turn comes, level by level from the root.
-/
import Registrar.Yaml.Parser
import Registrar.Yaml.Value

namespace Registrar.Yaml

mutual

/-- How deep nodes lie inside one another. -/
def Node.depth : Node → Nat
  | .scalar .. | .aliasTo _ => 1
  | .sequence _ items => depths items + 1
  | .mapping _ entries => entryDepths entries + 1

def depths : List Node → Nat
  | [] => 0
  | n :: rest => max n.depth (depths rest)

def entryDepths : List (Node × Node) → Nat
  | [] => 0
  | (k, v) :: rest => max (max k.depth v.depth) (entryDepths rest)

end

def Node.tag? : Node → Option Tag
  | .scalar tag _ | .sequence tag _ | .mapping tag _ => some tag
  | .aliasTo _ => none

namespace Document

/-- The node itself, or the one that an alias stands for. -/
def follow (d : Document) : Node → Option Node
  | .aliasTo name => d.anchors.lookup name
  | n => some n

/-- How deep the nodes of a document lie inside one another. -/
def depth (d : Document) : Nat :=
  max ((d.root.map Node.depth).getD 0) (depths (d.anchors.map Prod.snd))

def hasTag (d : Document) (tag : Tag) (n : Node) : Bool :=
  (d.follow n).any fun n => n.tag? == some tag

/-! ## Merging -/

/-- Entries with those of the merged mappings in front, the last mapping of a list first. Of a
mapping that is being merged already nothing is taken again. -/
def mergeFrom (d : Document) : (fuel : Nat) → (names : List String) → List (Node × Node) →
    Except Fault (List (Node × Node))
  | 0, _, _ => .error .malformed
  | fuel + 1, names, entries => do
    let mapping := fun (n : Node) =>
      match n with
      | .mapping _ entries => d.mergeFrom fuel names entries
      | .aliasTo name =>
        match d.anchors.lookup name with
        | some (.mapping _ entries) =>
          if names.contains name then .ok [] else d.mergeFrom fuel (name :: names) entries
        | _ => .error .malformed
      | _ => .error .malformed
    let merged ← (entries.filter fun (k, _) => d.hasTag .merge k).mapM fun (_, v) =>
      match d.follow v with
      | some (.sequence _ items) => do return (← items.mapM mapping).reverse.flatten
      | _ => mapping v
    return merged.flatten ++ entries.filter fun (k, _) => !d.hasTag .merge k

/-- The entries of a mapping, those merged into it in front. -/
def entries (d : Document) (own : List (Node × Node)) : Except Fault (List (Node × Node)) :=
  d.mergeFrom ((d.anchors.length + 1) * (d.depth + 1)) [] own

/-! ## Values -/

/-- The text of a scalar, or of the scalar that a mapping has under the key `=`. -/
def textOf (d : Document) : (fuel : Nat) → Node → Except Fault String
  | 0, _ => .error .malformed
  | fuel + 1, n =>
    match d.follow n with
    | some (.scalar _ text) => .ok text
    | some (.mapping _ entries) =>
      match entries.find? fun (k, _) => d.hasTag .value k with
      | some (_, v) => textOf d fuel v
      | none => .error .malformed
    | _ => .error .malformed

/-- The value of a node. -/
def value (d : Document) (n : Node) : Except Fault Value :=
  match d.follow n with
  | none => .error .malformed
  | some n =>
    match n, n.tag? with
    | .sequence _ items, some .list => .ok (.list items)
    | .mapping _ entries, some .mapping => (d.entries entries).map .mapping
    | .mapping _ entries, some .set => (d.entries entries).map fun es => .group es.isEmpty
    | .sequence _ items, some .pairs => .ok (.group items.isEmpty)
    | n, tag => do readScalar (tag.getD .null) (← d.textOf (d.anchors.length + d.depth + 1) n)

/-- The value of a key, where `=` is a text. -/
def keyValue (d : Document) (n : Node) : Except Fault Value :=
  match d.follow n with
  | some (.scalar .value text) => .ok (.text text)
  | _ => d.value n

/-! ## Checking -/

/-- Whether nodes with the tag hold others. -/
def isCollectionTag : Tag → Bool
  | .list | .mapping | .set | .pairs => true
  | _ => false

/-- Whether the value of a node is a collection. -/
def isCollection (d : Document) (n : Node) : Bool :=
  ((d.follow n).bind Node.tag?).any isCollectionTag

/-- Checks a node whose turn has come, except for what is in it. -/
def checkOuter (d : Document) (n : Node) : Except Fault Unit :=
  if d.isCollection n then .ok () else do
    let _ ← d.value n

/-- Checks an entry of a mapping. A key is no collection. -/
def checkEntry (d : Document) (entry : Node × Node) : Except Fault Unit := do
  if d.isCollection entry.1 then .error .malformed
  let _ ← d.keyValue entry.1
  d.checkOuter entry.2

/-- Checks an item of a list of pairs. -/
def checkPair (d : Document) (n : Node) : Except Fault (List Node) :=
  match d.follow n with
  | some (.mapping _ [(k, v)]) => do
    d.checkOuter k
    d.checkOuter v
    return [k, v]
  | _ => .error .malformed

/-- Checks what is in a collection and gives it; an alias is checked where its node stands. -/
def checkInner (d : Document) (n : Node) : Except Fault (List Node) :=
  match n, n.tag? with
  | .sequence _ items, some .list => do
    items.forM d.checkOuter
    return items
  | .mapping _ own, some .mapping | .mapping _ own, some .set => do
    let es ← d.entries own
    es.forM d.checkEntry
    return es.map Prod.snd
  | .sequence _ items, some .pairs => do return (← items.mapM d.checkPair).flatten
  | .aliasTo _, _ => .ok []
  | _, some tag => if isCollectionTag tag then .error .malformed else .ok []
  | _, none => .ok []

/-- Checks nodes, and then what is in them. -/
def checkLevels (d : Document) : (fuel : Nat) → List Node → Except Fault Unit
  | 0, _ => .ok ()
  | fuel + 1, ns => do
    if ns.isEmpty then return
    d.checkLevels fuel (← ns.mapM d.checkInner).flatten

/-- The value of the root, `null` when there is none; every node is checked. -/
def load (d : Document) : Except Fault Value :=
  match d.root with
  | none => .ok .null
  | some root => do
    d.checkOuter root
    d.checkLevels (d.depth + 1) [root]
    d.value root

end Document

/-- A text read and checked: its document and the value of the root. -/
def load (text : String) : Except Fault (Document × Value) := do
  let d ← Document.read text
  return (d, ← d.load)

end Registrar.Yaml
