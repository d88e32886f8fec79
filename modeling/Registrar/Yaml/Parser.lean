/-
From tokens to a tree of nodes. Each function reads one thing off the front of the tokens; `fuel`
bounds how often they call one another, and there are always enough tokens for it.

An anchor holds from its node on, inside of the node too, so the names of all anchors that have
begun are kept apart from the nodes that have ended.
-/
import Registrar.Yaml.Implicit
import Registrar.Yaml.Scanner

namespace Registrar.Yaml

/-- What is left to read, and what is known so far. -/
structure Reading where
  tokens : List Token
  /-- What ends the tokens, unless it is the end of the text. -/
  fault : Option Fault
  /-- What tag handles stand for. -/
  handles : List (String × String)
  /-- The anchors that have begun. -/
  begun : List String
  /-- The nodes with anchors that have ended. -/
  anchors : List (String × Node)

/-- A computation that reads tokens. -/
abbrev Parser := StateT Reading (Except Fault)

namespace Parser

def malformed : Parser α := fun _ => .error .malformed

/-- The next token; none at the end of the text. -/
def peek : Parser (Option Token) := fun r =>
  match r.tokens, r.fault with
  | t :: _, _ => .ok (some t, r)
  | [], none => .ok (none, r)
  | [], some fault => .error fault

def next : Parser Unit := fun r => .ok ((), { r with tokens := r.tokens.drop 1 })

/-- Whether one of the tokens comes next. -/
def isNext (ts : List Token) : Parser Bool := do
  match ← peek with
  | some t => return ts.contains t
  | none => return false

/-- Reads the token if it comes next. -/
def accept (t : Token) : Parser Bool := do
  if ← isNext [t] then
    next
    return true
  else return false

/-- Reads the token, which must come next. -/
def expect (t : Token) : Parser Unit := do
  if !(← accept t) then malformed

/-- A scalar that is not there. -/
def absent : Node := .scalar .null ""

/-! ## Properties -/

def anchor? : Parser (Option String) := do
  match ← peek with
  | some (.anchor name) =>
    next
    return some name
  | _ => return none

/-- A tag that is written, by its full name. -/
def tag? : Parser (Option String) := do
  match ← peek with
  | some (.tag handle suffix) =>
    next
    match handle with
    | none => return some suffix
    | some handle =>
      match (← get).handles.lookup handle with
      | some expansion => return some (expansion ++ suffix)
      | none => malformed
  | _ => return none

/-- The anchor and the tag in front of a node, in either order. -/
def properties : Parser (Option String × Option String) := do
  match ← anchor? with
  | some name => return (some name, ← tag?)
  | none =>
    let tag ← tag?
    return (← if tag.isSome then anchor? else pure none, tag)

/-- The tag of a node: the one that is written, unless it is `!` alone. -/
def tagOr (implied : Tag) (written : Option String) : Tag :=
  match written with
  | none | some "!" => implied
  | some name => .ofName name

/-- The tag of a scalar. Quotes make a text of it, unless `!` is written. -/
def scalarTag (written : Option String) (isPlain : Bool) (text : String) : Tag :=
  tagOr (if isPlain || written == some "!" then .ofText text else .text) written

/-- Begins a node with an anchor, which no other node has. -/
def beginAnchor (name : Option String) : Parser Unit := do
  match name with
  | none => return
  | some name =>
    if (← get).begun.contains name then malformed
    else modify fun r => { r with begun := name :: r.begun }

/-- Ends a node with an anchor. -/
def endAnchor (name : Option String) (n : Node) : Parser Node := do
  match name with
  | none => return n
  | some name =>
    modify fun r => { r with anchors := (name, n) :: r.anchors }
    return n

/-- Reads a node, unless one of the tokens comes next, which leave it out. -/
def nodeUnless (ts : List Token) (node : Parser Node) : Parser Node := do
  if ← isNext ts then return absent else node

/-! ## Nodes -/

mutual

/-- A node; `inBlock` tells whether blocks may begin, and `inMapping` whether entries may stand as
deep as the mapping around them. -/
def node (inBlock inMapping : Bool) : (fuel : Nat) → Parser Node
  | 0 => malformed
  | fuel + 1 => do
    if let some (.aliasTo name) ← peek then
      next
      if (← get).begun.contains name then return .aliasTo name else malformed
    let (anchor, tag) ← properties
    match ← peek with
    | some (.scalar isPlain text) =>
      next
      beginAnchor anchor
      endAnchor anchor (.scalar (scalarTag tag isPlain text) text)
    | some .flowSequenceStart =>
      next
      beginAnchor anchor
      endAnchor anchor (.sequence (tagOr .list tag) (← flowSequence true fuel))
    | some .flowMappingStart =>
      next
      beginAnchor anchor
      endAnchor anchor (.mapping (tagOr .mapping tag) (← flowMapping true fuel))
    | t =>
      if inBlock && inMapping && t == some .blockEntry then
        beginAnchor anchor
        endAnchor anchor (.sequence (tagOr .list tag) (← openSequence fuel))
      else if inBlock && t == some .blockSequenceStart then
        next
        beginAnchor anchor
        endAnchor anchor (.sequence (tagOr .list tag) (← blockSequence fuel))
      else if inBlock && t == some .blockMappingStart then
        next
        beginAnchor anchor
        endAnchor anchor (.mapping (tagOr .mapping tag) (← blockMapping fuel))
      else if anchor.isSome || tag.isSome then
        beginAnchor anchor
        endAnchor anchor (.scalar (scalarTag tag tag.isNone "") "")
      else malformed

/-- The entries of a block up to its end. -/
def blockSequence : (fuel : Nat) → Parser (List Node)
  | 0 => malformed
  | fuel + 1 => do
    if ← accept .blockEntry then
      let item ← nodeUnless [.blockEntry, .blockEnd] (node true false fuel)
      return item :: (← blockSequence fuel)
    else
      expect .blockEnd
      return []

/-- The entries that stand as deep as the mapping around them. -/
def openSequence : (fuel : Nat) → Parser (List Node)
  | 0 => malformed
  | fuel + 1 => do
    if ← accept .blockEntry then
      let item ← nodeUnless [.blockEntry, .key, .value, .blockEnd] (node true false fuel)
      return item :: (← openSequence fuel)
    else return []

/-- The keys and values of a block up to its end. -/
def blockMapping : (fuel : Nat) → Parser (List (Node × Node))
  | 0 => malformed
  | fuel + 1 => do
    if ← accept .key then
      let key ← nodeUnless [.key, .value, .blockEnd] (node true true fuel)
      let value ←
        if ← accept .value then nodeUnless [.key, .value, .blockEnd] (node true true fuel)
        else pure absent
      return (key, value) :: (← blockMapping fuel)
    else
      expect .blockEnd
      return []

/-- The items up to the closing bracket; a key among them begins a mapping of one entry. -/
def flowSequence (isFirst : Bool) : (fuel : Nat) → Parser (List Node)
  | 0 => malformed
  | fuel + 1 => do
    if ← accept .flowSequenceEnd then return []
    if !isFirst then expect .flowEntry
    if ← accept .flowSequenceEnd then return []
    let item ←
      if ← accept .key then
        let key ← nodeUnless [.value, .flowEntry, .flowSequenceEnd] (node false false fuel)
        let value ←
          if ← accept .value then
            nodeUnless [.flowEntry, .flowSequenceEnd] (node false false fuel)
          else pure absent
        pure (.mapping .mapping [(key, value)])
      else node false false fuel
    return item :: (← flowSequence false fuel)

/-- The keys and values up to the closing brace. -/
def flowMapping (isFirst : Bool) : (fuel : Nat) → Parser (List (Node × Node))
  | 0 => malformed
  | fuel + 1 => do
    if ← accept .flowMappingEnd then return []
    if !isFirst then expect .flowEntry
    if ← accept .flowMappingEnd then return []
    let entry ←
      if ← accept .key then
        let key ← nodeUnless [.value, .flowEntry, .flowMappingEnd] (node false false fuel)
        let value ←
          if ← accept .value then
            nodeUnless [.flowEntry, .flowMappingEnd] (node false false fuel)
          else pure absent
        pure (key, value)
      else pure (← node false false fuel, absent)
    return entry :: (← flowMapping false fuel)

end

/-! ## Documents -/

/-- The tag handles that need no directive. -/
def standardHandles : List (String × String) :=
  [("!", "!"), ("!!", "tag:yaml.org,2002:")]

/-- Reads directives: one version at most, which is 1, and handles that differ. -/
def directives : (fuel : Nat) → (hasVersion : Bool) → (handles : List (String × String)) →
    Parser Unit
  | 0, _, _ => malformed
  | fuel + 1, hasVersion, handles => do
    match ← peek with
    | some (.version major) =>
      next
      if hasVersion || major ≠ 1 then malformed else directives fuel true handles
    | some (.tagHandle handle expansion) =>
      next
      if (handles.lookup handle).isSome then malformed
      else directives fuel hasVersion ((handle, expansion) :: handles)
    | some .otherDirective =>
      next
      directives fuel hasVersion handles
    | _ => modify fun r => { r with handles := handles ++ standardHandles }

/-- Skips the marks that end a document. -/
def documentEnds : (fuel : Nat) → Parser Unit
  | 0 => malformed
  | fuel + 1 => do
    if ← accept .documentEnd then documentEnds fuel

def isDirective : Token → Bool
  | .version _ | .tagHandle .. | .otherDirective => true
  | _ => false

/-- The root of the only document, if there is one. -/
def root (fuel : Nat) : Parser (Option Node) := do
  match ← peek with
  | none => return none
  | some t =>
    let root ←
      if isDirective t || t == .documentStart then
        directives fuel false []
        expect .documentStart
        match ← peek with
        | none => pure absent
        | some t =>
          if isDirective t || t == .documentStart || t == .documentEnd then pure absent
          else node true false fuel
      else node true false fuel
    documentEnds fuel
    match ← peek with
    | none => return some root
    | some _ => malformed

end Parser

/-- Reads a text. -/
def Document.read (text : String) : Except Fault Document := do
  let (ts, fault) := tokens text
  let (root, reading) ←
    (Parser.root (3 * ts.length + 4)).run ⟨ts, fault, Parser.standardHandles, [], []⟩
  return ⟨root, reading.anchors⟩

end Registrar.Yaml
