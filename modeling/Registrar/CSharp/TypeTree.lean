/-
Written types of C# as syntax trees. `typeTree` reads the longest type at the front of a list of
items; names, type arguments, arrays, nullable types, tuples, pointers and function pointers are
read, each with its parts as children.

A `Part` is a node with what stands before it, so that the text of a node is that of its parts.
-/
import Registrar.CSharp.Item
import Registrar.Tree.Node

namespace Registrar.CSharp

open Registrar.Tree

/-- A node, and the white space and comments before it. -/
structure Part where
  lead : String
  node : Node

namespace Part

/-- The text of parts, without what stands before the first of them. -/
def textOf : List Part → String
  | [] => ""
  | p :: rest => p.node.text ++ String.join (rest.map fun p => p.lead ++ p.node.text)

/-- The part that consists of others; it starts where the first of them does. -/
def ofParts (kind : Kind) (role : Option Role) (parts : List Part) : Part where
  lead := (parts.head?.map Part.lead).getD ""
  node := .node kind (textOf parts) true role ((parts.head?.map fun p => p.node.row).getD 0)
    (parts.map Part.node)

/-- An item as a part without parts of its own. -/
def leaf (kind : Kind) (named : Bool) (role : Option Role) (item : Item) : Part where
  lead := item.first.lead
  node := .node kind item.text named role item.first.row []

/-- A keyword or a sign. -/
def mark (item : Item) : Part :=
  leaf (.other item.text) false none item

/-- The same part in another role. -/
def playing (role : Role) (p : Part) : Part :=
  match p.node with
  | .node kind text named _ row children => ⟨p.lead, .node kind text named (some role) row children⟩

end Part

/-- The words that are never identifiers. -/
def keywords : List String :=
  ["abstract", "as", "base", "bool", "break", "byte", "case", "catch", "char", "checked", "class",
    "const", "continue", "decimal", "default", "delegate", "do", "double", "else", "enum", "event",
    "explicit", "extern", "false", "finally", "fixed", "float", "for", "foreach", "goto", "if",
    "implicit", "in", "int", "interface", "internal", "is", "lock", "long", "namespace", "new",
    "null", "object", "operator", "out", "override", "params", "private", "protected", "public",
    "readonly", "ref", "return", "sbyte", "sealed", "short", "sizeof", "stackalloc", "static",
    "string", "struct", "switch", "this", "throw", "true", "try", "typeof", "uint", "ulong",
    "unchecked", "unsafe", "ushort", "using", "virtual", "void", "volatile", "while"]

/-- The words that are types. -/
def predefinedTypes : List String :=
  ["bool", "byte", "sbyte", "short", "ushort", "int", "uint", "long", "ulong", "char", "float",
    "double", "decimal", "string", "object", "nint", "nuint", "void"]

namespace Item

def isIdentifier : Item → Bool
  | token ⟨.word, text, _, _⟩ => !keywords.contains text
  | token ⟨.verbatimWord, _, _, _⟩ => true
  | _ => false

def isPredefined (item : Item) : Bool :=
  item.word?.any predefinedTypes.contains

/-- Brackets of an array: nothing but commas between them. -/
def isRank (item : Item) : Bool :=
  (item.inside? "[").any fun inside => inside.all (·.isSign ",")

end Item

/-- The identifier at the front. -/
def identifier? (role : Option Role) : List Item → Option (Part × List Item)
  | item :: rest =>
    if item.isIdentifier then some (Part.leaf .identifier true role item, rest) else none
  | [] => none

/-- The sign at the front. -/
def sign? (sign : String) : List Item → Option (Part × List Item)
  | item :: rest => if item.isSign sign then some (Part.mark item, rest) else none
  | [] => none

/-- Puts the endings of a type, ranks, question marks and stars, around it. -/
def withEndings (type : Part) : List Item → Part × List Item
  | [] => (type, [])
  | item :: rest =>
    if item.isRank then
      withEndings (Part.ofParts .arrayType none
        [type.playing .type, Part.leaf .arrayRank true (some .rank) item]) rest
    else if item.isSign "?" then
      withEndings (Part.ofParts .nullableType none [type.playing .type, Part.mark item]) rest
    else if item.isSign "*" then
      withEndings (Part.ofParts .otherType none [type.playing .type, Part.mark item]) rest
    else (type, item :: rest)

/-- Parts with signs between them, read by `read` until `fuel` runs out. -/
def separated (sign : String) (read : List Item → Option (List Part × List Item)) :
    (fuel : Nat) → List Item → Option (List Part × List Item)
  | 0, _ => none
  | fuel + 1, items => do
    let (first, rest) ← read items
    match sign? sign rest with
    | some (comma, rest) =>
      let (others, rest) ← separated sign read fuel rest
      return (first ++ comma :: others, rest)
    | none => return (first, rest)

/-- Parts with commas between them in angle brackets. -/
def angled (kind : Kind) (read : List Item → Option (List Part × List Item)) (items : List Item) :
    Option (Part × List Item) := do
  let (opening, rest) ← sign? "<" items
  let (parts, rest) ← separated "," read items.length rest
  let (closing, rest) ← sign? ">" rest
  return (Part.ofParts kind none (opening :: (parts ++ [closing])), rest)

/-- Angle brackets with nothing but commas between them: type arguments that are left open. -/
def openArguments (items : List Item) : Option (Part × List Item) := do
  let (opening, rest) ← sign? "<" items
  let commas := rest.takeWhile (·.isSign ",")
  let (closing, rest) ← sign? ">" (rest.drop commas.length)
  return (Part.ofParts .typeArguments none (opening :: (commas.map Part.mark ++ [closing])), rest)

/-- A parameter of a function pointer: a type, perhaps behind words on how it is passed. -/
def pointedParameter (type : List Item → Option (Part × List Item)) :
    List Item → Option (List Part × List Item)
  | [] => none
  | item :: rest =>
    if item.word?.any ["ref", "out", "in", "readonly"].contains then do
      let (parts, rest) ← pointedParameter type rest
      return (Part.mark item :: parts, rest)
    else do
      let (part, rest) ← type (item :: rest)
      return ([part], rest)

/-- The words between the star and the parameters of a function pointer. -/
def callingConvention : List Item → List Part × List Item
  | item :: rest =>
    if item.isWord "managed" then ([Part.mark item], rest)
    else if item.isWord "unmanaged" then
      match rest with
      | names :: behind =>
        if names.isGroup "[" then ([Part.mark item, Part.mark names], behind)
        else ([Part.mark item], rest)
      | [] => ([Part.mark item], rest)
    else ([], item :: rest)
  | [] => ([], [])

/-- A pointer to a function. -/
def functionPointer (type : List Item → Option (Part × List Item)) (items : List Item) :
    Option (Part × List Item) :=
  match items with
  | keyword :: star :: rest =>
    if keyword.isWord "delegate" && star.isSign "*" then do
      let (convention, rest) := callingConvention rest
      let (parameters, rest) ← angled .typeArguments (pointedParameter type) rest
      return (Part.ofParts .otherType none
        (Part.mark keyword :: Part.mark star :: (convention ++ [parameters])), rest)
    else none
  | _ => none

/-- An identifier, perhaps with type arguments. -/
def simpleName (type : List Item → Option (Part × List Item)) (items : List Item) :
    Option (Part × List Item) := do
  let (name, rest) ← identifier? none items
  let argument := fun items => (type items).map fun (p, rest) => ([p], rest)
  match angled .typeArguments argument rest <|> openArguments rest with
  | some (arguments, rest) => return (Part.ofParts .genericName none [name, arguments], rest)
  | none => return (name, rest)

/-- Puts the further segments of a dotted name around it. -/
def dottedName (type : List Item → Option (Part × List Item)) :
    (fuel : Nat) → Part → List Item → Part × List Item
  | 0, name, items => (name, items)
  | fuel + 1, name, items =>
    match sign? "." items with
    | some (dot, rest) =>
      match simpleName type rest with
      | some (segment, rest) =>
        dottedName type fuel
          (Part.ofParts .qualifiedName none [name.playing .qualifier, dot, segment.playing .name])
          rest
      | none => (name, items)
    | none => (name, items)

/-- A name: segments with dots between them, the first one perhaps behind an alias. -/
def name? (type : List Item → Option (Part × List Item)) (items : List Item) :
    Option (Part × List Item) := do
  let (first, rest) ← simpleName type items
  match sign? "::" rest with
  | some (colons, behind) =>
    let (segment, rest) ← simpleName type behind
    return dottedName type items.length
      (Part.ofParts .aliasQualifiedName none
        [first.playing (.other "alias"), colons, segment.playing .name]) rest
  | none => return dottedName type items.length first rest

/-- An element of a tuple: a type, perhaps with a name. -/
def tupleElement (type : List Item → Option (Part × List Item)) (items : List Item) :
    Option (List Part × List Item) := do
  let (part, rest) ← type items
  match identifier? (some .name) rest with
  | some (name, rest) =>
    return ([Part.ofParts .tupleElement none [part.playing .type, name]], rest)
  | none => return ([Part.ofParts .tupleElement none [part.playing .type]], rest)

/-- A tuple of at least two elements, given as brackets. -/
def tuple? (type : List Item → Option (Part × List Item)) : Item → Option Part
  | .group first inside last => do
    let (parts, rest) ← separated "," (tupleElement type) inside.length inside
    if first.text == "(" && rest.isEmpty && 3 ≤ parts.length then
      return Part.ofParts .tupleType none
        (Part.mark (.token first) :: (parts ++ [Part.mark (.token last)]))
    else none
  | _ => none

/-- A reference to a type, or a scoped one. -/
def referenceType (type : List Item → Option (Part × List Item)) :
    List Item → Option (Part × List Item)
  | item :: rest =>
    if item.isWord "ref" then
      let (readonly, rest) := match rest with
        | next :: behind => if next.isWord "readonly" then ([Part.mark next], behind) else ([], rest)
        | [] => ([], [])
      (type rest).map fun (part, rest) =>
        (Part.ofParts .otherType none (Part.mark item :: (readonly ++ [part.playing .type])), rest)
    else if item.isWord "scoped" then
      (type rest).map fun (part, rest) =>
        (Part.ofParts .otherType none [Part.mark item, part.playing .type], rest)
    else none
  | [] => none

/-- The type at the front of items, without its endings. -/
def plainType (type : List Item → Option (Part × List Item)) :
    List Item → Option (Part × List Item)
  | [] => none
  | item :: rest =>
    if item.isPredefined then some (Part.leaf .predefinedType true none item, rest)
    else match tuple? type item with
      | some part => some (part, rest)
      | none =>
        referenceType type (item :: rest) <|> functionPointer type (item :: rest) <|>
          name? type (item :: rest)

/-- The type at the front of items, where types are at most `depth` deep inside one another. -/
def typeWithin : (depth : Nat) → List Item → Option (Part × List Item)
  | 0, _ => none
  | depth + 1, items => do
    let (part, rest) ← plainType (typeWithin depth) items
    return withEndings part rest

/-- The type at the front of items, and the items behind it. -/
def typeTree (items : List Item) : Option (Part × List Item) :=
  typeWithin ((Item.allTokens items).length + 1) items

end Registrar.CSharp
