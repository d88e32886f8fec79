/-
The outline of C# text as a syntax tree: namespaces, using directives and type declarations with
their headers. Every other member is a node without children, as nothing inside of it is a type
declaration or a directive. `parse` reads a text and tells whether it departs from the grammar of
outlines; a member that does so is left out.
-/
import Registrar.CSharp.TypeTree

namespace Registrar.CSharp

open Registrar.Tree

/-- The words that may stand in front of a declaration. -/
def modifiers : List String :=
  ["abstract", "async", "const", "extern", "file", "fixed", "internal", "new", "override",
    "partial", "private", "protected", "public", "readonly", "ref", "required", "sealed", "static",
    "unsafe", "virtual", "volatile"]

/-- The attributes at the front of items. -/
def attributes : List Item → List Part × List Item
  | [] => ([], [])
  | item :: rest =>
    if item.isGroup "[" then
      let (parts, rest) := attributes rest
      (Part.leaf .closed true none item :: parts, rest)
    else ([], item :: rest)

/-- The modifiers at the front of items. -/
def modifierWords : List Item → List Part × List Item
  | [] => ([], [])
  | item :: rest =>
    if item.word?.any modifiers.contains then
      let (parts, rest) := modifierWords rest
      (Part.leaf .modifier true none item :: parts, rest)
    else ([], item :: rest)

/-- What a list of members became: their nodes, and whether all of them kept to the grammar. -/
structure Outline where
  parts : List Part
  isWellFormed : Bool

namespace Outline

def empty : Outline := ⟨[], true⟩

def append (a b : Outline) : Outline :=
  ⟨a.parts ++ b.parts, a.isWellFormed && b.isWellFormed⟩

/-- One member without anything in it that matters. -/
def plain (label : String) (items : List Item) : Outline :=
  match items with
  | [] => empty
  | item :: _ =>
    ⟨[⟨item.first.lead, .node (.other label) (Item.textOf (Item.allTokens items)) true none
      item.first.row []⟩], true⟩

end Outline

/-! ## Parts of headers -/

/-- One type parameter: attributes, `in` or `out`, and its name. -/
def typeParameter (items : List Item) : Option (List Part × List Item) := do
  let (attributes, rest) := attributes items
  let (variance, rest) := match rest with
    | item :: behind =>
      if item.isWord "in" || item.isWord "out" then ([Part.mark item], behind) else ([], rest)
    | [] => ([], [])
  let (name, rest) ← identifier? (some .name) rest
  return ([Part.ofParts .typeParameter none (attributes ++ variance ++ [name])], rest)

/-- The type parameters of a declaration, when it has any. -/
def typeParameters (items : List Item) : Option (List Part × List Item) :=
  match items with
  | item :: _ =>
    if item.isSign "<" then
      (angled .typeParameterList typeParameter items).map fun (part, rest) => ([part], rest)
    else some ([], items)
  | [] => some ([], [])

/-- The parameters in round brackets, when there are any. -/
def parameters : List Item → List Part × List Item
  | item :: rest =>
    if item.isGroup "(" then ([Part.leaf .closed true none item], rest) else ([], item :: rest)
  | [] => ([], [])

/-- One entry of a base list: a type, perhaps with arguments for its constructor. -/
def baseEntry (keyword : TypeKind) (items : List Item) : Option (List Part × List Item) := do
  let (type, rest) ← typeTree items
  match rest with
  | item :: behind =>
    if item.isGroup "(" then
      let arguments := Part.leaf (.other "argument_list") true none item
      if keyword == .record then
        return ([Part.ofParts .baseWithArguments none [type.playing .type, arguments]], behind)
      else return ([type, arguments], behind)
    else return ([type], rest)
  | [] => return ([type], rest)

/-- The base list of a declaration, when it has one. -/
def baseList (keyword : TypeKind) (items : List Item) : Option (List Part × List Item) :=
  match sign? ":" items with
  | none => some ([], items)
  | some (colon, rest) => do
    let (entries, rest) ← separated "," (baseEntry keyword) rest.length rest
    return ([Part.ofParts .baseList none (colon :: entries)], rest)

/-- Whether an item ends a header: a body or a semicolon. -/
def endsHeader (item : Item) : Bool :=
  item.isGroup "\x7b" || item.isSign ";"

/-- The constraints on type parameters, which begin with `where`. -/
def constraints (items : List Item) : List Part × List Item :=
  match items with
  | item :: _ =>
    if item.isWord "where" then
      let clauses := items.takeWhile (!endsHeader ·)
      ([⟨item.first.lead, .node .closed (Item.textOf (Item.allTokens clauses)) true none
        item.first.row []⟩], items.dropWhile (!endsHeader ·))
    else ([], items)
  | [] => ([], [])

/-- The keyword that declares a type, and how many items it takes. A record is told from other
uses of the word by the name behind it and what may follow that. -/
def typeKeyword? (items : List Item) : Option (TypeKind × List Part × List Item) :=
  match items with
  | [] => none
  | item :: rest =>
    match item.word? with
    | some "class" => some (.class, [Part.mark item], rest)
    | some "struct" => some (.struct, [Part.leaf .structWord false none item], rest)
    | some "interface" => some (.interface, [Part.mark item], rest)
    | some "enum" => some (.enum, [Part.mark item], rest)
    | some "record" =>
      match rest with
      | second :: behind =>
        if second.isWord "class" then
          some (.record, [Part.mark item, Part.mark second], behind)
        else if second.isWord "struct" then
          some (.record, [Part.mark item, Part.leaf .structWord false none second], behind)
        else if second.isIdentifier && behind.head?.any fun next =>
            endsHeader next || next.isGroup "(" || next.isSign "<" || next.isSign ":" ||
              next.isWord "where" then
          some (.record, [Part.mark item], rest)
        else none
      | [] => none
    | _ => none

/-! ## Members -/

/-- A type declaration. `body` gives the members between braces. -/
def typeDeclaration (body : List Item → Outline) (before : List Part) (keyword : TypeKind)
    (words : List Part) (items : List Item) : Option Outline := do
  let (name, rest) ← identifier? (some .name) items
  let (typeParameters, rest) ← typeParameters rest
  let (parameters, rest) := parameters rest
  let (bases, rest) ← baseList keyword rest
  let (constraints, rest) := constraints rest
  let header := before ++ words ++ [name] ++ typeParameters ++ parameters ++ bases ++ constraints
  match rest with
  | [.group first inside last] =>
    let members := if keyword == .enum then .empty else body inside
    let braces := Part.ofParts .body (some .body)
      (Part.mark (.token first) :: (members.parts ++ [Part.mark (.token last)]))
    return ⟨[Part.ofParts (.typeDeclaration keyword) none (header ++ [braces])],
      members.isWellFormed⟩
  | [semicolon] =>
    if keyword == .enum then none
    else
      return ⟨[Part.ofParts (.typeDeclaration keyword) none (header ++ [Part.mark semicolon])], true⟩
  | _ => none

/-- A delegate declaration: the result type, the name, type parameters and parameters. -/
def delegateDeclaration (before : List Part) (keyword : Item) (items : List Item) :
    Option Outline := do
  let (result, rest) ← typeTree items
  let (name, rest) ← identifier? (some .name) rest
  let (typeParameters, rest) ← typeParameters rest
  let (parameters, rest) := parameters rest
  let (constraints, rest) := constraints rest
  match rest with
  | [semicolon] =>
    if parameters.isEmpty || !semicolon.isSign ";" then none
    else
      return ⟨[Part.ofParts (.typeDeclaration .delegate) none
        (before ++ Part.mark keyword :: result.playing .type :: name :: (typeParameters ++
          parameters ++ constraints ++ [Part.mark semicolon]))], true⟩
  | _ => none

/-- A namespace, with a body or for the rest of the file. -/
def namespaceDeclaration (body : List Item → Outline) (keyword : Item) (items : List Item) :
    Option Outline := do
  let (name, rest) ← name? (fun _ => none) items
  let header := [Part.mark keyword, name.playing .name]
  match rest with
  | [.group first inside last] =>
    let members := body inside
    let braces := Part.ofParts .body (some .body)
      (Part.mark (.token first) :: (members.parts ++ [Part.mark (.token last)]))
    return ⟨[Part.ofParts .namespaceBlock none (header ++ [braces])], members.isWellFormed⟩
  | [semicolon] =>
    return ⟨[Part.ofParts .namespaceFile none (header ++ [Part.mark semicolon])], true⟩
  | _ => none

/-- The word at the front, when it is there. -/
def optionalWord (word : String) : List Item → List Part × List Item
  | item :: rest => if item.isWord word then ([Part.mark item], rest) else ([], item :: rest)
  | [] => ([], [])

/-- A using directive; `words` are the keywords in front. It names a namespace or a type, or gives
an alias to one. -/
def usingDirective (words : List Part) (items : List Item) : Option Outline := do
  let (static, rest) := optionalWord "static" items
  let (unsafe_, rest) := optionalWord "unsafe" rest
  let (aliasParts, rest) := match identifier? (some .name) rest with
    | some (name, behind) =>
      match sign? "=" behind with
      | some (equals, behind) =>
        ([name, ⟨equals.lead, .node .equalsSign equals.node.text false none equals.node.row []⟩],
          behind)
      | none => ([], rest)
    | none => ([], rest)
  let (type, rest) ← typeTree rest
  match rest with
  | [semicolon] =>
    if semicolon.isSign ";" then
      return ⟨[Part.ofParts .usingDirective none
        (words ++ static ++ unsafe_ ++ aliasParts ++ [type, Part.mark semicolon])], true⟩
    else none
  | _ => none

/-- A statement or a member that declares no type. A name alone is none. -/
def otherMember (items : List Item) : Option Outline :=
  match items with
  | [name, _] => if name.isIdentifier then none else some (Outline.plain "member" items)
  | _ =>
    if items.any (·.isWord "namespace") then none else some (Outline.plain "member" items)

/-- A statement that declares a variable and disposes of it: a type, a name, and its value. -/
def usingStatement (items behind : List Item) : Option Outline := do
  let (_, rest) ← typeTree behind
  let (_, rest) ← identifier? none rest
  let _ ← sign? "=" rest
  otherMember items

/-- A member that is neither a namespace nor a directive. -/
def declaration (body : List Item → Outline) (items : List Item) : Option Outline :=
  let (attributes, rest) := attributes items
  let (modifiers, rest) := modifierWords rest
  match typeKeyword? rest, rest with
  | some (keyword, words, rest), _ =>
    typeDeclaration body (attributes ++ modifiers) keyword words rest
  | none, item :: behind =>
    if item.isWord "delegate" && !behind.head?.any (·.isSign "*") then
      delegateDeclaration (attributes ++ modifiers) item behind
    else otherMember items
  | none, [] => otherMember items

/-- What one member is, `body` giving the members between its braces; none when it departs from
the grammar. -/
def member (body : List Item → Outline) (items : List Item) : Option Outline :=
  match items with
  | [] => some .empty
  | item :: rest =>
    if item.isWord "namespace" then namespaceDeclaration body item rest
    else if item.isWord "using" then
      if rest.head?.any (·.isGroup "(") then otherMember items
      else usingDirective [Part.mark item] rest <|> usingStatement items rest
    else if item.isWord "global" && rest.head?.any (·.isWord "using") then
      usingDirective (items.take 2 |>.map Part.mark) (rest.drop 1)
    else declaration body items

/-- Whether a token that begins nothing stands among the items of one member, outside of its
brackets. -/
def hasStray (items : List Item) : Bool :=
  items.any fun item => match item with
    | .token t => t.kind == .stray
    | .group .. => false

/-- The outline of the members, where those between `#if` and `#endif` are inside a node of their
own; `depth` bounds how deep sections lie in one another. Gives also the members behind the end of
the section. -/
def sections (outline : List Item → Outline) :
    (depth : Nat) → List (List Item) → Outline × List (List Item)
  | _, [] => (.empty, [])
  | depth, items :: rest =>
    match items.head?.bind Item.choice?, depth with
    | some "if", depth + 1 =>
      let (inner, behind) := sections outline depth rest
      let section_ : Outline := ⟨[Part.ofParts (.other "section") none inner.parts],
        inner.isWellFormed⟩
      let (others, behind) := sections outline depth behind
      (section_.append others, behind)
    | some "endif", _ => (.empty, rest)
    | some _, depth + 1 => sections outline depth rest
    | some _, 0 => (⟨[], false⟩, [])
    | none, depth + 1 =>
      let (others, behind) := sections outline depth rest
      ((outline items).append others, behind)
    | none, 0 => (⟨[], false⟩, [])

/-- The outline of the items between braces or in a file, where braces are at most `depth` deep
inside one another. -/
def outlineWithin : (depth : Nat) → List Item → Outline
  | 0, _ => ⟨[], false⟩
  | depth + 1, items =>
    let (members, left) := Item.members items
    let one := fun items => match member (outlineWithin depth) items with
      | some outline => { outline with isWellFormed := outline.isWellFormed && !hasStray items }
      | none => ⟨[], false⟩
    let (all, behind) := sections one (members.length + 1) members
    { all with isWellFormed := all.isWellFormed && left.isEmpty && behind.isEmpty }

/-- The tree of a text, and whether the text departs from the grammar. -/
def parse (text : String) : Tree.Node × Bool :=
  let ts := tokens text
  let (items, isBalanced) := Item.grouped ts
  let outline := outlineWithin (ts.length + 1) items
  (.node (.other "compilation_unit") text true none 0 (outline.parts.map Part.node),
    !(isBalanced && outline.isWellFormed))

end Registrar.CSharp
