/-
Tokens grouped by their brackets. `Item.grouped` tells which brackets belong together; `members`
cuts what stands inside a pair of braces, or in a whole file, into one piece for each member.
-/
import Registrar.CSharp.Token

namespace Registrar.CSharp

/-- A token, or a pair of brackets with what stands between them. -/
inductive Item where
  | token (t : Token)
  | group (first : Token) (inside : List Item) (last : Token)

namespace Item

def first : Item → Token
  | token t => t
  | group first _ _ => first

mutual

/-- The tokens of an item, in order. -/
def tokens : Item → List Token
  | token t => [t]
  | group first inside last => first :: (allTokens inside ++ [last])

def allTokens : List Item → List Token
  | [] => []
  | item :: rest => tokens item ++ allTokens rest

end

/-- The text of tokens, without what stands before the first of them. -/
def textOf : List Token → String
  | [] => ""
  | t :: rest => t.text ++ String.join (rest.map fun t => t.lead ++ t.text)

def text (item : Item) : String :=
  textOf item.tokens

/-- The text of a word without `@`. -/
def word? : Item → Option String
  | token ⟨.word, text, _, _⟩ => some text
  | _ => none

/-- Whether the item is the word. -/
def isWord (word : String) (item : Item) : Bool :=
  item.word? == some word

/-- Whether the item is the sign. -/
def isSign (sign : String) : Item → Bool
  | token ⟨.sign, text, _, _⟩ => text == sign
  | _ => false

/-- What stands inside the brackets that open with `sign`. -/
def inside? (sign : String) : Item → Option (List Item)
  | group first inside _ => if first.text == sign then some inside else none
  | _ => none

def isGroup (sign : String) (item : Item) : Bool :=
  (item.inside? sign).isSome

/-- The word that chooses between texts. -/
def choice? : Item → Option String
  | token ⟨.choice word, _, _, _⟩ => some word
  | _ => none

/-! ## Grouping -/

/-- The bracket that closes another one. -/
def closing? : String → Option String
  | "(" => some ")"
  | "[" => some "]"
  | "\x7b" => some "\x7d"
  | _ => none

def isClosing (sign : String) : Bool :=
  [")", "]", "\x7d"].contains sign

/-- What is grouped so far: the items on the present level, last one first, and for each bracket
that is open, innermost first, the bracket and the items before it. -/
structure Progress where
  level : List Item
  opened : List (Token × List Item)
  balanced : Bool

namespace Progress

/-- Takes one more token. A closing bracket that fits no open one is dropped. -/
def take (p : Progress) (t : Token) : Progress :=
  if t.kind != .sign then { p with level := .token t :: p.level }
  else if (closing? t.text).isSome then { p with level := [], opened := (t, p.level) :: p.opened }
  else if isClosing t.text then
    match p.opened with
    | (first, outer) :: opened =>
      if closing? first.text == some t.text then
        { p with level := .group first p.level.reverse t :: outer, opened := opened }
      else { p with balanced := false }
    | [] => { p with balanced := false }
  else { p with level := .token t :: p.level }

/-- All items, where brackets that are still open are tokens like others. -/
def finish (p : Progress) : List Item :=
  (p.opened.foldl (fun level (first, outer) => level ++ .token first :: outer) p.level).reverse

end Progress

/-- The items of tokens, and whether every bracket has its partner. -/
def grouped (ts : List Token) : List Item × Bool :=
  let p := ts.foldl Progress.take ⟨[], [], true⟩
  (p.finish, p.balanced && p.opened.isEmpty)

/-! ## Members -/

/-- Whether brackets hold an attribute of the whole assembly or module. -/
def isGlobalAttribute (item : Item) : Bool :=
  match item.inside? "[" with
  | some (target :: colon :: _) =>
    (target.isWord "assembly" || target.isWord "module") && colon.isSign ":"
  | _ => false

/-- What a member looks like so far: its items, last one first; whether a value follows; and
whether the sign of an operator does. -/
structure Member where
  items : List Item
  hasValue : Bool
  inOperator : Bool

namespace Member

def empty : Member := ⟨[], false, false⟩

def push (m : Member) (item : Item) : Member where
  items := item :: m.items
  hasValue := m.hasValue || (!m.inOperator && (item.isSign "=" || item.isSign "=>"))
  inOperator := item.isWord "operator" || (m.inOperator && !item.isGroup "(")

/-- Whether `item` is the last of its member: a semicolon, a body that no value follows, or
brackets for the whole assembly. -/
def endsWith (m : Member) (item : Item) (next : Option Item) : Bool :=
  item.isSign ";" ||
    (item.isGroup "\x7b" && !m.hasValue && !next.any (·.isSign "=")) ||
    (m.items.isEmpty && item.isGlobalAttribute)

end Member

/-- The members among items, `m` being the one that is begun, and what is left of an unfinished
one. Words that choose between texts are members of their own between two members, and dropped
inside of one. -/
def membersFrom (m : Member) : List Item → List (List Item) × List Item
  | [] => ([], m.items.reverse)
  | item :: rest =>
    if item.choice?.isSome then
      if m.items.isEmpty then
        let (ms, left) := membersFrom .empty rest
        ([item] :: ms, left)
      else membersFrom m rest
    else if m.endsWith item rest.head? then
      let (ms, left) := membersFrom .empty rest
      ((item :: m.items).reverse :: ms, left)
    else membersFrom (m.push item) rest

def members (items : List Item) : List (List Item) × List Item :=
  membersFrom .empty items

end Item

end Registrar.CSharp
