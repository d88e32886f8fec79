/-
From a settings text to its tokens. Whether a token is a key shows only at the `:` behind it, so the
scanner keeps the places where one may have begun, at most one for each level of flow brackets, and
puts the tokens for a key in at such a place.

A text that cannot be scanned to its end gives the tokens up to there and the fault.
-/
import Registrar.Text.Utf8
import Registrar.Yaml.Scalar
import Registrar.Yaml.Token

namespace Registrar.Yaml

/-- A place where a key may have begun. -/
structure PossibleKey where
  /-- The number of flow brackets around it. -/
  level : Nat
  /-- How many tokens come before it. -/
  position : Nat
  /-- Whether it stands where nothing but a key can. -/
  isRequired : Bool
  index : Nat
  line : Nat
  column : Nat
  deriving DecidableEq, Repr

structure Scanner where
  place : Cursor
  /-- The number of flow brackets around the place. -/
  level : Nat
  /-- The columns of the blocks around the place, innermost first. -/
  indents : List Nat
  allowsKey : Bool
  keys : List PossibleKey
  /-- The tokens so far, last one first. -/
  tokens : List Token
  deriving DecidableEq, Repr

namespace Scanner

/-- The scanner in front of a text. -/
def start (c : Cursor) : Scanner :=
  ⟨c, 0, [], true, [], []⟩

def column (s : Scanner) : Nat := s.place.column

/-- The least column for what is inside the innermost block. -/
def inside (s : Scanner) : Nat :=
  match s.indents with
  | [] => 0
  | indent :: _ => indent + 1

def push (s : Scanner) (t : Token) : Scanner :=
  { s with tokens := t :: s.tokens }

/-- Goes `n` characters further and adds a token. -/
def take (s : Scanner) (n : Nat) (t : Token) : Scanner :=
  { s with place := s.place.skip n, tokens := t :: s.tokens }

/-- Puts a token in behind the first `position` ones. -/
def insert (s : Scanner) (position : Nat) (t : Token) : Scanner :=
  let behind := s.tokens.length - position
  { s with tokens := s.tokens.take behind ++ t :: s.tokens.drop behind }

/-! ## Blocks -/

/-- Ends the blocks that begin at a column of `least` or more. -/
def endBlocks (least : Nat) (s : Scanner) : Scanner :=
  let ended := s.indents.takeWhile (least ≤ ·)
  { s with
    indents := s.indents.drop ended.length
    tokens := List.replicate ended.length .blockEnd ++ s.tokens }

/-- Ends the blocks that begin behind the present column; brackets hold all blocks open. -/
def unwind (s : Scanner) : Scanner :=
  if s.level = 0 then s.endBlocks (s.column + 1) else s

/-- Begins a block at a column, when that is behind the column of the innermost one. -/
def beginBlock (position column : Nat) (t : Token) (s : Scanner) : Scanner :=
  if s.inside ≤ column then { s.insert position t with indents := column :: s.indents } else s

/-! ## Places for keys -/

/-- Forgets the places for keys that `p` holds of; none of them may be required. -/
def forget (p : PossibleKey → Bool) (s : Scanner) : Except Fault Scanner :=
  if s.keys.any fun k => p k && k.isRequired then .error .malformed
  else .ok { s with keys := s.keys.filter (!p ·) }

/-- Forgets the places that are on another line or too far away. -/
def forgetStale (s : Scanner) : Except Fault Scanner :=
  s.forget fun k => k.line ≠ s.place.line || 1024 < s.place.index - k.index

/-- Forgets the place on the present level. -/
def forgetHere (s : Scanner) : Except Fault Scanner :=
  s.forget (·.level = s.level)

/-- Notes that a key may begin here. -/
def markKey (s : Scanner) : Except Fault Scanner :=
  if s.allowsKey then do
    let s ← s.forgetHere
    let isRequired := s.level = 0 && s.indents.head? == some s.column
    return { s with keys :=
      ⟨s.level, s.tokens.length, isRequired, s.place.index, s.place.line, s.column⟩ :: s.keys }
  else .ok s

/-! ## Single tokens -/

/-- The mark at either end of a document. -/
def documentMark (t : Token) (s : Scanner) : Except Fault Scanner := do
  let s ← (s.endBlocks 0).forgetHere
  return { s.take 3 t with allowsKey := false }

def flowStart (t : Token) (s : Scanner) : Except Fault Scanner := do
  let s ← s.markKey
  return { s.take 1 t with level := s.level + 1, allowsKey := true }

def flowEnd (t : Token) (s : Scanner) : Except Fault Scanner := do
  let s ← s.forgetHere
  return { s.take 1 t with level := s.level - 1, allowsKey := false }

def flowEntry (s : Scanner) : Except Fault Scanner := do
  let s ← s.forgetHere
  return { s.take 1 .flowEntry with allowsKey := true }

/-- The sign in front of an entry or a key, which begins a block if it is indented deeper. -/
def blockSign (block sign : Token) (s : Scanner) : Except Fault Scanner :=
  if s.level = 0 && !s.allowsKey then .error .malformed
  else do
    let s ← (if s.level = 0 then s.beginBlock s.tokens.length s.column block else s).forgetHere
    return s.take 1 sign

def blockEntry (s : Scanner) : Except Fault Scanner := do
  return { ← s.blockSign .blockSequenceStart .blockEntry with allowsKey := true }

/-- The `?` in front of a key. -/
def keySign (s : Scanner) : Except Fault Scanner := do
  return { ← s.blockSign .blockMappingStart .key with allowsKey := s.level = 0 }

/-- The `:` in front of a value: it makes a key of what begins at the place for one. -/
def valueSign (s : Scanner) : Except Fault Scanner :=
  match s.keys.find? (·.level = s.level) with
  | some k =>
    let s := { s with keys := s.keys.filter (·.level ≠ s.level), allowsKey := false }
    let s := s.insert k.position .key
    let s := if s.level = 0 then s.beginBlock k.position k.column .blockMappingStart else s
    .ok (s.take 1 .value)
  | none => do
    return { ← s.blockSign .blockMappingStart .value with allowsKey := s.level = 0 }

/-- The name behind `*` or `&`. -/
def named (t : String → Token) (s : Scanner) : Except Fault Scanner := do
  let s ← s.markKey
  let (name, c) := s.place.next.takeWhile isNameChar
  if name.isEmpty ||
      !(endsWord c.peek || c.peek.any ['?', ':', ',', ']', '\x7d', '%', '@', '\x60'].contains) then
    .error .malformed
  else return { s.push (t (String.ofList name)) with place := c, allowsKey := false }

/-- The text of a scalar. -/
def quoted (double : Bool) (s : Scanner) : Except Fault Scanner := do
  let s ← s.markKey
  let (text, c) ← quotedScalar double s.place
  return { s.push (.scalar false text) with place := c, allowsKey := false }

def plain (s : Scanner) : Except Fault Scanner := do
  let s ← s.markKey
  let (text, broken, c) := plainScalar (s.level ≠ 0) s.inside s.place
  return { s.push (.scalar true text) with place := c, allowsKey := broken }

def block (folded : Bool) (s : Scanner) : Except Fault Scanner := do
  let s ← s.forgetHere
  let (text, c) ← blockScalar folded s.inside s.place
  return { s.push (.scalar false text) with place := c, allowsKey := true }

/-! ## Tags -/

/-- Characters of tags. -/
def isTagChar (c : Char) : Bool :=
  c.isAlphanum || "-;/?:@&=+$,_.!~*\x27()[]".toList.contains c

/-- The bytes that stand here as `%` and two digits each. -/
def escapedBytes : (fuel : Nat) → Cursor → Except Fault (List UInt8 × Cursor)
  | 0, _ => .error .malformed
  | fuel + 1, c =>
    if c.isAt '%' then
      match c.next.rest.take 2, hexNumber? 0 (c.next.rest.take 2) with
      | [_, _], some n => do
        let (bytes, c) ← escapedBytes fuel (c.skip 3)
        return (UInt8.ofNat n :: bytes, c)
      | _, _ => .error .malformed
    else .ok ([], c)

/-- The text of a tag from here on. -/
def tagFrom : (fuel : Nat) → Cursor → Except Fault (List Char × Cursor)
  | 0, _ => .error .malformed
  | fuel + 1, c =>
    match c.peek with
    | none => .ok ([], c)
    | some x =>
      if x = '%' then do
        let (bytes, c) ← escapedBytes (c.rest.length + 1) c
        match Text.decode? ⟨bytes.toArray⟩ with
        | some text =>
          let (more, c) ← tagFrom fuel c
          return (text.toList ++ more, c)
        | none => .error .malformed
      else if isTagChar x then do
        let (more, c) ← tagFrom fuel c.next
        return (x :: more, c)
      else .ok ([], c)

/-- The text of a tag, which is not empty. -/
def tagText (c : Cursor) : Except Fault (String × Cursor) := do
  let (text, c) ← tagFrom (c.rest.length + 1) c
  if text.isEmpty then .error .malformed else return (String.ofList text, c)

/-- A tag handle: `!` alone in front of a space, or a name between two of them. -/
def tagHandle (c : Cursor) : Except Fault (String × Cursor) :=
  if !c.isAt '!' then .error .malformed
  else if c.next.isAt ' ' then .ok ("!", c.next)
  else
    let (name, c) := c.next.takeWhile isNameChar
    if c.isAt '!' then .ok (String.ofList ('!' :: (name ++ ['!'])), c.next) else .error .malformed

/-- The handle and the rest of the tag that begins here. -/
def tagParts (c : Cursor) : Except Fault (Option String × String × Cursor) :=
  if c.next.isAt '<' then do
    let (text, c) ← tagText (c.skip 2)
    if c.isAt '>' then return (none, text, c.next) else .error .malformed
  else if endsWord c.next.peek then .ok (none, "!", c.next)
  else do
    let ahead := c.next.rest.takeWhile fun x => x ≠ ' ' && !isBreak x
    let (handle, c) ← if ahead.contains '!' then tagHandle c else pure ("!", c.next)
    let (text, c) ← tagText c
    return (some handle, text, c)

def tag (s : Scanner) : Except Fault Scanner := do
  let s ← s.markKey
  let (handle, text, c) ← tagParts s.place
  if endsField c.peek then
    return { s.push (.tag handle text) with place := c, allowsKey := false }
  else .error .malformed

/-! ## Directives -/

/-- A whole number. -/
def number (c : Cursor) : Except Fault (Nat × Cursor) :=
  let (digits, c) := c.takeWhile Char.isDigit
  if digits.isEmpty then .error .malformed
  else if mostDigits < digits.length then .error (.tooManyDigits digits.length)
  else .ok (Nat.ofDigitChars 10 digits 0, c)

/-- A version, of which the first number counts. -/
def versionDirective (c : Cursor) : Except Fault (Token × Cursor) := do
  let (major, c) ← number c.skipSpaces
  if !c.isAt '.' then .error .malformed
  else
    let (_, c) ← number c.next
    if endsField c.peek then return (.version major, c) else .error .malformed

def tagDirective (c : Cursor) : Except Fault (Token × Cursor) := do
  let (handle, c) ← tagHandle c.skipSpaces
  if !c.isAt ' ' then .error .malformed
  else
    let (expansion, c) ← tagText c.skipSpaces
    if endsField c.peek then return (.tagHandle handle expansion, c) else .error .malformed

/-- A directive, of which one with another name is skipped. -/
def directive (s : Scanner) : Except Fault Scanner := do
  let s ← (s.endBlocks 0).forgetHere
  let (name, c) := s.place.next.takeWhile isNameChar
  if name.isEmpty || !endsField c.peek then .error .malformed
  else
    let (t, c) ← match String.ofList name with
      | "YAML" => versionDirective c
      | "TAG" => tagDirective c
      | _ => pure (.otherDirective, c.skipWhile (!isBreak ·))
    let c ← restOfLine c
    return { s.push t with place := c, allowsKey := false }

/-! ## All tokens -/

/-- Goes on to the next token, past spaces, comments and breaks. -/
def toToken : (fuel : Nat) → Scanner → Scanner
  | 0, s => s
  | fuel + 1, s =>
    let c := s.place.skipSpaces.skipComment
    match c.lineBreak? with
    | some (_, c) => toToken fuel { s with place := c, allowsKey := s.allowsKey || s.level = 0 }
    | none => { s with place := c }

/-- Whether a scalar without quotes begins with the character before `next`. -/
def beginsPlain (flow : Bool) (x : Char) (next : Option Char) : Bool :=
  !(isGap x || "-?:,[]\x7b\x7d#&*!|>\x27\"%@\x60".toList.contains x) ||
    (!endsWord next && (x == '-' || (!flow && (x == '?' || x == ':'))))

/-- Scans the token that begins with `x` at the present place. -/
def token (x : Char) (s : Scanner) : Except Fault Scanner :=
  let ends := endsWord (s.place.peekAt 1)
  let flow := s.level ≠ 0
  if x = '%' && s.column = 0 then s.directive
  else if s.column = 0 && s.place.isMark '-' then s.documentMark .documentStart
  else if s.column = 0 && s.place.isMark '.' then s.documentMark .documentEnd
  else if x = '[' then s.flowStart .flowSequenceStart
  else if x = '\x7b' then s.flowStart .flowMappingStart
  else if x = ']' then s.flowEnd .flowSequenceEnd
  else if x = '\x7d' then s.flowEnd .flowMappingEnd
  else if x = ',' then s.flowEntry
  else if x = '-' && ends then s.blockEntry
  else if x = '?' && (flow || ends) then s.keySign
  else if x = ':' && (flow || ends) then s.valueSign
  else if x = '*' then s.named .aliasTo
  else if x = '&' then s.named .anchor
  else if x = '!' then s.tag
  else if x = '|' && !flow then s.block false
  else if x = '>' && !flow then s.block true
  else if x = '\x27' then s.quoted false
  else if x = '"' then s.quoted true
  else if beginsPlain flow x (s.place.peekAt 1) then s.plain
  else .error .malformed

/-- Scans one token, and those that end or begin blocks with it; tells whether the text goes on. -/
def step (s : Scanner) : Except Fault (Bool × Scanner) := do
  let s := (← (s.toToken (s.place.rest.length + 1)).forgetStale).unwind
  match s.place.peek with
  | some x => return (true, ← s.token x)
  | none => return (false, ← (s.endBlocks 0).forgetHere)

/-- Scans to the end. -/
def run : (fuel : Nat) → Scanner → List Token × Option Fault
  | 0, s => (s.tokens.reverse, some .malformed)
  | fuel + 1, s =>
    match s.step with
    | .error fault => (s.tokens.reverse, some fault)
    | .ok (true, s) => run fuel s
    | .ok (false, s) => (s.tokens.reverse, none)

end Scanner

/-- Characters that may stand in a settings text. -/
def isAllowed (c : Char) : Bool :=
  let n := c.toNat
  n == 9 || n == 10 || n == 13 || (0x20 ≤ n && n ≤ 0x7E) || n == 0x85 ||
    (0xA0 ≤ n && n ≤ 0xD7FF) || (0xE000 ≤ n && n ≤ 0xFFFD) || 0x10000 ≤ n

/-- The tokens of a text, and the fault that ends them. A byte order mark in front is skipped. -/
def tokens (text : String) : List Token × Option Fault :=
  let cs := text.toList
  if !cs.all isAllowed then ([], some .malformed)
  else
    let c := Cursor.start cs
    let c := if c.isAt '\uFEFF' then c.next else c
    (Scanner.start c).run (cs.length + 2)

end Registrar.Yaml
