/-
The tokens of C# text. A token carries what stands before it, white space, comments and all lines
that begin with `#` and do not choose between texts; so the tokens of a text, written out again,
are the text up to its last token.

`lexeme` tells what begins at a character and how far it goes; `tokens` repeats it to the end of
the text.
-/
import Registrar.Text.Identifier

namespace Registrar.CSharp

/-- What a token is. -/
inductive TokenKind where
  /-- A keyword, or an identifier without `@`. -/
  | word
  /-- An identifier with `@` in front. -/
  | verbatimWord
  /-- A number, a character or a text in quotes. -/
  | literal
  | sign
  /-- A line that begins or ends one of several texts to choose from. -/
  | choice (word : String)
  /-- A character that begins no token. -/
  | stray
  deriving DecidableEq, Repr

structure Token where
  kind : TokenKind
  text : String
  /-- What stands between the token before and this one. -/
  lead : String
  /-- How many line feeds come before the token. -/
  row : Nat
  deriving DecidableEq, Repr

/-- What begins at a character: something between tokens, or a token. -/
inductive Lexeme where
  | gap
  | token (kind : TokenKind)
  deriving DecidableEq, Repr

/-- White space between tokens. -/
def isSpace (c : Char) : Bool :=
  let n := c.toNat
  (9 ≤ n && n ≤ 13) || n == 0x20 || n == 0xA0 || n == 0xFEFF || n == 0x3000

def isSign (c : Char) : Bool :=
  "{}()[].,:;+-*/%&|^!~=<>?".toList.contains c

/-- How many of the characters come before the end of the line. -/
def lineLength (cs : List Char) : Nat :=
  (cs.takeWhile fun c => c ≠ '\n' && c ≠ '\r').length

/-- How many of the characters belong to a comment, from behind its opening `/*`. -/
def commentLength : List Char → Nat
  | '*' :: '/' :: _ => 2
  | [] => 0
  | _ :: rest => 1 + commentLength rest

/-! ## Texts in quotes -/

/-- Where a character inside a literal stands. -/
inductive Place where
  /-- In a text; `verbatim` ones know no backslash, `filled` ones have holes for expressions. -/
  | text (verbatim filled : Bool)
  /-- In a hole, inside so many braces of its own. -/
  | hole (braces : Nat)
  | character
  deriving DecidableEq, Repr

/-- The text that opens with `c`, and how many further characters open it. -/
def opening? (c : Char) (rest : List Char) : Option (Place × Nat) :=
  match c, rest with
  | '"', _ => some (.text false false, 0)
  | '@', '"' :: _ => some (.text true false, 1)
  | '$', '"' :: _ => some (.text false true, 1)
  | '@', '$' :: '"' :: _ => some (.text true true, 2)
  | '$', '@' :: '"' :: _ => some (.text true true, 2)
  | '\x27', _ => some (.character, 0)
  | _, _ => none

/-- The places around the next character once `c` is read at `here` inside `outer`, and how many
characters after `c` are read with it. -/
def nextPlaces (here : Place) (outer : List Place) (c : Char) (rest : List Char) :
    List Place × Nat :=
  match here with
  | .text verbatim filled =>
    if c = '"' then
      if verbatim && rest.head? == some '"' then (here :: outer, 1) else (outer, 0)
    else if c = '\\' && !verbatim then (here :: outer, 1)
    else if c = '\x7b' && filled then
      if rest.head? == some '\x7b' then (here :: outer, 1) else (.hole 0 :: here :: outer, 0)
    else (here :: outer, 0)
  | .hole braces =>
    if c = '\x7d' then if braces = 0 then (outer, 0) else (.hole (braces - 1) :: outer, 0)
    else if c = '\x7b' then (.hole (braces + 1) :: outer, 0)
    else match opening? c rest with
      | some (inner, skip) => (inner :: here :: outer, skip)
      | none => (here :: outer, 0)
  | .character =>
    if c = '\\' then (here :: outer, 1)
    else if c = '\x27' then (outer, 0)
    else (here :: outer, 0)

/-- How many of the characters belong to a literal, from the given places on; the first `skip` of
them are read already. -/
def literalLength : (skip : Nat) → List Place → List Char → Nat
  | _, [], _ => 0
  | _, _, [] => 0
  | skip + 1, places, _ :: rest => 1 + literalLength skip places rest
  | 0, here :: outer, c :: rest =>
    let (places, skip) := nextPlaces here outer c rest
    1 + literalLength skip places rest

/-- How many of the characters belong to a raw text that ends with `quotes` quotes, when `run`
quotes stand right before them. -/
def rawLength (quotes : Nat) : (run : Nat) → List Char → Nat
  | _, [] => 0
  | run, c :: rest =>
    if c = '"' then
      if quotes ≤ run + 1 && rest.head? != some '"' then 1 else 1 + rawLength quotes (run + 1) rest
    else 1 + rawLength quotes 0 rest

/-- The length of a raw text that begins with dollar signs and at least three quotes, when one
begins here. -/
def rawText? (cs : List Char) : Option Nat :=
  let dollars := (cs.takeWhile (· = '$')).length
  let quotes := ((cs.drop dollars).takeWhile (· = '"')).length
  if 3 ≤ quotes then some (dollars + quotes + rawLength quotes 0 (cs.drop (dollars + quotes)))
  else none

/-! ## Tokens -/

/-- The word behind a `#` at the start of a line. -/
def directiveWord (cs : List Char) : String :=
  String.ofList ((cs.dropWhile fun c => c = ' ' || c = '\t').takeWhile Char.isAlpha)

/-- What a `#` begins: lines that choose between texts are tokens. -/
def directiveLexeme (cs : List Char) : Lexeme :=
  let word := directiveWord cs
  if ["if", "elif", "else", "endif"].contains word then .token (.choice word) else .gap

/-- What begins at `c`, and how many of the characters behind `c` belong to it. -/
def lexeme (c : Char) (cs : List Char) : Lexeme × Nat :=
  if isSpace c then (.gap, (cs.takeWhile isSpace).length)
  else if c = '/' && cs.head? == some '/' then (.gap, lineLength cs)
  else if c = '/' && cs.head? == some '*' then (.gap, 1 + commentLength (cs.drop 1))
  else if c = '#' then (directiveLexeme cs, lineLength cs)
  else if Text.isIdentifierStart c then (.token .word, (cs.takeWhile Text.isIdentifierPart).length)
  else if c = '@' && cs.head?.any Text.isIdentifierStart then
    (.token .verbatimWord, (cs.takeWhile Text.isIdentifierPart).length)
  else if c.isDigit then (.token .literal, (cs.takeWhile Text.isIdentifierPart).length)
  else match rawText? (c :: cs), opening? c cs with
    | some length, _ => (.token .literal, length - 1)
    | none, some (place, skip) => (.token .literal, literalLength skip [place] cs)
    | none, none =>
      if (c = ':' && cs.head? == some ':') || (c = '=' && cs.head? == some '>') then
        (.token .sign, 1)
      else if isSign c then (.token .sign, 0)
      else (.token .stray, 0)

/-- The tokens of a text, `lead` before it and `row` line feeds before its first character. -/
def tokensFrom (lead : List Char) (row : Nat) : List Char → List Token
  | [] => []
  | c :: cs =>
    let (what, count) := lexeme c cs
    let taken := c :: cs.take count
    let rows := row + taken.count '\n'
    match what with
    | .gap => tokensFrom (lead ++ taken) rows (cs.drop count)
    | .token kind =>
      ⟨kind, String.ofList taken, String.ofList lead, row⟩ :: tokensFrom [] rows (cs.drop count)
termination_by cs => cs.length
decreasing_by all_goals simp only [List.length_drop, List.length_cons]; omega

/-- The tokens of a text. -/
def tokens (text : String) : List Token :=
  tokensFrom [] 0 text.toList

end Registrar.CSharp
