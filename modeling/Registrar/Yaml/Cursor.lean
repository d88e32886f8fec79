/-
A place in a text: what comes behind it, how many characters come before it, and its line and
column. A line ends at a line feed, at U+0085, U+2028 or U+2029; a byte order mark takes up no
column. A text is scanned with its line ends unified, so no carriage return stands in it.
-/
namespace Registrar.Yaml

def isBreak (c : Char) : Bool :=
  c == '\n' || c == '\u0085' || c == '\u2028' || c == '\u2029'

/-- A space or a tab. -/
def isGap (c : Char) : Bool :=
  c == ' ' || c == '\t'

/-- Whether a line ends before `next`, at its break or at the end of the text. -/
def endsLine (next : Option Char) : Bool :=
  next.all isBreak

/-- Whether a space, a break or the end of the text follows. -/
def endsField (next : Option Char) : Bool :=
  next.all fun c => c == ' ' || isBreak c

/-- Whether a gap, a break or the end of the text follows. -/
def endsWord (next : Option Char) : Bool :=
  next.all fun c => isGap c || isBreak c

/-- Characters of names of anchors, directives and tag handles. -/
def isNameChar (c : Char) : Bool :=
  c.isAlphanum || c == '-' || c == '_'

/-- A place in a text. -/
structure Cursor where
  rest : List Char
  index : Nat
  line : Nat
  column : Nat
  deriving DecidableEq, Repr

namespace Cursor

/-- The start of a text. -/
def start (cs : List Char) : Cursor := ⟨cs, 0, 0, 0⟩

/-- The next character. -/
def peek (c : Cursor) : Option Char := c.rest.head?

/-- The character behind `n` others. -/
def peekAt (c : Cursor) (n : Nat) : Option Char := c.rest[n]?

/-- Whether the next character is `x`. -/
def isAt (c : Cursor) (x : Char) : Bool := c.peek == some x

/-- The place behind the next character. -/
def next (c : Cursor) : Cursor :=
  match c.rest with
  | [] => c
  | x :: rest =>
    if isBreak x then ⟨rest, c.index + 1, c.line + 1, 0⟩
    else if x = '\uFEFF' then ⟨rest, c.index + 1, c.line, c.column⟩
    else ⟨rest, c.index + 1, c.line, c.column + 1⟩

/-- The place behind the next `n` characters. -/
def skip : (n : Nat) → Cursor → Cursor
  | 0, c => c
  | n + 1, c => skip n c.next

/-- The characters up to the first one without `p`, and the place behind them. -/
def takeWhile (p : Char → Bool) (c : Cursor) : List Char × Cursor :=
  let taken := c.rest.takeWhile p
  (taken, c.skip taken.length)

def skipWhile (p : Char → Bool) (c : Cursor) : Cursor :=
  (c.takeWhile p).2

def skipSpaces (c : Cursor) : Cursor :=
  c.skipWhile (· == ' ')

/-- Skips a comment that begins here. -/
def skipComment (c : Cursor) : Cursor :=
  if c.isAt '#' then c.skipWhile (!isBreak ·) else c

/-- The break that comes next, a line feed standing for U+0085 too, and the place behind it. -/
def lineBreak? (c : Cursor) : Option (Char × Cursor) :=
  match c.peek with
  | some x => if isBreak x then some (if x = '\u0085' then '\n' else x, c.next) else none
  | none => none

/-- Whether three times `x` stand here as a word of their own. -/
def isMark (x : Char) (c : Cursor) : Bool :=
  c.rest.take 3 == [x, x, x] && endsWord (c.peekAt 3)

/-- Whether the mark that begins a document, or the one that ends it, stands here. -/
def isDocumentMark (c : Cursor) : Bool :=
  c.isMark '-' || c.isMark '.'

end Cursor

end Registrar.Yaml
