/-
The text of a scalar: between quotes, as it stands, or as an indented block. A break inside of one
is folded: alone it is a space, and in front of empty lines it goes away.
-/
import Registrar.Yaml.Cursor
import Registrar.Yaml.Fault

namespace Registrar.Yaml

/-- What a break becomes in front of empty lines that end in `empty`. -/
def fold (x : Char) (empty : List Char) : List Char :=
  if x ≠ '\n' then x :: empty else if empty.isEmpty then [' '] else empty

/-! ## Quotes -/

/-- The character that a backslash and `c` stand for. -/
def escaped? (c : Char) : Option Char :=
  match c with
  | '0' => some '\x00'
  | 'a' => some '\x07'
  | 'b' => some '\x08'
  | 't' | '\t' => some '\t'
  | 'n' => some '\n'
  | 'v' => some '\x0B'
  | 'f' => some '\x0C'
  | 'r' => some '\r'
  | 'e' => some '\x1B'
  | ' ' | '"' | '\\' | '/' => some c
  | 'N' => some '\u0085'
  | '_' => some '\u00A0'
  | 'L' => some '\u2028'
  | 'P' => some '\u2029'
  | _ => none

/-- How many hexadecimal digits follow a backslash and `c`. -/
def hexLength? : Char → Option Nat
  | 'x' => some 2
  | 'u' => some 4
  | 'U' => some 8
  | _ => none

def hexValue? (c : Char) : Option Nat :=
  if c.isDigit then some (c.toNat - '0'.toNat)
  else if 'a' ≤ c && c ≤ 'f' then some (c.toNat - 'a'.toNat + 10)
  else if 'A' ≤ c && c ≤ 'F' then some (c.toNat - 'A'.toNat + 10)
  else none

/-- The number that hexadecimal digits stand for, `acc` standing in front of them. -/
def hexNumber? (acc : Nat) : List Char → Option Nat
  | [] => some acc
  | c :: rest => (hexValue? c).bind fun d => hexNumber? (acc * 16 + d) rest

/-- The character with a code; a code of a surrogate stands for U+FFFD. -/
def character (code : Nat) : Except Fault Char :=
  if 0x110000 ≤ code then .error (.noCharacter code)
  else if 0xD800 ≤ code && code < 0xE000 then .ok '\uFFFD'
  else .ok (Char.ofNat code)

/-- The breaks of the empty lines that begin here, and the first character behind them. -/
def emptyLines : (fuel : Nat) → Cursor → Except Fault (List Char × Cursor)
  | 0, _ => .error .malformed
  | fuel + 1, c =>
    if c.isDocumentMark then .error .malformed
    else
      let c := c.skipWhile isGap
      match c.lineBreak? with
      | some (x, c) => do
        let (empty, c) ← emptyLines fuel c
        return (x :: empty, c)
      | none => return ([], c)

/-- What an escape stands for, given the place behind its backslash. -/
def escape (c : Cursor) : Except Fault (List Char × Cursor) :=
  match c.peek with
  | none => .error .malformed
  | some x =>
    match escaped? x, hexLength? x with
    | some y, _ => .ok ([y], c.next)
    | none, some n =>
      let digits := c.next.rest.take n
      match hexNumber? 0 digits with
      | some code =>
        if digits.length = n then do return ([← character code], c.skip (n + 1))
        else .error .malformed
      | none => .error .malformed
    | none, none =>
      match c.lineBreak? with
      | some (_, c) => emptyLines (c.rest.length + 1) c
      | none => .error .malformed

/-- The text up to the closing quote, which is a double one if `double`, and the place behind. -/
def quotedFrom (double : Bool) : (fuel : Nat) → Cursor → Except Fault (List Char × Cursor)
  | 0, _ => .error .malformed
  | fuel + 1, c =>
    let quote := if double then '"' else '\x27'
    match c.peek with
    | none => .error .malformed
    | some x =>
      if x = quote then
        if !double && c.peekAt 1 == some quote then do
          let (more, c) ← quotedFrom double fuel (c.skip 2)
          return (quote :: more, c)
        else return ([], c.next)
      else if double && x = '\\' then do
        let (part, c) ← escape c.next
        let (more, c) ← quotedFrom double fuel c
        return (part ++ more, c)
      else if isGap x || isBreak x then
        let (gap, c) := c.takeWhile isGap
        match c.lineBreak? with
        | some (x, c) => do
          let (empty, c) ← emptyLines (c.rest.length + 1) c
          let (more, c) ← quotedFrom double fuel c
          return (fold x empty ++ more, c)
        | none => do
          let (more, c) ← quotedFrom double fuel c
          return (gap ++ more, c)
      else do
        let (more, c) ← quotedFrom double fuel c.next
        return (x :: more, c)

/-- The scalar between quotes that begins here. -/
def quotedScalar (double : Bool) (c : Cursor) : Except Fault (String × Cursor) := do
  let (text, c) ← quotedFrom double (c.rest.length + 1) c.next
  return (String.ofList text, c)

/-! ## Without quotes -/

/-- Signs that end a scalar between the brackets of a flow collection. -/
def isFlowSign (c : Char) : Bool :=
  c == ',' || c == '[' || c == ']' || c == '\x7b' || c == '\x7d'

/-- How many characters belong to the word that begins here; `flow` tells whether it stands between
brackets. -/
def wordLength (flow : Bool) : List Char → Nat
  | [] => 0
  | x :: rest =>
    if isGap x || isBreak x || (flow && (isFlowSign x || x == '?')) then 0
    else if x = ':' && (endsWord rest.head? || (flow && rest.head?.any isFlowSign)) then 0
    else 1 + wordLength flow rest

/-- The breaks of the empty lines that begin here; none when a document mark follows one. -/
def plainEmptyLines : (fuel : Nat) → Cursor → Option (List Char) × Cursor
  | 0, c => (none, c)
  | fuel + 1, c =>
    if c.isAt ' ' then plainEmptyLines fuel c.next
    else match c.lineBreak? with
      | some (x, c) =>
        if c.isDocumentMark then (none, c)
        else
          let (empty, c) := plainEmptyLines fuel c
          (empty.map (x :: ·), c)
      | none => (some [], c)

/-- What stands between a word and the next one, whether it goes over a line end, and the place
behind it. It is empty when no word can follow. -/
def betweenWords (c : Cursor) : List Char × Bool × Cursor :=
  let (spaces, c) := c.takeWhile (· == ' ')
  match c.lineBreak? with
  | none => (spaces, false, c)
  | some (x, c) =>
    if c.isDocumentMark then ([], true, c)
    else
      let (empty, c) := plainEmptyLines (c.rest.length + 1) c
      ((empty.map (fold x)).getD [], true, c)

/-- The words from here on, `gap` standing before the first of them, of which none on a further
line begins before `indent`; and whether the last place is on a new line. -/
def plainFrom (flow : Bool) (indent : Nat) :
    (fuel : Nat) → (gap : List Char) → (broken : Bool) → Cursor → List Char × Bool × Cursor
  | 0, _, broken, c => ([], broken, c)
  | fuel + 1, gap, broken, c =>
    let n := wordLength flow c.rest
    if c.isAt '#' || n = 0 then ([], broken, c)
    else
      let word := c.rest.take n
      let (gap', broken, c) := betweenWords (c.skip n)
      if gap'.isEmpty || c.isAt '#' || (!flow && c.column < indent) then (gap ++ word, broken, c)
      else
        let (more, broken, c) := plainFrom flow indent fuel gap' broken c
        (gap ++ word ++ more, broken, c)

/-- The scalar without quotes that begins here, and whether it ends on a new line. -/
def plainScalar (flow : Bool) (indent : Nat) (c : Cursor) : String × Bool × Cursor :=
  let (text, broken, c) := plainFrom flow indent (c.rest.length + 1) [] false c
  (String.ofList text, broken, c)

/-! ## Blocks -/

/-- What becomes of the breaks at the end of a block. -/
inductive Chomping where
  | strip
  | clip
  | keep
  deriving DecidableEq, Repr

/-- The chomping that `c` asks for. -/
def chomping? : Option Char → Option Chomping
  | some '+' => some .keep
  | some '-' => some .strip
  | _ => none

/-- The indentation that `c` asks for. -/
def increment? (c : Option Char) : Option Nat :=
  c.bind fun c => if c.isDigit then some (c.toNat - '0'.toNat) else none

/-- The indicators behind the sign of a block, in either order. -/
def blockIndicators (c : Cursor) : Except Fault (Chomping × Option Nat × Cursor) :=
  let (chomping, increment, c) :=
    match chomping? c.peek, increment? c.peek with
    | some chomping, _ =>
      match increment? c.next.peek with
      | some n => (chomping, some n, c.skip 2)
      | none => (chomping, none, c.next)
    | none, some n =>
      match chomping? c.next.peek with
      | some chomping => (chomping, some n, c.skip 2)
      | none => (.clip, some n, c.next)
    | none, none => (.clip, none, c)
  if increment == some 0 || !endsField c.peek then .error .malformed
  else .ok (chomping, increment, c)

/-- Goes to the next line, past spaces and a comment. -/
def restOfLine (c : Cursor) : Except Fault Cursor :=
  let c := c.skipSpaces.skipComment
  if endsLine c.peek then .ok ((c.lineBreak?.map Prod.snd).getD c) else .error .malformed

/-- The breaks of the lines up to the first one with text, and the greatest column on them. -/
def leadingLines : (fuel : Nat) → (widest : Nat) → Cursor → List Char × Nat × Cursor
  | 0, widest, c => ([], widest, c)
  | fuel + 1, widest, c =>
    if c.isAt ' ' then leadingLines fuel (max widest c.next.column) c.next
    else match c.lineBreak? with
      | some (x, c) =>
        let (empty, widest, c) := leadingLines fuel widest c
        (x :: empty, widest, c)
      | none => ([], widest, c)

/-- Skips spaces up to the column `indent`. -/
def skipIndent (indent : Nat) (c : Cursor) : Cursor :=
  c.skip (min (indent - c.column) (c.rest.takeWhile (· == ' ')).length)

/-- The breaks of the empty lines that begin here, and the first text behind them. -/
def blockEmptyLines (indent : Nat) : (fuel : Nat) → Cursor → List Char × Cursor
  | 0, c => ([], c)
  | fuel + 1, c =>
    let c := skipIndent indent c
    match c.lineBreak? with
    | some (x, c) =>
      let (empty, c) := blockEmptyLines indent fuel c
      (x :: empty, c)
    | none => ([], c)

/-- Whether a line of the block begins here. -/
def isBlockLine (indent : Nat) (c : Cursor) : Bool :=
  c.column == indent && c.peek.isSome

/-- What a block consists of: its text up to the last line, the break behind that one, and those of
the empty lines that follow. -/
structure BlockText where
  text : List Char
  lastBreak : List Char
  empty : List Char

/-- The lines of a block from here on, behind empty lines that end in `empty`. -/
def blockLines (folded : Bool) (indent : Nat) :
    (fuel : Nat) → (empty : List Char) → Cursor → BlockText × Cursor
  | 0, empty, c => (⟨[], [], empty⟩, c)
  | fuel + 1, empty, c =>
    if !isBlockLine indent c then (⟨[], [], empty⟩, c)
    else
      let isText := !c.peek.any isGap
      let (line, c) := c.takeWhile (!isBreak ·)
      let lastBreak := (c.lineBreak?.map Prod.fst).toList
      let c := (c.lineBreak?.map Prod.snd).getD c
      let (empty', c) := blockEmptyLines indent (c.rest.length + 1) c
      if isBlockLine indent c then
        let join :=
          if folded && lastBreak == ['\n'] && isText && !c.peek.any isGap then
            if empty'.isEmpty then [' '] else []
          else lastBreak
        let (more, c) := blockLines folded indent fuel empty' c
        ({ more with text := empty ++ line ++ join ++ more.text }, c)
      else (⟨empty ++ line, lastBreak, empty'⟩, c)

/-- The block that begins here with its sign, inside of a block indented by less than `least`. -/
def blockScalar (folded : Bool) (least : Nat) (c : Cursor) : Except Fault (String × Cursor) := do
  let (chomping, increment, c) ← blockIndicators c.next
  let c ← restOfLine c
  let least := max least 1
  let fuel := c.rest.length + 1
  let (indent, empty, c) := match increment with
    | some n =>
      let indent := least + n - 1
      (indent, blockEmptyLines indent fuel c)
    | none =>
      let (empty, widest, c) := leadingLines fuel 0 c
      (max least widest, empty, c)
  let (block, c) := blockLines folded indent fuel empty c
  let tail := match chomping with
    | .strip => []
    | .clip => block.lastBreak
    | .keep => block.lastBreak ++ block.empty
  return (String.ofList (block.text ++ tail), c)

end Registrar.Yaml
