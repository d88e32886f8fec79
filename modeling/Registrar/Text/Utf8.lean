/-
Text as bytes. `decode?` reads UTF-8 and refuses malformed bytes; `decodeLossy` puts U+FFFD for
each of them, one for the longest part that a well-formed sequence could begin with.
`readText?` is how a source file is read: one byte order mark in front is dropped, also one that the
file breaks off in, and every line ends in a line feed.
-/
namespace Registrar.Text

/-- The text that well-formed bytes stand for. -/
def decode? (bytes : ByteArray) : Option String :=
  String.fromUTF8? bytes

/-- The bounds of the second byte of a sequence that starts with `b`, and how many bytes follow
`b`; none when no sequence starts so. -/
def sequenceStart (b : Nat) : Option (Nat × Nat × Nat) :=
  if 0xC2 ≤ b && b ≤ 0xDF then some (0x80, 0xBF, 1)
  else if b == 0xE0 then some (0xA0, 0xBF, 2)
  else if b == 0xED then some (0x80, 0x9F, 2)
  else if 0xE1 ≤ b && b ≤ 0xEF then some (0x80, 0xBF, 2)
  else if b == 0xF0 then some (0x90, 0xBF, 3)
  else if b == 0xF4 then some (0x80, 0x8F, 3)
  else if 0xF1 ≤ b && b ≤ 0xF3 then some (0x80, 0xBF, 3)
  else none

/-- Reads `count` more bytes of a sequence whose next byte lies between `lo` and `hi`: the code
point, or none when the sequence breaks off, and the bytes not used. -/
def sequenceRest (lo hi acc : Nat) : (count : Nat) → List UInt8 → Option Nat × List UInt8
  | 0, bytes => (some acc, bytes)
  | _ + 1, [] => (none, [])
  | count + 1, b :: bytes =>
    if lo ≤ b.toNat && b.toNat ≤ hi then
      sequenceRest 0x80 0xBF (acc * 64 + b.toNat % 64) count bytes
    else (none, b :: bytes)

theorem sequenceRest_length_le (lo hi acc count : Nat) (bytes : List UInt8) :
    (sequenceRest lo hi acc count bytes).2.length ≤ bytes.length := by
  induction count generalizing lo hi acc bytes with
  | zero => simp [sequenceRest]
  | succ count ih =>
    cases bytes with
    | nil => simp [sequenceRest]
    | cons b bytes =>
      simp only [sequenceRest]
      split
      · exact Nat.le_succ_of_le (ih ..)
      · exact Nat.le_refl _

/-- The first character that the bytes hold, or none for a malformed part, and what follows. -/
def nextChar (b : UInt8) (bytes : List UInt8) : Option Char × List UInt8 :=
  if b.toNat < 0x80 then (some (Char.ofNat b.toNat), bytes)
  else match sequenceStart b.toNat with
    | none => (none, bytes)
    | some (lo, hi, count) =>
      let (code, rest) := sequenceRest lo hi (b.toNat % Nat.pow 2 (6 - count)) count bytes
      (code.map Char.ofNat, rest)

theorem nextChar_length_le (b : UInt8) (bytes : List UInt8) :
    (nextChar b bytes).2.length ≤ bytes.length := by
  unfold nextChar
  split
  · exact Nat.le_refl _
  · split
    · exact Nat.le_refl _
    · exact sequenceRest_length_le ..

/-- The characters that bytes stand for, with U+FFFD for each malformed part. -/
def decodeLossy : List UInt8 → List Char
  | [] => []
  | b :: bytes =>
    (nextChar b bytes).1.getD '\uFFFD' :: decodeLossy (nextChar b bytes).2
termination_by bytes => bytes.length
decreasing_by exact Nat.lt_succ_of_le (nextChar_length_le b bytes)

/-- Every line end, `CR LF` or `CR` alone, becomes a line feed. -/
def unifyLineEnds : List Char → List Char
  | [] => []
  | '\r' :: '\n' :: rest => '\n' :: unifyLineEnds rest
  | '\r' :: rest => '\n' :: unifyLineEnds rest
  | c :: rest => c :: unifyLineEnds rest

/-- The characters without a byte order mark in front. -/
def dropMark : List Char → List Char
  | '\uFEFF' :: rest => rest
  | cs => cs

/-- The text of bytes, with its line ends unified. -/
def readLines? (bytes : ByteArray) : Option String :=
  (decode? bytes).map fun s => String.ofList (unifyLineEnds s.toList)

/-- Whether bytes are the beginning of a byte order mark and nothing else. -/
def beginsMark (bytes : ByteArray) : Bool :=
  bytes.data.toList.isPrefixOf [0xEF, 0xBB, 0xBF]

/-- The text of a source file: without a byte order mark, its line ends unified. A file that breaks
off inside the mark has an empty text. -/
def readText? (bytes : ByteArray) : Option String :=
  if beginsMark bytes then some ""
  else (decode? bytes).map fun s => String.ofList (unifyLineEnds (dropMark s.toList))

/-- The text of the bytes from `first` up to `last`. -/
def textBetween (bytes : ByteArray) (first last : Nat) : String :=
  String.ofList (decodeLossy (bytes.extract first last).toList)

end Registrar.Text
