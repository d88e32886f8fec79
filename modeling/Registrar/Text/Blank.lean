/-
Blank characters, and the operations that cut a text at them: `trim` takes blanks off both ends,
`words` splits at runs of blanks, `squeeze` leaves one space for each inner run, and `dropBlanks`
leaves none.
-/
namespace Registrar.Text

/-- White space of every script, with the four separators U+001C to U+001F and the next-line
control. The zero-width space and the byte order mark are not blank. -/
def isBlank (c : Char) : Bool :=
  let n := c.toNat
  (9 ≤ n && n ≤ 13) || (28 ≤ n && n ≤ 32) || n == 0x85 || n == 0xA0 || n == 0x1680 ||
    (0x2000 ≤ n && n ≤ 0x200A) || n == 0x2028 || n == 0x2029 || n == 0x202F || n == 0x205F ||
    n == 0x3000

/-- The text without its leading blanks. -/
def trimStart (cs : List Char) : List Char :=
  cs.dropWhile isBlank

/-- The text without its closing blanks. -/
def trimEnd (cs : List Char) : List Char :=
  (cs.reverse.dropWhile isBlank).reverse

/-- The text without the blanks at its two ends. -/
def trim (s : String) : String :=
  String.ofList (trimEnd (trimStart s.toList))

/-- The runs of characters between blanks. -/
def words (cs : List Char) : List (List Char) :=
  (cs.splitBy fun a b => isBlank a == isBlank b).filter fun run => !run.all isBlank

/-- The words of a text with one space between them. -/
def squeeze (s : String) : String :=
  " ".intercalate ((words s.toList).map String.ofList)

/-- The text without any of its blanks. -/
def dropBlanks (s : String) : String :=
  String.ofList (s.toList.filter (!isBlank ·))

end Registrar.Text
