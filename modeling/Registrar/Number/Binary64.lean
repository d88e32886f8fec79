/-
Numbers in binary64 format. A finite one is a significand below 2^53 times a power of two, and
`nearest` gives the one next to a ratio, ties to the even significand; a sum or a product is the
nearest one to the exact result.

`text` writes a number with the fewest digits that read back as the same number.
-/
namespace Registrar

/-- A number in binary64 format; a finite one is `significand * 2 ^ exponent`, with a sign that
zero has too. -/
inductive Binary64 where
  | finite (negative : Bool) (significand : Nat) (exponent : Int)
  | infinite (negative : Bool)
  | nan
  deriving DecidableEq, Repr

namespace Binary64

/-- The ratio `n / d` times `2 ^ e`, as numerator and denominator. -/
def shift (n d : Nat) (e : Int) : Nat × Nat :=
  if 0 ≤ e then (n * Nat.pow 2 e.toNat, d) else (n, d * Nat.pow 2 (-e).toNat)

/-- The ratio `n / d` times `10 ^ e`, as numerator and denominator. -/
def decimalShift (n d : Nat) (e : Int) : Nat × Nat :=
  if 0 ≤ e then (n * Nat.pow 10 e.toNat, d) else (n, d * Nat.pow 10 (-e).toNat)

/-- The greatest `e` with `2 ^ e ≤ n / d`, for positive `n` and `d`. -/
def binaryOrder (n d : Nat) : Int :=
  let e : Int := (n.log2 : Int) - d.log2
  let (m, c) := shift n d (-e)
  if c ≤ m then e else e - 1

/-- The natural number nearest to `n / d`, the even one of two. -/
def roundHalfEven (n d : Nat) : Nat :=
  let q := n / d
  let r := n % d
  if 2 * r < d then q else if d < 2 * r then q + 1 else q + q % 2

/-- The number nearest to `n / d`, for a positive `d`. -/
def nearest (negative : Bool) (n d : Nat) : Binary64 :=
  if n = 0 then finite negative 0 (-1074)
  else
    let e := max (binaryOrder n d - 52) (-1074)
    let (m, c) := shift n d (-e)
    let s := roundHalfEven m c
    let (s, e) := if s = Nat.pow 2 53 then (Nat.pow 2 52, e + 1) else (s, e)
    if 971 < e then infinite negative else finite negative s e

/-- The nearest number to `n * 10 ^ e`. What is far above or below all finite numbers is not
computed. -/
def ofDecimal (negative : Bool) (n : Nat) (e : Int) : Binary64 :=
  if n = 0 || e < -400 - (n.log2 : Int) then finite negative 0 (-1074)
  else if 400 < e then infinite negative
  else
    let (m, c) := decimalShift n 1 e
    nearest negative m c

/-- A signed ratio as the nearest number; zero is positive. -/
def ofRatio (n : Int) (d : Nat) : Binary64 :=
  nearest (n < 0) n.natAbs d

/-- The value of a finite number as a signed numerator over a power of two. -/
def ratio (negative : Bool) (significand : Nat) (exponent : Int) : Int × Nat :=
  let (n, d) := shift significand 1 exponent
  (if negative then -n else n, d)

def neg : Binary64 → Binary64
  | finite negative s e => finite (!negative) s e
  | infinite negative => infinite (!negative)
  | nan => nan

/-- The sum, where a sum of zero is positive. -/
def add : Binary64 → Binary64 → Binary64
  | nan, _ | _, nan => nan
  | infinite a, infinite b => if a = b then infinite a else nan
  | infinite a, finite .. => infinite a
  | finite .., infinite b => infinite b
  | finite a s e, finite b t f =>
    let (n, d) := ratio a s e
    let (m, c) := ratio b t f
    ofRatio (n * c + m * d) (d * c)

/-- The product. -/
def mul : Binary64 → Binary64 → Binary64
  | finite a s e, finite b t f =>
    let (n, d) := shift (s * t) 1 (e + f)
    nearest (a != b) n d
  | infinite a, infinite b => infinite (a != b)
  | infinite a, finite b s _ | finite b s _, infinite a => if s = 0 then nan else infinite (a != b)
  | nan, _ | _, nan => nan

/-! ## Writing -/

/-- The greatest `e` with `10 ^ e ≤ n / d`, for positive `n` and `d`, looking up or down from `e`
for at most `fuel` steps. -/
def decimalOrderFrom (n d : Nat) : (fuel : Nat) → Int → Int
  | 0, e => e
  | fuel + 1, e =>
    let (m, c) := decimalShift n d (-e)
    if m < c then decimalOrderFrom n d fuel (e - 1)
    else if 10 * c ≤ m then decimalOrderFrom n d fuel (e + 1)
    else e

/-- The greatest `e` with `10 ^ e ≤ n / d`, for positive `n` and `d`. -/
def decimalOrder (n d : Nat) : Int :=
  decimalOrderFrom n d 400 (binaryOrder n d * 30103 / 100000)

/-- The decimal of `count` digits nearest to `n / d` among those that read back as `x`, which is
`n / d`, the even one of two; `order` is the decimal order of `n / d`. -/
def decimalOf? (x : Binary64) (n d : Nat) (order : Int) (count : Nat) : Option Nat :=
  let e := order - count + 1
  let (m, c) := decimalShift n d (-e)
  let low := m / c
  let near := roundHalfEven m c
  let readsBack := fun k => ofDecimal false k e == x
  if readsBack near then some near
  else if readsBack low then some low
  else if readsBack (low + 1) then some (low + 1)
  else none

/-- The fewest digits that read back as `x`, and where the point stands behind them: the value is
`0.digits` times ten to that power. -/
def shortest (x : Binary64) (n d : Nat) : List Char × Int :=
  let order := decimalOrder n d
  match (List.range 17).findSome? fun k => (decimalOf? x n d order (k + 1)).map (·, k + 1) with
  | some (digits, count) =>
    let written := Nat.toDigits 10 digits
    (written, order + 1 + (written.length - count : Int))
  | none => ([], 0)

/-- Digits without the zeros at their end. -/
def dropZeros (digits : List Char) : List Char :=
  (digits.reverse.dropWhile (· = '0')).reverse

/-- The exponent of a written number, of two digits at least. -/
def exponentText (e : Int) : List Char :=
  let digits := Nat.toDigits 10 e.natAbs
  'e' :: (if e < 0 then '-' else '+') :: (List.replicate (2 - digits.length) '0' ++ digits)

/-- Digits and the place of their point, written out, or with an exponent when the point is far
away from them. -/
def layout (digits : List Char) (point : Int) : List Char :=
  if point ≤ -4 || 16 < point then
    match digits with
    | [] => []
    | d :: rest => d :: ((if rest.isEmpty then [] else '.' :: rest) ++ exponentText (point - 1))
  else if point ≤ 0 then '0' :: '.' :: (List.replicate (-point).toNat '0' ++ digits)
  else
    let whole := point.toNat
    digits.take whole ++ List.replicate (whole - digits.length) '0' ++
      '.' :: (if digits.length ≤ whole then ['0'] else digits.drop whole)

/-- A number, written. -/
def text : Binary64 → String
  | nan => "nan"
  | infinite negative => if negative then "-inf" else "inf"
  | finite negative s e =>
    let sign := if negative then ['-'] else []
    if s = 0 then String.ofList (sign ++ ['0', '.', '0'])
    else
      let (n, d) := shift s 1 e
      let (digits, point) := shortest (finite false s e) n d
      String.ofList (sign ++ layout (dropZeros digits) point)

end Binary64

end Registrar
