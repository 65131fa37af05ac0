import FlowchartMerge.Number.Numeral

/-!
# Binary floating point numbers and their shortest decimals

A finite number is `m * 2 ^ e / 2 ^ 1074` with `m` below `2 ^ 53`; unless `e` is zero,
`m` is at least `2 ^ 52`. A decimal is read as the nearest such number, a tie going to
the even `m`. A number is written with the fewest decimal digits that read back as
it; of the decimals with so many digits the nearest is taken, the upper one of two.
All of this is computed in natural numbers: a decimal is `digits * 10 ^ scale / 10 ^ 400`,
and a bound of a window is a number over `2 ^ 1076`.
-/

set_option autoImplicit false

namespace FlowchartMerge

inductive Binary64 where
  | finite (negative : Bool) (m e : Nat)
  | infinite (negative : Bool)
  | nan
  deriving DecidableEq, Repr, Inhabited

namespace Binary64

def twoTo (n : Nat) : Nat := Nat.pow 2 n

def tenTo (n : Nat) : Nat := Nat.pow 10 n

def divEven (n d : Nat) : Nat :=
  let q := n / d
  let r := 2 * (n % d)
  if r < d then q else if d < r then q + 1 else q + q % 2

def maxExponent : Nat := 2045

def nearest (negative : Bool) (n d : Nat) : Binary64 :=
  let scaled := n * twoTo 1074
  let e := (scaled / d).log2 - 52
  let m := divEven scaled (d * twoTo e)
  let carry := m == twoTo 53
  let m := if carry then twoTo 52 else m
  let e := if carry then e + 1 else e
  if maxExponent < e then .infinite negative else .finite negative m e

def ofDecimal (negative : Bool) (digits : List Nat) (exponent : Int) : Binary64 :=
  let n := Numeral.value 10 digits
  -- so far from one that the rest of the digits cannot matter
  let magnitude : Int := (Numeral.write n).length + exponent
  if n = 0 ∨ magnitude < -400 then .finite negative 0 0
  else if 400 < magnitude then .infinite negative
  else if 0 ≤ exponent then nearest negative (n * tenTo exponent.toNat) 1
  else nearest negative n (tenTo exponent.natAbs)

structure Decimal where
  digits : Nat
  scale : Nat
  deriving DecidableEq, Repr, Inhabited

/-- The decimals that read back as a number: between two bounds, which count themselves when
the window is closed. -/
structure Window where
  low : Nat
  center : Nat
  high : Nat
  closed : Bool

def window (m e : Nat) : Window where
  low := (4 * m - if m = twoTo 52 ∧ 0 < e then 1 else 2) * twoTo e
  center := 4 * m * twoTo e
  high := (4 * m + 2) * twoTo e
  closed := m % 2 == 0

namespace Window

def ofDecimal (d : Decimal) : Nat := d.digits * tenTo d.scale * twoTo 1076

def ofBound (x : Nat) : Nat := x * tenTo 400

def holds (w : Window) (d : Decimal) : Bool :=
  let x := ofDecimal d
  if w.closed then decide (ofBound w.low ≤ x) && decide (x ≤ ofBound w.high)
  else decide (ofBound w.low < x) && decide (x < ofBound w.high)

def atScale? (w : Window) (scale : Nat) : Option Decimal :=
  let below : Decimal := ⟨ofBound w.center / (tenTo scale * twoTo 1076), scale⟩
  let above : Decimal := ⟨below.digits + 1, scale⟩
  let near := if 2 * ofBound w.center < ofDecimal below + ofDecimal above then [below, above]
    else [above, below]
  near.find? w.holds

def topScale (w : Window) : Nat :=
  (Numeral.write (ofBound w.center / twoTo 1076)).length - 1

def shortest (w : Window) : Decimal :=
  -- seventeen digits tell any two numbers apart
  ((List.range 17).findSome? fun n => w.atScale? (w.topScale - n)).getD ⟨0, 400⟩

end Window

def shortest (m e : Nat) : Decimal := if m = 0 then ⟨0, 400⟩ else (window m e).shortest

def Decimal.text (d : Decimal) : Text :=
  let n := d.digits * tenTo d.scale
  let fraction := Text.stripEnd (fun c => c == '0') (Numeral.writePadded 400 (n % tenTo 400))
  Numeral.write (n / tenTo 400) ++ '.' :: (if fraction.isEmpty then ['0'] else fraction)

def text : Binary64 → Text
  | .finite negative m e => (if negative then ['-'] else []) ++ (shortest m e).text
  | .infinite negative => if negative then "-inf" else "inf"
  | .nan => "NaN"

end Binary64

end FlowchartMerge
