import FlowchartMerge.Text.Basic

/-!
# Numbers written in digits

Counts are written in base ten without leading zeros. A count that is read may have
a plus sign and leading zeros, and fits into 64 bits.
-/

set_option autoImplicit false

namespace FlowchartMerge.Numeral

def write (n : Nat) : Text := Nat.toDigits 10 n

def writeInt (n : Int) : Text := if n < 0 then '-' :: write n.natAbs else write n.natAbs

def writePadded (width n : Nat) : Text :=
  let ds := write n
  List.replicate (width - ds.length) '0' ++ ds

def value (base : Nat) (digits : List Nat) : Nat :=
  digits.foldl (fun a d => a * base + d) 0

def hexDigit? (c : Char) : Option Nat :=
  if c.isDigit then some (c.toNat - 48)
  else if 'a' ≤ c ∧ c ≤ 'f' then some (c.toNat - 87)
  else if 'A' ≤ c ∧ c ≤ 'F' then some (c.toNat - 55)
  else none

def digit? (base : Nat) (c : Char) : Option Nat := (hexDigit? c).filter fun d => d < base

def digits? (base : Nat) (t : Text) : Option (List Nat) :=
  if t.isEmpty then none else t.mapM (digit? base)

def limit : Nat := 18446744073709551616

def read? (t : Text) : Option Nat :=
  (digits? 10 ((Text.after? ['+'] t).getD t)).bind fun ds =>
    if value 10 ds < limit then some (value 10 ds) else none

end FlowchartMerge.Numeral
