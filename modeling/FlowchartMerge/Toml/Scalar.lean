import FlowchartMerge.Toml.Lexeme

/-!
# Numbers, dates and times

Digits may have an underscore between two of them. An integer in base ten has no
leading zeros and all integers fit into 64 bits. Of dates and times only their form
and ranges matter here.
-/

set_option autoImplicit false

namespace FlowchartMerge.Toml

def moreDigits (base : Nat) : Text → List Nat × Text
  | [] => ([], [])
  | c::t =>
    match Numeral.digit? base c with
    | some d =>
      let p := moreDigits base t
      (d::p.1, p.2)
    | none =>
      match c, t with
      | '_', x::r =>
        match Numeral.digit? base x with
        | some d =>
          let p := moreDigits base r
          (d::p.1, p.2)
        | none => ([], c::t)
      | _, _ => ([], c::t)

def digits? (base : Nat) : Reader (List Nat)
  | [] => none
  | c::t =>
    (Numeral.digit? base c).map fun d =>
      let p := moreDigits base t
      (d::p.1, p.2)

def sign : Text → Bool × Text
  | '+' :: t => (false, t)
  | '-' :: t => (true, t)
  | t => (false, t)

def plainDigits? : Reader (List Nat)
  | '0' :: t => some ([0], t)
  | t => digits? 10 t

def minInteger : Int := -9223372036854775808

def maxInteger : Int := 9223372036854775807

def integerOf? (negative : Bool) (base : Nat) (digits : List Nat) : Option Value :=
  let n : Int := Numeral.value base digits
  let n := if negative then -n else n
  if minInteger ≤ n ∧ n ≤ maxInteger then some (.integer n) else none

def integer? : Reader Value
  | '0' :: 'x' :: t => based 16 t
  | '0' :: 'o' :: t => based 8 t
  | '0' :: 'b' :: t => based 2 t
  | t =>
    (plainDigits? (sign t).2).bind fun p =>
      (integerOf? (sign t).1 10 p.1).map fun v => (v, p.2)
where
  based (base : Nat) (t : Text) : Option (Value × Text) :=
    (digits? base t).bind fun p => (integerOf? false base p.1).map fun v => (v, p.2)

def fraction? : Reader (List Nat)
  | '.' :: t => digits? 10 t
  | _ => none

def exponent? : Reader Int
  | c::t =>
    if c = 'e' ∨ c = 'E' then
      (digits? 10 (sign t).2).map fun p =>
        let n : Int := Numeral.value 10 p.1
        (if (sign t).1 then -n else n, p.2)
    else none
  | [] => none

def floatOf? (negative : Bool) (digits : List Nat) (exponent : Int) : Option Value :=
  -- a number that is too great is refused, one that is too small is not
  let x := Binary64.ofDecimal negative digits exponent
  if x = .infinite false then none else some (.float x)

def decimalFloat? : Reader Value := fun t =>
  let negative := (sign t).1
  (plainDigits? (sign t).2).bind fun whole =>
    match fraction? whole.2 with
    | some places =>
      let ex := (exponent? places.2).getD (0, places.2)
      (floatOf? negative (whole.1 ++ places.1) (ex.1 - places.1.length)).map fun v => (v, ex.2)
    | none =>
      (exponent? whole.2).bind fun ex =>
        (floatOf? negative whole.1 ex.1).map fun v => (v, ex.2)

def specialFloat? : Reader Value := fun t =>
  match Text.after? "inf" (sign t).2, Text.after? "nan" (sign t).2 with
  | some r, _ => some (.float (.infinite (sign t).1), r)
  | none, some r => some (.float .nan, r)
  | none, none => none

def field? (count low high : Nat) : Reader Nat := fun t =>
  if t.length < count then none
  else
    (Numeral.digits? 10 (t.take count)).bind fun ds =>
      let n := Numeral.value 10 ds
      if low ≤ n ∧ n ≤ high then some (n, t.drop count) else none

def isLeapYear (y : Nat) : Bool := y % 4 == 0 && (y % 100 != 0 || y % 400 == 0)

def daysIn (year month : Nat) : Nat :=
  if month = 2 then (if isLeapYear year then 29 else 28)
  else if [4, 6, 9, 11].contains month then 30
  else 31

def date? (t : Text) : Option Text := do
  let (year, t) ← field? 4 0 9999 t
  let (month, t) ← field? 2 1 12 (← Text.after? ['-'] t)
  let (_, t) ← field? 2 1 (daysIn year month) (← Text.after? ['-'] t)
  return t

def time? (t : Text) : Option Text := do
  let (_, t) ← field? 2 0 23 t
  let (_, t) ← field? 2 0 59 (← Text.after? [':'] t)
  let (_, t) ← field? 2 0 60 (← Text.after? [':'] t)
  match t with
  | '.' :: c::r => return if c.isDigit then r.dropWhile Char.isDigit else t
  | _ => return t

def offset? (t : Text) : Option Text :=
  match t with
  | [] => none
  | c::t =>
    if c = 'Z' ∨ c = 'z' then some t
    else if c = '+' ∨ c = '-' then do
      let (_, t) ← field? 2 0 23 t
      let (_, t) ← field? 2 0 59 (← Text.after? [':'] t)
      return t
    else none

def dateTime? (t : Text) : Option Text :=
  (date? t).map fun day =>
    match day with
    | [] => day
    | c::r =>
      if c = 'T' ∨ c = 't' ∨ c = ' ' then
        match time? r with
        | some u => (offset? u).getD u
        | none => day
      else day

def moment? : Reader Value := fun t =>
  ((dateTime? t).or (time? t)).map fun r => (.moment, r)

def number? : Reader Value := fun t =>
  (moment? t).or ((decimalFloat? t).or ((specialFloat? t).or (integer? t)))

def word? (w : Text) (v : Value) : Reader Value := fun t => (Text.after? w t).map fun r => (v, r)

def scalar? : Reader Value
  | [] => none
  | c::t =>
    if c = '"' ∨ c = '\'' then (string? (c::t)).map fun p => (.string p.1, p.2)
    else if c = 't' then word? "true" (.boolean true) (c::t)
    else if c = 'f' then word? "false" (.boolean false) (c::t)
    else if c = 'i' ∨ c = 'n' then specialFloat? (c::t)
    else if c = '+' ∨ c = '-' ∨ c.isDigit then number? (c::t)
    else none

end FlowchartMerge.Toml
