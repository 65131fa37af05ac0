import FlowchartMerge.Toml.Value

/-!
# Blanks, keys and strings

Every reader takes a text and gives what it has read with the rest of the text, or
nothing if the text does not start with what is read. A reader of the rest of a string
stands behind the opening quotes.
-/

set_option autoImplicit false

namespace FlowchartMerge.Toml

abbrev Reader (α : Type) := Text → Option (α × Text)

def isTextChar (c : Char) : Bool :=
  c == '\t' || 0x20 ≤ c.toNat && c.toNat ≤ 0x7E || 0x80 ≤ c.toNat

def skipPadding (t : Text) : Text := t.dropWhile Text.isPadding

def skipComment : Text → Text
  | '#' :: t => t.dropWhile isTextChar
  | t => t

def lineRest? (t : Text) : Option Text :=
  match skipComment (skipPadding t) with
  | [] => some []
  | u => (Text.lineEnd? u).map Prod.snd

-- the flag: a comment has begun
def skipLines : Bool → Text → Text
  | _, [] => []
  | _, '\r' :: '\n' :: t => skipLines false t
  | comment, c::t =>
    if c = '\n' then skipLines false t
    else if comment then (if isTextChar c then skipLines true t else c::t)
    else if Text.isPadding c then skipLines false t
    else if c = '#' then skipLines true t
    else c::t

def escape? : Char → Option Char
  | 'b' => some '\x08'
  | 't' => some '\t'
  | 'n' => some '\n'
  | 'f' => some '\x0c'
  | 'r' => some '\r'
  | '"' => some '"'
  | '\\' => some '\\'
  | _ => none

def codePoint? (digits : Text) : Option Char :=
  (Numeral.digits? 16 digits).bind fun ds =>
    let n := Numeral.value 16 ds
    if n.isValidChar then some (Char.ofNat n) else none

def push (c : Char) (r : Option (Text × Text)) : Option (Text × Text) :=
  r.map fun p => (c::p.1, p.2)

def basicRest : Reader Text
  | [] => none
  | c::t =>
    if c = '"' then some ([], t)
    else if c = '\\' then
      match t with
      | 'u' :: a::b::x::y::r =>
        (codePoint? [a, b, x, y]).bind fun d => push d (basicRest r)
      | 'U' :: a::b::x::y::e::f::g::h::r =>
        (codePoint? [a, b, x, y, e, f, g, h]).bind fun d => push d (basicRest r)
      | d::r => (escape? d).bind fun d => push d (basicRest r)
      | [] => none
    else if isTextChar c then push c (basicRest t)
    else none

def literalRest : Reader Text
  | [] => none
  | c::t =>
    if c = '\'' then some ([], t)
    else if isTextChar c then push c (literalRest t)
    else none

-- at most two quotes before the closing ones still belong to the string
def closing? (q : Char) : Reader Text := fun t =>
  match Text.after? [q, q, q, q, q] t, Text.after? [q, q, q, q] t, Text.after? [q, q, q] t with
  | some r, _, _ => some ([q, q], r)
  | none, some r, _ => some ([q], r)
  | none, none, some r => some ([], r)
  | none, none, none => none

def hidesLineEnd (t : Text) : Bool := (Text.lineEnd? (skipPadding t)).isSome

-- the flag: a backslash hides the padding and line ends from here on
def longBasicRest : Bool → Reader Text
  | _, [] => none
  | hidden, '\r' :: '\n' :: t =>
    if hidden then longBasicRest true t else push '\n' (longBasicRest false t)
  | hidden, c::t =>
    if c = '\n' then
      if hidden then longBasicRest true t else push '\n' (longBasicRest false t)
    else if hidden && Text.isPadding c then longBasicRest true t
    else if c = '"' then
      match closing? '"' (c::t) with
      | some p => some p
      | none => push c (longBasicRest false t)
    else if c = '\\' then
      if hidesLineEnd t then longBasicRest true t
      else
        match t with
        | 'u' :: a::b::x::y::r =>
          (codePoint? [a, b, x, y]).bind fun d => push d (longBasicRest false r)
        | 'U' :: a::b::x::y::e::f::g::h::r =>
          (codePoint? [a, b, x, y, e, f, g, h]).bind fun d => push d (longBasicRest false r)
        | d::r => (escape? d).bind fun d => push d (longBasicRest false r)
        | [] => none
    else if isTextChar c then push c (longBasicRest false t)
    else none

def longLiteralRest : Reader Text
  | [] => none
  | '\r' :: '\n' :: t => push '\n' (longLiteralRest t)
  | c::t =>
    if c = '\n' then push '\n' (longLiteralRest t)
    else if c = '\'' then
      match closing? '\'' (c::t) with
      | some p => some p
      | none => push c (longLiteralRest t)
    else if isTextChar c then push c (longLiteralRest t)
    else none

def skipLineEnd (t : Text) : Text := ((Text.lineEnd? t).map Prod.snd).getD t

def string? : Reader Text
  | '"' :: '"' :: '"' :: t => longBasicRest false (skipLineEnd t)
  | '"' :: t => basicRest t
  | '\'' :: '\'' :: '\'' :: t => longLiteralRest (skipLineEnd t)
  | '\'' :: t => literalRest t
  | _ => none

def isBareChar (c : Char) : Bool := c.isAlphanum || c == '-' || c == '_'

def keyPart? : Reader Text
  | '"' :: t => basicRest t
  | '\'' :: t => literalRest t
  | t =>
    let w := t.takeWhile isBareChar
    if w.isEmpty then none else some (w, t.dropWhile isBareChar)

def maxDepth : Nat := 79

def keyParts? : Nat → Reader (List Text)
  | 0, _ => none
  | n+1, t =>
    (keyPart? (skipPadding t)).bind fun p =>
      match skipPadding p.2 with
      | '.' :: r => (keyParts? n r).map fun q => (p.1::q.1, q.2)
      | r => some ([p.1], r)

def key? : Reader (List Text) := keyParts? maxDepth

end FlowchartMerge.Toml
