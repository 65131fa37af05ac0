import FlowchartMerge.Text.Basic

/-!
# Texts from any bytes

Bytes that encode no text are read all the same, with one replacement character for each
longest run of bytes that starts a character and breaks off, or for a byte that starts none.
-/

set_option autoImplicit false

namespace FlowchartMerge

def replacement : Char := '\uFFFD'

namespace Utf8

def isContinuation (b : UInt8) : Bool := 0x80 ≤ b && b ≤ 0xBF

def mayFollow (first second : UInt8) : Bool :=
  if first = 0xE0 then 0xA0 ≤ second && second ≤ 0xBF
  else if first = 0xED then 0x80 ≤ second && second ≤ 0x9F
  else if first = 0xF0 then 0x90 ≤ second && second ≤ 0xBF
  else if first = 0xF4 then 0x80 ≤ second && second ≤ 0x8F
  else 0xE1 ≤ first && first ≤ 0xF3 && isContinuation second

-- only asked where no character can be read, so that two bytes are never a whole character
def brokenLength (first : UInt8) (second third : Option UInt8) : Nat :=
  if (second.map (mayFollow first)).getD false then
    if 0xF0 ≤ first && (third.map isContinuation).getD false then 3 else 2
  else 1

theorem brokenLength_pos (first : UInt8) (second third : Option UInt8) :
    0 < brokenLength first second third := by
  unfold brokenLength
  split
  · split <;> decide
  · decide

def readFrom (b : ByteArray) (i : Nat) : Text :=
  if h : i < b.size then
    match b.utf8DecodeChar? i with
    | some c => c :: readFrom b (i+c.utf8Size)
    | none => replacement :: readFrom b (i+brokenLength b[i] b[i+1]? b[i+2]?)
  else []
termination_by b.size-i
decreasing_by
  · have hc := c.utf8Size_pos
    omega
  · have hb := brokenLength_pos b[i] b[i+1]? b[i+2]?
    omega

end Utf8

def lossyText (b : ByteArray) : Text := Utf8.readFrom b 0

end FlowchartMerge
