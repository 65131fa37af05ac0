import FlowchartMerge.Text.Unshown

/-!
# Quoted text

A text in double quotes, with an escape for each character that would end it, that
starts an escape, or that cannot be shown.
-/

set_option autoImplicit false

namespace FlowchartMerge.Text

def quoteChar (c : Char) : Text :=
  if c = '"' then "\\\""
  else if c = '\\' then "\\\\"
  else if c = '\x00' then "\\0"
  else if c = '\t' then "\\t"
  else if c = '\n' then "\\n"
  else if c = '\r' then "\\r"
  else if isUnshown c then "\\u" ++ ['{'] ++ Nat.toDigits 16 c.toNat ++ ['}']
  else [c]

def quoted (t : Text) : Text := '"' :: t.flatMap quoteChar ++ ['"']

end FlowchartMerge.Text
