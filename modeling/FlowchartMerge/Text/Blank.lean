/-!
# White space

The characters with the Unicode property White_Space. A byte order mark and the
zero width space do not have it, nor do the separators from U+001C to U+001F.
-/

set_option autoImplicit false

namespace FlowchartMerge

def isBlank (c : Char) : Bool :=
  let n := c.toNat
  9 ≤ n && n ≤ 13 || n == 32 || n == 0x85 || n == 0xA0 || n == 0x1680 ||
    0x2000 ≤ n && n ≤ 0x200A || n == 0x2028 || n == 0x2029 || n == 0x202F ||
    n == 0x205F || n == 0x3000

end FlowchartMerge
