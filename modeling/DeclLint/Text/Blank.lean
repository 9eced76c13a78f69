import DeclLint.Text.CodePoints

/-!
# White space

The characters with the Unicode property White_Space, and the texts made of nothing else.
-/

namespace DeclLint

namespace Text

/-- The code points with the Unicode property White_Space. -/
def whiteSpace : CodePoints := [
  (0x9, 0xD), (0x20, 0x20), (0x85, 0x85), (0xA0, 0xA0), (0x1680, 0x1680), (0x2000, 0x200A),
  (0x2028, 0x2029), (0x202F, 0x202F), (0x205F, 0x205F), (0x3000, 0x3000)]

/-- Whether the text has no character but white space. -/
def isBlank (text : String) : Bool := text.toList.all fun c => whiteSpace.contains c.toNat

end Text

end DeclLint
