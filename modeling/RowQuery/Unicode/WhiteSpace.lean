import RowQuery.Unicode.CharSet
/-!
# White space

The characters with the property White_Space: those that part the words of
a query, and of which a blank text consists.
-/

namespace RowQuery

namespace Unicode

/-- The characters with the property White_Space. -/
def whiteSpace : CharSet :=
  ⟨[(0x9, 0xD), (0x20, 0x20), (0x85, 0x85), (0xA0, 0xA0), (0x1680, 0x1680), (0x2000, 0x200A),
   (0x2028, 0x2029), (0x202F, 0x202F), (0x205F, 0x205F), (0x3000, 0x3000)]⟩

/-- Whether a character is white space. -/
def isWhiteSpace (c : Char) : Bool :=
  whiteSpace.has c

/-- Whether a text consists of white space only. -/
def isBlank (s : String) : Bool :=
  s.toList.all isWhiteSpace

end Unicode

end RowQuery
