import LogScript.Text.Ranges

namespace LogScript.Text

/-- The characters with the property White_Space. -/
def blank : Ranges :=
  [(0x9, 0xd), (0x20, 0x20), (0x85, 0x85), (0xa0, 0xa0), (0x1680, 0x1680), (0x2000, 0x200a),
   (0x2028, 0x2029), (0x202f, 0x202f), (0x205f, 0x205f), (0x3000, 0x3000)]

/-- White space in the sense of Unicode; zero-width characters do not belong to it. -/
def isBlank (c : Char) : Bool := blank.contains c

/-- A text without its leading characters of a class. -/
def dropStart (p : Char → Bool) (cs : List Char) : List Char := cs.dropWhile p

/-- A text without its trailing characters of a class. -/
def dropEnd (p : Char → Bool) (cs : List Char) : List Char := (cs.reverse.dropWhile p).reverse

/-- A text without the white space around it. -/
def trim (cs : List Char) : List Char := dropEnd isBlank (dropStart isBlank cs)

end LogScript.Text
