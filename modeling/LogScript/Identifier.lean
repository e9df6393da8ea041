namespace LogScript.Identifier

/-- Characters that begin an identifier. -/
def isStart (c : Char) : Bool := c.isAlpha || c == '_' || c == '$'

/-- Characters that continue an identifier. -/
def isPart (c : Char) : Bool := isStart c || c.isDigit

def isIdentifier (s : String) : Bool :=
  match s.toList with
  | [] => false
  | c :: r => isStart c && r.all isPart

end LogScript.Identifier
