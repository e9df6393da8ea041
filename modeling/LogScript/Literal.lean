import LogScript.Text.Digits

namespace LogScript.Literal

/-- Characters that are written by their code: controls, line ends of older engines, and those
with a meaning in markup. -/
def needsCode (c : Char) : Bool :=
  c.toNat < 0x20 || c == '\x7f' || c == '\u2028' || c == '\u2029' ||
    c == '\'' || c == '<' || c == '>' || c == '&'

/-- One character inside a string literal. -/
def escape (c : Char) : List Char :=
  if c = '"' then ['\\', '"']
  else if c = '\\' then ['\\', '\\']
  else if c = '\n' then ['\\', 'n']
  else if c = '\r' then ['\\', 'r']
  else if c = '\t' then ['\\', 't']
  else if c = '\x08' then ['\\', 'b']
  else if c = '\x0c' then ['\\', 'f']
  else if needsCode c then '\\' :: 'u' :: Text.hex4 c.toNat
  else [c]

def quote (s : String) : String :=
  String.ofList ('"' :: (s.toList.flatMap escape ++ ['"']))

def ofBool (b : Bool) : String := if b then "true" else "false"

def array (items : List String) : String := "[" ++ ", ".intercalate items ++ "]"

@[simp] theorem toList_quote (s : String) :
    (quote s).toList = '"' :: (s.toList.flatMap escape ++ ['"']) := by
  simp [quote]

end LogScript.Literal
