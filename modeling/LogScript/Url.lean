namespace LogScript

/-- Turns a virtual path into an address. The path arrives as configured, marker included. -/
abbrev Resolver := String → String

namespace Url

/-- The first character of a virtual path. -/
def marker : Char := '~'

/-- Characters that end the first segment of a path. -/
def isBreak (c : Char) : Bool := c == '/' || c == '?' || c == '#'

/-- Characters of an address other than the colon. The long s and the Kelvin sign are other
letter cases of `s` and `k`. -/
def isPathChar (c : Char) : Bool :=
  c.isAlphanum || "-._~/?#[]@!$&'()*+,;=%".toList.contains c || c == '\u017f' || c == '\u212a'

/-- Characters of an address. -/
def isUrlChar (c : Char) : Bool := isPathChar c || c == ':'

/-- Whether a character is a letter of ASCII, whatever its case. -/
def isLetter (lower : Char) (c : Char) : Bool := c.toLower == lower

/-- What follows the scheme for web pages, secured or not. -/
def afterScheme? : List Char → Option (List Char)
  | h :: t :: t' :: p :: s :: ':' :: r =>
    if isLetter 'h' h && isLetter 't' t && isLetter 't' t' && isLetter 'p' p &&
      (isLetter 's' s || s == '\u017f') then some r else none
  | h :: t :: t' :: p :: ':' :: r =>
    if isLetter 'h' h && isLetter 't' t && isLetter 't' t' && isLetter 'p' p then some r else none
  | _ => none

/-- Two slashes and at least one more character. -/
def isAuthority : List Char → Bool
  | '/' :: '/' :: c :: r => (c :: r).all isUrlChar
  | _ => false

/-- A path of the host of the page: no colon before the first break. -/
def isPath : List Char → Bool
  | [] => true
  | c :: r => if isBreak c then r.all isUrlChar else isPathChar c && isPath r

/-- An address on any host. -/
def isRemote (cs : List Char) : Bool :=
  isAuthority cs || (afterScheme? cs).any isAuthority

/-- A path that the host of the page resolves. -/
def isVirtual : List Char → Bool
  | [] => false
  | c :: r => c == marker && r.all isUrlChar

/-- The addresses that may stand in a configuration. -/
def isUrl (s : String) : Bool :=
  let cs := s.toList
  isRemote cs || isVirtual cs || (!cs.isEmpty && isPath cs)

/-- The address meant by a configured text; nothing if the text is none. -/
def absolute? (r : Resolver) (s : String) : Option String :=
  if !isUrl s then none
  else if s.toList.head? = some marker then some (r s)
  else some s

end Url

namespace Resolver

/-- Hands every path back untouched. -/
def identity : Resolver := fun s => s

/-- Puts virtual paths under a root, with one slash between. -/
def underRoot (root : String) : Resolver := fun path =>
  let rest := match path.toList with
    | '~' :: r => r
    | cs => cs
  let base := (root.toList.reverse.dropWhile (· == '/')).reverse
  String.ofList (base ++ '/' :: rest.dropWhile (· == '/'))

end Resolver

end LogScript
