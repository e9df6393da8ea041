namespace LogScript.Json

/-- Why a text cannot be read on. -/
inductive SyntaxError where
  | endInValue
  | endInString
  | endInObject
  | endInList
  | expectedValue
  | expectedIdent
  | expectedColon
  | expectedCommaOrBrace
  | expectedCommaOrBracket
  | keyNotString
  | trailingComma
  | trailingCharacters
  | invalidNumber
  | numberOutOfRange
  | invalidEscape
  /-- The first half of a pair of escapes without a second escape. -/
  | endOfHexEscape
  /-- Half of a pair of escapes without its other half. -/
  | loneSurrogate
  | controlCharacter
  | recursionLimit
  deriving DecidableEq, Repr

namespace SyntaxError

/-- Whether more text could have helped. -/
def isEnd : SyntaxError → Bool
  | endInValue => true
  | endInString => true
  | endInObject => true
  | endInList => true
  | _ => false

def message : SyntaxError → String
  | endInValue => "EOF while parsing a value"
  | endInString => "EOF while parsing a string"
  | endInObject => "EOF while parsing an object"
  | endInList => "EOF while parsing a list"
  | expectedValue => "expected value"
  | expectedIdent => "expected ident"
  | expectedColon => "expected `:`"
  | expectedCommaOrBrace => "expected `,` or `\x7d`"
  | expectedCommaOrBracket => "expected `,` or `]`"
  | keyNotString => "key must be a string"
  | trailingComma => "trailing comma"
  | trailingCharacters => "trailing characters"
  | invalidNumber => "invalid number"
  | numberOutOfRange => "number out of range"
  | invalidEscape => "invalid escape"
  | endOfHexEscape => "unexpected end of hex escape"
  | loneSurrogate => "lone leading surrogate in hex escape"
  | controlCharacter => "control character (\\u0000-\\u001F) found while parsing a string"
  | recursionLimit => "recursion limit exceeded"

end SyntaxError

end LogScript.Json
