/-!
# What can be wrong with a JSON text

Each fault has one wording, whatever the text was to be read as.
-/

namespace Gatehouse

inductive SyntaxError
  | eofValue | eofList | eofObject | eofString
  | expectedValue | expectedIdent | expectedListCommaOrEnd | expectedObjectCommaOrEnd
  | expectedColon | keyMustBeText | trailingComma | trailingCharacters
  | invalidNumber | numberOutOfRange
  | invalidEscape | unexpectedEndOfHexEscape | loneSurrogate | controlCharacter
  | recursionLimit
  deriving DecidableEq, Repr

def SyntaxError.message : SyntaxError → String
  | eofValue => "EOF while parsing a value"
  | eofList => "EOF while parsing a list"
  | eofObject => "EOF while parsing an object"
  | eofString => "EOF while parsing a string"
  | expectedValue => "expected value"
  | expectedIdent => "expected ident"
  | expectedListCommaOrEnd => "expected `,` or `]`"
  | expectedObjectCommaOrEnd => "expected `,` or `\x7d`"
  | expectedColon => "expected `:`"
  | keyMustBeText => "key must be a string"
  | trailingComma => "trailing comma"
  | trailingCharacters => "trailing characters"
  | invalidNumber => "invalid number"
  | numberOutOfRange => "number out of range"
  | invalidEscape => "invalid escape"
  | unexpectedEndOfHexEscape => "unexpected end of hex escape"
  | loneSurrogate => "lone leading surrogate in hex escape"
  | controlCharacter => "control character (\\u0000-\\u001F) found while parsing a string"
  | recursionLimit => "recursion limit exceeded"

end Gatehouse
