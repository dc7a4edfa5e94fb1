/-!
# Why a TOML document is refused

One constructor for each cause; `TomlError.cause` words them.
-/

namespace Emend

/-- The causes for which a TOML document is refused. -/
inductive TomlError
  | expectedKey
  | expectedEquals
  | expectedValue
  | expectedLineEnd
  | unclosedHeader
  | unclosedArray
  | unclosedTable
  | unclosedString
  | controlCharacter (c : Char)
  | unknownEscape (c : Char)
  | invalidScalar (text : String)
  | notATable (key : String)
  | duplicateKey (key : String)
  | nestedTooDeeply
  deriving DecidableEq, Repr

namespace TomlError

/-- What a cause means to the author of the document. -/
def cause : TomlError → String
  | expectedKey => "expected a key"
  | expectedEquals => "expected '=' after a key"
  | expectedValue => "expected a value"
  | expectedLineEnd => "expected the end of the line"
  | unclosedHeader => "unclosed table header"
  | unclosedArray => "unclosed array"
  | unclosedTable => "unclosed inline table"
  | unclosedString => "unclosed string"
  | controlCharacter _ => "control characters have to be escaped"
  | unknownEscape c => "unknown escape '" ++ c.toString ++ "'"
  | invalidScalar text => "'" ++ text ++ "' is no value"
  | notATable key => "key '" ++ key ++ "' is no table"
  | duplicateKey key => "duplicate key '" ++ key ++ "'"
  | nestedTooDeeply => "values are nested too deeply"

end TomlError

end Emend
