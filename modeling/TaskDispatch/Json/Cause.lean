import TaskDispatch.Json.Value

/-!
# Decoding failures

Why a JSON text or value is refused. The first group of causes is about the text alone, the second
about what the text was to be decoded as. The wording of each is in `Cause.message`; a failure in
a text also tells the line and column.
-/

namespace TaskDispatch.Json

set_option autoImplicit false

inductive Cause where
  | endInValue
  | endInObject
  | endInList
  | endInString
  | valueExpected
  | identExpected
  | keyNotString
  | colonExpected
  | objectCommaExpected
  | listCommaExpected
  | trailingComma
  | trailingCharacters
  | invalidNumber
  | numberOutOfRange
  | controlCharacter
  | invalidEscape
  | loneSurrogate
  | surrogatePairCut
  | invalidCodePoint
  | missingField (key : String)
  | duplicateField (key : String)
  | unknownField (key : String) (known : List String)
  | unknownVariant (name : String) (known : List String)
  | invalidType (found : Found) (expected : String)
  | invalidValue (found : Found) (expected : String)
  | invalidLength (length : Nat) (expected : String)
  | identifierLength
  | identifierCharacter
  | durationOverflow
  deriving DecidableEq, Repr

def oneOf (names : List String) : String :=
  match names.map fun name => "`" ++ name ++ "`" with
  | [] => ""
  | [only] => only
  | [first, second] => first ++ " or " ++ second
  | several => "one of " ++ ", ".intercalate several

namespace Cause

def message : Cause → String
  | .endInValue => "EOF while parsing a value"
  | .endInObject => "EOF while parsing an object"
  | .endInList => "EOF while parsing a list"
  | .endInString => "EOF while parsing a string"
  | .valueExpected => "expected value"
  | .identExpected => "expected ident"
  | .keyNotString => "key must be a string"
  | .colonExpected => "expected `:`"
  | .objectCommaExpected => "expected `,` or `\x7d`"
  | .listCommaExpected => "expected `,` or `]`"
  | .trailingComma => "trailing comma"
  | .trailingCharacters => "trailing characters"
  | .invalidNumber => "invalid number"
  | .numberOutOfRange => "number out of range"
  | .controlCharacter =>
      "control character (\\u0000-\\u001F) found while parsing a string"
  | .invalidEscape => "invalid escape"
  | .loneSurrogate => "lone leading surrogate in hex escape"
  | .surrogatePairCut => "unexpected end of hex escape"
  | .invalidCodePoint => "invalid unicode code point"
  | .missingField key => "missing field `" ++ key ++ "`"
  | .duplicateField key => "duplicate field `" ++ key ++ "`"
  | .unknownField key known => "unknown field `" ++ key ++ "`, expected " ++ oneOf known
  | .unknownVariant name known => "unknown variant `" ++ name ++ "`, expected " ++ oneOf known
  | .invalidType found expected =>
      "invalid type: " ++ found.description ++ ", expected " ++ expected
  | .invalidValue found expected =>
      "invalid value: " ++ found.description ++ ", expected " ++ expected
  | .invalidLength length expected =>
      "invalid length " ++ toString length ++ ", expected " ++ expected
  | .identifierLength => "invalid length"
  | .identifierCharacter => "invalid character"
  | .durationOverflow => "overflow deserializing Duration"

end Cause

/-- A place in a text: lines count from one, columns are the bytes of the line before the place. -/
structure Position where
  line : Nat
  column : Nat
  deriving DecidableEq, Repr

/-- A decoding failure, with its place if the value came from a text. -/
structure DecodeError where
  cause : Cause
  position : Option Position
  deriving DecidableEq, Repr

def DecodeError.message (error : DecodeError) : String :=
  match error.position with
  | none => error.cause.message
  | some place =>
      error.cause.message ++ " at line " ++ toString place.line
        ++ " column " ++ toString place.column

end TaskDispatch.Json
