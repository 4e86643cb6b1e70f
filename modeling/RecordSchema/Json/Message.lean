import RecordSchema.Json.Fault
import RecordSchema.Json.Text
import RecordSchema.Text.Shown

/-!
# Messages of faults

How a fault of a JSON text is told to the reader of a message.
-/

namespace RecordSchema

namespace Json

/-- A value that was found, as it is named in a message. -/
def Found.message : Found → String
  | .null => "null"
  | .bool true => "boolean `true`"
  | .bool false => "boolean `false`"
  | .number (.integer n _) => "integer `" ++ String.ofList (writeInteger n) ++ "`"
  | .number (.double x) => "floating point `" ++ String.ofList x.write ++ "`"
  | .string s => "string " ++ Text.quoted s
  | .array => "sequence"
  | .object => "map"

/-- What is wrong with a text. -/
def Cause.message : Cause → String
  | .valueCut => "EOF while parsing a value"
  | .stringCut => "EOF while parsing a string"
  | .arrayCut => "EOF while parsing a list"
  | .objectCut => "EOF while parsing an object"
  | .valueWanted => "expected value"
  | .unknownWord => "expected ident"
  | .invalidNumber => "invalid number"
  | .numberOutOfRange => "number out of range"
  | .controlCharacter =>
    "control character (\\u0000-\\u001F) found while parsing a string"
  | .invalidEscape => "invalid escape"
  | .loneSurrogate => "lone leading surrogate in hex escape"
  | .surrogateCut => "unexpected end of hex escape"
  | .itemSeparator => "expected `,` or `]`"
  | .memberSeparator => "expected `,` or `\x7d`"
  | .colonWanted => "expected `:`"
  | .trailingComma => "trailing comma"
  | .keyNotString => "key must be a string"
  | .trailingCharacters => "trailing characters"
  | .tooDeep => "recursion limit exceeded"
  | .wrongType found wanted => "invalid type: " ++ found.message ++ ", expected " ++ wanted
  | .missingField key => "missing field `" ++ key ++ "`"
  | .duplicateField key => "duplicate field `" ++ key ++ "`"
  | .tooShort count wanted =>
    "invalid length " ++ Nat.repr count ++ ", expected " ++ wanted

/-- What is wrong with a text, and where. -/
def ReadError.message (e : ReadError) : String :=
  e.cause.message ++ " at line " ++ Nat.repr e.place.line
    ++ " column " ++ Nat.repr e.place.column

end Json

end RecordSchema
