import FieldProjection.Json.Basic
import FieldProjection.Text.Quoted

/-!
# Faults of JSON texts

Why a text or a value could not be read. A `SyntaxFault` is about the text, a `ShapeFault` about a
value that is not of the kind asked for. Faults name causes; `message` gives the wording. A fault
found in a text has a position, whose column counts the UTF-8 bytes read on its line; a fault
found in a value has none.
-/

namespace FieldProjection.Json

/-- What is wrong with the spelling of a text. -/
inductive SyntaxFault where
  | endOfValue
  | endOfList
  | endOfObject
  | endOfString
  | expectedValue
  | expectedWord
  | expectedColon
  | expectedListSeparator
  | expectedObjectSeparator
  | trailingComma
  | trailingCharacters
  | keyNotString
  | invalidNumber
  | numberOutOfRange
  | invalidEscape
  | unfinishedEscape
  | loneSurrogate
  | controlCharacter
  | tooDeep
deriving DecidableEq

/-- The wording of a syntax fault. -/
def SyntaxFault.message : SyntaxFault → String
  | .endOfValue => "EOF while parsing a value"
  | .endOfList => "EOF while parsing a list"
  | .endOfObject => "EOF while parsing an object"
  | .endOfString => "EOF while parsing a string"
  | .expectedValue => "expected value"
  | .expectedWord => "expected ident"
  | .expectedColon => "expected `:`"
  | .expectedListSeparator => "expected `,` or `]`"
  | .expectedObjectSeparator => "expected `,` or `\x7d`"
  | .trailingComma => "trailing comma"
  | .trailingCharacters => "trailing characters"
  | .keyNotString => "key must be a string"
  | .invalidNumber => "invalid number"
  | .numberOutOfRange => "number out of range"
  | .invalidEscape => "invalid escape"
  | .unfinishedEscape => "unexpected end of hex escape"
  | .loneSurrogate => "lone leading surrogate in hex escape"
  | .controlCharacter =>
    "control character (\\u0000-\\u001F) found while parsing a string"
  | .tooDeep => "recursion limit exceeded"

/-- What was found where something else was wanted. -/
inductive Found where
  | null
  | boolean (value : Bool)
  | number (value : Number)
  | text (value : String)
  | sequence
  | map

/-- The kind of a value, with its content when it is a scalar. -/
def found : Json → Found
  | .null => .null
  | .bool value => .boolean value
  | .number value => .number value
  | .string value => .text value
  | .array _ => .sequence
  | .object _ => .map

/-- The wording of what was found. -/
def Found.message : Found → String
  | .null => "null"
  | .boolean value => "boolean `" ++ (if value then "true" else "false") ++ "`"
  | .number (.integer value) =>
    "integer `" ++ String.ofList (Number.integerChars value) ++ "`"
  | .number (.double value) => "floating point `" ++ String.ofList value.chars ++ "`"
  | .text value => "string " ++ Text.quote value
  | .sequence => "sequence"
  | .map => "map"

/-- What was wanted. -/
inductive Wanted where
  | text
  | map
  | sequence
  | unit
  | variant
  | record (name : String)

/-- The wording of what was wanted. -/
def Wanted.message : Wanted → String
  | .text => "a string"
  | .map => "a map"
  | .sequence => "a sequence"
  | .unit => "unit"
  | .variant => "string or map"
  | .record name => "struct " ++ name

/-- How a value differs from the kind asked for. -/
inductive ShapeFault where
  | missingField (name : String)
  | duplicateField (name : String)
  | unknownVariant (name : String) (variants : List String)
  | invalidType (found : Found) (wanted : Wanted)
  | tooFewItems (count : Nat) (name : String) (fields : Nat)
  | tooManyItems (count : Nat)
  | notSingleKey

/-- The wording of a shape fault. -/
def ShapeFault.message : ShapeFault → String
  | .missingField name => "missing field `" ++ name ++ "`"
  | .duplicateField name => "duplicate field `" ++ name ++ "`"
  | .unknownVariant name variants =>
    "unknown variant `" ++ name ++ "`, expected one of " ++
      ", ".intercalate (variants.map fun variant => "`" ++ variant ++ "`")
  | .invalidType found wanted =>
    "invalid type: " ++ found.message ++ ", expected " ++ wanted.message
  | .tooFewItems count name fields =>
    "invalid length " ++ toString count ++ ", expected struct " ++ name ++ " with " ++
      toString fields ++ " elements"
  | .tooManyItems count =>
    "invalid length " ++ toString count ++ ", expected fewer elements in array"
  | .notSingleKey => "invalid value: map, expected map with a single key"

/-- Why reading failed. -/
inductive Fault where
  | malformed (fault : SyntaxFault)
  | misshapen (fault : ShapeFault)

/-- The wording of a fault. -/
def Fault.message : Fault → String
  | .malformed fault => fault.message
  | .misshapen fault => fault.message

/-- A place in a text: the line, counted from one, and the bytes read on it. -/
structure Position where
  line : Nat
  column : Nat
deriving DecidableEq

/-- The place reached from `start` after a number of bytes, which may end within a character. -/
def Position.advance (start : Position) : Nat → List Char → Position
  | _, [] => start
  | bytes, char :: rest =>
    if bytes < char.utf8Size then ⟨start.line, start.column + bytes⟩
    else
      let next : Position :=
        if char = '\n' then ⟨start.line + 1, 0⟩
        else ⟨start.line, start.column + char.utf8Size⟩
      next.advance (bytes - char.utf8Size) rest

/-- How many bytes a text takes. -/
def byteLength (text : List Char) : Nat :=
  text.foldr (fun char bytes => char.utf8Size + bytes) 0

/-- The place in a text that has `left` bytes after it. -/
def Position.before (text : List Char) (left : Nat) : Position :=
  Position.advance ⟨1, 0⟩ (byteLength text - left) text

/-- A reading that failed, with the place if it failed in a text. -/
structure ReadError where
  fault : Fault
  position : Option Position

/-- The wording of a failed reading. -/
def ReadError.message (error : ReadError) : String :=
  match error.position with
  | none => error.fault.message
  | some position =>
    error.fault.message ++ " at line " ++ toString position.line ++ " column " ++
      toString position.column

/-- The failure to find a shape in a value. -/
def ReadError.ofShape (fault : ShapeFault) : ReadError :=
  ⟨.misshapen fault, none⟩

end FieldProjection.Json
