import FieldProjection.Json.Fault

/-!
# Reading JSON texts

A reader takes the characters that are left of a text and returns what it read with the rest, or
the point where it stopped. A stop counts the bytes that come after it, so no reader needs to
know where in the text it stands; `Position.before` turns the count into a line and a column.

`value` reads one value and is structural in the nesting depth that is still allowed: with the
length of the text as depth no text is too deep, since every level takes a character. The loops
over items and members take the length of what is left as their bound for the same reason.
`nextItem?` and `nextMember?` make the single steps of these loops, which readers of other shapes
share. An object is read with all its members, also those whose name was there before.
-/

namespace FieldProjection.Json.Reader

/-- The characters that are left of a text. -/
abbrev Input := List Char

/-- Why a reader stopped, and how many bytes of the text come after the place. -/
structure Stop where
  fault : Fault
  left : Nat

/-- What was read, and the rest of the text. -/
abbrev Reading (α : Type) := α × Input

/-- A reader of values of one type. -/
abbrev Scan (α : Type) := Input → Except Stop (Reading α)

/-- A stop in front of `rest`. -/
def stopAt (fault : SyntaxFault) (rest : Input) : Stop :=
  ⟨.malformed fault, byteLength rest⟩

/-- A stop behind the first byte of `rest`, or at the end of the text. -/
def stopOn (fault : SyntaxFault) (rest : Input) : Stop :=
  ⟨.malformed fault, byteLength rest - 1⟩

/-! ## Lexical elements -/

/-- The four characters that may stand between the elements of a text. -/
def isBlank (char : Char) : Bool :=
  char = ' ' || char = '\n' || char = '\t' || char = '\r'

/-- Drops the blanks at the front. -/
def skipBlanks (input : Input) : Input :=
  input.dropWhile isBlank

/-- Reads exactly the given characters. -/
def word : List Char → Input → Except Stop Input
  | [], input => .ok input
  | _ :: _, [] => .error (stopAt .endOfValue [])
  | expected :: more, char :: rest =>
    if char = expected then word more rest else .error (stopOn .expectedWord (char :: rest))

/-- The value of a hexadecimal digit. -/
def hexDigit? (char : Char) : Option Nat :=
  if '0' ≤ char ∧ char ≤ '9' then some (char.toNat - '0'.toNat)
  else if 'a' ≤ char ∧ char ≤ 'f' then some (char.toNat - 'a'.toNat + 10)
  else if 'A' ≤ char ∧ char ≤ 'F' then some (char.toNat - 'A'.toNat + 10)
  else none

/-- The number that four hexadecimal digits spell. -/
def codeUnit? (first second third fourth : Char) : Option Nat := do
  let a ← hexDigit? first
  let b ← hexDigit? second
  let c ← hexDigit? third
  let d ← hexDigit? fourth
  return ((a * 16 + b) * 16 + c) * 16 + d

/-- The stop at something that is not four hexadecimal digits: behind the four bytes, if the text
has as many. -/
def stopInCodeUnit (input : Input) : Stop :=
  if byteLength input < 4 then stopAt .endOfString []
  else ⟨.malformed .invalidEscape, byteLength input - 4⟩

/-- Four hexadecimal digits and the rest. -/
def codeUnit : Input → Except Stop (Reading Nat)
  | a :: b :: c :: d :: rest =>
    match codeUnit? a b c d with
    | some unit => .ok (unit, rest)
    | none => .error (stopInCodeUnit (a :: b :: c :: d :: rest))
  | input => .error (stopInCodeUnit input)

/-- The first half of a pair of code units for one character. -/
def isHighSurrogate (unit : Nat) : Bool := 0xD800 ≤ unit && unit ≤ 0xDBFF

/-- The second half of a pair of code units for one character. -/
def isLowSurrogate (unit : Nat) : Bool := 0xDC00 ≤ unit && unit ≤ 0xDFFF

/-- The character of a pair of code units. -/
def pairedChar (high low : Nat) : Char :=
  Char.ofNat (0x10000 + (high - 0xD800) * 0x400 + (low - 0xDC00))

/-- The character that a single-letter escape stands for. -/
def shortEscape? (char : Char) : Option Char :=
  match char with
  | '"' => some '"'
  | '\\' => some '\\'
  | '/' => some '/'
  | 'b' => some '\x08'
  | 'f' => some '\x0c'
  | 'n' => some '\n'
  | 'r' => some '\r'
  | 't' => some '\t'
  | _ => none

/-- The second half of a pair of code units, with its own escape. -/
def lowSurrogate : Input → Except Stop (Reading Nat)
  | [] => .error (stopAt .endOfString [])
  | '\\' :: [] => .error (stopAt .endOfString [])
  | '\\' :: 'u' :: rest => do
    let (unit, rest) ← codeUnit rest
    if isLowSurrogate unit then return (unit, rest) else .error (stopAt .loneSurrogate rest)
  | '\\' :: rest => .error (stopOn .unfinishedEscape rest)
  | input => .error (stopOn .unfinishedEscape input)

/-- The character of an escape, after its backslash. -/
def escape : Input → Except Stop (Reading Char)
  | [] => .error (stopAt .endOfString [])
  | 'u' :: rest => do
    let (unit, rest) ← codeUnit rest
    if isLowSurrogate unit then
      .error (stopAt .loneSurrogate rest)
    else if isHighSurrogate unit then
      let (low, rest) ← lowSurrogate rest
      return (pairedChar unit low, rest)
    else
      return (Char.ofNat unit, rest)
  | char :: rest =>
    match shortEscape? char with
    | some meant => .ok (meant, rest)
    | none => .error (stopOn .invalidEscape (char :: rest))

/-- The characters of a string up to its closing quote, which is read too. -/
def stringChars : Nat → Input → Except Stop (Reading (List Char))
  | 0, input => .error (stopAt .endOfString input)
  | _ + 1, [] => .error (stopAt .endOfString [])
  | bound + 1, char :: rest =>
    if char = '"' then .ok ([], rest)
    else if char = '\\' then do
      let (meant, rest) ← escape rest
      let (more, rest) ← stringChars bound rest
      return (meant :: more, rest)
    else if char.toNat < 0x20 then .error (stopOn .controlCharacter (char :: rest))
    else do
      let (more, rest) ← stringChars bound rest
      return (char :: more, rest)

/-- A string, after its opening quote. -/
def string (input : Input) : Except Stop (Reading String) := do
  let (chars, rest) ← stringChars (input.length + 1) input
  return (String.ofList chars, rest)

/-! ## Numbers -/

/-- A decimal digit. -/
def isDigit (char : Char) : Bool := '0' ≤ char && char ≤ '9'

/-- The value of a decimal digit. -/
def digitValue (char : Char) : Nat := char.toNat - '0'.toNat

/-- Appends digits to a significand while it stays below `2 ^ 64`, and counts the digits that are
left over from the first one that does not fit. -/
def absorb (significand : Nat) : List Char → Nat × Nat
  | [] => (significand, 0)
  | char :: rest =>
    let next := significand * 10 + digitValue char
    if next < 1 <<< 64 then absorb next rest else (significand, rest.length + 1)

/-- The number that digits spell, or nothing from the digit on that takes it past `limit`. -/
def boundedDigits (limit value : Nat) : Input → Option Nat × Input
  | [] => (some value, [])
  | char :: rest =>
    if isDigit char then
      let next := value * 10 + digitValue char
      if limit < next then (none, rest) else boundedDigits limit next rest
    else
      (some value, char :: rest)

/-- The number `significand * 10 ^ exponent`, unless it is out of range. -/
def decimal (negative : Bool) (significand : Nat) (exponent : Int) (rest : Input) :
    Except Stop (Reading Number) :=
  match Double.ofDecimal? negative (UInt64.ofNat significand) exponent with
  | some value => .ok (.double value, rest)
  | none => .error (stopAt .numberOutOfRange rest)

/-- The exponent of a decimal, after its letter. An exponent of `2 ^ 31` or more makes any number
but zero overflow, or vanish when it is negative. -/
def exponentPart (negative : Bool) (significand : Nat) (shift : Int) (input : Input) :
    Except Stop (Reading Number) :=
  let (down, digits) : Bool × Input := match input with
    | '+' :: rest => (false, rest)
    | '-' :: rest => (true, rest)
    | _ => (false, input)
  match digits with
  | [] => .error (stopAt .endOfValue [])
  | char :: _ =>
    if !isDigit char then .error (stopOn .invalidNumber digits)
    else
      match boundedDigits ((1 <<< 31) - 1) 0 digits with
      | (some exponent, rest) =>
        decimal negative significand (if down then shift - exponent else shift + exponent) rest
      | (none, rest) =>
        if significand ≠ 0 ∧ ¬down then .error (stopAt .numberOutOfRange rest)
        else decimal negative 0 0 (rest.dropWhile isDigit)

/-- The fraction of a decimal, after its point, and the exponent if there is one. -/
def fractionPart (negative : Bool) (significand : Nat) (shift : Int) (input : Input) :
    Except Stop (Reading Number) :=
  let digits := input.takeWhile isDigit
  let rest := input.dropWhile isDigit
  if digits.isEmpty then
    match input with
    | [] => .error (stopAt .endOfValue [])
    | _ => .error (stopOn .invalidNumber input)
  else
    let (significand, unread) := absorb significand digits
    let shift := shift - (digits.length - unread : Nat)
    match rest with
    | 'e' :: rest | 'E' :: rest => exponentPart negative significand shift rest
    | _ => decimal negative significand shift rest

/-- The number of integer digits: a double from `2 ^ 64` on, below `-2 ^ 63`, and for `-0`. -/
def integer (negative : Bool) (significand : Nat) (rest : Input) : Except Stop (Reading Number) :=
  if ¬negative then .ok (.integer significand, rest)
  else if significand = 0 ∨ 1 <<< 63 < significand then decimal true significand 0 rest
  else .ok (.integer (-significand), rest)

/-- A number, after its sign. -/
def unsigned (negative : Bool) (input : Input) : Except Stop (Reading Number) :=
  match input with
  | [] => .error (stopAt .endOfValue [])
  | first :: more =>
    if !isDigit first then .error (stopOn .invalidNumber input)
    else if first = '0' ∧ (more.takeWhile isDigit).length ≠ 0 then
      .error (stopOn .invalidNumber more)
    else
      let (significand, unread) := absorb 0 (input.takeWhile isDigit)
      match input.dropWhile isDigit with
      | '.' :: rest => fractionPart negative significand unread rest
      | 'e' :: rest | 'E' :: rest => exponentPart negative significand unread rest
      | rest =>
        if unread = 0 then integer negative significand rest
        else decimal negative significand unread rest

/-- A number. -/
def number (input : Input) : Except Stop (Reading Number) :=
  match input with
  | '-' :: rest => unsigned true rest
  | _ => unsigned false input

/-! ## Lists and objects -/

/-- Whether an item follows, and where; the closing bracket stays unread. -/
def nextItem? (isFirst : Bool) (input : Input) : Except Stop (Option Input) :=
  match skipBlanks input with
  | [] => .error (stopAt .endOfList [])
  | ']' :: _ => .ok none
  | char :: rest =>
    if isFirst then .ok (some (char :: rest))
    else if char = ',' then
      match skipBlanks rest with
      | [] => .error (stopAt .endOfValue [])
      | ']' :: rest => .error (stopOn .trailingComma (']' :: rest))
      | next => .ok (some next)
    else .error (stopOn .expectedListSeparator (char :: rest))

/-- The name of the member that follows, if one does; the closing brace stays unread. -/
def nextMember? (isFirst : Bool) (input : Input) : Except Stop (Option (String × Input)) :=
  match skipBlanks input with
  | [] => .error (stopAt .endOfObject [])
  | '}' :: _ => .ok none
  | char :: rest =>
    if isFirst then name (char :: rest)
    else if char = ',' then
      match skipBlanks rest with
      | [] => .error (stopAt .endOfValue [])
      | '}' :: rest => .error (stopOn .trailingComma ('}' :: rest))
      | next => name next
    else .error (stopOn .expectedObjectSeparator (char :: rest))
where
  /-- A name in quotes. -/
  name (input : Input) : Except Stop (Option (String × Input)) :=
    match input with
    | '"' :: rest => do
      let found ← string rest
      return some found
    | _ => .error (stopOn .keyNotString input)

/-- The colon behind a name. -/
def colon (input : Input) : Except Stop Input :=
  match skipBlanks input with
  | [] => .error (stopAt .endOfObject [])
  | ':' :: rest => .ok rest
  | rest => .error (stopOn .expectedColon rest)

/-- Reads items up to the closing bracket, which stays unread. -/
def items {α : Type} (item : Scan α) : Nat → Bool → Input → Except Stop (Reading (List α))
  | 0, _, input => .error (stopAt .endOfList input)
  | bound + 1, isFirst, input => do
    match ← nextItem? isFirst input with
    | none => return ([], input)
    | some next =>
      let (value, rest) ← item next
      let (values, rest) ← items item bound false rest
      return (value :: values, rest)

/-- Reads members up to the closing brace, which stays unread. `step` gets what the members so far
came to, the name, and the input behind the name. -/
def members {σ : Type} (step : σ → String → Scan σ) :
    Nat → Bool → σ → Scan σ
  | 0, _, _, input => .error (stopAt .endOfObject input)
  | bound + 1, isFirst, state, input => do
    match ← nextMember? isFirst input with
    | none => return (state, input)
    | some (name, rest) =>
      let (state, rest) ← step state name rest
      members step bound false state rest

/-- Reads the closing bracket of a list. -/
def listEnd (input : Input) : Except Stop Input :=
  match skipBlanks input with
  | [] => .error (stopAt .endOfList [])
  | ']' :: rest => .ok rest
  | ',' :: rest =>
    match skipBlanks rest with
    | ']' :: rest => .error (stopOn .trailingComma (']' :: rest))
    | rest => .error (stopOn .trailingCharacters rest)
  | rest => .error (stopOn .trailingCharacters rest)

/-- Reads the closing brace of an object. -/
def objectEnd (input : Input) : Except Stop Input :=
  match skipBlanks input with
  | [] => .error (stopAt .endOfObject [])
  | '}' :: rest => .ok rest
  | ',' :: rest => .error (stopOn .trailingComma (',' :: rest))
  | rest => .error (stopOn .trailingCharacters rest)

/-- A list of items, after its opening bracket. -/
def list {α : Type} (item : Scan α) (input : Input) : Except Stop (Reading (List α)) := do
  let (values, rest) ← items item (input.length + 1) true input
  return (values, ← listEnd rest)

/-- An object, after its opening brace. -/
def object {σ : Type} (step : σ → String → Scan σ) (start : σ) (input : Input) :
    Except Stop (Reading σ) := do
  let (result, rest) ← members step (input.length + 1) true start input
  return (result, ← objectEnd rest)

/-- Reads a scalar from its first character on. -/
def scalar (input : Input) : Except Stop (Reading Json) :=
  match input with
  | [] => .error (stopAt .endOfValue [])
  | 'n' :: rest => do return (.null, ← word ['u', 'l', 'l'] rest)
  | 't' :: rest => do return (.bool true, ← word ['r', 'u', 'e'] rest)
  | 'f' :: rest => do return (.bool false, ← word ['a', 'l', 's', 'e'] rest)
  | '"' :: rest => do
    let (text, rest) ← string rest
    return (.string text, rest)
  | char :: _ =>
    if char = '-' ∨ isDigit char then do
      let (value, rest) ← number input
      return (.number value, rest)
    else .error (stopOn .expectedValue input)

/-- Appends the member under a name, given how its value is read. -/
def appendMember (content : Scan Json) (found : List (String × Json)) (name : String) :
    Scan (List (String × Json)) := fun input => do
  let (value, rest) ← content (← colon input)
  return (found ++ [(name, value)], rest)

/-- Reads a value in which lists and objects are nested at most `depth` deep. -/
def value (depth : Nat) (input : Input) : Except Stop (Reading Json) :=
  match skipBlanks input with
  | '[' :: rest =>
    match depth with
    | 0 => .error (stopOn .tooDeep ('[' :: rest))
    | depth + 1 => do
      let (values, rest) ← list (value depth) rest
      return (.array values, rest)
  | '{' :: rest =>
    match depth with
    | 0 => .error (stopOn .tooDeep ('{' :: rest))
    | depth + 1 => do
      let (found, rest) ← object (appendMember (value depth)) [] rest
      return (.object found, rest)
  | other => scalar other

/-! ## Whole texts -/

/-- How deeply a text from outside may be nested. -/
def nestingLimit : Nat := 127

/-- Only blanks may follow the value of a text. -/
def finish (rest : Input) : Except Stop Unit :=
  match skipBlanks rest with
  | [] => .ok ()
  | rest => .error (stopOn .trailingCharacters rest)

/-- Puts a stop in its place within a text. -/
def Stop.inText (stop : Stop) (text : Input) : ReadError :=
  ⟨stop.fault, some (Position.before text stop.left)⟩

/-- Reads a whole text with a reader. -/
def whole {α : Type} (reader : Scan α) (text : String) : Except ReadError α :=
  let input := text.toList
  let result : Except Stop α := do
    let (found, rest) ← reader input
    finish rest
    return found
  result.mapError fun stop => stop.inText input

end Reader

/-- Reads a text of any depth. A repeated name keeps its first place and its last value. -/
def ofText (text : String) : Except ReadError Json :=
  (Reader.whole (Reader.value text.length) text).map unify

end FieldProjection.Json
