import FieldProjection.Json.Reader

/-!
# Passing over JSON values

Members that a record does not know are passed over without being read. This asks less of them
than reading does: they may be nested to any depth, their numbers may be out of range, and a
code unit of a string may lack its other half. A comma must be followed by an item or a member.
-/

namespace FieldProjection.Json.Reader

/-- Passes over an exponent, after its letter. -/
def skipExponent (input : Input) : Except Stop Input :=
  let digits := match input with
    | '+' :: rest | '-' :: rest => rest
    | _ => input
  match digits with
  | [] => .error (stopAt .invalidNumber [])
  | char :: rest =>
    if isDigit char then .ok (rest.dropWhile isDigit)
    else .error (stopOn .invalidNumber digits)

/-- Passes over a fraction, after its point. -/
def skipFraction (input : Input) : Except Stop Input :=
  if (input.takeWhile isDigit).isEmpty then .error (stopOn .invalidNumber input)
  else
    match input.dropWhile isDigit with
    | 'e' :: rest | 'E' :: rest => skipExponent rest
    | rest => .ok rest

/-- Passes over a number, after its sign. -/
def skipNumber (input : Input) : Except Stop Input :=
  match input with
  | [] => .error (stopAt .invalidNumber [])
  | first :: more =>
    if !isDigit first then .error (stopOn .invalidNumber input)
    else if first = '0' ∧ (more.takeWhile isDigit).length ≠ 0 then
      .error (stopOn .invalidNumber more)
    else
      match input.dropWhile isDigit with
      | '.' :: rest => skipFraction rest
      | 'e' :: rest | 'E' :: rest => skipExponent rest
      | rest => .ok rest

/-- Passes over an escape, after its backslash. -/
def skipEscape (input : Input) : Except Stop Input :=
  match input with
  | [] => .error (stopAt .endOfString [])
  | 'u' :: rest => (codeUnit rest).map Prod.snd
  | char :: rest =>
    if (shortEscape? char).isSome then .ok rest else .error (stopOn .invalidEscape input)

/-- Passes over the characters of a string and its closing quote. -/
def skipStringChars : Nat → Input → Except Stop Input
  | 0, input => .error (stopAt .endOfString input)
  | _ + 1, [] => .error (stopAt .endOfString [])
  | bound + 1, char :: rest =>
    if char = '"' then .ok rest
    else if char = '\\' then do skipStringChars bound (← skipEscape rest)
    else if char.toNat < 0x20 then .error (stopAt .controlCharacter (char :: rest))
    else skipStringChars bound rest

/-- Passes over a string, after its opening quote. -/
def skipString (input : Input) : Except Stop Input :=
  skipStringChars (input.length + 1) input

/-- Passes over the name of a member and its colon. -/
def skipName (input : Input) : Except Stop Input :=
  match skipBlanks input with
  | [] => .error (stopAt .endOfObject [])
  | '"' :: rest => do colon (← skipString rest)
  | rest => .error (stopOn .keyNotString rest)

/-- Passes over the next item and all that follow, with the closing bracket. -/
def skipItems (skip : Input → Except Stop Input) : Nat → Input → Except Stop Input
  | 0, input => .error (stopAt .endOfList input)
  | bound + 1, input => do
    match skipBlanks (← skip input) with
    | [] => .error (stopAt .endOfList [])
    | ',' :: rest => skipItems skip bound rest
    | ']' :: rest => .ok rest
    | rest => .error (stopOn .expectedListSeparator rest)

/-- Passes over a list, after its opening bracket. -/
def skipList (skip : Input → Except Stop Input) (input : Input) : Except Stop Input :=
  match skipBlanks input with
  | [] => .error (stopAt .endOfList [])
  | ']' :: rest => .ok rest
  | rest => skipItems skip (rest.length + 1) rest

/-- Passes over the next member and all that follow, with the closing brace. -/
def skipMembers (skip : Input → Except Stop Input) : Nat → Input → Except Stop Input
  | 0, input => .error (stopAt .endOfObject input)
  | bound + 1, input => do
    match skipBlanks (← skip (← skipName input)) with
    | [] => .error (stopAt .endOfObject [])
    | ',' :: rest => skipMembers skip bound rest
    | '}' :: rest => .ok rest
    | rest => .error (stopOn .expectedObjectSeparator rest)

/-- Passes over an object, after its opening brace. -/
def skipObject (skip : Input → Except Stop Input) (input : Input) : Except Stop Input :=
  match skipBlanks input with
  | [] => .error (stopAt .endOfObject [])
  | '}' :: rest => .ok rest
  | rest => skipMembers skip (rest.length + 1) rest

/-- Passes over a value nested at most `depth` deep. -/
def skipValue (depth : Nat) (input : Input) : Except Stop Input :=
  match skipBlanks input with
  | [] => .error (stopAt .endOfValue [])
  | 'n' :: rest => word ['u', 'l', 'l'] rest
  | 't' :: rest => word ['r', 'u', 'e'] rest
  | 'f' :: rest => word ['a', 'l', 's', 'e'] rest
  | '"' :: rest => skipString rest
  | '-' :: rest => skipNumber rest
  | '[' :: rest =>
    match depth with
    | 0 => .error (stopOn .tooDeep ('[' :: rest))
    | depth + 1 => skipList (skipValue depth) rest
  | '{' :: rest =>
    match depth with
    | 0 => .error (stopOn .tooDeep ('{' :: rest))
    | depth + 1 => skipObject (skipValue depth) rest
  | char :: rest =>
    if isDigit char then skipNumber (char :: rest)
    else .error (stopOn .expectedValue (char :: rest))

/-- Passes over a value of any depth: no value is nested deeper than it is long. -/
def skip (input : Input) : Except Stop Input :=
  skipValue input.length input

end FieldProjection.Json.Reader
