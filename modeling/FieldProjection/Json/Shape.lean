import FieldProjection.Json.Skip
import FieldProjection.OrderedMap

/-!
# Shapes of JSON values

A `Shape α` says how the values of a type look in JSON. It reads them in two ways that accept the
same forms: `ofJson` from a value, `scan` straight off a text, where the first fault of either kind
stops the reading and shape faults have a place. A record is an object with known names, or a list
of its fields in order; names that it does not know are passed over. A fault of a whole record is
placed where the reading stands after an attempt to read the record's closing bracket.
-/

namespace FieldProjection.Json

open Reader

/-- How the values of a type look in JSON. -/
structure Shape (α : Type) where
  /-- Reads a value. -/
  ofJson : Json → Except ShapeFault α
  /-- Reads off a text that may be nested the given number of levels deeper. -/
  scan : Nat → Scan α

namespace Shape

variable {α β σ : Type}

/-! ## Stops at shape faults -/

/-- A stop in front of `rest` at a value of the wrong shape. -/
def stopAtShape (fault : ShapeFault) (rest : Input) : Stop :=
  ⟨.misshapen fault, byteLength rest⟩

/-- The stop at a value that is not what was wanted: in front of a list or an object, behind a
scalar, and where the scalar itself cannot be read. -/
def stopAtType (wanted : Wanted) (input : Input) : Stop :=
  match input with
  | '[' :: _ => stopAtShape (.invalidType .sequence wanted) input
  | '{' :: _ => stopAtShape (.invalidType .map wanted) input
  | _ =>
    match scalar input with
    | .ok (value, rest) => stopAtShape (.invalidType (found value) wanted) rest
    | .error stop => stop

/-- Where the reading stands after an attempt to close a list. -/
def afterListEnd (input : Input) : Input :=
  match skipBlanks input with
  | ']' :: rest => rest
  | ',' :: rest => skipBlanks rest
  | rest => rest

/-- Where the reading stands after an attempt to close an object. -/
def afterObjectEnd (input : Input) : Input :=
  match skipBlanks input with
  | '}' :: rest => rest
  | rest => rest

/-- Reads behind an opening bracket, if the text may be nested one level deeper. -/
def nested (depth : Nat) (input : Input) (inside : Nat → Scan α) : Except Stop (Reading α) :=
  match depth with
  | 0 => .error (stopOn .tooDeep input)
  | depth + 1 => inside depth (input.drop 1)

/-! ## Scalars -/

/-- A string. -/
def text : Shape String where
  ofJson
    | .string value => .ok value
    | value => .error (.invalidType (found value) .text)
  scan _ input :=
    match skipBlanks input with
    | [] => .error (stopAt .endOfValue [])
    | '"' :: rest => Reader.string rest
    | rest => .error (stopAtType .text rest)

/-- Any value. -/
def any : Shape Json where
  ofJson := .ok
  scan depth input := do
    let (found, rest) ← Reader.value depth input
    return (found.unify, rest)

/-- Applies a function to what was read. -/
def map (f : α → β) (shape : Shape α) : Shape β where
  ofJson value := (shape.ofJson value).map f
  scan depth input := do
    let (found, rest) ← shape.scan depth input
    return (f found, rest)

/-- A value or null. -/
def optional (shape : Shape α) : Shape (Option α) where
  ofJson
    | .null => .ok none
    | value => (shape.ofJson value).map some
  scan depth input :=
    match skipBlanks input with
    | [] => .error (stopAt .endOfValue [])
    | 'n' :: rest => do return (none, ← word ['u', 'l', 'l'] rest)
    | rest => do
      let (found, rest) ← shape.scan depth rest
      return (some found, rest)

/-- The value that a variant's name stands for. -/
def lookUp (variants : Entries α) (name : String) : Except ShapeFault α :=
  match variants.find? name with
  | some value => .ok value
  | none => .error (.unknownVariant name variants.keys)

/-- One of several names: a string, or an object with the name as only key and null under it. -/
def variant (variants : Entries α) : Shape α where
  ofJson
    | .string name => lookUp variants name
    | .object [(name, content)] => do
      let value ← lookUp variants name
      match content with
      | .null => .ok value
      | _ => .error (.invalidType (found content) .unit)
    | .object _ => .error .notSingleKey
    | value => .error (.invalidType (found value) .variant)
  scan depth input :=
    match skipBlanks input with
    | [] => .error (stopAt .endOfValue [])
    | '"' :: rest => named rest
    | '{' :: rest =>
      nested depth ('{' :: rest) fun _ input => do
        let (value, rest) ← match skipBlanks input with
          | [] => .error (stopAt .endOfObject [])
          | '"' :: rest => named rest
          | '}' :: rest => .error (stopOn .expectedValue ('}' :: rest))
          | rest => .error (stopOn .keyNotString rest)
        let rest ← match skipBlanks (← colon rest) with
          | [] => .error (stopAt .endOfValue [])
          | 'n' :: rest => word ['u', 'l', 'l'] rest
          | rest => .error (stopAtType .unit rest)
        match skipBlanks rest with
        | '}' :: rest => .ok (value, rest)
        | [] => .error (stopAt .endOfObject [])
        | rest => .error (stopAt .expectedValue rest)
    | rest => .error (stopOn .expectedValue rest)
where
  /-- The value that the string behind an opening quote stands for. -/
  named (input : Input) : Except Stop (Reading α) := do
    let (name, rest) ← Reader.string input
    match lookUp variants name with
    | .ok value => .ok (value, rest)
    | .error fault => .error (stopAtShape fault rest)

/-! ## Lists and maps -/

/-- A list. -/
def list (shape : Shape α) : Shape (List α) where
  ofJson
    | .array items => items.mapM shape.ofJson
    | value => .error (.invalidType (found value) .sequence)
  scan depth input :=
    match skipBlanks input with
    | [] => .error (stopAt .endOfValue [])
    | '[' :: rest =>
      nested depth ('[' :: rest) fun depth input => Reader.list (shape.scan depth) input
    | rest => .error (stopAtType .sequence rest)

/-- Reads the value of one member of an object. -/
def ofMember (shape : Shape α) (member : String × Json) : Except ShapeFault (String × α) := do
  return (member.1, ← shape.ofJson member.2)

/-- An object whose names are data. -/
def entries (shape : Shape α) : Shape (Entries α) where
  ofJson
    | .object members => (members.mapM shape.ofMember).map Entries.ofList
    | value => .error (.invalidType (found value) .map)
  scan depth input :=
    match skipBlanks input with
    | [] => .error (stopAt .endOfValue [])
    | '{' :: rest =>
      nested depth ('{' :: rest) fun depth input =>
        Reader.object (fun (found : Entries α) name rest => do
          let (value, rest) ← shape.scan depth (← colon rest)
          return (found.insert name value, rest)) [] input
    | rest => .error (stopAtType .map rest)

/-- A map in the order of its names. -/
def orderedMap (shape : Shape α) : Shape (OrderedMap α) :=
  shape.entries.map OrderedMap.ofList

/-! ## Records -/

/-- A field of a record whose parts are collected in a state. -/
structure Slot (σ : Type) where
  key : String
  /-- Without a default. -/
  required : Bool
  /-- Whether the state holds the field already. -/
  isFilled : σ → Bool
  /-- Reads the field into the state. -/
  shape : Shape (σ → σ)

/-- The field with a given name. -/
def slot? (slots : List (Slot σ)) (key : String) : Option (Slot σ) :=
  slots.find? fun slot => slot.key = key

/-- Reads one member of a record. -/
def ofRecordMember (slots : List (Slot σ)) (state : σ) (member : String × Json) :
    Except ShapeFault σ :=
  match slot? slots member.1 with
  | none => .ok state
  | some slot =>
    if slot.isFilled state then .error (.duplicateField member.1)
    else (slot.shape.ofJson member.2).map fun fill => fill state

/-- Reads the fields of a record in order, starting with the one of the given index. -/
def ofRecordItems (name : String) (count : Nat) :
    List (Slot σ) → Nat → List Json → σ → Except ShapeFault σ
  | [], index, items, state =>
    if items.isEmpty then .ok state else .error (.tooManyItems (index + items.length))
  | slot :: slots, index, [], state =>
    if slot.required then .error (.tooFewItems index name count)
    else ofRecordItems name count slots index [] state
  | slot :: slots, index, item :: items, state => do
    let fill ← slot.shape.ofJson item
    ofRecordItems name count slots (index + 1) items (fill state)

/-- Reads one member of a record off a text, after its name. -/
def scanRecordMember (slots : List (Slot σ)) (depth : Nat) (state : σ) (key : String)
    (input : Input) : Except Stop (Reading σ) :=
  match slot? slots key with
  | none => do return (state, ← skip (← colon input))
  | some slot =>
    if slot.isFilled state then
      .error (stopAtShape (.duplicateField key) (afterObjectEnd input))
    else do
      let (fill, rest) ← slot.shape.scan depth (← colon input)
      return (fill state, rest)

/-- Reads the fields of a record in order off a text, starting with the one of the given index. -/
def scanRecordItems (name : String) (count depth : Nat) :
    List (Slot σ) → Nat → σ → Scan σ
  | [], _, state, input => .ok (state, input)
  | slot :: slots, index, state, input => do
    match ← nextItem? (index = 0) input with
    | none =>
      if slot.required then
        .error (stopAtShape (.tooFewItems index name count) (afterListEnd input))
      else scanRecordItems name count depth slots index state input
    | some next =>
      let (fill, rest) ← slot.shape.scan depth next
      scanRecordItems name count depth slots (index + 1) (fill state) rest

/-- A record: an object with the names of the slots, or a list of their values in order. `finish`
makes the record of the collected parts, or finds a field missing. -/
def record (name : String) (slots : List (Slot σ)) (blank : σ)
    (finish : σ → Except ShapeFault α) : Shape α where
  ofJson
    | .object members => do finish (← members.foldlM (ofRecordMember slots) blank)
    | .array items => do finish (← ofRecordItems name slots.length slots 0 items blank)
    | value => .error (.invalidType (found value) (.record name))
  scan depth input :=
    match skipBlanks input with
    | [] => .error (stopAt .endOfValue [])
    | '{' :: rest =>
      nested depth ('{' :: rest) fun depth input => do
        let (state, rest) ←
          Reader.members (scanRecordMember slots depth) (input.length + 1) true blank input
        match finish state with
        | .ok value => return (value, ← objectEnd rest)
        | .error fault => .error (stopAtShape fault (afterObjectEnd rest))
    | '[' :: rest =>
      nested depth ('[' :: rest) fun depth input => do
        let (state, rest) ← scanRecordItems name slots.length depth slots 0 blank input
        match finish state with
        | .ok value => return (value, ← listEnd rest)
        | .error fault => .error (stopAtShape fault (afterListEnd rest))
    | rest => .error (stopAtType (.record name) rest)

/-- The shape that no value has, for a record of the given name. -/
def never (name : String) : Shape α where
  ofJson value := .error (.invalidType (found value) (.record name))
  scan _ input := .error (stopOn .tooDeep input)

/-! ## Reading -/

/-- Reads a value of the shape. -/
def ofValue (shape : Shape α) (value : Json) : Except ReadError α :=
  (shape.ofJson value).mapError ReadError.ofShape

/-- Reads the shape straight off a text. -/
def ofText (shape : Shape α) (text : String) : Except ReadError α :=
  Reader.whole (shape.scan nestingLimit) text

end Shape

end FieldProjection.Json
