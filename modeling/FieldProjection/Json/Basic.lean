import FieldProjection.Entries
import FieldProjection.Json.Number

/-!
# JSON values

A JSON value with its objects as entries in order. The type allows a name to occur twice in an
object, because a text can hold such an object; `Json.unify` keeps each name at its first place
with its last value, and every value that comes out of a text for use has been through it.
-/

namespace FieldProjection

/-- A JSON value. -/
inductive Json where
  | null
  | bool (value : Bool)
  | number (value : Number)
  | string (value : String)
  | array (items : List Json)
  | object (members : List (String × Json))
deriving Inhabited

namespace Json

/-- The object without members. -/
def emptyObject : Json := .object []

/-- The object, array or scalar held by a value that is an object: its members. -/
def members? : Json → Option (Entries Json)
  | .object members => some members
  | _ => none

/-- Whether a value is an object; arrays are not. -/
def isObject (value : Json) : Bool :=
  value.members?.isSome

/-- The value under a name of an object. -/
def find? (key : String) (value : Json) : Option Json :=
  value.members?.bind (Entries.find? key)

/-- The value at a path of names through nested objects. -/
def at? (value : Json) : List String → Option Json
  | [] => some value
  | key :: rest => (value.find? key).bind fun inner => inner.at? rest

/-- A path in two parts is followed one part after the other. -/
theorem at?_append (value : Json) (first second : List String) :
    value.at? (first ++ second) = (value.at? first).bind fun inner => inner.at? second := by
  induction first generalizing value with
  | nil => rfl
  | cons key rest ih =>
    cases h : value.find? key with
    | none => simp [at?, h]
    | some inner => simp [at?, h, ih]

mutual

/-- Gives every object of a value each name once, at its first place and with its last value. -/
def unify : Json → Json
  | .array items => .array (unifyItems items)
  | .object members => .object (Entries.ofList (unifyMembers members))
  | value => value

/-- Unifies each item of an array. -/
def unifyItems : List Json → List Json
  | [] => []
  | item :: rest => unify item :: unifyItems rest

/-- Unifies the value of each member of an object. -/
def unifyMembers : List (String × Json) → List (String × Json)
  | [] => []
  | (key, value) :: rest => (key, unify value) :: unifyMembers rest

end

mutual

/-- How deeply arrays and objects are nested in a value. -/
def depth : Json → Nat
  | .array items => depthItems items + 1
  | .object members => depthMembers members + 1
  | _ => 0

/-- The greatest depth of an item. -/
def depthItems : List Json → Nat
  | [] => 0
  | item :: rest => max (depth item) (depthItems rest)

/-- The greatest depth of a member's value. -/
def depthMembers : List (String × Json) → Nat
  | [] => 0
  | (_, value) :: rest => max (depth value) (depthMembers rest)

end

end Json

end FieldProjection
