import FieldProjection.Json.Basic

/-!
# Merging JSON objects

Merging a source into a target gives the target the members of the source. Where both hold an
object it is merged in turn, and where only the source does it is merged into an empty object;
anything else replaces what the target holds. Objects nested deeper than `maxDepth` levels are no
longer merged but replace what the target holds, too.
-/

namespace FieldProjection.Json

/-- How many levels of nested objects are merged. -/
def maxMergeDepth : Nat := 128

/-- The members of a value that is an object, and none otherwise. -/
def membersOrNone (value : Option Json) : Entries Json :=
  (value.bind members?).getD []

mutual

/-- What a member of a target becomes by the member of the same name of a source, both found at
the given depth. -/
def mergeValue (depth : Nat) (old : Option Json) : Json → Json
  | .object nested =>
    .object (if depth < maxMergeDepth then mergeMembers (depth + 1) (membersOrNone old) nested
      else nested)
  | value => value

/-- Merges the members of a source, found at the given depth, into those of a target. -/
def mergeMembers (depth : Nat) (target : Entries Json) : List (String × Json) → Entries Json
  | [] => target
  | (key, value) :: rest =>
    mergeMembers depth (target.insert key (mergeValue depth (target.find? key) value)) rest

end

/-- Merges a source into a target. Only objects can be merged. -/
def merge (target source : Json) : Json :=
  match target, source with
  | .object members, .object added => .object (mergeMembers 0 members added)
  | _, _ => target

/-- Merges several sources into a target, one after the other. -/
def mergeAll (target : Json) (sources : List Json) : Json :=
  sources.foldl merge target

end FieldProjection.Json
