import FieldProjection.Json.Basic
import FieldProjection.Proofs.Entries.Insertion

/-!
# Values without repeated names

A text can hold an object that repeats a name; `Distinct` values hold none, at any depth. What is
found in such a value, at whatever path, is such a value, too.
-/

namespace FieldProjection.Json

/-- No object of a value repeats a name. -/
inductive Distinct : Json → Prop where
  | null : Distinct .null
  | bool (value : Bool) : Distinct (.bool value)
  | number (value : Number) : Distinct (.number value)
  | string (value : String) : Distinct (.string value)
  | array {items : List Json} : (∀ item ∈ items, Distinct item) → Distinct (.array items)
  | object {members : List (String × Json)} :
      (Entries.keys members).Nodup → (∀ member ∈ members, Distinct member.2) →
      Distinct (.object members)

namespace Distinct

variable {value inner : Json} {members : List (String × Json)} {items : List Json} {key : String}

/-- The names of an object are distinct. -/
theorem nodup (h : (Json.object members).Distinct) : (Entries.keys members).Nodup := by
  cases h with
  | object hnodup _ => exact hnodup

/-- The value of a member has distinct names. -/
theorem of_mem (h : (Json.object members).Distinct) {member : String × Json}
    (hmem : member ∈ members) : member.2.Distinct := by
  cases h with
  | object _ hvalues => exact hvalues member hmem

/-- What an object holds under a name has distinct names. -/
theorem of_find? (h : (Json.object members).Distinct)
    (hfind : Entries.find? key members = some inner) : inner.Distinct :=
  h.of_mem (Entries.mem_of_find? hfind)

/-- The items of an array have distinct names. -/
theorem of_mem_items (h : (Json.array items).Distinct) (hmem : value ∈ items) :
    value.Distinct := by
  cases h with
  | array hitems => exact hitems value hmem

/-- An array has distinct names if its items have. -/
theorem array_iff : (Json.array items).Distinct ↔ ∀ item ∈ items, item.Distinct :=
  ⟨fun h _ hmem => h.of_mem_items hmem, .array⟩

/-- An object has distinct names if it repeats none and its values have. -/
theorem object_iff : (Json.object members).Distinct ↔
    (Entries.keys members).Nodup ∧ ∀ member ∈ members, member.2.Distinct :=
  ⟨fun h => ⟨h.nodup, fun _ hmem => h.of_mem hmem⟩, fun h => .object h.1 h.2⟩

/-- What stands at a path has distinct names. -/
theorem of_at? (h : value.Distinct) {path : List String} (hinner : value.at? path = some inner) :
    inner.Distinct := by
  induction path generalizing value with
  | nil =>
      obtain rfl : value = inner := Option.some.inj hinner
      exact h
  | cons key rest ih =>
      cases value with
      | object members =>
          obtain ⟨first, hfirst, hrest⟩ := Option.bind_eq_some_iff.mp hinner
          exact ih (h.of_find? hfirst) hrest
      | _ => exact False.elim (Option.some_ne_none _ hinner.symm)

end Distinct

end FieldProjection.Json
