import FieldProjection.Projection.Merge
import FieldProjection.Proofs.Json.Distinct

/-!
# Merging overrides along paths

What stands at a path after a merge depends on what stands there before and in the source, and on
how long the path is: `merge_overrides`. Where the source has a value that is not merged, this value
counts; objects of the source down to the depth limit are merged, so their names follow those of the
target; where the source has nothing, the target counts as far as the source was merged into it.

All of it follows from what one level does, `find?_mergeMembers` and `keys_mergeMembers`, by
induction on the path. The depth grows with each name, so the statements about `mergeMembers` speak
of the sum of the depth and the length of the path.
-/

namespace FieldProjection.Json

/-! ## One level -/

section Level

variable {depth : Nat} {old : Option Json} {value : Json}

/-- A value that is no object replaces what the target holds. -/
theorem mergeValue_of_isObject_eq_false (h : value.isObject = false) :
    mergeValue depth old value = value := by
  cases value with
  | object => exact False.elim (Bool.noConfusion h)
  | _ => rfl

/-- From the depth limit on, every value replaces what the target holds. -/
theorem mergeValue_of_le (h : maxMergeDepth ≤ depth) : mergeValue depth old value = value := by
  cases value with
  | object nested => rw [mergeValue, if_neg (Nat.not_lt.mpr h)]
  | _ => rfl

/-- Above the depth limit an object is merged into the object that the target holds, or into an
empty one. -/
theorem mergeValue_object_of_lt (h : depth < maxMergeDepth) (nested : List (String × Json)) :
    mergeValue depth old (.object nested) =
      .object (mergeMembers (depth + 1) (membersOrNone old) nested) := by
  rw [mergeValue, if_pos h]

/-- Under the names of the source stands what its members are merged to, under all others what the
target holds. -/
theorem find?_mergeMembers (depth : Nat) (target : Entries Json) {source : List (String × Json)}
    (hnodup : (Entries.keys source).Nodup) (key : String) :
    Entries.find? key (mergeMembers depth target source) =
      ((Entries.find? key source).map (mergeValue depth (target.find? key))).or
        (target.find? key) := by
  induction source generalizing target with
  | nil => rfl
  | cons member rest ih =>
      obtain ⟨name, value⟩ := member
      rw [Entries.keys_cons, List.nodup_cons] at hnodup
      rw [mergeMembers, ih _ hnodup.2, Entries.find?_insert]
      by_cases hname : name = key
      · subst hname
        -- no later member can change what the first one was merged to
        have hrest : Entries.find? name rest = none := Entries.find?_eq_none_iff.mpr hnodup.1
        simp [Entries.find?, hrest]
      · simp [Entries.find?, hname]

/-- The names of the target stay in order, those that only the source has follow in its order. -/
theorem keys_mergeMembers (depth : Nat) (target : Entries Json) {source : List (String × Json)}
    (hnodup : (Entries.keys source).Nodup) :
    Entries.keys (mergeMembers depth target source) =
      target.keys ++ (Entries.keys source).filter (· ∉ target.keys) := by
  induction source generalizing target with
  | nil => simp [mergeMembers]
  | cons member rest ih =>
      obtain ⟨name, value⟩ := member
      rw [Entries.keys_cons, List.nodup_cons] at hnodup
      rw [mergeMembers, ih _ hnodup.2, Entries.keys_insert_append_filter hnodup.1,
        Entries.keys_cons]

end Level

/-! ## Along a path -/

/-- A path leads into a value as far as its part `front`: this is the longest part from the start
of the path, short of all of it, at which there is a value. -/
structure LeadsAsFarAs (value : Json) (path front : List String) : Prop where
  starts : front <+: path
  proper : front ≠ path
  found : (value.at? front).isSome
  longest : ∀ longer, longer <+: path → (value.at? longer).isSome → longer <+: front

section Path

variable {value inner : Json} {key : String} {rest front : List String}

/-- A path goes on in an object from the value under its first name. -/
theorem at?_object_cons (members : List (String × Json)) (key : String) (rest : List String) :
    (Json.object members).at? (key :: rest) =
      (Entries.find? key members).bind fun inner => inner.at? rest := rfl

/-- An object is made of members. -/
theorem exists_eq_object_of_isObject (h : value.isObject) : ∃ members, value = .object members := by
  cases value with
  | object members => exact ⟨members, rfl⟩
  | _ => exact False.elim (Bool.false_ne_true h)

/-- A value that leads to an object is an object. -/
theorem isObject_of_at? {path : List String} (h : value.at? path = some inner)
    (hinner : inner.isObject) : value.isObject := by
  cases path with
  | nil => exact Option.some.inj h ▸ hinner
  | cons key rest =>
      cases value with
      | object => rfl
      | _ => exact False.elim (Option.some_ne_none _ h.symm)

/-- A path whose first name is missing leads nowhere. -/
theorem LeadsAsFarAs.nil_of_find? (h : value.find? key = none) (rest : List String) :
    value.LeadsAsFarAs (key :: rest) [] where
  starts := List.nil_prefix
  proper := (List.cons_ne_nil key rest).symm
  found := rfl
  longest := by
    intro longer hlonger hfound
    cases longer with
    | nil => exact List.nil_prefix
    | cons first more =>
        obtain ⟨rfl, _⟩ := List.cons_prefix_cons.mp hlonger
        rw [at?, h] at hfound
        exact False.elim (Bool.false_ne_true hfound)

/-- A path leads as far as its rest does from the value under its first name. -/
theorem LeadsAsFarAs.cons (hfind : value.find? key = some inner)
    (h : inner.LeadsAsFarAs rest front) : value.LeadsAsFarAs (key :: rest) (key :: front) where
  starts := List.cons_prefix_cons.mpr ⟨rfl, h.starts⟩
  proper := fun heq => h.proper (List.cons.inj heq).2
  found := by
    rw [at?, hfind]
    exact h.found
  longest := by
    intro longer hlonger hfound
    cases longer with
    | nil => exact List.nil_prefix
    | cons first more =>
        obtain ⟨rfl, hmore⟩ := List.cons_prefix_cons.mp hlonger
        rw [at?, hfind] at hfound
        exact List.cons_prefix_cons.mpr ⟨rfl, h.longest more hmore hfound⟩

end Path

variable {depth : Nat} {target : Entries Json} {source : List (String × Json)}

/-- A name of the source leads to what its value is merged to. -/
theorem at?_mergeMembers_cons (hnodup : (Entries.keys source).Nodup) {key : String} {value : Json}
    (hfind : Entries.find? key source = some value) (rest : List String) :
    (Json.object (mergeMembers depth target source)).at? (key :: rest) =
      (mergeValue depth (target.find? key) value).at? rest := by
  rw [at?_object_cons, find?_mergeMembers depth target hnodup, hfind]
  rfl

/-- A path to something in the source starts with one of its names. -/
theorem exists_find?_of_at?_cons {key : String} {rest : List String} {value : Json}
    (h : (Json.object source).at? (key :: rest) = some value) :
    ∃ first, Entries.find? key source = some first ∧ first.at? rest = some value :=
  Option.bind_eq_some_iff.mp h

/-- What there is at a path that goes on is found among the members of a value. -/
theorem at?_membersOrNone (old : Option Json) (key : String) (rest : List String) :
    (Json.object (membersOrNone old)).at? (key :: rest) =
      old.bind fun value => value.at? (key :: rest) := by
  cases old with
  | none => rfl
  | some value => cases value <;> rfl

/-- The members that there are at a path are found among the members of a value. -/
theorem membersOrNone_at? (old : Option Json) (path : List String) :
    membersOrNone ((Json.object (membersOrNone old)).at? path) =
      membersOrNone (old.bind fun value => value.at? path) := by
  cases path with
  | nil => cases old <;> rfl
  | cons key rest => rw [at?_membersOrNone]

/-- A value that is no object, and any value below the depth limit, is taken over from the
source. -/
theorem at?_mergeMembers_of_replaced (hdistinct : (Json.object source).Distinct)
    {path : List String} {value : Json} (hpath : path ≠ [])
    (hvalue : (Json.object source).at? path = some value)
    (h : value.isObject = false ∨ maxMergeDepth < depth + path.length) :
    (Json.object (mergeMembers depth target source)).at? path = some value := by
  induction path generalizing depth target source with
  | nil => exact False.elim (hpath rfl)
  | cons key rest ih =>
      obtain ⟨first, hfind, hrest⟩ := exists_find?_of_at?_cons hvalue
      rw [at?_mergeMembers_cons hdistinct.nodup hfind]
      by_cases hdepth : depth < maxMergeDepth
      · cases rest with
        | nil =>
            obtain rfl : first = value := Option.some.inj hrest
            have hscalar : first.isObject = false := by
              rcases h with hscalar | hdeep
              · exact hscalar
              · simp only [List.length_cons, List.length_nil] at hdeep
                omega
            rw [mergeValue_of_isObject_eq_false hscalar]
            rfl
        | cons next more =>
            cases first with
            | object nested =>
                rw [mergeValue_object_of_lt hdepth]
                refine ih (hdistinct.of_find? hfind) (List.cons_ne_nil next more) hrest ?_
                rw [List.length_cons] at h
                exact h.imp_right fun hdeep => by omega
            | _ => exact False.elim (Option.some_ne_none _ hrest.symm)
      · rw [mergeValue_of_le (Nat.not_lt.mp hdepth)]
        exact hrest

/-- An object of the source above the depth limit is merged into what the target holds at its
path. -/
theorem at?_mergeMembers_of_merged (hdistinct : (Json.object source).Distinct)
    {path : List String} {members : List (String × Json)}
    (hvalue : (Json.object source).at? path = some (.object members))
    (h : depth + path.length ≤ maxMergeDepth) :
    (Json.object (mergeMembers depth target source)).at? path =
      some (.object (mergeMembers (depth + path.length)
        (membersOrNone ((Json.object target).at? path)) members)) := by
  induction path generalizing depth target source with
  | nil =>
      obtain rfl : source = members := Json.object.inj (Option.some.inj hvalue)
      rfl
  | cons key rest ih =>
      obtain ⟨first, hfind, hrest⟩ := exists_find?_of_at?_cons hvalue
      rw [List.length_cons] at h
      have hdepth : depth < maxMergeDepth := by omega
      cases first with
      | object nested =>
          rw [at?_mergeMembers_cons hdistinct.nodup hfind, mergeValue_object_of_lt hdepth,
            ih (hdistinct.of_find? hfind) hrest (by omega), List.length_cons, Nat.add_assoc,
            Nat.add_comm 1]
          rw [at?_object_cons, ← membersOrNone_at?]
      | _ =>
          cases rest with
          | nil => exact False.elim (Json.noConfusion (Option.some.inj hrest))
          | cons next more => exact False.elim (Option.some_ne_none _ hrest.symm)

/-- A path at which there is nothing leads into a value as far as some part of it. -/
theorem exists_leadsAsFarAs {value : Json} {path : List String} (h : value.at? path = none) :
    ∃ front inner, value.LeadsAsFarAs path front ∧ value.at? front = some inner := by
  induction path generalizing value with
  | nil => exact False.elim (Option.some_ne_none _ h)
  | cons key rest ih =>
      cases hfind : value.find? key with
      | none => exact ⟨[], value, .nil_of_find? hfind rest, rfl⟩
      | some first =>
          rw [at?, hfind] at h
          obtain ⟨front, inner, hleads, hinner⟩ := ih h
          refine ⟨key :: front, inner, .cons hfind hleads, ?_⟩
          rw [at?, hfind]
          exact hinner

/-- Where a path leaves the source, the target counts if the source was merged into it up to there,
and otherwise there is nothing. -/
theorem at?_mergeMembers_of_missing (target : Entries Json)
    (hdistinct : (Json.object source).Distinct) {path : List String}
    (hmissing : (Json.object source).at? path = none) (hdepth : depth ≤ maxMergeDepth) :
    ∃ front inner, (Json.object source).LeadsAsFarAs path front ∧
      (Json.object source).at? front = some inner ∧
      (Json.object (mergeMembers depth target source)).at? path =
        if inner.isObject ∧ depth + front.length ≤ maxMergeDepth then
          (Json.object target).at? path
        else none := by
  induction path generalizing depth target source with
  | nil => exact False.elim (Option.some_ne_none _ hmissing)
  | cons key rest ih =>
      cases hfind : Entries.find? key source with
      | none =>
          have hkey : (Json.object source).find? key = none := hfind
          refine ⟨[], .object source, .nil_of_find? hkey rest, rfl, ?_⟩
          rw [if_pos ⟨rfl, hdepth⟩, at?_object_cons, at?_object_cons,
            find?_mergeMembers depth target hdistinct.nodup, hfind]
          rfl
      | some first =>
          have hkey : (Json.object source).find? key = some first := hfind
          rw [at?_object_cons, hfind, Option.bind_some] at hmissing
          rw [at?_mergeMembers_cons hdistinct.nodup hfind]
          by_cases hmerged : first.isObject ∧ depth < maxMergeDepth
          · obtain ⟨nested, rfl⟩ := exists_eq_object_of_isObject hmerged.1
            obtain ⟨front, inner, hleads, hinner, hresult⟩ :=
              ih (membersOrNone (target.find? key)) (hdistinct.of_find? hfind) hmissing hmerged.2
            refine ⟨key :: front, inner, .cons hkey hleads, ?_, ?_⟩
            · rw [at?_object_cons, hfind]
              exact hinner
            · have hlength : depth + (key :: front).length = depth + 1 + front.length := by
                rw [List.length_cons]
                omega
              rw [mergeValue_object_of_lt hmerged.2, hresult, hlength]
              cases rest with
              | nil => exact False.elim (Option.some_ne_none _ hmissing)
              | cons next more => rw [at?_membersOrNone, ← at?_object_cons]
          · -- what the source has under this name was not merged, and nothing was added to it
            obtain ⟨front, inner, hleads, hinner⟩ := exists_leadsAsFarAs hmissing
            have hkept : mergeValue depth (target.find? key) first = first := by
              by_cases hobject : first.isObject
              · exact mergeValue_of_le (Nat.not_lt.mp fun hlt => hmerged ⟨hobject, hlt⟩)
              · exact mergeValue_of_isObject_eq_false (Bool.not_eq_true _ ▸ hobject)
            refine ⟨key :: front, inner, .cons hkey hleads, ?_, ?_⟩
            · rw [at?_object_cons, hfind]
              exact hinner
            · rw [hkept, hmissing, if_neg]
              rintro ⟨hobject, hlength⟩
              rw [List.length_cons] at hlength
              exact hmerged ⟨isObject_of_at? hinner hobject, by omega⟩

/-! ## Whole values -/

/-- What a merge makes of a target and a source, path by path. -/
structure Overrides (target source result : Json) : Prop where
  /-- A value of the source that is not merged counts. -/
  replaced : ∀ path value, path ≠ [] → source.at? path = some value →
    value.isObject = false ∨ 129 ≤ path.length → result.at? path = some value
  /-- The names of a merged object are those of the target, then those that only the source has. -/
  merged : ∀ path members, source.at? path = some (.object members) → path.length ≤ 128 →
    ∃ combined, result.at? path = some (.object combined) ∧
      Entries.keys combined = Entries.keys (membersOrNone (target.at? path)) ++
        (Entries.keys members).filter (· ∉ Entries.keys (membersOrNone (target.at? path)))
  /-- Where the source has nothing, the target counts if the source was merged that far. -/
  missing : ∀ path, source.at? path = none → ∃ front inner,
    source.LeadsAsFarAs path front ∧ source.at? front = some inner ∧
      result.at? path =
        if inner.isObject ∧ front.length ≤ 128 then target.at? path else none

/-- Objects are merged from depth zero on. -/
theorem merge_object (target : Entries Json) (source : List (String × Json)) :
    (Json.object target).merge (.object source) = .object (mergeMembers 0 target source) := rfl

/-- Merging one object into another overrides it path by path. -/
theorem overrides_merge {target source : Json} (htarget : target.isObject)
    (hsource : source.isObject) (hdistinct : source.Distinct) :
    Overrides target source (target.merge source) := by
  obtain ⟨members, rfl⟩ := exists_eq_object_of_isObject htarget
  obtain ⟨added, rfl⟩ := exists_eq_object_of_isObject hsource
  have hlimit : maxMergeDepth = 128 := rfl
  refine ⟨?_, ?_, ?_⟩
  · intro path value hpath hvalue hreplaced
    exact at?_mergeMembers_of_replaced hdistinct hpath hvalue
      (hreplaced.imp_right fun hlength => by omega)
  · intro path nested hnested hlength
    have hpath : 0 + path.length ≤ maxMergeDepth := by omega
    exact ⟨_, at?_mergeMembers_of_merged hdistinct hnested hpath,
      keys_mergeMembers _ _ (hdistinct.of_at? hnested).nodup⟩
  · intro path hmissing
    have hresult := at?_mergeMembers_of_missing members hdistinct hmissing (Nat.zero_le _)
    rw [merge_object]
    simpa only [Nat.zero_add, hlimit] using hresult

/-- Merging into a target that is no object changes nothing. -/
theorem merge_of_isObject_eq_false {target : Json} (h : target.isObject = false) (source : Json) :
    target.merge source = target := by
  cases target with
  | object => exact False.elim (Bool.noConfusion h)
  | _ => rfl

/-- A source that is no object changes nothing. -/
theorem merge_eq_self_of_isObject_eq_false {source : Json} (h : source.isObject = false)
    (target : Json) : target.merge source = target := by
  cases source with
  | object => exact False.elim (Bool.noConfusion h)
  | _ => cases target <;> rfl

/-- A source is merged into a target path by path. Several sources are merged one by one; sources
that are no objects, and all sources if the target is none, change nothing. -/
theorem mergeAll_overrides :
    (∀ target source : Json, target.isObject → source.isObject → source.Distinct →
      Overrides target source (target.mergeAll [source])) ∧
    (∀ (target source : Json) (more : List Json),
      target.mergeAll (source :: more) = (target.mergeAll [source]).mergeAll more) ∧
    (∀ target source : Json, source.isObject = false → target.mergeAll [source] = target) ∧
    ∀ (target : Json) (sources : List Json), target.isObject = false →
      target.mergeAll sources = target := by
  refine ⟨fun target source => overrides_merge, fun target source more => rfl,
    fun target source h => merge_eq_self_of_isObject_eq_false h target, ?_⟩
  intro target sources h
  induction sources with
  | nil => rfl
  | cons source more ih =>
      rw [mergeAll, List.foldl_cons, merge_of_isObject_eq_false h]
      exact ih

/-- Nested objects with the only name `a`, and an object with one other name at the end. -/
def nestedObjects (last : String) : Nat → Json
  | 0 => .object [(last, .null)]
  | levels + 1 => .object [("a", nestedObjects last levels)]

/-- The last object stands behind all others. -/
theorem at?_nestedObjects (last : String) (levels : Nat) :
    (nestedObjects last levels).at? (List.replicate levels "a") =
      some (.object [(last, .null)]) := by
  induction levels with
  | zero => rfl
  | succ levels ih => exact ih

/-- No name is repeated. -/
theorem distinct_nestedObjects (last : String) (levels : Nat) :
    (nestedObjects last levels).Distinct := by
  induction levels with
  | zero => exact .object (List.nodup_singleton last) (List.forall_mem_singleton.mpr .null)
  | succ levels ih => exact .object (List.nodup_singleton "a") (List.forall_mem_singleton.mpr ih)

/-- At the depth limit objects are merged, and one level below it they are replaced. -/
theorem mergeAll_overrides_nestedObjects :
    (∃ combined,
      ((nestedObjects "x" 128).mergeAll [nestedObjects "y" 128]).at? (List.replicate 128 "a") =
        some (.object combined) ∧ Entries.keys combined = ["x", "y"]) ∧
    ((nestedObjects "x" 129).mergeAll [nestedObjects "y" 129]).at? (List.replicate 129 "a") =
      some (.object [("y", .null)]) := by
  obtain ⟨hoverrides, _⟩ := mergeAll_overrides
  have hlimit := hoverrides (nestedObjects "x" 128) (nestedObjects "y" 128) rfl rfl
    (distinct_nestedObjects "y" 128)
  have hbelow := hoverrides (nestedObjects "x" 129) (nestedObjects "y" 129) rfl rfl
    (distinct_nestedObjects "y" 129)
  obtain ⟨combined, hcombined, hkeys⟩ := hlimit.merged _ _ (at?_nestedObjects "y" 128)
    (Nat.le_of_eq List.length_replicate)
  refine ⟨⟨combined, hcombined, ?_⟩, ?_⟩
  · rw [hkeys, at?_nestedObjects]
    rfl
  · exact hbelow.replaced _ _ (List.cons_ne_nil _ _) (at?_nestedObjects "y" 129)
      (.inr (Nat.le_of_eq List.length_replicate.symm))

end FieldProjection.Json
