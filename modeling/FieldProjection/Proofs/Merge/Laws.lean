import FieldProjection.Proofs.Merge.Override

/-!
# Laws of merging

The empty object is a unit of merging, and merging a source again changes nothing:
`mergeAll_unit_idempotent`. Merging one source and then another comes to merging the first with
the second merged into it, provided that no value of the first that is no object stands where the
second has an object: `mergeAll_combined`. Such a value wipes out what the target holds when it
is merged alone, but is lost when the second source is merged into it before.

Each law is shown of the members of one level first, for the values that these members have, and
then of all values by induction on the value that is merged last. The depth is arbitrary
throughout, so the laws hold above the depth limit, where objects are merged, and below it, where
they are copied.
-/

namespace FieldProjection.Json

variable {depth : Nat} {old : Option Json} {value : Json}
variable {target first second : Entries Json} {source : List (String × Json)}

/-- Merging does not repeat a name. -/
theorem nodup_keys_mergeMembers (depth : Nat) (source : List (String × Json))
    (htarget : target.keys.Nodup) : (mergeMembers depth target source).keys.Nodup := by
  induction source generalizing target with
  | nil => exact htarget
  | cons member rest ih => exact ih (Entries.nodup_keys_insert htarget _ _)

/-! ## Unit -/

/-- Merging members into none gives these members, if that is so of their values. -/
theorem mergeMembers_empty_target (hnodup : (Entries.keys source).Nodup)
    (hvalues : ∀ member ∈ source, mergeValue depth none member.2 = member.2) :
    mergeMembers depth [] source = source := by
  have hkeys : Entries.keys (mergeMembers depth [] source) = Entries.keys source := by
    rw [keys_mergeMembers depth [] hnodup, Entries.keys_nil, List.nil_append]
    exact List.filter_eq_self.mpr fun _ _ => decide_eq_true List.not_mem_nil
  have hmerged : (Entries.keys (mergeMembers depth [] source)).Nodup := by
    rw [hkeys]
    exact hnodup
  apply Entries.eq_of_find?_eq hmerged hkeys
  intro key _
  rw [find?_mergeMembers depth [] hnodup, Entries.find?_nil, Option.or_none]
  cases hfind : Entries.find? key source with
  | none => rfl
  | some value =>
      rw [Option.map_some, hvalues (key, value) (Entries.mem_of_find? hfind)]

/-- A value that is merged where the target holds nothing stays what it is. -/
theorem mergeValue_none (h : value.Distinct) (depth : Nat) :
    mergeValue depth none value = value := by
  induction h generalizing depth with
  | object hnodup _ ih =>
      by_cases hdepth : depth < maxMergeDepth
      · -- every member is merged where the empty object holds nothing
        rw [mergeValue_object_of_lt hdepth]
        exact congrArg Json.object
          (mergeMembers_empty_target hnodup fun member hmem => ih member hmem (depth + 1))
      · exact mergeValue_of_le (Nat.not_lt.mp hdepth)
  | _ => rfl

/-- Merging an object into the empty one gives the object. -/
theorem emptyObject_merge {source : Json} (hobject : source.isObject)
    (hdistinct : source.Distinct) : emptyObject.merge source = source := by
  obtain ⟨members, rfl⟩ := exists_eq_object_of_isObject hobject
  show object (mergeMembers 0 [] members) = object members
  rw [mergeMembers_empty_target hdistinct.nodup]
  intro member hmem
  exact mergeValue_none (hdistinct.of_mem hmem) 0

/-! ## Merging again -/

/-- Merging members changes nothing if the target holds each of them merged already. -/
theorem mergeMembers_eq_self (h : ∀ member ∈ source, ∃ held,
    target.find? member.1 = some held ∧ mergeValue depth (some held) member.2 = held) :
    mergeMembers depth target source = target := by
  induction source with
  | nil => rfl
  | cons member rest ih =>
      obtain ⟨key, value⟩ := member
      obtain ⟨held, hfind, hvalue⟩ := h (key, value) List.mem_cons_self
      rw [mergeMembers, hfind, hvalue, Entries.insert_of_find? hfind]
      apply ih
      intro other hother
      exact h other (List.mem_cons_of_mem _ hother)

/-- Merging the same members again changes nothing, if that is so of their values. -/
theorem mergeMembers_mergeMembers_same (hnodup : (Entries.keys source).Nodup)
    (hvalues : ∀ member ∈ source, ∀ old,
      mergeValue depth (some (mergeValue depth old member.2)) member.2 =
        mergeValue depth old member.2) :
    mergeMembers depth (mergeMembers depth target source) source =
      mergeMembers depth target source := by
  apply mergeMembers_eq_self
  intro member hmem
  refine ⟨mergeValue depth (target.find? member.1) member.2, ?_, hvalues member hmem _⟩
  rw [find?_mergeMembers depth target hnodup, Entries.find?_of_mem hnodup hmem]
  rfl

/-- Merging the same value again changes nothing. -/
theorem mergeValue_mergeValue_same (h : value.Distinct) (depth : Nat) (old : Option Json) :
    mergeValue depth (some (mergeValue depth old value)) value = mergeValue depth old value := by
  induction h generalizing depth old with
  | object hnodup _ ih =>
      by_cases hdepth : depth < maxMergeDepth
      · rw [mergeValue_object_of_lt hdepth, mergeValue_object_of_lt hdepth]
        exact congrArg Json.object (mergeMembers_mergeMembers_same hnodup
          fun member hmem => ih member hmem (depth + 1))
      · rw [mergeValue_of_le (Nat.not_lt.mp hdepth), mergeValue_of_le (Nat.not_lt.mp hdepth)]
  | _ => rfl

/-- Merging the same source again changes nothing. -/
theorem merge_merge_same (target : Json) {source : Json} (hdistinct : source.Distinct) :
    (target.merge source).merge source = target.merge source := by
  cases source with
  | object members =>
      cases target with
      | object held =>
          show object (mergeMembers 0 (mergeMembers 0 held members) members) =
            object (mergeMembers 0 held members)
          rw [mergeMembers_mergeMembers_same hdistinct.nodup]
          intro member hmem old
          exact mergeValue_mergeValue_same (hdistinct.of_mem hmem) 0 old
      | _ => rfl
  | _ => exact merge_eq_self_of_isObject_eq_false rfl _

/-- The empty object is a unit of merging on both sides. An object that is merged into itself stays
what it is, and so does any target when a source is merged into it again. -/
theorem mergeAll_unit_idempotent (target source : Json) (hobject : source.isObject)
    (hdistinct : source.Distinct) :
    emptyObject.mergeAll [source] = source ∧
      target.mergeAll [emptyObject] = target ∧
      source.mergeAll [source] = source ∧
      (target.mergeAll [source]).mergeAll [source] = target.mergeAll [source] := by
  have hunit : emptyObject.merge source = source := emptyObject_merge hobject hdistinct
  refine ⟨hunit, ?_, ?_, merge_merge_same target hdistinct⟩
  · show target.merge emptyObject = target
    cases target <;> rfl
  · -- merging into itself is merging again what was merged into the empty object
    show source.merge source = source
    have hagain := merge_merge_same emptyObject hdistinct
    rwa [hunit] at hagain

/-- In the example the sources are nested more deeply than objects are merged. -/
theorem mergeAll_unit_idempotent_nestedObjects :
    (nestedObjects "y" 130).isObject ∧ (nestedObjects "y" 130).Distinct ∧
      emptyObject.mergeAll [nestedObjects "y" 130] = nestedObjects "y" 130 ∧
      (nestedObjects "x" 130).mergeAll [emptyObject] = nestedObjects "x" 130 ∧
      (nestedObjects "y" 130).mergeAll [nestedObjects "y" 130] = nestedObjects "y" 130 ∧
      ((nestedObjects "x" 130).mergeAll [nestedObjects "y" 130]).mergeAll [nestedObjects "y" 130] =
        (nestedObjects "x" 130).mergeAll [nestedObjects "y" 130] :=
  ⟨rfl, distinct_nestedObjects "y" 130, mergeAll_unit_idempotent (nestedObjects "x" 130)
    (nestedObjects "y" 130) rfl (distinct_nestedObjects "y" 130)⟩

/-! ## Merging one source into another first -/

/-- At no path of at most so many names does the first value hold something that is no object where
the second holds an object. -/
def Composable (first second : Json) (levels : Nat) : Prop :=
  ∀ path held added, path.length ≤ levels → first.at? path = some held →
    second.at? path = some added → added.isObject → held.isObject

/-- What two values hold under the same name is composable along paths that are one name shorter. -/
theorem Composable.of_find? {first second : List (String × Json)} {levels : Nat} {key : String}
    {held added : Json} (h : (Json.object first).Composable (.object second) (levels + 1))
    (hheld : Entries.find? key first = some held)
    (hadded : Entries.find? key second = some added) : held.Composable added levels := by
  intro path inner nested hlength hinner hnested
  refine h (key :: path) inner nested (Nat.succ_le_succ hlength) ?_ ?_
  · rw [at?_object_cons, hheld, Option.bind_some, hinner]
  · rw [at?_object_cons, hadded, Option.bind_some, hnested]

/-- Merging the members of two sources one after the other comes to merging those of the first with
the second merged into them, if that is so of the values under the names that both have. -/
theorem mergeMembers_mergeMembers (htarget : target.keys.Nodup) (hfirst : first.keys.Nodup)
    (hsecond : (Json.object second).Distinct)
    (hvalues : ∀ key held added, first.find? key = some held → second.find? key = some added →
      mergeValue depth (some (mergeValue depth (target.find? key) held)) added =
        mergeValue depth (target.find? key) (mergeValue depth (some held) added)) :
    mergeMembers depth (mergeMembers depth target first) second =
      mergeMembers depth target (mergeMembers depth first second) := by
  have hmerged := nodup_keys_mergeMembers depth second hfirst
  refine Entries.eq_of_find?_eq
    (nodup_keys_mergeMembers depth second (nodup_keys_mergeMembers depth first htarget)) ?_ ?_
  · -- either way the names of the second source follow that neither of the others has
    have hnew : second.keys.filter (· ∉ target.keys ++ first.keys.filter (· ∉ target.keys)) =
        second.keys.filter fun name =>
          decide (name ∉ target.keys) && decide (name ∉ first.keys) := by
      apply List.filter_congr
      intro name _
      by_cases hname : name ∈ target.keys <;> simp [hname]
    rw [keys_mergeMembers depth _ hsecond.nodup, keys_mergeMembers depth target hmerged,
      keys_mergeMembers depth target hfirst, keys_mergeMembers depth first hsecond.nodup, hnew,
      List.filter_append, List.append_assoc, List.filter_filter]
  · intro key _
    rw [find?_mergeMembers depth _ hsecond.nodup, find?_mergeMembers depth target hmerged,
      find?_mergeMembers depth target hfirst, find?_mergeMembers depth first hsecond.nodup]
    cases hheld : first.find? key with
    | none =>
        cases hadded : second.find? key with
        | none => rfl
        | some added =>
            -- the first source has nothing here to merge the value into
            have hkept := mergeValue_none (hsecond.of_find? hadded) depth
            simp [hkept]
    | some held =>
        cases hadded : second.find? key with
        | none => rfl
        | some added => exact congrArg some (hvalues key held added hheld hadded)

/-- The members of a value with distinct names have distinct names. -/
theorem distinct_membersOrNone (h : ∀ held, old = some held → held.Distinct) :
    (Json.object (membersOrNone old)).Distinct := by
  have hnone : (Json.object []).Distinct := .object List.nodup_nil (List.forall_mem_nil _)
  cases old with
  | none => exact hnone
  | some held =>
      cases held with
      | object members => exact h _ rfl
      | _ => exact hnone

/-- Merging two values one after the other comes to merging the first with the second merged into
it, if the two are composable down to the depth limit. -/
theorem mergeValue_mergeValue {held added : Json} (hadded : added.Distinct) (hheld : held.Distinct)
    (hold : ∀ value, old = some value → value.Distinct)
    (hcomposable : depth < maxMergeDepth →
      held.Composable added (maxMergeDepth - (depth + 1))) :
    mergeValue depth (some (mergeValue depth old held)) added =
      mergeValue depth old (mergeValue depth (some held) added) := by
  induction hadded generalizing depth old held with
  | @object second hnodup hvalues ih =>
      by_cases hdepth : depth < maxMergeDepth
      · obtain ⟨first, rfl⟩ := exists_eq_object_of_isObject
          (hcomposable hdepth [] held _ (Nat.zero_le _) rfl rfl rfl)
        have htarget := distinct_membersOrNone hold
        rw [mergeValue_object_of_lt hdepth, mergeValue_object_of_lt hdepth,
          mergeValue_object_of_lt hdepth, mergeValue_object_of_lt hdepth]
        congr 1
        apply mergeMembers_mergeMembers htarget.nodup hheld.nodup (.object hnodup hvalues)
        intro key inner nested hinner hnested
        apply ih (key, nested) (Entries.mem_of_find? hnested) (hheld.of_find? hinner)
        · intro value hvalue
          exact htarget.of_find? hvalue
        · intro hbelow
          -- one more name leads to the values, and one level less is left for the paths below them
          have hlevels : maxMergeDepth - (depth + 1) = maxMergeDepth - (depth + 1 + 1) + 1 := by
            omega
          have hlevel := hcomposable hdepth
          rw [hlevels] at hlevel
          exact hlevel.of_find? hinner hnested
      · have hlimit : maxMergeDepth ≤ depth := Nat.not_lt.mp hdepth
        rw [mergeValue_of_le hlimit, mergeValue_of_le hlimit, mergeValue_of_le hlimit]
  | _ => rfl

/-- Merging two sources one after the other comes to merging the first with the second merged into
it, unless the first has, at a path of at most 128 names, a value that is no object where the second
has an object. -/
theorem mergeAll_combined {target first second : Json} (htarget : target.Distinct)
    (hfirst : first.Distinct) (hsecond : second.Distinct)
    (hcomposable : first.Composable second 128) :
    target.mergeAll [first, second] = target.mergeAll [first.mergeAll [second]] := by
  show (target.merge first).merge second = target.merge (first.merge second)
  cases hobject : second.isObject with
  | false =>
      rw [merge_eq_self_of_isObject_eq_false hobject, merge_eq_self_of_isObject_eq_false hobject]
  | true =>
      obtain ⟨added, rfl⟩ := exists_eq_object_of_isObject hobject
      -- the empty path leads to the sources themselves
      obtain ⟨members, rfl⟩ := exists_eq_object_of_isObject
        (hcomposable [] first _ (Nat.zero_le _) rfl rfl hobject)
      cases target with
      | object held =>
          show object (mergeMembers 0 (mergeMembers 0 held members) added) =
            object (mergeMembers 0 held (mergeMembers 0 members added))
          rw [mergeMembers_mergeMembers htarget.nodup hfirst.nodup hsecond]
          intro key inner nested hinner hnested
          apply mergeValue_mergeValue (hsecond.of_find? hnested) (hfirst.of_find? hinner)
          · intro value hvalue
            exact htarget.of_find? hvalue
          · intro _
            exact hcomposable.of_find? hinner hnested
      | _ => rfl

/-- Nested objects hold objects at the same paths, down to the last ones. -/
theorem composable_nestedObjects (last other : String) (depth levels : Nat) :
    (nestedObjects last depth).Composable (nestedObjects other depth) levels := by
  intro path held added hlength hheld hadded hobject
  induction depth generalizing path with
  | zero =>
      cases path with
      | nil => exact Option.some.inj hheld ▸ rfl
      | cons key rest =>
          obtain ⟨inner, hinner, hrest⟩ := exists_find?_of_at?_cons hadded
          obtain ⟨_, rfl⟩ :=
            Prod.mk.inj (List.mem_singleton.mp (Entries.mem_of_find? hinner))
          exact False.elim (Bool.false_ne_true (isObject_of_at? hrest hobject))
  | succ depth ih =>
      cases path with
      | nil => exact Option.some.inj hheld ▸ rfl
      | cons key rest =>
          obtain ⟨inner, hinner, hrest⟩ := exists_find?_of_at?_cons hadded
          obtain ⟨value, hvalue, hbelow⟩ := exists_find?_of_at?_cons hheld
          obtain ⟨_, rfl⟩ :=
            Prod.mk.inj (List.mem_singleton.mp (Entries.mem_of_find? hinner))
          obtain ⟨_, rfl⟩ :=
            Prod.mk.inj (List.mem_singleton.mp (Entries.mem_of_find? hvalue))
          exact ih rest (Nat.le_of_succ_le hlength) hbelow hrest

/-- In the example all three are nested more deeply than objects are merged. -/
theorem mergeAll_combined_nestedObjects :
    (nestedObjects "x" 130).Distinct ∧ (nestedObjects "y" 130).Distinct ∧
      (nestedObjects "z" 130).Distinct ∧
      (nestedObjects "y" 130).Composable (nestedObjects "z" 130) 128 ∧
      (nestedObjects "x" 130).mergeAll [nestedObjects "y" 130, nestedObjects "z" 130] =
        (nestedObjects "x" 130).mergeAll
          [(nestedObjects "y" 130).mergeAll [nestedObjects "z" 130]] :=
  ⟨distinct_nestedObjects "x" 130, distinct_nestedObjects "y" 130, distinct_nestedObjects "z" 130,
    composable_nestedObjects "y" "z" 130 128,
    mergeAll_combined (distinct_nestedObjects "x" 130) (distinct_nestedObjects "y" 130)
      (distinct_nestedObjects "z" 130) (composable_nestedObjects "y" "z" 130 128)⟩

/-- A null in the first source wipes out what the target holds, unless an object of the second takes
its place before. -/
example :
    let target := object [("a", nestedObjects "x" 0)]
    let first := object [("a", .null)]
    let second := object [("a", nestedObjects "y" 0)]
    ((target.mergeAll [first, second]).at? ["a", "x"]).isSome = false ∧
      ((target.mergeAll [first.mergeAll [second]]).at? ["a", "x"]).isSome = true :=
  ⟨rfl, rfl⟩

end FieldProjection.Json
