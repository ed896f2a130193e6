import FieldProjection.Projection.Projector
import FieldProjection.Proofs.Request.Paths

/-!
# Which requests reach the projection

A projection has one value for each name, so of two requests for one field only the last counts,
with what is asked for below it. `every_request_projected_iff` says exactly when nothing is lost
by that: when, wherever a field is requested several times, the last request asks for all that the
others ask for. `postsTwice` is a request that loses a path.
-/

namespace FieldProjection

namespace ResolvedField

/-- Wherever a field is requested several times, the last request asks for every path that one of
the others asks for. -/
def LastAsksForAll (field : ResolvedField) : Prop :=
  ∀ names place, field.follow? names = some place →
    ∀ child ∈ place.children, ∀ last, place.lastChild? child.name = some last →
      ∀ below, child.Requests below → last.Requests below

/-- What is requested at the end of a path that can be followed is requested below its start. -/
theorem requests_append {field place : ResolvedField} {names below : List String}
    (hfollow : field.follow? names = some place) (hbelow : place.Requests below) :
    field.Requests (names ++ below) := by
  induction names generalizing field with
  | nil =>
      obtain rfl : field = place := Option.some.inj hfollow
      exact hbelow
  | cons name rest ih =>
      obtain ⟨child, hchild, hrest⟩ := Option.bind_eq_some_iff.mp hfollow
      obtain ⟨hmem, hname⟩ := mem_of_lastChild? hchild
      exact requests_cons.mpr ⟨child, hmem, hname, ih hrest⟩

/-- What holds of a whole request holds below each of its last requests. -/
theorem LastAsksForAll.of_lastChild? {field child : ResolvedField} {name : String}
    (h : field.LastAsksForAll) (hchild : field.lastChild? name = some child) :
    child.LastAsksForAll := by
  intro names place hplace
  exact h (name :: names) place (by rw [follow?, hchild, Option.bind_some, hplace])

/-- If last requests ask for all, every requested path can be followed. -/
theorem LastAsksForAll.follow?_isSome {field : ResolvedField} (h : field.LastAsksForAll)
    {names : List String} (hrequests : field.Requests names) : (field.follow? names).isSome := by
  induction names generalizing field with
  | nil => rfl
  | cons name rest ih =>
      obtain ⟨child, hmem, rfl, hbelow⟩ := requests_cons.mp hrequests
      obtain ⟨last, hlast⟩ := exists_lastChild? hmem
      -- the last request takes the place of the child, and it asks for the rest as well
      have hrest : last.Requests rest := h [] field rfl child hmem last hlast rest hbelow
      rw [follow?, hlast, Option.bind_some]
      exact ih (h.of_lastChild? hlast) hrest

/-- Every requested path can be followed exactly when last requests ask for all. -/
theorem follow?_isSome_iff_lastAsksForAll (field : ResolvedField) :
    (∀ names, field.Requests names → (field.follow? names).isSome) ↔ field.LastAsksForAll := by
  constructor
  · intro h names place hplace child hchild last hlast below hbelow
    have hrequest : place.Requests (child.name :: below) :=
      requests_cons.mpr ⟨child, hchild, rfl, hbelow⟩
    have hfollow := h _ (requests_append hplace hrequest)
    rw [follow?_append, hplace, Option.bind_some, follow?, hlast, Option.bind_some] at hfollow
    obtain ⟨_, hend⟩ := Option.isSome_iff_exists.mp hfollow
    exact requests_of_follow? hend
  · intro h names hrequests
    exact h.follow?_isSome hrequests

end ResolvedField

namespace Projector

/-- A path is in the projection exactly when it can be followed along last requests. -/
theorem selectPath?_projection_isSome_iff (projector : Projector) (names : List String) :
    (projector.layout.selectPath? projector.projection names).isSome ↔
      (projector.info.field.follow? names).isSome := by
  cases names with
  | nil => simp [Layout.selectPath?, ResolvedField.follow?]
  | cons name rest =>
      rw [projection, Projection.selectPath?_root _ _ (List.cons_ne_nil name rest),
        Option.isSome_map]

/-- Every path of the projection was requested. -/
theorem requests_of_selectPath?_projection {projector : Projector} {names : List String}
    (h : (projector.layout.selectPath? projector.projection names).isSome) :
    projector.info.field.Requests names := by
  rw [selectPath?_projection_isSome_iff] at h
  obtain ⟨_, hplace⟩ := Option.isSome_iff_exists.mp h
  exact ResolvedField.requests_of_follow? hplace

/-- The names of every chain of requests lead to a value of the projection exactly when, wherever a
field is requested several times, the last request asks for all that the others ask for. -/
theorem every_request_projected_iff (projector : Projector) :
    (∀ chain, projector.info.field.Chain chain →
      (projector.layout.selectPath? projector.projection
        (chain.map ResolvedField.name)).isSome) ↔
      projector.info.field.LastAsksForAll := by
  rw [← ResolvedField.follow?_isSome_iff_lastAsksForAll]
  constructor
  · rintro h names ⟨chain, hchain, rfl⟩
    exact (selectPath?_projection_isSome_iff projector _).mp (h chain hchain)
  · intro h chain hchain
    exact (selectPath?_projection_isSome_iff projector _).mpr (h _ ⟨chain, hchain, rfl⟩)

/-- A request for the titles of some posts and for the likes of others. -/
def postsTwice : Projector where
  info := ⟨"User", (ResolvedField.ofName "user").select "User"
    [((ResolvedField.ofName "posts").withLabel "recent").select "Post" [.ofName "title"],
      ((ResolvedField.ofName "posts").withLabel "popular").select "Post" [.ofName "likes"]]⟩
  options := {}

/-- The titles are requested, but the projection holds the likes only. -/
theorem postsTwice_loses_titles :
    ¬ ∀ chain, postsTwice.info.field.Chain chain →
      (postsTwice.layout.selectPath? postsTwice.projection
        (chain.map ResolvedField.name)).isSome := by
  intro h
  have htitles := h [((ResolvedField.ofName "posts").withLabel "recent").select "Post"
    [.ofName "title"], .ofName "title"] ⟨.head _, .head _, trivial⟩
  have hlost : (postsTwice.info.field.follow? ["posts", "title"]).isSome = false := by decide
  rw [selectPath?_projection_isSome_iff] at htitles
  exact Bool.false_ne_true (hlost.symm.trans htitles)

end Projector

end FieldProjection
