import ModelLineage.Proofs.Flatten.Cycles
import ModelLineage.Proofs.Outcomes

/-!
# What a flattened model depends on

A flattened model depends on the models that can be reached from it and on the
order in which ancestors are listed, and on nothing else.  Where its name sorts,
what other models there are and which of them the descent visits first makes no
difference.

Two graphs are compared that may share no name: what can be reached from a name
of the one is copied into the other under new names.  All that an heir takes over
from a model is in its fields and its required set, so the comparison leaves out
names and ancestors.
-/

namespace ModelLineage

namespace Model

/-- A model without its name and its ancestors, which its heirs do not take over. -/
def nameless (model : Model) : Model :=
  { model with name := "", ancestors := [] }

/-- Without names, the first source of a field requires what it requires. -/
theorem exists_find?_map_nameless_iff
    {inherited : List Model} {name : String} :
    (∃ source, (inherited.map Model.nameless).find? (·.declares name) = some source ∧
        name ∈ source.required) ↔
      ∃ source, inherited.find? (·.declares name) = some source ∧ name ∈ source.required := by
  have first :
      (inherited.map Model.nameless).find? (·.declares name) =
        (inherited.find? (·.declares name)).map Model.nameless :=
    List.find?_map ..
  rw [first]
  constructor
  · rintro ⟨_, mapped, demanded⟩
    rcases Option.map_eq_some_iff.mp mapped with ⟨source, found, rfl⟩
    exact ⟨source, found, demanded⟩
  · rintro ⟨source, found, demanded⟩
    exact ⟨source.nameless, Option.map_eq_some_iff.mpr ⟨source, found, rfl⟩, demanded⟩

/-- What a model is composed of does not depend on names. -/
theorem ComposedOf.nameless
    {image own : Model} {inherited : List Model}
    (composed : image.ComposedOf own inherited) :
    image.nameless.ComposedOf own.nameless (inherited.map Model.nameless) where
  name := rfl
  ancestors := rfl
  fields := by
    rw [List.flatMap_map]
    exact composed.fields
  required := by
    intro name
    rw [exists_find?_map_nameless_iff]
    exact composed.required name

/--
A model and its copy in another graph: they declare and require the same and list
the same ancestors, the copy by their new names.
-/
structure CopiedTo (rename : String → String) (model copy : Model) : Prop where
  fields : copy.fields = model.fields
  required : copy.required = model.required
  ancestors : copy.ancestors = model.ancestors.map rename

end Model

namespace ModelGraph

variable {graph other flat flatOther : ModelGraph} {rename : String → String}

/-- A name under its new name in another graph: both are without a model, or one is copied. -/
def Copied (graph other : ModelGraph) (rename : String → String) (name : String) : Prop :=
  Option.Rel (Model.CopiedTo rename) (graph.get? name) (other.get? (rename name))

theorem Copied.map_nameless_of_missing
    {name : String}
    (copied : graph.Copied other rename name)
    (flattens : flat.Flattens graph)
    (flattensOther : flatOther.Flattens other)
    (missing : graph.get? name = none) :
    (flatOther.get? (rename name)).map Model.nameless =
      (flat.get? name).map Model.nameless := by
  rw [Copied, missing] at copied
  cases missingToo : other.get? (rename name) with
  | none =>
      rw [flattens.get?_eq_none_iff.mpr missing, flattensOther.get?_eq_none_iff.mpr missingToo]
  | some copy =>
      rw [missingToo] at copied
      cases copied

theorem Copied.exists_copy
    {name : String} {model : Model}
    (copied : graph.Copied other rename name)
    (stored : graph.get? name = some model) :
    ∃ copy, other.get? (rename name) = some copy ∧ model.CopiedTo rename copy := by
  rw [Copied, stored] at copied
  cases storedToo : other.get? (rename name) with
  | none =>
      rw [storedToo] at copied
      cases copied
  | some copy =>
      rw [storedToo, Option.rel_some_some] at copied
      exact ⟨copy, rfl, copied⟩

/-- Where all that a name leads to is copied, the two flattened models differ in names only. -/
theorem map_nameless_of_copied
    {root : String}
    (flattens : flat.Flattens graph)
    (flattensOther : flatOther.Flattens other)
    (grounded : graph.Grounded root)
    (copied : ∀ name, Relation.ReflTransGen graph.Lists root name →
      graph.Copied other rename name) :
    (flatOther.get? (rename root)).map Model.nameless =
      (flat.get? root).map Model.nameless := by
  induction grounded with
  | intro root _ ih =>
      have here := copied root .refl
      cases known : graph.get? root with
      | none => exact here.map_nameless_of_missing flattens flattensOther known
      | some model =>
          rcases here.exists_copy known with ⟨copy, copyKnown, same⟩
          rcases flattens.composed known with ⟨image, found, composed⟩
          rcases flattensOther.composed copyKnown with ⟨copyImage, copyFound, copyComposed⟩
          have sameSources :
              (copy.ancestors.filterMap flatOther.get?).map Model.nameless =
                (model.ancestors.filterMap flat.get?).map Model.nameless := by
            rw [same.ancestors, List.map_filterMap, List.map_filterMap, List.filterMap_map]
            apply List.filterMap_congr
            intro ancestor listed
            have step : graph.Lists root ancestor := ⟨model, known, listed⟩
            have further : ∀ name, Relation.ReflTransGen graph.Lists ancestor name →
                graph.Copied other rename name :=
              fun name reached => copied name (.head step reached)
            cases stored : graph.get? ancestor with
            | none =>
                exact (further ancestor .refl).map_nameless_of_missing flattens flattensOther
                  stored
            | some parent =>
                exact ih ancestor
                  ⟨model, known, listed, NameMap.contains_iff.mpr ⟨parent, stored⟩⟩ further
          have sameOwn : copy.nameless = model.nameless := by
            rw [Model.nameless, Model.nameless, same.fields, same.required]
          have bare := composed.nameless
          have copyBare := copyComposed.nameless
          rw [sameOwn, sameSources] at copyBare
          rw [found, copyFound, Option.map_some, Option.map_some, copyBare.unique bare]

/--
Two well-keyed graphs are flattened, and all that can be reached from a model of
the first one is copied into the second one under new names.  Then the flattened
model and the flattened copy have the same fields and the same required set.  It
does no harm if several names get one new name.
-/
theorem flattened_copy_agrees
    {flattening flatteningOther : Flattening} {root : String} {model : Model}
    (keyed : graph.WellKeyed)
    (keyedOther : other.WellKeyed)
    (done : graph.flatten = .ok flattening)
    (doneOther : other.flatten = .ok flatteningOther)
    (stored : graph.get? root = some model)
    (copied : ∀ name, Relation.ReflTransGen graph.Lists root name →
      graph.Copied other rename name) :
    ∃ image copyImage,
      flattening.graph.get? root = some image ∧
        flatteningOther.graph.get? (rename root) = some copyImage ∧
        copyImage.fields = image.fields ∧ copyImage.required = image.required := by
  have flattens := flattens_of_flatten keyed done
  have flattensOther := flattens_of_flatten keyedOther doneOther
  have same := map_nameless_of_copied flattens flattensOther
    (grounded_of_flatten keyed done root) copied
  rcases flattens.composed stored with ⟨image, found, _⟩
  rw [found] at same
  rcases Option.map_eq_some_iff.mp same with ⟨copyImage, copyFound, bare⟩
  have sameFields : copyImage.nameless.fields = image.nameless.fields := by rw [bare]
  have sameRequired : copyImage.nameless.required = image.nameless.required := by rw [bare]
  exact ⟨image, copyImage, found, copyFound, sameFields, sameRequired⟩

/-- A cat that inherits from a pet twice and from a name without a model. -/
def household : ModelGraph :=
  ofModels
    [⟨"Cat", [⟨"id", .primitive .string, false⟩], .ofList ["ghost"], ["Pet", "Gone", "Pet"]⟩,
      ⟨"Pet", [⟨"id", .primitive .int64, true⟩, ⟨"owner", .reference "Cat", true⟩],
        .ofList ["id", "owner"], []⟩]

/-- The same household with the names exchanged, and an ant that inherits from both. -/
def exchangedHousehold : ModelGraph :=
  ofModels
    [⟨"Ant", [⟨"owner", .primitive .date, false⟩], .ofList [], ["Cat", "Pet"]⟩,
      ⟨"Cat", [⟨"id", .primitive .int64, true⟩, ⟨"owner", .reference "Cat", true⟩],
        .ofList ["id", "owner"], []⟩,
      ⟨"Pet", [⟨"id", .primitive .string, false⟩], .ofList ["ghost"], ["Cat", "Gone", "Cat"]⟩]

/-- The names of the cat and of the pet, one for the other. -/
def exchanged (name : String) : String :=
  if name = "Cat" then "Pet" else if name = "Pet" then "Cat" else name

/-- Where the cat leads to: itself, the pet, and the name without a model. -/
theorem mem_of_reached_household
    {name : String}
    (reached : Relation.ReflTransGen household.Lists "Cat" name) :
    name ∈ ["Cat", "Pet", "Gone"] := by
  have closed : ∀ heir ∈ ["Cat", "Pet", "Gone"],
      ∀ source ∈ ((household.get? heir).map Model.ancestors).getD [],
        source ∈ ["Cat", "Pet", "Gone"] := by
    decide
  induction reached with
  | refl => exact List.mem_cons_self
  | tail _ step ih =>
      rcases step with ⟨model, found, listed⟩
      apply closed _ ih
      rw [found]
      exact listed

theorem flattened_copy_agrees_household :
    ∃ flattening flatteningOther image copyImage,
      household.WellKeyed ∧ exchangedHousehold.WellKeyed ∧
        household.flatten = .ok flattening ∧
        exchangedHousehold.flatten = .ok flatteningOther ∧
        flattening.graph.get? "Cat" = some image ∧
        flatteningOther.graph.get? "Pet" = some copyImage ∧
        copyImage.fields = image.fields ∧ copyImage.required = image.required := by
  have keyed : household.WellKeyed := by
    decide
  have keyedOther : exchangedHousehold.WellKeyed := by
    decide
  have flattens : household.flatten.isOk = true := by
    decide +kernel
  have flattensOther : exchangedHousehold.flatten.isOk = true := by
    decide +kernel
  rcases exists_of_isOk flattens with ⟨flattening, done⟩
  rcases exists_of_isOk flattensOther with ⟨flatteningOther, doneOther⟩
  have copied : ∀ name, Relation.ReflTransGen household.Lists "Cat" name →
      household.Copied exchangedHousehold exchanged name := by
    intro name reached
    have listed := mem_of_reached_household reached
    simp only [List.mem_cons, List.not_mem_nil, or_false] at listed
    rcases listed with rfl | rfl | rfl
    · exact .some ⟨rfl, rfl, rfl⟩
    · exact .some ⟨rfl, rfl, rfl⟩
    · exact .none
  have found : (household.get? "Cat").isSome = true := by
    decide
  rcases Option.isSome_iff_exists.mp found with ⟨cat, stored⟩
  rcases flattened_copy_agrees keyed keyedOther done doneOther stored copied with
    ⟨image, copyImage, kept, copyKept, same⟩
  exact ⟨flattening, flatteningOther, image, copyImage, keyed, keyedOther, done, doneOther,
    kept, copyKept, same⟩

end ModelGraph

end ModelLineage
