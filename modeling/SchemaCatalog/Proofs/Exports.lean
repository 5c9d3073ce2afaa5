import SchemaCatalog.Export
import SchemaCatalog.Proofs.Likeness

/-! Models survive being exported. A model is written as an object of its fields, and each field passes
its own check again: texts and flags as they are, tags by their names, sets of names as ascending lists.
An exported document has no name twice, so its text spells it. Main statement: the text of an export
is read back as that export, and the models in it as those that were exported.
-/
namespace SchemaCatalog

namespace Check

variable {α : Type} {read : Json → Check α} {members : List (String × Json)}
  {name : String} {value : Json} {fallback : Option α} {result : α}

theorem field_of_lookup (found : members.lookup name = some value) (fine : read value = .ok result) :
    field members name fallback read = .ok result := by
  unfold field
  rw [found]
  dsimp only
  rw [fine]
  rfl

/-- Values written one by one are read back one by one. -/
theorem items_map (make : α → Json) (each : ∀ value, read (make value) = .ok value) (issue : Issue)
    (values : List α) : items issue read (.arr (values.map make)) = .ok values := by
  have all (position : Nat) : itemsFrom read position (values.map make) = .ok values := by
    induction values generalizing position with
    | nil => rfl
    | cons value values ih =>
      rw [List.map_cons, itemsFrom, each, ih]
      rfl
  exact all 0

theorem items_texts (issue : Issue) (texts : List String) :
    items issue text (.arr (texts.map .str)) = .ok texts := items_map .str (fun _ => rfl) issue texts

theorem name_str {text : String} (filled : text ≠ "") : Check.name (.str text) = .ok ⟨text, filled⟩ := by
  rw [Check.name, dif_pos filled]

theorem optionalText_ofText? (text : Option String) : optionalText (.ofText? text) = .ok text := by
  cases text <;> rfl

end Check

theorem Property.checkTag_name (tag : Tag) : checkTag (.str tag.name) = .ok tag := by
  rw [checkTag, Tag.ofName?_name]

theorem Property.check_toJson (property : Property) : Property.check property.toJson = .ok property := by
  have name : Check.field property.members "name" none Check.name =
      .ok ⟨property.name, property.named⟩ := Check.field_of_lookup rfl (Check.name_str property.named)
  have tag : Check.field property.members "tag" none checkTag = .ok property.tag :=
    Check.field_of_lookup rfl (checkTag_name property.tag)
  have optional : Check.field property.members "optional" (some true) Check.flag =
      .ok property.optional := Check.field_of_lookup rfl rfl
  have description : Check.field property.members "description" (some none) Check.optionalText =
      .ok property.description := Check.field_of_lookup rfl (Check.optionalText_ofText? _)
  have modelName : Check.field property.members "object_model_name" (some none) Check.optionalText =
      .ok property.modelName := Check.field_of_lookup rfl (Check.optionalText_ofText? _)
  have elementTypes : Check.field property.members "collection_element_types" (some [])
      (Check.items .notList Check.text) = .ok property.elementTypes :=
    Check.field_of_lookup rfl (Check.items_texts _ _)
  have hasProperties : Check.field property.members "has_properties" (some false) Check.flag =
      .ok property.hasProperties := Check.field_of_lookup rfl rfl
  have others : Check.noOthers fieldNames property.members = .ok () := rfl
  rw [toJson, check]
  dsimp only
  rw [name, tag, optional, description, modelName, elementTypes, hasProperties, others]
  rfl

theorem Model.check_toJson (model : Model) : Model.check model.toJson = .ok model := by
  have name := Check.name_str model.named
  have properties := Check.items_map _ Property.check_toJson .notList model.properties
  have dependencies := Check.items_texts .notSet model.dependencies.toList
  rw [toJson, check]
  dsimp only
  rw [Check.field_of_lookup rfl name, Check.field_of_lookup rfl properties,
    Check.field_of_lookup rfl dependencies]
  change Except.ok (Model.mk _ _ (NameSet.ofList model.dependencies.toList) _) = _
  rw [NameSet.ofList_toList]

theorem Model.ofJson_toJson (model : Model) : Model.ofJson model.toJson = .ok model := by
  rw [ofJson, check_toJson]
  rfl

namespace Json

theorem distinct_items {α : Type} (make : α → Json) (each : ∀ value, (make value).Distinct)
    (values : List α) : (arr (values.map make)).Distinct := by
  refine itemsDistinct_iff.mpr fun item inside => ?_
  obtain ⟨value, -, rfl⟩ := List.mem_map.mp inside
  exact each value

theorem distinct_ofText? (text : Option String) : (ofText? text).Distinct := by
  cases text <;> trivial

end Json

theorem Property.distinct_toJson (property : Property) : property.toJson.Distinct := by
  have elementTypes := Json.distinct_items .str (fun _ => trivial) property.elementTypes
  have names : property.members.map (·.1) = fieldNames := rfl
  have unique : (property.members.map (·.1)).Nodup := names ▸ by decide
  exact ⟨unique, trivial, trivial, trivial, Json.distinct_ofText? _, Json.distinct_ofText? _,
    elementTypes, trivial, trivial⟩

theorem Model.distinct_toJson (model : Model) : model.toJson.Distinct := by
  have properties := Json.distinct_items _ Property.distinct_toJson model.properties
  have dependencies := Json.distinct_items .str (fun _ => trivial) model.dependencies.toList
  have unique : fieldNames.Nodup := by decide
  exact ⟨unique, trivial, properties, dependencies, trivial⟩

namespace Export

/-- An export is read back from its text, and every model from its place in the export. -/
theorem exports_read_back (models : List Model) :
    Json.parse? (text (payload models)) = some (payload models) ∧
      ∃ entries, (payload models).member? "models" = .ok (some (.arr entries)) ∧
        List.Forall₂ (fun entry model => Model.ofJson entry = .ok model) entries models := by
  have distinct : (payload models).Distinct :=
    ⟨List.pairwise_singleton _ _, Json.distinct_items _ Model.distinct_toJson models, trivial⟩
  refine ⟨Json.parse?_render .indented distinct, models.map Model.toJson, rfl, ?_⟩
  rw [List.forall₂_map_left_iff]
  exact List.forall₂_same.mpr fun model _ => model.ofJson_toJson

end Export

end SchemaCatalog
