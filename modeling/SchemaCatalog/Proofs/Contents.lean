import SchemaCatalog.Proofs.Collision

/-! What is in the models of a document. Each was built for a schema that was reached, so it can be read
off that schema. Main statements: lists name models and scalars, but for the types of objects and of
lists where these are written down by name; and properties are told apart by their names exactly where
the keys of the schema are.
-/
namespace SchemaCatalog

namespace Resolver

variable {resolver : Resolver} {site : Site} {progress : Progress} {registry next : Registry}
  {enclosing : List String} {model : Model} {models : List (String × Model)} {key name : String}

def Built (resolver : Resolver) (progress : Progress) : Prop :=
  ∀ slot ∈ progress.registry.slots, ∀ model ∈ slot.model, ∃ site, progress.Reached site ∧
    resolver.nameOf site = slot.name ∧ (resolver.model site).outcome = .ok model

theorem Built.later {other : Progress} (built : resolver.Built progress)
    (suffix : progress.events <:+ other.events) (same : other.registry = progress.registry) :
    resolver.Built other := by
  intro slot inside model held
  obtain ⟨site, reached, known⟩ := built slot (same ▸ inside) model held
  exact ⟨site, reached.later suffix, known⟩

theorem Built.noting (built : resolver.Built progress) (event : Event) :
    resolver.Built (progress.noting event) :=
  built.later (List.suffix_cons _ _) rfl

theorem Built.failing (built : resolver.Built progress) (failure : Failure) :
    resolver.Built (progress.failing failure) :=
  built.later (progress.events_failing failure) (progress.registry_failing failure)

theorem Built.enter (built : resolver.Built progress)
    (claimed : resolver.claim site progress.registry = .ok (true, registry)) :
    resolver.Built (resolver.entered site enclosing progress registry) := by
  intro slot inside model held
  have inside : slot ∈ registry.slots := inside
  rw [(Registry.reserve_new claimed).2] at inside
  rcases List.mem_append.mp inside with old | new
  · obtain ⟨other, reached, known⟩ := built slot old model held
    exact ⟨other, reached.later (List.suffix_append [_, _] _), known⟩
  · cases List.mem_singleton.mp new
    cases held

theorem Built.store (built : resolver.Built progress) (reached : progress.Reached site)
    (made : (resolver.model site).outcome = .ok model)
    (stored : progress.registry.store model = .ok next) :
    resolver.Built ({ progress with registry := next }.noting (.stored model)) := by
  intro slot inside other held
  have inside : slot ∈ next.slots := inside
  rw [(Registry.store_ok stored).2] at inside
  obtain ⟨old, member, rfl⟩ := List.mem_map.mp inside
  split at held
  next same =>
    cases held
    refine ⟨site, reached.later (List.suffix_cons _ _), ?_, made⟩
    rw [if_pos same]
    exact (name_of_model made).symm.trans same.symm
  next different =>
    obtain ⟨known, there, named, made⟩ := built old member other held
    rw [if_neg different]
    exact ⟨known, there.later (List.suffix_cons _ _), named, made⟩

end Resolver

theorem Walk.built {resolver : Resolver} {budget : Nat} {enclosing : List String} {acts : List Act}
    {progress final : Progress} {outcome : Except Failure Unit}
    (walk : Walk resolver budget enclosing acts progress outcome final)
    (before : resolver.Built progress) : resolver.Built final := by
  induction walk with
  | done => exact before
  | note _ ih => exact ih (before.noting _)
  | exhausted => exact before
  | collided => exact (before.noting _).failing _
  | reused _ _ ih => exact ih (before.noting _)
  | failed claimed _ ih => exact ih (before.enter claimed)
  | unfinished claimed _ _ ih => exact (ih (before.enter claimed)).failing _
  | unstored claimed _ _ _ ih => exact (ih (before.enter claimed)).failing _
  | stored claimed inner made kept _ ih ihRest =>
    have reached := (Resolver.reached_entered _ _).later inner.events_suffix
    exact ihRest ((ih (before.enter claimed)).store reached made kept)

namespace Resolver

variable {resolver : Resolver} {site : Site} {model : Model} {models : List (String × Model)}
  {key name : String} {final : Progress}

theorem site_of_resolve (ok : resolver.resolve.run {} = (.ok models, final))
    (stored : (key, model) ∈ models) : ∃ site, final.Reached site ∧ resolver.Placed site ∧
      resolver.nameOf site = key ∧ (resolver.model site).outcome = .ok model := by
  obtain ⟨-, placed⟩ := settled_of_resolve ok
  obtain ⟨middle, walk, -, frozen, rfl⟩ := resolveWithin_ok.mp ok
  have built : resolver.Built middle := walk.built fun _ inside => nomatch inside
  obtain ⟨slot, inside, rfl, held⟩ := ((Registry.freeze_ok frozen).2.2 key model).mp stored
  obtain ⟨site, reached, named, made⟩ := built slot inside model held
  refine ⟨site, reached.later (List.suffix_cons _ _), ?_, named, made⟩
  obtain ⟨calls, event⟩ := reached
  exact (placed site calls (List.mem_cons_of_mem _ event)).1

/-- What the elements of a list are called has a model, or stands in a schema of the document. -/
theorem modelless_of_placed (placed : resolver.Placed site)
    (built : (resolver.model site).outcome = .ok model) {property : Property}
    (member : property ∈ model.properties) (listed : name ∈ property.elementTypes) :
    ∃ list ∈ resolver.document.values,
      resolver.AccountedBy (Modelless list) (resolver.model site).visits name := by
  obtain ⟨required, key, entry, declared, made, below⟩ := declared_of_model built member
  obtain ⟨finding, found, known⟩ := listed_of_property made
  refine ⟨finding.reference.schema, ?_, (known name listed).mono below id⟩
  exact mem_values_of_inspect found (mem_values_of_declares declared placed.2)

/-- Whatever the elements of a list or the dependencies of a model name is a model or a scalar, or a
type of objects or of lists that stands by name beside another type in the items of a list. -/
theorem names_listed {document : Json} {settings : Settings}
    (ok : Resolver.models document settings = .ok models) : ∀ key model, (key, model) ∈ models →
      ∀ name, (name ∈ model.dependencies ∨ ∃ property ∈ model.properties, name ∈ property.elementTypes) →
        name ∈ models.map (·.1) ∨ Tag.IsScalarName name ∨
          ∃ list ∈ document.values, ∃ items, list.member? "items" = .ok (some items) ∧
            items.Abbreviates name := by
  obtain ⟨resolver, known, ok⟩ := Failure.bind_eq_ok.mp ok
  cases ofDocument_ok known
  obtain ⟨settled, -⟩ := settled_of_resolve (Prod.ext ok rfl)
  intro key model stored name given
  obtain ⟨site, placed, -, -, built, visited⟩ := settled.origin stored
  have listed : ∀ property ∈ model.properties, name ∈ property.elementTypes →
      name ∈ models.map (·.1) ∨ Tag.IsScalarName name ∨
        ∃ list ∈ document.values, ∃ items, list.member? "items" = .ok (some items) ∧
          items.Abbreviates name := by
    intro property member listed
    obtain ⟨list, written, ⟨child, below, rfl⟩ | scalar | short⟩ :=
      modelless_of_placed placed built member listed
    · exact .inl (settled.mem_names (visited child below))
    · exact .inr (.inl scalar)
    · exact .inr (.inr ⟨list, written, short⟩)
  rcases given with depends | ⟨property, member, inside⟩
  · obtain ⟨_, _, _, _, _, _, dependencies⟩ := model_ok.mp built
    rw [dependencies, NameSet.mem_ofList] at depends
    obtain ⟨property, member, depends⟩ := List.mem_flatMap.mp depends
    rcases List.mem_append.mp depends with own | inside
    · obtain ⟨_, _, _, made, below⟩ := property_of_model built member
      obtain ⟨child, inner, rfl⟩ := modelName_of_property made name (by simpa using own)
      exact .inl (settled.mem_names (visited child (below child inner)))
    · exact listed property member inside
  · exact listed property member inside

/-- Texts and objects in one list, told by the names of their types. -/
def mixedDocument : Json := .obj [
  ("type", .str "object"),
  ("properties", .obj [
    ("mixed", .obj [("type", .str "array"), ("items", .arr [.str "string", .str "object"])])])]

theorem names_listed_mixed : ∃ models key model, Resolver.models mixedDocument {} = .ok models ∧
    (key, model) ∈ models ∧ "object" ∈ model.dependencies ∧
      ("object" ∈ models.map (·.1) ∨ Tag.IsScalarName "object" ∨
        ∃ list ∈ mixedDocument.values, ∃ items, list.member? "items" = .ok (some items) ∧
          items.Abbreviates "object") := by
  have checked : ((Resolver.models mixedDocument {}).toOption.any fun models =>
      models.any fun entry => entry.2.dependencies.toList.contains "object") = true := by
    decide +kernel
  cases ok : Resolver.models mixedDocument {} with
  | error failure =>
    rw [ok] at checked
    cases checked
  | ok models =>
    rw [ok] at checked
    obtain ⟨⟨key, model⟩, inside, depends⟩ := List.any_eq_true.mp checked
    have depends : "object" ∈ model.dependencies := List.contains_iff_mem.mp depends
    exact ⟨models, key, model, rfl, inside, depends, names_listed ok key model inside _ (.inl depends)⟩

/-- The type of objects is listed, and depended on, where it stands by name beside another. -/
theorem object_listed : ∃ models key model property,
    Resolver.models mixedDocument {} = .ok models ∧ (key, model) ∈ models ∧
      property ∈ model.properties ∧ "object" ∈ property.elementTypes ∧ "object" ∈ model.dependencies ∧
      "object" ∉ models.map (·.1) ∧ ¬ Tag.IsScalarName "object" := by
  have checked : ((Resolver.models mixedDocument {}).toOption.any fun models =>
      !(models.map (·.1)).contains "object" && models.any fun entry =>
        entry.2.dependencies.toList.contains "object" &&
          entry.2.properties.any fun property => property.elementTypes.contains "object") = true := by
    decide +kernel
  cases ok : Resolver.models mixedDocument {} with
  | error failure =>
    rw [ok] at checked
    cases checked
  | ok models =>
    rw [ok] at checked
    obtain ⟨unknown, checked⟩ := Bool.and_eq_true_iff.mp checked
    obtain ⟨⟨key, model⟩, inside, checked⟩ := List.any_eq_true.mp checked
    obtain ⟨depends, checked⟩ := Bool.and_eq_true_iff.mp checked
    obtain ⟨property, member, listed⟩ := List.any_eq_true.mp checked
    refine ⟨models, key, model, property, rfl, inside, member, List.contains_iff_mem.mp listed,
      List.contains_iff_mem.mp depends, by simpa using unknown, ?_⟩
    rintro ⟨tag, named, different, -⟩
    have named : tag.name = Tag.object.name := named
    exact different (Tag.eq_of_name named)

end Resolver

namespace Model

variable {model : Model} {property : Property}

/-- Where no two properties have one name, each is found by its own. -/
theorem property?_of_mem (distinct : model.propertyNames.Nodup) (inside : property ∈ model.properties) :
    model.property? property.name = some property := by
  unfold property?
  cases found : model.properties.find? (·.name == property.name) with
  | none => exact absurd (beq_self_eq_true _) (List.find?_eq_none.mp found property inside)
  | some other =>
    have same : other.name = property.name := by simpa using List.find?_some found
    have listed := List.mem_of_find?_eq_some found
    exact congrArg some (List.inj_on_of_nodup_map distinct listed inside same)

/-- Properties with the names of some entries have distinct names where these have. -/
theorem nodup_propertyNames {settings : Settings} {entries : List (String × Json)}
    (named : List.Forall₂ (fun entry property =>
      settings.propertyName entry.1 entry.2 = .ok property.name) entries model.properties) :
    model.propertyNames.Nodup ↔ entries.Pairwise fun one other =>
      settings.propertyName one.1 one.2 ≠ settings.propertyName other.1 other.2 := by
  have same : entries.map (fun entry => settings.propertyName entry.1 entry.2) =
      model.propertyNames.map Except.ok := by
    rw [propertyNames, List.map_map]
    exact map_eq_of_forall₂ named fun _ _ => id
  have injective : Function.Injective (Except.ok : String → Except Failure String) :=
    fun _ _ => Except.ok.inj
  rw [← List.nodup_map_iff injective, ← same, List.Nodup, List.pairwise_map]

end Model

namespace Resolver

variable {resolver : Resolver} {models : List (String × Model)} {final : Progress}

/-- A model has one property for each key of the schema that it was built for, in order and under the
name that the key comes to. The properties are told apart by their names exactly where the keys are,
and then each of them is found by its name. -/
theorem property_names_distinct (ok : resolver.resolve.run {} = (.ok models, final)) :
    ∀ key model, (key, model) ∈ models → ∃ site entries, final.Reached site ∧
      resolver.nameOf site = key ∧ (resolver.model site).outcome = .ok model ∧
      propertiesOf site.schema = .ok entries ∧
      List.Forall₂ (fun entry property =>
        resolver.settings.propertyName entry.1 entry.2 = .ok property.name) entries model.properties ∧
      (model.propertyNames.Nodup ↔ entries.Pairwise fun one other =>
        resolver.settings.propertyName one.1 one.2 ≠ resolver.settings.propertyName other.1 other.2) ∧
      (model.propertyNames.Nodup → ∀ property ∈ model.properties,
        model.property? property.name = some property) := by
  intro key model stored
  obtain ⟨site, reached, -, named, made⟩ := site_of_resolve ok stored
  obtain ⟨required, entries, -, declared, built, -⟩ := model_ok.mp made
  have names : List.Forall₂ (fun entry property =>
      resolver.settings.propertyName entry.1 entry.2 = .ok property.name) entries model.properties := by
    refine built.imp fun entry property known => ?_
    obtain ⟨-, finding, elements, -, -, -, described⟩ := property_ok.mp known
    exact (described_ok.mp described).1
  exact ⟨site, entries, reached, named, made, declared, names, Model.nodup_propertyNames names,
    fun distinct _ => Model.property?_of_mem distinct⟩

theorem property_names_distinct_linked : ∃ models final,
    (Resolver.mk linkedDocument {}).resolve.run {} = (.ok models, final) ∧
      ∃ key model, (key, model) ∈ models ∧ model.propertyNames = ["next", "others"] ∧
        ∀ property ∈ model.properties, model.property? property.name = some property := by
  have checked : (((Resolver.mk linkedDocument {}).resolve.run {}).1.toOption.any fun models =>
      models.any fun entry => entry.2.propertyNames == ["next", "others"]) = true := by decide +kernel
  rcases ran : (Resolver.mk linkedDocument {}).resolve.run {} with ⟨failure | models, final⟩
  · rw [ran] at checked
    cases checked
  · rw [ran] at checked
    obtain ⟨⟨key, model⟩, stored, known⟩ := List.any_eq_true.mp checked
    have names : model.propertyNames = ["next", "others"] := beq_iff_eq.mp known
    obtain ⟨site, entries, -, -, -, -, -, -, found⟩ := property_names_distinct ran key model stored
    refine ⟨models, final, rfl, key, model, stored, names, found ?_⟩
    rw [names]
    decide

/-- Keys that come to one name in camel case. -/
def namesakeDocument : Json := .obj [
  ("type", .str "object"),
  ("properties", .obj [
    ("a_b", .obj [("type", .str "string")]), ("aB", .obj [("type", .str "integer")])])]

/-- Two keys may come to one name, and then the second property is not found by it. -/
theorem property_names_shared : ∃ models key model property,
    Resolver.models namesakeDocument {} = .ok models ∧ (key, model) ∈ models ∧
      property ∈ model.properties ∧ ¬ model.propertyNames.Nodup ∧
      model.property? property.name ≠ some property := by
  have checked : ((Resolver.models namesakeDocument {}).toOption.any fun models =>
      models.any fun entry => entry.2.propertyNames == ["aB", "aB"] &&
        entry.2.properties.any fun property =>
          decide (entry.2.property? property.name ≠ some property)) = true := by decide +kernel
  cases ok : Resolver.models namesakeDocument {} with
  | error failure =>
    rw [ok] at checked
    cases checked
  | ok models =>
    rw [ok] at checked
    obtain ⟨⟨key, model⟩, inside, checked⟩ := List.any_eq_true.mp checked
    obtain ⟨known, checked⟩ := Bool.and_eq_true_iff.mp checked
    obtain ⟨property, member, different⟩ := List.any_eq_true.mp checked
    have names : model.propertyNames = ["aB", "aB"] := beq_iff_eq.mp known
    refine ⟨models, key, model, property, rfl, inside, member, ?_, of_decide_eq_true different⟩
    rw [names]
    decide

end Resolver

end SchemaCatalog
