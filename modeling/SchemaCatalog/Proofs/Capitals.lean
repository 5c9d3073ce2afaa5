import SchemaCatalog.Proofs.Contents
import SchemaCatalog.Proofs.Settings
import SchemaCatalog.Proofs.Transparency

/-! Names of models and names of tags. Whatever a model is named after is put into capitals first, so that
its base name is empty or does not begin with a small letter; tags begin with one. What keeps them
apart is the suffix, unless it is left out. Main statement: with given settings the name of a tag
can be the name of a model exactly if some base name in capitals makes it so.
-/
namespace SchemaCatalog

/-- A text that does not begin with a small letter of ASCII. It may be empty. -/
def Capitalized (text : String) : Prop := ∀ first ∈ text.toList.head?, first.isLower = false

theorem Capitalized.append {text more : String} (capital : Capitalized text)
    (capital' : Capitalized more) : Capitalized (text ++ more) := by
  unfold Capitalized at *
  rw [String.toList_append]
  cases split : text.toList with
  | nil => exact capital'
  | cons first rest =>
    rw [split] at capital
    exact capital

namespace Casing

theorem letter_of_code : ∀ code < 128, (Char.ofNat code).isAlpha = true →
    isSeparator (Char.ofNat code) = false ∧
      ((Char.ofNat code).isLower = false ↔ (Char.ofNat code).toUpper = Char.ofNat code) := by
  decide +kernel

theorem letter {c : Char} (alpha : c.isAlpha = true) :
    isSeparator c = false ∧ (c.isLower = false ↔ Unicode.upper c = [c]) := by
  have ascii : c.toNat < 128 := by
    apply Check.lt_of_isWordChar
    have alphanumeric : c.isAlphanum = true := Bool.or_eq_true_iff.mpr (.inl alpha)
    exact Bool.or_eq_true_iff.mpr (.inl alphanumeric)
  have known := letter_of_code c.toNat ascii
  rw [Char.ofNat_toNat] at known
  simpa [Unicode.upper_ascii ascii] using known alpha

/-- No small letter is its own upper case. -/
theorem isLower_of_upper {c : Char} (large : Unicode.upper c = [c]) : c.isLower = false := by
  by_cases alpha : c.isAlpha = true
  · exact (letter alpha).2.mpr large
  · rw [Bool.eq_false_iff]
    intro lower
    exact alpha (Bool.or_eq_true_iff.mpr (.inr lower))

theorem capitalized_capitalize (text : String) : Capitalized (capitalize text) := by
  intro first begins
  rw [toList_capitalize] at begins
  exact isLower_of_upper (upper_head_joined first begins)

/-- A word that begins with a capital letter is in capitals already. -/
theorem capitalize_word {text : String} (word : ∀ c ∈ text.toList, c.isAlpha = true)
    (capital : Capitalized text) : capitalize text = text := by
  have plain : ∀ c ∈ text.toList, isSeparator c = false := fun c inside => (letter (word c inside)).1
  have large : ∀ c ∈ text.toList.head?, Unicode.upper c = [c] := by
    intro c first
    exact (letter (word c (List.mem_of_mem_head? first))).2.mp (capital c first)
  rw [capitalize, joined_of_upper plain large, String.ofList_toList]

end Casing

theorem Tag.word (tag : Tag) : ∀ c ∈ tag.name.toList, c.isAlpha = true := by
  rw [← List.all_eq_true]
  cases tag <;> decide

/-- Settings that are accepted have the name of the root in capitals. -/
theorem Settings.capitalized_rootName {data : Json} {settings : Settings}
    (accepted : ofJson data = .ok settings) : Capitalized settings.rootName := by
  rw [← (accepted_of_ofJson accepted).capital]
  exact Casing.capitalized_capitalize settings.rootName

namespace Resolver

variable {resolver : Resolver} {site : Site} {raw : Json} {parent key : String}
  {position : Option Int}

theorem capitalized_pathBase (capital : Capitalized parent) :
    Capitalized (Settings.pathBase parent key position) := by
  refine (capital.append (Casing.capitalized_capitalize key)).append ?_
  cases position with
  | none => nofun
  | some position =>
    intro first inside
    rw [String.toList_append] at inside
    cases inside
    rfl

theorem capitalized_given {given : Option String} {otherwise : String}
    (capital : Capitalized otherwise) :
    Capitalized ((given.map Casing.capitalize).getD otherwise) := by
  cases given with
  | none => exact capital
  | some name => exact Casing.capitalized_capitalize name

theorem Found.capitalized (found : resolver.Found raw parent key position site)
    (capital : Capitalized parent) : Capitalized site.base := by
  obtain ⟨finding, -, -, -, based⟩ := found
  obtain ⟨own, -, based⟩ := nestedBase_ok.mp based
  rw [based]
  exact capitalized_given (capitalized_pathBase capital)

theorem stable_capitalized (resolver : Resolver) :
    resolver.Stable fun site => Capitalized site.base := by
  intro site capital child inside
  cases child_of_mem_visits inside with
  | value declared found => exact found.capitalized capital
  | element declared behind list listing offered found => exact found.capitalized capital

theorem capitalized_of_start (capital : Capitalized resolver.settings.rootName) :
    ∀ site, Act.visit site ∈ resolver.root.acts → Capitalized site.base := by
  intro site inside
  have rooted {schema : Json} {reference : Option String} {base : String}
      (named : resolver.settings.rootBase schema reference = .ok base) : Capitalized base := by
    obtain ⟨own, -, rfl⟩ := rootBase_ok.mp named
    exact capitalized_given capital
  cases start_of_mem_visits (Script.mem_visits.mpr inside) with
  | whole found modelled named => exact rooted named
  | element found named listing offered placed => exact placed.capitalized (rooted named)

/-- A resolution that starts from one site, and finds nothing below, comes to the model of that site. -/
theorem resolve_of_childless {model : Model} (root : resolver.root.outcome = .ok ())
    (start : resolver.root.visits = [site]) (built : (resolver.model site).outcome = .ok model)
    (childless : (resolver.model site).visits = []) :
    ∃ final, resolver.resolve.run {} = (.ok [(resolver.nameOf site, model)], final) := by
  obtain ⟨budget, enough⟩ : ∃ budget, resolver.budget = budget + 1 :=
    Nat.exists_eq_succ_of_ne_zero (by simp [Resolver.budget])
  obtain ⟨middle, rest, empty, later, walks⟩ := Walk.before_visit start (resolver.started {})
  have claimed : resolver.claim site middle.registry =
      .ok (true, ⟨[⟨resolver.nameOf site, site.schema.fingerprint, none⟩]⟩) := by
    rw [empty]
    exact Registry.reserve_free List.not_mem_nil
  obtain ⟨inner, same, inside⟩ := Walk.of_visitless childless
    (resolver.entered site [] middle ⟨[⟨resolver.nameOf site, site.schema.fingerprint, none⟩]⟩)
  have named := name_of_model built
  have kept : inner.registry.store model =
      .ok ⟨[⟨resolver.nameOf site, site.schema.fingerprint, some model⟩]⟩ := by
    rw [same]
    simp [Resolver.entered, Registry.store, Registry.slot?, named]
  obtain ⟨last, same, after⟩ :=
    Walk.of_visitless later ({ inner with registry := _ }.noting (.stored model))
  refine ⟨_, resolveWithin_ok.mpr ⟨last, ?_, root, ?_, rfl⟩⟩
  · rw [enough]
    exact walks (.stored claimed inside built kept after)
  · rw [same]
    rfl

section

open Definitions

def plainEntry : Json := .obj [("type", .arr [.str "string"])]

def plainSchema : Json := .obj [
  ("type", .arr [.str "object"]),
  ("properties", .obj [("x", plainEntry)])]

def namingDocument (name : String) : Json := .obj [
  ("$ref", .str (pointer ++ name)),
  ("definitions", .obj [(name, plainSchema)])]

theorem override?_of_textless {settings : Settings} {members : List (String × Json)}
    (textless : ∀ name text, (name, Json.str text) ∉ members) :
    settings.override? (.obj members) = .ok none := by
  unfold Settings.override?
  rw [Json.member?]
  cases found : members.lookup settings.overrideKey with
  | none => rfl
  | some value =>
    cases value with
    | str text => exact absurd (Json.mem_of_lookup found) (textless _ _)
    | _ => rfl

theorem model_plainSchema {base path : String} (named : resolver.settings.modelName base ≠ "") :
    ∃ model, (resolver.model ⟨plainSchema, base, path⟩).outcome = .ok model ∧
      (resolver.model ⟨plainSchema, base, path⟩).visits = [] := by
  have found (path : String) : (resolver.inspect plainEntry path).outcome =
      .ok ⟨⟨plainEntry, []⟩, ⟨.string, false⟩, false⟩ :=
    inspect_ok.mpr ⟨Definitions.resolve_of_plain rfl _, rfl⟩
  have declared : propertiesOf plainSchema = .ok [("x", plainEntry)] := rfl
  refine ⟨⟨_, [⟨"x", .string, true, none, none, [], false, by decide⟩], .ofList [], named⟩, ?_, ?_⟩
  · have own : resolver.settings.propertyName "x" plainEntry = .ok "x" :=
      Failure.bind_eq_ok.mpr ⟨none, override?_of_textless (by simp), rfl⟩
    refine model_ok.mpr ⟨[], _, rfl, declared, .cons ?_ .nil, rfl, rfl⟩
    exact property_ok.mpr ⟨rfl, _, {}, found _, rfl, rfl,
      described_ok.mpr ⟨own, rfl, rfl, rfl, rfl, rfl, rfl⟩⟩
  · refine List.eq_nil_iff_forall_not_mem.mpr fun child inside => ?_
    cases child_of_mem_visits inside with
    | value declares below =>
      obtain ⟨_, known, listed⟩ := declares
      cases declared.symm.trans known
      cases List.mem_singleton.mp listed
      obtain ⟨finding, behind, modelled, -⟩ := below
      cases (found _).symm.trans behind
      cases modelled
    | element declares behind list =>
      obtain ⟨_, known, listed⟩ := declares
      cases declared.symm.trans known
      cases List.mem_singleton.mp listed
      cases (found _).symm.trans behind
      cases list

/-- Whatever name in capitals a definition has, a document that refers to it has one model of that name. -/
theorem models_namingDocument (settings : Settings) {name : String} (filled : name ≠ "")
    (named : settings.modelName (Casing.capitalize name) ≠ "") :
    ∃ model, models (namingDocument name) settings =
      .ok [(settings.modelName (Casing.capitalize name), model)] := by
  have resolved : (Definitions.table [(name, plainSchema)]).resolve (namingDocument name) (some "#") =
      .ok ⟨plainSchema, [name]⟩ :=
    resolve_of_reference ⟨filled, rfl⟩ List.lookup_cons_self rfl rfl _
  have found : (inspect ⟨namingDocument name, settings⟩ (namingDocument name) "#").outcome =
      .ok ⟨⟨plainSchema, [name]⟩, ⟨.object, false⟩, true⟩ :=
    inspect_ok.mpr ⟨resolved, rfl⟩
  have based : settings.rootBase plainSchema (some name) = .ok (Casing.capitalize name) :=
    rootBase_ok.mpr ⟨none, override?_of_textless (by simp), rfl⟩
  obtain ⟨model, built, childless⟩ :=
    @model_plainSchema ⟨namingDocument name, settings⟩ (Casing.capitalize name) "#" named
  obtain ⟨final, ok⟩ := resolve_of_childless (root_ok.mpr ⟨_, _, found, based, rfl⟩)
    (visits_root found based) built childless
  exact ⟨model, congrArg Prod.fst ok⟩

end

/-- With settings that are accepted, the name of a tag is the name of a model for some document exactly
if prefix and suffix make it out of a base name that is empty or does not begin with a small letter. -/
theorem tag_names_model {data : Json} {settings : Settings}
    (accepted : Settings.ofJson data = .ok settings) (tag : Tag) :
    (∃ document found model, models document settings = .ok found ∧ (tag.name, model) ∈ found) ↔
      ∃ base, Capitalized base ∧ settings.modelName base = tag.name := by
  constructor
  · rintro ⟨document, found, model, ok, stored⟩
    obtain ⟨resolver, made, ok⟩ := Failure.bind_eq_ok.mp ok
    obtain rfl := ofDocument_ok made
    have ok : (resolve ⟨document, settings⟩).run {} = (.ok found, _) := Prod.ext ok rfl
    obtain ⟨site, ⟨calls, event⟩, -, named, -⟩ := site_of_resolve ok stored
    have start : ∀ site, Act.visit site ∈ (root ⟨document, settings⟩).acts → Capitalized site.base :=
      capitalized_of_start (Settings.capitalized_rootName accepted)
    have capital := (reached_of_resolve ok (stable_capitalized _) start site calls event).1
    exact ⟨site.base, capital, named⟩
  · rintro ⟨base, capital, named⟩
    have word : ∀ c ∈ base.toList, c.isAlpha = true := by
      intro c inside
      apply tag.word
      rw [← named, Settings.modelName, String.toList_append, String.toList_append]
      exact List.mem_append_left _ (List.mem_append_right _ inside)
    obtain ⟨name, filled, same⟩ : ∃ name, name ≠ "" ∧ Casing.capitalize name = base := by
      by_cases empty : base = ""
      · exact ⟨"_", by decide, empty ▸ by decide⟩
      · exact ⟨base, empty, Casing.capitalize_word word capital⟩
    have some : settings.modelName (Casing.capitalize name) ≠ "" := by
      rw [same, named]
      cases tag <;> decide
    obtain ⟨model, ok⟩ := models_namingDocument settings filled some
    rw [same, named] at ok
    exact ⟨_, _, model, ok, List.mem_cons_self⟩

/-- Without a suffix a prefix may be the better part of a tag, or all of it. -/
theorem tag_names_model_signed : ∃ settings,
    Settings.ofJson (.obj [("class_prefix", .str "signed"), ("model_suffix", .str "")]) = .ok settings ∧
    (∃ document found model, models document settings = .ok found ∧ ("signedInt", model) ∈ found) ∧
    ¬ ∃ document found model, models document settings = .ok found ∧ ("string", model) ∈ found := by
  have accepted : Settings.ofJson (.obj [("class_prefix", .str "signed"), ("model_suffix", .str "")]) =
      .ok { classPrefix := "signed", modelSuffix := "" } := by decide +kernel
  refine ⟨_, accepted, (tag_names_model accepted .signedInt).mpr ⟨"Int", ?_, by decide⟩, ?_⟩
  · rintro _ ⟨⟩
    rfl
  · rw [show "string" = Tag.string.name from rfl, tag_names_model accepted .string]
    rintro ⟨base, -, named⟩
    have begins := congrArg (fun name : String => name.toList.take 3) named
    rw [Settings.modelName, String.toList_append, String.toList_append] at begins
    cases begins

def mistakableDocument : Json := .obj [
  ("$ref", .str "#/definitions/_"),
  ("definitions", .obj [("_", .obj [
    ("type", .str "object"),
    ("properties", .obj [("x", .obj [
      ("type", .str "array"),
      ("items", .arr [.str "string", .obj [("$ref", .str "#/definitions/_")]])])])])])]

/-- A model may be called like a tag, and both be listed as what a list may hold. -/
theorem tag_mistaken : ∃ settings found model,
    Settings.ofJson (.obj [("class_prefix", .str "string"), ("model_suffix", .str "")]) = .ok settings ∧
    models mistakableDocument settings = .ok found ∧ (Tag.string.name, model) ∈ found ∧
    model.properties.map Property.elementTypes = [[Tag.string.name, model.name]] ∧
    model.name = Tag.string.name := by
  have accepted : Settings.ofJson (.obj [("class_prefix", .str "string"), ("model_suffix", .str "")]) =
      .ok { classPrefix := "string", modelSuffix := "" } := by decide +kernel
  have checked : (models mistakableDocument { classPrefix := "string", modelSuffix := "" }).toOption.any
      (fun found => found.any fun entry => entry.1 == Tag.string.name &&
        entry.2.properties.map Property.elementTypes == [[Tag.string.name, entry.2.name]] &&
        entry.2.name == Tag.string.name) = true := by decide +kernel
  cases ok : models mistakableDocument { classPrefix := "string", modelSuffix := "" } with
  | error failure =>
    rw [ok] at checked
    cases checked
  | ok found =>
    rw [ok] at checked
    obtain ⟨⟨key, model⟩, stored, checked⟩ := List.any_eq_true.mp checked
    simp only [Bool.and_eq_true, beq_iff_eq] at checked
    obtain ⟨⟨rfl, listed⟩, named⟩ := checked
    exact ⟨_, found, model, accepted, ok, stored, listed, named⟩

end Resolver

end SchemaCatalog
