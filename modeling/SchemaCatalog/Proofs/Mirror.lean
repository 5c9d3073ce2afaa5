import SchemaCatalog.Proofs.Depth
import SchemaCatalog.Proofs.Likewise

/-! Walks through schemas that are alike. Where the one succeeds so does the other, with the same names
and elements, and every site that the other visits has its like among those of the one. A walk looks
at declared properties only to tell whether there are any, so this holds where none of the visited
schemas declares annotations alone.
-/
namespace SchemaCatalog

open Fingerprint

/-- A property is declared by more than an annotation. -/
def Json.Declaring (schema : Json) : Prop :=
  ∃ members, Resolver.propertiesOf schema = .ok members ∧ kept members ≠ []

/-- Sites of schemas alike, under one base name. -/
structure Site.Alike (first second : Site) : Prop where
  schema : first.schema.Alike second.schema
  base : second.base = first.base

namespace Script

variable {α β γ δ : Type} {fit : α → β → Prop} {fits : γ → δ → Prop} {first : Script α}
  {second : Script β}

/-- Whenever the first script succeeds, so does the second, visiting nothing without its like, if both
visit schemas only that declare more than annotations. -/
def Mirrors (fit : α → β → Prop) (first : Script α) (second : Script β) : Prop :=
  (∀ site ∈ first.visits, site.schema.Declaring) → (∀ site ∈ second.visits, site.schema.Declaring) →
    ∀ value, first.outcome = .ok value → ∃ other, second.outcome = .ok other ∧ fit value other ∧
      ∀ site ∈ second.visits, ∃ twin ∈ first.visits, twin.Alike site

theorem mapM_of_each {walk : α → Script γ} {items : List α} {good : Site → Prop}
    (each : ∀ item ∈ items, (∀ site ∈ (walk item).visits, good site) →
      ∃ result, (walk item).outcome = .ok result)
    (visited : ∀ site ∈ (items.mapM walk).visits, good site) :
    ∃ results, (items.mapM walk).outcome = .ok results := by
  induction items with
  | nil => exact ⟨[], rfl⟩
  | cons first items ih =>
    rw [List.mapM_cons] at visited ⊢
    obtain ⟨result, here⟩ := each first List.mem_cons_self
      fun site inside => visited site (mem_visits_first inside _)
    obtain ⟨results, later⟩ := ih (fun item inside => each item (List.mem_cons_of_mem _ inside))
      fun site inside => visited site (mem_visits_next here (mem_visits_first inside _))
    exact ⟨result :: results, outcome_bind.mpr ⟨result, here, outcome_bind.mpr ⟨results, later, rfl⟩⟩⟩

namespace Mirrors

theorem attempt {first : Except Failure α} {second : Except Failure β}
    (follows : Follows fit first second) : Mirrors fit (Script.attempt first) (Script.attempt second) := by
  intro _ _ value known
  obtain ⟨other, equal, here⟩ := follows value known
  exact ⟨other, equal, here, nofun⟩

theorem pure {value : α} {other : β} (here : fit value other) :
    Mirrors fit (Pure.pure value : Script α) (Pure.pure other) :=
  attempt (.ok here)

theorem fail (failure : Failure) : Mirrors fit (Script.fail failure) second :=
  fun _ _ _ known => nomatch known

theorem note (remark remark' : Remark) :
    Mirrors (fun _ _ => True) (Script.note remark) (Script.note remark') :=
  fun _ _ _ _ => ⟨(), rfl, trivial, nofun⟩

theorem visit {site other : Site} (alike : site.Alike other) :
    Mirrors (fun _ _ => True) (Script.visit site) (Script.visit other) := by
  refine fun _ _ _ _ => ⟨(), rfl, trivial, fun visited inside => ?_⟩
  rw [visits_visit, List.mem_singleton] at inside
  subst inside
  exact ⟨site, List.mem_cons_self, alike⟩

theorem bind {next : α → Script γ} {next' : β → Script δ} (here : Mirrors fit first second)
    (there : ∀ value other, fit value other → Mirrors fits (next value) (next' other)) :
    Mirrors fits (first >>= next) (second >>= next') := by
  intro good good' result known
  obtain ⟨value, known, later⟩ := outcome_bind.mp known
  rw [visits_bind_of_ok known] at good
  obtain ⟨other, known', fitting, twins⟩ := here
    (fun site inside => good site (List.mem_append_left _ inside))
    (fun site inside => good' site (mem_visits_first inside _)) value known
  rw [visits_bind_of_ok known'] at good'
  obtain ⟨result', later', fitting', twins'⟩ := there value other fitting
    (fun site inside => good site (List.mem_append_right _ inside))
    (fun site inside => good' site (List.mem_append_right _ inside)) result later
  refine ⟨result', outcome_bind.mpr ⟨other, known', later'⟩, fitting', fun site inside => ?_⟩
  rw [visits_bind_of_ok known'] at inside
  rw [visits_bind_of_ok known]
  rcases List.mem_append.mp inside with inside | inside
  · obtain ⟨twin, listed, alike⟩ := twins site inside
    exact ⟨twin, List.mem_append_left _ listed, alike⟩
  · obtain ⟨twin, listed, alike⟩ := twins' site inside
    exact ⟨twin, List.mem_append_right _ listed, alike⟩

/-- Scripts for the same items in some other order come to the same results in some other order. -/
theorem mapM {walk : α → Script γ} {walk' : β → Script δ} {items : List α} {others ordered : List β}
    (arranged : ordered.Perm others)
    (related : List.Forall₂ (fun item other => Mirrors fits (walk item) (walk' other)) items ordered) :
    Mirrors (fun results results' => ∃ sorted : List δ, sorted.Perm results' ∧
      List.Forall₂ fits results sorted) (items.mapM walk) (others.mapM walk') := by
  intro good good' results ok
  have made := outcome_mapM.mp ok
  -- what is known of an item and its like, once the latter's sites are known to be good
  have sure : List.Forall₂ (fun item other => (∀ site ∈ (walk' other).visits, site.schema.Declaring) →
      ∀ result, (walk item).outcome = .ok result → ∃ result', (walk' other).outcome = .ok result' ∧
        fits result result' ∧
        ∀ site ∈ (walk' other).visits, ∃ twin ∈ (items.mapM walk).visits, twin.Alike site)
      items ordered := by
    refine (forall₂_inside related).imp ?_
    rintro item other ⟨inside, -, mirrors⟩ visited result known
    have below := visits_of_mapM ok inside
    obtain ⟨result', known', fitting, twins⟩ :=
      mirrors (fun site inner => good site (below site inner)) visited result known
    refine ⟨result', known', fitting, fun site inner => ?_⟩
    obtain ⟨twin, here, alike⟩ := twins site inner
    exact ⟨twin, below twin here, alike⟩
  have each : ∀ other ∈ others, (∀ site ∈ (walk' other).visits, site.schema.Declaring) →
      ∃ result, (walk' other).outcome = .ok result ∧
        ∀ site ∈ (walk' other).visits, ∃ twin ∈ (items.mapM walk).visits, twin.Alike site := by
    intro other inside visited
    obtain ⟨item, listed, known⟩ := forall₂_right sure (arranged.mem_iff.mpr inside)
    obtain ⟨result, -, here⟩ := forall₂_left made listed
    obtain ⟨result', known', -, twins⟩ := known visited result here
    exact ⟨result', known', twins⟩
  obtain ⟨results', ok'⟩ := mapM_of_each (fun other inside visited =>
    (each other inside visited).imp fun _ known => known.1) good'
  have visited : ∀ other ∈ others, ∀ site ∈ (walk' other).visits, site.schema.Declaring :=
    fun other inside site inner => good' site (visits_of_mapM ok' inside site inner)
  obtain ⟨sorted, made', permuted⟩ := List.perm_comp_forall₂ arranged (outcome_mapM.mp ok')
  refine ⟨results', ok', ⟨sorted, permuted, ?_⟩, fun site inside => ?_⟩
  · refine forall₂_square (forall₂_inside sure) made made' ?_
    rintro item other result result' ⟨-, inside, known⟩ one two
    obtain ⟨_, equal, fitting, -⟩ := known (visited other (arranged.mem_iff.mp inside)) result one
    cases equal.symm.trans two
    exact fitting
  · obtain ⟨other, listed, inner⟩ := mem_visits_mapM inside
    obtain ⟨_, -, twins⟩ := each other listed (visited other listed)
    exact twins site inner

end Mirrors

end Script

structure Finding.Alike (first second : Finding) : Prop where
  reference : first.reference.Alike second.reference
  inferred : second.inferred = first.inferred
  known : ∃ path, Resolver.hasModel first.inferred.tag first.reference.schema path = .ok first.hasModel
  known' : ∃ path,
    Resolver.hasModel second.inferred.tag second.reference.schema path = .ok second.hasModel

theorem Finding.Alike.symm {first second : Finding} (alike : first.Alike second) :
    second.Alike first where
  reference := ⟨alike.reference.schema.symm, alike.reference.chain.symm⟩
  inferred := alike.inferred.symm
  known := alike.known'
  known' := alike.known

namespace Resolver

/-- Resolvers with the same settings, where overrides are no annotations, and definitions alike. -/
structure Alike (first second : Resolver) : Prop where
  settings : second.settings = first.settings
  plain : first.settings.overrideKey ≠ "description"
  definitions : first.definitions.Alike second.definitions

variable {first second : Resolver} {schema other : Json} {finding finding' : Finding} {path path' : String}

theorem findingOf_alike {reference reference' : Reference} (like : reference.Alike reference') :
    Follows Finding.Alike (findingOf reference path) (findingOf reference' path') := by
  intro finding known
  obtain ⟨rfl, tagged, modelled⟩ := findingOf_ok.mp known
  obtain ⟨inferred, tagged', same⟩ :=
    Inferred.ofSchema_alike like.schema false (some path) (some path') _ tagged
  subst same
  have declared : ∃ flag, hasModel finding.inferred.tag reference'.schema path' = .ok flag := by
    unfold hasModel at modelled ⊢
    split
    next object =>
      rw [if_pos object] at modelled
      obtain ⟨flag, known, -⟩ := declaresProperties_alike like.schema _ (some path') _ modelled
      exact ⟨flag, known⟩
    next => exact ⟨false, rfl⟩
  obtain ⟨flag, modelled'⟩ := declared
  refine ⟨⟨reference', finding.inferred, flag⟩, findingOf_ok.mpr ⟨rfl, tagged', modelled'⟩, ?_⟩
  exact ⟨like, rfl, ⟨path, modelled⟩, ⟨path', modelled'⟩⟩

theorem Alike.inspect (same : first.Alike second) (like : schema.Alike other) :
    Script.Mirrors Finding.Alike (first.inspect schema path) (second.inspect other path') := by
  unfold Resolver.inspect
  refine (Script.Mirrors.attempt (Definitions.resolve_alike same.definitions like _ _)).bind ?_
  intro reference reference' like
  refine (Script.Mirrors.note _ _).bind fun _ _ _ => ?_
  exact .attempt (findingOf_alike like)

theorem hasModel_of_declaring (declaring : schema.Declaring) : hasModel .object schema path = .ok true := by
  obtain ⟨members, declared, structural⟩ := declaring
  refine hasModel_ok.mpr ⟨rfl, members, ?_, declared⟩
  rintro rfl
  exact structural rfl

theorem declaring_of_alike (like : schema.Alike other) (declaring : schema.Declaring) :
    other.Declaring := by
  obtain ⟨members, declared, structural⟩ := declaring
  rw [propertiesOf_ok] at declared
  obtain ⟨found, declared', related⟩ := like.member? (by decide) _ declared
  cases related with
  | some like =>
    obtain ⟨others, rfl, ordered, arranged, related⟩ := like.of_obj
    refine ⟨others, propertiesOf_ok.mpr declared', fun none => ?_⟩
    rw [none, List.perm_nil] at arranged
    subst arranged
    exact structural (List.forall₂_nil_right_iff.mp related)

variable {parent key : String} {position : Option Int}

theorem visits_ownModel {resolver : Resolver} {base : String} (modelled : finding.hasModel = true)
    (named : resolver.settings.nestedBase finding.reference.schema finding.reference.name? parent key
      position = .ok base) :
    (resolver.ownModel finding parent key position path).visits =
      [⟨finding.reference.schema, base, path⟩] := by
  rw [Resolver.ownModel, if_pos modelled, Script.visits_bind_of_ok named]
  rfl

theorem nestedBase_of_modelled (settings : Settings) {tag : Tag}
    (modelled : hasModel tag schema path = .ok true) (reference : Option String) (parent key : String)
    (position : Option Int) :
    ∃ base, settings.nestedBase schema reference parent key position = .ok base := by
  obtain ⟨-, entries, -, declared⟩ := hasModel_ok.mp modelled
  obtain ⟨members, rfl, -⟩ := Json.member?_eq_ok.mp (propertiesOf_ok.mp declared)
  have own : ∃ own, settings.override? (.obj members) = .ok own := by
    unfold Settings.override?
    rw [Json.member?, Failure.ofMisuse]
    cases members.lookup settings.overrideKey with
    | none => exact ⟨_, rfl⟩
    | some value => cases value <;> exact ⟨_, rfl⟩
  obtain ⟨own, known⟩ := own
  exact ⟨_, nestedBase_ok.mpr ⟨own, known, rfl⟩⟩

/-- Findings alike have models both or neither, if they have them for more than annotations only. -/
theorem hasModel_of_alike (alike : Finding.Alike finding finding')
    (declares : finding.hasModel = true → finding.reference.schema.Declaring)
    (declares' : finding'.hasModel = true → finding'.reference.schema.Declaring) :
    finding'.hasModel = finding.hasModel := by
  have carried {one two : Finding} (alike : one.Alike two)
      (declares : one.hasModel = true → one.reference.schema.Declaring)
      (modelled : one.hasModel = true) : two.hasModel = true := by
    obtain ⟨place, known⟩ := alike.known
    obtain ⟨place', known'⟩ := alike.known'
    rw [modelled] at known
    rw [alike.inferred, (hasModel_ok.mp known).1,
      hasModel_of_declaring (declaring_of_alike alike.reference.schema (declares modelled))] at known'
    exact (Except.ok.inj known').symm
  rw [Bool.eq_iff_iff]
  exact ⟨carried alike.symm declares', carried alike declares⟩

theorem declaring_of_ownModel {resolver : Resolver}
    (known : ∃ path, hasModel finding.inferred.tag finding.reference.schema path = .ok finding.hasModel)
    (good : ∀ site ∈ (resolver.ownModel finding parent key position path).visits,
      site.schema.Declaring) (modelled : finding.hasModel = true) :
    finding.reference.schema.Declaring := by
  obtain ⟨place, known⟩ := known
  rw [modelled] at known
  obtain ⟨base, named⟩ := nestedBase_of_modelled resolver.settings known
    finding.reference.name? parent key position
  exact good _ (visits_ownModel modelled named ▸ List.mem_cons_self)

theorem Alike.ownModel (same : first.Alike second) (alike : Finding.Alike finding finding') :
    Script.Mirrors Eq (first.ownModel finding parent key position path)
      (second.ownModel finding' parent key position path') := by
  intro good good'
  have agree := hasModel_of_alike alike (declaring_of_ownModel alike.known good)
    (declaring_of_ownModel alike.known' good')
  revert good good'
  unfold Resolver.ownModel
  rw [agree, same.settings, alike.reference.name?]
  split
  next modelled =>
    refine Script.Mirrors.bind (.attempt (Settings.nestedBase_alike alike.reference.schema same.plain
      _ _ _ _)) fun base base' equal => ?_
    subst equal
    refine Script.Mirrors.bind (.visit ⟨alike.reference.schema, rfl⟩) fun _ _ _ => ?_
    exact .pure rfl
  next => exact Script.Mirrors.pure rfl

theorem Alike.uniform (same : first.Alike second) (like : schema.Alike other) :
    Script.Mirrors Eq (first.uniform parent key path schema) (second.uniform parent key path' other) := by
  refine (same.inspect like).bind fun finding finding' alike => ?_
  refine (same.ownModel alike).bind fun modelName modelName' equal => ?_
  subst equal
  exact .pure rfl

theorem shorthand_alike {names others : List Json} (related : List.Forall₂ Json.Alike names others) :
    Follows Eq (shorthand path names) (shorthand path' others) := by
  have each : ∀ one other, Json.Alike one other →
      Follows Eq (Inferred.kindOf (some path) one) (Inferred.kindOf (some path') other) :=
    fun _ _ like => Inferred.kindOf_alike like _ _
  refine (Follows.mapM each related).bind fun kinds kinds' equal => ?_
  rw [List.forall₂_eq_eq_eq] at equal
  subst equal
  exact .refl _

theorem spelledOut_alike (like : schema.Alike other) : (spelledOut schema).Alike (spelledOut other) := by
  have same := like
  rcases like.cases with ⟨scalar, rfl⟩ | ⟨items, others, rfl, rfl, -⟩ | ⟨members, others, rfl, rfl⟩
  · refine .refl ?_
    cases other with
    | arr => cases scalar
    | obj => cases scalar
    | str text =>
      refine Json.distinct_obj.mpr ⟨List.nodup_singleton _, ?_⟩
      rintro name value inside
      cases List.mem_singleton.mp inside
      trivial
    | _ => trivial
  · exact same
  · exact same

theorem isNull_alike {members others : List (String × Json)}
    (like : (Json.obj members).Alike (.obj others)) : isNull others = isNull members := by
  have referring : Option.Rel Json.Alike (members.lookup "$ref") (others.lookup "$ref") :=
    like.lookup (by decide)
  have typed : Option.Rel Json.Alike (members.lookup "type") (others.lookup "type") :=
    like.lookup (by decide)
  rw [isNull, isNull, Json.any_eq_lookup, Json.any_eq_lookup]
  generalize members.lookup "$ref" = one, others.lookup "$ref" = one' at referring
  generalize members.lookup "type" = two, others.lookup "type" = two' at typed
  cases referring with
  | some => rfl
  | none =>
    cases typed with
    | none => rfl
    | some like => rw [Option.bind_some, Option.bind_some, like.text?]

theorem Alike.alternative (same : first.Alike second) (like : schema.Alike other) (index : Nat) :
    Script.Mirrors Eq (first.alternative parent key path index schema)
      (second.alternative parent key path' index other) := by
  have spelled := spelledOut_alike like
  unfold Resolver.alternative
  dsimp only
  generalize spelledOut schema = schema, spelledOut other = other at spelled
  rcases spelled.cases with ⟨scalar, rfl⟩ | ⟨items, others, rfl, rfl, -⟩ | ⟨members, others, rfl, rfl⟩
  · cases other with
    | obj => cases scalar
    | _ => exact .fail _
  · exact .fail _
  · dsimp only
    rw [isNull_alike spelled]
    split
    next => exact .pure rfl
    next =>
      refine (same.inspect spelled).bind fun finding finding' alike => ?_
      refine (same.ownModel alike).bind fun modelName modelName' equal => ?_
      subst equal
      rw [alike.inferred]
      exact .pure rfl

theorem Alike.alternatives (same : first.Alike second) {entries others : List Json}
    (related : List.Forall₂ Json.Alike entries others) (index : Nat) :
    Script.Mirrors Eq (first.alternatives parent key path index entries)
      (second.alternatives parent key path' index others) := by
  induction related generalizing index with
  | nil => exact .pure rfl
  | cons like _ ih =>
    refine (same.alternative like index).bind fun one one' equal => ?_
    subst equal
    refine (ih (index + 1)).bind fun rest rest' equal => ?_
    subst equal
    exact .pure rfl

theorem Alike.elementsOf (same : first.Alike second) (like : schema.Alike other) :
    Script.Mirrors Eq (first.elementsOf parent key path schema)
      (second.elementsOf parent key path' other) := by
  have whole := like
  rcases like.cases with ⟨scalar, rfl⟩ | ⟨items, others, rfl, rfl, related⟩ |
    ⟨members, others, rfl, rfl⟩
  · cases other with
    | arr => cases scalar
    | obj => cases scalar
    | null => exact .pure rfl
    | _ => exact .fail _
  · have texts : others.all (·.text?.isSome) = items.all (·.text?.isSome) := by
      clear like whole
      induction related with
      | nil => rfl
      | cons like _ ih => rw [List.all_cons, List.all_cons, ih, like.text?]
    simp only [Resolver.elementsOf, texts]
    split
    next => exact .attempt (shorthand_alike related)
    next => exact same.alternatives related 0
  · have several : Option.Rel Json.Alike (members.lookup "anyOf") (others.lookup "anyOf") :=
      whole.lookup (by decide)
    simp only [Resolver.elementsOf]
    generalize members.lookup "anyOf" = one, others.lookup "anyOf" = one' at several
    cases several with
    | none => exact same.uniform whole
    | @some value value' like =>
      rcases like.cases with ⟨scalar, rfl⟩ | ⟨items, others, rfl, rfl, related⟩ |
        ⟨members, others, rfl, rfl⟩
      · cases value' with
        | arr => cases scalar
        | _ => exact .fail _
      · exact same.alternatives related 0
      · exact .fail _

theorem Alike.elements (same : first.Alike second) (like : schema.Alike other) :
    Script.Mirrors Eq (first.elements parent key path schema)
      (second.elements parent key path' other) := by
  refine Script.Mirrors.bind (.attempt (Follows.ofMisuse (like.member? (by decide)))) ?_
  intro items items' related
  exact same.elementsOf (Json.alike_getD related)

theorem Alike.root (same : first.Alike second) (like : first.document.Alike second.document) :
    Script.Mirrors (fun _ _ => True) first.root second.root := by
  unfold Resolver.root
  refine (same.inspect like).bind fun finding finding' alike => ?_
  have named : Follows Eq (first.settings.rootBase finding.reference.schema finding.reference.name?)
      (second.settings.rootBase finding'.reference.schema finding'.reference.name?) := by
    rw [same.settings, alike.reference.name?]
    exact Settings.rootBase_alike alike.reference.schema same.plain _
  dsimp only
  refine Script.Mirrors.bind (.attempt named) fun base base' equal => ?_
  subst equal
  intro good good'
  have agree : finding'.hasModel = finding.hasModel := by
    refine hasModel_of_alike alike (fun modelled => ?_) fun modelled => ?_
    · rw [if_pos modelled] at good
      exact good _ List.mem_cons_self
    · rw [if_pos modelled] at good'
      exact good' _ List.mem_cons_self
  revert good good'
  rw [agree, alike.inferred]
  split
  next => exact Script.Mirrors.visit ⟨alike.reference.schema, rfl⟩
  next =>
    split
    next =>
      rw [Script.discard_eq, Script.discard_eq]
      exact (same.elements alike.reference.schema).bind fun _ _ _ => .pure trivial
    next => exact Script.Mirrors.note _ _

theorem Alike.held (same : first.Alike second) (alike : Finding.Alike finding finding') :
    Script.Mirrors Eq (first.held finding parent key path) (second.held finding' parent key path') := by
  unfold Resolver.held
  rw [alike.inferred]
  split
  next => exact same.elements alike.reference.schema
  next => exact .pure rfl

theorem descriptionOf_alike {entry entry' : Json} (own : entry.Alike entry')
    (like : schema.Alike other) :
    Follows (fun _ _ => True) (descriptionOf entry schema) (descriptionOf entry' other) := by
  have objects {one one' : Json} (like : one.Alike one') :
      Follows (fun _ _ => True) (one.member? "description") (one'.member? "description") := by
    rcases like.cases with ⟨scalar, rfl⟩ | ⟨items, others, rfl, rfl, -⟩ | ⟨members, others, rfl, rfl⟩
    · exact fun value known => ⟨value, known, trivial⟩
    · exact .error _
    · exact .ok trivial
  refine (objects own).bind fun _ _ _ => ?_
  exact (objects like).bind fun _ _ _ => .ok trivial

end Resolver

def Property.undescribed (property : Property) : Property := { property with description := none }

namespace Resolver

variable {first second : Resolver} {schema other : Json} {finding finding' : Finding} {key : String}

theorem described_alike {settings : Settings} (plain : settings.overrideKey ≠ "description")
    (like : schema.Alike other) (alike : Finding.Alike finding finding') (isRequired : Bool)
    (modelName : Option String) (elements : Elements) :
    Follows (fun one two => two.undescribed = one.undescribed)
      (described settings key schema isRequired finding modelName elements)
      (described settings key other isRequired finding' modelName elements) := by
  unfold described
  refine (Settings.propertyName_alike like plain key).bind fun name name' equal => ?_
  subst equal
  refine (Follows.ofMisuse (descriptionOf_alike like alike.reference.schema)).bind fun _ _ _ => ?_
  rw [alike.inferred]
  split
  next => exact .ok rfl
  next => exact .error _

theorem Alike.property (same : first.Alike second) (like : schema.Alike other) {site site' : Site}
    (based : site'.base = site.base) {required required' : List Json}
    (needed : required'.any (·.text? == some key) = required.any (·.text? == some key)) :
    Script.Mirrors (fun one two => two.undescribed = one.undescribed)
      (first.property site required key schema) (second.property site' required' key other) := by
  unfold Resolver.property
  dsimp only
  rw [like.isObject, based, needed, same.settings]
  split
  next =>
    refine (same.inspect like).bind fun finding finding' alike => ?_
    refine (same.ownModel alike).bind fun modelName modelName' equal => ?_
    subst equal
    refine (same.held alike).bind fun elements elements' equal => ?_
    subst equal
    exact .attempt (described_alike same.plain like alike _ _ _)
  next => exact .fail _

end Resolver

/-- No member of an object is an annotation. -/
def Json.Unannotated (value : Json) : Prop :=
  ∀ members, value = .obj members → kept members = members

instance (value : Json) : Decidable value.Unannotated :=
  match value with
  | .obj members => decidable_of_iff (∀ member ∈ members, isAnnotation member.1 member.2 = false) <| by
      simp [Json.Unannotated, kept]
  | .null | .bool _ | .int _ | .float _ | .str _ | .arr _ => .isTrue nofun

/-- The members of a schema whose own members are properties, or should not be there, have no
annotations among these. -/
def Json.Legible (schema : Json) : Prop :=
  ∀ name ∈ ["properties", "required"], ∀ value, schema.member? name = .ok (some value) →
    value.Unannotated

instance (schema : Json) : Decidable schema.Legible :=
  have each (name : String) : Decidable (∀ value, schema.member? name = .ok (some value) →
      value.Unannotated) :=
    match schema.member? name with
    | .ok (some value) => decidable_of_iff value.Unannotated (by simp)
    | .ok none | .error _ => .isTrue (by simp)
  decidable_of_iff (∀ name ∈ ["properties", "required"], ∀ value,
    schema.member? name = .ok (some value) → value.Unannotated) Iff.rfl

/-- Models that differ in descriptions and in the order of properties only. -/
structure Model.Alike (first second : Model) : Prop where
  name : second.name = first.name
  dependencies : second.dependencies = first.dependencies
  properties : (second.properties.map Property.undescribed).Perm
    (first.properties.map Property.undescribed)

instance (first second : Model) : Decidable (first.Alike second) :=
  decidable_of_iff (second.name = first.name ∧ second.dependencies = first.dependencies ∧
    (second.properties.map Property.undescribed).Perm (first.properties.map Property.undescribed))
    ⟨fun ⟨name, dependencies, properties⟩ => ⟨name, dependencies, properties⟩,
      fun ⟨name, dependencies, properties⟩ => ⟨name, dependencies, properties⟩⟩

namespace Resolver

variable {first second : Resolver} {site site' : Site}

theorem requiredOf_ok {names : List Json} : requiredOf site = .ok names ↔
    ∃ found, site.schema.member? "required" = .ok found ∧
      (found.getD .null = .arr names ∨ (found.getD .null).isEmpty = true ∧ names = []) := by
  simp only [requiredOf, Failure.bind_eq_ok, Failure.ofMisuse_eq_ok]
  constructor
  · rintro ⟨found, looked, known⟩
    refine ⟨found, looked, ?_⟩
    split at known
    next equal =>
      cases known
      exact .inl equal
    next =>
      split at known
      next empty =>
        cases known
        exact .inr ⟨empty, rfl⟩
      next => cases known
  · rintro ⟨found, looked, listed | ⟨empty, rfl⟩⟩
    · exact ⟨found, looked, by rw [listed]; rfl⟩
    · refine ⟨found, looked, ?_⟩
      split
      next items equal =>
        rw [equal] at empty
        rw [List.isEmpty_iff.mp empty]
        rfl
      next => rw [if_pos empty]; rfl

theorem kept_of_alike {members others : List (String × Json)}
    (like : (Json.obj members).Alike (.obj others)) (none : kept members = []) : kept others = [] := by
  obtain ⟨_, ⟨⟩, ordered, arranged, related⟩ := like.of_obj
  rw [none, List.forall₂_nil_left_iff] at related
  rw [related] at arranged
  exact List.nil_perm.mp arranged

theorem isEmpty_alike {value other : Json} (like : value.Alike other) (plain : other.Unannotated)
    (empty : value.isEmpty = true) : other.isEmpty = true := by
  have whole := like
  rcases like.cases with ⟨-, rfl⟩ | ⟨items, others, rfl, rfl, related⟩ | ⟨members, others, rfl, rfl⟩
  · exact empty
  · rw [Json.isEmpty, List.isEmpty_iff] at empty ⊢
    subst empty
    exact List.forall₂_nil_left_iff.mp related
  · rw [Json.isEmpty, List.isEmpty_iff] at empty ⊢
    subst empty
    rw [← plain others rfl]
    exact kept_of_alike whole rfl

theorem requiredOf_alike (like : site.Alike site') (legible : site'.schema.Legible) :
    Follows (fun names names' => ∀ key : String,
      names'.any (·.text? == some key) = names.any (·.text? == some key))
      (requiredOf site) (requiredOf site') := by
  intro names known
  obtain ⟨found, looked, known⟩ := requiredOf_ok.mp known
  obtain ⟨found', looked', related⟩ := like.schema.member? (by decide) found looked
  have alike := Json.alike_getD related
  rcases known with listed | ⟨empty, rfl⟩
  · rw [listed] at alike
    obtain ⟨names', equal, related⟩ := alike.of_arr
    exact ⟨names', requiredOf_ok.mpr ⟨found', looked', .inl equal⟩, Json.any_text?_alike related⟩
  · have plain : (found'.getD .null).Unannotated := by
      cases found' with
      | none => nofun
      | some value => exact legible "required" (by decide) value looked'
    refine ⟨[], requiredOf_ok.mpr ⟨found', looked', .inr ⟨?_, rfl⟩⟩, fun _ => rfl⟩
    exact isEmpty_alike alike plain empty

theorem propertiesOf_alike {schema other : Json} (like : schema.Alike other) (legible : other.Legible) :
    Follows (fun entries entries' => (Json.obj entries).Alike (.obj entries') ∧ kept entries' = entries')
      (propertiesOf schema) (propertiesOf other) := by
  intro entries known
  obtain ⟨found, looked, related⟩ := like.member? (by decide) _ (propertiesOf_ok.mp known)
  cases related with
  | some like =>
    obtain ⟨entries', rfl, -⟩ := like.of_obj
    exact ⟨entries', propertiesOf_ok.mpr looked, like, legible "properties" (by decide) _ looked _ rfl⟩

/-- Properties succeed for objects only, so that none of them is an annotation. -/
theorem kept_of_properties {resolver : Resolver} {required : List Json}
    {entries : List (String × Json)} {properties : List Property}
    (ok : (entries.mapM fun (key, entry) => resolver.property site required key entry).outcome =
      .ok properties) : kept entries = entries := by
  refine List.filter_eq_self.mpr fun entry inside => ?_
  obtain ⟨property, -, made⟩ := forall₂_left (Script.outcome_mapM.mp ok) inside
  have object := (property_ok.mp made).1
  obtain ⟨key, value⟩ := entry
  cases value with
  | str => cases object
  | _ => rfl

theorem Alike.properties (same : first.Alike second) (based : site'.base = site.base)
    {required required' : List Json}
    (needed : ∀ key : String,
      required'.any (·.text? == some key) = required.any (·.text? == some key))
    {entries entries' : List (String × Json)} (like : (Json.obj entries).Alike (.obj entries'))
    (plain : kept entries' = entries') :
    Script.Mirrors (fun properties properties' => (properties'.map Property.undescribed).Perm
        (properties.map Property.undescribed))
      (entries.mapM fun (key, entry) => first.property site required key entry)
      (entries'.mapM fun (key, entry) => second.property site' required' key entry) := by
  intro good good' properties ok
  obtain ⟨_, ⟨⟩, ordered, arranged, related⟩ := like.of_obj
  rw [kept_of_properties ok] at related
  rw [plain] at arranged
  have each : List.Forall₂ (fun entry entry' => Script.Mirrors
      (fun one two => two.undescribed = one.undescribed)
      (first.property site required entry.1 entry.2)
      (second.property site' required' entry'.1 entry'.2)) entries ordered := by
    refine related.imp ?_
    rintro ⟨key, entry⟩ ⟨key', entry'⟩ ⟨equal, like⟩
    dsimp only at equal like ⊢
    subst equal
    exact same.property like based (needed key)
  obtain ⟨properties', ok', ⟨sorted, permuted, fitting⟩, twins⟩ :=
    Script.Mirrors.mapM arranged each good good' properties ok
  refine ⟨properties', ok', ?_, twins⟩
  have equal : sorted.map Property.undescribed = properties.map Property.undescribed := by
    clear permuted ok
    induction fitting with
    | nil => rfl
    | cons here _ ih => rw [List.map_cons, List.map_cons, here, ih]
  dsimp only
  rw [← equal]
  exact (permuted.map _).symm

theorem ofProperties_alike {name : String} {properties properties' : List Property}
    (same : (properties'.map Property.undescribed).Perm (properties.map Property.undescribed)) :
    Follows Model.Alike (Model.ofProperties name properties) (Model.ofProperties name properties') := by
  intro model made
  obtain ⟨named, listed, depending⟩ := ofProperties_ok.mp made
  have nonempty : name ≠ "" := named ▸ model.named
  refine ⟨⟨name, properties', .ofList (properties'.flatMap Property.dependencies), nonempty⟩,
    ofProperties_ok.mpr ⟨rfl, rfl, rfl⟩, named.symm, NameSet.ext fun other => ?_, listed ▸ same⟩
  have dependencies (list : List Property) : list.flatMap Property.dependencies =
      (list.map Property.undescribed).flatMap Property.dependencies := by
    rw [List.flatMap_map]
    rfl
  rw [depending, NameSet.mem_ofList, NameSet.mem_ofList, dependencies, dependencies properties]
  exact (same.flatMap_right _).mem_iff

/-- Whenever a model can be built, so can one for a schema alike, and the models are alike as well. -/
theorem Alike.model (same : first.Alike second) (like : site.Alike site')
    (legible : site'.schema.Legible) :
    Script.Mirrors Model.Alike (first.model site) (second.model site') := by
  refine (Script.Mirrors.attempt (requiredOf_alike like legible)).bind ?_
  intro required required' needed
  refine (Script.Mirrors.attempt (propertiesOf_alike like.schema legible).ofMisuse).bind ?_
  rintro entries entries' ⟨like', plain⟩
  refine (same.properties like.base needed like' plain).bind ?_
  intro properties properties' permuted
  rw [same.settings, like.base]
  exact .attempt (ofProperties_alike permuted)

end Resolver

end SchemaCatalog
