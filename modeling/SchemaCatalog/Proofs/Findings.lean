import SchemaCatalog.Proofs.Related
import SchemaCatalog.Proofs.Walk

/-! What a walk through the schema of a model finds. Main statements: every site it visits is a child of
the site it starts from, by a property's value or by an element of a list; and whatever a property
names is the model of a visited site or a tag.
-/
namespace SchemaCatalog

namespace Script

variable {α β : Type}

theorem outcome_mapM {walk : α → Script β} {items : List α} {results : List β} :
    (items.mapM walk).outcome = .ok results ↔
      List.Forall₂ (fun item result => (walk item).outcome = .ok result) items results := by
  induction items generalizing results with
  | nil => cases results <;> simp
  | cons item items ih =>
    rw [List.mapM_cons, outcome_bind]
    cases results with
    | nil => simp [outcome_map]
    | cons result results =>
      simp only [outcome_bind, outcome_pure, Except.ok.injEq, List.cons.injEq, ih,
        List.forall₂_cons]
      constructor
      · rintro ⟨_, first, _, rest, rfl, rfl⟩
        exact ⟨first, rest⟩
      · rintro ⟨first, rest⟩
        exact ⟨result, first, results, rest, rfl, rfl⟩

theorem mem_visits_mapM {walk : α → Script β} {items : List α} {site : Site}
    (inside : site ∈ (items.mapM walk).visits) : ∃ item ∈ items, site ∈ (walk item).visits := by
  induction items with
  | nil => cases inside
  | cons item items ih =>
    rw [List.mapM_cons, mem_visits_bind] at inside
    rcases inside with here | ⟨_, _, later⟩
    · exact ⟨item, List.mem_cons_self, here⟩
    · rcases mem_visits_bind.mp later with later | ⟨_, _, later⟩
      · obtain ⟨other, member, found⟩ := ih later
        exact ⟨other, List.mem_cons_of_mem _ member, found⟩
      · cases later

theorem visits_of_mapM {walk : α → Script β} {items : List α} {results : List β}
    (ok : (items.mapM walk).outcome = .ok results) {item : α} (inside : item ∈ items) :
    ∀ site ∈ (walk item).visits, site ∈ (items.mapM walk).visits := by
  induction items generalizing results with
  | nil => cases inside
  | cons first items ih =>
    intro site visited
    rw [List.mapM_cons] at ok ⊢
    obtain ⟨_, here, ok⟩ := outcome_bind.mp ok
    obtain ⟨_, later, -⟩ := outcome_bind.mp ok
    rcases List.mem_cons.mp inside with rfl | inside
    · exact mem_visits_first visited _
    · exact mem_visits_next here (mem_visits_first (ih later inside site visited) _)

theorem item_of_mapM {walk : α → Script β} {items : List α} {results : List β}
    (ok : (items.mapM walk).outcome = .ok results) {result : β} (member : result ∈ results) :
    ∃ item ∈ items, (walk item).outcome = .ok result ∧
      ∀ site ∈ (walk item).visits, site ∈ (items.mapM walk).visits := by
  obtain ⟨item, inside, made⟩ := forall₂_right (outcome_mapM.mp ok) member
  exact ⟨item, inside, made, visits_of_mapM ok inside⟩

end Script

def Json.Declares (schema : Json) (key : String) (entry : Json) : Prop :=
  ∃ entries, Resolver.propertiesOf schema = .ok entries ∧ (key, entry) ∈ entries

/-- The schemas that the value of `items` offers for elements, with their positions where there are
several of them. -/
inductive Json.Offers : Json → Option Int → Json → Prop
  | uniform {members} (single : members.lookup "anyOf" = none) :
      Offers (.obj members) none (.obj members)
  | listed {entries : List Json} {index : Nat} {entry} (inside : entries[index]? = some entry) :
      Offers (.arr entries) (some (index + 1)) (Resolver.spelledOut entry)
  | alternative {members} {entries : List Json} {index : Nat} {entry}
      (several : members.lookup "anyOf" = some (.arr entries))
      (inside : entries[index]? = some entry) :
      Offers (.obj members) (some (index + 1)) (Resolver.spelledOut entry)

/-- The name of a tag other than those of objects and of lists. -/
def Tag.IsScalarName (name : String) : Prop := ∃ tag : Tag, tag.name = name ∧ tag ≠ .object ∧ tag ≠ .array

/-- A list of type names where that of objects or of lists stands beside one of another kind. -/
def Json.Abbreviates (items : Json) (name : String) : Prop :=
  ∃ kinds : List Kind, items = .arr (kinds.map fun kind => .str kind.name) ∧
    ∃ kind ∈ kinds, kind.name = name ∧ (kind = .object ∨ kind = .array) ∧
      ∃ other ∈ kinds, other ≠ kind ∧ other ≠ .null

/-- The schema of the site declares a property at least. -/
def Site.Modelled (site : Site) : Prop :=
  ∃ entries, entries ≠ [] ∧ Resolver.propertiesOf site.schema = .ok entries

namespace Resolver

variable {resolver : Resolver} {site child : Site} {parent key path : String} {name : String}
  {position : Option Int} {finding : Finding} {elements : Elements} {property : Property}

/-- The site of a schema with a model, as it is found behind another schema below a parent. -/
def Found (resolver : Resolver) (raw : Json) (parent key : String) (position : Option Int)
    (site : Site) : Prop :=
  ∃ finding, (resolver.inspect raw site.path).outcome = .ok finding ∧ finding.hasModel = true ∧
    site.schema = finding.reference.schema ∧
    resolver.settings.nestedBase site.schema finding.reference.name? parent key position =
      .ok site.base

/-- The sites right below a site: values of its properties, and elements of lists among those. -/
inductive Child (resolver : Resolver) (parent : Site) : Site → Prop
  | value {key entry site} (declared : parent.schema.Declares key entry)
      (found : resolver.Found entry parent.base key none site) : Child resolver parent site
  | element {key entry path finding items position raw site}
      (declared : parent.schema.Declares key entry)
      (behind : (resolver.inspect entry path).outcome = .ok finding)
      (list : finding.inferred.tag = .array)
      (listing : finding.reference.schema.member? "items" = .ok (some items))
      (offered : items.Offers position raw)
      (found : resolver.Found raw parent.base key position site) : Child resolver parent site

/-- The sites found at the root: the whole document, or elements of a list that it is. -/
inductive Start (resolver : Resolver) : Site → Prop
  | whole {finding base} (found : (resolver.inspect resolver.document "#").outcome = .ok finding)
      (modelled : finding.hasModel = true)
      (named : resolver.settings.rootBase finding.reference.schema finding.reference.name? = .ok base) :
      Start resolver ⟨finding.reference.schema, base, "#"⟩
  | element {finding base items position raw site}
      (found : (resolver.inspect resolver.document "#").outcome = .ok finding)
      (named : resolver.settings.rootBase finding.reference.schema finding.reference.name? = .ok base)
      (listing : finding.reference.schema.member? "items" = .ok (some items))
      (offered : items.Offers position raw)
      (placed : resolver.Found raw base "" position site) : Start resolver site

/-- A name that belongs to one of some sites, or is among some others. -/
def AccountedBy (resolver : Resolver) (others : String → Prop) (sites : List Site) (name : String) :
    Prop :=
  (∃ site ∈ sites, resolver.nameOf site = name) ∨ others name

/-- A name that belongs to one of some sites, or is the name of a tag. -/
def Accounted (resolver : Resolver) (sites : List Site) (name : String) : Prop :=
  resolver.AccountedBy (fun name => ∃ tag : Tag, tag.name = name) sites name

theorem propertiesOf_ok {schema : Json} {entries : List (String × Json)} :
    propertiesOf schema = .ok entries ↔ schema.member? "properties" = .ok (some (.obj entries)) := by
  rw [← Json.entry_eq_ok]
  cases looked : schema.entry "properties" with
  | error misuse => simp [propertiesOf, looked, bind, Except.bind]
  | ok value => cases value <;> simp [propertiesOf, looked, bind, Except.bind, pure, Except.pure]

theorem declaresProperties_ok {schema : Json} {place : Option String} :
    declaresProperties schema place = .ok true ↔
      ∃ entries, entries ≠ [] ∧ propertiesOf schema = .ok entries := by
  simp only [propertiesOf_ok]
  constructor
  · intro ok
    obtain ⟨value, looked, ok⟩ := Failure.bind_eq_ok.mp ok
    rw [Failure.ofMisuse_eq_ok] at looked
    rcases value with _ | value
    · cases ok
    cases value with
    | obj members =>
      refine ⟨members, ?_, looked⟩
      rintro rfl
      cases ok
    | null => cases ok
    | _ => cases ok
  · rintro ⟨entries, nonempty, declared⟩
    rw [declaresProperties, declared]
    cases entries with
    | nil => exact absurd rfl nonempty
    | cons entry entries => rfl

theorem hasModel_ok {tag : Tag} {schema : Json} : hasModel tag schema path = .ok true ↔
    tag = .object ∧ ∃ entries, entries ≠ [] ∧ propertiesOf schema = .ok entries := by
  unfold hasModel
  split
  next object => rw [declaresProperties_ok, and_iff_right object]
  next other => simp [other]

theorem findingOf_ok {reference : Reference} :
    findingOf reference path = .ok finding ↔ finding.reference = reference ∧
      Inferred.ofSchema reference.schema false (some path) = .ok finding.inferred ∧
      hasModel finding.inferred.tag reference.schema path = .ok finding.hasModel := by
  simp only [findingOf, Failure.bind_eq_ok]
  constructor
  · rintro ⟨inferred, tagged, modelled, known, equal⟩
    cases equal
    exact ⟨rfl, tagged, known⟩
  · rcases finding with ⟨reference, inferred, modelled⟩
    rintro ⟨rfl, tagged, known⟩
    exact ⟨inferred, tagged, modelled, known, rfl⟩

theorem inspect_ok {raw : Json} :
    (resolver.inspect raw path).outcome = .ok finding ↔
      resolver.definitions.resolve raw (some path) = .ok finding.reference ∧
        findingOf finding.reference path = .ok finding := by
  simp only [inspect, Script.outcome_bind, Script.outcome_attempt, Script.outcome_note]
  constructor
  · rintro ⟨reference, resolved, ⟨⟩, -, found⟩
    obtain ⟨rfl, -⟩ := findingOf_ok.mp found
    exact ⟨resolved, found⟩
  · rintro ⟨resolved, found⟩
    exact ⟨finding.reference, resolved, (), trivial, found⟩

theorem visits_inspect (raw : Json) : (resolver.inspect raw path).visits = [] := by
  apply List.eq_nil_iff_forall_not_mem.mpr
  intro child inside
  simp [inspect, Script.mem_visits_bind] at inside

theorem mem_visits_ownModel {raw : Json}
    (found : (resolver.inspect raw path).outcome = .ok finding)
    (inside : child ∈ (resolver.ownModel finding parent key position path).visits) :
    resolver.Found raw parent key position child := by
  unfold ownModel at inside
  split at inside
  next modelled =>
    rcases Script.mem_visits_bind.mp inside with inside | ⟨base, named, inside⟩
    · cases inside
    rcases Script.mem_visits_bind.mp inside with inside | ⟨_, _, inside⟩
    · cases List.mem_singleton.mp inside
      exact ⟨finding, found, modelled, rfl, named⟩
    · cases inside
  next => cases inside

theorem ownModel_ok {modelName : Option String}
    (ok : (resolver.ownModel finding parent key position path).outcome = .ok modelName) :
    modelName.isSome = finding.hasModel ∧ ∀ name ∈ modelName,
      ∃ child ∈ (resolver.ownModel finding parent key position path).visits,
        resolver.nameOf child = name := by
  unfold ownModel at ok ⊢
  split at ok
  next modelled =>
    obtain ⟨base, named, ok⟩ := Script.outcome_bind.mp ok
    obtain ⟨⟨⟩, visited, ok⟩ := Script.outcome_bind.mp ok
    cases ok
    refine ⟨modelled.symm, ?_⟩
    rintro name ⟨⟩
    refine ⟨⟨finding.reference.schema, base, path⟩, ?_, rfl⟩
    rw [if_pos modelled, Script.visits_bind_of_ok named, Script.visits_bind_of_ok visited]
    simp
  next bare =>
    cases ok
    exact ⟨by simpa using bare, by simp⟩

theorem AccountedBy.mono {others more : String → Prop} {sites all : List Site}
    (known : resolver.AccountedBy others sites name) (inside : ∀ site ∈ sites, site ∈ all)
    (weaker : others name → more name) : resolver.AccountedBy more all name := by
  rcases known with ⟨site, member, named⟩ | other
  · exact .inl ⟨site, inside site member, named⟩
  · exact .inr (weaker other)

theorem Accounted.mono {sites others : List Site} (known : resolver.Accounted sites name)
    (inside : ∀ site ∈ sites, site ∈ others) : resolver.Accounted others name :=
  AccountedBy.mono known inside id

/-- What a script lists is accounted for by the sites that it visits, and by some other names. -/
def Sourced (resolver : Resolver) (others : String → Prop) (script : Script Elements) : Prop :=
  ∀ elements, script.outcome = .ok elements →
    ∀ name ∈ elements.names, resolver.AccountedBy others script.visits name

theorem Sourced.mono {others more : String → Prop} {script : Script Elements}
    (sourced : resolver.Sourced others script) (weaker : ∀ name, others name → more name) :
    resolver.Sourced more script :=
  fun elements ok name listed => (sourced elements ok name listed).mono (fun _ => id) (weaker name)

section

variable {others : String → Prop}

theorem sourced_of_visitless {script : Script Elements}
    (listed : ∀ elements, script.outcome = .ok elements → ∀ name ∈ elements.names, others name) :
    resolver.Sourced others script :=
  fun elements ok name inside => .inr (listed elements ok name inside)

theorem sourced_pure_nil (nullable : Bool) : resolver.Sourced others (pure ⟨[], nullable⟩) := by
  intro elements ok name listed
  cases ok
  cases listed

theorem sourced_fail (failure : Failure) : resolver.Sourced others (Script.fail failure) := by
  intro elements ok
  cases ok

end

theorem mem_visits_uniform {schema : Json}
    (inside : child ∈ (resolver.uniform parent key path schema).visits) :
    resolver.Found schema parent key none child := by
  unfold uniform at inside
  rcases Script.mem_visits_bind.mp inside with inside | ⟨finding, found, inside⟩
  · simp [visits_inspect] at inside
  rcases Script.mem_visits_bind.mp inside with inside | ⟨_, _, inside⟩
  · exact mem_visits_ownModel found inside
  · cases inside

theorem sourced_uniform {others : String → Prop} (schema : Json) :
    resolver.Sourced others (resolver.uniform parent key path schema) := by
  intro elements ok name listed
  unfold uniform at ok ⊢
  obtain ⟨finding, found, ok⟩ := Script.outcome_bind.mp ok
  obtain ⟨modelName, own, ok⟩ := Script.outcome_bind.mp ok
  cases ok
  obtain ⟨child, inside, named⟩ := (ownModel_ok own).2 name (by simpa using listed)
  exact .inl ⟨child, Script.mem_visits_next found (Script.mem_visits_first inside _), named⟩

theorem str_of_kindOf {place : Option String} {value : Json} {kind : Kind}
    (known : Inferred.kindOf place value = .ok kind) : value = .str kind.name := by
  unfold Inferred.kindOf at known
  split at known
  next found =>
    cases known
    obtain ⟨text, written, named⟩ := Option.bind_eq_some_iff.mp found
    cases value with
    | str other =>
      cases written
      rw [Kind.name_of_ofName? named]
    | _ => cases written
  next => cases known

theorem exists_ne_of_eraseDups {kinds : List Kind} (several : 1 < kinds.eraseDups.length)
    (kind : Kind) : ∃ other ∈ kinds, other ≠ kind := by
  cases kinds with
  | nil => cases several
  | cons first rest =>
    by_cases same : first = kind
    · rw [List.eraseDups_cons, List.length_cons] at several
      obtain ⟨other, inside⟩ := List.exists_mem_of_length_pos (Nat.lt_of_succ_lt_succ several)
      obtain ⟨inside, different⟩ := List.mem_filter.mp (List.mem_eraseDups.mp inside)
      exact ⟨other, List.mem_cons_of_mem _ inside, by simpa [same] using different⟩
    · exact ⟨first, List.mem_cons_self, same⟩

theorem tag_of_ofKind {kind : Kind} {schema : Json} {inferred : Inferred}
    (known : Inferred.ofKind kind false schema = .ok inferred) :
    (inferred.tag ≠ .object ∧ inferred.tag ≠ .array) ∨
      kind.name = inferred.tag.name ∧ (kind = .object ∨ kind = .array) := by
  cases kind with
  | object =>
    cases known
    exact .inr ⟨rfl, .inl rfl⟩
  | array =>
    cases known
    exact .inr ⟨rfl, .inr rfl⟩
  | integer =>
    obtain ⟨minimum, -, known⟩ := Failure.bind_eq_ok.mp known
    cases known
    left
    dsimp only
    split <;> decide
  | _ =>
    cases known
    left
    decide

theorem shorthand_ok {names : List Json} (ok : shorthand path names = .ok elements) :
    ∀ name ∈ elements.names, Tag.IsScalarName name ∨ (Json.arr names).Abbreviates name := by
  obtain ⟨kinds, read, ok⟩ := Failure.bind_eq_ok.mp ok
  dsimp only at ok
  split at ok
  next =>
    cases ok
    simp
  next several =>
    obtain ⟨inferred, made, ok⟩ := Failure.bind_eq_ok.mp ok
    cases ok
    intro name listed
    obtain ⟨one, inside, rfl⟩ := List.mem_map.mp listed
    obtain ⟨kind, among, known⟩ := forall₂_right (Failure.mapM_eq_ok.mp made) inside
    rcases tag_of_ofKind known with scalar | ⟨same, structural⟩
    · exact .inl ⟨one.tag, rfl, scalar⟩
    · have among := List.mem_eraseDups.mp among
      obtain ⟨other, beside, different⟩ := exists_ne_of_eraseDups (Nat.lt_of_not_le several) kind
      rw [List.mem_filter, decide_eq_true_eq] at among beside
      refine .inr ⟨kinds, congrArg Json.arr ?_, kind, among.1, same, structural, other, beside.1,
        different, beside.2⟩
      have written := map_eq_of_forall₂ (Failure.mapM_eq_ok.mp read) fun _ _ => str_of_kindOf
      rwa [List.map_id'] at written

theorem type_of_isNull {members : List (String × Json)} (null : isNull members = true) :
    (Json.obj members).member? "type" = .ok (some (.str "null")) := by
  obtain ⟨-, typed⟩ := Bool.and_eq_true_iff.mp null
  obtain ⟨value, looked, text⟩ := Option.bind_eq_some_iff.mp (eq_of_beq typed)
  cases value with
  | str name =>
    cases text
    exact congrArg Except.ok looked
  | _ => cases text

theorem mem_visits_alternative {index : Nat} {entry : Json}
    (inside : child ∈ (resolver.alternative parent key path index entry).visits) :
    resolver.Found (spelledOut entry) parent key (some (index + 1)) child := by
  unfold alternative at inside
  split at inside
  next members spelled =>
    rw [spelled]
    split at inside
    next => cases inside
    next =>
      rcases Script.mem_visits_bind.mp inside with inside | ⟨finding, found, inside⟩
      · simp [visits_inspect] at inside
      rcases Script.mem_visits_bind.mp inside with inside | ⟨_, _, inside⟩
      · exact mem_visits_ownModel found inside
      · cases inside
  next => cases inside

theorem mem_namesOf {tag : Tag} {modelName : Option String} (listed : name ∈ namesOf tag modelName) :
    modelName = some name ∨ Tag.IsScalarName name := by
  cases modelName with
  | some known =>
    left
    simpa [namesOf, eq_comm] using listed
  | none =>
    right
    refine ⟨tag, ?_⟩
    cases tag <;> simp_all [namesOf]

theorem sourced_alternative (index : Nat) (entry : Json) :
    resolver.Sourced Tag.IsScalarName (resolver.alternative parent key path index entry) := by
  unfold alternative
  split
  next members spelled =>
    split
    next => exact sourced_pure_nil true
    next =>
      intro elements ok name listed
      obtain ⟨finding, found, ok⟩ := Script.outcome_bind.mp ok
      obtain ⟨modelName, own, ok⟩ := Script.outcome_bind.mp ok
      cases ok
      rcases mem_namesOf listed with rfl | tagged
      · obtain ⟨child, inside, named⟩ := (ownModel_ok own).2 name rfl
        exact .inl ⟨child, Script.mem_visits_next found (Script.mem_visits_first inside _), named⟩
      · exact .inr tagged
  next => exact sourced_fail _

theorem mem_visits_alternatives {first : Nat} {entries : List Json}
    (inside : child ∈ (resolver.alternatives parent key path first entries).visits) :
    ∃ index entry, entries[index]? = some entry ∧
      resolver.Found (spelledOut entry) parent key (some ((first + index : Nat) + 1)) child := by
  induction entries generalizing first with
  | nil => cases inside
  | cons entry rest ih =>
    rw [alternatives] at inside
    rcases Script.mem_visits_bind.mp inside with here | ⟨_, _, inside⟩
    · exact ⟨0, entry, rfl, by simpa using mem_visits_alternative here⟩
    rcases Script.mem_visits_bind.mp inside with later | ⟨_, _, inside⟩
    · obtain ⟨index, other, listed, found⟩ := ih later
      refine ⟨index + 1, other, by simpa using listed, ?_⟩
      have place : first + (index + 1) = first + 1 + index := by omega
      rw [place]
      exact found
    · cases inside

theorem sourced_alternatives (first : Nat) (entries : List Json) :
    resolver.Sourced Tag.IsScalarName (resolver.alternatives parent key path first entries) := by
  induction entries generalizing first with
  | nil => exact sourced_pure_nil false
  | cons entry rest ih =>
    intro elements ok name listed
    rw [alternatives] at ok ⊢
    obtain ⟨one, here, ok⟩ := Script.outcome_bind.mp ok
    obtain ⟨others, later, ok⟩ := Script.outcome_bind.mp ok
    cases ok
    rw [Script.visits_bind_of_ok here, Script.visits_bind_of_ok later]
    rcases List.mem_append.mp listed with listed | listed
    · exact (sourced_alternative first entry one here name listed).mono (by simp_all) id
    · exact (ih (first + 1) others later name listed).mono (by simp_all) id

theorem mem_visits_elementsOf {items : Json}
    (inside : child ∈ (resolver.elementsOf parent key path items).visits) :
    ∃ position raw, items.Offers position raw ∧ resolver.Found raw parent key position child := by
  cases items with
  | obj members =>
    simp only [elementsOf] at inside
    split at inside
    next entries several =>
      obtain ⟨index, entry, listed, found⟩ := mem_visits_alternatives inside
      exact ⟨_, _, .alternative several listed, by simpa using found⟩
    next => cases inside
    next single => exact ⟨_, _, .uniform single, mem_visits_uniform inside⟩
  | arr entries =>
    simp only [elementsOf] at inside
    split at inside
    next => cases inside
    next =>
      obtain ⟨index, entry, listed, found⟩ := mem_visits_alternatives inside
      exact ⟨_, _, .listed listed, by simpa using found⟩
  | _ => cases inside

theorem sourced_elementsOf (items : Json) :
    resolver.Sourced (fun name => Tag.IsScalarName name ∨ items.Abbreviates name)
      (resolver.elementsOf parent key path items) := by
  cases items with
  | null => exact sourced_pure_nil false
  | obj members =>
    simp only [elementsOf]
    split
    next => exact (sourced_alternatives 0 _).mono fun _ => .inl
    next => exact sourced_fail _
    next => exact sourced_uniform _
  | arr entries =>
    simp only [elementsOf]
    split
    next => exact sourced_of_visitless fun elements ok => shorthand_ok ok
    next => exact (sourced_alternatives 0 _).mono fun _ => .inl
  | _ => exact sourced_fail _

theorem mem_visits_elements {list : Json}
    (inside : child ∈ (resolver.elements parent key path list).visits) :
    ∃ items position raw, list.member? "items" = .ok (some items) ∧ items.Offers position raw ∧
      resolver.Found raw parent key position child := by
  rcases Script.mem_visits_bind.mp inside with inside | ⟨items, listing, inside⟩
  · cases inside
  obtain ⟨position, raw, offered, found⟩ := mem_visits_elementsOf inside
  cases items with
  | none => cases offered
  | some items =>
    exact ⟨items, position, raw, Failure.ofMisuse_eq_ok.mp listing, offered, found⟩

/-- The names that the elements of a list may have if they have no models. -/
def Modelless (list : Json) (name : String) : Prop :=
  Tag.IsScalarName name ∨ ∃ items, list.member? "items" = .ok (some items) ∧ items.Abbreviates name

theorem sourced_elements (list : Json) :
    resolver.Sourced (Modelless list) (resolver.elements parent key path list) := by
  intro elements ok name listed
  obtain ⟨items, listing, ok⟩ := Script.outcome_bind.mp ok
  refine (sourced_elementsOf _ elements ok name listed).mono ?_ ?_
  · exact fun site inside => Script.mem_visits_next listing inside
  · rintro (scalar | short)
    · exact .inl scalar
    · cases items with
      | none =>
        obtain ⟨_, equal, -⟩ := short
        cases equal
      | some items => exact .inr ⟨items, Failure.ofMisuse_eq_ok.mp listing, short⟩

theorem tag_of_modelless {list : Json} (modelless : Modelless list name) :
    ∃ tag : Tag, tag.name = name := by
  rcases modelless with ⟨tag, named, -⟩ | ⟨_, -, _, -, kind, -, rfl, rfl | rfl, -⟩
  · exact ⟨tag, named⟩
  · exact ⟨.object, rfl⟩
  · exact ⟨.array, rfl⟩

theorem mem_visits_held
    (inside : child ∈ (resolver.held finding parent key path).visits) :
    finding.inferred.tag = .array ∧
      ∃ items position raw, finding.reference.schema.member? "items" = .ok (some items) ∧
        items.Offers position raw ∧ resolver.Found raw parent key position child := by
  unfold held at inside
  split at inside
  next list => exact ⟨list, mem_visits_elements inside⟩
  next => cases inside

theorem sourced_held :
    resolver.Sourced (Modelless finding.reference.schema) (resolver.held finding parent key path) := by
  unfold held
  split
  next => exact sourced_elements _
  next => exact sourced_pure_nil false

theorem tag_of_held (ok : (resolver.held finding parent key path).outcome = .ok elements)
    (listed : elements.names ≠ []) : finding.inferred.tag = .array := by
  unfold held at ok
  split at ok
  next list => exact list
  next =>
    cases ok
    exact absurd rfl listed

theorem described_ok {settings : Settings} {entry : Json} {isRequired : Bool}
    {modelName : Option String} :
    described settings key entry isRequired finding modelName elements = .ok property ↔
      settings.propertyName key entry = .ok property.name ∧
      descriptionOf entry finding.reference.schema = .ok property.description ∧
      property.tag = finding.inferred.tag ∧ property.modelName = modelName ∧
      property.optional = (finding.inferred.optional || !isRequired || elements.nullable) ∧
      property.elementTypes = elements.names ∧ property.hasProperties = modelName.isSome := by
  simp only [described, Failure.bind_eq_ok, Failure.ofMisuse_eq_ok]
  constructor
  · rintro ⟨name, named, description, described, equal⟩
    split at equal
    · cases equal
      exact ⟨named, described, rfl, rfl, rfl, rfl, rfl⟩
    · cases equal
  · rcases property with ⟨name, tag, optional, description, _, elementTypes, _, nonempty⟩
    rintro ⟨named, described, tagged, modelled, optional, listed, flagged⟩
    dsimp only at *
    subst tagged modelled optional listed flagged
    refine ⟨name, named, description, described, ?_⟩
    rw [dif_pos nonempty]
    rfl

theorem property_ok {required : List Json} {entry : Json} :
    (resolver.property site required key entry).outcome = .ok property ↔
      entry.isObject ∧ ∃ finding elements,
        (resolver.inspect entry (site.path ++ "/properties/" ++ key)).outcome = .ok finding ∧
        (resolver.ownModel finding site.base key none
          (site.path ++ "/properties/" ++ key)).outcome = .ok property.modelName ∧
        (resolver.held finding site.base key (site.path ++ "/properties/" ++ key)).outcome =
          .ok elements ∧
        described resolver.settings key entry (required.any (·.text? == some key)) finding
          property.modelName elements = .ok property := by
  unfold Resolver.property
  dsimp only
  split
  next object =>
    simp only [Script.outcome_bind, Script.outcome_attempt, object, true_and]
    constructor
    · rintro ⟨finding, found, modelName, own, elements, held, described⟩
      obtain ⟨-, -, -, rfl, -⟩ := described_ok.mp described
      exact ⟨finding, elements, found, own, held, described⟩
    · rintro ⟨finding, elements, found, own, held, described⟩
      exact ⟨finding, found, _, own, elements, held, described⟩
  next bare => simp [bare]

theorem tag_of_property {required : List Json} {entry : Json}
    (ok : (resolver.property site required key entry).outcome = .ok property) :
    property.hasProperties = property.modelName.isSome ∧
      (property.modelName.isSome → property.tag = .object) ∧
      (property.elementTypes ≠ [] → property.tag = .array) := by
  obtain ⟨-, finding, elements, found, own, held, described⟩ := property_ok.mp ok
  obtain ⟨-, -, tag, -, -, elementTypes, hasProperties⟩ := described_ok.mp described
  refine ⟨hasProperties, fun modelled => ?_, fun listed => ?_⟩
  · obtain ⟨-, -, known⟩ := findingOf_ok.mp (inspect_ok.mp found).2
    rw [← (ownModel_ok own).1, modelled] at known
    rw [tag]
    exact (hasModel_ok.mp known).1
  · rw [tag]
    exact tag_of_held held (elementTypes ▸ listed)

theorem modelName_of_property {required : List Json} {entry : Json}
    (ok : (resolver.property site required key entry).outcome = .ok property) :
    ∀ name ∈ property.modelName,
      ∃ child ∈ (resolver.property site required key entry).visits, resolver.nameOf child = name := by
  obtain ⟨object, finding, elements, found, own, -, -⟩ := property_ok.mp ok
  intro name known
  obtain ⟨child, inside, named⟩ := (ownModel_ok own).2 name known
  refine ⟨child, ?_, named⟩
  unfold Resolver.property
  rw [if_pos object]
  exact Script.mem_visits_next found (Script.mem_visits_first inside _)

theorem listed_of_property {required : List Json} {entry : Json}
    (ok : (resolver.property site required key entry).outcome = .ok property) :
    ∃ finding, (resolver.inspect entry (site.path ++ "/properties/" ++ key)).outcome = .ok finding ∧
      ∀ name ∈ property.elementTypes, resolver.AccountedBy (Modelless finding.reference.schema)
        (resolver.property site required key entry).visits name := by
  obtain ⟨object, finding, elements, found, own, held, described⟩ := property_ok.mp ok
  obtain ⟨-, -, -, -, -, elementTypes, -⟩ := described_ok.mp described
  refine ⟨finding, found, fun name listed => ?_⟩
  rw [elementTypes] at listed
  refine (sourced_held elements held name listed).mono (fun child inside => ?_) id
  unfold Resolver.property
  rw [if_pos object]
  exact Script.mem_visits_next found
    (Script.mem_visits_next own (Script.mem_visits_first inside _))

theorem elementTypes_of_property {required : List Json} {entry : Json}
    (ok : (resolver.property site required key entry).outcome = .ok property) :
    ∀ name ∈ property.elementTypes,
      resolver.Accounted (resolver.property site required key entry).visits name := by
  obtain ⟨finding, -, known⟩ := listed_of_property ok
  exact fun name listed => (known name listed).mono (fun _ => id) tag_of_modelless

theorem mem_visits_property {required : List Json} {entry : Json}
    (declared : site.schema.Declares key entry)
    (inside : child ∈ (resolver.property site required key entry).visits) :
    resolver.Child site child := by
  unfold Resolver.property at inside
  dsimp only at inside
  split at inside
  next =>
    rcases Script.mem_visits_bind.mp inside with inside | ⟨finding, found, inside⟩
    · simp [visits_inspect] at inside
    rcases Script.mem_visits_bind.mp inside with inside | ⟨_, -, inside⟩
    · exact .value declared (mem_visits_ownModel found inside)
    rcases Script.mem_visits_bind.mp inside with inside | ⟨_, -, inside⟩
    · obtain ⟨list, items, position, raw, listing, offered, placed⟩ := mem_visits_held inside
      exact .element declared found list listing offered placed
    · cases inside
  next => cases inside

theorem ofProperties_ok {properties : List Property} {model : Model} :
    Model.ofProperties name properties = .ok model ↔ model.name = name ∧
      model.properties = properties ∧
      model.dependencies = NameSet.ofList (properties.flatMap Property.dependencies) := by
  unfold Model.ofProperties
  split
  next nonempty =>
    rcases model with ⟨_, _, _, _⟩
    simp [eq_comm]
  next empty =>
    rcases model with ⟨other, _, _, named⟩
    simp only [reduceCtorEq, false_iff]
    rintro ⟨rfl, -⟩
    exact empty named

theorem model_ok {model : Model} :
    (resolver.model site).outcome = .ok model ↔ ∃ required entries,
      requiredOf site = .ok required ∧ propertiesOf site.schema = .ok entries ∧
      List.Forall₂ (fun entry property =>
        (resolver.property site required entry.1 entry.2).outcome = .ok property)
        entries model.properties ∧
      model.name = resolver.nameOf site ∧
      model.dependencies = NameSet.ofList (model.properties.flatMap Property.dependencies) := by
  simp only [Resolver.model, Script.outcome_bind, Script.outcome_attempt, Failure.ofMisuse_eq_ok,
    Script.outcome_mapM, ofProperties_ok]
  constructor
  · rintro ⟨required, needed, entries, declared, properties, built, name, rfl, dependencies⟩
    exact ⟨required, entries, needed, declared, built, name, dependencies⟩
  · rintro ⟨required, entries, needed, declared, built, name, dependencies⟩
    exact ⟨required, needed, entries, declared, model.properties, built, name, rfl, dependencies⟩

theorem name_of_model {model : Model} (ok : (resolver.model site).outcome = .ok model) :
    model.name = resolver.nameOf site := by
  obtain ⟨_, _, -, -, -, named, -⟩ := model_ok.mp ok
  exact named

theorem child_of_mem_visits (inside : child ∈ (resolver.model site).visits) :
    resolver.Child site child := by
  rcases Script.mem_visits_bind.mp inside with inside | ⟨required, -, inside⟩
  · cases inside
  rcases Script.mem_visits_bind.mp inside with inside | ⟨entries, declared, inside⟩
  · cases inside
  rcases Script.mem_visits_bind.mp inside with inside | ⟨_, -, inside⟩
  · obtain ⟨⟨key, entry⟩, member, inside⟩ := Script.mem_visits_mapM inside
    refine mem_visits_property ⟨entries, ?_, member⟩ inside
    exact Failure.ofMisuse_eq_ok.mp declared
  · cases inside

theorem declared_of_model {model : Model} (ok : (resolver.model site).outcome = .ok model)
    {property : Property} (member : property ∈ model.properties) :
    ∃ required key entry, site.schema.Declares key entry ∧
      (resolver.property site required key entry).outcome = .ok property ∧
      ∀ child ∈ (resolver.property site required key entry).visits,
        child ∈ (resolver.model site).visits := by
  obtain ⟨required, needed, ok⟩ := Script.outcome_bind.mp ok
  obtain ⟨entries, declared, ok⟩ := Script.outcome_bind.mp ok
  obtain ⟨properties, built, ok⟩ := Script.outcome_bind.mp ok
  obtain ⟨-, rfl, -⟩ := ofProperties_ok.mp ok
  obtain ⟨⟨key, entry⟩, listed, made, inside⟩ := Script.item_of_mapM built member
  refine ⟨required, key, entry, ⟨entries, Failure.ofMisuse_eq_ok.mp declared, listed⟩, made, ?_⟩
  intro child visited
  exact Script.mem_visits_next needed (Script.mem_visits_next declared
    (Script.mem_visits_first (inside child visited) _))

theorem property_of_model {model : Model} (ok : (resolver.model site).outcome = .ok model)
    {property : Property} (member : property ∈ model.properties) :
    ∃ required key entry, (resolver.property site required key entry).outcome = .ok property ∧
      ∀ child ∈ (resolver.property site required key entry).visits,
        child ∈ (resolver.model site).visits := by
  obtain ⟨required, key, entry, -, made, inside⟩ := declared_of_model ok member
  exact ⟨required, key, entry, made, inside⟩

/-- A model depends on the sites that are visited for it, and on tags. -/
theorem accounted_of_model {model : Model} (ok : (resolver.model site).outcome = .ok model)
    (depends : name ∈ model.dependencies) : resolver.Accounted (resolver.model site).visits name := by
  obtain ⟨_, _, _, _, _, _, dependencies⟩ := model_ok.mp ok
  rw [dependencies, NameSet.mem_ofList] at depends
  obtain ⟨property, member, depends⟩ := List.mem_flatMap.mp depends
  obtain ⟨_, _, _, made, below⟩ := property_of_model ok member
  rcases List.mem_append.mp depends with modelled | listed
  · obtain ⟨child, inside, named⟩ := modelName_of_property made name (by simpa using modelled)
    exact .inl ⟨child, below child inside, named⟩
  · exact (elementTypes_of_property made name listed).mono below

theorem start_of_mem_visits (inside : child ∈ resolver.root.visits) : resolver.Start child := by
  rcases Script.mem_visits_bind.mp inside with inside | ⟨finding, found, inside⟩
  · simp [visits_inspect] at inside
  rcases Script.mem_visits_bind.mp inside with inside | ⟨base, named, inside⟩
  · cases inside
  split at inside
  next modelled =>
    cases List.mem_singleton.mp inside
    exact .whole found modelled named
  next =>
    split at inside
    next =>
      rw [Script.visits_discard] at inside
      obtain ⟨items, position, raw, listing, offered, placed⟩ := mem_visits_elements inside
      exact .element found named listing offered placed
    next => cases inside

theorem Found.modelled {raw : Json} (found : resolver.Found raw parent key position site) :
    site.Modelled := by
  obtain ⟨finding, found, modelled, schema, -⟩ := found
  obtain ⟨-, -, known⟩ := findingOf_ok.mp (inspect_ok.mp found).2
  rw [modelled] at known
  rw [Site.Modelled, schema]
  exact (hasModel_ok.mp known).2

theorem Child.modelled (below : resolver.Child site child) : child.Modelled := by
  cases below with
  | value declared found => exact found.modelled
  | element declared behind list listing offered found => exact found.modelled

theorem Start.modelled (start : resolver.Start site) : site.Modelled := by
  cases start with
  | whole found modelled named =>
    obtain ⟨-, -, known⟩ := findingOf_ok.mp (inspect_ok.mp found).2
    rw [modelled] at known
    exact (hasModel_ok.mp known).2
  | element found named listing offered placed => exact placed.modelled

end Resolver

end SchemaCatalog
