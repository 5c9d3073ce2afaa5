import Mathlib.Data.List.Induction
import SchemaCatalog.Proofs.Integrity

/-! Where models come from. A name is claimed when its site is first visited, at the root or for a model
under construction, and a finished model records every site that was visited for it. Main statement:
models come in the order of their claims, so each of them stands at the root or is a dependency of one
before it.
-/
namespace SchemaCatalog

namespace Model

/-- A dependency of one of some models. -/
def Sponsored (models : List (String × Model)) (name : String) : Prop :=
  ∃ parent ∈ models, name ∈ parent.2.dependencies

/-- Models in an order in which each comes under a given name or is a dependency of one before it. -/
def Descending (roots : List String) (models : List (String × Model)) : Prop :=
  ∀ before name model after, models = before ++ (name, model) :: after →
    name ∈ roots ∨ Sponsored before name

/-- Names that are reached from given ones through the dependencies of models. -/
inductive Reached (models : List (String × Model)) (roots : List String) : String → Prop
  | root {name} (given : name ∈ roots) : Reached models roots name
  | dependency {name parent model} (before : Reached models roots parent)
      (stored : (parent, model) ∈ models) (depends : name ∈ model.dependencies) :
      Reached models roots name

theorem Descending.reached {roots : List String} {models : List (String × Model)}
    (descending : Descending roots models) : ∀ name ∈ models.map (·.1), Reached models roots name := by
  -- along the prefixes, as a model is reached through one before it
  have prefixes (before : List (String × Model)) : ∀ after, models = before ++ after →
      ∀ entry ∈ before, Reached models roots entry.1 := by
    induction before using List.reverseRecOn with
    | nil => simp
    | append_singleton before last ih =>
      intro after whole entry inside
      rw [List.append_assoc, List.singleton_append] at whole
      rcases List.mem_append.mp inside with inside | inside
      · exact ih _ whole entry inside
      · cases List.mem_singleton.mp inside
        rcases descending _ _ _ _ whole with given | ⟨parent, known, depends⟩
        · exact .root given
        · refine .dependency (ih _ whole parent known) ?_ depends
          rw [whole]
          exact List.mem_append_left _ known
  intro name listed
  obtain ⟨entry, inside, rfl⟩ := List.mem_map.mp listed
  exact prefixes models [] (List.append_nil models).symm entry inside

end Model

namespace Resolver

variable {resolver : Resolver} {site child : Site} {parent key path : String}
  {position : Option Int} {finding : Finding} {elements : Elements} {property : Property}
  {model : Model}

/-- Whatever a script visits it lists. -/
def Recorded (resolver : Resolver) (script : Script Elements) : Prop :=
  ∀ elements, script.outcome = .ok elements →
    ∀ child ∈ script.visits, resolver.nameOf child ∈ elements.names

theorem recorded_ownModel {modelName : Option String}
    (ok : (resolver.ownModel finding parent key position path).outcome = .ok modelName)
    (inside : child ∈ (resolver.ownModel finding parent key position path).visits) :
    modelName = some (resolver.nameOf child) := by
  unfold ownModel at ok inside
  split at ok
  next modelled =>
    rw [if_pos modelled] at inside
    obtain ⟨base, named, ok⟩ := Script.outcome_bind.mp ok
    rw [Script.visits_bind_of_ok named, Script.visits_attempt, List.nil_append] at inside
    cases ok
    cases List.mem_singleton.mp inside
    rfl
  next bare =>
    rw [if_neg bare] at inside
    cases inside

theorem recorded_of_visitless {script : Script Elements} (none_visited : script.visits = []) :
    resolver.Recorded script := by
  intro elements _ child inside
  rw [none_visited] at inside
  cases inside

theorem recorded_listing {raw : Json} {listing : Finding → Option String → Elements}
    (lists : ∀ finding name, name ∈ (listing finding (some name)).names) :
    resolver.Recorded (do
      let finding ← resolver.inspect raw path
      let modelName ← resolver.ownModel finding parent key position path
      return listing finding modelName) := by
  intro elements ok child inside
  obtain ⟨finding, found, ok⟩ := Script.outcome_bind.mp ok
  obtain ⟨modelName, own, ok⟩ := Script.outcome_bind.mp ok
  cases ok
  rw [Script.visits_bind_of_ok found, Script.visits_bind_of_ok own, visits_inspect,
    Script.visits_pure, List.append_nil, List.nil_append] at inside
  rw [recorded_ownModel own inside]
  exact lists finding _

theorem recorded_uniform (schema : Json) :
    resolver.Recorded (resolver.uniform parent key path schema) :=
  recorded_listing fun _ _ => List.mem_singleton_self _

theorem recorded_alternative (index : Nat) (entry : Json) :
    resolver.Recorded (resolver.alternative parent key path index entry) := by
  unfold alternative
  split
  next members spelled =>
    split
    next => exact recorded_of_visitless rfl
    next => exact recorded_listing fun _ _ => List.mem_singleton_self _
  next => exact recorded_of_visitless rfl

theorem recorded_alternatives (first : Nat) (entries : List Json) :
    resolver.Recorded (resolver.alternatives parent key path first entries) := by
  induction entries generalizing first with
  | nil => exact recorded_of_visitless rfl
  | cons entry rest ih =>
    intro elements ok child inside
    rw [alternatives] at ok inside
    obtain ⟨one, here, ok⟩ := Script.outcome_bind.mp ok
    obtain ⟨others, later, ok⟩ := Script.outcome_bind.mp ok
    cases ok
    rw [Script.visits_bind_of_ok here, Script.visits_bind_of_ok later, Script.visits_pure,
      List.append_nil] at inside
    apply List.mem_append.mpr
    rcases List.mem_append.mp inside with inside | inside
    · exact .inl (recorded_alternative first entry one here child inside)
    · exact .inr (ih (first + 1) others later child inside)

theorem recorded_elementsOf (items : Json) :
    resolver.Recorded (resolver.elementsOf parent key path items) := by
  cases items with
  | obj members =>
    simp only [elementsOf]
    split
    next => exact recorded_alternatives 0 _
    next => exact recorded_of_visitless rfl
    next => exact recorded_uniform _
  | arr entries =>
    simp only [elementsOf]
    split
    next => exact recorded_of_visitless rfl
    next => exact recorded_alternatives 0 _
  | _ => exact recorded_of_visitless rfl

theorem recorded_elements (list : Json) :
    resolver.Recorded (resolver.elements parent key path list) := by
  intro elements ok child inside
  obtain ⟨items, listing, ok⟩ := Script.outcome_bind.mp ok
  unfold Resolver.elements at inside
  rw [Script.visits_bind_of_ok listing, Script.visits_attempt, List.nil_append] at inside
  exact recorded_elementsOf _ elements ok child inside

theorem recorded_held : resolver.Recorded (resolver.held finding parent key path) := by
  unfold held
  split
  next => exact recorded_elements _
  next => exact recorded_of_visitless rfl

theorem recorded_property {required : List Json} {entry : Json}
    (ok : (resolver.property site required key entry).outcome = .ok property)
    (inside : child ∈ (resolver.property site required key entry).visits) :
    resolver.nameOf child ∈ property.dependencies := by
  obtain ⟨object, finding, elements, found, own, held, described⟩ := property_ok.mp ok
  obtain ⟨-, -, -, -, -, elementTypes, -⟩ := described_ok.mp described
  unfold Resolver.property at inside
  rw [if_pos object, Script.visits_bind_of_ok found, Script.visits_bind_of_ok own,
    Script.visits_bind_of_ok held, visits_inspect, Script.visits_attempt, List.append_nil,
    List.nil_append] at inside
  apply List.mem_append.mpr
  rcases List.mem_append.mp inside with inside | inside
  · rw [recorded_ownModel own inside]
    exact .inl (List.mem_singleton_self _)
  · rw [elementTypes]
    exact .inr (recorded_held elements held child inside)

theorem recorded_model (ok : (resolver.model site).outcome = .ok model)
    (inside : child ∈ (resolver.model site).visits) :
    resolver.nameOf child ∈ model.dependencies := by
  obtain ⟨required, needed, ok⟩ := Script.outcome_bind.mp ok
  obtain ⟨entries, declared, ok⟩ := Script.outcome_bind.mp ok
  obtain ⟨properties, built, ok⟩ := Script.outcome_bind.mp ok
  obtain ⟨-, -, dependencies⟩ := ofProperties_ok.mp ok
  unfold Resolver.model at inside
  rw [Script.visits_bind_of_ok needed, Script.visits_bind_of_ok declared,
    Script.visits_bind_of_ok built] at inside
  simp only [Script.visits_attempt, List.append_nil, List.nil_append] at inside
  obtain ⟨entry, listed, inside⟩ := Script.mem_visits_mapM inside
  obtain ⟨property, member, made⟩ := forall₂_left (Script.outcome_mapM.mp built) listed
  rw [dependencies, NameSet.mem_ofList]
  exact List.mem_flatMap.mpr ⟨property, member, recorded_property made inside⟩

/-- Sites in an order in which each is one to start from, or is visited for one that stands before. -/
inductive Lineage (resolver : Resolver) (starts : List Site) : List Site → Prop
  | nil : Lineage resolver starts []
  | snoc {sites site} (before : Lineage resolver starts sites)
      (sponsored : site ∈ starts ∨ ∃ parent ∈ sites, site ∈ (resolver.model parent).visits) :
      Lineage resolver starts (sites ++ [site])

variable {starts sites : List Site} {registry next : Registry}

theorem Lineage.sponsored {before after : List Site}
    (lineage : resolver.Lineage starts (before ++ site :: after)) :
    site ∈ starts ∨ ∃ parent ∈ before, site ∈ (resolver.model parent).visits := by
  generalize whole : before ++ site :: after = sites at lineage
  induction lineage generalizing after with
  | nil => simp at whole
  | @snoc sites last _ sponsored ih =>
    rcases after.eq_nil_or_concat with rfl | ⟨others, final, rfl⟩
    · obtain ⟨rfl, equal⟩ := List.append_inj' whole rfl
      cases equal
      exact sponsored
    · rw [List.concat_eq_append, ← List.cons_append, ← List.append_assoc] at whole
      exact ih (List.append_inj' whole rfl).1

/-- A slot that was claimed for a site, with the model of that very site once it holds one. -/
def Held (resolver : Resolver) (site : Site) (slot : Slot) : Prop :=
  slot.name = resolver.nameOf site ∧ ∀ model ∈ slot.model, (resolver.model site).outcome = .ok model

/-- A registry whose slots were claimed for some sites, one after the other. -/
structure Traced (resolver : Resolver) (starts sites : List Site) (registry : Registry) : Prop where
  lineage : resolver.Lineage starts sites
  slots : List.Forall₂ resolver.Held sites registry.slots
  distinct : registry.names.Nodup

theorem Traced.names (traced : resolver.Traced starts sites registry) :
    sites.map resolver.nameOf = registry.names := by
  obtain ⟨-, slots, -⟩ := traced
  rw [Registry.names]
  generalize registry.slots = slots at slots
  induction slots with
  | nil => rfl
  | cons held _ ih => rw [List.map_cons, List.map_cons, ih, held.1]

theorem traced_empty (resolver : Resolver) (starts : List Site) : resolver.Traced starts [] {} where
  lineage := .nil
  slots := .nil
  distinct := List.nodup_nil

theorem Traced.claim (traced : resolver.Traced starts sites registry)
    (sponsored : site ∈ starts ∨ ∃ parent ∈ sites, site ∈ (resolver.model parent).visits)
    (claimed : resolver.claim site registry = .ok (true, next)) :
    resolver.Traced starts (sites ++ [site]) next where
  lineage := traced.lineage.snoc sponsored
  slots := by
    rw [(Registry.reserve_new claimed).2]
    exact List.rel_append traced.slots (.cons ⟨rfl, nofun⟩ .nil)
  distinct := Registry.nodup_reserve_new claimed traced.distinct

theorem Traced.store (traced : resolver.Traced starts sites registry) (here : site ∈ sites)
    (built : (resolver.model site).outcome = .ok model) (kept : registry.store model = .ok next) :
    resolver.Traced starts sites next where
  lineage := traced.lineage
  slots := by
    rw [(Registry.store_ok kept).2, List.forall₂_map_right_iff]
    have distinct := traced.distinct
    rw [← traced.names] at distinct
    refine (forall₂_inside traced.slots).imp ?_
    rintro other slot ⟨inside, -, named, held⟩
    split
    next same =>
      -- names are distinct, so the slot was claimed for this very site
      have equal : resolver.nameOf other = resolver.nameOf site := by
        rw [← named, same, name_of_model built]
      obtain rfl := List.inj_on_of_nodup_map distinct inside here equal
      refine ⟨named, ?_⟩
      rintro _ ⟨⟩
      exact built
    next => exact ⟨named, held⟩
  distinct := by
    rw [Registry.names_store kept]
    exact traced.distinct

end Resolver

/-- Whatever a walk claims stands at its start or descends from what was claimed before. -/
theorem Walk.traced {resolver : Resolver} {budget : Nat} {enclosing : List String}
    {acts : List Act} {progress final : Progress} {outcome : Except Failure Unit}
    (walk : Walk resolver budget enclosing acts progress outcome final) {starts sites : List Site}
    (before : resolver.Traced starts sites progress.registry)
    (here : ∀ site, Act.visit site ∈ acts →
      site ∈ starts ∨ ∃ parent ∈ sites, site ∈ (resolver.model parent).visits) :
    ∃ later, resolver.Traced starts (sites ++ later) final.registry := by
  have below {site : Site} {sites : List Site} :
      ∀ child, Act.visit child ∈ (resolver.model site).acts →
        child ∈ starts ∨ ∃ parent ∈ sites ++ [site], child ∈ (resolver.model parent).visits :=
    fun child inside => .inr ⟨site, List.mem_append_right _ List.mem_cons_self,
      Script.mem_visits.mpr inside⟩
  induction walk generalizing sites with
  | done => exact ⟨[], by simpa using before⟩
  | note rest ih => exact ih before fun site inside => here site (.tail _ inside)
  | exhausted => exact ⟨[], by simpa using before⟩
  | collided => exact ⟨[], by simpa using before⟩
  | reused _ rest ih => exact ih before fun site inside => here site (.tail _ inside)
  | failed claimed inner ih =>
    obtain ⟨later, traced⟩ := ih (before.claim (here _ List.mem_cons_self) claimed) below
    exact ⟨_, List.append_assoc .. ▸ traced⟩
  | unfinished claimed inner fault ih =>
    obtain ⟨later, traced⟩ := ih (before.claim (here _ List.mem_cons_self) claimed) below
    exact ⟨_, by simpa using traced⟩
  | unstored claimed inner built refused ih =>
    obtain ⟨later, traced⟩ := ih (before.claim (here _ List.mem_cons_self) claimed) below
    exact ⟨_, by simpa using traced⟩
  | stored claimed inner built kept rest ih ihRest =>
    -- first what is below the site, then what is beside it, each after what was claimed before
    obtain ⟨later, traced⟩ := ih (before.claim (here _ List.mem_cons_self) claimed) below
    rw [List.append_assoc] at traced
    have stored := traced.store (by simp) built kept
    obtain ⟨last, traced⟩ := ihRest stored fun site inside => by
      rcases here site (.tail _ inside) with start | ⟨parent, known, visited⟩
      · exact .inl start
      · exact .inr ⟨parent, List.mem_append_left _ known, visited⟩
    exact ⟨_, List.append_assoc .. ▸ traced⟩

namespace Resolver

variable {resolver : Resolver} {starts sites : List Site} {registry : Registry}
  {models : List (String × Model)} {finding : Finding} {base : String} {site : Site}

theorem Traced.made (traced : resolver.Traced starts sites registry)
    (frozen : registry.freeze = .ok models) :
    List.Forall₂ (fun site entry => entry.1 = resolver.nameOf site ∧
      (resolver.model site).outcome = .ok entry.2) sites models := by
  refine forall₂_square traced.slots (List.forall₂_same.mpr fun _ _ => rfl)
    (Registry.forall₂_freeze frozen) ?_
  rintro site slot _ ⟨name, model⟩ ⟨named, held⟩ rfl ⟨rfl, stored⟩
  exact ⟨named, held model stored⟩

/-- The models of a traced registry descend from the sites it started from. -/
theorem Traced.descending (traced : resolver.Traced starts sites registry)
    (frozen : registry.freeze = .ok models) :
    Model.Descending (starts.map resolver.nameOf) models := by
  have made := traced.made frozen
  rintro before name model after rfl
  have lineage := traced.lineage
  have early := List.forall₂_take_append _ _ _ made
  have late := List.forall₂_drop_append _ _ _ made
  -- the sites are cut where the models are, so a parent's model stands before as the parent does
  rw [← List.take_append_drop before.length sites] at lineage
  generalize sites.take before.length = first, sites.drop before.length = rest at *
  cases late with
  | cons here _ =>
    obtain ⟨rfl, -⟩ := here
    rcases lineage.sponsored with start | ⟨parent, inside, visited⟩
    · exact .inl (List.mem_map_of_mem start)
    · obtain ⟨entry, known, -, built⟩ := forall₂_left early inside
      exact .inr ⟨entry, known, recorded_model built visited⟩

/-- With one site to start from, its model comes first, and all others descend from models. -/
theorem Traced.first (traced : resolver.Traced [site] sites registry)
    (frozen : registry.freeze = .ok models) (some : models ≠ []) : ∃ model rest,
    models = (resolver.nameOf site, model) :: rest ∧ (resolver.model site).outcome = .ok model ∧
    ∀ before name child after, rest = before ++ (name, child) :: after →
      Model.Sponsored ((resolver.nameOf site, model) :: before) name := by
  have made := traced.made frozen
  have descending := traced.descending frozen
  have distinct := traced.distinct
  have lineage := traced.lineage
  rw [← (Registry.freeze_ok frozen).2.1] at distinct
  cases made with
  | nil => exact absurd rfl some
  | @cons other entry others rest here _ =>
    have start : other ∈ [site] := by
      have lineage : resolver.Lineage [site] ([] ++ other :: others) := lineage
      rcases lineage.sponsored with start | ⟨_, nothing, -⟩
      · exact start
      · cases nothing
    cases List.mem_singleton.mp start
    obtain ⟨name, model⟩ := entry
    obtain ⟨rfl, built⟩ := here
    refine ⟨model, rest, rfl, built, ?_⟩
    rintro before name child after rfl
    rcases descending (_ :: before) name child after rfl with root | sponsored
    · cases List.mem_singleton.mp root
      simp at distinct
    · exact sponsored

/-- The names that a root hands out: its own, or those of its elements if it is a list. -/
def rootNames (resolver : Resolver) (finding : Finding) (base : String) :
    Except Failure (List String) :=
  if finding.hasModel then return [resolver.settings.modelName base]
  else if finding.inferred.tag = .array then do
    return (← (resolver.elements base "" "#" finding.reference.schema).outcome).names
  else return []

/-- What is left of the root once its schema is found and its base name is known. -/
def belowRoot (resolver : Resolver) (finding : Finding) (base : String) : Script Unit :=
  if finding.hasModel then Script.visit ⟨finding.reference.schema, base, "#"⟩
  else if finding.inferred.tag = .array then
    discard (resolver.elements base "" "#" finding.reference.schema)
  else Script.note (.rootless finding.inferred.tag)

theorem root_ok : resolver.root.outcome = .ok () ↔ ∃ finding base,
    (resolver.inspect resolver.document "#").outcome = .ok finding ∧
    resolver.settings.rootBase finding.reference.schema finding.reference.name? = .ok base ∧
    (resolver.belowRoot finding base).outcome = .ok () := by
  simp only [root, belowRoot, Script.outcome_bind, Script.outcome_attempt]
  constructor
  · rintro ⟨finding, found, base, named, ok⟩
    exact ⟨finding, base, found, named, ok⟩
  · rintro ⟨finding, base, found, named, ok⟩
    exact ⟨finding, found, base, named, ok⟩

theorem visits_root (found : (resolver.inspect resolver.document "#").outcome = .ok finding)
    (named : resolver.settings.rootBase finding.reference.schema finding.reference.name? = .ok base) :
    resolver.root.visits = (resolver.belowRoot finding base).visits := by
  have named : (Script.attempt (resolver.settings.rootBase finding.reference.schema
      finding.reference.name?)).outcome = .ok base := named
  rw [root, Script.visits_bind_of_ok found, visits_inspect, List.nil_append]
  dsimp only
  rw [Script.visits_bind_of_ok named, Script.visits_attempt, List.nil_append, belowRoot]

/-- Whatever a root visits goes by a name that it hands out, and it hands out no others but tags. -/
theorem rootNames_ok (ok : (resolver.belowRoot finding base).outcome = .ok ()) :
    ∃ roots, resolver.rootNames finding base = .ok roots ∧
      (∀ site ∈ (resolver.belowRoot finding base).visits, resolver.nameOf site ∈ roots) ∧
      ∀ name ∈ roots, resolver.Accounted (resolver.belowRoot finding base).visits name := by
  unfold belowRoot at ok ⊢
  unfold rootNames
  by_cases modelled : finding.hasModel = true
  · simp only [modelled, if_true]
    refine ⟨_, rfl, ?_, ?_⟩
    · intro site inside
      cases List.mem_singleton.mp inside
      exact List.mem_singleton_self _
    · intro name listed
      cases List.mem_singleton.mp listed
      exact .inl ⟨_, List.mem_singleton_self _, rfl⟩
  · by_cases list : finding.inferred.tag = .array
    · simp only [modelled, list, if_true, if_false, Bool.false_eq_true] at ok ⊢
      obtain ⟨elements, listing⟩ := Script.outcome_discard.mp ok
      rw [Script.visits_discard, listing]
      refine ⟨elements.names, rfl, recorded_elements _ elements listing, fun name listed => ?_⟩
      exact (sourced_elements _ elements listing name listed).mono (fun _ => id) tag_of_modelless
    · simp only [modelled, list, if_false, Bool.false_eq_true]
      refine ⟨[], rfl, fun site inside => ?_, fun name inside => ?_⟩
      · cases inside
      · cases inside

/-- How the models of a document are arranged, by the schema at its root, the base name of that, and
the names that it hands out. -/
structure Arranged (resolver : Resolver) (finding : Finding) (base : String) (roots : List String)
    (models : List (String × Model)) : Prop where
  distinct : (models.map (·.1)).Nodup
  object : finding.hasModel = true → ∃ model rest,
    models = (resolver.settings.modelName base, model) :: rest ∧
    (resolver.model ⟨finding.reference.schema, base, "#"⟩).outcome = .ok model ∧
    ∀ before name child after, rest = before ++ (name, child) :: after →
      Model.Sponsored ((resolver.settings.modelName base, model) :: before) name
  list : finding.inferred.tag = .array → Model.Descending roots models
  other : finding.hasModel = false → finding.inferred.tag ≠ .array → models = []
  reached : ∀ name ∈ models.map (·.1), Model.Reached models roots name
  closed : ∀ name, Model.Reached models roots name →
    name ∈ models.map (·.1) ∨ ∃ tag : Tag, tag.name = name

theorem Accounted.listed (frozen : registry.freeze = .ok models) {visits : List Site} {name : String}
    (covered : ∀ site ∈ visits, resolver.Covered registry site)
    (known : resolver.Accounted visits name) :
    name ∈ models.map (·.1) ∨ ∃ tag : Tag, tag.name = name := by
  rcases known with ⟨site, inside, rfl⟩ | tagged
  · left
    rw [(Registry.freeze_ok frozen).2.1]
    exact (covered site inside).mem_names
  · exact .inr tagged

theorem listed_of_reached (grounded : resolver.Grounded Site.Modelled registry)
    (frozen : registry.freeze = .ok models) {roots : List String} {name : String}
    (rooted : ∀ name ∈ roots, name ∈ models.map (·.1) ∨ ∃ tag : Tag, tag.name = name)
    (reached : Model.Reached models roots name) :
    name ∈ models.map (·.1) ∨ ∃ tag : Tag, tag.name = name := by
  cases reached with
  | root given => exact rooted name given
  | dependency _ stored depends =>
    obtain ⟨slot, inside, -, held⟩ := ((Registry.freeze_ok frozen).2.2 _ _).mp stored
    obtain ⟨site, origin⟩ := grounded.origin slot inside
    obtain ⟨built, covered⟩ := origin.built _ held
    exact (accounted_of_model built depends).listed frozen covered

theorem arranged_of_resolve {budget : Nat} {start final : Progress}
    (ok : (resolver.resolveWithin budget).run start = (.ok models, final)) : ∃ finding base roots,
    (resolver.inspect resolver.document "#").outcome = .ok finding ∧
    resolver.settings.rootBase finding.reference.schema finding.reference.name? = .ok base ∧
    resolver.rootNames finding base = .ok roots ∧
    resolver.Arranged finding base roots models := by
  obtain ⟨middle, walk, outcome, frozen, -⟩ := resolveWithin_ok.mp ok
  obtain ⟨finding, base, found, named, below⟩ := root_ok.mp outcome
  obtain ⟨roots, known, handed, accounted⟩ := rootNames_ok below
  obtain ⟨later, traced⟩ := walk.traced (traced_empty resolver resolver.root.visits)
    fun site inside => .inl (Script.mem_visits.mpr inside)
  obtain ⟨grounded, covered⟩ :=
    walk.grounded resolver.stable_modelled (grounded_empty resolver _) modelled_of_start
  have covered : ∀ site ∈ resolver.root.visits, resolver.Covered middle.registry site :=
    fun site inside => covered rfl site (Script.mem_visits.mp inside)
  have descending := traced.descending frozen
  rw [visits_root found named] at traced covered descending
  have rooted : Model.Descending roots models := by
    intro before name model after whole
    refine (descending before name model after whole).imp_left fun start => ?_
    obtain ⟨site, inside, rfl⟩ := List.mem_map.mp start
    exact handed site inside
  refine ⟨finding, base, roots, found, named, known, ?_, ?_, fun _ => rooted, ?_, rooted.reached, ?_⟩
  · rw [(Registry.freeze_ok frozen).2.1]
    exact grounded.distinct
  · intro modelled
    rw [belowRoot, if_pos modelled, Script.visits_visit] at traced covered
    refine traced.first frozen fun none_listed => ?_
    have listed := List.mem_map_of_mem (f := (·.1)) (covered _ (List.mem_singleton_self _))
    rw [← Registry.names_eq_claims, ← (Registry.freeze_ok frozen).2.1, none_listed] at listed
    cases listed
  · intro bare scalar
    rw [belowRoot, if_neg (by simp [bare]), if_neg scalar, Script.visits_note] at descending
    cases models with
    | nil => rfl
    | cons entry rest =>
      rcases descending [] entry.1 entry.2 rest rfl with root | ⟨_, nothing, -⟩
      · cases root
      · cases nothing
  · intro name reached
    exact listed_of_reached grounded frozen
      (fun name given => (accounted name given).listed frozen covered) reached

/-- The models of a document come parents first. If the root is an object with properties, its model
is the first of all, and every other one is a dependency of a model before it; if the root is a list,
every model is that of an element or a dependency of a model before it; else there are none. -/
theorem parents_first {document : Json} {settings : Settings} {models : List (String × Model)}
    (ok : Resolver.models document settings = .ok models) : ∃ finding base roots,
    ((Resolver.mk document settings).inspect document "#").outcome = .ok finding ∧
    settings.rootBase finding.reference.schema finding.reference.name? = .ok base ∧
    (Resolver.mk document settings).rootNames finding base = .ok roots ∧
    (Resolver.mk document settings).Arranged finding base roots models := by
  obtain ⟨resolver, made, ok⟩ := Failure.bind_eq_ok.mp ok
  cases document with
  | obj members =>
    cases made
    exact arranged_of_resolve (Prod.ext ok rfl)
  | _ => cases made

theorem parents_first_linked : ∃ models finding base roots,
    Resolver.models linkedDocument {} = .ok models ∧
    ((Resolver.mk linkedDocument {}).inspect linkedDocument "#").outcome = .ok finding ∧
    ({} : Settings).rootBase finding.reference.schema finding.reference.name? = .ok base ∧
    (Resolver.mk linkedDocument {}).rootNames finding base = .ok roots ∧
    (Resolver.mk linkedDocument {}).Arranged finding base roots models := by
  have succeeds : (Resolver.models linkedDocument {}).isOk = true := by decide +kernel
  cases ok : Resolver.models linkedDocument {} with
  | error failure =>
    rw [ok] at succeeds
    cases succeeds
  | ok models =>
    obtain ⟨finding, base, roots, arranged⟩ := parents_first ok
    exact ⟨models, finding, base, roots, rfl, arranged⟩

end Resolver

end SchemaCatalog
