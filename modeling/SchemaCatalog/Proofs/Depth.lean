import Mathlib.Logic.Relation
import SchemaCatalog.Proofs.Faults
import SchemaCatalog.Proofs.Integrity
import SchemaCatalog.Proofs.Values

/-! How deep registrations nest. The names under way are distinct. Those given by an override or a
reference come from a finite list; between two of them every site is a step by path from the one
before, and steps by path do not come back to a schema under another base. Main statement: a budget
for as many levels as this leaves room for is never exhausted.
-/
namespace SchemaCatalog

def Json.IsModelled (schema : Json) : Prop :=
  ∃ path inferred, Inferred.ofSchema schema false path = .ok inferred ∧ inferred.tag = .object ∧
    declaresProperties schema path = .ok true

namespace Resolver

variable {resolver : Resolver} {parent child site : Site} {key : String} {name : String}
  {position : Option Int} {raw : Json}

/-- An object schema with properties of its own that is named by where it stands: it is no reference,
and gives itself no name. -/
structure NamedByPath (resolver : Resolver) (schema : Json) : Prop where
  plain : schema.holds "$ref" = .ok false
  object : schema.IsModelled
  unnamed : resolver.settings.override? schema = .ok none

/-- A step by path, from a property: to the schema named by path that the property holds, or to one
among the elements of the list that it leads to. -/
inductive StepAt (resolver : Resolver) (first : Json) : String → Option Int → Json → Prop
  | value {key entry} (declared : first.Declares key entry) (named : resolver.NamedByPath entry) :
      StepAt resolver first key none entry
  | element {key entry path finding items position raw} (declared : first.Declares key entry)
      (behind : (resolver.inspect entry path).outcome = .ok finding)
      (list : finding.inferred.tag = .array)
      (listing : finding.reference.schema.member? "items" = .ok (some items))
      (offered : items.Offers position raw) (named : resolver.NamedByPath raw) :
      StepAt resolver first key position raw

def PathStep (resolver : Resolver) (first second : Json) : Prop :=
  ∃ key position, resolver.StepAt first key position second

/-- A site that a step by path leads to, with a base name that extends the one before. -/
def PathChild (resolver : Resolver) (parent child : Site) : Prop :=
  ∃ key position, resolver.StepAt parent.schema key position child.schema ∧
    child.base = Settings.pathBase parent.base key position

/-- The base names that overrides among some schemas or references can give. -/
def givenBases (resolver : Resolver) (pool : List Json) : List String :=
  ((pool.filterMap fun schema => (resolver.settings.override? schema).toOption.join) ++
    resolver.definitions.names).map Casing.capitalize

theorem isModelled_of_findingOf {reference : Reference} {path : String} {finding : Finding}
    (found : findingOf reference path = .ok finding) (modelled : finding.hasModel = true) :
    reference.schema.IsModelled := by
  obtain ⟨-, tagged, declared⟩ := findingOf_ok.mp found
  obtain ⟨object, declared⟩ := hasModel_ok.mp (modelled ▸ declared)
  exact ⟨some path, finding.inferred, tagged, object, declaresProperties_ok.mpr declared⟩

theorem rootBase_ok {settings : Settings} {schema : Json} {reference : Option String} {base : String} :
    settings.rootBase schema reference = .ok base ↔
      ∃ own, settings.override? schema = .ok own ∧
        base = ((own <|> reference).map Casing.capitalize).getD settings.rootName := by
  simp only [Settings.rootBase, Settings.givenBase?, Failure.bind_eq_ok]
  constructor
  · rintro ⟨given, ⟨own, known, equal⟩, based⟩
    cases equal
    cases based
    exact ⟨own, known, rfl⟩
  · rintro ⟨own, known, rfl⟩
    exact ⟨_, ⟨own, known, rfl⟩, rfl⟩

theorem nestedBase_ok {settings : Settings} {schema : Json} {reference : Option String}
    {parent base : String} :
    settings.nestedBase schema reference parent key position = .ok base ↔
      ∃ own, settings.override? schema = .ok own ∧
        base = ((own <|> reference).map Casing.capitalize).getD
          (Settings.pathBase parent key position) := by
  simp only [Settings.nestedBase, Settings.givenBase?, Failure.bind_eq_ok]
  constructor
  · rintro ⟨given, ⟨own, known, equal⟩, based⟩
    cases equal
    cases based
    exact ⟨own, known, rfl⟩
  · rintro ⟨own, known, rfl⟩
    exact ⟨_, ⟨own, known, rfl⟩, rfl⟩

theorem Found.cases {parent : String} {pool : List Json}
    (found : resolver.Found raw parent key position site) (pooled : site.schema ∈ pool) :
    site.base ∈ resolver.givenBases pool ∨
      site.schema = raw ∧ resolver.NamedByPath raw ∧
        site.base = Settings.pathBase parent key position := by
  obtain ⟨finding, found, modelled, schema, based⟩ := found
  obtain ⟨own, known, based⟩ := nestedBase_ok.mp based
  obtain ⟨resolved, found⟩ := inspect_ok.mp found
  cases own with
  | some text =>
    left
    refine List.mem_map.mpr ⟨text, List.mem_append_left _ ?_, based.symm⟩
    exact List.mem_filterMap.mpr ⟨site.schema, pooled, by rw [known]; rfl⟩
  | none =>
    rcases Definitions.resolve_ok resolved with ⟨same, unnamed, plain⟩ | behind
    · right
      have object := isModelled_of_findingOf found modelled
      rw [unnamed] at based
      rw [schema, same] at known
      rw [same] at object
      exact ⟨schema.trans same, ⟨plain, object, known⟩, based⟩
    · left
      obtain ⟨members, name, table, named, inside⟩ := behind
      rw [named] at based
      refine List.mem_map.mpr ⟨name, List.mem_append_right _ ?_, based.symm⟩
      rw [table]
      exact List.mem_map_of_mem (Json.mem_of_lookup inside)

theorem Child.cases {pool : List Json} (below : resolver.Child parent child)
    (pooled : child.schema ∈ pool) :
    child.base ∈ resolver.givenBases pool ∨ resolver.PathChild parent child := by
  cases below with
  | value declared found =>
    rcases found.cases pooled with given | ⟨rfl, named, based⟩
    · exact .inl given
    · exact .inr ⟨_, _, .value declared named, based⟩
  | element declared behind list listing offered found =>
    rcases found.cases pooled with given | ⟨rfl, named, based⟩
    · exact .inl given
    · exact .inr ⟨_, _, .element declared behind list listing offered named, based⟩

/-- Sites that keep to schemas of a pool, where steps by path do not come back to a schema under
another base name. -/
structure Confined (resolver : Resolver) (pool : List Json) (world : Site → Prop) : Prop where
  pooled : ∀ site, world site → site.schema ∈ pool
  stable : resolver.Stable world
  steady : ∀ first last, world first → Relation.TransGen resolver.PathChild first last →
    first.schema = last.schema → first.base = last.base

/-- A site that may be reached next, after the steps by path of a trail, innermost first. -/
def Near (resolver : Resolver) (pool : List Json) (world : Site → Prop) (trail : List Site)
    (child : Site) : Prop :=
  world child ∧ (child.base ∈ resolver.givenBases pool ∨
    ∀ site ∈ trail, Relation.TransGen resolver.PathChild site child)

/-- The innermost registrations, as far as they are steps by path. -/
structure Trail (resolver : Resolver) (world : Site → Prop) (enclosing : List String)
    (trail : List Site) : Prop where
  inside : ∀ site ∈ trail, world site
  named : ∀ site ∈ trail, resolver.nameOf site ∈ enclosing
  distinct : (trail.map Site.schema).Nodup

theorem trail_nil (resolver : Resolver) (world : Site → Prop) : resolver.Trail world [] [] where
  inside _ inside := nomatch inside
  named _ inside := nomatch inside
  distinct := List.nodup_nil

/-- The levels there is room for: for each given name that is not under way a trail through the whole
pool, and what is left of the present trail. -/
def room (resolver : Resolver) (pool : List Json) (enclosing : List String) (trail : List Site) : Nat :=
  ((resolver.givenBases pool).filter fun base =>
    resolver.settings.modelName base ∉ enclosing).length * (pool.length + 1) +
      (pool.length - trail.length) + 1

variable {pool : List Json} {world : Site → Prop} {enclosing : List String} {trail : List Site}

theorem near_below (confined : resolver.Confined pool world) (here : world site)
    (after : ∀ other ∈ trail, Relation.TransGen resolver.PathChild other site) {child : Site}
    (inside : child ∈ (resolver.model site).visits) : resolver.Near pool world (site :: trail) child := by
  have there := confined.stable site here child inside
  refine ⟨there, ?_⟩
  rcases (child_of_mem_visits inside).cases (confined.pooled child there) with given | step
  · exact .inl given
  · right
    intro other member
    rcases List.mem_cons.mp member with rfl | member
    · exact .single step
    · exact .tail (after other member) step

theorem room_of_given (confined : resolver.Confined pool world) (here : world site)
    (given : site.base ∈ resolver.givenBases pool) (fresh : resolver.nameOf site ∉ enclosing) :
    resolver.room pool (resolver.nameOf site :: enclosing) [site] < resolver.room pool enclosing trail := by
  have fewer : ((resolver.givenBases pool).filter fun base =>
      resolver.settings.modelName base ∉ resolver.nameOf site :: enclosing).length <
      ((resolver.givenBases pool).filter fun base =>
        resolver.settings.modelName base ∉ enclosing).length := by
    have split : ((resolver.givenBases pool).filter fun base =>
        resolver.settings.modelName base ∉ resolver.nameOf site :: enclosing) =
        ((resolver.givenBases pool).filter fun base =>
          resolver.settings.modelName base ∉ enclosing).filter fun base =>
            resolver.settings.modelName base ≠ resolver.nameOf site := by
      rw [List.filter_filter]
      apply List.filter_congr
      intro base _
      simp [not_or]
    rw [split]
    refine List.length_filter_lt_length_iff_exists.mpr ⟨site.base, ?_, by simp [nameOf]⟩
    exact List.mem_filter.mpr ⟨given, decide_eq_true fresh⟩
  have occupied : 0 < pool.length := List.length_pos_of_mem (confined.pooled site here)
  have product := Nat.mul_le_mul_right (pool.length + 1) fewer
  rw [Nat.succ_mul] at product
  simp only [room, List.length_singleton]
  omega

theorem room_of_step (shorter : trail.length < pool.length) :
    resolver.room pool (name :: enclosing) (site :: trail) < resolver.room pool enclosing trail := by
  have fewer : ((resolver.givenBases pool).filter fun base =>
      resolver.settings.modelName base ∉ name :: enclosing).length ≤
      ((resolver.givenBases pool).filter fun base =>
        resolver.settings.modelName base ∉ enclosing).length := by
    apply List.Sublist.length_le
    apply List.monotone_filter_right
    intro base outside
    simp only [decide_eq_true_eq, List.mem_cons, not_or] at outside ⊢
    exact outside.2
  have product := Nat.mul_le_mul_right (pool.length + 1) fewer
  simp only [room, List.length_cons]
  omega

/-- Below a site with a new name there is less room than before, by any of the ways to get there. -/
theorem Trail.descend (confined : resolver.Confined pool world)
    (known : resolver.Trail world enclosing trail) (near : resolver.Near pool world trail site)
    (fresh : resolver.nameOf site ∉ enclosing) :
    ∃ longer, resolver.Trail world (resolver.nameOf site :: enclosing) longer ∧
      resolver.room pool (resolver.nameOf site :: enclosing) longer <
        resolver.room pool enclosing trail ∧
      ∀ child ∈ (resolver.model site).visits, resolver.Near pool world longer child := by
  obtain ⟨here, given | after⟩ := near
  -- a given name is used up, and a trail of its own begins
  · refine ⟨[site], ⟨?_, ?_, List.nodup_singleton _⟩, room_of_given confined here given fresh, ?_⟩
    · simpa using here
    · simp
    · exact fun child inside => near_below confined here (by simp) inside
  -- a schema that came back would bring its old name with it, which is not new
  · have distinct : ((site :: trail).map Site.schema).Nodup := by
      refine List.nodup_cons.mpr ⟨fun again => ?_, known.distinct⟩
      obtain ⟨other, member, same⟩ := List.mem_map.mp again
      have based := confined.steady other site (known.inside other member) (after other member) same
      apply fresh
      have named := known.named other member
      rw [nameOf, based] at named
      exact named
    have contained : ∀ schema ∈ (site :: trail).map Site.schema, schema ∈ pool := by
      intro schema listed
      obtain ⟨other, member, rfl⟩ := List.mem_map.mp listed
      rcases List.mem_cons.mp member with rfl | member
      · exact confined.pooled _ here
      · exact confined.pooled _ (known.inside other member)
    have shorter := (distinct.subperm contained).length_le
    rw [List.length_map, List.length_cons] at shorter
    refine ⟨site :: trail, ⟨?_, ?_, distinct⟩, room_of_step (by omega), ?_⟩
    · intro other member
      rcases List.mem_cons.mp member with rfl | member
      · exact here
      · exact known.inside other member
    · intro other member
      rcases List.mem_cons.mp member with rfl | member
      · exact List.mem_cons_self
      · exact List.mem_cons_of_mem _ (known.named other member)
    · exact fun child inside => near_below confined here after inside

theorem names_entered {registry next : Registry}
    (new : resolver.claim site registry = .ok (true, next))
    (claimed : ∀ name ∈ enclosing, name ∈ registry.names) :
    ∀ name ∈ resolver.nameOf site :: enclosing, name ∈ next.names := by
  intro name inside
  rw [Registry.names_reserve_new new]
  rcases List.mem_cons.mp inside with rfl | inside
  · exact List.mem_append_right _ List.mem_cons_self
  · exact List.mem_append_left _ (claimed name inside)

end Resolver

namespace Walk

variable {resolver : Resolver} {budget : Nat} {enclosing : List String} {acts : List Act}
  {progress final : Progress} {outcome : Except Failure Unit}

theorem names_grow (walk : Walk resolver budget enclosing acts progress outcome final) {name : String}
    (claimed : name ∈ progress.registry.names) : name ∈ final.registry.names := by
  rw [Registry.names_eq_claims] at claimed ⊢
  obtain ⟨claim, inside, rfl⟩ := List.mem_map.mp claimed
  exact List.mem_map_of_mem (walk.claims_grow claim inside)

/-- With a level of budget for all there is room for, a walk does not end for want of budget. -/
theorem not_exhausted (walk : Walk resolver budget enclosing acts progress outcome final)
    {pool : List Json} {world : Site → Prop} (confined : resolver.Confined pool world)
    {trail : List Site} (known : resolver.Trail world enclosing trail)
    (near : ∀ child, Act.visit child ∈ acts → resolver.Near pool world trail child)
    (claimed : ∀ name ∈ enclosing, name ∈ progress.registry.names)
    (enough : resolver.room pool enclosing trail ≤ budget) : outcome ≠ .error .exhausted := by
  induction walk generalizing trail with
  | done => nofun
  | note rest ih => exact ih known (fun child inside => near child (.tail _ inside)) claimed enough
  | exhausted =>
    -- there always is room for one level at least
    rw [Resolver.room] at enough
    omega
  | collided refused =>
    obtain ⟨_, -, -, rfl⟩ := Registry.reserve_error refused
    nofun
  | reused held rest ih =>
    exact ih known (fun child inside => near child (.tail _ inside)) claimed enough
  | failed new inner ih =>
    obtain ⟨fresh, -⟩ := Registry.reserve_new new
    obtain ⟨longer, deeper, less, below⟩ :=
      known.descend confined (near _ List.mem_cons_self) fun inside => fresh (claimed _ inside)
    have held := Resolver.names_entered new claimed
    exact ih deeper (fun child inside => below child (Script.mem_visits.mpr inside)) held (by omega)
  | unfinished new inner fault ih =>
    intro equal
    cases equal
    exact nomatch Resolver.onlyFaults_model _ _ fault
  | unstored new inner built refused ih =>
    intro equal
    cases equal
    exact Registry.store_ne_exhausted refused
  | stored new inner built kept rest ih ihRest =>
    refine ihRest known (fun child inside => near child (.tail _ inside)) ?_ enough
    intro name inside
    rw [Progress.registry_noting, Registry.names_store kept]
    exact inner.names_grow (Resolver.names_entered new claimed name (.tail _ inside))

end Walk

end SchemaCatalog
