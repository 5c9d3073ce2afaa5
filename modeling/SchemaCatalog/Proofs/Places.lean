import SchemaCatalog.Proofs.Beside
import SchemaCatalog.Proofs.History

/-! Places. A failure tells where it came up, and a site tells where its schema stands; nothing else that
is done with a schema depends on its place. Main statement: a model that is built wherever, and
whatever has been built before, is the same model, and building it once more changes no registry.
-/
namespace SchemaCatalog

/-- A failure, but for the place it tells of. -/
def Failure.unplaced : Failure → Failure
  | .problem stated => .problem { stated with place := none }
  | failure => failure

/-- The same schema under the same base name, wherever it stands. -/
structure Site.Elsewhere (site other : Site) : Prop where
  schema : other.schema = site.schema
  base : other.base = site.base

/-- The same result, or the same failure but for its place. -/
def Elsewhere {α : Type} (first second : Except Failure α) : Prop :=
  Accord Eq (first.mapError Failure.unplaced) (second.mapError Failure.unplaced)

namespace Elsewhere

variable {α β : Type} {first second : Except Failure α} {next next' : α → Except Failure β}

theorem refl (outcome : Except Failure α) : Elsewhere outcome outcome := Accord.refl _

theorem located (cause : Cause) (place place' : Option String) :
    Elsewhere (.error (.located cause place) : Except Failure α) (.error (.located cause place')) :=
  .error_viewed rfl

theorem detailed (cause : Cause) (place place' : Option String) (details : String) :
    Elsewhere (.error (.detailed cause place details) : Except Failure α)
      (.error (.detailed cause place' details)) :=
  .error_viewed rfl

theorem bind (here : Elsewhere first second) (there : ∀ value, Elsewhere (next value) (next' value)) :
    Elsewhere (first >>= next) (second >>= next') := by
  refine Accord.bind_viewed here ?_
  rintro value _ rfl
  exact there value

theorem mapM (items : List α) (there : ∀ item, Elsewhere (next item) (next' item)) :
    Elsewhere (items.mapM next) (items.mapM next') := by
  induction items with
  | nil => exact refl _
  | cons item items ih =>
    rw [List.mapM_cons, List.mapM_cons]
    exact (there item).bind fun _ => ih.bind fun _ => refl _

theorem ok_iff (elsewhere : Elsewhere first second) {value : α} :
    first = .ok value ↔ second = .ok value := by
  rcases Accord.of_viewed elsewhere with ⟨one, _, rfl, rfl, rfl⟩ | ⟨_, _, rfl, rfl, -⟩
  · exact Iff.rfl
  · exact ⟨nofun, nofun⟩

end Elsewhere

variable (place place' : Option String)

namespace Definitions

theorem elsewhere_nameOf (reference : Json) :
    Elsewhere (nameOf reference place) (nameOf reference place') := by
  unfold nameOf nameOf.unsupported
  split
  next =>
    split
    next =>
      dsimp only
      split
      next => exact .located _ place place'
      next => exact .refl _
    next => exact .detailed _ place place' _
  next => exact .detailed _ place place' _

theorem elsewhere_schemaOf (definitions : Definitions) (name : String) :
    Elsewhere (definitions.schemaOf name place) (definitions.schemaOf name place') := by
  unfold schemaOf
  refine (Elsewhere.refl _).bind fun holds => ?_
  split
  next =>
    refine (Elsewhere.refl _).bind fun target => ?_
    split
    next => exact .refl _
    next => exact (Elsewhere.refl _).bind fun available => .detailed _ place place' _
  next => exact (Elsewhere.refl _).bind fun available => .located _ place place'

theorem elsewhere_follow (definitions : Definitions) (budget : Nat) (chain : List String)
    (schema : Json) :
    Elsewhere (definitions.follow place budget chain schema)
      (definitions.follow place' budget chain schema) := by
  induction budget using Nat.strongRecOn generalizing schema chain with
  | ind budget ih =>
    unfold follow
    refine (Elsewhere.refl _).bind fun refers => ?_
    split
    next =>
      refine (Elsewhere.refl _).bind fun pointer => ?_
      refine (elsewhere_nameOf place place' pointer).bind fun name => ?_
      split
      next => exact .located _ place place'
      next =>
        refine (elsewhere_schemaOf place place' definitions name).bind fun target => ?_
        cases budget with
        | zero => exact .refl _
        | succ budget => exact ih budget (by omega) _ _
    next => exact .refl _

theorem elsewhere_resolve (definitions : Definitions) (schema : Json) :
    Elsewhere (definitions.resolve schema place) (definitions.resolve schema place') :=
  definitions.elsewhere_follow place place' _ _ _

end Definitions

namespace Inferred

theorem elsewhere_ofName (name : Json) (optional : Bool) (schema : Json) :
    Elsewhere (ofName name optional schema place) (ofName name optional schema place') := by
  unfold ofName
  split
  next => exact .located _ place place'
  next =>
    split
    next => exact .refl _
    next => exact .located _ place place'
  next =>
    split
    next => exact .refl _
    next => exact .located _ place place'

theorem elsewhere_kindOf (name : Json) : Elsewhere (kindOf place name) (kindOf place' name) := by
  unfold kindOf
  split
  next => exact .refl _
  next => exact .located _ place place'

theorem elsewhere_ofNames (names : Json) (optional : Bool) (schema : Json) :
    Elsewhere (ofNames names optional schema place) (ofNames names optional schema place') := by
  unfold ofNames
  refine (Elsewhere.refl _).bind fun entries => ?_
  exact (Elsewhere.mapM entries (elsewhere_kindOf place place')).bind fun kinds => .refl _

theorem elsewhere_literalKind (literal : Json) :
    Elsewhere (literalKind place literal) (literalKind place' literal) := by
  unfold literalKind
  split
  next => exact .refl _
  next => exact .detailed _ place place' _

theorem elsewhere_literalKinds (enumeration : Json) :
    Elsewhere (literalKinds enumeration place) (literalKinds enumeration place') := by
  unfold literalKinds
  split
  next literals =>
    exact (Elsewhere.mapM literals (elsewhere_literalKind place place')).bind fun kinds => .refl _
  next => exact .detailed _ place place' _

theorem elsewhere_ofSchema (schema : Json) (optional : Bool) :
    Elsewhere (ofSchema schema optional place) (ofSchema schema optional place') := by
  unfold ofSchema
  refine (Elsewhere.refl _).bind fun enumerated => ?_
  split
  next =>
    refine (Elsewhere.refl _).bind fun enumeration => ?_
    exact (elsewhere_literalKinds place place' enumeration).bind fun kinds => .refl _
  next =>
    refine (Elsewhere.refl _).bind fun type => ?_
    split
    next => exact elsewhere_ofNames place place' _ _ _
    next => exact elsewhere_ofName place place' _ _ _
    next => exact elsewhere_ofName place place' _ _ _
    next => exact .detailed _ place place' _

end Inferred

theorem elsewhere_declaresProperties (schema : Json) :
    Elsewhere (declaresProperties schema place) (declaresProperties schema place') := by
  unfold declaresProperties
  refine (Elsewhere.refl _).bind fun properties => ?_
  split
  next => exact .refl _
  next => exact .refl _
  next => exact .detailed _ place place' _

/-- The same script, but for the places it tells of. -/
def Script.Elsewhere {α : Type} (first second : Script α) : Prop :=
  first.Beside Site.Elsewhere Failure.unplaced Eq second

namespace Script.Elsewhere

variable {α β : Type} {first second : Script α} {next next' : α → Script β}

theorem pure (value : α) : Script.Elsewhere (Pure.pure value) (Pure.pure value) :=
  Beside.pure rfl

theorem attempt {outcome outcome' : Except Failure α} (elsewhere : SchemaCatalog.Elsewhere outcome outcome') :
    Script.Elsewhere (Script.attempt outcome) (Script.attempt outcome') :=
  Beside.attempt elsewhere

theorem fail {failure failure' : Failure} (same : failure'.unplaced = failure.unplaced) :
    Script.Elsewhere (Script.fail failure : Script α) (Script.fail failure') := Beside.fail same

theorem bind (here : Script.Elsewhere first second)
    (there : ∀ value, Script.Elsewhere (next value) (next' value)) :
    Script.Elsewhere (first >>= next) (second >>= next') := by
  refine Beside.bind here ?_
  rintro value _ rfl
  exact there value

end Script.Elsewhere

namespace Resolver

variable (resolver : Resolver) (path path' : String) {site other : Site}

theorem elsewhere_findingOf (reference : Reference) :
    Elsewhere (findingOf reference path) (findingOf reference path') := by
  unfold findingOf
  refine (Inferred.elsewhere_ofSchema _ _ _ _).bind fun inferred => ?_
  refine Elsewhere.bind ?_ fun hasModel => .refl _
  unfold hasModel
  split
  next => exact elsewhere_declaresProperties _ _ _
  next => exact .refl _

theorem elsewhere_inspect (schema : Json) :
    Script.Elsewhere (resolver.inspect schema path) (resolver.inspect schema path') := by
  unfold inspect
  refine .bind (.attempt (resolver.definitions.elsewhere_resolve _ _ _)) fun reference => ?_
  refine .bind (Script.Beside.note _ _) fun _ => ?_
  exact .attempt (elsewhere_findingOf _ _ _)

theorem elsewhere_ownModel (finding : Finding) (parent key : String) (position : Option Int) :
    Script.Elsewhere (resolver.ownModel finding parent key position path)
      (resolver.ownModel finding parent key position path') := by
  unfold ownModel
  split
  next =>
    refine .bind (.attempt (.refl _)) fun base => ?_
    exact .bind (Script.Beside.visit ⟨rfl, rfl⟩) fun _ => .pure _
  next => exact .pure _

theorem elsewhere_uniform (parent key : String) (schema : Json) :
    Script.Elsewhere (resolver.uniform parent key path schema)
      (resolver.uniform parent key path' schema) := by
  unfold uniform
  refine .bind (resolver.elsewhere_inspect _ _ _) fun finding => ?_
  exact .bind (resolver.elsewhere_ownModel _ _ _ _ _ _) fun name => .pure _

theorem elsewhere_shorthand (names : List Json) :
    Elsewhere (shorthand path names) (shorthand path' names) := by
  unfold shorthand
  exact (Elsewhere.mapM names (Inferred.elsewhere_kindOf _ _)).bind fun kinds => .refl _

theorem elsewhere_alternative (parent key : String) (position : Nat) (entry : Json) :
    Script.Elsewhere (resolver.alternative parent key path position entry)
      (resolver.alternative parent key path' position entry) := by
  unfold alternative
  dsimp only
  split
  next =>
    split
    next => exact .pure _
    next =>
      refine .bind (resolver.elsewhere_inspect _ _ _) fun finding => ?_
      exact .bind (resolver.elsewhere_ownModel _ _ _ _ _ _) fun name => .pure _
  next => exact .fail rfl

theorem elsewhere_alternatives (parent key : String) (position : Nat) (entries : List Json) :
    Script.Elsewhere (resolver.alternatives parent key path position entries)
      (resolver.alternatives parent key path' position entries) := by
  induction entries generalizing position with
  | nil => exact .pure _
  | cons entry entries ih =>
    unfold alternatives
    refine .bind (resolver.elsewhere_alternative _ _ _ _ _ _) fun first => ?_
    exact .bind (ih _) fun rest => .pure _

theorem elsewhere_elementsOf (parent key : String) (items : Json) :
    Script.Elsewhere (resolver.elementsOf parent key path items)
      (resolver.elementsOf parent key path' items) := by
  unfold elementsOf
  split
  next => exact .pure _
  next =>
    split
    next => exact resolver.elsewhere_alternatives _ _ _ _ _ _
    next => exact .fail rfl
    next => exact resolver.elsewhere_uniform _ _ _ _ _
  next =>
    split
    next => exact .attempt (elsewhere_shorthand _ _ _)
    next => exact resolver.elsewhere_alternatives _ _ _ _ _ _
  next => exact .fail rfl

theorem elsewhere_held (finding : Finding) (parent key : String) :
    Script.Elsewhere (resolver.held finding parent key path)
      (resolver.held finding parent key path') := by
  unfold held elements
  split
  next =>
    exact .bind (.attempt (.refl _)) fun items => resolver.elsewhere_elementsOf _ _ _ _ _
  next => exact .pure _

theorem elsewhere_property (elsewhere : site.Elsewhere other) (required : List Json) (key : String)
    (entry : Json) :
    Script.Elsewhere (resolver.property site required key entry)
      (resolver.property other required key entry) := by
  unfold property
  dsimp only
  rw [elsewhere.base]
  split
  next =>
    refine .bind (resolver.elsewhere_inspect _ _ _) fun finding => ?_
    refine .bind (resolver.elsewhere_ownModel _ _ _ _ _ _) fun modelName => ?_
    exact .bind (resolver.elsewhere_held _ _ _ _ _) fun elements => .attempt (.refl _)
  next => exact .fail rfl

theorem elsewhere_requiredOf (elsewhere : site.Elsewhere other) :
    Elsewhere (requiredOf site) (requiredOf other) := by
  unfold requiredOf
  rw [elsewhere.schema]
  refine (Elsewhere.refl _).bind fun required => ?_
  split
  next => exact .refl _
  next =>
    split
    next => exact .refl _
    next => exact .located _ _ _

theorem elsewhere_model (elsewhere : site.Elsewhere other) :
    Script.Elsewhere (resolver.model site) (resolver.model other) := by
  unfold model
  rw [elsewhere.schema, elsewhere.base]
  refine .bind (.attempt (elsewhere_requiredOf elsewhere)) fun required => ?_
  refine .bind (.attempt (.refl _)) fun entries => ?_
  refine .bind ?_ fun properties => .attempt (.refl _)
  refine (Script.Beside.mapM (List.forall₂_same.mpr fun entry _ => ?_)).imp
    fun _ _ same => List.forall₂_eq_eq_eq ▸ same
  exact resolver.elsewhere_property elsewhere required entry.1 entry.2

/-- A resolver does the same with a schema wherever it stands. -/
theorem beside_elsewhere :
    resolver.Beside Site.Elsewhere Failure.unplaced Eq resolver where
  name _ _ elsewhere := by rw [nameOf, nameOf, elsewhere.base]
  fingerprint _ _ elsewhere := by rw [elsewhere.schema]
  placeless _ _ _ _ _ := rfl
  model _ _ elsewhere := resolver.elsewhere_model elsewhere
  named := by
    rintro model _ rfl
    rfl

end Resolver

/-- Sites with claims of their own are passed by, and the registry stays as it is. -/
theorem Walk.passes {resolver : Resolver} {registry : Registry} {acts : List Act}
    (covered : ∀ site, Act.visit site ∈ acts → resolver.Covered registry site)
    (distinct : registry.names.Nodup) (budget : Nat) (enclosing : List String) (events : List Event) :
    ∃ later, Walk resolver (budget + 1) enclosing acts ⟨registry, events⟩ (.ok ()) ⟨registry, later⟩ := by
  induction acts generalizing events with
  | nil => exact ⟨events, .done⟩
  | cons act acts ih =>
    have ih := ih fun site inside => covered site (.tail _ inside)
    cases act with
    | note remark =>
      obtain ⟨later, walk⟩ := ih (remark.event :: events)
      exact ⟨later, .note walk⟩
    | visit site =>
      obtain ⟨later, walk⟩ := ih (.reached site enclosing :: events)
      have known : resolver.claim site registry = .ok (false, registry) :=
        Registry.reserve_claimed distinct (covered site List.mem_cons_self)
      exact ⟨later, .reused known walk⟩

namespace Resolver

variable {resolver : Resolver} {progress final : Progress} {site : Site} {model : Model}

/-- Once a model is built, a resolver that builds one for the same schema under the same base name gives
the same model, whatever the registry and wherever the schema stands; and if it is asked at once, it
does give one, and claims and stores nothing more. -/
theorem build_again (history : resolver.History progress)
    (ok : (resolver.build site).run progress = (.ok model, final)) :
    (∀ other progress' model' final', site.Elsewhere other →
      (resolver.build other).run progress' = (.ok model', final') → model' = model) ∧
    ∃ again, (resolver.build site).run final = (.ok model, again) ∧
      again.registry = final.registry := by
  obtain ⟨walk, built⟩ := Walk.play_ok.mp ok
  constructor
  · intro other progress' model' final' elsewhere ok'
    obtain ⟨-, built'⟩ := Walk.play_ok.mp ok'
    have same := (resolver.elsewhere_model elsewhere).outcome
    exact Except.ok.inj (built'.symm.trans ((Elsewhere.ok_iff same).mp built))
  · obtain ⟨grounded, covered⟩ :=
      walk.grounded resolver.stable_modelled history.grounded modelled_of_model
    obtain ⟨later, walk⟩ := Walk.passes (covered rfl) grounded.distinct _ [] final.events
    exact ⟨_, Walk.play_ok.mpr ⟨walk, built⟩, rfl⟩

/-- After a request that failed and left a name behind, and on a new registry for another place. -/
theorem build_again_linked : ∃ progress model final model' final',
    History ⟨linkedDocument, {}⟩ progress ∧ progress.registry.pending ≠ [] ∧
    (build ⟨linkedDocument, {}⟩ ⟨linkSchema, "Again", "#"⟩).run progress = (.ok model, final) ∧
    (build ⟨linkedDocument, {}⟩ ⟨linkSchema, "Again", "#/definitions/link"⟩).run {} =
      (.ok model', final') ∧ model' = model ∧
    ∃ again, (build ⟨linkedDocument, {}⟩ ⟨linkSchema, "Again", "#"⟩).run final = (.ok model, again) ∧
      again.registry = final.registry := by
  have left : ((build ⟨linkedDocument, {}⟩ brokenSite).run {}).2.registry.pending ≠ [] := by
    decide +kernel
  have good : ((build ⟨linkedDocument, {}⟩ ⟨linkSchema, "Again", "#"⟩).run
      ((build ⟨linkedDocument, {}⟩ brokenSite).run {}).2).1.isOk = true := by decide +kernel
  have good' : ((build ⟨linkedDocument, {}⟩ ⟨linkSchema, "Again", "#/definitions/link"⟩).run {}).1.isOk =
      true := by decide +kernel
  rcases broken : (build ⟨linkedDocument, {}⟩ brokenSite).run {} with ⟨outcome, progress⟩
  rw [broken] at left good
  rcases ran : (build ⟨linkedDocument, {}⟩ ⟨linkSchema, "Again", "#"⟩).run progress
    with ⟨failure | model, final⟩
  · rw [ran] at good
    cases good
  rcases ran' : (build ⟨linkedDocument, {}⟩ ⟨linkSchema, "Again", "#/definitions/link"⟩).run {}
    with ⟨failure | model', final'⟩
  · rw [ran'] at good'
    cases good'
  have history := History.built .new broken
  obtain ⟨same, again⟩ := build_again history ran
  exact ⟨progress, model, final, model', final', history, left, ran, rfl,
    same ⟨linkSchema, "Again", "#/definitions/link"⟩ {} model' final' ⟨rfl, rfl⟩ ran', again⟩

end Resolver

end SchemaCatalog
