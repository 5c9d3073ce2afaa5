import SchemaCatalog.Proofs.Outcomes

/-! Where problems are. A path is written down while a walk goes on, in six functions, and what it stands
for is read off here: a list of directions, each a step into a value, with references followed in
between. Main statement: the path of every problem of a resolution leads to a value of the document;
and where the problem is one of references or of an enumeration, that value is a schema in whose
tag the same problem comes up.
-/
namespace SchemaCatalog

/-- A step into a value. -/
inductive Direction
  | property (key : String)
  | items
  | alternatives
  | entry (index : Nat)
deriving DecidableEq, Repr

namespace Direction

def text : Direction → String
  | property key => "/properties/" ++ key
  | items => "/items"
  | alternatives => "/anyOf"
  | entry index => "/" ++ toString index

/-- The path that some directions make from the root of a document. -/
def render (directions : List Direction) : String :=
  directions.foldl (fun path direction => path ++ direction.text) "#"

theorem render_snoc (directions : List Direction) (direction : Direction) :
    render (directions ++ [direction]) = render directions ++ direction.text := by
  rw [render, List.foldl_append]
  rfl

end Direction

namespace Definitions

/-- The value that a direction leads to. Properties and items are looked for behind the references of a
schema; the alternatives among items stand right there, whether or not these are a reference too. -/
inductive Enters (definitions : Definitions) : Json → Direction → Json → Prop
  | property {schema place reference key entry}
      (behind : definitions.resolve schema place = .ok reference)
      (declared : reference.schema.Declares key entry) :
      Enters definitions schema (.property key) entry
  | items {schema place reference items}
      (behind : definitions.resolve schema place = .ok reference)
      (listing : reference.schema.member? "items" = .ok (some items)) :
      Enters definitions schema .items items
  | alternatives {items several} (offered : items.member? "anyOf" = .ok (some several)) :
      Enters definitions items .alternatives several
  | entry {entries : List Json} {index : Nat} {entry} (inside : entries[index]? = some entry) :
      Enters definitions (.arr entries) (.entry index) entry

/-- The value that some directions in turn lead to, from the root of a document. -/
inductive Reaches (definitions : Definitions) (document : Json) : List Direction → Json → Prop
  | here : Reaches definitions document [] document
  | step {directions direction value next} (before : Reaches definitions document directions value)
      (enters : definitions.Enters value direction next) :
      Reaches definitions document (directions ++ [direction]) next

/-- The tag of the schema behind a schema. -/
def infer (definitions : Definitions) (schema : Json) (place : Option String) :
    Except Failure Inferred := do
  let reference ← definitions.resolve schema place
  Inferred.ofSchema reference.schema false place

end Definitions

/-- Problems of references and of enumerations, which come up only in the search for a tag. -/
def Category.isOfInference : Category → Bool
  | missingDefinition | cyclicReference | nonArrayEnum | unsupportedEnum => true
  | _ => false

/-- A script that visits none but sites of a world, and fails only as allowed. -/
structure Script.Keeps {α : Type} (world : Site → Prop) (allowed : Failure → Prop)
    (script : Script α) : Prop where
  visits : ∀ site ∈ script.visits, world site
  fails : OnlyFails allowed script.outcome

namespace Script.Keeps

variable {α β : Type} {world : Site → Prop} {allowed : Failure → Prop} {first : Script α}
  {next : α → Script β}

theorem pure (value : α) : (Pure.pure value : Script α).Keeps world allowed where
  visits := nofun
  fails := onlyFails_ok value

theorem attempt {outcome : Except Failure α} (fails : OnlyFails allowed outcome) :
    (Script.attempt outcome).Keeps world allowed where
  visits := nofun
  fails := fails

theorem fail {failure : Failure} (fault : allowed failure) :
    (Script.fail failure : Script α).Keeps world allowed where
  visits := nofun
  fails := onlyFails_error fault

theorem visit {site : Site} (here : world site) : (Script.visit site).Keeps world allowed where
  visits := by simpa using here
  fails := onlyFails_ok ()

theorem note (remark : Remark) : (Script.note remark).Keeps world allowed where
  visits := nofun
  fails := onlyFails_ok ()

theorem bind_of_ok (before : first.Keeps world allowed)
    (after : ∀ value, first.outcome = .ok value → (next value).Keeps world allowed) :
    (first >>= next).Keeps world allowed where
  visits site inside := by
    rcases mem_visits_bind.mp inside with inside | ⟨value, ok, inside⟩
    · exact before.visits site inside
    · exact (after value ok).visits site inside
  fails := onlyFails_script_bind_of_ok before.fails fun value ok => (after value ok).fails

theorem bind (before : first.Keeps world allowed)
    (after : ∀ value, (next value).Keeps world allowed) : (first >>= next).Keeps world allowed :=
  before.bind_of_ok fun value _ => after value

theorem mapM {walk : α → Script β} {items : List α}
    (each : ∀ item ∈ items, (walk item).Keeps world allowed) :
    (items.mapM walk).Keeps world allowed where
  visits site inside := by
    obtain ⟨item, member, inside⟩ := mem_visits_mapM inside
    exact (each item member).visits site inside
  fails := onlyFails_script_mapM fun item member => (each item member).fails

end Script.Keeps

section Walks

variable {resolver : Resolver} {world : Site → Prop} {allowed : Failure → Prop}

/-- A resolution stays among the sites of a world, and fails over them only as allowed. -/
structure Resolver.Confines (resolver : Resolver) (world : Site → Prop) (allowed : Failure → Prop) :
    Prop where
  root : resolver.root.Keeps world allowed
  model : ∀ site, world site → (resolver.model site).Keeps world allowed
  claim : ∀ site registry, world site → OnlyFails allowed (resolver.claim site registry)
  exhausted : allowed .exhausted

theorem Resolver.Confines.stable (confines : resolver.Confines world allowed) :
    resolver.Stable world := fun site here => (confines.model site here).visits

/-- Walks through sites of a world fail as their models and their claims do. -/
theorem Walk.confined {budget : Nat} {enclosing : List String} {acts : List Act}
    {progress final : Progress} {outcome : Except Failure Unit}
    (walk : Walk resolver budget enclosing acts progress outcome final)
    (confines : resolver.Confines world allowed)
    (grounded : resolver.Grounded world progress.registry)
    (here : ∀ site, Act.visit site ∈ acts → world site) : OnlyFails allowed outcome := by
  have below {site : Site} (own : world site) :
      ∀ child, Act.visit child ∈ (resolver.model site).acts → world child :=
    fun child inside => confines.stable site own child (Script.mem_visits.mpr inside)
  induction walk with
  | done => exact onlyFails_ok ()
  | note _ ih => exact ih grounded fun site inside => here site (.tail _ inside)
  | exhausted => exact onlyFails_error confines.exhausted
  | collided refused =>
    exact onlyFails_error (confines.claim _ _ (here _ List.mem_cons_self) _ refused)
  | reused _ _ ih => exact ih grounded fun site inside => here site (.tail _ inside)
  | failed claimed _ ih =>
    have own := here _ List.mem_cons_self
    exact ih (grounded.claim own claimed) (below own)
  | unfinished _ _ fault _ =>
    exact onlyFails_error ((confines.model _ (here _ List.mem_cons_self)).fails _ fault)
  | unstored claimed inner built refused _ =>
    -- never comes about, as the slot that was claimed is still free
    have own := here _ List.mem_cons_self
    obtain ⟨middle, -⟩ := inner.grounded confines.stable (grounded.claim own claimed) (below own)
    exact absurd refused (inner.stores claimed built middle.distinct _)
  | stored claimed inner built kept _ _ ih =>
    have own := here _ List.mem_cons_self
    have next := grounded_stored confines.stable grounded own claimed inner built kept
    exact ih next fun site inside => here site (.tail _ inside)

/-- So do resolutions, as no name is left without its model. -/
theorem Resolver.Confines.resolveWithin (confines : resolver.Confines world allowed) (budget : Nat)
    (start : Progress) : OnlyFails allowed ((resolver.resolveWithin budget).run start).1 := by
  intro failure failed
  obtain ⟨middle, -, walk | ⟨last, walk, -, fault | unfrozen⟩⟩ :=
    resolveWithin_error (Prod.ext failed rfl)
  · exact walk.confined confines (grounded_empty resolver world)
      (fun site inside => confines.root.visits site (Script.mem_visits.mpr inside)) failure rfl
  · exact confines.root.fails failure fault
  · obtain ⟨models, frozen⟩ := Registry.freeze_of_pending (walk.pending_of_ok rfl)
    cases frozen.symm.trans unfrozen

end Walks

namespace Resolver

variable {resolver : Resolver} {path : String} {value next raw entry : Json} {direction : Direction}
  {directions : List Direction} {failure : Failure} {cause : Cause} {place : Option String}
  {reference : Reference} {finding : Finding} {parent key : String} {position : Option Int}
  {site : Site} {entries : List Json}

/-- The path of a value is made of the directions that lead to it. -/
def PathTo (resolver : Resolver) (path : String) (value : Json) : Prop :=
  ∃ directions, path = Direction.render directions ∧
    resolver.definitions.Reaches resolver.document directions value

/-- A site whose path is that of a schema which stands for its own. -/
def Standing (resolver : Resolver) (site : Site) : Prop :=
  ∃ raw place reference, resolver.PathTo site.path raw ∧ raw.isObject = true ∧
    resolver.definitions.resolve raw place = .ok reference ∧ reference.schema = site.schema

/-- A problem, if it is one, is told with the path of a value. -/
def Pointed (resolver : Resolver) (failure : Failure) : Prop :=
  ∀ problem, failure = .problem problem → ∃ path value, problem.place = some path ∧
    resolver.PathTo path value ∧ (problem.category.isOfInference = true → value.isObject = true ∧
      resolver.definitions.infer value (some path) = .error (.problem problem))

/-- A walk that goes where its paths say. -/
abbrev Guided {α : Type} (resolver : Resolver) (script : Script α) : Prop :=
  script.Keeps resolver.Standing resolver.Pointed

theorem mem_values_of_reaches
    (reaches : resolver.definitions.Reaches resolver.document directions value) :
    value ∈ resolver.document.values := by
  have behind {schema : Json} {place : Option String} {reference : Reference}
      (ok : resolver.definitions.resolve schema place = .ok reference)
      (known : schema ∈ resolver.document.values) : reference.schema ∈ resolver.document.values := by
    rcases mem_values_of_resolve ok with same | inside
    · exact same ▸ known
    · exact inside
  induction reaches with
  | here => exact Json.mem_values_self _
  | step _ enters known =>
    cases enters with
    | property ok declared => exact mem_values_of_declares declared (behind ok known)
    | items ok listing => exact Json.mem_values_of_lookup (behind ok known) listing
    | alternatives offered => exact Json.mem_values_of_lookup known offered
    | entry inside => exact Json.mem_values_of_part (List.mem_of_getElem? inside) _ known

theorem pathTo_document (resolver : Resolver) : resolver.PathTo "#" resolver.document :=
  ⟨[], rfl, .here⟩

theorem PathTo.step (known : resolver.PathTo path value)
    (enters : resolver.definitions.Enters value direction next) :
    resolver.PathTo (path ++ direction.text) next := by
  obtain ⟨directions, rfl, reaches⟩ := known
  exact ⟨directions ++ [direction], (Direction.render_snoc _ _).symm, .step reaches enters⟩

theorem PathTo.item {index : Nat} (known : resolver.PathTo path (.arr entries))
    (inside : entries[index]? = some entry) :
    resolver.PathTo (path ++ "/" ++ toString index) entry := by
  rw [String.append_assoc]
  exact known.step (.entry inside)

theorem pointed_misuse (misuse : Misuse) : resolver.Pointed (.misuse misuse) := nofun

theorem pointed_nameless (subject : Subject) : resolver.Pointed (.nameless subject) := nofun

theorem pointed_of_by (known : resolver.PathTo path value) (fault : failure.By cause path)
    (other : cause.category.isOfInference = false) : resolver.Pointed failure := by
  obtain ⟨details, rfl⟩ := fault
  rintro problem ⟨⟩
  refine ⟨path, value, rfl, known, fun inferring => ?_⟩
  cases other.symm.trans inferring

theorem pointed_of_infer (known : resolver.PathTo path raw) (object : raw.isObject = true)
    (failed : resolver.definitions.infer raw (some path) = .error failure) :
    resolver.Pointed failure := by
  have there : OnlyFails (Failure.OfSchemaAt resolver.definitions path)
      (resolver.definitions.infer raw (some path)) :=
    (onlyFails_resolve _ object).bind_of_ok fun _ resolved =>
      (onlyFails_ofSchema (Definitions.isObject_of_resolve object resolved) false).mono fun _ fault =>
        fault.ofSchemaAt
  rintro problem rfl
  cases there _ failed with
  | problem fault => exact ⟨path, raw, rfl, known, fun _ => ⟨object, failed⟩⟩

theorem guided_inspect (known : resolver.PathTo path raw) (object : raw.isObject = true) :
    resolver.Guided (resolver.inspect raw path) := by
  unfold inspect
  refine .bind_of_ok (.attempt fun failure failed => ?_) fun reference resolved => ?_
  · refine pointed_of_infer known object ?_
    rw [Definitions.infer, failed]
    rfl
  refine .bind (.note _) fun _ => .attempt ?_
  refine OnlyFails.bind (fun failure failed => ?_) fun inferred => OnlyFails.bind ?_ fun _ =>
    onlyFails_ok _
  · refine pointed_of_infer known object ?_
    change resolver.definitions.resolve raw (some path) = .ok reference at resolved
    rw [Definitions.infer, resolved]
    exact failed
  · unfold hasModel
    split
    · have behind := Definitions.isObject_of_resolve object resolved
      exact (onlyFails_declaresProperties behind).mono fun _ fault => pointed_of_by known fault rfl
    · exact onlyFails_ok _

theorem guided_ownModel (known : resolver.PathTo path raw) (object : raw.isObject = true)
    (found : (resolver.inspect raw path).outcome = .ok finding) :
    resolver.Guided (resolver.ownModel finding parent key position path) := by
  have behind := isObject_of_inspect object found
  unfold ownModel
  split
  · refine .bind (.attempt ?_) fun base => .bind (.visit ?_) fun _ => .pure _
    · exact (onlyFails_givenBase? _ behind _).bind fun _ => onlyFails_ok _
    · exact ⟨raw, some path, finding.reference, known, object, (inspect_ok.mp found).1, rfl⟩
  · exact .pure _

theorem guided_uniform (known : resolver.PathTo path raw) (object : raw.isObject = true) :
    resolver.Guided (resolver.uniform parent key path raw) := by
  unfold uniform
  refine .bind_of_ok (guided_inspect known object) fun finding found => ?_
  exact .bind (guided_ownModel known object found) fun _ => .pure _

/-- A text among several schemas goes wrong only where it names no type. -/
theorem onlyFails_text (text : String) : OnlyFails (Failure.By (.typeUnknown text) path)
    (resolver.inspect (spelledOut (.str text)) path).outcome := by
  unfold inspect
  rw [spelledOut, Definitions.resolve_of_plain (by rfl)]
  change OnlyFails _ (findingOf _ path)
  refine OnlyFails.bind ?_ fun inferred => OnlyFails.bind ?_ fun _ => onlyFails_ok _
  · change OnlyFails _ (Inferred.ofName (.str text) false _ (some path))
    unfold Inferred.ofName
    dsimp only
    split
    · exact onlyFails_ofKind rfl _ _
    · exact onlyFails_by _
  · unfold hasModel
    split
    · exact onlyFails_ok false
    · exact onlyFails_ok false

theorem guided_alternative {index : Nat}
    (known : resolver.PathTo (path ++ "/" ++ toString index) entry) :
    resolver.Guided (resolver.alternative parent key path index entry) := by
  cases entry with
  | obj members =>
    unfold alternative
    dsimp only [spelledOut]
    split
    · exact .pure _
    · refine .bind_of_ok (guided_inspect known rfl) fun finding found => ?_
      exact .bind (guided_ownModel known rfl found) fun _ => .pure _
  | str text =>
    -- what the text is short for is no value of the document itself, but it has no model either
    unfold alternative
    dsimp only [spelledOut]
    split
    · exact .pure _
    · refine .bind_of_ok ⟨?_, ?_⟩ fun finding found => .bind ⟨?_, ?_⟩ fun _ => .pure _
      · rw [visits_inspect]
        nofun
      · exact (onlyFails_text text).mono fun _ fault => pointed_of_by known fault rfl
      · exact fun site inside => absurd (mem_visits_ownModel found inside) not_found_text
      · exact onlyFails_ownModel (isObject_of_inspect rfl found)
  | _ => exact .fail (pointed_of_by known ⟨none, rfl⟩ rfl)

theorem guided_alternatives {first : Nat} (each : ∀ index entry, entries[index]? = some entry →
    resolver.PathTo (path ++ "/" ++ toString (first + index)) entry) :
    resolver.Guided (resolver.alternatives parent key path first entries) := by
  induction entries generalizing first with
  | nil => exact .pure _
  | cons entry rest ih =>
    unfold alternatives
    refine .bind (guided_alternative (each 0 entry rfl)) fun _ => .bind (ih ?_) fun _ => .pure _
    intro index entry inside
    rw [Nat.add_right_comm, Nat.add_assoc]
    exact each (index + 1) entry inside

theorem guided_several (known : resolver.PathTo path (.arr entries)) :
    resolver.Guided (resolver.alternatives parent key path 0 entries) := by
  refine guided_alternatives fun index entry inside => ?_
  rw [Nat.zero_add]
  exact known.item inside

theorem guided_elementsOf (known : resolver.PathTo path value) :
    resolver.Guided (resolver.elementsOf parent key path value) := by
  unfold elementsOf
  split
  · exact .pure _
  next members =>
    have below {several : Json} (offered : members.lookup "anyOf" = some several) :
        resolver.PathTo (path ++ "/anyOf") several :=
      known.step (.alternatives (congrArg Except.ok offered))
    split
    next offered => exact guided_several (below offered)
    next offered => exact .fail (pointed_of_by (below offered) ⟨none, rfl⟩ rfl)
    next => exact guided_uniform known rfl
  · split
    · exact .attempt ((onlyFails_shorthand _).mono fun _ ⟨_, fault⟩ => pointed_of_by known fault rfl)
    · exact guided_several known
  · exact .fail (pointed_of_by known ⟨_, rfl⟩ rfl)

theorem guided_elements (known : resolver.PathTo path raw)
    (behind : resolver.definitions.resolve raw place = .ok reference)
    (object : reference.schema.isObject = true) :
    resolver.Guided (resolver.elements parent key path reference.schema) := by
  unfold elements
  refine .bind_of_ok (.attempt (onlyFails_member? object _)) fun items looked => ?_
  cases items with
  | none => exact .pure _
  | some items =>
    exact guided_elementsOf (known.step (.items behind (Failure.ofMisuse_eq_ok.mp looked)))

theorem guided_held (known : resolver.PathTo path raw) (object : raw.isObject = true)
    (found : (resolver.inspect raw path).outcome = .ok finding) :
    resolver.Guided (resolver.held finding parent key path) := by
  unfold held
  split
  · exact guided_elements known (inspect_ok.mp found).1 (isObject_of_inspect object found)
  · exact .pure _

theorem guided_property (standing : resolver.Standing site) (declared : site.schema.Declares key entry)
    (required : List Json) : resolver.Guided (resolver.property site required key entry) := by
  obtain ⟨raw, place, reference, known, -, behind, same⟩ := standing
  have known : resolver.PathTo (site.path ++ "/properties/" ++ key) entry := by
    rw [String.append_assoc]
    exact known.step (.property behind (same ▸ declared))
  unfold property
  dsimp only
  split
  next object =>
    refine .bind_of_ok (guided_inspect known object) fun finding found => ?_
    refine .bind (guided_ownModel known object found) fun _ => ?_
    refine .bind (guided_held known object found) fun _ => .attempt ?_
    exact onlyFails_described object (isObject_of_inspect object found) fun _ => pointed_nameless _
  next => exact .fail (pointed_of_by known ⟨none, rfl⟩ rfl)

theorem guided_model (standing : resolver.Standing site) :
    resolver.Guided (resolver.model site) := by
  obtain ⟨raw, place, reference, known, object, behind, same⟩ := id standing
  have object := Definitions.isObject_of_resolve object behind
  rw [same] at object
  unfold model
  refine .bind (.attempt ?_) fun required => .bind_of_ok (.attempt ?_) fun entries declared => ?_
  · exact (onlyFails_requiredOf object).mono fun _ fault => pointed_of_by known fault rfl
  · exact onlyFails_ofMisuse fun misuse _ => pointed_misuse misuse
  refine .bind (.mapM fun entry inside => ?_) fun properties => .attempt ?_
  · exact guided_property standing ⟨entries, Failure.ofMisuse_eq_ok.mp declared, inside⟩ required
  · exact onlyFails_ofProperties (fun _ => pointed_nameless _) properties

theorem guided_root (object : resolver.document.isObject = true) : resolver.Guided resolver.root := by
  have known := resolver.pathTo_document
  unfold root
  refine .bind_of_ok (guided_inspect known object) fun finding found => ?_
  have behind := isObject_of_inspect object found
  have resolved := (inspect_ok.mp found).1
  dsimp only
  refine .bind (.attempt ?_) fun base => ?_
  · exact (onlyFails_givenBase? _ behind _).bind fun _ => onlyFails_ok _
  split
  · exact .visit ⟨resolver.document, some "#", finding.reference, known, object, resolved, rfl⟩
  · split
    · rw [Script.discard_eq]
      exact .bind (guided_elements known resolved behind) fun _ => .pure _
    · exact .note _

/-- A name that is taken is told at the path of the schema that claims it in vain. -/
theorem pointed_claim (standing : resolver.Standing site) (registry : Registry) :
    OnlyFails resolver.Pointed (resolver.claim site registry) := by
  intro failure refused
  obtain ⟨raw, -, -, known, -⟩ := standing
  obtain ⟨_, -, -, rfl⟩ := Registry.reserve_error refused
  exact pointed_of_by known ⟨_, rfl⟩ rfl

theorem confines_standing (object : resolver.document.isObject = true) :
    resolver.Confines resolver.Standing resolver.Pointed where
  root := guided_root object
  model _ standing := guided_model standing
  claim _ registry standing := pointed_claim standing registry
  exhausted := nofun

theorem pointed_of_resolveWithin {document : Json} {settings : Settings} {budget : Nat}
    {start : Progress} (failed : (do
      let resolver ← ofDocument document settings
      ((resolver.resolveWithin budget).run start).1) = .error failure) :
    Pointed ⟨document, settings⟩ failure := by
  cases document with
  | obj members => exact (confines_standing rfl).resolveWithin budget start failure failed
  | _ =>
    cases failed
    exact pointed_of_by (pathTo_document _) ⟨_, rfl⟩ rfl

/-- The path of every problem of a resolution is made of directions that lead to a value of the document,
with references followed on the way; and a problem of references or of an enumeration is the one that
comes up in the tag of that value, which is a schema. -/
theorem problems_placed (document : Json) (settings : Settings) (budget : Nat) (start : Progress)
    (problem : Problem)
    (failed : (do
      let resolver ← ofDocument document settings
      ((resolver.resolveWithin budget).run start).1) = .error (.problem problem)) :
    let definitions := definitions ⟨document, settings⟩
    ∃ directions value, problem.place = some (Direction.render directions) ∧
      definitions.Reaches document directions value ∧ value ∈ document.values ∧
      (problem.category.isOfInference = true → value.isObject = true ∧
        definitions.infer value problem.place = .error (.problem problem)) := by
  intro definitions
  obtain ⟨path, value, placed, ⟨directions, rfl, reaches⟩, inferred⟩ :=
    pointed_of_resolveWithin failed problem rfl
  refine ⟨directions, value, placed, reaches, mem_values_of_reaches reaches, ?_⟩
  rw [placed]
  exact inferred

/-- A list behind references of the root and of a property, with a reference among its alternatives to an
enumeration that is no list. -/
def misplacedEnum : Json := .obj [
  ("$ref", .str "#/definitions/root"),
  ("definitions", .obj [
    ("root", .obj [("type", .str "object"),
      ("properties", .obj [("marks", .obj [("$ref", .str "#/definitions/marks")])])]),
    ("marks", .obj [("type", .str "array"),
      ("items", .obj [("anyOf", .arr [.str "integer", .obj [("$ref", .str "#/definitions/mark")]])])]),
    ("mark", .obj [("enum", .str "high")])])]

theorem problems_placed_enum : ∃ problem,
    (do
      let resolver ← ofDocument misplacedEnum {}
      ((resolver.resolveWithin 2).run {}).1) = .error (.problem problem) ∧
    problem.category = .nonArrayEnum ∧ problem.place = some "#/properties/marks/items/anyOf/1" ∧
    ∃ directions value, problem.place = some (Direction.render directions) ∧
      (definitions ⟨misplacedEnum, {}⟩).Reaches misplacedEnum directions value ∧
      value ∈ misplacedEnum.values ∧
      (problem.category.isOfInference = true → value.isObject = true ∧
        (definitions ⟨misplacedEnum, {}⟩).infer value problem.place = .error (.problem problem)) := by
  have failed : (do
      let resolver ← ofDocument misplacedEnum {}
      ((resolver.resolveWithin 2).run {}).1) = .error (.problem ⟨.enumNotList,
        some "#/properties/marks/items/anyOf/1", some "enum value was str: 'high'"⟩) := by
    decide +kernel
  exact ⟨_, failed, rfl, rfl, problems_placed misplacedEnum {} 2 {} _ failed⟩

end Resolver

end SchemaCatalog
