import SchemaCatalog.Proofs.Reordering
import SchemaCatalog.Proofs.Reuse

/-! Documents whose members stand in another order. Their walks come upon other sites first, and build
models for other schemas of a name. What is built in the one, though, has its like built in the other,
where the same is visited for it; so every claim of the one walk is made in the other as well. Main
statement: two such documents have models of the same names, alike name by name.
-/
namespace SchemaCatalog

namespace Definitions

theorem size_of_reordered {value other : Json} (reordered : value.Reordered other) :
    (ofJson other).size = (ofJson value).size := by
  cases reordered with
  | scalar => rfl
  | arr related => cases related <;> rfl
  | obj names values arranged =>
    rw [ofJson_obj, ofJson_obj]
    exact ((congrArg List.length names).trans (arranged.map (·.1)).length_eq).symm

end Definitions

namespace Resolver

variable {first second : Resolver} {site : Site} {key : String} {model : Model}
  {models models' : List (String × Model)} {final final' : Progress}

theorem definitions_of_lookup {resolver : Resolver} {members entries : List (String × Json)}
    (object : resolver.document = .obj members)
    (bound : members.lookup "definitions" = some (.obj entries)) :
    resolver.definitions = .table entries := by
  obtain ⟨_, settings⟩ := resolver
  subst object
  change Definitions.ofJson ((members.lookup "definitions").getD .null) = _
  rw [bound]
  exact Definitions.ofJson_obj entries

theorem schemaOf_alike (like : first.document.Alike second.document) (name : String)
    (place place' : Option String) :
    Follows Json.Alike (first.definitions.schemaOf name place)
      (second.definitions.schemaOf name place') := by
  intro target found
  have object := (Definitions.entry_of_schemaOf found).2
  have structural : Fingerprint.isAnnotation name target = false := by
    cases target with
    | str => cases object
    | _ => rfl
  obtain ⟨entries, table, bound⟩ := Definitions.schemaOf_ok found
  rcases definitions_table table with rfl | ⟨members, document, known⟩
  · cases bound
  rw [document] at like
  obtain ⟨members', document', -⟩ := like.of_obj
  rw [document'] at like
  obtain ⟨_, known', like⟩ := like.member known rfl
  obtain ⟨entries', rfl, -⟩ := like.of_obj
  obtain ⟨target', bound', like⟩ := like.member bound structural
  refine ⟨target', ?_, like⟩
  rw [definitions_of_lookup document' known']
  exact Definitions.schemaOf_of_lookup bound' (like.isObject.trans object) place'

theorem size_definitions_of_reordered (reordered : first.document.Reordered second.document)
    (distinct : first.document.Distinct) : second.definitions.size = first.definitions.size := by
  obtain ⟨document, settings⟩ := first
  obtain ⟨other, settings'⟩ := second
  dsimp only at reordered distinct
  cases reordered with
  | scalar scalar =>
    cases document with
    | obj => cases scalar
    | _ => rfl
  | arr => rfl
  | @obj members ordered others names values arranged =>
    have related := (Json.Reordered.obj names values arranged).lookup distinct "definitions"
    change (Definitions.ofJson ((others.lookup "definitions").getD .null)).size =
      (Definitions.ofJson ((members.lookup "definitions").getD .null)).size
    generalize members.lookup "definitions" = found, others.lookup "definitions" = found' at related
    cases related with
    | none => rfl
    | some reordered => exact Definitions.size_of_reordered reordered

/-- Documents alike, under the same settings, and what each of them was resolved to. -/
structure Paired (first second : Resolver) (models models' : List (String × Model))
    (final final' : Progress) : Prop where
  same : first.Alike second
  same' : second.Alike first
  documents : first.document.Alike second.document
  ok : first.resolve.run {} = (.ok models, final)
  ok' : second.resolve.run {} = (.ok models', final')

theorem Alike.nameOf (same : first.Alike second) (site : Site) :
    second.nameOf site = first.nameOf site := by
  rw [Resolver.nameOf, Resolver.nameOf, same.settings]

namespace Paired

theorem symm (paired : Paired first second models models' final final') :
    Paired second first models' models final' final where
  same := paired.same'
  same' := paired.same
  documents := paired.documents.symm
  ok := paired.ok'
  ok' := paired.ok

theorem settled (paired : Paired first second models models' final final') :
    first.Settled final.registry models :=
  (settled_of_resolve paired.ok).1

/-- A model that is built in the one resolution has its like in the other, if its name is claimed there;
and then so are the names of all that was visited for it. -/
theorem step (paired : Paired first second models models' final final') (placed : first.Placed site)
    (covered : second.Covered final'.registry site) (built : (first.model site).outcome = .ok model)
    (visited : ∀ child ∈ (first.model site).visits, first.Covered final.registry child) :
    ∃ model', (second.nameOf site, model') ∈ models' ∧ model'.Alike model ∧
      ∀ child ∈ (first.model site).visits, second.Covered final'.registry child := by
  have distinct := paired.documents.distinct
  have distinct' := paired.documents.distinct'
  obtain ⟨twin, model', placed', like, stored, built', visited'⟩ :=
    paired.symm.settled.alike distinct' (placed.distinct distinct) covered
  -- the other resolution may have built the name for another schema, but that is alike to this one
  have good := paired.settled.declaring_below distinct placed visited
  have good' := paired.symm.settled.declaring_below distinct' placed' visited'
  obtain ⟨_, made, alike, twins⟩ :=
    paired.same'.model like (legible_of_model built) good' good model' built'
  cases built.symm.trans made
  refine ⟨model', stored, alike, fun child inside => ?_⟩
  obtain ⟨other, listed, like⟩ := twins child inside
  exact (visited' other listed).alike like

end Paired

end Resolver

/-- What a walk claims for one of two documents is claimed for the other as well. -/
theorem Walk.shares {first second : Resolver} {models models' : List (String × Model)}
    {ended ended' : Progress} (paired : first.Paired second models models' ended ended') {budget : Nat}
    {enclosing : List String} {acts : List Act} {progress final : Progress}
    {outcome : Except Failure Unit} (walk : Walk first budget enclosing acts progress outcome final)
    (ok : outcome = .ok ())
    (here : ∀ site, Act.visit site ∈ acts → first.Placed site ∧ second.Covered ended'.registry site)
    (known : ∀ claim ∈ final.registry.claims, claim ∈ ended.registry.claims) :
    ∀ claim ∈ final.registry.claims,
      claim ∈ progress.registry.claims ∨ claim ∈ ended'.registry.claims := by
  induction walk with
  | done => exact fun claim inside => .inl inside
  | note _ ih => exact ih ok (fun site inside => here site (.tail _ inside)) known
  | exhausted => cases ok
  | collided => cases ok
  | reused _ _ ih => exact ih ok (fun site inside => here site (.tail _ inside)) known
  | failed => cases ok
  | unfinished => cases ok
  | unstored => cases ok
  | @stored _ _ site _ _ _ _ middle _ _ _ claimed inner built kept rest ih ihRest =>
    obtain ⟨placed, covered⟩ := here _ List.mem_cons_self
    have claims := Registry.claims_store kept
    have later : ∀ claim ∈ middle.registry.claims, claim ∈ ended.registry.claims :=
      fun claim inside => known claim (rest.claims_grow claim (claims ▸ inside))
    have visited : ∀ child ∈ (first.model site).visits, first.Covered ended.registry child :=
      fun child inside => later _ (inner.covers rfl child (Script.mem_visits.mp inside))
    obtain ⟨_, -, -, shared⟩ := paired.step placed covered built visited
    have below : ∀ child, Act.visit child ∈ (first.model site).acts →
        first.Placed child ∧ second.Covered ended'.registry child := fun child inside =>
      ⟨first.stable_placed site placed child (Script.mem_visits.mpr inside),
        shared child (Script.mem_visits.mpr inside)⟩
    -- a claim is made by what comes after this site, by what is below it, by the site, or is older
    intro claim inside
    rcases ihRest ok (fun site inside => here site (.tail _ inside)) known claim inside
      with before | there
    · rw [Progress.registry_noting, claims] at before
      rcases ih rfl below later claim before with before | there
      · rcases (Registry.mem_claims_reserve_new claimed).mp before with before | rfl
        · exact .inl before
        · rw [Resolver.Covered, paired.same.nameOf] at covered
          exact .inr covered
      · exact .inr there
    · exact .inr there

namespace Resolver

variable {first second : Resolver} {models models' : List (String × Model)} {final final' : Progress}
  {key : String} {model : Model}

namespace Paired

theorem root (paired : Paired first second models models' final final') :
    ∀ site ∈ first.root.visits, second.Covered final'.registry site := by
  have covered {one other : Resolver} {models models' : List (String × Model)}
      {final final' : Progress} (paired : Paired one other models models' final final') :
      one.root.outcome = .ok () ∧ ∀ site ∈ one.root.visits,
        one.Covered final.registry site ∧ site.schema.Declaring := by
    have settled := paired.settled
    obtain ⟨middle, walk, ok, -, rfl⟩ := resolveWithin_ok.mp paired.ok
    refine ⟨ok, fun site inside => ?_⟩
    have claimed := walk.covers rfl site (Script.mem_visits.mp inside)
    have placed := placed_of_start site (Script.mem_visits.mp inside)
    exact ⟨claimed, settled.declaring paired.documents.distinct placed claimed⟩
  obtain ⟨-, good⟩ := covered paired
  obtain ⟨ok, good'⟩ := covered paired.symm
  obtain ⟨_, -, -, twins⟩ := paired.same'.root paired.documents.symm
    (fun site inside => (good' site inside).2) (fun site inside => (good site inside).2) () ok
  intro site inside
  obtain ⟨twin, listed, like⟩ := twins site inside
  exact (good' twin listed).1.alike like

theorem claims (paired : Paired first second models models' final final') :
    ∀ claim ∈ final.registry.claims, claim ∈ final'.registry.claims := by
  have start := paired.root
  obtain ⟨middle, walk, -, -, ended⟩ := resolveWithin_ok.mp paired.ok
  have registry : final.registry = middle.registry := ended ▸ rfl
  rw [registry]
  intro claim inside
  have shared := walk.shares paired rfl
    (fun site visit => ⟨placed_of_start site visit, start site (Script.mem_visits.mpr visit)⟩)
    (fun claim inside => registry ▸ inside) claim inside
  rcases shared with before | there
  · cases before
  · exact there

theorem stored (paired : Paired first second models models' final final')
    (stored : (key, model) ∈ models) : ∃ model', (key, model') ∈ models' ∧ model'.Alike model := by
  obtain ⟨site, placed, rfl, covered, built, visited⟩ := paired.settled.origin stored
  have covered' : second.Covered final'.registry site := by
    rw [Covered, paired.same.nameOf]
    exact paired.claims _ covered
  obtain ⟨model', there, alike, -⟩ := paired.step placed covered' built visited
  rw [paired.same.nameOf] at there
  exact ⟨model', there, alike⟩

theorem mem_names (paired : Paired first second models models' final final')
    (inside : key ∈ models.map (·.1)) : key ∈ models'.map (·.1) := by
  obtain ⟨⟨_, model⟩, stored, rfl⟩ := List.mem_map.mp inside
  obtain ⟨model', there, -⟩ := paired.stored stored
  exact List.mem_map.mpr ⟨_, there, rfl⟩

end Paired

theorem alike_of_reordered {document other : Json} {settings : Settings}
    (reordered : document.Reordered other) (distinct : document.Distinct)
    (plain : settings.overrideKey ≠ "description") :
    (Resolver.mk document settings).Alike ⟨other, settings⟩ ∧
      (Resolver.mk other settings).Alike ⟨document, settings⟩ := by
  have like := reordered.alike distinct
  have size : (Resolver.mk other settings).definitions.size =
      (Resolver.mk document settings).definitions.size :=
    size_definitions_of_reordered reordered distinct
  exact ⟨⟨rfl, plain, ⟨size.ge, schemaOf_alike like⟩⟩, ⟨rfl, plain, ⟨size.le, schemaOf_alike like.symm⟩⟩⟩

/-- Documents that differ in the order of members only have models of the same names, and these differ
in descriptions and in the order of properties only. -/
theorem models_rearranged {document other : Json} {settings : Settings} (distinct : document.Distinct)
    (reordered : document.Reordered other) (plain : settings.overrideKey ≠ "description")
    (ok : Resolver.models document settings = .ok models)
    (ok' : Resolver.models other settings = .ok models') :
    (models.map (·.1)).Perm (models'.map (·.1)) ∧
      ∀ name model model', (name, model) ∈ models → (name, model') ∈ models' → model.Alike model' := by
  obtain ⟨_, known, ok⟩ := Failure.bind_eq_ok.mp ok
  obtain ⟨_, known', ok'⟩ := Failure.bind_eq_ok.mp ok'
  cases ofDocument_ok known
  cases ofDocument_ok known'
  obtain ⟨same, same'⟩ := alike_of_reordered reordered distinct plain
  have paired : Paired _ _ models models' _ _ :=
    ⟨same, same', reordered.alike distinct, Prod.ext ok rfl, Prod.ext ok' rfl⟩
  refine ⟨?_, fun name model model' inside there => ?_⟩
  · rw [List.perm_ext_iff_of_nodup paired.settled.nodup paired.symm.settled.nodup]
    exact fun name => ⟨paired.mem_names, paired.symm.mem_names⟩
  · obtain ⟨found, stored, alike⟩ := paired.symm.stored there
    cases List.inj_on_of_nodup_map paired.settled.nodup stored inside rfl
    exact alike

/-- A schema under a name that others share, which leads to another that has it inside. -/
def spokeSchema (note : String) : Json := .obj [
  ("nameOverride", .str "spoke"),
  ("type", .str "object"),
  ("properties", .obj [
    ("text", .obj [("type", .str "string"), ("description", .str note)]),
    ("wheel", .obj [("$ref", .str "#/definitions/wheel")])])]

def wheelDocument : Json := .obj [
  ("type", .str "object"),
  ("properties", .obj [("left", spokeSchema "left"), ("right", spokeSchema "right")]),
  ("definitions", .obj [("wheel", .obj [
    ("type", .str "object"),
    ("properties", .obj [
      ("hub", spokeSchema "hub"), ("next", .obj [("$ref", .str "#/definitions/wheel")])])])])]

/-- The model of the shared name is built for another schema each time, and comes out alike. -/
theorem models_rearranged_wheel : wheelDocument.Distinct ∧
    wheelDocument.Reordered wheelDocument.turned ∧ ({} : Settings).overrideKey ≠ "description" ∧
    ∃ models models', Resolver.models wheelDocument {} = .ok models ∧
      Resolver.models wheelDocument.turned {} = .ok models' ∧
      (models.map (·.1)).Perm (models'.map (·.1)) ∧
      ∃ model model', ("SpokeModel", model) ∈ models ∧ ("SpokeModel", model') ∈ models' ∧
        model ≠ model' ∧ model.Alike model' := by
  have distinct : wheelDocument.Distinct := by
    simp [wheelDocument, spokeSchema, Json.Distinct, Json.MembersDistinct]
  have reordered := wheelDocument.reordered_turned
  have plain : ({} : Settings).overrideKey ≠ "description" := by decide
  have checked : ((Resolver.models wheelDocument {}).toOption.any fun models =>
      (Resolver.models wheelDocument.turned {}).toOption.any fun models' =>
        models.any fun one => models'.any fun other =>
          one.1 == "SpokeModel" && other.1 == "SpokeModel" && decide (one.2 ≠ other.2)) = true := by
    decide +kernel
  refine ⟨distinct, reordered, plain, ?_⟩
  rcases ok : Resolver.models wheelDocument {} with failure | models
  · rw [ok] at checked
    cases checked
  rcases ok' : Resolver.models wheelDocument.turned {} with failure | models'
  · rw [ok, ok'] at checked
    cases checked
  rw [ok, ok'] at checked
  obtain ⟨⟨name, model⟩, inside, checked⟩ := List.any_eq_true.mp checked
  obtain ⟨⟨name', model'⟩, inside', checked⟩ := List.any_eq_true.mp checked
  simp only [Bool.and_eq_true, beq_iff_eq, decide_eq_true_eq] at checked
  obtain ⟨⟨rfl, rfl⟩, different⟩ := checked
  obtain ⟨names, alike⟩ := models_rearranged distinct reordered plain ok ok'
  exact ⟨models, models', rfl, rfl, names, model, model', inside, inside', different,
    alike _ _ _ inside inside'⟩

end Resolver

end SchemaCatalog
