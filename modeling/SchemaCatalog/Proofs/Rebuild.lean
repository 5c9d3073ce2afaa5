import Mathlib.Algebra.Order.BigOperators.Group.List
import SchemaCatalog.Proofs.Reuse
import SchemaCatalog.Proofs.Steps

/-! Schemas built once more. A registry that is settled has finitely many names, so steps by path do not
come back to a schema under another base name, and the budget suffices. Main statements: a resolution
that succeeds with any budget succeeds with its own; and whatever schema a resolution has reached,
building it by itself succeeds with a model alike to the one of its name.
-/
namespace SchemaCatalog

namespace Resolver

variable {resolver : Resolver} {registry : Registry} {models : List (String × Model)}
  {first middle last site : Site} {tail further : String}

theorem pathBase_eq (parent key : String) (position : Option Int) :
    Settings.pathBase parent key position = parent ++ Settings.pathBase "" key position := by
  simp only [Settings.pathBase, String.empty_append, String.append_assoc]

/-- A site with its claim, unless it declares annotations alone. -/
structure Admitted (resolver : Resolver) (registry : Registry) (site : Site) : Prop where
  placed : resolver.Placed site
  covered : site.schema.Declaring → resolver.Covered registry site

/-- Wherever a schema like the first one has a claim, one like the last has, under a longer name. -/
structure Carries (resolver : Resolver) (registry : Registry) (first last : Site) (tail : String) :
    Prop where
  base : last.base = first.base ++ tail
  carry : ∀ site, resolver.Placed site → resolver.Covered registry site →
    first.schema.Alike site.schema → ∃ other, resolver.Placed other ∧
      resolver.Covered registry other ∧ last.schema.Alike other.schema ∧ other.base = site.base ++ tail

theorem Carries.trans (one : resolver.Carries registry first middle tail)
    (two : resolver.Carries registry middle last further) :
    resolver.Carries registry first last (tail ++ further) where
  base := by rw [two.base, one.base, String.append_assoc]
  carry site placed covered like := by
    obtain ⟨other, placed, covered, like, based⟩ := one.carry site placed covered like
    obtain ⟨another, placed, covered, like, further⟩ := two.carry other placed covered like
    exact ⟨another, placed, covered, like, by rw [further, based, String.append_assoc]⟩

theorem Child.declaring (below : resolver.Child first last) (distinct : first.schema.Distinct) :
    first.schema.Declaring := by
  cases below with
  | value declared found =>
    exact (declares_alike (.refl distinct) declared (isObject_of_found found.choose_spec.1)).1
  | element declared behind => exact (declares_alike (.refl distinct) declared (isObject_of_found behind)).1

/-- A schema that is named by path is found where it stands. -/
theorem NamedByPath.found {raw : Json} (named : resolver.NamedByPath raw) (distinct : raw.Distinct)
    (parent key : String) (position : Option Int) (path : String) :
    resolver.Found raw parent key position ⟨raw, Settings.pathBase parent key position, path⟩ := by
  obtain ⟨place, inferred, tagged, object, declared⟩ := named.object
  obtain ⟨_, tagged', rfl⟩ :=
    Inferred.ofSchema_alike (.refl distinct) false place (some path) _ tagged
  have modelled : hasModel inferred.tag raw path = .ok true :=
    hasModel_ok.mpr ⟨object, declaresProperties_ok.mp declared⟩
  refine ⟨⟨⟨raw, []⟩, inferred, true⟩, inspect_ok.mpr ⟨?_, findingOf_ok.mpr ⟨rfl, tagged', modelled⟩⟩,
    rfl, rfl, nestedBase_ok.mpr ⟨none, named.unnamed, rfl⟩⟩
  exact Definitions.resolve_of_plain named.plain _

section

variable (distinct : resolver.document.Distinct)

include distinct

/-- Where steps by path lead to is a child, whatever the base name they start from. -/
theorem StepAt.child {key raw} (step : resolver.StepAt site.schema key position raw)
    (inside : site.schema ∈ resolver.document.values) :
    ∃ path, resolver.Child site ⟨raw, Settings.pathBase site.base key position, path⟩ := by
  cases step with
  | value declared named =>
    have plain := distinct.of_values _ (mem_values_of_declares declared inside)
    exact ⟨"", .value declared (named.found plain _ _ _ _)⟩
  | element declared behind list listing offered named =>
    have known := mem_values_of_inspect behind (mem_values_of_declares declared inside)
    have plain : raw.Distinct := by
      rcases mem_values_of_offer offered (Json.mem_values_of_lookup known listing) with
        inside | ⟨text, rfl⟩
      · exact distinct.of_values _ inside
      · obtain ⟨_, _, -, -, declared⟩ := named.object
        cases declared
    exact ⟨"", .element declared behind list listing offered (named.found plain _ _ _ _)⟩

theorem PathChild.mem_values (step : resolver.PathChild first last)
    (inside : first.schema ∈ resolver.document.values) : last.schema ∈ resolver.document.values := by
  obtain ⟨key, position, step, -⟩ := step
  obtain ⟨path, below⟩ := step.child distinct inside
  exact below.mem_values inside

theorem PathChild.declaring (step : resolver.PathChild first last)
    (inside : first.schema ∈ resolver.document.values) : first.schema.Declaring := by
  obtain ⟨key, position, step, -⟩ := step
  obtain ⟨path, below⟩ := step.child distinct inside
  exact below.declaring (distinct.of_values _ inside)

end

section

variable (settled : resolver.Settled registry models) (distinct : resolver.document.Distinct)
  (plain : resolver.settings.overrideKey ≠ "description")

include settled distinct plain

/-- Among sites with claims, what stands below one stands below all alike. -/
theorem covered_below {child : Site} (covered : resolver.Covered registry site)
    (placed : resolver.Placed site) {above : Site} (like : above.Alike site)
    (below : resolver.Child above child) (declaring : child.schema.Declaring) :
    ∃ other, resolver.Placed other ∧ resolver.Covered registry other ∧ other.Alike child := by
  obtain ⟨twin, model, known, twins, -, built, visited⟩ :=
    settled.alike distinct (placed.distinct distinct) covered
  have same : above.Alike twin := ⟨like.schema.trans twins.schema.symm, twins.base ▸ like.base⟩
  obtain ⟨other, inside, like⟩ := below.reaches (alike_self distinct plain) same declaring built
  exact ⟨other, stable_placed resolver twin known other inside, visited other inside, like⟩

theorem stable_admitted : resolver.Stable (resolver.Admitted registry) := by
  intro site admitted child inside
  have below := child_of_mem_visits inside
  refine ⟨stable_placed resolver site admitted.placed child inside, fun declaring => ?_⟩
  have plain' := admitted.placed.distinct distinct
  have covered := admitted.covered (below.declaring plain')
  obtain ⟨other, -, covered, like⟩ := covered_below settled distinct plain covered admitted.placed
    ⟨.refl plain', rfl⟩ below declaring
  exact covered.alike like

theorem carries_of_step (step : resolver.PathChild first last)
    (inside : first.schema ∈ resolver.document.values) (declaring : last.schema.Declaring) :
    ∃ tail, resolver.Carries registry first last tail := by
  obtain ⟨key, position, step, based⟩ := step
  refine ⟨Settings.pathBase "" key position, ?_, fun site placed covered like => ?_⟩
  · rw [based, pathBase_eq]
  · have step : resolver.StepAt (Site.mk first.schema site.base "").schema key position last.schema := step
    obtain ⟨path, below⟩ := step.child distinct inside
    have like : Site.Alike ⟨first.schema, site.base, ""⟩ site := ⟨like, rfl⟩
    obtain ⟨other, placed, covered, like⟩ :=
      covered_below settled distinct plain covered placed like below declaring
    refine ⟨other, placed, covered, like.schema.symm, ?_⟩
    rw [← like.base, pathBase_eq]

theorem carries_of_steps (steps : Relation.TransGen resolver.PathChild first last)
    (inside : first.schema ∈ resolver.document.values) (declaring : last.schema.Declaring) :
    ∃ tail, resolver.Carries registry first last tail := by
  suffices known : first.schema ∈ resolver.document.values →
      first.schema.Declaring ∧ ∃ tail, resolver.Carries registry first last tail from (known inside).2
  clear inside
  induction steps using Relation.TransGen.head_induction_on with
  | single step =>
    exact fun inside => ⟨step.declaring distinct inside,
      carries_of_step settled distinct plain step inside declaring⟩
  | head step _ ih =>
    intro inside
    obtain ⟨declaring, further, two⟩ := ih (step.mem_values distinct inside)
    obtain ⟨tail, one⟩ := carries_of_step settled distinct plain step inside declaring
    exact ⟨step.declaring distinct inside, tail ++ further, one.trans two⟩

/-- Steps that came back to a schema under a longer name could be taken again and again, to more names
than there are. -/
theorem steady_of_admitted (here : resolver.Admitted registry first)
    (steps : Relation.TransGen resolver.PathChild first last) (same : first.schema = last.schema) :
    first.base = last.base := by
  have inside := here.placed.2
  have declaring : first.schema.Declaring := by
    obtain ⟨_, step, -⟩ := Relation.TransGen.head'_iff.mp steps
    exact step.declaring distinct inside
  obtain ⟨tail, carries⟩ := carries_of_steps settled distinct plain steps inside (same ▸ declaring)
  have again (count : Nat) : ∃ site, resolver.Placed site ∧ resolver.Covered registry site ∧
      first.schema.Alike site.schema ∧
      site.base.length = first.base.length + count * tail.length := by
    induction count with
    | zero =>
      have like := Json.Alike.refl (here.placed.distinct distinct)
      exact ⟨first, here.placed, here.covered declaring, like, by omega⟩
    | succ count ih =>
      obtain ⟨site, placed, covered, like, long⟩ := ih
      obtain ⟨other, placed, covered, like, based⟩ := carries.carry site placed covered like
      refine ⟨other, placed, covered, same ▸ like, ?_⟩
      rw [based, String.length_append, long, Nat.succ_mul]
      omega
  have bounded : ∃ bound, ∀ name ∈ registry.names, name.length ≤ bound :=
    ⟨(registry.names.map String.length).sum, fun name inside =>
      List.le_sum_of_mem (List.mem_map_of_mem inside)⟩
  obtain ⟨bound, bounded⟩ := bounded
  obtain ⟨site, -, covered, -, long⟩ := again (bound + 1)
  have short := bounded _ covered.mem_names
  rw [nameOf, Settings.modelName, String.length_append, String.length_append, long] at short
  have empty : tail.length = 0 := by
    by_contra some
    have product := Nat.le_mul_of_pos_right (bound + 1) (Nat.pos_of_ne_zero some)
    omega
  rw [carries.base, String.length_eq_zero_iff.mp empty, String.append_empty]

theorem confined_of_settled :
    resolver.Confined resolver.document.values (resolver.Admitted registry) where
  pooled _ admitted := admitted.placed.2
  stable := stable_admitted settled distinct plain
  steady _ _ here steps same := steady_of_admitted settled distinct plain here steps same

theorem confined_of_reusable :
    resolver.Confined resolver.document.values (resolver.Reusable registry) where
  pooled _ reusable := reusable.placed.2
  stable _ reusable := by
    obtain ⟨_, _, -, -, -, visited⟩ := reusable.model settled distinct plain
    exact visited
  steady _ _ here steps same :=
    steady_of_admitted settled distinct plain ⟨here.placed, fun _ => here.covered⟩ steps same

end

/-- If any budget is enough for a resolution to succeed, so is the one that it has. -/
theorem resolve_of_resolveWithin (distinct : resolver.document.Distinct)
    (plain : resolver.settings.overrideKey ≠ "description") {budget : Nat} {start final : Progress}
    (ok : (resolver.resolveWithin budget).run start = (.ok models, final)) :
    resolver.resolve.run start = (.ok models, final) := by
  obtain ⟨settled, covered⟩ := settled_of_resolveWithin ok
  obtain ⟨outcome, middle, walk⟩ :=
    Walk.exists_walk resolver resolver.budget [] resolver.root.acts (resolver.started start)
  have enough : outcome ≠ .error .exhausted :=
    walk.not_exhausted (confined_of_settled settled distinct plain) (trail_nil _ _)
      (fun child inside => ⟨⟨placed_of_start child inside, fun _ => covered child inside⟩,
        .inr (by simp)⟩) (by simp) resolver.room_le_budget
  obtain ⟨after, walk', -⟩ := resolveWithin_ok.mp ok
  -- both walks are walks with the greater of the two budgets, of which there is but one
  have one := walk.of_le enough (Nat.le_max_left resolver.budget budget)
  have two := walk'.of_le nofun (Nat.le_max_right resolver.budget budget)
  obtain ⟨rfl, rfl⟩ := one.unique two
  refine (resolveWithin_congr ?_).trans ok
  exact (Walk.played_eq walk).trans (Walk.played_eq walk').symm

theorem room_le_build (resolver : Resolver) (site : Site) :
    resolver.room resolver.document.values [] [] ≤
      (resolver.document.weight + site.schema.weight + 2) ^ 3 := by
  refine Nat.le_trans resolver.room_le_budget (Nat.pow_le_pow_left ?_ 3)
  omega

/-- Building the schema of a site comes to the model of its name, but for descriptions and the order of
properties. -/
def Rebuilds (resolver : Resolver) (start : Progress) (models : List (String × Model)) (site : Site) :
    Prop :=
  ∃ stored model after, (resolver.nameOf site, stored) ∈ models ∧
    (resolver.build site).run start = (.ok model, after) ∧ stored.Alike model

instance (start : Progress) : Decidable (resolver.Rebuilds start models site) :=
  match ran : (resolver.build site).run start with
  | (.ok model, after) =>
    decidable_of_iff (∃ entry ∈ models, entry.1 = resolver.nameOf site ∧ entry.2.Alike model) <| by
      constructor
      · rintro ⟨⟨_, stored⟩, inside, rfl, alike⟩
        exact ⟨stored, model, after, inside, ran, alike⟩
      · rintro ⟨stored, other, _, inside, again, alike⟩
        cases ran.symm.trans again
        exact ⟨_, inside, rfl, alike⟩
  | (.error failure, after) => .isFalse <| by
      rintro ⟨_, _, _, -, again, -⟩
      cases ran.symm.trans again

/-- Whatever schema a resolution has reached, building it once more comes to the model of its name, on
an empty registry as on any other whose claims are claims of the resolution. No schema names itself
by its description, and no annotation stands for a property or a requirement at the site or below. -/
theorem names_reused {final start : Progress} {enclosing : List String}
    (distinct : resolver.document.Distinct) (plain : resolver.settings.overrideKey ≠ "description")
    (ok : resolver.resolve.run {} = (.ok models, final))
    (reached : .reached site enclosing ∈ final.events)
    (legible : ∀ below, Relation.ReflTransGen resolver.Child site below → below.schema.Legible)
    (names : start.registry.names.Nodup)
    (known : ∀ claim ∈ start.registry.claims, claim ∈ final.registry.claims) (path : String) :
    resolver.Rebuilds start models ⟨site.schema, site.base, path⟩ := by
  obtain ⟨settled, all⟩ := settled_of_resolve ok
  obtain ⟨placed, covered⟩ := all site enclosing reached
  have reusable := Reusable.moved ⟨placed, covered, legible⟩ path
  obtain ⟨stored, model, named, built, alike, visited⟩ := reusable.model settled distinct plain
  have here : ∀ child, Act.visit child ∈ (resolver.model _).acts →
      resolver.Reusable final.registry child :=
    fun child inside => visited child (Script.mem_visits.mpr inside)
  obtain ⟨outcome, after, walk⟩ := Walk.exists_walk resolver
    ((resolver.document.weight + site.schema.weight + 2) ^ 3) [] (resolver.model _).acts start
  have enough : outcome ≠ .error .exhausted :=
    walk.not_exhausted (confined_of_reusable settled distinct plain) (trail_nil _ _)
      (fun child inside => ⟨here child inside, .inr (by simp)⟩) (by simp)
      (resolver.room_le_build site)
  obtain ⟨rfl, -, -⟩ := walk.reuses settled distinct plain here names known enough
  exact ⟨stored, model, after, named, Walk.play_ok.mpr ⟨walk, built⟩, alike⟩

theorem legible_of_values (all : ∀ schema ∈ resolver.document.values, schema.Legible)
    (inside : site.schema ∈ resolver.document.values) :
    ∀ below, Relation.ReflTransGen resolver.Child site below → below.schema.Legible := by
  intro below steps
  apply all
  induction steps with
  | refl => exact inside
  | tail _ step ih => exact step.mem_values ih

def pairDocument (first second : Json) : Json := .obj [
  ("type", .str "object"),
  ("properties", .obj [("first", first), ("second", second)])]

/-- Two schemas of one name and structure, written in different orders and with different notes. -/
def sharedDocument : Json := pairDocument
  (.obj [
    ("nameOverride", .str "shared"),
    ("type", .str "object"),
    ("description", .str "as it comes first"),
    ("properties", .obj [
      ("left", .obj [("type", .str "string")]),
      ("right", .obj [
        ("type", .str "object"),
        ("properties", .obj [("deep", .obj [("type", .str "number")])])])])])
  (.obj [
    ("properties", .obj [
      ("right", .obj [
        ("properties", .obj [
          ("deep", .obj [("type", .str "number"), ("description", .str "far down")])]),
        ("type", .str "object")]),
      ("left", .obj [("type", .str "string")])]),
    ("type", .str "object"),
    ("nameOverride", .str "shared")])

def reachesPath (path : String) : Event → Bool
  | .reached site _ => site.path == path
  | _ => false

theorem names_reused_shared : ∃ resolver : Resolver, resolver = ⟨sharedDocument, {}⟩ ∧
    ∃ models final site enclosing, resolver.resolve.run {} = (.ok models, final) ∧
      .reached site enclosing ∈ final.events ∧ site.path = "#/properties/second" ∧
      resolver.Rebuilds {} models ⟨site.schema, site.base, site.path⟩ := by
  have checked : (((Resolver.mk sharedDocument {}).resolve.run {}).1.isOk &&
      ((Resolver.mk sharedDocument {}).resolve.run {}).2.events.any
        (reachesPath "#/properties/second")) = true := by decide +kernel
  have distinct : sharedDocument.Distinct := by
    simp [sharedDocument, pairDocument, Json.Distinct, Json.MembersDistinct]
  have legible : ∀ schema ∈ sharedDocument.values, schema.Legible := by decide +kernel
  refine ⟨⟨sharedDocument, {}⟩, rfl, ?_⟩
  rcases ran : (Resolver.mk sharedDocument {}).resolve.run {} with ⟨failure | models, final⟩
  · rw [ran] at checked
    cases checked
  · rw [ran] at checked
    obtain ⟨event, inside, found⟩ := List.any_eq_true.mp checked
    cases event with
    | reached site enclosing =>
      have placed := ((settled_of_resolve ran).2 site enclosing inside).1
      refine ⟨models, final, site, enclosing, rfl, inside, beq_iff_eq.mp found, ?_⟩
      have names : ({} : Progress).registry.names.Nodup := List.nodup_nil
      have known : ∀ claim ∈ ({} : Progress).registry.claims, claim ∈ final.registry.claims := by
        intro claim held
        cases held
      exact names_reused distinct (by decide) ran inside (legible_of_values legible placed.2) names
        known site.path
    | _ => cases found

/-- A resolution succeeds, but a schema that it reached comes to no model like the one of its name. -/
def Misuses (resolver : Resolver) : Prop :=
  ∃ models final site enclosing, resolver.resolve.run {} = (.ok models, final) ∧
    .reached site enclosing ∈ final.events ∧ ¬ resolver.Rebuilds {} models site

theorem misuses_of_any (found : (match resolver.resolve.run {} with
    | (.ok models, final) => final.events.any fun
      | .reached site _ => !decide (resolver.Rebuilds {} models site)
      | _ => false
    | _ => false) = true) : resolver.Misuses := by
  rcases ran : resolver.resolve.run {} with ⟨failure | models, final⟩
  · rw [ran] at found
    cases found
  · rw [ran] at found
    obtain ⟨event, inside, strays⟩ := List.any_eq_true.mp found
    cases event with
    | reached site enclosing =>
      refine ⟨models, final, site, enclosing, ran, inside, ?_⟩
      simpa using strays
    | _ => cases strays

def sharing (property : Json) (properties others : List (String × Json)) : Json := .obj ([
  ("nameOverride", .str "shared"),
  ("type", .str "object"),
  ("properties", .obj (("deep", property) :: properties))] ++ others)

def noted (note : String) : Json := .obj [("type", .str "string"), ("description", .str note)]

/-- An annotation is no property, and none is required, but only the first schema of a name is looked
at; and where the override is an annotation, names differ behind one fingerprint. -/
theorem names_misused :
    (Resolver.mk (pairDocument (sharing (noted "one") [] [])
      (sharing (noted "one") [("description", .str "two")] [])) {}).Misuses ∧
    (Resolver.mk (pairDocument (sharing (noted "one") [] [("required", .obj [])])
      (sharing (noted "one") [] [("required", .obj [("description", .str "two")])])) {}).Misuses ∧
    (Resolver.mk (pairDocument (sharing (noted "one") [] [("description", .str "shared")])
      (sharing (noted "two") [] [("description", .str "shared")]))
      { overrideKey := "description" }).Misuses := by
  refine ⟨misuses_of_any ?_, misuses_of_any ?_, misuses_of_any ?_⟩
  · decide +kernel
  · decide +kernel
  · decide +kernel

end Resolver

end SchemaCatalog
