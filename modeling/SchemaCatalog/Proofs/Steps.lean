import SchemaCatalog.Proofs.Mirror
import SchemaCatalog.Proofs.Termination

/-! Children and their like. What is found behind a schema is found behind any schema alike, wherever it
stands. Main statement: where schemas are alike and the model of one is built, every child that the
other has is visited on the way, or its like, unless it declares annotations alone.
-/
namespace SchemaCatalog

open Fingerprint

namespace Inferred

variable {schema : Json} {inferred : Inferred}

theorem object_of_literals {enumeration : Json} {place : Option String} {kinds : List Kind}
    (ok : literalKinds enumeration place = .ok kinds) : Kind.object ∉ kinds.map Kind.widened := by
  unfold literalKinds at ok
  split at ok
  next literals =>
    obtain ⟨found, listed, equal⟩ := Failure.bind_eq_ok.mp ok
    cases equal
    intro inside
    obtain ⟨kind, known, widened⟩ := List.mem_map.mp inside
    rw [List.mem_eraseDups] at known
    obtain ⟨literal, -, made⟩ := forall₂_right (Failure.mapM_eq_ok.mp listed) known
    unfold literalKind at made
    split at made
    next kind given =>
      cases made
      cases literal <;> cases given <;> cases widened
    next => cases made
  next => cases ok

theorem object_of_ofKind {kind : Kind} {optional : Bool}
    (ok : ofKind kind optional schema = .ok inferred) (object : inferred.tag = .object) :
    kind = .object := by
  cases kind with
  | object => rfl
  | integer =>
    unfold ofKind at ok
    dsimp only at ok
    split at ok
    next =>
      cases ok
      cases object
    next =>
      obtain ⟨minimum, -, ok⟩ := Failure.bind_eq_ok.mp ok
      cases ok
      dsimp only at object
      split at object <;> cases object
  | boolean =>
    cases ok
    dsimp only at object
    split at object <;> cases object
  | number =>
    cases ok
    dsimp only at object
    split at object <;> cases object
  | _ =>
    cases ok
    cases object

theorem object_of_ofKinds {kinds : List Kind} {optional : Bool}
    (ok : ofKinds kinds optional schema = .ok inferred) (object : inferred.tag = .object) :
    Kind.object ∈ kinds := by
  unfold ofKinds at ok
  dsimp only at ok
  split at ok
  next kind single =>
    have same := object_of_ofKind ok object
    subst same
    have inside : Kind.object ∈ (kinds.filter (· ≠ .null)).eraseDups :=
      single ▸ List.mem_cons_self
    rw [List.mem_eraseDups] at inside
    exact (List.mem_filter.mp inside).1
  next =>
    split at ok
    next =>
      cases ok
      cases object
    next =>
      split at ok
      next =>
        cases ok
        cases object
      next =>
        cases ok
        cases object

theorem object_of_null {place : Option String} (ok : ofSchema schema false place = .ok inferred)
    (null : schema.member? "type" = .ok (some (.str "null"))) : inferred.tag ≠ .object := by
  intro object
  obtain ⟨listed, -, ok⟩ := Failure.bind_eq_ok.mp ok
  split at ok
  next =>
    obtain ⟨enumeration, -, ok⟩ := Failure.bind_eq_ok.mp ok
    obtain ⟨kinds, literals, ok⟩ := Failure.bind_eq_ok.mp ok
    exact object_of_literals literals (object_of_ofKinds ok object)
  next =>
    rw [null] at ok
    cases ok
    cases object

end Inferred

namespace Script

variable {α β : Type} {script : Script α} {site : Site}

/-- A site is visited, or its like. -/
def Reaches (script : Script α) (site : Site) : Prop := ∃ twin ∈ script.visits, twin.Alike site

theorem Reaches.first (reached : script.Reaches site) (next : α → Script β) :
    (script >>= next).Reaches site := by
  obtain ⟨twin, inside, like⟩ := reached
  exact ⟨twin, mem_visits_first inside next, like⟩

theorem Reaches.next {value : α} {next : α → Script β} (reached : (next value).Reaches site)
    (ok : script.outcome = .ok value) : (script >>= next).Reaches site := by
  obtain ⟨twin, inside, like⟩ := reached
  exact ⟨twin, mem_visits_next ok inside, like⟩

end Script

namespace Resolver

variable {resolver : Resolver} {raw schema entry : Json} {parent key path path' : String}
  {position : Option Int} {finding finding' : Finding} {elements : Elements} {site twin child : Site}

/-- Only objects are found to be anything. -/
theorem isObject_of_found (found : (resolver.inspect raw path).outcome = .ok finding) :
    raw.isObject = true := by
  rw [← Bool.not_eq_false]
  intro bare
  obtain ⟨misuse, failed⟩ :
      ∃ misuse, (resolver.inspect raw path).outcome = .error (.misuse misuse) := inspect_of_bare bare
  cases found.symm.trans failed

theorem Alike.inspected (same : resolver.Alike resolver) (like : raw.Alike schema)
    (found : (resolver.inspect raw path).outcome = .ok finding)
    (found' : (resolver.inspect schema path').outcome = .ok finding') : finding.Alike finding' := by
  have mirrors : Script.Mirrors Finding.Alike (resolver.inspect raw path)
      (resolver.inspect schema path') := same.inspect like
  obtain ⟨_, known, alike, -⟩ :=
    mirrors (by simp [visits_inspect]) (by simp [visits_inspect]) finding found
  cases known.symm.trans found'
  exact alike

section

variable (same : resolver.Alike resolver) (like : raw.Alike schema)
  (found : resolver.Found raw parent key position site) (declaring : site.schema.Declaring)

include same like found declaring

theorem reaches_ownModel (behind : (resolver.inspect schema path).outcome = .ok finding) :
    (resolver.ownModel finding parent key position path).Reaches site := by
  obtain ⟨own, found, modelled, equal, based⟩ := found
  rw [equal] at declaring based
  have alike := same.inspected like found behind
  have modelled' : finding.hasModel = true :=
    (hasModel_of_alike alike (fun _ => declaring)
      fun _ => declaring_of_alike alike.reference.schema declaring).trans modelled
  obtain ⟨_, based', rfl⟩ :=
    Settings.nestedBase_alike alike.reference.schema same.plain _ parent key position _ based
  rw [← alike.reference.name?] at based'
  refine ⟨⟨finding.reference.schema, site.base, path⟩, ?_, ?_, rfl⟩
  · rw [visits_ownModel modelled' based']
    exact List.mem_cons_self
  · rw [equal]
    exact alike.reference.schema.symm

theorem reaches_uniform (ok : (resolver.uniform parent key path schema).outcome = .ok elements)
    (single : position = none) : (resolver.uniform parent key path schema).Reaches site := by
  subst single
  obtain ⟨finding, behind, -⟩ := Script.outcome_bind.mp ok
  exact .next (.first (reaches_ownModel same like found declaring behind) _) behind

omit same like declaring in
/-- A schema that a site is found behind is not null. -/
theorem isNull_of_found {members : List (String × Json)} (object : raw = .obj members) :
    isNull members = false := by
  subst object
  refine Bool.eq_false_iff.mpr fun null => ?_
  obtain ⟨finding, found, modelled, -⟩ := found
  obtain ⟨resolved, known⟩ := inspect_ok.mp found
  obtain ⟨-, tagged, declared⟩ := findingOf_ok.mp known
  have plain : (Json.obj members).holds "$ref" = .ok false :=
    congrArg Except.ok ((Bool.not_eq_true' _).mp (Bool.and_eq_true_iff.mp null).1)
  rw [Definitions.resolve_of_plain plain] at resolved
  rw [← Except.ok.inj resolved] at tagged
  rw [modelled] at declared
  exact Inferred.object_of_null tagged (type_of_isNull null) (hasModel_ok.mp declared).1

end

variable {index : Nat}

theorem reaches_alternative (same : resolver.Alike resolver) (like : raw.Alike (spelledOut entry))
    (found : resolver.Found raw parent key (some (index + 1)) site)
    (declaring : site.schema.Declaring)
    (ok : (resolver.alternative parent key path index entry).outcome = .ok elements) :
    (resolver.alternative parent key path index entry).Reaches site := by
  unfold alternative at ok ⊢
  dsimp only at ok ⊢
  generalize spelledOut entry = schema at like ok ⊢
  cases schema with
  | obj members =>
    obtain ⟨others, rfl, -⟩ := like.symm.of_obj
    have other : isNull members = false :=
      (isNull_alike like).trans (isNull_of_found found rfl)
    dsimp only at ok ⊢
    rw [other, if_neg Bool.false_ne_true] at ok ⊢
    obtain ⟨finding, behind, -⟩ := Script.outcome_bind.mp ok
    exact .next (.first (reaches_ownModel same like found declaring behind) _) behind
  | _ => cases ok

theorem reaches_alternatives (same : resolver.Alike resolver) {entries : List Json}
    (inside : entries[index]? = some entry) (like : raw.Alike (spelledOut entry))
    {first : Nat} (found : resolver.Found raw parent key (some ((first + index : Nat) + 1)) site)
    (declaring : site.schema.Declaring)
    (ok : (resolver.alternatives parent key path first entries).outcome = .ok elements) :
    (resolver.alternatives parent key path first entries).Reaches site := by
  induction entries generalizing index first elements with
  | nil => cases inside
  | cons other entries ih =>
    rw [alternatives] at ok ⊢
    obtain ⟨one, here, ok⟩ := Script.outcome_bind.mp ok
    obtain ⟨others, later, -⟩ := Script.outcome_bind.mp ok
    cases index with
    | zero =>
      cases inside
      exact .first (reaches_alternative same like found declaring here) _
    | succ index =>
      have place : first + (index + 1) = first + 1 + index := by omega
      rw [place] at found
      exact .next (.first (ih inside found later) _) here

/-- What is found among the elements of a list is visited for any list alike. -/
theorem reaches_elementsOf (same : resolver.Alike resolver) {items items' : Json}
    (offered : items.Offers position raw) (like : items.Alike items')
    (found : resolver.Found raw parent key position site) (declaring : site.schema.Declaring)
    (ok : (resolver.elementsOf parent key path items').outcome = .ok elements) :
    (resolver.elementsOf parent key path items').Reaches site := by
  cases offered with
  | @uniform members single =>
    obtain ⟨others, rfl, -⟩ := like.of_obj
    have related : Option.Rel Json.Alike (members.lookup "anyOf") (others.lookup "anyOf") :=
      like.lookup (by decide)
    rw [single] at related
    generalize single' : others.lookup "anyOf" = held at related
    cases related
    simp only [elementsOf, single'] at ok ⊢
    exact reaches_uniform same like found declaring ok rfl
  | @listed entries index entry inside =>
    obtain ⟨others, rfl, related⟩ := like.of_arr
    obtain ⟨entry', inside', like⟩ := forall₂_getElem? related inside
    simp only [elementsOf] at ok ⊢
    split at ok
    next texts =>
      -- a list of type names offers no schema with properties
      have text := List.all_eq_true.mp texts entry' (List.mem_of_getElem? inside')
      rw [like.text?] at text
      cases entry with
      | str => exact absurd found not_found_text
      | _ => cases text
    next several =>
      rw [if_neg several]
      refine reaches_alternatives same inside' (spelledOut_alike like) ?_ declaring ok
      simpa using found
  | @alternative members entries index entry several inside =>
    obtain ⟨others, rfl, -⟩ := like.of_obj
    have related : Option.Rel Json.Alike (members.lookup "anyOf") (others.lookup "anyOf") :=
      like.lookup (by decide)
    rw [several] at related
    generalize several' : others.lookup "anyOf" = held at related
    cases related with
    | some like =>
    obtain ⟨entries', rfl, related⟩ := like.of_arr
    obtain ⟨entry', inside', like⟩ := forall₂_getElem? related inside
    simp only [elementsOf, several'] at ok ⊢
    refine reaches_alternatives same inside' (spelledOut_alike like) ?_ declaring ok
    simpa using found

theorem reaches_held (same : resolver.Alike resolver) {items : Json} (alike : finding.Alike finding')
    (list : finding.inferred.tag = .array)
    (listing : finding.reference.schema.member? "items" = .ok (some items))
    (offered : items.Offers position raw) (found : resolver.Found raw parent key position site)
    (declaring : site.schema.Declaring)
    (ok : (resolver.held finding' parent key path).outcome = .ok elements) :
    (resolver.held finding' parent key path).Reaches site := by
  rw [held, if_pos (alike.inferred ▸ list)] at ok ⊢
  obtain ⟨items', looked, ok⟩ := Script.outcome_bind.mp ok
  refine Script.Reaches.next ?_ looked
  obtain ⟨_, known, related⟩ := alike.reference.schema.member? (by decide) _ listing
  cases (Failure.ofMisuse_eq_ok.mp looked).symm.trans known
  cases related with
  | some like => exact reaches_elementsOf same offered like found declaring ok

/-- An entry that something is found behind is declared by every schema alike, or its like is. -/
theorem declares_alike {first second : Json} (like : first.Alike second)
    (declared : first.Declares key entry) (object : entry.isObject = true) :
    first.Declaring ∧ ∃ entry', second.Declares key entry' ∧ entry.Alike entry' := by
  obtain ⟨entries, known, inside⟩ := declared
  have structural : isAnnotation key entry = false := by
    cases entry with
    | obj => rfl
    | _ => cases object
  have kept : (key, entry) ∈ kept entries := mem_kept.mpr ⟨inside, structural⟩
  refine ⟨⟨entries, known, List.ne_nil_of_mem kept⟩, ?_⟩
  obtain ⟨found, looked, related⟩ := like.member? (by decide) _ (propertiesOf_ok.mp known)
  cases related with
  | some like =>
    obtain ⟨others, rfl, ordered, arranged, related⟩ := like.of_obj
    obtain ⟨⟨_, entry'⟩, listed, rfl, like⟩ := forall₂_left related kept
    exact ⟨entry', ⟨others, propertiesOf_ok.mpr looked,
      (mem_kept.mp (arranged.mem_iff.mp listed)).1⟩, like⟩

theorem reaches_model {model : Model} (built : (resolver.model twin).outcome = .ok model)
    (declared : twin.schema.Declares key entry) :
    ∃ required property, (resolver.property twin required key entry).outcome = .ok property ∧
      ((resolver.property twin required key entry).Reaches child →
        (resolver.model twin).Reaches child) := by
  obtain ⟨entries, object, inside⟩ := declared
  obtain ⟨required, needed, built⟩ := Script.outcome_bind.mp built
  obtain ⟨_, known, built⟩ := Script.outcome_bind.mp built
  obtain ⟨properties, made, -⟩ := Script.outcome_bind.mp built
  cases (Failure.ofMisuse_eq_ok.mp known).symm.trans object
  obtain ⟨property, -, here⟩ := forall₂_left (Script.outcome_mapM.mp made) inside
  refine ⟨required, property, here, fun ⟨other, visited, like⟩ => ?_⟩
  have listed : (entries.mapM fun member =>
      resolver.property twin required member.1 member.2).Reaches child :=
    ⟨other, Script.visits_of_mapM made inside other visited, like⟩
  exact .next (.next (listed.first _) known) needed

/-- Every child that declares more than annotations is visited for the model of any site alike. -/
theorem Child.reaches {model : Model} (below : resolver.Child site child)
    (same : resolver.Alike resolver) (like : site.Alike twin) (declaring : child.schema.Declaring)
    (built : (resolver.model twin).outcome = .ok model) : (resolver.model twin).Reaches child := by
  cases below with
  | value declared found =>
    have object := isObject_of_found found.choose_spec.1
    obtain ⟨-, entry', declared', like'⟩ := declares_alike like.schema declared object
    obtain ⟨required, property, made, reach⟩ := reaches_model built declared'
    obtain ⟨object', finding, elements, behind, -, -, -⟩ := property_ok.mp made
    apply reach
    rw [← like.base] at found
    rw [Resolver.property, if_pos object']
    exact .next (.first (reaches_ownModel same like' found declaring behind) _) behind
  | element declared behind list listing offered found =>
    have object := isObject_of_found behind
    obtain ⟨-, entry', declared', like'⟩ := declares_alike like.schema declared object
    obtain ⟨required, property, made, reach⟩ := reaches_model built declared'
    obtain ⟨object', finding', elements, behind', own, held, -⟩ := property_ok.mp made
    have alike := same.inspected like' behind behind'
    apply reach
    rw [← like.base] at found
    rw [Resolver.property, if_pos object']
    refine .next (.next (.first ?_ _) own) behind'
    exact reaches_held same alike list listing offered found declaring held

end Resolver

end SchemaCatalog
