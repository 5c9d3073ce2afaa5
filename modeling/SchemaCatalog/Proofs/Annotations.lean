import SchemaCatalog.Proofs.Beside
import SchemaCatalog.Proofs.Mirror

/-! Documents without descriptions. A text named `description` describes the schema it is a member of: the
document itself, a property, what a list holds or one of several alternatives for that, or a
definition. Everywhere else it is a name or a value like any other. What is read from a schema, apart
from its description, is read alike from what is left of it without the descriptions in it.
-/
namespace SchemaCatalog

open Fingerprint

namespace Json

/-- What a value in a document is read as: as a schema, or a list of schemas; as a table of schemas by
name; or as something in which no schema is looked for. -/
inductive Role
  | schema
  | table
  | data
deriving DecidableEq, Repr

namespace Role

def ofItem : Role → Role
  | schema => schema
  | table | data => data

def ofMember (name : String) : Role → Role
  | schema =>
    if name = "properties" ∨ name = "definitions" then table
    else if name = "items" ∨ name = "anyOf" then schema
    else data
  | table => schema
  | data => data

/-- Schemas are described by members that annotate them; tables and data are not. -/
def isDescription (name : String) (value : Json) : Role → Bool
  | schema => isAnnotation name value
  | table | data => false

end Role

mutual
/-- A value without the descriptions of the schemas in it. -/
def undescribed : Role → Json → Json
  | role, arr items => arr (itemsUndescribed role.ofItem items)
  | role, obj members => obj (membersUndescribed role members)
  | _, scalar => scalar
def itemsUndescribed : Role → List Json → List Json
  | _, [] => []
  | role, item :: rest => undescribed role item :: itemsUndescribed role rest
def membersUndescribed : Role → List (String × Json) → List (String × Json)
  | _, [] => []
  | role, (name, value) :: rest =>
    if role.isDescription name value then membersUndescribed role rest
    else (name, undescribed (role.ofMember name) value) :: membersUndescribed role rest
end

variable {role : Role} {name : String} {value : Json} {items : List Json}
  {members : List (String × Json)}

theorem itemsUndescribed_eq (role : Role) (items : List Json) :
    itemsUndescribed role items = items.map (undescribed role) := by
  induction items with
  | nil => rw [itemsUndescribed, List.map_nil]
  | cons item items ih => rw [itemsUndescribed, ih, List.map_cons]

theorem undescribed_arr (role : Role) (items : List Json) :
    undescribed role (arr items) = arr (items.map (undescribed role.ofItem)) := by
  rw [undescribed, itemsUndescribed_eq]

theorem undescribed_obj (role : Role) (members : List (String × Json)) :
    undescribed role (obj members) = obj (membersUndescribed role members) := by
  rw [undescribed]

mutual
theorem undescribed_data : ∀ value : Json, undescribed .data value = value
  | arr items => by
    rw [undescribed]
    exact congrArg arr (itemsUndescribed_data items)
  | obj members => by rw [undescribed, membersUndescribed_data members]
  | null | bool _ | int _ | float _ | str _ => by rw [undescribed] <;> nofun
theorem itemsUndescribed_data : ∀ items : List Json, itemsUndescribed .data items = items
  | [] => by rw [itemsUndescribed]
  | item :: rest => by rw [itemsUndescribed, undescribed_data item, itemsUndescribed_data rest]
theorem membersUndescribed_data :
    ∀ members : List (String × Json), membersUndescribed .data members = members
  | [] => by rw [membersUndescribed]
  | (name, value) :: rest => by
    rw [membersUndescribed, membersUndescribed_data rest]
    exact congrArg (fun known => (name, known) :: rest) (undescribed_data value)
end

mutual
theorem structureOf_undescribed : ∀ (role : Role) (value : Json),
    structureOf (undescribed role value) = structureOf value
  | role, arr items => by
    rw [undescribed, structureOf, structureOf, itemsStructure_undescribed]
  | role, obj members => by
    rw [undescribed, structureOf, structureOf, membersStructure_undescribed]
  | _, null | _, bool _ | _, int _ | _, float _ | _, str _ => by rw [undescribed] <;> nofun
theorem itemsStructure_undescribed : ∀ (role : Role) (items : List Json),
    itemsStructure (itemsUndescribed role items) = itemsStructure items
  | _, [] => by rw [itemsUndescribed]
  | role, item :: rest => by
    rw [itemsUndescribed, itemsStructure, itemsStructure, structureOf_undescribed,
      itemsStructure_undescribed]
theorem membersStructure_undescribed : ∀ (role : Role) (members : List (String × Json)),
    membersStructure (membersUndescribed role members) = membersStructure members
  | _, [] => by rw [membersUndescribed]
  | role, (name, value) :: rest => by
    have structural : isAnnotation name (undescribed (role.ofMember name) value) =
        isAnnotation name value := by
      cases value with
      | arr | obj => rw [undescribed]; rfl
      | _ => rw [undescribed] <;> nofun
    rw [membersUndescribed, membersStructure]
    split
    next described =>
      have noted : isAnnotation name value = true := by
        cases role <;> first | exact described | cases described
      rw [if_pos noted, membersStructure_undescribed]
    next =>
      rw [membersStructure, structural, structureOf_undescribed, membersStructure_undescribed]
end

theorem fingerprint_undescribed (role : Role) (value : Json) :
    (undescribed role value).fingerprint = value.fingerprint := by
  rw [fingerprint, fingerprint, structureOf_undescribed]

theorem text?_undescribed (role : Role) (value : Json) : (undescribed role value).text? = value.text? := by
  cases value <;> rw [undescribed] <;> first | rfl | nofun

theorem isObject_undescribed (role : Role) (value : Json) :
    (undescribed role value).isObject = value.isObject := by
  cases value <;> rw [undescribed] <;> first | rfl | nofun

theorem kindName_undescribed (role : Role) (value : Json) :
    (undescribed role value).kindName = value.kindName := by
  cases value <;> rw [undescribed] <;> first | rfl | nofun

theorem Role.isDescription_of_ne (plain : name ≠ "description") (role : Role) (value : Json) :
    role.isDescription name value = false := by
  cases role with
  | schema => exact Bool.eq_false_iff.mpr fun noted => plain (isAnnotation_iff.mp noted).1
  | _ => rfl

/-- A member by any other name stays, and stands for what it stood for. -/
theorem lookup_undescribed (stays : ∀ value, role.isDescription name value = false)
    (members : List (String × Json)) : (membersUndescribed role members).lookup name =
      (members.lookup name).map (undescribed (role.ofMember name)) := by
  induction members with
  | nil => rw [membersUndescribed]; rfl
  | cons member members ih =>
    obtain ⟨other, value⟩ := member
    rw [membersUndescribed, List.lookup_cons]
    by_cases same : name = other
    · subst same
      rw [stays, if_neg Bool.false_ne_true, List.lookup_cons, beq_self_eq_true]
      rfl
    · rw [beq_false_of_ne same]
      split
      · exact ih
      · rw [List.lookup_cons, beq_false_of_ne same]
        exact ih

theorem member?_undescribed (plain : name ≠ "description") (value : Json) :
    (undescribed .schema value).member? name =
      (value.member? name).map (Option.map (undescribed (Role.ofMember name .schema))) := by
  cases value with
  | obj members =>
    rw [undescribed_obj]
    exact congrArg _ (lookup_undescribed (Role.isDescription_of_ne plain .schema) members)
  | _ => rw [undescribed] <;> first | rfl | nofun

/-- Members that are read as data are read alike. -/
theorem member?_data (plain : name ≠ "description") (data : Role.ofMember name .schema = .data)
    (value : Json) : (undescribed .schema value).member? name = value.member? name := by
  rw [member?_undescribed plain, data]
  have same : Option.map (undescribed .data) = id := by
    funext found
    cases found with
    | none => rfl
    | some known => exact congrArg some (undescribed_data known)
  rw [same]
  cases value.member? name <;> rfl

theorem holds_undescribed (plain : name ≠ "description") (value : Json) :
    (undescribed .schema value).holds name = value.holds name := by
  cases value with
  | obj members =>
    rw [undescribed_obj, holds_obj, holds_obj,
      lookup_undescribed (Role.isDescription_of_ne plain .schema), Option.isSome_map]
  | arr items =>
    rw [undescribed_arr, holds, holds, List.any_map]
    simp only [Function.comp_def, text?_undescribed]
  | _ => rw [undescribed] <;> first | rfl | nofun

theorem entry_data (plain : name ≠ "description") (data : Role.ofMember name .schema = .data)
    (value : Json) : (undescribed .schema value).entry name = value.entry name := by
  cases value with
  | obj members =>
    have same := member?_data plain data (obj members)
    rw [undescribed_obj] at same ⊢
    rw [entry, entry, Except.ok.inj same]
  | _ => rw [undescribed] <;> first | rfl | nofun

end Json

open Json (undescribed)

namespace Definitions

def undescribed : Definitions → Definitions
  | table members => table (Json.membersUndescribed .table members)
  | other value kind => other value kind

variable (definitions : Definitions) (place : Option String)

theorem names_undescribed : definitions.undescribed.names = definitions.names := by
  cases definitions with
  | other => rfl
  | table members =>
    change (Json.membersUndescribed .table members).map (·.1) = members.map (·.1)
    induction members with
    | nil => rw [Json.membersUndescribed]
    | cons member members ih =>
      rw [Json.membersUndescribed, if_neg (by nofun), List.map_cons, List.map_cons, ih]

theorem entries_undescribed : definitions.undescribed.toJson.entries = definitions.toJson.entries := by
  cases definitions with
  | other => rfl
  | table members =>
    have names := congrArg (List.map Json.str) (names_undescribed (table members))
    simp only [undescribed, Definitions.names, List.map_map] at names
    exact congrArg Except.ok names

theorem available_undescribed : definitions.undescribed.available = definitions.available := by
  unfold available
  rw [entries_undescribed]

theorem holds_undescribed (name : String) :
    definitions.undescribed.toJson.holds name = definitions.toJson.holds name := by
  cases definitions with
  | other => rfl
  | table members =>
    change Json.holds name (.obj _) = Json.holds name (.obj _)
    rw [Json.holds_obj, Json.holds_obj, Json.lookup_undescribed fun _ => rfl, Option.isSome_map]

theorem entry_undescribed (name : String) : definitions.undescribed.toJson.entry name =
    (definitions.toJson.entry name).map (Json.undescribed .schema) := by
  cases definitions with
  | other value kind =>
    cases value <;> first | rfl | cases kind
  | table members =>
    change Json.entry name (.obj _) = (Json.entry name (.obj _)).map _
    rw [Json.entry, Json.entry, Json.lookup_undescribed fun _ => rfl]
    cases members.lookup name <;> rfl

theorem schemaOf_undescribed (name : String) :
    Accord (fun target bare => bare = target.undescribed .schema)
      (definitions.schemaOf name place) (definitions.undescribed.schemaOf name place) := by
  unfold schemaOf
  rw [holds_undescribed, entry_undescribed, available_undescribed]
  refine .bind_same _ fun holds => ?_
  split
  next =>
    cases definitions.toJson.entry name with
    | error misuse => exact .error _
    | ok target =>
      change Accord _ (if _ then _ else _) (if _ then _ else _)
      rw [Json.isObject_undescribed, Json.kindName_undescribed]
      split
      next => exact .ok rfl
      next =>
        refine .bind_same _ fun available => ?_
        exact .error _
  next =>
    refine .bind_same _ fun available => ?_
    exact .error _

end Definitions

def Reference.undescribed (reference : Reference) : Reference :=
  { reference with schema := reference.schema.undescribed .schema }

def Finding.undescribed (finding : Finding) : Finding :=
  { finding with reference := finding.reference.undescribed }

def Model.undescribed (model : Model) : Model :=
  { model with properties := model.properties.map Property.undescribed }

def Site.undescribed (site : Site) : Site :=
  { site with schema := site.schema.undescribed .schema }

theorem Definitions.follow_undescribed (definitions : Definitions) (place : Option String)
    (budget : Nat) (chain : List String) (schema : Json) :
    Accord (fun reference bare => bare = reference.undescribed)
      (definitions.follow place budget chain schema)
      (definitions.undescribed.follow place budget chain (schema.undescribed .schema)) := by
  induction budget using Nat.strongRecOn generalizing schema chain with
  | ind budget ih =>
    unfold follow
    rw [Json.holds_undescribed (by decide), Json.entry_data (by decide) (by decide)]
    refine .bind_same _ fun refers => ?_
    split
    next =>
      refine .bind_same _ fun pointer => ?_
      refine .bind_same _ fun name => ?_
      split
      next => exact .error _
      next =>
        refine (definitions.schemaOf_undescribed place name).bind ?_
        rintro target _ rfl
        cases budget with
        | zero => exact .error _
        | succ budget => exact ih budget (by omega) _ _
    next => exact .ok rfl

theorem Definitions.resolve_undescribed (definitions : Definitions) (schema : Json)
    (place : Option String) :
    Accord (fun reference bare => bare = reference.undescribed)
      (definitions.resolve schema place)
      (definitions.undescribed.resolve (schema.undescribed .schema) place) := by
  unfold resolve size
  rw [names_undescribed]
  exact definitions.follow_undescribed place _ _ _

namespace Inferred

variable (optional : Bool) (schema : Json) (place : Option String)

theorem ofKind_undescribed (kind : Kind) :
    ofKind kind optional (schema.undescribed .schema) = ofKind kind optional schema := by
  cases kind <;> first | rfl | skip
  unfold ofKind
  rw [Json.member?_data (by decide) (by decide)]

theorem ofKinds_undescribed (kinds : List Kind) :
    ofKinds kinds optional (schema.undescribed .schema) = ofKinds kinds optional schema := by
  unfold ofKinds
  simp only [ofKind_undescribed]

theorem ofName_undescribed (name : Json) :
    ofName name optional (schema.undescribed .schema) place = ofName name optional schema place := by
  unfold ofName
  simp only [ofKind_undescribed]

theorem ofSchema_undescribed :
    ofSchema (schema.undescribed .schema) optional place = ofSchema schema optional place := by
  unfold ofSchema ofNames
  rw [Json.holds_undescribed (by decide), Json.entry_data (by decide) (by decide),
    Json.member?_data (by decide) (by decide)]
  simp only [ofKinds_undescribed, ofName_undescribed]

end Inferred

theorem declaresProperties_undescribed (schema : Json) (place : Option String) :
    declaresProperties (schema.undescribed .schema) place = declaresProperties schema place := by
  unfold declaresProperties
  rw [Json.member?_undescribed (by decide)]
  rcases schema.member? "properties" with misuse | _ | value
  · rfl
  · rfl
  · cases value with
    | obj members =>
      cases members with
      | nil => rfl
      | cons member members => rfl
    | _ => rfl

theorem override?_undescribed {settings : Settings} (plain : settings.overrideKey ≠ "description")
    (schema : Json) : settings.override? (schema.undescribed .schema) = settings.override? schema := by
  unfold Settings.override?
  rw [Json.member?_undescribed plain]
  rcases schema.member? settings.overrideKey with misuse | _ | value
  · rfl
  · rfl
  · cases value <;> rfl

theorem givenBase?_undescribed {settings : Settings} (plain : settings.overrideKey ≠ "description")
    (schema : Json) (reference : Option String) :
    settings.givenBase? (schema.undescribed .schema) reference =
      settings.givenBase? schema reference := by
  unfold Settings.givenBase?
  rw [override?_undescribed plain]

theorem rootBase_undescribed {settings : Settings} (plain : settings.overrideKey ≠ "description")
    (schema : Json) (reference : Option String) :
    settings.rootBase (schema.undescribed .schema) reference = settings.rootBase schema reference := by
  unfold Settings.rootBase
  rw [givenBase?_undescribed plain]

end SchemaCatalog
