import SchemaCatalog.Proofs.Findings
import SchemaCatalog.Proofs.Likeness
import SchemaCatalog.Proofs.References

/-! What is read from a schema depends on its structure. Tag, override and reference come to the same for
schemas that are alike, wherever they stand. Places count only for what is said about a failure, so
all of this is stated for successes.
-/
namespace SchemaCatalog

/-- Whenever the first outcome is a result, so is the second, and the results fit. -/
def Follows {ε α β : Type} (fit : α → β → Prop) (first : Except ε α) (second : Except ε β) : Prop :=
  ∀ value, first = .ok value → ∃ other, second = .ok other ∧ fit value other

namespace Follows

variable {ε α β γ δ : Type} {fit : α → β → Prop} {fits : γ → δ → Prop} {first : Except ε α}
  {second : Except ε β}

theorem ok {value : α} {other : β} (here : fit value other) :
    Follows fit (.ok value : Except ε α) (.ok other) := by
  rintro _ ⟨⟩
  exact ⟨other, rfl, here⟩

theorem error (failure : ε) : Follows fit (.error failure) second := nofun

theorem refl (outcome : Except ε α) : Follows Eq outcome outcome := fun value known => ⟨value, known, rfl⟩

theorem bind {next : α → Except ε γ} {next' : β → Except ε δ} (here : Follows fit first second)
    (there : ∀ value other, fit value other → Follows fits (next value) (next' other)) :
    Follows fits (first >>= next) (second >>= next') := by
  intro result known
  obtain ⟨value, known, later⟩ := Failure.bind_eq_ok.mp known
  obtain ⟨other, equal, here⟩ := here value known
  obtain ⟨result', known', fitting⟩ := there value other here result later
  exact ⟨result', Failure.bind_eq_ok.mpr ⟨other, equal, known'⟩, fitting⟩

theorem ofMisuse {first : Except Misuse α} {second : Except Misuse β} (here : Follows fit first second) :
    Follows fit (Failure.ofMisuse first) (Failure.ofMisuse second) := by
  intro value known
  obtain ⟨other, equal, here⟩ := here value (Failure.ofMisuse_eq_ok.mp known)
  exact ⟨other, Failure.ofMisuse_eq_ok.mpr equal, here⟩

theorem mapM {walk : α → Except ε γ} {walk' : β → Except ε δ} {items : List α} {others : List β}
    (each : ∀ item other, fit item other → Follows fits (walk item) (walk' other))
    (all : List.Forall₂ fit items others) :
    Follows (List.Forall₂ fits) (items.mapM walk) (others.mapM walk') := by
  induction all with
  | nil => exact ok .nil
  | cons here _ ih =>
    rw [List.mapM_cons, List.mapM_cons]
    refine (each _ _ here).bind fun result result' fitting => ?_
    exact ih.bind fun results results' fittings => ok (.cons fitting fittings)

end Follows

namespace Json

variable {first second : Json} {name : String}

theorem Alike.member? (alike : Alike first second) (plain : name ≠ "description") :
    Follows (Option.Rel Alike) (first.member? name) (second.member? name) := by
  rcases alike.cases with ⟨scalar, rfl⟩ | ⟨items, others, rfl, rfl, -⟩ | ⟨members, others, rfl, rfl⟩
  · cases second with
    | obj => cases scalar
    | _ => exact .error _
  · exact .error _
  · exact .ok (alike.lookup plain)

theorem Alike.entry (alike : Alike first second) (plain : name ≠ "description") :
    Follows Alike (first.entry name) (second.entry name) := by
  intro value known
  obtain ⟨other, equal, related⟩ := alike.member? plain _ (entry_eq_ok.mp known)
  cases related with
  | some like => exact ⟨_, entry_eq_ok.mpr equal, like⟩

theorem alike_null : Alike null null := .refl trivial

theorem alike_getD {found other : Option Json} (related : Option.Rel Alike found other) :
    Alike (found.getD null) (other.getD null) := by
  cases related with
  | some like => exact like
  | none => exact alike_null

end Json

namespace Inferred

variable {first second : Json}

theorem isNonnegative_alike (alike : first.Alike second) : isNonnegative second = isNonnegative first := by
  rcases alike.cases with ⟨-, rfl⟩ | ⟨items, others, rfl, rfl, -⟩ | ⟨members, others, rfl, rfl⟩
  · rfl
  · rfl
  · rfl

theorem ofKind_alike (alike : first.Alike second) (kind : Kind) (optional : Bool) :
    Follows Eq (ofKind kind optional first) (ofKind kind optional second) := by
  cases kind with
  | integer =>
    unfold ofKind
    dsimp only
    split
    next => exact .refl _
    next =>
      refine (Follows.ofMisuse (alike.member? (by decide))).bind fun found other related => ?_
      rw [isNonnegative_alike (Json.alike_getD related)]
      exact .refl _
  | _ => exact .refl _

theorem ofKinds_alike (alike : first.Alike second) (kinds : List Kind) (optional : Bool) :
    Follows Eq (ofKinds kinds optional first) (ofKinds kinds optional second) := by
  unfold ofKinds
  dsimp only
  generalize (kinds.filter (· ≠ .null)).eraseDups = remaining
  split
  next => exact ofKind_alike alike _ _
  next => exact .refl _

theorem ofName_alike (alike : first.Alike second) (name : String) (optional : Bool)
    (place place' : Option String) :
    Follows Eq (ofName (.str name) optional first place) (ofName (.str name) optional second place') := by
  unfold ofName
  dsimp only
  split
  next => exact ofKind_alike alike _ _
  next => exact .error _

theorem kindOf_alike (alike : first.Alike second) (place place' : Option String) :
    Follows Eq (kindOf place first) (kindOf place' second) := by
  unfold kindOf
  rw [alike.text?]
  split
  next => exact .refl _
  next => exact .error _

theorem literalKind_alike (alike : first.Alike second) (place place' : Option String) :
    Follows Eq (literalKind place first) (literalKind place' second) := by
  rcases alike.cases with ⟨-, rfl⟩ | ⟨items, others, rfl, rfl, -⟩ | ⟨members, others, rfl, rfl⟩
  · unfold literalKind
    split
    next => exact .refl _
    next => exact .error _
  · exact .error _
  · exact .error _

theorem literalKinds_alike (alike : first.Alike second) (place place' : Option String) :
    Follows Eq (literalKinds first place) (literalKinds second place') := by
  rcases alike.cases with ⟨scalar, rfl⟩ | ⟨items, others, rfl, rfl, related⟩ |
    ⟨members, others, rfl, rfl⟩
  · cases second with
    | arr => cases scalar
    | _ => exact .error _
  · have each : ∀ one other, Json.Alike one other →
        Follows Eq (literalKind place one) (literalKind place' other) :=
      fun _ _ like => literalKind_alike like place place'
    refine (Follows.mapM each related).bind ?_
    intro kinds kinds' same
    rw [List.forall₂_eq_eq_eq] at same
    subst same
    exact .refl _
  · exact .error _

theorem ofSchema_alike (alike : first.Alike second) (optional : Bool) (place place' : Option String) :
    Follows Eq (ofSchema first optional place) (ofSchema second optional place') := by
  unfold ofSchema
  have plain : "enum" ≠ "description" := by decide
  rw [alike.holds plain]
  refine (Follows.refl _).bind fun listed listed' same => ?_
  subst same
  split
  next =>
    refine (Follows.ofMisuse (alike.entry (by decide))).bind fun enumeration other like => ?_
    refine (literalKinds_alike like place place').bind fun kinds kinds' same => ?_
    subst same
    exact ofKinds_alike alike _ _
  next =>
    refine (Follows.ofMisuse (alike.member? (by decide))).bind fun found other related => ?_
    have like := Json.alike_getD related
    generalize found.getD .null = value, other.getD .null = value' at like
    rcases like.cases with ⟨scalar, rfl⟩ | ⟨items, others, rfl, rfl, named⟩ |
      ⟨members, others, rfl, rfl⟩
    · cases value' with
      | null => exact .error _
      | str name => exact ofName_alike alike name optional place place'
      | arr => cases scalar
      | obj => cases scalar
      | _ => exact .error _
    · have each : ∀ one other, Json.Alike one other →
          Follows Eq (kindOf place one) (kindOf place' other) :=
        fun _ _ like => kindOf_alike like place place'
      refine (Follows.mapM each named).bind ?_
      intro kinds kinds' same
      rw [List.forall₂_eq_eq_eq] at same
      subst same
      exact ofKinds_alike alike _ _
    · exact .error _

end Inferred

theorem declaresProperties_alike {first second : Json} (alike : first.Alike second)
    (place place' : Option String) :
    Follows (fun _ _ => True) (declaresProperties first place) (declaresProperties second place') := by
  refine (Follows.ofMisuse (alike.member? (by decide))).bind fun found other related => ?_
  have like := Json.alike_getD related
  generalize found.getD .null = value, other.getD .null = value' at like
  rcases like.cases with ⟨scalar, rfl⟩ | ⟨items, others, rfl, rfl, -⟩ | ⟨members, others, rfl, rfl⟩
  · cases value' with
    | null => exact .ok trivial
    | obj => cases scalar
    | _ => exact .error _
  · exact .error _
  · exact .ok trivial

namespace Settings

variable {settings : Settings} {first second : Json}

theorem override?_alike (alike : first.Alike second) (plain : settings.overrideKey ≠ "description") :
    Follows Eq (settings.override? first) (settings.override? second) := by
  refine (Follows.ofMisuse (alike.member? plain)).bind fun found other related => ?_
  cases related with
  | none => exact .refl _
  | some like =>
    rcases like.cases with ⟨-, rfl⟩ | ⟨items, others, rfl, rfl, -⟩ | ⟨members, others, rfl, rfl⟩
    · exact .refl _
    · exact .refl _
    · exact .refl _

theorem givenBase?_alike (alike : first.Alike second) (plain : settings.overrideKey ≠ "description")
    (reference : Option String) :
    Follows Eq (settings.givenBase? first reference) (settings.givenBase? second reference) := by
  refine (override?_alike alike plain).bind fun own own' same => ?_
  subst same
  exact .refl _

theorem nestedBase_alike (alike : first.Alike second) (plain : settings.overrideKey ≠ "description")
    (reference : Option String) (parent key : String) (position : Option Int) :
    Follows Eq (settings.nestedBase first reference parent key position)
      (settings.nestedBase second reference parent key position) := by
  refine (givenBase?_alike alike plain reference).bind fun given given' same => ?_
  subst same
  exact .refl _

theorem rootBase_alike (alike : first.Alike second) (plain : settings.overrideKey ≠ "description")
    (reference : Option String) :
    Follows Eq (settings.rootBase first reference) (settings.rootBase second reference) := by
  refine (givenBase?_alike alike plain reference).bind fun given given' same => ?_
  subst same
  exact .refl _

theorem propertyName_alike (alike : first.Alike second) (plain : settings.overrideKey ≠ "description")
    (key : String) :
    Follows Eq (settings.propertyName key first) (settings.propertyName key second) := by
  refine (override?_alike alike plain).bind fun own own' same => ?_
  subst same
  exact .refl _

end Settings

structure Reference.Alike (first second : Reference) : Prop where
  schema : first.schema.Alike second.schema
  chain : second.chain = first.chain

theorem Reference.Alike.name? {first second : Reference} (alike : first.Alike second) :
    second.name? = first.name? := by
  rw [Reference.name?, Reference.name?, alike.chain]

namespace Definitions

variable {first second : Definitions}

/-- Tables of definitions where every name leads to schemas alike. -/
structure Alike (first second : Definitions) : Prop where
  size : first.size ≤ second.size
  schemas : ∀ name place place',
    Follows Json.Alike (first.schemaOf name place) (second.schemaOf name place')

theorem nameOf_alike {reference other : Json} (alike : reference.Alike other)
    (place place' : Option String) : Follows Eq (nameOf reference place) (nameOf other place') := by
  rcases alike.cases with ⟨-, rfl⟩ | ⟨items, others, rfl, rfl, -⟩ | ⟨members, others, rfl, rfl⟩
  · unfold nameOf
    split
    next =>
      split
      next =>
        dsimp only
        split
        next => exact .error _
        next => exact .refl _
      next => exact .error _
    next => exact .error _
  · exact .error _
  · exact .error _

theorem follow_alike (alike : Alike first second) {schema other : Json} (like : schema.Alike other)
    (place place' : Option String) {budget more : Nat} (greater : budget ≤ more)
    (chain : List String) :
    Follows Reference.Alike (first.follow place budget chain schema)
      (second.follow place' more chain other) := by
  induction budget using Nat.strongRecOn generalizing schema other more chain with
  | ind budget ih =>
    unfold follow
    have plain : "$ref" ≠ "description" := by decide
    rw [like.holds plain]
    refine (Follows.refl _).bind fun refers refers' same => ?_
    subst same
    split
    next =>
      refine (Follows.ofMisuse (like.entry (by decide))).bind fun pointer pointer' like => ?_
      refine (nameOf_alike like place place').bind fun name name' same => ?_
      subst same
      split
      next => exact .error _
      next =>
        refine (alike.schemas name place place').bind fun target target' like => ?_
        cases budget with
        | zero => exact .error _
        | succ budget =>
          cases more with
          | zero => omega
          | succ more => exact ih budget (by omega) like (by omega) _
    next => exact .ok ⟨like, rfl⟩

theorem resolve_alike (alike : Alike first second) {schema other : Json} (like : schema.Alike other)
    (place place' : Option String) :
    Follows Reference.Alike (first.resolve schema place) (second.resolve other place') :=
  follow_alike alike like place place' alike.size []

theorem schemaOf_place (definitions : Definitions) (name : String) (place place' : Option String) :
    Follows Eq (definitions.schemaOf name place) (definitions.schemaOf name place') := by
  unfold schemaOf
  refine (Follows.refl _).bind fun held held' same => ?_
  subst same
  split
  next =>
    refine (Follows.refl _).bind fun target target' same => ?_
    subst same
    split
    next => exact .refl _
    next => exact (Follows.refl _).bind fun _ _ _ => .error _
  next => exact (Follows.refl _).bind fun _ _ _ => .error _

theorem alike_self (distinct : ∀ members name schema, first = .table members →
    members.lookup name = some schema → schema.Distinct) : Alike first first where
  size := Nat.le_refl _
  schemas name place place' := by
    intro target found
    obtain ⟨members, table, inside⟩ := schemaOf_ok found
    obtain ⟨target', found', same⟩ := first.schemaOf_place name place place' target found
    subst same
    exact ⟨target, found', .refl (distinct members name target table inside)⟩

end Definitions

end SchemaCatalog
