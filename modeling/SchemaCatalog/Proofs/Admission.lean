import SchemaCatalog.Proofs.Findings
import SchemaCatalog.Proofs.Values

/-! The values that a schema admits: the literals of its enumeration, else the values of the kinds it
names by its type, numbers not below its least value. Each rule turns kinds into a tag that can hold
every value of these kinds, and null only makes the value optional. Main statement: the tag of a schema
holds whatever the schema admits, and nothing but null or the context makes a value optional, which
then has a tag with reference semantics.
-/
namespace SchemaCatalog

namespace Json

/-- The size of a number in units of 2^-1074, of which every number is a whole count. -/
def units? : Json → Option Int
  | int size => some (size * 2 ^ 1074)
  | float x => some (if x.negative then -x.units else x.units)
  | _ => none

/-- A value that is no number below a bound; a bound that is no number excludes nothing. -/
def AtLeast (value bound : Json) : Prop :=
  ∀ size ∈ value.units?, ∀ least ∈ bound.units?, least ≤ size

end Json

/-- The values of a kind. A whole number is also a number. -/
inductive Kind.Covers : Kind → Json → Prop
  | null : Covers .null .null
  | boolean (flag : Bool) : Covers .boolean (.bool flag)
  | integer (size : Int) : Covers .integer (.int size)
  | whole (size : Int) : Covers .number (.int size)
  | number (x : Binary64) : Covers .number (.float x)
  | string (text : String) : Covers .string (.str text)
  | array (items : List Json) : Covers .array (.arr items)
  | object (members : List (String × Json)) : Covers .object (.obj members)

/-- The values that a tag can hold, null apart. -/
inductive Tag.Represents : Tag → Json → Prop
  | dynamic (value : Json) : Represents .dynamic value
  | boxedFlag (flag : Bool) : Represents .boxedNumber (.bool flag)
  | boxedWhole (size : Int) : Represents .boxedNumber (.int size)
  | boxedNumber (x : Binary64) : Represents .boxedNumber (.float x)
  | whole (size : Int) : Represents .number (.int size)
  | number (x : Binary64) : Represents .number (.float x)
  | signedInt (size : Int) : Represents .signedInt (.int size)
  | unsignedInt (size : Int) (nonnegative : 0 ≤ size) : Represents .unsignedInt (.int size)
  | boolean (flag : Bool) : Represents .boolean (.bool flag)
  | string (text : String) : Represents .string (.str text)
  | object (members : List (String × Json)) : Represents .object (.obj members)
  | array (items : List Json) : Represents .array (.arr items)

namespace Json

/-- The kinds that a schema names by its type. -/
inductive NamesKind (schema : Json) (kind : Kind) : Prop
  | alone (written : schema.member? "type" = .ok (some (str kind.name)))
  | among {names : List Json} (written : schema.member? "type" = .ok (some (arr names)))
      (inside : str kind.name ∈ names)

/-- A value that is not below the least value of a schema, if it has one. -/
def Bounded (schema value : Json) : Prop :=
  ∀ bound, schema.member? "minimum" = .ok (some bound) → value.AtLeast bound

/-- The values that a schema admits. -/
inductive Admits (schema value : Json) : Prop
  | literal {literals : List Json} (listed : schema.member? "enum" = .ok (some (arr literals)))
      (inside : value ∈ literals)
  | typed {kind : Kind} (free : schema.member? "enum" = .ok none) (named : NamesKind schema kind)
      (covered : kind.Covers value) (bounded : Bounded schema value)

end Json

namespace Inferred

variable {schema value : Json} {kind : Kind} {kinds : List Kind} {optional : Bool}
  {inferred : Inferred} {path : Option String}

/-- A tag that holds all values of some kinds. Only whole numbers may count on the least value. -/
structure Sound (schema : Json) (optional : Bool) (kinds : List Kind) (inferred : Inferred) : Prop where
  null : Kind.null ∈ kinds → inferred.optional = true
  kept : optional = true → inferred.optional = true
  cause : inferred.optional = true → optional = true ∨ Kind.null ∈ kinds
  boxed : inferred.optional = true → inferred.tag.isReferenceLike = true
  holds : ∀ kind ∈ kinds, ∀ value, kind.Covers value → (kind = .integer → schema.Bounded value) →
    value ≠ .null → inferred.tag.Represents value

theorem units_of_isNonnegative {bound : Json} (nonnegative : isNonnegative bound = true) :
    ∃ least, bound.units? = some least ∧ 0 ≤ least := by
  cases bound with
  | int size =>
    have positive : 0 ≤ size := of_decide_eq_true nonnegative
    exact ⟨_, rfl, Int.mul_nonneg positive (Int.pow_nonneg (by decide))⟩
  | float x =>
    refine ⟨_, rfl, ?_⟩
    split
    next negative =>
      have zero : x.isZero = true := by
        simpa [isNonnegative, Binary64.isNonnegative, negative] using nonnegative
      have none : x.units = 0 := by
        rw [Binary64.units, beq_iff_eq.mp zero, Nat.zero_mul]
      omega
    next => omega
  | _ => cases nonnegative

/-- A whole number that is not below a bound without sign is none itself. -/
theorem nonnegative_of_atLeast {bound : Json} {size : Int} (nonnegative : isNonnegative bound = true)
    (least : Json.AtLeast (.int size) bound) : 0 ≤ size := by
  obtain ⟨units, found, positive⟩ := units_of_isNonnegative nonnegative
  have scaled : units ≤ size * 2 ^ 1074 := least _ rfl _ found
  exact Int.nonneg_of_mul_nonneg_left (Int.le_trans positive scaled) (Int.pow_pos (by decide))

theorem eq_null_of_covers (covered : kind.Covers .null) : kind = .null := by
  cases covered
  rfl

theorem sound_of_tag (optionality : inferred.optional = (optional || kinds.contains .null))
    (boxed : inferred.optional = true → inferred.tag.isReferenceLike = true)
    (holds : ∀ kind ∈ kinds, kind ≠ .null → ∀ value, kind.Covers value →
      (kind = .integer → schema.Bounded value) → inferred.tag.Represents value) :
    inferred.Sound schema optional kinds where
  null inside := by simp [optionality, inside]
  kept already := by simp [optionality, already]
  cause made := by simpa [optionality] using made
  boxed := boxed
  holds kind inside value covered bounded other := by
    refine holds kind inside (fun null => ?_) value covered bounded
    subst null
    cases covered
    exact other rfl

theorem sound_ofKind (ok : ofKind kind optional schema = .ok inferred) :
    inferred.Sound schema optional [kind] := by
  cases kind with
  | null =>
    cases ok
    exact {
      null _ := rfl
      kept _ := rfl
      cause _ := .inr List.mem_cons_self
      boxed _ := rfl
      holds _ _ value _ _ _ := .dynamic value }
  | integer =>
    unfold ofKind at ok
    dsimp only at ok
    split at ok
    next optional =>
      cases ok
      refine sound_of_tag (by simp) (fun _ => rfl) fun kind inside _ value covered _ => ?_
      cases List.mem_singleton.mp inside
      cases covered
      exact .boxedWhole _
    next plain =>
      obtain ⟨minimum, known, ok⟩ := Failure.bind_eq_ok.mp ok
      cases ok
      refine sound_of_tag (by simp) (fun optional => absurd optional plain) ?_
      intro kind inside _ value covered bounded
      cases List.mem_singleton.mp inside
      cases covered with
      | integer size =>
        dsimp only
        split
        next nonnegative =>
          cases minimum with
          | none => cases nonnegative
          | some bound =>
            have least := bounded rfl bound (Failure.ofMisuse_eq_ok.mp known)
            exact .unsignedInt size (nonnegative_of_atLeast nonnegative least)
        next => exact .signedInt size
  | _ =>
    cases ok
    refine sound_of_tag (by simp) (by cases optional <;> simp [Tag.isReferenceLike]) ?_
    intro kind inside _ value covered _
    cases List.mem_singleton.mp inside
    cases optional <;> cases covered <;> constructor

theorem sound_ofKinds (ok : ofKinds kinds optional schema = .ok inferred) :
    inferred.Sound schema optional kinds := by
  have remaining (kind : Kind) :
      kind ∈ (kinds.filter (· ≠ .null)).eraseDups ↔ kind ∈ kinds ∧ kind ≠ .null := by
    simp [List.mem_eraseDups]
  unfold ofKinds at ok
  dsimp only at ok
  generalize (kinds.filter (· ≠ .null)).eraseDups = rest at ok remaining
  split at ok
  next single =>
    have sound := sound_ofKind ok
    refine sound_of_tag ?_ sound.boxed fun kind inside other value covered bounded => ?_
    · have apart : Kind.null ∉ [single] := fun null => ((remaining _).mp null).2 rfl
      rw [Bool.eq_iff_iff]
      exact ⟨fun made => (sound.cause made).resolve_right apart, sound.kept⟩
    · have null : value ≠ .null := by
        rintro rfl
        exact other (eq_null_of_covers covered)
      exact sound.holds kind ((remaining kind).mpr ⟨inside, other⟩) value covered bounded null
  next several =>
    -- every kind but null is among those that the chosen branch has looked at
    have known {kind : Kind} {group : List Kind} (all : rest.all (group.contains ·) = true)
        (inside : kind ∈ kinds) (other : kind ≠ .null) : kind ∈ group := by
      have listed := List.all_eq_true.mp all kind ((remaining kind).mpr ⟨inside, other⟩)
      exact List.contains_iff_mem.mp listed
    split at ok
    next numbers =>
      cases ok
      rw [Bool.and_eq_true, Bool.not_eq_true'] at numbers
      refine sound_of_tag rfl (fun made => ?_) fun kind inside other value covered _ => ?_
      · rw [numbers.2] at made
        cases made
      · have group := known numbers.1 inside other
        cases covered with
        | integer size => exact .whole size
        | whole size => exact .whole size
        | number x => exact .number x
        | _ => simp at group
    next =>
      split at ok
      next boxable =>
        cases ok
        refine sound_of_tag rfl (fun _ => rfl) fun kind inside other value covered _ => ?_
        have group := known boxable inside other
        cases covered with
        | boolean flag => exact .boxedFlag flag
        | integer size => exact .boxedWhole size
        | whole size => exact .boxedWhole size
        | number x => exact .boxedNumber x
        | _ => simp at group
      next =>
        cases ok
        exact sound_of_tag rfl (fun _ => rfl) fun _ _ _ value _ _ => .dynamic value

theorem literalKind_ok {literal : Json} :
    literalKind path literal = .ok kind ↔ Kind.ofLiteral? literal = some kind := by
  unfold literalKind
  cases Kind.ofLiteral? literal <;> simp

theorem covers_of_literal {literal : Json} (known : literalKind path literal = .ok kind) :
    kind.widened.Covers literal := by
  have given := literalKind_ok.mp known
  cases literal <;> cases given <;> constructor

theorem widened_ne_integer (kind : Kind) : kind.widened ≠ .integer := by
  cases kind <;> decide

/-- The kinds a tag is made from cover what the schema admits, and null among them only if it does. -/
structure Spans (schema : Json) (kinds : List Kind) : Prop where
  covered : ∀ value, schema.Admits value →
    ∃ kind ∈ kinds, kind.Covers value ∧ (kind = .integer → schema.Bounded value)
  null : Kind.null ∈ kinds → schema.Admits .null

theorem spans_enumeration {enumeration : Json} (listed : schema.member? "enum" = .ok (some enumeration))
    (known : literalKinds enumeration path = .ok kinds) :
    Spans schema (kinds.map Kind.widened) := by
  unfold literalKinds at known
  split at known
  next literals =>
    obtain ⟨found, read, same⟩ := Failure.bind_eq_ok.mp known
    cases same
    have related := Failure.mapM_eq_ok.mp read
    constructor
    · intro value admitted
      cases admitted with
      | literal written inside =>
        rw [listed] at written
        cases written
        obtain ⟨kind, inside, known⟩ := forall₂_left related inside
        refine ⟨kind.widened, List.mem_map_of_mem (List.mem_eraseDups.mpr inside),
          covers_of_literal known, fun whole => absurd whole (widened_ne_integer kind)⟩
      | typed free =>
        rw [listed] at free
        cases free
    · intro null
      obtain ⟨kind, inside, widened⟩ := List.mem_map.mp null
      obtain ⟨literal, inside, known⟩ := forall₂_right related (List.mem_eraseDups.mp inside)
      have covers := covers_of_literal known
      rw [widened] at covers
      cases covers
      exact .literal listed inside
  next => cases known

theorem spans_types (free : schema.member? "enum" = .ok none)
    (named : ∀ kind, schema.NamesKind kind ↔ kind ∈ kinds) : Spans schema kinds where
  covered value admitted := by
    cases admitted with
    | literal listed =>
      rw [free] at listed
      cases listed
    | typed _ kind covered bounded => exact ⟨_, (named _).mp kind, covered, fun _ => bounded⟩
  null inside := .typed free ((named _).mpr inside) .null fun _ _ _ none => nomatch none

theorem namesKind_of_single {written : Kind}
    (type : schema.member? "type" = .ok (some (.str written.name))) :
    schema.NamesKind kind ↔ kind ∈ [written] := by
  rw [List.mem_singleton]
  constructor
  · intro named
    cases named with
    | alone other =>
      rw [type] at other
      have same := Json.str.inj (Option.some.inj (Except.ok.inj other))
      exact Kind.eq_of_name same.symm
    | among other =>
      rw [type] at other
      cases other
  · rintro rfl
    exact .alone type

theorem namesKind_of_list {names : List Json} (type : schema.member? "type" = .ok (some (.arr names)))
    (read : List.Forall₂ (fun name kind => kindOf path name = .ok kind) names kinds) :
    schema.NamesKind kind ↔ kind ∈ kinds := by
  constructor
  · intro named
    cases named with
    | alone other =>
      rw [type] at other
      cases other
    | among other inside =>
      rw [type] at other
      cases other
      obtain ⟨found, listed, known⟩ := forall₂_left read inside
      have same := Json.str.inj (Resolver.str_of_kindOf known)
      exact Kind.eq_of_name same ▸ listed
  · intro listed
    obtain ⟨name, inside, known⟩ := forall₂_right read listed
    exact .among type (Resolver.str_of_kindOf known ▸ inside)

theorem sound_of_ofSchema {members : List (String × Json)}
    (ok : ofSchema (.obj members) optional path = .ok inferred) :
    ∃ kinds, Spans (.obj members) kinds ∧ inferred.Sound (.obj members) optional kinds := by
  obtain ⟨enumerated, known, ok⟩ := Failure.bind_eq_ok.mp ok
  split at ok
  next =>
    obtain ⟨enumeration, found, ok⟩ := Failure.bind_eq_ok.mp ok
    obtain ⟨kinds, literals, ok⟩ := Failure.bind_eq_ok.mp ok
    have listed := Json.entry_eq_ok.mp (Failure.ofMisuse_eq_ok.mp found)
    exact ⟨_, spans_enumeration listed literals, sound_ofKinds ok⟩
  next absent =>
    rw [Bool.not_eq_true] at absent
    subst absent
    have free : (Json.obj members).member? "enum" = .ok none :=
      congrArg Except.ok (Json.lookup_eq_none_of_holds (Failure.ofMisuse_eq_ok.mp known))
    obtain ⟨type, found, ok⟩ := Failure.bind_eq_ok.mp ok
    have typed := Failure.ofMisuse_eq_ok.mp found
    -- a type that is absent counts as null, which is no type
    cases type with
    | none => cases ok
    | some type =>
      cases type with
      | arr names =>
        obtain ⟨_, ⟨⟩, ok⟩ := Failure.bind_eq_ok.mp ok
        obtain ⟨kinds, read, ok⟩ := Failure.bind_eq_ok.mp ok
        have related := Failure.mapM_eq_ok.mp read
        exact ⟨kinds, spans_types free fun _ => namesKind_of_list typed related, sound_ofKinds ok⟩
      | str text =>
        change ofName (.str text) optional (.obj members) path = .ok inferred at ok
        unfold ofName at ok
        dsimp only at ok
        split at ok
        next kind named =>
          rw [← Kind.name_of_ofName? named] at typed
          exact ⟨[kind], spans_types free fun _ => namesKind_of_single typed, sound_ofKind ok⟩
        next => cases ok
      | _ => cases ok

/-- The tag of a schema holds every value that the schema admits. It is optional for null and in an
optional context only, and then has reference semantics. -/
theorem tags_sound {members : List (String × Json)}
    (ok : ofSchema (.obj members) optional path = .ok inferred) :
    (∀ value, (Json.obj members).Admits value →
      (value = .null → inferred.optional = true) ∧
      (value ≠ .null → inferred.tag.Represents value)) ∧
    (inferred.optional = true →
      (optional = true ∨ (Json.obj members).Admits .null) ∧
      inferred.tag.isReferenceLike = true) := by
  obtain ⟨kinds, spans, sound⟩ := sound_of_ofSchema ok
  refine ⟨fun value admitted => ⟨?_, fun other => ?_⟩, fun made => ⟨?_, sound.boxed made⟩⟩
  · rintro rfl
    obtain ⟨kind, inside, covered, -⟩ := spans.covered .null admitted
    exact sound.null (eq_null_of_covers covered ▸ inside)
  · obtain ⟨kind, inside, covered, bounded⟩ := spans.covered value admitted
    exact sound.holds kind inside value covered bounded other
  · exact (sound.cause made).imp_right spans.null

/-- Three, `true` or null, one of them written down twice. -/
def threeLiterals : List (String × Json) := [("enum", .arr [.int 3, .bool true, .null, .int 3])]

/-- Whole numbers from zero, with the bound a negative zero. -/
def wholeFromZero : List (String × Json) := [
  ("type", .arr [.str "integer"]),
  ("minimum", .float (.zero true))]

theorem tags_sound_literals :
    (∃ inferred, ofSchema (.obj threeLiterals) false none = .ok inferred ∧
      inferred.tag.Represents (.int 3) ∧ inferred.tag.Represents (.bool true) ∧
      inferred.optional = true ∧ inferred.tag.isReferenceLike = true) ∧
    ∃ inferred, ofSchema (.obj wholeFromZero) false none = .ok inferred ∧
      inferred.tag = .unsignedInt ∧ (Json.obj wholeFromZero).Admits (.int 5) ∧
      inferred.tag.Represents (.int 5) := by
  constructor
  · have sound := tags_sound (show ofSchema (.obj threeLiterals) false none =
      .ok ⟨.boxedNumber, true⟩ from rfl)
    have literal {value : Json} (inside : value ∈ [.int 3, .bool true, .null, .int 3]) :
        (Json.obj threeLiterals).Admits value := .literal rfl inside
    exact ⟨_, rfl, (sound.1 _ (literal (by simp))).2 nofun, (sound.1 _ (literal (by simp))).2 nofun,
      (sound.1 _ (literal (by simp))).1 rfl, (sound.2 rfl).2⟩
  · have sound := tags_sound (show ofSchema (.obj wholeFromZero) false none =
      .ok ⟨.unsignedInt, false⟩ from rfl)
    have admitted : (Json.obj wholeFromZero).Admits (.int 5) := by
      refine .typed rfl (.among rfl List.mem_cons_self) (.integer 5) ?_
      rintro _ ⟨⟩ _ ⟨⟩ _ ⟨⟩
      exact Int.mul_nonneg (by decide) (Int.pow_nonneg (by decide))
    exact ⟨_, rfl, rfl, admitted, (sound.1 _ admitted).2 nofun⟩

end Inferred

end SchemaCatalog
