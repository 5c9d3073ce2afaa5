import SchemaCatalog.Proofs.Admission

/-! Unions of kinds. Repetitions are dropped before and after null is, whole numbers of an enumeration
count as plain ones, and the rule for a single kind looks at what is left after all of that. Still only
the members of a union decide. Main statement: order and repetition of members make no difference,
null only makes the union optional, one name comes to its own tag, and an enumeration to what the kinds
of its literals come to, whatever else its schema says.
-/
namespace SchemaCatalog

theorem eraseDups_eq_singleton {α : Type} [BEq α] [LawfulBEq α] {items : List α} {item : α} :
    items.eraseDups = [item] ↔ item ∈ items ∧ ∀ other ∈ items, other = item := by
  have erased_nil (rest : List α) : rest.eraseDups = [] ↔ rest = [] := by
    cases rest <;> simp [List.eraseDups_cons]
  cases items with
  | nil => simp
  | cons first rest =>
    rw [List.eraseDups_cons, List.cons.injEq, erased_nil, List.filter_eq_nil_iff]
    constructor
    · intro ⟨same, alone⟩
      subst same
      exact ⟨List.mem_cons_self, by simpa using alone⟩
    · intro ⟨_, alone⟩
      rw [List.forall_mem_cons] at alone
      refine ⟨alone.1, fun other inside => ?_⟩
      simp [alone.1, alone.2 other inside]

namespace Inferred

variable {schema other : Json} {kinds kinds' : List Kind} {names literals : List Json}
  {optional : Bool} {path : Option String}

/-- Kinds, as the type of a schema lists them. -/
def typeNames (kinds : List Kind) : List Json := kinds.map fun kind => .str kind.name

/-- A union is refused for one of its members that names no kind. -/
def Refused (names : List Json) (path : Option String) (outcome : Except Failure Inferred) : Prop :=
  ∃ name ∈ names, (∀ kind : Kind, name ≠ .str kind.name) ∧
    outcome = .error (.located (.typeUnknown name.display) path)

/-- An enumeration is refused for one of its literals that is a list or an object. -/
def Nested (literals : List Json) (path : Option String) (outcome : Except Failure Inferred) : Prop :=
  ∃ literal ∈ literals, literal.isContainer = true ∧ outcome =
    .error (.detailed .enumLiteralNested path ("unsupported enum literal: " ++ literal.quoted))

/-- The kind that a literal counts as, where whole numbers are plain ones. -/
def countedKind? (literal : Json) : Option Kind := (Kind.ofLiteral? literal).map Kind.widened

/-- The kinds that the rules for unions look at. -/
def remaining (kinds : List Kind) : List Kind := (kinds.filter (· ≠ .null)).eraseDups

/-- The tag for none or several of these. -/
def mixedTag (rest : List Kind) (optional : Bool) : Tag :=
  if rest.all ([Kind.integer, .number].contains ·) && !optional then .number
  else if rest.all ([Kind.boolean, .integer, .number].contains ·) then .boxedNumber
  else .dynamic

theorem mem_remaining {kind : Kind} : kind ∈ remaining kinds ↔ kind ∈ kinds ∧ kind ≠ .null := by
  simp [remaining, List.mem_eraseDups]

theorem remaining_eq_singleton {kind : Kind} :
    remaining kinds = [kind] ↔ kind ∈ remaining kinds ∧ ∀ another ∈ remaining kinds, another = kind := by
  rw [remaining, eraseDups_eq_singleton]
  simp [List.mem_eraseDups]

theorem ofKinds_of_one {kind : Kind} (one : remaining kinds = [kind]) (optional : Bool) (schema : Json) :
    ofKinds kinds optional schema = ofKind kind (optional || kinds.contains .null) schema := by
  unfold remaining at one
  unfold ofKinds
  dsimp only
  rw [one]

theorem ofKinds_of_several (several : ∀ kind, remaining kinds ≠ [kind]) (optional : Bool) (schema : Json) :
    ofKinds kinds optional schema =
      .ok ⟨mixedTag (remaining kinds) (optional || kinds.contains .null),
        optional || kinds.contains .null⟩ := by
  unfold remaining at several
  unfold ofKinds mixedTag remaining
  dsimp only
  split
  next kind one => exact absurd one (several kind)
  next =>
    split
    · rfl
    · split
      · rfl
      · rfl

/-- Kinds count once, wherever and however often they are listed. -/
theorem ofKinds_congr (same : ∀ kind, kind ∈ kinds ↔ kind ∈ kinds') (optional : Bool) (schema : Json) :
    ofKinds kinds optional schema = ofKinds kinds' optional schema := by
  have null : kinds.contains .null = kinds'.contains .null := by
    rw [Bool.eq_iff_iff]
    simp [same]
  have rest (kind : Kind) : kind ∈ remaining kinds ↔ kind ∈ remaining kinds' := by
    simp [mem_remaining, same]
  have single (kind : Kind) : remaining kinds = [kind] ↔ remaining kinds' = [kind] := by
    simp [remaining_eq_singleton, rest]
  by_cases one : ∃ kind, remaining kinds = [kind]
  · obtain ⟨kind, one⟩ := one
    rw [ofKinds_of_one one, ofKinds_of_one ((single kind).mp one), null]
  · rw [not_exists] at one
    have several : ∀ kind, remaining kinds' ≠ [kind] := fun kind other => one kind ((single kind).mpr other)
    have all (group : Kind → Bool) : (remaining kinds).all group = (remaining kinds').all group := by
      rw [Bool.eq_iff_iff]
      simp [List.all_eq_true, rest]
    rw [ofKinds_of_several one, ofKinds_of_several several, null]
    simp only [mixedTag, all]

/-- Null among the kinds makes a union optional, and nothing else. -/
theorem ofKinds_null (before after : List Kind) (optional : Bool) (schema : Json) :
    ofKinds (before ++ .null :: after) optional schema = ofKinds (before ++ after) true schema := by
  have front : ∀ kind, kind ∈ before ++ .null :: after ↔ kind ∈ .null :: (before ++ after) := by
    intro kind
    simp [or_left_comm]
  rw [ofKinds_congr front]
  simp [ofKinds]

theorem ofKinds_single {kind : Kind} (other : kind ≠ .null) (optional : Bool) (schema : Json) :
    ofKinds [kind] optional schema = ofKind kind optional schema := by
  have one : remaining [kind] = [kind] := by simp [remaining_eq_singleton, mem_remaining, other]
  rw [ofKinds_of_one one]
  simp [Ne.symm other]

/-- Only whole numbers look at the schema. -/
theorem exists_ofKinds (plain : Kind.integer ∉ kinds) (optional : Bool) :
    ∃ inferred, ∀ schema, ofKinds kinds optional schema = .ok inferred := by
  by_cases one : ∃ kind, remaining kinds = [kind]
  · obtain ⟨kind, one⟩ := one
    have inside : kind ∈ remaining kinds := one ▸ List.mem_cons_self
    simp only [ofKinds_of_one one]
    cases kind with
    | integer => exact absurd (mem_remaining.mp inside).1 plain
    | _ => exact ⟨_, fun _ => rfl⟩
  · rw [not_exists] at one
    exact ⟨_, fun schema => ofKinds_of_several one optional schema⟩

theorem kindOf_name (path : Option String) (kind : Kind) : kindOf path (.str kind.name) = .ok kind := by
  simp [kindOf, Json.text?, Kind.ofName?_name]

theorem exists_typeNames (known : ∀ name ∈ names, ∃ kind : Kind, name = .str kind.name) :
    ∃ kinds, names = typeNames kinds := by
  induction names with
  | nil => exact ⟨[], rfl⟩
  | cons first rest ih =>
    rw [List.forall_mem_cons] at known
    obtain ⟨⟨kind, rfl⟩, later⟩ := known
    obtain ⟨kinds, rfl⟩ := ih later
    exact ⟨kind :: kinds, rfl⟩

theorem ofNames_typeNames (kinds : List Kind) (optional : Bool) (schema : Json) (path : Option String) :
    ofNames (.arr (typeNames kinds)) optional schema path = ofKinds kinds optional schema := by
  have read : (typeNames kinds).mapM (kindOf path) = .ok kinds := by
    rw [Failure.mapM_eq_ok, typeNames, List.forall₂_map_left_iff, List.forall₂_same]
    exact fun kind _ => kindOf_name path kind
  change ((typeNames kinds).mapM (kindOf path) >>= fun kinds => ofKinds kinds optional schema) = _
  rw [read]
  rfl

theorem refused_of_mem {name : Json} (inside : name ∈ names) (unknown : ∀ kind : Kind, name ≠ .str kind.name)
    (optional : Bool) (schema : Json) (path : Option String) :
    Refused names path (ofNames (.arr names) optional schema path) := by
  change Refused names path (names.mapM (kindOf path) >>= fun kinds => ofKinds kinds optional schema)
  cases read : names.mapM (kindOf path) with
  | ok kinds =>
    obtain ⟨kind, -, known⟩ := forall₂_left (Failure.mapM_eq_ok.mp read) inside
    exact absurd (Resolver.str_of_kindOf known) (unknown kind)
  | error failure =>
    -- the first member that fails may be another one, which then names no kind either
    obtain ⟨member, listed, failed⟩ := Failure.exists_of_mapM_error read
    refine ⟨member, listed, ?_, ?_⟩
    · rintro kind rfl
      rw [kindOf_name] at failed
      cases failed
    · unfold kindOf at failed
      split at failed
      next => cases failed
      next =>
        cases failed
        rfl

/-- Members that are no texts name no kind, so it makes no difference which they are. -/
theorem unknown_of_same {others : List Json}
    (same : ∀ text, text ∈ names.map Json.text? ↔ text ∈ others.map Json.text?)
    (known : ∀ name ∈ others, ∃ kind : Kind, name = .str kind.name) :
    ∀ name ∈ names, ∃ kind : Kind, name = .str kind.name := by
  intro name inside
  obtain ⟨member, listed, text⟩ := List.mem_map.mp ((same _).mp (List.mem_map_of_mem inside))
  obtain ⟨kind, rfl⟩ := known member listed
  cases name with
  | str written =>
    have equal : kind.name = written := Option.some.inj text
    exact ⟨kind, congrArg Json.str equal.symm⟩
  | _ => cases text

theorem ofNames_congr {others : List Json}
    (same : ∀ text, text ∈ names.map Json.text? ↔ text ∈ others.map Json.text?)
    (optional : Bool) (schema : Json) (path : Option String) :
    ofNames (.arr names) optional schema path = ofNames (.arr others) optional schema path ∨
      Refused names path (ofNames (.arr names) optional schema path) ∧
      Refused others path (ofNames (.arr others) optional schema path) := by
  by_cases known : ∀ name ∈ others, ∃ kind : Kind, name = .str kind.name
  · left
    obtain ⟨kinds, rfl⟩ := exists_typeNames (unknown_of_same same known)
    obtain ⟨kinds', rfl⟩ := exists_typeNames known
    rw [ofNames_typeNames, ofNames_typeNames]
    apply ofKinds_congr
    intro kind
    have named : ∀ kinds, some kind.name ∈ (typeNames kinds).map Json.text? ↔ kind ∈ kinds := by
      intro kinds
      simp only [typeNames, List.map_map, List.mem_map, Function.comp_apply, Json.text?, Option.some.injEq]
      constructor
      · rintro ⟨listed, inside, equal⟩
        exact Kind.eq_of_name equal ▸ inside
      · intro inside
        exact ⟨kind, inside, rfl⟩
    rw [← named, ← named]
    exact same _
  · right
    have unknown : ¬ ∀ name ∈ names, ∃ kind : Kind, name = .str kind.name := fun read =>
      known (unknown_of_same (fun text => (same text).symm) read)
    push Not at known unknown
    obtain ⟨name, inside, stranger⟩ := unknown
    obtain ⟨member, listed, stranger'⟩ := known
    exact ⟨refused_of_mem inside stranger _ _ _, refused_of_mem listed stranger' _ _ _⟩

/-- A union of one name is read as that name is, even if there is no such type. -/
theorem ofNames_single {name : String} (filled : names ≠ []) (other : name ≠ Kind.null.name)
    (alone : ∀ member ∈ names, member = .str name) (optional : Bool) (schema : Json)
    (path : Option String) :
    ofNames (.arr names) optional schema path = ofName (.str name) optional schema path := by
  obtain ⟨first, inside⟩ := List.exists_mem_of_ne_nil names filled
  have listed : Json.str name ∈ names := alone first inside ▸ inside
  unfold ofName
  dsimp only
  cases found : Kind.ofName? name with
  | some kind =>
    have named : kind.name = name := Kind.name_of_ofName? found
    subst named
    have known : ∀ member ∈ names, ∃ kind : Kind, member = .str kind.name :=
      fun member inside => ⟨kind, alone member inside⟩
    obtain ⟨kinds, rfl⟩ := exists_typeNames known
    have same : ∀ another, another ∈ kinds ↔ another ∈ [kind] := by
      intro another
      rw [List.mem_singleton]
      constructor
      · intro inside
        have equal := alone _ (List.mem_map_of_mem inside)
        exact Kind.eq_of_name (Json.str.inj equal)
      · rintro rfl
        obtain ⟨known, inside, equal⟩ := List.mem_map.mp listed
        exact Kind.eq_of_name (Json.str.inj equal) ▸ inside
    rw [ofNames_typeNames, ofKinds_congr same]
    exact ofKinds_single (fun null => other (congrArg Kind.name null)) optional schema
  | none =>
    have unknown : ∀ kind : Kind, Json.str name ≠ .str kind.name := by
      intro kind equal
      rw [Json.str.inj equal, Kind.ofName?_name] at found
      cases found
    obtain ⟨member, inside, -, refused⟩ := refused_of_mem listed unknown optional schema path
    rw [refused, alone member inside]
    rfl

theorem literalKind_error {literal : Json} {failure : Failure}
    (failed : literalKind path literal = .error failure) :
    Kind.ofLiteral? literal = none ∧
      failure = .detailed .enumLiteralNested path ("unsupported enum literal: " ++ literal.quoted) := by
  unfold literalKind at failed
  split at failed
  next => cases failed
  next other =>
    cases failed
    exact ⟨other, rfl⟩

theorem isContainer_of_ofLiteral? {literal : Json} (other : Kind.ofLiteral? literal = none) :
    literal.isContainer = true := by
  cases literal with
  | arr | obj => rfl
  | _ => cases other

theorem ofSchema_enumeration (listed : schema.member? "enum" = .ok (some (.arr literals))) :
    ofSchema schema optional path = (literals.mapM (literalKind path) >>= fun kinds =>
      ofKinds (kinds.eraseDups.map Kind.widened) optional schema) := by
  obtain ⟨members, rfl, found⟩ := Json.member?_eq_ok.mp listed
  unfold ofSchema
  rw [Json.holds_of_member? listed, Json.entry_eq_ok.mpr listed]
  change (literalKinds (.arr literals) path >>= fun kinds => ofKinds (kinds.map Kind.widened) optional _) = _
  unfold literalKinds
  dsimp only
  cases literals.mapM (literalKind path) <;> rfl

theorem ofSchema_literals (listed : schema.member? "enum" = .ok (some (.arr literals)))
    (plain : ∀ literal ∈ literals, countedKind? literal ≠ none) :
    ofSchema schema optional path = ofKinds (literals.filterMap countedKind?) optional schema := by
  rw [ofSchema_enumeration listed]
  cases read : literals.mapM (literalKind path) with
  | error failure =>
    obtain ⟨literal, inside, failed⟩ := Failure.exists_of_mapM_error read
    have none : countedKind? literal = none := by simp [countedKind?, (literalKind_error failed).1]
    exact absurd none (plain literal inside)
  | ok kinds =>
    have related := Failure.mapM_eq_ok.mp read
    have counted {literal : Json} {kind : Kind} (known : literalKind path literal = .ok kind) :
        countedKind? literal = some kind.widened := by
      simp [countedKind?, literalKind_ok.mp known]
    apply ofKinds_congr
    intro kind
    simp only [List.mem_map, List.mem_eraseDups, List.mem_filterMap]
    constructor
    · rintro ⟨found, inside, rfl⟩
      obtain ⟨literal, listed, known⟩ := forall₂_right related inside
      exact ⟨literal, listed, counted known⟩
    · rintro ⟨literal, listed, known⟩
      obtain ⟨found, inside, read⟩ := forall₂_left related listed
      exact ⟨found, inside, Option.some.inj ((counted read).symm.trans known)⟩

theorem nested_of_mem (listed : schema.member? "enum" = .ok (some (.arr literals)))
    (nested : none ∈ literals.map countedKind?) :
    Nested literals path (ofSchema schema optional path) := by
  rw [ofSchema_enumeration listed]
  cases read : literals.mapM (literalKind path) with
  | ok kinds =>
    obtain ⟨literal, inside, none⟩ := List.mem_map.mp nested
    obtain ⟨kind, -, known⟩ := forall₂_left (Failure.mapM_eq_ok.mp read) inside
    simp [countedKind?, literalKind_ok.mp known] at none
  | error failure =>
    obtain ⟨literal, inside, failed⟩ := Failure.exists_of_mapM_error read
    obtain ⟨other, rfl⟩ := literalKind_error failed
    exact ⟨literal, inside, isContainer_of_ofLiteral? other, rfl⟩

theorem ofSchema_congr {literals' : List Json} {path' : Option String}
    (listed : schema.member? "enum" = .ok (some (.arr literals)))
    (listed' : other.member? "enum" = .ok (some (.arr literals')))
    (same : ∀ kind, kind ∈ literals.map countedKind? ↔ kind ∈ literals'.map countedKind?) :
    (∃ inferred, ofSchema schema optional path = .ok inferred ∧
        ofSchema other optional path' = .ok inferred) ∨
      Nested literals path (ofSchema schema optional path) ∧
      Nested literals' path' (ofSchema other optional path') := by
  by_cases nested : none ∈ literals.map countedKind?
  · exact .inr ⟨nested_of_mem listed nested, nested_of_mem listed' ((same none).mp nested)⟩
  · left
    have plain : ∀ literal ∈ literals, countedKind? literal ≠ none := by simpa using nested
    have plain' : ∀ literal ∈ literals', countedKind? literal ≠ none := by
      rw [same none] at nested
      simpa using nested
    have kinds : ∀ kind,
        kind ∈ literals.filterMap countedKind? ↔ kind ∈ literals'.filterMap countedKind? := by
      intro kind
      simpa using same (some kind)
    -- whole numbers are widened, so no kind is left whose tag depends on the schema
    have whole : Kind.integer ∉ literals.filterMap countedKind? := by
      intro inside
      obtain ⟨literal, -, known⟩ := List.mem_filterMap.mp inside
      obtain ⟨kind, -, widened⟩ := Option.map_eq_some_iff.mp known
      exact widened_ne_integer kind widened
    obtain ⟨inferred, known⟩ := exists_ofKinds whole optional
    refine ⟨inferred, ?_, ?_⟩
    · rw [ofSchema_literals listed plain, known]
    · rw [ofSchema_literals listed' plain', ← ofKinds_congr kinds, known]

/-- What a union comes to, or that it is refused, depends on its members only. Null in it makes it
optional, and a single name other than null is read as by itself. Schemas whose enumerations have
literals of the same kinds have the same tag. Values that are no texts count as one member, and so do
lists and objects as literals; either is refused. -/
theorem union_laws (schema : Json) (optional : Bool) (path : Option String) :
    (∀ names others : List Json,
      (∀ text, text ∈ names.map Json.text? ↔ text ∈ others.map Json.text?) →
      ofNames (.arr names) optional schema path = ofNames (.arr others) optional schema path ∨
        Refused names path (ofNames (.arr names) optional schema path) ∧
        Refused others path (ofNames (.arr others) optional schema path)) ∧
    (∀ before after : List Kind,
      ofNames (.arr (typeNames (before ++ .null :: after))) optional schema path =
        ofNames (.arr (typeNames (before ++ after))) true schema path) ∧
    (∀ (names : List Json) (name : String), names ≠ [] → name ≠ Kind.null.name →
      (∀ member ∈ names, member = .str name) →
      ofNames (.arr names) optional schema path = ofName (.str name) optional schema path) ∧
    ∀ (other : Json) (path' : Option String) (literals literals' : List Json),
      schema.member? "enum" = .ok (some (.arr literals)) →
      other.member? "enum" = .ok (some (.arr literals')) →
      (∀ kind, kind ∈ literals.map countedKind? ↔ kind ∈ literals'.map countedKind?) →
      (∃ inferred, ofSchema schema optional path = .ok inferred ∧
          ofSchema other optional path' = .ok inferred) ∨
        Nested literals path (ofSchema schema optional path) ∧
        Nested literals' path' (ofSchema other optional path') := by
  refine ⟨fun _ _ same => ofNames_congr same optional schema path, fun before after => ?_,
    fun _ _ filled other alone => ofNames_single filled other alone optional schema path,
    fun _ _ _ _ listed listed' same => ofSchema_congr listed listed' same⟩
  rw [ofNames_typeNames, ofNames_typeNames, ofKinds_null]

/-- Literals of two kinds, with a bound that no literal looks at. -/
def boundedLiterals : Json := .obj [("enum", .arr [.int 3, .str "a", .int 3]), ("minimum", .int 0)]

def otherLiterals : Json := .obj [("enum", .arr [.str "b", .float (.zero true)])]

theorem union_laws_repeated :
    let names := [Kind.integer, .null, .integer]
    ofNames (.arr (typeNames names)) false boundedLiterals none = .ok ⟨.boxedNumber, true⟩ ∧
    ofNames (.arr (typeNames [.null, .integer])) false boundedLiterals none = .ok ⟨.boxedNumber, true⟩ ∧
    ofNames (.arr (typeNames [.integer, .integer])) true boundedLiterals none = .ok ⟨.boxedNumber, true⟩ ∧
    ofNames (.arr [.str "integer", .str "integer"]) false boundedLiterals none = .ok ⟨.unsignedInt, false⟩ ∧
    ofSchema boundedLiterals false none = ofSchema otherLiterals false (some "#") := by
  obtain ⟨members, null, single, literals⟩ := union_laws boundedLiterals false none
  have first : ofNames (.arr (typeNames [.integer, .null, .integer])) false boundedLiterals none =
      .ok ⟨.boxedNumber, true⟩ := rfl
  refine ⟨first, ?_, ?_, ?_, ?_⟩
  · have same : ∀ text, text ∈ (typeNames [.integer, .null, .integer]).map Json.text? ↔
        text ∈ (typeNames [.null, .integer]).map Json.text? := by
      intro text
      simp only [typeNames, List.map_cons, List.map_nil, List.mem_cons, List.not_mem_nil]
      tauto
    rcases members _ _ same with equal | ⟨⟨_, _, _, refused⟩, -⟩
    · rw [← equal, first]
    · cases first.symm.trans refused
  · exact (null [.integer] [.integer]).symm.trans first
  · exact (single _ "integer" (by simp) (by decide) (by simp)).trans rfl
  · have same : ∀ kind, kind ∈ [Json.int 3, .str "a", .int 3].map countedKind? ↔
        kind ∈ [Json.str "b", .float (.zero true)].map countedKind? := by
      intro kind
      simp only [countedKind?, Kind.ofLiteral?, Option.map_some, Kind.widened, List.map_cons, List.map_nil,
        List.mem_cons, List.not_mem_nil]
      tauto
    rcases literals otherLiterals (some "#") _ _ rfl rfl same with ⟨inferred, one, two⟩ | ⟨nested, -⟩
    · rw [one, two]
    · obtain ⟨literal, inside, container, -⟩ := nested
      simp only [List.mem_cons, List.not_mem_nil, or_false] at inside
      rcases inside with rfl | rfl | rfl <;> cases container

end Inferred

end SchemaCatalog
