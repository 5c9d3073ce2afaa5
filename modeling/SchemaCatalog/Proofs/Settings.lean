import SchemaCatalog.Proofs.Casing
import SchemaCatalog.Proofs.Depth
import SchemaCatalog.Proofs.Exports
import SchemaCatalog.Proofs.Lineage
import SchemaCatalog.Proofs.Places
import SchemaCatalog.Proofs.References

/-! Settings once they are accepted. Prefix, root name and suffix are words, the root name also after it
has been put into capitals, which only ever leaves out underscores. Main statement: accepted settings
are read back as they are, and name the first model of a document whose root is named by nothing else.
-/
namespace SchemaCatalog

namespace Check

variable {α β : Type} {fields : List (String × Json)} {name : String} {fallback : α}
  {read : Json → Check α}

theorem both_ok {first : Check α} {second : Check β} {value : α × β} :
    both first second = .ok value ↔ first = .ok value.1 ∧ second = .ok value.2 := by
  obtain ⟨one, other⟩ := value
  cases first <;> cases second <;> simp [both]

theorem verdict_ok {subject : Subject} {check : Check α} {value : α} :
    check.verdict subject = .ok value ↔ check = .ok value := by
  cases check <;> simp [verdict]

theorem map_ok {check : Check α} {make : α → β} {result : β} :
    check.map make = .ok result ↔ ∃ value, check = .ok value ∧ make value = result := by
  cases check <;> simp [Except.map]

theorem below_ok {step : Step} {check : Check α} {value : α} :
    below step check = .ok value ↔ check = .ok value := by
  cases check <;> simp [below]

/-- A field keeps to what its fallback and its reader keep to. -/
theorem holds_of_field (good : α → Prop) (usual : good fallback)
    (each : ∀ given value, read given = .ok value → good value) {value : α}
    (checked : field fields name (some fallback) read = .ok value) : good value := by
  unfold field at checked
  cases found : fields.lookup name with
  | none =>
    rw [found] at checked
    cases checked
    exact usual
  | some given =>
    rw [found] at checked
    exact each given value (below_ok.mp checked)

def IsWord (text : String) : Prop := ∀ c ∈ text.toList, isWordChar c = true

theorem word_ok {given : Json} {text : String} :
    word given = .ok text ↔ given = .str text ∧ IsWord text := by
  cases given with
  | str other =>
    by_cases listed : other.toList.all isWordChar = true
    · simp only [word, listed, if_true, Except.ok.injEq, Json.str.injEq]
      constructor
      · rintro rfl
        exact ⟨rfl, List.all_eq_true.mp listed⟩
      · exact And.left
    · simp only [word, listed, if_false, Bool.false_eq_true, complain, reduceCtorEq, false_iff, not_and]
      intro same word
      cases same
      exact listed (List.all_eq_true.mpr word)
  | _ => simp [word, complain]

theorem name_given {text : String} (filled : text ≠ "") :
    (Check.name (.str text)).map (·.1) = .ok text := by
  rw [name_str filled]
  rfl

theorem filled_of_name {given : Json} {text : String}
    (known : (Check.name given).map (·.1) = .ok text) : text ≠ "" := by
  obtain ⟨named, -, rfl⟩ := map_ok.mp known
  exact named.2

theorem lt_of_isWordChar {c : Char} (word : isWordChar c = true) : c.toNat < 128 := by
  rcases Bool.or_eq_true_iff.mp word with alphanumeric | underscore
  · rcases Bool.or_eq_true_iff.mp alphanumeric with letter | digit
    · rcases Bool.or_eq_true_iff.mp letter with upper | lower
      · have bound : c.toNat ≤ 0x5A := (of_decide_eq_true upper).2
        omega
      · have bound : c.toNat ≤ 0x7A := of_decide_eq_true (Bool.and_eq_true_iff.mp lower).2
        omega
    · have bound : c.toNat ≤ 0x39 := (Char.isDigit_iff_toNat.mp digit).2
      omega
  · rw [beq_iff_eq.mp underscore]
    decide

theorem isWordChar_toUpper_of_code : ∀ code < 128, isWordChar (Char.ofNat code) = true →
    isWordChar (Char.ofNat code).toUpper = true := by decide +kernel

theorem isWordChar_upper {c d : Char} (word : isWordChar c = true) (inside : d ∈ Unicode.upper c) :
    isWordChar d = true := by
  have ascii := lt_of_isWordChar word
  have known := isWordChar_toUpper_of_code c.toNat ascii
  rw [Char.ofNat_toNat] at known
  rw [Unicode.upper_ascii ascii, List.mem_singleton] at inside
  exact inside ▸ known word

theorem IsWord.capitalize {text : String} (word : IsWord text) : IsWord (Casing.capitalize text) := by
  have joined (chars : List Char) (word : ∀ c ∈ chars, isWordChar c = true) (starts : Bool) :
      ∀ d ∈ Casing.joined starts chars, isWordChar d = true := by
    induction chars generalizing starts with
    | nil => simp [Casing.joined]
    | cons c rest ih =>
      rw [List.forall_mem_cons] at word
      intro d inside
      rw [Casing.joined] at inside
      split at inside
      next => exact ih word.2 _ d inside
      next =>
        rcases List.mem_append.mp inside with here | later
        · cases starts with
          | false =>
            rw [List.mem_singleton.mp here]
            exact word.1
          | true => exact isWordChar_upper word.1 here
        · exact ih word.2 _ d later
  unfold IsWord
  rw [Casing.toList_capitalize]
  exact joined text.toList word true

end Check

namespace Settings

variable {data : Json} {settings : Settings}

/-- What holds of settings once they are accepted. -/
structure Accepted (settings : Settings) : Prop where
  classPrefix : Check.IsWord settings.classPrefix
  rootName : Check.IsWord settings.rootName
  modelSuffix : Check.IsWord settings.modelSuffix
  capital : Casing.capitalize settings.rootName = settings.rootName
  overrideKey : settings.overrideKey ≠ ""

theorem accepted_of_check {entries : List (Json × Json)} (checked : check entries = .ok settings) :
    settings.Accepted := by
  obtain ⟨⟨classPrefix, rootName, modelSuffix, overrideKey, _⟩, fields, rfl⟩ := Check.map_ok.mp checked
  obtain ⟨givenPrefix, fields⟩ := Check.both_ok.mp fields
  obtain ⟨givenRoot, fields⟩ := Check.both_ok.mp fields
  obtain ⟨givenSuffix, fields⟩ := Check.both_ok.mp fields
  obtain ⟨givenKey, -⟩ := Check.both_ok.mp fields
  obtain ⟨written, spelled, capital⟩ := Check.map_ok.mp givenRoot
  dsimp only at capital
  subst capital
  have word : ∀ given text, Check.word given = .ok text → Check.IsWord text :=
    fun _ _ known => (Check.word_ok.mp known).2
  have usual : ∀ text ∈ ["", "Model"], Check.IsWord text := by simp [Check.IsWord, Check.isWordChar]
  constructor
  · exact Check.holds_of_field Check.IsWord (usual "" (by simp)) word givenPrefix
  · exact (Check.holds_of_field Check.IsWord (usual "" (by simp)) word spelled).capitalize
  · exact Check.holds_of_field Check.IsWord (usual "Model" (by simp)) word givenSuffix
  · exact Casing.capitalize_capitalize written
  · exact Check.holds_of_field (· ≠ "") (by decide) (fun _ _ => Check.filled_of_name) givenKey

theorem accepted_of_ofJson (accepted : ofJson data = .ok settings) : settings.Accepted := by
  obtain ⟨entries, -, accepted⟩ := Failure.bind_eq_ok.mp accepted
  exact accepted_of_check (Check.verdict_ok.mp accepted)

/-- Settings that keep to this are read from their own members. -/
theorem Accepted.ofJson_members (accepted : settings.Accepted) :
    ofJson (.obj settings.members) = .ok settings := by
  let entries := settings.members.map fun member => (Json.str member.1, member.2)
  have listed : named entries = settings.members := rfl
  have others : noOtherEntries entries = .ok () := rfl
  have checked : check entries = .ok settings := by
    unfold check
    rw [listed, others]
    apply Check.map_ok.mpr
    refine ⟨(settings.classPrefix, settings.rootName, settings.modelSuffix, settings.overrideKey, ()), ?_, rfl⟩
    apply Check.both_ok.mpr
    refine ⟨Check.field_of_lookup rfl (Check.word_ok.mpr ⟨rfl, accepted.classPrefix⟩), ?_⟩
    apply Check.both_ok.mpr
    constructor
    · apply Check.map_ok.mpr
      have given := Check.word_ok.mpr ⟨rfl, accepted.rootName⟩
      exact ⟨settings.rootName, Check.field_of_lookup rfl given, accepted.capital⟩
    apply Check.both_ok.mpr
    refine ⟨Check.field_of_lookup rfl (Check.word_ok.mpr ⟨rfl, accepted.modelSuffix⟩), ?_⟩
    apply Check.both_ok.mpr
    exact ⟨Check.field_of_lookup rfl (Check.name_given accepted.overrideKey), rfl⟩
  change ofEntries entries = .ok settings
  exact Check.verdict_ok.mpr checked

end Settings

namespace Resolver

variable {settings : Settings} {document : Json} {models : List (String × Model)}

/-- A root that is named by nothing else has the name that the settings provide. -/
theorem first_of_namedByPath (named : (Resolver.mk document settings).NamedByPath document)
    (ok : Resolver.models document settings = .ok models) :
    ∃ model rest, models = (settings.rootModelName, model) :: rest ∧ model.name = settings.rootModelName := by
  obtain ⟨resolver, made, ok⟩ := Failure.bind_eq_ok.mp ok
  obtain rfl := ofDocument_ok made
  have ok : (resolve ⟨document, settings⟩).run {} = (.ok models, _) := Prod.ext ok rfl
  obtain ⟨finding, base, roots, found, based, -, arranged⟩ := arranged_of_resolve ok
  obtain ⟨resolved, found⟩ := inspect_ok.mp found
  obtain ⟨-, tagged, declares⟩ := findingOf_ok.mp found
  -- the root stands for itself, so what was found is found at the root
  have plain := (Definitions.resolve_of_plain named.plain _).symm.trans resolved
  have reference : finding.reference = ⟨document, []⟩ := (Except.ok.inj plain).symm
  rw [reference] at tagged declares based
  have based : base = settings.rootName := by
    obtain ⟨own, known, based⟩ := rootBase_ok.mp based
    cases named.unnamed.symm.trans known
    exact based
  subst based
  obtain ⟨place, inferred, written, object, declared⟩ := named.object
  have tag : finding.inferred.tag = .object := by
    have elsewhere := (Inferred.elsewhere_ofSchema place (some "#") document false).ok_iff.mp written
    cases elsewhere.symm.trans tagged
    exact object
  have modelled : finding.hasModel = true := by
    have known : hasModel finding.inferred.tag document "#" = .ok true :=
      hasModel_ok.mpr ⟨tag, declaresProperties_ok.mp declared⟩
    exact Except.ok.inj (declares.symm.trans known)
  obtain ⟨model, rest, rfl, built, -⟩ := arranged.object modelled
  exact ⟨model, rest, rfl, name_of_model built⟩

end Resolver

/-- Settings that are accepted are accepted again as they are, and are words. The first model of a document
is named by them alone, if the root is an object schema with properties that is no reference and
gives itself no name. -/
theorem Settings.accepted_stable {data : Json} {settings : Settings}
    (accepted : ofJson data = .ok settings) :
    ofJson (.obj settings.members) = .ok settings ∧
    (∀ text ∈ [settings.classPrefix, settings.rootName, settings.modelSuffix],
      ∀ c ∈ text.toList, Check.isWordChar c = true) ∧
    ∀ document models, (Resolver.mk document settings).NamedByPath document →
      Resolver.models document settings = .ok models →
      ∃ model rest, models = (settings.rootModelName, model) :: rest ∧
        model.name = settings.rootModelName := by
  have kept := accepted_of_ofJson accepted
  refine ⟨kept.ofJson_members, ?_, fun document models => Resolver.first_of_namedByPath⟩
  intro text listed
  simp only [List.mem_cons, List.not_mem_nil, or_false] at listed
  rcases listed with rfl | rfl | rfl
  · exact kept.classPrefix
  · exact kept.rootName
  · exact kept.modelSuffix

/-- The underscore is gone from the name of the root, and does not come back. -/
theorem Settings.accepted_stable_feed : ∃ settings model rest,
    ofJson (.obj [("class_prefix", .str "TS"), ("root_name", .str "my_feed")]) = .ok settings ∧
    settings.rootName = "MyFeed" ∧ ofJson (.obj settings.members) = .ok settings ∧
    Check.isWordChar 'M' = true ∧
    Resolver.models Resolver.linkedDocument settings = .ok (("TSMyFeedModel", model) :: rest) ∧
    model.name = "TSMyFeedModel" := by
  let settings : Settings := { classPrefix := "TS", rootName := "MyFeed" }
  have accepted : ofJson (.obj [("class_prefix", .str "TS"), ("root_name", .str "my_feed")]) =
      .ok settings := by decide +kernel
  have succeeds : (Resolver.models Resolver.linkedDocument settings).isOk = true := by decide +kernel
  obtain ⟨again, words, first⟩ := accepted_stable accepted
  cases ok : Resolver.models Resolver.linkedDocument settings with
  | error failure => simp [ok, Except.isOk, Except.toBool] at succeeds
  | ok models =>
    have named : (Resolver.mk Resolver.linkedDocument settings).NamedByPath Resolver.linkedDocument :=
      ⟨rfl, ⟨none, ⟨.object, false⟩, rfl, rfl, rfl⟩, rfl⟩
    obtain ⟨model, rest, rfl, same⟩ := first _ _ named ok
    have letter : Check.isWordChar 'M' = true := words "MyFeed" (by simp [settings]) 'M' (by decide)
    exact ⟨settings, model, rest, accepted, rfl, again, letter, ok, same⟩

end SchemaCatalog
