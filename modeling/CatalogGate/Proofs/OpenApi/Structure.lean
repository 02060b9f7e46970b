-- The laws of the structure of documents. A document of a later version 3 may have other members in the place of
-- `paths` and is otherwise built like one of version 3.0, and a document that is built like those of a version
-- says that it is of such a version.
import CatalogGate.OpenApi.Structure
import CatalogGate.Proofs.Json.Members
import CatalogGate.Proofs.Pattern.Pieces
import CatalogGate.Proofs.Schema.Keywords

namespace CatalogGate.OpenApi.Structure

open Schema

theorem violations_eq_nil_iff (v : Version) (root : Json) :
    violations v root = [] ↔ Schema.violations .nowhere (ofVersion v) root [] = [] := by
  rw [violations, List.map_eq_nil_iff]

/-! ## Objects with certain members and extensions -/

/-- Each member is right by the schema of its name, and its name is known or one of an extension. -/
def AllRight (named : List (String × Schema)) (members : List (String × Json)) : Prop :=
  ∀ m ∈ members, nameViolations .nowhere named m.1 m.2 [.key m.1] = [] ∧ covers named [extension] m.1 = true

def HasAll (names : List String) (members : List (String × Json)) : Prop :=
  ∀ name ∈ names, (Json.lookup name members).isSome = true

theorem matchViolations_extension (name : String) (value : Json) (path : Json.Path) :
    matchViolations .nowhere [extension] name value path = [] := by
  simp [matchViolations, extension, Schema.violations]

theorem covers_extension_iff (named : List (String × Schema)) (name : String) :
    covers named [extension] name = true ↔ (∃ m ∈ named, m.1 = name) ∨ "x-".toList <+: name.toList := by
  rw [← Pattern.isFoundIn_startingWith_iff]
  cases hfound : (Pattern.startingWith "x-").isFoundIn name.toList <;>
    simp [covers, extension, Pattern.Search.finds, Pattern.Search.run, hfound]

theorem members_eq_nil_iff (named : List (String × Schema)) (members : List (String × Json)) :
    keywordViolation .nowhere (Structure.members named) (.object members) [] = [] ↔ AllRight named members := by
  rw [Structure.members, closed_eq_nil_iff]
  simp only [matchViolations_extension, List.nil_append, true_and]
  rfl

/-- The keywords of an object that has to have certain members, and what else it has to be like. -/
theorem keywords_eq_nil_iff (names : List String) (named : List (String × Schema)) (more : List Keyword)
    (root : Json) :
    keywordViolations .nowhere ([.kinds [.object], .required names, Structure.members named] ++ more) root [] = [] ↔
      ∃ members, root = .object members ∧ HasAll names members ∧ AllRight named members ∧
        ∀ k ∈ more, keywordViolation .nowhere k root [] = [] := by
  simp only [keywordViolations_eq_nil_iff, List.forall_mem_append, List.forall_mem_cons, List.not_mem_nil,
    false_imp_iff, implies_true, and_true, kinds_eq_nil_iff, admits_object_iff]
  constructor
  · rintro ⟨⟨⟨members, rfl⟩, hnames, hmembers⟩, hmore⟩
    exact ⟨members, rfl, (required_eq_nil_iff ..).mp hnames, (members_eq_nil_iff ..).mp hmembers, hmore⟩
  · rintro ⟨members, rfl, hnames, hmembers, hmore⟩
    exact ⟨⟨⟨members, rfl⟩, (required_eq_nil_iff ..).mpr hnames, (members_eq_nil_iff ..).mpr hmembers⟩, hmore⟩

theorem closedObjectWith_eq_nil_iff (names : List String) (named : List (String × Schema)) (root : Json) :
    Schema.violations .nowhere (closedObjectWith names named) root [] = [] ↔
      ∃ members, root = .object members ∧ HasAll names members ∧ AllRight named members := by
  have h := keywords_eq_nil_iff names named [] root
  simp only [List.append_nil, List.not_mem_nil, false_imp_iff, implies_true, and_true] at h
  rw [← h, closedObjectWith, Schema.violations]

/-! ## Version 3 -/

theorem violations_v30_iff (root : Json) :
    violations .v30 root = [] ↔
      ∃ members, root = .object members ∧ HasAll ["openapi", "info", "paths"] members ∧
        AllRight Three.named members :=
  (violations_eq_nil_iff .v30 root).trans (closedObjectWith_eq_nil_iff ..)

theorem required_only_eq_nil_iff (name : String) (members : List (String × Json)) :
    Schema.violations .nowhere (.all [.required [name]]) (.object members) [] = [] ↔
      (Json.lookup name members).isSome = true := by
  rw [Schema.violations, keywordViolations_eq_nil_iff, List.forall_mem_singleton, required_eq_nil_iff,
    List.forall_mem_singleton]

theorem violations_v31_iff (root : Json) :
    violations .v31 root = [] ↔
      ∃ members, root = .object members ∧ HasAll ["openapi", "info"] members ∧ AllRight Three.named members ∧
        ∃ name ∈ ["paths", "components", "webhooks"], (Json.lookup name members).isSome = true := by
  rw [violations_eq_nil_iff, ofVersion, Three.laterDocument, Schema.violations, Three.keywords, keywords_eq_nil_iff]
  refine exists_congr fun members => and_congr_right fun hroot => and_congr_right fun _ => and_congr_right fun _ => ?_
  rw [List.forall_mem_singleton, anyOf_eq_nil_iff, hroot]
  simp only [List.mem_cons, List.not_mem_nil, or_false, exists_eq_or_imp, exists_eq_left, required_only_eq_nil_iff]

/-- An empty object of paths is right. -/
theorem allRight_paths (members : List (String × Json)) :
    AllRight Three.named (members ++ [("paths", .object [])]) ↔ AllRight Three.named members := by
  have hviolations : nameViolations .nowhere Three.named "paths" (.object []) [.key "paths"] = [] := rfl
  have hcovered : covers Three.named [extension] "paths" = true := rfl
  rw [AllRight, List.forall_mem_append, List.forall_mem_singleton]
  exact and_iff_left ⟨hviolations, hcovered⟩

theorem hasAll_paths_iff (members : List (String × Json)) :
    HasAll ["openapi", "info", "paths"] members ↔
      HasAll ["openapi", "info"] members ∧ (Json.lookup "paths" members).isSome = true := by
  simp [HasAll, and_assoc]

theorem hasAll_append_paths_iff (members : List (String × Json)) (value : Json) :
    HasAll ["openapi", "info"] (members ++ [("paths", value)]) ↔ HasAll ["openapi", "info"] members := by
  simp [HasAll, Json.lookup_append, Json.lookup]

/-- A document of version 3.0 is one of a later version that has `paths`. A document of a later version without
`paths` has other members in their place, and with empty `paths` it is one of version 3.0. -/
theorem paths_relaxed (root : Json) :
    (violations .v30 root = [] ↔ (root.get? "paths").isSome = true ∧ violations .v31 root = []) ∧
      ∀ members, root = .object members → root.get? "paths" = none →
        (violations .v31 root = [] ↔
          ((root.get? "components").isSome = true ∨ (root.get? "webhooks").isSome = true) ∧
            violations .v30 (.object (Json.put "paths" (.object []) members)) = []) := by
  simp only [violations_v30_iff, violations_v31_iff, hasAll_paths_iff]
  constructor
  · constructor
    · rintro ⟨members, rfl, ⟨hall, hpaths⟩, hright⟩
      exact ⟨hpaths, members, rfl, hall, hright, "paths", by simp, hpaths⟩
    · rintro ⟨hpaths, members, rfl, hall, hright, _⟩
      exact ⟨members, rfl, ⟨hall, hpaths⟩, hright⟩
  · rintro members rfl hnone
    rw [Json.get?] at hnone
    have hlast : (Json.lookup "paths" (members ++ [("paths", .object [])])).isSome = true := by
      simp [Json.lookup_append, Json.lookup]
    rw [Json.put_of_not_mem _ (Json.lookup_eq_none_iff.mp hnone)]
    simp only [Json.get?, Json.object.injEq, exists_eq_left', hasAll_append_paths_iff, allRight_paths, hlast, hnone,
      List.mem_cons, List.not_mem_nil, or_false, exists_eq_or_imp, exists_eq_left, Option.isSome_none,
      Bool.false_eq_true, false_or, and_true]
    constructor
    · rintro ⟨hall, hright, hother⟩
      exact ⟨hother, hall, hright⟩
    · rintro ⟨hother, hall, hright⟩
      exact ⟨hall, hright, hother⟩

theorem right_openapi_iff (value : Json) :
    nameViolations .nowhere Three.named "openapi" value [.key "openapi"] = [] ↔
      ∃ text, value = .string text ∧ Three.version.isFoundIn text.toList = true := by
  show keywordViolations .nowhere [.kinds [.string], .pattern Three.versionSource (.plain Three.version)] value
    [.key "openapi"] = [] ↔ _
  rw [keywordViolations_eq_nil_iff, List.forall_mem_cons, List.forall_mem_singleton, kinds_eq_nil_iff,
    admits_string_iff]
  constructor
  · rintro ⟨⟨text, rfl⟩, hpattern⟩
    exact ⟨text, rfl, (pattern_eq_nil_iff ..).mp hpattern⟩
  · rintro ⟨text, rfl, hfound⟩
    exact ⟨⟨text, rfl⟩, (pattern_eq_nil_iff ..).mpr hfound⟩

/-- A version may have a patch number. -/
theorem version_isFoundIn_patch : Three.version.isFoundIn "3.1.0".toList = true := by
  rw [Three.version, Pattern.isFoundIn_whole_iff]
  simp only [Pattern.spans_sequences_cons_iff, Pattern.spans_char_iff, Pattern.spans_optional_iff]
  refine ⟨1, ⟨rfl, rfl⟩, 2, ⟨rfl, rfl⟩, 3, ⟨rfl, '1', rfl, ?_⟩, 5, .inr ⟨4, ?_, ?_⟩, 5, .inl rfl, rfl⟩
  · rw [CharSet.contains_union]
    rfl
  · exact ⟨rfl, '.', rfl, rfl⟩
  · exact ⟨1, Nat.le_refl _, nofun, 5, ⟨rfl, '0', rfl, rfl⟩, rfl⟩

/-- The least that there is to say about a document. -/
def leastInfo : Json := .object [("title", .string "Pets"), ("version", .string "1")]

def componentMembers : List (String × Json) :=
  [("openapi", .string "3.1"), ("info", leastInfo), ("components", .object []), ("x-team", .null)]

/-- Components may stand in the place of paths, and with empty paths they may stand in version 3.0, too. -/
theorem paths_relaxed_components :
    violations .v31 (.object componentMembers) = [] ∧
      violations .v30 (.object (Json.put "paths" (.object []) componentMembers)) = [] := by
  have hfound : Three.version.isFoundIn "3.1".toList = true := by
    rw [Three.version, Pattern.isFoundIn_whole_iff]
    simp only [Pattern.spans_sequences_cons_iff, Pattern.spans_char_iff, Pattern.spans_optional_iff]
    refine ⟨1, ⟨rfl, rfl⟩, 2, ⟨rfl, rfl⟩, 3, ⟨rfl, '1', rfl, ?_⟩, 3, .inl rfl, 3, .inl rfl, rfl⟩
    rw [CharSet.contains_union]
    rfl
  have hright : AllRight Three.named componentMembers := by
    simp only [AllRight, componentMembers, List.forall_mem_cons]
    exact ⟨⟨(right_openapi_iff _).mpr ⟨_, rfl, hfound⟩, rfl⟩, ⟨rfl, rfl⟩, ⟨rfl, rfl⟩, ⟨rfl, rfl⟩, by simp⟩
  have hlater : violations .v31 (.object componentMembers) = [] :=
    (violations_v31_iff _).mpr ⟨_, rfl, by simp [HasAll, componentMembers, Json.lookup], hright, "components", by simp,
      rfl⟩
  exact ⟨hlater, (((paths_relaxed _).2 componentMembers rfl rfl).mp hlater).2⟩

/-! ## Versions -/

theorem isTwo_of_alike {value : Json}
    (h : ∃ option ∈ [Json.string "2.0", .number (.float 2.0)], alike option value = true) :
    Version.isTwo value = true := by
  obtain ⟨option, hoption, halike⟩ := h
  simp only [List.mem_cons, List.not_mem_nil, or_false] at hoption
  rcases hoption with rfl | rfl
  · cases value <;> simp [alike, alikeBy] at halike
    simp [Version.isTwo, ← halike]
  · cases value <;> simp [alike, alikeBy, numbersAlike] at halike
    rw [Version.isTwo, float_beq_comm]
    exact halike

theorem right_swagger {value : Json} {path : Json.Path} {f : Follow}
    (h : Schema.violations f (.all [.listed [.string "2.0", .number (.float 2.0)]]) value path = []) :
    Version.isTwo value = true := by
  rw [Schema.violations, keywordViolations_eq_nil_iff, List.forall_mem_singleton, listed_eq_nil_iff] at h
  exact isTwo_of_alike h

/-- A text in which the pattern of versions is found starts with 3.0 or 3.1, and behind that it ends or goes on with a
point or a dash. -/
theorem exists_of_version_found {text : List Char} (h : Three.version.isFoundIn text = true) :
    ∃ minor rest, text = '3' :: '.' :: minor :: rest ∧ (minor = '0' ∨ minor = '1') ∧
      ∀ c more, rest = c :: more → c = '.' ∨ c = '-' := by
  rw [Three.version, Pattern.isFoundIn_whole_iff] at h
  simp only [Pattern.spans_sequences_cons_iff, Pattern.spans_char_iff, Pattern.spans_optional_iff] at h
  obtain ⟨_, ⟨rfl, hthree⟩, _, ⟨rfl, hpoint⟩, _, ⟨rfl, minor, hminor, hcontains⟩, i, hpatch, j, hname, hend⟩ := h
  have hnext : text[3]? = none ∨ text[3]? = some '.' ∨ text[3]? = some '-' := by
    rcases hpatch with rfl | ⟨_, hdot, _⟩
    · rcases hname with rfl | ⟨_, hdash, _⟩
      · exact Or.inl (List.getElem?_eq_none (Nat.le_of_eq hend.symm))
      · exact Or.inr (Or.inr (Pattern.spans_char_iff.mp hdash).2)
    · exact Or.inr (Or.inl (Pattern.spans_char_iff.mp hdot).2)
  rw [CharSet.contains_union, Bool.or_eq_true, CharSet.contains_single, CharSet.contains_single] at hcontains
  obtain _ | ⟨a, _ | ⟨b, _ | ⟨c, rest⟩⟩⟩ := text
  · simp at hthree
  · simp at hpoint
  · simp at hminor
  · obtain rfl : a = '3' := by simpa using hthree
    obtain rfl : b = '.' := by simpa using hpoint
    obtain rfl : c = minor := by simpa using hminor
    refine ⟨c, rest, rfl, hcontains, ?_⟩
    rintro d more rfl
    simpa using hnext

theorem isMinor_append (minor : List Char) {rest : List Char}
    (h : ∀ c more, rest = c :: more → c = '.' ∨ c = '-') : Version.isMinor minor (minor ++ rest) = true := by
  have hprefix : minor.isPrefixOf (minor ++ rest) = true := List.isPrefixOf_iff_prefix.mpr (List.prefix_append ..)
  rw [Version.isMinor, hprefix, List.drop_left, Bool.true_and]
  cases rest with
  | nil => rfl
  | cons c more => simpa using h c more rfl

theorem ofText?_of_version_found {text : String} (h : Three.version.isFoundIn text.toList = true) :
    "3.0".toList <+: text.toList ∧ Version.ofText? text = some .v30 ∨
      "3.1".toList <+: text.toList ∧ Version.ofText? text = some .v31 := by
  obtain ⟨minor, rest, htext, rfl | rfl, hrest⟩ := exists_of_version_found h
  · have hsplit : text.toList = "3.0".toList ++ rest := htext
    refine Or.inl ⟨hsplit ▸ List.prefix_append .., ?_⟩
    rw [Version.ofText?, hsplit, isMinor_append _ hrest, if_pos rfl]
  · have hsplit : text.toList = "3.1".toList ++ rest := htext
    have hother : Version.isMinor "3.0".toList text.toList = false := by rw [htext]; rfl
    refine Or.inr ⟨hsplit ▸ List.prefix_append .., ?_⟩
    rw [Version.ofText?, hother, if_neg Bool.false_ne_true, hsplit, isMinor_append _ hrest, if_pos rfl]

theorem lookup_swagger_eq_none {members : List (String × Json)} (h : AllRight Three.named members) :
    Json.lookup "swagger" members = none := by
  rw [Option.eq_none_iff_forall_ne_some]
  intro value hvalue
  have hnot : ¬ ((∃ m ∈ Three.named, m.1 = "swagger") ∨ "x-".toList <+: "swagger".toList) := by decide
  exact hnot ((covers_extension_iff ..).mp (h _ (Json.mem_of_lookup hvalue)).2)

theorem detect_of_two {root : Json} (h : violations .v2 root = []) : Version.detect root = some .v2 := by
  obtain ⟨members, rfl, hall, hright⟩ :=
    (closedObjectWith_eq_nil_iff ..).mp ((violations_eq_nil_iff .v2 root).mp h)
  obtain ⟨value, hvalue⟩ := Option.isSome_iff_exists.mp (hall "swagger" List.mem_cons_self)
  have htwo : Version.isTwo value = true := right_swagger (hright _ (Json.mem_of_lookup hvalue)).1
  simp [Version.detect, hvalue, htwo]

theorem detect_of_three {root : Json} (h : violations .v30 root = [] ∨ violations .v31 root = []) :
    ∃ text, root.get? "openapi" = some (.string text) ∧
      ("3.0".toList <+: text.toList ∧ Version.detect root = some .v30 ∨
        "3.1".toList <+: text.toList ∧ Version.detect root = some .v31) := by
  have hshared : ∃ members, root = .object members ∧ HasAll ["openapi", "info"] members ∧
      AllRight Three.named members := by
    rw [violations_v30_iff, violations_v31_iff] at h
    rcases h with ⟨members, rfl, hall, hright⟩ | ⟨members, rfl, hall, hright, _⟩
    · exact ⟨members, rfl, ((hasAll_paths_iff members).mp hall).1, hright⟩
    · exact ⟨members, rfl, hall, hright⟩
  obtain ⟨members, rfl, hall, hright⟩ := hshared
  obtain ⟨value, hvalue⟩ := Option.isSome_iff_exists.mp (hall "openapi" List.mem_cons_self)
  obtain ⟨text, rfl, hfound⟩ := (right_openapi_iff value).mp (hright _ (Json.mem_of_lookup hvalue)).1
  refine ⟨text, hvalue, ?_⟩
  simp only [Version.detect, lookup_swagger_eq_none hright, hvalue]
  exact ofText?_of_version_found hfound

theorem exists_isThree_of_three {root : Json} (h : violations .v30 root = [] ∨ violations .v31 root = []) :
    ∃ detected, Version.detect root = some detected ∧ detected.isThree = true := by
  obtain ⟨_, _, ⟨_, hdetect⟩ | ⟨_, hdetect⟩⟩ := detect_of_three h
  · exact ⟨.v30, hdetect, rfl⟩
  · exact ⟨.v31, hdetect, rfl⟩

/-- A document that is built like those of version 2 is taken for one of that version, and one that is built like
those of a version 3 for one of the version 3 that it names. So a document with the structure of a version is
never of an unknown version, nor held to be of the other family. -/
theorem detect_of_structured (root : Json) :
    (violations .v2 root = [] → Version.detect root = some .v2) ∧
      (violations .v30 root = [] ∨ violations .v31 root = [] → ∃ text, root.get? "openapi" = some (.string text) ∧
        ("3.0".toList <+: text.toList ∧ Version.detect root = some .v30 ∨
          "3.1".toList <+: text.toList ∧ Version.detect root = some .v31)) ∧
      ∀ version, violations version root = [] →
        ∃ detected, Version.detect root = some detected ∧ detected.isThree = version.isThree := by
  refine ⟨detect_of_two, detect_of_three, ?_⟩
  intro version h
  cases version with
  | v2 => exact ⟨.v2, detect_of_two h, rfl⟩
  | v30 => exact exists_isThree_of_three (.inl h)
  | v31 => exact exists_isThree_of_three (.inr h)

/-- A version that is a number. -/
def numberedDocument : Json :=
  .object [("swagger", .number (.float 2.0)), ("info", leastInfo), ("paths", .object [])]

theorem detect_of_structured_numbered :
    violations .v2 numberedDocument = [] ∧ Version.detect numberedDocument = some .v2 := by
  have hright : violations .v2 numberedDocument = [] := rfl
  exact ⟨hright, (detect_of_structured numberedDocument).1 hright⟩

end CatalogGate.OpenApi.Structure
