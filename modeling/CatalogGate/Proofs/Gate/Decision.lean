-- The law of publishing with a ruleset: which uploads are handed over, and what becomes of the others.
import CatalogGate.Proofs.Document.Loading
import CatalogGate.Proofs.Gate.Runs
import CatalogGate.Proofs.OpenApi.Structure
import CatalogGate.Proofs.Ruleset.Diagnostics

namespace CatalogGate

/-! ## Loading -/

namespace Document

/-- Bytes that some characters encode. -/
def IsEncoded (bytes : ByteArray) : Prop := ∃ cs : List Char, bytes = cs.utf8Encode

theorem load_of_encoded {bytes : ByteArray} {cs : List Char} (name : String)
    (hsize : bytes.size < UInt32.size) (h : bytes = cs.utf8Encode) :
    load name bytes = .ok ⟨name, dropMark cs⟩ :=
  (load_eq_ok_iff name bytes _).mpr ⟨hsize, rfl, cs, h, rfl⟩

theorem load_of_not_encoded {bytes : ByteArray} (name : String) (hsize : bytes.size < UInt32.size)
    (h : ¬ IsEncoded bytes) : ∃ offset, load name bytes = .error (.notUtf8 offset) := by
  rw [load, if_neg (Nat.not_le_of_lt hsize)]
  rcases hdecode : Text.decode bytes with offset | cs
  · exact ⟨offset, rfl⟩
  · exact absurd ⟨cs, (Text.decode_eq_ok_iff bytes cs).mp hdecode⟩ h

end Document

/-! ## Publishing -/

/-- The bytes encode YAML, perhaps behind a byte order mark, of a known version, and the ruleset clears it. -/
def Ruleset.Admits (r : Ruleset) (bytes : ByteArray) : Prop :=
  ∃ (cs : List Char) (root : Json) (version : OpenApi.Version),
    bytes = cs.utf8Encode ∧ Yaml.parse (String.ofList (Document.dropMark cs)) = .ok root ∧
      OpenApi.Version.detect root = some version ∧ r.Clears version root

theorem Ruleset.Admits.isEncoded {r : Ruleset} {bytes : ByteArray} (h : r.Admits bytes) :
    Document.IsEncoded bytes := by
  obtain ⟨cs, _, _, hcs, _⟩ := h
  exact ⟨cs, hcs⟩

theorem Ruleset.admits_encode_iff (r : Ruleset) (cs : List Char) :
    r.Admits cs.utf8Encode ↔ ∃ root version,
      Yaml.parse (String.ofList (Document.dropMark cs)) = .ok root ∧
        OpenApi.Version.detect root = some version ∧ r.Clears version root := by
  constructor
  · rintro ⟨cs', root, version, hcs, hparse, hversion, hclears⟩
    obtain rfl := Text.utf8Encode_inj hcs
    exact ⟨root, version, hparse, hversion, hclears⟩
  · rintro ⟨root, version, hparse, hversion, hclears⟩
    exact ⟨cs, root, version, rfl, hparse, hversion, hclears⟩

namespace Gate

/-- A text that is decoded is always assessed, and its assessment has errors unless the ruleset admits it. -/
theorem exists_validate_of_encoded (r : Ruleset) {u : Upload} {cs : List Char}
    (hsize : u.bytes.size < UInt32.size) (hcs : u.bytes = cs.utf8Encode) :
    ∃ a, validate r.engine u = .ok (⟨u.filename, Document.dropMark cs⟩, a) ∧
      (a.hasErrors = false ↔ r.Admits u.bytes) := by
  obtain ⟨a, ha, _, herrors⟩ := Assessment.exists_ofDiagnostics_eq_ok
    (r.diagnostics_classifiable ⟨u.filename, Document.dropMark cs⟩)
  refine ⟨a, ?_, ?_⟩
  · rw [validate_eq, Document.load_of_encoded u.filename hsize hcs]
    simp only [Ruleset.engine, ha]
  · rw [← Bool.not_eq_true, herrors, Ruleset.no_failing_diagnostic_iff, hcs, Ruleset.admits_encode_iff]

theorem validate_of_not_encoded (r : Ruleset) {u : Upload} (hsize : u.bytes.size < UInt32.size)
    (h : ¬ Document.IsEncoded u.bytes) : ∃ offset, validate r.engine u = .error (.load (.notUtf8 offset)) := by
  obtain ⟨offset, hload⟩ := Document.load_of_not_encoded u.filename hsize h
  exact ⟨offset, by rw [validate_eq, hload]⟩

/-- The publisher is called exactly for what the ruleset admits. Everything else is rejected with findings,
or cannot be loaded where it is no text. -/
theorem publish_decides (r : Ruleset) (publisher : Publisher) (u : Upload)
    (hsize : u.bytes.size < UInt32.size) :
    ((publish r.engine publisher u).offered ≠ [] ↔ r.Admits u.bytes) ∧
      (¬ Document.IsEncoded u.bytes →
        ∃ offset, (publish r.engine publisher u).outcome = .error (.load (.notUtf8 offset))) ∧
      (Document.IsEncoded u.bytes → ¬ r.Admits u.bytes →
        ∃ a, (publish r.engine publisher u).outcome = .ok (.rejected a) ∧ a.findings ≠ []) := by
  unfold publish
  by_cases hencoded : Document.IsEncoded u.bytes
  · obtain ⟨cs, hcs⟩ := hencoded
    obtain ⟨a, hvalidate, hadmits⟩ := exists_validate_of_encoded r hsize hcs
    cases ha : a.hasErrors with
    | true =>
      have hnot : ¬ r.Admits u.bytes := by
        rw [← hadmits, ha]
        simp
      rw [runWith_of_rejected hvalidate ha]
      refine ⟨by simp [hnot], fun hn => absurd ⟨cs, hcs⟩ hn, fun _ _ => ?_⟩
      exact ⟨a, rfl, Assessment.findings_ne_nil_of_hasErrors ha⟩
    | false =>
      have hyes : r.Admits u.bytes := hadmits.mp ha
      rw [runWith_of_cleared hvalidate ha]
      refine ⟨by simp [hyes, handOver_offered], fun hn => absurd ⟨cs, hcs⟩ hn, fun _ hn => absurd hyes hn⟩
  · obtain ⟨offset, hvalidate⟩ := validate_of_not_encoded r hsize hencoded
    have hnot : ¬ r.Admits u.bytes := fun h => hencoded (Ruleset.Admits.isEncoded h)
    rw [runWith_of_error hvalidate]
    refine ⟨by simp [hnot], fun _ => ⟨offset, rfl⟩, fun h => absurd h hencoded⟩

/-! A rule that demands a title, a document that has one and a document that does not. -/

def titled : Ruleset :=
  ⟨none, [⟨"titled", none, none, .error, [], [⟨"$.info.title", [.key "info", .key "title"]⟩], [⟨.node, .truthy⟩]⟩]⟩

/-- A document of version 3.1 with a title as it is written. -/
def petsText (title : String) : String :=
  "openapi: 3.1.0\ninfo:\n title: " ++ title ++ "\n version: '1'\npaths: \x7b\x7d\n"

def pets (title : String) : Json :=
  .object
    [("openapi", .string "3.1.0"), ("info", .object [("title", .string title), ("version", .string "1")]),
      ("paths", .object [])]

/-- Whether a text was read as the document with a title. -/
def isPets (title : String) : Except Yaml.Error Json → Bool
  | .ok (.object [("openapi", .string "3.1.0"), ("info", .object [("title", .string found), ("version", .string "1")]),
      ("paths", .object [])]) => found = title
  | _ => false

theorem eq_pets_of_isPets {title : String} {result : Except Yaml.Error Json} (h : isPets title result = true) :
    result = .ok (pets title) := by
  unfold isPets at h
  split at h
  · rw [of_decide_eq_true h]
    rfl
  · exact nomatch h

theorem violations_pets (title : String) : OpenApi.Structure.violations .v31 (pets title) = [] := by
  open OpenApi.Structure in
  refine (violations_v31_iff _).mpr ⟨_, rfl, ?_, ?_, "paths", by simp, rfl⟩
  · simp [HasAll, Json.lookup]
  · simp only [AllRight, List.forall_mem_cons]
    exact ⟨⟨(right_openapi_iff _).mpr ⟨_, rfl, version_isFoundIn_patch⟩, rfl⟩, ⟨rfl, rfl⟩, ⟨rfl, rfl⟩, by simp⟩

/-- Behind the structure, which is right, there is only the rule. -/
theorem diagnostics_pets {title : String} {d : Document} (h : Yaml.parse (String.ofList d.text) = .ok (pets title)) :
    titled.diagnostics d = titled.ruleDiagnostics (some .v31) (pets title) (Outline.ofDocument d) := by
  have hversion : OpenApi.Version.detect (pets title) = some .v31 := rfl
  simp only [Ruleset.diagnostics, h, hversion, Ruleset.structureDiagnostics, violations_pets, List.map_nil,
    List.nil_append]

theorem admits_pets_iff {text title : String} (hmark : Document.dropMark text.toList = text.toList)
    (h : Yaml.parse (String.ofList text.toList) = .ok (pets title)) :
    titled.Admits text.toUTF8 ↔
      ¬ ∃ d ∈ titled.ruleDiagnostics (some .v31) (pets title) (Outline.ofDocument ⟨"api.yaml", text.toList⟩),
        d.FailsGate := by
  have hbytes : text.toUTF8 = text.toList.utf8Encode := String.utf8Encode_toList.symm
  rw [← diagnostics_pets (d := ⟨"api.yaml", text.toList⟩) h, Ruleset.no_failing_diagnostic_iff, hbytes,
    Ruleset.admits_encode_iff, hmark]

theorem admits_pets : titled.Admits (petsText "Pets").toUTF8 := by
  have hparse : isPets "Pets" (Yaml.parse (String.ofList (petsText "Pets").toList)) = true := by decide +kernel
  rw [admits_pets_iff (by decide) (eq_pets_of_isPets hparse)]
  rintro ⟨d, hd, _⟩
  exact nomatch hd

theorem not_admits_untitled : ¬ titled.Admits (petsText "''").toUTF8 := by
  have hparse : isPets "" (Yaml.parse (String.ofList (petsText "''").toList)) = true := by decide +kernel
  rw [admits_pets_iff (by decide) (eq_pets_of_isPets hparse), Classical.not_not]
  exact ⟨_, List.mem_singleton_self _, .inl rfl⟩

/-- A byte that stands in no text. -/
theorem not_isEncoded_ff : ¬ Document.IsEncoded ⟨#[0xff]⟩ := by
  rintro ⟨cs, hcs⟩
  have hdecode := (Text.decode_eq_ok_iff _ cs).mpr hcs
  have hchar : ByteArray.utf8DecodeChar? ⟨#[0xff]⟩ 0 = none := by decide
  rw [Text.decode, Text.decodeFrom, if_pos (by decide), hchar] at hdecode
  simp at hdecode

/-- The document with a title is handed over, the one without is rejected, and a byte that stands in no text is not
loaded. -/
theorem publish_decides_pets :
    (petsText "Pets").toUTF8.size < UInt32.size ∧ (petsText "''").toUTF8.size < UInt32.size ∧
      (⟨#[0xff]⟩ : ByteArray).size < UInt32.size ∧
      (publish titled.engine catalog ⟨"api.yaml", none, (petsText "Pets").toUTF8⟩).offered ≠ [] ∧
      (∃ a, (publish titled.engine catalog ⟨"api.yaml", none, (petsText "''").toUTF8⟩).outcome = .ok (.rejected a) ∧
        a.findings ≠ []) ∧
      ∃ offset, (publish titled.engine catalog ⟨"api.yaml", none, ⟨#[0xff]⟩⟩).outcome =
        .error (.load (.notUtf8 offset)) := by
  have hpets : (petsText "Pets").toUTF8.size < UInt32.size := by decide
  have huntitled : (petsText "''").toUTF8.size < UInt32.size := by decide
  have hbyte : (⟨#[0xff]⟩ : ByteArray).size < UInt32.size := by decide
  refine ⟨hpets, huntitled, hbyte, ?_, ?_, ?_⟩
  · exact (publish_decides titled catalog ⟨"api.yaml", none, _⟩ hpets).1.mpr admits_pets
  · exact (publish_decides titled catalog ⟨"api.yaml", none, _⟩ huntitled).2.2 ⟨_, String.utf8Encode_toList.symm⟩
      not_admits_untitled
  · exact (publish_decides titled catalog ⟨"api.yaml", none, _⟩ hbyte).2.1 not_isEncoded_ff

end Gate

end CatalogGate
