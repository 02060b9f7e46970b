-- What the texts of the schemas mean. Wherever the text of a version is the document at home, the schema that is read
-- from it says about every value what the structure of that version says. The levels in the statements count how far
-- parts and references go down.
import CatalogGate.OpenApi.SchemaText
import CatalogGate.OpenApi.Structure
import CatalogGate.Proofs.Pattern.Pieces
import CatalogGate.Proofs.Schema.References
import CatalogGate.Proofs.Schema.Registry
import Mathlib

namespace CatalogGate.OpenApi.SchemaText

open Schema

variable {o : Origin} {n : Nat}

/-! ## Expressions -/

/-- The pattern as which an expression is found, if it can be found as one. -/
def patternOf? (source : String) : Option Pattern :=
  match Pattern.Search.read? source.toList with
  | some (.plain p) => some p
  | _ => none

theorem read?_of_patternOf? {source : String} {p : Pattern} (h : patternOf? source = some p) :
    Pattern.Search.read? source.toList = some (.plain p) := by
  unfold patternOf? at h
  split at h
  · next hread => rw [hread, Option.some.inj h]
  · cases h

theorem read_extension : Pattern.Search.read? "^x-".toList = some (.plain (.startingWith "x-")) :=
  read?_of_patternOf? (by decide +kernel)

theorem read_slash : Pattern.Search.read? "^/".toList = some (.plain (.startingWith "/")) :=
  read?_of_patternOf? (by decide +kernel)

theorem Two.read_status : Pattern.Search.read? Two.statusSource.toList = some (.plain Structure.Two.status) :=
  read?_of_patternOf? (by decide +kernel)

theorem Three.read_status : Pattern.Search.read? Three.statusSource.toList = some (.plain Structure.Three.status) :=
  read?_of_patternOf? (by decide +kernel)

/-- What a host name is made of, without the ends of the text. -/
def Two.hostPieces : List Pattern :=
  [.several (.one (.complement (.unions
      [.single '\x7b', .single '\x7d', .single '/', .single ' ', .single ':', .single '\\']))),
    .optional (.sequence (.char ':') (.several Structure.digit))]

/-- What a version is made of, without the ends of the text. -/
def Three.versionPieces : List Pattern :=
  [.char '3', .char '.', .one (.union (.single '0') (.single '1')),
    .optional (.sequence (.char '.') (.several Structure.digit)),
    .optional (.sequence (.char '-') (.several (.one (.complement (.single '\n')))))]

/-- Pieces with the ends of a text around them: so the expressions are read, while `whole` keeps the pieces together. -/
def bounded (pieces : List Pattern) : Pattern :=
  .sequences (.boundary .textStart :: (pieces ++ [.boundary .textEnd]))

set_option maxRecDepth 100000 in
theorem Two.read_host : Pattern.Search.read? Two.hostSource.toList = some (.plain (bounded Two.hostPieces)) := by cbv

set_option maxRecDepth 100000 in
theorem Three.read_version :
    Pattern.Search.read? Three.versionSource.toList = some (.plain (bounded Three.versionPieces)) := by cbv

/-! ## Parts -/

@[simp] theorem means_anyString : Means o (n + 1) anyString Structure.anyString :=
  .object ⟨rfl, rfl⟩ rfl (.cons (.type .string) .nil)

@[simp] theorem means_anyBoolean : Means o (n + 1) anyBoolean Structure.anyBoolean :=
  .object ⟨rfl, rfl⟩ rfl (.cons (.type .boolean) .nil)

@[simp] theorem means_anyArray : Means o (n + 1) anyArray Structure.anyArray :=
  .object ⟨rfl, rfl⟩ rfl (.cons (.type .array) .nil)

@[simp] theorem means_anyObject : Means o (n + 1) anyObject Structure.anyObject :=
  .object ⟨rfl, rfl⟩ rfl (.cons (.type .object) .nil)

@[simp] theorem means_anything : Means o (n + 1) anything .anything :=
  (Means.object ⟨rfl, rfl⟩ rfl .nil).trans fun _ _ => rfl

@[simp] theorem means_choice (options : List String) : Means o (n + 1) (choice options) (Structure.choice options) :=
  .object ⟨rfl, rfl⟩ rfl (.cons (.enum _) .nil)

@[simp] theorem means_objectWith (names : List String) :
    Means o (n + 1) (objectWith names) (Structure.objectWith names) :=
  .object ⟨rfl, rfl⟩ rfl (.cons (.type .object) (.cons (.required names) .nil))

@[simp] theorem means_requiring (name : String) : Means o (n + 1) (requiring name) (.all [.required [name]]) :=
  .object ⟨rfl, rfl⟩ rfl (.cons (.required [name]) .nil)

theorem means_patterned {source : String} {p q : Pattern}
    (hread : Pattern.Search.read? source.toList = some (.plain p))
    (hsame : ∀ text : List Char, p.isFoundIn text = q.isFoundIn text) :
    Means o (n + 1) (patterned source) (.all [.kinds [.string], .pattern source (.plain q)]) :=
  .object ⟨rfl, rfl⟩ rfl (.cons (.type .string) (.cons (.pattern hread hsame) .nil))

theorem means_arrayOf {v : Json} {t : Schema} (h : Means o n v t) :
    Means o (n + 1) (arrayOf v) (Structure.arrayOf t) :=
  .object ⟨rfl, rfl⟩ rfl (.cons (.type .array) (.cons (.items rfl h) .nil))

/-! ## Objects -/

theorem means_extension : PatternsMean o (n + 1) [extension] [Structure.extension] :=
  .cons ⟨read_extension, means_anything⟩ .nil

/-- Certain members and extensions, among other keywords. -/
theorem mean_members {siblings more : List (String × Json)} {named : List (String × Json)}
    {named' : List (String × Schema)} {ks : List Keyword}
    (hnamed : Json.lookup "properties" siblings = some (.object named))
    (hpatterns : Json.lookup "patternProperties" siblings = some (.object [extension]))
    (hothers : Json.lookup "additionalProperties" siblings = some (.bool false))
    (h : MembersMean o (n + 1) named named') (hmore : KeywordsMean o (n + 1) siblings more ks) :
    KeywordsMean o (n + 1) siblings (members named ++ more) (Structure.members named' :: ks) := by
  have hrestricts : Reader.restrictsOthers siblings = true := by rw [Reader.restrictsOthers, hothers]
  exact .cons (.restricted (.inl rfl) hrestricts) (.cons (.restricted (.inr rfl) hrestricts)
    (.cons (.closed (.inl hnamed) hpatterns h means_extension) hmore))

theorem means_closedObject {named : List (String × Json)} {named' : List (String × Schema)}
    (h : MembersMean o (n + 1) named named') :
    Means o (n + 2) (closedObject named) (Structure.closedObject named') :=
  .object ⟨rfl, rfl⟩ rfl (.cons (.type .object) (mean_members rfl rfl rfl h .nil))

theorem means_closedObjectWith (names : List String) {named : List (String × Json)} {named' : List (String × Schema)}
    (h : MembersMean o (n + 1) named named') :
    Means o (n + 2) (closedObjectWith names named) (Structure.closedObjectWith names named') :=
  .object ⟨rfl, rfl⟩ rfl (.cons (.type .object) (.cons (.required names) (mean_members rfl rfl rfl h .nil)))

/-- Members whose names match an expression, and extensions, among other keywords. -/
theorem mean_matching {siblings : List (String × Json)} {source : String} {p : Pattern} {v : Json} {t : Schema}
    (hnamed : Json.lookup "properties" siblings = none)
    (hpatterns : Json.lookup "patternProperties" siblings = some (.object [(source, v), extension]))
    (hothers : Json.lookup "additionalProperties" siblings = some (.bool false))
    (hsource : Pattern.Search.read? source.toList = some (.plain p)) (h : Means o (n + 1) v t) :
    KeywordsMean o (n + 1) siblings (matching source v) [.closed [] [(.plain p, t), Structure.extension]] := by
  have hrestricts : Reader.restrictsOthers siblings = true := by rw [Reader.restrictsOthers, hothers]
  exact .cons (.restricted (.inr rfl) hrestricts)
    (.cons (.closed (.inr ⟨hnamed, rfl⟩) hpatterns .nil (.cons ⟨hsource, h⟩ means_extension)) .nil)

theorem means_pathsOf {v : Json} {t : Schema} (h : Means o (n + 1) v t) :
    Means o (n + 2) (pathsOf v) (Structure.pathsOf t) :=
  .object ⟨rfl, rfl⟩ rfl (.cons (.type .object) (mean_matching rfl rfl rfl read_slash h))

theorem means_responsesOf {source : String} {p : Pattern} {v : Json} {t : Schema}
    (hsource : Pattern.Search.read? source.toList = some (.plain p)) (h : Means o (n + 1) v t) :
    Means o (n + 2) (responsesOf source v)
      (.all [.kinds [.object], .minMembers 1, .closed [] [(.plain p, t), Structure.extension]]) :=
  .object ⟨rfl, rfl⟩ rfl
    (.cons (.type .object) (.cons (.minProperties 1) (mean_matching rfl rfl rfl hsource h)))

theorem mean_each {v : Json} {t : Schema} (names : List String) (h : Means o n v t) :
    MembersMean o n (each names v) (Structure.each names t) := by
  induction names with
  | nil => exact .nil
  | cons name names ih => exact .cons ⟨rfl, h⟩ ih

theorem mean_append {members more : List (String × Json)} {named others : List (String × Schema)}
    (h : MembersMean o n members named) (hmore : MembersMean o n more others) :
    MembersMean o n (members ++ more) (named ++ others) :=
  List.rel_append h hmore

theorem means_objectOf (names : List String) {named : List (String × Json)} {named' : List (String × Schema)}
    (h : MembersMean o n named named') :
    Means o (n + 1) (typed "object" [("required", texts names), ("properties", .object named)])
      (.all [.kinds [.object], .required names, .named named']) :=
  .object ⟨rfl, rfl⟩ rfl (.cons (.type .object) (.cons (.required names) (.cons (.properties rfl h) .nil)))

theorem means_document {title : String} (names : List String) {named definitions : List (String × Json)}
    {named' : List (String × Schema)} (h : MembersMean o (n + 1) named named') :
    Means o (n + 2) (document title names named definitions) (Structure.closedObjectWith names named') :=
  .object ⟨rfl, rfl⟩ rfl
    (.cons (.silent (by simp)) (.cons (.silent (by simp)) (.cons (.type .object) (.cons (.required names)
      (mean_members rfl rfl rfl h (.cons (.silent (by simp)) .nil))))))

/-- The edit: other members are required, and one of several comes at the end. -/
theorem means_relaxedDocument {title : String} {names : List String} {named definitions : List (String × Json)}
    {named' : List (String × Schema)} (h : MembersMean o (n + 1) named named') :
    Means o (n + 2) (relaxed (document title names named definitions))
      (.all
        [.kinds [.object], .required ["openapi", "info"], Structure.members named',
          .anyOf [.all [.required ["paths"]], .all [.required ["components"]], .all [.required ["webhooks"]]]]) := by
  have hedit : relaxed (document title names named definitions) = .object
      ([("$schema", .string "http://json-schema.org/draft-07/schema#"), ("title", .string title),
          ("type", .string "object"), ("required", texts ["openapi", "info"])]
        ++ (members named ++ [("definitions", .object definitions),
          ("anyOf", .array [requiring "paths", requiring "components", requiring "webhooks"])])) := rfl
  rw [hedit]
  exact .object ⟨rfl, rfl⟩ rfl
    (.cons (.silent (by simp)) (.cons (.silent (by simp)) (.cons (.type .object) (.cons (.required _)
      (mean_members rfl rfl rfl h (.cons (.silent (by simp)) (.cons
        (.anyOf (.cons (means_requiring _) (.cons (means_requiring _) (.cons (means_requiring _) .nil))))
        .nil)))))))

/-! ## Definitions -/

def definedNames : List String :=
  ["info", "server", "paths", "pathItem", "operation", "responses", "responseOrReference", "parameterOrReference",
    "components", "tag", "externalDocs", "reference"]

theorem isDefinable_of_mem (name : String) (hname : name ∈ definedNames) : IsDefinable name := by
  have h : ∀ name ∈ definedNames,
      (Registry.beside Registry.home ("#/definitions/" ++ name).toList).isOk = true ∧
        (Registry.tokens ("/definitions/" ++ name).toList).toOption = some ["definitions".toList, name.toList] ∧
        Json.Pointer.unescape name.toList = name.toList := by
    decide +kernel
  obtain ⟨hidentifier, htokens, hunescaped⟩ := h name hname
  exact ⟨exists_of_isOk hidentifier, eq_ok_of_toOption htokens, hunescaped⟩

/-- A registry that holds certain definitions, and is large enough for all their references to be followed. -/
structure IsReadable (o : Origin) (definitions : List (String × Json)) : Prop where
  defines : Defines o definitions
  room : 20 ≤ o.fuel

/-- A reference to a definition that is no further than a number of levels from what it needs. -/
theorem IsReadable.means {definitions : List (String × Json)} (ho : IsReadable o definitions) (k : Nat) {v : Json}
    {t : Schema} {name : String} (h : Means o k v t) (hk : k ≤ 20) (hname : name ∈ definedNames)
    (hv : Json.lookup name definitions = some v) (hother : v.get? "$ref" = none) :
    Means o (n + (k + 1)) (defined name) t :=
  (h.definition (Nat.le_trans hk ho.room) ho.defines (isDefinable_of_mem name hname) hv hother).mono (by omega)

/-! ## Version 2 -/

namespace Two

theorem means_host : Means o (n + 1) (patterned hostSource)
    (.all [.kinds [.string], .pattern Structure.Two.hostSource (.plain Structure.Two.host)]) :=
  means_patterned read_host (Pattern.isFoundIn_bounded hostPieces)

theorem means_basePath : Means o (n + 1) (patterned "^/")
    (.all [.kinds [.string], .pattern "^/" (.plain (.startingWith "/"))]) :=
  means_patterned read_slash fun _ => rfl

theorem means_swagger : Means o (n + 1) (.object [("enum", .array [.string "2.0", .number (.float 2.0)])])
    (.all [.listed [.string "2.0", .number (.float 2.0)]]) :=
  .object ⟨rfl, rfl⟩ rfl (.cons (.enum _) .nil)

theorem means_info : Means o (n + 3) info Structure.Two.info :=
  means_closedObjectWith _ (by simp [license, Structure.Two.license])

theorem means_operation : Means o (n + 4) operation Structure.Two.operation :=
  means_objectOf _ (by
    simp only [membersMean_cons, membersMean_nil, and_true, true_and]
    exact means_responsesOf read_status means_anyObject)

section

variable (ho : IsReadable o definitions)
include ho

theorem means_definedOperation : Means o (n + 5) (defined "operation") Structure.Two.operation :=
  ho.means 4 means_operation (by decide) (by decide) rfl rfl

theorem means_pathItem : Means o (n + 6) pathItem Structure.Two.pathItem :=
  means_closedObject (mean_append (by simp) (mean_each _ (means_definedOperation ho)))

theorem means_definedPathItem : Means o (n + 7) (defined "pathItem") Structure.Two.pathItem :=
  ho.means 6 (means_pathItem ho) (by decide) (by decide) rfl rfl

theorem means_schema : Means o (n + 9) schema Structure.Two.document :=
  means_document _ (by
    simp [named, means_swagger, means_host, means_basePath, means_info, means_arrayOf,
      means_pathsOf (means_definedPathItem ho)])

end

end Two

/-! ## Version 3 -/

namespace Three

theorem means_openapi : Means o (n + 1) (patterned versionSource)
    (.all [.kinds [.string], .pattern Structure.Three.versionSource (.plain Structure.Three.version)]) :=
  means_patterned read_version (Pattern.isFoundIn_bounded versionPieces)

theorem means_contact : Means o (n + 2) contact Structure.Three.contact :=
  means_closedObject (by simp)

theorem means_license : Means o (n + 2) license Structure.Three.license :=
  means_closedObjectWith _ (by simp)

theorem means_info : Means o (n + 3) info Structure.Three.info :=
  means_closedObjectWith _ (by simp [means_contact, means_license])

theorem means_serverVariable : Means o (n + 3) serverVariable Structure.Three.serverVariable :=
  means_objectOf _ (by simp [means_arrayOf])

theorem means_server : Means o (n + 5) server Structure.Three.server := by
  have hvariables : Means o (n + 4) (typed "object" [("additionalProperties", serverVariable)])
      (.all [.kinds [.object], .members [] [] Structure.Three.serverVariable]) :=
    .object ⟨rfl, rfl⟩ rfl (.cons (.type .object) (.cons (.others rfl rfl means_serverVariable) .nil))
  exact means_closedObjectWith _ (by simp [hvariables])

theorem means_externalDocs : Means o (n + 2) externalDocs Structure.Three.externalDocs :=
  means_closedObjectWith _ (by simp)

theorem means_reference : Means o (n + 2) reference Structure.Three.reference :=
  means_objectOf _ (by simp)

theorem means_components : Means o (n + 2) components Structure.Three.components :=
  means_closedObject (mean_each _ means_anyObject)

section

variable (ho : IsReadable o definitions)
include ho

theorem means_definedInfo : Means o (n + 4) (defined "info") Structure.Three.info :=
  ho.means 3 means_info (by decide) (by decide) rfl rfl

theorem means_definedServer : Means o (n + 6) (defined "server") Structure.Three.server :=
  ho.means 5 means_server (by decide) (by decide) rfl rfl

theorem means_definedExternalDocs : Means o (n + 3) (defined "externalDocs") Structure.Three.externalDocs :=
  ho.means 2 means_externalDocs (by decide) (by decide) rfl rfl

theorem means_definedReference : Means o (n + 3) (defined "reference") Structure.Three.reference :=
  ho.means 2 means_reference (by decide) (by decide) rfl rfl

theorem means_definedComponents : Means o (n + 3) (defined "components") Structure.Three.components :=
  ho.means 2 means_components (by decide) (by decide) rfl rfl

theorem means_tag : Means o (n + 4) tag Structure.Three.tag :=
  means_closedObjectWith _ (by simp [means_definedExternalDocs ho])

theorem means_definedTag : Means o (n + 5) (defined "tag") Structure.Three.tag :=
  ho.means 4 (means_tag ho) (by decide) (by decide) rfl rfl

theorem means_orReference {own : List (String × Json)} {ks : List Keyword}
    (h : Means o (n + 3) (.object own) (.all ks)) :
    Means o (n + 4) (orReference own) (Structure.Three.orReference ks) :=
  .object ⟨rfl, rfl⟩ rfl
    (.cons (.type .object) (.cons (.conditional rfl rfl (means_requiring "$ref") (means_definedReference ho) h)
      (.cons (.silent (by simp)) (.cons (.silent (by simp)) .nil))))

theorem means_response : Means o (n + 4) response Structure.Three.response :=
  means_orReference ho (.object ⟨rfl, rfl⟩ rfl (.cons (.required _) (mean_members rfl rfl rfl (by simp) .nil)))

theorem means_definedResponse : Means o (n + 5) (defined "responseOrReference") Structure.Three.response :=
  ho.means 4 (means_response ho) (by decide) (by decide) rfl rfl

theorem means_parameter : Means o (n + 4) parameter Structure.Three.parameter :=
  means_orReference ho (.object ⟨rfl, rfl⟩ rfl (.cons (.required _) (mean_members rfl rfl rfl (by simp) .nil)))

theorem means_definedParameter : Means o (n + 5) (defined "parameterOrReference") Structure.Three.parameter :=
  ho.means 4 (means_parameter ho) (by decide) (by decide) rfl rfl

theorem means_responses :
    Means o (n + 6) (responsesOf statusSource (defined "responseOrReference")) Structure.Three.responses :=
  means_responsesOf read_status (means_definedResponse ho)

theorem means_definedResponses : Means o (n + 7) (defined "responses") Structure.Three.responses :=
  ho.means 6 (means_responses ho) (by decide) (by decide) rfl rfl

theorem means_operation : Means o (n + 8) operation Structure.Three.operation :=
  means_closedObjectWith _ (by
    simp [means_arrayOf, means_definedExternalDocs ho, means_definedParameter ho, means_definedResponses ho,
      means_definedServer ho])

theorem means_definedOperation : Means o (n + 9) (defined "operation") Structure.Three.operation :=
  ho.means 8 (means_operation ho) (by decide) (by decide) rfl rfl

theorem means_pathItem : Means o (n + 10) pathItem Structure.Three.pathItem :=
  means_closedObject (mean_append (by simp [means_arrayOf, means_definedParameter ho, means_definedServer ho])
    (mean_each _ (means_definedOperation ho)))

theorem means_definedPathItem : Means o (n + 11) (defined "pathItem") Structure.Three.pathItem :=
  ho.means 10 (means_pathItem ho) (by decide) (by decide) rfl rfl

theorem means_definedPaths :
    Means o (n + 13) (defined "paths") (Structure.pathsOf Structure.Three.pathItem) :=
  ho.means 12 (means_pathsOf (means_definedPathItem ho)) (by decide) (by decide) rfl rfl

theorem mean_named : MembersMean o (n + 14) named Structure.Three.named := by
  simp [named, Structure.Three.named, means_openapi, means_arrayOf, means_definedInfo ho, means_definedServer ho,
    means_definedPaths ho, means_definedComponents ho, means_definedTag ho, means_definedExternalDocs ho]

theorem means_schema : Means o (n + 15) schema Structure.Three.document :=
  means_document _ (mean_named ho)

theorem means_relaxed : Means o (n + 15) (relaxed schema) Structure.Three.laterDocument :=
  means_relaxedDocument (mean_named ho)

end

end Three

/-! ## All versions -/

def definitionsOf : Version → List (String × Json)
  | .v2 => Two.definitions
  | .v30 => Three.definitions
  | .v31 => Three.definitions

theorem get?_definitions (version : Version) :
    (ofVersion version).get? "definitions" = some (.object (definitionsOf version)) := by
  cases version <;> rfl

theorem means_ofVersion (version : Version) (ho : IsReadable o (definitionsOf version)) :
    Means o 15 (ofVersion version) (Structure.ofVersion version) := by
  cases version with
  | v2 => exact (Two.means_schema ho : Means o (6 + 9) _ _)
  | v30 => exact Three.means_schema ho
  | v31 => exact Three.means_relaxed ho

theorem twenty_le_size (version : Version) : 20 ≤ (ofVersion version).size := by
  cases version <;> decide +kernel

theorem twenty_le_registry {version : Version}
    (hhome : o.registry.resource? Registry.home = some ⟨ofVersion version, .draft7⟩) : 20 ≤ o.registry.size :=
  Nat.le_trans (twenty_le_size version) (Registry.size_le hhome)

theorem isReadable_of_home {version : Version}
    (hhome : o.registry.resource? Registry.home = some ⟨ofVersion version, .draft7⟩) :
    IsReadable o (definitionsOf version) where
  defines := ⟨_, hhome, get?_definitions version⟩
  room := Nat.le_trans (twenty_le_registry hhome)
    (Nat.le_trans (Nat.le_succ _) (Nat.le_mul_of_pos_left _ (Nat.succ_pos _)))

/-- From a registry in which the schema text of a version is the document at home, a schema is read that says about every
document what the structure of that version says. -/
theorem read_ofVersion {version : Version}
    (hhome : o.registry.resource? Registry.home = some ⟨ofVersion version, .draft7⟩) :
    ∃ s, o.read ⟨ofVersion version, Registry.home, [], .draft7, true⟩ = .ok s ∧
      ∀ root, o.violations s root = Schema.violations .nowhere (Structure.ofVersion version) root [] := by
  have ho := isReadable_of_home hhome
  obtain ⟨s, known, hrun, hs⟩ := (means_ofVersion version ho).reads
    ⟨ofVersion version, Registry.home, [], .draft7, true⟩ ⟨rfl, rfl, rfl⟩ rfl o.fuel
    (Nat.le_trans (by decide) ho.room) []
  refine ⟨s, ?_, fun root => hs _ ?_ root []⟩
  · rw [Origin.read, hrun]
    rfl
  · have hsize := twenty_le_registry hhome
    calc 15 ≤ 1 * (o.registry.size + 1) := by omega
      _ ≤ (root.depth + 1) * (o.registry.size + 1) := Nat.mul_le_mul_right _ (Nat.le_add_left ..)

theorem isNameless_ofVersion (version : Version) : Registry.IsNameless (ofVersion version) := by
  have h : Registry.isNameless 10 (ofVersion version) = true := by cases version <;> decide +kernel
  exact Registry.isNameless_sound h

/-- What is wrong with the structure of a document is what is wrong with it by the schema that the text of its version
writes. -/
theorem violations_of_ofJson {version : Version} {w : Whole} (h : Whole.ofJson (ofVersion version) = .ok w)
    (root : Json) :
    Structure.violations version root = (w.violations root).map fun violation =>
      (Json.Pointer.toPath root (Json.Pointer.ofPath violation.path), violation.message) := by
  have hplain : IsPlain (ofVersion version) := by cases version <;> exact ⟨rfl, rfl⟩
  have hedition : Registry.editionOf .of2020 (ofVersion version) = .ok .draft7 := by cases version <;> rfl
  obtain ⟨hhome, hread⟩ := Whole.of_ofJson (isNameless_ofVersion version) hedition hplain h
  obtain ⟨s, hs, hviolations⟩ := read_ofVersion hhome
  cases hs.symm.trans hread
  rw [Structure.violations, Whole.violations, hviolations]

end CatalogGate.OpenApi.SchemaText
