-- The law of faithful rules: what a rule reports at a path is what its function says about the value that stands there
-- in the document, wherever the path came from.
import CatalogGate.Proofs.Query.Selection
import CatalogGate.Proofs.Ruleset.Independence
import CatalogGate.Proofs.Yaml.Conversion

namespace CatalogGate

namespace Rule

/-! ## Where a field is -/

/-- Segments lead from a path to another one: each of them to an element where an array stands and the segment is a
whole number, otherwise to a member, whether it is there or not. -/
inductive Leads (root : Json) : Json.Path → List String → Json.Path → Prop
  | here (path : Json.Path) : Leads root path [] path
  | element {path place : Json.Path} {segment : String} {rest : List String} {items : List Json} {i : Nat}
      (harray : root.at? path = some (.array items)) (hcount : Text.count? segment.toList = some i)
      (h : Leads root (path ++ [.index i]) rest place) : Leads root path (segment :: rest) place
  | member {path place : Json.Path} {segment : String} {rest : List String}
      (hnot : ∀ items i, root.at? path = some (.array items) → Text.count? segment.toList ≠ some i)
      (h : Leads root (path ++ [.key segment]) rest place) : Leads root path (segment :: rest) place

/-- The path to which segments lead. -/
def pathBelow (root : Json) (path : Json.Path) : List String → Json.Path
  | [] => path
  | segment :: rest => pathBelow root (path ++ [stepFrom (root.at? path) segment]) rest

/-- The paths of a field at a node with a path, in the order of the document. -/
def Field.places (root : Json) (path : Json.Path) : Field → List Json.Path
  | .node => [path]
  | .names =>
    match root.at? path with
    | some (.object members) => (Json.names members).map fun name => path ++ [.key name]
    | _ => []
  | .below segments => [pathBelow root path segments]

/-- What stands at the path of a field: a name of a member itself, or the value in the document. -/
def Field.seen (root : Json) (path : Json.Path) : Field → Option Json
  | .names => path.getLast?.map fun step => .string step.text
  | _ => root.at? path

/-- A path is one of a field at a node with another path. -/
inductive Field.Extends (root : Json) (path : Json.Path) : Field → Json.Path → Prop
  | node : Extends root path .node path
  | name {members : List (String × Json)} {name : String} (hobject : root.at? path = some (.object members))
      (hname : name ∈ Json.names members) : Extends root path .names (path ++ [.key name])
  | below {segments : List String} {place : Json.Path} (h : Leads root path segments place) :
      Extends root path (.below segments) place

theorem stepFrom_of_array {items : List Json} {segment : String} {i : Nat}
    (h : Text.count? segment.toList = some i) : stepFrom (some (.array items)) segment = .index i := by
  simp [stepFrom, h]

theorem stepFrom_of_not {value : Option Json} {segment : String}
    (h : ∀ items i, value = some (.array items) → Text.count? segment.toList ≠ some i) :
    stepFrom value segment = .key segment := by
  unfold stepFrom
  split
  · rename_i items i hcount
    exact absurd hcount (h items i rfl)
  · rfl

theorem leads_pathBelow (root : Json) (path : Json.Path) (segments : List String) :
    Leads root path segments (pathBelow root path segments) := by
  induction segments generalizing path with
  | nil => exact .here path
  | cons segment rest ih =>
    by_cases harray : ∃ items i, root.at? path = some (.array items) ∧ Text.count? segment.toList = some i
    · obtain ⟨items, i, hat, hcount⟩ := harray
      refine .element hat hcount ?_
      rw [pathBelow, hat, stepFrom_of_array hcount]
      exact ih _
    · have hnot : ∀ items i, root.at? path = some (.array items) → Text.count? segment.toList ≠ some i :=
        fun items i hat hcount => harray ⟨items, i, hat, hcount⟩
      refine .member hnot ?_
      rw [pathBelow, stepFrom_of_not hnot]
      exact ih _

theorem leads_iff {root : Json} {path place : Json.Path} {segments : List String} :
    Leads root path segments place ↔ place = pathBelow root path segments := by
  constructor
  · intro h
    induction h with
    | here path => rfl
    | element hat hcount _ ih => rw [pathBelow, hat, stepFrom_of_array hcount, ih]
    | member hnot _ ih => rw [pathBelow, stepFrom_of_not hnot, ih]
  · rintro rfl
    exact leads_pathBelow root path segments

theorem Field.mem_places_iff {root : Json} {path place : Json.Path} {field : Field} :
    place ∈ field.places root path ↔ field.Extends root path place := by
  cases field with
  | node =>
    rw [places, List.mem_singleton]
    exact ⟨fun h => h ▸ .node, fun h => by cases h; rfl⟩
  | names =>
    constructor
    · intro h
      rw [places] at h
      split at h
      · rename_i members hat
        obtain ⟨name, hname, rfl⟩ := List.mem_map.mp h
        exact .name hat hname
      · exact absurd h List.not_mem_nil
    · rintro (_ | ⟨hat, hname⟩)
      rw [places, hat]
      exact List.mem_map.mpr ⟨_, hname, rfl⟩
  | below segments =>
    rw [places, List.mem_singleton, ← leads_iff]
    exact ⟨.below, fun h => by cases h; assumption⟩

/-! ## What a check sees -/

/-- The value at the end of a path that is followed from a node is the value there in the document. -/
theorem follow_eq (root : Json) (path : Json.Path) (segments : List String) :
    Target.follow ⟨path, root.at? path⟩ segments =
      ⟨pathBelow root path segments, root.at? (pathBelow root path segments)⟩ := by
  induction segments generalizing path with
  | nil => rfl
  | cons segment rest ih =>
    have hvalue (step : Json.Step) : (root.at? path).bind (Json.step? step) = root.at? (path ++ [step]) := by
      rw [Json.at?_append]
      congr 1
      funext value
      simp [Json.at?]
    rw [Target.follow, hvalue, ih]
    rfl

theorem Field.targets_eq {root : Json} {node : Selected} (hreached : root.at? node.path = some node.value)
    (field : Field) :
    field.targets node = (field.places root node.path).map fun path => ⟨path, field.seen root path⟩ := by
  cases field with
  | node => simp [targets, places, seen, hreached]
  | names =>
    unfold targets places
    rw [hreached]
    cases node.value with
    | object members => simp [Json.names, seen, Json.Step.text]
    | _ => rfl
  | below segments => simp [targets, places, seen, ← hreached, follow_eq]

/-- A place where a check of a rule looks. -/
structure Sight where
  check : Check
  path : Json.Path

/-- All places where a rule looks, query by query, node by node and check by check. -/
def sights (rule : Rule) (root : Json) : List Sight :=
  rule.given.flatMap fun query =>
    (query.select root).flatMap fun node =>
      rule.checks.flatMap fun check => (check.field.places root node.path).map (Sight.mk check)

/-- What is found in a document at a place where a check looks. -/
def Sight.value (s : Sight) (root : Json) : Option Json := s.check.field.seen root s.path

/-- The diagnostics of a rule at a place, one for each message. -/
def reports (rule : Rule) (level : Int) (root : Json) (outline : Outline) (s : Sight) : List Diagnostic :=
  (s.check.function.messages (s.value root) (propertyOf s.path)).map fun error =>
    { code := .name rule.name
      message := rule.messageFor error ⟨s.path, s.value root⟩
      path := s.path
      range := outline.rangeOf s.path
      level := level }

theorem mem_sights_iff {rule : Rule} {root : Json} (hnames : root.DistinctNames) {s : Sight} :
    s ∈ rule.sights root ↔ ∃ query ∈ rule.given, ∃ node, Query.Means query.selectors root node ∧
      s.check ∈ rule.checks ∧ s.check.field.Extends root node.path s.path := by
  simp only [sights, List.mem_flatMap, List.mem_map, (Query.selection_select _ hnames).mem_iff,
    Field.mem_places_iff]
  constructor
  · rintro ⟨query, hquery, node, hnode, check, hcheck, path, hpath, rfl⟩
    exact ⟨query, hquery, node, hnode, hcheck, hpath⟩
  · rintro ⟨query, hquery, node, hnode, hcheck, hpath⟩
    exact ⟨query, hquery, node, hnode, s.check, hcheck, s.path, hpath, rfl⟩

theorem checkNode_eq {root : Json} {node : Selected} (hreached : root.at? node.path = some node.value) (rule : Rule)
    (level : Int) (outline : Outline) (check : Check) :
    rule.checkNode level outline node check =
      ((check.field.places root node.path).map (Sight.mk check)).flatMap (rule.reports level root outline) := by
  rw [checkNode, Field.targets_eq hreached, List.flatMap_map, List.flatMap_map]
  rfl

theorem diagnostics_eq_reports {rule : Rule} {level : Int} (hlevel : rule.importance.level? = some level)
    {root : Json} (hnames : root.DistinctNames) (outline : Outline) :
    rule.diagnostics root outline = (rule.sights root).flatMap (rule.reports level root outline) := by
  simp only [diagnostics, hlevel, sights, List.flatMap_assoc]
  apply List.flatMap_congr
  intro query _
  apply List.flatMap_congr
  intro node hnode
  -- The node is in the document where its path says.
  have hmeans := ((Query.selection_select query hnames).mem_iff node).mp hnode
  apply List.flatMap_congr
  intro check _
  exact checkNode_eq hmeans.reached rule level outline check

theorem share_eq_reports {rule : Rule} {level : Int} {d : Document} {root : Json}
    (hparse : Yaml.parse (String.ofList d.text) = .ok root) (hlevel : rule.importance.level? = some level)
    (happlies : rule.appliesTo (OpenApi.Version.detect root) = true) :
    rule.share d = (rule.sights root).flatMap (rule.reports level root (Outline.ofDocument d)) := by
  have henabled : rule.isEnabled = true := (isEnabled_iff rule).mpr ⟨level, hlevel⟩
  simp only [share, hparse, henabled, happlies, Bool.and_self, if_true]
  exact diagnostics_eq_reports hlevel (Yaml.distinctNames_of_parse hparse) _

end Rule

/-! ## The law -/

/-- A rule reports, at every place where one of its checks looks, what the function of the check says about the value
there in the document; and these places are the paths of the fields of its checks at the nodes that its queries mean. -/
theorem Ruleset.diagnostics_faithful {d : Document} {root : Json}
    (hparse : Yaml.parse (String.ofList d.text) = .ok root) {rule : Rule} {level : Int}
    (hlevel : rule.importance.level? = some level)
    (happlies : rule.appliesTo (OpenApi.Version.detect root) = true) :
    (∀ source (a b : List Rule), diagnostics ⟨source, a ++ rule :: b⟩ d =
      (ofRules a).diagnostics d ++
        (rule.sights root).flatMap (rule.reports level root (Outline.ofDocument d)) ++ found b d) ∧
    ∀ s, s ∈ rule.sights root ↔ ∃ query ∈ rule.given, ∃ node, Query.Means query.selectors root node ∧
      s.check ∈ rule.checks ∧ s.check.field.Extends root node.path s.path := by
  constructor
  · intro source a b
    rw [diagnostics_append, ← List.singleton_append, found_append, found_single,
      Rule.share_eq_reports hparse hlevel happlies, List.append_assoc]
  · intro s
    exact Rule.mem_sights_iff (Yaml.distinctNames_of_parse hparse)

/-! A path into an array that ends where nothing is, and the name of a member. -/

namespace Ruleset

def listText : String := "a:\n  - b: x\n"

def listRoot : Json := .object [("a", .array [.object [("b", .string "x")]])]

def listRule : Rule where
  name := "list"
  description := none
  message := some "\x7b\x7berror\x7d\x7d at \x7b\x7bpath\x7d\x7d"
  importance := .hint
  formats := []
  given := [⟨"$", []⟩]
  checks := [⟨.below ["a", "0", "c"], .defined⟩, ⟨.names, .falsy⟩]

/-- Whether a text was read as a list with one object. -/
def isList : Except Yaml.Error Json → Bool
  | .ok (.object [("a", .array [.object [("b", .string "x")]])]) => true
  | _ => false

theorem parse_listText : Yaml.parse (String.ofList listText.toList) = .ok listRoot := by
  have hread : isList (Yaml.parse (String.ofList listText.toList)) = true := by decide +kernel
  unfold isList at hread
  split at hread
  · assumption
  · exact nomatch hread

/-- What the rule reports, with the ranges of an outline. -/
def listDiagnostics (outline : Outline) : List Diagnostic :=
  [⟨.name "list", "\"c\" property must be defined at a.0.c", [.key "a", .index 0, .key "c"],
      outline.rangeOf [.key "a", .index 0, .key "c"], 3⟩,
    ⟨.name "list", "\"a\" property must be falsy at a", [.key "a"], outline.rangeOf [.key "a"], 3⟩]

theorem reports_listRule (outline : Outline) :
    (listRule.sights listRoot).flatMap (listRule.reports 3 listRoot outline) = listDiagnostics outline := by
  rfl

theorem diagnostics_faithful_list :
    Yaml.parse (String.ofList listText.toList) = .ok listRoot ∧ listRule.importance.level? = some 3 ∧
      listRule.appliesTo (OpenApi.Version.detect listRoot) = true ∧
      diagnostics ⟨none, [listRule]⟩ ⟨"list.yaml", listText.toList⟩ =
        (ofRules []).diagnostics ⟨"list.yaml", listText.toList⟩ ++
          listDiagnostics (Outline.ofDocument ⟨"list.yaml", listText.toList⟩) := by
  refine ⟨parse_listText, rfl, rfl, ?_⟩
  have hlevel : listRule.importance.level? = some 3 := rfl
  have hfound := (diagnostics_faithful (d := ⟨"list.yaml", listText.toList⟩) parse_listText hlevel rfl).1 none [] []
  rw [reports_listRule, found_eq_share, List.flatMap_nil, List.append_nil] at hfound
  exact hfound

end Ruleset

end CatalogGate
