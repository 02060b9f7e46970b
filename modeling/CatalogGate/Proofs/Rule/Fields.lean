-- The law of fields below a node: a check that follows names from the nodes of a query sees all that the query selects
-- which goes on with these names, and besides only the nodes below which that query selects nothing.
import CatalogGate.Proofs.Ruleset.Faithfulness

namespace CatalogGate

namespace Json

/-- The path that names lead along. -/
def Path.ofNames (names : List String) : Path := names.map .key

end Json

/-! ## Queries that go on with names -/

namespace Selector

theorem apply_key (name : String) (value : Json) :
    (key name).apply value = ((Json.step? (.key name) value).map (Prod.mk (.key name))).toList := by
  cases value <;> rfl

end Selector

namespace Query

/-- The values at the end of a path below nodes. Nodes below which there is none are left out. -/
def descend (nodes : List Selected) (path : Json.Path) : List Selected :=
  nodes.filterMap fun node => (node.value.at? path).map (Selected.mk (node.path ++ path))

theorem descend_nil (nodes : List Selected) : descend nodes [] = nodes := by
  simp [descend, Json.at?]

theorem descend_cons (nodes : List Selected) (step : Json.Step) (path : Json.Path) :
    descend nodes (step :: path) = descend (descend nodes [step]) path := by
  rw [descend, descend, descend, List.filterMap_filterMap]
  congr 1
  funext node
  cases h : Json.step? step node.value <;> simp [Json.at?, h]

theorem advance_key (nodes : List Selected) (name : String) : advance nodes (.key name) = descend nodes [.key name] := by
  rw [advance, descend, List.filterMap_eq_flatMap_toList]
  congr 1
  funext node
  cases h : Json.step? (.key name) node.value <;> simp [Selector.apply_key, Json.at?, h]

theorem foldl_advance_keys (nodes : List Selected) (names : List String) :
    (names.map Selector.key).foldl advance nodes = descend nodes (.ofNames names) := by
  induction names generalizing nodes with
  | nil => exact (descend_nil nodes).symm
  | cons name names ih =>
    rw [List.map_cons, List.foldl_cons, ih, advance_key]
    exact (descend_cons nodes _ _).symm

/-- One query goes on where another one ends, with names. -/
def Continues (longer q : Query) (names : List String) : Prop :=
  longer.selectors = q.selectors ++ names.map .key

theorem Continues.select_eq {longer q : Query} {names : List String} (h : longer.Continues q names) (root : Json) :
    longer.select root = descend (q.select root) (.ofNames names) := by
  rw [select, h, List.foldl_append, foldl_advance_keys]
  rfl

/-- A selected node lies below one node only. -/
theorem eq_of_prefix {q : Query} {root : Json} (hnames : root.DistinctNames) {node other : Selected}
    (hnode : node ∈ q.select root) (hother : other ∈ q.select root) {path : Json.Path}
    (hfront : node.path <+: other.path ++ path) : node = other := by
  have hmeans := ((selection_select q hnames).mem_iff node).mp hnode
  have hmeans' := ((selection_select q hnames).mem_iff other).mp hother
  have hlength : node.path.length = other.path.length := hmeans.length.trans hmeans'.length.symm
  have hpath : node.path = other.path :=
    (List.prefix_of_prefix_length_le hfront (List.prefix_append _ _) hlength.le).eq_of_length hlength
  obtain ⟨_, value⟩ := node
  obtain ⟨_, value'⟩ := other
  obtain rfl : _ = _ := hpath
  obtain rfl := Option.some.inj (hmeans.reached.symm.trans hmeans'.reached)
  rfl

end Query

namespace Rule

/-! ## Fields that follow names -/

/-- Segments that are no whole numbers lead from member to member. -/
theorem follow_names {segments : List String} (h : ∀ segment ∈ segments, Text.count? segment.toList = none)
    (path : Json.Path) (value : Option Json) :
    Target.follow ⟨path, value⟩ segments =
      ⟨path ++ .ofNames segments, value.bind (Json.at? (.ofNames segments))⟩ := by
  induction segments generalizing path value with
  | nil => simp [Target.follow, Json.Path.ofNames, Json.at?]
  | cons segment rest ih =>
    obtain ⟨hcount, hrest⟩ := List.forall_mem_cons.mp h
    have hstep : stepFrom value segment = .key segment := stepFrom_of_not fun _ _ _ => by simp [hcount]
    rw [Target.follow, hstep, ih hrest, Option.bind_assoc, List.append_assoc]
    rfl

/-- The node that a target is, if something stands there. -/
def Target.selected? (t : Target) : Option Selected := t.value.map (Selected.mk t.path)

theorem targets_names {segments : List String} (h : ∀ segment ∈ segments, Text.count? segment.toList = none)
    (node : Selected) : (Field.below segments).targets node =
      [⟨node.path ++ .ofNames segments, node.value.at? (.ofNames segments)⟩] := by
  rw [Field.targets, follow_names h]
  rfl

/-! ## The law -/

/-- The targets that exist are, in order, what the longer query selects. Each node has one target, and nothing stands
there exactly if the longer query selects nothing below the node. -/
theorem fields_continue {q longer : Query} {segments : List String} (hlonger : longer.Continues q segments)
    (hsegments : ∀ segment ∈ segments, Text.count? segment.toList = none) {root : Json}
    (hnames : root.DistinctNames) :
    ((q.select root).flatMap (Field.below segments).targets).filterMap Target.selected? = longer.select root ∧
    ∀ node ∈ q.select root, ∃ t, (Field.below segments).targets node = [t] ∧
      (t.value = none ↔ ∀ below ∈ longer.select root, ¬ node.path <+: below.path) := by
  rw [hlonger.select_eq]
  constructor
  · rw [Query.descend, List.filterMap_eq_flatMap_toList, List.filterMap_eq_flatMap_toList, List.flatMap_assoc]
    refine List.flatMap_congr fun node _ => ?_
    rw [targets_names hsegments]
    exact List.append_nil _
  · intro node hnode
    refine ⟨_, targets_names hsegments node, ?_⟩
    constructor
    · intro hmissing below hbelow hfront
      obtain ⟨other, hother, hvalue⟩ := List.mem_filterMap.mp hbelow
      obtain ⟨v, hv, rfl⟩ := Option.map_eq_some_iff.mp hvalue
      obtain rfl := Query.eq_of_prefix hnames hnode hother hfront
      exact nomatch hmissing.symm.trans hv
    · intro hnone
      cases hv : node.value.at? (.ofNames segments) with
      | none => rfl
      | some v =>
        have hbelow : ⟨node.path ++ .ofNames segments, v⟩ ∈ Query.descend (q.select root) (.ofNames segments) :=
          List.mem_filterMap.mpr ⟨node, hnode, by rw [hv]; rfl⟩
        exact absurd (List.prefix_append _ _) (hnone _ hbelow)

/-! Of three nodes one has the member, one has it with the value null, and one is an array, where nothing is. -/

def allNodes : Query := ⟨"$[*]", [.wildcard]⟩

def allMembers : Query := ⟨"$[*].y", [.wildcard, .key "y"]⟩

theorem fields_continue_sample :
    allMembers.Continues allNodes ["y"] ∧ (∀ segment ∈ ["y"], Text.count? segment.toList = none) ∧
      Query.sampleRoot.DistinctNames ∧
      ((allNodes.select Query.sampleRoot).flatMap (Field.below ["y"]).targets).filterMap Target.selected? =
        allMembers.select Query.sampleRoot ∧
      allMembers.select Query.sampleRoot = [⟨[.key "a", .key "y"], .bool true⟩, ⟨[.key "c", .key "y"], .null⟩] ∧
      ∃ t, (Field.below ["y"]).targets ⟨[.key "b"], .array [.null]⟩ = [t] ∧
        (t.value = none ↔ ∀ below ∈ allMembers.select Query.sampleRoot, ¬ [.key "b"] <+: below.path) := by
  have hsegments : ∀ segment ∈ ["y"], Text.count? segment.toList = none := by simp [Text.count?]
  have hcontinues : allMembers.Continues allNodes ["y"] := rfl
  have hlaw := fields_continue hcontinues hsegments Query.distinctNames_sampleRoot
  refine ⟨hcontinues, hsegments, Query.distinctNames_sampleRoot, hlaw.1, rfl, ?_⟩
  exact hlaw.2 ⟨[.key "b"], .array [.null]⟩ (by simp [Query.select, allNodes, Query.advance, Query.sampleRoot,
    Selector.apply, Selector.children])

end Rule

end CatalogGate
