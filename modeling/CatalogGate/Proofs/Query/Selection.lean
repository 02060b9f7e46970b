-- The law of selection: a query selects the values at the paths that its selectors allow step by step, each of
-- them once and in the order of the document.
import CatalogGate.Proofs.Json.Precedence
import CatalogGate.Query.Basic
import Mathlib.Data.List.Forall2

namespace CatalogGate

/-! ## One step -/

namespace Selector

theorem elementsFrom_eq_mapIdx (position : Nat) (items : List Json) :
    elementsFrom position items = items.mapIdx fun i v => (.index (position + i), v) := by
  induction items generalizing position with
  | nil => rfl
  | cons v items ih =>
    rw [elementsFrom, ih, List.mapIdx_cons]
    simp only [Nat.add_zero, Nat.add_assoc, Nat.add_comm 1]

theorem map_fst_children (value : Json) : (children value).map Prod.fst = Json.steps value := by
  cases value with
  | object members => simp [children, Json.steps, Json.names]
  | array items =>
    apply List.ext_getElem?
    intro i
    by_cases h : i < items.length <;> simp [children, Json.steps, elementsFrom_eq_mapIdx, h]
  | _ => rfl

theorem mem_children_array_iff {items : List Json} {step : Json.Step} {v : Json} :
    (step, v) ∈ children (.array items) ↔ ∃ i : Nat, step = .index i ∧ items[i]? = some v := by
  simp only [children, elementsFrom_eq_mapIdx, Nat.zero_add, List.mem_mapIdx, Prod.mk.injEq,
    List.getElem?_eq_some_iff]
  constructor
  · rintro ⟨i, hi, hstep, hv⟩
    exact ⟨i, hstep.symm, hi, hv⟩
  · rintro ⟨i, hstep, hi, hv⟩
    exact ⟨i, hi, hstep.symm, hv⟩

/-- The values one step below are those that a step leads to. -/
theorem mem_children_iff {value : Json} (h : value.DistinctNames) (step : Json.Step) (v : Json) :
    (step, v) ∈ children value ↔ Json.step? step value = some v := by
  cases value with
  | object members =>
    cases step with
    | key name => simp [children, Json.step?, Json.lookup_eq_some_iff h.of_object]
    | index i => simp [children, Json.step?]
  | array items =>
    rw [mem_children_array_iff]
    cases step <;> simp [Json.step?]
  | _ => cases step <;> simp [children, Json.step?]

/-- A selector takes a value one step below exactly if it allows the step to it. -/
theorem mem_apply_iff {value : Json} (h : value.DistinctNames) (s : Selector) (step : Json.Step) (v : Json) :
    (step, v) ∈ s.apply value ↔ Json.step? step value = some v ∧ s.allows step = true := by
  cases value with
  | object members =>
    cases s with
    | key name =>
      cases step with
      | index i => simp [apply, allows]
      | key k =>
        simp only [apply, allows, Json.step?, Option.mem_toList, Option.map_eq_some_iff, Prod.mk.injEq,
          Json.Step.key.injEq, beq_iff_eq]
        constructor
        · rintro ⟨_, hv, rfl, rfl⟩
          exact ⟨hv, rfl⟩
        · rintro ⟨hv, rfl⟩
          exact ⟨v, hv, rfl, rfl⟩
    | union names =>
      rw [← mem_children_iff h]
      cases step <;> simp [apply, children, allows]
    | index position => cases step <;> simp [apply, allows, Json.step?]
    | wildcard =>
      rw [← mem_children_iff h]
      simp [apply, allows]
  | array items =>
    cases s with
    | index position =>
      cases step with
      | key k => simp [apply, allows]
      | index i =>
        simp only [apply, allows, Json.step?, Option.mem_toList, Option.map_eq_some_iff, Prod.mk.injEq,
          Json.Step.index.injEq, beq_iff_eq]
        constructor
        · rintro ⟨_, hv, rfl, rfl⟩
          exact ⟨hv, rfl⟩
        · rintro ⟨hv, rfl⟩
          exact ⟨v, hv, rfl, rfl⟩
    | wildcard =>
      rw [← mem_children_iff h]
      simp [apply, allows]
    | _ => cases step <;> simp [apply, allows, Json.step?]
  | _ => cases s <;> cases step <;> simp [apply, children, Json.step?]

/-- What a selector takes stands in the order of the value. -/
theorem apply_sublist (s : Selector) (value : Json) : (s.apply value).Sublist (children value) := by
  cases value with
  | object members =>
    cases s with
    | key name =>
      cases hv : Json.lookup name members with
      | none => simp [apply, hv]
      | some v => simpa [apply, hv, children] using Json.mem_of_lookup hv
    | union names => exact List.filter_sublist.map _
    | index position => exact List.nil_sublist _
    | wildcard => exact List.Sublist.refl _
  | array items =>
    cases s with
    | index position =>
      cases hv : items[position]? with
      | none => simp [apply, hv]
      | some v =>
        have hmem : (Json.Step.index position, v) ∈ children (.array items) :=
          mem_children_array_iff.mpr ⟨position, rfl, hv⟩
        simpa [apply, hv] using hmem
    | wildcard => exact List.Sublist.refl _
    | _ => exact List.nil_sublist _
  | _ => cases s <;> exact List.nil_sublist _

theorem apply_pairwise (s : Selector) (value : Json) :
    (s.apply value).Pairwise fun a b => value.StepBefore a.1 b.1 := by
  refine List.Pairwise.sublist (apply_sublist s value) (List.pairwise_iff_getElem.mpr ?_)
  intro i j hi hj hij
  refine ⟨i, j, hij, ?_, ?_⟩
  · rw [← map_fst_children, List.getElem?_map, List.getElem?_eq_getElem hi]
    rfl
  · rw [← map_fst_children, List.getElem?_map, List.getElem?_eq_getElem hj]
    rfl

end Selector

/-! ## The steps of a query -/

namespace Query

/-- A node that selectors mean: one at a path of as many steps, each of which is allowed by its selector. -/
structure Means (selectors : List Selector) (root : Json) (node : Selected) : Prop where
  length : node.path.length = selectors.length
  reached : root.at? node.path = some node.value
  allowed : List.Forall₂ (fun step (s : Selector) => s.allows step = true) node.path selectors

/-- Nodes are all that selectors mean, in the order of the document. -/
structure Selection (selectors : List Selector) (root : Json) (nodes : List Selected) : Prop where
  mem_iff : ∀ node, node ∈ nodes ↔ Means selectors root node
  ordered : nodes.Pairwise fun a b => root.Before a.path b.path

theorem means_nil_iff {root : Json} {node : Selected} : Means [] root node ↔ node = ⟨[], root⟩ := by
  constructor
  · rintro ⟨hlength, hreached, _⟩
    obtain ⟨path, value⟩ := node
    obtain rfl := List.eq_nil_of_length_eq_zero hlength
    exact congrArg (Selected.mk []) (Option.some.inj hreached).symm
  · rintro rfl
    exact ⟨rfl, rfl, .nil⟩

/-- One more selector means the nodes one step below that it allows. -/
theorem means_concat_iff {selectors : List Selector} {s : Selector} {root : Json} {node : Selected} :
    Means (selectors ++ [s]) root node ↔ ∃ parent, Means selectors root parent ∧
      ∃ step v, Json.step? step parent.value = some v ∧ s.allows step = true ∧
        node = ⟨parent.path ++ [step], v⟩ := by
  constructor
  · rintro ⟨hlength, hreached, hallowed⟩
    obtain ⟨path, value⟩ := node
    obtain ⟨path, step, rfl⟩ : ∃ p step, path = p ++ [step] := by
      refine ⟨path.dropLast, path.getLast ?_, (List.dropLast_append_getLast _).symm⟩
      rintro rfl
      simp at hlength
    simp only [List.length_append, List.length_singleton, Nat.add_right_cancel_iff] at hlength
    simp only [Json.at?_append, Json.at?, Option.bind_fun_some, Option.bind_eq_some_iff] at hreached
    obtain ⟨parent, hparent, hstep⟩ := hreached
    rw [← List.forall₂_reverse_iff, List.reverse_append, List.reverse_append] at hallowed
    obtain ⟨hs, hrest⟩ := List.forall₂_cons.mp hallowed
    exact ⟨⟨path, parent⟩, ⟨hlength, hparent, List.forall₂_reverse_iff.mp hrest⟩, step, value, hstep, hs, rfl⟩
  · rintro ⟨parent, ⟨hlength, hreached, hallowed⟩, step, v, hstep, hs, rfl⟩
    refine ⟨by simp [hlength], ?_, ?_⟩
    · rw [Json.at?_append, hreached]
      simp [Json.at?, hstep]
    · exact List.rel_append hallowed (.cons hs .nil)

theorem mem_advance_iff {nodes : List Selected} {s : Selector} {node : Selected} :
    node ∈ advance nodes s ↔ ∃ parent ∈ nodes, ∃ step v, (step, v) ∈ s.apply parent.value ∧
      node = ⟨parent.path ++ [step], v⟩ := by
  simp [advance, eq_comm (a := node)]

/-- Going one level down from all that selectors mean gives all that one more selector means. -/
theorem Selection.advance {selectors : List Selector} {root : Json} {nodes : List Selected}
    (hnames : root.DistinctNames) (h : Selection selectors root nodes) (s : Selector) :
    Selection (selectors ++ [s]) root (advance nodes s) := by
  constructor
  · intro node
    rw [mem_advance_iff, means_concat_iff]
    refine exists_congr fun parent => ?_
    rw [h.mem_iff]
    refine and_congr_right fun hparent => ?_
    simp only [Selector.mem_apply_iff (hnames.at? hparent.reached), and_assoc]
  · rw [Query.advance, List.pairwise_flatMap]
    constructor
    · intro parent hparent
      have hreached := ((h.mem_iff parent).mp hparent).reached
      rw [List.pairwise_map]
      refine (Selector.apply_pairwise s parent.value).imp ?_
      intro a b hab
      exact Json.Before.under hreached (.part [] [] hab)
    · refine h.ordered.imp ?_
      intro parent other hbefore a ha b hb
      obtain ⟨x, _, rfl⟩ := List.mem_map.mp ha
      obtain ⟨y, _, rfl⟩ := List.mem_map.mp hb
      exact hbefore.append [x.1] [y.1]

theorem selection_select (q : Query) {root : Json} (hnames : root.DistinctNames) :
    Selection q.selectors root (q.select root) := by
  have hgo (todo : List Selector) : ∀ {done : List Selector} {nodes : List Selected},
      Selection done root nodes → Selection (done ++ todo) root (todo.foldl Query.advance nodes) := by
    induction todo with
    | nil =>
      intro done nodes h
      rwa [List.append_nil]
    | cons s todo ih =>
      intro done nodes h
      rw [List.append_cons]
      exact ih (h.advance hnames s)
  have hstart : Selection [] root [⟨[], root⟩] := by
    refine ⟨fun node => ?_, List.pairwise_singleton _ _⟩
    rw [List.mem_singleton, means_nil_iff]
  exact hgo q.selectors hstart

/-! ## The law -/

/-- The selected nodes are the only list of all nodes that the selectors mean in the order of the document, and no
path is selected twice. -/
theorem select_means (q : Query) {root : Json} (hnames : root.DistinctNames) :
    ((q.select root).map Selected.path).Nodup ∧
      ∀ nodes, Selection q.selectors root nodes ↔ nodes = q.select root := by
  have hselect := selection_select q hnames
  have hnodup {nodes : List Selected} (h : Selection q.selectors root nodes) :
      (nodes.map Selected.path).Nodup :=
    List.pairwise_map.mpr (h.ordered.imp fun hbefore => hbefore.ne hnames)
  refine ⟨hnodup hselect, fun nodes => ⟨fun h => ?_, fun h => h ▸ hselect⟩⟩
  have hperm : nodes.Perm (q.select root) := by
    rw [List.perm_ext_iff_of_nodup (hnodup h).of_map (hnodup hselect).of_map]
    intro node
    rw [h.mem_iff, hselect.mem_iff]
  exact hperm.eq_of_pairwise (fun a b _ _ hab hba => absurd hba (hab.not_symm hnames)) h.ordered hselect.ordered

/-! A union that repeats a name and writes the names in another order than the document. -/

def sampleQuery : Query := ⟨"$[*]['y','x','y']", [.wildcard, .union ["y", "x", "y"]]⟩

def sampleRoot : Json :=
  .object [("a", .object [("x", .null), ("y", .bool true)]), ("b", .array [.null]), ("c", .object [("y", .null)])]

theorem distinctNames_sampleRoot : sampleRoot.DistinctNames := by
  have hleaf {value : Json} (h : value = .null ∨ value = .bool true) : value.DistinctNames := by
    rcases h with rfl | rfl <;> exact Json.distinctNames_leaf (fun s => by cases s <;> rfl) nofun
  have ha : (Json.object [("x", .null), ("y", .bool true)]).DistinctNames :=
    Json.distinctNames_object (by decide) (by simp [hleaf])
  have hb : (Json.array [.null]).DistinctNames := Json.distinctNames_array (by simp [hleaf])
  have hc : (Json.object [("y", .null)]).DistinctNames := Json.distinctNames_object (by decide) (by simp [hleaf])
  exact Json.distinctNames_object (by decide) (by simp [ha, hb, hc])

theorem select_means_union :
    sampleRoot.DistinctNames ∧ Selection sampleQuery.selectors sampleRoot
      [⟨[.key "a", .key "x"], .null⟩, ⟨[.key "a", .key "y"], .bool true⟩, ⟨[.key "c", .key "y"], .null⟩] := by
  refine ⟨distinctNames_sampleRoot, ?_⟩
  exact ((select_means sampleQuery distinctNames_sampleRoot).2 _).mpr rfl

end Query

end CatalogGate
