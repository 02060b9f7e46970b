-- The law of conversion: the JSON value of a YAML text keeps every value of the text at a path of its own
-- exactly if the keys of each mapping become different names.
import CatalogGate.Proofs.Json.Members
import CatalogGate.Yaml.Node.Json

namespace CatalogGate

namespace Yaml.Node

/-! ## Places -/

/-- A value without its tags. -/
def bare : Node → Node
  | tagged _ value => bare value
  | value => value

/-- The value at a position of a sequence or of a mapping, and the step that JSON takes to it. -/
def child? (position : Nat) (n : Node) : Option (Json.Step × Node) :=
  match n.bare with
  | sequence items => items[position]?.map fun value => (.index position, value)
  | mapping entries => entries[position]?.map fun entry => (.key entry.1.keyName, entry.2)
  | _ => none

/-- The value at a place, which is the positions on the way to it, and the path that JSON takes to it. -/
def locate? : List Nat → Node → Option (Json.Path × Node)
  | [], n => some ([], n)
  | position :: rest, n =>
    (n.child? position).bind fun (step, value) =>
      (locate? rest value).map fun (path, found) => (step :: path, found)

def keyNames (entries : List (Node × Node)) : List String := entries.map fun entry => entry.1.keyName

/-- The entries as members, each with its own name and value. -/
def membersOf (entries : List (Node × Node)) : List (String × Json) :=
  entries.map fun entry => (entry.1.keyName, entry.2.toJson)

/-- In each mapping the keys become different names. -/
def DistinctNames (n : Node) : Prop :=
  ∀ place path value entries, n.locate? place = some (path, value) → value.bare = mapping entries →
    (keyNames entries).Nodup

/-- Nothing of a YAML value is lost in a JSON value. -/
structure KeptIn (n : Node) (json : Json) : Prop where
  /-- Every mapping is an object that has its entries, in their order. -/
  members : ∀ place path value entries, n.locate? place = some (path, value) → value.bare = mapping entries →
    json.at? path = some (.object (membersOf entries))
  found : ∀ place path value entries, n.locate? place = some (path, value) → value.bare = mapping entries →
    ∀ entry ∈ entries, json.at? (path ++ [.key entry.1.keyName]) = some entry.2.toJson
  apart : ∀ place other path value value', n.locate? place = some (path, value) →
    n.locate? other = some (path, value') → place = other
  reached : ∀ place path value, n.locate? place = some (path, value) → json.at? path = some value.toJson

/-! ## Mappings -/

theorem itemsToJson_eq_map (items : List Node) : itemsToJson items = items.map toJson := by
  induction items with
  | nil => rfl
  | cons n items ih => rw [itemsToJson, ih, List.map_cons]

theorem nodup_entriesToJson {members : List (String × Json)} (entries : List (Node × Node))
    (h : (Json.names members).Nodup) : (Json.names (entriesToJson members entries)).Nodup := by
  induction entries generalizing members with
  | nil => rwa [entriesToJson]
  | cons entry entries ih =>
    rw [entriesToJson]
    exact ih (Json.nodup_put _ _ h)

theorem names_membersOf (entries : List (Node × Node)) : Json.names (membersOf entries) = keyNames entries := by
  simp [Json.names, membersOf, keyNames]

/-- Entries whose names are new are added as they are. -/
theorem entriesToJson_eq_append {members : List (String × Json)} {entries : List (Node × Node)}
    (h : (Json.names members ++ keyNames entries).Nodup) :
    entriesToJson members entries = members ++ membersOf entries := by
  induction entries generalizing members with
  | nil => simp [entriesToJson, membersOf]
  | cons entry entries ih =>
    have hfresh : entry.1.keyName ∉ Json.names members := by
      intro hmem
      exact (List.nodup_append.mp h).2.2 _ hmem _ List.mem_cons_self rfl
    rw [entriesToJson, Json.put_of_not_mem _ hfresh, ih]
    · simp [membersOf]
    · simpa [Json.names, keyNames] using h

theorem toJson_mapping (entries : List (Node × Node)) :
    (mapping entries).toJson = .object (entriesToJson [] entries) := rfl

theorem toJson_mapping_of_nodup {entries : List (Node × Node)} (h : (keyNames entries).Nodup) :
    (mapping entries).toJson = .object (membersOf entries) := by
  rw [toJson_mapping, entriesToJson_eq_append (by simpa [Json.names] using h), List.nil_append]

theorem lookup_membersOf {entries : List (Node × Node)} (h : (keyNames entries).Nodup) {entry : Node × Node}
    (hentry : entry ∈ entries) : Json.lookup entry.1.keyName (membersOf entries) = some entry.2.toJson := by
  rw [← names_membersOf] at h
  exact Json.lookup_of_mem h (List.mem_map.mpr ⟨entry, hentry, rfl⟩)

theorem toJson_bare : (n : Node) → n.bare.toJson = n.toJson
  | tagged _ value => toJson_bare value
  | null => rfl
  | bool _ => rfl
  | int _ => rfl
  | float _ => rfl
  | string _ => rfl
  | sequence _ => rfl
  | mapping _ => rfl

/-! ## Steps and paths -/

theorem DistinctNames.of_bare {n : Node} (h : n.DistinctNames) {entries : List (Node × Node)}
    (hbare : n.bare = mapping entries) : (keyNames entries).Nodup :=
  h [] [] n entries rfl hbare

theorem DistinctNames.child {n value : Node} {position : Nat} {step : Json.Step} (h : n.DistinctNames)
    (hchild : n.child? position = some (step, value)) : value.DistinctNames := by
  intro place path found entries hlocate
  exact h (position :: place) (step :: path) found entries (by simp [locate?, hchild, hlocate])

theorem step?_toJson {n value : Node} {position : Nat} {step : Json.Step} (h : n.DistinctNames)
    (hchild : n.child? position = some (step, value)) : Json.step? step n.toJson = some value.toJson := by
  rw [← toJson_bare]
  unfold child? at hchild
  split at hchild
  · rename_i items hbare
    obtain ⟨item, hitem, heq⟩ := Option.map_eq_some_iff.mp hchild
    obtain ⟨rfl, rfl⟩ := Prod.mk.inj heq
    rw [hbare]
    simp [toJson, Json.step?, itemsToJson_eq_map, hitem]
  · rename_i entries hbare
    obtain ⟨entry, hentry, heq⟩ := Option.map_eq_some_iff.mp hchild
    obtain ⟨rfl, rfl⟩ := Prod.mk.inj heq
    have hnodup := h.of_bare hbare
    rw [hbare, toJson_mapping_of_nodup hnodup, Json.step?]
    exact lookup_membersOf hnodup (List.mem_of_getElem? hentry)
  · exact nomatch hchild

theorem locate?_cons_eq_some_iff {n value : Node} {position : Nat} {rest : List Nat} {path : Json.Path} :
    n.locate? (position :: rest) = some (path, value) ↔ ∃ step next tail,
      n.child? position = some (step, next) ∧ next.locate? rest = some (tail, value) ∧ path = step :: tail := by
  simp only [locate?, Option.bind_eq_some_iff, Option.map_eq_some_iff, Prod.exists, Prod.mk.injEq]
  constructor
  · rintro ⟨step, next, hchild, tail, found, hrest, rfl, rfl⟩
    exact ⟨step, next, tail, hchild, hrest, rfl⟩
  · rintro ⟨step, next, tail, hchild, hrest, rfl⟩
    exact ⟨step, next, hchild, tail, value, hrest, rfl, rfl⟩

theorem at?_toJson {n value : Node} {place : List Nat} {path : Json.Path} (h : n.DistinctNames)
    (hlocate : n.locate? place = some (path, value)) : n.toJson.at? path = some value.toJson := by
  induction place generalizing n path with
  | nil =>
    obtain ⟨rfl, rfl⟩ := Prod.mk.inj (Option.some.inj hlocate)
    rfl
  | cons position rest ih =>
    obtain ⟨step, next, tail, hchild, hrest, rfl⟩ := locate?_cons_eq_some_iff.mp hlocate
    rw [Json.at?, step?_toJson h hchild, Option.bind_some]
    exact ih (h.child hchild) hrest

/-- Different positions are different steps. -/
theorem child?_inj {n value value' : Node} {position other : Nat} {step : Json.Step} (h : n.DistinctNames)
    (hchild : n.child? position = some (step, value)) (hother : n.child? other = some (step, value')) :
    position = other := by
  unfold child? at hchild hother
  split at hchild
  · rename_i items hbare
    rw [hbare] at hother
    obtain ⟨_, _, heq⟩ := Option.map_eq_some_iff.mp hchild
    obtain ⟨_, _, heq'⟩ := Option.map_eq_some_iff.mp hother
    exact Json.Step.index.inj ((Prod.mk.inj heq).1.trans (Prod.mk.inj heq').1.symm)
  · rename_i entries hbare
    rw [hbare] at hother
    obtain ⟨entry, hentry, heq⟩ := Option.map_eq_some_iff.mp hchild
    obtain ⟨entry', hentry', heq'⟩ := Option.map_eq_some_iff.mp hother
    have hname := Json.Step.key.inj ((Prod.mk.inj heq).1.trans (Prod.mk.inj heq').1.symm)
    have hget : (keyNames entries)[position]? = some entry.1.keyName := by simp [keyNames, hentry]
    have hget' : (keyNames entries)[other]? = some entry.1.keyName := by simp [keyNames, hentry', hname]
    obtain ⟨hlt, _⟩ := List.getElem?_eq_some_iff.mp hget
    exact (List.getElem?_inj hlt (h.of_bare hbare)).mp (hget.trans hget'.symm)
  · exact nomatch hchild

theorem locate?_inj {n value value' : Node} {place other : List Nat} {path : Json.Path} (h : n.DistinctNames)
    (hplace : n.locate? place = some (path, value)) (hother : n.locate? other = some (path, value')) :
    place = other := by
  induction place generalizing n other path with
  | nil =>
    obtain ⟨rfl, rfl⟩ := Prod.mk.inj (Option.some.inj hplace)
    cases other with
    | nil => rfl
    | cons position rest =>
      obtain ⟨_, _, _, _, _, hpath⟩ := locate?_cons_eq_some_iff.mp hother
      exact nomatch hpath
  | cons position rest ih =>
    obtain ⟨step, next, tail, hchild, hrest, rfl⟩ := locate?_cons_eq_some_iff.mp hplace
    cases other with
    | nil => exact nomatch (Prod.mk.inj (Option.some.inj hother)).1
    | cons position' rest' =>
      obtain ⟨step', next', tail', hchild', hrest', hpath⟩ := locate?_cons_eq_some_iff.mp hother
      obtain ⟨rfl, rfl⟩ := List.cons.inj hpath
      obtain rfl := child?_inj h hchild hchild'
      obtain ⟨_, rfl⟩ := Prod.mk.inj (Option.some.inj (hchild.symm.trans hchild'))
      rw [ih (h.child hchild) hrest hrest']

/-! ## The law -/

theorem DistinctNames.keptIn {n : Node} (h : n.DistinctNames) : n.KeptIn n.toJson := by
  have hmembers {place : List Nat} {path : Json.Path} {value : Node} {entries : List (Node × Node)}
      (hlocate : n.locate? place = some (path, value)) (hbare : value.bare = mapping entries) :
      value.toJson = .object (membersOf entries) := by
    rw [← toJson_bare, hbare, toJson_mapping_of_nodup (h place path value entries hlocate hbare)]
  refine ⟨?_, ?_, ?_, ?_⟩
  · intro place path value entries hlocate hbare
    rw [at?_toJson h hlocate, hmembers hlocate hbare]
  · intro place path value entries hlocate hbare entry hentry
    have hnodup := h place path value entries hlocate hbare
    rw [Json.at?_append, at?_toJson h hlocate, hmembers hlocate hbare, Option.bind_some, Json.at?, Json.step?,
      lookup_membersOf hnodup hentry]
    rfl
  · intro place other path value value' hplace hother
    exact locate?_inj h hplace hother
  · intro place path value hlocate
    exact at?_toJson h hlocate

/-- An object never has two members of one name, so that a mapping that is kept has none either. -/
theorem KeptIn.distinctNames {n : Node} (h : n.KeptIn n.toJson) : n.DistinctNames := by
  intro place path value entries hlocate hbare
  have hobject : value.toJson = .object (entriesToJson [] entries) := by
    rw [← toJson_bare, hbare, toJson_mapping]
  have hsame := (h.reached place path value hlocate).symm.trans (h.members place path value entries hlocate hbare)
  rw [hobject] at hsame
  have hnodup : (Json.names (entriesToJson [] entries)).Nodup := nodup_entriesToJson entries List.nodup_nil
  rw [Json.object.inj (Option.some.inj hsame), names_membersOf] at hnodup
  exact hnodup

theorem keptIn_toJson_iff (n : Node) : n.KeptIn n.toJson ↔ n.DistinctNames :=
  ⟨KeptIn.distinctNames, DistinctNames.keptIn⟩

end Yaml.Node

/-! ## Texts -/

namespace Yaml

/-- The value that a text holds when its merge keys are applied. A blank text holds null. -/
inductive Holds (text : String) : Node → Prop
  | blank (hblank : text.toList.all Text.isSpace = true) : Holds text .null
  | read {value n : Node} (hblank : text.toList.all Text.isSpace = false)
      (hread : Node.ofText text.toList = .ok value) (hmerged : value.merged = .ok n) : Holds text n

theorem Holds.unique {text : String} {n n' : Node} (h : Holds text n) (h' : Holds text n') : n = n' := by
  cases h with
  | blank hblank =>
    cases h' with
    | blank => rfl
    | read hblank' => exact absurd (hblank.symm.trans hblank') (by decide)
  | read hblank hread hmerged =>
    cases h' with
    | blank hblank' => exact absurd (hblank.symm.trans hblank') (by decide)
    | read _ hread' hmerged' =>
      obtain rfl := Except.ok.inj (hread.symm.trans hread')
      exact Except.ok.inj (hmerged.symm.trans hmerged')

/-- A text is parsed exactly if it holds a value, and to the JSON value of this. -/
theorem parse_eq_ok_iff (text : String) (json : Json) :
    parse text = .ok json ↔ ∃ n, Holds text n ∧ n.toJson = json := by
  unfold parse
  simp only [bind, Except.bind]
  constructor
  · intro h
    split at h
    · rename_i hblank
      exact ⟨.null, .blank hblank, Except.ok.inj h⟩
    · rename_i hblank
      split at h
      · exact nomatch h
      · rename_i value hread
        split at h
        · rename_i n hmerged
          exact ⟨n, .read (by simpa using hblank) hread hmerged, Except.ok.inj h⟩
        · exact nomatch h
  · rintro ⟨n, hholds, rfl⟩
    cases hholds with
    | blank hblank =>
      rw [if_pos hblank]
      rfl
    | read hblank hread hmerged =>
      rw [if_neg (by simp [hblank]), hread]
      simp only [hmerged]
      rfl

mutual

/-- Whatever the keys of a mapping are, its object has each name once. -/
theorem Node.distinctNames_toJson : (n : Node) → n.toJson.DistinctNames
  | .sequence items => Json.distinctNames_array (distinctNames_itemsToJson items)
  | .mapping entries =>
    Json.distinctNames_object (nodup_entriesToJson entries List.nodup_nil)
      (distinctNames_entriesToJson entries (List.forall_mem_nil _))
  | .tagged _ value => distinctNames_toJson value
  | .null | .bool _ | .int _ | .string _ => Json.distinctNames_leaf (fun s => by cases s <;> rfl) nofun
  | .float f => by
    rw [Node.toJson, Node.jsonNumber]
    split <;> exact Json.distinctNames_leaf (fun s => by cases s <;> rfl) nofun

theorem Node.distinctNames_itemsToJson : (items : List Node) → ∀ v ∈ Node.itemsToJson items, v.DistinctNames
  | [] => List.forall_mem_nil _
  | n :: rest => List.forall_mem_cons.mpr ⟨distinctNames_toJson n, distinctNames_itemsToJson rest⟩

theorem Node.distinctNames_entriesToJson (entries : List (Node × Node)) {members : List (String × Json)}
    (h : ∀ m ∈ members, m.2.DistinctNames) : ∀ m ∈ Node.entriesToJson members entries, m.2.DistinctNames :=
  match entries with
  | [] => h
  | (_, value) :: rest => distinctNames_entriesToJson rest (Json.forall_mem_put h (distinctNames_toJson value))

end

theorem distinctNames_of_parse {text : String} {json : Json} (h : parse text = .ok json) : json.DistinctNames := by
  obtain ⟨n, _, rfl⟩ := (parse_eq_ok_iff text json).mp h
  exact n.distinctNames_toJson

/-- Nothing of the value that a text holds is lost exactly if the keys of each mapping become different
names. -/
theorem parse_keeps_iff {text : String} {json : Json} (h : parse text = .ok json) :
    ∃ n, (∀ m, Holds text m ↔ m = n) ∧ n.toJson = json ∧ (n.KeptIn json ↔ n.DistinctNames) := by
  obtain ⟨n, hholds, rfl⟩ := (parse_eq_ok_iff text json).mp h
  refine ⟨n, ?_, rfl, Node.keptIn_toJson_iff n⟩
  intro m
  constructor
  · intro hm
    exact hm.unique hholds
  · rintro rfl
    exact hholds

/-! Two keys, a number and a text, with different names. -/

def numberedText : String := "200: a\n\"201\": b\n"

def numberedNode : Node := .mapping [(.int 200, .string "a"), (.string "201", .string "b")]

def numberedJson : Json := .object [("200", .string "a"), ("201", .string "b")]

/-- Whether a text was read as two entries, from a number and from a text. -/
def isNumbered : Except Error Node → Bool
  | .ok (.mapping [(.int 200, .string "a"), (.string "201", .string "b")]) => true
  | _ => false

theorem holds_numberedText : Holds numberedText numberedNode := by
  have hread : isNumbered (Node.ofText numberedText.toList) = true := by decide +kernel
  refine .read (by decide) (?_ : Node.ofText numberedText.toList = .ok numberedNode) rfl
  unfold isNumbered at hread
  split at hread
  · assumption
  · exact nomatch hread

/-- Texts are in no need of names. -/
theorem distinctNames_of_texts {entries : List (Node × Node)} (hnodup : (Node.keyNames entries).Nodup)
    (htexts : ∀ entry ∈ entries, ∃ text, entry.2 = .string text) : (Node.mapping entries).DistinctNames := by
  intro place path value inner hlocate hbare
  cases place with
  | nil =>
    obtain ⟨rfl, rfl⟩ := Prod.mk.inj (Option.some.inj hlocate)
    obtain rfl := Node.mapping.inj hbare
    exact hnodup
  | cons position rest =>
    obtain ⟨step, next, tail, hchild, hrest, rfl⟩ := Node.locate?_cons_eq_some_iff.mp hlocate
    obtain ⟨entry, hentry, heq⟩ := Option.map_eq_some_iff.mp hchild
    obtain ⟨rfl, rfl⟩ := Prod.mk.inj heq
    obtain ⟨text, htext⟩ := htexts entry (List.mem_of_getElem? hentry)
    rw [htext] at hrest
    cases rest with
    | nil =>
      obtain ⟨rfl, rfl⟩ := Prod.mk.inj (Option.some.inj hrest)
      exact nomatch hbare
    | cons => exact nomatch hrest

theorem parse_keeps_iff_numbered :
    parse numberedText = .ok numberedJson ∧ ∃ n, Holds numberedText n ∧ n.KeptIn numberedJson := by
  have hparse : parse numberedText = .ok numberedJson :=
    (parse_eq_ok_iff _ _).mpr ⟨numberedNode, holds_numberedText, rfl⟩
  have hdistinct : numberedNode.DistinctNames :=
    distinctNames_of_texts (by decide : ["200", "201"].Nodup) (by simp)
  obtain ⟨n, hholds, _, hkept⟩ := parse_keeps_iff hparse
  obtain rfl := (hholds numberedNode).mp holds_numberedText
  exact ⟨hparse, numberedNode, holds_numberedText, hkept.mpr hdistinct⟩

/-! Two keys, a number and a text, with one name. -/

def collidingText : String := "200: a\n\"200\": b\n"

def collidingNode : Node := .mapping [(.int 200, .string "a"), (.string "200", .string "b")]

/-- Whether a text was read as two entries whose keys are spelled alike. -/
def isColliding : Except Error Node → Bool
  | .ok (.mapping [(.int 200, .string "a"), (.string "200", .string "b")]) => true
  | _ => false

theorem holds_collidingText : Holds collidingText collidingNode := by
  have hread : isColliding (Node.ofText collidingText.toList) = true := by decide +kernel
  refine .read (by decide) (?_ : Node.ofText collidingText.toList = .ok collidingNode) rfl
  unfold isColliding at hread
  split at hread
  · assumption
  · exact nomatch hread

/-- The first of the two values is gone. -/
theorem parse_loses_colliding :
    parse collidingText = .ok (.object [("200", .string "b")]) ∧
      ∀ n, Holds collidingText n → ¬ n.KeptIn (.object [("200", .string "b")]) := by
  refine ⟨(parse_eq_ok_iff _ _).mpr ⟨collidingNode, holds_collidingText, rfl⟩, ?_⟩
  intro n hholds hkept
  obtain rfl := hholds.unique holds_collidingText
  have hmembers := hkept.members [] [] collidingNode _ rfl rfl
  have hlength := congrArg List.length (Json.object.inj (Option.some.inj hmembers))
  simp [Node.membersOf] at hlength

end Yaml

end CatalogGate
