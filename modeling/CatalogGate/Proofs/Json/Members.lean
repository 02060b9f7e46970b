-- The laws of the members of an object: what putting a member does to the names, and that in an object without
-- repeated names a member is found exactly where it stands.
import CatalogGate.Json.Path
import Mathlib.Data.List.Nodup

namespace CatalogGate.Json

def names (members : List (String × Json)) : List String := members.map Prod.fst

theorem names_append (a b : List (String × Json)) : names (a ++ b) = names a ++ names b :=
  List.map_append

theorem put_of_not_mem {key : String} (value : Json) {members : List (String × Json)}
    (h : key ∉ names members) : put key value members = members ++ [(key, value)] := by
  induction members with
  | nil => rfl
  | cons m members ih =>
    simp only [names, List.map_cons, List.mem_cons, not_or] at h
    rw [put, if_neg (Ne.symm h.1), ih h.2, List.cons_append]

theorem names_put_of_mem {key : String} (value : Json) {members : List (String × Json)}
    (h : key ∈ names members) : names (put key value members) = names members := by
  induction members with
  | nil => exact absurd h List.not_mem_nil
  | cons m members ih =>
    obtain ⟨name, old⟩ := m
    by_cases hname : name = key
    · rw [put, if_pos hname]
      rfl
    · have hrest : key ∈ names members := (List.mem_cons.mp h).resolve_left (Ne.symm hname)
      rw [put, if_neg hname]
      exact congrArg (List.cons name) (ih hrest)

theorem nodup_put (key : String) (value : Json) {members : List (String × Json)} (h : (names members).Nodup) :
    (names (put key value members)).Nodup := by
  by_cases hkey : key ∈ names members
  · rwa [names_put_of_mem value hkey]
  · rw [put_of_not_mem value hkey, names_append]
    refine List.nodup_append.mpr ⟨h, List.nodup_singleton key, ?_⟩
    intro name hname _ hlast heq
    rw [heq, List.mem_singleton.mp hlast] at hname
    exact hkey hname

theorem forall_mem_put {property : Json → Prop} {key : String} {value : Json} {members : List (String × Json)}
    (h : ∀ m ∈ members, property m.2) (hvalue : property value) : ∀ m ∈ put key value members, property m.2 := by
  induction members with
  | nil =>
    intro m hm
    rw [List.mem_singleton.mp hm]
    exact hvalue
  | cons first members ih =>
    obtain ⟨hfirst, hrest⟩ := List.forall_mem_cons.mp h
    by_cases hname : first.1 = key
    · rw [put, if_pos hname]
      exact List.forall_mem_cons.mpr ⟨hvalue, hrest⟩
    · rw [put, if_neg hname]
      exact List.forall_mem_cons.mpr ⟨hfirst, ih hrest⟩

theorem lookup_of_mem {members : List (String × Json)} (h : (names members).Nodup) {key : String} {value : Json}
    (hm : (key, value) ∈ members) : lookup key members = some value := by
  induction members with
  | nil => exact absurd hm List.not_mem_nil
  | cons m members ih =>
    obtain ⟨name, first⟩ := m
    obtain ⟨hfresh, hrest⟩ := List.nodup_cons.mp h
    rcases List.mem_cons.mp hm with heq | hm
    · obtain ⟨rfl, rfl⟩ := Prod.mk.inj heq
      exact if_pos rfl
    · have hne : name ≠ key := by
        rintro rfl
        exact hfresh (List.mem_map.mpr ⟨_, hm, rfl⟩)
      rw [lookup, if_neg hne]
      exact ih hrest hm

theorem mem_of_lookup {members : List (String × Json)} {key : String} {value : Json}
    (h : lookup key members = some value) : (key, value) ∈ members := by
  induction members with
  | nil => exact nomatch h
  | cons m members ih =>
    obtain ⟨name, first⟩ := m
    by_cases hname : name = key
    · rw [lookup, if_pos hname] at h
      rw [← hname, Option.some.inj h]
      exact List.mem_cons_self
    · rw [lookup, if_neg hname] at h
      exact List.mem_cons_of_mem _ (ih h)

theorem lookup_append (key : String) (members more : List (String × Json)) :
    lookup key (members ++ more) = (lookup key members).or (lookup key more) := by
  induction members with
  | nil => rfl
  | cons m members ih =>
    obtain ⟨name, value⟩ := m
    by_cases hname : name = key <;> simp [lookup, hname, ih]

theorem lookup_eq_none_iff {members : List (String × Json)} {key : String} :
    lookup key members = none ↔ key ∉ names members := by
  induction members with
  | nil => simp [lookup, names]
  | cons m members ih =>
    obtain ⟨name, value⟩ := m
    by_cases hname : name = key
    · simp [lookup, names, hname]
    · rw [lookup, if_neg hname, ih]
      simp [names, Ne.symm hname]

theorem lookup_eq_some_iff {members : List (String × Json)} (h : (names members).Nodup) {key : String}
    {value : Json} : lookup key members = some value ↔ (key, value) ∈ members :=
  ⟨mem_of_lookup, lookup_of_mem h⟩

/-! ## Values without repeated names -/

/-- In each object of a value the names of the members are different. -/
def DistinctNames (value : Json) : Prop :=
  ∀ path members, value.at? path = some (.object members) → (names members).Nodup

theorem DistinctNames.of_object {members : List (String × Json)} (h : (object members).DistinctNames) :
    (names members).Nodup :=
  h [] members rfl

theorem DistinctNames.step {value next : Json} {s : Step} (h : value.DistinctNames)
    (hstep : step? s value = some next) : next.DistinctNames := by
  intro path members hat
  refine h (s :: path) members ?_
  rw [at?, hstep]
  exact hat

theorem DistinctNames.at? {value next : Json} {path : Path} (h : value.DistinctNames)
    (hat : value.at? path = some next) : next.DistinctNames := by
  intro rest members hrest
  refine h (path ++ rest) members ?_
  rw [at?_append, hat]
  exact hrest

theorem distinctNames_object {members : List (String × Json)} (hnodup : (names members).Nodup)
    (h : ∀ m ∈ members, m.2.DistinctNames) : (object members).DistinctNames := by
  intro path inner hat
  cases path with
  | nil =>
    obtain rfl := object.inj (Option.some.inj hat)
    exact hnodup
  | cons s rest =>
    obtain ⟨next, hstep, hrest⟩ := Option.bind_eq_some_iff.mp hat
    cases s with
    | key name => exact h _ (mem_of_lookup hstep) rest inner hrest
    | index position => exact nomatch hstep

theorem distinctNames_array {items : List Json} (h : ∀ v ∈ items, v.DistinctNames) :
    (array items).DistinctNames := by
  intro path inner hat
  cases path with
  | nil => exact nomatch Option.some.inj hat
  | cons s rest =>
    obtain ⟨next, hstep, hrest⟩ := Option.bind_eq_some_iff.mp hat
    cases s with
    | key name => exact nomatch hstep
    | index position => exact h _ (List.mem_of_getElem? hstep) rest inner hrest

/-- A value that is no collection has no steps, so that only its own place counts. -/
theorem distinctNames_leaf {value : Json} (hsteps : ∀ s, step? s value = none)
    (hobject : ∀ members, value ≠ object members) : value.DistinctNames := by
  intro path inner hat
  cases path with
  | nil => exact absurd (Option.some.inj hat) (hobject inner)
  | cons s rest =>
    rw [Json.at?, hsteps] at hat
    cases hat

end CatalogGate.Json
