-- The laws of registries. A document that is added stands under its identifier, unless a schema inside of it takes that
-- identifier for itself.
import CatalogGate.Proofs.List.Traversal
import CatalogGate.Proofs.Schema.Reading
import CatalogGate.Schema.Whole

namespace CatalogGate.Schema

namespace Registry

/-! ## Sizes -/

theorem le_foldl_size (resources : List (Identifier × Resource)) (n : Nat) :
    n ≤ resources.foldl (fun n (_, resource) => n + resource.contents.size) n := by
  induction resources generalizing n with
  | nil => exact Nat.le_refl n
  | cons entry resources ih => exact Nat.le_trans (Nat.le_add_right ..) (ih _)

theorem size_le_of_mem {resources : List (Identifier × Resource)} {entry : Identifier × Resource}
    (h : entry ∈ resources) (n : Nat) :
    entry.2.contents.size ≤ resources.foldl (fun n (_, resource) => n + resource.contents.size) n := by
  induction resources generalizing n with
  | nil => cases h
  | cons first resources ih =>
    rcases List.mem_cons.mp h with rfl | h
    · exact Nat.le_trans (Nat.le_add_left ..) (le_foldl_size resources _)
    · exact ih h _

theorem size_le {r : Registry} {identifier : Identifier} {resource : Resource}
    (h : r.resource? identifier = some resource) : resource.contents.size ≤ r.size := by
  obtain ⟨entry, hentry, rfl⟩ := Option.map_eq_some_iff.mp h
  exact size_le_of_mem (List.mem_of_find?_eq_some hentry) 0

/-! ## Gathering -/

/-- A schema without identifier, and so are the schemas inside of it, which name no other edition either. -/
inductive IsNameless : Json → Prop where
  | intro {v : Json} (identifier : Layout.identifier? .draft7 v = none)
      (edition : ∀ w ∈ Layout.parts .draft7 v, Layout.editionName? w = none)
      (parts : ∀ w ∈ Layout.parts .draft7 v, IsNameless w) : IsNameless v

/-- Whether a schema is nameless, as far down as a number says. -/
def isNameless : Nat → Json → Bool
  | 0, _ => false
  | fuel + 1, v =>
    (Layout.identifier? .draft7 v).isNone
      && (Layout.parts .draft7 v).all fun w => (Layout.editionName? w).isNone && isNameless fuel w

theorem isNameless_sound {fuel : Nat} {v : Json} (h : isNameless fuel v = true) : IsNameless v := by
  induction fuel generalizing v with
  | zero => cases h
  | succ fuel ih =>
    simp only [isNameless, Bool.and_eq_true, Option.isNone_iff_eq_none, List.all_eq_true] at h
    exact .intro h.1 (fun w hw => (h.2 w hw).1) fun w hw => ih (h.2 w hw).2

/-- A schema that is still to be looked at and will add no resource. -/
def IsQuiet (p : Pending) : Prop := p.resource.edition = .draft7 ∧ IsNameless p.resource.contents

theorem look_of_isQuiet {r r' : Registry} {p : Pending} {base : Identifier} (hp : IsQuiet p)
    (h : r.look p = .ok (r', base)) : r'.resources = r.resources := by
  obtain ⟨hedition, hidentifier, _, _⟩ := hp
  rw [look, hedition, hidentifier] at h
  cases h
  rfl

theorem isQuiet_parts {p q : Pending} (hp : IsQuiet p) {base : Identifier} {w : Json}
    (hw : w ∈ Layout.parts p.resource.edition p.resource.contents)
    (hq : (do return Pending.mk base ⟨w, ← editionOf p.resource.edition w⟩ : Except Problem Pending) = .ok q) :
    IsQuiet q := by
  obtain ⟨hedition, _, hname, hparts⟩ := hp
  rw [hedition] at hw hq
  rw [editionOf, hname w hw] at hq
  cases hq
  exact ⟨rfl, hparts w hw⟩

theorem gather_of_isQuiet {fuel : Nat} {r r' : Registry} {wanted wanted' : List Identifier} {pending : List Pending}
    (hpending : ∀ p ∈ pending, IsQuiet p) (h : gather fuel r wanted pending = .ok (r', wanted')) :
    r'.resources = r.resources := by
  induction fuel generalizing r wanted pending with
  | zero =>
    cases h
    rfl
  | succ fuel ih =>
    cases pending with
    | nil =>
      cases h
      rfl
    | cons p rest =>
      rw [gather] at h
      obtain ⟨⟨r₁, base⟩, hlook, h⟩ := bind_eq_ok_iff.mp h
      obtain ⟨externals, _, h⟩ := bind_eq_ok_iff.mp h
      obtain ⟨inner, hinner, h⟩ := bind_eq_ok_iff.mp h
      obtain ⟨hp, hrest⟩ := List.forall_mem_cons.mp hpending
      have hquiet : ∀ q ∈ rest ++ inner, IsQuiet q := by
        rw [List.forall_mem_append]
        exact ⟨hrest, forall_mem_of_mapM_eq_ok hinner fun w hw q hq => isQuiet_parts hp hw hq⟩
      rw [ih hquiet h, look_of_isQuiet hp hlook]

theorem resource?_of_add {r r' : Registry} {base : Identifier} {v : Json} (hv : IsNameless v)
    (h : r.add base ⟨v, .draft7⟩ = .ok r') : r'.resource? base = some ⟨v, .draft7⟩ := by
  obtain ⟨⟨gathered, wanted⟩, hgather, h⟩ := bind_eq_ok_iff.mp h
  have hresources := gather_of_isQuiet (List.forall_mem_singleton.mpr ⟨rfl, hv⟩) hgather
  have hgathered : gathered.resource? base = some ⟨v, .draft7⟩ := by
    rw [resource?, hresources]
    simp [addResource]
  dsimp only at h
  split at h
  · cases h
  · cases h
    exact hgathered

end Registry

theorem Whole.of_ofJson {v : Json} {w : Whole} (hv : Registry.IsNameless v)
    (hedition : Registry.editionOf .of2020 v = .ok .draft7) (hplain : IsPlain v) (h : Whole.ofJson v = .ok w) :
    w.origin.registry.resource? Registry.home = some ⟨v, .draft7⟩ ∧
      w.origin.read ⟨v, Registry.home, [], .draft7, true⟩ = .ok w.root := by
  rw [ofJson, hedition] at h
  obtain ⟨edition, hread, h⟩ := bind_eq_ok_iff.mp h
  cases hread
  dsimp only at h
  rw [hplain.identifier] at h
  obtain ⟨base, hbase, h⟩ := bind_eq_ok_iff.mp h
  cases hbase
  obtain ⟨registry, hadd, h⟩ := bind_eq_ok_iff.mp h
  obtain ⟨violation, _, h⟩ := bind_eq_ok_iff.mp h
  cases violation with
  | some violation => cases h
  | none =>
    obtain ⟨start, hstart, h⟩ := bind_eq_ok_iff.mp h
    obtain ⟨root, hroot, h⟩ := bind_eq_ok_iff.mp h
    cases h
    rw [Site.enter_eq ⟨rfl, rfl, rfl⟩ hplain] at hstart
    cases hstart
    exact ⟨Registry.resource?_of_add hv hadd, hroot⟩

end CatalogGate.Schema
