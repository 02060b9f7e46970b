-- The laws of keywords: what a value is like with which a keyword finds nothing wrong.
import CatalogGate.Schema.Check

namespace CatalogGate.Schema

variable {f : Follow} {path : Json.Path}

theorem complainUnless_eq_nil_iff (ok : Bool) (complaint : Complaint) :
    complainUnless ok path complaint = [] ↔ ok = true := by
  cases ok <;> simp [complainUnless]

/-- Keywords look at a value one by one. -/
theorem keywordViolations_eq_nil_iff (keywords : List Keyword) (v : Json) :
    keywordViolations f keywords v path = [] ↔ ∀ k ∈ keywords, keywordViolation f k v path = [] := by
  induction keywords with
  | nil => simp [keywordViolations]
  | cons k keywords ih => rw [keywordViolations, List.append_eq_nil_iff, ih, List.forall_mem_cons]

theorem kinds_eq_nil_iff (kind : Kind) (v : Json) :
    keywordViolation f (.kinds [kind]) v path = [] ↔ kind.admits v = true := by
  show complainUnless ([kind].any (·.admits v)) path _ = [] ↔ _
  rw [complainUnless_eq_nil_iff, List.any_cons, List.any_nil, Bool.or_false]

theorem admits_object_iff (v : Json) : Kind.object.admits v = true ↔ ∃ members, v = .object members := by
  cases v <;> simp [Kind.admits]

theorem admits_string_iff (v : Json) : Kind.string.admits v = true ↔ ∃ text, v = .string text := by
  cases v <;> simp [Kind.admits]

theorem listed_eq_nil_iff (options : List Json) (v : Json) :
    keywordViolation f (.listed options) v path = [] ↔ ∃ option ∈ options, alike option v = true := by
  show complainUnless (options.any (alike · v)) path _ = [] ↔ _
  rw [complainUnless_eq_nil_iff, List.any_eq_true]

theorem pattern_eq_nil_iff (source : String) (p : Pattern) (text : String) :
    keywordViolation f (.pattern source (.plain p)) (.string text) path = [] ↔ p.isFoundIn text.toList = true := by
  simp only [keywordViolation, simpleViolations, Pattern.Search.run]
  cases p.isFoundIn text.toList <;> simp

theorem required_eq_nil_iff (names : List String) (members : List (String × Json)) :
    keywordViolation f (.required names) (.object members) path = [] ↔
      ∀ name ∈ names, (Json.lookup name members).isSome = true := by
  show (missingNames names members).map _ = [] ↔ _
  rw [List.map_eq_nil_iff, missingNames, List.filter_eq_nil_iff]
  simp only [Option.isNone_iff_eq_none, Option.isSome_iff_ne_none, ne_eq]

/-- In a closed object each member is right by the schemas of its name, of which there is at least one. -/
theorem closed_eq_nil_iff (named : List (String × Schema)) (matching : List (Pattern.Search × Schema))
    (members : List (String × Json)) :
    keywordViolation f (.closed named matching) (.object members) path = [] ↔
      ∀ m ∈ members, nameViolations f named m.1 m.2 (path ++ [.key m.1]) = [] ∧
        matchViolations f matching m.1 m.2 (path ++ [.key m.1]) = [] ∧ covers named matching m.1 = true := by
  simp only [keywordViolation, membersOf, List.append_eq_nil_iff, List.flatMap_eq_nil_iff, complainUnless_eq_nil_iff,
    List.isEmpty_iff, List.filter_eq_nil_iff, List.forall_mem_map, Bool.not_eq_true', Bool.not_eq_false,
    ← forall_and, and_assoc]

theorem countValid_pos_iff (schemas : List Schema) (v : Json) :
    0 < countValid f schemas v ↔ ∃ s ∈ schemas, violations f s v [] = [] := by
  induction schemas with
  | nil => simp [countValid]
  | cons s schemas ih =>
    rw [countValid, Nat.add_pos_iff_pos_or_pos, ih]
    simp only [List.mem_cons, exists_eq_or_imp, ← List.isEmpty_iff (l := violations f s v [])]
    cases (violations f s v []).isEmpty <;> simp

theorem anyOf_eq_nil_iff (schemas : List Schema) (v : Json) :
    keywordViolation f (.anyOf schemas) v path = [] ↔ ∃ s ∈ schemas, violations f s v [] = [] := by
  rw [keywordViolation, complainUnless_eq_nil_iff, decide_eq_true_eq, countValid_pos_iff]

/-! ## Floating-point numbers -/

section

open Float.Model

/-- From the other side a comparison comes out the other way round. -/
theorem compare_swap (x y : UnpackedFloat) : y.compare x = (x.compare y).map Ordering.swap := by
  cases x with
  | notANumber => cases y <;> rfl
  | infinity s =>
    rcases y with s' | _ | s' | ⟨s', _, _, _⟩
    · cases s <;> cases s' <;> rfl
    · cases s <;> rfl
    · cases s <;> cases s' <;> rfl
    · cases s <;> cases s' <;> rfl
  | zero s =>
    rcases y with s' | _ | s' | ⟨s', _, _, _⟩
    · cases s <;> cases s' <;> rfl
    · cases s <;> rfl
    · cases s <;> cases s' <;> rfl
    · cases s <;> cases s' <;> rfl
  | finite s m e =>
    rcases y with s' | _ | s' | ⟨s', m', e', _⟩
    · cases s <;> cases s' <;> rfl
    · cases s <;> rfl
    · cases s <;> cases s' <;> rfl
    · have hm : compare m' m = (compare m m').swap := Std.OrientedCmp.eq_swap
      have he : compare e' e = (compare e e').swap := Std.OrientedCmp.eq_swap
      have hsize : (compare e' e).then (compare m' m) = ((compare e e').then (compare m m')).swap := by
        rw [hm, he, Ordering.swap_then]
      cases s with
      | positive =>
        cases s' with
        | positive => exact congrArg some hsize
        | negative => rfl
      | negative =>
        cases s' with
        | positive => rfl
        | negative => exact congrArg (fun o => some o.swap) hsize

theorem float_beq_comm (a b : Float) : (a == b) = (b == a) := by
  show (a.toModel.unpack.compare b.toModel.unpack == some .eq) = (b.toModel.unpack.compare a.toModel.unpack == some .eq)
  rw [compare_swap b.toModel.unpack]
  rcases b.toModel.unpack.compare a.toModel.unpack with _ | _ | _ | _ <;> rfl

end

end CatalogGate.Schema
