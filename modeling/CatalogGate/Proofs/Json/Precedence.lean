-- The order of the paths of a document. Of two paths that part somewhere, the one that takes the earlier member or
-- element there comes first.
import CatalogGate.Proofs.Json.Members

namespace CatalogGate.Json

/-- The steps that a value has, in the order of its members or elements. -/
def steps : Json → List Step
  | object members => (names members).map .key
  | array items => (List.range items.length).map .index
  | _ => []

/-- The first step leads to an earlier member or element than the second one. -/
def StepBefore (value : Json) (s t : Step) : Prop :=
  ∃ i j : Nat, i < j ∧ (steps value)[i]? = some s ∧ (steps value)[j]? = some t

/-- The first path leads to an earlier place than the second one, at the step where they part. -/
inductive Before : Json → Path → Path → Prop
  | part {value : Json} {s t : Step} (p q : Path) (h : value.StepBefore s t) : Before value (s :: p) (t :: q)
  | follow {value next : Json} {s : Step} {p q : Path} (hstep : step? s value = some next) (h : Before next p q) :
      Before value (s :: p) (s :: q)

/-! ## Paths that are extended -/

theorem Before.append {value : Json} {p q : Path} (h : value.Before p q) (a b : Path) :
    value.Before (p ++ a) (q ++ b) := by
  induction h with
  | part p q hst => exact .part (p ++ a) (q ++ b) hst
  | follow hstep _ ih => exact .follow hstep ih

theorem Before.under {value next : Json} {p a b : Path} (hat : value.at? p = some next) (h : next.Before a b) :
    value.Before (p ++ a) (p ++ b) := by
  induction p generalizing value with
  | nil =>
    obtain rfl := Option.some.inj hat
    exact h
  | cons s p ih =>
    obtain ⟨inner, hstep, hrest⟩ := Option.bind_eq_some_iff.mp hat
    exact .follow hstep (ih hrest)

/-! ## A strict order -/

theorem nodup_steps {value : Json} (h : value.DistinctNames) : (steps value).Nodup := by
  unfold steps
  split
  · exact (h.of_object).map fun _ _ heq => Step.key.inj heq
  · exact List.nodup_range.map fun _ _ heq => Step.index.inj heq
  · exact List.nodup_nil

theorem StepBefore.not_symm {value : Json} {s t : Step} (hnames : value.DistinctNames)
    (h : value.StepBefore s t) : ¬ value.StepBefore t s := by
  rintro ⟨k, l, hkl, hk, hl⟩
  obtain ⟨i, j, hij, hi, hj⟩ := h
  have hnodup := nodup_steps hnames
  obtain ⟨hilt, _⟩ := List.getElem?_eq_some_iff.mp hi
  obtain ⟨hjlt, _⟩ := List.getElem?_eq_some_iff.mp hj
  have hil : i = l := (List.getElem?_inj hilt hnodup).mp (hi.trans hl.symm)
  have hjk : j = k := (List.getElem?_inj hjlt hnodup).mp (hj.trans hk.symm)
  omega

theorem Before.not_symm {value : Json} {p q : Path} (hnames : value.DistinctNames) (h : value.Before p q) :
    ¬ value.Before q p := by
  induction h with
  | part p q hst =>
    intro hback
    cases hback with
    | part _ _ hts => exact hst.not_symm hnames hts
    | follow _ _ => exact hst.not_symm hnames hst
  | follow hstep hpq ih =>
    intro hback
    cases hback with
    | part _ _ hss => exact hss.not_symm hnames hss
    | follow hstep' hqp =>
      obtain rfl := Option.some.inj (hstep.symm.trans hstep')
      exact ih (hnames.step hstep) hqp

theorem Before.ne {value : Json} {p q : Path} (hnames : value.DistinctNames) (h : value.Before p q) : p ≠ q := by
  rintro rfl
  exact h.not_symm hnames h

end CatalogGate.Json
