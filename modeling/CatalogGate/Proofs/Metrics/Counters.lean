-- The laws of counters: each record changes one counter of one family and leaves all the others.
import CatalogGate.Metrics.Basic

namespace CatalogGate.Metrics

/-! ## Values -/

/-- The metrics that are counters. -/
inductive Family where
  | validations
  | findings
  | rejections
  | publications
deriving DecidableEq

def samples (m : Metrics) : Family → List (Labels × Nat)
  | .validations => m.validations
  | .findings => m.findings
  | .rejections => m.rejections
  | .publications => m.publications

/-- What a counter shows. One that was never changed shows zero. -/
def value (m : Metrics) (f : Family) (labels : Labels) : Nat := (sample? labels (m.samples f)).getD 0

/-- Every counter fits into 64 bits. -/
def Fits (m : Metrics) : Prop := ∀ f labels, m.value f labels < UInt64.size

theorem value_empty (f : Family) (labels : Labels) : empty.value f labels = 0 := by
  cases f <;> rfl

theorem fits_empty : empty.Fits := by
  intro f labels
  rw [value_empty]
  decide

/-- A counter after an addition to a sample of its list. -/
theorem getD_sample?_change (n : Nat) (labels own : Labels) (counters : List (Labels × Nat)) :
    (sample? labels (change 0 (addTo n) own counters)).getD 0 =
      if labels = own then ((sample? labels counters).getD 0 + n) % UInt64.size
      else (sample? labels counters).getD 0 := by
  by_cases h : labels = own
  · rw [if_pos h, h, sample?_change_self]
    rfl
  · rw [if_neg h, sample?_change_ne 0 (addTo n) h]

/-! ## Records -/

/-- From one state of the metrics to another, the counters grow by some amounts. -/
def GrowsBy (before after : Metrics) (amount : Family → Labels → Nat) : Prop :=
  ∀ f labels, after.value f labels = (before.value f labels + amount f labels) % UInt64.size

/-- An amount for one counter and none for the others. -/
def only (family : Family) (own : Labels) (n : Nat) : Family → Labels → Nat :=
  fun f labels => if f = family ∧ labels = own then n else 0

theorem GrowsBy.refl {m : Metrics} (h : m.Fits) : GrowsBy m m fun _ _ => 0 := by
  intro f labels
  rw [Nat.add_zero, Nat.mod_eq_of_lt (h f labels)]

theorem GrowsBy.trans {m m' m'' : Metrics} {amount amount' : Family → Labels → Nat}
    (h : GrowsBy m m' amount) (h' : GrowsBy m' m'' amount') :
    GrowsBy m m'' fun f labels => amount f labels + amount' f labels := by
  intro f labels
  rw [h' f labels, h f labels, Nat.mod_add_mod, Nat.add_assoc]

theorem GrowsBy.fits {m m' : Metrics} {amount : Family → Labels → Nat} (h : GrowsBy m m' amount) :
    m'.Fits := by
  intro f labels
  rw [h f labels]
  exact Nat.mod_lt _ (by decide)

theorem GrowsBy.congr {m m' : Metrics} {amount amount' : Family → Labels → Nat} (h : GrowsBy m m' amount)
    (hsame : ∀ f labels, amount f labels = amount' f labels) : GrowsBy m m' amount' := by
  intro f labels
  rw [h f labels, hsame f labels]

/-- Several amounts together. -/
def total (amounts : List (Family → Labels → Nat)) (f : Family) (labels : Labels) : Nat :=
  amounts.foldr (fun amount n => amount f labels + n) 0

theorem total_nil (f : Family) (labels : Labels) : total [] f labels = 0 := rfl

theorem total_cons (amount : Family → Labels → Nat) (amounts : List (Family → Labels → Nat)) (f : Family)
    (labels : Labels) : total (amount :: amounts) f labels = amount f labels + total amounts f labels := rfl

/-- Their order does not matter. -/
theorem total_perm {amounts amounts' : List (Family → Labels → Nat)} (h : amounts.Perm amounts') (f : Family)
    (labels : Labels) : total amounts f labels = total amounts' f labels := by
  induction h with
  | nil => rfl
  | cons amount _ ih => rw [total_cons, total_cons, ih]
  | swap amount amount' amounts =>
    rw [total_cons, total_cons, total_cons, total_cons]
    omega
  | trans _ _ ih ih' => rw [ih, ih']

/-- If every step of a run adds an amount, the run adds all of them. -/
theorem growsBy_foldl {α : Type} {step : Metrics → α → Metrics} {amount : α → Family → Labels → Nat}
    (h : ∀ m a, m.Fits → GrowsBy m (step m a) (amount a)) (l : List α) {m : Metrics} (hfits : m.Fits) :
    GrowsBy m (l.foldl step m) (total (l.map amount)) := by
  induction l generalizing m with
  | nil => exact GrowsBy.refl hfits
  | cons a l ih =>
    have hstep := h m a hfits
    exact (hstep.trans (ih hstep.fits)).congr fun f labels => rfl

/-- A change of one sample of a family that leaves the other families as they are. -/
theorem growsBy_of_change {m m' : Metrics} {family : Family} {own : Labels} {n : Nat} (hfits : m.Fits)
    (hchange : m'.samples family = change 0 (addTo n) own (m.samples family))
    (hsame : ∀ f, f ≠ family → m'.samples f = m.samples f) : GrowsBy m m' (only family own n) := by
  intro f labels
  have hkeep := Nat.mod_eq_of_lt (hfits f labels)
  by_cases hf : f = family
  · subst hf
    unfold value only at *
    rw [hchange, getD_sample?_change]
    by_cases hl : labels = own
    · simp [hl]
    · simp only [hl, and_false, if_false, Nat.add_zero]
      exact hkeep.symm
  · unfold value only at *
    simp only [hf, hsame f hf, false_and, if_false, Nat.add_zero]
    exact hkeep.symm

variable {m : Metrics} (hfits : m.Fits)

include hfits

theorem recordValidation_growsBy (endpoint outcome : String) (seconds : Float) :
    GrowsBy m (m.recordValidation endpoint outcome seconds)
      (only .validations [("endpoint", endpoint), ("outcome", outcome)] 1) := by
  refine growsBy_of_change hfits rfl fun f hf => ?_
  cases f <;> first | rfl | exact absurd rfl hf

theorem recordRejection_growsBy (reason : String) :
    GrowsBy m (m.recordRejection reason) (only .rejections [("reason", reason)] 1) := by
  refine growsBy_of_change hfits rfl fun f hf => ?_
  cases f <;> first | rfl | exact absurd rfl hf

theorem recordPublication_growsBy (outcome : String) :
    GrowsBy m (m.recordPublication outcome) (only .publications [("outcome", outcome)] 1) := by
  refine growsBy_of_change hfits rfl fun f hf => ?_
  cases f <;> first | rfl | exact absurd rfl hf

/-- No findings leave no trace, which is no growth either. -/
theorem recordFindings_growsBy (severity : String) (n : Nat) :
    GrowsBy m (m.recordFindings severity n) (only .findings [("severity", severity)] n) := by
  unfold recordFindings
  split
  · rename_i hzero
    refine (GrowsBy.refl hfits).congr fun f labels => ?_
    simp [only, hzero]
  · refine growsBy_of_change hfits rfl fun f hf => ?_
    cases f <;> first | rfl | exact absurd rfl hf

end CatalogGate.Metrics
