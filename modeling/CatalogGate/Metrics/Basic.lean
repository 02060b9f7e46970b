-- What is counted while the program runs.
namespace CatalogGate

namespace Metrics

/-- Labels with their values, which tell the samples of one metric apart. -/
abbrev Labels := List (String × String)

/-- Changes the sample with some labels, or adds one made from `new`. -/
def change {α : Type} (new : α) (f : α → α) (labels : Labels) : List (Labels × α) → List (Labels × α)
  | [] => [(labels, f new)]
  | (other, a) :: rest =>
    if other = labels then (other, f a) :: rest else (other, a) :: change new f labels rest

/-- Counters have 64 bits. -/
def addTo (n total : Nat) : Nat := (total + n) % UInt64.size

/-- The upper bounds of the buckets for durations, in seconds. -/
def bounds : List Float := [0.001, 0.005, 0.01, 0.025, 0.05, 0.1, 0.25, 0.5, 1.0, 2.5, 5.0, 10.0]

/-- Durations in seconds, the last of which comes first. -/
structure Durations where
  newest : List Float

namespace Durations

def count (d : Durations) : Nat := d.newest.length

/-- The sum in the order in which the durations came. -/
def sum (d : Durations) : Float := d.newest.foldr (fun seconds total => total + seconds) 0

/-- How many durations are not above a bound. -/
def upTo (d : Durations) (bound : Float) : Nat := d.newest.countP fun seconds => seconds ≤ bound

end Durations

end Metrics

structure Metrics where
  validations : List (Metrics.Labels × Nat)
  durations : List (Metrics.Labels × Metrics.Durations)
  findings : List (Metrics.Labels × Nat)
  rejections : List (Metrics.Labels × Nat)
  publications : List (Metrics.Labels × Nat)

namespace Metrics

def empty : Metrics := ⟨[], [], [], [], []⟩

/-- Counts one validation. -/
def recordValidation (m : Metrics) (endpoint outcome : String) (seconds : Float) : Metrics :=
  let labels := [("endpoint", endpoint), ("outcome", outcome)]
  { m with
    validations := change 0 (addTo 1) labels m.validations
    durations := change ⟨[]⟩ (fun d => ⟨seconds :: d.newest⟩) labels m.durations }

/-- Counts findings of one severity. None leave no trace. -/
def recordFindings (m : Metrics) (severity : String) (n : Nat) : Metrics :=
  if n = 0 then m else { m with findings := change 0 (addTo n) [("severity", severity)] m.findings }

/-- Counts an upload that was refused before it was validated. -/
def recordRejection (m : Metrics) (reason : String) : Metrics :=
  { m with rejections := change 0 (addTo 1) [("reason", reason)] m.rejections }

/-- Counts an attempt to publish. -/
def recordPublication (m : Metrics) (outcome : String) : Metrics :=
  { m with publications := change 0 (addTo 1) [("outcome", outcome)] m.publications }

/-! ## Laws -/

/-- The sample with some labels. -/
def sample? {α : Type} (labels : Labels) (samples : List (Labels × α)) : Option α :=
  (samples.find? (·.1 = labels)).map Prod.snd

theorem sample?_change_self {α : Type} (new : α) (f : α → α) (labels : Labels)
    (samples : List (Labels × α)) :
    sample? labels (change new f labels samples) = some (f ((sample? labels samples).getD new)) := by
  induction samples with
  | nil => simp [change, sample?]
  | cons s rest ih =>
    obtain ⟨other, a⟩ := s
    by_cases h : other = labels
    · simp [change, sample?, h]
    · simpa [change, sample?, h] using ih

theorem sample?_change_ne {α : Type} (new : α) (f : α → α) {labels other : Labels} (h : other ≠ labels)
    (samples : List (Labels × α)) : sample? other (change new f labels samples) = sample? other samples := by
  induction samples with
  | nil => simp [change, sample?, h.symm]
  | cons s rest ih =>
    obtain ⟨l, a⟩ := s
    by_cases hl : l = labels
    · subst hl
      simp [change, sample?, h.symm]
    · by_cases ho : l = other
      · subst ho
        simp [change, sample?, hl]
      · simpa [change, sample?, hl, ho] using ih

end Metrics

end CatalogGate
