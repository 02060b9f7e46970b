-- The laws of classification: which diagnostics become findings, and when the findings of a document
-- keep it from being published.
import CatalogGate.Finding.Assessment
import Mathlib.Data.List.Forall2

namespace CatalogGate

/-! ## Severities -/

theorem Severity.tag_toList (s : Severity) : s.tag.toList = s.label.toList.map Char.toLower := by
  unfold tag String.toLower
  exact String.toList_map

theorem Severity.tag_inj {s t : Severity} (h : s.tag = t.tag) : s = t := by
  have hlist : s.label.toList.map Char.toLower = t.label.toList.map Char.toLower := by
    rw [← tag_toList, ← tag_toList, h]
  revert hlist
  cases s <;> cases t <;> decide

/-! ## One diagnostic -/

/-- The level is known, and the range does not end before it starts. -/
structure Diagnostic.Classifiable (d : Diagnostic) : Prop where
  level : 0 ≤ d.level ∧ d.level ≤ 3
  range : d.range.WellFormed

/-- The level is that of an error, or the code says that the format is not known. -/
def Diagnostic.FailsGate (d : Diagnostic) : Prop :=
  d.level = 0 ∨ d.code = .name Finding.unrecognizedFormat

/-- The finding is an error, or its code says that the format is not known. -/
def Finding.FailsGate (f : Finding) : Prop :=
  f.severity = .error ∨ f.code = .name Finding.unrecognizedFormat

theorem Severity.ofLevel?_eq_error_iff (level : Int) : ofLevel? level = some error ↔ level = 0 := by
  unfold ofLevel?
  repeat' split
  all_goals simp_all

/-- A finding is its diagnostic, with the severity of the level. -/
theorem Finding.classify_eq_ok_iff (d : Diagnostic) (f : Finding) :
    classify d = .ok f ↔ ∃ s, Severity.ofLevel? d.level = some s ∧ d.range.WellFormed ∧
      f = ⟨d.code, d.message, d.path, d.range, s⟩ := by
  unfold classify
  rcases hs : Severity.ofLevel? d.level with _ | s
  · simp
  · by_cases hr : d.range.WellFormed
    · simp [hr, eq_comm]
    · simp [hr]

/-- The finding that a diagnostic becomes: what it says stays, and its level has a name. -/
structure Diagnostic.Becomes (d : Diagnostic) (f : Finding) : Prop where
  code : f.code = d.code
  message : f.message = d.message
  path : f.path = d.path
  range : f.range = d.range
  severity : Severity.ofLevel? d.level = some f.severity
  inOrder : d.range.WellFormed

theorem Finding.classify_eq_ok_iff_becomes (d : Diagnostic) (f : Finding) :
    classify d = .ok f ↔ d.Becomes f := by
  rw [classify_eq_ok_iff]
  constructor
  · rintro ⟨s, hs, hr, rfl⟩
    exact ⟨rfl, rfl, rfl, rfl, hs, hr⟩
  · rintro ⟨hcode, hmessage, hpath, hrange, hs, hr⟩
    refine ⟨f.severity, hs, hr, ?_⟩
    rw [← hcode, ← hmessage, ← hpath, ← hrange]

theorem Diagnostic.Becomes.classifiable {d : Diagnostic} {f : Finding} (h : d.Becomes f) : d.Classifiable :=
  ⟨(Severity.ofLevel?_isSome_iff d.level).mp (by rw [h.severity]; rfl), h.inOrder⟩

theorem Finding.exists_classify_eq_ok {d : Diagnostic} (h : d.Classifiable) :
    ∃ f, classify d = .ok f := by
  obtain ⟨s, hs⟩ := Option.isSome_iff_exists.mp ((Severity.ofLevel?_isSome_iff d.level).mpr h.level)
  exact ⟨_, (classify_eq_ok_iff d _).mpr ⟨s, hs, h.range, rfl⟩⟩

theorem Finding.failsGate_iff_of_classify {d : Diagnostic} {f : Finding} (h : classify d = .ok f) :
    f.failsGate = true ↔ d.FailsGate := by
  obtain ⟨s, hs, _, rfl⟩ := (classify_eq_ok_iff d f).mp h
  have herror : s = .error ↔ d.level = 0 := by
    rw [← Severity.ofLevel?_eq_error_iff, hs, Option.some.injEq]
  simp [failsGate, Diagnostic.FailsGate, herror]

/-! ## All diagnostics of a document -/

namespace Assessment

theorem ofDiagnostics_nil : ofDiagnostics [] = .ok ⟨[]⟩ := rfl

theorem ofDiagnostics_cons {d : Diagnostic} {f : Finding} {ds : List Diagnostic} {a : Assessment}
    (hd : Finding.classify d = .ok f) (hds : ofDiagnostics ds = .ok a) :
    ofDiagnostics (d :: ds) = .ok ⟨f :: a.findings⟩ := by
  unfold ofDiagnostics at hds ⊢
  rw [List.mapM_cons, hd]
  cases hm : ds.mapM Finding.classify with
  | error e => simp [hm, bind, Except.bind] at hds
  | ok fs =>
    simp only [hm, bind, Except.bind, pure, Except.pure, Except.ok.injEq] at hds ⊢
    rw [← hds]

theorem exists_of_ofDiagnostics_cons {d : Diagnostic} {ds : List Diagnostic} {a : Assessment}
    (h : ofDiagnostics (d :: ds) = .ok a) :
    ∃ f rest, Finding.classify d = .ok f ∧ ofDiagnostics ds = .ok rest ∧ a = ⟨f :: rest.findings⟩ := by
  unfold ofDiagnostics at h ⊢
  rw [List.mapM_cons] at h
  rcases hd : Finding.classify d with e | f
  · simp [hd, bind, Except.bind] at h
  · rcases hm : ds.mapM Finding.classify with e | rest
    · simp [hd, hm, bind, Except.bind] at h
    · refine ⟨f, ⟨rest⟩, rfl, rfl, ?_⟩
      simpa [hd, hm, bind, Except.bind, pure, Except.pure, eq_comm] using h

/-- There is one finding for each diagnostic, and one of them fails the gate exactly if its diagnostic
does. -/
theorem exists_ofDiagnostics_eq_ok {ds : List Diagnostic} (h : ∀ d ∈ ds, d.Classifiable) :
    ∃ a, ofDiagnostics ds = .ok a ∧ a.findings.length = ds.length ∧
      (a.hasErrors = true ↔ ∃ d ∈ ds, d.FailsGate) := by
  induction ds with
  | nil => exact ⟨⟨[]⟩, ofDiagnostics_nil, rfl, by simp [hasErrors]⟩
  | cons d ds ih =>
    obtain ⟨a, ha, hlen, herr⟩ := ih fun e he => h e (List.mem_cons_of_mem d he)
    obtain ⟨f, hf⟩ := Finding.exists_classify_eq_ok (h d List.mem_cons_self)
    refine ⟨⟨f :: a.findings⟩, ofDiagnostics_cons hf ha, by simp [hlen], ?_⟩
    have hfail := Finding.failsGate_iff_of_classify hf
    simp only [hasErrors] at herr
    simp only [hasErrors, List.any_cons, Bool.or_eq_true, hfail, herr, List.mem_cons,
      exists_eq_or_imp]

/-- The findings are those that the diagnostics become, one by one. -/
theorem ofDiagnostics_eq_ok_iff (ds : List Diagnostic) (a : Assessment) :
    ofDiagnostics ds = .ok a ↔ List.Forall₂ Diagnostic.Becomes ds a.findings := by
  constructor
  · intro h
    induction ds generalizing a with
    | nil =>
      obtain rfl : ⟨[]⟩ = a := by simpa [ofDiagnostics_nil] using h
      exact .nil
    | cons d ds ih =>
      obtain ⟨f, rest, hf, hrest, rfl⟩ := exists_of_ofDiagnostics_cons h
      exact .cons ((Finding.classify_eq_ok_iff_becomes d f).mp hf) (ih rest hrest)
  · intro h
    obtain ⟨fs⟩ := a
    dsimp only at h
    induction h with
    | nil => exact ofDiagnostics_nil
    | cons hf _ ih => exact ofDiagnostics_cons ((Finding.classify_eq_ok_iff_becomes _ _).mpr hf) ih

/-- Diagnostics are refused exactly if one of them is no finding. -/
theorem ofDiagnostics_eq_error_iff (ds : List Diagnostic) :
    (∃ e, ofDiagnostics ds = .error e) ↔ ∃ d ∈ ds, ¬ d.Classifiable := by
  constructor
  · rintro ⟨e, he⟩
    by_contra hnone
    push Not at hnone
    obtain ⟨a, ha, _⟩ := exists_ofDiagnostics_eq_ok hnone
    rw [he] at ha
    exact nomatch ha
  · rintro ⟨d, hd, hnot⟩
    rcases h : ofDiagnostics ds with e | a
    · exact ⟨e, rfl⟩
    · have hall := ((ofDiagnostics_eq_ok_iff ds a).mp h).imp fun _ _ hb => And.intro hb.classifiable hb
      exact absurd (((List.forall₂_and_left ds a.findings).mp hall).1 d hd) hnot

theorem hasErrors_iff (a : Assessment) : a.hasErrors = true ↔ ∃ f ∈ a.findings, f.FailsGate := by
  simp [hasErrors, Finding.failsGate, Finding.FailsGate]

theorem hasErrors_eq_false_iff (a : Assessment) : a.hasErrors = false ↔ ∀ f ∈ a.findings, ¬ f.FailsGate := by
  rw [← Bool.not_eq_true, hasErrors_iff]
  simp

theorem findings_ne_nil_of_hasErrors {a : Assessment} (h : a.hasErrors = true) : a.findings ≠ [] := by
  intro hnil
  simp [hasErrors, hnil] at h

end Assessment

end CatalogGate
