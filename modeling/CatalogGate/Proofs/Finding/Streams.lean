-- The law of whole streams of diagnostics: when they become findings, with which diagnostic they are refused, and what
-- the findings of a stream decide.
import CatalogGate.Proofs.Finding.Classification
import CatalogGate.Proofs.List.Traversal

namespace CatalogGate

/-! ## Severities in order -/

namespace Severity

/-- The levels of an engine and what they mean. -/
def levels : List (Int × Severity) := [(0, error), (1, warning), (2, information), (3, hint)]

theorem ofLevel?_eq_some_iff (level : Int) (s : Severity) : ofLevel? level = some s ↔ (level, s) ∈ levels := by
  unfold ofLevel? levels
  repeat' split
  all_goals cases s <;> simp_all

/-- Each severity is worse than those behind it. -/
def IsWorse (s t : Severity) : Prop := [s, t].Sublist [error, warning, information, hint]

theorem isWorse_iff (s t : Severity) : s.IsWorse t ↔ t.rank < s.rank := by
  unfold IsWorse
  cases s <;> cases t <;> decide

theorem eq_of_rank_eq {s t : Severity} (h : s.rank = t.rank) : s = t := by
  revert h
  cases s <;> cases t <;> decide

/-- It is one of several severities, and none of them is worse. -/
structure IsWorstOf (s : Severity) (severities : List Severity) : Prop where
  mem : s ∈ severities
  noWorse : ∀ t ∈ severities, ¬ t.IsWorse s

theorem IsWorstOf.unique {s t : Severity} {severities : List Severity} (hs : s.IsWorstOf severities)
    (ht : t.IsWorstOf severities) : s = t := by
  have hts := hs.noWorse t ht.mem
  have hst := ht.noWorse s hs.mem
  rw [isWorse_iff] at hts hst
  exact eq_of_rank_eq (by omega)

theorem worse_eq_or (s t : Severity) : s.worse t = s ∨ s.worse t = t := by
  unfold worse
  split
  · exact Or.inr rfl
  · exact Or.inl rfl

theorem rank_le_worse (s t : Severity) : s.rank ≤ (s.worse t).rank ∧ t.rank ≤ (s.worse t).rank := by
  unfold worse
  split
  · rename_i h
    exact ⟨Nat.le_of_lt h, Nat.le_refl _⟩
  · rename_i h
    exact ⟨Nat.le_refl _, Nat.le_of_not_lt h⟩

theorem isWorstOf_foldl (s : Severity) (rest : List Severity) : (rest.foldl worse s).IsWorstOf (s :: rest) := by
  induction rest generalizing s with
  | nil =>
    refine ⟨List.mem_singleton.mpr rfl, fun t ht => ?_⟩
    rw [List.mem_singleton.mp ht, isWorse_iff]
    exact Nat.lt_irrefl _
  | cons t rest ih =>
    -- The worse one of the first two stands for both of them.
    obtain ⟨hmem, hworst⟩ := ih (s.worse t)
    simp only [isWorse_iff, Nat.not_lt, List.forall_mem_cons] at hworst
    obtain ⟨hfirst, hrest⟩ := hworst
    obtain ⟨hs, ht⟩ := rank_le_worse s t
    rw [List.foldl_cons]
    constructor
    · rcases List.mem_cons.mp hmem with heq | hbehind
      · rw [heq]
        rcases worse_eq_or s t with h | h <;> simp [h]
      · exact List.mem_cons_of_mem _ (List.mem_cons_of_mem _ hbehind)
    · simp only [isWorse_iff, Nat.not_lt, List.forall_mem_cons]
      exact ⟨Nat.le_trans hs hfirst, Nat.le_trans ht hfirst, hrest⟩

theorem worst?_eq_some_iff (severities : List Severity) (s : Severity) :
    worst? severities = some s ↔ s.IsWorstOf severities := by
  cases severities with
  | nil => exact ⟨nofun, fun h => nomatch h.mem⟩
  | cons t rest =>
    have hworst := isWorstOf_foldl t rest
    rw [worst?, Option.some.injEq]
    exact ⟨fun h => h ▸ hworst, hworst.unique⟩

end Severity

/-! ## Refusals -/

/-- Why a diagnostic is no finding. Its range matters only if its level is known. -/
inductive Diagnostic.IsRefused (d : Diagnostic) : ClassificationError → Prop
  | level (unknown : ¬ (0 ≤ d.level ∧ d.level ≤ 3)) : d.IsRefused (.unknownLevel d.code d.level)
  | range (known : 0 ≤ d.level ∧ d.level ≤ 3) (inverted : d.range.stop < d.range.start) :
    d.IsRefused (.invertedRange d.code)

theorem Range.not_wellFormed_iff (r : Range) : ¬ r.WellFormed ↔ r.stop < r.start :=
  Decidable.not_not

theorem Finding.classify_eq_error_iff (d : Diagnostic) (e : ClassificationError) :
    classify d = .error e ↔ d.IsRefused e := by
  have hlevel := Severity.ofLevel?_isSome_iff d.level
  unfold classify
  rcases hs : Severity.ofLevel? d.level with _ | s
  · have hunknown : ¬ (0 ≤ d.level ∧ d.level ≤ 3) := by
      rw [← hlevel, hs]
      exact Bool.false_ne_true
    constructor
    · intro h
      obtain rfl := Except.error.inj h
      exact .level hunknown
    · rintro (_ | ⟨known, _⟩)
      · rfl
      · exact absurd known hunknown
  · have hknown : 0 ≤ d.level ∧ d.level ≤ 3 := by
      rw [← hlevel, hs]
      rfl
    by_cases hr : d.range.WellFormed
    · simp only [if_pos hr]
      refine ⟨nofun, ?_⟩
      rintro (unknown | ⟨_, inverted⟩)
      · exact absurd hknown unknown
      · exact absurd hr ((Range.not_wellFormed_iff _).mpr inverted)
    · simp only [if_neg hr]
      constructor
      · intro h
        obtain rfl := Except.error.inj h
        exact .range hknown ((Range.not_wellFormed_iff _).mp hr)
      · rintro (unknown | _)
        · exact absurd hknown unknown
        · rfl

theorem Diagnostic.classifiable_iff (d : Diagnostic) : d.Classifiable ↔ ∃ f, Finding.classify d = .ok f := by
  constructor
  · exact Finding.exists_classify_eq_ok
  · rintro ⟨f, hf⟩
    exact ((Finding.classify_eq_ok_iff_becomes d f).mp hf).classifiable

namespace Assessment

/-! ## Streams -/

theorem ofDiagnostics_eq (ds : List Diagnostic) : ofDiagnostics ds = mk <$> ds.mapM Finding.classify := rfl

/-- What is refused is the first diagnostic that is no finding. -/
theorem ofDiagnostics_eq_error_iff_first (ds : List Diagnostic) (e : ClassificationError) :
    ofDiagnostics ds = .error e ↔
      ∃ before d after, ds = before ++ d :: after ∧ (∀ x ∈ before, x.Classifiable) ∧ d.IsRefused e := by
  have hmap : ofDiagnostics ds = .error e ↔ ds.mapM Finding.classify = .error e := by
    rw [ofDiagnostics_eq]
    rcases ds.mapM Finding.classify with e' | fs
    · exact ⟨fun h => congrArg _ (Except.error.inj h), fun h => congrArg _ (Except.error.inj h)⟩
    · exact ⟨nofun, nofun⟩
  rw [hmap, mapM_eq_error_iff]
  simp only [Diagnostic.classifiable_iff, Finding.classify_eq_error_iff]

theorem exists_ofDiagnostics_iff (ds : List Diagnostic) :
    (∃ a, ofDiagnostics ds = .ok a) ↔ ∀ d ∈ ds, d.Classifiable := by
  constructor
  · rintro ⟨a, ha⟩
    by_contra hnot
    push Not at hnot
    obtain ⟨e, he⟩ := (ofDiagnostics_eq_error_iff ds).mpr hnot
    exact nomatch ha.symm.trans he
  · intro h
    obtain ⟨a, ha, _⟩ := exists_ofDiagnostics_eq_ok h
    exact ⟨a, ha⟩

/-- The findings of two streams one behind the other. -/
theorem ofDiagnostics_append_eq_ok_iff (ds es : List Diagnostic) (c : Assessment) :
    ofDiagnostics (ds ++ es) = .ok c ↔
      ∃ a b, ofDiagnostics ds = .ok a ∧ ofDiagnostics es = .ok b ∧ c = ⟨a.findings ++ b.findings⟩ := by
  simp only [ofDiagnostics_eq, List.mapM_append, map_eq_ok_iff, bind_eq_ok_iff]
  constructor
  · rintro ⟨_, ⟨fs, hfs, gs, hgs, heq⟩, rfl⟩
    obtain rfl := Except.ok.inj heq
    exact ⟨⟨fs⟩, ⟨gs⟩, ⟨fs, hfs, rfl⟩, ⟨gs, hgs, rfl⟩, rfl⟩
  · rintro ⟨_, _, ⟨fs, hfs, rfl⟩, ⟨gs, hgs, rfl⟩, rfl⟩
    exact ⟨fs ++ gs, ⟨fs, hfs, gs, hgs, rfl⟩, rfl⟩

theorem hasErrors_append (fs gs : List Finding) :
    hasErrors ⟨fs ++ gs⟩ = (hasErrors ⟨fs⟩ || hasErrors ⟨gs⟩) := List.any_append

theorem count_add_eq_size (a : Assessment) :
    a.count .error + a.count .warning + a.count .information + a.count .hint = a.size := by
  obtain ⟨fs⟩ := a
  induction fs with
  | nil => rfl
  | cons f fs ih =>
    simp only [count, size, List.countP_cons, List.length_cons] at ih ⊢
    cases f.severity <;> simp <;> omega

theorem length_eq_size {ds : List Diagnostic} {a : Assessment} (h : ofDiagnostics ds = .ok a) : a.size = ds.length :=
  ((ofDiagnostics_eq_ok_iff ds a).mp h).length_eq.symm

theorem hasErrors_iff_of_ofDiagnostics {ds : List Diagnostic} {a : Assessment} (h : ofDiagnostics ds = .ok a) :
    a.hasErrors = true ↔ ∃ d ∈ ds, d.FailsGate := by
  obtain ⟨a', ha', _, herrors⟩ := exists_ofDiagnostics_eq_ok ((exists_ofDiagnostics_iff ds).mp ⟨a, h⟩)
  obtain rfl : a' = a := Except.ok.inj (ha'.symm.trans h)
  exact herrors

/-! ## The law -/

/-- What the findings of a stream of diagnostics say about it. -/
structure SumsUp (a : Assessment) (ds : List Diagnostic) : Prop where
  /-- One finding for each diagnostic, in the same order and with what the diagnostic says. -/
  findings : List.Forall₂ Diagnostic.Becomes ds a.findings
  severities : List.Forall₂ (fun d f => (d.level, f.severity) ∈ Severity.levels) ds a.findings
  errors : a.hasErrors = true ↔ ∃ d ∈ ds, d.level = 0 ∨ d.code = .name "unrecognized-format"
  worst : ∀ s, a.worst? = some s ↔ s.IsWorstOf (a.findings.map Finding.severity)
  size : a.size = ds.length
  counts : a.count .error + a.count .warning + a.count .information + a.count .hint = a.size

theorem sumsUp_of_ofDiagnostics {ds : List Diagnostic} {a : Assessment} (h : ofDiagnostics ds = .ok a) :
    a.SumsUp ds where
  findings := (ofDiagnostics_eq_ok_iff ds a).mp h
  severities := ((ofDiagnostics_eq_ok_iff ds a).mp h).imp fun d f hf =>
    (Severity.ofLevel?_eq_some_iff d.level f.severity).mp hf.severity
  errors := hasErrors_iff_of_ofDiagnostics h
  worst := Severity.worst?_eq_some_iff _
  size := length_eq_size h
  counts := count_add_eq_size a

/-- A stream of diagnostics becomes findings exactly if each diagnostic does, and is refused for the first that does
not. The findings say what the stream says, and those of two streams fail the gate if those of one of them do. -/
theorem streams_become_findings (ds : List Diagnostic) :
    ((∃ a, ofDiagnostics ds = .ok a) ↔ ∀ d ∈ ds, (0 ≤ d.level ∧ d.level ≤ 3) ∧ d.range.start ≤ d.range.stop) ∧
      (∀ e, ofDiagnostics ds = .error e ↔
        ∃ before d after, ds = before ++ d :: after ∧ (∀ x ∈ before, x.Classifiable) ∧ d.IsRefused e) ∧
      (∀ a, ofDiagnostics ds = .ok a → a.SumsUp ds) ∧
      ∀ es a b, ofDiagnostics ds = .ok a → ofDiagnostics es = .ok b →
        ∃ c, ofDiagnostics (ds ++ es) = .ok c ∧ c.findings = a.findings ++ b.findings ∧
          c.hasErrors = (a.hasErrors || b.hasErrors) := by
  refine ⟨?_, ofDiagnostics_eq_error_iff_first ds, fun a => sumsUp_of_ofDiagnostics, fun es a b ha hb => ?_⟩
  · rw [exists_ofDiagnostics_iff]
    constructor
    · intro h d hd
      exact ⟨(h d hd).level, (h d hd).range⟩
    · intro h d hd
      exact ⟨(h d hd).1, (h d hd).2⟩
  · refine ⟨⟨a.findings ++ b.findings⟩, ?_, rfl, hasErrors_append a.findings b.findings⟩
    exact (ofDiagnostics_append_eq_ok_iff ds es _).mpr ⟨a, b, ha, hb, rfl⟩

/-- A hint that the format is not known twice, and behind it a number and a range that is refused for its level. -/
theorem streams_become_findings_repeated :
    let unknown : Diagnostic := ⟨.name "unrecognized-format", "no format", [], .zero, 3⟩
    let numbered : Diagnostic := ⟨.number 404, "not found", [.key "paths"], ⟨⟨2, 0⟩, ⟨2, 5⟩⟩, 1⟩
    let broken : Diagnostic := ⟨.name "rule", "backwards", [], ⟨⟨4, 0⟩, ⟨3, 0⟩⟩, 4⟩
    (∃ a, ofDiagnostics [unknown, unknown, numbered] = .ok a ∧ a.hasErrors = true ∧ a.worst? = some .warning ∧
        a.size = 3) ∧
      ofDiagnostics [numbered, broken, unknown] = .error (.unknownLevel (.name "rule") 4) := by
  intro unknown numbered broken
  constructor
  · obtain ⟨hok, _, hsums, _⟩ := streams_become_findings [unknown, unknown, numbered]
    obtain ⟨a, ha⟩ := hok.mpr (by decide)
    have hsum := hsums a ha
    refine ⟨a, ha, hsum.errors.mpr ⟨unknown, by simp, Or.inr rfl⟩, ?_, hsum.size⟩
    obtain rfl := Except.ok.inj ha
    rfl
  · refine ((streams_become_findings [numbered, broken, unknown]).2.1 _).mpr ?_
    refine ⟨[numbered], broken, [unknown], rfl, ?_, .level (by decide)⟩
    simpa using ⟨by decide, by decide⟩

end Assessment

end CatalogGate
