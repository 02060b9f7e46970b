-- The laws of the diagnostics of a ruleset. All of them become findings, and the gate fails exactly if the
-- text is no YAML, its format is not known, its structure is wrong, or a rule blocks it.
import CatalogGate.Proofs.Finding.Classification
import CatalogGate.Ruleset.Evaluation

namespace CatalogGate

/-! ## Ranges -/

theorem Outline.Entry.range_wellFormed (e : Entry) : e.range.WellFormed := by
  unfold Range.WellFormed
  rw [Position.le_iff]
  exact Or.inr ⟨rfl, Nat.le_max_right e.lineEnd e.column⟩

theorem Outline.rangeOf_wellFormed (o : Outline) (path : Json.Path) : (o.rangeOf path).WellFormed := by
  unfold rangeOf
  split
  · exact Entry.range_wellFormed _
  · exact Range.point_wellFormed _

theorem Ruleset.restOfLine_wellFormed (d : Document) (start : Position) :
    (restOfLine d start).WellFormed := by
  unfold restOfLine
  simp only
  split
  · assumption
  · exact Range.point_wellFormed _

/-! ## One rule -/

namespace Rule

/-- Some check of the rule says something about one of its targets. -/
def Reports (r : Rule) (root : Json) : Prop :=
  ∃ query ∈ r.given, ∃ node ∈ query.select root, ∃ check ∈ r.checks,
    ∃ t ∈ check.field.targets node, check.function.messages t.value (propertyOf t.path) ≠ []

/-- What the rule reports keeps a document from being published. -/
def IsBlocking (r : Rule) : Prop := r.importance = .error ∨ r.name = Finding.unrecognizedFormat

/-- The rule is switched on and for this version, and it keeps a document from being published. -/
structure Blocks (r : Rule) (version : OpenApi.Version) (root : Json) : Prop where
  enabled : r.importance ≠ .off
  applies : r.formats = [] ∨ ∃ filter ∈ r.formats, filter.admits version = true
  blocking : r.IsBlocking
  reports : r.Reports root

theorem Importance.level?_range {i : Importance} {level : Int} (h : i.level? = some level) :
    0 ≤ level ∧ level ≤ 3 := by
  cases i <;> simp [level?] at h <;> omega

theorem Importance.level?_eq_zero_iff {i : Importance} {level : Int} (h : i.level? = some level) :
    level = 0 ↔ i = .error := by
  cases i <;> simp [level?] at h <;> simp [← h]

theorem isEnabled_iff (r : Rule) : r.isEnabled = true ↔ ∃ level, r.importance.level? = some level := by
  unfold isEnabled
  cases r.importance <;> simp [Importance.level?]

theorem appliesTo_some_iff (r : Rule) (version : OpenApi.Version) :
    r.appliesTo (some version) = true ↔
      r.formats = [] ∨ ∃ filter ∈ r.formats, filter.admits version = true := by
  simp [appliesTo, isAgnostic]

/-- A diagnostic of a rule is one message of a check about a target, at the rule's level. -/
theorem mem_diagnostics_iff {r : Rule} {level : Int} (hlevel : r.importance.level? = some level)
    (root : Json) (outline : Outline) (d : Diagnostic) :
    d ∈ r.diagnostics root outline ↔ ∃ query ∈ r.given, ∃ node ∈ query.select root,
      ∃ check ∈ r.checks, ∃ t ∈ check.field.targets node,
        ∃ error ∈ check.function.messages t.value (propertyOf t.path),
          d = ⟨.name r.name, r.messageFor error t, t.path, outline.rangeOf t.path, level⟩ := by
  unfold diagnostics
  simp only [hlevel, List.mem_flatMap, checkNode, List.mem_map, eq_comm (a := d)]

theorem classifiable_of_mem_diagnostics {r : Rule} {root : Json} {outline : Outline} {d : Diagnostic}
    (h : d ∈ r.diagnostics root outline) : d.Classifiable := by
  rcases hlevel : r.importance.level? with _ | level
  · simp [diagnostics, hlevel] at h
  · rw [mem_diagnostics_iff hlevel] at h
    obtain ⟨_, _, _, _, _, _, t, _, _, _, rfl⟩ := h
    exact ⟨Importance.level?_range hlevel, Outline.rangeOf_wellFormed outline t.path⟩

/-- A rule that is on fails the gate exactly if it reports something and its reports are blocking. -/
theorem exists_failing_diagnostic_iff {r : Rule} (henabled : r.isEnabled = true) (root : Json)
    (outline : Outline) :
    (∃ d ∈ r.diagnostics root outline, d.FailsGate) ↔ r.IsBlocking ∧ r.Reports root := by
  obtain ⟨level, hlevel⟩ := (isEnabled_iff r).mp henabled
  simp only [mem_diagnostics_iff hlevel]
  constructor
  · rintro ⟨_, ⟨query, hq, node, hn, check, hc, t, ht, error, he, rfl⟩, hfails⟩
    refine ⟨?_, query, hq, node, hn, check, hc, t, ht, List.ne_nil_of_mem he⟩
    rcases hfails with hzero | hname
    · exact Or.inl ((Importance.level?_eq_zero_iff hlevel).mp hzero)
    · exact Or.inr (Code.name.inj hname)
  · rintro ⟨hblocking, query, hq, node, hn, check, hc, t, ht, hmessages⟩
    obtain ⟨error, he⟩ := List.exists_mem_of_ne_nil _ hmessages
    refine ⟨_, ⟨query, hq, node, hn, check, hc, t, ht, error, he, rfl⟩, ?_⟩
    rcases hblocking with herror | hname
    · exact Or.inl ((Importance.level?_eq_zero_iff hlevel).mpr herror)
    · exact Or.inr (congrArg Code.name hname)

end Rule

/-! ## All parts of a ruleset's evaluation -/

namespace Ruleset

/-- The structure of a document is in order, and no rule blocks it. -/
structure Clears (r : Ruleset) (version : OpenApi.Version) (root : Json) : Prop where
  structured : OpenApi.Structure.violations version root = []
  unblocked : ∀ rule ∈ r.rules, ¬ rule.Blocks version root

theorem yamlDiagnostic_classifiable (d : Document) (e : Yaml.Error) :
    (yamlDiagnostic d e).Classifiable := by
  refine ⟨by simp [yamlDiagnostic], ?_⟩
  unfold yamlDiagnostic
  cases e.offset with
  | none => exact Range.point_wellFormed _
  | some offset => exact restOfLine_wellFormed d _

theorem structureDiagnostics_classifiable {version : Option OpenApi.Version} {root : Json}
    {outline : Outline} {d : Diagnostic} (h : d ∈ structureDiagnostics version root outline) :
    d.Classifiable := by
  cases version with
  | none =>
    obtain rfl := List.mem_singleton.mp h
    exact ⟨by simp, Range.point_wellFormed _⟩
  | some v =>
    obtain ⟨⟨path, message⟩, _, rfl⟩ := List.mem_map.mp h
    exact ⟨by simp, Outline.rangeOf_wellFormed outline path⟩

theorem mem_ruleDiagnostics_iff (r : Ruleset) (version : Option OpenApi.Version) (root : Json)
    (outline : Outline) (d : Diagnostic) :
    d ∈ r.ruleDiagnostics version root outline ↔
      ∃ rule ∈ r.rules, rule.isEnabled = true ∧ rule.appliesTo version = true ∧
        d ∈ rule.diagnostics root outline := by
  simp only [ruleDiagnostics, activeRules, List.mem_flatMap, List.mem_filter, and_assoc]

theorem diagnostics_classifiable (r : Ruleset) (doc : Document) :
    ∀ d ∈ r.diagnostics doc, d.Classifiable := by
  intro d hd
  unfold diagnostics at hd
  split at hd
  · obtain rfl := List.mem_singleton.mp hd
    exact yamlDiagnostic_classifiable doc _
  · rcases List.mem_append.mp hd with hs | hr
    · exact structureDiagnostics_classifiable hs
    · obtain ⟨rule, _, _, _, hrule⟩ := (mem_ruleDiagnostics_iff ..).mp hr
      exact Rule.classifiable_of_mem_diagnostics hrule

/-- An unknown format fails the gate by its code, and any wrong structure by its level. -/
theorem exists_failing_structureDiagnostic_iff (version : Option OpenApi.Version) (root : Json)
    (outline : Outline) :
    (∃ d ∈ structureDiagnostics version root outline, d.FailsGate) ↔
      ∀ v, version = some v → OpenApi.Structure.violations v root ≠ [] := by
  cases version with
  | none => simp [structureDiagnostics, Diagnostic.FailsGate]
  | some v =>
    simp only [structureDiagnostics, Option.some.injEq, forall_eq']
    constructor
    · rintro ⟨d, hd, _⟩ hnil
      simp [hnil] at hd
    · intro hne
      obtain ⟨violation, hv⟩ := List.exists_mem_of_ne_nil _ hne
      exact ⟨_, List.mem_map_of_mem hv, Or.inl rfl⟩

theorem exists_failing_ruleDiagnostic_iff (r : Ruleset) (v : OpenApi.Version) (root : Json)
    (outline : Outline) :
    (∃ d ∈ r.ruleDiagnostics (some v) root outline, d.FailsGate) ↔
      ∃ rule ∈ r.rules, rule.Blocks v root := by
  simp only [mem_ruleDiagnostics_iff]
  constructor
  · rintro ⟨d, ⟨rule, hmem, henabled, happlies, hd⟩, hfails⟩
    obtain ⟨hblocking, hreports⟩ :=
      (Rule.exists_failing_diagnostic_iff henabled root outline).mp ⟨d, hd, hfails⟩
    exact ⟨rule, hmem, by simpa [Rule.isEnabled] using henabled,
      (Rule.appliesTo_some_iff rule v).mp happlies, hblocking, hreports⟩
  · rintro ⟨rule, hmem, hblocks⟩
    have henabled : rule.isEnabled = true := by simpa [Rule.isEnabled] using hblocks.enabled
    obtain ⟨d, hd, hfails⟩ := (Rule.exists_failing_diagnostic_iff henabled root outline).mpr
      ⟨hblocks.blocking, hblocks.reports⟩
    exact ⟨d, ⟨rule, hmem, henabled, (Rule.appliesTo_some_iff rule v).mpr hblocks.applies, hd⟩, hfails⟩

/-- No diagnostic fails the gate exactly if the text is YAML in a known format and the ruleset clears it. -/
theorem no_failing_diagnostic_iff (r : Ruleset) (doc : Document) :
    (¬ ∃ d ∈ r.diagnostics doc, d.FailsGate) ↔
      ∃ root version, Yaml.parse (String.ofList doc.text) = .ok root ∧
        OpenApi.Version.detect root = some version ∧ r.Clears version root := by
  rcases hparse : Yaml.parse (String.ofList doc.text) with e | root
  · simp [diagnostics_of_noYaml r doc e hparse, Diagnostic.FailsGate, yamlDiagnostic]
  · simp only [diagnostics, hparse, List.mem_append, or_and_right, exists_or,
      exists_failing_structureDiagnostic_iff, Except.ok.injEq]
    rcases hversion : OpenApi.Version.detect root with _ | v
    · simp [hversion]
    · simp only [Option.some.injEq, forall_eq', exists_failing_ruleDiagnostic_iff, not_or, Classical.not_not,
        not_exists, not_and]
      constructor
      · rintro ⟨hstructured, hunblocked⟩
        exact ⟨root, v, rfl, hversion, hstructured, hunblocked⟩
      · rintro ⟨_, v', rfl, hv', hclears⟩
        obtain rfl : v = v' := Option.some.inj (hversion.symm.trans hv')
        exact ⟨hclears.structured, hclears.unblocked⟩

end Ruleset

end CatalogGate
