-- The law of independence: what a ruleset reports about a document is what is reported without any rule, and behind
-- that rule by rule what each rule finds on its own.
import CatalogGate.Proofs.List.Traversal
import CatalogGate.Proofs.Ruleset.Diagnostics

namespace CatalogGate

/-! ## One rule -/

namespace Rule

/-- The diagnostics of a rule about a document: none if the text is no YAML or the rule is not for it. -/
def share (rule : Rule) (d : Document) : List Diagnostic :=
  match Yaml.parse (String.ofList d.text) with
  | .error _ => []
  | .ok root =>
    if rule.isEnabled && rule.appliesTo (OpenApi.Version.detect root) then
      rule.diagnostics root (Outline.ofDocument d)
    else []

theorem share_of_noYaml {rule : Rule} {d : Document} {e : Yaml.Error}
    (h : Yaml.parse (String.ofList d.text) = .error e) : rule.share d = [] := by
  simp only [share, h]

theorem share_off {rule : Rule} (h : rule.importance = .off) (d : Document) : rule.share d = [] := by
  unfold share
  split
  · rfl
  · simp [isEnabled, h]

theorem code_of_mem_share {rule : Rule} {d : Document} {x : Diagnostic} (h : x ∈ rule.share d) :
    x.code = .name rule.name := by
  unfold share at h
  split at h
  · exact absurd h List.not_mem_nil
  · split at h
    · exact diagnostics_code rule _ _ x h
    · exact absurd h List.not_mem_nil

theorem checkNode_relevel (rule : Rule) (importance : Importance) (level other : Int) (outline : Outline)
    (node : Selected) :
    { rule with importance }.checkNode other outline node =
      fun check => (rule.checkNode level outline node check).map fun x => { x with level := other } := by
  funext check
  simp only [checkNode, List.map_flatMap, List.map_map]
  rfl

theorem diagnostics_relevel {rule : Rule} {importance : Importance} {level other : Int}
    (hlevel : rule.importance.level? = some level) (hother : importance.level? = some other) (root : Json)
    (outline : Outline) :
    { rule with importance }.diagnostics root outline =
      (rule.diagnostics root outline).map fun x => { x with level := other } := by
  simp only [diagnostics, hlevel, hother, List.map_flatMap, checkNode_relevel rule importance level other]

/-- Another importance gives the same diagnostics at another level. -/
theorem share_relevel {rule : Rule} {importance : Importance} {level : Int} (henabled : rule.importance ≠ .off)
    (hlevel : importance.level? = some level) (d : Document) :
    { rule with importance }.share d = (rule.share d).map fun x => { x with level } := by
  have hbefore : rule.isEnabled = true := by simpa [isEnabled] using henabled
  have hafter : isEnabled { rule with importance } = true := (isEnabled_iff _).mpr ⟨level, hlevel⟩
  obtain ⟨old, hold⟩ := (isEnabled_iff rule).mp hbefore
  unfold share
  rw [hbefore, hafter]
  split
  · rfl
  · rename_i root _
    have happlies : appliesTo { rule with importance } (OpenApi.Version.detect root) =
        rule.appliesTo (OpenApi.Version.detect root) := rfl
    rw [happlies]
    split
    · exact diagnostics_relevel hold hlevel _ _
    · rfl

end Rule

/-! ## All rules -/

namespace Ruleset

def ofRules (rules : List Rule) : Ruleset := ⟨none, rules⟩

/-- What rules add to what is reported about a document without any rule. -/
def found (rules : List Rule) (d : Document) : List Diagnostic :=
  ((ofRules rules).diagnostics d).drop ((ofRules []).diagnostics d).length

theorem diagnostics_of_noRules {d : Document} {root : Json} (h : Yaml.parse (String.ofList d.text) = .ok root) :
    (ofRules []).diagnostics d = structureDiagnostics (OpenApi.Version.detect root) root (Outline.ofDocument d) := by
  simp only [diagnostics, h]
  exact List.append_nil _

theorem diagnostics_eq_share (r : Ruleset) (d : Document) :
    r.diagnostics d = (ofRules []).diagnostics d ++ r.rules.flatMap fun rule => rule.share d := by
  rcases hparse : Yaml.parse (String.ofList d.text) with e | root
  · simp [diagnostics_of_noYaml _ d e hparse, Rule.share_of_noYaml hparse]
  · have hrules : r.ruleDiagnostics (OpenApi.Version.detect root) root (Outline.ofDocument d) =
        r.rules.flatMap fun rule => rule.share d := by
      rw [ruleDiagnostics, activeRules, List.filter_filter, flatMap_filter]
      simp only [Rule.share, hparse, Bool.and_comm]
    rw [diagnostics_of_noRules hparse, ← hrules]
    simp only [diagnostics, hparse]

theorem found_eq_share (rules : List Rule) (d : Document) :
    found rules d = rules.flatMap fun rule => rule.share d := by
  rw [found, diagnostics_eq_share (ofRules rules)]
  exact List.drop_left

theorem found_single (rule : Rule) (d : Document) : found [rule] d = rule.share d := by
  rw [found_eq_share, List.flatMap_singleton]

/-- Under the name of a rule only the rules of this name report. -/
theorem filter_found (rules : List Rule) (name : String) (d : Document) :
    (found rules d).filter (·.code = .name name) = found (rules.filter (·.name = name)) d := by
  rw [found_eq_share, found_eq_share, List.filter_flatMap, flatMap_filter]
  congr 1
  funext rule
  by_cases hname : rule.name = name
  · simp only [hname, decide_true, if_true]
    exact List.filter_eq_self.mpr fun x hx => decide_eq_true (hname ▸ Rule.code_of_mem_share hx)
  · simp only [hname, decide_false]
    refine List.filter_eq_nil_iff.mpr fun x hx => ?_
    rw [Rule.code_of_mem_share hx]
    simpa using hname

theorem found_append (a b : List Rule) (d : Document) : found (a ++ b) d = found a d ++ found b d := by
  simp only [found_eq_share, List.flatMap_append]

theorem diagnostics_eq_found (r : Ruleset) (d : Document) :
    r.diagnostics d = (ofRules []).diagnostics d ++ found r.rules d := by
  rw [found_eq_share, diagnostics_eq_share]

theorem diagnostics_append (source : Option String) (a b : List Rule) (d : Document) :
    diagnostics ⟨source, a ++ b⟩ d = (ofRules a).diagnostics d ++ found b d := by
  rw [diagnostics_eq_found ⟨source, a ++ b⟩, diagnostics_eq_found (ofRules a), found_append, List.append_assoc]
  rfl

/-! ## The law -/

/-- No rule changes what the other rules report about a document. -/
structure Independent (d : Document) : Prop where
  unparsed : ∀ e, Yaml.parse (String.ofList d.text) = .error e →
    ∀ r : Ruleset, r.diagnostics d = [yamlDiagnostic d e]
  /-- Without any rule only what is wrong with the format or the structure is reported. -/
  structured : ∀ root, Yaml.parse (String.ofList d.text) = .ok root →
    (ofRules []).diagnostics d = structureDiagnostics (OpenApi.Version.detect root) root (Outline.ofDocument d)
  /-- What is reported without any rule comes first, and once. -/
  opened : ∀ r : Ruleset, r.diagnostics d = (ofRules []).diagnostics d ++ found r.rules d
  joined : ∀ source (a b : List Rule),
    diagnostics ⟨source, a ++ b⟩ d = (ofRules a).diagnostics d ++ found b d
  /-- Every rule adds what it would add alone, wherever it stands. -/
  apart : ∀ rules, found rules d = rules.flatMap fun rule => found [rule] d
  disabled : ∀ source (a b : List Rule) (rule : Rule),
    diagnostics ⟨source, a ++ { rule with importance := .off } :: b⟩ d = diagnostics ⟨source, a ++ b⟩ d
  reordered : ∀ a b : List Rule, a.Perm b → (found a d).Perm (found b d)
  /-- The rules of one name report the same under this name, whatever the other rules are. -/
  named : ∀ (r r' : Ruleset) name, r.rules.filter (·.name = name) = r'.rules.filter (·.name = name) →
    (r.diagnostics d).filter (·.code = .name name) = (r'.diagnostics d).filter (·.code = .name name)
  /-- Another importance than off changes the levels of the rule's own diagnostics and nothing else. -/
  leveled : ∀ source (a b : List Rule) (rule : Rule) importance level, rule.importance ≠ .off →
    importance.level? = some level →
    diagnostics ⟨source, a ++ rule :: b⟩ d = (ofRules a).diagnostics d ++ found [rule] d ++ found b d ∧
    diagnostics ⟨source, a ++ { rule with importance } :: b⟩ d =
      (ofRules a).diagnostics d ++ (found [rule] d).map (fun x => { x with level }) ++ found b d

theorem rules_independent (d : Document) : Independent d where
  unparsed e hparse r := diagnostics_of_noYaml r d e hparse
  structured root hparse := diagnostics_of_noRules hparse
  opened r := diagnostics_eq_found r d
  joined source a b := diagnostics_append source a b d
  apart rules := by simp only [found_single, found_eq_share rules]
  disabled source a b rule := by
    have hoff : found [{ rule with importance := .off }] d = [] := by
      rw [found_single, Rule.share_off rfl]
    rw [diagnostics_append, diagnostics_append, ← List.singleton_append, found_append, hoff, List.nil_append]
  reordered a b hperm := by
    rw [found_eq_share, found_eq_share]
    exact hperm.flatMap_right _
  named r r' name hsame := by
    rw [diagnostics_eq_found r, diagnostics_eq_found r', List.filter_append, List.filter_append, filter_found,
      filter_found, hsame]
  leveled source a b rule importance level henabled hlevel := by
    have hplaced (rule : Rule) : diagnostics ⟨source, a ++ rule :: b⟩ d =
        (ofRules a).diagnostics d ++ found [rule] d ++ found b d := by
      rw [diagnostics_append, ← List.singleton_append, found_append, List.append_assoc]
    refine ⟨hplaced rule, ?_⟩
    rw [hplaced, found_single, found_single, Rule.share_relevel henabled hlevel]

end Ruleset

end CatalogGate
