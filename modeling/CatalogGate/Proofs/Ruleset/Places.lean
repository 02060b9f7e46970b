-- The law of the places that a ruleset reports: all of them are in the document, and counting them never needs
-- more than 32 bits.
import CatalogGate.Proofs.Document.Places
import CatalogGate.Proofs.Ruleset.Diagnostics

namespace CatalogGate

open Document

namespace Rule

theorem covers_of_mem_diagnostics {r : Rule} {root : Json} {doc : Document} {d : Diagnostic}
    (h : d ∈ r.diagnostics root (.ofDocument doc)) : doc.Covers d.range := by
  rcases hlevel : r.importance.level? with _ | level
  · simp [diagnostics, hlevel] at h
  · rw [mem_diagnostics_iff hlevel] at h
    obtain ⟨_, _, _, _, _, _, t, _, _, _, rfl⟩ := h
    exact Outline.covers_rangeOf doc t.path

end Rule

namespace Ruleset

theorem covers_restOfLine {doc : Document} {start : Position} (h : doc.Holds start) :
    doc.Covers (restOfLine doc start) := by
  unfold restOfLine
  simp only
  split
  · exact ⟨h, holds_endOfLine h⟩
  · exact ⟨h, h⟩

theorem covers_zero (doc : Document) : doc.Covers .zero := ⟨holds_zero doc, holds_zero doc⟩

theorem covers_yamlDiagnostic (doc : Document) (e : Yaml.Error) : doc.Covers (yamlDiagnostic doc e).range := by
  unfold yamlDiagnostic
  cases e.offset with
  | none => exact covers_zero doc
  | some offset => exact covers_restOfLine (holds_positionAt doc offset)

theorem covers_of_mem_structureDiagnostics {version : Option OpenApi.Version} {root : Json} {doc : Document}
    {d : Diagnostic} (h : d ∈ structureDiagnostics version root (.ofDocument doc)) : doc.Covers d.range := by
  cases version with
  | none =>
    obtain rfl := List.mem_singleton.mp h
    exact covers_zero doc
  | some v =>
    obtain ⟨⟨path, message⟩, _, rfl⟩ := List.mem_map.mp h
    exact Outline.covers_rangeOf doc path

theorem covers_of_mem_diagnostics {r : Ruleset} {doc : Document} {d : Diagnostic} (h : d ∈ r.diagnostics doc) :
    doc.Covers d.range := by
  unfold diagnostics at h
  split at h
  · obtain rfl := List.mem_singleton.mp h
    exact covers_yamlDiagnostic doc _
  · rcases List.mem_append.mp h with hs | hr
    · exact covers_of_mem_structureDiagnostics hs
    · obtain ⟨rule, _, _, _, hrule⟩ := (mem_ruleDiagnostics_iff ..).mp hr
      exact Rule.covers_of_mem_diagnostics hrule

end Ruleset

end CatalogGate
