-- The law of services that run a ruleset: everything that the ruleset reports is a finding in the document,
-- so that no upload is ever unclassifiable.
import CatalogGate.Proofs.Ruleset.Places
import CatalogGate.Proofs.Service.Endpoints

namespace CatalogGate

/-! ## Places -/

namespace Document

theorem holds_start_of_line {d : Document} {n : Nat} (h : n < d.lineCount) : d.Holds ⟨n, 0⟩ := by
  rw [lineCount_eq] at h
  exact ⟨_, List.getElem?_eq_getElem h, Nat.zero_le _⟩

/-- No place that is computed for the document needs more than 32 bits for its line or its character. -/
structure PlacesFit (d : Document) : Prop where
  offsets : ∀ offset, (d.positionAt offset).Fits
  lines : ∀ n < d.lineCount, (d.endOfLine n).Fits
  entries : ∀ e ∈ (Outline.ofDocument d).entries, e.range.start.Fits ∧ e.range.stop.Fits
  paths : ∀ path, ((Outline.ofDocument d).rangeOf path).start.Fits ∧ ((Outline.ofDocument d).rangeOf path).stop.Fits

theorem placesFit_of_load {name : String} {bytes : ByteArray} {d : Document} (h : load name bytes = .ok d) :
    d.PlacesFit := by
  have hsize := length_text_lt h
  have hcovers {range : Range} (hrange : d.Covers range) : range.start.Fits ∧ range.stop.Fits :=
    ⟨fits_of_holds hsize hrange.start, fits_of_holds hsize hrange.stop⟩
  refine ⟨?_, ?_, ?_, ?_⟩
  · intro offset
    exact fits_of_holds hsize (holds_positionAt d offset)
  · intro n hn
    exact fits_of_holds hsize (holds_endOfLine (holds_start_of_line hn))
  · intro e he
    exact hcovers (Outline.covers_of_mem_entries he)
  · intro path
    exact hcovers (Outline.covers_rangeOf d path)

end Document

/-! ## Answers -/

namespace Service

theorem not_isUnclassifiable (r : Ruleset) (u : Upload) : ¬ u.IsUnclassifiable r.engine := by
  rintro ⟨d, ds, ⟨_, hds⟩, x, hx, hnot⟩
  obtain rfl := Option.some.inj hds
  exact hnot (r.diagnostics_classifiable d x hx)

/-- The answer that a diagnostic is no finding never comes. -/
theorem reply_ne_unclassifiable {r : Ruleset} {s : Setup} (hengine : s.engine = r.engine) (m : Metrics)
    (seconds : Float) (request : Http.Request) (detail place : String) :
    (reply s m seconds request).response ≠ (Http.Problem.unclassifiableFinding detail place).response := by
  let v : Visit := ⟨s, seconds, request⟩
  intro h
  change (v.serve m).response = _ at h
  have hstatus : (v.serve m).response.status = 422 := by rw [h]; rfl
  rcases hendpoint : v.endpoint? with _ | action
  · have hplain := (Visit.serve_of_no_endpoint hendpoint m).status
    omega
  · rcases hreceive : Upload.receive s.limits request.contentType request.body with rejection | u
    · rw [Visit.serve_of_endpoint hendpoint] at hstatus
      simp [v, uploadReply, hreceive, Http.Problem.invalidUpload, Http.Problem.response] at hstatus
    · have hbrings : v.Brings s action u := ⟨rfl, hendpoint, hreceive⟩
      have hanswer := (hbrings.response_eq m).symm.trans h
      have hcrash : Gate.validate s.engine u ≠ .error .crash :=
        Gate.validate_ne_crash (by simp [hengine, Ruleset.engine]) u
      exact not_isUnclassifiable r u (hengine ▸ isUnclassifiable_of_answer hcrash action hanswer)

end Service

/-- Every diagnostic of a ruleset about a document that was loaded has a known level and a range in the document,
and all of them are findings. -/
theorem Ruleset.diagnostics_in_document (r : Ruleset) {name : String} {bytes : ByteArray} {d : Document}
    (hload : Document.load name bytes = .ok d) :
    (∀ x ∈ r.diagnostics d, (0 ≤ x.level ∧ x.level ≤ 3) ∧ x.range.start ≤ x.range.stop ∧ d.Covers x.range) ∧
      d.PlacesFit ∧
      (∃ a, Assessment.ofDiagnostics (r.diagnostics d) = .ok a) ∧
      ∀ s : Service.Setup, s.engine = r.engine → ∀ m seconds request detail place,
        (Service.reply s m seconds request).response ≠
          (Http.Problem.unclassifiableFinding detail place).response := by
  have hclass := r.diagnostics_classifiable d
  refine ⟨?_, Document.placesFit_of_load hload, ?_, ?_⟩
  · intro x hx
    exact ⟨(hclass x hx).level, (hclass x hx).range, covers_of_mem_diagnostics hx⟩
  · obtain ⟨a, ha, _⟩ := Assessment.exists_ofDiagnostics_eq_ok hclass
    exact ⟨a, ha⟩
  · intro s hengine
    exact Service.reply_ne_unclassifiable hengine

/-! A text that is no YAML, with characters of several bytes and carriage returns. -/

def brokenText : String := "a: b\r\nключ: é: ы\r\n"

def brokenDocument : Document := ⟨"api.yaml", brokenText.toList⟩

/-- What the parser says about the text. -/
def brokenDiagnostic : Diagnostic where
  code := .name "parser"
  message := "mapping values are not allowed in this context at line 2 column 8"
  path := []
  range := ⟨⟨1, 7⟩, ⟨1, 10⟩⟩
  level := 0

/-- Whether a text was refused where the parser stopped. -/
def isBroken : Except Yaml.Error Json → Bool
  | .error e => e.message = brokenDiagnostic.message ∧ e.offset = some 18
  | .ok _ => false

theorem diagnostics_brokenText (r : Ruleset) : r.diagnostics brokenDocument = [brokenDiagnostic] := by
  have hparse : isBroken (Yaml.parse (String.ofList brokenText.toList)) = true := by decide +kernel
  have hplace : brokenDocument.positionAt 18 = ⟨1, 7⟩ := by
    rw [Document.positionAt_eq]
    rfl
  have hline : brokenDocument.line? 1 = some "ключ: é: ы".toList := by
    rw [Document.line?_eq]
    rfl
  have hrange : Ruleset.restOfLine brokenDocument ⟨1, 7⟩ = ⟨⟨1, 7⟩, ⟨1, 10⟩⟩ := by
    simp only [Ruleset.restOfLine, Document.endOfLine, hline]
    rfl
  cases hread : Yaml.parse (String.ofList brokenText.toList) with
  | ok root =>
    rw [hread] at hparse
    cases hparse
  | error e =>
    rw [hread] at hparse
    obtain ⟨hmessage, hoffset⟩ := of_decide_eq_true hparse
    rw [Ruleset.diagnostics_of_noYaml r brokenDocument e hread]
    simp only [Ruleset.yamlDiagnostic, hmessage, hoffset, hplace, hrange]
    rfl

/-- The range reaches from where the parser stopped to the end of the line, which is in front of the carriage
return. -/
theorem Ruleset.diagnostics_in_document_broken :
    Document.load "api.yaml" brokenText.toUTF8 = .ok brokenDocument ∧
      diagnostics ⟨none, []⟩ brokenDocument = [brokenDiagnostic] ∧ brokenDocument.Covers brokenDiagnostic.range := by
  have hload : Document.load "api.yaml" brokenText.toUTF8 = .ok brokenDocument :=
    Document.load_of_encoded "api.yaml" (by decide) String.utf8Encode_toList.symm
  have hfound := diagnostics_brokenText ⟨none, []⟩
  refine ⟨hload, hfound, ((diagnostics_in_document ⟨none, []⟩ hload).1 brokenDiagnostic ?_).2.2⟩
  rw [hfound]
  exact List.mem_singleton_self _

end CatalogGate
