-- How an upload is judged: whether it can be read, whether what the engine says about it are findings, and
-- which findings these are.
import CatalogGate.Proofs.Gate.Decision

namespace CatalogGate

/-! ## Reading -/

/-- The bytes are a text, and the places in it fit into 32 bits. -/
structure Document.IsReadable (bytes : ByteArray) : Prop where
  fits : bytes.size < UInt32.size
  encoded : Document.IsEncoded bytes

namespace Upload

theorem exists_isOf_iff (u : Upload) : (∃ d : Document, d.IsOf u.filename u.bytes) ↔ Document.IsReadable u.bytes := by
  constructor
  · rintro ⟨d, hfits, _, cs, hcs, _⟩
    exact ⟨hfits, cs, hcs⟩
  · rintro ⟨hfits, cs, hcs⟩
    exact ⟨⟨u.filename, Document.dropMark cs⟩, hfits, rfl, cs, hcs, rfl⟩

theorem load_eq_error_iff (u : Upload) :
    (∃ e, Document.load u.filename u.bytes = .error e) ↔ ¬ Document.IsReadable u.bytes := by
  rw [← exists_isOf_iff, not_exists]
  simp only [← Document.load_eq_ok_iff]
  rcases Document.load u.filename u.bytes with e | d <;> simp

/-- The engine has so much to say about the document of an upload. -/
structure Yields (u : Upload) (engine : Gate.Engine) (d : Document) (ds : List Diagnostic) : Prop where
  loaded : d.IsOf u.filename u.bytes
  evaluated : engine.evaluate d = some ds

/-- The findings on the document of an upload, one for each diagnostic of the engine and in their order. -/
def IsAssessed (u : Upload) (engine : Gate.Engine) (d : Document) (a : Assessment) : Prop :=
  ∃ ds, u.Yields engine d ds ∧ List.Forall₂ Diagnostic.Becomes ds a.findings

/-- Some diagnostic of the engine about the document of an upload is no finding. -/
def IsUnclassifiable (u : Upload) (engine : Gate.Engine) : Prop :=
  ∃ d ds, u.Yields engine d ds ∧ ∃ x ∈ ds, ¬ x.Classifiable

end Upload

/-! ## Judging -/

namespace Gate

theorem validate_eq_load_iff (engine : Engine) (u : Upload) (e : LoadError) :
    validate engine u = .error (.load e) ↔ Document.load u.filename u.bytes = .error e := by
  rw [validate_eq]
  rcases Document.load u.filename u.bytes with e' | d
  · simp
  · simp only [reduceCtorEq, iff_false]
    split
    · simp
    · split <;> simp

theorem exists_validate_eq_load_iff (engine : Engine) (u : Upload) :
    (∃ e, validate engine u = .error (.load e)) ↔ ¬ Document.IsReadable u.bytes := by
  simp only [validate_eq_load_iff, u.load_eq_error_iff]

theorem validate_of_yields {engine : Engine} {u : Upload} {d : Document} {ds : List Diagnostic}
    (h : u.Yields engine d ds) :
    validate engine u = match Assessment.ofDiagnostics ds with
      | .error e => .error (.classification e)
      | .ok a => .ok (d, a) := by
  rw [validate_eq, (Document.load_eq_ok_iff _ _ d).mpr h.loaded]
  rcases hds : Assessment.ofDiagnostics ds with e | a
  · simp only [h.evaluated, hds]
  · simp only [h.evaluated, hds]

theorem exists_yields_of_validate {engine : Engine} {u : Upload}
    (hload : ∀ e, validate engine u ≠ .error (.load e)) (hcrash : validate engine u ≠ .error .crash) :
    ∃ d ds, u.Yields engine d ds := by
  rcases hd : Document.load u.filename u.bytes with e | d
  · exact absurd ((validate_eq_load_iff engine u e).mpr hd) (hload e)
  · rcases hds : engine.evaluate d with _ | ds
    · exact absurd (by simp only [validate_eq, hd, hds]) hcrash
    · exact ⟨d, ds, (Document.load_eq_ok_iff _ _ d).mp hd, hds⟩

theorem exists_validate_eq_classification_iff (engine : Engine) (u : Upload) :
    (∃ e, validate engine u = .error (.classification e)) ↔ u.IsUnclassifiable engine := by
  constructor
  · rintro ⟨e, he⟩
    obtain ⟨d, ds, hyields⟩ : ∃ d ds, u.Yields engine d ds :=
      exists_yields_of_validate (by simp [he]) (by simp [he])
    refine ⟨d, ds, hyields, (Assessment.ofDiagnostics_eq_error_iff ds).mp ⟨e, ?_⟩⟩
    rw [validate_of_yields hyields] at he
    split at he <;> simp_all
  · rintro ⟨d, ds, hyields, hbad⟩
    obtain ⟨e, he⟩ := (Assessment.ofDiagnostics_eq_error_iff ds).mpr hbad
    exact ⟨e, by rw [validate_of_yields hyields, he]⟩

theorem validate_eq_ok_iff (engine : Engine) (u : Upload) (d : Document) (a : Assessment) :
    validate engine u = .ok (d, a) ↔ u.IsAssessed engine d a := by
  constructor
  · intro h
    obtain ⟨d', ds, hyields⟩ : ∃ d ds, u.Yields engine d ds :=
      exists_yields_of_validate (by simp [h]) (by simp [h])
    rw [validate_of_yields hyields] at h
    split at h
    · exact nomatch h
    · rename_i a' ha
      obtain ⟨rfl, rfl⟩ := Prod.mk.inj (Except.ok.inj h)
      exact ⟨ds, hyields, (Assessment.ofDiagnostics_eq_ok_iff ds a').mp ha⟩
  · rintro ⟨ds, hyields, hall⟩
    rw [validate_of_yields hyields, (Assessment.ofDiagnostics_eq_ok_iff ds a).mpr hall]

theorem validate_ne_crash {engine : Engine} (h : ∀ d, engine.evaluate d ≠ none) (u : Upload) :
    validate engine u ≠ .error .crash := by
  rw [validate_eq]
  split
  · simp
  · split
    · rename_i hnone
      exact absurd hnone (h _)
    · split <;> simp

/-- An upload is unreadable, unclassifiable or assessed unless the engine breaks down. -/
theorem judged {engine : Engine} (h : ∀ d, engine.evaluate d ≠ none) (u : Upload) :
    ¬ Document.IsReadable u.bytes ∨ u.IsUnclassifiable engine ∨ ∃ d a, u.IsAssessed engine d a := by
  rcases hv : validate engine u with failure | ⟨d, a⟩
  · have hstate := state_of_validate_error hv
    cases failure with
    | load e => exact Or.inl ((exists_validate_eq_load_iff engine u).mp ⟨e, hv⟩)
    | classification e => exact Or.inr (Or.inl ((exists_validate_eq_classification_iff engine u).mp ⟨e, hv⟩))
    | crash => exact absurd hv (validate_ne_crash h u)
    | publish e => exact nomatch hstate
  · exact Or.inr (Or.inr ⟨d, a, (validate_eq_ok_iff engine u d a).mp hv⟩)

end Gate

end CatalogGate
