-- The law of the two ways to validate: the report on a file and the answer of the service say the same about
-- the same bytes, under whatever name they come.
import CatalogGate.Command.Validate
import CatalogGate.Proofs.Service.Rulesets

namespace CatalogGate

/-! ## What the name of a document does not change -/

theorem Document.load_congr (name other : String) (bytes : ByteArray) :
    (load name bytes).map Document.text = (load other bytes).map Document.text := by
  unfold load
  split
  · rfl
  · split <;> rfl

theorem Ruleset.diagnostics_congr (r : Ruleset) {d d' : Document} (h : d.text = d'.text) :
    r.diagnostics d = r.diagnostics d' := by
  obtain ⟨name, text⟩ := d
  obtain ⟨name', text'⟩ := d'
  obtain rfl : text = text' := h
  unfold diagnostics
  rcases Yaml.parse (String.ofList text) with e | root <;> rfl

/-- What a ruleset makes of an upload depends on its bytes alone. -/
theorem Gate.validate_congr (r : Ruleset) {u u' : Upload} (h : u.bytes = u'.bytes) :
    (validate r.engine u).map Prod.snd = (validate r.engine u').map Prod.snd := by
  have hload := Document.load_congr u.filename u'.filename u'.bytes
  rw [validate_eq, validate_eq, h]
  rcases hd : Document.load u.filename u'.bytes with e | d <;>
    rcases hd' : Document.load u'.filename u'.bytes with e' | d' <;> rw [hd, hd'] at hload
  · exact congrArg (Except.error ∘ Failure.load) (Except.error.inj hload)
  · exact nomatch hload
  · exact nomatch hload
  · simp only [Ruleset.engine, r.diagnostics_congr (Except.ok.inj hload)]
    rcases Assessment.ofDiagnostics (r.diagnostics d') with e | a <;> rfl

namespace Service

/-- The answer to an upload that is only validated. -/
def validationAnswer : Except Gate.Failure Assessment → Http.Response
  | .error failure => (failureProblem (Action.path .validate) failure).response
  | .ok a => findings (if a.hasErrors then 400 else 200) a

theorem answer_validate (s : Setup) (u : Upload) :
    answer .validate (runGate s .validate u).outcome =
      validationAnswer ((Gate.validate s.engine u).map Prod.snd) := by
  rcases h : Gate.validate s.engine u with failure | ⟨d, a⟩
  · exact answer_of_error h .validate
  · cases ha : a.hasErrors with
    | true => simp [answer_of_rejected h ha, Except.map, validationAnswer, ha]
    | false => simp [answer_validate_of_cleared h ha, Except.map, validationAnswer, ha]

end Service

/-! ## Agreement -/

namespace Command.Validate

/-- The verdict on a file that could be read. -/
def Verdict.ofResult : Except Gate.Failure Assessment → Verdict
  | .ok a => .assessed a
  | .error failure => .failed failure.message

theorem checkFile_of_read {read : Files.Reader} {path : String} {bytes : ByteArray} (engine : Gate.Engine)
    (h : read path = .ok bytes) :
    (checkFile read engine path).1 =
      ⟨path, .ofResult ((Gate.validate engine ⟨nameOf path, none, bytes⟩).map Prod.snd)⟩ := by
  unfold checkFile
  simp only [h]
  rcases Gate.validate engine ⟨nameOf path, none, bytes⟩ with failure | ⟨d, a⟩ <;> rfl

/-- A report on a file says what an answer to an upload says. -/
structure Report.Matches (r : Report) (response : Http.Response) : Prop where
  valid : r.isValid = true ↔ response.status = 200
  rejected : r.isValid = false ∧ r.findings ≠ [] ↔
    ∃ fs : List Finding, response = .json 400 (.array (fs.map Finding.toJson))
  failed : r.isValid = false ∧ (∃ failure, r.failure? = some failure) ↔ response.status = 422
  /-- The answer lists the findings of the report in their order. -/
  listed : r.isValid = true ∨ r.findings ≠ [] →
    response = .json (if r.isValid then 200 else 400) (.array (r.findings.map Finding.toJson))
  /-- The answer tells of the failure of the report. -/
  told : ∀ failure, r.failure? = some failure →
    response = (Http.Problem.unreadableDocument failure (Service.Action.path .validate)).response

theorem matches_assessed (path : String) (a : Assessment) :
    Report.Matches ⟨path, .assessed a⟩ (Service.validationAnswer (.ok a)) := by
  have hanswer : Service.validationAnswer (.ok a) =
      .json (if a.hasErrors then 400 else 200) (.array (a.findings.map Finding.toJson)) := rfl
  have hne : a.hasErrors = true → a.findings ≠ [] := Assessment.findings_ne_nil_of_hasErrors
  rw [hanswer]
  constructor
  · cases ha : a.hasErrors <;> simp [Report.isValid, ha, Http.Response.json]
  · cases ha : a.hasErrors with
    | false => simp [Report.isValid, ha, Http.Response.json]
    | true =>
      simp only [Report.isValid, ha, Report.findings]
      exact ⟨fun _ => ⟨a.findings, rfl⟩, fun _ => ⟨rfl, hne ha⟩⟩
  · cases ha : a.hasErrors <;> simp [Report.failure?, Http.Response.json]
  · cases ha : a.hasErrors <;> simp [Report.isValid, ha, Report.findings]
  · simp [Report.failure?]

theorem matches_failed (path : String) (e : LoadError) :
    Report.Matches ⟨path, .failed e.message⟩ (Service.validationAnswer (.error (.load e))) := by
  have hstatus : (Service.validationAnswer (.error (.load e))).status = 422 := rfl
  constructor
  · simp [Report.isValid, hstatus]
  · constructor
    · rintro ⟨_, hne⟩
      exact absurd rfl hne
    · rintro ⟨fs, hfs⟩
      rw [hfs] at hstatus
      exact absurd hstatus (by simp [Http.Response.json])
  · exact ⟨fun _ => hstatus, fun _ => ⟨rfl, e.message, rfl⟩⟩
  · simp [Report.isValid, Report.findings]
  · rintro failure hfailure
    obtain rfl := Option.some.inj hfailure
    rfl

/-- What a ruleset does not assess cannot be read. -/
theorem eq_load_of_validate {r : Ruleset} {u : Upload} {failure : Gate.Failure}
    (h : Gate.validate r.engine u = .error failure) : ∃ e, failure = .load e := by
  have hstate := Gate.state_of_validate_error h
  cases failure with
  | load e => exact ⟨e, rfl⟩
  | classification e =>
    exact absurd ((Gate.exists_validate_eq_classification_iff r.engine u).mp ⟨e, h⟩)
      (Service.not_isUnclassifiable r u)
  | crash => exact absurd h (Gate.validate_ne_crash (by simp [Ruleset.engine]) u)
  | publish e => simp [Gate.Failure.state] at hstate

theorem matches_validate (path : String) (r : Ruleset) (u : Upload) :
    Report.Matches ⟨path, .ofResult ((Gate.validate r.engine u).map Prod.snd)⟩
      (Service.validationAnswer ((Gate.validate r.engine u).map Prod.snd)) := by
  rcases h : Gate.validate r.engine u with failure | ⟨d, a⟩
  · obtain ⟨e, rfl⟩ := eq_load_of_validate h
    exact matches_failed path e
  · exact matches_assessed path a

/-- The report on a file matches the answer to every upload of its bytes, and all of these answers are one. -/
theorem reports_match_answers {r : Ruleset} {s : Service.Setup} {v : Service.Visit} {u : Upload}
    {read : Files.Reader} {path : String} (m : Metrics) (hengine : s.engine = r.engine)
    (hbrings : v.Brings s .validate u) (hread : read path = .ok u.bytes) :
    (checkFile read r.engine path).1.Matches (v.serve m).response ∧
      ∀ (s' : Service.Setup) (v' : Service.Visit) (u' : Upload) (m' : Metrics), s'.engine = r.engine →
        v'.Brings s' .validate u' → u'.bytes = u.bytes → (v'.serve m').response = (v.serve m).response := by
  have hanswer {s : Service.Setup} {v : Service.Visit} {u : Upload} (m : Metrics) (hengine : s.engine = r.engine)
      (hbrings : v.Brings s .validate u) :
      (v.serve m).response = Service.validationAnswer ((Gate.validate r.engine u).map Prod.snd) := by
    rw [hbrings.response_eq, Service.answer_validate, hengine]
  constructor
  · rw [hanswer m hengine hbrings, checkFile_of_read r.engine hread]
    have hsame : (Gate.validate r.engine ⟨nameOf path, none, u.bytes⟩).map Prod.snd =
        (Gate.validate r.engine u).map Prod.snd := Gate.validate_congr r rfl
    rw [hsame]
    exact matches_validate path r u
  · intro s' v' u' m' hengine' hbrings' hbytes
    rw [hanswer m' hengine' hbrings', hanswer m hengine hbrings, Gate.validate_congr r hbytes]

/-- A file with the bytes of an upload that has another name. -/
theorem reports_match_answers_sample :
    (Service.sampleVisit ⟨Ruleset.engine ⟨none, []⟩, Gate.catalog, ⟨100⟩⟩ .validate).Brings
        ⟨Ruleset.engine ⟨none, []⟩, Gate.catalog, ⟨100⟩⟩ .validate Service.sampleUpload ∧
      (checkFile (fun _ => .ok Service.sampleUpload.bytes) (Ruleset.engine ⟨none, []⟩) "specs/pets.yml").1.Matches
        ((Service.sampleVisit ⟨Ruleset.engine ⟨none, []⟩, Gate.catalog, ⟨100⟩⟩ .validate).serve .empty).response := by
  have hbrings := Service.sampleVisit_brings (Ruleset.engine ⟨none, []⟩) Gate.catalog .validate
  exact ⟨hbrings, (reports_match_answers .empty rfl hbrings rfl).1⟩

end Command.Validate

end CatalogGate
