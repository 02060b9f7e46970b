-- The law of a run over files: with which exit code it ends, what it says about each file, and how it counts them.
-- The code is decided by the worst that happened to a file, and only the way to write depends on the format.
import CatalogGate.Proofs.Command.Report
import CatalogGate.Proofs.Finding.Streams

namespace CatalogGate.Command.Validate

/-! ## What can happen to a file -/

/-- There are no bytes at the path. -/
def IsUnread (read : Files.Reader) (path : String) : Prop :=
  ∃ fault, read path = .error fault

/-- The bytes at the path are no document. -/
def IsUndecodable (read : Files.Reader) (path : String) : Prop :=
  ∃ bytes, read path = .ok bytes ∧ ¬ Document.IsReadable bytes

/-- The ruleset finds something in the document at the path that keeps it from being published. -/
def IsRejected (read : Files.Reader) (r : Ruleset) (path : String) : Prop :=
  ∃ bytes d, read path = .ok bytes ∧ Document.IsOf d (nameOf path) bytes ∧ ∃ x ∈ r.diagnostics d, x.FailsGate

/-- What there is to say about the file at a path. -/
inductive Verdict.IsOn (read : Files.Reader) (r : Ruleset) (path : String) : Verdict → Prop
  | unread {fault : Files.Fault} (missing : read path = .error fault) :
    IsOn read r path (.failed s!"cannot read file: {fault.message}")
  | undecodable {bytes : ByteArray} {e : LoadError} (found : read path = .ok bytes)
    (broken : Document.load (nameOf path) bytes = .error e) : IsOn read r path (.failed e.message)
  | assessed {bytes : ByteArray} {d : Document} {a : Assessment} (found : read path = .ok bytes)
    (loaded : d.IsOf (nameOf path) bytes)
    (findings : List.Forall₂ Diagnostic.Becomes (r.diagnostics d) a.findings) : IsOn read r path (.assessed a)

theorem file_checkFile (read : Files.Reader) (engine : Gate.Engine) (path : String) :
    (checkFile read engine path).1.file = path := by
  unfold checkFile
  split <;> rfl

theorem isOn_checkFile (read : Files.Reader) (r : Ruleset) (path : String) :
    (checkFile read r.engine path).1.verdict.IsOn read r path := by
  rcases hread : read path with fault | bytes
  · have hreport : (checkFile read r.engine path).1 = ⟨path, .failed s!"cannot read file: {fault.message}"⟩ := by
      simp only [checkFile, hread]
    rw [hreport]
    exact .unread hread
  · rw [checkFile_of_read r.engine hread]
    rcases hresult : Gate.validate r.engine ⟨nameOf path, none, bytes⟩ with failure | ⟨d, a⟩
    · obtain ⟨e, rfl⟩ := eq_load_of_validate hresult
      exact .undecodable hread ((Gate.validate_eq_load_iff _ _ _).mp hresult)
    · obtain ⟨ds, ⟨hloaded, hds⟩, hfindings⟩ := (Gate.validate_eq_ok_iff _ _ _ _).mp hresult
      obtain rfl := Option.some.inj hds
      exact .assessed hread hloaded hfindings

theorem isRead_checkFile (read : Files.Reader) (engine : Gate.Engine) (path : String) :
    (checkFile read engine path).2.1 = true ↔ ¬ IsUnread read path := by
  unfold checkFile IsUnread
  split
  · simp_all
  · simp_all

/-- A file is invalid for one of three reasons. -/
theorem isValid_eq_false_iff {read : Files.Reader} {r : Ruleset} {path : String} {report : Report}
    (h : report.verdict.IsOn read r path) :
    report.isValid = false ↔ IsUnread read path ∨ IsUndecodable read path ∨ IsRejected read r path := by
  obtain ⟨file, verdict⟩ := report
  cases h with
  | unread missing => exact ⟨fun _ => Or.inl ⟨_, missing⟩, fun _ => rfl⟩
  | @undecodable bytes e found broken =>
    have hbroken : ¬ Document.IsReadable bytes := (Upload.load_eq_error_iff ⟨nameOf path, none, bytes⟩).mp ⟨e, broken⟩
    exact ⟨fun _ => Or.inr (Or.inl ⟨bytes, found, hbroken⟩), fun _ => rfl⟩
  | @assessed bytes d a found loaded findings =>
    have herrors := Assessment.hasErrors_iff_of_ofDiagnostics ((Assessment.ofDiagnostics_eq_ok_iff _ a).mpr findings)
    have hvalid : Report.isValid ⟨file, .assessed a⟩ = false ↔ ∃ x ∈ r.diagnostics d, x.FailsGate := by
      rw [← herrors, Report.isValid, Bool.not_eq_false']
    rw [hvalid]
    constructor
    · intro hfails
      exact Or.inr (Or.inr ⟨bytes, d, found, loaded, hfails⟩)
    -- The path has one content, and the content is one document.
    · rintro (⟨fault, hfault⟩ | ⟨bytes', hbytes', hnot⟩ | ⟨bytes', d', hbytes', hd', hfails⟩)
      · cases found.symm.trans hfault
      · obtain rfl := Except.ok.inj (found.symm.trans hbytes')
        exact absurd ((Upload.exists_isOf_iff ⟨nameOf path, none, bytes⟩).mp ⟨d, loaded⟩) hnot
      · obtain rfl := Except.ok.inj (found.symm.trans hbytes')
        have hload := ((Document.load_eq_ok_iff _ _ d).mpr loaded).symm.trans ((Document.load_eq_ok_iff _ _ d').mpr hd')
        obtain rfl := Except.ok.inj hload
        exact hfails

/-! ## Exit codes -/

/-- A file that cannot be read weighs more than one that is invalid. -/
structure ExitsFor (code : Nat) (read : Files.Reader) (r : Ruleset) (paths : List String) : Prop where
  unread : code = 3 ↔ ∃ path ∈ paths, IsUnread read path
  invalid : code = 1 ↔ (∀ path ∈ paths, ¬ IsUnread read path) ∧
    ∃ path ∈ paths, IsUndecodable read path ∨ IsRejected read r path
  valid : code = 0 ↔ ∀ path ∈ paths, ¬ IsUnread read path ∧ ¬ IsUndecodable read path ∧ ¬ IsRejected read r path

theorem exitCode_eq_three_iff (allRead : Bool) (reports : List Report) :
    exitCode allRead reports = 3 ↔ allRead = false := by
  unfold exitCode
  cases allRead <;> cases reports.all Report.isValid <;> simp

theorem exitCode_eq_one_iff (allRead : Bool) (reports : List Report) :
    exitCode allRead reports = 1 ↔ allRead = true ∧ reports.all Report.isValid = false := by
  unfold exitCode
  cases allRead <;> cases reports.all Report.isValid <;> simp

theorem exitCode_ne_two (allRead : Bool) (reports : List Report) : exitCode allRead reports ≠ 2 := by
  unfold exitCode
  cases allRead <;> cases reports.all Report.isValid <;> simp

theorem exitsFor_exitCode {read : Files.Reader} {r : Ruleset} {paths : List String} {allRead : Bool}
    {reports : List Report} (hread : allRead = true ↔ ∀ path ∈ paths, ¬ IsUnread read path)
    (hvalid : reports.all Report.isValid = true ↔
      ∀ path ∈ paths, ¬ IsUnread read path ∧ ¬ IsUndecodable read path ∧ ¬ IsRejected read r path) :
    ExitsFor (exitCode allRead reports) read r paths := by
  constructor
  · rw [exitCode_eq_three_iff, ← Bool.not_eq_true, hread]
    push Not
    rfl
  · rw [exitCode_eq_one_iff, ← Bool.not_eq_true (reports.all _), hread, hvalid]
    refine and_congr_right fun hall => ?_
    push Not
    constructor
    · rintro ⟨path, hpath, h⟩
      refine ⟨path, hpath, ?_⟩
      by_cases hdecoded : IsUndecodable read path
      · exact Or.inl hdecoded
      · exact Or.inr (h (hall path hpath) hdecoded)
    · rintro ⟨path, hpath, h⟩
      exact ⟨path, hpath, fun _ hdecoded => h.resolve_left hdecoded⟩
  · rw [exitCode_eq_zero_iff, hread, hvalid]
    exact ⟨And.right, fun h => ⟨fun path hpath => (h path hpath).1, h⟩⟩

/-! ## Counts -/

/-- A report is valid if it has no errors, and its counts add up to its findings unless it failed. -/
structure Report.IsCounted (r : Report) : Prop where
  valid : r.isValid = true ↔ r.errors = 0
  findings : r.errors + r.warnings = r.findings.length ↔ r.failure? = none

theorem Report.isCounted (r : Report) : r.IsCounted := by
  obtain ⟨file, verdict⟩ := r
  cases verdict with
  | failed failure => exact ⟨⟨nofun, nofun⟩, ⟨nofun, nofun⟩⟩
  | assessed a =>
    have hle : a.findings.countP Finding.failsGate ≤ a.findings.length := List.countP_le_length
    constructor
    · simp [isValid, errors, Assessment.hasErrors, List.countP_eq_zero]
    · simp only [errors, warnings, findings, failure?, iff_true]
      omega

def countInvalid (reports : List Report) : Nat := reports.countP fun report => !report.isValid

theorem countValid_add_countInvalid (reports : List Report) :
    countValid reports + countInvalid reports = reports.length := by
  rw [List.length_eq_countP_add_countP Report.isValid (l := reports), countValid, countInvalid]
  simp

/-! ## The run -/

/-- The reports on files, in their order. -/
def reportsOn (read : Files.Reader) (r : Ruleset) (paths : List String) : List Report :=
  paths.map fun path => (checkFile read r.engine path).1

/-- What a run with a ruleset says, in both formats: a report on each file in order, and how many of them are valid. -/
structure Concludes (read : Files.Reader) (ruleset : String) (r : Ruleset) (paths : List String)
    (reports : List Report) (valid invalid : Nat) : Prop where
  ordered : List.Forall₂ (fun path report => report.file = path ∧ report.verdict.IsOn read r path) paths reports
  counted : ∀ report ∈ reports, report.IsCounted
  exits : ∀ format, ExitsFor (run read ruleset format paths).exit read r paths
  formats : (run read ruleset .json paths).exit = (run read ruleset .text paths).exit
  numValid : valid = reports.countP fun report => report.isValid
  numInvalid : invalid = reports.countP fun report => !report.isValid
  total : valid + invalid = paths.length
  text : (run read ruleset .text paths).output = "" ∧
    (run read ruleset .text paths).errors = Text.ofLines (reports.flatMap reportLines ++
      ["", s!"validated {paths.length} spec(s): {valid} valid, {invalid} invalid"])
  json : (run read ruleset .json paths).errors = "" ∧
    (run read ruleset .json paths).output = (Json.object
      [("results", .array (reports.map Report.toJson)),
        ("summary", .object
          [("total", .ofNat paths.length), ("valid", .ofNat valid), ("invalid", .ofNat invalid)])]).pretty ++ "\n"

theorem run_of_not_loaded {read : Files.Reader} {ruleset : String} {e : RulesetError}
    (h : Ruleset.load read ruleset = .error e) (format : Format) (paths : List String) :
    run read ruleset format paths = ⟨2, "", s!"error: {e.message}\n", []⟩ := by
  simp only [run, h]
  rfl

section Loaded

variable {read : Files.Reader} {ruleset : String} {r : Ruleset} (h : Ruleset.load read ruleset = .ok r)
  (paths : List String)

include h

theorem exit_run (format : Format) : (run read ruleset format paths).exit =
    exitCode (paths.all fun path => (checkFile read r.engine path).2.1) (reportsOn read r paths) := by
  simp only [run, h, List.map_map, List.all_map]
  cases format <;> rfl

theorem output_run_text :
    (run read ruleset .text paths).output = "" ∧
      (run read ruleset .text paths).errors = textOf (reportsOn read r paths) :=
  ⟨by simp only [run, h], errors_run h paths⟩

theorem output_run_json :
    (run read ruleset .json paths).errors = "" ∧
      (run read ruleset .json paths).output = (jsonOf (reportsOn read r paths)).pretty ++ "\n" := by
  simp only [run, h, List.map_map]
  exact ⟨trivial, rfl⟩

theorem exitsFor_run (format : Format) : ExitsFor (run read ruleset format paths).exit read r paths := by
  rw [exit_run h]
  apply exitsFor_exitCode
  · simp only [List.all_eq_true, isRead_checkFile]
  · simp only [reportsOn, List.all_eq_true, List.forall_mem_map]
    refine forall₂_congr fun path _ => ?_
    have hvalid := isValid_eq_false_iff (isOn_checkFile read r path)
    rw [← Bool.not_eq_false, hvalid, not_or, not_or]

theorem concludes_run :
    Concludes read ruleset r paths (reportsOn read r paths) (countValid (reportsOn read r paths))
      (countInvalid (reportsOn read r paths)) := by
  have hlength : (reportsOn read r paths).length = paths.length := List.length_map _
  have htotal := countValid_add_countInvalid (reportsOn read r paths)
  have hinvalid : paths.length - countValid (reportsOn read r paths) = countInvalid (reportsOn read r paths) := by
    omega
  refine ⟨?_, fun report _ => report.isCounted, exitsFor_run h paths, ?_, rfl, rfl, htotal.trans hlength, ?_, ?_⟩
  · rw [reportsOn, List.forall₂_map_right_iff, List.forall₂_same]
    exact fun path _ => ⟨file_checkFile read r.engine path, isOn_checkFile read r path⟩
  · rw [exit_run h, exit_run h]
  · rw [← hinvalid, ← hlength]
    exact output_run_text h paths
  · rw [← hinvalid, ← hlength]
    exact output_run_json h paths

end Loaded

/-- A run ends with 2 exactly if the ruleset cannot be loaded, and then says nothing else. With a ruleset it reports on
each file, and ends as the worst that happened to one of them demands, in whatever format. -/
theorem run_concludes (read : Files.Reader) (ruleset : String) (paths : List String) :
    (∀ format, (run read ruleset format paths).exit = 2 ↔ ∃ e, Ruleset.load read ruleset = .error e) ∧
      (∀ e, Ruleset.load read ruleset = .error e →
        ∀ format, run read ruleset format paths = ⟨2, "", s!"error: {e.message}\n", []⟩) ∧
      ∀ r, Ruleset.load read ruleset = .ok r →
        ∃ reports valid invalid, Concludes read ruleset r paths reports valid invalid := by
  refine ⟨fun format => ?_, fun e he format => run_of_not_loaded he format paths, fun r hr => ?_⟩
  · rcases hload : Ruleset.load read ruleset with e | r
    · exact ⟨fun _ => ⟨e, rfl⟩, fun _ => by rw [run_of_not_loaded hload]⟩
    · rw [exit_run hload]
      constructor
      · intro h
        exact absurd h (exitCode_ne_two _ _)
      · rintro ⟨e, he⟩
        cases he
  · exact ⟨_, _, _, concludes_run hr paths⟩

theorem isRejected_forgedFiles : IsRejected forgedFiles listed "a.yaml" := by
  refine ⟨forgedText.toUTF8, ⟨nameOf "a.yaml", forgedText.toList⟩, rfl, isOf_forgedText _, ?_⟩
  rw [diagnostics_forgedText]
  exact ⟨_, List.mem_cons_self, Or.inr rfl⟩

/-- A rejected document alone, the same with a file that is not there, and the latter as the ruleset. -/
theorem run_concludes_forged :
    (run forgedFiles "rules.yaml" .text ["a.yaml"]).exit = 1 ∧
      (run forgedFiles "rules.yaml" .json ["a.yaml", "b.yaml"]).exit = 3 ∧
      (run forgedFiles "rules.yaml" .json []).exit = 0 ∧
      (run forgedFiles "b.yaml" .text ["a.yaml"]).exit = 2 := by
  refine ⟨?_, ?_, ?_, ?_⟩
  · obtain ⟨_, _, _, hrun⟩ := (run_concludes forgedFiles "rules.yaml" ["a.yaml"]).2.2 listed load_forgedFiles
    refine (hrun.exits .text).invalid.mpr ⟨?_, "a.yaml", List.mem_singleton.mpr rfl, Or.inr isRejected_forgedFiles⟩
    rintro path hpath ⟨fault, hfault⟩
    obtain rfl := List.mem_singleton.mp hpath
    exact nomatch hfault
  · obtain ⟨_, _, _, hrun⟩ := (run_concludes forgedFiles "rules.yaml" ["a.yaml", "b.yaml"]).2.2 listed load_forgedFiles
    exact (hrun.exits .json).unread.mpr ⟨"b.yaml", by simp, .missing, rfl⟩
  · obtain ⟨_, _, _, hrun⟩ := (run_concludes forgedFiles "rules.yaml" []).2.2 listed load_forgedFiles
    exact (hrun.exits .json).valid.mpr (by simp)
  · exact ((run_concludes forgedFiles "b.yaml" ["a.yaml"]).1 .text).mpr ⟨_, rfl⟩

end CatalogGate.Command.Validate
