-- The law of the report in text: which lines it consists of. Each file has one line for its verdict, and each of its
-- findings one line more than there are line feeds in what it tells.
import CatalogGate.Proofs.Command.Verdicts
import CatalogGate.Proofs.Finding.Classification
import CatalogGate.Proofs.Ruleset.Loading
import CatalogGate.Proofs.Text.Lines

namespace CatalogGate

open Text (feeds feeds_append feeds_text feeds_number feeds_padded)

/-! ## What is said about files that cannot be read -/

namespace Files

/-- What the reader says about a file that cannot be read stays on one line. -/
def Reader.TellsInLines (read : Reader) : Prop :=
  ∀ path fault, read path = .error fault → feeds fault.message = 0

theorem Fault.feeds_message {fault : Fault} (h : ∀ text, fault ≠ .other text) : feeds fault.message = 0 := by
  cases fault with
  | other text => exact absurd rfl (h text)
  | _ => decide +kernel

namespace Tree

theorem walk_ne_other (t : Tree) (here names : List String) (text : String) :
    t.walk here names ≠ .error (.other text) := by
  induction names generalizing here with
  | nil => exact nofun
  | cons name rest ih =>
    unfold walk
    dsimp only
    repeat' split
    all_goals first | exact ih _ | simp

theorem read_ne_other (t : Tree) (path text : String) : t.read path ≠ .error (.other text) := by
  unfold read
  split
  · exact nofun
  split
  · exact nofun
  split
  · exact nofun
  rcases hwalk : t.walk [] (names path) with fault | place
  · intro h
    obtain rfl : fault = .other text := Except.error.inj h
    exact t.walk_ne_other _ _ _ hwalk
  · rcases hfile : t.file? place with _ | bytes <;> simp only [bind, Except.bind, hfile] <;> exact nofun

/-- The faults of a tree have messages of their own, which are lines. -/
theorem tellsInLines (t : Tree) : t.read.TellsInLines := by
  intro path fault h
  apply Fault.feeds_message
  rintro text rfl
  exact t.read_ne_other path text h

end Tree

end Files

theorem LoadError.feeds_message (e : LoadError) : feeds e.message = 0 := by
  unfold message
  split
  all_goals
    simp only [feeds_append, feeds_text, feeds_number]
    decide +kernel

theorem Severity.feeds_tag (s : Severity) : feeds s.tag = 0 := by
  rw [feeds, tag_toList]
  cases s <;> decide

namespace Command.Validate

/-! ## The lines that are written -/

/-- The first line on a file. -/
def verdictLine (r : Report) : String :=
  match r.failure? with
  | some failure => s!"✗ {r.file}: {failure}"
  | none => headline r

/-- The last line. -/
def summaryLine (reports : List Report) : String :=
  let valid := countValid reports
  s!"validated {reports.length} spec(s): {valid} valid, {reports.length - valid} invalid"

/-- What is written as one line on a finding. -/
def entry (f : Finding) : String := "  " ++ findingLine f

/-- One line for the verdict on each file, one for each of its findings, and the summary below a blank line. -/
def intendedLines (reports : List Report) : List String :=
  reports.flatMap (fun r => verdictLine r :: r.findings.map entry) ++ ["", summaryLine reports]

/-- The lines in which findings go on behind each line feed in them. -/
def brokenLines (reports : List Report) : List String :=
  reports.flatMap (fun r => verdictLine r :: r.findings.flatMap fun f => Text.pieces (entry f))
    ++ ["", summaryLine reports]

theorem reportLines_eq (r : Report) : reportLines r = verdictLine r :: r.findings.map entry := by
  obtain ⟨file, verdict⟩ := r
  cases verdict <;> rfl

theorem textOf_eq (reports : List Report) : textOf reports = Text.ofLines (intendedLines reports) := by
  have hlines : reportLines = fun r => verdictLine r :: r.findings.map entry := funext reportLines_eq
  rw [textOf, hlines]
  rfl

/-! ## Line feeds -/

/-- The line feeds in what a finding tells. -/
def feedsIn (f : Finding) : Nat := feeds f.code.text + feeds f.message + feeds f.path.text

theorem feeds_entry (f : Finding) : feeds (entry f) = feedsIn f := by
  have hblanks : feeds "  " = 0 := by decide
  have hcolon : feeds ":" = 0 := by decide
  have hempty (h : f.path.isEmpty = true) : feeds f.path.text = 0 := by
    rw [List.isEmpty_iff.mp h]
    rfl
  unfold entry findingLine feedsIn
  split
  all_goals
    simp only [feeds_append, feeds_text, feeds_number, feeds_padded, f.severity.feeds_tag, hblanks, hcolon]
  · rename_i hpath
    rw [hempty hpath]
    omega
  · omega

theorem feeds_headline {r : Report} (h : feeds r.file = 0) : feeds (headline r) = 0 := by
  unfold headline
  repeat' split
  all_goals
    simp only [feeds_append, feeds_text, feeds_number, h]
    decide

theorem feeds_summaryLine (reports : List Report) : feeds (summaryLine reports) = 0 := by
  unfold summaryLine
  simp only [feeds_append, feeds_text, feeds_number]
  decide

/-- Below the files there are a blank line and the summary. -/
theorem feeds_closing (reports : List Report) : ∀ line ∈ ["", summaryLine reports], feeds line = 0 := by
  have hblank : feeds "" = 0 := by decide
  simp [hblank, feeds_summaryLine]

theorem feeds_verdictLine_of_failed {file failure : String} (hfile : feeds file = 0) (hfailure : feeds failure = 0) :
    feeds (verdictLine ⟨file, .failed failure⟩) = 0 := by
  unfold verdictLine Report.failure?
  simp only [feeds_append, feeds_text, hfile, hfailure]
  decide

theorem feeds_verdictLine_checkFile {read : Files.Reader} (hread : read.TellsInLines) (r : Ruleset) {path : String}
    (hpath : feeds path = 0) : feeds (verdictLine (checkFile read r.engine path).1) = 0 := by
  rcases h : read path with fault | bytes
  · have hreport : (checkFile read r.engine path).1 = ⟨path, .failed s!"cannot read file: {fault.message}"⟩ := by
      simp only [checkFile, h]
    rw [hreport]
    apply feeds_verdictLine_of_failed hpath
    simp only [feeds_append, feeds_text, hread path fault h]
    decide
  · rw [checkFile_of_read r.engine h]
    rcases hresult : Gate.validate r.engine ⟨nameOf path, none, bytes⟩ with failure | ⟨d, a⟩
    · obtain ⟨e, rfl⟩ := eq_load_of_validate hresult
      exact feeds_verdictLine_of_failed hpath e.feeds_message
    · exact feeds_headline hpath

/-! ## The law -/

/-- Verdicts and the summary are lines; only findings go on behind line feeds. -/
theorem flatMap_pieces_intendedLines {reports : List Report} (h : ∀ r ∈ reports, feeds (verdictLine r) = 0) :
    (intendedLines reports).flatMap Text.pieces = brokenLines reports := by
  have hblock : ∀ r ∈ reports, (verdictLine r :: r.findings.map entry).flatMap Text.pieces =
      verdictLine r :: r.findings.flatMap fun f => Text.pieces (entry f) := by
    intro r hr
    rw [List.flatMap_cons, Text.pieces_of_feeds (h r hr), List.flatMap_map]
    rfl
  rw [intendedLines, List.flatMap_append, List.flatMap_assoc, List.flatMap_congr hblock,
    (Text.flatMap_pieces_eq_iff _).mpr (feeds_closing reports), brokenLines]

theorem brokenLines_eq_iff {reports : List Report} (h : ∀ r ∈ reports, feeds (verdictLine r) = 0) :
    brokenLines reports = intendedLines reports ↔ ∀ r ∈ reports, ∀ f ∈ r.findings, feedsIn f = 0 := by
  rw [← flatMap_pieces_intendedLines h, Text.flatMap_pieces_eq_iff]
  constructor
  · intro hlines r hr f hf
    rw [← feeds_entry]
    apply hlines
    exact List.mem_append_left _ (List.mem_flatMap.mpr ⟨r, hr, List.mem_cons_of_mem _ (List.mem_map_of_mem hf)⟩)
  · intro hfindings line hline
    rcases List.mem_append.mp hline with hline | hline
    · obtain ⟨r, hr, hline⟩ := List.mem_flatMap.mp hline
      rcases List.mem_cons.mp hline with rfl | hline
      · exact h r hr
      · obtain ⟨f, hf, rfl⟩ := List.mem_map.mp hline
        exact (feeds_entry f).trans (hfindings r hr f hf)
    · exact feeds_closing reports line hline

theorem errors_run {read : Files.Reader} {ruleset : String} {r : Ruleset} (hload : Ruleset.load read ruleset = .ok r)
    (paths : List String) : (run read ruleset .text paths).errors =
      textOf (paths.map fun path => (checkFile read r.engine path).1) := by
  simp only [run, hload, List.map_map]
  rfl

/-- The report on files consists of a line for the verdict on each file, the lines of its findings and the summary below
a blank line. A finding has one line more than there are line feeds in its code, its message and its path: these are
as many lines as are meant exactly if no finding holds a line feed. -/
theorem report_consistsOf_iff {read : Files.Reader} {ruleset : String} {r : Ruleset} {paths : List String}
    (hload : Ruleset.load read ruleset = .ok r) (hread : read.TellsInLines) (hpaths : ∀ path ∈ paths, feeds path = 0) :
    let result := run read ruleset .text paths
    let reports := paths.map fun path => (checkFile read r.engine path).1
    result.output = "" ∧
      (∀ lines, Text.ConsistsOf result.errors lines ↔ lines = brokenLines reports) ∧
      (∀ f, (Text.pieces (entry f)).length = feedsIn f + 1) ∧
      (brokenLines reports = intendedLines reports ↔ ∀ report ∈ reports, ∀ f ∈ report.findings, feedsIn f = 0) := by
  intro result reports
  have houtput : result.output = "" := by simp only [result, run, hload]
  have hverdict : ∀ report ∈ reports, feeds (verdictLine report) = 0 := by
    intro report hreport
    obtain ⟨path, hpath, rfl⟩ := List.mem_map.mp hreport
    exact feeds_verdictLine_checkFile hread r (hpaths path hpath)
  refine ⟨houtput, fun lines => ?_, fun f => ?_, brokenLines_eq_iff hverdict⟩
  · rw [errors_run hload paths, textOf_eq, Text.consistsOf_ofLines_iff, flatMap_pieces_intendedLines hverdict]
  · rw [Text.length_pieces, feeds_entry]

/-! A value with line feeds that read as the verdict on another file. -/

def listedRules : String :=
  "rules:\n r:\n  given: $.a\n  then:\n   function: enumeration\n   functionOptions:\n    values: [ok]\n"

def listedEntry : String × Json :=
  ("r", .object
    [("given", .string "$.a"),
      ("then", .object
        [("function", .string "enumeration"), ("functionOptions", .object [("values", .array [.string "ok"])])])])

def listedRule : Rule where
  name := "r"
  description := none
  message := none
  importance := .warn
  formats := []
  given := [⟨"$.a", [.key "a"]⟩]
  checks := [⟨.node, .enumeration [.string "ok"]⟩]

def listed : Ruleset := ⟨some "rules.yaml", [listedRule]⟩

/-- Whether a text writes the entry. -/
def isListed (c : Yaml.Content) : Bool :=
  c.ending.isNone &&
    match c.readWritten.run 0 with
    | .ok (some [("r", .object [("given", .string "$.a"), ("then", .object [("function", .string "enumeration"),
        ("functionOptions", .object [("values", .array [.string "ok"])])])])], _) => true
    | _ => false

theorem writes_listedRules : (Yaml.Content.ofText listedRules.toList).Writes [listedEntry] := by
  have hread : isListed (Yaml.Content.ofText listedRules.toList) = true := by decide +kernel
  obtain ⟨hend, hread⟩ := (Bool.and_eq_true _ _).mp hread
  split at hread
  · rename_i jumps hok
    exact ⟨Option.isNone_iff_eq_none.mp hend, jumps, hok⟩
  · exact nomatch hread

def forgedText : String := "a: \"x\\n✓ b.yaml is valid\\n\"\n"

def forgedRoot : Json := .object [("a", .string "x\n✓ b.yaml is valid\n")]

/-- Whether a text was read as the object with the forged line. -/
def isForged : Except Yaml.Error Json → Bool
  | .ok (.object [("a", .string "x\n✓ b.yaml is valid\n")]) => true
  | _ => false

theorem parse_forgedText : Yaml.parse (String.ofList forgedText.toList) = .ok forgedRoot := by
  have hread : isForged (Yaml.parse (String.ofList forgedText.toList)) = true := by decide +kernel
  unfold isForged at hread
  split at hread
  · assumption
  · exact nomatch hread

theorem rangeOf_forgedText (name : String) :
    (Outline.ofDocument ⟨name, forgedText.toList⟩).rangeOf [.key "a"] = ⟨.zero, ⟨0, 27⟩⟩ := by
  -- The name of a document does not count for its outline.
  have hunnamed : (Outline.ofDocument ⟨"", forgedText.toList⟩).rangeOf [.key "a"] = ⟨.zero, ⟨0, 27⟩⟩ := by
    decide +kernel
  exact hunnamed

/-- One file is the ruleset, one the document, and there is no other one. -/
def forgedFiles : Files.Reader := fun path =>
  if path = "rules.yaml" then .ok listedRules.toUTF8
  else if path = "a.yaml" then .ok forgedText.toUTF8
  else .error .missing

theorem load_forgedFiles : Ruleset.load forgedFiles "rules.yaml" = .ok listed := by
  have htext : Ruleset.readText forgedFiles "rules.yaml" = .ok listedRules.toList := by
    have hdecode := (Text.decode_eq_ok_iff listedRules.toUTF8 listedRules.toList).mpr String.utf8Encode_toList.symm
    simp only [Ruleset.readText, forgedFiles, if_pos, bind, Except.bind, hdecode]
    rfl
  have hrule : Rule.read "r" listedEntry.2 = .ok listedRule := rfl
  have hread : Ruleset.ofText listedRules.toList = .ok ⟨none, [listedRule]⟩ :=
    Ruleset.ofText_eq_ok_iff.mpr ⟨_, writes_listedRules, rfl, .cons hrule .nil⟩
  rw [Ruleset.load, htext]
  simp only [hread]
  rfl

def unknownFormat : Finding := ⟨.name Finding.unrecognizedFormat, Ruleset.unrecognizedMessage, [], .zero, .warning⟩

def notListed : Finding where
  code := .name "r"
  message := "\"x\n✓ b.yaml is valid\n\" must be equal to one of the allowed values: ok"
  path := [.key "a"]
  range := ⟨.zero, ⟨0, 27⟩⟩
  severity := .warning

/-- What is found in the document, with the ranges of an outline. -/
def forgedDiagnostics (outline : Outline) : List Diagnostic :=
  [⟨unknownFormat.code, unknownFormat.message, [], .zero, 1⟩,
    ⟨notListed.code, notListed.message, [.key "a"], outline.rangeOf [.key "a"], 1⟩]

theorem diagnostics_forgedText (name : String) :
    listed.diagnostics ⟨name, forgedText.toList⟩ =
      forgedDiagnostics (Outline.ofDocument ⟨name, forgedText.toList⟩) := by
  have hfound (outline : Outline) : Ruleset.structureDiagnostics (OpenApi.Version.detect forgedRoot) forgedRoot outline ++
      listed.ruleDiagnostics (OpenApi.Version.detect forgedRoot) forgedRoot outline = forgedDiagnostics outline := rfl
  simp only [Ruleset.diagnostics, parse_forgedText, hfound]

theorem isOf_forgedText (name : String) : Document.IsOf ⟨name, forgedText.toList⟩ name forgedText.toUTF8 where
  fits := by decide
  name := rfl
  text := ⟨forgedText.toList, String.utf8Encode_toList.symm,
    (by decide : forgedText.toList = Document.dropMark forgedText.toList)⟩

theorem validate_forgedText (name : String) :
    (Gate.validate listed.engine ⟨name, none, forgedText.toUTF8⟩).map Prod.snd =
      .ok ⟨[unknownFormat, notListed]⟩ := by
  have hload : Document.load name forgedText.toUTF8 = .ok ⟨name, forgedText.toList⟩ :=
    (Document.load_eq_ok_iff name forgedText.toUTF8 _).mpr (isOf_forgedText name)
  have hassess : Assessment.ofDiagnostics (forgedDiagnostics (Outline.ofDocument ⟨name, forgedText.toList⟩)) =
      .ok ⟨[unknownFormat, notListed]⟩ := by
    rw [forgedDiagnostics, rangeOf_forgedText]
    rfl
  rw [Gate.validate_eq]
  simp only [hload, Ruleset.engine, diagnostics_forgedText, hassess]
  rfl

/-- The reports on the document and on a file that is not there. -/
def forgedReports : List Report :=
  [⟨"a.yaml", .assessed ⟨[unknownFormat, notListed]⟩⟩,
    ⟨"b.yaml", .failed "cannot read file: No such file or directory (os error 2)"⟩]

theorem reports_forgedFiles :
    (["a.yaml", "b.yaml"].map fun path => (checkFile forgedFiles listed.engine path).1) = forgedReports := by
  have hdocument : (checkFile forgedFiles listed.engine "a.yaml").1 =
      ⟨"a.yaml", .assessed ⟨[unknownFormat, notListed]⟩⟩ := by
    have hread : forgedFiles "a.yaml" = .ok forgedText.toUTF8 := rfl
    rw [checkFile_of_read listed.engine hread, validate_forgedText]
    rfl
  have hmissing : (checkFile forgedFiles listed.engine "b.yaml").1 =
      ⟨"b.yaml", .failed "cannot read file: No such file or directory (os error 2)"⟩ := rfl
  rw [List.map_cons, List.map_singleton, hdocument, hmissing, forgedReports]

theorem tellsInLines_forgedFiles : forgedFiles.TellsInLines := by
  intro path fault h
  unfold forgedFiles at h
  split at h
  · exact nomatch h
  · split at h
    · exact nomatch h
    · obtain rfl := Except.error.inj h
      decide

theorem feeds_forgedPaths : ∀ path ∈ ["a.yaml", "b.yaml"], feeds path = 0 := by decide

/-- What is written about the two files. -/
def forgedLines : List String :=
  ["✗ a.yaml has 1 error(s)",
    "  1:1  warning      unrecognized-format  The provided document does not match any of the registered formats "
      ++ "[OpenAPI 2.0 (Swagger), OpenAPI 3.0.x, OpenAPI 3.1.x]",
    "  1:1  warning      r  \"x", "✓ b.yaml is valid", "\" must be equal to one of the allowed values: ok  a",
    "✗ b.yaml: cannot read file: No such file or directory (os error 2)", "",
    "validated 2 spec(s): 0 valid, 2 invalid"]

theorem brokenLines_forgedReports : brokenLines forgedReports = forgedLines := by decide +kernel

theorem feeds_forgedVerdicts : ∀ r ∈ forgedReports, feeds (verdictLine r) = 0 := by decide +kernel

theorem report_consistsOf_iff_forged :
    Ruleset.load forgedFiles "rules.yaml" = .ok listed ∧ forgedFiles.TellsInLines ∧
      (∀ path ∈ ["a.yaml", "b.yaml"], feeds path = 0) ∧
      ∀ lines, Text.ConsistsOf (run forgedFiles "rules.yaml" .text ["a.yaml", "b.yaml"]).errors lines ↔
        lines = forgedLines := by
  refine ⟨load_forgedFiles, tellsInLines_forgedFiles, feeds_forgedPaths, ?_⟩
  have hlines := (report_consistsOf_iff load_forgedFiles tellsInLines_forgedFiles feeds_forgedPaths).2.1
  rwa [reports_forgedFiles, brokenLines_forgedReports] at hlines

/-- The value has a line of its own, which says of a file that is not there that it is valid. -/
theorem report_forges_verdict :
    Ruleset.load forgedFiles "rules.yaml" = .ok listed ∧ forgedFiles.TellsInLines ∧
      (∀ path ∈ ["a.yaml", "b.yaml"], feeds path = 0) ∧
      (checkFile forgedFiles listed.engine "b.yaml").1.isValid = false ∧
      let errors := (run forgedFiles "rules.yaml" .text ["a.yaml", "b.yaml"]).errors
      (∃ lines, Text.ConsistsOf errors lines ∧ "✓ b.yaml is valid" ∈ lines) ∧
        ¬ Text.ConsistsOf errors
          (intendedLines (["a.yaml", "b.yaml"].map fun path => (checkFile forgedFiles listed.engine path).1)) := by
  refine ⟨load_forgedFiles, tellsInLines_forgedFiles, feeds_forgedPaths, rfl, ?_⟩
  rw [errors_run load_forgedFiles, reports_forgedFiles]
  constructor
  · refine ⟨forgedLines, ?_, by simp [forgedLines]⟩
    rw [textOf_eq, Text.consistsOf_ofLines_iff, flatMap_pieces_intendedLines feeds_forgedVerdicts,
      brokenLines_forgedReports]
  · intro h
    have hentry : entry notListed ∈ intendedLines forgedReports := by simp [intendedLines, forgedReports, Report.findings]
    exact absurd (h.apart _ hentry) (by decide +kernel)

end Command.Validate

end CatalogGate
