-- The text that shows all metrics to those who collect them.
import CatalogGate.Decimal.Quick
import CatalogGate.Metrics.Basic
import CatalogGate.Text.Columns

namespace CatalogGate.Metrics

/-- The media type of the text. -/
def mediaType : String := "text/plain; version=0.0.4; charset=utf-8"

/-- Written out while the point stands from five places before to twenty-one places after the first digit. -/
def amount : Decimal.Layout := ⟨-5, 21, true, false⟩

/-- The text of a number, which may be beyond all others on either side. -/
def floatText (f : Float) : String :=
  if f.isInf then (if f < 0.0 then "-inf" else "inf") else amount.write (Decimal.quick f)

def labelsText (labels : Labels) : String :=
  "\x7b" ++ ",".intercalate (labels.map fun (name, value) => s!"{name}=\"{value}\"") ++ "\x7d"

def sampleLine (name : String) (labels : Labels) (value : String) : String :=
  name ++ labelsText labels ++ " " ++ value

/-- What a metric is about and of which type it is. -/
def headLines (name help type : String) : List String := [s!"# HELP {name} {help}.", s!"# TYPE {name} {type}"]

def counterLines (name help : String) (samples : List (Labels × Nat)) : List String :=
  headLines name help "counter"
    ++ samples.map fun (labels, n) => sampleLine (name ++ "_total") labels (toString n)

/-- The sum, the count, and for every bound how many durations are not above it. -/
def durationLines (name : String) (labels : Labels) (d : Durations) : List String :=
  let bucket (bound : String) (n : Nat) := sampleLine (name ++ "_bucket") (("le", bound) :: labels) (toString n)
  [sampleLine (name ++ "_sum") labels (floatText d.sum),
    sampleLine (name ++ "_count") labels (toString d.count)]
    ++ bounds.map (fun bound => bucket (floatText bound) (d.upTo bound)) ++ [bucket "+Inf" d.count]

def histogramLines (name help : String) (samples : List (Labels × Durations)) : List String :=
  headLines name help "histogram" ++ samples.flatMap fun (labels, d) => durationLines name labels d

def lines (m : Metrics) : List String :=
  counterLines "oasgate_validations" "Total number of documents run through the validation pipeline"
      m.validations
    ++ histogramLines "oasgate_validation_duration_seconds"
      "Time spent loading, evaluating and classifying one document" m.durations
    ++ counterLines "oasgate_findings" "Total number of findings reported, by severity" m.findings
    ++ counterLines "oasgate_upload_rejections" "Total number of uploads refused before validation"
      m.rejections
    ++ counterLines "oasgate_publications" "Total number of publish attempts for validated documents"
      m.publications
    ++ ["# EOF"]

/-- All lines, each with a line feed at its end. -/
def text (m : Metrics) : String := Text.ofLines m.lines

end CatalogGate.Metrics
