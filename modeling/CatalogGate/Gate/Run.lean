-- One upload on its way through the gate: it is loaded, evaluated and judged, and it is published only
-- if nothing keeps it from that.
import CatalogGate.Finding.Assessment
import CatalogGate.Gate.Engine
import CatalogGate.Gate.Passage
import CatalogGate.Gate.Publication

namespace CatalogGate

structure Upload where
  filename : String
  contentType : Option String
  bytes : ByteArray

namespace Gate

/-- Why an upload did not come to an end of the gate that findings decide. -/
inductive Failure where
  | load (error : LoadError)
  | classification (error : ClassificationError)
  /-- The engine broke down. -/
  | crash
  | publish (error : PublishError)
deriving Repr, DecidableEq

def Failure.message : Failure → String
  | load error => error.message
  | classification error => error.message
  | crash => "validation task failed"
  | publish error => s!"publish failed: {error.message}"

inductive Outcome where
  | rejected (assessment : Assessment)
  | validated (assessment : Assessment)
  | published (assessment : Assessment) (receipt : Receipt)
deriving Repr, DecidableEq

def Outcome.assessment : Outcome → Assessment
  | rejected a => a
  | validated a => a
  | published a _ => a

def Outcome.state : Outcome → State
  | rejected _ => .rejected
  | validated _ => .validated
  | published _ _ => .published

/-- The state in which an upload is left. Where the engine broke down, it was being validated. -/
def Failure.state : Failure → State
  | load _ => .validating
  | classification _ => .validating
  | crash => .validating
  | publish _ => .publishFailed

def Outcome.receipt? : Outcome → Option Receipt
  | published _ receipt => some receipt
  | _ => none

/-! ## Validation -/

/-- The document of an upload and what its findings are. -/
def validate (engine : Engine) (u : Upload) : Except Failure (Document × Assessment) := do
  let document ← (Document.load u.filename u.bytes).mapError .load
  match engine.evaluate document with
  | none => throw .crash
  | some diagnostics =>
    let assessment ← (Assessment.ofDiagnostics diagnostics).mapError .classification
    return (document, assessment)

def pipelineTarget : String := "oasgate_core::pipeline"

/-- What is reported about a validation. A breakdown is reported by whoever waits for it. -/
def validationEvents (u : Upload) : Except Failure (Document × Assessment) → List Log.Event
  | .ok (document, a) =>
    [⟨.info, pipelineTarget, none,
      [("event", .text "validation_completed"), ("document", .bare document.name), ("findings", .count a.size),
        ("has_errors", .flag a.hasErrors)]⟩]
  | .error (.load e) =>
    [⟨.warn, pipelineTarget, some "document could not be loaded",
      [("document", .bare u.filename), ("error", .bare e.message)]⟩]
  | .error (.classification e) =>
    [⟨.error, pipelineTarget, some "engine emitted an unclassifiable diagnostic",
      [("document", .bare u.filename), ("error", .bare e.message)]⟩]
  | .error _ => []

/-! ## Runs -/

/-- What became of an upload. -/
structure Run where
  /-- The states that it went through. -/
  trail : List State
  outcome : Except Failure Outcome
  events : List Log.Event
  /-- The documents that the publisher was asked to take, one for each time that it was called. -/
  offered : List Document

/-- What a passage that ends leaves. -/
def Passage.ended (p : Passage) (outcome : Except Failure Outcome) : Run := ⟨p.trail, outcome, p.events, p.offered⟩

/-- The passage up to the end of the validation. -/
def opened (u : Upload) (result : Except Failure (Document × Assessment)) : Passage :=
  ((Passage.start u.filename).advance .validating).report (validationEvents u result)

/-- The run of an upload that stays where it is validated, or is rejected there. `onward` takes the others
further from the state in which they are validated. -/
def runWith (engine : Engine) (u : Upload) (onward : Passage → Document → Assessment → Run) : Run :=
  let result := validate engine u
  let p := opened u result
  match result with
  | .error failure => p.ended (.error failure)
  | .ok (document, a) =>
    if a.hasErrors then (p.advance .rejected).ended (.ok (.rejected a))
    else onward (p.advance .validated) document a

/-- Validates and goes no further. -/
def validateOnly (engine : Engine) (u : Upload) : Run :=
  runWith engine u fun p _ a => p.ended (.ok (.validated a))

/-- Hands a validated document over. -/
def handOver (publisher : Publisher) (p : Passage) (document : Document) (a : Assessment) : Run :=
  let p := p.offer document
  match publisher document with
  | .ok receipt =>
    ((p.advance .published).report
      [⟨.info, gateTarget, none,
        [("event", .text "document_published"), ("document", .bare receipt.document),
          ("sha256", .bare receipt.sha256)]⟩]).ended (.ok (.published a receipt))
  | .error e =>
    ((p.advance .publishFailed).report
      [⟨.error, gateTarget, none,
        [("event", .text "publish_failed"), ("document", .bare document.name), ("error", .bare e.message)]⟩]).ended
      (.error (.publish e))

/-- Validates and then publishes if no finding is against it. -/
def publish (engine : Engine) (publisher : Publisher) (u : Upload) : Run :=
  runWith engine u (handOver publisher)

namespace Run

/-- The state in which the run ended. -/
def last (r : Run) : State := r.trail.getLast?.getD .received

/-- Whether the publisher was called. -/
def calledPublisher (r : Run) : Bool := !r.offered.isEmpty

end Run

/-! ## Laws -/

theorem validateOnly_offers_nothing (engine : Engine) (u : Upload) :
    (validateOnly engine u).offered = [] := by
  unfold validateOnly runWith
  simp only
  split
  · rfl
  · split <;> rfl

end Gate

end CatalogGate
