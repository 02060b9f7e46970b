-- The service: which paths there are, and what becomes of the uploads that are sent to them.
import CatalogGate.Gate.Run
import CatalogGate.Http.Message
import CatalogGate.Metrics.Exposition
import CatalogGate.Program
import CatalogGate.Service.Description
import CatalogGate.Service.Page
import CatalogGate.Upload.Reception

namespace CatalogGate.Service

/-- What is done with an upload. -/
inductive Action where
  | validate
  | publish
deriving Repr, DecidableEq

namespace Action

def name : Action → String
  | validate => "validate"
  | publish => "publish"

def path : Action → String
  | validate => "/v1/openapi/validate"
  | publish => "/v1/openapi/publish"

end Action

inductive Route where
  | description
  | page
  | health
  | metrics
  | upload (action : Action)
deriving Repr, DecidableEq

namespace Route

def ofPath? (path : String) : Option Route :=
  match path with
  | "/openapi" => some .description
  | "/docs" => some .page
  | "/health" => some .health
  | "/metrics" => some .metrics
  | "/v1/openapi/validate" => some (.upload .validate)
  | "/v1/openapi/publish" => some (.upload .publish)
  | _ => none

end Route

/-- What does not change from request to request. -/
structure Setup where
  engine : Gate.Engine
  publisher : Gate.Publisher
  limits : Upload.Limits

/-- What a request leads to. -/
structure Reply where
  response : Http.Response
  metrics : Metrics
  events : List Log.Event
  /-- The documents that the publisher was asked to take. -/
  offered : List Document

def Reply.calledPublisher (r : Reply) : Bool := !r.offered.isEmpty

/-! ## Uploads -/

def uploadTarget : String := "oasgate::api::openapi"

/-- How a run is counted. A document that a catalog does not take has passed. -/
def outcomeLabel : Except Gate.Failure Gate.Outcome → String
  | .ok (.rejected _) => "failed"
  | .ok _ => "passed"
  | .error (.publish _) => "passed"
  | .error _ => "error"

def recordFindings (m : Metrics) (a : Assessment) : Metrics :=
  Severity.all.foldl (fun m s => m.recordFindings s.tag (a.count s)) m

/-- Counts a run that took some seconds. -/
def recordRun (m : Metrics) (action : Action) (seconds : Float) (outcome : Except Gate.Failure Gate.Outcome) :
    Metrics :=
  let m := m.recordValidation action.name (outcomeLabel outcome) seconds
  match outcome with
  | .ok (.published a _) => (recordFindings m a).recordPublication "published"
  | .ok o => recordFindings m o.assessment
  | .error (.publish _) => m.recordPublication "failed"
  | .error _ => m

def findings (status : Nat) (a : Assessment) : Http.Response := .json status a.toJson

def outcomeResponse (action : Action) (o : Gate.Outcome) : Http.Response :=
  match action, o with
  | _, .rejected a => findings 400 a
  | .validate, o => findings 200 o.assessment
  | .publish, .published _ receipt => ⟨201, some "text/plain; charset=utf-8", receipt.message⟩
  | .publish, .validated _ => (Http.Problem.internalError action.path).response

def failureProblem (place : String) : Gate.Failure → Http.Problem
  | .load e => .unreadableDocument e.message place
  | .classification e => .unclassifiableFinding e.message place
  | .crash => .internalError place
  | .publish e => .publishFailed e.message place

def rejectionEvent (action : Action) (r : Upload.Rejection) : Log.Event :=
  ⟨.warn, uploadTarget, none,
    [("event", .text "upload_rejected"), ("endpoint", .text action.name), ("reason", .text r.reason),
      ("detail", .bare r.message)]⟩

def crashEvent (action : Action) : Log.Event :=
  ⟨.error, uploadTarget, some Gate.Failure.crash.message, [("endpoint", .text action.name)]⟩

/-- What is done with an upload that was received. -/
def runGate (s : Setup) (action : Action) (u : Upload) : Gate.Run :=
  match action with
  | .validate => Gate.validateOnly s.engine u
  | .publish => Gate.publish s.engine s.publisher u

/-- The reply to an upload. A breakdown of the engine is not counted. -/
def uploadReply (s : Setup) (m : Metrics) (seconds : Float) (action : Action) (r : Http.Request) : Reply :=
  match Upload.receive s.limits r.contentType r.body with
  | .error rejection =>
    ⟨(Http.Problem.invalidUpload rejection.message action.path).response, m.recordRejection rejection.reason,
      [rejectionEvent action rejection], []⟩
  | .ok upload =>
    let run := runGate s action upload
    let response := match run.outcome with
      | .ok o => outcomeResponse action o
      | .error failure => (failureProblem action.path failure).response
    match run.outcome with
    | .error .crash => ⟨response, m, run.events ++ [crashEvent action], run.offered⟩
    | outcome => ⟨response, recordRun m action seconds outcome, run.events, run.offered⟩

/-! ## All requests -/

def health (s : Setup) : Json :=
  .object [("status", .string "healthy"), ("version", .string Program.version), ("rules", .ofNat s.engine.ruleCount)]

/-- What can be read at a route. -/
def pageAt (s : Setup) (m : Metrics) : Route → Http.Response
  | .description => ⟨200, some "application/yaml", description⟩
  | .page => ⟨200, some "text/html; charset=utf-8", page⟩
  | .health => .json 200 (health s)
  | .metrics => ⟨200, some Metrics.mediaType, m.text⟩
  | .upload _ => .empty 405

/-- The reply to a request. Asking for options is allowed everywhere. -/
def reply (s : Setup) (m : Metrics) (seconds : Float) (r : Http.Request) : Reply :=
  let plain (response : Http.Response) : Reply := ⟨response, m, [], []⟩
  if r.method == "OPTIONS" then plain (.empty 200)
  else
    match Route.ofPath? r.path with
    | none => plain (.empty 404)
    | some (.upload action) => if r.method == "POST" then uploadReply s m seconds action r else plain (.empty 405)
    | some route =>
      if r.method == "GET" then plain (pageAt s m route)
      else if r.method == "HEAD" then plain (pageAt s m route).withoutBody
      else plain (.empty 405)

/-! ## Laws -/

/-- Only a request to publish calls the publisher. -/
theorem reply_validate_offers_nothing (s : Setup) (m : Metrics) (seconds : Float) (r : Http.Request)
    (h : r.path ≠ Action.path .publish) : (reply s m seconds r).offered = [] := by
  unfold reply
  simp only
  split
  · rfl
  · split
    · rfl
    · rename_i action hroute
      split
      · cases action with
        | validate =>
          unfold uploadReply runGate
          split
          · rfl
          · have := Gate.validateOnly_offers_nothing s.engine
            simp only
            split <;> simp [this]
        | publish =>
          exfalso
          unfold Route.ofPath? at hroute
          split at hroute <;> simp_all [Action.path]
      · rfl
    · split
      · rfl
      · split <;> rfl

end CatalogGate.Service
