-- What becomes of the requests to a service, and what each of them adds to its counters.
import CatalogGate.Proofs.Finding.Classification
import CatalogGate.Proofs.Gate.Runs
import CatalogGate.Proofs.Metrics.Counters
import CatalogGate.Service.Router

namespace CatalogGate.Service

open Metrics (Family GrowsBy Labels only total total_cons)

/-! ## Visits -/

/-- A request, and how long its run takes. What engine and publisher answer may change from request to
request, so each has its own setup. -/
structure Visit where
  setup : Setup
  seconds : Float
  request : Http.Request

/-- What becomes of a visit: nothing that is counted, or an upload that is refused or run. -/
inductive Fate where
  | aside
  | refused (action : Action) (rejection : Upload.Rejection)
  | ran (action : Action) (run : Gate.Run)

namespace Visit

def serve (v : Visit) (m : Metrics) : Reply := reply v.setup m v.seconds v.request

/-- The endpoint for uploads that is asked. Only a request that posts asks one. -/
def endpoint? (v : Visit) : Option Action :=
  if v.request.method ≠ "POST" then none
  else if v.request.path = Action.path .validate then some .validate
  else if v.request.path = Action.path .publish then some .publish
  else none

def fate (v : Visit) : Fate :=
  match v.endpoint? with
  | none => .aside
  | some action =>
    match Upload.receive v.setup.limits v.request.contentType v.request.body with
    | .error rejection => .refused action rejection
    | .ok upload => .ran action (runGate v.setup action upload)

theorem ofPath?_eq_upload_iff (path : String) (action : Action) :
    Route.ofPath? path = some (.upload action) ↔ path = action.path := by
  unfold Route.ofPath?
  split <;> cases action <;> simp_all [Action.path]

theorem endpoint?_eq_some_iff (v : Visit) (action : Action) :
    v.endpoint? = some action ↔
      v.request.method = "POST" ∧ Route.ofPath? v.request.path = some (.upload action) := by
  rw [ofPath?_eq_upload_iff]
  unfold endpoint?
  by_cases hmethod : v.request.method = "POST"
  · by_cases hpath : v.request.path = Action.path .validate
    · cases action <;> simp [hmethod, hpath, Action.path]
    · by_cases hother : v.request.path = Action.path .publish <;> cases action <;> simp_all [Action.path]
  · simp [hmethod]

theorem pageAt_status (s : Setup) (m : Metrics) (route : Route) :
    (pageAt s m route).status = 200 ∨ (pageAt s m route).status = 405 := by
  cases route with
  | upload => exact Or.inr rfl
  | _ => exact Or.inl rfl

/-- A reply that is not about an upload: nothing changes, and nobody is called. -/
structure IsPlain (r : Reply) (m : Metrics) : Prop where
  metrics : r.metrics = m
  offered : r.offered = []
  status : r.response.status = 200 ∨ r.response.status = 404 ∨ r.response.status = 405

theorem serve_of_no_endpoint {v : Visit} (h : v.endpoint? = none) (m : Metrics) : IsPlain (v.serve m) m := by
  unfold serve reply
  simp only
  split
  · exact ⟨rfl, rfl, Or.inl rfl⟩
  · split
    · exact ⟨rfl, rfl, Or.inr (Or.inl rfl)⟩
    · rename_i action hroute
      have hpost : v.request.method ≠ "POST" := by
        intro hmethod
        rw [(v.endpoint?_eq_some_iff action).mpr ⟨hmethod, hroute⟩] at h
        exact nomatch h
      rw [if_neg (by simpa using hpost)]
      exact ⟨rfl, rfl, Or.inr (Or.inr rfl)⟩
    · rename_i route _ _
      have hpage : (pageAt v.setup m route).status = 200 ∨ (pageAt v.setup m route).status = 404 ∨
          (pageAt v.setup m route).status = 405 := by
        rcases pageAt_status v.setup m route with h200 | h405
        · exact Or.inl h200
        · exact Or.inr (Or.inr h405)
      split
      · exact ⟨rfl, rfl, hpage⟩
      · split
        · exact ⟨rfl, rfl, hpage⟩
        · exact ⟨rfl, rfl, Or.inr (Or.inr rfl)⟩

theorem serve_of_endpoint {v : Visit} {action : Action} (h : v.endpoint? = some action) (m : Metrics) :
    v.serve m = uploadReply v.setup m v.seconds action v.request := by
  obtain ⟨hmethod, hroute⟩ := (v.endpoint?_eq_some_iff action).mp h
  unfold serve reply
  simp [hmethod, hroute]

end Visit

/-! ## Runs and their answers -/

/-- How a run of an endpoint can end. -/
inductive Ends : Action → Except Gate.Failure Gate.Outcome → Prop
  | rejected (action : Action) (a : Assessment) : Ends action (.ok (.rejected a))
  | validated (a : Assessment) : Ends .validate (.ok (.validated a))
  | published (a : Assessment) (receipt : Gate.Receipt) : Ends .publish (.ok (.published a receipt))
  | unreadable (action : Action) (e : LoadError) : Ends action (.error (.load e))
  | unclassifiable (action : Action) (e : ClassificationError) : Ends action (.error (.classification e))
  | crashed (action : Action) : Ends action (.error .crash)
  | unpublished (e : Gate.PublishError) : Ends .publish (.error (.publish e))

theorem ends_of_failure {s : Setup} {u : Upload} {failure : Gate.Failure} (action : Action)
    (h : Gate.validate s.engine u = .error failure) : Ends action (.error failure) := by
  have hstate := Gate.state_of_validate_error h
  cases failure with
  | load e => exact .unreadable action e
  | classification e => exact .unclassifiable action e
  | crash => exact .crashed action
  | publish e => exact nomatch hstate

theorem runGate_ends (s : Setup) (action : Action) (u : Upload) : Ends action (runGate s action u).outcome := by
  rcases h : Gate.validate s.engine u with failure | ⟨document, a⟩
  · have hends := ends_of_failure action h
    cases action <;> simpa [runGate, Gate.validateOnly, Gate.publish, Gate.runWith_of_error h] using hends
  · cases ha : a.hasErrors with
    | true =>
      have hends := Ends.rejected action a
      cases action <;> simpa [runGate, Gate.validateOnly, Gate.publish, Gate.runWith_of_rejected h ha] using hends
    | false =>
      cases action with
      | validate =>
        simp only [runGate, Gate.validateOnly, Gate.runWith_of_cleared h ha]
        exact .validated a
      | publish =>
        simp only [runGate, Gate.publish, Gate.runWith_of_cleared h ha, Gate.handOver_outcome]
        split
        · exact .published a _
        · exact .unpublished _

/-- The call of the gate that an endpoint makes. -/
def Action.entry : Action → Gate.Entry
  | validate => .validateOnly
  | publish => .publish

theorem runGate_offered_length (s : Setup) (action : Action) (u : Upload) :
    (runGate s action u).offered.length = if (runGate s action u).wasHandedOver then 1 else 0 := by
  have hcall := Gate.Call.offered_length ⟨action.entry, s.engine, s.publisher, u⟩
  cases action <;> exact hcall

/-- The answer to a run that ended in some way. -/
def answer (action : Action) : Except Gate.Failure Gate.Outcome → Http.Response
  | .ok o => outcomeResponse action o
  | .error failure => (failureProblem action.path failure).response

/-! ## What is counted -/

def validationLabels (action : Action) (outcome : String) : Labels :=
  [("endpoint", action.name), ("outcome", outcome)]

def severityLabels (s : Severity) : Labels := [("severity", s.tag)]

def reasonLabels (reason : String) : Labels := [("reason", reason)]

def publicationLabels (outcome : String) : Labels := [("outcome", outcome)]

/-- What the findings of an assessment add to the counters. -/
def findingsAmount (a : Assessment) (severities : List Severity) : Family → Labels → Nat :=
  total (severities.map fun s => only .findings (severityLabels s) (a.count s))

/-- What a run adds to the counters. -/
def runAmount (action : Action) (outcome : Except Gate.Failure Gate.Outcome) (f : Family) (labels : Labels) :
    Nat :=
  let validation := only .validations (validationLabels action (outcomeLabel outcome)) 1 f labels
  match outcome with
  | .ok (.published a _) =>
    validation + findingsAmount a Severity.all f labels
      + only .publications (publicationLabels "published") 1 f labels
  | .ok o => validation + findingsAmount o.assessment Severity.all f labels
  | .error (.publish _) => validation + only .publications (publicationLabels "failed") 1 f labels
  | .error .crash => 0
  | .error _ => validation

/-- What a visit adds to the counters. -/
def Fate.amount : Fate → Family → Labels → Nat
  | aside => fun _ _ => 0
  | refused _ rejection => only .rejections (reasonLabels rejection.reason) 1
  | ran action run => runAmount action run.outcome

theorem findingsAmount_of_ne {f : Family} (h : f ≠ .findings) (a : Assessment) (severities : List Severity)
    (labels : Labels) : findingsAmount a severities f labels = 0 := by
  unfold findingsAmount
  induction severities with
  | nil => rfl
  | cons s severities ih =>
    rw [List.map_cons, total_cons, ih]
    simp [only, h]

theorem findingsAmount_severity (a : Assessment) (s : Severity) :
    findingsAmount a Severity.all .findings (severityLabels s) = a.count s := by
  have hlabels (t : Severity) : severityLabels s = severityLabels t ↔ s = t := by
    constructor
    · intro h
      exact Severity.tag_inj (by simpa [severityLabels] using h)
    · exact congrArg severityLabels
  unfold findingsAmount Severity.all
  simp only [List.map_cons, List.map_nil, total_cons, Metrics.total_nil, only, hlabels, true_and]
  cases s <;> simp

theorem validationLabels_inj {action action' : Action} {label label' : String} :
    validationLabels action label = validationLabels action' label' ↔ action = action' ∧ label = label' := by
  cases action <;> cases action' <;> simp [validationLabels, Action.name]

theorem recordFindings_growsBy (a : Assessment) {m : Metrics} (hfits : m.Fits) :
    GrowsBy m (recordFindings m a) (findingsAmount a Severity.all) :=
  Metrics.growsBy_foldl (fun _ s hm => Metrics.recordFindings_growsBy hm s.tag (a.count s)) Severity.all hfits

theorem recordRun_growsBy {m : Metrics} (hfits : m.Fits) (action : Action) (seconds : Float)
    {outcome : Except Gate.Failure Gate.Outcome} (hcrash : outcome ≠ .error .crash) :
    GrowsBy m (recordRun m action seconds outcome) (runAmount action outcome) := by
  have hvalidation := Metrics.recordValidation_growsBy hfits action.name (outcomeLabel outcome) seconds
  have hfindings (a : Assessment) := recordFindings_growsBy a hvalidation.fits
  have hpublication (m : Metrics) (hm : m.Fits) (label : String) := Metrics.recordPublication_growsBy hm label
  rcases outcome with (e | e | _ | e) | (a | a | ⟨a, receipt⟩)
  · exact hvalidation
  · exact hvalidation
  · exact absurd rfl hcrash
  · exact hvalidation.trans (hpublication _ hvalidation.fits "failed")
  · exact hvalidation.trans (hfindings a)
  · exact hvalidation.trans (hfindings a)
  · have hboth := hvalidation.trans (hfindings a)
    exact hboth.trans (hpublication _ hboth.fits "published")

theorem Visit.serve_growsBy (v : Visit) {m : Metrics} (hfits : m.Fits) :
    GrowsBy m (v.serve m).metrics v.fate.amount := by
  unfold Visit.fate
  rcases hendpoint : v.endpoint? with _ | action
  · rw [(serve_of_no_endpoint hendpoint m).metrics]
    exact GrowsBy.refl hfits
  · rw [serve_of_endpoint hendpoint m]
    unfold uploadReply
    rcases hreceive : Upload.receive v.setup.limits v.request.contentType v.request.body with rejection | upload
    · exact Metrics.recordRejection_growsBy hfits rejection.reason
    · simp only
      split
      · rename_i hcrash
        refine (GrowsBy.refl hfits).congr fun f labels => ?_
        simp [Fate.amount, hcrash, runAmount]
      · rename_i hcrash
        exact recordRun_growsBy hfits action v.seconds hcrash

/-! ## Answers and amounts -/

/-- The label under which an answer with a status is counted as a validation. -/
def statusLabel? (status : Nat) : Option String :=
  if status = 200 ∨ status = 201 ∨ status = 502 then some "passed"
  else if status = 400 then some "failed"
  else if status = 422 then some "error"
  else none

/-- The label under which an answer with a status is counted as a publication. -/
def publicationLabel? (status : Nat) : Option String :=
  if status = 201 then some "published" else if status = 502 then some "failed" else none

/-- The status of the answer to a run, by how it ended. -/
def endStatus : Except Gate.Failure Gate.Outcome → Nat
  | .ok (.rejected _) => 400
  | .ok (.validated _) => 200
  | .ok (.published _ _) => 201
  | .error (.publish _) => 502
  | .error .crash => 500
  | .error _ => 422

section Amounts

variable {action : Action} {outcome : Except Gate.Failure Gate.Outcome} (h : Ends action outcome)

include h

theorem Ends.answer_status : (answer action outcome).status = endStatus outcome := by
  cases action <;> cases h <;> rfl

theorem Ends.findings_of_status (hstatus : (answer action outcome).status = 400) :
    (answer action outcome).contentType = some "application/json" := by
  rw [h.answer_status] at hstatus
  cases h <;> first | rfl | simp [endStatus] at hstatus

theorem Ends.amount_validations (other : Action) (label : String) :
    runAmount action outcome .validations (validationLabels other label) =
      if action = other ∧ statusLabel? (answer action outcome).status = some label then 1 else 0 := by
  have hfindings := findingsAmount_of_ne (f := .validations) (by decide)
  rw [h.answer_status]
  cases h <;> simp [runAmount, only, hfindings, validationLabels_inj, outcomeLabel, endStatus, statusLabel?, eq_comm]

theorem Ends.amount_rejections (labels : Labels) : runAmount action outcome .rejections labels = 0 := by
  have hfindings := findingsAmount_of_ne (f := .rejections) (by decide)
  cases h <;> simp [runAmount, only, hfindings]

theorem Ends.amount_publications (label : String) :
    runAmount action outcome .publications (publicationLabels label) =
      if publicationLabel? (answer action outcome).status = some label then 1 else 0 := by
  have hfindings := findingsAmount_of_ne (f := .publications) (by decide)
  rw [h.answer_status]
  cases h <;>
    simp [runAmount, only, hfindings, endStatus, publicationLabel?, publicationLabels, eq_comm (a := label)]

theorem Ends.amount_findings (s : Severity) :
    runAmount action outcome .findings (severityLabels s) =
      match outcome with
      | .ok o => o.assessment.count s
      | .error _ => 0 := by
  cases h <;> simp [runAmount, only, findingsAmount_severity, Gate.Outcome.assessment]

end Amounts

theorem wasHandedOver_of_ends {action : Action} {run : Gate.Run} (h : Ends action run.outcome) :
    run.wasHandedOver = (endStatus run.outcome == 201 || endStatus run.outcome == 502) := by
  obtain ⟨_, outcome, _, _⟩ := run
  cases h <;> rfl

/-! ## Many visits -/

/-- The metrics after visits. -/
def metricsAfter (m : Metrics) (visits : List Visit) : Metrics :=
  visits.foldl (fun m v => (v.serve m).metrics) m

/-- Counters grow by what the visits add, one by one. -/
theorem metricsAfter_growsBy (visits : List Visit) {m : Metrics} (hfits : m.Fits) :
    GrowsBy m (metricsAfter m visits) (total (visits.map fun v => v.fate.amount)) :=
  Metrics.growsBy_foldl (fun _ v hm => v.serve_growsBy hm) visits hfits

end CatalogGate.Service
