-- The laws of counting. Whatever requests a service is sent, its counters show how often it gave which
-- answer, so that the order of the requests does not matter.
import CatalogGate.Proofs.Service.Visits

namespace CatalogGate.Service

open Metrics (Family Labels only total total_cons)

/-! ## Exchanges -/

/-- A visit together with the metrics that it found. -/
structure Exchange where
  visit : Visit
  before : Metrics

/-- The visits one after the other, each with the metrics that the ones before left. -/
def exchanges (m : Metrics) : List Visit → List Exchange
  | [] => []
  | v :: rest => ⟨v, m⟩ :: exchanges (v.serve m).metrics rest

theorem map_visit_exchanges (visits : List Visit) (m : Metrics) :
    (exchanges m visits).map Exchange.visit = visits := by
  induction visits generalizing m with
  | nil => rfl
  | cons v visits ih => rw [exchanges, List.map_cons, ih]

def Fate.rejection? : Fate → Option Upload.Rejection
  | refused _ rejection => some rejection
  | _ => none

def Fate.assessment? : Fate → Option Assessment
  | ran _ run =>
    match run.outcome with
    | .ok o => some o.assessment
    | .error _ => none
  | _ => none

namespace Exchange

def reply (e : Exchange) : Reply := e.visit.serve e.before

def status (e : Exchange) : Nat := e.reply.response.status

/-- Whether an endpoint gave an answer with a status. -/
def answers (e : Exchange) (action : Action) (status : Nat) : Bool :=
  e.visit.endpoint? == some action && e.status == status

/-- Findings are JSON, while problems have a type of their own. -/
def carriesFindings (e : Exchange) : Bool := e.reply.response.contentType == some "application/json"

def carriesProblem (e : Exchange) : Bool := e.reply.response.contentType == some "application/problem+json"

/-- Whether the answer is the problem of an upload that is refused for a reason. -/
def isRefusal (e : Exchange) (reason : String) : Bool :=
  e.visit.endpoint?.isSome && e.status == 400 && e.carriesProblem
    && e.visit.fate.rejection?.any (·.reason == reason)

/-- Whether the answer of an endpoint is that of an outcome: the findings, or the receipt. -/
def showsOutcome (e : Exchange) : Bool :=
  e.visit.endpoint?.isSome && (e.status == 200 || e.status == 201 || e.status == 400 && e.carriesFindings)

/-- The findings of the outcome that the answer shows. -/
def assessment? (e : Exchange) : Option Assessment :=
  if e.showsOutcome then e.visit.fate.assessment? else none

/-- The ways in which an exchange goes. -/
inductive Goes (e : Exchange) : Prop
  | aside (endpoint : e.visit.endpoint? = none) (fate : e.visit.fate = .aside)
      (plain : Visit.IsPlain e.reply e.before)
  | refused (action : Action) (rejection : Upload.Rejection) (endpoint : e.visit.endpoint? = some action)
      (fate : e.visit.fate = .refused action rejection)
      (response : e.reply.response = (Http.Problem.invalidUpload rejection.message action.path).response)
      (offered : e.reply.offered = [])
  | ran (action : Action) (upload : Upload) (endpoint : e.visit.endpoint? = some action)
      (fate : e.visit.fate = .ran action (runGate e.visit.setup action upload))
      (response : e.reply.response = answer action (runGate e.visit.setup action upload).outcome)
      (offered : e.reply.offered = (runGate e.visit.setup action upload).offered)
      (crashed : (runGate e.visit.setup action upload).outcome = .error .crash → e.reply.metrics = e.before)

theorem goes (e : Exchange) : e.Goes := by
  rcases hendpoint : e.visit.endpoint? with _ | action
  · exact .aside hendpoint (by simp only [Visit.fate, hendpoint]) (Visit.serve_of_no_endpoint hendpoint e.before)
  · have hserve := Visit.serve_of_endpoint hendpoint e.before
    unfold uploadReply at hserve
    rcases hreceive : Upload.receive e.visit.setup.limits e.visit.request.contentType e.visit.request.body with
      rejection | upload
    · simp only [hreceive] at hserve
      exact .refused action rejection hendpoint (by simp only [Visit.fate, hendpoint, hreceive])
        (by rw [reply, hserve]) (by rw [reply, hserve])
    · simp only [hreceive] at hserve
      refine .ran action upload hendpoint (by simp only [Visit.fate, hendpoint, hreceive]) ?_ ?_ ?_
      · rw [reply, hserve]
        unfold answer
        split <;> rfl
      · rw [reply, hserve]
        split <;> rfl
      · intro hcrash
        rw [reply, hserve, hcrash]

theorem amount_rejections (e : Exchange) (reason : String) :
    e.visit.fate.amount .rejections (reasonLabels reason) = if e.isRefusal reason then 1 else 0 := by
  rcases e.goes with ⟨hendpoint, hfate, _⟩ | ⟨action, rejection, hendpoint, hfate, hresponse, _⟩ |
    ⟨action, upload, hendpoint, hfate, hresponse, _, _⟩
  · simp [hfate, Fate.amount, isRefusal, hendpoint]
  · simp [hfate, Fate.amount, isRefusal, hendpoint, hresponse, status, carriesProblem, Fate.rejection?, only,
      reasonLabels, Http.Problem.response, Http.Problem.invalidUpload, eq_comm (a := reason)]
  · have hends := runGate_ends e.visit.setup action upload
    simp [hfate, Fate.amount, hends.amount_rejections, isRefusal, Fate.rejection?]

/-- The label under which the answer is counted as a validation. A refusal is none. -/
def label? (e : Exchange) : Option String :=
  if e.status = 400 ∧ e.carriesFindings = false then none else statusLabel? e.status

theorem label?_eq_some_iff (e : Exchange) (label : String) :
    e.label? = some label ↔
      (label = "passed" ∧ (e.status = 200 ∨ e.status = 201 ∨ e.status = 502)) ∨
        (label = "failed" ∧ e.status = 400 ∧ e.carriesFindings = true) ∨
          (label = "error" ∧ e.status = 422) := by
  unfold label? statusLabel?
  by_cases hpassed : e.status = 200 ∨ e.status = 201 ∨ e.status = 502
  · have h400 : e.status ≠ 400 := by omega
    have h422 : e.status ≠ 422 := by omega
    simp [hpassed, h400, h422, eq_comm (b := label)]
  · by_cases h400 : e.status = 400
    · cases hfindings : e.carriesFindings <;> simp [h400, eq_comm (b := label)]
    · by_cases h422 : e.status = 422 <;> simp [hpassed, h400, h422, eq_comm (b := label)]

theorem amount_validations (e : Exchange) (action : Action) (label : String) :
    e.visit.fate.amount .validations (validationLabels action label) =
      if e.visit.endpoint? = some action ∧ e.label? = some label then 1 else 0 := by
  rcases e.goes with ⟨hendpoint, hfate, _⟩ | ⟨own, rejection, hendpoint, hfate, hresponse, _⟩ |
    ⟨own, upload, hendpoint, hfate, hresponse, _, _⟩
  · simp [hfate, Fate.amount, hendpoint]
  · simp [hfate, Fate.amount, only, label?, status, carriesFindings, hresponse, Http.Problem.response,
      Http.Problem.invalidUpload]
  · have hends := runGate_ends e.visit.setup own upload
    have hlabel : e.label? = statusLabel? (answer own (runGate e.visit.setup own upload).outcome).status := by
      unfold label? status carriesFindings
      rw [hresponse, if_neg]
      rintro ⟨hstatus, hfindings⟩
      simp [hends.findings_of_status hstatus] at hfindings
    simp [hfate, Fate.amount, hends.amount_validations, hendpoint, hlabel]

theorem amount_publications (e : Exchange) (label : String) :
    e.visit.fate.amount .publications (publicationLabels label) =
      if publicationLabel? e.status = some label then 1 else 0 := by
  rcases e.goes with ⟨_, hfate, hplain⟩ | ⟨own, rejection, _, hfate, hresponse, _⟩ |
    ⟨own, upload, _, hfate, hresponse, _, _⟩
  · rcases hplain.status with hstatus | hstatus | hstatus <;>
      simp [hfate, Fate.amount, status, hstatus, publicationLabel?]
  · simp [hfate, Fate.amount, only, status, hresponse, publicationLabel?, Http.Problem.response,
      Http.Problem.invalidUpload]
  · have hends := runGate_ends e.visit.setup own upload
    simp [hfate, Fate.amount, hends.amount_publications, status, hresponse]

theorem amount_findings (e : Exchange) (s : Severity) :
    e.visit.fate.amount .findings (severityLabels s) = (e.assessment?.map (·.count s)).getD 0 := by
  rcases e.goes with ⟨hendpoint, hfate, _⟩ | ⟨own, rejection, _, hfate, hresponse, _⟩ |
    ⟨own, upload, hendpoint, hfate, hresponse, _, _⟩
  · simp [hfate, Fate.amount, assessment?, showsOutcome, hendpoint]
  · simp [hfate, Fate.amount, only, assessment?, Fate.assessment?]
  · have hends := runGate_ends e.visit.setup own upload
    simp only [hfate, Fate.amount, hends.amount_findings, assessment?, showsOutcome, Fate.assessment?, status,
      carriesFindings, hresponse, hends.answer_status]
    generalize hout : (runGate e.visit.setup own upload).outcome = outcome at hends
    cases hends <;> simp [endStatus, hendpoint, answer, outcomeResponse, findings, Http.Response.json]

/-- The publisher is called in an exchange exactly if the answer tells that it was. -/
theorem offered_length (e : Exchange) :
    e.reply.offered.length = (if e.status == 201 then 1 else 0) + if e.status == 502 then 1 else 0 := by
  rcases e.goes with ⟨_, _, hplain⟩ | ⟨own, rejection, _, _, hresponse, hoffered⟩ |
    ⟨own, upload, _, _, hresponse, hoffered, _⟩
  · rw [hplain.offered]
    rcases hplain.status with hstatus | hstatus | hstatus <;> simp [status, hstatus]
  · rw [hoffered]
    simp [status, hresponse, Http.Problem.response, Http.Problem.invalidUpload]
  · have hends := runGate_ends e.visit.setup own upload
    rw [hoffered, runGate_offered_length, wasHandedOver_of_ends hends]
    simp only [status, hresponse, hends.answer_status, Bool.or_eq_true, beq_iff_eq]
    split <;> rename_i hstatus
    · rcases hstatus with hstatus | hstatus <;> simp [hstatus]
    · rw [not_or] at hstatus
      simp [hstatus]

/-- Whoever is answered with an outcome is shown its findings. A receipt shows only that there was one. -/
theorem exists_assessment_of_shown {e : Exchange} (h : e.showsOutcome = true) :
    ∃ a, e.visit.fate.assessment? = some a ∧ (e.status ≠ 201 → e.reply.response = findings e.status a) := by
  rcases e.goes with ⟨hendpoint, _, _⟩ | ⟨own, rejection, _, _, hresponse, _⟩ |
    ⟨own, upload, _, hfate, hresponse, _, _⟩
  · simp [showsOutcome, hendpoint] at h
  · simp [showsOutcome, status, carriesFindings, hresponse, Http.Problem.response,
      Http.Problem.invalidUpload] at h
  · have hends := runGate_ends e.visit.setup own upload
    simp only [showsOutcome, status, hfate, Fate.assessment?, hresponse, hends.answer_status] at h ⊢
    generalize (runGate e.visit.setup own upload).outcome = outcome at hends h
    cases hends with
    | rejected action a => exact ⟨a, rfl, fun _ => by cases own <;> rfl⟩
    | validated a => exact ⟨a, rfl, fun _ => rfl⟩
    | published a receipt => exact ⟨a, rfl, fun hne => absurd rfl hne⟩
    | _ => simp [endStatus] at h

/-- A problem with status 400 is that of a refused upload. -/
theorem exists_rejection_of_problem {e : Exchange} {action : Action} (h : e.answers action 400 = true)
    (hproblem : e.carriesProblem = true) :
    ∃ rejection, e.visit.fate = .refused action rejection ∧
      e.reply.response = (Http.Problem.invalidUpload rejection.message action.path).response := by
  simp only [answers, Bool.and_eq_true, beq_iff_eq, status] at h
  obtain ⟨hendpoint, hstatus⟩ := h
  rcases e.goes with ⟨hnone, _, _⟩ | ⟨own, rejection, hown, hfate, hresponse, _⟩ |
    ⟨own, upload, _, _, hresponse, _, _⟩
  · exact nomatch hnone.symm.trans hendpoint
  · obtain rfl : own = action := Option.some.inj (hown.symm.trans hendpoint)
    exact ⟨rejection, hfate, hresponse⟩
  · have hends := runGate_ends e.visit.setup own upload
    rw [hresponse] at hstatus
    simp [carriesProblem, hresponse, hends.findings_of_status hstatus] at hproblem

theorem metrics_of_crash {e : Exchange} (h : e.status = 500) : e.reply.metrics = e.before := by
  rcases e.goes with ⟨_, _, hplain⟩ | ⟨own, rejection, _, _, hresponse, _⟩ |
    ⟨own, upload, _, _, hresponse, _, hcrashed⟩
  · exact hplain.metrics
  · simp [status, hresponse, Http.Problem.response, Http.Problem.invalidUpload] at h
  · have hends := runGate_ends e.visit.setup own upload
    rw [status, hresponse, hends.answer_status] at h
    refine hcrashed ?_
    generalize (runGate e.visit.setup own upload).outcome = outcome at hends h
    cases hends <;> first | rfl | simp [endStatus] at h

end Exchange

/-! ## The books -/

/-- The counters show which answers were given. They have 64 bits, and start again from zero behind their
greatest value. -/
structure Accounts (m : Metrics) (es : List Exchange) : Prop where
  /-- A problem with status 400 is always that of a refused upload. -/
  refused : ∀ e ∈ es, ∀ action, e.answers action 400 = true → e.carriesProblem = true →
    ∃ rejection, e.visit.fate = .refused action rejection ∧
      e.reply.response = (Http.Problem.invalidUpload rejection.message action.path).response
  rejections : ∀ reason, m.value .rejections (reasonLabels reason) =
    es.countP (·.isRefusal reason) % UInt64.size
  passed : ∀ action, m.value .validations (validationLabels action "passed") =
    es.countP (fun e => e.answers action 200 || e.answers action 201 || e.answers action 502) % UInt64.size
  failed : ∀ action, m.value .validations (validationLabels action "failed") =
    es.countP (fun e => e.answers action 400 && e.carriesFindings) % UInt64.size
  errors : ∀ action, m.value .validations (validationLabels action "error") =
    es.countP (fun e => e.answers action 422) % UInt64.size
  published : m.value .publications (publicationLabels "published") =
    es.countP (fun e => e.status == 201) % UInt64.size
  unpublished : m.value .publications (publicationLabels "failed") =
    es.countP (fun e => e.status == 502) % UInt64.size
  calls : es.countP (fun e => e.status == 201) + es.countP (fun e => e.status == 502) =
    (es.flatMap fun e => e.reply.offered).length
  findings : ∀ s, m.value .findings (severityLabels s) =
    ((es.filterMap Exchange.assessment?).flatMap Assessment.findings).countP (·.severity == s) % UInt64.size
  /-- The findings that are counted are those that are shown. -/
  shown : ∀ e ∈ es, e.showsOutcome = true →
    ∃ a, e.assessment? = some a ∧ (e.status ≠ 201 → e.reply.response = Service.findings e.status a)
  unchanged : ∀ e ∈ es, e.status = 500 ∨ e.visit.endpoint? = none → e.reply.metrics = e.before

/-- A counter shows all together that the exchanges add to it. -/
theorem value_metricsAfter (visits : List Visit) (f : Family) (labels : Labels) :
    (metricsAfter .empty visits).value f labels =
      total ((exchanges .empty visits).map fun e => e.visit.fate.amount) f labels % UInt64.size := by
  have hmap : (exchanges .empty visits).map (fun e => e.visit.fate.amount) =
      visits.map fun v => v.fate.amount := by
    rw [← map_visit_exchanges visits .empty, List.map_map, map_visit_exchanges]
    rfl
  rw [metricsAfter_growsBy visits Metrics.fits_empty f labels, Metrics.value_empty, Nat.zero_add, hmap]

theorem total_eq_countP {f : Family} {labels : Labels} {p : Exchange → Bool}
    (h : ∀ e : Exchange, e.visit.fate.amount f labels = if p e then 1 else 0) (es : List Exchange) :
    total (es.map fun e => e.visit.fate.amount) f labels = es.countP p := by
  induction es with
  | nil => rfl
  | cons e es ih =>
    rw [List.map_cons, total_cons, ih, h, List.countP_cons]
    omega

theorem value_metricsAfter_eq_countP (visits : List Visit) {f : Family} {labels : Labels}
    {p : Exchange → Bool} (h : ∀ e : Exchange, e.visit.fate.amount f labels = if p e then 1 else 0) :
    (metricsAfter .empty visits).value f labels =
      (exchanges .empty visits).countP p % UInt64.size := by
  rw [value_metricsAfter, total_eq_countP h]

theorem total_findings (es : List Exchange) (s : Severity) :
    total (es.map fun e => e.visit.fate.amount) .findings (severityLabels s) =
      ((es.filterMap Exchange.assessment?).flatMap Assessment.findings).countP (·.severity == s) := by
  induction es with
  | nil => rfl
  | cons e es ih =>
    rw [List.map_cons, total_cons, ih, e.amount_findings, List.filterMap_cons]
    cases e.assessment? with
    | none => simp
    | some a => simp [Assessment.count]

theorem offered_length_flatMap (es : List Exchange) :
    (es.flatMap fun e => e.reply.offered).length =
      es.countP (fun e => e.status == 201) + es.countP fun e => e.status == 502 := by
  induction es with
  | nil => rfl
  | cons e es ih =>
    rw [List.countP_cons, List.countP_cons, List.flatMap_cons, List.length_append, ih, e.offered_length]
    omega

/-- What has been counted after any visits, and that the same visits in another order count the same. -/
theorem counters_account (visits : List Visit) :
    Accounts (metricsAfter .empty visits) (exchanges .empty visits) ∧
      ∀ other : List Visit, visits.Perm other → ∀ f labels,
        (metricsAfter .empty other).value f labels = (metricsAfter .empty visits).value f labels := by
  refine ⟨⟨?_, ?_, ?_, ?_, ?_, ?_, ?_, ?_, ?_, ?_, ?_⟩, ?_⟩
  · intro e _ action hanswer hproblem
    exact Exchange.exists_rejection_of_problem hanswer hproblem
  · intro reason
    exact value_metricsAfter_eq_countP visits fun e => e.amount_rejections reason
  · intro action
    refine value_metricsAfter_eq_countP visits fun e => ?_
    rw [e.amount_validations]
    simp [e.label?_eq_some_iff, Exchange.answers, and_or_left, or_assoc]
  · intro action
    refine value_metricsAfter_eq_countP visits fun e => ?_
    rw [e.amount_validations]
    simp [e.label?_eq_some_iff, Exchange.answers, and_assoc]
  · intro action
    refine value_metricsAfter_eq_countP visits fun e => ?_
    rw [e.amount_validations]
    simp [e.label?_eq_some_iff, Exchange.answers]
  · refine value_metricsAfter_eq_countP visits fun e => ?_
    rw [e.amount_publications]
    simp [publicationLabel?]
  · refine value_metricsAfter_eq_countP visits fun e => ?_
    rw [e.amount_publications]
    by_cases hpublished : e.status = 201 <;> simp [publicationLabel?, hpublished]
  · exact (offered_length_flatMap _).symm
  · intro s
    rw [value_metricsAfter, total_findings]
  · intro e _ hshown
    obtain ⟨a, ha, hresponse⟩ := Exchange.exists_assessment_of_shown hshown
    exact ⟨a, by rw [Exchange.assessment?, if_pos hshown, ha], hresponse⟩
  · rintro e _ (hstatus | hendpoint)
    · exact Exchange.metrics_of_crash hstatus
    · exact (Visit.serve_of_no_endpoint hendpoint e.before).metrics
  · intro other hperm f labels
    have htotal := Metrics.total_perm (hperm.map fun v => v.fate.amount) f labels
    rw [metricsAfter_growsBy other Metrics.fits_empty, metricsAfter_growsBy visits Metrics.fits_empty, htotal]

end CatalogGate.Service
