-- The law of the two endpoints for uploads: which answer each of them gives to an upload, that they agree
-- about it until it is published, and that only publishing calls the publisher.
import CatalogGate.Proofs.Gate.Judgement
import CatalogGate.Proofs.Http.Problem
import CatalogGate.Proofs.Service.Visits

namespace CatalogGate.Service

/-! ## Answers -/

/-- The answer to an upload that was handed over. -/
def publicationAnswer : Except Gate.PublishError Gate.Receipt → Http.Response
  | .ok receipt => ⟨201, some "text/plain; charset=utf-8", receipt.message⟩
  | .error e => (Http.Problem.publishFailed e.message (Action.path .publish)).response

section Answers

variable {s : Setup} {u : Upload} {failure : Gate.Failure} {d : Document} {a : Assessment}

theorem answer_of_error (h : Gate.validate s.engine u = .error failure) (action : Action) :
    answer action (runGate s action u).outcome = (failureProblem action.path failure).response := by
  cases action <;>
    simp only [runGate, Gate.validateOnly, Gate.publish, Gate.runWith_of_error h, Gate.outcome_ended, answer]

theorem answer_of_rejected (h : Gate.validate s.engine u = .ok (d, a)) (ha : a.hasErrors = true)
    (action : Action) : answer action (runGate s action u).outcome = findings 400 a := by
  cases action <;>
    simp only [runGate, Gate.validateOnly, Gate.publish, Gate.runWith_of_rejected h ha, Gate.outcome_ended, answer,
      outcomeResponse]

theorem answer_validate_of_cleared (h : Gate.validate s.engine u = .ok (d, a)) (ha : a.hasErrors = false) :
    answer .validate (runGate s .validate u).outcome = findings 200 a := by
  simp only [runGate, Gate.validateOnly, Gate.runWith_of_cleared h ha, Gate.outcome_ended, answer, outcomeResponse,
    Gate.Outcome.assessment]

theorem answer_publish_of_cleared (h : Gate.validate s.engine u = .ok (d, a)) (ha : a.hasErrors = false) :
    answer .publish (runGate s .publish u).outcome = publicationAnswer (s.publisher d) := by
  simp only [runGate, Gate.publish, Gate.runWith_of_cleared h ha, Gate.handOver_outcome]
  rcases s.publisher d with e | receipt <;> rfl

theorem status_publicationAnswer (result : Except Gate.PublishError Gate.Receipt) :
    (publicationAnswer result).status = 201 ∨ (publicationAnswer result).status = 502 := by
  rcases result with e | receipt
  · exact Or.inr rfl
  · exact Or.inl rfl

theorem status_of_cleared (h : Gate.validate s.engine u = .ok (d, a)) (ha : a.hasErrors = false)
    (action : Action) :
    (answer action (runGate s action u).outcome).status ∈ [200, 201, 502] := by
  cases action with
  | validate =>
    rw [answer_validate_of_cleared h ha]
    exact List.mem_cons_self
  | publish =>
    rw [answer_publish_of_cleared h ha]
    rcases status_publicationAnswer (s.publisher d) with hstatus | hstatus <;> simp [hstatus]

end Answers

section Statuses

variable {s : Setup} {u : Upload} (hcrash : Gate.validate s.engine u ≠ .error .crash) (action : Action)

include hcrash

theorem status_failureProblem {failure : Gate.Failure} (h : Gate.validate s.engine u = .error failure) :
    (failureProblem action.path failure).response.status = 422 := by
  have hstate := Gate.state_of_validate_error h
  cases failure with
  | load => rfl
  | classification => rfl
  | crash => exact absurd h hcrash
  | publish => exact nomatch hstate

theorem status_eq_422_iff :
    (answer action (runGate s action u).outcome).status = 422 ↔
      ∃ failure, Gate.validate s.engine u = .error failure := by
  rcases h : Gate.validate s.engine u with failure | ⟨d, a⟩
  · rw [answer_of_error h, status_failureProblem hcrash action h]
    simp
  · cases ha : a.hasErrors with
    | true => simp [answer_of_rejected h ha, findings, Http.Response.json]
    | false =>
      have hstatus := status_of_cleared h ha action
      constructor
      · intro h422
        simp [h422] at hstatus
      · rintro ⟨_, hfailure⟩
        exact nomatch hfailure

theorem status_eq_400_iff :
    (answer action (runGate s action u).outcome).status = 400 ↔
      ∃ d a, Gate.validate s.engine u = .ok (d, a) ∧ a.hasErrors = true := by
  rcases h : Gate.validate s.engine u with failure | ⟨d, a⟩
  · rw [answer_of_error h, status_failureProblem hcrash action h]
    simp
  · cases ha : a.hasErrors with
    | true =>
      rw [answer_of_rejected h ha]
      exact ⟨fun _ => ⟨d, a, rfl, ha⟩, fun _ => rfl⟩
    | false =>
      have hstatus := status_of_cleared h ha action
      constructor
      · intro h400
        simp [h400] at hstatus
      · rintro ⟨_, _, hok, herrors⟩
        obtain ⟨rfl, rfl⟩ := Prod.mk.inj (Except.ok.inj hok)
        rw [ha] at herrors
        exact nomatch herrors

/-- An answer tells of a failure only if it is the failure of the validation. -/
theorem answer_eq_failureProblem {p : Http.Problem} (hp : p.status = 422)
    (h : answer action (runGate s action u).outcome = p.response) :
    ∃ failure, Gate.validate s.engine u = .error failure ∧ failureProblem action.path failure = p := by
  have hstatus : (answer action (runGate s action u).outcome).status = 422 := by rw [h, ← hp]; rfl
  obtain ⟨failure, hfailure⟩ := (status_eq_422_iff hcrash action).mp hstatus
  rw [answer_of_error hfailure] at h
  exact ⟨failure, hfailure, Http.Problem.response_inj h⟩

theorem not_isReadable_of_answer {detail place : String}
    (h : answer action (runGate s action u).outcome = (Http.Problem.unreadableDocument detail place).response) :
    ¬ Document.IsReadable u.bytes := by
  obtain ⟨failure, hfailure, hproblem⟩ := answer_eq_failureProblem hcrash action rfl h
  cases failure with
  | load e => exact (Gate.exists_validate_eq_load_iff s.engine u).mp ⟨e, hfailure⟩
  | _ => simp [failureProblem, Http.Problem.unreadableDocument, Http.Problem.unclassifiableFinding,
      Http.Problem.internalError, Http.Problem.publishFailed] at hproblem

theorem isUnclassifiable_of_answer {detail place : String}
    (h : answer action (runGate s action u).outcome =
      (Http.Problem.unclassifiableFinding detail place).response) : u.IsUnclassifiable s.engine := by
  obtain ⟨failure, hfailure, hproblem⟩ := answer_eq_failureProblem hcrash action rfl h
  cases failure with
  | classification e => exact (Gate.exists_validate_eq_classification_iff s.engine u).mp ⟨e, hfailure⟩
  | _ => simp [failureProblem, Http.Problem.unreadableDocument, Http.Problem.unclassifiableFinding,
      Http.Problem.internalError, Http.Problem.publishFailed] at hproblem

end Statuses

/-! ## Visits that bring an upload -/

/-- The visit brings an upload to an endpoint of a service, and the upload is accepted. -/
structure Visit.Brings (v : Visit) (s : Setup) (action : Action) (u : Upload) : Prop where
  setup : v.setup = s
  endpoint : v.endpoint? = some action
  received : Upload.receive s.limits v.request.contentType v.request.body = .ok u

/-- The same visit to a service with another engine. -/
def Visit.withEngine (v : Visit) (engine : Gate.Engine) : Visit :=
  { v with setup := { v.setup with engine := engine } }

namespace Visit.Brings

variable {v : Visit} {s : Setup} {action : Action} {u : Upload}

theorem serve_eq (h : v.Brings s action u) (m : Metrics) :
    v.serve m =
      match (runGate s action u).outcome with
      | .error .crash =>
        ⟨answer action (runGate s action u).outcome, m, (runGate s action u).events ++ [crashEvent action],
          (runGate s action u).offered⟩
      | outcome =>
        ⟨answer action (runGate s action u).outcome, recordRun m action v.seconds outcome,
          (runGate s action u).events, (runGate s action u).offered⟩ := by
  obtain ⟨rfl, hendpoint, hreceived⟩ := h
  rw [serve_of_endpoint hendpoint]
  unfold uploadReply
  simp only [hreceived]
  rfl

theorem response_eq (h : v.Brings s action u) (m : Metrics) :
    (v.serve m).response = answer action (runGate s action u).outcome := by
  rw [h.serve_eq]
  split <;> rfl

theorem offered_eq (h : v.Brings s action u) (m : Metrics) :
    (v.serve m).offered = (runGate s action u).offered := by
  rw [h.serve_eq]
  split <;> rfl

theorem size_le (h : v.Brings s action u) : u.bytes.size ≤ s.limits.maxUploadBytes :=
  (Upload.receive_ok h.received).2

theorem withEngine (h : v.Brings s action u) (engine : Gate.Engine) :
    (v.withEngine engine).Brings { s with engine := engine } action u where
  setup := by rw [← h.setup]; rfl
  endpoint := h.endpoint
  received := h.received

/-- Where the document cannot be read, another engine would change nothing. -/
theorem serve_withEngine (h : v.Brings s action u) (hread : ¬ Document.IsReadable u.bytes)
    (engine : Gate.Engine) (m : Metrics) : (v.withEngine engine).serve m = v.serve m := by
  obtain ⟨e, he⟩ := (Gate.exists_validate_eq_load_iff s.engine u).mpr hread
  have hother : Gate.validate engine u = .error (.load e) :=
    (Gate.validate_eq_load_iff engine u e).mpr ((Gate.validate_eq_load_iff s.engine u e).mp he)
  have hrun : runGate { s with engine := engine } action u = runGate s action u := by
    cases action <;> simp only [runGate, Gate.validateOnly, Gate.publish, Gate.runWith_of_error he,
      Gate.runWith_of_error hother]
  rw [(h.withEngine engine).serve_eq, h.serve_eq, hrun]
  rfl

end Visit.Brings

/-! ## Agreement -/

/-- Both endpoints tell of a problem, with one detail, exactly if something is so. -/
structure ToldIf (replies : Action → Reply) (problem : String → String → Http.Problem) (p : Prop) : Prop where
  told : p → ∃ detail, ∀ action, (replies action).response = (problem detail action.path).response
  only : ∀ action detail, (replies action).response = (problem detail action.path).response → p

/-- What the replies of the two endpoints to an upload have to do with it and with each other. -/
structure Agreement (s : Setup) (u : Upload) (replies : Action → Reply) : Prop where
  unreadable : ToldIf replies Http.Problem.unreadableDocument (¬ Document.IsReadable u.bytes)
  unclassifiable : ToldIf replies Http.Problem.unclassifiableFinding (u.IsUnclassifiable s.engine)
  /-- Nothing else is left but findings. -/
  assessed : Document.IsReadable u.bytes → ¬ u.IsUnclassifiable s.engine → ∃ d a, u.IsAssessed s.engine d a
  rejected : ∀ d a, u.IsAssessed s.engine d a → (∃ f ∈ a.findings, f.FailsGate) →
    ∀ action, (replies action).response = .json 400 (.array (a.findings.map Finding.toJson))
  onlyRejected : ∀ action, (replies action).response.status = 400 →
    ∃ d a, u.IsAssessed s.engine d a ∧ ∃ f ∈ a.findings, f.FailsGate
  validated : ∀ d a, u.IsAssessed s.engine d a → (∀ f ∈ a.findings, ¬ f.FailsGate) →
    (replies .validate).response = .json 200 (.array (a.findings.map Finding.toJson))
  published : ∀ d a, u.IsAssessed s.engine d a → (∀ f ∈ a.findings, ¬ f.FailsGate) →
    (replies .publish).response = publicationAnswer (s.publisher d) ∧ (replies .publish).offered = [d]
  /-- The publisher is called once for a document that it takes or refuses, and never otherwise. -/
  offered : ∀ action, (replies action).offered.length =
    if (replies action).response.status = 201 ∨ (replies action).response.status = 502 then 1 else 0

section Agreement

variable {s : Setup} {u : Upload} {replies : Action → Reply} (hcrash : Gate.validate s.engine u ≠ .error .crash)
  (hresponse : ∀ action, (replies action).response = answer action (runGate s action u).outcome)

include hcrash hresponse

theorem toldIf_unreadable : ToldIf replies Http.Problem.unreadableDocument (¬ Document.IsReadable u.bytes) where
  told := by
    intro hread
    obtain ⟨e, he⟩ := (Gate.exists_validate_eq_load_iff s.engine u).mpr hread
    exact ⟨e.message, fun action => (hresponse action).trans (answer_of_error he action)⟩
  only := by
    intro action detail h
    rw [hresponse] at h
    exact not_isReadable_of_answer hcrash action h

theorem toldIf_unclassifiable :
    ToldIf replies Http.Problem.unclassifiableFinding (u.IsUnclassifiable s.engine) where
  told := by
    intro hbad
    obtain ⟨e, he⟩ := (Gate.exists_validate_eq_classification_iff s.engine u).mpr hbad
    exact ⟨e.message, fun action => (hresponse action).trans (answer_of_error he action)⟩
  only := by
    intro action detail h
    rw [hresponse] at h
    exact isUnclassifiable_of_answer hcrash action h

end Agreement

/-- For an engine that does not break down, the endpoints agree about every upload that both accept. An upload
that cannot be read is not shown to the engine, and below 4 GiB only what is no text cannot be read. -/
theorem endpoints_agree {s : Setup} {u : Upload} {visits : Action → Visit} (before : Action → Metrics)
    (hruns : ∀ d, s.engine.evaluate d ≠ none) (hbrings : ∀ action, (visits action).Brings s action u) :
    Agreement s u (fun action => (visits action).serve (before action)) ∧
      (¬ Document.IsReadable u.bytes → ∀ engine action,
        ((visits action).withEngine engine).serve (before action) = (visits action).serve (before action)) ∧
      (s.limits.maxUploadBytes < UInt32.size →
        (Document.IsReadable u.bytes ↔ Document.IsEncoded u.bytes)) := by
  have hcrash := Gate.validate_ne_crash hruns u
  have hresponse (action : Action) := (hbrings action).response_eq (before action)
  refine ⟨⟨toldIf_unreadable hcrash hresponse, toldIf_unclassifiable hcrash hresponse, ?_, ?_, ?_, ?_, ?_, ?_⟩,
    ?_, ?_⟩
  · intro hread hclass
    rcases Gate.judged hruns u with h | h | h
    · exact absurd hread h
    · exact absurd h hclass
    · exact h
  · intro d a ha hfails action
    have hvalidate := (Gate.validate_eq_ok_iff s.engine u d a).mpr ha
    exact (hresponse action).trans (answer_of_rejected hvalidate (a.hasErrors_iff.mpr hfails) action)
  · intro action hstatus
    rw [hresponse] at hstatus
    obtain ⟨d, a, hvalidate, herrors⟩ := (status_eq_400_iff hcrash action).mp hstatus
    exact ⟨d, a, (Gate.validate_eq_ok_iff s.engine u d a).mp hvalidate, a.hasErrors_iff.mp herrors⟩
  · intro d a ha hclear
    have hvalidate := (Gate.validate_eq_ok_iff s.engine u d a).mpr ha
    exact (hresponse .validate).trans
      (answer_validate_of_cleared hvalidate (a.hasErrors_eq_false_iff.mpr hclear))
  · intro d a ha hclear
    have hvalidate := (Gate.validate_eq_ok_iff s.engine u d a).mpr ha
    have herrors := a.hasErrors_eq_false_iff.mpr hclear
    refine ⟨(hresponse .publish).trans (answer_publish_of_cleared hvalidate herrors), ?_⟩
    rw [(hbrings .publish).offered_eq]
    simp only [runGate, Gate.publish, Gate.runWith_of_cleared hvalidate herrors, Gate.handOver_offered]
    rfl
  · intro action
    have hends := runGate_ends s action u
    rw [(hbrings action).offered_eq, hresponse, runGate_offered_length, wasHandedOver_of_ends hends,
      hends.answer_status]
    simp
  · intro hread engine action
    exact (hbrings action).serve_withEngine hread engine (before action)
  · intro hlimit
    have hsize := (hbrings .validate).size_le
    exact ⟨Document.IsReadable.encoded, fun hencoded => ⟨by omega, hencoded⟩⟩

/-! One line of YAML, sent in a form of one part. -/

def sampleText : String := "openapi: 3.1.0"

def sampleForm : String :=
  "--x\r\nContent-Disposition: form-data; name=\"file\"; filename=\"api.yaml\"\r\n\r\n" ++ sampleText
    ++ "\r\n--x--\r\n"

def sampleUpload : Upload := ⟨"api.yaml", none, sampleText.toUTF8⟩

def sampleVisit (s : Setup) (action : Action) : Visit :=
  ⟨s, 0, ⟨"POST", action.path, some "multipart/form-data; boundary=x", sampleForm.toUTF8⟩⟩

theorem sampleVisit_brings (engine : Gate.Engine) (publisher : Gate.Publisher) (action : Action) :
    (sampleVisit ⟨engine, publisher, ⟨100⟩⟩ action).Brings ⟨engine, publisher, ⟨100⟩⟩ action sampleUpload where
  setup := rfl
  endpoint := by cases action <;> simp [Visit.endpoint?, sampleVisit, Http.Request.path, Action.path]
  received := by
    change Upload.receive ⟨100⟩ (some "multipart/form-data; boundary=x") sampleForm.toUTF8 = .ok sampleUpload
    have hparts : (Upload.receive ⟨100⟩ (some "multipart/form-data; boundary=x") sampleForm.toUTF8).toOption.map
        (fun u => (u.filename, u.contentType, u.bytes.data)) =
          some (sampleUpload.filename, sampleUpload.contentType, sampleUpload.bytes.data) := by
      decide +kernel
    rcases hreceived : Upload.receive ⟨100⟩ _ sampleForm.toUTF8 with rejection | ⟨filename, contentType, ⟨data⟩⟩ <;>
      rw [hreceived] at hparts
    · simp [Except.toOption] at hparts
    · simp only [Except.toOption, Option.map_some, Option.some.injEq, Prod.mk.injEq] at hparts
      obtain ⟨rfl, rfl, rfl⟩ := hparts
      rfl

theorem sampleUpload_loaded :
    (⟨"api.yaml", sampleText.toList⟩ : Document).IsOf sampleUpload.filename sampleUpload.bytes where
  fits := by decide
  name := rfl
  text := ⟨sampleText.toList, String.utf8Encode_toList.symm, by decide⟩

/-- The engine that warns of every document that its format is not known. -/
def warner : Gate.Engine :=
  ⟨fun _ => some [⟨.name Finding.unrecognizedFormat, "no known version", [], .point .zero, 1⟩], 0⟩

/-- A warning that keeps a document from being published. -/
theorem endpoints_agree_warned :
    (∀ d, warner.evaluate d ≠ none) ∧
      (∀ action, (sampleVisit ⟨warner, Gate.catalog, ⟨100⟩⟩ action).Brings ⟨warner, Gate.catalog, ⟨100⟩⟩ action
        sampleUpload) ∧
      ∀ action, ((sampleVisit ⟨warner, Gate.catalog, ⟨100⟩⟩ action).serve .empty).response =
        .json 400 (.array [Finding.toJson
          ⟨.name Finding.unrecognizedFormat, "no known version", [], .point .zero, .warning⟩]) := by
  have hruns : ∀ d, warner.evaluate d ≠ none := by simp [warner]
  have hbrings := sampleVisit_brings warner Gate.catalog
  refine ⟨hruns, hbrings, ?_⟩
  have hall : sampleUpload.IsAssessed warner ⟨"api.yaml", sampleText.toList⟩
      ⟨[⟨.name Finding.unrecognizedFormat, "no known version", [], .point .zero, .warning⟩]⟩ :=
    ⟨_, ⟨sampleUpload_loaded, rfl⟩, .cons ⟨rfl, rfl, rfl, rfl, by decide, Range.point_wellFormed _⟩ .nil⟩
  exact (endpoints_agree (fun _ => .empty) hruns hbrings).1.rejected _ _ hall (by simp [Finding.FailsGate])

end CatalogGate.Service
