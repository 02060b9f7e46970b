-- The laws of runs. The states that a run reports are allowed steps from the start to where its outcome
-- leaves the upload, and the publisher is called once in every run that gets as far as that.
import CatalogGate.Gate.Run

namespace CatalogGate.Gate

/-! ## Validation -/

theorem bind_mapError_ok {ε ε' α β : Type} (f : ε → ε') (a : α) (next : α → Except ε' β) :
    ((Except.ok a : Except ε α).mapError f >>= next) = next a := rfl

theorem bind_mapError_error {ε ε' α β : Type} (f : ε → ε') (e : ε) (next : α → Except ε' β) :
    ((Except.error e : Except ε α).mapError f >>= next) = .error (f e) := rfl

/-- A validation fails at the first thing that goes wrong: loading, evaluating or classifying. -/
theorem validate_eq (engine : Engine) (u : Upload) :
    validate engine u = match Document.load u.filename u.bytes with
      | .error e => .error (.load e)
      | .ok document =>
        match engine.evaluate document with
        | none => .error .crash
        | some diagnostics =>
          match Assessment.ofDiagnostics diagnostics with
          | .error e => .error (.classification e)
          | .ok a => .ok (document, a) := by
  unfold validate
  cases Document.load u.filename u.bytes with
  | error e => rw [bind_mapError_error]
  | ok document =>
    simp only [bind_mapError_ok]
    cases engine.evaluate document with
    | none => rfl
    | some diagnostics =>
      simp only
      cases Assessment.ofDiagnostics diagnostics with
      | error e => rw [bind_mapError_error]
      | ok a =>
        rw [bind_mapError_ok]
        rfl

/-! ## The ways through the gate -/

section Ways

variable {engine : Engine} {publisher : Publisher} {u : Upload} {onward : Passage → Document → Assessment → Run}
  {failure : Failure} {document : Document} {a : Assessment}

theorem runWith_of_error (h : validate engine u = .error failure) :
    runWith engine u onward = (opened u (.error failure)).ended (.error failure) := by
  simp only [runWith, h]

theorem runWith_of_rejected (h : validate engine u = .ok (document, a)) (ha : a.hasErrors = true) :
    runWith engine u onward = ((opened u (.ok (document, a))).advance .rejected).ended (.ok (.rejected a)) := by
  simp only [runWith, h, if_pos ha]

theorem runWith_of_cleared (h : validate engine u = .ok (document, a)) (ha : a.hasErrors = false) :
    runWith engine u onward = onward ((opened u (.ok (document, a))).advance .validated) document a := by
  simp only [runWith, h, ha, Bool.false_eq_true, if_false]

@[simp] theorem offered_ended (p : Passage) (outcome : Except Failure Outcome) :
    (p.ended outcome).offered = p.offered := rfl

@[simp] theorem outcome_ended (p : Passage) (outcome : Except Failure Outcome) :
    (p.ended outcome).outcome = outcome := rfl

@[simp] theorem offered_opened (u : Upload) (result : Except Failure (Document × Assessment)) :
    (opened u result).offered = [] := rfl

/-- A validation never fails by publishing, so that its failures leave the upload where it is validated. -/
theorem state_of_validate_error (h : validate engine u = .error failure) :
    failure.state = .validating := by
  cases failure with
  | publish e =>
    rw [validate_eq] at h
    split at h
    · simp at h
    · split at h
      · simp at h
      · split at h <;> simp at h
  | _ => rfl

theorem handOver_offered (publisher : Publisher) (p : Passage) (document : Document) (a : Assessment) :
    (handOver publisher p document a).offered = p.offered ++ [document] := by
  unfold handOver
  split <;> rfl

/-- What the publisher confirms or refuses decides what comes of handing over. -/
theorem handOver_outcome (publisher : Publisher) (p : Passage) (document : Document) (a : Assessment) :
    (handOver publisher p document a).outcome =
      match publisher document with
      | .ok receipt => .ok (.published a receipt)
      | .error e => .error (.publish e) := by
  rcases hanswer : publisher document with e | receipt <;> simp [handOver, hanswer]

/-- A run depends on the publisher only by its answers to the documents that it is offered. -/
theorem publish_congr {other : Publisher}
    (h : ∀ d ∈ (publish engine publisher u).offered, publisher d = other d) :
    publish engine publisher u = publish engine other u := by
  unfold publish at h ⊢
  rcases hv : validate engine u with failure | ⟨document, a⟩
  · rw [runWith_of_error hv, runWith_of_error hv]
  · cases ha : a.hasErrors with
    | true => rw [runWith_of_rejected hv ha, runWith_of_rejected hv ha]
    | false =>
      rw [runWith_of_cleared hv ha] at h
      have hsame : publisher document = other document := h document (by simp [handOver_offered])
      rw [runWith_of_cleared hv ha, runWith_of_cleared hv ha]
      simp only [handOver, hsame]

end Ways

/-! ## What events say about states -/

/-- What a state event says: where a run starts, or a step that it makes. -/
inductive Sign where
  | start (here : State)
  | step (here next : State)
deriving DecidableEq

/-- The state that a field of an event names. -/
def stateField? (e : Log.Event) (field : String) : Option State :=
  match e.fields.lookup field with
  | some (.bare name) => State.ofName? name
  | _ => none

def Sign.ofEvent? (e : Log.Event) : Option Sign :=
  match stateField? e "state", stateField? e "from", stateField? e "to" with
  | some here, none, none => some (.start here)
  | none, some here, some next => some (.step here next)
  | _, _, _ => none

def isStateEvent (e : Log.Event) : Bool := e.message == some "gate state"

/-- What the state events among some events say, in their order. None is left out, even if it says nothing. -/
def signs (events : List Log.Event) : List (Option Sign) :=
  (events.filter isStateEvent).map Sign.ofEvent?

@[simp] theorem signs_nil : signs [] = [] := rfl

@[simp] theorem signs_append (events more : List Log.Event) :
    signs (events ++ more) = signs events ++ signs more := by
  simp [signs]

/-- Events without a message are not about states. -/
@[simp] theorem signs_cons_silent (level : Log.Level) (target : String) (fields : List (String × Log.Value))
    (events : List Log.Event) : signs (⟨level, target, none, fields⟩ :: events) = signs events := by
  simp [signs, isStateEvent]

@[simp] theorem signs_cons_start (document : String) (events : List Log.Event) :
    signs (startEvent document :: events) = some (.start .received) :: signs events := by
  have hsign : Sign.ofEvent? (startEvent document) = some (.start .received) := by
    simp [Sign.ofEvent?, stateField?, startEvent, List.lookup_cons, State.ofName?_name]
  simp [signs, isStateEvent, startEvent, ← hsign]

@[simp] theorem signs_cons_step (document : String) (here next : State) (events : List Log.Event) :
    signs (stepEvent document here next :: events) = some (.step here next) :: signs events := by
  have hsign : Sign.ofEvent? (stepEvent document here next) = some (.step here next) := by
    simp [Sign.ofEvent?, stateField?, stepEvent, List.lookup_cons, State.ofName?_name]
  simp [signs, isStateEvent, stepEvent, ← hsign]

theorem signs_validationEvents (u : Upload) (result : Except Failure (Document × Assessment)) :
    signs (validationEvents u result) = [] := by
  unfold validationEvents
  split <;> simp [signs, isStateEvent]

/-! ## Steps -/

/-- Steps from one state to another. Each is allowed, and starts where the one before ended. -/
inductive Leads : State → List (State × State) → State → Prop
  | here (s : State) : Leads s [] s
  | step {s t last : State} {steps : List (State × State)} (allowed : s.canAdvance t = true)
      (rest : Leads t steps last) : Leads s ((s, t) :: steps) last

theorem Leads.concat {s t next : State} {steps : List (State × State)} (h : Leads s steps t)
    (allowed : t.canAdvance next = true) : Leads s (steps ++ [(t, next)]) next := by
  induction h with
  | here s => exact .step allowed (.here next)
  | step first _ ih => exact .step first (ih allowed)

namespace Passage

/-- The steps that a passage has made: its trail shows them, its events report them, and they lead to its state. -/
structure Made (p : Passage) (steps : List (State × State)) : Prop where
  trail : p.trail = .received :: steps.map Prod.snd
  reported : signs p.events = some (.start .received) :: steps.map fun step => some (.step step.1 step.2)
  leads : Leads .received steps p.state

theorem made_start (document : String) : (start document).Made [] := ⟨rfl, by simp [start], .here _⟩

namespace Made

variable {p : Passage} {steps : List (State × State)}

theorem advance (h : p.Made steps) {next : State} (allowed : p.state.canAdvance next = true) :
    (p.advance next).Made (steps ++ [(p.state, next)]) where
  trail := by simp [Passage.advance, h.trail]
  reported := by simp [Passage.advance, h.reported]
  leads := h.leads.concat allowed

/-- Other events do not change what is said about the states. -/
theorem report (h : p.Made steps) {events : List Log.Event} (hsilent : signs events = []) :
    (p.report events).Made steps where
  trail := h.trail
  reported := by simp [Passage.report, h.reported, hsilent]
  leads := h.leads

theorem offer (h : p.Made steps) (document : Document) : (p.offer document).Made steps := ⟨h.trail, h.reported, h.leads⟩

end Made

end Passage

theorem made_opened (u : Upload) (result : Except Failure (Document × Assessment)) :
    (opened u result).Made [(.received, .validating)] :=
  ((Passage.made_start u.filename).advance rfl).report (signs_validationEvents u result)

/-! ## One call -/

inductive Entry where
  | validateOnly
  | publish
deriving DecidableEq

/-- A call of a gate. What engine and publisher answer may change from call to call, so each call has its
own. -/
structure Call where
  entry : Entry
  engine : Engine
  publisher : Publisher
  upload : Upload

def Call.run (c : Call) : Run :=
  match c.entry with
  | .validateOnly => Gate.validateOnly c.engine c.upload
  | .publish => Gate.publish c.engine c.publisher c.upload

/-- The state in which a run says that it leaves the upload. -/
def Run.state (r : Run) : State :=
  match r.outcome with
  | .ok outcome => outcome.state
  | .error failure => failure.state

/-- Whether the outcome is that of a document that was handed over, taken or not. -/
def Run.wasHandedOver (r : Run) : Bool :=
  match r.outcome with
  | .ok (.published _ _) => true
  | .error (.publish _) => true
  | _ => false

/-- The steps of a call as its events report them, and the state to which they lead. -/
structure Call.Passes (c : Call) (steps : List (State × State)) (last : State) : Prop where
  trail : c.run.trail = .received :: steps.map Prod.snd
  reported : signs c.run.events =
    some (.start .received) :: steps.map fun step => some (.step step.1 step.2)
  leads : Leads .received steps last
  ends : last = c.run.state
  rejects : last = .rejected ↔
    ∃ document a, validate c.engine c.upload = .ok (document, a) ∧ a.hasErrors = true
  offers : c.run.offered.length =
    if c.entry = .publish ∧ .validated ∈ steps.map Prod.snd then 1 else 0

namespace Call

theorem run_eq (c : Call) : ∃ onward, c.run = runWith c.engine c.upload onward := by
  unfold Call.run
  cases c.entry with
  | validateOnly => exact ⟨_, rfl⟩
  | publish => exact ⟨_, rfl⟩

/-- What a call has to do with the end of its passage. -/
theorem passes_of_made {c : Call} {p : Passage} {steps : List (State × State)} {outcome : Except Failure Outcome}
    (hrun : c.run = p.ended outcome) (h : p.Made steps) (hends : p.state = c.run.state)
    (hrejects : p.state = .rejected ↔
      ∃ document a, validate c.engine c.upload = .ok (document, a) ∧ a.hasErrors = true)
    (hoffers : p.offered.length = if c.entry = .publish ∧ .validated ∈ steps.map Prod.snd then 1 else 0) :
    c.Passes steps p.state where
  trail := by rw [hrun]; exact h.trail
  reported := by rw [hrun]; exact h.reported
  leads := h.leads
  ends := hends
  rejects := hrejects
  offers := by rw [hrun]; exact hoffers

theorem exists_passes_of_error {c : Call} {failure : Failure} (h : validate c.engine c.upload = .error failure) :
    ∃ steps last, c.Passes steps last := by
  obtain ⟨onward, hrun⟩ := c.run_eq
  rw [runWith_of_error h] at hrun
  refine ⟨_, _, passes_of_made hrun (made_opened ..) ?_ ?_ ?_⟩
  · rw [hrun]
    exact (state_of_validate_error h).symm
  · simp [h, opened]
  · simp

theorem exists_passes_of_rejected {c : Call} {document : Document} {a : Assessment}
    (h : validate c.engine c.upload = .ok (document, a)) (ha : a.hasErrors = true) :
    ∃ steps last, c.Passes steps last := by
  obtain ⟨onward, hrun⟩ := c.run_eq
  rw [runWith_of_rejected h ha] at hrun
  refine ⟨_, _, passes_of_made hrun ((made_opened ..).advance rfl) ?_ ?_ ?_⟩
  · rw [hrun]
    rfl
  · exact ⟨fun _ => ⟨document, a, h, ha⟩, fun _ => rfl⟩
  · simp

theorem exists_passes_of_cleared {c : Call} {document : Document} {a : Assessment}
    (h : validate c.engine c.upload = .ok (document, a)) (ha : a.hasErrors = false) :
    ∃ steps last, c.Passes steps last := by
  have hcleared : ((opened c.upload (.ok (document, a))).advance .validated).Made
      [(.received, .validating), (.validating, .validated)] := (made_opened ..).advance rfl
  have hrejects {s : State} (hs : s ≠ .rejected) :
      s = .rejected ↔ ∃ document a, validate c.engine c.upload = .ok (document, a) ∧ a.hasErrors = true := by
    simp [hs, h, ha]
  rcases hentry : c.entry with _ | _
  · have hrun : c.run = ((opened c.upload (.ok (document, a))).advance .validated).ended (.ok (.validated a)) := by
      simp only [Call.run, hentry, validateOnly, runWith_of_cleared h ha]
    refine ⟨_, _, passes_of_made hrun hcleared ?_ (hrejects nofun) ?_⟩
    · rw [hrun]
      rfl
    · simp [hentry]
  · have hrun : c.run =
        handOver c.publisher ((opened c.upload (.ok (document, a))).advance .validated) document a := by
      simp only [Call.run, hentry, publish, runWith_of_cleared h ha]
    -- The publisher decides about the last step.
    rcases hanswer : c.publisher document with e | receipt
    · simp only [handOver, hanswer] at hrun
      refine ⟨_, _, passes_of_made hrun (((hcleared.offer document).advance rfl).report (by simp)) ?_ (hrejects nofun) ?_⟩
      · rw [hrun]
        rfl
      · simp [hentry]
    · simp only [handOver, hanswer] at hrun
      refine ⟨_, _, passes_of_made hrun (((hcleared.offer document).advance rfl).report (by simp)) ?_ (hrejects nofun) ?_⟩
      · rw [hrun]
        rfl
      · simp [hentry]

theorem exists_passes (c : Call) : ∃ steps last, c.Passes steps last := by
  rcases h : validate c.engine c.upload with failure | ⟨document, a⟩
  · exact exists_passes_of_error h
  · cases ha : a.hasErrors with
    | true => exact exists_passes_of_rejected h ha
    | false => exact exists_passes_of_cleared h ha

/-! ## Many calls -/

/-- A run calls the publisher exactly if its outcome is that of a document that was handed over. -/
theorem offered_length (c : Call) : c.run.offered.length = if c.run.wasHandedOver then 1 else 0 := by
  rcases h : validate c.engine c.upload with failure | ⟨document, a⟩
  · obtain ⟨onward, hrun⟩ := c.run_eq
    have hstate := state_of_validate_error h
    rw [runWith_of_error h] at hrun
    cases failure <;> simp_all [Run.wasHandedOver, Failure.state]
  · cases ha : a.hasErrors with
    | true =>
      obtain ⟨onward, hrun⟩ := c.run_eq
      rw [runWith_of_rejected h ha] at hrun
      simp [hrun, Run.wasHandedOver]
    | false =>
      unfold Call.run
      cases c.entry with
      | validateOnly => simp [validateOnly, runWith_of_cleared h ha, Run.wasHandedOver]
      | publish =>
        simp only [publish, runWith_of_cleared h ha, Run.wasHandedOver, handOver_offered]
        rcases hanswer : c.publisher document with e | receipt <;> simp [handOver, hanswer]

theorem offered_length_flatMap (calls : List Call) :
    (calls.flatMap fun c => c.run.offered).length = calls.countP fun c => c.run.wasHandedOver := by
  induction calls with
  | nil => rfl
  | cons c calls ih =>
    rw [List.flatMap_cons, List.length_append, ih, List.countP_cons, offered_length]
    omega

/-- Every call reports allowed steps from the start to the state of its outcome, which is the rejection
exactly if the findings demand it. Only calls to publish that pass the validation call the publisher, once
each, and all of them together as often as a document was published or failed to be. -/
theorem calls_pass_gate (calls : List Call) :
    (∀ c ∈ calls, ∃ steps last, c.Passes steps last) ∧
      (calls.flatMap fun c => c.run.offered).length = calls.countP fun c => c.run.wasHandedOver :=
  ⟨fun c _ => c.exists_passes, offered_length_flatMap calls⟩

end Call

end CatalogGate.Gate
