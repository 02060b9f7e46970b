-- An upload on its way through the gate. Its state changes by steps only, and each of them is reported with the
-- state from which it leads.
import CatalogGate.Document.Basic
import CatalogGate.Gate.State
import CatalogGate.Log.Event

namespace CatalogGate.Gate

def gateTarget : String := "oasgate_core::publish"

def startEvent (document : String) : Log.Event :=
  ⟨.debug, gateTarget, some "gate state", [("document", .text document), ("state", .bare State.received.name)]⟩

def stepEvent (document : String) (here next : State) : Log.Event :=
  ⟨.debug, gateTarget, some "gate state",
    [("document", .text document), ("from", .bare here.name), ("to", .bare next.name)]⟩

/-- How far an upload has come, and what there is to tell of that. -/
structure Passage where
  /-- The name of the upload. -/
  document : String
  state : State
  /-- The states that it went through, with the one that it is in. -/
  trail : List State
  events : List Log.Event
  /-- The documents that the publisher was asked to take, one for each time that it was called. -/
  offered : List Document

namespace Passage

def start (document : String) : Passage := ⟨document, .received, [.received], [startEvent document], []⟩

/-- Makes a step. That it is an allowed one is up to the caller. -/
def advance (p : Passage) (next : State) : Passage :=
  { p with state := next, trail := p.trail ++ [next], events := p.events ++ [stepEvent p.document p.state next] }

def report (p : Passage) (events : List Log.Event) : Passage := { p with events := p.events ++ events }

/-- Notes that the publisher is called. -/
def offer (p : Passage) (document : Document) : Passage := { p with offered := p.offered ++ [document] }

@[simp] theorem offered_start (document : String) : (start document).offered = [] := rfl

@[simp] theorem offered_advance (p : Passage) (next : State) : (p.advance next).offered = p.offered := rfl

@[simp] theorem offered_report (p : Passage) (events : List Log.Event) : (p.report events).offered = p.offered := rfl

@[simp] theorem offered_offer (p : Passage) (document : Document) :
    (p.offer document).offered = p.offered ++ [document] := rfl

@[simp] theorem state_advance (p : Passage) (next : State) : (p.advance next).state = next := rfl

@[simp] theorem state_report (p : Passage) (events : List Log.Event) : (p.report events).state = p.state := rfl

@[simp] theorem state_offer (p : Passage) (document : Document) : (p.offer document).state = p.state := rfl

end Passage

end CatalogGate.Gate
