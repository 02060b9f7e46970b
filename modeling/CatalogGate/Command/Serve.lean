-- Starting and stopping the server, and what is logged on the way.
import CatalogGate.Command.Arguments
import CatalogGate.Command.Basic
import CatalogGate.Log.Filter
import CatalogGate.Log.Line
import CatalogGate.Program
import CatalogGate.Ruleset.Loading

namespace CatalogGate.Command.Serve

/-- Binds to an address or says why that cannot be done. -/
abbrev Binder := Endpoint → Except String Unit

def serverTarget : String := "oasgate::server"

def startupEvent (s : ServeSettings) : Log.Event :=
  ⟨.info, Program.name, none,
    [("event", .text "startup"), ("service", .bare Program.name), ("version", .text Program.version),
      ("ruleset", .bare s.ruleset)]⟩

def failureEvent (message error : String) : Log.Event :=
  ⟨.error, Program.name, some message, [("error", .bare error)]⟩

def addressEvent (name : String) (e : Endpoint) : Log.Event :=
  ⟨.info, serverTarget, none, [("event", .text name), ("addr", .bare e.text)]⟩

/-- What happens until the server listens or has failed: the events, and what is wrong. A ruleset that
cannot be loaded never binds. -/
def start (read : Files.Reader) (bind : Binder) (s : ServeSettings) :
    List Log.Event × Option (Nat × String) :=
  match Ruleset.load read s.ruleset with
  | .error e =>
    ([startupEvent s, failureEvent "rule engine initialization failed" e.message], some (badRuleset, e.message))
  | .ok r =>
    let events := [startupEvent s, r.readyEvent, r.loadedEvent]
    match bind s.listen with
    | .ok () => (events ++ [addressEvent "listening" s.listen], none)
    | .error reason =>
      let error := s!"failed to bind to {s.listen.text}: {reason}"
      (events ++ [failureEvent "server stopped" error], some (1, error))

/-- The filter of log lines and complaints about it. The environment decides, if what it says is right. -/
def filterOf (environment : String → Option String) (s : ServeSettings) : Log.Filter × List String :=
  match (environment "RUST_LOG").bind Log.Filter.read? with
  | some filter => (filter, [])
  | none => Log.Filter.readLeniently s.logLevel

/-- The log lines of events. -/
def linesOf (filter : Log.Filter) (format : Log.Format) (events : List Log.Event) : List String :=
  (events.filter filter.admits).map (Log.Event.line format)

/-- A server that is started and, if it runs then, stopped. -/
def run (read : Files.Reader) (bind : Binder) (environment : String → Option String) (s : ServeSettings) :
    Result :=
  let (filter, complaints) := filterOf environment s
  let (events, failure) := start read bind s
  match failure with
  | some (exit, error) =>
    ⟨exit, Text.ofLines (linesOf filter s.logFormat events), Text.ofLines (complaints ++ [s!"error: {error}"]), events⟩
  | none =>
    let events := events ++ [addressEvent "shutdown" s.listen]
    ⟨0, Text.ofLines (linesOf filter s.logFormat events), Text.ofLines complaints, events⟩

end CatalogGate.Command.Serve
