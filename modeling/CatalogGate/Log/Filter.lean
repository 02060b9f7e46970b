-- Which events are logged: of the directives of a filter that are about an event, the most exact one decides.
import CatalogGate.Log.Directive

namespace CatalogGate.Log

/-- Directives that say the same of all events, the most exact one first. -/
structure Filter where
  directives : List Directive

namespace Filter

/-- Puts a directive into its place. It replaces one that is about the same events. -/
def insert (d : Directive) : List Directive → List Directive
  | [] => [d]
  | b :: rest =>
    match d.order b with
    | .gt => d :: b :: rest
    | .eq => d :: rest
    | .lt => b :: insert d rest

/-- Without any directive, there is one for all events. -/
def ofDirectives (otherwise : Threshold) (directives : List Directive) : Filter :=
  if directives.isEmpty then ⟨[.forAll otherwise]⟩
  else ⟨(directives.filter Directive.isStatic).foldl (fun sorted d => insert d sorted) []⟩

/-- The pieces between commas that are not empty. -/
def pieces (text : String) : List (List Char) :=
  (text.toList.splitOn ',').filter fun piece => !piece.isEmpty

/-- The filter that a text says, if no piece of it is wrong. Without a piece nothing is let through. -/
def read? (text : String) : Option Filter :=
  match (pieces text).mapM Directive.read with
  | .ok directives => some (ofDirectives none directives)
  | .error _ => none

/-- The filter of the pieces that are right, and a complaint about each of the others. Without a piece that is
right, errors are let through. -/
def readLeniently (text : String) : Filter × List String :=
  let read := (pieces text).map fun piece => (piece, Directive.read piece)
  let directives := read.filterMap fun (_, d) => d.toOption
  let complaints := read.filterMap fun (piece, d) =>
    match d with
    | .ok _ => none
    | .error fault => some s!"ignoring \x60{String.ofList piece}\x60: {fault.message}"
  (ofDirectives (some .error) directives, complaints)

def admits (f : Filter) (e : Event) : Bool :=
  match f.directives.find? (·.covers e) with
  | some d => d.threshold.admits e.level
  | none => false

end Filter

end CatalogGate.Log
