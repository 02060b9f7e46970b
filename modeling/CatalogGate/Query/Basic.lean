-- Queries that select nodes of a JSON value by keys, unions of keys, indices and wildcards.
import CatalogGate.Json.Path

namespace CatalogGate

/-- What one level of a query allows. -/
inductive Selector where
  | key (name : String)
  /-- Any of several keys. -/
  | union (names : List String)
  | index (position : Nat)
  | wildcard
deriving Repr, DecidableEq

structure Query where
  source : String
  selectors : List Selector
deriving Repr, DecidableEq

/-- A node of a value and the path to it. -/
structure Selected where
  path : Json.Path
  value : Json

namespace Selector

/-- Whether a selector allows a step. -/
def allows : Selector → Json.Step → Bool
  | key name, .key k => name == k
  | union names, .key k => names.contains k
  | index position, .index i => position == i
  | wildcard, _ => true
  | _, _ => false

def elementsFrom (position : Nat) : List Json → List (Json.Step × Json)
  | [] => []
  | v :: rest => (.index position, v) :: elementsFrom (position + 1) rest

/-- The values one step below a value, in its order. -/
def children : Json → List (Json.Step × Json)
  | .object members => members.map fun (k, v) => (.key k, v)
  | .array items => elementsFrom 0 items
  | _ => []

/-- The values one step below that a selector allows. -/
def apply (s : Selector) (value : Json) : List (Json.Step × Json) :=
  match s, value with
  | key name, .object members => ((Json.lookup name members).map fun v => (.key name, v)).toList
  | union names, .object members =>
    (members.filter fun m => names.contains m.1).map fun (k, v) => (.key k, v)
  | index position, .array items => (items[position]?.map fun v => (.index position, v)).toList
  | wildcard, value => children value
  | _, _ => []

end Selector

namespace Query

/-- Goes one level down from every node. -/
def advance (nodes : List Selected) (s : Selector) : List Selected :=
  nodes.flatMap fun node => (s.apply node.value).map fun (step, v) => ⟨node.path ++ [step], v⟩

/-- The selected nodes, in document order. -/
def select (q : Query) (root : Json) : List Selected := q.selectors.foldl advance [⟨[], root⟩]

end Query

end CatalogGate
