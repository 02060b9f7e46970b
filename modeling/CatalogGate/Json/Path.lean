-- Steps into a JSON value, and the value at the end of them.
import CatalogGate.Json.Basic

namespace CatalogGate.Json

/-- One step: to a member of an object or to an element of an array. -/
inductive Step where
  | key (name : String)
  | index (position : Nat)
deriving Repr, DecidableEq

def Step.text : Step → String
  | key name => name
  | index position => toString position

def Step.toJson : Step → Json
  | key name => .string name
  | index position => .ofNat position

abbrev Path := List Step

/-- The steps with points between them. -/
def Path.text (path : Path) : String := ".".intercalate (path.map Step.text)

/-- The value one step further. -/
def step? : Step → Json → Option Json
  | .key name, object members => lookup name members
  | .index position, array items => items[position]?
  | _, _ => none

/-- The value at the end of a path. -/
def at? : Path → Json → Option Json
  | [], value => some value
  | s :: rest, value => (step? s value).bind (at? rest)

theorem at?_append (p q : Path) (value : Json) : at? (p ++ q) value = (at? p value).bind (at? q) := by
  induction p generalizing value with
  | nil => simp [at?]
  | cons s rest ih =>
    simp only [List.cons_append, at?]
    cases step? s value with
    | none => rfl
    | some v => simp [ih]

end CatalogGate.Json
