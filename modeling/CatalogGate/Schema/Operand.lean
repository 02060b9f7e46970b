-- What stands behind a keyword: the values that keywords take, and what is wrong with others.
import CatalogGate.Schema.Check
import CatalogGate.Schema.Problem

namespace CatalogGate.Schema.Operand

/-- The problem that a value is of none of the kinds that are taken. -/
def misfit (v : Json) (kinds : List Kind) : Problem := .violation ⟨[], .wrongKind v kinds⟩

/-! ## Single values -/

def text : Json → Except Problem String
  | .string s => .ok s
  | v => .error (misfit v [.string])

def flag : Json → Except Problem Bool
  | .bool b => .ok b
  | v => .error (misfit v [.boolean])

def number : Json → Except Problem Json.Number
  | .number n => .ok n
  | v => .error (misfit v [.number])

/-- A whole number, which may be written with a point. -/
def whole? : Json → Option Nat
  | .number (.int i) => if 0 ≤ i then some i.toNat else none
  | .number (.float f) => if isWholeFloat f then some f.toUInt64.toNat else none
  | _ => none

/-- Why a value is no count. -/
def noCount : Json → Problem
  | .number (.int i) => .violation ⟨[], .lessThanMinimum (.number (.int i)) (.int 0)⟩
  | v => misfit v [.integer]

/-- How many there have to be of what an array contains. -/
def count (v : Json) : Except Problem Nat :=
  match whole? v with
  | some n => .ok n
  | none => .error (noCount v)

/-- How much of something there may be. In the fourth draft the number is written without a point; later
nothing is wrong with a number below zero, which counts as zero. -/
def limit (e : Edition) (v : Json) : Except Problem Nat :=
  match v with
  | .number (.int i) => if e = .draft4 ∧ i < 0 then .error (noCount v) else .ok i.toNat
  | v => if e = .draft4 then .error (noCount v) else count v

/-! ## Several values -/

def items : Json → Except Problem (List Json)
  | .array items => .ok items
  | v => .error (misfit v [.array])

def members : Json → Except Problem (List (String × Json))
  | .object members => .ok members
  | v => .error (misfit v [.object])

def names (v : Json) : Except Problem (List String) := do (← items v).mapM text

/-- A single kind by its name. -/
def kind (name : String) : Except Problem Kind :=
  match Kind.ofName? name with
  | some kind => .ok kind
  | none => .error .unexpectedKind

/-- The kind with a name, one of several. -/
def oneOfKinds (v : Json) : Except Problem Kind := do
  match Kind.ofName? (← text v) with
  | some kind => return kind
  | none => throw (.violation ⟨[], .notListed v (Kind.all.map fun kind => .string kind.name)⟩)

/-- Kinds, in the order of all kinds. -/
def kinds (v : Json) : Except Problem (List Kind) :=
  match v with
  | .string name => return [← kind name]
  | .array [v] => do return [← kind (← text v)]
  | .array items => do
    let listed ← items.mapM oneOfKinds
    return Kind.all.filter listed.contains
  | v => .error (misfit v [.array, .string])

end CatalogGate.Schema.Operand
