-- How bad a finding is.
namespace CatalogGate

inductive Severity where
  | error
  | warning
  | information
  | hint
deriving Repr, DecidableEq

namespace Severity

/-- All severities, the worst first. -/
def all : List Severity := [error, warning, information, hint]

def label : Severity → String
  | error => "Error"
  | warning => "Warning"
  | information => "Information"
  | hint => "Hint"

def ofLabel? (label : String) : Option Severity := all.find? (·.label == label)

/-- The label in small letters. -/
def tag (s : Severity) : String := s.label.toLower

/-- A greater rank is worse. -/
def rank : Severity → Nat
  | error => 3
  | warning => 2
  | information => 1
  | hint => 0

/-- The severity of an engine's level. -/
def ofLevel? (level : Int) : Option Severity :=
  if level = 0 then some error
  else if level = 1 then some warning
  else if level = 2 then some information
  else if level = 3 then some hint
  else none

def worse (a b : Severity) : Severity := if a.rank < b.rank then b else a

/-- The worst of several severities. -/
def worst? : List Severity → Option Severity
  | [] => none
  | s :: rest => some (rest.foldl worse s)

theorem ofLevel?_isSome_iff (level : Int) : (ofLevel? level).isSome ↔ 0 ≤ level ∧ level ≤ 3 := by
  unfold ofLevel?
  repeat' split
  all_goals simp
  all_goals omega

end Severity

end CatalogGate
