-- Conventions for the case of names.
import CatalogGate.Pattern.Basic

namespace CatalogGate.Rule

inductive Casing where
  | flat
  | camel
  | pascal
  | kebab
  | cobol
  | snake
  | macroCase
deriving Repr, DecidableEq

namespace Casing

def all : List Casing := [flat, camel, pascal, kebab, cobol, snake, macroCase]

def name : Casing → String
  | flat => "flat"
  | camel => "camel"
  | pascal => "pascal"
  | kebab => "kebab"
  | cobol => "cobol"
  | snake => "snake"
  | macroCase => "macro"

def ofName? (name : String) : Option Casing := all.find? (·.name == name)

/-! ## Patterns -/

def lowerOrDigit : Pattern := .one (.union .lower .digits)

def upperOrDigit : Pattern := .one (.union .upper .digits)

/-- A first letter and what may follow it, then any number of further parts. -/
def parts (first rest further : Pattern) : Pattern :=
  .whole (.sequence first (.sequence (.many rest) (.many further)))

/-- A further part of a name in mixed case. -/
def hump : Pattern := .sequence (.one (.union .upper .digits)) (.many lowerOrDigit)

/-- A further part behind a mark. -/
def behind (mark : Char) (rest : Pattern) : Pattern := .sequence (.char mark) (.several rest)

/-- The pattern of the names that follow a convention. -/
def pattern : Casing → Pattern
  | flat => .whole (.sequence (.one .lower) (.many lowerOrDigit))
  | camel => parts (.one .lower) lowerOrDigit hump
  | pascal => parts (.one .upper) lowerOrDigit hump
  | kebab => parts (.one .lower) lowerOrDigit (behind '-' lowerOrDigit)
  | cobol => parts (.one .upper) upperOrDigit (behind '-' upperOrDigit)
  | snake => parts (.one .lower) lowerOrDigit (behind '_' lowerOrDigit)
  | macroCase => parts (.one .upper) upperOrDigit (behind '_' upperOrDigit)

/-- The empty name follows every convention. -/
def admits (c : Casing) (name : String) : Bool := name.isEmpty || c.pattern.isFoundIn name.toList

end Casing

end CatalogGate.Rule
